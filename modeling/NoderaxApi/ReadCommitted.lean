/-
# Transactions under READ COMMITTED

Each query of a transaction is a step of its own.  A read sees what is committed when it
runs, and the writes of its own transaction.  A write locks the rows that it touches until
its transaction ends; while another transaction holds one of them it waits.  The writes of
a transaction become visible to the others when it commits.

Only a commit changes what is committed, by the writes of its transaction.  What each of
them keeps the commit keeps (`view_keeps`), and what one of them establishes and the others
keep holds after it (`view_establishes`).
-/
import Mathlib.Data.List.Basic

namespace ReadCommitted

/-! ## Databases and transactions -/

/-- What the write statements `W` do to the data, and the rows that they lock. -/
structure Statements (D W R : Type*) where
  apply : W → D → D
  rows : W → List R

/-- What is committed, the rows that open transactions have locked, and the number of the
next transaction. -/
structure Database (D R : Type*) where
  committed : D
  locks : List (ℕ × R) := []
  next : ℕ := 0

/-- An open transaction and its writes so far, the latest last. -/
structure Transaction (W : Type*) where
  number : ℕ
  writes : List W := []
  deriving DecidableEq

variable {D W R : Type*} (stmts : Statements D W R)

/-- What a transaction reads: its own writes over the committed data. -/
def Transaction.view (tx : Transaction W) (d : D) : D :=
  tx.writes.foldl (fun d write => stmts.apply write d) d

/-- A new transaction. -/
def Database.begin (db : Database D R) : Database D R × Transaction W :=
  ({ db with next := db.next + 1 }, { number := db.next })

variable [DecidableEq R]

/-- Another transaction holds a row of this write. -/
def Database.waits (db : Database D R) (tx : Transaction W) (write : W) : Bool :=
  (stmts.rows write).any fun row => db.locks.any fun lock =>
    lock.1 ≠ tx.number && lock.2 = row

/-- A write statement of a transaction; `none` while it has to wait. -/
def Database.write (db : Database D R) (tx : Transaction W) (write : W) :
    Option (Database D R × Transaction W) :=
  if db.waits stmts tx write then none
  else
    some ({ db with locks := db.locks ++ (stmts.rows write).map fun row => (tx.number, row) },
      { tx with writes := tx.writes ++ [write] })

omit [DecidableEq R] in
/-- The end of a transaction without its writes. -/
def Database.rollback (db : Database D R) (tx : Transaction W) : Database D R :=
  { db with locks := db.locks.filter fun lock => lock.1 ≠ tx.number }

omit [DecidableEq R] in
/-- The end of a transaction with its writes. -/
def Database.commit (db : Database D R) (tx : Transaction W) : Database D R :=
  { db.rollback tx with committed := tx.view stmts db.committed }

/-- A write statement outside transactions is one of its own; `none` while it has to wait. -/
def Database.autocommit (db : Database D R) (write : W) : Option (Database D R) :=
  (db.write stmts { number := db.next } write).map fun written =>
    { written.1.commit stmts written.2 with next := db.next + 1 }

variable {stmts} {db : Database D R} {tx : Transaction W} {write : W}

/-! ## Only commits change the committed data -/

omit [DecidableEq R] in
@[simp] theorem begin_committed : (db.begin (W := W)).1.committed = db.committed := rfl

omit [DecidableEq R] in
@[simp] theorem rollback_committed : (db.rollback tx).committed = db.committed := rfl

omit [DecidableEq R] in
@[simp] theorem commit_committed :
    (db.commit stmts tx).committed = tx.view stmts db.committed := rfl

/-- What a write leaves for the commit. -/
theorem write_eq_some {written : Database D R × Transaction W}
    (h : db.write stmts tx write = some written) :
    written.1.committed = db.committed ∧ written.2.writes = tx.writes ++ [write] := by
  unfold Database.write at h
  split at h
  · cases h
  · obtain rfl := Option.some.inj h
    exact ⟨rfl, rfl⟩

/-- A write outside transactions waits for the locks of open ones. -/
theorem autocommit_of_waits (h : db.waits stmts { number := db.next } write = true) :
    db.autocommit stmts write = none := by
  rw [Database.autocommit, Database.write, if_pos h, Option.map_none]

/-- A write outside transactions is visible at once. -/
theorem autocommit_eq_some {db' : Database D R} (h : db.autocommit stmts write = some db') :
    db'.committed = stmts.apply write db.committed := by
  obtain ⟨written, hwritten, rfl⟩ := Option.map_eq_some_iff.mp h
  obtain ⟨hcommitted, hwrites⟩ := write_eq_some hwritten
  show written.2.view stmts written.1.committed = _
  rw [hcommitted, Transaction.view, hwrites]
  rfl

/-! ## What the writes of a transaction do together -/

omit [DecidableEq R] in
/-- What each write keeps, all of them keep. -/
theorem view_keeps {I : D → Prop} (hkeep : ∀ write ∈ tx.writes, ∀ d, I d → I (stmts.apply write d))
    {d : D} (hd : I d) : I (tx.view stmts d) := by
  obtain ⟨number, writes⟩ := tx
  unfold Transaction.view
  induction writes generalizing d with
  | nil => exact hd
  | cons write rest ih =>
      have hnext : I (stmts.apply write d) := hkeep write List.mem_cons_self d hd
      exact ih hnext fun w hw => hkeep w (List.mem_cons_of_mem write hw)

omit [DecidableEq R] in
/-- What one write establishes and each keeps holds after all of them. -/
theorem view_establishes {I : D → Prop}
    (hkeep : ∀ write ∈ tx.writes, ∀ d, I d → I (stmts.apply write d)) (hwrite : write ∈ tx.writes)
    (hestablish : ∀ d, I (stmts.apply write d)) (d : D) : I (tx.view stmts d) := by
  obtain ⟨number, writes⟩ := tx
  unfold Transaction.view
  induction writes generalizing d with
  | nil => exact absurd hwrite List.not_mem_nil
  | cons first rest ih =>
      have hrest : ∀ w ∈ rest, ∀ d, I d → I (stmts.apply w d) :=
        fun w hw => hkeep w (List.mem_cons_of_mem first hw)
      rcases List.mem_cons.mp hwrite with rfl | hmem
      · show I (Transaction.view stmts ⟨number, rest⟩ (stmts.apply write d))
        exact view_keeps hrest (hestablish d)
      · exact ih _ hrest hmem

end ReadCommitted
