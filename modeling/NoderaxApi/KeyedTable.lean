/-
# Tables of keyed rows

A database table is the list of its rows, and `key` reads a row's primary key.
`find` is a lookup by primary key, `updateWhere` an UPDATE statement (every row
that meets the WHERE clause is rewritten), and `put` the write of one whole row
over the row of the same key.

The lemmas say what a lookup sees after each write, so that the history of one
row can be followed through whole-table operations.

`Table` bundles the rows with the uniqueness of their keys; its writes keep it.
-/
import Mathlib.Data.List.Nodup

namespace KeyedTable

variable {ρ κ : Type*}

/-- A rewriting of the rows that keeps every key keeps the list of keys. -/
theorem map_key_map {key : ρ → κ} {f : ρ → ρ} (hf : ∀ r, key (f r) = key r) (rows : List ρ) :
    (rows.map f).map key = rows.map key := by
  rw [List.map_map]
  exact List.map_congr_left fun r _ => hf r

/-! ## Lookups and writes -/

variable [DecidableEq κ] (key : ρ → κ)

/-- The row with primary key `k`. -/
def find (rows : List ρ) (k : κ) : Option ρ := rows.find? fun r => key r = k

/-- `UPDATE … SET f WHERE p`. -/
def updateWhere (p : ρ → Bool) (f : ρ → ρ) (rows : List ρ) : List ρ :=
  rows.map fun r => if p r then f r else r

/-- Write the row `r` over the row of the same key. -/
def put (r : ρ) (rows : List ρ) : List ρ :=
  rows.map fun r' => if key r' = key r then r else r'

variable {key}

theorem key_of_find {rows : List ρ} {k : κ} {r : ρ} (h : find key rows k = some r) :
    key r = k := by
  have h' := List.find?_some h
  simpa using h'

theorem mem_of_find {rows : List ρ} {k : κ} {r : ρ} (h : find key rows k = some r) :
    r ∈ rows :=
  List.mem_of_find?_eq_some h

/-- A lookup in a table with distinct keys finds every row of the table. -/
theorem find_of_mem {rows : List ρ} (hnd : (rows.map key).Nodup) {r : ρ} (hr : r ∈ rows) :
    find key rows (key r) = some r := by
  cases hfind : find key rows (key r) with
  | none =>
      rw [find, List.find?_eq_none] at hfind
      exact absurd (decide_eq_true rfl) (hfind r hr)
  | some r' =>
      have hkey : key r' = key r := key_of_find hfind
      rw [List.inj_on_of_nodup_map hnd (mem_of_find hfind) hr hkey]

theorem find_eq_none {rows : List ρ} {k : κ} :
    find key rows k = none ↔ k ∉ rows.map key := by
  simp [find, List.find?_eq_none]

/-- A lookup after a rewriting that keeps the keys. -/
theorem find_map {f : ρ → ρ} (hf : ∀ r, key (f r) = key r) (rows : List ρ) (k : κ) :
    find key (rows.map f) k = (find key rows k).map f := by
  rw [find, List.find?_map, find]
  congr 2
  funext r
  simp [hf]

theorem find_updateWhere {p : ρ → Bool} {f : ρ → ρ} (hf : ∀ r, key (f r) = key r)
    (rows : List ρ) (k : κ) :
    find key (updateWhere p f rows) k
      = (find key rows k).map fun r => if p r then f r else r := by
  refine find_map (fun r => ?_) rows k
  split
  · exact hf r
  · rfl

theorem find_put (r : ρ) (rows : List ρ) (k : κ) :
    find key (put key r rows) k
      = if k = key r then (find key rows k).map fun _ => r else find key rows k := by
  have hkeys : ∀ r', key (if key r' = key r then r else r') = key r' := by
    intro r'
    split
    · next h => exact h.symm
    · rfl
  rw [put, find_map hkeys]
  cases hk : find key rows k with
  | none => simp
  | some r' =>
      have hr' : key r' = k := key_of_find hk
      simp only [Option.map_some, hr']
      split <;> rfl

/-- A lookup of the row just written. -/
theorem find_put_self {r r₀ : ρ} {rows : List ρ} (h : find key rows (key r) = some r₀) :
    find key (put key r rows) (key r) = some r := by
  rw [find_put, if_pos rfl, h, Option.map_some]

theorem find_put_of_ne {r : ρ} {rows : List ρ} {k : κ} (h : k ≠ key r) :
    find key (put key r rows) k = find key rows k := by
  rw [find_put, if_neg h]

/-- A lookup after an INSERT of a row whose key is new. -/
theorem find_append_new {rows : List ρ} {r : ρ} (hnew : find key rows (key r) = none) (k : κ) :
    find key (rows ++ [r]) k = if k = key r then some r else find key rows k := by
  rw [find, List.find?_append]
  by_cases hk : k = key r
  · subst hk
    rw [if_pos rfl, ← find, hnew]
    simp
  · rw [if_neg hk]
    have hr : (([r] : List ρ).find? fun r' => decide (key r' = k)) = none := by
      simp [Ne.symm hk]
    rw [hr, Option.or_none, ← find]

theorem nodup_append_new {rows : List ρ} {r : ρ} (hnd : (rows.map key).Nodup)
    (hnew : find key rows (key r) = none) : ((rows ++ [r]).map key).Nodup := by
  rw [List.map_append, List.map_singleton, List.nodup_append]
  refine ⟨hnd, List.nodup_singleton _, ?_⟩
  intro k hk k' hk' heq
  rw [List.mem_singleton] at hk'
  subst hk' heq
  exact find_eq_none.mp hnew hk

omit [DecidableEq κ] in
theorem nodup_updateWhere {p : ρ → Bool} {f : ρ → ρ} (hf : ∀ r, key (f r) = key r)
    {rows : List ρ} (hnd : (rows.map key).Nodup) : ((updateWhere p f rows).map key).Nodup := by
  have hkeys : ∀ r, key (if p r then f r else r) = key r := by
    intro r
    split
    · exact hf r
    · rfl
  rw [updateWhere, map_key_map hkeys]
  exact hnd

/-! ## Tables with a primary key -/

/-- The rows of a table whose primary key is `key`. -/
structure Table (key : ρ → κ) where
  rows : List ρ
  distinct : (rows.map key).Nodup

namespace Table

variable {key : ρ → κ}

/-- The table without rows. -/
def empty : Table key := ⟨[], List.nodup_nil⟩

/-- The row with primary key `k`. -/
def get (t : Table key) (k : κ) : Option ρ := find key t.rows k

/-- `UPDATE … SET f WHERE p`, for an `f` that keeps the primary key. -/
def update (t : Table key) (p : ρ → Bool) (f : ρ → ρ)
    (hf : ∀ r, key (f r) = key r) : Table key :=
  ⟨updateWhere p f t.rows, nodup_updateWhere hf t.distinct⟩

/-- `INSERT` of a row; one whose key is taken violates the primary key. -/
def insert (t : Table key) (r : ρ) : Table key :=
  if h : (find key t.rows (key r)).isNone then
    ⟨t.rows ++ [r], nodup_append_new t.distinct (Option.isNone_iff_eq_none.mp h)⟩
  else t

/-- `DELETE` of the row with primary key `k`. -/
def delete (t : Table key) (k : κ) : Table key :=
  ⟨t.rows.filter fun r => key r ≠ k, t.distinct.sublist (List.filter_sublist.map key)⟩

/-- `DELETE … WHERE p`. -/
def deleteWhere (t : Table key) (p : ρ → Bool) : Table key :=
  ⟨t.rows.filter fun r => !p r, t.distinct.sublist (List.filter_sublist.map key)⟩

/-- The write of one row: over the row of the same key where there is one, as a new row
elsewhere. -/
def upsert (t : Table key) (k : κ) (change : ρ → ρ) (new : ρ)
    (hchange : ∀ r, key (change r) = key r) : Table key :=
  if (t.get k).isSome then t.update (fun r => decide (key r = k)) change hchange else t.insert new

theorem get_empty (k : κ) : (empty : Table key).get k = none := rfl

theorem key_of_get {t : Table key} {k : κ} {r : ρ} (h : t.get k = some r) : key r = k :=
  key_of_find h

theorem mem_of_get {t : Table key} {k : κ} {r : ρ} (h : t.get k = some r) : r ∈ t.rows :=
  mem_of_find h

/-- Every row is found under its key. -/
theorem get_of_mem {t : Table key} {r : ρ} (hr : r ∈ t.rows) : t.get (key r) = some r :=
  find_of_mem t.distinct hr

theorem mem_rows_iff {t : Table key} {r : ρ} : r ∈ t.rows ↔ t.get (key r) = some r :=
  ⟨get_of_mem, mem_of_get⟩

theorem get_update {t : Table key} {p : ρ → Bool} {f : ρ → ρ} {hf : ∀ r, key (f r) = key r}
    (k : κ) : (t.update p f hf).get k = (t.get k).map fun r => if p r then f r else r :=
  find_updateWhere hf t.rows k

theorem get_insert {t : Table key} {r : ρ} (k : κ) :
    (t.insert r).get k = if k = key r ∧ t.get (key r) = none then some r else t.get k := by
  by_cases h : (find key t.rows (key r)).isNone
  · have hnone : find key t.rows (key r) = none := Option.isNone_iff_eq_none.mp h
    rw [insert, dif_pos h]
    simp only [get, find_append_new hnone, hnone, and_true]
  · have hsome : find key t.rows (key r) ≠ none := by
      simpa [Option.isNone_iff_eq_none] using h
    rw [insert, dif_neg h]
    simp only [get, hsome, and_false, if_false]

omit [DecidableEq κ] in
/-- An UPDATE whose WHERE clause no row meets. -/
theorem update_of_none {t : Table key} {p : ρ → Bool} {f : ρ → ρ} {hf : ∀ r, key (f r) = key r}
    (h : ∀ r ∈ t.rows, p r = false) : t.update p f hf = t := by
  have hrows : updateWhere p f t.rows = t.rows := by
    rw [updateWhere]
    refine (List.map_congr_left fun r hr => ?_).trans (List.map_id t.rows)
    rw [h r hr]
    rfl
  cases t
  simp only [update, mk.injEq]
  exact hrows

omit [DecidableEq κ] in
/-- An UPDATE that finds every row as it would leave it. -/
theorem update_of_fixed {t : Table key} {p : ρ → Bool} {f : ρ → ρ} {hf : ∀ r, key (f r) = key r}
    (h : ∀ r ∈ t.rows, p r = true → f r = r) : t.update p f hf = t := by
  have hrows : updateWhere p f t.rows = t.rows := by
    rw [updateWhere]
    refine (List.map_congr_left fun r hr => ?_).trans (List.map_id t.rows)
    split
    next hp => exact h r hr hp
    next => rfl
  cases t
  simp only [update, mk.injEq]
  exact hrows

omit [DecidableEq κ] in
/-- What an UPDATE leaves in the table. -/
theorem mem_update {t : Table key} {p : ρ → Bool} {f : ρ → ρ} {hf : ∀ r, key (f r) = key r}
    {r : ρ} (h : r ∈ (t.update p f hf).rows) :
    (r ∈ t.rows ∧ p r = false) ∨ ∃ r₀ ∈ t.rows, p r₀ = true ∧ r = f r₀ := by
  obtain ⟨r₀, hr₀, rfl⟩ := List.mem_map.mp h
  cases hp : p r₀ with
  | true => exact Or.inr ⟨r₀, hr₀, hp, by simp⟩
  | false => exact Or.inl ⟨by simpa using hr₀, by simpa using hp⟩

omit [DecidableEq κ] in
/-- What holds of every row after an UPDATE. -/
theorem forall_update {t : Table key} {p : ρ → Bool} {f : ρ → ρ}
    {hf : ∀ r, key (f r) = key r} {Q : ρ → Prop} (hQ : ∀ r ∈ t.rows, p r = false → Q r) :
    (∀ r ∈ (t.update p f hf).rows, Q r) ↔ ∀ r ∈ t.rows, p r = true → Q (f r) := by
  constructor
  · intro h r hr hp
    exact h (f r) (List.mem_map.mpr ⟨r, hr, by rw [if_pos hp]⟩)
  · intro h r hr
    rcases mem_update hr with ⟨hold, hp⟩ | ⟨r₀, hr₀, hp, rfl⟩
    · exact hQ r hold hp
    · exact h r₀ hr₀ hp

/-- A lookup after an UPDATE of the one row with a primary key. -/
theorem get_update_key {t : Table key} {k : κ} {f : ρ → ρ} {hf : ∀ r, key (f r) = key r} {r₀ : ρ}
    (h₀ : t.get k = some r₀) (k' : κ) :
    (t.update (fun r => decide (key r = k)) f hf).get k'
      = if k' = k then some (f r₀) else t.get k' := by
  rw [get_update]
  by_cases hk : k' = k
  · subst hk
    rw [if_pos rfl, h₀, Option.map_some, if_pos (decide_eq_true (key_of_get h₀))]
  · rw [if_neg hk]
    cases hr : t.get k' with
    | none => rfl
    | some r =>
        have hne : ¬ key r = k := fun heq => hk ((key_of_get hr).symm.trans heq)
        rw [Option.map_some, decide_eq_false hne]
        rfl

/-- The rows after an UPDATE of the one row with a primary key. -/
theorem mem_update_key {t : Table key} {k : κ} {f : ρ → ρ} {hf : ∀ r, key (f r) = key r} {r₀ : ρ}
    (h₀ : t.get k = some r₀) (r : ρ) :
    r ∈ (t.update (fun r => decide (key r = k)) f hf).rows
      ↔ (r ∈ t.rows ∧ key r ≠ k) ∨ r = f r₀ := by
  have hkey : key (f r₀) = k := (hf r₀).trans (key_of_get h₀)
  rw [mem_rows_iff, get_update_key h₀]
  constructor
  · intro hr
    by_cases hk : key r = k
    · rw [if_pos hk] at hr
      exact Or.inr (Option.some.inj hr).symm
    · rw [if_neg hk] at hr
      exact Or.inl ⟨mem_of_get hr, hk⟩
  · rintro (⟨hr, hk⟩ | rfl)
    · rw [if_neg hk]
      exact get_of_mem hr
    · rw [if_pos hkey]

/-- What an INSERT leaves in the table. -/
theorem mem_insert {t : Table key} {r r' : ρ} (h : r' ∈ (t.insert r).rows) :
    r' ∈ t.rows ∨ (r' = r ∧ t.get (key r) = none) := by
  simp only [insert] at h
  split at h
  · next hnone =>
      rcases List.mem_append.mp h with hold | hnew
      · exact Or.inl hold
      · exact Or.inr ⟨List.mem_singleton.mp hnew, Option.isNone_iff_eq_none.mp hnone⟩
  · exact Or.inl h

/-- The rows after an INSERT under a free key. -/
theorem mem_insert_iff {t : Table key} {r r' : ρ} (h : t.get (key r) = none) :
    r' ∈ (t.insert r).rows ↔ r' ∈ t.rows ∨ r' = r := by
  constructor
  · intro hr'
    rcases mem_insert hr' with hold | ⟨heq, -⟩
    · exact Or.inl hold
    · exact Or.inr heq
  · rintro (hold | rfl)
    · rw [mem_rows_iff, get_insert, if_neg, get_of_mem hold]
      rintro ⟨heq, -⟩
      rw [← heq, get_of_mem hold] at h
      exact absurd h (by simp)
    · rw [mem_rows_iff, get_insert, if_pos ⟨rfl, h⟩]

/-- What many INSERTs leave in the table. -/
theorem mem_foldl_insert {rs : List ρ} {t : Table key} {r : ρ}
    (h : r ∈ (rs.foldl insert t).rows) : r ∈ t.rows ∨ r ∈ rs := by
  induction rs generalizing t with
  | nil => exact Or.inl h
  | cons r' rest ih =>
      rcases ih h with hold | hrest
      · rcases mem_insert hold with hmem | ⟨rfl, -⟩
        · exact Or.inl hmem
        · exact Or.inr List.mem_cons_self
      · exact Or.inr (List.mem_cons_of_mem r' hrest)

/-- An INSERT does not touch the rows that are there. -/
theorem get_insert_of_get {t : Table key} {r r₀ : ρ} {k : κ} (h : t.get k = some r₀) :
    (t.insert r).get k = some r₀ := by
  rw [get_insert, if_neg, h]
  rintro ⟨rfl, hnone⟩
  rw [hnone] at h
  exact absurd h (by simp)

theorem get_foldl_insert {rs : List ρ} {t : Table key} {r₀ : ρ} {k : κ} (h : t.get k = some r₀) :
    (rs.foldl insert t).get k = some r₀ := by
  induction rs generalizing t with
  | nil => exact h
  | cons r rest ih => exact ih (get_insert_of_get h)

/-- A lookup after a DELETE. -/
theorem get_delete {t : Table key} (k k' : κ) :
    (t.delete k).get k' = if k' = k then none else t.get k' := by
  by_cases hk : k' = k
  · subst hk
    rw [if_pos rfl, get, find_eq_none, delete]
    intro hmem
    obtain ⟨r, hr, hkey⟩ := List.mem_map.mp hmem
    exact of_decide_eq_true (List.mem_filter.mp hr).2 hkey
  · rw [if_neg hk]
    cases hget : t.get k' with
    | none =>
        rw [get, find_eq_none, delete]
        intro hmem
        refine find_eq_none.mp hget ?_
        exact (List.filter_sublist.map key).subset hmem
    | some r =>
        have hkey : key r = k' := key_of_get hget
        have hmem : r ∈ (t.delete k).rows :=
          List.mem_filter.mpr ⟨mem_of_get hget, decide_eq_true (hkey ▸ hk)⟩
        exact hkey ▸ get_of_mem hmem

/-- A DELETE of a row that is not there. -/
theorem delete_of_none {t : Table key} {k : κ} (h : ∀ r ∈ t.rows, key r ≠ k) : t.delete k = t := by
  cases t with
  | mk rows distinct =>
      simp only [delete, mk.injEq]
      exact List.filter_eq_self.mpr fun r hr => decide_eq_true (h r hr)

omit [DecidableEq κ] in
/-- What a DELETE leaves in the table. -/
theorem mem_deleteWhere {t : Table key} {p : ρ → Bool} {r : ρ} :
    r ∈ (t.deleteWhere p).rows ↔ r ∈ t.rows ∧ p r = false := by
  rw [deleteWhere, List.mem_filter, Bool.not_eq_true']

/-- A lookup after the write of one row. -/
theorem get_upsert {t : Table key} {k : κ} {change : ρ → ρ} {new : ρ}
    {hchange : ∀ r, key (change r) = key r} (hnew : key new = k) (k' : κ) :
    (t.upsert k change new hchange).get k' =
      if k' = k then some (((t.get k).map change).getD new) else t.get k' := by
  cases hget : t.get k with
  | some r =>
      rw [upsert, hget, if_pos Option.isSome_some, get_update_key hget]
      rfl
  | none =>
      rw [upsert, hget, if_neg (by simp), get_insert, hnew]
      simp [hget]

/-! ### What the writes leave of the rows that they do not touch -/

theorem filter_insert {t : Table key} {r : ρ} {p : ρ → Bool} (hr : p r = false) :
    (t.insert r).rows.filter p = t.rows.filter p := by
  unfold insert
  split
  · rw [List.filter_append, List.filter_cons, hr]
    exact List.append_nil _
  · rfl

omit [DecidableEq κ] in
theorem filter_deleteWhere {t : Table key} {p q : ρ → Bool}
    (h : ∀ r ∈ t.rows, q r = true → p r = false) :
    (t.deleteWhere p).rows.filter q = t.rows.filter q := by
  rw [deleteWhere, List.filter_filter]
  refine List.filter_congr fun r hr => ?_
  cases hq : q r with
  | false => rfl
  | true => rw [h r hr hq]; rfl

theorem filter_delete {t : Table key} {k : κ} {q : ρ → Bool}
    (h : ∀ r ∈ t.rows, q r = true → key r ≠ k) : (t.delete k).rows.filter q = t.rows.filter q := by
  rw [delete, List.filter_filter]
  refine List.filter_congr fun r hr => ?_
  cases hq : q r with
  | false => rfl
  | true => rw [decide_eq_true (h r hr hq)]; rfl

omit [DecidableEq κ] in
theorem filter_update {t : Table key} {p q : ρ → Bool} {f : ρ → ρ} {hf : ∀ r, key (f r) = key r}
    (h : ∀ r ∈ t.rows, p r = true → q r = false ∧ q (f r) = false) :
    (t.update p f hf).rows.filter q = t.rows.filter q := by
  have hrows : ∀ rows : List ρ, (∀ r ∈ rows, p r = true → q r = false ∧ q (f r) = false) →
      (updateWhere p f rows).filter q = rows.filter q := by
    intro rows
    induction rows with
    | nil => exact fun _ => rfl
    | cons r rest ih =>
        intro hall
        have hrest := ih fun r' hr' => hall r' (List.mem_cons_of_mem r hr')
        rw [updateWhere, List.map_cons, ← updateWhere, List.filter_cons, List.filter_cons, hrest]
        cases hp : p r with
        | false => rfl
        | true =>
            obtain ⟨hold, hnew⟩ := hall r List.mem_cons_self hp
            rw [if_pos rfl, hold, hnew]
            rfl
  exact hrows t.rows h

theorem filter_upsert {t : Table key} {k : κ} {change : ρ → ρ} {new : ρ}
    {hchange : ∀ r, key (change r) = key r} {q : ρ → Bool} (hnew : q new = false)
    (h : ∀ r ∈ t.rows, key r = k → q r = false ∧ q (change r) = false) :
    (t.upsert k change new hchange).rows.filter q = t.rows.filter q := by
  unfold upsert
  split
  · exact filter_update fun r hr hk => h r hr (of_decide_eq_true hk)
  · exact filter_insert hnew

/-- Some row has a property if and only if one is found with it. -/
theorem exists_row_iff {t : Table key} {P : ρ → Prop} :
    (∃ r ∈ t.rows, P r) ↔ ∃ k, ∃ r ∈ t.get k, P r := by
  constructor
  · rintro ⟨r, hr, hP⟩
    exact ⟨key r, r, get_of_mem hr, hP⟩
  · rintro ⟨k, r, hr, hP⟩
    exact ⟨r, mem_of_get hr, hP⟩

/-- The rows with a property are more than the one found. -/
theorem one_lt_countP_iff {t : Table key} {p : ρ → Bool} {k : κ} {r : ρ} (hr : t.get k = some r)
    (hp : p r = true) :
    1 < t.rows.countP p ↔ ∃ k', k' ≠ k ∧ ∃ r' ∈ t.get k', p r' = true := by
  obtain ⟨before, after, hsplit⟩ := List.append_of_mem (mem_of_get hr)
  have hcount : t.rows.countP p = (before ++ after).countP p + 1 := by
    rw [hsplit, List.countP_append, List.countP_cons_of_pos hp, List.countP_append]
    omega
  have hkey : key r = k := key_of_get hr
  have hnd := t.distinct
  rw [hsplit, List.map_append, List.map_cons, List.nodup_middle, List.nodup_cons,
    ← List.map_append] at hnd
  rw [hcount, Nat.lt_add_left_iff_pos, List.countP_pos_iff]
  constructor
  · rintro ⟨r', hmem, hp'⟩
    refine ⟨key r', ?_, r', get_of_mem ?_, hp'⟩
    · rintro heq
      exact hnd.1 (List.mem_map.mpr ⟨r', hmem, heq.trans hkey.symm⟩)
    · rw [hsplit]
      rcases List.mem_append.mp hmem with hleft | hright
      · exact List.mem_append_left _ hleft
      · exact List.mem_append_right _ (List.mem_cons_of_mem r hright)
  · rintro ⟨k', hne, r', hr', hp'⟩
    refine ⟨r', ?_, hp'⟩
    have hmem := mem_of_get hr'
    rw [hsplit] at hmem
    rcases List.mem_append.mp hmem with hleft | hright
    · exact List.mem_append_left _ hleft
    · rcases List.mem_cons.mp hright with rfl | hright
      · exact absurd ((key_of_get hr').symm.trans hkey) hne
      · exact List.mem_append_right _ hright

end Table

end KeyedTable
