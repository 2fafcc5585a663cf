/-
# Cluster locks

`runWithLock` runs a callback under an advisory lock of the database, or under a lock of the
process once the database has answered that it has none.  Which of the two is used is a mode
shared by all calls of the process, and a call reads it again when it gives its lock back.

The calls keep to their locks in exactly the runs in which no callback starts under one kind
of lock while one of the same name runs under the other, no callback that holds an advisory
lock ends in the local mode, and no unlock query fails.
-/
import NoderaxApi.Common
import NoderaxApi.Ownership

open Runs Interleaving

namespace ClusterLockService

/-! ## The service -/

/-- `lockMode`: `'auto'`, `'advisory'` or `'local'`. -/
inductive LockMode
  | auto
  | advisory
  | inProcess
  deriving DecidableEq, Repr

/-- What a query is rejected with: an `Error` with its message, or another value as a text. -/
structure QueryError where
  isError : Bool
  message : String
  deriving DecidableEq, Repr

structure ClusterLockSnapshot where
  lockName : String
  acquisitions : ℕ := 0
  skips : ℕ := 0
  lastAcquiredAt : Option ℤ := none
  lastSkippedAt : Option ℤ := none
  deriving DecidableEq, Repr

variable (Key Conn : Type)

/-- The service of one process, and what the database keeps for it: the session-level locks,
one entry for each time a connection has taken one, and the connections in use. -/
structure LockWorld where
  lockMode : LockMode := .auto
  localLocks : List String := []
  snapshots : List ClusterLockSnapshot := []
  advisoryLocks : List (Key × Conn) := []
  busy : List Conn := []

/-- A call of `runWithLock`, at the `await` where it waits. -/
inductive LockCall
  /-- `queryRunner.connect()` -/
  | connecting (lockName : String)
  /-- The `pg_try_advisory_lock` query is on its way. -/
  | querying (lockName : String) (conn : Conn)
  /-- Its answer is on its way back. -/
  | answered (lockName : String) (conn : Conn) (acquired : Except QueryError Bool)
  /-- `callback()` -/
  | running (lockName : String) (conn : Conn) (usedLocalFallback : Bool)
  /-- The `pg_advisory_unlock` query is on its way. -/
  | unlocking (lockName : String) (conn : Conn)
  /-- `queryRunner.release()` -/
  | releasing (conn : Conn)
  deriving DecidableEq

/-- What a step of a call meets. -/
structure LockInput where
  /-- The connection that the pool gives. -/
  connection : Option Conn := none
  /-- What the query is rejected with. -/
  failure : Option QueryError := none
  /-- Another process holds the advisory lock. -/
  heldElsewhere : Bool := false
  now : ℤ := 0

variable {Key Conn}

/-- `shouldFallbackToLocalLock`. -/
def shouldFallbackToLocalLock (toLowerCase : String → String) (error : QueryError) : Bool :=
  let message := if error.isError then toLowerCase error.message else error.message
  ["pg_try_advisory_lock", "pg_advisory_unlock", "function md5", "function does not exist"].any
    fun text => text.toList <:+: message.toList

/-- `getOrCreateSnapshot`. -/
def getOrCreateSnapshot (w : LockWorld Key Conn) (lockName : String) : ClusterLockSnapshot :=
  (w.snapshots.find? fun snapshot => snapshot.lockName = lockName).getD { lockName }

/-- `snapshots.set(lockName, current)`. -/
def setSnapshot (w : LockWorld Key Conn) (current : ClusterLockSnapshot) : LockWorld Key Conn :=
  { w with
    snapshots :=
      w.snapshots.filter (fun snapshot => snapshot.lockName ≠ current.lockName) ++ [current] }

def recordAcquisition (w : LockWorld Key Conn) (lockName : String) (now : ℤ) :
    LockWorld Key Conn :=
  let current := getOrCreateSnapshot w lockName
  setSnapshot w
    { current with acquisitions := current.acquisitions + 1, lastAcquiredAt := some now }

def recordSkip (w : LockWorld Key Conn) (lockName : String) (now : ℤ) : LockWorld Key Conn :=
  let current := getOrCreateSnapshot w lockName
  setSnapshot w { current with skips := current.skips + 1, lastSkippedAt := some now }

/-- `tryAcquireLocalLock`: the set of names afterwards, and whether the lock was taken. -/
def tryAcquireLocalLock (localLocks : List String) (lockName : String) : List String × Bool :=
  if lockName ∈ localLocks then (localLocks, false) else (lockName :: localLocks, true)

/-- After the lock was tried: the callback is called, or the call is skipped. -/
def afterTry (w : LockWorld Key Conn) (lockName : String) (conn : Conn)
    (usedLocalFallback acquired : Bool) (now : ℤ) : LockWorld Key Conn × Option (LockCall Conn) :=
  if acquired then
    (recordAcquisition w lockName now, some (.running lockName conn usedLocalFallback))
  else (recordSkip w lockName now, some (.releasing conn))

/-- The local lock is tried and used. -/
def tryLocally (w : LockWorld Key Conn) (lockName : String) (conn : Conn) (now : ℤ) :
    LockWorld Key Conn × Option (LockCall Conn) :=
  let (localLocks, acquired) := tryAcquireLocalLock w.localLocks lockName
  afterTry { w with localLocks } lockName conn true acquired now

/-- A call that tried a lock waits for its callback, or gives its connection back. -/
theorem afterTry_eq (w : LockWorld Key Conn) (lockName : String) (conn : Conn)
    (usedLocalFallback acquired : Bool) (now : ℤ) :
    ∃ current, afterTry w lockName conn usedLocalFallback acquired now
      = (setSnapshot w current, some (if acquired then .running lockName conn usedLocalFallback
          else .releasing conn)) := by
  cases acquired with
  | false => exact ⟨_, rfl⟩
  | true => exact ⟨_, rfl⟩

/-- The local lock is taken unless it is held. -/
theorem tryLocally_eq (w : LockWorld Key Conn) (lockName : String) (conn : Conn) (now : ℤ) :
    ∃ current, tryLocally w lockName conn now
      = if lockName ∈ w.localLocks then (setSnapshot w current, some (.releasing conn))
        else (setSnapshot { w with localLocks := lockName :: w.localLocks } current,
          some (.running lockName conn true)) := by
  unfold tryLocally tryAcquireLocalLock
  by_cases hheld : lockName ∈ w.localLocks
  · simp only [if_pos hheld]
    exact afterTry_eq w lockName conn true false now
  · simp only [if_neg hheld]
    exact afterTry_eq _ lockName conn true true now

variable [DecidableEq Key] [DecidableEq Conn]

/-- `pg_try_advisory_lock`: another session holds the lock, or the connection has taken it
once more. -/
def pgTryAdvisoryLock (advisoryLocks : List (Key × Conn)) (key : Key) (conn : Conn)
    (heldElsewhere : Bool) : List (Key × Conn) × Bool :=
  if !heldElsewhere && advisoryLocks.all fun lock => lock.1 ≠ key || lock.2 = conn then
    ((key, conn) :: advisoryLocks, true)
  else (advisoryLocks, false)

/-- `pg_advisory_unlock`: the connection has taken the lock once less. -/
def pgAdvisoryUnlock (advisoryLocks : List (Key × Conn)) (key : Key) (conn : Conn) :
    List (Key × Conn) :=
  advisoryLocks.erase (key, conn)

section Calls

variable (toLowerCase : String → String) (lockKey : String → Key)

/-- A step of `runWithLock`; `lockKey` is `buildLockKey`. -/
def resumeLockCall (call : LockCall Conn) (input : LockInput Conn) (w : LockWorld Key Conn) :
    LockWorld Key Conn × Option (LockCall Conn) :=
  match call with
  | .connecting lockName =>
      match input.connection with
      | none => (w, none)
      | some conn =>
          -- the pool does not give out a connection that is in use
          if conn ∈ w.busy then (w, some (.connecting lockName))
          else
            let w := { w with busy := conn :: w.busy }
            if w.lockMode = .inProcess then tryLocally w lockName conn input.now
            else (w, some (.querying lockName conn))
  | .querying lockName conn =>
      match input.failure with
      | some error => (w, some (.answered lockName conn (.error error)))
      | none =>
          let (advisoryLocks, acquired) :=
            pgTryAdvisoryLock w.advisoryLocks (lockKey lockName) conn input.heldElsewhere
          ({ w with advisoryLocks }, some (.answered lockName conn (.ok acquired)))
  | .answered lockName conn (.ok acquired) =>
      afterTry { w with lockMode := .advisory } lockName conn false acquired input.now
  | .answered lockName conn (.error error) =>
      if shouldFallbackToLocalLock toLowerCase error then
        tryLocally { w with lockMode := .inProcess } lockName conn input.now
      else (w, some (.releasing conn))
  | .running lockName conn usedLocalFallback =>
      -- the mode of this moment, which need not be the one the lock was taken in
      if usedLocalFallback || w.lockMode = .inProcess then
        ({ w with localLocks := w.localLocks.filter (· ≠ lockName) }, some (.releasing conn))
      else (w, some (.unlocking lockName conn))
  | .unlocking lockName conn =>
      match input.failure with
      | some _ => (w, some (.releasing conn))
      | none =>
          ({ w with
              advisoryLocks := pgAdvisoryUnlock w.advisoryLocks (lockKey lockName) conn },
            some (.releasing conn))
  | .releasing conn => ({ w with busy := w.busy.filter (· ≠ conn) }, none)

/-- The calls of `runWithLock` in one process. -/
def lockCalls : Calls (LockWorld Key Conn) String (LockCall Conn) (LockInput Conn) where
  invoke lockName _ w := (w, some (.connecting lockName))
  resume := resumeLockCall toLowerCase lockKey

abbrev LockConfig (Key Conn : Type) := Config ℕ (LockWorld Key Conn) (LockCall Conn)

abbrev LockEvent (Conn : Type) := Event ℕ String (LockInput Conn) Empty

def lockStep : LockConfig Key Conn → LockEvent Conn → LockConfig Key Conn :=
  step (lockCalls toLowerCase lockKey) noEnv

end Calls

/-! ## What is claimed -/

/-- A lock of the process, or one that a connection holds in the database. -/
inductive HeldLock (Key Conn : Type)
  | inProcess (lockName : String)
  | advisory (key : Key) (conn : Conn)

/-- The lock is held. -/
def LockWorld.Holds (w : LockWorld Key Conn) : HeldLock Key Conn → Prop
  | .inProcess lockName => lockName ∈ w.localLocks
  | .advisory key conn => (key, conn) ∈ w.advisoryLocks

/-- The lock that a call has acquired and not yet released. -/
def LockCall.lock? (lockKey : String → Key) : LockCall Conn → Option (HeldLock Key Conn)
  | .answered lockName conn (.ok true) => some (.advisory (lockKey lockName) conn)
  | .running lockName _ true => some (.inProcess lockName)
  | .running lockName conn false => some (.advisory (lockKey lockName) conn)
  | .unlocking lockName conn => some (.advisory (lockKey lockName) conn)
  | _ => none

/-- The lock name of the callback that runs. -/
def LockCall.running? : LockCall Conn → Option String
  | .running lockName _ _ => some lockName
  | _ => none

/-- Two calls do not run callbacks of the same lock name. -/
def DifferentNames (l l' : LockCall Conn) : Prop :=
  ∀ lockName, l.running? = some lockName → l'.running? ≠ some lockName

/-- **The calls keep to their locks.**  One callback runs for each lock name; each lock that a
call has acquired stays held until that call releases it, and each lock that is held is one
that exactly one call in flight has acquired, in the same way and on the same connection. -/
structure Disciplined (lockKey : String → Key) (c : LockConfig Key Conn) : Prop where
  exclusive : Excluding DifferentNames c
  accounted : Accounted (LockCall.lock? lockKey) LockWorld.Holds c

/-- A callback of the name runs under a lock of the given kind. -/
def RunsUnder (usedLocalFallback : Bool) (lockName : String) (c : LockConfig Key Conn) : Prop :=
  ∃ p conn, c.pending p = some (.running lockName conn usedLocalFallback)

/-- A local lock is taken only while no callback of its name runs under the advisory lock, an
advisory lock is granted only while none runs under the local one, a callback that holds an
advisory lock does not end in the local mode, and its unlock query does not fail. -/
def KeepsMechanism (toLowerCase : String → String) (c : LockConfig Key Conn) :
    LockEvent Conn → Prop
  | .resume p input =>
      match c.pending p with
      | some (.connecting lockName) =>
          c.world.lockMode = .inProcess → (∃ conn ∈ input.connection, conn ∉ c.world.busy) →
            lockName ∉ c.world.localLocks → ¬ RunsUnder false lockName c
      | some (.answered lockName _ (.ok acquired)) =>
          acquired = true → ¬ RunsUnder true lockName c
      | some (.answered lockName _ (.error error)) =>
          shouldFallbackToLocalLock toLowerCase error = true →
            lockName ∉ c.world.localLocks → ¬ RunsUnder false lockName c
      | some (.running _ _ usedLocalFallback) =>
          usedLocalFallback = false → c.world.lockMode ≠ .inProcess
      | some (.unlocking _ _) => input.failure = none
      | _ => True
  | _ => True

/-! ## The connections -/

/-- The connection a call has taken from the pool. -/
def LockCall.conn? : LockCall Conn → Option Conn
  | .connecting _ => none
  | .querying _ conn | .answered _ conn _ | .running _ conn _ | .unlocking _ conn
  | .releasing conn => some conn

/-- The database keeps one entry for each lock, each connection in use belongs to one call. -/
structure PoolSound (c : LockConfig Key Conn) : Prop where
  connections : Accounted LockCall.conn? (fun w conn => conn ∈ w.busy) c
  nodup : c.world.advisoryLocks.Nodup
  exclusive : ∀ {key conn conn'}, (key, conn) ∈ c.world.advisoryLocks →
    (key, conn') ∈ c.world.advisoryLocks → conn = conn'

section Proofs

variable {toLowerCase : String → String} {lockKey : String → Key}

section Accounts

omit [DecidableEq Key] [DecidableEq Conn]

theorem holds_setSnapshot (w : LockWorld Key Conn) (current : ClusterLockSnapshot)
    (lock : HeldLock Key Conn) : (setSnapshot w current).Holds lock ↔ w.Holds lock := by
  cases lock <;> rfl

variable {c : LockConfig Key Conn} {p : ℕ} {w' : LockWorld Key Conn}
  {l? next : Option (LockCall Conn)}

/-! ## One step -/

theorem DifferentNames.symm {l l' : LockCall Conn} (h : DifferentNames l l') :
    DifferentNames l' l := fun lockName hl' hl => h lockName hl hl'

/-- A step after which the call runs no callback is judged by the locks alone. -/
theorem disciplined_iff_accounted (h : Disciplined lockKey c)
    (hrun : next.bind LockCall.running? = none) :
    Disciplined lockKey ⟨w', Function.update c.pending p next⟩ ↔
      Accounted (LockCall.lock? lockKey) LockWorld.Holds
        ⟨w', Function.update c.pending p next⟩ := by
  refine ⟨fun h' => h'.accounted, fun haccounted => ⟨?_, haccounted⟩⟩
  refine (excluding_update_iff DifferentNames.symm h.exclusive).mpr ?_
  rintro l rfl q other _ _ lockName hl
  exact absurd (hrun.symm.trans hl) (by simp)

/-- A step that acquires and releases nothing, and starts no callback. -/
theorem Disciplined.quiet (h : Disciplined lockKey c) (hp : c.pending p = l?)
    (hw : ∀ lock, w'.Holds lock ↔ c.world.Holds lock)
    (hlock : next.bind (LockCall.lock? lockKey) = l?.bind (LockCall.lock? lockKey))
    (hrun : next.bind LockCall.running? = none) :
    Disciplined lockKey ⟨w', Function.update c.pending p next⟩ :=
  (disciplined_iff_accounted h hrun).mpr (h.accounted.update_of_same hp hw hlock)

/-- A callback that starts under one kind of lock, while no other of its name runs under the
same kind, must meet none under the other kind. -/
theorem excluding_start_iff (h : Disciplined lockKey c) {l : LockCall Conn}
    (hp : c.pending p = some l) (hl : l.running? = none) {lockName : String}
    {usedLocalFallback : Bool} (w' : LockWorld Key Conn) (conn : Conn)
    (hsame : ∀ q conn', q ≠ p → c.pending q ≠ some (.running lockName conn' usedLocalFallback)) :
    Excluding DifferentNames
        ⟨w', Function.update c.pending p (some (.running lockName conn usedLocalFallback))⟩ ↔
      ¬ RunsUnder (!usedLocalFallback) lockName c := by
  rw [excluding_update_iff DifferentNames.symm h.exclusive]
  constructor
  · rintro hdiff ⟨q, conn', hq⟩
    have hqp : q ≠ p := by
      rintro rfl
      rw [Option.some.inj (hp.symm.trans hq)] at hl
      exact absurd hl (by simp [LockCall.running?])
    exact hdiff _ rfl q _ hqp hq lockName rfl rfl
  · intro hnone l' hl' q other hqp hq name hname
    obtain rfl := Option.some.inj hl'
    obtain rfl := Option.some.inj hname
    intro hother
    cases other with
    | running name' conn' used =>
        obtain rfl := Option.some.inj hother
        by_cases hused : used = usedLocalFallback
        · exact hsame q conn' hqp (hused ▸ hq)
        · exact hnone ⟨q, conn', by rw [hq, Bool.eq_not_of_ne hused]⟩
    | connecting _ | querying _ _ | answered _ _ _ | unlocking _ _ | releasing _ =>
        exact absurd hother (by simp [LockCall.running?])

/-- **The local lock** keeps the discipline exactly when it is held already, or no callback of
its name runs under the advisory lock. -/
theorem disciplined_tryLocally_iff (h : Disciplined lockKey c) {l : LockCall Conn}
    (hp : c.pending p = some l) (hl : l.running? = none) (hlock : l.lock? lockKey = none)
    {w : LockWorld Key Conn} (hw : ∀ lock, w.Holds lock ↔ c.world.Holds lock) (lockName : String)
    (conn : Conn) (now : ℤ) :
    Disciplined lockKey ⟨(tryLocally w lockName conn now).1,
        Function.update c.pending p (tryLocally w lockName conn now).2⟩ ↔
      (lockName ∉ c.world.localLocks → ¬ RunsUnder false lockName c) := by
  obtain ⟨current, hcurrent⟩ := tryLocally_eq w lockName conn now
  have hmem : lockName ∈ w.localLocks ↔ lockName ∈ c.world.localLocks := hw (.inProcess lockName)
  rw [hcurrent]
  by_cases hheld : lockName ∈ c.world.localLocks
  · rw [if_pos (hmem.mpr hheld)]
    refine iff_of_true (h.quiet hp (fun lock => ?_) ?_ rfl) (fun hfree => absurd hheld hfree)
    · exact (holds_setSnapshot w current lock).trans (hw lock)
    · exact hlock.symm
  · rw [if_neg (fun hin => hheld (hmem.mp hin))]
    have hsame : ∀ q conn', q ≠ p → c.pending q ≠ some (.running lockName conn' true) :=
      fun q conn' _ hq => hheld (h.accounted.held hq rfl)
    have hstart := excluding_start_iff h hp hl
      (setSnapshot { w with localLocks := lockName :: w.localLocks } current) conn hsame
    refine ⟨fun h' _ => hstart.mp h'.exclusive, fun hnone => ⟨hstart.mpr (hnone hheld), ?_⟩⟩
    refine h.accounted.update_acquire (.inProcess lockName) hp hheld hlock rfl fun lock => ?_
    rw [holds_setSnapshot, ← hw lock]
    cases lock with
    | inProcess name =>
        simp [LockWorld.Holds]
    | advisory key conn => simp [LockWorld.Holds]

/-- **The answer that grants the advisory lock** keeps the discipline exactly when no callback
of its name runs under the local lock. -/
theorem disciplined_granted_iff (hpool : PoolSound c) (h : Disciplined lockKey c)
    {lockName : String} {conn : Conn}
    (hp : c.pending p = some (.answered lockName conn (.ok true)))
    (hw : ∀ lock, w'.Holds lock ↔ c.world.Holds lock) :
    Disciplined lockKey
        ⟨w', Function.update c.pending p (some (.running lockName conn false))⟩ ↔
      ¬ RunsUnder true lockName c := by
  have hmine : (lockKey lockName, conn) ∈ c.world.advisoryLocks := h.accounted.held hp rfl
  have hsame : ∀ q conn', q ≠ p → c.pending q ≠ some (.running lockName conn' false) := by
    intro q conn' hqp hq
    have hother : (lockKey lockName, conn') ∈ c.world.advisoryLocks := h.accounted.held hq rfl
    obtain rfl := hpool.exclusive hmine hother
    exact hqp (hpool.connections.sole hq hp rfl rfl)
  have hstart := excluding_start_iff h hp rfl w' conn hsame
  refine ⟨fun h' => hstart.mp h'.exclusive, fun hnone => ⟨hstart.mpr hnone, ?_⟩⟩
  exact h.accounted.update_of_same hp hw rfl

/-- A lock that the call does not give back stays behind. -/
theorem not_disciplined_of_left (h : Disciplined lockKey c) {l : LockCall Conn}
    {lock : HeldLock Key Conn} (hp : c.pending p = some l) (hl : l.lock? lockKey = some lock)
    (hw : w'.Holds lock) (hnext : next.bind (LockCall.lock? lockKey) = none) :
    ¬ Disciplined lockKey ⟨w', Function.update c.pending p next⟩ := by
  intro h'
  have hall := ((accounted_update_iff h.accounted hp).mp h'.accounted lock).1.mp hw
  simp [hnext, hl] at hall

/-- An advisory lock is on the connection of the call that has acquired it. -/
theorem LockCall.conn?_of_lock? {l : LockCall Conn} {key : Key} {conn : Conn}
    (hl : l.lock? lockKey = some (.advisory key conn)) : l.conn? = some conn := by
  cases l with
  | answered lockName conn' answer =>
      rcases answer with _ | _ | _ <;> simp_all [LockCall.lock?, LockCall.conn?]
  | running lockName conn' usedLocalFallback =>
      cases usedLocalFallback <;> simp_all [LockCall.lock?, LockCall.conn?]
  | unlocking lockName conn' => simp_all [LockCall.lock?, LockCall.conn?]
  | connecting _ | querying _ _ | releasing _ => simp [LockCall.lock?] at hl

/-- The connection of a call that has acquired no lock holds none. -/
theorem PoolSound.not_held (hpool : PoolSound c) (h : Disciplined lockKey c) {l : LockCall Conn}
    {conn : Conn} (hp : c.pending p = some l) (hconn : l.conn? = some conn)
    (hlock : l.lock? lockKey = none) (key : Key) : (key, conn) ∉ c.world.advisoryLocks := by
  intro hheld
  obtain ⟨q, l', hq, hl'⟩ := h.accounted.owner (r := .advisory key conn) hheld
  obtain rfl := hpool.connections.sole hp hq hconn (LockCall.conn?_of_lock? hl')
  rw [Option.some.inj (hp.symm.trans hq), hl'] at hlock
  exact absurd hlock (by simp)

end Accounts

/-- What `pg_try_advisory_lock` answers, and what it leaves. -/
theorem pgTryAdvisoryLock_cases (advisoryLocks : List (Key × Conn)) (key : Key) (conn : Conn)
    (heldElsewhere : Bool) :
    pgTryAdvisoryLock advisoryLocks key conn heldElsewhere = (advisoryLocks, false) ∨
      (pgTryAdvisoryLock advisoryLocks key conn heldElsewhere
          = ((key, conn) :: advisoryLocks, true) ∧
        ∀ conn', (key, conn') ∈ advisoryLocks → conn' = conn) := by
  unfold pgTryAdvisoryLock
  split
  next hfree =>
      refine .inr ⟨rfl, fun conn' hin => ?_⟩
      have hall := List.all_eq_true.mp (Bool.and_eq_true_iff.mp hfree).2 _ hin
      simpa using hall
  next => exact .inl rfl

/-- **One step** keeps the discipline exactly when it keeps to the mechanism of its lock. -/
theorem disciplined_resume_iff (hpool : PoolSound c) (h : Disciplined lockKey c)
    {l : LockCall Conn} (hp : c.pending p = some l) (input : LockInput Conn) :
    Disciplined lockKey (lockStep toLowerCase lockKey c (.resume p input)) ↔
      KeepsMechanism toLowerCase c (.resume p input) := by
  rw [lockStep, step_resume hp]
  simp only [KeepsMechanism, hp, lockCalls]
  cases l with
  | connecting lockName =>
      -- a connection holds no lock yet; only in the process's own mode is one tried here
      cases hconn : input.connection with
      | none =>
          simp only [resumeLockCall, hconn]
          exact iff_of_true (h.quiet hp (fun _ => Iff.rfl) rfl rfl) (by simp)
      | some conn =>
          by_cases hbusy : conn ∈ c.world.busy
          · simp only [resumeLockCall, hconn, if_pos hbusy]
            exact iff_of_true (h.quiet hp (fun _ => Iff.rfl) rfl rfl) (by simp [hbusy])
          · by_cases hmode : c.world.lockMode = .inProcess
            · simp only [resumeLockCall, hconn, if_neg hbusy, if_pos hmode]
              refine (disciplined_tryLocally_iff h hp rfl rfl (fun lock => ?_) _ _ _).trans ?_
              · cases lock <;> rfl
              · simp [hmode, hbusy]
            · simp only [resumeLockCall, hconn, if_neg hbusy, if_neg hmode]
              refine iff_of_true (h.quiet hp (fun lock => ?_) rfl rfl)
                (fun hlocal => absurd hlocal hmode)
              cases lock <;> rfl
  | querying lockName conn =>
      simp only [resumeLockCall]
      refine iff_of_true ?_ trivial
      cases hfailure : input.failure with
      | some error => exact h.quiet hp (fun _ => Iff.rfl) rfl rfl
      | none =>
          obtain hrefused | ⟨hgranted, -⟩ := pgTryAdvisoryLock_cases c.world.advisoryLocks
            (lockKey lockName) conn input.heldElsewhere
          · simp only [hrefused]
            exact h.quiet hp (fun lock => by cases lock <;> rfl) rfl rfl
          · -- the lock is granted before the answer arrives, to a connection that held none
            simp only [hgranted]
            have hfree := hpool.not_held h hp rfl rfl (lockKey lockName)
            refine (disciplined_iff_accounted h rfl).mpr (h.accounted.update_acquire
              (.advisory (lockKey lockName) conn) hp hfree rfl rfl fun lock => ?_)
            cases lock with
            | inProcess name => simp [LockWorld.Holds]
            | advisory key conn' => simp [LockWorld.Holds]
  | answered lockName conn answer =>
      rcases answer with error | acquired
      · simp only [resumeLockCall]
        split
        next hfallback =>
            refine (disciplined_tryLocally_iff h hp rfl rfl (fun lock => ?_) _ _ _).trans ?_
            · cases lock <;> rfl
            · simp [hfallback]
        next hfallback =>
            exact iff_of_true (h.quiet hp (fun _ => Iff.rfl) rfl rfl)
              (fun htrue => absurd htrue hfallback)
      · obtain ⟨current, hcurrent⟩ := afterTry_eq { c.world with lockMode := .advisory } lockName
          conn false acquired input.now
        have hholds : ∀ lock, (setSnapshot { c.world with lockMode := .advisory } current).Holds
            lock ↔ c.world.Holds lock := fun lock => by cases lock <;> rfl
        simp only [resumeLockCall, hcurrent]
        cases acquired with
        | false => exact iff_of_true (h.quiet hp hholds rfl rfl) (by simp)
        | true =>
            exact (disciplined_granted_iff hpool h hp hholds).trans (by simp)
  | running lockName conn usedLocalFallback =>
      cases usedLocalFallback with
      | true =>
          simp only [resumeLockCall, Bool.true_or, if_true]
          refine iff_of_true ((disciplined_iff_accounted h rfl).mpr (h.accounted.update_release
            (.inProcess lockName) hp rfl rfl fun lock => ?_)) (by simp)
          cases lock with
          | inProcess name => simp [LockWorld.Holds, and_comm]
          | advisory key conn' => simp [LockWorld.Holds]
      | false =>
          by_cases hmode : c.world.lockMode = .inProcess
          · -- the local lock of the name is deleted, the advisory one stays with the connection
            simp only [resumeLockCall, hmode, decide_true, Bool.or_true, if_true]
            refine iff_of_false (not_disciplined_of_left h hp rfl ?_ rfl) (by simp)
            exact h.accounted.held hp (r := .advisory (lockKey lockName) conn) rfl
          · simp only [resumeLockCall, hmode, decide_false, Bool.or_false, Bool.false_eq_true,
              if_false]
            exact iff_of_true (h.quiet hp (fun _ => Iff.rfl) rfl rfl) (fun _ => hmode)
  | unlocking lockName conn =>
      cases hfailure : input.failure with
      | some error =>
          -- the connection is released with the lock on it
          simp only [resumeLockCall, hfailure]
          refine iff_of_false (not_disciplined_of_left h hp rfl ?_ rfl) (by simp)
          exact h.accounted.held hp rfl
      | none =>
          simp only [resumeLockCall, hfailure]
          refine iff_of_true ((disciplined_iff_accounted h rfl).mpr (h.accounted.update_release
            (.advisory (lockKey lockName) conn) hp rfl rfl fun lock => ?_)) trivial
          cases lock with
          | inProcess name => simp [LockWorld.Holds]
          | advisory key conn' =>
              simp [LockWorld.Holds, pgAdvisoryUnlock, hpool.nodup.mem_erase_iff]
  | releasing conn =>
      simp only [resumeLockCall]
      exact iff_of_true (h.quiet hp (fun lock => by cases lock <;> rfl) rfl rfl) trivial

/-! ## Every run -/

omit [DecidableEq Key] [DecidableEq Conn] in
/-- Trying the local lock touches neither the database nor the pool. -/
theorem tryLocally_frame (w : LockWorld Key Conn) (lockName : String) (conn : Conn) (now : ℤ) :
    (tryLocally w lockName conn now).1.advisoryLocks = w.advisoryLocks ∧
      (tryLocally w lockName conn now).1.busy = w.busy ∧
      (tryLocally w lockName conn now).2.bind LockCall.conn? = some conn := by
  obtain ⟨current, hcurrent⟩ := tryLocally_eq w lockName conn now
  rw [hcurrent]
  split <;> exact ⟨rfl, rfl, rfl⟩

/-- Each step keeps the database and the pool in order. -/
theorem PoolSound.resume (hpool : PoolSound c) (h : Disciplined lockKey c) {l : LockCall Conn}
    (hp : c.pending p = some l) (input : LockInput Conn) :
    PoolSound (lockStep toLowerCase lockKey c (.resume p input)) := by
  rw [lockStep, step_resume hp]
  simp only [lockCalls]
  -- most steps leave the advisory locks and the connections as they are
  have hsame : ∀ {w' : LockWorld Key Conn} {next : Option (LockCall Conn)},
      w'.advisoryLocks = c.world.advisoryLocks → w'.busy = c.world.busy →
      next.bind LockCall.conn? = l.conn? →
      PoolSound ⟨w', Function.update c.pending p next⟩ := by
    intro w' next hadvisory hbusy hconn
    refine ⟨hpool.connections.update_of_same hp (fun conn => by rw [hbusy]) hconn, ?_, ?_⟩
    · exact hadvisory ▸ hpool.nodup
    · intro key conn conn' hin hin'
      rw [show (Config.mk w' _ : LockConfig Key Conn).world.advisoryLocks
        = c.world.advisoryLocks from hadvisory] at hin hin'
      exact hpool.exclusive hin hin'
  cases l with
  | connecting lockName =>
      have htaken : ∀ {w' : LockWorld Key Conn} {next : Option (LockCall Conn)} {conn : Conn},
          conn ∉ c.world.busy → w'.advisoryLocks = c.world.advisoryLocks →
          w'.busy = conn :: c.world.busy → next.bind LockCall.conn? = some conn →
          PoolSound ⟨w', Function.update c.pending p next⟩ := by
        intro w' next conn hfree hadvisory hbusy hconn
        refine ⟨hpool.connections.update_acquire conn hp hfree rfl hconn fun conn' => ?_, ?_, ?_⟩
        · rw [hbusy, List.mem_cons]
        · exact hadvisory ▸ hpool.nodup
        · intro key conn conn' hin hin'
          rw [show (Config.mk w' _ : LockConfig Key Conn).world.advisoryLocks
            = c.world.advisoryLocks from hadvisory] at hin hin'
          exact hpool.exclusive hin hin'
      cases hconn : input.connection with
      | none =>
          simp only [resumeLockCall, hconn]
          exact hsame rfl rfl rfl
      | some conn =>
          simp only [resumeLockCall, hconn]
          split
          · exact hsame rfl rfl rfl
          next hbusy =>
              split
              · obtain ⟨hadvisory, hb, hc⟩ := tryLocally_frame
                  { c.world with busy := conn :: c.world.busy } lockName conn input.now
                exact htaken hbusy hadvisory hb hc
              · exact htaken hbusy rfl rfl rfl
  | querying lockName conn =>
      simp only [resumeLockCall]
      cases hfailure : input.failure with
      | some error => exact hsame rfl rfl rfl
      | none =>
          obtain hrefused | ⟨hgranted, hmine⟩ := pgTryAdvisoryLock_cases c.world.advisoryLocks
            (lockKey lockName) conn input.heldElsewhere
          · simp only [hrefused]
            exact hsame rfl rfl rfl
          · simp only [hgranted]
            refine ⟨hpool.connections.update_of_same hp (fun _ => Iff.rfl) rfl, ?_, ?_⟩
            · exact List.nodup_cons.mpr ⟨hpool.not_held h hp rfl rfl _, hpool.nodup⟩
            · intro key conn₁ conn₂ hin hin'
              simp only [List.mem_cons, Prod.mk.injEq] at hin hin'
              rcases hin with ⟨rfl, rfl⟩ | hin <;> rcases hin' with ⟨hkey, rfl⟩ | hin'
              · rfl
              · exact (hmine _ hin').symm
              · exact hmine _ (hkey ▸ hin)
              · exact hpool.exclusive hin hin'
  | answered lockName conn answer =>
      rcases answer with error | acquired
      · simp only [resumeLockCall]
        split
        · obtain ⟨hadvisory, hb, hc⟩ := tryLocally_frame
            { c.world with lockMode := .inProcess } lockName conn input.now
          exact hsame hadvisory hb hc
        · exact hsame rfl rfl rfl
      · cases acquired <;> exact hsame rfl rfl rfl
  | running lockName conn usedLocalFallback =>
      simp only [resumeLockCall]
      split <;> exact hsame rfl rfl rfl
  | unlocking lockName conn =>
      simp only [resumeLockCall]
      cases hfailure : input.failure with
      | some error => exact hsame rfl rfl rfl
      | none =>
          refine ⟨hpool.connections.update_of_same hp (fun _ => Iff.rfl) rfl,
            hpool.nodup.erase _, fun hin hin' => ?_⟩
          exact hpool.exclusive (List.mem_of_mem_erase hin) (List.mem_of_mem_erase hin')
  | releasing conn =>
      refine ⟨hpool.connections.update_release conn hp rfl rfl fun conn' => ?_,
        hpool.nodup, hpool.exclusive⟩
      simp [resumeLockCall, and_comm]

/-- A new call has acquired nothing. -/
theorem lockStep_invoke (hp : c.pending p = none) (lockName : String) (input : LockInput Conn) :
    lockStep toLowerCase lockKey c (.invoke p lockName input)
      = ⟨c.world, Function.update c.pending p (some (.connecting lockName))⟩ :=
  step_invoke hp

/-- Each event keeps the database and the pool in order. -/
theorem PoolSound.step (hpool : PoolSound c) (h : Disciplined lockKey c) (e : LockEvent Conn) :
    PoolSound (lockStep toLowerCase lockKey c e) := by
  cases e with
  | invoke p lockName input =>
      cases hp : c.pending p with
      | some l => rw [lockStep, step_invoke_busy hp]; exact hpool
      | none =>
          rw [lockStep_invoke hp]
          exact ⟨hpool.connections.update_of_same hp (fun _ => Iff.rfl) rfl, hpool.nodup,
            hpool.exclusive⟩
  | resume p input =>
      cases hp : c.pending p with
      | none => rw [lockStep, step_resume_idle hp]; exact hpool
      | some l => exact hpool.resume h hp input
  | env e => exact e.elim

/-- **One event** keeps the discipline exactly when it keeps to the mechanism of its lock. -/
theorem disciplined_step_iff (hpool : PoolSound c) (h : Disciplined lockKey c)
    (e : LockEvent Conn) :
    Disciplined lockKey (lockStep toLowerCase lockKey c e) ↔ KeepsMechanism toLowerCase c e := by
  cases e with
  | invoke p lockName input =>
      refine iff_of_true ?_ trivial
      cases hp : c.pending p with
      | some l => rw [lockStep, step_invoke_busy hp]; exact h
      | none =>
          rw [lockStep_invoke hp]
          exact h.quiet hp (fun _ => Iff.rfl) rfl rfl
  | resume p input =>
      cases hp : c.pending p with
      | none =>
          rw [lockStep, step_resume_idle hp]
          exact iff_of_true h (by simp only [KeepsMechanism, hp])
      | some l => exact disciplined_resume_iff hpool h hp input
  | env e => exact e.elim

variable (toLowerCase lockKey)

/-- **Mutual exclusion and matched release.**  In every interleaving of calls of `runWithLock`,
the calls keep to their locks exactly as long as each step keeps to the mechanism that its lock
was acquired with. -/
theorem runWithLock_disciplined_iff (es : List (LockEvent Conn)) :
    (∀ es₁ es₂, es = es₁ ++ es₂ → Disciplined lockKey
        (run (lockStep toLowerCase lockKey) (Config.idle ({} : LockWorld Key Conn)) es₁)) ↔
      Along (lockStep toLowerCase lockKey) (KeepsMechanism toLowerCase) (Config.idle {}) es := by
  refine prefixes_iff_along (A := PoolSound) (I := Disciplined lockKey)
    (fun c e hpool h _ => hpool.step h e) (fun c e hpool h => disciplined_step_iff hpool h e)
    ⟨accounted_idle_iff.mpr (by simp), List.nodup_nil, fun hin => absurd hin List.not_mem_nil⟩
    ⟨fun p q l l' _ hp => by simp at hp, accounted_idle_iff.mpr fun lock => ?_⟩
  cases lock <;> simp [LockWorld.Holds]

end Proofs

/-! ## A fallback while the advisory lock is held -/

/-- The beginning of the digest of `metrics-retention`. -/
def retentionKey : String → ℤ × ℤ := fun _ => (-2071519881, -493366351)

/-- The database has no advisory locks for one connection. -/
def noAdvisoryLocks : QueryError :=
  ⟨true, "function pg_try_advisory_lock(integer,integer) does not exist"⟩

/-- A call runs its callback under the advisory lock; then the query of another fails. -/
def fallsBack : List (LockEvent ℕ) :=
  [.invoke 0 "metrics-retention" {}, .resume 0 { connection := some 10 }, .resume 0 {},
    .resume 0 {},
    .invoke 1 "metrics-retention" {}, .resume 1 { connection := some 11 },
    .resume 1 { failure := some noAdvisoryLocks }, .resume 1 {}]

/-- **Both callbacks run**, one under the advisory lock and one under the local lock. -/
theorem fallsBack_overlaps : ¬ ∀ es₁ es₂, fallsBack = es₁ ++ es₂ → Disciplined retentionKey
    (run (lockStep id retentionKey) (Config.idle ({} : LockWorld (ℤ × ℤ) ℕ)) es₁) := by
  intro h
  have hall := (h fallsBack [] (List.append_nil _).symm).exclusive
  exact hall 0 1 (.running "metrics-retention" 10 false) (.running "metrics-retention" 11 true)
    (by decide) (by decide +kernel) (by decide +kernel) "metrics-retention" rfl rfl

end ClusterLockService
