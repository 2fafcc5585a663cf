/-
# Long polls for work

`claimForAgent` repeats one UPDATE whose WHERE clause compares the id with a
subquery.  At isolation level READ COMMITTED such a statement takes two steps:
the subquery is evaluated on the snapshot of the statement, and the UPDATE then
takes effect on the row with that id as it is by then, because after waiting for
a row lock only `id = value` is checked again.  `requeueExpiredLeases` is cut in
the same way.

The world carries the clock and, as history, the grants: which task was handed
out, with which token, when, and until when.
-/
import NoderaxApi.TasksService
import NoderaxApi.Interleaving

namespace TasksService

open Interleaving Runs

/-! ## The polls -/

/-- A task handed out by a poll. -/
structure ClaimGrant where
  taskId : Uuid
  claimToken : Uuid
  handedOutAt : ℤ
  leaseUntil : ℤ
  deriving DecidableEq, Repr

/-- The tables, the clock, and the grants so far, the latest last. -/
structure ClaimWorld where
  db : TaskTables
  clock : ℤ
  grants : List ClaimGrant := []

/-- A long poll, or a requeue statement. -/
inductive ClaimRequest
  | claimForAgent (nodeId : Uuid) (waitMs : Option ℤ) (configured : ℤ)
  | requeueExpiredLeases

/-- What is left of a poll or a requeue. -/
inductive PendingClaim
  /-- `claimNextTaskOnce` is called next. -/
  | poll (nodeId : Uuid) (configured deadline : ℤ)
  /-- The subquery is evaluated next. -/
  | select (nodeId : Uuid) (configured deadline now : ℤ) (claimToken : Uuid)
  /-- The UPDATE takes effect next, on the id the subquery answered. -/
  | update (nodeId : Uuid) (configured deadline now : ℤ) (claimToken : Uuid) (chosen : Option Uuid)
  /-- The subquery of the requeue is evaluated next. -/
  | requeueSelect (now : ℤ)
  /-- The requeue takes effect next, on the ids its subquery answered. -/
  | requeueUpdate (now : ℤ) (ids : List Uuid)

/-- What a step receives: a fresh uuid, and which of the oldest claimable rows
the subquery answers. -/
structure ClaimInput where
  claimToken : Uuid := ""
  chosen : Uuid := ""

/-- The start of a poll or a requeue. -/
def invokeClaim (request : ClaimRequest) (_ : ClaimInput) (w : ClaimWorld) :
    ClaimWorld × Option PendingClaim :=
  match request with
  | .claimForAgent nodeId waitMs configured =>
      match NodesService.findOneOrFail w.db.nodes nodeId none with
      | .error _ => (w, none)
      | .ok _ => (w, some (.poll nodeId configured (w.clock + max (waitMs.getD 15000) 0)))
  | .requeueExpiredLeases => (w, some (.requeueSelect w.clock))

/-- The next step of a poll or a requeue. -/
def resumeClaim (call : PendingClaim) (input : ClaimInput) (w : ClaimWorld) :
    ClaimWorld × Option PendingClaim :=
  match call with
  | .poll nodeId configured deadline =>
      (w, some (.select nodeId configured deadline w.clock input.claimToken))
  | .select nodeId configured deadline now claimToken =>
      (w, some (.update nodeId configured deadline now claimToken
        (if isOldestClaimable w.db now nodeId input.chosen then some input.chosen else none)))
  | .update nodeId configured deadline now claimToken chosen =>
      match chosen.bind w.db.findTask with
      | none => (w, if deadline ≤ w.clock then none else some (.poll nodeId configured deadline))
      | some row =>
          ({ w with
              db := w.db.updateTasks (fun task => task.id = row.id)
                (claimedBy now configured nodeId claimToken)
              grants := w.grants ++ [{
                taskId := row.id
                claimToken := claimToken
                handedOutAt := w.clock
                leaseUntil := now + getClaimLeaseSeconds configured * 1000 }] }, none)
  | .requeueSelect now =>
      (w, some (.requeueUpdate now ((w.db.tasks.filter fun task =>
        leaseExpired now task && nodeInService w.db.nodes task.nodeId).map (·.id))))
  | .requeueUpdate _ ids =>
      ({ w with db := w.db.updateTasks (fun task => task.id ∈ ids) requeued }, none)

/-- The family of polls. -/
def claimCalls : Calls ClaimWorld ClaimRequest PendingClaim ClaimInput := ⟨invokeClaim, resumeClaim⟩

/-- Time passes, tasks are created, other services change the nodes. -/
inductive ClaimEnv
  | advance (ms : ℕ)
  | insertTask (task : TaskEntity)
  | nodesChanged (nodes : List NodeEntity)

/-- A step of the environment. -/
def claimEnv (e : ClaimEnv) (w : ClaimWorld) : ClaimWorld :=
  match e with
  | .advance ms => { w with clock := w.clock + ms }
  | .insertTask task =>
      if (w.db.findTask task.id).isSome then w
      else { w with db := { w.db with tasks := w.db.tasks ++ [task] } }
  | .nodesChanged nodes => { w with db := { w.db with nodes := nodes } }

/-- A state of the polls, which are numbered. -/
abbrev ClaimConfig := Config ℕ ClaimWorld PendingClaim

/-- An event of the polls. -/
abbrev ClaimEvent := Event ℕ ClaimRequest ClaimInput ClaimEnv

/-- The state after the events `es`, from the tables `db` at time `clock`. -/
abbrev pollRun (db : TaskTables) (clock : ℤ) (es : List ClaimEvent) : ClaimConfig :=
  run (Interleaving.step claimCalls claimEnv) (Config.idle { db := db, clock := clock }) es

/-! ## The condition and the invariant -/

/-- The row is free for a statement that started at `now`: QUEUED, or its lease
had expired. -/
def Free (now : ℤ) (row : TaskEntity) : Prop := row.status = .queued ∨ leaseExpired now row = true

instance (now : ℤ) (row : TaskEntity) : Decidable (Free now row) := by
  unfold Free; infer_instance

/-- The rows that a statement is about to write are still free for it. -/
def WritesFree (w : ClaimWorld) (call : PendingClaim) (_ : ClaimInput) : Prop :=
  match call with
  | .update _ _ _ now _ chosen => ∀ id ∈ chosen, ∀ row ∈ w.db.findTask id, Free now row
  | .requeueUpdate now ids => ∀ id ∈ ids, ∀ row ∈ w.db.findTask id, Free now row
  | _ => True

instance (w : ClaimWorld) (call : PendingClaim) (input : ClaimInput) :
    Decidable (WritesFree w call input) := by
  cases call <;> unfold WritesFree <;> infer_instance

/-- Every statement of the run finds the rows it writes still free. -/
def StatementsWriteFree : ClaimConfig → ClaimEvent → Prop := ResumeGuard WritesFree

instance (c : ClaimConfig) (e : ClaimEvent) : Decidable (StatementsWriteFree c e) := by
  unfold StatementsWriteFree ResumeGuard; infer_instance

/-- The ids of the rows that the next step of a poll or a requeue writes. -/
def PendingClaim.targets : PendingClaim → List Uuid
  | .update _ _ _ _ _ chosen => chosen.toList
  | .requeueUpdate _ ids => ids
  | _ => []

/-- What a subquery answers is free in the snapshot it was evaluated on. -/
theorem writesFree_resumeClaim {w w' : ClaimWorld} {call next : PendingClaim}
    {input input' : ClaimInput} (hkeys : (w.db.tasks.map TaskEntity.id).Nodup)
    (hnext : (resumeClaim call input w).2 = some next)
    (hsame : next.targets.map w'.db.findTask
      = next.targets.map (resumeClaim call input w).1.db.findTask) :
    WritesFree w' next input' := by
  cases call with
  | poll nodeId configured deadline =>
      cases hnext
      trivial
  | select nodeId configured deadline now claimToken =>
      cases hnext
      intro id hid row hrow
      split at hid
      · next holdest =>
          obtain rfl : input.chosen = id := by simpa using hid
          have hfind : w.db.findTask input.chosen = some row := by
            simp only [PendingClaim.targets, if_pos holdest, Option.toList_some, List.map_cons,
              List.map_nil, List.cons.injEq, and_true] at hsame
            exact hsame ▸ hrow
          have hclaimable := isClaimable_of_isOldestClaimable holdest hfind
          unfold isClaimable at hclaimable
          simpa [Free] using (Bool.and_eq_true_iff.mp hclaimable).2
      · cases hid
  | update nodeId configured deadline now claimToken chosen =>
      simp only [resumeClaim] at hnext
      split at hnext
      · split at hnext
        · cases hnext
        · cases hnext
          trivial
      · cases hnext
  | requeueSelect now =>
      cases hnext
      intro id hid row hrow
      have hfind : w.db.findTask id = some row := by
        have hrows := List.map_inj_left.mp hsame id hid
        exact hrows ▸ hrow
      obtain ⟨expired, hmem, rfl⟩ := List.mem_map.mp hid
      obtain ⟨htask, hexpired⟩ := List.mem_filter.mp hmem
      have hself : w.db.findTask expired.id = some expired :=
        KeyedTable.find_of_mem hkeys htask
      rw [hself] at hfind
      cases hfind
      exact Or.inr (Bool.and_eq_true_iff.mp hexpired).1
  | requeueUpdate now ids => cases hnext

/-- **A statement whose rows nobody writes** between its subquery and its effect finds them
free: the WHERE clause of the subquery has seen to it. -/
theorem statementsWriteFree_of_keeps {c : ClaimConfig} {es : List ClaimEvent} {p : ℕ}
    {call next : PendingClaim} {input input' : ClaimInput}
    (hkeys : (c.world.db.tasks.map TaskEntity.id).Nodup) (hp : c.pending p = some call)
    (hnext : (resumeClaim call input c.world).2 = some next)
    (hkeeps : Keeps claimCalls claimEnv (fun w => next.targets.map w.db.findTask)
      (Interleaving.step claimCalls claimEnv c (.resume p input)) es)
    (hes : ∀ e ∈ es, e.caller? ≠ some p) :
    StatementsWriteFree (run (Interleaving.step claimCalls claimEnv)
      (Interleaving.step claimCalls claimEnv c (.resume p input)) es) (.resume p input') := by
  refine hkeeps.resumeGuard hes fun l hl w hw => ?_
  rw [step_resume hp] at hl hw
  dsimp only at hl
  rw [Function.update_self] at hl
  obtain rfl : l = next := Option.some.inj (hl.symm.trans hnext)
  exact writesFree_resumeClaim hkeys hnext hw

/-- The row carries the grant. -/
def Carries (db : TaskTables) (grant : ClaimGrant) : Prop :=
  ∃ row, db.findTask grant.taskId = some row ∧ row.status = .accepted ∧
    row.claimToken = some grant.claimToken ∧ row.leaseUntil = some grant.leaseUntil

/-- Live grants are in the table, and grants of one task do not overlap. -/
structure ClaimInv (w : ClaimWorld) : Prop where
  live : ∀ grant ∈ w.grants, w.clock < grant.leaseUntil → Carries w.db grant
  disjoint : w.grants.Pairwise fun grant later =>
    grant.taskId = later.taskId → grant.leaseUntil ≤ later.handedOutAt

/-- A statement under way started in the past. -/
def StartedBefore (w : ClaimWorld) : PendingClaim → Prop
  | .select _ _ _ now _ | .update _ _ _ now _ _ | .requeueSelect now | .requeueUpdate now _ =>
      now ≤ w.clock
  | .poll _ _ _ => True

theorem StartedBefore.mono {w w' : ClaimWorld} {call : PendingClaim} (hclock : w.clock ≤ w'.clock)
    (h : StartedBefore w call) : StartedBefore w' call := by
  cases call with
  | poll _ _ _ => trivial
  | _ => exact Int.le_trans h hclock

/-! ## Steps -/

/-- A row that carries a live grant is not free. -/
theorem not_free_of_live {clock now : ℤ} {grant : ClaimGrant} {row : TaskEntity}
    (hstatus : row.status = .accepted) (hlease : row.leaseUntil = some grant.leaseUntil)
    (hlive : clock < grant.leaseUntil) (hnow : now ≤ clock) : ¬ Free now row := by
  rintro (hqueued | hexpired)
  · rw [hstatus] at hqueued
    cases hqueued
  · unfold leaseExpired at hexpired
    rw [hlease] at hexpired
    have hle : grant.leaseUntil ≤ now := by simpa using (Bool.and_eq_true_iff.mp hexpired).2
    omega

/-- A write to free rows leaves the rows of live grants alone. -/
theorem Carries.updateTasks {w : ClaimWorld} {now : ℤ} {grant : ClaimGrant}
    {p : TaskEntity → Bool} {f : TaskEntity → TaskEntity} (hf : ∀ task, (f task).id = task.id)
    (hlive : w.clock < grant.leaseUntil) (hnow : now ≤ w.clock)
    (hfree : ∀ row, w.db.findTask grant.taskId = some row → p row = true → Free now row)
    (h : Carries w.db grant) : Carries (w.db.updateTasks p f) grant := by
  obtain ⟨row, hfind, hstatus, htoken, hlease⟩ := h
  refine ⟨row, ?_, hstatus, htoken, hlease⟩
  rw [TaskTables.findTask_updateTasks hf, hfind, Option.map_some]
  congr 1
  refine if_neg ?_
  intro hp
  exact not_free_of_live hstatus hlease hlive hnow (hfree row hfind hp)

/-- **The UPDATE of a claim** that finds its row free. -/
theorem ClaimInv.claim {w : ClaimWorld} {now configured : ℤ} {nodeId claimToken : Uuid}
    {row : TaskEntity} (h : ClaimInv w) (hnow : now ≤ w.clock)
    (hfind : w.db.findTask row.id = some row) (hfree : Free now row) :
    ClaimInv { w with
      db := w.db.updateTasks (fun task => task.id = row.id)
        (claimedBy now configured nodeId claimToken)
      grants := w.grants ++ [{
        taskId := row.id
        claimToken := claimToken
        handedOutAt := w.clock
        leaseUntil := now + getClaimLeaseSeconds configured * 1000 }] } := by
  have hkeeps : ∀ task, (claimedBy now configured nodeId claimToken task).id = task.id :=
    fun _ => rfl
  refine ⟨?_, ?_⟩
  · intro grant hgrant hlive
    rcases List.mem_append.mp hgrant with hold | hnew
    · refine (h.live grant hold hlive).updateTasks hkeeps hlive hnow ?_
      intro other hother hp
      have hid : other.id = row.id := by simpa using hp
      rw [← TaskTables.id_of_findTask hother, hid, hfind] at hother
      cases hother
      exact hfree
    · rw [List.mem_singleton] at hnew
      subst hnew
      refine ⟨claimedBy now configured nodeId claimToken row, ?_, rfl, rfl, rfl⟩
      rw [TaskTables.findTask_updateTasks hkeeps, hfind, Option.map_some, if_pos (by simp)]
  · rw [List.pairwise_append]
    refine ⟨h.disjoint, List.pairwise_singleton _ _, ?_⟩
    intro grant hold later hlater htask
    rw [List.mem_singleton] at hlater
    subst hlater
    show grant.leaseUntil ≤ w.clock
    by_contra hoverlap
    -- an earlier grant that is still live keeps the row from being free
    have hlive : w.clock < grant.leaseUntil := by omega
    obtain ⟨row', hfind', hstatus, _, hlease⟩ := h.live grant hold hlive
    have htask : grant.taskId = row.id := htask
    rw [htask, hfind] at hfind'
    cases hfind'
    exact not_free_of_live hstatus hlease hlive hnow hfree

/-- **A requeue** that finds its rows free. -/
theorem ClaimInv.requeue {w : ClaimWorld} {now : ℤ} {ids : List Uuid} (h : ClaimInv w)
    (hnow : now ≤ w.clock) (hfree : ∀ id ∈ ids, ∀ row ∈ w.db.findTask id, Free now row) :
    ClaimInv { w with db := w.db.updateTasks (fun task => task.id ∈ ids) requeued } := by
  refine ⟨?_, h.disjoint⟩
  intro grant hgrant hlive
  refine (h.live grant hgrant hlive).updateTasks (fun _ => rfl) hlive hnow ?_
  intro row hfind hp
  have hid : row.id ∈ ids := by simpa using hp
  rw [TaskTables.id_of_findTask hfind] at hid
  exact hfree grant.taskId hid row hfind

/-- Time passes, tasks are created, nodes change: live grants stay in the table. -/
theorem ClaimInv.environment {w : ClaimWorld} (e : ClaimEnv) (h : ClaimInv w) :
    ClaimInv (claimEnv e w) := by
  cases e with
  | advance ms =>
      refine ⟨?_, h.disjoint⟩
      intro grant hgrant hlive
      -- a lease that is live later is live now
      have hbefore : w.clock < grant.leaseUntil := by
        simp only [claimEnv] at hlive
        omega
      exact h.live grant hgrant hbefore
  | insertTask task =>
      simp only [claimEnv]
      split
      · exact h
      · next hnew =>
          refine ⟨?_, h.disjoint⟩
          intro grant hgrant hlive
          obtain ⟨row, hfind, hrow⟩ := h.live grant hgrant hlive
          have hnone : w.db.findTask task.id = none := by simpa using hnew
          refine ⟨row, ?_, hrow⟩
          show KeyedTable.find TaskEntity.id (w.db.tasks ++ [task]) grant.taskId = some row
          rw [KeyedTable.find_append_new hnone, if_neg]
          · exact hfind
          · intro hsame
            rw [hsame, hnone] at hfind
            cases hfind
  | nodesChanged nodes => exact ⟨h.live, h.disjoint⟩

/-- The first step of a poll or a requeue reads only. -/
theorem claimInv_invoke {w : ClaimWorld} (request : ClaimRequest) (input : ClaimInput)
    (h : ClaimInv w) :
    ClaimInv (invokeClaim request input w).1 ∧
      ∀ call, (invokeClaim request input w).2 = some call →
        StartedBefore (invokeClaim request input w).1 call := by
  cases request with
  | claimForAgent nodeId waitMs configured =>
      simp only [invokeClaim]
      split
      · exact ⟨h, fun _ hcall => by cases hcall⟩
      · exact ⟨h, fun _ hcall => by cases hcall; trivial⟩
  | requeueExpiredLeases => exact ⟨h, fun _ hcall => by cases hcall; exact Int.le_refl _⟩

/-- A later step, whose statement finds the rows it writes free. -/
theorem claimInv_resume {w : ClaimWorld} {call : PendingClaim} {input : ClaimInput}
    (h : ClaimInv w) (hstarted : StartedBefore w call) (hfree : WritesFree w call input) :
    ClaimInv (resumeClaim call input w).1 ∧
      ∀ next, (resumeClaim call input w).2 = some next →
        StartedBefore (resumeClaim call input w).1 next := by
  cases call with
  | poll nodeId configured deadline =>
      exact ⟨h, fun _ hcall => by cases hcall; exact Int.le_refl _⟩
  | select nodeId configured deadline now claimToken =>
      exact ⟨h, fun _ hcall => by cases hcall; exact hstarted⟩
  | update nodeId configured deadline now claimToken chosen =>
      simp only [resumeClaim]
      split
      · -- nothing was claimed: the poll returns or goes on until its deadline
        refine ⟨h, ?_⟩
        intro next hnext
        split at hnext
        · cases hnext
        · cases hnext
          trivial
      · next row hrow =>
          obtain ⟨id, hchosen, hfind⟩ := Option.bind_eq_some_iff.mp hrow
          have hfreeRow : Free now row := hfree id hchosen row hfind
          rw [← TaskTables.id_of_findTask hfind] at hfind
          exact ⟨h.claim hstarted hfind hfreeRow, fun _ hcall => by cases hcall⟩
  | requeueSelect now => exact ⟨h, fun _ hcall => by cases hcall; exact hstarted⟩
  | requeueUpdate now ids => exact ⟨h.requeue hstarted hfree, fun _ hcall => by cases hcall⟩

/-! The clock never goes back. -/

theorem clock_le_invokeClaim (request : ClaimRequest) (input : ClaimInput) (w : ClaimWorld) :
    w.clock ≤ (invokeClaim request input w).1.clock := by
  cases request with
  | claimForAgent nodeId waitMs configured =>
      simp only [invokeClaim]
      split <;> exact Int.le_refl _
  | requeueExpiredLeases => exact Int.le_refl _

theorem clock_le_resumeClaim (call : PendingClaim) (input : ClaimInput) (w : ClaimWorld) :
    w.clock ≤ (resumeClaim call input w).1.clock := by
  cases call with
  | update nodeId configured deadline now claimToken chosen =>
      simp only [resumeClaim]
      split <;> exact Int.le_refl _
  | _ => exact Int.le_refl _

theorem clock_le_claimEnv (e : ClaimEnv) (w : ClaimWorld) : w.clock ≤ (claimEnv e w).clock := by
  cases e with
  | advance ms =>
      simp only [claimEnv]
      omega
  | insertTask task =>
      simp only [claimEnv]
      split <;> exact Int.le_refl _
  | nodesChanged nodes => exact Int.le_refl _

/-- The proof outline of the polls. -/
theorem claim_outline :
    Outline claimCalls claimEnv (fun _ _ _ => True) WritesFree (fun _ _ => True)
      ClaimInv StartedBefore where
  invoke := by
    intro w request input h _
    exact claimInv_invoke request input h
  resume h hstarted hfree := claimInv_resume h hstarted hfree
  environment h _ := h.environment _
  invoke_stable := by
    intro w request input call _ _ hcall
    exact hcall.mono (clock_le_invokeClaim request input w)
  resume_stable := by
    intro w call input other _ _ _ hother
    exact hother.mono (clock_le_resumeClaim call input w)
  environment_stable _ _ hcall := hcall.mono (clock_le_claimEnv _ _)

/-! ## Exclusive claims -/

/-- **Claims are exclusive** in every interleaving in which each statement finds
the rows it writes still free: the grants of one task do not overlap, and the
token in the table is the one of the poll that holds the live grant. -/
theorem claims_exclusive (db : TaskTables) (clock : ℤ) (es : List ClaimEvent)
    (hes : Along (Interleaving.step claimCalls claimEnv) StatementsWriteFree
      (Config.idle { db := db, clock := clock }) es) :
    ((pollRun db clock es).world.grants.Pairwise fun grant later =>
      grant.taskId = later.taskId → grant.leaseUntil ≤ later.handedOutAt) ∧
    ∀ grant ∈ (pollRun db clock es).world.grants,
      (pollRun db clock es).world.clock < grant.leaseUntil →
      ∃ row, (pollRun db clock es).world.db.findTask grant.taskId = some row ∧
        row.claimToken = some grant.claimToken := by
  have hinit : ClaimInv { db := db, clock := clock } := by
    refine ⟨?_, List.Pairwise.nil⟩
    intro grant hgrant
    cases hgrant
  have hinv : ClaimInv (pollRun db clock es).world := (claim_outline.run (good_idle hinit) hes).1
  refine ⟨hinv.disjoint, ?_⟩
  intro grant hgrant hlive
  obtain ⟨row, hfind, _, htoken, _⟩ := hinv.live grant hgrant hlive
  exact ⟨row, hfind, htoken⟩

/-- One queued task on a node in service. -/
def sampleQueue : TaskTables where
  tasks := [{ id := "t1", workspaceId := "w1", nodeId := "n1", type := "shell.exec",
              createdAt := 0 }]
  nodes := [{ id := "n1", workspaceId := "w1", hostname := "host-1" }]

/-- Two polls, one after the other: the second finds nothing to claim. -/
def pollsInTurn : List ClaimEvent :=
  [.invoke 0 (.claimForAgent "n1" none 30) {}, .resume 0 { claimToken := "c0" },
    .resume 0 { chosen := "t1" }, .resume 0 {},
    .invoke 1 (.claimForAgent "n1" none 30) {}, .resume 1 { claimToken := "c1" },
    .resume 1 { chosen := "t1" }, .resume 1 {}]

theorem claims_exclusive_in_turn :
    ∃ row, (pollRun sampleQueue 0 pollsInTurn).world.db.findTask "t1" = some row ∧
      row.claimToken = some "c0" := by
  have hgrants : (pollRun sampleQueue 0 pollsInTurn).world.grants
      = [{ taskId := "t1", claimToken := "c0", handedOutAt := 0, leaseUntil := 30000 }] := by
    decide
  refine (claims_exclusive sampleQueue 0 pollsInTurn (by decide)).2
    { taskId := "t1", claimToken := "c0", handedOutAt := 0, leaseUntil := 30000 } ?_ (by decide)
  rw [hgrants]
  exact List.mem_singleton_self _

/-- Two polls whose subqueries see the same queued task: both take it. -/
def pollsAtOnce : List ClaimEvent :=
  [.invoke 0 (.claimForAgent "n1" none 30) {}, .invoke 1 (.claimForAgent "n1" none 30) {},
    .resume 0 { claimToken := "c0" }, .resume 1 { claimToken := "c1" },
    .resume 0 { chosen := "t1" }, .resume 1 { chosen := "t1" }, .resume 0 {}, .resume 1 {}]

/-- A task can be handed out twice, and the first poll's token is overwritten
while its lease is live. -/
theorem claims_not_exclusive :
    ¬ ∀ (db : TaskTables) (clock : ℤ) (es : List ClaimEvent),
      ((pollRun db clock es).world.grants.Pairwise fun grant later =>
        grant.taskId = later.taskId → grant.leaseUntil ≤ later.handedOutAt) ∧
      ∀ grant ∈ (pollRun db clock es).world.grants,
        (pollRun db clock es).world.clock < grant.leaseUntil →
        ∃ row, (pollRun db clock es).world.db.findTask grant.taskId = some row ∧
          row.claimToken = some grant.claimToken := by
  intro hall
  have hoverlap : ¬ (pollRun sampleQueue 0 pollsAtOnce).world.grants.Pairwise fun grant later =>
      grant.taskId = later.taskId → grant.leaseUntil ≤ later.handedOutAt := by
    decide
  exact hoverlap (hall sampleQueue 0 pollsAtOnce).1

end TasksService
