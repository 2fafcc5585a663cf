/-
# Isolation of the task machine

Every event of the task machine, taken on two states of the tables that differ
in the tasks of one agent only, ends in two such states again.
-/
import NoderaxApi.TaskIsolation

namespace TasksService

variable {agent : Uuid} {db db' db₁ db₁' : TaskTables} {taskId nodeId : Uuid}

/-- Both sides move by steps of the agent itself. -/
theorem SameElsewhere.of_own (h : SameElsewhere agent db db') (h₁ : SameElsewhere agent db db₁)
    (h₁' : SameElsewhere agent db' db₁') : SameElsewhere agent db₁ db₁' :=
  h₁.symm.trans (h.trans h₁')

/-! ## The claimed HTTP path -/

theorem acceptClaimedTaskForAgent_own {now : ℤ} {dto : AgentTaskHttpDto} {duplicate : Bool}
    (h : acceptClaimedTaskForAgent db now taskId agent dto = .ok (db', duplicate)) :
    SameElsewhere agent db db' := by
  unfold acceptClaimedTaskForAgent at h
  obtain ⟨_, _, h⟩ := bind_eq_ok.mp h
  obtain ⟨loaded, hloaded, h⟩ := bind_eq_ok.mp h
  obtain ⟨hfind, hnode⟩ := findTaskForNodeOrFail_ok hloaded
  split at h
  · cases h
    exact .refl _
  · split at h
    · cases h
    · split at h
      · cases h
        exact .refl _
      · obtain ⟨_, _, h⟩ := bind_eq_ok.mp h
        cases h
        refine sameElsewhere_saveLogs ⟨loaded, hfind, hnode⟩ ?_
        intro log hlog
        rw [List.mem_singleton] at hlog
        rw [hlog]

theorem acceptClaimedTaskForAgent_other (h : SameElsewhere agent db db') (hnode : nodeId ≠ agent)
    (now : ℤ) (dto : AgentTaskHttpDto) :
    SameOutcome (SameResult agent) (acceptClaimedTaskForAgent db now taskId nodeId dto)
      (acceptClaimedTaskForAgent db' now taskId nodeId dto) := by
  unfold acceptClaimedTaskForAgent
  refine .bind rfl fun _ _ => .bind (h.findTaskForNodeOrFail hnode) fun loaded _ => ?_
  split
  · exact ⟨h, rfl⟩
  · split
    · exact .throw _
    · split
      · exact ⟨h, rfl⟩
      · exact .bind rfl fun _ _ => ⟨h.saveLogs _, rfl⟩

theorem startedClaim_id (startedAt : ℤ) (task : TaskEntity) :
    (startedClaim startedAt task).id = task.id := rfl

theorem startedClaim_nodeId (startedAt : ℤ) (task : TaskEntity) :
    (startedClaim startedAt task).nodeId = task.nodeId := rfl

theorem startClaimedTaskForAgent_own {now : ℤ} {dto : AgentTaskHttpDto} {task : TaskEntity}
    (h : startClaimedTaskForAgent db now taskId agent dto = .ok (db', task)) :
    SameElsewhere agent db db' := by
  unfold startClaimedTaskForAgent at h
  obtain ⟨_, _, h⟩ := bind_eq_ok.mp h
  obtain ⟨loaded, _, h⟩ := bind_eq_ok.mp h
  obtain ⟨decision, _, h⟩ := bind_eq_ok.mp h
  cases decision with
  | none =>
      cases h
      exact .refl _
  | some _ =>
      dsimp only at h
      split at h
      · obtain ⟨_, _, hfound⟩ := bind_eq_ok.mp h
        cases hfound
        refine sameElsewhere_updateTasks (fun _ => rfl) (fun _ => rfl) ?_
        intro id row _ hstartable
        simp only [isStartableClaim, Bool.and_eq_true, decide_eq_true_eq] at hstartable
        exact hstartable.1.1.2
      · cases h

theorem startClaimedTaskForAgent_other (h : SameElsewhere agent db db') (hnode : nodeId ≠ agent)
    (now : ℤ) (dto : AgentTaskHttpDto) :
    SameOutcome (SameResult agent) (startClaimedTaskForAgent db now taskId nodeId dto)
      (startClaimedTaskForAgent db' now taskId nodeId dto) := by
  unfold startClaimedTaskForAgent
  refine .bind rfl fun _ _ => .bind (h.findTaskForNodeOrFail hnode) fun loaded hloaded => ?_
  refine .bind rfl fun decision _ => ?_
  cases decision with
  | none => exact ⟨h, rfl⟩
  | some _ =>
      rw [← h.findTaskForNodeOrFail hnode] at hloaded
      have hother := not_owned_of_loaded hloaded hnode
      dsimp only
      rw [h.findTask_eq hother]
      split
      · have hupdated := h.updateTasks (p := isStartableClaim taskId nodeId)
          (startedClaim_id (timestampOr now dto.timestamp)) (startedClaim_nodeId _)
        refine .bind (hupdated.findOneOrFail ?_ none) fun task _ => ⟨hupdated, rfl⟩
        rw [owned_updateTasks (startedClaim_id _) (startedClaim_nodeId _)]
        exact hother
      · exact .throw _

theorem appendClaimedTaskLogForAgent_own {now : ℤ} {dto : AgentTaskLogHttpDto}
    (h : appendClaimedTaskLogForAgent db now taskId agent dto = .ok db') :
    SameElsewhere agent db db' := by
  unfold appendClaimedTaskLogForAgent at h
  obtain ⟨_, _, h⟩ := bind_eq_ok.mp h
  obtain ⟨loaded, hloaded, h⟩ := bind_eq_ok.mp h
  obtain ⟨decision, hdecision, h⟩ := bind_eq_ok.mp h
  cases decision with
  | none =>
      cases h
      exact .refl _
  | some saved =>
      cases h
      obtain ⟨-, output, rfl⟩ := Loaded.appendClaimedTaskLogForAgent_ok hdecision
      refine sameElsewhere_save_logs hloaded rfl rfl ?_
      intro log hlog
      rw [List.mem_singleton] at hlog
      rw [hlog]

theorem appendClaimedTaskLogForAgent_other (h : SameElsewhere agent db db')
    (hnode : nodeId ≠ agent) (now : ℤ) (dto : AgentTaskLogHttpDto) :
    SameOutcome (SameElsewhere agent) (appendClaimedTaskLogForAgent db now taskId nodeId dto)
      (appendClaimedTaskLogForAgent db' now taskId nodeId dto) := by
  unfold appendClaimedTaskLogForAgent
  refine .bind rfl fun _ _ => .bind (h.findTaskForNodeOrFail hnode) fun loaded hloaded => ?_
  refine .bind rfl fun decision hdecision => ?_
  cases decision with
  | none => exact h
  | some saved =>
      obtain ⟨-, output, hsaved⟩ := Loaded.appendClaimedTaskLogForAgent_ok hdecision
      rw [← h.findTaskForNodeOrFail hnode] at hloaded
      have hfind := (findTaskForNodeOrFail_ok hloaded).1
      exact (h.save hfind (by rw [hsaved]) (by rw [hsaved])).saveLogs _

theorem completeClaimedTaskForAgent_own {now : ℤ} {dto : CompleteAgentTaskDto} {task : TaskEntity}
    (h : completeClaimedTaskForAgent db now taskId agent dto = .ok (db', task)) :
    SameElsewhere agent db db' := by
  unfold completeClaimedTaskForAgent at h
  obtain ⟨_, _, h⟩ := bind_eq_ok.mp h
  obtain ⟨status, hstatus, h⟩ := bind_eq_ok.mp h
  obtain ⟨loaded, hloaded, h⟩ := bind_eq_ok.mp h
  obtain ⟨decision, hdecision, h⟩ := bind_eq_ok.mp h
  cases decision with
  | none =>
      cases h
      exact .refl _
  | some saved =>
      cases h
      obtain ⟨-, -, -, hfinishes⟩ := Loaded.completeClaimedTaskForAgent_ok
        (normalizeCompletionStatus_isTerminal hstatus) hdecision
      exact sameElsewhere_save hloaded hfinishes.id hfinishes.nodeId

theorem completeClaimedTaskForAgent_other (h : SameElsewhere agent db db')
    (hnode : nodeId ≠ agent) (now : ℤ) (dto : CompleteAgentTaskDto) :
    SameOutcome (SameResult agent) (completeClaimedTaskForAgent db now taskId nodeId dto)
      (completeClaimedTaskForAgent db' now taskId nodeId dto) := by
  unfold completeClaimedTaskForAgent
  refine .bind rfl fun _ _ => .bind rfl fun status hstatus => ?_
  refine .bind (h.findTaskForNodeOrFail hnode) fun loaded hloaded => ?_
  refine .bind rfl fun decision hdecision => ?_
  cases decision with
  | none => exact ⟨h, rfl⟩
  | some saved =>
      obtain ⟨-, -, -, hfinishes⟩ := Loaded.completeClaimedTaskForAgent_ok
        (normalizeCompletionStatus_isTerminal hstatus) hdecision
      rw [← h.findTaskForNodeOrFail hnode] at hloaded
      have hfind := (findTaskForNodeOrFail_ok hloaded).1
      exact ⟨h.save hfind hfinishes.id hfinishes.nodeId, rfl⟩

/-! ## Operators and background jobs -/

/-- A save of a task of the agent, found by its id. -/
theorem Owned.save {loaded saved : TaskEntity} (howned : Owned agent db taskId)
    (hfind : db.findTask taskId = some loaded) (hid : saved.id = loaded.id)
    (hsaved : saved.nodeId = loaded.nodeId) : SameElsewhere agent db (db.saveTask saved) := by
  obtain ⟨row, hrow, hagent⟩ := howned
  rw [hfind] at hrow
  cases hrow
  refine sameElsewhere_saveTask ?_ hagent (hsaved.trans hagent)
  rw [hid, TaskTables.id_of_findTask hfind]
  exact hfind

/-- A cancellation keeps the task's id and node. -/
theorem requestTaskCancellation_keeps {now : ℤ} {dto : RequestTaskCancelDto}
    {task saved : TaskEntity} (h : Loaded.requestTaskCancellation now dto task = some saved) :
    saved.id = task.id ∧ saved.nodeId = task.nodeId := by
  rcases (Loaded.requestTaskCancellation_some h).2 with ⟨_, _, _, hfinishes⟩ | ⟨_, _, rfl⟩
  · exact ⟨hfinishes.id, hfinishes.nodeId⟩
  · exact ⟨rfl, rfl⟩

theorem requestTaskCancellation_own {now : ℤ} {workspaceId : Option Uuid}
    {writable : Except HttpError Unit} {dto : RequestTaskCancelDto} {task : TaskEntity}
    (howned : Owned agent db taskId)
    (h : requestTaskCancellation db now taskId workspaceId writable dto = .ok (db', task)) :
    SameElsewhere agent db db' := by
  unfold requestTaskCancellation at h
  obtain ⟨loaded, hloaded, h⟩ := bind_eq_ok.mp h
  obtain ⟨_, _, h⟩ := bind_eq_ok.mp h
  have hfind := findOneOrFail_ok hloaded
  split at h
  · cases h
    exact .refl _
  · next saved hdecision =>
      cases h
      obtain ⟨hid, hnode⟩ := requestTaskCancellation_keeps hdecision
      have hsave := howned.save hfind hid hnode
      refine hsave.trans (sameElsewhere_saveLogs ((hsave.owned_iff taskId).mp howned) ?_)
      intro log hlog
      unfold cancellationLogs at hlog
      split at hlog
      · rw [List.mem_singleton] at hlog
        rw [hlog]
        exact hid.trans (TaskTables.id_of_findTask hfind)
      · cases hlog

theorem requestTaskCancellation_other (h : SameElsewhere agent db db')
    (hother : ¬ Owned agent db taskId) (now : ℤ) (workspaceId : Option Uuid)
    (writable : Except HttpError Unit) (dto : RequestTaskCancelDto) :
    SameOutcome (SameResult agent) (requestTaskCancellation db now taskId workspaceId writable dto)
      (requestTaskCancellation db' now taskId workspaceId writable dto) := by
  unfold requestTaskCancellation
  refine .bind (h.findOneOrFail hother workspaceId) fun loaded hloaded => .bind rfl fun _ _ => ?_
  rw [← h.findOneOrFail hother workspaceId] at hloaded
  have hfind := findOneOrFail_ok hloaded
  split
  · exact ⟨h, rfl⟩
  · next saved hdecision =>
      obtain ⟨hid, hnode⟩ := requestTaskCancellation_keeps hdecision
      exact ⟨(h.save hfind hid hnode).saveLogs _, rfl⟩

theorem syncLinkedTaskTerminalState_own (howned : Owned agent db taskId) (now : ℤ)
    (succeeded : Bool) (detail : String) :
    SameElsewhere agent db (syncLinkedTaskTerminalState db now taskId succeeded detail) := by
  unfold syncLinkedTaskTerminalState
  split
  · exact .refl _
  · next loaded hfind =>
      split
      · exact .refl _
      · next saved hdecision =>
          obtain ⟨-, hfinishes⟩ := Loaded.syncLinkedTaskTerminalState_some hdecision
          exact howned.save hfind hfinishes.id hfinishes.nodeId

theorem syncLinkedTaskTerminalState_other (h : SameElsewhere agent db db')
    (hother : ¬ Owned agent db taskId) (now : ℤ) (succeeded : Bool) (detail : String) :
    SameElsewhere agent (syncLinkedTaskTerminalState db now taskId succeeded detail)
      (syncLinkedTaskTerminalState db' now taskId succeeded detail) := by
  unfold syncLinkedTaskTerminalState
  rw [← h.findTask_eq hother]
  split
  · exact h
  · next loaded hfind =>
      split
      · exact h
      · next saved hdecision =>
          obtain ⟨-, hfinishes⟩ := Loaded.syncLinkedTaskTerminalState_some hdecision
          exact h.save hfind hfinishes.id hfinishes.nodeId

theorem requeued_id (task : TaskEntity) : (requeued task).id = task.id := rfl

theorem failStaleTask_id (now : ℤ) (task : TaskEntity) :
    (Loaded.failStaleTask now task).id = task.id := rfl

theorem requeueExpiredLeases_both (h : SameElsewhere agent db db') (now : ℤ) :
    SameElsewhere agent (requeueExpiredLeases db now) (requeueExpiredLeases db' now) := by
  unfold requeueExpiredLeases
  rw [h.nodes]
  exact h.updateTasks (fun _ => rfl) (fun _ => rfl)

theorem failStaleTasks_both (h : SameElsewhere agent db db')
    (now queuedTimeoutSeconds runningTimeoutSeconds : ℤ) :
    SameElsewhere agent (failStaleTasks db now queuedTimeoutSeconds runningTimeoutSeconds)
      (failStaleTasks db' now queuedTimeoutSeconds runningTimeoutSeconds) := by
  have hrequeued := requeueExpiredLeases_both h now
  unfold failStaleTasks
  dsimp only
  rw [hrequeued.nodes]
  exact hrequeued.updateTasks (fun _ => rfl) (fun _ => rfl)

/-! ## Queueing and claiming -/

/-- The primary key of the `tasks` table. -/
def KeysDistinct (db : TaskTables) : Prop := (db.tasks.map TaskEntity.id).Nodup

instance (db : TaskTables) : Decidable (KeysDistinct db) := by
  unfold KeysDistinct; infer_instance

theorem SameElsewhere.keysDistinct (h : SameElsewhere agent db db') (hdb : KeysDistinct db) :
    KeysDistinct db' := by
  unfold KeysDistinct
  rw [← h.ids]
  exact hdb

/-- With distinct keys, every row is found under its id. -/
theorem findTask_of_mem (hdb : KeysDistinct db) {task : TaskEntity} (hmem : task ∈ db.tasks) :
    db.findTask task.id = some task :=
  KeyedTable.find_of_mem hdb hmem

/-- A check of all rows that does not look at the agent's. -/
theorem SameElsewhere.all_tasks (h : SameElsewhere agent db db') (hdb' : KeysDistinct db')
    {q : TaskEntity → Bool} (hq : ∀ task, task.nodeId = agent → q task = true)
    (hall : db.tasks.all q = true) : db'.tasks.all q = true := by
  rw [List.all_eq_true] at hall ⊢
  intro task hmem
  by_cases hnode : task.nodeId = agent
  · exact hq task hnode
  · have hfind' : db'.findTask task.id = some task := findTask_of_mem hdb' hmem
    have hother : ¬ Owned agent db' task.id := by
      rintro ⟨row, hrow, hagent⟩
      rw [hfind'] at hrow
      cases hrow
      exact hnode hagent
    have hfind : db.findTask task.id = some task := by
      rw [← hfind']
      exact (h.symm.findTask_eq hother).symm
    exact hall task (KeyedTable.mem_of_find hfind)

/-- The oldest claimable task of another node. -/
theorem isOldestClaimable_other (h : SameElsewhere agent db db') (hdb' : KeysDistinct db')
    (hnode : nodeId ≠ agent) {now : ℤ} {chosen : Uuid}
    (holdest : isOldestClaimable db now nodeId chosen = true) :
    isOldestClaimable db' now nodeId chosen = true := by
  have hforeign : ∀ task : TaskEntity, task.nodeId = agent →
      isClaimable now db.nodes nodeId task = false := by
    intro task htask
    have hne : ¬ agent = nodeId := hnode.symm
    simp [isClaimable, htask, hne]
  unfold isOldestClaimable at holdest ⊢
  split at holdest
  · cases holdest
  · next task hfind =>
      obtain ⟨hclaimable, hfirst⟩ := Bool.and_eq_true_iff.mp holdest
      have hother : ¬ Owned agent db chosen := by
        rintro ⟨row, hrow, hagent⟩
        rw [hfind] at hrow
        cases hrow
        rw [hforeign task hagent] at hclaimable
        cases hclaimable
      rw [← h.findTask_eq hother, hfind, ← h.nodes]
      refine Bool.and_eq_true_iff.mpr ⟨hclaimable, h.all_tasks hdb' ?_ hfirst⟩
      intro other hagent
      rw [hforeign other hagent]
      rfl

theorem claimNextTaskOnce_own (db : TaskTables) (now configured : ℤ) (claimToken chosen : Uuid) :
    SameElsewhere agent db (claimNextTaskOnce db now configured agent claimToken chosen).1 := by
  unfold claimNextTaskOnce
  split
  · next holdest =>
      refine sameElsewhere_updateTasks (fun _ => rfl) (fun _ => rfl) ?_
      intro id row hfind hid
      have hchosen : row.id = chosen := by simpa using hid
      rw [← TaskTables.id_of_findTask hfind, hchosen] at hfind
      have hclaimable := isClaimable_of_isOldestClaimable holdest hfind
      simp only [isClaimable, Bool.and_eq_true, decide_eq_true_eq] at hclaimable
      exact hclaimable.1.1.1
  · exact .refl db

theorem claimNextTaskOnce_other (h : SameElsewhere agent db db') (hdb : KeysDistinct db)
    (hnode : nodeId ≠ agent) (now configured : ℤ) (claimToken chosen : Uuid) :
    SameElsewhere agent (claimNextTaskOnce db now configured nodeId claimToken chosen).1
      (claimNextTaskOnce db' now configured nodeId claimToken chosen).1 := by
  have hsame : isOldestClaimable db now nodeId chosen
      = isOldestClaimable db' now nodeId chosen := by
    rw [Bool.eq_iff_iff]
    constructor
    · exact isOldestClaimable_other h (h.keysDistinct hdb) hnode
    · exact isOldestClaimable_other h.symm hdb hnode
  unfold claimNextTaskOnce
  rw [hsame]
  split
  · exact h.updateTasks (fun _ => rfl) (fun _ => rfl)
  · exact h

/-- The row to insert depends on the `nodes` table only. -/
theorem queuedTask_eq (hnodes : db.nodes = db'.nodes) (now : ℤ) (id : Uuid)
    (templates : List TaskTemplateEntity) (writable : Except HttpError Unit)
    (input : QueueTaskInput) (nodeOverride : Option NodeEntity) :
    queuedTask db now id templates writable input nodeOverride
      = queuedTask db' now id templates writable input nodeOverride := by
  have hnode : taskNode db input nodeOverride = taskNode db' input nodeOverride := by
    cases nodeOverride with
    | none =>
        unfold taskNode
        rw [hnodes]
    | some node => rfl
  unfold queuedTask
  rw [hnode]

theorem queuedTask_id {now : ℤ} {id : Uuid} {templates : List TaskTemplateEntity}
    {writable : Except HttpError Unit} {input : QueueTaskInput} {nodeOverride : Option NodeEntity}
    {task : TaskEntity}
    (h : queuedTask db now id templates writable input nodeOverride = .ok task) : task.id = id := by
  obtain ⟨node, template, -, -, -, -, -, rfl⟩ := queuedTask_ok h
  rfl

/-- One new row on both sides. -/
theorem SameElsewhere.insert (h : SameElsewhere agent db db') {task : TaskEntity}
    (hnew : db.findTask task.id = none) (hnew' : db'.findTask task.id = none) :
    SameElsewhere agent { db with tasks := db.tasks ++ [task] }
      { db' with tasks := db'.tasks ++ [task] } := by
  have hfind : ∀ id, ({ db with tasks := db.tasks ++ [task] } : TaskTables).findTask id
      = if id = task.id then some task else db.findTask id :=
    fun id => KeyedTable.find_append_new hnew id
  have hfind' : ∀ id, ({ db' with tasks := db'.tasks ++ [task] } : TaskTables).findTask id
      = if id = task.id then some task else db'.findTask id :=
    fun id => KeyedTable.find_append_new hnew' id
  refine ⟨h.nodes, ?_, ?_, ?_⟩
  · show (db.tasks ++ [task]).map TaskEntity.id = (db'.tasks ++ [task]).map TaskEntity.id
    rw [List.map_append, List.map_append, h.ids]
  · intro id
    rw [hfind, hfind']
    split
    · exact .some (.refl task)
    · exact h.rows id
  · intro id hother
    refine h.logs id ?_
    rintro ⟨row, hrow, hagent⟩
    refine hother ⟨row, ?_, hagent⟩
    rw [hfind, if_neg ?_]
    · exact hrow
    · rintro rfl
      rw [hnew] at hrow
      cases hrow

theorem queueTask_both (h : SameElsewhere agent db db') (now : ℤ) (id : Uuid)
    (templates : List TaskTemplateEntity) (writable : Except HttpError Unit)
    (input : QueueTaskInput) (nodeOverride : Option NodeEntity) :
    SameOutcome (SameResult agent) (queueTask db now id templates writable input nodeOverride)
      (queueTask db' now id templates writable input nodeOverride) := by
  unfold queueTask
  refine .bind (queuedTask_eq h.nodes now id templates writable input nodeOverride) ?_
  intro task htask
  have hid : task.id = id := queuedTask_id htask
  rcases h.find id with ⟨hnew, hnew'⟩ | ⟨row, row', hfind, hfind', -⟩
  · rw [hnew, hnew']
    rw [← hid] at hnew hnew'
    exact ⟨h.insert hnew hnew', rfl⟩
  · rw [hfind, hfind']
    exact .throw _

/-! ## One event -/

/-- A cancellation found its task. -/
theorem findTask_of_requestTaskCancellation {now : ℤ} {workspaceId : Option Uuid}
    {writable : Except HttpError Unit} {dto : RequestTaskCancelDto}
    {result : TaskTables × TaskEntity}
    (h : requestTaskCancellation db now taskId workspaceId writable dto = .ok result) :
    ∃ row, db.findTask taskId = some row := by
  unfold requestTaskCancellation at h
  obtain ⟨loaded, hloaded, -⟩ := bind_eq_ok.mp h
  exact ⟨loaded, findOneOrFail_ok hloaded⟩

/-- Every event but a creation keeps the primary keys: it is a step of the node
whose task it is about. -/
theorem taskStep_ids (db : TaskTables) (e : TaskEvent) (hqueue : ∀ now id templates writable input
    nodeOverride, e ≠ .queueTask now id templates writable input nodeOverride) :
    db.tasks.map TaskEntity.id = (taskStep db e).tasks.map TaskEntity.id := by
  cases e with
  | queueTask now id templates writable input nodeOverride => exact absurd rfl (hqueue _ _ _ _ _ _)
  | claimNextTaskOnce now configured nodeId claimToken chosen =>
      exact (claimNextTaskOnce_own db now configured claimToken chosen).ids
  | acceptClaimedTaskForAgent now taskId nodeId dto =>
      exact (sameElsewhere_settle fun _ _ => acceptClaimedTaskForAgent_own).ids
  | startClaimedTaskForAgent now taskId nodeId dto =>
      exact (sameElsewhere_settle fun _ _ => startClaimedTaskForAgent_own).ids
  | appendClaimedTaskLogForAgent now taskId nodeId dto =>
      exact (sameElsewhere_settle' fun _ => appendClaimedTaskLogForAgent_own).ids
  | completeClaimedTaskForAgent now taskId nodeId dto =>
      exact (sameElsewhere_settle fun _ _ => completeClaimedTaskForAgent_own).ids
  | acknowledgeForAgent now taskId nodeId authenticated timestamp =>
      exact (sameElsewhere_settle' fun _ => acknowledgeForAgent_own).ids
  | startForAgent now taskId nodeId authenticated dto =>
      exact (sameElsewhere_settle fun _ _ => startForAgent_own).ids
  | appendLogForAgent now taskId nodeId authenticated dto =>
      exact (sameElsewhere_settle' fun _ => appendLogForAgent_own).ids
  | completeForAgent now taskId nodeId authenticated dto =>
      exact (sameElsewhere_settle fun _ _ => completeForAgent_own).ids
  | requestTaskCancellation now taskId workspaceId writable dto =>
      simp only [taskStep, settle]
      split
      · next db' task hcancelled =>
          obtain ⟨row, hrow⟩ := findTask_of_requestTaskCancellation hcancelled
          exact (requestTaskCancellation_own ⟨row, hrow, rfl⟩ hcancelled).ids
      · rfl
  | requeueExpiredLeases now =>
      exact (ids_updateTasks db requeued_id).symm
  | failStaleTasks now queuedTimeoutSeconds runningTimeoutSeconds =>
      simp only [taskStep, failStaleTasks, requeueExpiredLeases]
      rw [ids_updateTasks _ (failStaleTask_id now), ids_updateTasks db requeued_id]
  | syncLinkedTaskTerminalState now taskId succeeded detail =>
      cases hfind : db.findTask taskId with
      | none =>
          simp only [taskStep, syncLinkedTaskTerminalState, hfind]
      | some row =>
          exact (syncLinkedTaskTerminalState_own ⟨row, hfind, rfl⟩ now succeeded detail).ids
  | nodesChanged nodes => rfl

/-- **One event** keeps the primary keys distinct. -/
theorem taskStep_keysDistinct (hdb : KeysDistinct db) (e : TaskEvent) :
    KeysDistinct (taskStep db e) := by
  by_cases hqueue : ∀ now id templates writable input nodeOverride,
      e ≠ .queueTask now id templates writable input nodeOverride
  · unfold KeysDistinct
    rw [← taskStep_ids db e hqueue]
    exact hdb
  · push Not at hqueue
    obtain ⟨now, id, templates, writable, input, nodeOverride, rfl⟩ := hqueue
    simp only [taskStep, settle]
    split
    · next db' task hqueued =>
        obtain ⟨hid, -, hnew, rfl⟩ := queueTask_row hqueued
        exact KeyedTable.nodup_append_new hdb (hid ▸ hnew)
    · exact hdb

/-- An event of an agent: its own ones change its own tasks only, the others do the same to both
tables. -/
theorem SameElsewhere.agentStep (h : SameElsewhere agent db db') (nodeId : Uuid) (e : TaskEvent)
    (hown : nodeId = agent → ∀ d, SameElsewhere agent d (TasksService.taskStep d e))
    (hother : nodeId ≠ agent →
      SameElsewhere agent (TasksService.taskStep db e) (TasksService.taskStep db' e)) :
    SameElsewhere agent (TasksService.taskStep db e) (TasksService.taskStep db' e) := by
  by_cases hnode : nodeId = agent
  · exact h.of_own (hown hnode db) (hown hnode db')
  · exact hother hnode

/-- **One event** on two tables that differ in the agent's tasks only. -/
theorem SameElsewhere.taskStep (h : SameElsewhere agent db db') (hdb : KeysDistinct db)
    (e : TaskEvent) :
    SameElsewhere agent (TasksService.taskStep db e) (TasksService.taskStep db' e) := by
  cases e with
  | queueTask now id templates writable input nodeOverride =>
      exact (queueTask_both h now id templates writable input nodeOverride).settle h
  | claimNextTaskOnce now configured nodeId claimToken chosen =>
      refine h.agentStep nodeId _ ?_ fun hnode =>
        claimNextTaskOnce_other h hdb hnode now configured claimToken chosen
      rintro rfl d
      exact claimNextTaskOnce_own d now configured claimToken chosen
  | acceptClaimedTaskForAgent now taskId nodeId dto =>
      refine h.agentStep nodeId _ ?_ fun hnode =>
        (acceptClaimedTaskForAgent_other h hnode now dto).settle h
      rintro rfl d
      exact sameElsewhere_settle fun _ _ => acceptClaimedTaskForAgent_own
  | startClaimedTaskForAgent now taskId nodeId dto =>
      refine h.agentStep nodeId _ ?_ fun hnode =>
        (startClaimedTaskForAgent_other h hnode now dto).settle h
      rintro rfl d
      exact sameElsewhere_settle fun _ _ => startClaimedTaskForAgent_own
  | appendClaimedTaskLogForAgent now taskId nodeId dto =>
      refine h.agentStep nodeId _ ?_ fun hnode =>
        (appendClaimedTaskLogForAgent_other h hnode now dto).settle' h
      rintro rfl d
      exact sameElsewhere_settle' fun _ => appendClaimedTaskLogForAgent_own
  | completeClaimedTaskForAgent now taskId nodeId dto =>
      refine h.agentStep nodeId _ ?_ fun hnode =>
        (completeClaimedTaskForAgent_other h hnode now dto).settle h
      rintro rfl d
      exact sameElsewhere_settle fun _ _ => completeClaimedTaskForAgent_own
  | acknowledgeForAgent now taskId nodeId authenticated timestamp =>
      refine h.agentStep nodeId _ ?_ fun hnode =>
        (acknowledgeForAgent_other h hnode now authenticated timestamp).settle' h
      rintro rfl d
      exact sameElsewhere_settle' fun _ => acknowledgeForAgent_own
  | startForAgent now taskId nodeId authenticated dto =>
      refine h.agentStep nodeId _ ?_ fun hnode =>
        (startForAgent_other h hnode now authenticated dto).settle h
      rintro rfl d
      exact sameElsewhere_settle fun _ _ => startForAgent_own
  | appendLogForAgent now taskId nodeId authenticated dto =>
      refine h.agentStep nodeId _ ?_ fun hnode =>
        (appendLogForAgent_other h hnode now authenticated dto).settle' h
      rintro rfl d
      exact sameElsewhere_settle' fun _ => appendLogForAgent_own
  | completeForAgent now taskId nodeId authenticated dto =>
      refine h.agentStep nodeId _ ?_ fun hnode =>
        (completeForAgent_other h hnode now authenticated dto).settle h
      rintro rfl d
      exact sameElsewhere_settle fun _ _ => completeForAgent_own
  | requestTaskCancellation now taskId workspaceId writable dto =>
      by_cases howned : Owned agent db taskId
      · have howned' : Owned agent db' taskId := (h.owned_iff taskId).mp howned
        exact h.of_own (sameElsewhere_settle fun _ _ => requestTaskCancellation_own howned)
          (sameElsewhere_settle fun _ _ => requestTaskCancellation_own howned')
      · exact (requestTaskCancellation_other h howned now workspaceId writable dto).settle h
  | requeueExpiredLeases now => exact requeueExpiredLeases_both h now
  | failStaleTasks now queuedTimeoutSeconds runningTimeoutSeconds =>
      exact failStaleTasks_both h now queuedTimeoutSeconds runningTimeoutSeconds
  | syncLinkedTaskTerminalState now taskId succeeded detail =>
      by_cases howned : Owned agent db taskId
      · have howned' : Owned agent db' taskId := (h.owned_iff taskId).mp howned
        exact h.of_own (syncLinkedTaskTerminalState_own howned now succeeded detail)
          (syncLinkedTaskTerminalState_own howned' now succeeded detail)
      · exact syncLinkedTaskTerminalState_other h howned now succeeded detail
  | nodesChanged nodes => exact ⟨rfl, h.ids, h.rows, h.logs⟩

end TasksService
