/-
# Package listings in flight

A request for the packages of a node waits for a listing task of the node that is on its way, or
creates one.  It looks for it among the newest fifty tasks of the node, and takes those that are
queued or running: a listing that an agent has claimed and not yet started, or that fifty newer
tasks hide, is not found, and the node gets a second one.
-/
import Mathlib.Data.List.Sort
import NoderaxApi.TaskStatusMachine

/-! ## Reading tasks -/

namespace TasksService

/-- `QueryTasksDto`. -/
structure QueryTasksDto where
  nodeId : Option Uuid := none
  status : Option TaskStatus := none
  includeInternal : Bool := false
  limit : Option ℕ := none
  offset : Option ℕ := none

/-- The WHERE clauses of `findAll`; an empty id counts as absent. -/
def matchesQuery (query : QueryTasksDto) (workspaceId : Option Uuid) (task : TaskEntity) : Bool :=
  workspaceId.all (fun id => id = "" || task.workspaceId = id) &&
    query.nodeId.all (fun id => id = "" || task.nodeId = id) &&
    query.status.all (fun status => task.status = status) &&
    (query.includeInternal || !task.isInternal)

/-- `ORDER BY createdAt DESC`, where `ties` is how the database orders rows of one time. -/
def NewestFirst (ties : Uuid → ℕ) (task other : TaskEntity) : Prop :=
  other.createdAt < task.createdAt ∨
    other.createdAt = task.createdAt ∧ ties task.id ≤ ties other.id

instance (ties : Uuid → ℕ) : DecidableRel (NewestFirst ties) := fun _ _ =>
  inferInstanceAs (Decidable (_ ∨ _ ∧ _))

/-- `findAll`. -/
def findAll (db : TaskTables) (ties : Uuid → ℕ) (query : QueryTasksDto)
    (workspaceId : Option Uuid) : List TaskEntity :=
  (((db.tasks.filter (matchesQuery query workspaceId)).insertionSort (NewestFirst ties)).drop
    (query.offset.getD 0)).take (query.limit.getD 50)

theorem mem_findAll {db : TaskTables} {ties : Uuid → ℕ} {query : QueryTasksDto}
    {workspaceId : Option Uuid} {task : TaskEntity} (h : task ∈ findAll db ties query workspaceId) :
    task ∈ db.tasks := by
  have hsorted := List.mem_of_mem_drop (List.mem_of_mem_take h)
  rw [List.mem_insertionSort] at hsorted
  exact (List.mem_filter.mp hsorted).1

theorem queueTask_nodeId {db db' : TaskTables} {now : ℤ} {id : Uuid}
    {templates : List TaskTemplateEntity} {writable : Except HttpError Unit}
    {input : QueueTaskInput} {nodeOverride : Option NodeEntity} {task : TaskEntity}
    (h : queueTask db now id templates writable input nodeOverride = .ok (db', task)) :
    task.nodeId = input.nodeId := by
  obtain ⟨node, template, -, -, -, -, -, rfl⟩ := queuedTask_ok (queueTask_ok h).1
  rfl

/-- No event moves a task to another node. -/
theorem TaskStep.nodeId {e : TaskEvent} {task task' : TaskEntity} (h : TaskStep e task task') :
    task'.nodeId = task.nodeId := by
  cases h with
  | unchanged => rfl
  | claimed _ _ => rfl
  | startedClaim _ => rfl
  | started _ => rfl
  | logged _ _ _ hsaved =>
      obtain ⟨output, rfl⟩ := hsaved
      rfl
  | finished _ _ hsaved => exact hsaved.nodeId
  | completed _ _ _ _ _ _ _ hsaved => exact hsaved.nodeId
  | cancelRequested _ _ => rfl
  | requeued _ => rfl
  | requeuedStale _ => rfl

end TasksService

namespace PackagesService

open Runs TasksService

/-! ## The listing task of a node -/

/-- `TASK_TYPES.PACKAGE_LIST`. -/
def packageListType : String := "packageList"

/-- `PACKAGE_RECENT_TASK_SCAN_LIMIT`. -/
def packageRecentTaskScanLimit : ℕ := 50

/-- A request for the packages of a node, with what its environment chooses: the order of tasks of
one time, the clock, a new id, and whether the workspace can be written. -/
structure ListRequest where
  nodeId : Uuid
  workspaceId : Option Uuid := none
  ties : Uuid → ℕ := fun _ => 0
  now : ℤ
  id : Uuid
  writable : Except HttpError Unit := .ok ()

/-- The tasks that `findInFlightPackageListTask` looks at. -/
def scannedTasks (db : TaskTables) (r : ListRequest) : List TaskEntity :=
  findAll db r.ties { nodeId := some r.nodeId, limit := some packageRecentTaskScanLimit }
    r.workspaceId

/-- What it takes for a listing in flight. -/
def isReusable (candidate : TaskEntity) : Bool :=
  candidate.type = packageListType &&
    (candidate.status = .queued || candidate.status = .running)

/-- `findInFlightPackageListTask`. -/
def findInFlightPackageListTask (db : TaskTables) (r : ListRequest) : Option TaskEntity :=
  (scannedTasks db r).find? isReusable

/-- `tasksService.create` for a listing. -/
def createPackageListTask (db : TaskTables) (r : ListRequest) :
    Except HttpError (TaskTables × TaskEntity) :=
  queueTask db r.now r.id [] r.writable
    { nodeId := r.nodeId, type := packageListType, payload := []
      workspaceId := r.workspaceId } none

/-- `getOrCreatePackageListTask`. -/
def getOrCreatePackageListTask (db : TaskTables) (r : ListRequest) :
    Except HttpError (TaskTables × TaskEntity) :=
  match findInFlightPackageListTask db r with
  | some inFlightTask => .ok (db, inFlightTask)
  | none => createPackageListTask db r

/-! ## Runs -/

/-- The tables, and the tasks that list requests have created. -/
structure ListingState where
  tables : TaskTables := {}
  created : List Uuid := []

/-- A list request, or another task operation. -/
inductive ListingEvent where
  | list (r : ListRequest)
  | task (e : TaskEvent)

/-- One event.  The task of a request is new if no row had its id. -/
def listingStep (s : ListingState) : ListingEvent → ListingState
  | .list r =>
      match getOrCreatePackageListTask s.tables r with
      | .ok (tables, task) =>
          { tables
            created := if (s.tables.findTask task.id).isSome then s.created
              else task.id :: s.created }
      | .error _ => s
  | .task e => { s with tables := taskStep s.tables e }

/-- The task is a listing of the node that a request created, and is not over. -/
def InFlight (s : ListingState) (nodeId id : Uuid) : Prop :=
  id ∈ s.created ∧ ∃ task, s.tables.findTask id = some task ∧ task.nodeId = nodeId ∧
    task.status.isTerminal = false

/-- No node has two listings in flight. -/
def AtMostOne (s : ListingState) : Prop :=
  ∀ nodeId id id', InFlight s nodeId id → InFlight s nodeId id' → id = id'

/-- A listing of the node is queued or running and among the tasks that are scanned, or no task can
be created. -/
def CreatesNone (db : TaskTables) (r : ListRequest) : Prop :=
  (∃ task ∈ scannedTasks db r, isReusable task = true) ∨
    ∀ result, createPackageListTask db r ≠ .ok result

/-- A request for a node with a listing in flight creates none. -/
def ListingSeen (s : ListingState) : ListingEvent → Prop
  | .list r => (∃ id, InFlight s r.nodeId id) → CreatesNone s.tables r
  | .task _ => True

/-! ## What an event does -/

theorem findInFlightPackageListTask_isSome {db : TaskTables} {r : ListRequest} :
    (findInFlightPackageListTask db r).isSome = true ↔
      ∃ task ∈ scannedTasks db r, isReusable task = true := by
  rw [findInFlightPackageListTask, List.find?_isSome]

/-- A request that creates no task changes nothing. -/
theorem listingStep_createsNone {s : ListingState} {r : ListRequest}
    (h : CreatesNone s.tables r) : listingStep s (.list r) = s := by
  rw [listingStep, getOrCreatePackageListTask]
  cases hfind : findInFlightPackageListTask s.tables r with
  | some task =>
      have hmem : task ∈ s.tables.tasks := mem_findAll (List.mem_of_find?_eq_some hfind)
      have hsome : (s.tables.findTask task.id).isSome = true := by
        rw [Option.isSome_iff_ne_none]
        intro hnone
        exact KeyedTable.find_eq_none.mp hnone (List.mem_map_of_mem hmem)
      simp only [hsome, if_true]
  | none =>
      rcases h with hseen | hrefused
      · rw [← findInFlightPackageListTask_isSome, hfind] at hseen
        exact absurd hseen Bool.false_ne_true
      · cases hcreate : createPackageListTask s.tables r with
        | ok result => exact absurd hcreate (hrefused result)
        | error e => rfl

/-- Any other request inserts a row under a new id. -/
theorem listingStep_creates {s : ListingState} {r : ListRequest} (h : ¬CreatesNone s.tables r) :
    ∃ task : TaskEntity, task.id = r.id ∧ task.nodeId = r.nodeId ∧ Fresh task ∧
      s.tables.findTask r.id = none ∧ listingStep s (.list r) =
        ⟨{ s.tables with tasks := s.tables.tasks ++ [task] }, r.id :: s.created⟩ := by
  obtain ⟨hunseen, hok⟩ := not_or.mp h
  obtain ⟨⟨db', task⟩, hcreate⟩ := not_forall_not.mp hok
  obtain ⟨hid, hfresh, hnew, hdb⟩ := queueTask_row hcreate
  have hnone : findInFlightPackageListTask s.tables r = none := by
    rw [← findInFlightPackageListTask_isSome] at hunseen
    exact Option.not_isSome_iff_eq_none.mp hunseen
  refine ⟨task, hid, queueTask_nodeId hcreate, hfresh, hnew, ?_⟩
  rw [listingStep, getOrCreatePackageListTask, hnone, hcreate]
  simp only [hid, hnew, Option.isSome_none, Bool.false_eq_true, if_false, hdb]

/-! ## What is kept -/

/-- The tasks that requests created are in the table. -/
def CreatedKept (s : ListingState) : Prop := ∀ id ∈ s.created, (s.tables.findTask id).isSome = true

/-- No other operation puts a listing in flight. -/
theorem InFlight.of_task {s : ListingState} {e : TaskEvent} {nodeId id : Uuid}
    (hkept : CreatedKept s) (h : InFlight (listingStep s (.task e)) nodeId id) :
    InFlight s nodeId id := by
  obtain ⟨hcreated, task', hfind', hnode, hopen⟩ := h
  obtain ⟨task, hfind⟩ := Option.isSome_iff_exists.mp (hkept id hcreated)
  have hrow := taskStep_row s.tables e id
  rw [hfind] at hrow
  obtain ⟨task'', hfind'', hstep⟩ := hrow
  obtain rfl := Option.some.inj (hfind'.symm.trans hfind'')
  refine ⟨hcreated, task, hfind, hstep.nodeId.symm.trans hnode, ?_⟩
  by_contra hterminal
  have hsame := hstep.later.terminal (Bool.eq_true_of_not_eq_false hterminal)
  rw [hsame] at hopen
  exact hterminal hopen

/-- What a table with a new row finds. -/
theorem findTask_append {db : TaskTables} {task : TaskEntity} (hnew : db.findTask task.id = none)
    (id : Uuid) : ({ db with tasks := db.tasks ++ [task] } : TaskTables).findTask id =
      if id = task.id then some task else db.findTask id :=
  KeyedTable.find_append_new hnew id

theorem CreatedKept.step {s : ListingState} (h : CreatedKept s) (e : ListingEvent) :
    CreatedKept (listingStep s e) := by
  cases e with
  | task e =>
      intro id hid
      obtain ⟨task, hfind⟩ := Option.isSome_iff_exists.mp (h id hid)
      obtain ⟨task', hfind', -⟩ := taskStep_later s.tables e id task hfind
      exact Option.isSome_iff_exists.mpr ⟨task', hfind'⟩
  | list r =>
      by_cases hnone : CreatesNone s.tables r
      · rw [listingStep_createsNone hnone]
        exact h
      · obtain ⟨task, hid, -, -, hnew, hstep⟩ := listingStep_creates hnone
        rw [← hid] at hnew
        rw [hstep]
        intro id hmem
        rw [findTask_append hnew]
        split
        next => rfl
        next hne =>
          rcases List.mem_cons.mp hmem with heq | hmem
          · exact absurd (heq.trans hid.symm) hne
          · exact h id hmem

/-- After a request that inserts a row. -/
theorem inFlight_list_iff {s : ListingState} {r : ListRequest} (h : ¬CreatesNone s.tables r)
    (hkept : CreatedKept s) {nodeId id : Uuid} :
    InFlight (listingStep s (.list r)) nodeId id ↔
      InFlight s nodeId id ∨ id = r.id ∧ nodeId = r.nodeId := by
  obtain ⟨task, hid, hnode, hfresh, hnew, hstep⟩ := listingStep_creates h
  have hnew' : s.tables.findTask task.id = none := by rwa [hid]
  rw [hstep]
  simp only [InFlight, findTask_append hnew', hid]
  by_cases heq : id = r.id
  · have hnot : id ∉ s.created := by
      intro hmem
      have hsome := hkept id hmem
      rw [heq, hnew] at hsome
      exact Bool.false_ne_true hsome
    simp only [heq, if_true, Option.some_inj, exists_eq_left', hnode, hfresh.status]
    rw [heq] at hnot
    constructor
    · rintro ⟨-, hn, -⟩
      exact .inr ⟨trivial, hn.symm⟩
    · rintro (⟨hmem, -⟩ | ⟨-, hn⟩)
      · exact absurd hmem hnot
      · exact ⟨List.mem_cons_self, hn.symm, rfl⟩
  · simp only [heq, if_false, List.mem_cons, false_or, false_and, or_false]

/-- **One step.**  The invariant is kept exactly if a request for a node with a listing in flight
creates none. -/
theorem atMostOne_step_iff {s : ListingState} (hkept : CreatedKept s) (h : AtMostOne s)
    (e : ListingEvent) : AtMostOne (listingStep s e) ↔ ListingSeen s e := by
  cases e with
  | task e =>
      exact iff_of_true (fun nodeId id id' hid hid' =>
        h nodeId id id' (hid.of_task hkept) (hid'.of_task hkept)) trivial
  | list r =>
      by_cases hnone : CreatesNone s.tables r
      · rw [listingStep_createsNone hnone]
        exact iff_of_true h fun _ => hnone
      · obtain ⟨-, -, -, -, hnew, -⟩ := listingStep_creates hnone
        constructor
        · rintro hmost ⟨id, hid⟩
          -- the listing in flight would be the new one
          have hold := (inFlight_list_iff hnone hkept).mpr (.inl hid)
          have hcreated := (inFlight_list_iff hnone hkept).mpr (.inr ⟨rfl, rfl⟩)
          have hsome := hkept id hid.1
          rw [hmost _ _ _ hold hcreated, hnew] at hsome
          exact absurd hsome Bool.false_ne_true
        · intro hseen nodeId id id' hid hid'
          have hfree : ¬∃ id, InFlight s r.nodeId id := fun hflight => hnone (hseen hflight)
          rcases (inFlight_list_iff hnone hkept).mp hid with hid | ⟨rfl, rfl⟩
          · rcases (inFlight_list_iff hnone hkept).mp hid' with hid' | ⟨rfl, rfl⟩
            · exact h nodeId id id' hid hid'
            · exact absurd ⟨id, hid⟩ hfree
          · rcases (inFlight_list_iff hnone hkept).mp hid' with hid' | ⟨rfl, -⟩
            · exact absurd ⟨id', hid'⟩ hfree
            · rfl

/-- **There is at most one listing in flight for every node, in every state of a run, exactly if
each request for a node with a listing in flight creates none.** -/
theorem atMostOne_along_iff (es : List ListingEvent) :
    (∀ es₁ es₂, es = es₁ ++ es₂ → AtMostOne (run listingStep {} es₁)) ↔
      Along listingStep ListingSeen {} es := by
  refine prefixes_iff_along (A := CreatedKept) (fun s e hkept _ _ => hkept.step e)
    (fun s e hkept h => atMostOne_step_iff hkept h e) ?_ ?_
  · exact fun id hid => absurd hid List.not_mem_nil
  · exact fun nodeId id id' hid => absurd hid.1 List.not_mem_nil

/-- A listing is created and claimed, and asked for again. -/
def claimedRun : List ListingEvent :=
  [.task (.nodesChanged [{ id := "n1", workspaceId := "w1", hostname := "host-1" }]),
    .list { nodeId := "n1", now := 0, id := "t1" },
    .task (.claimNextTaskOnce 1000 60 "n1" "c1" "t1"),
    .list { nodeId := "n1", now := 2000, id := "t2" }]

/-- The node has two listings in flight: the claimed one is not seen. -/
theorem claimedRun_twice : ¬∀ es : List ListingEvent, AtMostOne (run listingStep {} es) := by
  intro h
  have hfirst : InFlight (run listingStep {} claimedRun) "n1" "t1" :=
    ⟨by decide +kernel, _, rfl, rfl, rfl⟩
  have hsecond : InFlight (run listingStep {} claimedRun) "n1" "t2" :=
    ⟨by decide +kernel, _, rfl, rfl, rfl⟩
  exact absurd (h claimedRun "n1" "t1" "t2" hfirst hsecond) (by decide)

end PackagesService
