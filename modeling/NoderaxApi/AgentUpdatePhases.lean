/-
# The phases of a rollout

Between two operations a rollout is in one of a few phases: `running` without a failed
target and with at most one active one, `paused` with at most one failed target and no
active one, `completed`, `cancelled`, or `queued` and untouched.

The phases imply that the rollouts are sound.  Each save touches the phase of one rollout
at most: the save of a target may break it, the save of the rollout restores it.
-/
import NoderaxApi.AgentUpdateCalls

namespace AgentUpdatesService

open Interleaving KeyedTable Runs

/-! ## What is claimed -/

/-- **Rollout soundness.** -/
structure RolloutsSound (w : AgentUpdatesWorld) : Prop where
  completed : ∀ rollout ∈ w.rollouts.rows, rollout.status = .completed →
    ∀ target ∈ targetsOf rollout.id w, target.status = .completed ∨ target.status = .skipped
  reported : ∀ rollout ∈ w.rollouts.rows, ∀ target ∈ targetsOf rollout.id w,
    target.status = .completed → (target.nodeId, rollout.targetVersion) ∈ w.reported
  failed : ∀ rollout ∈ w.rollouts.rows, ∀ target ∈ targetsOf rollout.id w,
    target.status = .failed → (rollout.status = .paused ∨ rollout.status = .cancelled) ∧
      ∀ other ∈ targetsOf rollout.id w, other.status.isActive = false

/-! ## Phases -/

/-- At most one of the targets has the property. -/
def AtMostOne (p : AgentUpdateTargetStatus → Bool)
    (targets : List AgentUpdateRolloutTargetEntity) : Prop :=
  ∀ a ∈ targets, ∀ b ∈ targets, p a.status = true → p b.status = true → a.id = b.id

/-- What a rollout status says about the targets. -/
def PhaseOk (targets : List AgentUpdateRolloutTargetEntity) : AgentUpdateRolloutStatus → Prop
  | .queued => ∀ target ∈ targets, target.status = .pending
  | .running => (∀ target ∈ targets, target.status ≠ .failed ∧ target.status ≠ .cancelled) ∧
      AtMostOne AgentUpdateTargetStatus.isActive targets
  | .paused => (∀ target ∈ targets, target.status.isActive = false ∧ target.status ≠ .cancelled) ∧
      AtMostOne (fun status => decide (status = .failed)) targets
  | .completed => ∀ target ∈ targets, target.status = .completed ∨ target.status = .skipped
  | .cancelled => ∀ target ∈ targets, target.status.isTerminal = true

/-- Fewer targets satisfy a phase that more satisfied. -/
theorem PhaseOk.of_subset {targets targets' : List AgentUpdateRolloutTargetEntity}
    {status : AgentUpdateRolloutStatus} (hsub : ∀ target ∈ targets', target ∈ targets)
    (h : PhaseOk targets status) : PhaseOk targets' status := by
  cases status with
  | running =>
      exact ⟨fun target ht => h.1 target (hsub target ht),
        fun a ha b hb => h.2 a (hsub a ha) b (hsub b hb)⟩
  | paused =>
      exact ⟨fun target ht => h.1 target (hsub target ht),
        fun a ha b hb => h.2 a (hsub a ha) b (hsub b hb)⟩
  | queued | completed | cancelled => exact fun target ht => h target (hsub target ht)

/-- The invariant of the rollouts; the phase of the rollout `skip` may be broken. -/
structure RolloutInv (skip : Option Uuid) (w : AgentUpdatesWorld) : Prop where
  phases : ∀ rollout ∈ w.rollouts.rows, skip ≠ some rollout.id →
    PhaseOk (targetsOf rollout.id w) rollout.status
  owned : ∀ target ∈ w.targets.rows, ∃ rollout, w.rollouts.get target.rolloutId = some rollout ∧
    rollout.targetVersion = target.targetVersion
  versions : ∀ node ∈ w.nodes.rows, ∀ version, node.agentVersion = some version →
    (node.id, version) ∈ w.reported
  completed : ∀ target ∈ w.targets.rows, target.status = .completed →
    (target.nodeId, target.targetVersion) ∈ w.reported
  oneOpen : ∀ a ∈ w.rollouts.rows, ∀ b ∈ w.rollouts.rows, a.status.isOpen = true →
    b.status.isOpen = true → a.id = b.id

variable {w : AgentUpdatesWorld} {skip : Option Uuid}

/-- The rollout with an id is the only row with it. -/
theorem rollout_eq {rollout rollout' : AgentUpdateRolloutEntity}
    (h : w.rollouts.get rollout.id = some rollout) (h' : rollout' ∈ w.rollouts.rows)
    (hid : rollout'.id = rollout.id) : rollout' = rollout := by
  have hget := Table.get_of_mem h'
  rw [hid, h] at hget
  exact (Option.some.inj hget).symm

/-- The invariant with a phase left out. -/
theorem RolloutInv.except (h : RolloutInv none w) (rolloutId : Uuid) :
    RolloutInv (some rolloutId) w :=
  ⟨fun rollout hmem _ => h.phases rollout hmem (by simp), h.owned, h.versions, h.completed,
    h.oneOpen⟩

/-- The created tasks do not matter to it. -/
theorem RolloutInv.withTasks (h : RolloutInv skip w) (tasks : List (Uuid × Uuid)) :
    RolloutInv skip { w with tasks := tasks } :=
  ⟨h.phases, h.owned, h.versions, h.completed, h.oneOpen⟩

/-- The invariant with a phase restored. -/
theorem RolloutInv.restore {rollout : AgentUpdateRolloutEntity}
    (h : RolloutInv (some rollout.id) w) (hget : w.rollouts.get rollout.id = some rollout)
    (hphase : PhaseOk (targetsOf rollout.id w) rollout.status) : RolloutInv none w := by
  refine ⟨fun rollout' hmem _ => ?_, h.owned, h.versions, h.completed, h.oneOpen⟩
  by_cases hid : rollout'.id = rollout.id
  · rw [rollout_eq hget hmem hid]
    exact hphase
  · exact h.phases rollout' hmem fun heq => hid (Option.some.inj heq).symm

/-- The phase of a rollout under the invariant. -/
theorem RolloutInv.phase {rollout : AgentUpdateRolloutEntity} (h : RolloutInv none w)
    (hget : w.rollouts.get rollout.id = some rollout) :
    PhaseOk (targetsOf rollout.id w) rollout.status :=
  h.phases rollout (Table.mem_of_get hget) (by simp)

/-- **The invariant is sound.** -/
theorem RolloutInv.sound (h : RolloutInv none w) : RolloutsSound w := by
  constructor
  · intro rollout hmem hstatus
    have hphase := h.phases rollout hmem (by simp)
    rw [hstatus] at hphase
    exact hphase
  · intro rollout hmem target htarget hstatus
    obtain ⟨htargetMem, hrollout⟩ := mem_targetsOf.mp htarget
    obtain ⟨owner, howner, hversion⟩ := h.owned target htargetMem
    rw [hrollout, Table.get_of_mem hmem] at howner
    obtain rfl := Option.some.inj howner
    rw [hversion]
    exact h.completed target htargetMem hstatus
  · intro rollout hmem target htarget hfailed
    have hphase := h.phases rollout hmem (by simp)
    cases hstatus : rollout.status with
    | queued =>
        rw [hstatus] at hphase
        exact absurd ((hphase target htarget).symm.trans hfailed) (by simp)
    | running =>
        rw [hstatus] at hphase
        exact absurd hfailed (hphase.1 target htarget).1
    | paused =>
        rw [hstatus] at hphase
        exact ⟨Or.inl rfl, fun other hother => (hphase.1 other hother).1⟩
    | completed =>
        rw [hstatus] at hphase
        rcases hphase target htarget with heq | heq
        · exact absurd (heq.symm.trans hfailed) (by simp)
        · exact absurd (heq.symm.trans hfailed) (by simp)
    | cancelled =>
        rw [hstatus] at hphase
        refine ⟨Or.inr rfl, fun other hother => ?_⟩
        have hterminal := hphase other hother
        cases hother' : other.status <;> simp_all [AgentUpdateTargetStatus.isTerminal,
          AgentUpdateTargetStatus.isActive]

/-! ## The inserts -/

/-- The insertion of a queued rollout while no other is open. -/
theorem RolloutInv.insertQueued {rollout : AgentUpdateRolloutEntity} (h : RolloutInv none w)
    (hnew : w.rollouts.get rollout.id = none)
    (hclosed : ∀ other ∈ w.rollouts.rows, other.status.isOpen = false)
    (hstatus : rollout.status = .queued) :
    RolloutInv none { w with rollouts := w.rollouts.insert rollout } := by
  have hmem : ∀ other ∈ (w.rollouts.insert rollout).rows,
      other ∈ w.rollouts.rows ∨ other = rollout := by
    intro other hother
    rcases Table.mem_insert hother with hold | ⟨rfl, -⟩
    · exact Or.inl hold
    · exact Or.inr rfl
  refine ⟨?_, ?_, h.versions, h.completed, ?_⟩
  · intro other hother _
    rcases hmem other hother with hold | rfl
    · exact h.phases other hold (by simp)
    · -- no target can name a rollout that was not there
      rw [hstatus]
      intro target htarget
      obtain ⟨hrow, hid⟩ := mem_targetsOf.mp htarget
      obtain ⟨owner, howner, -⟩ := h.owned target hrow
      rw [hid, hnew] at howner
      exact absurd howner (by simp)
  · intro target htarget
    obtain ⟨owner, howner, hversion⟩ := h.owned target htarget
    refine ⟨owner, ?_, hversion⟩
    rw [Table.get_insert, if_neg]
    · exact howner
    · rintro ⟨heq, -⟩
      rw [heq, hnew] at howner
      exact absurd howner (by simp)
  · intro a ha b hb haOpen hbOpen
    rcases hmem a ha with hold | rfl
    · exact absurd haOpen (by simp [hclosed a hold])
    · rcases hmem b hb with hold | rfl
      · exact absurd hbOpen (by simp [hclosed b hold])
      · rfl

/-- A pending target of a queued rollout can be inserted. -/
theorem RolloutInv.insertTarget {rollout : AgentUpdateRolloutEntity}
    {target : AgentUpdateRolloutTargetEntity} (h : RolloutInv none w)
    (hget : w.rollouts.get rollout.id = some rollout) (hqueued : rollout.status = .queued)
    (htarget : target.rolloutId = rollout.id ∧ target.targetVersion = rollout.targetVersion ∧
      target.status = .pending) :
    RolloutInv none { w with targets := w.targets.insert target } := by
  obtain ⟨hid, hversion, hpending⟩ := htarget
  have hmem : ∀ other ∈ (w.targets.insert target).rows,
      other ∈ w.targets.rows ∨ other = target := by
    intro other hother
    rcases Table.mem_insert hother with hold | ⟨rfl, -⟩
    · exact Or.inl hold
    · exact Or.inr rfl
  refine ⟨?_, ?_, h.versions, ?_, h.oneOpen⟩
  · intro other hother _
    have hphase := h.phases other hother (by simp)
    by_cases heq : other.id = rollout.id
    · -- the rollout itself: one more pending target
      rw [rollout_eq hget hother heq, hqueued] at hphase ⊢
      intro target' htarget'
      obtain ⟨hrow, hid'⟩ := mem_targetsOf.mp htarget'
      rcases hmem target' hrow with hold | rfl
      · exact hphase target' (mem_targetsOf.mpr ⟨hold, hid'⟩)
      · exact hpending
    · refine PhaseOk.of_subset (fun target' htarget' => ?_) hphase
      obtain ⟨hrow, hid'⟩ := mem_targetsOf.mp htarget'
      rcases hmem target' hrow with hold | rfl
      · exact mem_targetsOf.mpr ⟨hold, hid'⟩
      · exact absurd (hid'.symm.trans hid) heq
  · intro target' htarget'
    rcases hmem target' htarget' with hold | rfl
    · exact h.owned target' hold
    · exact ⟨rollout, by rw [hid]; exact hget, hversion.symm⟩
  · intro target' htarget' hcompleted
    rcases hmem target' htarget' with hold | rfl
    · exact h.completed target' hold hcompleted
    · exact absurd (hpending.symm.trans hcompleted) (by simp)

/-- Any number of them can. -/
theorem RolloutInv.insertTargets {rollout : AgentUpdateRolloutEntity}
    {targets : List AgentUpdateRolloutTargetEntity} (h : RolloutInv none w)
    (hget : w.rollouts.get rollout.id = some rollout) (hqueued : rollout.status = .queued)
    (htargets : ∀ target ∈ targets, target.rolloutId = rollout.id ∧
      target.targetVersion = rollout.targetVersion ∧ target.status = .pending) :
    RolloutInv none { w with targets := targets.foldl Table.insert w.targets } := by
  induction targets generalizing w with
  | nil => exact h
  | cons target rest ih =>
      have hone := h.insertTarget hget hqueued (htargets target List.mem_cons_self)
      exact ih hone hget fun other hother => htargets other (List.mem_cons_of_mem target hother)

/-! ## The saves -/

/-- The rows after the save of a target. -/
theorem mem_saveTarget {now : ℤ} {copy row : AgentUpdateRolloutTargetEntity}
    (hrow : w.targets.get copy.id = some row) (target : AgentUpdateRolloutTargetEntity) :
    target ∈ (saveTarget now copy w).targets.rows ↔
      (target ∈ w.targets.rows ∧ target.id ≠ copy.id) ∨ target = copy.savedOver now row := by
  simp only [saveTarget]
  exact Table.mem_update_key hrow target

/-- A target of a rollout after a save: an old one, or the one saved. -/
theorem mem_targetsOf_saveTarget {now : ℤ} {copy row : AgentUpdateRolloutTargetEntity}
    (hrow : w.targets.get copy.id = some row) {rolloutId : Uuid}
    {target : AgentUpdateRolloutTargetEntity} :
    target ∈ targetsOf rolloutId (saveTarget now copy w) ↔
      (target ∈ targetsOf rolloutId w ∧ target.id ≠ copy.id) ∨
        (target = copy.savedOver now row ∧ row.rolloutId = rolloutId) := by
  rw [mem_targetsOf, mem_saveTarget hrow, mem_targetsOf]
  constructor
  · rintro ⟨⟨hmem, hne⟩ | rfl, hrollout⟩
    · exact Or.inl ⟨⟨hmem, hrollout⟩, hne⟩
    · rw [AgentUpdateRolloutTargetEntity.savedOver_rolloutId] at hrollout
      exact Or.inr ⟨rfl, hrollout⟩
  · rintro (⟨⟨hmem, hrollout⟩, hne⟩ | ⟨rfl, hrollout⟩)
    · exact ⟨Or.inl ⟨hmem, hne⟩, hrollout⟩
    · exact ⟨Or.inr rfl, (AgentUpdateRolloutTargetEntity.savedOver_rolloutId _ _ _).trans hrollout⟩

/-- **The save of a target** touches one rollout's phase. -/
theorem RolloutInv.saveTarget {now : ℤ} {copy row : AgentUpdateRolloutTargetEntity}
    (h : RolloutInv (some row.rolloutId) w) (hrow : w.targets.get copy.id = some row)
    (hcompleted : copy.status = .completed → (row.nodeId, row.targetVersion) ∈ w.reported) :
    RolloutInv (some row.rolloutId) (saveTarget now copy w) := by
  have hmemRow : row ∈ w.targets.rows := Table.mem_of_get hrow
  obtain ⟨updatedAt, hsaved⟩ := AgentUpdateRolloutTargetEntity.savedOver_eq now copy row
  refine ⟨?_, ?_, h.versions, ?_, h.oneOpen⟩
  · intro rollout hmem hskip
    have hne : row.rolloutId ≠ rollout.id := fun heq => hskip (by rw [heq])
    have hsame : ∀ target, target ∈ targetsOf rollout.id (AgentUpdatesService.saveTarget now copy w)
        → target ∈ targetsOf rollout.id w := by
      intro target htarget
      rcases (mem_targetsOf_saveTarget hrow).mp htarget with hold | ⟨-, heq⟩
      · exact hold.1
      · exact absurd heq hne
    exact PhaseOk.of_subset hsame (h.phases rollout hmem hskip)
  · intro target hmem
    rcases (mem_saveTarget hrow target).mp hmem with ⟨hold, -⟩ | rfl
    · exact h.owned target hold
    · rw [hsaved]
      exact h.owned row hmemRow
  · intro target hmem hstatus
    rcases (mem_saveTarget hrow target).mp hmem with ⟨hold, -⟩ | rfl
    · exact h.completed target hold hstatus
    · rw [AgentUpdateRolloutTargetEntity.savedOver_status] at hstatus
      rw [hsaved]
      exact hcompleted hstatus

/-- The save of a target that leaves its rollout in its phase. -/
theorem RolloutInv.saveTargetPhase {now : ℤ} {copy row : AgentUpdateRolloutTargetEntity}
    {rollout : AgentUpdateRolloutEntity} (h : RolloutInv none w)
    (hrow : w.targets.get copy.id = some row) (hid : row.rolloutId = rollout.id)
    (hget : w.rollouts.get rollout.id = some rollout)
    (hcompleted : copy.status = .completed → (row.nodeId, row.targetVersion) ∈ w.reported)
    (hphase : PhaseOk (targetsOf rollout.id (AgentUpdatesService.saveTarget now copy w))
      rollout.status) :
    RolloutInv none (AgentUpdatesService.saveTarget now copy w) := by
  have hsaved : RolloutInv (some row.rolloutId) (AgentUpdatesService.saveTarget now copy w) :=
    (h.except row.rolloutId).saveTarget hrow hcompleted
  rw [hid] at hsaved
  exact hsaved.restore hget hphase

/-- The save of a rollout touches its own phase. -/
theorem RolloutInv.saveRolloutExcept {copy row : AgentUpdateRolloutEntity}
    (h : RolloutInv (some copy.id) w) (hrow : w.rollouts.get copy.id = some row)
    (hopen : copy.status.isOpen = true → row.status.isOpen = true) :
    RolloutInv (some copy.id) (AgentUpdatesService.saveRollout copy w) := by
  have hid : row.id = copy.id := Table.key_of_get hrow
  have hmem : ∀ rollout, rollout ∈ (AgentUpdatesService.saveRollout copy w).rollouts.rows ↔
      (rollout ∈ w.rollouts.rows ∧ rollout.id ≠ copy.id) ∨ rollout = copy.savedOver row := by
    intro rollout
    simp only [AgentUpdatesService.saveRollout]
    exact Table.mem_update_key hrow rollout
  refine ⟨?_, ?_, h.versions, h.completed, ?_⟩
  · intro rollout hrollout hskip
    rcases (hmem rollout).mp hrollout with ⟨hold, -⟩ | rfl
    · exact h.phases rollout hold hskip
    · exact absurd (congrArg some hid.symm) hskip
  · intro target htarget
    obtain ⟨owner, howner, hversion⟩ := h.owned target htarget
    simp only [AgentUpdatesService.saveRollout]
    rw [Table.get_update_key hrow]
    by_cases heq : target.rolloutId = copy.id
    · rw [heq, hrow] at howner
      obtain rfl := Option.some.inj howner
      rw [if_pos heq]
      exact ⟨copy.savedOver row, rfl, hversion⟩
    · rw [if_neg heq]
      exact ⟨owner, howner, hversion⟩
  · -- an open copy replaces an open row
    have hback : ∀ rollout ∈ (AgentUpdatesService.saveRollout copy w).rollouts.rows,
        rollout.status.isOpen = true →
          ∃ old ∈ w.rollouts.rows, old.id = rollout.id ∧ old.status.isOpen = true := by
      intro rollout hrollout hrolloutOpen
      rcases (hmem rollout).mp hrollout with ⟨hold, -⟩ | rfl
      · exact ⟨rollout, hold, rfl, hrolloutOpen⟩
      · exact ⟨row, Table.mem_of_get hrow, rfl, hopen hrolloutOpen⟩
    intro a ha b hb haOpen hbOpen
    obtain ⟨a', ha', haId, ha'Open⟩ := hback a ha haOpen
    obtain ⟨b', hb', hbId, hb'Open⟩ := hback b hb hbOpen
    rw [← haId, ← hbId]
    exact h.oneOpen a' ha' b' hb' ha'Open hb'Open

/-- The row of a rollout after its save. -/
theorem get_saveRollout {copy row : AgentUpdateRolloutEntity}
    (hrow : w.rollouts.get copy.id = some row) :
    (saveRollout copy w).rollouts.get copy.id = some (copy.savedOver row) := by
  simp only [saveRollout]
  rw [Table.get_update_key hrow, if_pos rfl]

/-- **The save of a rollout** gives it a phase. -/
theorem RolloutInv.saveRollout {copy row : AgentUpdateRolloutEntity}
    (h : RolloutInv (some copy.id) w) (hrow : w.rollouts.get copy.id = some row)
    (hopen : copy.status.isOpen = true → row.status.isOpen = true)
    (hphase : PhaseOk (targetsOf copy.id w) copy.status) :
    RolloutInv none (AgentUpdatesService.saveRollout copy w) := by
  have hid : (copy.savedOver row).id = copy.id := by
    rw [copy.savedOver_id]
    exact Table.key_of_get hrow
  have hsaved := h.saveRolloutExcept hrow hopen
  have hget := get_saveRollout hrow
  rw [← hid] at hsaved hget
  refine hsaved.restore hget ?_
  rw [hid]
  exact hphase

/-- The row of a target after its save. -/
theorem get_saveTarget {now : ℤ} {copy row : AgentUpdateRolloutTargetEntity}
    (hrow : w.targets.get copy.id = some row) :
    (saveTarget now copy w).targets.get copy.id = some (copy.savedOver now row) := by
  simp only [saveTarget]
  rw [Table.get_update_key hrow, if_pos rfl]

/-- Every target of a rollout has a row after the save of a target if it had one before. -/
theorem exists_saveTarget {now : ℤ} {copy row target : AgentUpdateRolloutTargetEntity} {id : Uuid}
    (hrow : w.targets.get copy.id = some row) (htarget : w.targets.get id = some target) :
    ∃ target', (saveTarget now copy w).targets.get id = some target' ∧
      target'.rolloutId = target.rolloutId := by
  simp only [saveTarget]
  rw [Table.get_update_key hrow]
  by_cases hid : id = copy.id
  · rw [if_pos hid]
    rw [hid, hrow] at htarget
    obtain rfl := Option.some.inj htarget
    exact ⟨_, rfl, AgentUpdateRolloutTargetEntity.savedOver_rolloutId now copy row⟩
  · rw [if_neg hid]
    exact ⟨target, htarget, rfl⟩

/-- What holds of the targets of a rollout after the save of one of them. -/
theorem forall_targetsOf_saveTarget {now : ℤ} {copy row : AgentUpdateRolloutTargetEntity}
    (hrow : w.targets.get copy.id = some row) {rolloutId : Uuid}
    {Q : AgentUpdateTargetStatus → Prop}
    (hold : ∀ target ∈ targetsOf rolloutId w, target.id ≠ copy.id → Q target.status)
    (hnew : Q copy.status) :
    ∀ target ∈ targetsOf rolloutId (saveTarget now copy w), Q target.status := by
  intro target htarget
  rcases (mem_targetsOf_saveTarget hrow).mp htarget with ⟨hmem, hne⟩ | ⟨rfl, -⟩
  · exact hold target hmem hne
  · rw [AgentUpdateRolloutTargetEntity.savedOver_status]
    exact hnew

/-- At most one target has a property after a save that gives it to a target only if no
other has it. -/
theorem AtMostOne.saveTarget {now : ℤ} {copy row : AgentUpdateRolloutTargetEntity}
    (hrow : w.targets.get copy.id = some row) {rolloutId : Uuid}
    {p : AgentUpdateTargetStatus → Bool} (h : AtMostOne p (targetsOf rolloutId w))
    (hnew : p copy.status = true →
      ∀ target ∈ targetsOf rolloutId w, target.id ≠ copy.id → p target.status = false) :
    AtMostOne p (targetsOf rolloutId (saveTarget now copy w)) := by
  have hid : (copy.savedOver now row).id = copy.id := by
    rw [AgentUpdateRolloutTargetEntity.savedOver_id]
    exact Table.key_of_get hrow
  intro a ha b hb hpa hpb
  rcases (mem_targetsOf_saveTarget hrow).mp ha with ⟨haOld, haNe⟩ | ⟨rfl, -⟩
  · rcases (mem_targetsOf_saveTarget hrow).mp hb with ⟨hbOld, -⟩ | ⟨rfl, -⟩
    · exact h a haOld b hbOld hpa hpb
    · rw [AgentUpdateRolloutTargetEntity.savedOver_status] at hpb
      exact absurd hpa (by simp [hnew hpb a haOld haNe])
  · rcases (mem_targetsOf_saveTarget hrow).mp hb with ⟨hbOld, hbNe⟩ | ⟨rfl, -⟩
    · rw [AgentUpdateRolloutTargetEntity.savedOver_status] at hpa
      exact absurd hpb (by simp [hnew hpa b hbOld hbNe])
    · rfl

end AgentUpdatesService
