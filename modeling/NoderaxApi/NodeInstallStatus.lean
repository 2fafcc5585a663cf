/-
# The status of a node install

Progress reports, the consumption of the token, status reads and the clock, each as one
step on a node install.  A report leaves a terminal status alone.  A status read does not
look for one before it expires the install, nor does the consumption before it sets
INSTALLING, so an install that was reported as completed or failed before its token was
consumed can still move.

**`statusMonotone_iff`**: the status is monotone in a run if and only if no step of it finds
such an install where it would.
-/
import NoderaxApi.NodeInstalls
import NoderaxApi.Runs

namespace EnrollmentsService

open Runs

/-! ## The steps -/

/-- A node install and the clock. -/
structure InstallWorld where
  install : NodeInstallEntity
  clock : ℤ

/-- What happens to the install. -/
inductive InstallEvent
  | report (body : ReportNodeInstallProgressDto)
  /-- `consumeNodeInstall`; `node` is the answer of `assertWorkspaceWritable` and
  `createFromEnrollment`. -/
  | consume (hostname : String) (additionalInfo : Option JsonObject)
      (node : Except HttpError Uuid)
  /-- `getNodeInstallStatus`. -/
  | readStatus
  | advance (ms : ℕ)

/-- `consumeNodeInstall` on the row that it loads. -/
def consumeNodeInstall (install : NodeInstallEntity) (hostname : String)
    (additionalInfo : Option JsonObject) (node : Except HttpError Uuid) (now : ℤ) :
    NodeInstallEntity × Except HttpError Uuid :=
  match assertNotConsumed install with
  | .error e => (install, .error e)
  | .ok () =>
      if isNodeInstallExpired install now then
        (expireNodeInstall install, .error (.gone "Bootstrap token has expired"))
      else
        match node with
        | .error e => (install, .error e)
        | .ok nodeId => (consumedNodeInstall install hostname additionalInfo nodeId now, .ok nodeId)

/-- One step. -/
def installStep (w : InstallWorld) : InstallEvent → InstallWorld
  | .report body => { w with install := (reportNodeInstallProgress w.install body w.clock).1 }
  | .consume hostname additionalInfo node =>
      { w with install :=
          (consumeNodeInstall w.install hostname additionalInfo node w.clock).1 }
  | .readStatus => { w with install := expireNodeInstallIfNeeded w.install w.clock }
  | .advance ms => { w with clock := w.clock + ms }

/-! ## The condition and the property -/

/-- A terminal status stays, and a status read moves an install to EXPIRED only, and only one
that is not terminal. -/
structure StatusMonotone (w : InstallWorld) (es : List InstallEvent) : Prop where
  terminal : ∀ es₁ es₂ es₃, es = es₁ ++ es₂ ++ es₃ →
    (run installStep w es₁).install.status.isTerminal = true →
    (run installStep w (es₁ ++ es₂)).install.status = (run installStep w es₁).install.status
  reads : ∀ es₁ es₂, es = es₁ ++ .readStatus :: es₂ →
    (run installStep w (es₁ ++ [.readStatus])).install.status
        = (run installStep w es₁).install.status ∨
      ((run installStep w es₁).install.status.isTerminal = false ∧
        (run installStep w (es₁ ++ [.readStatus])).install.status = .expired)

/-- The step does not find an install with a terminal status that it would move: a read, a
report or a consumption one that is expired by its dates and not EXPIRED, or a consumption
one whose token is still good. -/
def LeavesTerminal (w : InstallWorld) (e : InstallEvent) : Prop :=
  w.install.status.isTerminal = true →
    match e with
    | .report _ | .readStatus =>
        isNodeInstallExpired w.install w.clock = true → w.install.status = .expired
    | .consume _ _ node =>
        (assertNotConsumed w.install).isOk = true →
          if isNodeInstallExpired w.install w.clock then w.install.status = .expired
          else node.isOk = false
    | .advance _ => True

instance LeavesTerminal.decidable (w : InstallWorld) (e : InstallEvent) :
    Decidable (LeavesTerminal w e) := by
  unfold LeavesTerminal
  cases e <;> infer_instance

/-! ## One step -/

/-- Whether a terminal install is moved by the expiry check. -/
theorem status_expire_iff {install : NodeInstallEntity} {now : ℤ} :
    (expireNodeInstallIfNeeded install now).status = install.status ↔
      (isNodeInstallExpired install now = true → install.status = .expired) := by
  rw [status_expireNodeInstallIfNeeded]
  split
  · next hexpired => exact ⟨fun h _ => h.symm, fun h => (h hexpired).symm⟩
  · next hlive => exact iff_of_true rfl fun hexpired => absurd hexpired hlive

/-- A report moves a terminal install only by the expiry check. -/
theorem status_report {install : NodeInstallEntity} {body : ReportNodeInstallProgressDto} {now : ℤ}
    (hterminal : install.status.isTerminal = true) :
    (reportNodeInstallProgress install body now).1.status
      = (expireNodeInstallIfNeeded install now).status := by
  rw [status_reportNodeInstallProgress, if_pos]
  rw [status_expireNodeInstallIfNeeded]
  split
  · rfl
  · exact hterminal

/-- What the consumption does to a terminal status. -/
theorem status_consume_iff {install : NodeInstallEntity} {hostname : String}
    {additionalInfo : Option JsonObject} {node : Except HttpError Uuid} {now : ℤ}
    (hterminal : install.status.isTerminal = true) :
    (consumeNodeInstall install hostname additionalInfo node now).1.status = install.status ↔
      ((assertNotConsumed install).isOk = true →
        if isNodeInstallExpired install now then install.status = .expired
        else node.isOk = false) := by
  unfold consumeNodeInstall
  cases hcheck : assertNotConsumed install with
  | error e => simp [Except.isOk, Except.toBool]
  | ok _ =>
      cases hexpired : isNodeInstallExpired install now with
      | true =>
          simp only [if_true, Except.isOk, Except.toBool, forall_const]
          exact eq_comm
      | false =>
          cases node with
          | error e => simp [Except.isOk, Except.toBool]
          | ok nodeId =>
              have hmoved : NodeInstallStatus.installing ≠ install.status := by
                intro heq
                rw [← heq] at hterminal
                cases hterminal
              simp [Except.isOk, Except.toBool, consumedNodeInstall, hmoved]

/-- **One step** leaves a terminal status if and only if the condition holds there. -/
theorem leavesTerminal_iff (w : InstallWorld) (e : InstallEvent) :
    LeavesTerminal w e ↔ (w.install.status.isTerminal = true →
      (installStep w e).install.status = w.install.status) := by
  unfold LeavesTerminal
  refine forall_congr' fun hterminal => ?_
  cases e with
  | report body =>
      show _ ↔ (reportNodeInstallProgress w.install body w.clock).1.status = w.install.status
      rw [status_report hterminal]
      exact status_expire_iff.symm
  | consume hostname additionalInfo node => exact (status_consume_iff hterminal).symm
  | readStatus => exact status_expire_iff.symm
  | advance ms => exact iff_of_true trivial rfl

/-- A status read leaves the status or expires the install. -/
theorem status_read (w : InstallWorld) :
    (installStep w .readStatus).install.status = w.install.status ∨
      (installStep w .readStatus).install.status = .expired := by
  show (expireNodeInstallIfNeeded w.install w.clock).status = _ ∨
    (expireNodeInstallIfNeeded w.install w.clock).status = _
  rw [status_expireNodeInstallIfNeeded]
  split
  · exact .inr rfl
  · exact .inl rfl

/-! ## Runs -/

/-- Along a run under the condition a terminal status stays. -/
theorem terminal_run {w : InstallWorld} {es : List InstallEvent}
    (hes : Along installStep LeavesTerminal w es) :
    w.install.status.isTerminal = true →
      (run installStep w es).install.status = w.install.status := by
  refine rel_run (I := fun _ => True)
    (R := fun w w' => w.install.status.isTerminal = true → w'.install.status = w.install.status)
    (fun _ _ => rfl) ?_ (fun _ _ _ _ => trivial) (fun w e _ h => (leavesTerminal_iff w e).mp h)
    trivial hes
  intro a b c hab hbc hterminal
  have hsame : b.install.status = a.install.status := hab hterminal
  exact (hbc (hsame ▸ hterminal)).trans hsame

/-- **The status of a node install is monotone** in a run, from any row at any time, if and
only if every step of the run leaves a terminal status alone. -/
theorem statusMonotone_iff (w : InstallWorld) (es : List InstallEvent) :
    StatusMonotone w es ↔ Along installStep LeavesTerminal w es := by
  constructor
  · intro h
    rw [along_iff]
    rintro es₁ e es₂ rfl
    rw [leavesTerminal_iff]
    intro hterminal
    have hstays := h.terminal es₁ [e] es₂ (by simp) hterminal
    rw [run_concat] at hstays
    exact hstays
  · intro hes
    constructor
    · rintro es₁ es₂ es₃ rfl hterminal
      obtain ⟨-, hes₂⟩ := along_append.mp (along_append.mp hes).1
      rw [run_append]
      exact terminal_run hes₂ hterminal
    · rintro es₁ es₂ rfl
      obtain ⟨hread, -⟩ := (along_append.mp hes).2
      rw [run_concat]
      cases hterminal : (run installStep w es₁).install.status.isTerminal with
      | true => exact .inl ((leavesTerminal_iff _ _).mp hread hterminal)
      | false =>
          rcases status_read (run installStep w es₁) with hsame | hexpired
          · exact .inl hsame
          · exact .inr ⟨rfl, hexpired⟩

/-- An install as `createNodeInstall` saves it. -/
def createdInstall : InstallWorld where
  install := {
    id := "i1"
    workspaceId := "w1"
    nodeName := "web-1"
    tokenHash := "$2b$12$abcdefghijklmnopqrstuu.drVYl9exJxYfjcR6Km31ctQWs4tA5K"
    tokenLookupHash := "ea866a757e4c38babfa8127cbe9a409d3e1f93a00ff1488ff735fcf917afffd0"
    expiresAt := nodeInstallTokenTtlMinutes * 60000 }
  clock := 0

/-- A failed install expires, and a completed one is installed again. -/
theorem reportedInstall_moves :
    (¬ ∀ (w : InstallWorld) (es : List InstallEvent), StatusMonotone w es) ∧
    (run installStep createdInstall
        [.report { stage := "completed", status := some .completed },
          .consume "web-1" none (.ok "n1")]).install.status = .installing := by
  refine ⟨fun hall => ?_, by decide +kernel⟩
  have hstays := (hall createdInstall
    [.report { stage := "dependencies_installing", status := some .failed },
      .advance 900000, .readStatus]).terminal
    [.report { stage := "dependencies_installing", status := some .failed }]
    [.advance 900000, .readStatus] [] rfl (by decide +kernel)
  exact absurd hstays (by decide +kernel)

end EnrollmentsService
