/-
# Install and enrollment tokens are single-use

The check of a token, the creation of its node and the save of its row are separate steps.
Two calls may both pass the check before either saves, and a call that fails between the
creation and its answer leaves a node behind without an agent token.

**`enrollmentTokens_singleUse`**: neither happens, and a token from which nothing was handed
out can still be used, as long as each node is created, and each expired row saved, with the row
and the number of nodes as the call checked them, no call checks a token between the node and the
answer of another, and no call fails there.
-/
import NoderaxApi.Enrollments

namespace EnrollmentsService

open KeyedTable Interleaving Runs

/-! ## The condition and the property -/

/-- How many nodes were created from the token. -/
def EnrollmentWorld.created (w : EnrollmentWorld) (token : TokenRef) : ℕ :=
  w.facts.countP fun
    | .nodeCreated source _ => source = token
    | .agentTokenIssued _ _ => false

/-- How many agent tokens were handed out for the token. -/
def EnrollmentWorld.issued (w : EnrollmentWorld) (token : TokenRef) : ℕ :=
  w.facts.countP fun
    | .agentTokenIssued source _ => source = token
    | .nodeCreated _ _ => false

/-- The row of the token says that it was used. -/
def EnrollmentWorld.Used (w : EnrollmentWorld) : TokenRef → Prop
  | .install id => ∃ row ∈ w.installs.get id, (assertNotConsumed row).isOk = false
  | .enrollment id => ∃ row ∈ w.enrollments.get id, row.status = .approved

instance EnrollmentWorld.Used.decidable (w : EnrollmentWorld) (token : TokenRef) :
    Decidable (w.Used token) := by
  cases token with
  | install id => exact inferInstanceAs (Decidable (∃ row ∈ w.installs.get id, _))
  | enrollment id => exact inferInstanceAs (Decidable (∃ row ∈ w.enrollments.get id, _))

/-- The row of the token says that it can be used. -/
def EnrollmentWorld.Open (w : EnrollmentWorld) : TokenRef → Prop
  | .install id => ∃ row ∈ w.installs.get id, assertNotConsumed row = .ok ()
  | .enrollment id => ∃ row ∈ w.enrollments.get id, assertEnrollmentPending row = .ok ()

/-- When the row of the token says that it expires. -/
def EnrollmentWorld.expiry (w : EnrollmentWorld) : TokenRef → Option ℤ
  | .install id => (w.installs.get id).map NodeInstallEntity.expiresAt
  | .enrollment id => (w.enrollments.get id).map EnrollmentEntity.expiresAt

/-- The token that a call presents. -/
def PendingEnrollmentCall.token : PendingEnrollmentCall → TokenRef
  | .savingExpired loaded | .resolvingWorkspace loaded | .assertingWritable loaded _ =>
      loaded.token
  | .findingHostname creation | .assertingWritableAgain creation | .findingTeam creation
  | .insertingNode creation | .populatingTeam creation _ | .savingToken creation _
  | .publishing creation _ => creation.loaded.token

/-- The call has created a node from the token and has not answered. -/
def PendingEnrollmentCall.Holds (call : PendingEnrollmentCall) (token : TokenRef) : Prop :=
  match call with
  | .populatingTeam creation _ | .savingToken creation _ | .publishing creation _ =>
      creation.loaded.token = token
  | _ => False

/-- The token that a request finds. -/
def EnrollmentRequest.finds (platform : EnrollmentPlatform) (w : EnrollmentWorld) :
    EnrollmentRequest → Option TokenRef
  | .consumeNodeInstall text _ _ =>
      match findNodeInstallByTokenOrThrow platform w.installs.rows text with
      | .error _ => none
      | .ok row => some (.install row.id)
  | .finalize text _ _ _ _ =>
      match findByTokenOrThrow platform w.enrollments.rows text with
      | .error _ => none
      | .ok row => some (.enrollment row.id)

/-- The nodes created from each token when a call checked its own. -/
abbrev CreatedThen := TokenRef → ℕ

/-- The calls, each with the number of nodes at its check. -/
def checkingCalls (platform : EnrollmentPlatform) :
    Calls EnrollmentWorld EnrollmentRequest (PendingEnrollmentCall × CreatedThen)
      EnrollmentInput :=
  (enrollmentCalls platform).remembering (fun _ _ w => w.created) fun created _ _ _ => created

/-- The row has the columns that the check of the token read. -/
def EnrollmentWorld.AsChecked (w : EnrollmentWorld) : LoadedToken → Prop
  | .install row _ _ => ∃ stored ∈ w.installs.get row.id,
      stored.consumedAt = row.consumedAt ∧ stored.nodeId = row.nodeId
  | .enrollment row _ _ => ∃ stored ∈ w.enrollments.get row.id, stored.status = row.status

instance EnrollmentWorld.AsChecked.decidable (w : EnrollmentWorld) (loaded : LoadedToken) :
    Decidable (w.AsChecked loaded) := by
  unfold EnrollmentWorld.AsChecked
  cases loaded <;> infer_instance

/-- No request finds a token for which another call has created a node and not answered. -/
def FindsNoneInProgress (platform : EnrollmentPlatform) (w : EnrollmentWorld)
    (request : EnrollmentRequest) (_ : EnrollmentInput) : Prop :=
  ∀ token ∈ request.finds platform w, token ∉ w.inProgress

instance FindsNoneInProgress.decidable (platform : EnrollmentPlatform) (w : EnrollmentWorld)
    (request : EnrollmentRequest) (input : EnrollmentInput) :
    Decidable (FindsNoneInProgress platform w request input) := by
  unfold FindsNoneInProgress; infer_instance

/-- An expired row is saved, and a node is created, with the token as the call checked it; and a
call does not fail once it has created its node. -/
def WritesAsChecked (w : EnrollmentWorld) (call : PendingEnrollmentCall × CreatedThen)
    (input : EnrollmentInput) : Prop :=
  match call.1 with
  | .savingExpired loaded => input.rejects = true ∨ w.AsChecked loaded
  | .insertingNode creation =>
      input.rejects = true ∨ (w.AsChecked creation.loaded ∧
        w.created creation.loaded.token = call.2 creation.loaded.token)
  | .populatingTeam _ _ | .savingToken _ _ | .publishing _ _ => input.rejects = false
  | _ => True

instance WritesAsChecked.decidable (w : EnrollmentWorld)
    (call : PendingEnrollmentCall × CreatedThen) (input : EnrollmentInput) :
    Decidable (WritesAsChecked w call input) := by
  unfold WritesAsChecked
  split <;> infer_instance

/-- What the steps rely on: a node is created from a token that is unused and that no other call
has created one from, its call does not fail after that, and no used token is marked as
expired. -/
def CreatesFromUnused (w : EnrollmentWorld) (call : PendingEnrollmentCall)
    (input : EnrollmentInput) : Prop :=
  match call with
  | .savingExpired loaded => input.rejects = true ∨ ¬ w.Used loaded.token
  | .insertingNode creation =>
      input.rejects = true ∨
        (¬ w.Used creation.loaded.token ∧ creation.loaded.token ∉ w.inProgress)
  | .populatingTeam _ _ | .savingToken _ _ | .publishing _ _ => input.rejects = false
  | _ => True

/-- The request finds the row of the token, and names a hostname that no node has. -/
def Presents (platform : EnrollmentPlatform) (w : EnrollmentWorld) (request : EnrollmentRequest)
    (token : TokenRef) : Prop :=
  match request with
  | .consumeNodeInstall text hostname _ =>
      ∃ row, findNodeInstallByTokenOrThrow platform w.installs.rows text = .ok row ∧
        token = .install row.id ∧
        ∀ node ∈ w.nodes.rows, node.hostname ≠ normalizeHostname platform.toLowerCase hostname
  | .finalize text email _ _ _ =>
      ∃ row, findByTokenOrThrow platform w.enrollments.rows text = .ok row ∧
        token = .enrollment row.id ∧ row.email = platform.toLowerCase (jsTrim email) ∧
        ∀ node ∈ w.nodes.rows, node.hostname ≠ row.hostname

/-- Whoever presents the token, in a call whose steps follow each other and do not fail, is
handed an agent token. -/
def Usable (platform : EnrollmentPlatform) (c : EnrollmentConfig) (token : TokenRef) : Prop :=
  ∀ p request input, c.pending p = none → Presents platform c.world request token →
    input.rejects = false → c.world.nodes.get input.nodeId = none →
    .agentTokenIssued token input.nodeId ∈
      (run (enrollmentStep platform) c
        (.invoke p request input :: List.replicate 9 (.resume p input))).world.facts

/-- At most one node and one agent token come from the token; and while no call is between its
node and its answer, a token that could be used and was not, before it expires, can be used. -/
structure SingleUse (platform : EnrollmentPlatform) (start : EnrollmentWorld)
    (c : EnrollmentConfig) (token : TokenRef) : Prop where
  created : c.world.created token ≤ 1
  issued : c.world.issued token ≤ 1
  usable : (∀ p call, c.pending p = some call → ¬ call.Holds token) → start.Open token →
    (∃ time ∈ start.expiry token, c.world.clock < time) → c.world.issued token = 0 →
    c.world.created token = 0 ∧ Usable platform c token

/-! ## What the writes do to the rows -/

/-- The row of the token is the same in both worlds. -/
def SameRow (w w' : EnrollmentWorld) : TokenRef → Prop
  | .install id => w'.installs.get id = w.installs.get id
  | .enrollment id => w'.enrollments.get id = w.enrollments.get id

/-- The token has a row. -/
def EnrollmentWorld.Stored (w : EnrollmentWorld) : TokenRef → Prop
  | .install id => (w.installs.get id).isSome = true
  | .enrollment id => (w.enrollments.get id).isSome = true

variable {w w' start : EnrollmentWorld} {token : TokenRef} {loaded : LoadedToken}
  {creation : NodeCreation} {nodeId : Uuid} {platform : EnrollmentPlatform}

theorem sameRow_of_tables (hinstalls : w'.installs = w.installs)
    (henrollments : w'.enrollments = w.enrollments) (token : TokenRef) : SameRow w w' token := by
  cases token with
  | install id => exact congrArg (fun table => table.get id) hinstalls
  | enrollment id => exact congrArg (fun table => table.get id) henrollments

theorem SameRow.used_iff (h : SameRow w w' token) : w'.Used token ↔ w.Used token := by
  cases token with
  | install id => simp only [EnrollmentWorld.Used, show w'.installs.get id = _ from h]
  | enrollment id => simp only [EnrollmentWorld.Used, show w'.enrollments.get id = _ from h]

theorem SameRow.open_iff (h : SameRow w w' token) : w'.Open token ↔ w.Open token := by
  cases token with
  | install id => simp only [EnrollmentWorld.Open, show w'.installs.get id = _ from h]
  | enrollment id => simp only [EnrollmentWorld.Open, show w'.enrollments.get id = _ from h]

theorem SameRow.expiry_eq (h : SameRow w w' token) : w'.expiry token = w.expiry token := by
  cases token with
  | install id => simp only [EnrollmentWorld.expiry, show w'.installs.get id = _ from h]
  | enrollment id => simp only [EnrollmentWorld.expiry, show w'.enrollments.get id = _ from h]

theorem SameRow.stored_iff (h : SameRow w w' token) : w'.Stored token ↔ w.Stored token := by
  cases token with
  | install id => simp only [EnrollmentWorld.Stored, show w'.installs.get id = _ from h]
  | enrollment id => simp only [EnrollmentWorld.Stored, show w'.enrollments.get id = _ from h]

theorem SameRow.trans {w₁ w₂ w₃ : EnrollmentWorld} (h : SameRow w₁ w₂ token)
    (h' : SameRow w₂ w₃ token) : SameRow w₁ w₃ token := by
  cases token with
  | install id => exact Eq.trans h' h
  | enrollment id => exact Eq.trans h' h

/-- An open token is not used. -/
theorem EnrollmentWorld.Open.not_used (h : w.Open token) : ¬ w.Used token := by
  cases token with
  | install id =>
      rintro ⟨row, hrow, hused⟩
      obtain ⟨row', hrow', hopen⟩ := h
      obtain rfl := Option.some.inj (hrow.symm.trans hrow')
      rw [hopen] at hused
      cases hused
  | enrollment id =>
      rintro ⟨row, hrow, hused⟩
      obtain ⟨row', hrow', hopen⟩ := h
      obtain rfl := Option.some.inj (hrow.symm.trans hrow')
      rw [assertEnrollmentPending, hused] at hopen
      cases hopen

theorem installs_saveInstall (w : EnrollmentWorld) (entity : NodeInstallEntity)
    {row : NodeInstallEntity} (hrow : w.installs.get entity.id = some row) (id : Uuid) :
    (w.saveInstall entity).installs.get id =
      if id = entity.id then some entity else w.installs.get id := by
  have hid : row.id = entity.id := Table.key_of_get hrow
  rw [EnrollmentWorld.saveInstall, Table.get_update_key hrow]
  split
  · rw [hid]
  · rfl

theorem enrollments_saveEnrollment (w : EnrollmentWorld) (entity : EnrollmentEntity)
    {row : EnrollmentEntity} (hrow : w.enrollments.get entity.id = some row) (id : Uuid) :
    (w.saveEnrollment entity).enrollments.get id =
      if id = entity.id then some entity else w.enrollments.get id := by
  have hid : row.id = entity.id := Table.key_of_get hrow
  rw [EnrollmentWorld.saveEnrollment, Table.get_update_key hrow]
  split
  · rw [hid]
  · rfl

/-- The row that was loaded passed the check on its use. -/
def LoadedToken.Unused : LoadedToken → Prop
  | .install row _ _ => (assertNotConsumed row).isOk = true
  | .enrollment row _ _ => row.status ≠ .approved

/-- The save of an expired row leaves the other rows alone. -/
theorem sameRow_saveExpired (hstored : w.Stored loaded.token) (hne : token ≠ loaded.token) :
    SameRow w (w.saveExpired loaded) token := by
  cases loaded with
  | install row hostname additionalInfo =>
      obtain ⟨stored, hrow⟩ := Option.isSome_iff_exists.mp hstored
      cases token with
      | install id =>
          have hid : id ≠ (expireNodeInstall row).id := fun heq =>
            hne (congrArg TokenRef.install heq)
          exact (installs_saveInstall w (expireNodeInstall row) hrow id).trans (if_neg hid)
      | enrollment id => rfl
  | enrollment row nodeName description =>
      obtain ⟨stored, hrow⟩ := Option.isSome_iff_exists.mp hstored
      cases token with
      | install id => rfl
      | enrollment id =>
          have hid : id ≠ (revokedEnrollment row w.clock).id :=
            fun heq => hne (congrArg TokenRef.enrollment heq)
          exact (enrollments_saveEnrollment w (revokedEnrollment row w.clock) hrow id).trans
            (if_neg hid)

/-- An expired row is saved as unused. -/
theorem not_used_saveExpired (hstored : w.Stored loaded.token) (hunused : loaded.Unused) :
    (w.saveExpired loaded).Stored loaded.token ∧ ¬ (w.saveExpired loaded).Used loaded.token := by
  cases loaded with
  | install row hostname additionalInfo =>
      obtain ⟨stored, hrow⟩ := Option.isSome_iff_exists.mp hstored
      have hsaved := (installs_saveInstall w (expireNodeInstall row) hrow row.id).trans
        (if_pos rfl)
      refine ⟨Option.isSome_iff_exists.mpr ⟨_, hsaved⟩, ?_⟩
      rintro ⟨row', hrow', hused⟩
      obtain rfl := Option.some.inj (hrow'.symm.trans hsaved)
      have hok : (assertNotConsumed row).isOk = false := hused
      exact absurd hunused (by simp [LoadedToken.Unused, hok])
  | enrollment row nodeName description =>
      obtain ⟨stored, hrow⟩ := Option.isSome_iff_exists.mp hstored
      have hsaved := (enrollments_saveEnrollment w (revokedEnrollment row w.clock) hrow
        row.id).trans (if_pos rfl)
      refine ⟨Option.isSome_iff_exists.mpr ⟨_, hsaved⟩, ?_⟩
      rintro ⟨row', hrow', hused⟩
      obtain rfl := Option.some.inj (hrow'.symm.trans hsaved)
      exact absurd hused (by simp [revokedEnrollment])

/-- The save of a token leaves the other rows alone. -/
theorem sameRow_saveToken (hstored : w.Stored creation.loaded.token)
    (hne : token ≠ creation.loaded.token) : SameRow w (w.saveToken creation nodeId) token := by
  unfold EnrollmentWorld.saveToken
  cases hloaded : creation.loaded with
  | install row hostname additionalInfo =>
      rw [hloaded] at hstored hne
      obtain ⟨stored, hrow⟩ := Option.isSome_iff_exists.mp hstored
      cases token with
      | install id =>
          exact (installs_saveInstall w
            (consumedNodeInstall row hostname additionalInfo nodeId w.clock) hrow
            id).trans (if_neg fun heq => hne (congrArg TokenRef.install heq))
      | enrollment id => rfl
  | enrollment row nodeName description =>
      rw [hloaded] at hstored hne
      obtain ⟨stored, hrow⟩ := Option.isSome_iff_exists.mp hstored
      cases token with
      | install id => rfl
      | enrollment id =>
          exact (enrollments_saveEnrollment w
            (approvedEnrollment row creation.node.workspaceId nodeId creation.agentToken
              w.clock) hrow id).trans (if_neg fun heq => hne (congrArg TokenRef.enrollment heq))

/-- A saved token is used. -/
theorem used_saveToken (nodeId : Uuid) (hstored : w.Stored creation.loaded.token) :
    (w.saveToken creation nodeId).Used creation.loaded.token := by
  unfold EnrollmentWorld.saveToken
  cases hloaded : creation.loaded with
  | install row hostname additionalInfo =>
      rw [hloaded] at hstored
      obtain ⟨stored, hrow⟩ := Option.isSome_iff_exists.mp hstored
      exact ⟨_, (installs_saveInstall w
        (consumedNodeInstall row hostname additionalInfo nodeId w.clock) hrow
        row.id).trans (if_pos rfl), rfl⟩
  | enrollment row nodeName description =>
      rw [hloaded] at hstored
      obtain ⟨stored, hrow⟩ := Option.isSome_iff_exists.mp hstored
      exact ⟨_, (enrollments_saveEnrollment w
        (approvedEnrollment row creation.node.workspaceId nodeId creation.agentToken
          w.clock) hrow row.id).trans (if_pos rfl), rfl⟩

/-! ## The invariant -/

/-- The token had expired by its row at the start. -/
def Expired (start w : EnrollmentWorld) (token : TokenRef) : Prop :=
  ∃ time ∈ start.expiry token, time ≤ w.clock

/-- What holds of a token: its nodes are answered or in progress, at most one in all; it is used
once it was answered, and only if it was or is in progress; and until it is used or expired its
row is the one at the start. -/
structure TokenKept (start w : EnrollmentWorld) (token : TokenRef) : Prop where
  created : w.created token = w.issued token + w.inProgress.count token
  once : w.issued token + w.inProgress.count token ≤ 1
  answered : 0 < w.issued token → w.Used token
  unmarked : w.issued token = 0 → w.inProgress.count token = 0 → w.Used token → start.Used token
  row : ¬ Expired start w token → ¬ w.Used token → SameRow start w token

/-- What a pending call relies on. -/
def CallKept (start w : EnrollmentWorld) : PendingEnrollmentCall → Prop
  | .savingExpired loaded => w.Stored loaded.token ∧ loaded.Unused ∧ Expired start w loaded.token
  | .resolvingWorkspace loaded | .assertingWritable loaded _ => w.Stored loaded.token
  | .findingHostname creation | .assertingWritableAgain creation | .findingTeam creation
  | .insertingNode creation => w.Stored creation.loaded.token
  | .populatingTeam creation _ | .savingToken creation _ =>
      w.Stored creation.loaded.token ∧ w.inProgress.count creation.loaded.token = 1
  | .publishing creation _ =>
      w.Stored creation.loaded.token ∧ w.inProgress.count creation.loaded.token = 1 ∧
        w.Used creation.loaded.token

/-- Two calls do not hold the same token. -/
def HoldApart (call other : PendingEnrollmentCall) : Prop :=
  ∀ token, call.Holds token → ¬ other.Holds token

/-- A step that concerns one token. -/
structure ChangesOnly (token : TokenRef) (w w' : EnrollmentWorld) : Prop where
  clock : w'.clock = w.clock
  stored : w.Stored token → w'.Stored token
  row : ∀ other, other ≠ token → SameRow w w' other
  counts : ∀ other, other ≠ token → w'.created other = w.created other ∧
    w'.issued other = w.issued other ∧ w'.inProgress.count other = w.inProgress.count other

theorem ChangesOnly.refl (token : TokenRef) (w : EnrollmentWorld) : ChangesOnly token w w where
  clock := rfl
  stored h := h
  row other _ := sameRow_of_tables rfl rfl other
  counts _ _ := ⟨rfl, rfl, rfl⟩

theorem ChangesOnly.trans {w₁ w₂ w₃ : EnrollmentWorld} (h : ChangesOnly token w₁ w₂)
    (h' : ChangesOnly token w₂ w₃) : ChangesOnly token w₁ w₃ where
  clock := h'.clock.trans h.clock
  stored := fun hstored => h'.stored (h.stored hstored)
  row other hne := (h.row other hne).trans (h'.row other hne)
  counts other hne := by
    obtain ⟨hcreated, hissued, hcount⟩ := h.counts other hne
    obtain ⟨hcreated', hissued', hcount'⟩ := h'.counts other hne
    exact ⟨hcreated'.trans hcreated, hissued'.trans hissued, hcount'.trans hcount⟩

/-- A step that concerns another token. -/
theorem TokenKept.frame {other : TokenRef} (h : TokenKept start w other)
    (hchange : ChangesOnly token w w') (hne : other ≠ token) : TokenKept start w' other := by
  have hrow := hchange.row other hne
  obtain ⟨hcreated, hissued, hcount⟩ := hchange.counts other hne
  constructor
  · rw [hcreated, hissued, hcount]
    exact h.created
  · rw [hissued, hcount]
    exact h.once
  · rw [hissued, hrow.used_iff]
    exact h.answered
  · rw [hissued, hcount, hrow.used_iff]
    exact h.unmarked
  · intro hlive hunused
    rw [hrow.used_iff] at hunused
    unfold Expired at hlive
    rw [hchange.clock] at hlive
    exact (h.row hlive hunused).trans hrow

/-- A call that relies on what a step leaves alone. -/
theorem CallKept.frame {call : PendingEnrollmentCall} (h : CallKept start w call)
    (hclock : w.clock ≤ w'.clock) (hstored : ∀ token, w.Stored token → w'.Stored token)
    (hholds : ∀ token, call.Holds token → w.inProgress.count token = 1 →
      w'.inProgress.count token = 1 ∧ (w.Used token → w'.Used token)) :
    CallKept start w' call := by
  cases call with
  | savingExpired loaded =>
      obtain ⟨hrow, hunused, time, htime, hpast⟩ := h
      exact ⟨hstored _ hrow, hunused, time, htime, Int.le_trans hpast hclock⟩
  | resolvingWorkspace loaded => exact hstored _ h
  | assertingWritable loaded workspaceId => exact hstored _ h
  | findingHostname creation => exact hstored _ h
  | assertingWritableAgain creation => exact hstored _ h
  | findingTeam creation => exact hstored _ h
  | insertingNode creation => exact hstored _ h
  | populatingTeam creation nodeId => exact ⟨hstored _ h.1, (hholds _ rfl h.2).1⟩
  | savingToken creation nodeId => exact ⟨hstored _ h.1, (hholds _ rfl h.2).1⟩
  | publishing creation nodeId =>
      obtain ⟨hcount, hused⟩ := hholds _ rfl h.2.1
      exact ⟨hstored _ h.1, hcount, hused h.2.2⟩

/-! ## One step of a call -/

/-- What a step of a call does to the world, to the token of the call and to the call. -/
structure Advance (start w : EnrollmentWorld) (call : PendingEnrollmentCall)
    (w' : EnrollmentWorld) (next : Option PendingEnrollmentCall) : Prop where
  changes : ChangesOnly call.token w w'
  kept : TokenKept start w' call.token
  /-- The token is left to a call that has created a node from it. -/
  leaves : ¬ call.Holds call.token → w.inProgress.count call.token = 1 →
    w'.inProgress.count call.token = 1 ∧ (w.Used call.token → w'.Used call.token)
  relies : ∀ after, next = some after → CallKept start w' after
  /-- The call comes to hold a token only when no call does. -/
  holds : ∀ after, next = some after → ∀ token, after.Holds token →
    call.Holds token ∨ w.inProgress.count token = 0
  /-- A token stays in progress only in the hands of a call. -/
  held : ∀ token ∈ w'.inProgress, (∃ after, next = some after ∧ after.Holds token) ∨
    (token ∈ w.inProgress ∧ ¬ call.Holds token)

variable {call : PendingEnrollmentCall}

/-- A call that holds a token holds the one it presents. -/
theorem PendingEnrollmentCall.Holds.token_eq (h : call.Holds token) : call.token = token := by
  cases call with
  | populatingTeam creation nodeId => exact h
  | savingToken creation nodeId => exact h
  | publishing creation nodeId => exact h
  | _ => exact h.elim

/-- A step that only looks. -/
theorem Advance.looks {next : Option PendingEnrollmentCall} (h : TokenKept start w call.token)
    (hfree : ∀ token, ¬ call.Holds token)
    (hnext : ∀ after, next = some after → CallKept start w after ∧ ∀ token, ¬ after.Holds token) :
    Advance start w call w next where
  changes := ChangesOnly.refl _ w
  kept := h
  leaves _ hcount := ⟨hcount, id⟩
  relies after hafter := (hnext after hafter).1
  holds after hafter token hheld := absurd hheld ((hnext after hafter).2 token)
  held token hmem := .inr ⟨hmem, hfree token⟩

/-- The facts and the tokens in progress after a node is stored. -/
theorem counts_insertNode (w : EnrollmentWorld) (creation : NodeCreation) (nodeId : Uuid)
    (token : TokenRef) :
    (w.insertNode creation nodeId).created token
        = w.created token + (if creation.loaded.token = token then 1 else 0) ∧
      (w.insertNode creation nodeId).issued token = w.issued token ∧
      (w.insertNode creation nodeId).inProgress.count token
        = w.inProgress.count token + (if creation.loaded.token = token then 1 else 0) := by
  simp only [EnrollmentWorld.insertNode, EnrollmentWorld.created, EnrollmentWorld.issued,
    List.countP_append, List.countP_singleton, List.count_append, List.count_singleton,
    decide_eq_true_eq, beq_iff_eq]
  simp

/-- The facts and the tokens in progress after a call answers with an agent token. -/
theorem counts_issueAgentToken (w : EnrollmentWorld) (creation : NodeCreation) (nodeId : Uuid)
    (token : TokenRef) :
    (w.issueAgentToken creation nodeId).created token = w.created token ∧
      (w.issueAgentToken creation nodeId).issued token
        = w.issued token + (if creation.loaded.token = token then 1 else 0) ∧
      (w.issueAgentToken creation nodeId).inProgress.count token
        = w.inProgress.count token - (if creation.loaded.token = token then 1 else 0) := by
  simp only [EnrollmentWorld.issueAgentToken, EnrollmentWorld.endCreation,
    EnrollmentWorld.created, EnrollmentWorld.issued, List.countP_append, List.countP_singleton,
    List.count_erase, decide_eq_true_eq, beq_iff_eq]
  simp

/-- An expired row is saved over one that is not used. -/
theorem Advance.saveExpired (h : TokenKept start w loaded.token)
    (hcall : CallKept start w (.savingExpired loaded)) (hguard : ¬ w.Used loaded.token) :
    Advance start w (.savingExpired loaded) (w.saveExpired loaded) none := by
  obtain ⟨hstored, hunused, hexpired⟩ := hcall
  obtain ⟨hsaved, hnot⟩ := not_used_saveExpired hstored hunused
  have hclock : (w.saveExpired loaded).clock = w.clock := by cases loaded <;> rfl
  have hfacts : (w.saveExpired loaded).facts = w.facts := by cases loaded <;> rfl
  have hprogress : (w.saveExpired loaded).inProgress = w.inProgress := by cases loaded <;> rfl
  constructor
  · refine ⟨hclock, fun _ => hsaved, fun other hne => sameRow_saveExpired hstored hne, ?_⟩
    intro other _
    simp only [EnrollmentWorld.created, EnrollmentWorld.issued, hfacts, hprogress, and_self]
  · constructor
    · simp only [EnrollmentWorld.created, EnrollmentWorld.issued, hfacts, hprogress]
      exact h.created
    · simp only [EnrollmentWorld.issued, hfacts, hprogress]
      exact h.once
    · simp only [EnrollmentWorld.issued, hfacts]
      exact fun hissued => absurd (h.answered hissued) hguard
    · exact fun _ _ hused => absurd hused hnot
    · intro hlive
      unfold Expired at hlive
      rw [hclock] at hlive
      exact absurd hexpired hlive
  · exact fun _ hcount => ⟨hprogress ▸ hcount, fun hused => absurd hused hguard⟩
  · exact fun after hafter => absurd hafter (by simp)
  · exact fun after hafter => absurd hafter (by simp)
  · exact fun token hmem => .inr ⟨hprogress ▸ hmem, id⟩

theorem changesOnly_insertNode (w : EnrollmentWorld) (creation : NodeCreation) (nodeId : Uuid) :
    ChangesOnly creation.loaded.token w (w.insertNode creation nodeId) where
  clock := rfl
  stored := (sameRow_of_tables rfl rfl _).stored_iff.mpr
  row other _ := sameRow_of_tables rfl rfl other
  counts other hne := by
    obtain ⟨hcreated, hissued, hcount⟩ :=
      counts_insertNode w creation nodeId other
    rw [if_neg hne.symm, Nat.add_zero] at hcreated hcount
    exact ⟨hcreated, hissued, hcount⟩

/-- A node is stored for an unused token that no call holds. -/
theorem TokenKept.insertNode (h : TokenKept start w creation.loaded.token)
    (hunused : ¬ w.Used creation.loaded.token) (hfree : creation.loaded.token ∉ w.inProgress) :
    TokenKept start (w.insertNode creation nodeId) creation.loaded.token := by
  have hcount : w.inProgress.count creation.loaded.token = 0 := List.count_eq_zero.mpr hfree
  have hissued : w.issued creation.loaded.token = 0 := by
    by_contra hissued
    exact hunused (h.answered (Nat.pos_of_ne_zero hissued))
  have hcreated := h.created
  have hsame : SameRow w (w.insertNode creation nodeId) creation.loaded.token :=
    sameRow_of_tables rfl rfl _
  obtain ⟨hcreated', hissued', hcount'⟩ :=
    counts_insertNode w creation nodeId creation.loaded.token
  rw [if_pos rfl] at hcreated' hcount'
  constructor
  · omega
  · omega
  · exact fun hlt => absurd (hissued'.trans hissued) (Nat.pos_iff_ne_zero.mp hlt)
  · exact fun _ hzero => absurd (hcount'.symm.trans hzero) (Nat.succ_ne_zero _)
  · exact fun hlive hnot => (h.row hlive fun hused => hnot (hsame.used_iff.mpr hused)).trans hsame

theorem Advance.insertNode {next : PendingEnrollmentCall}
    (h : TokenKept start w creation.loaded.token) (hstored : w.Stored creation.loaded.token)
    (hunused : ¬ w.Used creation.loaded.token) (hfree : creation.loaded.token ∉ w.inProgress)
    (hnext : next = .populatingTeam creation nodeId ∨ next = .savingToken creation nodeId) :
    Advance start w (.insertingNode creation) (w.insertNode creation nodeId) (some next) := by
  have hchange := changesOnly_insertNode w creation nodeId
  have hcount : w.inProgress.count creation.loaded.token = 0 := List.count_eq_zero.mpr hfree
  refine ⟨hchange, h.insertNode hunused hfree, ?_, ?_, ?_, ?_⟩
  · exact fun _ hone => absurd (hcount.symm.trans hone) Nat.zero_ne_one
  · intro after hafter
    obtain rfl := Option.some.inj hafter
    have hone : (w.insertNode creation nodeId).inProgress.count creation.loaded.token = 1 := by
      simp [EnrollmentWorld.insertNode, hcount]
    rcases hnext with rfl | rfl <;> exact ⟨hchange.stored hstored, hone⟩
  · intro after hafter token hholds
    obtain rfl := Option.some.inj hafter
    have htoken : creation.loaded.token = token := by
      rcases hnext with rfl | rfl <;> exact hholds
    exact .inr (htoken ▸ hcount)
  · intro token hmem
    rcases List.mem_append.mp hmem with hold | hnew
    · exact .inr ⟨hold, id⟩
    · obtain rfl := List.mem_singleton.mp hnew
      refine .inl ⟨next, rfl, ?_⟩
      rcases hnext with rfl | rfl <;> rfl

theorem changesOnly_saveToken (nodeId : Uuid) (hstored : w.Stored creation.loaded.token) :
    ChangesOnly creation.loaded.token w (w.saveToken creation nodeId) where
  clock := by unfold EnrollmentWorld.saveToken; split <;> rfl
  stored _ := by
    have hused := used_saveToken nodeId hstored
    generalize creation.loaded.token = token at hused
    cases token with
    | install id =>
        obtain ⟨row, hrow, -⟩ := hused
        exact Option.isSome_iff_exists.mpr ⟨row, hrow⟩
    | enrollment id =>
        obtain ⟨row, hrow, -⟩ := hused
        exact Option.isSome_iff_exists.mpr ⟨row, hrow⟩
  row other hne := sameRow_saveToken hstored hne
  counts other _ := by unfold EnrollmentWorld.saveToken; split <;> exact ⟨rfl, rfl, rfl⟩

/-- A token in progress is saved. -/
theorem TokenKept.saveToken (nodeId : Uuid) (h : TokenKept start w creation.loaded.token)
    (hstored : w.Stored creation.loaded.token)
    (hcount : w.inProgress.count creation.loaded.token = 1) :
    TokenKept start (w.saveToken creation nodeId) creation.loaded.token := by
  have hused := used_saveToken nodeId hstored
  have hfacts : (w.saveToken creation nodeId).facts = w.facts := by
    unfold EnrollmentWorld.saveToken; split <;> rfl
  have hprogress : (w.saveToken creation nodeId).inProgress = w.inProgress := by
    unfold EnrollmentWorld.saveToken; split <;> rfl
  constructor
  · simp only [EnrollmentWorld.created, EnrollmentWorld.issued, hfacts, hprogress]
    exact h.created
  · simp only [EnrollmentWorld.issued, hfacts, hprogress]
    exact h.once
  · exact fun _ => hused
  · rw [hprogress, hcount]
    exact fun _ hzero => absurd hzero Nat.one_ne_zero
  · exact fun _ hunused => absurd hused hunused

theorem changesOnly_issueAgentToken (w : EnrollmentWorld) (creation : NodeCreation)
    (nodeId : Uuid) : ChangesOnly creation.loaded.token w (w.issueAgentToken creation nodeId) where
  clock := rfl
  stored := (sameRow_of_tables rfl rfl _).stored_iff.mpr
  row other _ := sameRow_of_tables rfl rfl other
  counts other hne := by
    obtain ⟨hcreated, hissued, hcount⟩ :=
      counts_issueAgentToken w creation nodeId other
    rw [if_neg hne.symm] at hissued hcount
    exact ⟨hcreated, hissued, hcount⟩

/-- A call answers for a token that it holds and that is used. -/
theorem TokenKept.issueAgentToken (h : TokenKept start w creation.loaded.token)
    (hcount : w.inProgress.count creation.loaded.token = 1)
    (hused : w.Used creation.loaded.token) :
    TokenKept start (w.issueAgentToken creation nodeId) creation.loaded.token := by
  have hsame : SameRow w (w.issueAgentToken creation nodeId) creation.loaded.token :=
    sameRow_of_tables rfl rfl _
  have hcreated := h.created
  have honce := h.once
  obtain ⟨hcreated', hissued', hcount'⟩ :=
    counts_issueAgentToken w creation nodeId creation.loaded.token
  rw [if_pos rfl] at hissued' hcount'
  constructor
  · omega
  · omega
  · exact fun _ => hsame.used_iff.mpr hused
  · intro hnone
    omega
  · exact fun _ hunused => absurd (hsame.used_iff.mpr hused) hunused

/-- A call that holds its token ends with an answer, after a save that left it in progress. -/
theorem Advance.issueAgentToken (hheld : call.Holds creation.loaded.token)
    (hchange : ChangesOnly creation.loaded.token w w') (hprogress : w'.inProgress = w.inProgress)
    (h : TokenKept start w' creation.loaded.token)
    (hcount : w'.inProgress.count creation.loaded.token = 1)
    (hused : w'.Used creation.loaded.token) :
    Advance start w call (w'.issueAgentToken creation nodeId) none := by
  have htoken : call.token = creation.loaded.token := hheld.token_eq
  constructor
  · rw [htoken]
    exact hchange.trans (changesOnly_issueAgentToken w' creation nodeId)
  · rw [htoken]
    exact h.issueAgentToken hcount hused
  · exact fun hfree => absurd (htoken ▸ hheld) hfree
  · exact fun after hafter => absurd hafter (by simp)
  · exact fun after hafter => absurd hafter (by simp)
  · intro token hmem
    refine .inr ⟨hprogress ▸ List.mem_of_mem_erase hmem, fun hholds => ?_⟩
    -- the one occurrence of the token is gone
    obtain rfl : creation.loaded.token = token := htoken.symm.trans hholds.token_eq
    have hzero : (w'.inProgress.erase creation.loaded.token).count creation.loaded.token = 0 := by
      rw [List.count_erase_self, hcount]
    exact List.count_eq_zero.mp hzero hmem

/-- **One later step of a call**, under the condition. -/
theorem advance (platform : EnrollmentPlatform) {input : EnrollmentInput}
    (h : ∀ token, TokenKept start w token)
    (hcall : CallKept start w call) (hguard : CreatesFromUnused w call input) :
    Advance start w call (resumeEnrollment platform call input w).1
      (resumeEnrollment platform call input w).2 := by
  unfold resumeEnrollment
  cases hrejects : input.rejects with
  | true =>
      have hfree : ∀ token, ¬ call.Holds token := by
        intro token hheld
        cases call with
        | populatingTeam creation nodeId => exact absurd (hguard.symm.trans hrejects) (by simp)
        | savingToken creation nodeId => exact absurd (hguard.symm.trans hrejects) (by simp)
        | publishing creation nodeId => exact absurd (hguard.symm.trans hrejects) (by simp)
        | _ => exact hheld
      have hstays : rejectEnrollment call w = w := by
        cases call with
        | populatingTeam creation nodeId => exact absurd rfl (hfree creation.loaded.token)
        | savingToken creation nodeId => exact absurd rfl (hfree creation.loaded.token)
        | publishing creation nodeId => exact absurd rfl (hfree creation.loaded.token)
        | _ => rfl
      rw [if_pos rfl, hstays]
      exact Advance.looks (h _) hfree fun after hafter => absurd hafter (by simp)
  | false =>
      rw [if_neg Bool.false_ne_true]
      -- a lookup leaves the world as it is and the token to whoever holds it
      have hlooks : ∀ {next : Option PendingEnrollmentCall}, (∀ token, ¬ call.Holds token) →
          (∀ after, next = some after → CallKept start w after ∧ ∀ token, ¬ after.Holds token) →
          Advance start w call w next := Advance.looks (h _)
      cases call with
      | savingExpired loaded =>
          refine Advance.saveExpired (h _) hcall (hguard.resolve_left ?_)
          simp [hrejects]
      | resolvingWorkspace loaded =>
          refine hlooks (fun _ => id) fun after hafter => ?_
          obtain rfl := Option.some.inj hafter
          exact ⟨hcall, fun _ => id⟩
      | assertingWritable loaded workspaceId =>
          refine hlooks (fun _ => id) fun after hafter => ?_
          obtain rfl := Option.some.inj hafter
          exact ⟨hcall, fun _ => id⟩
      | findingHostname creation =>
          simp only [continueEnrollment]
          split
          · exact hlooks (fun _ => id) fun after hafter => absurd hafter (by simp)
          · refine hlooks (fun _ => id) fun after hafter => ?_
            obtain rfl := Option.some.inj hafter
            exact ⟨hcall, fun _ => id⟩
      | assertingWritableAgain creation =>
          simp only [continueEnrollment]
          split
          · refine hlooks (fun _ => id) fun after hafter => ?_
            obtain rfl := Option.some.inj hafter
            exact ⟨hcall, fun _ => id⟩
          · refine hlooks (fun _ => id) fun after hafter => ?_
            obtain rfl := Option.some.inj hafter
            exact ⟨hcall, fun _ => id⟩
      | findingTeam creation =>
          refine hlooks (fun _ => id) fun after hafter => ?_
          obtain rfl := Option.some.inj hafter
          exact ⟨hcall, fun _ => id⟩
      | insertingNode creation =>
          obtain ⟨hunused, hfree⟩ := hguard.resolve_left (by simp [hrejects])
          simp only [continueEnrollment]
          split
          · exact hlooks (fun _ => id) fun after hafter => absurd hafter (by simp)
          · split
            · exact Advance.insertNode (h _) hcall hunused hfree (.inl rfl)
            · exact Advance.insertNode (h _) hcall hunused hfree (.inr rfl)
      | populatingTeam creation nodeId =>
          refine ⟨ChangesOnly.refl _ w, h _, fun hfree => absurd rfl hfree, ?_, ?_, ?_⟩
          · intro after hafter
            obtain rfl := Option.some.inj hafter
            exact hcall
          · intro after hafter token hheld
            obtain rfl := Option.some.inj hafter
            exact .inl hheld
          · intro token hmem
            by_cases hheld : creation.loaded.token = token
            · exact .inl ⟨_, rfl, hheld⟩
            · exact .inr ⟨hmem, hheld⟩
      | savingToken creation nodeId =>
          obtain ⟨hstored, hcount⟩ := hcall
          have hchange := changesOnly_saveToken nodeId hstored
          have hkept := (h creation.loaded.token).saveToken nodeId hstored hcount
          have hused := used_saveToken nodeId hstored
          have hprogress : (w.saveToken creation nodeId).inProgress = w.inProgress := by
            unfold EnrollmentWorld.saveToken; split <;> rfl
          simp only [continueEnrollment]
          split
          · refine ⟨hchange, hkept, fun hfree => absurd rfl hfree, ?_, ?_, ?_⟩
            · intro after hafter
              obtain rfl := Option.some.inj hafter
              exact ⟨hchange.stored hstored, hprogress ▸ hcount, hused⟩
            · intro after hafter token hheld
              obtain rfl := Option.some.inj hafter
              exact .inl hheld
            · intro token hmem
              by_cases hheld : creation.loaded.token = token
              · exact .inl ⟨_, rfl, hheld⟩
              · exact .inr ⟨hprogress ▸ hmem, hheld⟩
          · exact Advance.issueAgentToken rfl hchange hprogress hkept (hprogress ▸ hcount) hused
      | publishing creation nodeId =>
          obtain ⟨hstored, hcount, hused⟩ := hcall
          exact Advance.issueAgentToken rfl (ChangesOnly.refl _ w) rfl (h _) hcount hused

theorem mem_of_findInstall {rows : List NodeInstallEntity} {text : String}
    {row : NodeInstallEntity} (h : findNodeInstallByTokenOrThrow platform rows text = .ok row) :
    row ∈ rows := by
  unfold findNodeInstallByTokenOrThrow at h
  split at h
  · cases h
  · next found hfind =>
      split at h
      · cases h
      · cases h
        exact List.mem_of_find?_eq_some hfind

theorem mem_of_findEnrollment {rows : List EnrollmentEntity} {text : String}
    {row : EnrollmentEntity} (h : findByTokenOrThrow platform rows text = .ok row) :
    row ∈ rows := by
  unfold findByTokenOrThrow at h
  split at h
  · cases h
  · next found hfind =>
      split at h
      · cases h
      · cases h
        exact List.mem_of_find?_eq_some hfind

/-- A token that is not used expires when its row at the start says so. -/
theorem TokenKept.expired (h : TokenKept start w token) (hunused : ¬ w.Used token) {time : ℤ}
    (htime : time ∈ w.expiry token) (hpast : time ≤ w.clock) : Expired start w token := by
  by_contra hlive
  refine hlive ⟨time, ?_, hpast⟩
  rw [← (h.row hlive hunused).expiry_eq]
  exact htime

/-- An install that was loaded, and what its pending call relies on. -/
theorem loaded_install {row : NodeInstallEntity} (hostname : String)
    (additionalInfo : Option JsonObject) (h : ∀ token, TokenKept start w token)
    (hrow : row ∈ w.installs.rows) (hok : assertNotConsumed row = .ok ()) :
    w.Stored (LoadedToken.install row hostname additionalInfo).token ∧
      (isNodeInstallExpired row w.clock = true →
        CallKept start w (.savingExpired (.install row hostname additionalInfo))) := by
  have hget : w.installs.get row.id = some row := Table.get_of_mem hrow
  have hstored : w.Stored (LoadedToken.install row hostname additionalInfo).token :=
    Option.isSome_iff_exists.mpr ⟨row, hget⟩
  have hopen : w.Open (.install row.id) := ⟨row, hget, hok⟩
  have hexpiry : row.expiresAt ∈ w.expiry (.install row.id) := by
    simp only [EnrollmentWorld.expiry, hget, Option.map_some, Option.mem_def]
  have hunused : (LoadedToken.install row hostname additionalInfo).Unused := by
    simp [LoadedToken.Unused, hok, Except.isOk, Except.toBool]
  refine ⟨hstored, fun hexpired => ⟨hstored, hunused, (h _).expired hopen.not_used hexpiry ?_⟩⟩
  simp only [isNodeInstallExpired, Bool.and_eq_true, decide_eq_true_eq] at hexpired
  exact hexpired.2

/-- An enrollment that was loaded, and what its pending call relies on. -/
theorem loaded_enrollment {row : EnrollmentEntity} (nodeName : String)
    (description : Option String) (h : ∀ token, TokenKept start w token)
    (hrow : row ∈ w.enrollments.rows) (hok : assertEnrollmentPending row = .ok ()) :
    w.Stored (LoadedToken.enrollment row nodeName description).token ∧
      (isExpired row w.clock = true →
        CallKept start w (.savingExpired (.enrollment row nodeName description))) := by
  have hget : w.enrollments.get row.id = some row := Table.get_of_mem hrow
  have hstored : w.Stored (LoadedToken.enrollment row nodeName description).token :=
    Option.isSome_iff_exists.mpr ⟨row, hget⟩
  have hopen : w.Open (.enrollment row.id) := ⟨row, hget, hok⟩
  have hunused : row.status ≠ .approved := fun happroved => hopen.not_used ⟨row, hget, happroved⟩
  have hexpiry : row.expiresAt ∈ w.expiry (.enrollment row.id) := by
    simp only [EnrollmentWorld.expiry, hget, Option.map_some, Option.mem_def]
  exact ⟨hstored, fun hexpired => ⟨hstored, hunused,
    (h _).expired hopen.not_used hexpiry (of_decide_eq_true hexpired)⟩⟩

/-- The first step of a call only looks. -/
theorem invoke_looks (platform : EnrollmentPlatform) (request : EnrollmentRequest)
    (input : EnrollmentInput) (h : ∀ token, TokenKept start w token) :
    (invokeEnrollment platform request input w).1 = w ∧
      ∀ after, (invokeEnrollment platform request input w).2 = some after →
        CallKept start w after ∧ ∀ token, ¬ after.Holds token := by
  have hends : ∀ after, (none : Option PendingEnrollmentCall) = some after →
      CallKept start w after ∧ ∀ token, ¬ after.Holds token :=
    fun after hafter => absurd hafter (by simp)
  cases request with
  | consumeNodeInstall text hostname additionalInfo =>
      simp only [invokeEnrollment, startConsume]
      split
      · exact ⟨rfl, hends⟩
      · next row hfind =>
          split
          · exact ⟨rfl, hends⟩
          · next hok =>
              obtain ⟨hstored, hsaves⟩ := loaded_install
                (normalizeHostname platform.toLowerCase hostname) additionalInfo h
                (mem_of_findInstall hfind) hok
              split
              · next hexpired =>
                  refine ⟨rfl, fun after hafter => ?_⟩
                  obtain rfl := Option.some.inj hafter
                  exact ⟨hsaves hexpired, fun _ => id⟩
              · refine ⟨rfl, fun after hafter => ?_⟩
                obtain rfl := Option.some.inj hafter
                exact ⟨hstored, fun _ => id⟩
  | finalize text email nodeName description workspaceId =>
      simp only [invokeEnrollment, startFinalize]
      split
      · exact ⟨rfl, hends⟩
      · next row hfind =>
          split
          · exact ⟨rfl, hends⟩
          · split
            · exact ⟨rfl, hends⟩
            · next hok =>
                obtain ⟨hstored, hsaves⟩ := loaded_enrollment nodeName description h
                  (mem_of_findEnrollment hfind) hok
                split
                · next hexpired =>
                    refine ⟨rfl, fun after hafter => ?_⟩
                    obtain rfl := Option.some.inj hafter
                    exact ⟨hsaves hexpired, fun _ => id⟩
                · split
                  · refine ⟨rfl, fun after hafter => ?_⟩
                    obtain rfl := Option.some.inj hafter
                    exact ⟨hstored, fun _ => id⟩
                  · refine ⟨rfl, fun after hafter => ?_⟩
                    obtain rfl := Option.some.inj hafter
                    exact ⟨hstored, fun _ => id⟩

/-! ## Runs -/

theorem tokenKept_clock (h : TokenKept start w token) (ms : ℕ) :
    TokenKept start (enrollmentEnv ms w) token := by
  have hsame : SameRow w (enrollmentEnv ms w) token := sameRow_of_tables rfl rfl token
  refine ⟨h.created, h.once, fun hissued => hsame.used_iff.mpr (h.answered hissued), ?_, ?_⟩
  · exact fun hissued hcount hused => h.unmarked hissued hcount (hsame.used_iff.mp hused)
  · intro hlive hunused
    refine (h.row (fun hexpired => hlive ?_) fun hused => hunused (hsame.used_iff.mpr hused)).trans
      hsame
    obtain ⟨time, htime, hpast⟩ := hexpired
    exact ⟨time, htime, Int.le_trans hpast (Int.le_add_of_nonneg_right (Int.natCast_nonneg ms))⟩

/-- A step of a call keeps every token. -/
theorem Advance.all_kept {next : Option PendingEnrollmentCall}
    (hadvance : Advance start w call w' next) (h : ∀ token, TokenKept start w token)
    (token : TokenRef) : TokenKept start w' token := by
  by_cases htoken : token = call.token
  · exact htoken ▸ hadvance.kept
  · exact (h token).frame hadvance.changes htoken

theorem Advance.all_stored {next : Option PendingEnrollmentCall}
    (hadvance : Advance start w call w' next) (token : TokenRef) (h : w.Stored token) :
    w'.Stored token := by
  by_cases htoken : token = call.token
  · subst htoken
    exact hadvance.changes.stored h
  · exact (hadvance.changes.row token htoken).stored_iff.mpr h

/-- A step of a call leaves the others what they rely on. -/
theorem Advance.others {next : Option PendingEnrollmentCall} {other : PendingEnrollmentCall}
    (hadvance : Advance start w call w' next) (hother : CallKept start w other)
    (hapart : HoldApart call other) : CallKept start w' other := by
  refine hother.frame (Int.le_of_eq hadvance.changes.clock.symm) hadvance.all_stored
    fun token hheld hcount => ?_
  by_cases htoken : token = call.token
  · subst htoken
    exact hadvance.leaves (fun hcall => hapart _ hcall hheld) hcount
  · refine ⟨?_, (hadvance.changes.row token htoken).used_iff.mpr⟩
    rw [(hadvance.changes.counts token htoken).2.2]
    exact hcount

/-- A call that holds a token relies on its being in progress. -/
theorem CallKept.inProgress (h : CallKept start w call) (hheld : call.Holds token) :
    w.inProgress.count token = 1 := by
  cases call with
  | populatingTeam creation nodeId => exact hheld ▸ h.2
  | savingToken creation nodeId => exact hheld ▸ h.2
  | publishing creation nodeId => exact hheld ▸ h.2.1
  | _ => exact hheld.elim

/-- The calls under the condition. -/
theorem enrollment_outline (platform : EnrollmentPlatform) (start : EnrollmentWorld) :
    ExclusiveOutline (enrollmentCalls platform) enrollmentEnv (fun _ _ _ => True)
      CreatesFromUnused (fun _ _ => True) (fun w => ∀ token, TokenKept start w token)
      (CallKept start) HoldApart where
  symm h token hother hcall := h token hcall hother
  invoke := by
    intro w request input h _
    obtain ⟨hworld, hlooks⟩ := invoke_looks platform request input h
    show (∀ token, TokenKept start (invokeEnrollment platform request input w).1 token) ∧ _
    refine ⟨by rw [hworld]; exact h, fun call hcall => ?_⟩
    obtain ⟨hkept, hfree⟩ := hlooks call hcall
    refine ⟨?_, fun other _ token hheld => absurd hheld (hfree token)⟩
    show CallKept start (invokeEnrollment platform request input w).1 call
    rw [hworld]
    exact hkept
  resume := by
    intro w call input h hcall hguard
    have hadvance := advance platform h hcall hguard
    refine ⟨hadvance.all_kept h, fun after hafter => ⟨hadvance.relies after hafter, ?_⟩⟩
    intro other hother hapart token hheld
    rcases hadvance.holds after hafter token hheld with hbefore | hnone
    · exact hapart token hbefore
    · exact fun hboth => absurd (hnone.symm.trans (hother.inProgress hboth)) Nat.zero_ne_one
  environment h _ token := tokenKept_clock (h token) _
  invoke_stable := by
    intro w request input call h _ hcall
    show CallKept start (invokeEnrollment platform request input w).1 call
    rw [(invoke_looks platform request input h).1]
    exact hcall
  resume_stable h hcall hguard hother hapart :=
    (advance platform h hcall hguard).others hother hapart
  environment_stable := by
    intro w ms call _ _ hcall
    refine hcall.frame (Int.le_add_of_nonneg_right (Int.natCast_nonneg ms)) ?_ ?_
    · exact fun token hstored => (sameRow_of_tables rfl rfl token).stored_iff.mpr hstored
    · exact fun token _ hcount => ⟨hcount, (sameRow_of_tables rfl rfl token).used_iff.mpr⟩

/-- A start with no call under way and nothing recorded. -/
theorem tokenKept_start (hfacts : start.facts = []) (hprogress : start.inProgress = [])
    (token : TokenRef) : TokenKept start start token where
  created := by simp [EnrollmentWorld.created, EnrollmentWorld.issued, hfacts, hprogress]
  once := by simp [EnrollmentWorld.issued, hfacts, hprogress]
  answered := by simp [EnrollmentWorld.issued, hfacts]
  unmarked _ _ := id
  row _ _ := sameRow_of_tables rfl rfl token

/-- Every token in progress is held by a pending call. -/
def AllHeld (c : EnrollmentConfig) : Prop :=
  ∀ token ∈ c.world.inProgress, ∃ p call, c.pending p = some call ∧ call.Holds token

/-- The tokens and the calls of a run under the condition. -/
def RunKept (start : EnrollmentWorld) (c : EnrollmentConfig) : Prop :=
  (Good (fun w => ∀ token, TokenKept start w token) (CallKept start) c ∧
    Excluding HoldApart c) ∧ AllHeld c

/-- **One event** keeps a token in progress in the hands of a call. -/
theorem allHeld_step {c : EnrollmentConfig} {e : EnrollmentEvent}
    (hgood : Good (fun w => ∀ token, TokenKept start w token) (CallKept start) c)
    (hheld : AllHeld c) (hguard : ResumeGuard CreatesFromUnused c e) :
    AllHeld (enrollmentStep platform c e) := by
  cases e with
  | invoke p request input =>
      cases hp : c.pending p with
      | some call =>
          rw [enrollmentStep, step_invoke_busy hp]
          exact hheld
      | none =>
          rw [enrollmentStep, step_invoke hp]
          intro token hmem
          replace hmem : token ∈ (invokeEnrollment platform request input c.world).1.inProgress :=
            hmem
          rw [(invoke_looks platform request input hgood.1).1] at hmem
          obtain ⟨q, call, hq, hcall⟩ := hheld token hmem
          have hqp : q ≠ p := by
            rintro rfl
            rw [hp] at hq
            cases hq
          exact ⟨q, call, (Function.update_of_ne hqp _ _).trans hq, hcall⟩
  | resume p input =>
      cases hp : c.pending p with
      | none =>
          rw [enrollmentStep, step_resume_idle hp]
          exact hheld
      | some call =>
          have hadvance := advance platform hgood.1 (hgood.2 p call hp)
            (hguard call hp)
          rw [enrollmentStep, step_resume hp]
          intro token hmem
          rcases hadvance.held token hmem with ⟨after, hafter, hholds⟩ | ⟨hold, hfree⟩
          · exact ⟨p, after, (Function.update_self _ _ _).trans hafter, hholds⟩
          · obtain ⟨q, other, hq, hother⟩ := hheld token hold
            have hqp : q ≠ p := by
              rintro rfl
              rw [hp] at hq
              exact hfree (Option.some.inj hq ▸ hother)
            exact ⟨q, other, (Function.update_of_ne hqp _ _).trans hq, hother⟩
  | env ms =>
      rw [enrollmentStep, step_env]
      exact hheld

theorem runKept_run (platform : EnrollmentPlatform) (hfacts : start.facts = [])
    (hprogress : start.inProgress = []) {es : List EnrollmentEvent}
    (hes : Along (enrollmentStep platform) (ResumeGuard CreatesFromUnused) (Config.idle start) es) :
    RunKept start (run (enrollmentStep platform) (Config.idle start) es) := by
  refine inv_run (fun c e hc hguard => ?_) ?_ hes
  · exact ⟨(enrollment_outline platform start).step c e hc.1 hguard,
      allHeld_step hc.1.1 hc.2 hguard⟩
  · refine ⟨⟨good_idle (tokenKept_start hfacts hprogress), ?_⟩, ?_⟩
    · exact fun p _ call _ _ hp => absurd hp (by simp)
    · intro token hmem
      rw [Config.idle_world, hprogress] at hmem
      exact absurd hmem List.not_mem_nil

/-! ## What the check is worth -/

/-- What a call has loaded that has not created its node. -/
def PendingEnrollmentCall.before? : PendingEnrollmentCall → Option LoadedToken
  | .savingExpired loaded | .resolvingWorkspace loaded | .assertingWritable loaded _ => some loaded
  | .findingHostname creation | .assertingWritableAgain creation | .findingTeam creation
  | .insertingNode creation => some creation.loaded
  | .populatingTeam _ _ | .savingToken _ _ | .publishing _ _ => none

/-- The token has passed its check, and while no node was created from it since, no call is
between its node and its answer. -/
def CheckKept (w : EnrollmentWorld) (call : PendingEnrollmentCall × CreatedThen) : Prop :=
  ∀ loaded ∈ call.1.before?, loaded.Unused ∧ call.2 loaded.token ≤ w.created loaded.token ∧
    (w.created loaded.token = call.2 loaded.token → loaded.token ∉ w.inProgress)

/-- Nodes are only added, and a token comes into progress with a node. -/
def Grows (w w' : EnrollmentWorld) : Prop :=
  ∀ token, w.created token ≤ w'.created token ∧
    (w'.created token = w.created token → token ∈ w'.inProgress → token ∈ w.inProgress)

theorem Grows.of_progress (hfacts : w'.facts = w.facts)
    (hprogress : w'.inProgress.Sublist w.inProgress) : Grows w w' := by
  intro token
  rw [EnrollmentWorld.created, EnrollmentWorld.created, hfacts]
  exact ⟨le_refl _, fun _ hmem => hprogress.subset hmem⟩

theorem grows_insertNode (w : EnrollmentWorld) (creation : NodeCreation) (nodeId : Uuid) :
    Grows w (w.insertNode creation nodeId) := by
  intro token
  have hcreated := (counts_insertNode w creation nodeId token).1
  refine ⟨by omega, fun hsame hmem => ?_⟩
  rcases List.mem_append.mp hmem with hold | hnew
  · exact hold
  · rw [List.mem_singleton.mp hnew] at hsame hcreated
    rw [if_pos rfl] at hcreated
    omega

theorem grows_issueAgentToken (w : EnrollmentWorld) (creation : NodeCreation) (nodeId : Uuid) :
    Grows w (w.issueAgentToken creation nodeId) := by
  intro token
  refine ⟨(counts_issueAgentToken w creation nodeId token).1.ge, fun _ hmem => ?_⟩
  exact List.mem_of_mem_erase hmem

theorem grows_saveToken (w : EnrollmentWorld) (creation : NodeCreation) (nodeId : Uuid) :
    Grows w (w.saveToken creation nodeId) := by
  unfold EnrollmentWorld.saveToken
  split
  · exact .of_progress rfl (.refl _)
  · exact .of_progress rfl (.refl _)

theorem Grows.trans {w₁ w₂ w₃ : EnrollmentWorld} (h : Grows w₁ w₂) (h' : Grows w₂ w₃) :
    Grows w₁ w₃ := by
  intro token
  obtain ⟨hle, hprogress⟩ := h token
  obtain ⟨hle', hprogress'⟩ := h' token
  exact ⟨hle.trans hle', fun hsame hmem =>
    hprogress (by omega) (hprogress' (by omega) hmem)⟩

/-- Every step of a call grows. -/
theorem grows_resume (platform : EnrollmentPlatform) (call : PendingEnrollmentCall)
    (input : EnrollmentInput) (w : EnrollmentWorld) :
    Grows w (resumeEnrollment platform call input w).1 := by
  have hstays : Grows w w := .of_progress rfl (.refl _)
  unfold resumeEnrollment
  split
  · cases call with
    | populatingTeam | savingToken | publishing => exact .of_progress rfl List.erase_sublist
    | _ => exact hstays
  · cases call with
    | savingExpired loaded => cases loaded <;> exact .of_progress rfl (.refl _)
    | resolvingWorkspace | assertingWritable | findingTeam | populatingTeam => exact hstays
    | findingHostname creation =>
        simp only [continueEnrollment]
        split
        · exact hstays
        · exact hstays
    | assertingWritableAgain creation =>
        simp only [continueEnrollment]
        split
        · exact hstays
        · exact hstays
    | insertingNode creation =>
        simp only [continueEnrollment]
        split
        · exact hstays
        · split
          · exact grows_insertNode w creation input.nodeId
          · exact grows_insertNode w creation input.nodeId
    | savingToken creation nodeId =>
        simp only [continueEnrollment]
        split
        · exact grows_saveToken w creation nodeId
        · exact (grows_saveToken w creation nodeId).trans (grows_issueAgentToken _ creation nodeId)
    | publishing creation nodeId => exact grows_issueAgentToken w creation nodeId

theorem CheckKept.mono {call : PendingEnrollmentCall × CreatedThen} (h : CheckKept w call)
    (hgrows : Grows w w') : CheckKept w' call := by
  intro loaded hloaded
  obtain ⟨hunused, hle, hfree⟩ := h loaded hloaded
  obtain ⟨hle', hprogress⟩ := hgrows loaded.token
  exact ⟨hunused, hle.trans hle', fun hsame hmem =>
    hfree (by omega) (hprogress (by omega) hmem)⟩

/-- A later step goes on with what its call has loaded. -/
theorem before_resume {input : EnrollmentInput} {after : PendingEnrollmentCall}
    (hafter : (resumeEnrollment platform call input w).2 = some after) {loaded : LoadedToken}
    (hloaded : loaded ∈ after.before?) : loaded ∈ call.before? := by
  unfold resumeEnrollment at hafter
  split at hafter
  · cases hafter
  · cases call with
    | savingExpired | publishing => cases hafter
    | resolvingWorkspace | assertingWritable | findingTeam =>
        obtain rfl := Option.some.inj hafter
        exact hloaded
    | findingHostname creation =>
        simp only [continueEnrollment] at hafter
        split at hafter
        · cases hafter
        · obtain rfl := Option.some.inj hafter
          exact hloaded
    | assertingWritableAgain creation =>
        simp only [continueEnrollment] at hafter
        split at hafter
        · obtain rfl := Option.some.inj hafter
          exact hloaded
        · obtain rfl := Option.some.inj hafter
          exact hloaded
    | insertingNode creation =>
        simp only [continueEnrollment] at hafter
        split at hafter
        · cases hafter
        · split at hafter
          · obtain rfl := Option.some.inj hafter
            cases hloaded
          · obtain rfl := Option.some.inj hafter
            cases hloaded
    | populatingTeam creation nodeId =>
        obtain rfl := Option.some.inj hafter
        cases hloaded
    | savingToken creation nodeId =>
        simp only [continueEnrollment] at hafter
        split at hafter
        · obtain rfl := Option.some.inj hafter
          cases hloaded
        · cases hafter

/-- **What a first step has found and checked.** -/
theorem before_invoke {request : EnrollmentRequest} (input : EnrollmentInput)
    (hcall : (invokeEnrollment platform request input w).2 = some call) {loaded : LoadedToken}
    (hloaded : loaded ∈ call.before?) :
    request.finds platform w = some loaded.token ∧ loaded.Unused := by
  cases request with
  | consumeNodeInstall text hostname additionalInfo =>
      simp only [invokeEnrollment, startConsume] at hcall
      split at hcall
      · cases hcall
      · next row hfind =>
          split at hcall
          · cases hcall
          · next hok =>
              have hunused : (assertNotConsumed row).isOk = true := by rw [hok]; rfl
              have hfinds : (EnrollmentRequest.consumeNodeInstall text hostname
                  additionalInfo).finds platform w = some (.install row.id) := by
                simp only [EnrollmentRequest.finds, hfind]
              split at hcall
              · obtain rfl := Option.some.inj hcall
                obtain rfl := Option.some.inj hloaded
                exact ⟨hfinds, hunused⟩
              · obtain rfl := Option.some.inj hcall
                obtain rfl := Option.some.inj hloaded
                exact ⟨hfinds, hunused⟩
  | finalize text email nodeName description workspaceId =>
      simp only [invokeEnrollment, startFinalize] at hcall
      split at hcall
      · cases hcall
      · next row hfind =>
          split at hcall
          · cases hcall
          · split at hcall
            · cases hcall
            · next hok =>
                have hunused : row.status ≠ .approved := by
                  intro happroved
                  rw [assertEnrollmentPending, happroved] at hok
                  cases hok
                have hfinds : (EnrollmentRequest.finalize text email nodeName description
                    workspaceId).finds platform w = some (.enrollment row.id) := by
                  simp only [EnrollmentRequest.finds, hfind]
                split at hcall
                · obtain rfl := Option.some.inj hcall
                  obtain rfl := Option.some.inj hloaded
                  exact ⟨hfinds, hunused⟩
                · split at hcall
                  · obtain rfl := Option.some.inj hcall
                    obtain rfl := Option.some.inj hloaded
                    exact ⟨hfinds, hunused⟩
                  · obtain rfl := Option.some.inj hcall
                    obtain rfl := Option.some.inj hloaded
                    exact ⟨hfinds, hunused⟩

theorem invoke_world (platform : EnrollmentPlatform) (request : EnrollmentRequest)
    (input : EnrollmentInput) (w : EnrollmentWorld) :
    (invokeEnrollment platform request input w).1 = w := by
  cases request with
  | consumeNodeInstall text hostname additionalInfo =>
      simp only [invokeEnrollment, startConsume]
      split
      · rfl
      · split
        · rfl
        · split
          · rfl
          · rfl
  | finalize text email nodeName description workspaceId =>
      simp only [invokeEnrollment, startFinalize]
      split
      · rfl
      · split
        · rfl
        · split
          · rfl
          · split
            · rfl
            · split
              · rfl
              · rfl

theorem checking_outline (platform : EnrollmentPlatform) :
    Outline (checkingCalls platform) enrollmentEnv (FindsNoneInProgress platform) WritesAsChecked
      (fun _ _ => True) (fun _ => True) CheckKept := by
  refine outline_remembering ?_ ?_ (fun _ _ => trivial) ?_ ?_ ?_
  · intro w request input _ hfinds
    refine ⟨trivial, fun call hcall loaded hloaded => ?_⟩
    obtain ⟨htoken, hunused⟩ := before_invoke input hcall hloaded
    show _ ∧ _ ≤ (invokeEnrollment platform request input w).1.created loaded.token ∧ _
    simp only [enrollmentCalls, invoke_world]
    exact ⟨hunused, le_refl _, fun _ => hfinds _ htoken⟩
  · intro w call created input _ hcall _
    refine ⟨trivial, fun after hafter loaded hloaded => ?_⟩
    exact hcall.mono (grows_resume platform call input w) loaded (before_resume hafter hloaded)
  · intro w request input call _ _ hcall
    show CheckKept (invokeEnrollment platform request input w).1 call
    rw [invoke_world]
    exact hcall
  · intro w call created input other _ _ _ hother
    exact hother.mono (grows_resume platform call input w)
  · intro w ms call _ _ hcall
    exact hcall.mono (.of_progress rfl (.refl _))

/-- A row with the columns that passed the check is not used. -/
theorem EnrollmentWorld.AsChecked.not_used (h : w.AsChecked loaded) (hunused : loaded.Unused) :
    ¬ w.Used loaded.token := by
  cases loaded with
  | install row hostname additionalInfo =>
      obtain ⟨stored, hstored, hconsumed, hnode⟩ := h
      rintro ⟨row', hrow', hused⟩
      obtain rfl := Option.some.inj (hstored.symm.trans hrow')
      rw [assertNotConsumed, hconsumed, hnode, ← assertNotConsumed] at hused
      exact absurd (hused.symm.trans hunused) Bool.false_ne_true
  | enrollment row nodeName description =>
      obtain ⟨stored, hstored, hstatus⟩ := h
      rintro ⟨row', hrow', hused⟩
      obtain rfl := Option.some.inj (hstored.symm.trans hrow')
      exact hunused (hstatus.symm.trans hused)

/-- **The check is what the steps rely on.** -/
theorem along_createsFromUnused {es : List EnrollmentEvent}
    (hes : Along (step (checkingCalls platform) enrollmentEnv)
      (Guard (FindsNoneInProgress platform) WritesAsChecked fun _ _ => True)
      (Config.idle start) es) :
    Along (enrollmentStep platform) (ResumeGuard CreatesFromUnused) (Config.idle start) es := by
  refine (checking_outline platform).along_remembering (fun _ _ => trivial) ?_
    (fun _ _ => trivial) (good_idle trivial) hes
  intro w call created input _ hcall hwrites
  cases call with
  | savingExpired loaded =>
      exact hwrites.imp_right fun hsame => hsame.not_used (hcall loaded rfl).1
  | insertingNode creation =>
      obtain ⟨hunused, -, hfree⟩ := hcall creation.loaded rfl
      exact hwrites.imp_right fun hsame => ⟨hsame.1.not_used hunused, hfree hsame.2⟩
  | populatingTeam | savingToken | publishing => exact hwrites
  | _ => exact trivial

/-! ## A call that nothing interrupts -/

section Alone

variable {input : EnrollmentInput} (hrejects : input.rejects = false)
include hrejects

theorem resume_of_not_rejects (call : PendingEnrollmentCall) (w : EnrollmentWorld) :
    (enrollmentCalls platform).resume call input w = continueEnrollment platform call input w := by
  show resumeEnrollment platform call input w = _
  rw [resumeEnrollment, hrejects, if_neg Bool.false_ne_true]

/-- A call that has created its node is answered. -/
theorem issued_savingToken (n : ℕ) :
    .agentTokenIssued creation.loaded.token nodeId ∈ ((enrollmentCalls platform).resumes input
      (n + 2) (w, some (.savingToken creation nodeId))).1.facts := by
  rw [Calls.resumes, resume_of_not_rejects hrejects, continueEnrollment]
  split
  · rw [Calls.resumes, resume_of_not_rejects hrejects, continueEnrollment, Calls.resumes_none]
    exact List.mem_append_right _ (List.mem_singleton_self _)
  · rw [Calls.resumes_none]
    exact List.mem_append_right _ (List.mem_singleton_self _)

/-- A call whose node can be stored is answered. -/
theorem issued_insertingNode (hnew : w.nodes.get input.nodeId = none)
    (hfree : ∀ node ∈ w.nodes.rows, node.hostname ≠ creation.node.hostname) (n : ℕ) :
    .agentTokenIssued creation.loaded.token input.nodeId ∈ ((enrollmentCalls platform).resumes
      input (n + 4) (w, some (.insertingNode creation))).1.facts := by
  have htaken : ¬ (w.nodes.rows.any fun node =>
      node.id = input.nodeId || node.hostname = creation.node.hostname) = true := by
    rw [List.any_eq_true]
    rintro ⟨node, hnode, hsame⟩
    rcases Bool.or_eq_true_iff.mp hsame with hid | hhostname
    · have hget := Table.get_of_mem hnode
      rw [show node.key = input.nodeId from of_decide_eq_true hid, hnew] at hget
      cases hget
    · exact hfree node hnode (of_decide_eq_true hhostname)
  rw [Calls.resumes, resume_of_not_rejects hrejects, continueEnrollment, if_neg htaken]
  split
  · rw [Calls.resumes, resume_of_not_rejects hrejects, continueEnrollment]
    exact issued_savingToken hrejects n
  · exact issued_savingToken hrejects (n + 1)

/-- A call that has loaded its token is answered. -/
theorem issued_assertingWritable {workspaceId : Uuid} (hnew : w.nodes.get input.nodeId = none)
    (hfree : ∀ node ∈ w.nodes.rows,
      node.hostname ≠ (loaded.nodeInput platform workspaceId input.agentToken).hostname) (n : ℕ) :
    .agentTokenIssued loaded.token input.nodeId ∈ ((enrollmentCalls platform).resumes input
      (n + 8) (w, some (.assertingWritable loaded workspaceId))).1.facts := by
  have htaken : ¬ (w.nodes.rows.any fun node => node.hostname =
      (loaded.nodeInput platform workspaceId input.agentToken).hostname) = true := by
    rw [List.any_eq_true]
    rintro ⟨node, hnode, hsame⟩
    exact hfree node hnode (of_decide_eq_true hsame)
  rw [Calls.resumes, resume_of_not_rejects hrejects, continueEnrollment, Calls.resumes,
    resume_of_not_rejects hrejects, continueEnrollment, if_neg htaken, Calls.resumes,
    resume_of_not_rejects hrejects, continueEnrollment]
  split
  · rw [Calls.resumes, resume_of_not_rejects hrejects, continueEnrollment]
    exact issued_insertingNode hrejects hnew hfree n
  · exact issued_insertingNode hrejects hnew hfree (n + 1)

end Alone

/-- A token whose row passes the check and has not expired can be used. -/
theorem usable_of_open {c : EnrollmentConfig} (hopen : c.world.Open token)
    (hlive : ∃ time ∈ c.world.expiry token, c.world.clock < time) : Usable platform c token := by
  intro p request input hp hpresents hrejects hnew
  obtain ⟨time, htime, hlt⟩ := hlive
  rw [enrollmentStep, run_call hp]
  cases request with
  | consumeNodeInstall text hostname additionalInfo =>
      obtain ⟨row, hfind, rfl, hfree⟩ := hpresents
      have hget : c.world.installs.get row.id = some row :=
        Table.get_of_mem (mem_of_findInstall hfind)
      obtain ⟨row', hrow', hcheck⟩ := hopen
      obtain rfl := Option.some.inj (hget.symm.trans hrow')
      rw [EnrollmentWorld.expiry, hget, Option.map_some, Option.mem_some_iff] at htime
      have hexpired : isNodeInstallExpired row c.world.clock = false := by
        simp only [isNodeInstallExpired, htime, Bool.and_eq_false_imp, decide_eq_false_iff_not]
        exact fun _ => Int.not_le.mpr hlt
      show _ ∈ ((enrollmentCalls platform).resumes input 9
        (startConsume platform c.world text hostname additionalInfo)).1.facts
      rw [startConsume, hfind]
      simp only [hcheck, hexpired, Bool.false_eq_true, if_false]
      refine issued_assertingWritable hrejects hnew ?_ 1
      exact hfree
  | finalize text email nodeName description workspaceId =>
      obtain ⟨row, hfind, rfl, hemail, hfree⟩ := hpresents
      have hget : c.world.enrollments.get row.id = some row :=
        Table.get_of_mem (mem_of_findEnrollment hfind)
      obtain ⟨row', hrow', hcheck⟩ := hopen
      obtain rfl := Option.some.inj (hget.symm.trans hrow')
      rw [EnrollmentWorld.expiry, hget, Option.map_some, Option.mem_some_iff] at htime
      have hexpired : isExpired row c.world.clock = false := by
        rw [isExpired, htime]
        exact decide_eq_false (Int.not_le.mpr hlt)
      show _ ∈ ((enrollmentCalls platform).resumes input 9
        (startFinalize platform c.world text email nodeName description workspaceId)).1.facts
      rw [startFinalize, hfind]
      simp only [hemail, hcheck, hexpired, ne_eq, not_true_eq_false, Bool.false_eq_true, if_false]
      cases workspaceId with
      | none =>
          rw [Calls.resumes, resume_of_not_rejects hrejects, continueEnrollment]
          refine issued_assertingWritable hrejects hnew ?_ 0
          exact hfree
      | some workspaceId =>
          refine issued_assertingWritable hrejects hnew ?_ 1
          exact hfree

/-! ## The theorem -/

/-- **Install and enrollment tokens are single-use** in every run, from any tables, in which each
node is created, and each expired row saved, with the row and the number of nodes as the call
checked them, no call finds a token for which another has created a node and not answered, and no
call fails once it has created its node. -/
theorem enrollmentTokens_singleUse (platform : EnrollmentPlatform) (start : EnrollmentWorld)
    (hfacts : start.facts = []) (hprogress : start.inProgress = []) (es : List EnrollmentEvent)
    (hes : Along (step (checkingCalls platform) enrollmentEnv)
      (Guard (FindsNoneInProgress platform) WritesAsChecked fun _ _ => True)
      (Config.idle start) es)
    (token : TokenRef) :
    SingleUse platform start (run (enrollmentStep platform) (Config.idle start) es) token := by
  obtain ⟨⟨⟨htokens, -⟩, -⟩, hheld⟩ :=
    runKept_run platform hfacts hprogress (along_createsFromUnused hes)
  have hkept := htokens token
  have hcreated := hkept.created
  have honce := hkept.once
  refine ⟨by omega, by omega, fun hfree hopen hlive hissued => ?_⟩
  have hcount : (run (enrollmentStep platform) (Config.idle start) es).world.inProgress.count token
      = 0 := by
    rw [List.count_eq_zero]
    intro hmem
    obtain ⟨p, call, hp, hcall⟩ := hheld token hmem
    exact hfree p call hp hcall
  refine ⟨by omega, ?_⟩
  obtain ⟨time, htime, hlt⟩ := hlive
  have hunused := fun hused => hopen.not_used (hkept.unmarked hissued hcount hused)
  have hsame := hkept.row (fun ⟨time', htime', hpast⟩ => by
    obtain rfl := Option.some.inj (htime.symm.trans htime')
    omega) hunused
  exact usable_of_open (hsame.open_iff.mpr hopen) ⟨time, hsame.expiry_eq.symm ▸ htime, hlt⟩

/-- A bootstrap token, as `issueEnrollmentToken` draws one. -/
def bootstrapToken : String := "AAECAwQFBgcICQoLDA0ODxAREhMUFRYXGBkaGxwdHh8"

/-- bcrypt of it. -/
def bootstrapTokenHash : String := "$2b$12$abcdefghijklmnopqrstuu.drVYl9exJxYfjcR6Km31ctQWs4tA5K"

/-- Its HMAC under the JWT secret of `.env.example`. -/
def bootstrapLookupHash : String :=
  "ef598713590052cdec2247f6be728716d368fe10146c9cc3ac5b0ea634fa9241"

/-- The agent tokens of the sample runs. -/
def agentTokens : List String :=
  ["202122232425262728292a2b2c2d2e2f303132333435363738393a3b3c3d3e3f",
    "404142434445464748494a4b4c4d4e4f505152535455565758595a5b5c5d5e5f"]

/-- HMAC, bcrypt and SHA-256 on the tokens of the sample runs, and hostnames in lower case. -/
def sampleEnrollmentPlatform : EnrollmentPlatform where
  createLookupHash text := if text = bootstrapToken then bootstrapLookupHash else ""
  compare text hash := text = bootstrapToken && hash = bootstrapTokenHash
  hashAgentToken text :=
    if some text = agentTokens[0]? then
      "31c0e4a8de3d32a8964f4dd6c3faae248a3994f3c4e226fdd8ee56904c96c6f7"
    else "cca0e26b70b7ed5a3dec02c102ca2bf8c8b8477e00cfbc56d726f9c4592cbd15"
  toLowerCase text := text

/-- One node install, and no node. -/
def installStart : EnrollmentWorld where
  installs := {
    rows := [{
      id := "i1"
      workspaceId := "w1"
      nodeName := "web"
      tokenHash := bootstrapTokenHash
      tokenLookupHash := bootstrapLookupHash
      expiresAt := nodeInstallTokenTtlMinutes * 60000 }]
    distinct := List.nodup_singleton _ }
  enrollments := Table.empty
  nodes := Table.empty

/-- The later steps of a call that consumes the token. -/
def consumptionSteps (p : ℕ) (nodeId agentToken : String) : List EnrollmentEvent :=
  List.replicate 6 (.resume p { nodeId := nodeId, agentToken := agentToken })

/-- The token is consumed. -/
def consumptionRun : List EnrollmentEvent :=
  .invoke 0 (.consumeNodeInstall bootstrapToken "web-1" none) {} ::
    consumptionSteps 0 "n1" (agentTokens.headD "")

theorem enrollmentTokens_singleUse_consumption :
    (run (enrollmentStep sampleEnrollmentPlatform) (Config.idle installStart)
        consumptionRun).world.issued (.install "i1") = 1 ∧
      SingleUse sampleEnrollmentPlatform installStart
        (run (enrollmentStep sampleEnrollmentPlatform) (Config.idle installStart) consumptionRun)
        (.install "i1") :=
  ⟨by decide +kernel, enrollmentTokens_singleUse sampleEnrollmentPlatform installStart rfl rfl
    consumptionRun (by decide +kernel) (.install "i1")⟩

/-- Two calls with the same token and different hostnames, both past the check before either
creates its node. -/
def doubleConsumptionRun : List EnrollmentEvent :=
  [.invoke 0 (.consumeNodeInstall bootstrapToken "web-1" none) {},
    .invoke 1 (.consumeNodeInstall bootstrapToken "web-2" none) {}] ++
  consumptionSteps 0 "n1" (agentTokens.headD "") ++
  consumptionSteps 1 "n2" (agentTokens.getLastD "")

/-- A call that fails when it publishes what it has saved. -/
def failedConsumptionRun : List EnrollmentEvent :=
  [.invoke 0 (.consumeNodeInstall bootstrapToken "web-1" none) {}] ++
  (consumptionSteps 0 "n1" (agentTokens.headD "")).dropLast ++
  [.resume 0 { rejects := true }]

/-- Two nodes and two agent tokens come from one install token, and a call that fails after the
save leaves the token used with no agent token handed out. -/
theorem doubleConsumption_createsTwo :
    (¬ ∀ (platform : EnrollmentPlatform) (start : EnrollmentWorld) (es : List EnrollmentEvent)
      (token : TokenRef), start.facts = [] → start.inProgress = [] →
      SingleUse platform start (run (enrollmentStep platform) (Config.idle start) es) token) ∧
    (run (enrollmentStep sampleEnrollmentPlatform) (Config.idle installStart)
        doubleConsumptionRun).world.issued (.install "i1") = 2 ∧
    (run (enrollmentStep sampleEnrollmentPlatform) (Config.idle installStart)
        failedConsumptionRun).world.Used (.install "i1") ∧
    (run (enrollmentStep sampleEnrollmentPlatform) (Config.idle installStart)
        failedConsumptionRun).world.issued (.install "i1") = 0 := by
  refine ⟨fun hall => ?_, by decide +kernel, by decide +kernel, by decide +kernel⟩
  have honce := (hall sampleEnrollmentPlatform installStart doubleConsumptionRun (.install "i1")
    rfl rfl).created
  exact absurd honce (by decide +kernel)

end EnrollmentsService
