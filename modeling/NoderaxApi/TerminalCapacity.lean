/-
# The capacity of a transcript

`handleAgentOutput` compares the size of a payload with what the counter of the session leaves.
Controller input is stored without a comparison, and a session that is full stays alive until
it is stopped, so the notice is stored with every payload that does not fit.

For calls that run one after the other the bound holds if every request finds the session as the
comparison of `handleAgentOutput` would want it.
-/
import NoderaxApi.TerminalHandlers
import NoderaxApi.TerminalTranscript
import Mathlib.Algebra.Order.BigOperators.Group.List
import Mathlib.Algebra.Order.Ring.Nat

open Runs Interleaving AsyncPrograms

namespace TerminalSessionsService

/-! ## What is claimed -/

/-- A chunk that is agent output or controller input. -/
def ChunkOrigin.isContent : ChunkOrigin → Bool
  | .agentOutput | .controllerInput => true
  | .capacityNotice | .other => false

/-- The decoded size of the agent output and controller input in the transcript. -/
def contentBytes (id : Uuid) (d : TerminalData) : ℕ :=
  storedBytes (((d.stored id).filter (·.1.isContent)).map (·.2))

/-- How often the notice that the capacity is exceeded was stored. -/
def capacityNotices (id : Uuid) (d : TerminalData) : ℕ :=
  (d.stored id).countP (·.1 = .capacityNotice)

/-- **The capacity is kept.** -/
structure CapacityKept (id : Uuid) (d : TerminalData) : Prop where
  bytes : contentBytes id d ≤ maxTranscriptBytes
  notices : capacityNotices id d ≤ 1

/-! ## Calls one after the other -/

/-- The store and the call that runs. -/
abbrev SoloConfig := Config Unit TerminalStore TerminalCall

/-- A request, a step of the call that runs, or a step of the environment. -/
abbrev SoloEvent := Event Unit TerminalRequest TerminalInput TerminalEnv

/-- One event. -/
abbrev soloStep : SoloConfig → SoloEvent → SoloConfig := step terminalCalls terminalEnv

/-- A session was inserted. -/
def newSession (s : TerminalStore) (session : TerminalSessionEntity) : TerminalStore where
  data := { s.data with
    sessions := Function.update s.data.sessions session.id (some
      { session := { session with transcriptBytes := 0, chunkCount := 0, lastChunkSeq := 0 } })
    stored := Function.update s.data.stored session.id [] }
  memory := s.memory

/-- The session is TERMINATING or has ended. -/
def isStopped (status : TerminalSessionStatus) : Bool := status = .terminating || isTerminal status

/-- **What a request finds of the session.**  An input that the session takes fits into what its
counter leaves.  Agent output that reaches the session while it is TERMINATING fits as well, and
the message `opened` does not reach it then. -/
def FindsRoom (id : Uuid) : TerminalRequest → TerminalData → Prop
  | .input id' payload user, d => id' = id → ∀ rows ∈ d.sessions id,
      canControlSession user rows.session = true → rows.session.status = .opened →
        rows.session.transcriptBytes + payload.length ≤ maxTranscriptBytes
  | .agentOutput id' input, d => id' = id → ∀ rows ∈ d.sessions id,
      rows.session.nodeId = input.nodeId → rows.session.status = .terminating →
        rows.session.transcriptBytes + (sanitizeTerminalOutputPayload input.payload).length
          ≤ maxTranscriptBytes
  | .agentOpened id' input, d => id' = id → ∀ rows ∈ d.sessions id,
      rows.session.nodeId = input.nodeId → rows.session.status ≠ .terminating
  | _, _ => True

/-- **Every request finds room where it arrives.** -/
abbrev ArrivesInRoom (id : Uuid) : SoloConfig → SoloEvent → Prop := ArrivalGuard (FindsRoom id)

/-! ## The transcript between two steps -/

variable {id : Uuid} {d d' : TerminalData}

/-- The session exists, its chunks are numbered and counted, and `stored` lists them. -/
def TranscriptExact (id : Uuid) (d : TerminalData) : Prop :=
  ∃ rows, d.sessions id = some rows ∧ Numbered rows.chunks ∧ CountersExact rows ∧
    (d.stored id).map (·.2) = rows.chunks

/-- The environment of a session: its rows are left alone. -/
def RowsKept (id : Uuid) (d d' : TerminalData) : Prop :=
  d'.sessions id = d.sessions id ∧ d'.stored id = d.stored id

theorem RowsKept.refl (id : Uuid) (d : TerminalData) : RowsKept id d d := ⟨rfl, rfl⟩

theorem RowsKept.trans {d'' : TerminalData} (h : RowsKept id d d') (h' : RowsKept id d' d'') :
    RowsKept id d d'' := ⟨h'.1.trans h.1, h'.2.trans h.2⟩

theorem TranscriptExact.rowsKept (h : TranscriptExact id d) (hkept : RowsKept id d d') :
    TranscriptExact id d' := by
  unfold TranscriptExact
  rw [hkept.1, hkept.2]
  exact h

theorem contentBytes_rowsKept (hkept : RowsKept id d d') :
    contentBytes id d' = contentBytes id d := by rw [contentBytes, contentBytes, hkept.2]

theorem CapacityKept.rowsKept (h : CapacityKept id d) (hkept : RowsKept id d d') :
    CapacityKept id d' := by
  constructor
  · rw [contentBytes_rowsKept hkept]
    exact h.bytes
  · rw [capacityNotices, hkept.2]
    exact h.notices

/-- The content is a part of the transcript. -/
theorem TranscriptExact.contentBytes_le {rows : TerminalRows} (h : TranscriptExact id d)
    (hrows : d.sessions id = some rows) : contentBytes id d ≤ rows.session.transcriptBytes := by
  obtain ⟨rows', hrows', -, hexact, hstored⟩ := h
  rw [hrows] at hrows'
  obtain rfl := Option.some.inj hrows'
  rw [hexact.transcriptBytes, ← hstored, contentBytes, storedBytes, storedBytes]
  refine List.Sublist.sum_le_sum ?_ fun _ _ => Nat.zero_le _
  exact (List.filter_sublist.map _).map _

/-- Between two operations: the transcript is exact, the capacity is kept, and a session with the
notice has a status that stays. -/
structure Bounded (id : Uuid) (stays : TerminalSessionStatus → Prop) (d : TerminalData) : Prop where
  exact : TranscriptExact id d
  kept : CapacityKept id d
  noticed : ∀ rows ∈ d.sessions id, capacityNotices id d ≠ 0 → stays rows.session.status

theorem Bounded.rowsKept {stays : TerminalSessionStatus → Prop} (h : Bounded id stays d)
    (hkept : RowsKept id d d') : Bounded id stays d' := by
  refine ⟨h.exact.rowsKept hkept, h.kept.rowsKept hkept, ?_⟩
  rw [capacityNotices, hkept.1, hkept.2]
  exact h.noticed

/-- Without the notice any status will do. -/
theorem Bounded.of_noNotice {stays stays' : TerminalSessionStatus → Prop} (h : Bounded id stays d)
    (hnone : capacityNotices id d = 0) : Bounded id stays' d :=
  ⟨h.exact, h.kept, fun _ _ hsome => absurd hnone hsome⟩

/-- A session that no status would stay in has no notice. -/
theorem Bounded.noNotice (h : Bounded id (fun _ => False) d) : capacityNotices id d = 0 := by
  obtain ⟨rows, hrows, -⟩ := h.exact
  by_contra hsome
  exact h.noticed rows hrows hsome

/-! ## What the operations do to it -/

/-- A chunk was added to the record. -/
theorem contentBytes_concat {origin : ChunkOrigin} {chunk : TerminalSessionChunkEntity}
    (h : d'.stored id = d.stored id ++ [(origin, chunk)]) :
    contentBytes id d' =
      contentBytes id d + if origin.isContent then chunk.payload.length else 0 := by
  rw [contentBytes, h, List.filter_append, List.map_append]
  cases hcontent : origin.isContent with
  | true => simp [hcontent, storedBytes, contentBytes]
  | false => simp [hcontent, contentBytes]

theorem capacityNotices_concat {origin : ChunkOrigin} {chunk : TerminalSessionChunkEntity}
    (h : d'.stored id = d.stored id ++ [(origin, chunk)]) :
    capacityNotices id d' =
      capacityNotices id d + if origin = .capacityNotice then 1 else 0 := by
  rw [capacityNotices, h, List.countP_append, List.countP_singleton]
  simp [capacityNotices]

/-- A chunk was stored in an exact transcript. -/
structure Appended (id : Uuid) (origin : ChunkOrigin) (payload : List UInt8)
    (d d' : TerminalData) : Prop where
  exact : TranscriptExact id d'
  bytes : contentBytes id d' =
    contentBytes id d + if origin.isContent then payload.length else 0
  notices : capacityNotices id d' =
    capacityNotices id d + if origin = .capacityNotice then 1 else 0
  session : ∀ rows' ∈ d'.sessions id, ∃ rows ∈ d.sessions id,
    rows.session.status = rows'.session.status ∧
      rows.session.createdByUserId = rows'.session.createdByUserId

/-- **An append to an exact transcript succeeds**, and leaves it exact. -/
theorem execTerminal_append (h : TranscriptExact id d) (origin : ChunkOrigin)
    (input : ChunkInput) {inp : TerminalInput} (hinp : inp.rejects = false) :
    ∃ chunk, (execTerminal (.appendChunkOnce id origin input) inp d).2 = some (some chunk) ∧
      Appended id origin input.payload d
        (execTerminal (.appendChunkOnce id origin input) inp d).1 := by
  obtain ⟨rows, hrows, hnumbered, hexact, hstored⟩ := h
  cases happend : appendChunkOnce input rows with
  | none =>
      -- the next number is free
      unfold appendChunkOnce at happend
      simp only at happend
      split at happend
      next htaken =>
          rw [hnumbered.mem_seq, hexact.lastChunkSeq] at htaken
          omega
      next => exact absurd happend (by simp)
  | some result =>
      obtain ⟨chunk, rows'⟩ := result
      have hrowsInv : RowsInv rows := ⟨⟨hnumbered, hexact.lastChunkSeq.le⟩, fun _ => hexact⟩
      obtain ⟨hinv', hexact', hchunks⟩ := hrowsInv.append happend
      obtain ⟨hchunk, -, -, hsession⟩ := appendChunkOnce_some happend
      have hexec : execTerminal (.appendChunkOnce id origin input) inp d =
          ((d.updateRows id fun _ => rows').recordChunk id origin chunk, some (some chunk)) := by
        simp only [execTerminal, hinp, hrows, happend]
        rfl
      rw [hexec]
      have hrecorded : ((d.updateRows id fun _ => rows').recordChunk id origin chunk).stored id =
          d.stored id ++ [(origin, chunk)] := Function.update_self id _ _
      have hsessions : ((d.updateRows id fun _ => rows').recordChunk id origin chunk).sessions id =
          some rows' := by
        rw [TerminalData.recordChunk_sessions, TerminalData.updateRows_self, hrows]
        rfl
      have hpayload : chunk.payload = input.payload := by rw [hchunk]; rfl
      refine ⟨chunk, rfl, ⟨rows', hsessions, hinv'.numbered, hexact', ?_⟩, ?_, ?_, ?_⟩
      · rw [hrecorded, List.map_append, hstored, hchunks]
        rfl
      · rw [contentBytes_concat hrecorded, hpayload]
      · rw [capacityNotices_concat hrecorded]
      · intro found hfound
        rw [hsessions] at hfound
        obtain rfl := Option.some.inj hfound
        exact ⟨rows, hrows, by rw [hsession], by rw [hsession]⟩

theorem addToCount_rowsKept (inp : TerminalInput) (id' : Uuid) (n : ℤ) :
    RowsKept id d (d.addToCount inp id' n).1 := by
  unfold TerminalData.addToCount
  split
  · exact RowsKept.refl id d
  · split <;> exact RowsKept.refl id d

/-- An append that rejects, or one to another session, leaves the session alone; so does every
other operation but an update. -/
theorem execTerminal_rowsKept (op : TerminalOp) (inp : TerminalInput) (d : TerminalData)
    (hupdate : ∀ patch, op ≠ .updateSessionMetadata id patch)
    (hrepair : ∀ state, op ≠ .writeTranscriptState id state)
    (happend : ∀ origin input, op = .appendChunkOnce id origin input → inp.rejects = true) :
    RowsKept id d (execTerminal op inp d).1 := by
  cases op with
  | updateSessionMetadata id' patch =>
      have hne : id ≠ id' := fun h => hupdate patch (by rw [h])
      exact ⟨TerminalData.updateRows_of_ne d hne _, rfl⟩
  | writeTranscriptState id' state =>
      have hne : id ≠ id' := fun h => hrepair state (by rw [h])
      simp only [execTerminal]
      split
      · exact RowsKept.refl id d
      · exact ⟨TerminalData.updateRows_of_ne d hne _, rfl⟩
  | appendChunkOnce id' origin input =>
      simp only [execTerminal]
      split
      · exact RowsKept.refl id d
      next hinp =>
          have hne : id ≠ id' := fun h => hinp (happend origin input (by rw [h]))
          split
          · exact RowsKept.refl id d
          · split
            · exact ⟨TerminalData.updateRows_of_ne d hne _, Function.update_of_ne hne _ _⟩
            · exact RowsKept.refl id d
  | incrementCount id' => exact addToCount_rowsKept inp id' 1
  | decrementCount id' => exact addToCount_rowsKept inp id' (-1)
  | resetCount id' =>
      simp only [execTerminal]
      split
      · exact RowsKept.refl id d
      · split <;> exact RowsKept.refl id d
  | readTranscriptState id' =>
      simp only [execTerminal]
      split <;> exact RowsKept.refl id d
  | recordCommand id' command =>
      simp only [execTerminal]
      split <;> exact RowsKept.refl id d
  | send id' message =>
      simp only [execTerminal]
      split <;> exact RowsKept.refl id d
  | findSession id' => exact RowsKept.refl id d
  | expireCount id' => exact RowsKept.refl id d
  | getCount id' => exact RowsKept.refl id d
  | attachCheck id' socketId => exact RowsKept.refl id d
  | other => exact RowsKept.refl id d

/-! ## What the handlers do to it -/

variable {stays : TerminalSessionStatus → Prop}

/-- The appends to the session succeed. -/
def AppendsSucceed (id : Uuid) : (op : TerminalOp) → TerminalAnswer op → Prop
  | .appendChunkOnce id' _ _, answer => id' = id → answer.isSome = true
  | _, _ => True

/-- An operation that stores nothing in the transcript of the session but other texts of the
service, repairs nothing, and leaves the session in a status that stays. -/
def Quiet (id : Uuid) (stays : TerminalSessionStatus → Prop) : TerminalOp → Prop
  | .appendChunkOnce id' origin _ => id' = id → origin = .other
  | .writeTranscriptState id' _ => id' ≠ id
  | .updateSessionMetadata id' patch => id' = id → ∀ status ∈ patch.status, ∀ old, stays old →
      stays status
  | _ => True

/-- What the handlers do that store neither content nor the notice. -/
def quiet (id : Uuid) (stays : TerminalSessionStatus → Prop) : TerminalAccount where
  answers := AppendsSucceed id
  awaits op _ := Quiet id stays op

/-- An append to the session has no repair, and one to another session may have one. -/
theorem appendChunk_quiet {id' : Uuid} {origin : ChunkOrigin} {input : ChunkInput}
    {k : TerminalSessionChunkEntity → TerminalProgram} (horigin : id' = id → origin = .other)
    (hk : ∀ chunk, (k chunk).Always (quiet id stays)) :
    (appendChunk id' origin input k).Always (quiet id stays) := by
  by_cases hid : id' = id
  · refine ⟨horigin, fun answer hanswer => ?_⟩
    cases answer with
    | some chunk => exact hk chunk
    | none => exact absurd (hanswer hid) (by simp)
  · exact appendChunk_always (fun _ => horigin) (fun _ => trivial) (fun _ _ => hid) hk

theorem quiet_rules (id : Uuid)
    (hstays : ∀ status, status ≠ .pending → status ≠ .opened → ∀ old, stays old → stays status) :
    ServiceRules (quiet id stays) where
  plain {op k} hop := by
    cases op with
    | appendChunkOnce id' origin input => exact hop.elim
    | writeTranscriptState id' state => exact hop.elim
    | updateSessionMetadata id' patch => exact hop.elim
    | _ => trivial
  update hpending hopened _ := fun _ status hstatus =>
    hstays status (fun heq => hpending (heq ▸ hstatus)) fun heq => hopened (heq ▸ hstatus)
  append hk := appendChunk_quiet (fun _ => rfl) hk
  write _ _ := trivial

/-- A session that was stopped is stopped after every update but those that open it. -/
theorem quiet_stopped (id : Uuid) : ServiceRules (quiet id (isStopped · = true)) :=
  quiet_rules id fun status hpending hopened _ _ => by
    cases status with
    | pending => exact absurd rfl hpending
    | opened => exact absurd rfl hopened
    | _ => rfl

/-- Without the notice every update will do. -/
theorem quiet_unnoticed (id : Uuid) : ServiceRules (quiet id fun _ => False) :=
  quiet_rules id fun _ _ _ _ h => h

/-- A chunk that is not the notice keeps the bound where its content fits. -/
theorem Bounded.appended {origin : ChunkOrigin} {payload : List UInt8} (h : Bounded id stays d)
    (hdone : Appended id origin payload d d') (horigin : origin ≠ .capacityNotice)
    (hfits : origin.isContent = true → contentBytes id d + payload.length ≤ maxTranscriptBytes) :
    Bounded id stays d' := by
  have hnotices : capacityNotices id d' = capacityNotices id d := by
    rw [hdone.notices, if_neg horigin, Nat.add_zero]
  refine ⟨hdone.exact, ⟨?_, ?_⟩, ?_⟩
  · rw [hdone.bytes]
    split
    next hcontent => exact hfits hcontent
    next => exact h.kept.bytes
  · rw [hnotices]
    exact h.kept.notices
  · intro rows' hrows' hsome
    obtain ⟨rows, hrows, hstatus, -⟩ := hdone.session rows' hrows'
    rw [hnotices] at hsome
    exact hstatus ▸ h.noticed rows hrows hsome

/-- An update of the session, if its status stays once the notice is stored. -/
theorem bounded_update (hexact : TranscriptExact id d) (hkept : CapacityKept id d)
    (patch : TerminalSessionMetadataPatch) (inp : TerminalInput)
    (hstays : ∀ rows ∈ d.sessions id, capacityNotices id d ≠ 0 →
      stays (patch.status.getD rows.session.status)) :
    Bounded id stays (execTerminal (.updateSessionMetadata id patch) inp d).1 := by
  obtain ⟨rows, hrows, hnumbered, hcounters, hstored⟩ := hexact
  have hrows' : (execTerminal (.updateSessionMetadata id patch) inp d).1.sessions id =
      some { rows with session := patch.apply rows.session } :=
    (TerminalData.updateRows_self d id _).trans (by rw [hrows]; rfl)
  refine ⟨⟨_, hrows', hnumbered, ⟨hcounters.lastChunkSeq, hcounters.chunkCount,
    hcounters.transcriptBytes⟩, hstored⟩, ⟨hkept.bytes, hkept.notices⟩, ?_⟩
  intro found hfound hsome
  rw [hrows'] at hfound
  obtain rfl := Option.some.inj hfound
  exact hstays rows hrows hsome

/-- **A quiet operation keeps the bound.** -/
theorem bounded_of_quiet (op : TerminalOp) (d : TerminalData) (hop : Quiet id stays op)
    (h : Bounded id stays d) (inp : TerminalInput) :
    Bounded id stays (execTerminal op inp d).1 ∧
      ∀ answer, (execTerminal op inp d).2 = some answer → AppendsSucceed id op answer := by
  by_cases hupdate : ∃ patch, op = .updateSessionMetadata id patch
  · obtain ⟨patch, rfl⟩ := hupdate
    refine ⟨?_, fun _ _ => trivial⟩
    refine bounded_update h.exact h.kept patch inp fun rows hrows hsome => ?_
    have hold := h.noticed rows hrows hsome
    cases hstatus : patch.status with
    | none => exact hold
    | some status => exact hop rfl status hstatus _ hold
  · by_cases happend : ∃ origin input,
        op = .appendChunkOnce id origin input ∧ inp.rejects = false
    · obtain ⟨origin, input, rfl, hinp⟩ := happend
      obtain rfl : origin = .other := hop rfl
      obtain ⟨chunk, hsome, hdone⟩ := execTerminal_append h.exact .other input hinp
      refine ⟨h.appended hdone (by decide) fun hcontent => absurd hcontent (by decide),
        fun answer hanswer _ => ?_⟩
      rw [hsome] at hanswer
      cases hanswer
      rfl
    · have hkept := execTerminal_rowsKept op inp d (fun patch hop' => hupdate ⟨patch, hop'⟩)
        (fun state hop' => by
          subst hop'
          exact hop rfl)
        fun origin input hop' => by
          by_contra hinp
          exact happend ⟨origin, input, hop', Bool.eq_false_of_not_eq_true hinp⟩
      refine ⟨h.rowsKept hkept, fun answer hanswer => ?_⟩
      cases op with
      | appendChunkOnce id' origin input =>
          rintro rfl
          cases hinp : inp.rejects with
          | true => simp [execTerminal, hinp] at hanswer
          | false => exact absurd ⟨origin, input, rfl, hinp⟩ happend
      | _ => trivial

/-- What a program ensures for a session when it runs alone. -/
abbrev EnsuresBounded (id : Uuid) (program : TerminalProgram) (d : TerminalData) : Prop :=
  program.Ensures execTerminal (RowsKept id) (fun _ d => CapacityKept id d)
    (Bounded id (isStopped · = true)) d

/-- A quiet program keeps the bound. -/
theorem ensuresBounded_of_quiet {program : TerminalProgram}
    (hprogram : program.Always (quiet id (isStopped · = true)))
    (h : Bounded id (isStopped · = true) d) : EnsuresBounded id program d :=
  hprogram.ensures (fun hkept h => h.rowsKept hkept)
    (fun op _ d hop h => ⟨h.kept, bounded_of_quiet op d hop h⟩) h

/-- An await that touches nothing. -/
theorem other_ensures {k : Unit → TerminalProgram} (h : Bounded id (isStopped · = true) d)
    (hk : ∀ d', RowsKept id d d' → EnsuresBounded id (k ()) d') :
    EnsuresBounded id (.await .other k) d := by
  intro d' hkept
  have h' := h.rowsKept hkept
  refine ⟨h'.kept, fun inp => ?_⟩
  cases hinp : inp.rejects with
  | true =>
      simp only [execTerminal, hinp, if_true]
      exact h'
  | false =>
      simp only [execTerminal, hinp]
      exact hk d' hkept

/-- **What follows the notice** makes the session TERMINATING first. -/
theorem stopNoticed_ensures (hexact : TranscriptExact id d) (hcap : CapacityKept id d) :
    EnsuresBounded id (stopNoticed id) d := by
  intro d₁ hkept
  have hexact₁ := hexact.rowsKept hkept
  refine ⟨hcap.rowsKept hkept, fun inp => ?_⟩
  have halways : (stopNoticed id).Always (quiet id (isStopped · = true)) :=
    stopNoticed_always (quiet_stopped id)
  exact ensuresBounded_of_quiet (halways.2 () trivial)
    (bounded_update hexact₁ (hcap.rowsKept hkept) _ inp fun _ _ _ => rfl)

/-- A program that is quiet apart from opening the session keeps the bound while the notice is not
stored. -/
theorem ensuresBounded_of_unnoticed {program : TerminalProgram}
    (hprogram : program.Always (quiet id fun _ => False)) (h : Bounded id stays d)
    (hnone : capacityNotices id d = 0) : EnsuresBounded id program d := by
  have hensures : program.Ensures execTerminal (RowsKept id) (fun _ d => CapacityKept id d)
      (Bounded id fun _ => False) d :=
    hprogram.ensures (fun hkept h => h.rowsKept hkept)
      (fun op _ d hop h => ⟨h.kept, bounded_of_quiet op d hop h⟩) (h.of_noNotice hnone)
  exact hensures.imp fun d h => h.of_noNotice h.noNotice

/-- **An append**: it stores the chunk, or rejects and leaves the session as it is. -/
theorem appendChunk_ensures {origin : ChunkOrigin} {input : ChunkInput}
    {k : TerminalSessionChunkEntity → TerminalProgram} (h : Bounded id (isStopped · = true) d)
    (hk : ∀ chunk d₁ d', RowsKept id d d₁ → Appended id origin input.payload d₁ d' →
      EnsuresBounded id (k chunk) d') :
    EnsuresBounded id (appendChunk id origin input k) d := by
  intro d₁ hkept
  have h₁ := h.rowsKept hkept
  refine ⟨h₁.kept, fun inp => ?_⟩
  cases hinp : inp.rejects with
  | true =>
      simp only [execTerminal, hinp, if_true]
      exact h₁
  | false =>
      obtain ⟨chunk, hsome, hdone⟩ := execTerminal_append h₁.exact origin input hinp
      have hnext := hk chunk d₁ _ hkept hdone
      cases hresult : execTerminal (.appendChunkOnce id origin input) inp d₁ with
      | mk d' answer =>
          rw [hresult] at hsome hnext
          obtain rfl := hsome
          exact hnext

/-- What the SELECT of a session answers. -/
theorem exec_findSession {rows : TerminalRows} (hrows : d.sessions id = some rows)
    (inp : TerminalInput) : execTerminal (.findSession id) inp d = (d, some rows.session) := by
  simp only [execTerminal, hrows, Option.map_some]

/-- The message `opened`: it opens a session that has no notice, or finds one that has ended. -/
theorem handleAgentOpened_ensures (input : OpenedInput) (h : Bounded id (isStopped · = true) d)
    (hroom : FindsRoom id (.agentOpened id input) d) :
    EnsuresBounded id (handleAgentOpened id input) d := by
  intro d₁ hkept
  have h₁ := h.rowsKept hkept
  refine ⟨h₁.kept, fun inp => ?_⟩
  have ⟨rows, hrows, _⟩ := h₁.exact
  rw [exec_findSession hrows]
  by_cases hnone : capacityNotices id d₁ = 0
  · have halways : (handleAgentOpened id input).Always (quiet id fun _ => False) :=
      handleAgentOpened_always (quiet_unnoticed id) fun _ _ _ _ _ _ _ h => h.elim
    exact ensuresBounded_of_unnoticed (halways.2 rows.session trivial) h₁ hnone
  · have hstopped := h₁.noticed rows hrows hnone
    rw [hkept.1] at hrows
    have hnot := hroom rfl rows hrows
    simp only
    split
    next => exact h₁
    next hgoes =>
        -- TERMINATING is excluded where the message arrives
        rw [not_or, not_not] at hgoes
        have hstatus := hnot hgoes.1
        simp only [isStopped, Bool.or_eq_true, decide_eq_true_eq] at hstopped
        exact absurd (hstopped.resolve_left hstatus) hgoes.2

/-- Agent output: the counter that was loaded is still exact when the chunk is stored, and the
notice is the first one. -/
theorem handleAgentOutput_ensures (input : OutputInput) (h : Bounded id (isStopped · = true) d)
    (hroom : FindsRoom id (.agentOutput id input) d) :
    EnsuresBounded id (handleAgentOutput id input) d := by
  intro d₁ hkept
  have h₁ := h.rowsKept hkept
  refine ⟨h₁.kept, fun inp => ?_⟩
  have ⟨rows, hrows, _⟩ := h₁.exact
  rw [exec_findSession hrows]
  simp only
  split
  next => exact h₁
  next hgoes =>
  rw [not_or, not_not] at hgoes
  split
  next hfull =>
      -- the session is neither TERMINATING nor ended, so there is no notice yet
      have hnone : capacityNotices id d₁ = 0 := by
        by_contra hsome
        have hstopped := h₁.noticed rows hrows hsome
        simp only [isStopped, Bool.or_eq_true, decide_eq_true_eq] at hstopped
        rw [hkept.1] at hrows
        have hfits := hroom rfl rows hrows hgoes.1 (hstopped.resolve_right hgoes.2)
        omega
      refine appendChunk_ensures h₁ fun chunk d₂ d₃ hkept₂ hdone => ?_
      have h₂ := h₁.rowsKept hkept₂
      have hnone₂ : capacityNotices id d₂ = 0 := by
        rw [capacityNotices, hkept₂.2]
        exact hnone
      have hkept₃ : CapacityKept id d₃ := by
        refine ⟨?_, ?_⟩
        · rw [hdone.bytes]
          exact h₂.kept.bytes
        · rw [hdone.notices, hnone₂]
          exact le_refl 1
      exact stopNoticed_ensures hdone.exact hkept₃
  next hfits =>
      refine appendChunk_ensures h₁ fun chunk d₂ d₃ hkept₂ hdone => ?_
      refine ensuresBounded_of_quiet ⟨trivial, fun _ _ => trivial⟩
        ((h₁.rowsKept hkept₂).appended hdone (by decide) fun _ => ?_)
      have hle := h₁.exact.contentBytes_le hrows
      rw [contentBytes_rowsKept hkept₂]
      exact (Nat.add_le_add_right hle _).trans (Nat.le_of_not_lt hfits)

/-- Controller input: it is stored while the session is OPEN, and fits then. -/
theorem handleControllerInput_ensures (payload : List UInt8) (user : TerminalUser)
    (h : Bounded id (isStopped · = true) d) (hroom : FindsRoom id (.input id payload user) d) :
    EnsuresBounded id (handleControllerInput id payload user) d := by
  intro d₁ hkept
  have h₁ := h.rowsKept hkept
  refine ⟨h₁.kept, fun inp => ?_⟩
  have ⟨rows, hrows, _⟩ := h₁.exact
  rw [exec_findSession hrows]
  rw [hkept.1] at hrows
  have hfits := hroom rfl rows hrows
  have hle := h.exact.contentBytes_le hrows
  refine other_ensures h₁ fun d₂ hkept₂ => ?_
  have h₂ := h₁.rowsKept hkept₂
  split
  next => exact h₂
  next hcan =>
  rw [not_not] at hcan
  refine other_ensures h₂ fun d₃ hkept₃ => ?_
  have h₃ := h₂.rowsKept hkept₃
  split
  next => exact h₃
  next hopen =>
  rw [not_not] at hopen
  refine appendChunk_ensures h₃ fun chunk d₄ d₅ hkept₄ hdone => ?_
  refine ensuresBounded_of_quiet (auditSubmittedTerminalCommands_always (quiet_stopped id)
    ⟨trivial, fun dispatched _ => .ite (fun _ => trivial) fun _ =>
      markFailed_always (quiet_stopped id)⟩)
    ((h₃.rowsKept hkept₄).appended hdone (by decide) fun _ => ?_)
  rw [contentBytes_rowsKept hkept₄, contentBytes_rowsKept hkept₃, contentBytes_rowsKept hkept₂,
    contentBytes_rowsKept hkept]
  exact (Nat.add_le_add_right hle _).trans (hfits hcan hopen)

/-- **Every request that finds room keeps the bound.** -/
theorem terminalBody_ensures (req : TerminalRequest) (d : TerminalData)
    (h : Bounded id (isStopped · = true) d) (hroom : FindsRoom id req d) :
    EnsuresBounded id (terminalBody req) d := by
  have hquiet := quiet_stopped id
  by_cases hself : (∃ input, req = .agentOpened id input) ∨ (∃ input, req = .agentOutput id input) ∨
      ∃ payload user, req = .input id payload user
  · rcases hself with ⟨input, rfl⟩ | ⟨input, rfl⟩ | ⟨payload, user, rfl⟩
    · exact handleAgentOpened_ensures input h hroom
    · exact handleAgentOutput_ensures input h hroom
    · exact handleControllerInput_ensures payload user h hroom
  · simp only [not_or, not_exists] at hself
    obtain ⟨hopened, houtput, hinput⟩ := hself
    refine ensuresBounded_of_quiet (terminalBody_always hquiet req ?_ ?_ ?_ ?_ ?_) h
    · intro id' input hreq
      have hid : id' ≠ id := fun heq => hopened input (heq ▸ hreq)
      exact handleAgentOpened_always hquiet fun _ _ _ heq => absurd heq hid
    · intro id' input hreq
      have hid : id' ≠ id := fun heq => houtput input (heq ▸ hreq)
      exact handleAgentOutput_always hquiet
        (fun hk => appendChunk_quiet (fun heq => absurd heq hid) hk)
        fun hk => appendChunk_quiet (fun heq => absurd heq hid) hk
    · intro id' payload user hreq
      have hid : id' ≠ id := fun heq => hinput payload user (heq ▸ hreq)
      exact handleControllerInput_always hquiet
        (fun hk => appendChunk_quiet (fun heq => absurd heq hid) hk) fun _ => trivial
    · intro id' _
      refine handleDetachTimeout_always hquiet fun _ _ status hstatus _ _ => ?_
      cases hstatus
      rfl
    · intro hreq
      refine attachment_always (fun {op k} hop => ?_) (fun _ _ => trivial) hreq
      cases op with
      | appendChunkOnce id' origin input => exact hop.elim
      | writeTranscriptState id' state => exact hop.elim
      | updateSessionMetadata id' patch => exact hop.elim
      | _ => trivial

/-! ## Runs -/

/-- The state between two steps: the bound holds, and the call that runs keeps it. -/
abbrev SoloBounded (id : Uuid) (c : SoloConfig) : Prop :=
  Solo execTerminal (RowsKept id) (fun _ d => CapacityKept id d)
    (Bounded id (isStopped · = true)) c

/-- **One event.** -/
theorem soloBounded_step (c : SoloConfig) (e : SoloEvent) (hc : SoloBounded id c)
    (he : ArrivesInRoom id c e) : SoloBounded id (soloStep c e) :=
  solo_step (RowsKept.refl id) (fun hab hbd => hab.trans hbd)
    (fun e s => by cases e <;> exact RowsKept.refl id _)
    (fun hkept h => h.rowsKept hkept) terminalBody_ensures hc e he

/-- The bound holds at every await, and when no call runs. -/
theorem SoloBounded.kept {c : SoloConfig} (hc : SoloBounded id c) :
    CapacityKept id c.world.data := by
  cases hp : c.pending () with
  | some l => exact hc.at_await (RowsKept.refl id) hp
  | none =>
      unfold SoloBounded Solo at hc
      rw [hp] at hc
      exact hc.kept

/-- A new session, before any call. -/
abbrev capacityStart (s : TerminalStore) (session : TerminalSessionEntity) : SoloConfig :=
  Config.idle (newSession s session)

theorem soloBounded_start (s : TerminalStore) (session : TerminalSessionEntity) :
    SoloBounded session.id (capacityStart s session) := by
  have hstored : (newSession s session).data.stored session.id = [] :=
    Function.update_self session.id _ s.data.stored
  have hnone : capacityNotices session.id (newSession s session).data = 0 := by
    rw [capacityNotices, hstored]
    rfl
  refine ⟨⟨_, Function.update_self session.id _ _, rfl, ⟨rfl, rfl, rfl⟩, ?_⟩, ⟨?_, ?_⟩,
    fun _ _ hsome => absurd hnone hsome⟩
  · exact congrArg (List.map (·.2)) hstored
  · rw [contentBytes, Config.idle_world, hstored]
    exact Nat.zero_le _
  · rw [Config.idle_world, hnone]
    exact Nat.zero_le 1

/-- **The capacity of a transcript is kept.**  Whatever requests of any kind are handled one after
the other, and whichever of their awaits reject: if every input, output and message `opened`
finds the session with room where it arrives, the content never exceeds the capacity, and the
notice is stored at most once. -/
theorem capacity_kept (s : TerminalStore) (session : TerminalSessionEntity) (es : List SoloEvent)
    (hes : Along soloStep (ArrivesInRoom session.id) (capacityStart s session) es) :
    CapacityKept session.id (run soloStep (capacityStart s session) es).world.data :=
  (inv_run soloBounded_step (soloBounded_start s session) hes).kept

/-! ## Inputs that do not fit -/

/-- An open session. -/
def openSession : TerminalSessionEntity where
  id := "s"
  workspaceId := "w"
  nodeId := "n"
  createdByUserId := some "u"
  status := .opened

/-- No session. -/
def emptyStore : TerminalStore where
  data := { sessions := fun _ => none }
  memory := {}

/-- The store and the call that runs, if there is one. -/
def soloAt (s : TerminalStore) (l : Option TerminalCall) : SoloConfig := ⟨s, fun _ => l⟩

theorem soloStep_invoke (s : TerminalStore) (req : TerminalRequest) (inp : TerminalInput) :
    soloStep (soloAt s none) (.invoke () req inp) =
      soloAt (settle (terminalBody req) s).1 (settle (terminalBody req) s).2 := by
  rw [soloStep, step_invoke rfl]
  simp only [soloAt, Config.mk.injEq]
  exact ⟨rfl, funext fun _ => Function.update_self _ _ _⟩

theorem soloStep_resume (s : TerminalStore) (l : TerminalCall) (inp : TerminalInput) :
    soloStep (soloAt s (some l)) (.resume () inp) =
      soloAt (resumeWith execTerminal l inp s).1 (resumeWith execTerminal l inp s).2 := by
  rw [soloStep, step_resume rfl]
  simp only [soloAt, Config.mk.injEq]
  exact ⟨rfl, funext fun _ => Function.update_self _ _ _⟩

/-- `n` letters. -/
def letters (n : ℕ) : List UInt8 := Utf8.encode (List.replicate n 'a')

theorem length_letters (n : ℕ) : (letters n).length = n := by
  induction n with
  | zero => rfl
  | succ n ih =>
      rw [letters, List.replicate_succ, ← List.singleton_append, Utf8.encode_append,
        List.length_append]
      have hfirst : (Utf8.encode ['a']).length = 1 := by decide
      rw [letters] at ih
      omega

theorem nextCommand_letters (n : ℕ) (buffer : JsString) :
    (nextCommand buffer (List.replicate n 'a')).2 = none := by
  induction n generalizing buffer with
  | zero => rfl
  | succ n ih => exact ih (buffer ++ codeUnits 'a')

/-- Letters submit no command: the audit only writes the line that was begun. -/
theorem settle_audit_letters (id : Uuid) (n : ℕ) (k : TerminalProgram) (s : TerminalStore) :
    ∃ m, settle (auditSubmittedTerminalCommands id (letters n) k) s =
      settle k { s with memory := m } := by
  unfold auditSubmittedTerminalCommands
  simp only [letters, Utf8.decode_encode]
  split
  next => exact ⟨s.memory, rfl⟩
  next =>
      rw [settle, auditCharacters_eq]
      have hnone := nextCommand_letters n ((s.memory.commandBuffers id).getD [])
      split
      next line hline => exact ⟨_, rfl⟩
      next command rest hline =>
          rw [hline] at hnone
          exact absurd hnone (by simp)

/-- An input of `n` letters by the creator of the session, handled to its end. -/
def lettersTyped (n : ℕ) : List SoloEvent :=
  [.invoke () (.input "s" (letters n) ⟨"u", "u@example.org"⟩) {}, .resume () {}, .resume () {},
    .resume () {}, .resume () {}, .resume () {}]

/-- An open session of the user with an exact transcript of so many bytes. -/
structure OpenWith (bytes : ℕ) (s : TerminalStore) : Prop where
  exact : TranscriptExact "s" s.data
  content : contentBytes "s" s.data = bytes
  status : ∀ rows ∈ s.data.sessions "s", rows.session.status = .opened
  user : ∀ rows ∈ s.data.sessions "s", rows.session.createdByUserId = some "u"

/-- **The input is stored whole**, however full the transcript is. -/
theorem run_lettersTyped (n : ℕ) {bytes : ℕ} {s : TerminalStore} (h : OpenWith bytes s) :
    ∃ s', run soloStep (soloAt s none) (lettersTyped n) = soloAt s' none ∧
      OpenWith (bytes + n) s' := by
  have ⟨rows, hrows, _⟩ := h.exact
  have hopen := h.status rows hrows
  have hcan : canControlSession ⟨"u", "u@example.org"⟩ rows.session = true := by
    simp [canControlSession, h.user rows hrows, hopen, isTerminal]
  obtain ⟨chunk, hsome, hdone⟩ := execTerminal_append h.exact .controllerInput
    { direction := .stdin, payload := letters n }
    (show ({} : TerminalInput).rejects = false from rfl)
  obtain ⟨d, hexec⟩ : ∃ d, execTerminal (.appendChunkOnce "s" .controllerInput
      { direction := .stdin, payload := letters n }) {} s.data = (d, some (some chunk)) :=
    ⟨_, Prod.ext rfl hsome⟩
  rw [hexec] at hdone
  obtain ⟨m, haudit⟩ := settle_audit_letters "s" n
    (.await (.send "s" (.sendTerminalInput (letters n))) fun dispatched =>
      if dispatched then .done
      else
        markFailed "s" (some rows.session.workspaceId)
          "Agent route was unavailable while sending terminal input.") { s with data := d }
  -- one await after the other
  rw [lettersTyped, run_cons, soloStep_invoke]
  simp only [terminalBody, handleControllerInput, settle]
  rw [run_cons, soloStep_resume]
  simp only [resumeWith, exec_findSession hrows, settle]
  rw [run_cons, soloStep_resume]
  simp only [resumeWith, execTerminal, Bool.false_eq_true, if_false, hcan, not_true_eq_false,
    settle]
  rw [run_cons, soloStep_resume]
  simp only [resumeWith, execTerminal, Bool.false_eq_true, if_false, hopen, ne_eq,
    not_true_eq_false, appendChunk, settle]
  rw [run_cons, soloStep_resume]
  simp only [resumeWith, hexec]
  rw [haudit]
  simp only [settle]
  rw [run_cons, soloStep_resume]
  simp only [resumeWith, execTerminal, Bool.false_eq_true, if_false, if_true, settle, run_nil]
  refine ⟨_, rfl, ⟨hdone.exact, ?_, fun rows' hrows' => ?_, fun rows' hrows' => ?_⟩⟩
  · have hbytes : contentBytes "s" d = contentBytes "s" s.data + (letters n).length := hdone.bytes
    rw [length_letters, h.content] at hbytes
    exact hbytes
  · obtain ⟨old, hold, hstatus, -⟩ := hdone.session rows' hrows'
    exact hstatus ▸ h.status old hold
  · obtain ⟨old, hold, -, huser⟩ := hdone.session rows' hrows'
    exact huser ▸ h.user old hold

/-- Many inputs, one after the other. -/
theorem run_lettersTyped_many (n k : ℕ) {bytes : ℕ} {s : TerminalStore} (h : OpenWith bytes s) :
    ∃ s',
      run soloStep (soloAt s none) (List.replicate k (lettersTyped n)).flatten = soloAt s' none ∧
      OpenWith (bytes + k * n) s' := by
  induction k generalizing bytes s with
  | zero => exact ⟨s, rfl, by simpa using h⟩
  | succ k ih =>
      obtain ⟨s₁, hrun₁, h₁⟩ := run_lettersTyped n h
      obtain ⟨s₂, hrun₂, h₂⟩ := ih h₁
      refine ⟨s₂, ?_, ?_⟩
      · rw [List.replicate_succ, List.flatten_cons, run_append, hrun₁, hrun₂]
      · rw [Nat.succ_mul, Nat.add_comm (k * n), ← Nat.add_assoc]
        exact h₂

/-- The most letters that `@MaxLength(32768)` lets through in base64. -/
def longestInput : ℕ := 32768 / 4 * 3

theorem openSession_rows {rows : TerminalRows}
    (h : rows ∈ (newSession emptyStore openSession).data.sessions "s") :
    rows = { session := openSession } := (Option.some.inj h).symm

theorem openSession_openWith : OpenWith 0 (newSession emptyStore openSession) := by
  refine ⟨⟨{ session := openSession }, rfl, rfl, ⟨rfl, rfl, rfl⟩, rfl⟩, rfl, fun rows h => ?_,
    fun rows h => ?_⟩
  · rw [openSession_rows h]
    rfl
  · rw [openSession_rows h]
    rfl

/-- An input of the greatest length finds room in an empty transcript. -/
theorem capacity_kept_longestInput :
    CapacityKept "s" (run soloStep (capacityStart emptyStore openSession)
      (lettersTyped longestInput)).world.data := by
  refine capacity_kept emptyStore openSession _ ⟨fun _ _ rows hrows _ _ => ?_, fun _ _ => trivial,
    fun _ _ => trivial, fun _ _ => trivial, fun _ _ => trivial, fun _ _ => trivial, trivial⟩
  rw [openSession_rows hrows, length_letters]
  decide

/-- **427 inputs of the greatest length**, one after the other, are more than the capacity. -/
theorem inputs_exceed :
    ¬ CapacityKept "s" (run soloStep (capacityStart emptyStore openSession)
      (List.replicate 427 (lettersTyped longestInput)).flatten).world.data := by
  intro hkept
  obtain ⟨s, hrun, hopen⟩ := run_lettersTyped_many longestInput 427 openSession_openWith
  have hbytes := hkept.bytes
  have hcontent := hopen.content
  rw [show capacityStart emptyStore openSession = soloAt (newSession emptyStore openSession) none
    from rfl, hrun] at hbytes
  simp only [soloAt, hcontent] at hbytes
  exact absurd hbytes (by decide)

end TerminalSessionsService
