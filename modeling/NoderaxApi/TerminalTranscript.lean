/-
# Transcripts under concurrent appends

Any number of calls of `appendChunk` for one session, each transaction and each statement of
the repair path a step of its own.

The numbering never breaks: a sequence number comes from the counter, which never runs ahead
of the chunks.  The counters can fall behind again: the repair writes what it read before,
and a chunk stored in between is lost from the count.
-/
import NoderaxApi.Interleaving
import NoderaxApi.TerminalSessions

open Runs Interleaving

namespace TerminalSessionsService

/-! ## The calls -/

/-- The rows, and the chunks that calls of `appendChunk` returned; latest first. -/
structure TranscriptWorld where
  rows : TerminalRows
  returned : List TerminalSessionChunkEntity := []
  deriving DecidableEq, Repr

/-- The result of a step of `appendChunk`, with the chunk it returned. -/
def recordAppend (w : TranscriptWorld) (result : TerminalRows × AppendResult) :
    TranscriptWorld × Option PendingAppend :=
  match result.2 with
  | .pending call => ({ w with rows := result.1 }, some call)
  | .returned chunk => (⟨result.1, chunk :: w.returned⟩, none)
  | .threw => ({ w with rows := result.1 }, none)

/-- Concurrent calls of `appendChunk`. -/
def appendCalls : Calls TranscriptWorld ChunkInput PendingAppend Unit where
  invoke input _ w := (w, some { input := input })
  resume call _ w := recordAppend w (appendStep call w.rows)

/-- The pending calls of a run. -/
abbrev AppendConfig := Config ℕ TranscriptWorld PendingAppend

/-- A call of `appendChunk` starts or moves. -/
abbrev AppendEvent := Event ℕ ChunkInput Unit Empty

/-- The rows and the pending calls after a run. -/
def appendRun (rows : TerminalRows) (es : List AppendEvent) : AppendConfig :=
  run (step appendCalls noEnv) (Config.idle { rows := rows }) es

/-! ## What is claimed -/

/-- The chunks are numbered 1, 2, … without a gap. -/
def Numbered (chunks : List TerminalSessionChunkEntity) : Prop :=
  chunks.map (·.seq) = List.range' 1 chunks.length

/-- The counters say what the chunks are. -/
structure CountersExact (w : TerminalRows) : Prop where
  lastChunkSeq : w.session.lastChunkSeq = w.chunks.length
  chunkCount : w.session.chunkCount = w.chunks.length
  transcriptBytes : w.session.transcriptBytes = storedBytes w.chunks

/-- The chunks are numbered, and the counter of the last one is not ahead of them. -/
structure LagsBehind (w : TerminalRows) : Prop where
  numbered : Numbered w.chunks
  behind : w.session.lastChunkSeq ≤ w.chunks.length

/-- What holds at every moment: the chunks are numbered, and the chunks that calls returned
are stored. -/
structure TranscriptIntact (w : TranscriptWorld) : Prop where
  numbered : Numbered w.rows.chunks
  stored : ∀ chunk ∈ w.returned, chunk ∈ w.rows.chunks

/-- What holds once all calls have finished: if one succeeded, the counters are exact. -/
def CountersSettled (c : AppendConfig) : Prop :=
  (∀ p, c.pending p = none) → c.world.returned ≠ [] → CountersExact c.world.rows

/-! ## The guard -/

/-- **The repair writes what is there**: no chunk was stored since it read them. -/
def RepairFresh (w : TranscriptWorld) (call : PendingAppend) (_ : Unit) : Prop :=
  match call.stage with
  | .reconcileWrite state => state = readTranscriptState w.rows.chunks
  | _ => True

instance (w : TranscriptWorld) (call : PendingAppend) (input : Unit) :
    Decidable (RepairFresh w call input) := by
  unfold RepairFresh
  split <;> infer_instance

/-! ## One step -/

variable {w w' : TerminalRows} {chunks : List TerminalSessionChunkEntity}

/-- The highest number of numbered chunks is their count. -/
theorem Numbered.readTranscriptState (h : Numbered chunks) :
    readTranscriptState chunks = ⟨chunks.length, chunks.length, storedBytes chunks⟩ := by
  have hmax : ∀ n k, (List.range' (k + 1) n).foldr max 0 ≤ k + n ∧
      (n ≠ 0 → (List.range' (k + 1) n).foldr max 0 = k + n) := by
    intro n
    induction n with
    | zero =>
        intro k
        simp
    | succ n ih =>
        intro k
        obtain ⟨hle, heq⟩ := ih (k + 1)
        rw [List.range'_succ, List.foldr_cons]
        by_cases hn : n = 0
        · subst hn
          simp
        · have := heq hn
          omega
  have hlast : (chunks.map (·.seq)).foldr max 0 = chunks.length := by
    rw [h]
    by_cases hn : chunks.length = 0
    · rw [hn]
      rfl
    · rw [(hmax chunks.length 0).2 hn, Nat.zero_add]
  rw [TerminalSessionsService.readTranscriptState, hlast]

/-- A number below the count is taken. -/
theorem Numbered.mem_seq (h : Numbered chunks) {n : ℕ} :
    n ∈ chunks.map (·.seq) ↔ 1 ≤ n ∧ n ≤ chunks.length := by
  rw [h, List.mem_range'_1]
  omega

theorem Numbered.append (h : Numbered chunks) (input : ChunkInput) :
    Numbered (chunks ++ [input.chunk (chunks.length + 1)]) := by
  rw [Numbered, List.map_append, h, List.length_append, List.length_singleton,
    List.range'_append_1.symm]
  simp [ChunkInput.chunk, Nat.add_comm]

theorem Numbered.prefix {before after : List TerminalSessionChunkEntity}
    (h : Numbered (before ++ after)) : Numbered before := by
  have hlength : (before.map (·.seq)).length = before.length := List.length_map _
  rw [Numbered, List.map_append, List.length_append, ← List.range'_append_1] at h
  exact (List.append_inj h (by rw [hlength, List.length_range'])).1

/-- What holds of the rows at every moment. -/
structure RowsInv (w : TerminalRows) : Prop extends LagsBehind w where
  exact : w.session.lastChunkSeq = w.chunks.length → CountersExact w

/-- The aggregates were read when only the first of the chunks were there. -/
def ReadBefore (w : TerminalRows) (state : TranscriptState) : Prop :=
  ∃ before after, w.chunks = before ++ after ∧ state = readTranscriptState before

/-- **An append that succeeds** finds the counters exact, and leaves them so. -/
theorem RowsInv.append {input : ChunkInput} {chunk : TerminalSessionChunkEntity} (h : RowsInv w)
    (happend : appendChunkOnce input w = some (chunk, w')) :
    RowsInv w' ∧ CountersExact w' ∧ w'.chunks = w.chunks ++ [chunk] := by
  obtain ⟨rfl, hfree, hchunks, hsession⟩ := appendChunkOnce_some happend
  have hlast : w.session.lastChunkSeq = w.chunks.length := by
    rw [h.numbered.mem_seq] at hfree
    have hbehind := h.behind
    omega
  have hexact := h.exact hlast
  have hexact' : CountersExact w' := by
    constructor
    · rw [hchunks, hsession, List.length_append, List.length_singleton, hlast]
    · rw [hchunks, hsession, List.length_append, List.length_singleton, hexact.chunkCount]
    · rw [hchunks, hsession, storedBytes_append, hexact.transcriptBytes]
      rfl
  refine ⟨⟨⟨?_, ?_⟩, fun _ => hexact'⟩, hexact', hchunks⟩
  · rw [hchunks, hlast]
    exact h.numbered.append input
  · rw [hexact'.lastChunkSeq]

/-- **The repair** leaves the counters behind, or exact. -/
theorem RowsInv.repair {state : TranscriptState} (h : RowsInv w) (hread : ReadBefore w state) :
    RowsInv { w with session := writeTranscriptState state w.session } := by
  obtain ⟨before, after, hchunks, rfl⟩ := hread
  have hnumbered := h.numbered
  rw [hchunks] at hnumbered
  have hstate := hnumbered.prefix.readTranscriptState
  have hlength : w.chunks.length = before.length + after.length := by
    rw [hchunks, List.length_append]
  rw [hstate]
  refine ⟨⟨h.numbered, ?_⟩, fun hlast => ?_⟩
  · show before.length ≤ w.chunks.length
    omega
  · -- nothing came after what was read
    have hnone : after = [] := by
      have hlast' : before.length = w.chunks.length := hlast
      exact List.length_eq_zero_iff.mp (by omega)
    subst hnone
    rw [List.append_nil] at hchunks
    exact ⟨by rw [hchunks]; rfl, by rw [hchunks]; rfl, by rw [hchunks]; rfl⟩

/-- A repair that writes what is there makes the counters exact. -/
theorem RowsInv.repair_fresh (h : RowsInv w) :
    CountersExact
      { w with session := writeTranscriptState (readTranscriptState w.chunks) w.session } := by
  rw [h.numbered.readTranscriptState]
  exact ⟨rfl, rfl, rfl⟩

/-! ## Every step -/

/-- What holds of the rows and of the chunks that were returned. -/
structure AppendInv (w : TranscriptWorld) : Prop where
  rows : RowsInv w.rows
  stored : ∀ chunk ∈ w.returned, chunk ∈ w.rows.chunks

/-- A call that is about to write the aggregates has read them before. -/
def AppendOk (w : TranscriptWorld) (call : PendingAppend) : Prop :=
  ∀ state, call.stage = .reconcileWrite state → ReadBefore w.rows state

/-- What a step leaves: the invariant, the chunks that were there, and a call that is ready. -/
structure AppendMoves (w : TranscriptWorld) (next : TranscriptWorld × Option PendingAppend) :
    Prop where
  inv : AppendInv next.1
  grows : ∃ more, next.1.rows.chunks = w.rows.chunks ++ more
  ok : ∀ call, next.2 = some call → AppendOk next.1 call

/-- A call that has read nothing yet, or has written it. -/
theorem appendOk_of_stage {w : TranscriptWorld} {call : PendingAppend}
    (h : ∀ state, call.stage ≠ .reconcileWrite state) : AppendOk w call :=
  fun state hstage => absurd hstage (h state)

/-- The outcome of the transaction. -/
theorem appendMoves_once {w : TranscriptWorld} {input : ChunkInput}
    {otherwise : AppendResult} (h : AppendInv w) (hthrows : ∀ chunk, otherwise ≠ .returned chunk)
    (hready : ∀ call, otherwise = .pending call → AppendOk w call) :
    AppendMoves w (recordAppend w (match appendChunkOnce input w.rows with
      | some (chunk, w') => (w', .returned chunk)
      | none => (w.rows, otherwise))) := by
  split
  · next chunk rows happend =>
      obtain ⟨hrows, -, hchunks⟩ := h.rows.append happend
      refine ⟨⟨hrows, fun other hother => ?_⟩, ⟨[chunk], hchunks⟩,
        fun call hcall => absurd hcall (by simp [recordAppend])⟩
      show other ∈ rows.chunks
      rw [hchunks]
      rcases List.mem_cons.mp hother with rfl | hold
      · exact List.mem_append_right _ List.mem_cons_self
      · exact List.mem_append_left _ (h.stored other hold)
  · cases otherwise with
    | pending call =>
        refine ⟨⟨h.rows, h.stored⟩, ⟨[], (List.append_nil _).symm⟩, fun call' hcall => ?_⟩
        obtain rfl := Option.some.inj hcall
        exact hready call rfl
    | returned chunk => exact absurd rfl (hthrows chunk)
    | threw => exact ⟨⟨h.rows, h.stored⟩, ⟨[], (List.append_nil _).symm⟩, by simp [recordAppend]⟩

/-- **One step of a call.** -/
theorem append_resume {w : TranscriptWorld} {call : PendingAppend} (h : AppendInv w)
    (hok : AppendOk w call) : AppendMoves w (recordAppend w (appendStep call w.rows)) := by
  obtain ⟨input, stage⟩ := call
  cases stage with
  | first =>
      refine appendMoves_once h (by simp) fun call hcall => ?_
      obtain rfl := AppendResult.pending.inj hcall
      exact appendOk_of_stage (by simp)
  | reconcileRead =>
      refine ⟨h, ⟨[], (List.append_nil _).symm⟩, fun call hcall => ?_⟩
      obtain rfl := Option.some.inj hcall
      intro state hstage
      obtain rfl := AppendStage.reconcileWrite.inj hstage
      exact ⟨w.rows.chunks, [], (List.append_nil _).symm, rfl⟩
  | reconcileWrite state =>
      refine ⟨⟨h.rows.repair (hok state rfl), h.stored⟩, ⟨[], (List.append_nil _).symm⟩,
        fun call hcall => ?_⟩
      obtain rfl := Option.some.inj hcall
      exact appendOk_of_stage (by simp)
  | retry => exact appendMoves_once h (by simp) (by simp)

/-- What was read before stays so while chunks are added. -/
theorem AppendMoves.stable {w : TranscriptWorld} {next : TranscriptWorld × Option PendingAppend}
    {other : PendingAppend} (h : AppendMoves w next) (hok : AppendOk w other) :
    AppendOk next.1 other := by
  intro state hstage
  obtain ⟨before, after, hchunks, rfl⟩ := hok state hstage
  obtain ⟨more, hmore⟩ := h.grows
  exact ⟨before, after ++ more, by rw [hmore, hchunks, List.append_assoc], rfl⟩

/-- The calls keep the numbering, whatever their order. -/
theorem append_outline : Outline appendCalls (noEnv : Empty → TranscriptWorld → TranscriptWorld)
    (fun _ _ _ => True) (fun _ _ _ => True) (fun _ _ => True) AppendInv AppendOk where
  invoke h _ := by
    refine ⟨h, fun call hcall => ?_⟩
    obtain rfl := Option.some.inj hcall
    exact appendOk_of_stage (by simp)
  resume h hok _ := ⟨(append_resume h hok).inv, (append_resume h hok).ok⟩
  environment := fun {_ e} _ _ => e.elim
  invoke_stable _ _ hok := hok
  resume_stable h hok _ hother := (append_resume h hok).stable hother
  environment_stable := fun {_ e _} _ _ => e.elim

/-! ## The counters at the end -/

/-- Once a call succeeded, the counters are exact. -/
def Settled (w : TranscriptWorld) : Prop := w.returned ≠ [] → CountersExact w.rows

/-- The transaction leaves the counters exact, or changes nothing. -/
theorem settled_once {w : TranscriptWorld} {input : ChunkInput} {otherwise : AppendResult}
    (h : AppendInv w) (hsettled : Settled w) (hthrows : ∀ chunk, otherwise ≠ .returned chunk) :
    Settled (recordAppend w (match appendChunkOnce input w.rows with
      | some (chunk, w') => (w', .returned chunk)
      | none => (w.rows, otherwise))).1 := by
  split
  · next chunk rows happend => exact fun _ => (h.rows.append happend).2.1
  · cases otherwise with
    | pending call => exact hsettled
    | returned chunk => exact absurd rfl (hthrows chunk)
    | threw => exact hsettled

theorem settled_resume {w : TranscriptWorld} {call : PendingAppend} (h : AppendInv w)
    (hsettled : Settled w) (hg : RepairFresh w call ()) :
    Settled (recordAppend w (appendStep call w.rows)).1 := by
  obtain ⟨input, stage⟩ := call
  cases stage with
  | first => exact settled_once h hsettled (by simp)
  | reconcileRead => exact hsettled
  | reconcileWrite state =>
      intro _
      have hfresh : state = readTranscriptState w.rows.chunks := hg
      rw [hfresh]
      exact h.rows.repair_fresh
  | retry => exact settled_once h hsettled (by simp)

theorem settled_outline : Outline appendCalls (noEnv : Empty → TranscriptWorld → TranscriptWorld)
    (fun _ _ _ => True) RepairFresh (fun _ _ => True) (fun w => AppendInv w ∧ Settled w)
    AppendOk where
  invoke h _ := ⟨h, (append_outline.invoke h.1 trivial).2⟩
  resume h hok hg :=
    ⟨⟨(append_resume h.1 hok).inv, settled_resume h.1 h.2 hg⟩, (append_resume h.1 hok).ok⟩
  environment := fun {_ e} _ _ => e.elim
  invoke_stable _ _ hok := hok
  resume_stable h hok _ hother := (append_resume h.1 hok).stable hother
  environment_stable := fun {_ e _} _ _ => e.elim

/-- **Transcripts stay intact** in every interleaving; and if each repair writes what is
there, the counters are exact in the end. -/
theorem transcript_intact {rows : TerminalRows} {es : List AppendEvent} (hrows : LagsBehind rows)
    (hexact : rows.session.lastChunkSeq = rows.chunks.length → CountersExact rows) :
    TranscriptIntact (appendRun rows es).world ∧
      (Along (step appendCalls noEnv) (ResumeGuard RepairFresh) (Config.idle { rows := rows }) es →
        CountersSettled (appendRun rows es)) := by
  have hinv : AppendInv { rows := rows } := ⟨⟨hrows, hexact⟩, by simp⟩
  constructor
  · have hgood := append_outline.run_all es (good_idle hinv)
    exact ⟨hgood.1.rows.numbered, hgood.1.stored⟩
  · intro hes _ hreturned
    have hgood := settled_outline.run
      (good_idle (J := AppendOk) (I := fun w => AppendInv w ∧ Settled w) ⟨hinv, by simp [Settled]⟩)
      hes
    exact hgood.1.2 hreturned

/-- A session of one chunk whose counters were not written. -/
def laggingRows : TerminalRows where
  session := { id := "s", workspaceId := "w", nodeId := "n" }
  chunks := [⟨.system, [104, 105], 1, none⟩]

/-- An append finds the first number taken and repairs the counters; another one stores its
chunk before the first tries again. -/
def repairedAppend : List AppendEvent :=
  [.invoke 0 ⟨.stdout, [97], none⟩ (), .invoke 1 ⟨.stdin, [98, 99], none⟩ (), .resume 0 (),
    .resume 0 (), .resume 0 (), .resume 1 (), .resume 0 ()]

theorem transcript_intact_repaired :
    TranscriptIntact (appendRun laggingRows repairedAppend).world ∧
      CountersSettled (appendRun laggingRows repairedAppend) := by
  have hrows : LagsBehind laggingRows := ⟨rfl, by decide⟩
  have hexact : laggingRows.session.lastChunkSeq = laggingRows.chunks.length →
      CountersExact laggingRows := fun hlast => absurd hlast (by decide)
  exact ⟨(transcript_intact hrows hexact).1, (transcript_intact hrows hexact).2 (by decide)⟩

/-! ## Two repairs at once -/

/-- Two appends find the counters behind.  The first reads the chunks; the second repairs the
counters and stores its chunk; then the first writes what it read. -/
def crossedRepairs : List AppendEvent :=
  [.invoke 0 ⟨.stdout, [97], none⟩ (), .invoke 1 ⟨.stdout, [98], none⟩ (), .resume 0 (),
    .resume 0 (), .resume 1 (), .resume 1 (), .resume 1 (), .resume 1 (), .resume 0 (),
    .resume 0 ()]

/-- **The counters are behind again**, with no call left to repair them. -/
theorem crossed_repairs_unsettled : ¬ CountersSettled (appendRun laggingRows crossedRepairs) := by
  intro h
  have hidle : ∀ p, (appendRun laggingRows crossedRepairs).pending p = none := by
    intro p
    match p with
    | 0 => decide
    | 1 => decide
    | p + 2 => rfl
  have hexact := h hidle (by decide)
  exact absurd hexact.lastChunkSeq (by decide)

end TerminalSessionsService
