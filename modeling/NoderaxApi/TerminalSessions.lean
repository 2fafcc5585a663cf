/-
# Terminal sessions

A row of `terminal_sessions` with its chunks, and what `TerminalSessionsService` writes to
them: the patches of `updateSessionMetadata`, the transaction of `appendChunkOnce`, and the
two statements of `reconcileTranscriptState`.

A payload is the list of bytes that its base64 text stands for.
-/
import NoderaxApi.Common

/-! ## Rows -/

/-- `TerminalSessionStatus`; `opened` is the stored text `open`. -/
inductive TerminalSessionStatus
  | pending
  | opened
  | closed
  | failed
  | terminating
  deriving DecidableEq, Repr

/-- `TerminalTranscriptDirection`. -/
inductive TerminalTranscriptDirection
  | stdin
  | stdout
  | stderr
  | system
  deriving DecidableEq, Repr

/-- A row of `terminal_sessions`. -/
structure TerminalSessionEntity where
  id : Uuid
  workspaceId : Uuid
  nodeId : Uuid
  createdByUserId : Option Uuid := none
  status : TerminalSessionStatus := .pending
  openedAt : Option ℤ := none
  closedAt : Option ℤ := none
  closedReason : Option String := none
  exitCode : Option ℤ := none
  cols : ℕ := 120
  rows : ℕ := 34
  transcriptBytes : ℕ := 0
  chunkCount : ℕ := 0
  lastChunkSeq : ℕ := 0
  deriving DecidableEq, Repr

/-- A row of `terminal_session_chunks`. -/
structure TerminalSessionChunkEntity where
  direction : TerminalTranscriptDirection
  payload : List UInt8
  seq : ℕ
  sourceTimestamp : Option ℤ := none
  deriving DecidableEq, Repr

namespace TerminalSessionsService

/-- `isTerminal`. -/
def isTerminal : TerminalSessionStatus → Bool
  | .closed | .failed => true
  | .pending | .opened | .terminating => false

/-! ## Metadata -/

/-- `TerminalSessionMetadataPatch`: the columns that are set. -/
structure TerminalSessionMetadataPatch where
  status : Option TerminalSessionStatus := none
  openedAt : Option (Option ℤ) := none
  closedAt : Option (Option ℤ) := none
  closedReason : Option (Option String) := none
  exitCode : Option (Option ℤ) := none
  cols : Option ℕ := none
  rows : Option ℕ := none
  deriving DecidableEq, Repr

/-- What `updateSessionMetadata` makes of the row, whatever its status, and of the copy it
was given. -/
def TerminalSessionMetadataPatch.apply (patch : TerminalSessionMetadataPatch)
    (session : TerminalSessionEntity) : TerminalSessionEntity :=
  { session with
    status := patch.status.getD session.status
    openedAt := patch.openedAt.getD session.openedAt
    closedAt := patch.closedAt.getD session.closedAt
    closedReason := patch.closedReason.getD session.closedReason
    exitCode := patch.exitCode.getD session.exitCode
    cols := patch.cols.getD session.cols
    rows := patch.rows.getD session.rows }

/-! ## Transcripts -/

/-- A session with its chunks, in the order in which they were inserted. -/
structure TerminalRows where
  session : TerminalSessionEntity
  chunks : List TerminalSessionChunkEntity := []
  deriving DecidableEq, Repr

/-- The decoded size of the chunks. -/
def storedBytes (chunks : List TerminalSessionChunkEntity) : ℕ :=
  (chunks.map (·.payload.length)).sum

/-- What a call of `appendChunk` stores. -/
structure ChunkInput where
  direction : TerminalTranscriptDirection
  payload : List UInt8
  sourceTimestamp : Option ℤ := none
  deriving DecidableEq, Repr

/-- The chunk of a call. -/
def ChunkInput.chunk (input : ChunkInput) (seq : ℕ) : TerminalSessionChunkEntity :=
  ⟨input.direction, input.payload, seq, input.sourceTimestamp⟩

/-- The transaction of `appendChunkOnce`: the UPDATE holds the row until the commit, so
nothing comes between it and the INSERT.  A sequence number that is taken violates the unique
index and rolls both back. -/
def appendChunkOnce (input : ChunkInput) (w : TerminalRows) :
    Option (TerminalSessionChunkEntity × TerminalRows) :=
  let nextSeq := w.session.lastChunkSeq + 1
  if nextSeq ∈ w.chunks.map (·.seq) then none
  else
    let chunk := input.chunk nextSeq
    some (chunk,
      { session := { w.session with
          lastChunkSeq := nextSeq
          chunkCount := w.session.chunkCount + 1
          transcriptBytes := w.session.transcriptBytes + input.payload.length }
        chunks := w.chunks ++ [chunk] })

/-- The aggregates that `reconcileTranscriptState` reads. -/
structure TranscriptState where
  lastChunkSeq : ℕ
  chunkCount : ℕ
  transcriptBytes : ℕ
  deriving DecidableEq, Repr

/-- `SELECT COALESCE(MAX(seq), 0), COUNT(*), COALESCE(SUM(OCTET_LENGTH(…)), 0)`. -/
def readTranscriptState (chunks : List TerminalSessionChunkEntity) : TranscriptState where
  lastChunkSeq := (chunks.map (·.seq)).foldr max 0
  chunkCount := chunks.length
  transcriptBytes := storedBytes chunks

/-- The UPDATE of `reconcileTranscriptState`. -/
def writeTranscriptState (state : TranscriptState) (session : TerminalSessionEntity) :
    TerminalSessionEntity :=
  { session with
    lastChunkSeq := state.lastChunkSeq
    chunkCount := state.chunkCount
    transcriptBytes := state.transcriptBytes }

/-! ## `appendChunk`, step by step -/

/-- Where a call of `appendChunk` stands. -/
inductive AppendStage
  | first
  | reconcileRead
  | reconcileWrite (state : TranscriptState)
  | retry
  deriving DecidableEq, Repr

/-- A pending call of `appendChunk`. -/
structure PendingAppend where
  input : ChunkInput
  stage : AppendStage := .first
  deriving DecidableEq, Repr

/-- What a step of `appendChunk` leaves: the call goes on, returns a chunk or throws. -/
inductive AppendResult
  | pending (call : PendingAppend)
  | returned (chunk : TerminalSessionChunkEntity)
  | threw

/-- The next step of `appendChunk`. -/
def appendStep (call : PendingAppend) (w : TerminalRows) : TerminalRows × AppendResult :=
  match call.stage with
  | .first =>
      match appendChunkOnce call.input w with
      | some (chunk, w') => (w', .returned chunk)
      | none => (w, .pending { call with stage := .reconcileRead })
  | .reconcileRead =>
      (w, .pending { call with stage := .reconcileWrite (readTranscriptState w.chunks) })
  | .reconcileWrite state =>
      ({ w with session := writeTranscriptState state w.session },
        .pending { call with stage := .retry })
  | .retry =>
      match appendChunkOnce call.input w with
      | some (chunk, w') => (w', .returned chunk)
      | none => (w, .threw)

/-- **What an append that succeeds stores.** -/
theorem appendChunkOnce_some {input : ChunkInput} {w w' : TerminalRows}
    {chunk : TerminalSessionChunkEntity} (h : appendChunkOnce input w = some (chunk, w')) :
    chunk = input.chunk (w.session.lastChunkSeq + 1) ∧
      w.session.lastChunkSeq + 1 ∉ w.chunks.map (·.seq) ∧
      w'.chunks = w.chunks ++ [chunk] ∧
      w'.session = { w.session with
        lastChunkSeq := w.session.lastChunkSeq + 1
        chunkCount := w.session.chunkCount + 1
        transcriptBytes := w.session.transcriptBytes + input.payload.length } := by
  unfold appendChunkOnce at h
  simp only at h
  split at h
  · exact absurd h (by simp)
  · next hfree =>
      obtain ⟨rfl, rfl⟩ := Prod.mk.inj (Option.some.inj h)
      exact ⟨rfl, hfree, rfl, rfl⟩

theorem storedBytes_append (chunks : List TerminalSessionChunkEntity)
    (chunk : TerminalSessionChunkEntity) :
    storedBytes (chunks ++ [chunk]) = storedBytes chunks + chunk.payload.length := by
  simp [storedBytes]

end TerminalSessionsService
