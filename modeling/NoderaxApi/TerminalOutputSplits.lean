/-
# Harmless output in payloads

`handleAgentOutput` decodes, sanitizes and encodes every payload on its own.  Output without an
introducer comes through unchanged exactly if its payloads begin and end between two characters: a
character that is cut comes back as two replacements or more.
-/
import NoderaxApi.TerminalSessionCalls
import NoderaxApi.Utf8Splits

namespace TerminalSessionsService

open AsyncPrograms Utf8

/-! ## What is stored -/

/-- What `handleAgentOutput` stores and publishes of a payload, on a transcript of so many bytes:
nothing if there is no room for it. -/
def storedPayload (transcriptBytes : ℕ) (payload : List UInt8) : Option (List UInt8) :=
  let sanitizedPayload := sanitizeTerminalOutputPayload payload
  if maxTranscriptBytes < transcriptBytes + sanitizedPayload.length then none
  else some sanitizedPayload

theorem handleAgentOutput_eq (id : Uuid) (input : OutputInput) :
    handleAgentOutput id input =
      .await (.findSession id) fun session =>
        if session.nodeId ≠ input.nodeId ∨ isTerminal session.status then .done
        else match storedPayload session.transcriptBytes input.payload with
          | none => stopOverflowing id
          | some stored =>
              appendChunk id .agentOutput ⟨input.direction, stored, input.timestamp⟩ fun _ =>
              .await .other fun _ => .done := by
  unfold handleAgentOutput storedPayload
  congr 1
  funext session
  simp only
  split
  · rfl
  · split
    · rfl
    · rfl

/-- What it stores of one payload after the other, if it has room for all of them. -/
def storedPayloads (transcriptBytes : ℕ) : List (List UInt8) → Option (List (List UInt8))
  | [] => some []
  | payload :: payloads => do
      let stored ← storedPayload transcriptBytes payload
      let rest ← storedPayloads (transcriptBytes + stored.length) payloads
      return stored :: rest

theorem storedPayloads_eq {transcriptBytes : ℕ} {payloads stored : List (List UInt8)}
    (h : storedPayloads transcriptBytes payloads = some stored) :
    stored = payloads.map sanitizeTerminalOutputPayload := by
  induction payloads generalizing transcriptBytes stored with
  | nil => exact (Option.some.inj h).symm
  | cons payload payloads ih =>
      obtain ⟨first, hfirst, h⟩ := Option.bind_eq_some_iff.mp h
      obtain ⟨rest, hrest, h⟩ := Option.bind_eq_some_iff.mp h
      obtain rfl := Option.some.inj h
      have hsanitized : first = sanitizeTerminalOutputPayload payload := by
        unfold storedPayload at hfirst
        simp only at hfirst
        split at hfirst
        · cases hfirst
        · exact (Option.some.inj hfirst).symm
      rw [hsanitized, ih hrest, List.map_cons]

/-! ## Replacements are harmless -/

theorem HasIntroducer.mono {part text : List Char} (h : HasIntroducer part)
    (hpart : part <:+: text) : HasIntroducer text := by
  obtain ⟨before, opening, after, rfl, hopening⟩ := h
  obtain ⟨front, back, rfl⟩ := hpart
  exact ⟨front ++ before, opening, after ++ back, by simp only [List.append_assoc], hopening⟩

/-- Replacements before a text complete no introducer. -/
theorem hasIntroducer_replacements_append (n : ℕ) (text : List Char) :
    HasIntroducer (List.replicate n replacement ++ text) ↔ HasIntroducer text := by
  induction n with
  | zero => exact Iff.rfl
  | succ n ih =>
      have height : isEightBit replacement = false := by decide
      have hesc : replacement ≠ esc := by decide
      rw [List.replicate_succ, List.cons_append, hasIntroducer_cons, height]
      simp only [Bool.false_eq_true, hesc, false_and, false_or]
      exact ih

/-- Nor do replacements after it. -/
theorem hasIntroducer_append_replacements {n : ℕ} {text : List Char}
    (h : HasIntroducer (text ++ List.replicate n replacement)) : HasIntroducer text := by
  induction text with
  | nil =>
      have hnone := hasIntroducer_replacements_append n []
      rw [List.append_nil] at hnone
      exact hnone.mp h
  | cons c text ih =>
      rw [List.cons_append, hasIntroducer_cons] at h
      rw [hasIntroducer_cons]
      rcases h with height | ⟨hesc, d, rest, hrest, hopens⟩ | htail
      · exact Or.inl height
      · cases text with
        | cons e text =>
            obtain ⟨rfl, -⟩ := List.cons_eq_cons.mp hrest
            exact Or.inr (Or.inl ⟨hesc, e, text, rfl, hopens⟩)
        | nil =>
            -- a replacement does not open a sequence
            have hmem : d ∈ List.replicate n replacement := by
              rw [List.nil_append] at hrest
              rw [hrest]
              exact List.mem_cons_self
            rw [(List.mem_replicate.mp hmem).2] at hopens
            exact absurd hopens (by decide)
      · exact Or.inr (Or.inr (ih htail))

/-- A piece of harmless output is left alone. -/
theorem sanitizeText_decode_piece {text : List Char} (hharmless : ¬ HasIntroducer text)
    {payloads : List (List UInt8)} (hsplit : payloads.flatten = encode text)
    {payload : List UInt8} (hpayload : payload ∈ payloads) :
    sanitizeText (decode payload) = decode payload := by
  obtain ⟨before, after, rfl⟩ := List.append_of_mem hpayload
  rw [List.flatten_append, List.flatten_cons] at hsplit
  obtain ⟨m, part, n, hdecode, hpart⟩ := decode_piece hsplit
  refine sanitizeText_of_no_introducer fun h => hharmless ?_
  rw [hdecode] at h
  have hfront := hasIntroducer_append_replacements h
  exact ((hasIntroducer_replacements_append m part).mp hfront).mono hpart

/-! ## When output comes through -/

/-- **What is stored of harmless output is the output exactly if the payloads begin and end between
two characters.** -/
theorem stored_eq_iff {text : List Char} (hharmless : ¬ HasIntroducer text)
    {payloads : List (List UInt8)} (hsplit : payloads.flatten = encode text)
    {transcriptBytes : ℕ} {stored : List (List UInt8)}
    (hstored : storedPayloads transcriptBytes payloads = some stored) :
    stored.flatten = encode text ↔ WholeCharacters payloads := by
  have hdecoded : stored = (payloads.map decode).map encode := by
    rw [storedPayloads_eq hstored, List.map_map]
    refine List.map_congr_left fun payload hpayload => ?_
    exact congrArg encode (sanitizeText_decode_piece hharmless hsplit hpayload)
  rw [hdecoded, ← encode_flatten]
  constructor
  · intro h
    have htext := encode_injective h
    rcases wholeCharacters_or_longer hsplit with ⟨hwhole, -⟩ | hlonger
    · exact hwhole
    · rw [htext] at hlonger
      exact absurd hlonger (Nat.lt_irrefl _)
  · rintro ⟨texts, rfl⟩
    rw [map_decode_encode, encode_flatten, hsplit]

/-- The bytes of a letter in two payloads come through, if they arrive together. -/
theorem stored_eq_whole :
    storedPayloads 0 [[0xC3, 0xA9], [0x0A]] = some [[0xC3, 0xA9], [0x0A]] ∧
    ([[0xC3, 0xA9], [0x0A]] : List (List UInt8)).flatten = encode ['é', '\n'] := by
  have hstored : storedPayloads 0 [[0xC3, 0xA9], [0x0A]] = some [[0xC3, 0xA9], [0x0A]] := by
    decide +kernel
  have hharmless : ¬ HasIntroducer ['é', '\n'] := ((plain_iff false _).mp (by decide)).1
  exact ⟨hstored, (stored_eq_iff hharmless (by decide) hstored).mpr ⟨[['é'], ['\n']], by decide⟩⟩

/-- **A letter that is cut does not come through.** -/
theorem stored_cut_letter :
    storedPayloads 0 [[0xC3], [0xA9]] = some [[0xEF, 0xBF, 0xBD], [0xEF, 0xBF, 0xBD]] ∧
    ([[0xC3], [0xA9]] : List (List UInt8)).flatten = encode ['é'] ∧
    ¬ HasIntroducer ['é'] ∧
    ([[0xEF, 0xBF, 0xBD], [0xEF, 0xBF, 0xBD]] : List (List UInt8)).flatten ≠ encode ['é'] := by
  have hharmless : ¬ HasIntroducer ['é'] := ((plain_iff false _).mp (by decide)).1
  exact ⟨by decide +kernel, by decide, hharmless, by decide⟩

end TerminalSessionsService
