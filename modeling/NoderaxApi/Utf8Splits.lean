/-
# Encoded texts in pieces

The bytes of a text are cut into pieces, and each piece is decoded on its own.  A piece that begins
and ends between two characters gives its part of the text.  A character that a cut goes through
gives at least two replacements: one for what stands before the first cut, and one for each byte
after it, as no byte but the first of a character begins one.
-/
import NoderaxApi.Utf8

namespace Utf8

/-! ## Bytes inside a character -/

/-- A byte that is not the first of its character. -/
def isContinuation (b : UInt8) : Bool := 0x80 ≤ b.toNat && b.toNat ≤ 0xBF

/-- The bytes of a character: one that begins it and owes the others. -/
structure CharBytes (lead : UInt8) (rest : List UInt8) : Prop where
  begins : isContinuation lead = false
  continues : ∀ b ∈ rest, isContinuation b = true
  owes : rest ≠ [] → ∃ p, first lead.toNat = ([], some p) ∧ p.needed = rest.length

theorem isContinuation_ofNat {n : ℕ} (hn : n < 256) :
    isContinuation (UInt8.ofNat n) = decide (0x80 ≤ n ∧ n ≤ 0xBF) := by
  rw [isContinuation, toNat_ofNat hn, Bool.decide_and]

theorem encodeChar_eq (c : Char) :
    ∃ lead rest, String.utf8EncodeChar c = lead :: rest ∧ CharBytes lead rest := by
  have hvalid := val_bounds c
  unfold String.utf8EncodeChar
  simp only
  generalize c.val.toNat = n at hvalid ⊢
  have htail : ∀ m, isContinuation (UInt8.ofNat (m % 0x40 + 0x80)) = true := by
    intro m
    rw [isContinuation_ofNat (by omega)]
    exact decide_eq_true ⟨by omega, by omega⟩
  have hnone : ∀ b ∈ ([] : List UInt8), isContinuation b = true := List.forall_mem_nil _
  have hlead : ∀ m, m < 256 → ¬ (0x80 ≤ m ∧ m ≤ 0xBF) →
      isContinuation (UInt8.ofNat m) = false := by
    intro m hm hrange
    rw [isContinuation_ofNat hm]
    exact decide_eq_false hrange
  by_cases h1 : n ≤ 0x7f
  · rw [if_pos h1]
    exact ⟨_, _, rfl, hlead n (by omega) (by omega), hnone, fun h => absurd rfl h⟩
  rw [if_neg h1]
  by_cases h2 : n ≤ 0x7ff
  · rw [if_pos h2]
    refine ⟨_, _, rfl, hlead _ (by omega) (by omega), List.forall_mem_cons.mpr ⟨htail _, hnone⟩,
      fun _ => ?_⟩
    rw [toNat_ofNat (by omega), first, if_neg (by omega), if_pos (by omega)]
    exact ⟨_, rfl, rfl⟩
  rw [if_neg h2]
  by_cases h3 : n ≤ 0xffff
  · rw [if_pos h3]
    refine ⟨_, _, rfl, hlead _ (by omega) (by omega), List.forall_mem_cons.mpr
      ⟨htail _, List.forall_mem_cons.mpr ⟨htail _, hnone⟩⟩, fun _ => ?_⟩
    rw [toNat_ofNat (by omega), first, if_neg (by omega), if_neg (by omega), if_pos (by omega)]
    exact ⟨_, rfl, rfl⟩
  rw [if_neg h3]
  refine ⟨_, _, rfl, hlead _ (by omega) (by omega), List.forall_mem_cons.mpr
    ⟨htail _, List.forall_mem_cons.mpr ⟨htail _, List.forall_mem_cons.mpr ⟨htail _, hnone⟩⟩⟩,
    fun _ => ?_⟩
  rw [toNat_ofNat (by omega), first, if_neg (by omega), if_neg (by omega), if_neg (by omega),
    if_pos (by omega)]
  exact ⟨_, rfl, rfl⟩

/-! ## What a cut character gives -/

/-- Between two characters, a byte that continues one is replaced. -/
theorem next_none_of_isContinuation {b : UInt8} (hb : isContinuation b = true) :
    next none b.toNat = ([replacement], none) := by
  have hrange : 0x80 ≤ b.toNat ∧ b.toNat ≤ 0xBF := by
    simpa [isContinuation] using hb
  show first b.toNat = _
  rw [first, if_neg (by omega), if_neg (by omega), if_neg (by omega), if_neg (by omega)]

/-- Bytes that continue no character are replaced one by one. -/
theorem decode_continuations_append {front : List UInt8}
    (h : ∀ b ∈ front, isContinuation b = true) (bytes : List UInt8) :
    decode (front ++ bytes) = List.replicate front.length replacement ++ decode bytes := by
  induction front with
  | nil => rfl
  | cons b front ih =>
      have ih := ih fun b' hb' => h b' (List.mem_cons_of_mem b hb')
      rw [List.cons_append, decode, decodeFrom_cons,
        next_none_of_isContinuation (h b List.mem_cons_self)]
      rw [decode] at ih
      rw [ih]
      rfl

theorem decode_continuations {bytes : List UInt8} (h : ∀ b ∈ bytes, isContinuation b = true) :
    decode bytes = List.replicate bytes.length replacement := by
  have hdecode := decode_continuations_append h []
  rw [List.append_nil] at hdecode
  exact hdecode.trans (List.append_nil _)

/-- A character that still owes bytes when they end is replaced, and so is each byte after one that
does not fit. -/
theorem decodeFrom_owing {p : Partial} {bytes : List UInt8}
    (h : ∀ b ∈ bytes, isContinuation b = true) (howes : bytes.length < p.needed) :
    ∃ n, decodeFrom (some p) bytes = List.replicate (n + 1) replacement := by
  induction bytes generalizing p with
  | nil => exact ⟨0, rfl⟩
  | cons b bytes ih =>
      have hrest : ∀ b' ∈ bytes, isContinuation b' = true :=
        fun b' hb' => h b' (List.mem_cons_of_mem b hb')
      rw [List.length_cons] at howes
      rw [decodeFrom_cons, next]
      by_cases hfits : p.lower ≤ b.toNat ∧ b.toNat ≤ p.upper
      · rw [if_pos hfits, if_neg (by omega)]
        exact ih hrest (by simp only; omega)
      · have hfirst : first b.toNat = ([replacement], none) :=
          next_none_of_isContinuation (h b List.mem_cons_self)
        have hdecode : decodeFrom none bytes = List.replicate bytes.length replacement :=
          decode_continuations hrest
        rw [if_neg hfits, hfirst]
        refine ⟨bytes.length + 1, ?_⟩
        rw [hdecode]
        rfl

/-- **A part of a character is replaced.** -/
theorem decode_part {c : Char} {part part' : List UInt8}
    (h : String.utf8EncodeChar c = part ++ part') (hpart : part ≠ []) (hpart' : part' ≠ []) :
    (∃ n, decode part = List.replicate (n + 1) replacement) ∧
      ∀ b ∈ part', isContinuation b = true := by
  obtain ⟨lead, rest, hchar, hbytes⟩ := encodeChar_eq c
  obtain ⟨b, front, rfl⟩ := List.exists_cons_of_ne_nil hpart
  rw [hchar, List.cons_append] at h
  obtain ⟨rfl, rfl⟩ := List.cons_eq_cons.mp h
  obtain ⟨p, hfirst, hneeded⟩ := hbytes.owes (by simp [hpart'])
  refine ⟨?_, fun b hb => hbytes.continues b (List.mem_append_right front hb)⟩
  have hshort : front.length < p.needed := by
    rw [hneeded, List.length_append]
    have := List.length_pos_of_ne_nil hpart'
    omega
  obtain ⟨n, hn⟩ :=
    decodeFrom_owing (fun b hb => hbytes.continues b (List.mem_append_left part' hb)) hshort
  refine ⟨n, ?_⟩
  rw [decode, decodeFrom_cons, next, hfirst]
  exact hn

/-! ## Where a piece of a text ends -/

theorem encode_cons (c : Char) (text : List Char) :
    encode (c :: text) = String.utf8EncodeChar c ++ encode text := List.flatMap_cons

/-- **The first piece of a text** ends between two characters or inside one. -/
theorem encode_eq_append {text : List Char} {bytes rest : List UInt8}
    (h : bytes ++ rest = encode text) :
    (∃ before after, text = before ++ after ∧ bytes = encode before ∧ rest = encode after) ∨
      ∃ before c after part part', text = before ++ c :: after ∧
        String.utf8EncodeChar c = part ++ part' ∧ part ≠ [] ∧ part' ≠ [] ∧
        bytes = encode before ++ part ∧ rest = part' ++ encode after := by
  induction text generalizing bytes with
  | nil =>
      obtain ⟨rfl, rfl⟩ := List.append_eq_nil_iff.mp h
      exact Or.inl ⟨[], [], rfl, rfl, rfl⟩
  | cons c text ih =>
      rw [encode_cons] at h
      rcases List.append_eq_append_iff.mp h with ⟨part', hchar, hrest⟩ | ⟨bytes', rfl, htext⟩
      · -- the piece ends inside the first character, or at one of its ends
        by_cases hempty : bytes = []
        · subst hempty
          rw [List.nil_append] at hchar
          exact Or.inl ⟨[], c :: text, rfl, rfl, by rw [hrest, encode_cons, hchar]⟩
        by_cases hend : part' = []
        · subst hend
          rw [List.append_nil] at hchar
          refine Or.inl ⟨[c], text, rfl, ?_, hrest⟩
          rw [encode_cons, hchar]
          exact (List.append_nil _).symm
        · exact Or.inr ⟨[], c, text, bytes, part', rfl, hchar, hempty, hend, rfl, hrest⟩
      · rcases ih htext.symm with ⟨before, after, rfl, rfl, hrest⟩ |
          ⟨before, d, after, part, part', rfl, hchar, hpart, hpart', rfl, hrest⟩
        · exact Or.inl ⟨c :: before, after, rfl, (encode_cons c before).symm, hrest⟩
        · refine Or.inr ⟨c :: before, d, after, part, part', rfl, hchar, hpart, hpart', ?_, hrest⟩
          rw [encode_cons, List.append_assoc]

/-- No text begins inside a character. -/
theorem encode_ne_continuation {text : List Char} {b : UInt8} {bytes : List UInt8}
    (hb : isContinuation b = true) : encode text ≠ b :: bytes := by
  intro h
  cases text with
  | nil => cases h
  | cons c text =>
      obtain ⟨lead, rest, hchar, hbytes⟩ := encodeChar_eq c
      rw [encode_cons, hchar, List.cons_append] at h
      rw [← (List.cons_eq_cons.mp h).1, hbytes.begins] at hb
      cases hb

/-- A character that can be cut is not ASCII. -/
theorem val_of_cut {c : Char} {part part' : List UInt8}
    (h : String.utf8EncodeChar c = part ++ part') (hpart : part ≠ []) (hpart' : part' ≠ []) :
    0x80 ≤ c.val.toNat := by
  by_contra hascii
  have hlength := congrArg List.length h
  rw [List.length_append, String.utf8EncodeChar, if_pos (by omega)] at hlength
  have := List.length_pos_of_ne_nil hpart
  have := List.length_pos_of_ne_nil hpart'
  simp only [List.length_singleton] at hlength
  omega

/-- Where a list in pieces is cut: inside a piece, or at one of its ends. -/
theorem exists_cut {α : Type*} {l : List (List α)} {a b : List α} (h : l.flatten = a ++ b)
    (hl : l ≠ []) :
    ∃ l₁ x y l₂, l = l₁ ++ (x ++ y) :: l₂ ∧ l₁.flatten ++ x = a ∧ y ++ l₂.flatten = b := by
  induction l generalizing a with
  | nil => exact absurd rfl hl
  | cons piece l ih =>
      rw [List.flatten_cons] at h
      rcases List.append_eq_append_iff.mp h with ⟨a', rfl, hrest⟩ | ⟨y, rfl, rfl⟩
      · by_cases hnil : l = []
        · -- the cut is at the end of the last piece
          subst hnil
          obtain ⟨rfl, rfl⟩ := List.append_eq_nil_iff.mp hrest.symm
          exact ⟨[], piece, [], [], by rw [List.append_nil]; rfl, (List.append_nil _).symm, rfl⟩
        · obtain ⟨l₁, x, y, l₂, rfl, rfl, rfl⟩ := ih hrest hnil
          exact ⟨piece :: l₁, x, y, l₂, rfl, List.append_assoc .., rfl⟩
      · exact ⟨[], a, y, l, rfl, rfl, rfl⟩

/-- The pieces begin and end between characters. -/
def WholeCharacters (pieces : List (List UInt8)) : Prop :=
  ∃ texts : List (List Char), pieces = texts.map encode

theorem map_decode_encode (texts : List (List Char)) :
    (texts.map encode).map decode = texts := by
  rw [List.map_map]
  exact (List.map_congr_left fun text _ => decode_encode text).trans (List.map_id texts)

theorem encode_injective {a b : List Char} (h : encode a = encode b) : a = b := by
  rw [← decode_encode a, h, decode_encode]

/-- **Pieces of a text are whole, or there is a first that ends inside a character.** -/
theorem wholeCharacters_or_cut {pieces : List (List UInt8)} {text : List Char}
    (h : pieces.flatten = encode text) :
    WholeCharacters pieces ∨
      ∃ (texts : List (List Char)) (before : List Char) (c : Char) (after : List Char)
        (part part' : List UInt8) (rest : List (List UInt8)),
        pieces = texts.map encode ++ (encode before ++ part) :: rest ∧
        text = texts.flatten ++ before ++ c :: after ∧
        String.utf8EncodeChar c = part ++ part' ∧ part ≠ [] ∧ part' ≠ [] ∧
        rest.flatten = part' ++ encode after := by
  induction pieces generalizing text with
  | nil => exact Or.inl ⟨[], rfl⟩
  | cons piece pieces ih =>
      rw [List.flatten_cons] at h
      rcases encode_eq_append h with ⟨before, after, rfl, rfl, hrest⟩ |
        ⟨before, c, after, part, part', rfl, hchar, hpart, hpart', rfl, hrest⟩
      · rcases ih hrest with ⟨texts, rfl⟩ |
          ⟨texts, before', c, after', part, part', rest, rfl, rfl, hchar, hpart, hpart', hrest'⟩
        · exact Or.inl ⟨before :: texts, rfl⟩
        · refine Or.inr ⟨before :: texts, before', c, after', part, part', rest, rfl, ?_, hchar,
            hpart, hpart', hrest'⟩
          rw [List.flatten_cons, List.append_assoc, List.append_assoc, List.append_assoc]
      · exact Or.inr ⟨[], before, c, after, part, part', pieces, rfl, rfl, hchar, hpart, hpart',
          hrest⟩

/-- Pieces, of which the first begins with the rest of a character that is cut. -/
theorem decode_rest {front pieces : List (List UInt8)} {piece piece' : List UInt8}
    (h : ∀ b ∈ front.flatten ++ piece, isContinuation b = true) :
    ((front ++ (piece ++ piece') :: pieces).map decode).flatten =
      List.replicate (front.flatten ++ piece).length replacement ++
        ((piece' :: pieces).map decode).flatten := by
  induction front with
  | nil =>
      rw [List.nil_append, List.map_cons, List.flatten_cons,
        decode_continuations_append fun b hb => h b (List.mem_append_right _ hb), List.append_assoc]
      rfl
  | cons first front ih =>
      rw [List.flatten_cons, List.append_assoc] at h
      have ih := ih fun b hb => h b (List.mem_append_right _ hb)
      have hlength : (first ++ (front.flatten ++ piece)).length =
          first.length + (front.flatten ++ piece).length := List.length_append
      rw [List.cons_append, List.map_cons, List.flatten_cons, ih,
        decode_continuations fun b hb => h b (List.mem_append_left _ hb), List.flatten_cons,
        List.append_assoc first, hlength, List.replicate_add, List.append_assoc]

/-- **Pieces are decoded to their text, or to a longer one.** -/
theorem wholeCharacters_or_longer {pieces : List (List UInt8)} {text : List Char}
    (h : pieces.flatten = encode text) :
    WholeCharacters pieces ∧ (pieces.map decode).flatten = text ∨
      text.length < (pieces.map decode).flatten.length := by
  induction hlength : text.length using Nat.strong_induction_on generalizing pieces text with
  | _ n ih =>
      rcases wholeCharacters_or_cut h with ⟨texts, rfl⟩ |
        ⟨texts, before, c, after, part, part', rest, rfl, rfl, hchar, hpart, hpart', hrest⟩
      · refine Or.inl ⟨⟨texts, rfl⟩, ?_⟩
        rw [map_decode_encode]
        exact encode_injective (by rw [encode_flatten, h])
      · have hne : rest ≠ [] := by
          rintro rfl
          exact hpart' (List.append_eq_nil_iff.mp hrest.symm).1
        obtain ⟨front, piece, piece', back, rfl, hfront, hback⟩ := exists_cut hrest hne
        obtain ⟨⟨k, hdecode⟩, hcontinuation⟩ := decode_part hchar hpart hpart'
        have hpart'length := List.length_pos_of_ne_nil hpart'
        rw [← hfront] at hcontinuation hpart'length
        -- what stands after the cut character is not shorter than its text
        have hafter : after.length ≤ ((piece' :: back).map decode).flatten.length := by
          have hpieces : (piece' :: back).flatten = encode after := hback
          rcases ih after.length (by simp at hlength; omega) hpieces rfl with ⟨-, htext⟩ | hlonger
          · rw [htext]
          · exact Nat.le_of_lt hlonger
        refine Or.inr ?_
        rw [List.map_append, List.map_cons, map_decode_encode, List.flatten_append,
          List.flatten_cons, decode_encode_append, hdecode, decode_rest hcontinuation]
        simp only [List.length_append, List.length_replicate, List.length_cons] at hlength hafter ⊢
        simp only [List.length_append] at hpart'length
        omega

/-- **What a piece of a text gives**: a part of the text, with replacements around it. -/
theorem decode_piece {before piece after : List UInt8} {text : List Char}
    (h : before ++ (piece ++ after) = encode text) :
    ∃ m part n, decode piece =
      List.replicate m replacement ++ part ++ List.replicate n replacement ∧ part <:+: text := by
  -- a piece that begins between two characters
  have hprefix : ∀ {piece after : List UInt8} {text : List Char}, piece ++ after = encode text →
      ∃ part n, decode piece = part ++ List.replicate n replacement ∧ part <+: text := by
    intro piece after text h
    rcases encode_eq_append h with ⟨first, rest, rfl, rfl, -⟩ |
      ⟨first, c, rest, part, part', rfl, hchar, hpart, hpart', rfl, -⟩
    · exact ⟨first, 0, by rw [decode_encode]; exact (List.append_nil _).symm,
        List.prefix_append first rest⟩
    · obtain ⟨⟨k, hdecode⟩, -⟩ := decode_part hchar hpart hpart'
      exact ⟨first, k + 1, by rw [decode_encode_append, hdecode],
        List.prefix_append first (c :: rest)⟩
  rcases encode_eq_append h with ⟨first, rest, rfl, -, hrest⟩ |
    ⟨first, c, rest, part, part', rfl, hchar, hpart, hpart', -, hrest⟩
  · obtain ⟨part, n, hdecode, hpart⟩ := hprefix hrest
    exact ⟨0, part, n, hdecode, hpart.isInfix.trans (List.suffix_append first rest).isInfix⟩
  · obtain ⟨-, hcontinuation⟩ := decode_part hchar hpart hpart'
    rcases List.append_eq_append_iff.mp hrest with ⟨tail, rfl, -⟩ | ⟨piece', rfl, hpiece⟩
    · have hdecode := decode_continuations fun b hb =>
        hcontinuation b (List.mem_append_left tail hb)
      exact ⟨piece.length, [], 0, by rw [hdecode]; simp, List.nil_infix⟩
    · obtain ⟨kept, n, hdecode, hkept⟩ := hprefix hpiece.symm
      refine ⟨part'.length, kept, n, ?_, hkept.isInfix.trans ?_⟩
      · rw [decode_continuations_append hcontinuation, hdecode, List.append_assoc]
      · exact ⟨first ++ [c], [], by simp⟩

end Utf8
