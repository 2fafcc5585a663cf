/-
# Labels of locations

`normalizeLocationLabel` trims a text, makes a blank of every run of white space and keeps the first
80 code units.  Reading its result again changes nothing, but for one case: a blank that ends the 80
code units is trimmed the second time.
-/
import Mathlib.Data.List.Chain
import NoderaxApi.NodeLocations

namespace NodeLocation

open TasksService

/-! ## Collapsed white space -/

/-- The white space of a text is single blanks. -/
structure Collapsed (l : List Char) : Prop where
  blank : ∀ c ∈ l, isJsWhitespace c = true → c = ' '
  single : l.IsChain fun a b => isJsWhitespace a = true → isJsWhitespace b = false

theorem Collapsed.nil : Collapsed [] := ⟨fun _ h => absurd h List.not_mem_nil, List.isChain_nil⟩

theorem Collapsed.append_left {a b : List Char} (h : Collapsed (a ++ b)) : Collapsed a :=
  ⟨fun c hc => h.blank c (List.mem_append_left b hc), h.single.left_of_append⟩

theorem Collapsed.append_right {a b : List Char} (h : Collapsed (a ++ b)) : Collapsed b :=
  ⟨fun c hc => h.blank c (List.mem_append_right a hc), h.single.right_of_append⟩

theorem Collapsed.concat {l : List Char} (h : Collapsed l) {c : Char}
    (hc : isJsWhitespace c = false) : Collapsed (l ++ [c]) where
  blank := by
    intro d hd hblank
    rcases List.mem_append.mp hd with hd | hd
    · exact h.blank d hd hblank
    · rw [List.mem_singleton.mp hd, hc] at hblank
      exact absurd hblank Bool.false_ne_true
  single := by
    rw [List.isChain_append]
    refine ⟨h.single, List.isChain_singleton c, fun a _ d hd _ => ?_⟩
    rwa [← Option.some_inj.mp hd]

theorem Collapsed.cons {l : List Char} (h : Collapsed l) {c : Char}
    (hblank : isJsWhitespace c = true → c = ' ')
    (hhead : isJsWhitespace c = true → ∀ d ∈ l.head?, isJsWhitespace d = false) :
    Collapsed (c :: l) where
  blank := by
    intro d hd
    rcases List.mem_cons.mp hd with rfl | hd
    · exact hblank
    · exact h.blank d hd
  single := by
    rw [List.isChain_cons]
    exact ⟨fun d hd hc => hhead hc d hd, h.single⟩

theorem collapsed_collapseWhitespace (l : List Char) : Collapsed (collapseWhitespace l) := by
  induction l with
  | nil => exact Collapsed.nil
  | cons c l ih =>
      unfold collapseWhitespace
      split
      next hc =>
        split
        next rest heq => rwa [heq] at ih
        next hother =>
          refine ih.cons (fun _ => rfl) fun _ d hd => ?_
          -- The rest begins with no blank, and has no other white space.
          by_contra hblank
          have hmem := List.mem_of_mem_head? hd
          have hd' := ih.blank d hmem (Bool.not_eq_false _ ▸ hblank)
          obtain ⟨rest, hrest⟩ := List.head?_eq_some_iff.mp hd
          exact hother rest (by rw [hrest, hd'])
      next hc => exact ih.cons (fun h => absurd h hc) fun h => absurd h hc

theorem collapseWhitespace_of_collapsed {l : List Char} (h : Collapsed l) :
    collapseWhitespace l = l := by
  induction l with
  | nil => rfl
  | cons c l ih =>
      have hrest := ih (Collapsed.append_right (a := [c]) h)
      unfold collapseWhitespace
      rw [hrest]
      split
      next hc =>
        have hblank := h.blank c List.mem_cons_self hc
        split
        next rest heq =>
          have hnext := (List.isChain_cons.mp h.single).1 ' ' (by rfl) hc
          rw [isJsWhitespace_blank] at hnext
          exact absurd hnext.symm Bool.false_ne_true
        next => rw [hblank]
      next => rfl

theorem collapseWhitespace_cons {c : Char} (hc : isJsWhitespace c = false) (l : List Char) :
    collapseWhitespace (c :: l) = c :: collapseWhitespace l :=
  if_neg (by rw [hc]; exact Bool.false_ne_true)

/-- A text that begins or ends with no white space still does when it is collapsed. -/
theorem head_collapseWhitespace {l : List Char} (h : ∀ c ∈ l.head?, isJsWhitespace c = false) :
    ∀ c ∈ (collapseWhitespace l).head?, isJsWhitespace c = false := by
  cases l with
  | nil => exact h
  | cons c l =>
      rw [collapseWhitespace_cons (h c rfl)]
      exact h

theorem collapseWhitespace_concat (l : List Char) {c : Char} (hc : isJsWhitespace c = false) :
    collapseWhitespace (l ++ [c]) = collapseWhitespace l ++ [c] := by
  have hother : c ≠ ' ' := fun h => by
    rw [h, isJsWhitespace_blank] at hc
    exact absurd hc.symm Bool.false_ne_true
  induction l with
  | nil => exact collapseWhitespace_cons hc []
  | cons d l ih =>
      rw [List.cons_append, collapseWhitespace, collapseWhitespace, ih]
      split
      · cases hl : collapseWhitespace l with
        | nil =>
            rw [List.nil_append]
            split
            next rest heq => exact absurd (List.cons.inj heq).1 hother
            next => rfl
        | cons e rest =>
            rw [List.cons_append]
            by_cases he : e = ' '
            · subst he
              rfl
            · split
              next rest' heq => exact absurd (List.cons.inj heq).1 he
              next =>
                split
                next rest' heq => exact absurd (List.cons.inj heq).1 he
                next => rfl
      · rfl

theorem last_collapseWhitespace {l : List Char} (h : ∀ c ∈ l.getLast?, isJsWhitespace c = false) :
    ∀ c ∈ (collapseWhitespace l).getLast?, isJsWhitespace c = false := by
  rcases List.eq_nil_or_concat l with rfl | ⟨l, d, rfl⟩
  · exact h
  · rw [List.concat_eq_append] at h ⊢
    have hd := h d List.getLast?_concat
    intro c hc
    rw [collapseWhitespace_concat l hd, List.getLast?_concat] at hc
    rwa [← Option.some_inj.mp hc]

/-! ## The first code units -/

/-- The code units of a text. -/
def units (l : List Char) : ℕ := (l.map utf16Units).sum

theorem units_append (a b : List Char) : units (a ++ b) = units a + units b := by
  rw [units, List.map_append, List.sum_append, units, units]

theorem units_cons (c : Char) (l : List Char) : units (c :: l) = utf16Units c + units l := by
  rw [units, List.map_cons, List.sum_cons, units]

theorem utf16Units_pos (c : Char) : 0 < utf16Units c := by
  unfold utf16Units
  split <;> decide

theorem takeUtf16_zero (l : List Char) : takeUtf16 0 l = [] := by
  cases l with
  | nil => rw [takeUtf16]
  | cons c l => rw [takeUtf16]; exact List.cons_ne_nil c l

theorem takeUtf16_cons {n : ℕ} {c : Char} (h : utf16Units c ≤ n) (l : List Char) :
    takeUtf16 n (c :: l) = c :: takeUtf16 (n - utf16Units c) l := by
  have hpos := utf16Units_pos c
  obtain ⟨n, rfl⟩ := Nat.exists_eq_succ_of_ne_zero (show n ≠ 0 by omega)
  rw [takeUtf16, if_pos h]

/-- A surrogate pair is cut. -/
theorem takeUtf16_cut {n : ℕ} {c : Char} (hpos : 0 < n) (h : n < utf16Units c) (l : List Char) :
    takeUtf16 n (c :: l) = ['\uFFFD'] := by
  obtain ⟨n, rfl⟩ := Nat.exists_eq_succ_of_ne_zero hpos.ne'
  rw [takeUtf16, if_neg (by omega)]

theorem takeUtf16_append {n : ℕ} {a : List Char} (h : units a ≤ n) (b : List Char) :
    takeUtf16 n (a ++ b) = a ++ takeUtf16 (n - units a) b := by
  induction a generalizing n with
  | nil => rfl
  | cons c a ih =>
      rw [units_cons] at h ⊢
      rw [List.cons_append, takeUtf16_cons (by omega), ih (by omega), Nat.sub_sub,
        List.cons_append]

theorem takeUtf16_of_units_le {n : ℕ} {l : List Char} (h : units l ≤ n) : takeUtf16 n l = l := by
  have happend := takeUtf16_append h []
  rwa [List.append_nil, takeUtf16, List.append_nil] at happend

/-- What is kept is the beginning of the text, where a cut surrogate pair leaves a replacement
character at the end. -/
theorem takeUtf16_cases (n : ℕ) (l : List Char) : ∃ a b, l = a ++ b ∧
    ((takeUtf16 n l = a ∧ units a ≤ n ∧ (b = [] ∨ units a = n)) ∨
      (takeUtf16 n l = a ++ ['\uFFFD'] ∧ units a + 1 ≤ n ∧ b ≠ [])) := by
  induction l generalizing n with
  | nil => exact ⟨[], [], rfl, .inl ⟨by rw [takeUtf16], Nat.zero_le n, .inl rfl⟩⟩
  | cons c l ih =>
      by_cases hfits : utf16Units c ≤ n
      · obtain ⟨a, b, hl, h⟩ := ih (n - utf16Units c)
        refine ⟨c :: a, b, by rw [hl, List.cons_append], ?_⟩
        rw [takeUtf16_cons hfits, units_cons]
        rcases h with ⟨htake, hle, hend⟩ | ⟨htake, hle, hne⟩
        · refine .inl ⟨by rw [htake], by omega, hend.imp_right fun h => ?_⟩
          omega
        · exact .inr ⟨by rw [htake, List.cons_append], by omega, hne⟩
      · refine ⟨[], c :: l, rfl, ?_⟩
        rcases Nat.eq_zero_or_pos n with rfl | hpos
        · exact .inl ⟨takeUtf16_zero _, Nat.le_refl 0, .inr rfl⟩
        · have hcut := takeUtf16_cut hpos (not_le.mp hfits) l
          refine .inr ⟨hcut, ?_, List.cons_ne_nil c l⟩
          rw [units, List.map_nil, List.sum_nil]
          omega

/-! ## Labels -/

/-- What `normalizeLocationLabel` answers. -/
structure IsLabel (label : String) : Prop where
  ne_empty : label ≠ ""
  head : ∀ c ∈ label.toList.head?, isJsWhitespace c = false
  collapsed : Collapsed label.toList
  fits : units label.toList ≤ 80

/-- The text before it is cut: trimmed and collapsed. -/
def fullLabel (text : String) : List Char := collapseWhitespace (jsTrim text).toList

/-- The 80th code unit of the text is a blank, once it is trimmed and collapsed. -/
def CutAtBlank (value : Option String) : Prop :=
  ∃ text ∈ value, ∃ before after, fullLabel text = before ++ ' ' :: after ∧ units before = 79

theorem head_fullLabel (text : String) :
    ∀ c ∈ (fullLabel text).head?, isJsWhitespace c = false := by
  refine head_collapseWhitespace ?_
  rw [toList_jsTrim]
  exact Words.head_trim _

theorem last_fullLabel (text : String) :
    ∀ c ∈ (fullLabel text).getLast?, isJsWhitespace c = false := by
  refine last_collapseWhitespace ?_
  rw [toList_jsTrim]
  exact Words.last_trim _

theorem normalizeLocationLabel_some (text : String) : normalizeLocationLabel (some text) =
    if fullLabel text = [] then none else some (String.ofList (takeUtf16 80 (fullLabel text))) := by
  have hunfold : normalizeLocationLabel (some text) =
      ((some (String.ofList (fullLabel text))).filter (· ≠ "")).map (jsSliceTo 80) := rfl
  rw [hunfold]
  by_cases hnil : fullLabel text = []
  · rw [if_pos hnil, hnil]
    rfl
  · have hne : String.ofList (fullLabel text) ≠ "" :=
      fun h => hnil (String.ofList_eq_empty_iff.mp h)
    rw [if_neg hnil, Option.filter_some, if_pos (decide_eq_true hne), Option.map_some, jsSliceTo,
      String.toList_ofList]

theorem normalizeLocationLabel_eq_some {value : Option String} {label : String}
    (h : normalizeLocationLabel value = some label) : ∃ text, value = some text ∧
      label.toList = takeUtf16 80 (fullLabel text) := by
  cases value with
  | none => exact absurd h (Option.some_ne_none label).symm
  | some text =>
      rw [normalizeLocationLabel_some] at h
      split at h
      next => exact absurd h (Option.some_ne_none label).symm
      next =>
        refine ⟨text, rfl, ?_⟩
        rw [← Option.some_inj.mp h, String.toList_ofList]

theorem head_concat {a : List Char} {r : Char} (ha : ∀ c ∈ a.head?, isJsWhitespace c = false)
    (hr : isJsWhitespace r = false) : ∀ c ∈ (a ++ [r]).head?, isJsWhitespace c = false := by
  cases a with
  | nil =>
      intro c hc
      rwa [← Option.some_inj.mp hc]
  | cons d a => exact ha

theorem isLabel_of_normalizeLocationLabel {value : Option String} {label : String}
    (h : normalizeLocationLabel value = some label) : IsLabel label := by
  obtain ⟨text, -, hlabel⟩ := normalizeLocationLabel_eq_some h
  have hne := normalizeLocationLabel_ne_empty h
  have hhead := head_fullLabel text
  have hcollapsed : Collapsed (fullLabel text) := collapsed_collapseWhitespace _
  obtain ⟨a, b, hfull, htake⟩ := takeUtf16_cases 80 (fullLabel text)
  rw [hfull] at hhead hcollapsed
  have ha : ∀ c ∈ a.head?, isJsWhitespace c = false :=
    fun c hc => hhead c (List.mem_head?_append_of_mem_head? hc)
  rcases htake with ⟨htake, hle, -⟩ | ⟨htake, hle, -⟩
  · rw [htake] at hlabel
    exact ⟨hne, hlabel ▸ ha, hlabel ▸ hcollapsed.append_left, hlabel ▸ hle⟩
  · rw [htake] at hlabel
    have hreplacement : isJsWhitespace '\uFFFD' = false := by decide
    have hfits : units (a ++ ['\uFFFD']) ≤ 80 := by
      rw [units_append]
      exact hle
    exact ⟨hne, hlabel ▸ head_concat ha hreplacement,
      hlabel ▸ hcollapsed.append_left.concat hreplacement, hlabel ▸ hfits⟩

/-- A text that begins with no white space is not blank. -/
theorem jsTrim_ne_empty {text : String} (hne : text ≠ "")
    (hhead : ∀ c ∈ text.toList.head?, isJsWhitespace c = false) : jsTrim text ≠ "" := by
  intro hempty
  obtain ⟨before, after, hsplit, hbefore, hafter⟩ :=
    Words.eq_append_trim isJsWhitespace text.toList
  rw [← toList_jsTrim, hempty, String.toList_empty, List.append_nil] at hsplit
  obtain ⟨c, rest, htext⟩ := List.exists_cons_of_ne_nil (mt String.toList_eq_nil_iff.mp hne)
  have hmem : c ∈ before ++ after := by
    rw [← hsplit, htext]
    exact List.mem_cons_self
  have hblank := (List.mem_append.mp hmem).elim (hbefore c) (hafter c)
  rw [hhead c (by rw [htext]; rfl)] at hblank
  exact absurd hblank Bool.false_ne_true

/-- A label that is read again is trimmed, and nothing else. -/
theorem IsLabel.normalizeLocationLabel {label : String} (h : IsLabel label) :
    normalizeLocationLabel (some label) = some (jsTrim label) := by
  obtain ⟨before, after, hsplit, -, -⟩ := Words.eq_append_trim isJsWhitespace label.toList
  have hcollapsed : Collapsed (jsTrim label).toList := by
    have hwhole := h.collapsed
    rw [hsplit] at hwhole
    rw [toList_jsTrim]
    exact hwhole.append_left.append_right
  have hfits : units (jsTrim label).toList ≤ 80 := by
    have hwhole := h.fits
    rw [hsplit, units_append, units_append] at hwhole
    rw [toList_jsTrim]
    omega
  have hfull : fullLabel label = (jsTrim label).toList :=
    collapseWhitespace_of_collapsed hcollapsed
  have hne : (jsTrim label).toList ≠ [] :=
    mt String.toList_eq_nil_iff.mp (jsTrim_ne_empty h.ne_empty h.head)
  rw [normalizeLocationLabel_some, hfull, if_neg hne, takeUtf16_of_units_le hfits,
    String.ofList_toList]

/-- The last character of a label is white space only if the label is cut there. -/
theorem last_blank_iff {text : String} {label : String}
    (hlabel : label.toList = takeUtf16 80 (fullLabel text)) :
    (∃ c ∈ label.toList.getLast?, isJsWhitespace c = true) ↔ CutAtBlank (some text) := by
  constructor
  · rintro ⟨c, hlast, hc⟩
    obtain ⟨rest, hrest⟩ := List.getLast?_eq_some_iff.mp hlast
    obtain ⟨a, b, hfull, ⟨htake, -, hend⟩ | ⟨htake, -, -⟩⟩ := takeUtf16_cases 80 (fullLabel text)
    · obtain rfl : a = rest ++ [c] := htake.symm.trans (hlabel.symm.trans hrest)
      have hcollapsed : Collapsed (fullLabel text) := collapsed_collapseWhitespace _
      rw [hfull] at hcollapsed
      have hblank : c = ' ' :=
        hcollapsed.append_left.blank c (List.mem_append_right _ (List.mem_singleton_self c)) hc
      refine ⟨text, rfl, rest, b, by rw [hfull, hblank, List.append_assoc]; rfl, ?_⟩
      rcases hend with rfl | hend
      · have hfullLast : c ∈ (fullLabel text).getLast? := by
          rw [hfull, List.append_nil, List.getLast?_concat]
          rfl
        have hnot := last_fullLabel text c hfullLast
        rw [hc] at hnot
        exact absurd hnot.symm Bool.false_ne_true
      · rw [units_append, hblank] at hend
        have hone : units [' '] = 1 := by decide
        omega
    · have hreplacement : isJsWhitespace '\uFFFD' = false := by decide
      obtain ⟨-, hsame⟩ := List.append_inj' (htake.symm.trans (hlabel.symm.trans hrest)) rfl
      rw [List.singleton_inj.mp hsame, hc] at hreplacement
      exact absurd hreplacement.symm Bool.false_ne_true
  · rintro ⟨text', htext, before, after, hfull, hunits⟩
    obtain rfl : text = text' := Option.some_inj.mp htext
    have htake : takeUtf16 80 (fullLabel text) = before ++ [' '] := by
      rw [hfull, takeUtf16_append (by omega), hunits, takeUtf16_cons (by decide)]
      exact congrArg (fun rest => before ++ ' ' :: rest) (takeUtf16_zero after)
    refine ⟨' ', ?_, isJsWhitespace_blank⟩
    rw [hlabel, htake, List.getLast?_concat]
    rfl

/-- **A label is a fixed point** unless it is cut at a blank. -/
theorem normalizeLocationLabel_again_iff (value : Option String) :
    normalizeLocationLabel (normalizeLocationLabel value) = normalizeLocationLabel value ↔
      ¬ CutAtBlank value := by
  cases hvalue : normalizeLocationLabel value with
  | none =>
      refine ⟨fun _ => ?_, fun _ => rfl⟩
      rintro ⟨text, htext, before, after, hfull, -⟩
      rw [Option.mem_def.mp htext, normalizeLocationLabel_some, if_neg] at hvalue
      · exact absurd hvalue (Option.some_ne_none _)
      · rw [hfull]
        exact List.append_ne_nil_of_right_ne_nil _ (List.cons_ne_nil _ _)
  | some label =>
      have hislabel := isLabel_of_normalizeLocationLabel hvalue
      obtain ⟨text, rfl, hlabel⟩ := normalizeLocationLabel_eq_some hvalue
      rw [hislabel.normalizeLocationLabel, ← last_blank_iff hlabel, Option.some_inj]
      constructor
      · rintro htrim ⟨c, hlast, hc⟩
        rw [← htrim, toList_jsTrim] at hlast
        rw [Words.last_trim _ c hlast] at hc
        exact absurd hc Bool.false_ne_true
      · intro hlast
        apply String.toList_injective
        rw [toList_jsTrim]
        refine Words.trim_of_ends hislabel.head fun c hc => ?_
        by_contra hblank
        exact hlast ⟨c, hc, Bool.not_eq_false _ ▸ hblank⟩

end NodeLocation
