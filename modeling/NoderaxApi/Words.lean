/-
# Words and lines

The words of a list are its nonempty parts between separators.  They do not change when leading
and trailing separators go, or when another predicate marks the same elements as separators.  A
list of lines, each of them a list of words, has the same words as the list split at both kinds of
separators, and more than one line with a word exactly if a line separator has a word on either
side.
-/
import Mathlib.Data.List.Induction
import Mathlib.Data.List.TakeWhile
import Mathlib.Tactic.Push

namespace Words

variable {α : Type*}

/-! ## Words -/

/-- The nonempty parts of a list between its separators. -/
def wordsOf (sep : α → Bool) (l : List α) : List (List α) :=
  (l.splitOnP sep).filter fun word => !word.isEmpty

variable {sep : α → Bool}

theorem wordsOf_append_cons (a b : List α) {x : α} (hx : sep x = true) :
    wordsOf sep (a ++ x :: b) = wordsOf sep a ++ wordsOf sep b := by
  unfold wordsOf
  rw [List.splitOnP_append_cons a b hx, List.filter_append]

theorem wordsOf_cons_sep {x : α} (hx : sep x = true) (l : List α) :
    wordsOf sep (x :: l) = wordsOf sep l :=
  wordsOf_append_cons [] l hx

theorem head_splitOnP_cons_sep {x : α} (hx : sep x = true) (l : List α) :
    ((x :: l).splitOnP sep).head? = some [] := by
  rw [List.splitOnP_cons_eq_if_modifyHead, if_pos hx]
  rfl

/-- How a word goes on depends on the part before the first separator and on the words. -/
theorem cons_congr {x : α} (hx : sep x = false) {l l' : List α}
    (hhead : (l.splitOnP sep).head? = (l'.splitOnP sep).head?)
    (hwords : wordsOf sep l = wordsOf sep l') :
    ((x :: l).splitOnP sep).head? = ((x :: l').splitOnP sep).head? ∧
      wordsOf sep (x :: l) = wordsOf sep (x :: l') := by
  obtain ⟨first, parts, hsplit⟩ := List.exists_cons_of_ne_nil (List.splitOnP_ne_nil sep l)
  obtain ⟨first', parts', hsplit'⟩ := List.exists_cons_of_ne_nil (List.splitOnP_ne_nil sep l')
  unfold wordsOf at hwords ⊢
  rw [hsplit, hsplit'] at hhead hwords
  obtain rfl := Option.some.inj hhead
  have hparts : parts.filter (fun word => !word.isEmpty)
      = parts'.filter fun word => !word.isEmpty := by
    rw [List.filter_cons, List.filter_cons] at hwords
    split at hwords
    · exact (List.cons.inj hwords).2
    · exact hwords
  rw [List.splitOnP_cons_eq_if_modifyHead, List.splitOnP_cons_eq_if_modifyHead, hx, hsplit,
    hsplit']
  exact ⟨rfl, congrArg ((x :: first) :: ·) hparts⟩

/-- All the elements but the separators. -/
theorem flatten_wordsOf (l : List α) :
    (wordsOf sep l).flatten = l.filter fun x => !sep x := by
  unfold wordsOf
  rw [List.flatten_filter_not_isEmpty]
  induction l with
  | nil => rfl
  | cons x l ih =>
      obtain ⟨first, parts, hsplit⟩ := List.exists_cons_of_ne_nil (List.splitOnP_ne_nil sep l)
      rw [List.splitOnP_cons_eq_if_modifyHead, List.filter_cons]
      rw [hsplit] at ih
      cases hx : sep x with
      | true =>
          rw [hsplit]
          exact ih
      | false =>
          rw [hsplit]
          exact congrArg (x :: ·) ih

theorem wordsOf_eq_nil_iff {l : List α} : wordsOf sep l = [] ↔ ∀ x ∈ l, sep x = true := by
  constructor
  · intro h x hx
    have hflat : (wordsOf sep l).flatten = l.filter fun x => !sep x := flatten_wordsOf l
    rw [h, eq_comm, List.flatten_nil, List.filter_eq_nil_iff] at hflat
    simpa using hflat x hx
  · intro h
    induction l with
    | nil => rfl
    | cons x l ih =>
        rw [wordsOf_cons_sep (h x List.mem_cons_self)]
        exact ih fun y hy => h y (List.mem_cons_of_mem _ hy)

theorem wordsOf_append_of_sep {a b : List α} (h : ∀ x ∈ a, sep x = true) :
    wordsOf sep (a ++ b) = wordsOf sep b := by
  induction a with
  | nil => rfl
  | cons x a ih =>
      rw [List.cons_append, wordsOf_cons_sep (h x List.mem_cons_self)]
      exact ih fun y hy => h y (List.mem_cons_of_mem _ hy)

theorem wordsOf_append_sep {a b : List α} (h : ∀ x ∈ b, sep x = true) :
    wordsOf sep (a ++ b) = wordsOf sep a := by
  cases b with
  | nil => rw [List.append_nil]
  | cons x b =>
      rw [wordsOf_append_cons a b (h x List.mem_cons_self),
        wordsOf_eq_nil_iff.mpr fun y hy => h y (List.mem_cons_of_mem _ hy), List.append_nil]

/-- Only which elements are separators counts. -/
theorem wordsOf_congr {sep' : α → Bool} {l : List α} (h : ∀ x ∈ l, sep x = sep' x) :
    wordsOf sep l = wordsOf sep' l := by
  have hsplit : l.splitOnP sep = l.splitOnP sep' := by
    induction l with
    | nil => rfl
    | cons x l ih =>
        rw [List.splitOnP_cons_eq_if_modifyHead, List.splitOnP_cons_eq_if_modifyHead,
          h x List.mem_cons_self, ih fun y hy => h y (List.mem_cons_of_mem _ hy)]
  rw [wordsOf, hsplit, wordsOf]

/-- A list without separators is one word. -/
theorem wordsOf_word {w : List α} (hw : w ≠ []) (h : ∀ x ∈ w, sep x = false) :
    wordsOf sep w = [w] := by
  rw [wordsOf, List.splitOnP_eq_singleton h]
  cases w with
  | nil => exact absurd rfl hw
  | cons x w => rfl

/-- A word, then separators, then the other words. -/
theorem wordsOf_word_append {w gap : List α} (hw : w ≠ []) (h : ∀ x ∈ w, sep x = false)
    (hgap : gap ≠ []) (hsep : ∀ x ∈ gap, sep x = true) (rest : List α) :
    wordsOf sep (w ++ (gap ++ rest)) = w :: wordsOf sep rest := by
  obtain ⟨x, gap, rfl⟩ := List.exists_cons_of_ne_nil hgap
  rw [List.cons_append, wordsOf_append_cons w _ (hsep x List.mem_cons_self), wordsOf_word hw h,
    wordsOf_append_of_sep fun y hy => hsep y (List.mem_cons_of_mem x hy), List.singleton_append]

theorem wordsOf_cons_of_not_sep {x : α} (hx : sep x = false) (l : List α) :
    ∃ word rest, wordsOf sep (x :: l) = (x :: word) :: rest := by
  obtain ⟨first, parts, hsplit⟩ := List.exists_cons_of_ne_nil (List.splitOnP_ne_nil sep l)
  refine ⟨first, parts.filter fun word => !word.isEmpty, ?_⟩
  rw [wordsOf, List.splitOnP_cons_eq_if_modifyHead, hx, hsplit]
  rfl

/-! ## Trimming -/

/-- The list without its leading and trailing separators. -/
def trim (sep : α → Bool) (l : List α) : List α :=
  ((l.dropWhile sep).reverse.dropWhile sep).reverse

theorem eq_append_trim (sep : α → Bool) (l : List α) : ∃ before after,
    l = before ++ trim sep l ++ after ∧ (∀ x ∈ before, sep x = true) ∧
      ∀ x ∈ after, sep x = true := by
  refine ⟨l.takeWhile sep, ((l.dropWhile sep).reverse.takeWhile sep).reverse, ?_,
    fun x hx => List.mem_takeWhile_imp hx,
    fun x hx => List.mem_takeWhile_imp (List.mem_reverse.mp hx)⟩
  unfold trim
  rw [List.append_assoc, ← List.reverse_append, List.takeWhile_append_dropWhile,
    List.reverse_reverse, List.takeWhile_append_dropWhile]

theorem wordsOf_trim (l : List α) : wordsOf sep (trim sep l) = wordsOf sep l := by
  obtain ⟨before, after, hl, hbefore, hafter⟩ := eq_append_trim sep l
  conv => rhs; rw [hl]
  rw [wordsOf_append_sep hafter, wordsOf_append_of_sep hbefore]

theorem dropWhile_append_of_exists {a b : List α} (h : ∃ x ∈ a, sep x = false) :
    (a ++ b).dropWhile sep = a.dropWhile sep ++ b := by
  obtain ⟨x, hx, hsep⟩ := h
  rw [List.dropWhile_append, if_neg]
  rw [List.isEmpty_iff, List.dropWhile_eq_nil_iff]
  intro hall
  rw [hall x hx] at hsep
  exact absurd hsep (by decide)

/-- The first element that is left is no separator. -/
theorem head_dropWhile {l rest : List α} {x : α} (h : l.dropWhile sep = x :: rest) :
    sep x = false := by
  have hhead := List.head?_dropWhile_not sep l
  rw [h] at hhead
  simpa using hhead

/-- A trimmed list neither starts nor ends with a separator. -/
theorem trim_head {l rest : List α} {x : α} (h : trim sep l = x :: rest) : sep x = false := by
  have hprefix : l.dropWhile sep
      = trim sep l ++ ((l.dropWhile sep).reverse.takeWhile sep).reverse := by
    unfold trim
    rw [← List.reverse_append, List.takeWhile_append_dropWhile, List.reverse_reverse]
  rw [h, List.cons_append] at hprefix
  exact head_dropWhile hprefix

theorem trim_last {l rest : List α} {x : α} (h : trim sep l = rest ++ [x]) : sep x = false := by
  have hreverse : (l.dropWhile sep).reverse.dropWhile sep = x :: rest.reverse := by
    rw [← List.reverse_inj, ← trim, h, List.reverse_cons, List.reverse_reverse]
  exact head_dropWhile hreverse

theorem dropWhile_cons_of_not_sep {x : α} (hx : sep x = false) (l : List α) :
    (x :: l).dropWhile sep = x :: l :=
  List.dropWhile_cons_of_neg (by rw [hx]; exact Bool.false_ne_true)

theorem dropWhile_of_head {l : List α} (h : ∀ x ∈ l.head?, sep x = false) :
    l.dropWhile sep = l := by
  cases l with
  | nil => rfl
  | cons x l => exact dropWhile_cons_of_not_sep (h x rfl) l

theorem dropWhile_of_not_sep {l : List α} (h : ∀ x ∈ l, sep x = false) : l.dropWhile sep = l :=
  dropWhile_of_head fun x hx => h x (List.mem_of_mem_head? hx)

/-- Nothing is cut off if no separator stands at either end. -/
theorem trim_of_ends {l : List α} (hhead : ∀ x ∈ l.head?, sep x = false)
    (hlast : ∀ x ∈ l.getLast?, sep x = false) : trim sep l = l := by
  have hreverse : ∀ x ∈ l.reverse.head?, sep x = false := by rwa [List.head?_reverse]
  rw [trim, dropWhile_of_head hhead, dropWhile_of_head hreverse, List.reverse_reverse]

theorem trim_of_not_sep {l : List α} (h : ∀ x ∈ l, sep x = false) : trim sep l = l :=
  trim_of_ends (fun x hx => h x (List.mem_of_mem_head? hx))
    fun x hx => h x (List.mem_of_getLast? hx)

theorem head_trim (l : List α) : ∀ x ∈ (trim sep l).head?, sep x = false := by
  intro x hx
  obtain ⟨rest, htrim⟩ := List.head?_eq_some_iff.mp hx
  exact trim_head htrim

theorem last_trim (l : List α) : ∀ x ∈ (trim sep l).getLast?, sep x = false := by
  intro x hx
  obtain ⟨rest, htrim⟩ := List.getLast?_eq_some_iff.mp hx
  exact trim_last htrim

/-- Trimming again changes nothing. -/
theorem trim_trim (l : List α) : trim sep (trim sep l) = trim sep l :=
  trim_of_ends (head_trim l) (last_trim l)

/-- Nothing is cut off at the end if no separator stands there. -/
theorem trim_append {l b : List α} (h : ∀ x ∈ b, sep x = false) (hb : b ≠ []) :
    trim sep (l ++ b) = l.dropWhile sep ++ b := by
  have hfront : (l ++ b).dropWhile sep = l.dropWhile sep ++ b := by
    rw [List.dropWhile_append, dropWhile_of_not_sep h]
    split
    next hempty => rw [List.isEmpty_iff.mp hempty, List.nil_append]
    next => rfl
  have hreverse : ∀ x ∈ b.reverse, sep x = false := fun x hx => h x (List.mem_reverse.mp hx)
  obtain ⟨last, rest, hlast⟩ := List.exists_cons_of_ne_nil (mt List.reverse_eq_nil_iff.mp hb)
  have hback : (b.reverse ++ (l.dropWhile sep).reverse).dropWhile sep
      = b.reverse ++ (l.dropWhile sep).reverse := by
    rw [hlast] at hreverse ⊢
    exact dropWhile_cons_of_not_sep (hreverse last List.mem_cons_self) _
  unfold trim
  rw [hfront, List.reverse_append, hback, List.reverse_append, List.reverse_reverse,
    List.reverse_reverse]

/-- A separator at the end is cut off. -/
theorem trim_concat_sep {l : List α} {x : α} (hx : sep x = true) :
    trim sep (l ++ [x]) = trim sep l := by
  unfold trim
  rw [List.dropWhile_append]
  split
  next hempty =>
    rw [List.isEmpty_iff.mp hempty, List.dropWhile_cons_of_pos hx]
    rfl
  next =>
    rw [List.reverse_append, List.reverse_singleton, List.singleton_append,
      List.dropWhile_cons_of_pos hx]

theorem trim_append_sep {l b : List α} (h : ∀ x ∈ b, sep x = true) :
    trim sep (l ++ b) = trim sep l := by
  induction b using List.reverseRecOn with
  | nil => rw [List.append_nil]
  | append_singleton b x ih =>
      rw [← List.append_assoc, trim_concat_sep (h x (by simp)),
        ih fun y hy => h y (List.mem_append_left _ hy)]

theorem trim_append_of_sep {a : List α} (h : ∀ x ∈ a, sep x = true) (l : List α) :
    trim sep (a ++ l) = trim sep l := by
  rw [trim, List.dropWhile_append_of_pos h, trim]

/-- Only the separators around a list are cut off. -/
theorem trim_between {before l after : List α} (hbefore : ∀ x ∈ before, sep x = true)
    (hafter : ∀ x ∈ after, sep x = true) (hhead : ∀ x ∈ l.head?, sep x = false)
    (hlast : ∀ x ∈ l.getLast?, sep x = false) : trim sep (before ++ l ++ after) = l := by
  rw [trim_append_sep hafter, trim_append_of_sep hbefore, trim_of_ends hhead hlast]

/-- What stands between two elements that are no separators stays. -/
theorem trim_cons_append {x y : α} (hx : sep x = false) (hy : sep y = false) (mid b : List α) :
    trim sep (x :: mid ++ y :: b) = x :: mid ++ trim sep (y :: b) := by
  have hlast : ∃ z ∈ (y :: b).reverse, sep z = false :=
    ⟨y, List.mem_reverse.mpr List.mem_cons_self, hy⟩
  rw [trim, trim, List.cons_append, dropWhile_cons_of_not_sep hx, dropWhile_cons_of_not_sep hy,
    ← List.cons_append,
    List.reverse_append, dropWhile_append_of_exists hlast, List.reverse_append,
    List.reverse_reverse]

theorem length_trim_le (l : List α) : (trim sep l).length ≤ (l.dropWhile sep).length := by
  unfold trim
  rw [List.length_reverse]
  exact (List.length_dropWhile_le ..).trans (List.length_reverse ..).le

section Runs

variable {β : Type*} {sep' : β → Bool} {f : α → List β}

/-- Each separator is replaced by a separator, and anything else by something that begins with no
separator. -/
theorem dropWhile_flatMap (hsep : ∀ x, sep x = true → ∃ b, f x = [b] ∧ sep' b = true)
    (hother : ∀ x, sep x = false → ∃ b rest, f x = b :: rest ∧ sep' b = false) (l : List α) :
    (l.flatMap f).dropWhile sep' = (l.dropWhile sep).flatMap f := by
  induction l with
  | nil => rfl
  | cons x l ih =>
      rw [List.flatMap_cons]
      cases hx : sep x with
      | true =>
          obtain ⟨b, hb, hblank⟩ := hsep x hx
          rw [hb, List.singleton_append, List.dropWhile_cons_of_pos hblank,
            List.dropWhile_cons_of_pos hx, ih]
      | false =>
          obtain ⟨b, rest, hb, hblank⟩ := hother x hx
          rw [List.dropWhile_cons_of_neg (by simp [hx]), List.flatMap_cons, hb, List.cons_append,
            List.dropWhile_cons_of_neg (by simp [hblank])]

/-- Trimming does not mind such a replacement, if it also ends with no separator. -/
theorem trim_flatMap (hsep : ∀ x, sep x = true → ∃ b, f x = [b] ∧ sep' b = true)
    (hfirst : ∀ x, sep x = false → ∃ b rest, f x = b :: rest ∧ sep' b = false)
    (hlast : ∀ x, sep x = false → ∃ b rest, f x = rest ++ [b] ∧ sep' b = false) (l : List α) :
    trim sep' (l.flatMap f) = (trim sep l).flatMap f := by
  have hreverse : ∀ l : List α, (l.flatMap f).reverse = l.reverse.flatMap (List.reverse ∘ f) := by
    intro l
    rw [List.reverse_flatMap]
  have hback : ∀ l : List α, (l.flatMap (List.reverse ∘ f)).dropWhile sep' =
      (l.dropWhile sep).flatMap (List.reverse ∘ f) := by
    apply dropWhile_flatMap
    · intro x hx
      obtain ⟨b, hb, hblank⟩ := hsep x hx
      exact ⟨b, by rw [Function.comp_apply, hb, List.reverse_singleton], hblank⟩
    · intro x hx
      obtain ⟨b, rest, hb, hblank⟩ := hlast x hx
      exact ⟨b, rest.reverse, by rw [Function.comp_apply, hb, List.reverse_append]; rfl, hblank⟩
  unfold trim
  rw [dropWhile_flatMap hsep hfirst, hreverse, hback, List.reverse_flatMap]
  congr 1
  funext x
  exact List.reverse_reverse (f x)

end Runs

/-- A separator stays if there is something else on either side of it. -/
theorem mem_trim_iff {l : List α} {x : α} (hx : sep x = true) :
    x ∈ trim sep l ↔ ∃ a b, l = a ++ x :: b ∧ (∃ y ∈ a, sep y = false) ∧
      ∃ y ∈ b, sep y = false := by
  constructor
  · intro hmem
    obtain ⟨before, after, hl, -, -⟩ := eq_append_trim sep l
    obtain ⟨a, b, htrim⟩ := List.append_of_mem hmem
    refine ⟨before ++ a, b ++ after, ?_, ?_, ?_⟩
    · rw [htrim] at hl
      rw [hl]
      simp only [List.append_assoc, List.cons_append]
    · cases a with
      | nil => exact absurd (trim_head htrim) (by rw [hx]; decide)
      | cons y a =>
          exact ⟨y, List.mem_append_right _ List.mem_cons_self, trim_head htrim⟩
    · rcases List.eq_nil_or_concat b with rfl | ⟨b, y, rfl⟩
      · exact absurd (trim_last htrim) (by rw [hx]; decide)
      · refine ⟨y, List.mem_append_left _ (by simp), ?_⟩
        rw [List.concat_eq_append, ← List.cons_append, ← List.append_assoc] at htrim
        exact trim_last htrim
  · rintro ⟨a, b, rfl, ha, hb⟩
    unfold trim
    rw [dropWhile_append_of_exists ha, List.reverse_append, List.reverse_cons, List.append_assoc,
      dropWhile_append_of_exists (by simpa using hb)]
    simp

/-! ## Lines of words -/

/-- The lines with a word, each as the list of its words. -/
def linesOf (line blank : α → Bool) (l : List α) : List (List (List α)) :=
  ((l.splitOnP line).map (wordsOf blank)).filter fun words => !words.isEmpty

section Lines

variable {line blank : α → Bool}

theorem linesOf_append_cons (a b : List α) {x : α} (hx : line x = true) :
    linesOf line blank (a ++ x :: b) = linesOf line blank a ++ linesOf line blank b := by
  unfold linesOf
  rw [List.splitOnP_append_cons a b hx, List.map_append, List.filter_append]

theorem linesOf_one {l : List α} (h : ∀ x ∈ l, line x = false) :
    linesOf line blank l = if (wordsOf blank l).isEmpty then [] else [wordsOf blank l] := by
  unfold linesOf
  rw [List.splitOnP_eq_singleton h, List.map_singleton, List.filter_cons, List.filter_nil]
  cases wordsOf blank l <;> rfl

/-- A list is a line, or a line and a list after the first separator. -/
theorem lines_induction (line : α → Bool) {P : List α → Prop}
    (last : ∀ l, (∀ x ∈ l, line x = false) → P l)
    (more : ∀ a x b, (∀ y ∈ a, line y = false) → line x = true → P b → P (a ++ x :: b))
    (l : List α) : P l := by
  suffices hgen : ∀ l a, (∀ y ∈ a, line y = false) → P (a ++ l) from hgen l [] (by simp)
  intro l
  induction l with
  | nil =>
      intro a ha
      rw [List.append_nil]
      exact last a ha
  | cons x l ih =>
      intro a ha
      cases hx : line x with
      | true => exact more a x l ha hx (ih [] (by simp))
      | false =>
          have hnext := ih (a ++ [x]) (by
            intro y hy
            rcases List.mem_append.mp hy with hy | hy
            · exact ha y hy
            · rw [List.mem_singleton.mp hy, hx])
          rwa [List.append_assoc, List.singleton_append] at hnext

/-- The trimmed parts of a list are those of the trimmed list. -/
theorem map_trim_splitOnP {l : List α} (h : ∀ x, blank x = true → line x = false) :
    ((trim blank l).splitOnP line).map (trim blank) = (l.splitOnP line).map (trim blank) := by
  have hbefore : ∀ a l : List α, (∀ x ∈ a, blank x = true) →
      ((a ++ l).splitOnP line).map (trim blank) = (l.splitOnP line).map (trim blank) := by
    intro a l ha
    have hline : ∀ x ∈ a, line x = false := fun x hx => h x (ha x hx)
    induction l using lines_induction line with
    | last l hl =>
        rw [List.splitOnP_eq_singleton hl, List.splitOnP_eq_singleton fun x hx =>
          (List.mem_append.mp hx).elim (hline x) (hl x), List.map_singleton, List.map_singleton,
          trim_append_of_sep ha]
    | more c x b hc hx ih =>
        have hall : ∀ y ∈ a ++ c, line y = false :=
          fun y hy => (List.mem_append.mp hy).elim (hline y) (hc y)
        rw [← List.append_assoc, List.splitOnP_append_cons _ _ hx, List.splitOnP_append_cons _ _ hx,
          List.splitOnP_eq_singleton hall, List.splitOnP_eq_singleton hc, List.map_append,
          List.map_append, List.map_singleton, List.map_singleton, trim_append_of_sep ha]
  have hafter : ∀ l b : List α, (∀ x ∈ b, blank x = true) →
      ((l ++ b).splitOnP line).map (trim blank) = (l.splitOnP line).map (trim blank) := by
    intro l b hb
    have hline : ∀ x ∈ b, line x = false := fun x hx => h x (hb x hx)
    induction l using lines_induction line with
    | last l hl =>
        rw [List.splitOnP_eq_singleton hl, List.splitOnP_eq_singleton fun x hx =>
          (List.mem_append.mp hx).elim (hl x) (hline x), List.map_singleton, List.map_singleton,
          trim_append_sep hb]
    | more c x rest hc hx ih =>
        rw [List.append_assoc, List.cons_append, List.splitOnP_append_cons _ _ hx,
          List.splitOnP_append_cons _ _ hx, List.map_append, List.map_append, ih]
  obtain ⟨before, after, hl, hblankBefore, hblankAfter⟩ := eq_append_trim blank l
  conv => rhs; rw [hl]
  rw [hafter _ _ hblankAfter, hbefore _ _ hblankBefore]

/-- The words of the lines are those between separators of either kind. -/
theorem flatten_linesOf (l : List α) : (linesOf line blank l).flatten
    = wordsOf (fun x => line x || blank x) l := by
  have hone : ∀ a : List α, (∀ y ∈ a, line y = false) → (linesOf line blank a).flatten
      = wordsOf (fun x => line x || blank x) a := by
    intro a ha
    have hsame : wordsOf (fun x => line x || blank x) a = wordsOf blank a :=
      wordsOf_congr fun x hx => by simp only [ha x hx, Bool.false_or]
    rw [linesOf_one ha, hsame]
    cases hwords : wordsOf blank a with
    | nil => rfl
    | cons word words => simp
  induction l using lines_induction line with
  | last l h => exact hone l h
  | more a x b ha hx ih =>
      have hsep : (line x || blank x) = true := by rw [hx, Bool.true_or]
      rw [linesOf_append_cons a b hx, List.flatten_append, ih, hone a ha]
      exact (wordsOf_append_cons a b hsep).symm

theorem linesOf_eq_nil_iff {l : List α} :
    linesOf line blank l = [] ↔ ∀ x ∈ l, (line x || blank x) = true := by
  have hwords : wordsOf (fun x => line x || blank x) l = [] ↔
      ∀ x ∈ l, (line x || blank x) = true := wordsOf_eq_nil_iff
  rw [← hwords, ← flatten_linesOf]
  constructor
  · intro h
    rw [h]
    rfl
  · intro h
    rw [List.flatten_eq_nil_iff] at h
    refine List.eq_nil_iff_forall_not_mem.mpr fun words hmem => ?_
    have hfilter := (List.mem_filter.mp hmem).2
    rw [h words hmem] at hfilter
    exact absurd hfilter Bool.false_ne_true

theorem linesOf_ne_nil_iff {l : List α} :
    linesOf line blank l ≠ [] ↔ ∃ x ∈ l, (line x || blank x) = false := by
  rw [ne_eq, linesOf_eq_nil_iff]
  push Not
  simp

/-- **More than one line.**  There are two lines with a word exactly if a line separator has a word
on either side. -/
theorem two_le_length_linesOf_iff {l : List α} : 2 ≤ (linesOf line blank l).length ↔
    ∃ a x b, l = a ++ x :: b ∧ line x = true ∧ (∃ y ∈ a, (line y || blank y) = false) ∧
      ∃ y ∈ b, (line y || blank y) = false := by
  constructor
  · intro h
    induction l using lines_induction line with
    | last l hl =>
        rw [linesOf_one hl] at h
        split at h <;> simp at h
    | more a x b ha hx ih =>
        rw [linesOf_append_cons a b hx, List.length_append] at h
        by_cases hnil : linesOf line blank a = []
        · rw [hnil, List.length_nil, Nat.zero_add] at h
          obtain ⟨a', x', b', rfl, hx', ⟨y, hy, hyword⟩, hb'⟩ := ih h
          exact ⟨a ++ x :: a', x', b', by simp, hx', ⟨y, by simp [hy], hyword⟩, hb'⟩
        · have hle : (linesOf line blank a).length ≤ 1 := by
            rw [linesOf_one ha]
            split <;> simp
          refine ⟨a, x, b, rfl, hx, linesOf_ne_nil_iff.mp hnil, linesOf_ne_nil_iff.mp ?_⟩
          rintro hb
          rw [hb, List.length_nil] at h
          omega
  · rintro ⟨a, x, b, rfl, hx, ha, hb⟩
    have hpos := List.length_pos_iff.mpr (linesOf_ne_nil_iff.mpr ha)
    have hpos' := List.length_pos_iff.mpr (linesOf_ne_nil_iff.mpr hb)
    rw [linesOf_append_cons a b hx, List.length_append]
    omega

end Lines

end Words
