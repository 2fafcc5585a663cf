/-
# Lines of a text

`text.split(/\r?\n/)`.  Whoever trims the lines does not see whether they end in a line feed, or in
a carriage return and a line feed.
-/
import Mathlib.Data.List.Basic

namespace TextLines

/-- `split(/\r?\n/)`. -/
def splitLines : List Char → List (List Char)
  | [] => [[]]
  | '\r' :: '\n' :: rest => [] :: splitLines rest
  | '\n' :: rest => [] :: splitLines rest
  | c :: rest => (splitLines rest).modifyHead (c :: ·)

theorem splitLines_nil : splitLines [] = [[]] := rfl

theorem splitLines_return (rest : List Char) :
    splitLines ('\r' :: '\n' :: rest) = [] :: splitLines rest := rfl

theorem splitLines_lineFeed (rest : List Char) :
    splitLines ('\n' :: rest) = [] :: splitLines rest := rfl

theorem splitLines_cons {c : Char} {rest : List Char} (hc : c ≠ '\n')
    (hreturn : c = '\r' → rest.head? ≠ some '\n') :
    splitLines (c :: rest) = (splitLines rest).modifyHead (c :: ·) := by
  rw [splitLines]
  · rintro tail rfl rfl
    exact hreturn rfl rfl
  · exact fun h => hc h

/-- A text without a line feed is one line. -/
theorem splitLines_one {line : List Char} (h : '\n' ∉ line) : splitLines line = [line] := by
  induction line with
  | nil => rfl
  | cons c line ih =>
      rw [List.mem_cons, not_or] at h
      obtain ⟨hc, hline⟩ := h
      have hhead : line.head? ≠ some '\n' := fun hhead => hline (List.mem_of_mem_head? hhead)
      rw [splitLines_cons (Ne.symm hc) fun _ => hhead, ih hline, List.modifyHead_cons]

/-- The first line, from which a carriage return may have gone. -/
theorem splitLines_append {line : List Char} (h : '\n' ∉ line) (rest : List Char) :
    ∃ first, splitLines (line ++ '\n' :: rest) = first :: splitLines rest ∧
      (line = first ∨ line = first ++ ['\r']) := by
  induction line with
  | nil => exact ⟨[], splitLines_lineFeed rest, .inl rfl⟩
  | cons c line ih =>
      rw [List.mem_cons, not_or] at h
      obtain ⟨hc, hline⟩ := h
      obtain ⟨first, hsplit, hfirst⟩ := ih hline
      by_cases hend : c = '\r' ∧ line = []
      · obtain ⟨rfl, rfl⟩ := hend
        exact ⟨[], splitLines_return rest, .inr rfl⟩
      · have hhead : c = '\r' → (line ++ '\n' :: rest).head? ≠ some '\n' := by
          intro hreturn
          obtain ⟨d, tail, rfl⟩ := List.exists_cons_of_ne_nil fun hnil => hend ⟨hreturn, hnil⟩
          intro hd
          exact hline (Option.some.inj hd ▸ List.mem_cons_self)
        refine ⟨c :: first, ?_, ?_⟩
        · rw [List.cons_append, splitLines_cons (Ne.symm hc) hhead, hsplit, List.modifyHead_cons]
        · rcases hfirst with rfl | rfl
          · exact .inl rfl
          · exact .inr rfl

/-- **What is read of the lines of a text**, by a function to which a carriage return at the end is
nothing. -/
theorem filterMap_splitLines {β : Type*} {f : List Char → Option β}
    (hreturn : ∀ line, f (line ++ ['\r']) = f line) (hempty : f [] = none)
    {lines : List (List Char)} (h : ∀ line ∈ lines, '\n' ∉ line) :
    (splitLines (['\n'].intercalate lines)).filterMap f = lines.filterMap f := by
  induction lines with
  | nil => rw [List.intercalate_nil, splitLines_nil, List.filterMap_cons_none hempty]
  | cons line lines ih =>
      obtain ⟨hline, hlines⟩ := List.forall_mem_cons.mp h
      cases lines with
      | nil => rw [List.intercalate_singleton, splitLines_one hline]
      | cons next lines =>
          obtain ⟨first, hsplit, hfirst⟩ :=
            splitLines_append hline (['\n'].intercalate (next :: lines))
          have hf : f first = f line := by
            rcases hfirst with rfl | rfl
            · rfl
            · exact (hreturn first).symm
          rw [List.intercalate_cons_cons, List.append_assoc, List.singleton_append, hsplit,
            List.filterMap_cons, hf, ih hlines, ← List.filterMap_cons]

/-- No line has a character that the text does not have. -/
theorem mem_of_mem_splitLines {text line : List Char} (hline : line ∈ splitLines text) :
    ∀ c ∈ line, c ∈ text := by
  fun_induction splitLines text generalizing line with
  | case1 =>
      rw [List.mem_singleton.mp hline]
      exact fun c hc => hc
  | case2 rest ih =>
      rcases List.mem_cons.mp hline with rfl | hline
      · exact fun c hc => absurd hc List.not_mem_nil
      · exact fun c hc => List.mem_cons_of_mem _ (List.mem_cons_of_mem _ (ih hline c hc))
  | case3 rest ih =>
      rcases List.mem_cons.mp hline with rfl | hline
      · exact fun c hc => absurd hc List.not_mem_nil
      · exact fun c hc => List.mem_cons_of_mem _ (ih hline c hc)
  | case4 d rest _ _ ih =>
      cases hsplit : splitLines rest with
      | nil =>
          rw [hsplit] at hline
          exact absurd hline List.not_mem_nil
      | cons first others =>
          rw [hsplit, List.modifyHead_cons] at hline
          rw [hsplit] at ih
          intro c hc
          rcases List.mem_cons.mp hline with rfl | hline
          · rcases List.mem_cons.mp hc with rfl | hc
            · exact List.mem_cons_self
            · exact List.mem_cons_of_mem _ (ih List.mem_cons_self c hc)
          · exact List.mem_cons_of_mem _ (ih (List.mem_cons_of_mem _ hline) c hc)

end TextLines
