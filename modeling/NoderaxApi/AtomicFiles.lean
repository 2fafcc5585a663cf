/-
# Files that are replaced by renaming

A process replaces a file in steps: it empties the temporary file beside it, writes its contents
there piece by piece, and renames it over the file.  It may stop at any step.  The temporary file
of a file is the same for all processes, so only one process may replace a file at a time.

Above is a register for each file, which is set or removed in one step: `register_run` says that
what the files hold is what the registers do, whatever stops between two steps, and `holds_run`
that a file holds nothing but what was meant for it.
-/
import Mathlib.Logic.Function.Basic
import NoderaxApi.Runs

namespace AtomicFiles

open Runs

/-! ## Directories -/

/-- A process that replaces a file: the pieces that are left, and all of its contents. -/
structure Writer (F α : Type*) where
  file : F
  rest : List (List α)
  whole : List α

/-- The files, the temporary files beside them, and the processes. -/
structure Directory (F P α : Type*) where
  files : F → Option (List α)
  temps : F → Option (List α) := fun _ => none
  writers : P → Option (Writer F α) := fun _ => none

/-- What happens. -/
inductive FileEvent (F P α : Type*)
  | start (p : P) (f : F) (pieces : List (List α))
  | append (p : P)
  | rename (p : P)
  | crash (p : P)
  | remove (f : F)

variable {F P α : Type*} [DecidableEq F] [DecidableEq P]

/-- One event.  A rename without a temporary file fails. -/
def step (d : Directory F P α) : FileEvent F P α → Directory F P α
  | .start p f pieces =>
      { d with
        temps := Function.update d.temps f (some [])
        writers := Function.update d.writers p (some ⟨f, pieces, pieces.flatten⟩) }
  | .append p =>
      match d.writers p with
      | some ⟨f, piece :: rest, whole⟩ =>
          { d with
            temps := Function.update d.temps f ((d.temps f).map (· ++ piece))
            writers := Function.update d.writers p (some ⟨f, rest, whole⟩) }
      | _ => d
  | .rename p =>
      match d.writers p with
      | some ⟨f, [], _⟩ =>
          { files := Function.update d.files f ((d.temps f).or (d.files f))
            temps := Function.update d.temps f none
            writers := Function.update d.writers p none }
      | _ => d
  | .crash p => { d with writers := Function.update d.writers p none }
  | .remove f => { d with files := Function.update d.files f none }

/-- A process starts one replacement at a time, of a file that no other one replaces. -/
def OneWriter (d : Directory F P α) : FileEvent F P α → Prop
  | .start p f _ => d.writers p = none ∧ ∀ q w, d.writers q = some w → w.file ≠ f
  | _ => True

/-! ## The registers -/

/-- What the event does to the registers. -/
def register (d : Directory F P α) (files : F → Option (List α)) :
    FileEvent F P α → F → Option (List α)
  | .rename p =>
      match d.writers p with
      | some ⟨f, [], whole⟩ => Function.update files f (some whole)
      | _ => files
  | .remove f => Function.update files f none
  | _ => files

/-- The registers along a run. -/
def registerRun : Directory F P α → (F → Option (List α)) → List (FileEvent F P α) →
    F → Option (List α)
  | _, files, [] => files
  | d, files, e :: es => registerRun (step d e) (register d files e) es

/-! ## The writers -/

/-- No two processes replace one file, and the temporary file of one has the pieces that it has
written. -/
structure Disciplined (d : Directory F P α) : Prop where
  single : ∀ p q w v, d.writers p = some w → d.writers q = some v → w.file = v.file → p = q
  written : ∀ p w, d.writers p = some w →
    ∃ done, d.temps w.file = some done ∧ done ++ w.rest.flatten = w.whole

omit [DecidableEq F] [DecidableEq P] in
/-- No process replaces a file. -/
theorem disciplined_idle (files : F → Option (List α)) :
    Disciplined (⟨files, fun _ => none, fun _ => none⟩ : Directory F P α) where
  single := fun _ _ _ _ hp => absurd hp (by simp)
  written := fun _ _ hp => absurd hp (by simp)

omit [DecidableEq P] in
/-- The writers of other files are where they were. -/
theorem written_of_ne {d : Directory F P α} {f : F} {contents : Option (List α)} {w : Writer F α}
    (hne : w.file ≠ f) {done : List α} (h : d.temps w.file = some done) :
    Function.update d.temps f contents w.file = some done := by
  rw [Function.update_of_ne hne, h]

omit [DecidableEq F] in
/-- A process has been moved or has stopped; the others are as they were. -/
theorem writer_update {d : Directory F P α} {p q : P} {next : Option (Writer F α)} {w : Writer F α}
    (h : Function.update d.writers p next q = some w) :
    q = p ∧ next = some w ∨ q ≠ p ∧ d.writers q = some w := by
  by_cases hq : q = p
  · subst hq
    rw [Function.update_self] at h
    exact Or.inl ⟨rfl, h⟩
  · rw [Function.update_of_ne hq] at h
    exact Or.inr ⟨hq, h⟩

omit [DecidableEq F] in
/-- A process stops: what the others know stays. -/
theorem Disciplined.stop {d : Directory F P α} (h : Disciplined d) (p : P)
    (files temps : F → Option (List α))
    (htemps : ∀ q w, q ≠ p → d.writers q = some w → temps w.file = d.temps w.file) :
    Disciplined ⟨files, temps, Function.update d.writers p none⟩ where
  single := by
    intro q r w v hq hr hfile
    rcases writer_update hq with ⟨-, hnone⟩ | ⟨-, hq'⟩
    · cases hnone
    rcases writer_update hr with ⟨-, hnone⟩ | ⟨-, hr'⟩
    · cases hnone
    exact h.single q r w v hq' hr' hfile
  written := by
    intro q w hq
    rcases writer_update hq with ⟨-, hnone⟩ | ⟨hne, hq'⟩
    · cases hnone
    obtain ⟨done, hdone, hwhole⟩ := h.written q w hq'
    exact ⟨done, (htemps q w hne hq').trans hdone, hwhole⟩

/-- A process moves on with a file that is its own. -/
theorem Disciplined.move {d : Directory F P α} (h : Disciplined d) (p : P) (next : Writer F α)
    (done : List α) (hwhole : done ++ next.rest.flatten = next.whole)
    (hown : ∀ q w, q ≠ p → d.writers q = some w → w.file ≠ next.file) :
    Disciplined ⟨d.files, Function.update d.temps next.file (some done),
      Function.update d.writers p (some next)⟩ where
  single := by
    intro q r w v hq hr hfile
    rcases writer_update hq with ⟨rfl, hw⟩ | ⟨hqp, hq'⟩ <;>
      rcases writer_update hr with ⟨rfl, hv⟩ | ⟨hrp, hr'⟩
    · rfl
    · obtain rfl := Option.some.inj hw
      exact absurd hfile.symm (hown r v hrp hr')
    · obtain rfl := Option.some.inj hv
      exact absurd hfile (hown q w hqp hq')
    · exact h.single q r w v hq' hr' hfile
  written := by
    intro q w hq
    rcases writer_update hq with ⟨rfl, hw⟩ | ⟨hqp, hq'⟩
    · obtain rfl := Option.some.inj hw
      exact ⟨done, Function.update_self _ _ _, hwhole⟩
    · obtain ⟨done', hdone', hwhole'⟩ := h.written q w hq'
      exact ⟨done', written_of_ne (hown q w hqp hq') hdone', hwhole'⟩

/-- **One event keeps the discipline.** -/
theorem Disciplined.step {d : Directory F P α} (h : Disciplined d) (e : FileEvent F P α)
    (hone : OneWriter d e) : Disciplined (step d e) := by
  cases e with
  | start p f pieces =>
      exact h.move p ⟨f, pieces, pieces.flatten⟩ [] rfl fun q w _ hq => hone.2 q w hq
  | append p =>
      simp only [AtomicFiles.step]
      split
      next f piece rest whole hp =>
        obtain ⟨done, hdone, hwhole⟩ := h.written p _ hp
        rw [hdone]
        refine h.move p ⟨f, rest, whole⟩ (done ++ piece) ?_ fun q w hqp hq hfile => ?_
        · rw [List.append_assoc]
          exact hwhole
        · exact hqp (h.single q p w _ hq hp hfile)
      next => exact h
  | rename p =>
      simp only [AtomicFiles.step]
      split
      next f whole hp =>
        refine h.stop p _ _ fun q w hqp hq => Function.update_of_ne (fun hfile => ?_) _ _
        exact hqp (h.single q p w _ hq hp hfile)
      next => exact h
  | crash p => exact h.stop p _ _ fun _ _ _ _ => rfl
  | remove f => exact ⟨h.single, h.written⟩

/-- **One event does to the files what it does to the registers.** -/
theorem Disciplined.files_step {d : Directory F P α} (h : Disciplined d) (e : FileEvent F P α) :
    (AtomicFiles.step d e).files = register d d.files e := by
  cases e with
  | start p f pieces => rfl
  | append p =>
      simp only [AtomicFiles.step, register]
      split <;> rfl
  | rename p =>
      simp only [AtomicFiles.step, register]
      split
      next f whole hp =>
        obtain ⟨done, hdone, hwhole⟩ := h.written p _ hp
        rw [List.flatten_nil, List.append_nil] at hwhole
        rw [hdone, hwhole, Option.some_or]
      next => rfl
  | crash p => rfl
  | remove f => rfl

/-! ## Whole runs -/

/-- **The files are registers**, whatever the processes leave half done. -/
theorem register_run {d : Directory F P α} (h : Disciplined d) {es : List (FileEvent F P α)}
    (hes : Along step OneWriter d es) :
    (Runs.run step d es).files = registerRun d d.files es := by
  induction es generalizing d with
  | nil => rfl
  | cons e es ih =>
      rw [along_cons] at hes
      rw [run_cons, registerRun, ih (h.step e hes.1) hes.2, h.files_step]

/-- A file that nobody removes is there later on. -/
theorem isSome_run {d : Directory F P α} {f : F} (hf : (d.files f).isSome = true)
    {es : List (FileEvent F P α)} (hes : .remove f ∉ es) :
    ((Runs.run step d es).files f).isSome = true := by
  induction es generalizing d with
  | nil => exact hf
  | cons e es ih =>
      rw [List.mem_cons, not_or] at hes
      refine ih ?_ hes.2
      cases e with
      | start p g pieces => exact hf
      | append p => simp only [step]; split <;> exact hf
      | rename p =>
          simp only [step]
          split
          · next g whole hp =>
              by_cases hfg : f = g
              · rw [← hfg]
                dsimp only
                rw [Function.update_self, Option.isSome_or, hf, Bool.or_true]
              · dsimp only
                rw [Function.update_of_ne hfg]
                exact hf
          · exact hf
      | crash p => exact hf
      | remove g =>
          have hfg : f ≠ g := fun heq => hes.1 (heq ▸ rfl)
          simp only [step, Function.update_of_ne hfg]
          exact hf

/-- What is meant for a file. -/
def Meant (V : F → List α → Prop) : FileEvent F P α → Prop
  | .start _ f pieces => V f pieces.flatten
  | _ => True

/-- A property of all that is in the files and all that is meant for them. -/
structure Holds (V : F → List α → Prop) (d : Directory F P α) : Prop where
  disciplined : Disciplined d
  files : ∀ f contents, d.files f = some contents → V f contents
  writers : ∀ p w, d.writers p = some w → V w.file w.whole

omit [DecidableEq P] in
/-- What a register holds after an event. -/
theorem register_some {d : Directory F P α} {files : F → Option (List α)} {e : FileEvent F P α}
    {f : F} {contents : List α} (h : register d files e f = some contents) :
    files f = some contents ∨ ∃ p, d.writers p = some ⟨f, [], contents⟩ := by
  cases e with
  | start p g pieces => exact Or.inl h
  | append p => exact Or.inl h
  | crash p => exact Or.inl h
  | rename p =>
      rcases hp : d.writers p with _ | ⟨g, _ | ⟨piece, rest⟩, whole⟩
      · simp only [register, hp] at h
        exact Or.inl h
      · simp only [register, hp] at h
        by_cases hfg : f = g
        · subst hfg
          rw [Function.update_self] at h
          exact Or.inr ⟨p, Option.some.inj h ▸ hp⟩
        · rw [Function.update_of_ne hfg] at h
          exact Or.inl h
      · simp only [register, hp] at h
        exact Or.inl h
  | remove g =>
      by_cases hfg : f = g
      · subst hfg
        simp only [register, Function.update_self] at h
        cases h
      · simp only [register, Function.update_of_ne hfg] at h
        exact Or.inl h

/-- A process keeps its file and what that is to hold, until it stops. -/
theorem writer_step {d : Directory F P α} {e : FileEvent F P α} {p : P} {w : Writer F α}
    (h : (step d e).writers p = some w) :
    (∃ q v, d.writers q = some v ∧ v.file = w.file ∧ v.whole = w.whole) ∨
      ∃ q pieces, e = .start q w.file pieces ∧ w.whole = pieces.flatten := by
  cases e with
  | start q g pieces =>
      rcases writer_update h with ⟨-, hw⟩ | ⟨-, hold⟩
      · obtain rfl := Option.some.inj hw
        exact Or.inr ⟨q, pieces, rfl, rfl⟩
      · exact Or.inl ⟨p, w, hold, rfl, rfl⟩
  | append q =>
      rcases hq : d.writers q with _ | ⟨g, _ | ⟨piece, rest⟩, whole⟩ <;>
        simp only [step, hq] at h
      · exact Or.inl ⟨p, w, h, rfl, rfl⟩
      · exact Or.inl ⟨p, w, h, rfl, rfl⟩
      · rcases writer_update h with ⟨-, hw⟩ | ⟨-, hold⟩
        · obtain rfl := Option.some.inj hw
          exact Or.inl ⟨q, _, hq, rfl, rfl⟩
        · exact Or.inl ⟨p, w, hold, rfl, rfl⟩
  | rename q =>
      rcases hq : d.writers q with _ | ⟨g, _ | ⟨piece, rest⟩, whole⟩ <;>
        simp only [step, hq] at h
      · exact Or.inl ⟨p, w, h, rfl, rfl⟩
      · rcases writer_update h with ⟨-, hw⟩ | ⟨-, hold⟩
        · cases hw
        · exact Or.inl ⟨p, w, hold, rfl, rfl⟩
      · exact Or.inl ⟨p, w, h, rfl, rfl⟩
  | crash q =>
      rcases writer_update h with ⟨-, hw⟩ | ⟨-, hold⟩
      · cases hw
      · exact Or.inl ⟨p, w, hold, rfl, rfl⟩
  | remove g => exact Or.inl ⟨p, w, h, rfl, rfl⟩

theorem Holds.step {V : F → List α → Prop} {d : Directory F P α} (h : Holds V d)
    (e : FileEvent F P α) (hone : OneWriter d e) (hmeant : Meant V e) :
    Holds V (AtomicFiles.step d e) := by
  refine ⟨h.disciplined.step e hone, fun f contents hf => ?_, fun p w hp => ?_⟩
  · rw [h.disciplined.files_step] at hf
    rcases register_some hf with hold | ⟨p, hp⟩
    · exact h.files f contents hold
    · exact h.writers p _ hp
  · rcases writer_step hp with ⟨q, v, hq, hfile, hwhole⟩ | ⟨q, pieces, rfl, hwhole⟩
    · exact hfile ▸ hwhole ▸ h.writers q v hq
    · rw [hwhole]
      exact hmeant

/-- **A file holds nothing but what was meant for it.** -/
theorem holds_run {V : F → List α → Prop} {d : Directory F P α} (h : Holds V d)
    {es : List (FileEvent F P α)}
    (hes : Along AtomicFiles.step (fun d e => OneWriter d e ∧ Meant V e) d es) :
    Holds V (Runs.run AtomicFiles.step d es) :=
  inv_run (fun _ e hd hguard => hd.step e hguard.1 hguard.2) h hes

/-- The steps of a process that replaces a file. -/
def replacing (p : P) (f : F) (pieces : List (List α)) : List (FileEvent F P α) :=
  .start p f pieces :: (List.replicate pieces.length (.append p) ++ [.rename p])

/-- The steps after the first, from any point. -/
theorem files_replacing {d : Directory F P α} {p : P} {f : F} {pieces : List (List α)}
    {whole done : List α} (hp : d.writers p = some ⟨f, pieces, whole⟩)
    (hdone : d.temps f = some done) :
    (Runs.run AtomicFiles.step d (List.replicate pieces.length (.append p) ++ [.rename p])).files
      = Function.update d.files f (some (done ++ pieces.flatten)) := by
  induction pieces generalizing d done with
  | nil => simp [AtomicFiles.step, hp, hdone]
  | cons piece rest ih =>
      rw [List.length_cons, List.replicate_succ, List.cons_append, run_cons]
      have hstep : AtomicFiles.step d (.append p) = { d with
          temps := Function.update d.temps f (some (done ++ piece))
          writers := Function.update d.writers p (some ⟨f, rest, whole⟩) } := by
        simp only [AtomicFiles.step, hp, hdone, Option.map_some]
      rw [hstep, ih (Function.update_self _ _ _) (Function.update_self _ _ _)]
      simp only [List.flatten_cons, List.append_assoc]

/-- A process that runs to its end replaces the file. -/
theorem files_run_replacing (d : Directory F P α) (p : P) (f : F) (pieces : List (List α)) :
    (Runs.run AtomicFiles.step d (replacing p f pieces)).files
      = Function.update d.files f (some pieces.flatten) := by
  have hwriter : (AtomicFiles.step d (.start p f pieces)).writers p
      = some ⟨f, pieces, pieces.flatten⟩ := Function.update_self _ _ _
  have htemp : (AtomicFiles.step d (.start p f pieces)).temps f = some [] :=
    Function.update_self _ _ _
  rw [replacing, run_cons, files_replacing hwriter htemp]
  rfl

end AtomicFiles
