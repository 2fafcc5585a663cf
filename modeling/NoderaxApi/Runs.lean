/-
# Runs of event-driven systems

A system here is a total step function `step : σ → ε → σ`: the event carries
everything the environment chooses (the request, the clock reading, the
scheduling decision), so a finite list of events determines a run.

The file collects the rules every later run argument uses:

* `inv_run` — an invariant kept by each step is kept by each run;
* `prefixes_iff_along` — the runs along which an invariant holds are the guarded ones;
* `rel_run` — a preorder respected by each step relates both ends of a run;
* `unwinding` — two runs that differ only in hidden events stay related.

Each rule has a guard `P`: a predicate on the state before a step and the event
taken there, assumed along the run through `Along`.
-/
import Mathlib.Data.List.Basic

namespace Runs

variable {σ ε : Type*} (step : σ → ε → σ)

/-! ## Runs and guarded runs -/

/-- The state reached from `s` by the events `es`, taken in order. -/
def run (s : σ) (es : List ε) : σ := es.foldl step s

/-- Every event of the run from `s` satisfies `P` in the state it is taken in. -/
def Along (P : σ → ε → Prop) : σ → List ε → Prop
  | _, [] => True
  | s, e :: es => P s e ∧ Along P (step s e) es

@[simp] theorem run_nil (s : σ) : run step s [] = s := rfl

@[simp] theorem run_cons (s : σ) (e : ε) (es : List ε) :
    run step s (e :: es) = run step (step s e) es := rfl

theorem run_append (s : σ) (es es' : List ε) :
    run step s (es ++ es') = run step (run step s es) es' :=
  List.foldl_append

/-- The run extended by one event at its end. -/
theorem run_concat (s : σ) (es : List ε) (e : ε) :
    run step s (es ++ [e]) = step (run step s es) e := by
  rw [run_append]; rfl

@[simp] theorem along_nil (P : σ → ε → Prop) (s : σ) : Along step P s [] := trivial

@[simp] theorem along_cons (P : σ → ε → Prop) (s : σ) (e : ε) (es : List ε) :
    Along step P s (e :: es) ↔ P s e ∧ Along step P (step s e) es := Iff.rfl

instance decidableAlong (P : σ → ε → Prop) [∀ s e, Decidable (P s e)] :
    (s : σ) → (es : List ε) → Decidable (Along step P s es)
  | _, [] => .isTrue trivial
  | s, e :: es =>
      have := decidableAlong P (step s e) es
      inferInstanceAs (Decidable (P s e ∧ Along step P (step s e) es))

variable {step} {P : σ → ε → Prop}

/-- A guarded run splits at any point. -/
theorem along_append {s : σ} {es es' : List ε} :
    Along step P s (es ++ es') ↔ Along step P s es ∧ Along step P (run step s es) es' := by
  induction es generalizing s with
  | nil => simp
  | cons e es ih => simp [ih, and_assoc]

/-! ## The invariant rule -/

/-- **The invariant rule.**  What holds at the start and is kept by every
guarded step holds at the end of every guarded run. -/
theorem inv_run {I : σ → Prop} (hstep : ∀ s e, I s → P s e → I (step s e))
    {s : σ} {es : List ε} (h₀ : I s) (hes : Along step P s es) : I (run step s es) := by
  induction es generalizing s with
  | nil => exact h₀
  | cons e es ih => exact ih (hstep s e h₀ hes.1) hes.2

/-- The invariant rule without a guard. -/
theorem inv_run' {I : σ → Prop} (hstep : ∀ s e, I s → I (step s e))
    {s : σ} {es : List ε} (h₀ : I s) : I (run step s es) := by
  induction es generalizing s with
  | nil => exact h₀
  | cons e es ih => exact ih (hstep s e h₀)

/-- **The exact guard.**  If, under an auxiliary invariant `A`, the guard says
exactly when a step keeps `I`, then the runs in which `I` holds at every point are
the guarded ones. -/
theorem prefixes_iff_along {A I : σ → Prop}
    (haux : ∀ s e, A s → I s → I (step s e) → A (step s e))
    (hexact : ∀ s e, A s → I s → (I (step s e) ↔ P s e)) {s : σ} {es : List ε}
    (hA : A s) (hI : I s) :
    (∀ es₁ es₂, es = es₁ ++ es₂ → I (run step s es₁)) ↔ Along step P s es := by
  induction es generalizing s with
  | nil =>
      constructor
      · intro _
        exact trivial
      · intro _ es₁ es₂ hsplit
        obtain ⟨rfl, rfl⟩ := List.append_eq_nil_iff.mp hsplit.symm
        exact hI
  | cons e es ih =>
      constructor
      · intro hall
        have hnext : I (step s e) := hall [e] es rfl
        refine ⟨(hexact s e hA hI).mp hnext, (ih (haux s e hA hI hnext) hnext).mp ?_⟩
        intro es₁ es₂ hes
        exact hall (e :: es₁) es₂ (by rw [hes, List.cons_append])
      · rintro ⟨hP, hrest⟩ es₁ es₂ hsplit
        have hnext : I (step s e) := (hexact s e hA hI).mpr hP
        cases es₁ with
        | nil => exact hI
        | cons e₁ es₁ =>
            obtain ⟨rfl, hsplit'⟩ := List.cons_eq_cons.mp hsplit
            exact (ih (haux s e hA hI hnext) hnext).mpr hrest es₁ es₂ hsplit'

/-- The exact guard without an auxiliary invariant. -/
theorem inv_prefixes_iff {I : σ → Prop} (hkeep : ∀ s e, I s → P s e → I (step s e))
    (hbreak : ∀ s e, I s → I (step s e) → P s e) {s : σ} {es : List ε} (h₀ : I s) :
    (∀ es₁ es₂, es = es₁ ++ es₂ → I (run step s es₁)) ↔ Along step P s es :=
  prefixes_iff_along (A := fun _ => True) (fun _ _ _ _ _ => trivial)
    (fun s e _ hI => ⟨hbreak s e hI, hkeep s e hI⟩) trivial h₀

/-- **The preorder rule.**  If, under an invariant `I`, every guarded step goes
up in a reflexive and transitive relation `R`, so does every guarded run. -/
theorem rel_run {I : σ → Prop} {R : σ → σ → Prop} (hrefl : ∀ s, R s s)
    (htrans : ∀ {a b c}, R a b → R b c → R a c)
    (hinv : ∀ s e, I s → P s e → I (step s e))
    (hstep : ∀ s e, I s → P s e → R s (step s e))
    {s : σ} {es : List ε} (h₀ : I s) (hes : Along step P s es) : R s (run step s es) := by
  induction es generalizing s with
  | nil => exact hrefl s
  | cons e es ih =>
      have hfirst : R s (step s e) := hstep s e h₀ hes.1
      have hrest : R (step s e) (run step (step s e) es) :=
        ih (hinv s e h₀ hes.1) hes.2
      exact htrans hfirst hrest

/-- A run is guarded if each of its steps is. -/
theorem along_iff {s : σ} {es : List ε} :
    Along step P s es ↔ ∀ es₁ e es₂, es = es₁ ++ e :: es₂ → P (run step s es₁) e := by
  constructor
  · rintro hes es₁ e es₂ rfl
    exact (along_append.mp hes).2.1
  · intro hall
    induction es generalizing s with
    | nil => exact trivial
    | cons e es ih =>
        refine ⟨hall [] e es rfl, ih fun es₁ e' es₂ hsplit => ?_⟩
        exact hall (e :: es₁) e' es₂ (by rw [hsplit, List.cons_append])

/-! ## Runs with added state -/

section AddedState

variable {τ : Type*} {step' : τ → ε → τ} {f : σ → τ}

/-- A run without the added state. -/
theorem run_map (hf : ∀ s e, f (step s e) = step' (f s) e) {s : σ} {es : List ε} :
    f (run step s es) = run step' (f s) es := by
  induction es generalizing s with
  | nil => rfl
  | cons e es ih => rw [run_cons, run_cons, ih, hf]

/-- A guard that does not look at the added state. -/
theorem along_map (hf : ∀ s e, f (step s e) = step' (f s) e) {Q : τ → ε → Prop} {s : σ}
    {es : List ε} : Along step (fun s e => Q (f s) e) s es ↔ Along step' Q (f s) es := by
  induction es generalizing s with
  | nil => exact Iff.rfl
  | cons e es ih =>
      rw [along_cons, along_cons, ih, hf]

end AddedState

/-! ## Two runs -/

/-- A run whose events are all hidden keeps a relation that each hidden event
keeps. -/
theorem hidden_run {R : σ → σ → Prop} {hidden : ε → Bool}
    (hhid : ∀ s t e, R s t → hidden e = true → P t e → R s (step t e))
    {s t : σ} {es : List ε} (hall : es.filter (fun e => !hidden e) = [])
    (hes : Along step P t es) (h : R s t) : R s (run step t es) := by
  induction es generalizing t with
  | nil => exact h
  | cons e es ih =>
      cases hh : hidden e with
      | true =>
          refine ih ?_ hes.2 (hhid s t e h hh hes.1)
          simpa [hh] using hall
      | false => simp [hh] at hall

/-- **Unwinding.**  Suppose a hidden event, taken on either side alone, keeps
the relation `R`, and a visible event taken on both sides keeps it too.  Then
two guarded runs with the same visible events end in related states. -/
theorem unwinding {R : σ → σ → Prop} {hidden : ε → Bool}
    (hleft : ∀ s t e, R s t → hidden e = true → P s e → R (step s e) t)
    (hright : ∀ s t e, R s t → hidden e = true → P t e → R s (step t e))
    (hboth : ∀ s t e, R s t → hidden e = false → P s e → P t e → R (step s e) (step t e))
    {s t : σ} {es es' : List ε}
    (hsame : es.filter (fun e => !hidden e) = es'.filter (fun e => !hidden e))
    (hes : Along step P s es) (hes' : Along step P t es') (h : R s t) :
    R (run step s es) (run step t es') := by
  induction es generalizing s t es' with
  | nil => exact hidden_run hright hsame.symm hes' h
  | cons e es ih =>
      cases hh : hidden e with
      | true =>
          have hsame' : es.filter (fun e => !hidden e) = es'.filter (fun e => !hidden e) := by
            simpa [hh] using hsame
          exact ih hsame' hes.2 hes' (hleft s t e h hh hes.1)
      | false =>
          -- the second run reaches the same visible event after a hidden prefix
          have hsplit : (e :: es).filter (fun e => !hidden e)
              = e :: es.filter (fun e => !hidden e) := by simp [hh]
          rw [hsplit] at hsame
          obtain ⟨pre, post, hes'_eq, hpre, -, hpost⟩ :=
            List.filter_eq_cons_iff.mp hsame.symm
          subst hes'_eq
          obtain ⟨hesPre, hesPost⟩ := along_append.mp hes'
          have hnone : pre.filter (fun e => !hidden e) = [] := by
            rw [List.filter_eq_nil_iff]; exact hpre
          have hmid : R s (run step t pre) := hidden_run hright hnone hesPre h
          simp only [run_append, run_cons]
          exact ih hpost.symm hes.2 hesPost.2 (hboth s _ e hmid hh hes.1 hesPost.1)

end Runs
