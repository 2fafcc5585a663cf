/-
# Interleaved calls over a shared world

A call is a sequence of atomic steps.  Its first step (`invoke`) and each later
one (`resume`) read and write the shared world and either return or leave a
local state behind, to be resumed later.  Any number of calls are pending at a
time, and an event says which of them moves next, so a list of events is an
arbitrary interleaving.

`Outline` is the proof rule: an invariant `I` of the world and an assertion `J`
about the world and the local state of a pending call.  Each step must establish
`I` and the assertion of the call that moves, and must not disturb the assertion
of any other pending call.
-/
import NoderaxApi.Runs
import Mathlib.Logic.Function.Basic

namespace Interleaving

open Runs

/-! ## Calls, configurations and their steps -/

/-- The code of a family of calls: requests `Req`, local states `L`, and the
input `Inp` (clock readings, random values) each atomic step receives. -/
structure Calls (W Req L Inp : Type*) where
  invoke : Req → Inp → W → W × Option L
  resume : L → Inp → W → W × Option L

/-- The shared world and the local state of each pending call. -/
structure Config (P W L : Type*) where
  world : W
  pending : P → Option L

/-- What happens next: a new call, one step of a pending call, or a step of the
environment. -/
inductive Event (P Req Inp Env : Type*)
  | invoke (p : P) (req : Req) (inp : Inp)
  | resume (p : P) (inp : Inp)
  | env (e : Env)

variable {P W Req L Inp Env : Type*}

/-- No call is pending. -/
def Config.idle (w : W) : Config P W L := ⟨w, fun _ => none⟩

@[simp] theorem Config.idle_world (w : W) : (Config.idle w : Config P W L).world = w := rfl

@[simp] theorem Config.idle_pending (w : W) (p : P) :
    (Config.idle w : Config P W L).pending p = none := rfl

/-- The invariant of the world, and the assertion of every pending call. -/
def Good (I : W → Prop) (J : W → L → Prop) (c : Config P W L) : Prop :=
  I c.world ∧ ∀ p l, c.pending p = some l → J c.world l

theorem good_idle {I : W → Prop} {J : W → L → Prop} {w : W} (hw : I w) :
    Good I J (Config.idle w : Config P W L) :=
  ⟨hw, fun p l h => by simp at h⟩

variable [DecidableEq P]

/-- One event.  A call identifier in use is not given to a second call, and
resuming a call that is not pending does nothing. -/
def step (C : Calls W Req L Inp) (env : Env → W → W) (c : Config P W L) :
    Event P Req Inp Env → Config P W L
  | .invoke p req inp =>
      match c.pending p with
      | some _ => c
      | none =>
          ⟨(C.invoke req inp c.world).1,
            Function.update c.pending p (C.invoke req inp c.world).2⟩
  | .resume p inp =>
      match c.pending p with
      | none => c
      | some l =>
          ⟨(C.resume l inp c.world).1,
            Function.update c.pending p (C.resume l inp c.world).2⟩
  | .env e => ⟨env e c.world, c.pending⟩

variable {C : Calls W Req L Inp} {env : Env → W → W}

@[simp] theorem step_env (c : Config P W L) (e : Env) :
    step C env c (.env e) = ⟨env e c.world, c.pending⟩ := rfl

theorem step_invoke {c : Config P W L} {p : P} {req : Req} {inp : Inp}
    (hp : c.pending p = none) :
    step C env c (.invoke p req inp)
      = ⟨(C.invoke req inp c.world).1,
          Function.update c.pending p (C.invoke req inp c.world).2⟩ := by
  simp only [step, hp]

theorem step_invoke_busy {c : Config P W L} {p : P} {l : L} {req : Req} {inp : Inp}
    (hp : c.pending p = some l) : step C env c (.invoke p req inp) = c := by
  simp only [step, hp]

theorem step_resume {c : Config P W L} {p : P} {l : L} {inp : Inp}
    (hp : c.pending p = some l) :
    step C env c (.resume p inp)
      = ⟨(C.resume l inp c.world).1,
          Function.update c.pending p (C.resume l inp c.world).2⟩ := by
  simp only [step, hp]

theorem step_resume_idle {c : Config P W L} {p : P} {inp : Inp}
    (hp : c.pending p = none) : step C env c (.resume p inp) = c := by
  simp only [step, hp]

/-- A pending call waits where it is until it is resumed. -/
theorem step_pending_of_ne {c : Config P W L} {e : Event P Req Inp Env} {p : P} {l : L}
    (hp : c.pending p = some l) (he : ∀ inp, e ≠ .resume p inp) :
    (step C env c e).pending p = some l := by
  cases e with
  | invoke q req inp =>
      cases hq : c.pending q with
      | some l' => rw [step_invoke_busy hq]; exact hp
      | none =>
          have hqp : p ≠ q := fun h => by rw [h, hq] at hp; exact absurd hp (by simp)
          rw [step_invoke hq]
          exact (Function.update_of_ne hqp _ _).trans hp
  | resume q inp =>
      have hqp : p ≠ q := fun h => he inp (by rw [h])
      cases hq : c.pending q with
      | none => rw [step_resume_idle hq]; exact hp
      | some l' =>
          rw [step_resume hq]
          exact (Function.update_of_ne hqp _ _).trans hp
  | env e => exact hp

/-- The environment of a system whose calls are all that moves. -/
def noEnv : Empty → W → W := fun e _ => e.elim

/-! ## Guards -/

/-- Conditions on the single steps, gathered into a guard on events. -/
def Guard (Gi : W → Req → Inp → Prop) (Gr : W → L → Inp → Prop) (Ge : W → Env → Prop)
    (c : Config P W L) : Event P Req Inp Env → Prop
  | .invoke p req inp => (c.pending p).isNone = true → Gi c.world req inp
  | .resume p inp => ∀ l ∈ c.pending p, Gr c.world l inp
  | .env e => Ge c.world e

instance Guard.decidable (Gi : W → Req → Inp → Prop) (Gr : W → L → Inp → Prop) (Ge : W → Env → Prop)
    [∀ w req inp, Decidable (Gi w req inp)] [∀ w l inp, Decidable (Gr w l inp)]
    [∀ w e, Decidable (Ge w e)] (c : Config P W L) :
    (e : Event P Req Inp Env) → Decidable (Guard Gi Gr Ge c e)
  | .invoke p req inp =>
      inferInstanceAs (Decidable ((c.pending p).isNone = true → Gi c.world req inp))
  | .resume p inp => inferInstanceAs (Decidable (∀ l ∈ c.pending p, Gr c.world l inp))
  | .env e => inferInstanceAs (Decidable (Ge c.world e))

/-- A guard on the resumed steps only. -/
def ResumeGuard (Gr : W → L → Inp → Prop) : Config P W L → Event P Req Inp Env → Prop :=
  Guard (fun _ _ _ => True) Gr (fun _ _ => True)

instance ResumeGuard.decidable (Gr : W → L → Inp → Prop) [∀ w l inp, Decidable (Gr w l inp)]
    (c : Config P W L) (e : Event P Req Inp Env) : Decidable (ResumeGuard Gr c e) := by
  unfold ResumeGuard; infer_instance

omit [DecidableEq P] in
/-- What a guard on the resumed steps says of one. -/
theorem ResumeGuard.resume_iff {Gr : W → L → Inp → Prop} {c : Config P W L} {p : P} {l : L}
    (hp : c.pending p = some l) (inp : Inp) :
    ResumeGuard Gr c (.resume p inp : Event P Req Inp Env) ↔ Gr c.world l inp := by
  refine ⟨fun h => h l hp, fun h l' hl' => ?_⟩
  rw [hp] at hl'
  exact Option.some.inj hl' ▸ h

/-- **The exact guard of one event.**  If the conditions on the single steps say exactly
which of them keep a property of the world, the guard says which events do. -/
theorem world_step_iff {Gi : W → Req → Inp → Prop} {Gr : W → L → Inp → Prop} {Ge : W → Env → Prop}
    {I : W → Prop} {c : Config P W L} (hI : I c.world)
    (hinvoke : ∀ req inp, I (C.invoke req inp c.world).1 ↔ Gi c.world req inp)
    (hresume : ∀ l inp, I (C.resume l inp c.world).1 ↔ Gr c.world l inp)
    (henv : ∀ e, I (env e c.world) ↔ Ge c.world e) (e : Event P Req Inp Env) :
    I (step C env c e).world ↔ Guard Gi Gr Ge c e := by
  cases e with
  | invoke p req inp =>
      cases hp : c.pending p with
      | some l =>
          rw [step_invoke_busy hp]
          refine iff_of_true hI fun hfree => ?_
          rw [hp] at hfree
          exact absurd hfree (by simp)
      | none =>
          rw [step_invoke hp]
          refine (hinvoke req inp).trans ⟨fun hg _ => hg, fun hg => hg ?_⟩
          rw [hp]
          rfl
  | resume p inp =>
      cases hp : c.pending p with
      | none =>
          rw [step_resume_idle hp]
          refine iff_of_true hI fun l hl => ?_
          rw [hp] at hl
          exact absurd hl (by simp)
      | some l =>
          rw [step_resume hp]
          refine (hresume l inp).trans ⟨fun hg l' hl' => ?_, fun hg => hg l hp⟩
          rw [hp] at hl'
          obtain rfl := Option.some.inj hl'
          exact hg
  | env e => exact henv e

/-! ## The proof rule -/

/-- A proof outline of a family of calls: what each step establishes, and that
it does not interfere with the assertions of the other calls. -/
structure Outline (C : Calls W Req L Inp) (env : Env → W → W)
    (Gi : W → Req → Inp → Prop) (Gr : W → L → Inp → Prop) (Ge : W → Env → Prop)
    (I : W → Prop) (J : W → L → Prop) : Prop where
  invoke : ∀ {w req inp}, I w → Gi w req inp →
    I (C.invoke req inp w).1 ∧
      ∀ l, (C.invoke req inp w).2 = some l → J (C.invoke req inp w).1 l
  resume : ∀ {w l inp}, I w → J w l → Gr w l inp →
    I (C.resume l inp w).1 ∧
      ∀ l', (C.resume l inp w).2 = some l' → J (C.resume l inp w).1 l'
  environment : ∀ {w e}, I w → Ge w e → I (env e w)
  invoke_stable : ∀ {w req inp l}, I w → Gi w req inp → J w l → J (C.invoke req inp w).1 l
  resume_stable : ∀ {w l inp l'}, I w → J w l → Gr w l inp → J w l' → J (C.resume l inp w).1 l'
  environment_stable : ∀ {w e l}, I w → Ge w e → J w l → J (env e w) l

variable {Gi : W → Req → Inp → Prop} {Gr : W → L → Inp → Prop} {Ge : W → Env → Prop}
  {I : W → Prop} {J : W → L → Prop}

/-- After one call moved, every pending call satisfies its assertion again. -/
theorem pending_update {pending : P → Option L} {w' : W} {p : P} {next : Option L}
    (hself : ∀ l, next = some l → J w' l)
    (hother : ∀ q l, pending q = some l → J w' l) :
    ∀ q l, Function.update pending p next q = some l → J w' l := by
  intro q l hq
  by_cases hqp : q = p
  · subst hqp
    rw [Function.update_self] at hq
    exact hself l hq
  · rw [Function.update_of_ne hqp] at hq
    exact hother q l hq

/-- **One event keeps a proof outline.** -/
theorem Outline.step (h : Outline C env Gi Gr Ge I J) (c : Config P W L)
    (e : Event P Req Inp Env) (hc : Good I J c) (hg : Guard Gi Gr Ge c e) :
    Good I J (step C env c e) := by
  obtain ⟨hI, hJ⟩ := hc
  cases e with
  | invoke p req inp =>
      cases hp : c.pending p with
      | some l => rw [step_invoke_busy hp]; exact ⟨hI, hJ⟩
      | none =>
          have hGi : Gi c.world req inp := hg (by rw [hp]; rfl)
          rw [step_invoke hp]
          obtain ⟨hI', hself⟩ := h.invoke hI hGi
          refine ⟨hI', pending_update hself fun q l hq => ?_⟩
          exact h.invoke_stable hI hGi (hJ q l hq)
  | resume p inp =>
      cases hp : c.pending p with
      | none => rw [step_resume_idle hp]; exact ⟨hI, hJ⟩
      | some l =>
          rw [step_resume hp]
          obtain ⟨hI', hself⟩ := h.resume hI (hJ p l hp) (hg l hp)
          refine ⟨hI', pending_update hself fun q l' hq => ?_⟩
          exact h.resume_stable hI (hJ p l hp) (hg l hp) (hJ q l' hq)
  | env e =>
      rw [step_env]
      exact ⟨h.environment hI hg, fun q l hq => h.environment_stable hI hg (hJ q l hq)⟩

/-- **Every guarded interleaving keeps a proof outline.** -/
theorem Outline.run (h : Outline C env Gi Gr Ge I J) {c : Config P W L}
    {es : List (Event P Req Inp Env)} (hc : Good I J c)
    (hes : Along (Interleaving.step C env) (Guard Gi Gr Ge) c es) :
    Good I J (Runs.run (Interleaving.step C env) c es) :=
  inv_run (fun c e hc hg => h.step c e hc hg) hc hes

/-- One event keeps a proof outline that asks nothing of the steps. -/
theorem Outline.step_all {C : Calls W Req L Inp} {env : Env → W → W}
    (h : Outline C env (fun _ _ _ => True) (fun _ _ _ => True) (fun _ _ => True) I J)
    (c : Config P W L) (e : Event P Req Inp Env) (hc : Good I J c) :
    Good I J (Interleaving.step C env c e) := by
  refine h.step c e hc ?_
  cases e with
  | invoke p req inp => exact fun _ => trivial
  | resume p inp => exact fun _ _ => trivial
  | env e => exact trivial

/-- Every interleaving keeps a proof outline that asks nothing of the steps. -/
theorem Outline.run_all {C : Calls W Req L Inp} {env : Env → W → W}
    (h : Outline C env (fun _ _ _ => True) (fun _ _ _ => True) (fun _ _ => True) I J)
    {c : Config P W L} (es : List (Event P Req Inp Env)) (hc : Good I J c) :
    Good I J (Runs.run (Interleaving.step C env) c es) :=
  inv_run' (fun c e hc => h.step_all c e hc) hc

/-- What a proof outline says about the worlds of a run: if each step goes up in
a preorder on worlds, the run does. -/
theorem Outline.rel_run {R : W → W → Prop} (h : Outline C env Gi Gr Ge I J)
    (hrefl : ∀ w, R w w) (htrans : ∀ {a b c}, R a b → R b c → R a c)
    (hinvoke : ∀ {w req inp}, I w → Gi w req inp → R w (C.invoke req inp w).1)
    (hresume : ∀ {w l inp}, I w → J w l → Gr w l inp → R w (C.resume l inp w).1)
    (henv : ∀ {w e}, I w → Ge w e → R w (env e w))
    {c : Config P W L} {es : List (Event P Req Inp Env)} (hc : Good I J c)
    (hes : Along (Interleaving.step C env) (Guard Gi Gr Ge) c es) :
    R c.world (Runs.run (Interleaving.step C env) c es).world := by
  refine Runs.rel_run (I := Good I J) (R := fun c d => R c.world d.world)
    (fun c => hrefl c.world) htrans (fun c e hc hg => h.step c e hc hg) ?_ hc hes
  intro c e hc hg
  cases e with
  | invoke p req inp =>
      cases hp : c.pending p with
      | some l => rw [step_invoke_busy hp]; exact hrefl _
      | none => rw [step_invoke hp]; exact hinvoke hc.1 (hg (by rw [hp]; rfl))
  | resume p inp =>
      cases hp : c.pending p with
      | none => rw [step_resume_idle hp]; exact hrefl _
      | some l => rw [step_resume hp]; exact hresume hc.1 (hc.2 p l hp) (hg l hp)
  | env e => exact henv hc.1 hg

/-! ## Calls that only ever go up -/

/-- A step establishes the invariant and the assertion of the call that moves, and goes up in a
relation of worlds. -/
structure Ascends (R : W → W → Prop) (I : W → Prop) (J : W → L → Prop) (w : W)
    (next : W × Option L) : Prop where
  invariant : I next.1
  ascent : R w next.1
  pending : ∀ l, next.2 = some l → J next.1 l

/-- A proof outline whose assertions are kept along a preorder of worlds in which every step
goes up: so no step disturbs the assertion of another call. -/
structure MonotoneOutline (C : Calls W Req L Inp) (env : Env → W → W)
    (Gi : W → Req → Inp → Prop) (Gr : W → L → Inp → Prop) (Ge : W → Env → Prop)
    (R : W → W → Prop) (I : W → Prop) (J : W → L → Prop) : Prop where
  refl : ∀ w, R w w
  trans : ∀ {a b c}, R a b → R b c → R a c
  mono : ∀ {w w' l}, R w w' → J w l → J w' l
  invoke : ∀ {w req inp}, I w → Gi w req inp → Ascends R I J w (C.invoke req inp w)
  resume : ∀ {w l inp}, I w → J w l → Gr w l inp → Ascends R I J w (C.resume l inp w)
  environment : ∀ {w e}, I w → Ge w e → I (env e w) ∧ R w (env e w)

variable {R : W → W → Prop}

theorem MonotoneOutline.outline (h : MonotoneOutline C env Gi Gr Ge R I J) :
    Outline C env Gi Gr Ge I J where
  invoke hI hg := ⟨(h.invoke hI hg).invariant, (h.invoke hI hg).pending⟩
  resume hI hJ hg := ⟨(h.resume hI hJ hg).invariant, (h.resume hI hJ hg).pending⟩
  environment hI hg := (h.environment hI hg).1
  invoke_stable hI hg hJ := h.mono (h.invoke hI hg).ascent hJ
  resume_stable hI hJ hg hJ' := h.mono (h.resume hI hJ hg).ascent hJ'
  environment_stable hI hg hJ := h.mono (h.environment hI hg).2 hJ

/-- **Every guarded interleaving keeps the outline and goes up.** -/
theorem MonotoneOutline.run (h : MonotoneOutline C env Gi Gr Ge R I J) {c : Config P W L}
    {es : List (Event P Req Inp Env)} (hc : Good I J c)
    (hes : Along (Interleaving.step C env) (Guard Gi Gr Ge) c es) :
    Good I J (Runs.run (Interleaving.step C env) c es) ∧
      R c.world (Runs.run (Interleaving.step C env) c es).world :=
  ⟨h.outline.run hc hes, h.outline.rel_run h.refl h.trans (fun hI hg => (h.invoke hI hg).ascent)
    (fun hI hJ hg => (h.resume hI hJ hg).ascent) (fun hI hg => (h.environment hI hg).2) hc hes⟩

/-- Every interleaving does, where nothing is asked of the steps. -/
theorem MonotoneOutline.run_all {C : Calls W Req L Inp} {env : Env → W → W}
    (h : MonotoneOutline C env (fun _ _ _ => True) (fun _ _ _ => True) (fun _ _ => True) R I J)
    {c : Config P W L} (es : List (Event P Req Inp Env)) (hc : Good I J c) :
    Good I J (Runs.run (Interleaving.step C env) c es) ∧
      R c.world (Runs.run (Interleaving.step C env) c es).world := by
  refine h.run hc (along_iff.mpr fun es₁ e es₂ _ => ?_)
  cases e with
  | invoke p req inp => exact fun _ => trivial
  | resume p inp => exact fun _ _ => trivial
  | env e => exact trivial

/-! ## Calls that exclude each other -/

/-- Any two pending calls are in the relation `X`. -/
def Excluding (X : L → L → Prop) (c : Config P W L) : Prop :=
  ∀ p q l l', p ≠ q → c.pending p = some l → c.pending q = some l' → X l l'

/-- A proof outline of calls that exclude each other: a step may rely on `X` between the call
that moves and any other one, and establishes it for the call that has moved. -/
structure ExclusiveOutline (C : Calls W Req L Inp) (env : Env → W → W)
    (Gi : W → Req → Inp → Prop) (Gr : W → L → Inp → Prop) (Ge : W → Env → Prop)
    (I : W → Prop) (J : W → L → Prop) (X : L → L → Prop) : Prop where
  symm : ∀ {l l'}, X l l' → X l' l
  invoke : ∀ {w req inp}, I w → Gi w req inp →
    I (C.invoke req inp w).1 ∧ ∀ l, (C.invoke req inp w).2 = some l →
      J (C.invoke req inp w).1 l ∧ ∀ other, J w other → X l other
  resume : ∀ {w l inp}, I w → J w l → Gr w l inp →
    I (C.resume l inp w).1 ∧ ∀ l', (C.resume l inp w).2 = some l' →
      J (C.resume l inp w).1 l' ∧ ∀ other, J w other → X l other → X l' other
  environment : ∀ {w e}, I w → Ge w e → I (env e w)
  invoke_stable : ∀ {w req inp l}, I w → Gi w req inp → J w l → J (C.invoke req inp w).1 l
  resume_stable : ∀ {w l inp l'}, I w → J w l → Gr w l inp → J w l' → X l l' →
    J (C.resume l inp w).1 l'
  environment_stable : ∀ {w e l}, I w → Ge w e → J w l → J (env e w) l

variable {X : L → L → Prop}

/-- After one call moved, any two pending calls exclude each other again. -/
theorem excluding_update {w w' : W} {pending : P → Option L} {p : P} {next : Option L}
    (hsymm : ∀ {l l'}, X l l' → X l' l) (hX : Excluding X (Config.mk w pending))
    (hself : ∀ l, next = some l → ∀ q other, q ≠ p → pending q = some other → X l other) :
    Excluding X (Config.mk w' (Function.update pending p next)) := by
  intro q r l l' hqr hq hr
  by_cases hqp : q = p
  · subst hqp
    simp only [Function.update_self] at hq
    simp only [Function.update_of_ne hqr.symm] at hr
    exact hself l hq r l' hqr.symm hr
  · simp only [Function.update_of_ne hqp] at hq
    by_cases hrp : r = p
    · subst hrp
      simp only [Function.update_self] at hr
      exact hsymm (hself l' hr q l hqp hq)
    · simp only [Function.update_of_ne hrp] at hr
      exact hX q r l l' hqr hq hr

/-- **One event keeps a proof outline of calls that exclude each other.** -/
theorem ExclusiveOutline.step (h : ExclusiveOutline C env Gi Gr Ge I J X) (c : Config P W L)
    (e : Event P Req Inp Env) (hc : Good I J c ∧ Excluding X c) (hg : Guard Gi Gr Ge c e) :
    Good I J (Interleaving.step C env c e) ∧ Excluding X (Interleaving.step C env c e) := by
  obtain ⟨⟨hI, hJ⟩, hX⟩ := hc
  cases e with
  | invoke p req inp =>
      cases hp : c.pending p with
      | some l =>
          rw [step_invoke_busy hp]
          exact ⟨⟨hI, hJ⟩, hX⟩
      | none =>
          have hGi : Gi c.world req inp := hg (by rw [hp]; rfl)
          rw [step_invoke hp]
          obtain ⟨hI', hself⟩ := h.invoke hI hGi
          refine ⟨⟨hI', pending_update (fun l hl => (hself l hl).1) fun q l hq => ?_⟩, ?_⟩
          · exact h.invoke_stable hI hGi (hJ q l hq)
          · refine excluding_update h.symm hX fun l hl q other _ hq => ?_
            exact (hself l hl).2 other (hJ q other hq)
  | resume p inp =>
      cases hp : c.pending p with
      | none =>
          rw [step_resume_idle hp]
          exact ⟨⟨hI, hJ⟩, hX⟩
      | some l =>
          rw [step_resume hp]
          obtain ⟨hI', hself⟩ := h.resume hI (hJ p l hp) (hg l hp)
          refine ⟨⟨hI', ?_⟩, ?_⟩
          · -- the other calls keep their assertions because the one that moved excludes them
            intro q l' hq
            by_cases hqp : q = p
            · subst hqp
              simp only [Function.update_self] at hq
              exact (hself l' hq).1
            · simp only [Function.update_of_ne hqp] at hq
              have hpq : p ≠ q := fun heq => hqp heq.symm
              exact h.resume_stable hI (hJ p l hp) (hg l hp) (hJ q l' hq) (hX p q l l' hpq hp hq)
          · refine excluding_update h.symm hX fun l' hl' q other hqp hq => ?_
            exact (hself l' hl').2 other (hJ q other hq) (hX p q l other hqp.symm hp hq)
  | env e =>
      rw [step_env]
      exact ⟨⟨h.environment hI hg, fun q l hq => h.environment_stable hI hg (hJ q l hq)⟩, hX⟩

/-! ## Calls that remember what they read -/

section Remembering

variable {M : Type*}

/-- The same calls, each with a memory of what its steps read beside its local state.  The
memory is for conditions to look at: no step does. -/
def Calls.remembering (C : Calls W Req L Inp) (start : Req → Inp → W → M)
    (note : M → L → Inp → W → M) : Calls W Req (L × M) Inp where
  invoke req inp w :=
    ((C.invoke req inp w).1, (C.invoke req inp w).2.map fun l => (l, start req inp w))
  resume l inp w :=
    ((C.resume l.1 inp w).1, (C.resume l.1 inp w).2.map fun l' => (l', note l.2 l.1 inp w))

omit [DecidableEq P] in
/-- The state without the memories. -/
def Config.forget (c : Config P W (L × M)) : Config P W L :=
  ⟨c.world, fun p => (c.pending p).map Prod.fst⟩

omit [DecidableEq P] in
@[simp] theorem Config.forget_world (c : Config P W (L × M)) : c.forget.world = c.world := rfl

omit [DecidableEq P] in
@[simp] theorem Config.forget_idle (w : W) :
    (Config.idle w : Config P W (L × M)).forget = Config.idle w := rfl

variable {start : Req → Inp → W → M} {note : M → L → Inp → W → M}

theorem Config.forget_update (w : W) (pending : P → Option (L × M)) (p : P)
    (next : Option (L × M)) :
    (Config.mk w (Function.update pending p next)).forget
      = ⟨w, Function.update (fun q => (pending q).map Prod.fst) p (next.map Prod.fst)⟩ := by
  simp only [Config.forget, Config.mk.injEq, true_and]
  funext q
  by_cases hq : q = p
  · rw [hq, Function.update_self, Function.update_self]
  · rw [Function.update_of_ne hq, Function.update_of_ne hq]

/-- The memories change nothing of a step. -/
theorem forget_step (c : Config P W (L × M)) (e : Event P Req Inp Env) :
    (step (C.remembering start note) env c e).forget = step C env c.forget e := by
  have hdrop : ∀ (next : Option L) (m : M), (next.map fun l => (l, m)).map Prod.fst = next := by
    intro next m
    cases next with
    | none => rfl
    | some l => rfl
  cases e with
  | invoke p req inp =>
      cases hp : c.pending p with
      | some l =>
          have hp' : c.forget.pending p = some l.1 := by simp [Config.forget, hp]
          rw [step_invoke_busy hp, step_invoke_busy hp']
      | none =>
          have hp' : c.forget.pending p = none := by simp [Config.forget, hp]
          rw [step_invoke hp, step_invoke hp', Config.forget_update]
          simp only [Calls.remembering, hdrop]
          rfl
  | resume p inp =>
      cases hp : c.pending p with
      | none =>
          have hp' : c.forget.pending p = none := by simp [Config.forget, hp]
          rw [step_resume_idle hp, step_resume_idle hp']
      | some l =>
          have hp' : c.forget.pending p = some l.1 := by simp [Config.forget, hp]
          rw [step_resume hp, step_resume hp', Config.forget_update]
          simp only [Calls.remembering, hdrop]
          rfl
  | env e => rfl

/-- The memories change nothing of a run. -/
theorem forget_run (c : Config P W (L × M)) (es : List (Event P Req Inp Env)) :
    (Runs.run (step (C.remembering start note) env) c es).forget
      = Runs.run (step C env) c.forget es :=
  run_map forget_step

/-- **The outline of calls that remember.**  The assertion of a call may speak of its
memory. -/
theorem outline_remembering {Gr : W → L × M → Inp → Prop} {J : W → L × M → Prop}
    (hinvoke : ∀ {w req inp}, I w → Gi w req inp →
      I (C.invoke req inp w).1 ∧ ∀ l, (C.invoke req inp w).2 = some l →
        J (C.invoke req inp w).1 (l, start req inp w))
    (hresume : ∀ {w l m inp}, I w → J w (l, m) → Gr w (l, m) inp →
      I (C.resume l inp w).1 ∧ ∀ l', (C.resume l inp w).2 = some l' →
        J (C.resume l inp w).1 (l', note m l inp w))
    (henv : ∀ {w e}, I w → Ge w e → I (env e w))
    (hinvoke_stable : ∀ {w req inp l}, I w → Gi w req inp → J w l → J (C.invoke req inp w).1 l)
    (hresume_stable : ∀ {w l m inp l'}, I w → J w (l, m) → Gr w (l, m) inp → J w l' →
      J (C.resume l inp w).1 l')
    (henv_stable : ∀ {w e l}, I w → Ge w e → J w l → J (env e w) l) :
    Outline (C.remembering start note) env Gi Gr Ge I J where
  invoke hI hg := by
    refine ⟨(hinvoke hI hg).1, fun l hl => ?_⟩
    obtain ⟨l', hl', rfl⟩ := Option.map_eq_some_iff.mp hl
    exact (hinvoke hI hg).2 l' hl'
  resume hI hJ hg := by
    refine ⟨(hresume hI hJ hg).1, fun l hl => ?_⟩
    obtain ⟨l', hl', rfl⟩ := Option.map_eq_some_iff.mp hl
    exact (hresume hI hJ hg).2 l' hl'
  environment := henv
  invoke_stable := hinvoke_stable
  resume_stable hI hJ hg hJ' := hresume_stable hI hJ hg hJ'
  environment_stable := henv_stable

/-- **What calls that remember keep, the calls themselves keep.** -/
theorem Outline.run_remembering {Gr : W → L × M → Inp → Prop} {J : W → L × M → Prop}
    (h : Outline (C.remembering start note) env Gi Gr Ge I J) {w : W}
    {es : List (Event P Req Inp Env)} (hw : I w)
    (hes : Along (Interleaving.step (C.remembering start note) env) (Guard Gi Gr Ge)
      (Config.idle w) es) :
    I (Runs.run (Interleaving.step C env) (Config.idle w : Config P W L) es).world := by
  have hgood := (h.run (good_idle hw) hes).1
  rw [← Config.forget_world, forget_run, Config.forget_idle] at hgood
  exact hgood

/-- **What a condition on the memories gives.**  Where the outline and the conditions on the
calls that remember imply other conditions on the calls themselves, a run under the former is
one under the latter. -/
theorem Outline.along_remembering {Gr : W → L × M → Inp → Prop} {J : W → L × M → Prop}
    {Gi' : W → Req → Inp → Prop} {Gr' : W → L → Inp → Prop} {Ge' : W → Env → Prop}
    (h : Outline (C.remembering start note) env Gi Gr Ge I J)
    (hinvoke : ∀ {w req inp}, I w → Gi w req inp → Gi' w req inp)
    (hresume : ∀ {w l m inp}, I w → J w (l, m) → Gr w (l, m) inp → Gr' w l inp)
    (henv : ∀ {w e}, I w → Ge w e → Ge' w e) {c : Config P W (L × M)}
    {es : List (Event P Req Inp Env)} (hc : Good I J c)
    (hes : Along (Interleaving.step (C.remembering start note) env) (Guard Gi Gr Ge) c es) :
    Along (Interleaving.step C env) (Guard Gi' Gr' Ge') c.forget es := by
  induction es generalizing c with
  | nil => exact trivial
  | cons e es ih =>
      obtain ⟨hguard, hrest⟩ := hes
      refine ⟨?_, forget_step c e ▸ ih (h.step c e hc hguard) hrest⟩
      cases e with
      | invoke p req inp =>
          intro hfree
          refine hinvoke hc.1 (hguard ?_)
          simpa [Config.forget] using hfree
      | resume p inp =>
          intro l hl
          obtain ⟨⟨l', m⟩, hp, rfl⟩ := Option.map_eq_some_iff.mp hl
          exact hresume hc.1 (hc.2 p _ hp) (hguard _ hp)
      | env e => exact henv hc.1 hguard

end Remembering

/-! ## A call whose steps follow each other -/

omit [DecidableEq P] in
/-- The call that an event moves. -/
def Event.caller? : Event P Req Inp Env → Option P
  | .invoke p _ _ | .resume p _ => some p
  | .env _ => none

/-- A call that no event of a run moves stays where it is. -/
theorem run_pending_of_others {c : Config P W L} {es : List (Event P Req Inp Env)} {p : P}
    (hes : ∀ e ∈ es, e.caller? ≠ some p) :
    (Runs.run (step C env) c es).pending p = c.pending p := by
  induction es generalizing c with
  | nil => rfl
  | cons e rest ih =>
      have hne : e.caller? ≠ some p := hes e List.mem_cons_self
      rw [run_cons, ih fun e' he' => hes e' (List.mem_cons_of_mem e he')]
      cases e with
      | invoke q req inp =>
          have hpq : p ≠ q := fun heq => hne (heq ▸ rfl)
          cases hq : c.pending q with
          | some l => rw [step_invoke_busy hq]
          | none =>
              rw [step_invoke hq]
              exact Function.update_of_ne hpq _ _
      | resume q inp =>
          have hpq : p ≠ q := fun heq => hne (heq ▸ rfl)
          cases hq : c.pending q with
          | none => rw [step_resume_idle hq]
          | some l =>
              rw [step_resume hq]
              exact Function.update_of_ne hpq _ _
      | env e => rw [step_env]

/-- No event of a run changes what `view` shows of the world. -/
def Keeps {V : Type*} (C : Calls W Req L Inp) (env : Env → W → W) (view : W → V) :
    Config P W L → List (Event P Req Inp Env) → Prop :=
  Along (step C env) fun c e => view (step C env c e).world = view c.world

theorem Keeps.world_eq {V : Type*} {view : W → V} {c : Config P W L}
    {es : List (Event P Req Inp Env)} (h : Keeps C env view c es) :
    view (Runs.run (step C env) c es).world = view c.world := by
  induction es generalizing c with
  | nil => rfl
  | cons e rest ih => exact (ih h.2).trans h.1

/-- **A read that nothing disturbs.**  While a call waits, others move and none of them
changes what it has read: what its next step could rely on at the read, it can rely on. -/
theorem Keeps.resumeGuard {V : Type*} {view : W → V} {Gr : W → L → Inp → Prop} {c : Config P W L}
    {es : List (Event P Req Inp Env)} {p : P} {inp : Inp} (h : Keeps C env view c es)
    (hes : ∀ e ∈ es, e.caller? ≠ some p)
    (hread : ∀ l, c.pending p = some l → ∀ w, view w = view c.world → Gr w l inp) :
    ResumeGuard Gr (Runs.run (step C env) c es) (.resume p inp : Event P Req Inp Env) := by
  intro l hl
  rw [run_pending_of_others hes] at hl
  exact hread l hl _ h.world_eq

/-- Up to `n` later steps of one call, with nothing in between. -/
def Calls.resumes (C : Calls W Req L Inp) (inp : Inp) : ℕ → W × Option L → W × Option L
  | 0, next => next
  | _ + 1, (w, none) => (w, none)
  | n + 1, (w, some l) => C.resumes inp n (C.resume l inp w)

@[simp] theorem Calls.resumes_none (C : Calls W Req L Inp) (inp : Inp) (n : ℕ) (w : W) :
    C.resumes inp n (w, none) = (w, none) := by
  cases n <;> rfl

/-- Resuming one call `n` times, in any state of the others. -/
theorem run_resumes (pending : P → Option L) (p : P) (inp : Inp) (n : ℕ) (next : W × Option L) :
    Runs.run (step C env) ⟨next.1, Function.update pending p next.2⟩
        (List.replicate n (.resume p inp))
      = ⟨(C.resumes inp n next).1, Function.update pending p (C.resumes inp n next).2⟩ := by
  induction n generalizing next with
  | zero => rfl
  | succ n ih =>
      obtain ⟨w, _ | l⟩ := next
      · rw [List.replicate_succ, run_cons, step_resume_idle (Function.update_self p none pending)]
        exact (ih (w, none)).trans (by rw [C.resumes_none, C.resumes_none])
      · rw [List.replicate_succ, run_cons, step_resume (Function.update_self p (some l) pending),
          Function.update_idem]
        exact ih (C.resume l inp w)

/-- A call from its start. -/
theorem run_call {c : Config P W L} {p : P} (hp : c.pending p = none) (req : Req) (inp : Inp)
    (n : ℕ) :
    (Runs.run (step C env) c (.invoke p req inp :: List.replicate n (.resume p inp))).world
      = (C.resumes inp n (C.invoke req inp c.world)).1 := by
  rw [run_cons, step_invoke hp, run_resumes]

/-! ## Calls that run alone -/

/-- A condition on the world between two calls, and an assertion for the call that is
running. -/
def Alone (I : W → Prop) (J : W → L → Prop) (c : Config Unit W L) : Prop :=
  match c.pending () with
  | none => I c.world
  | some l => J c.world l

/-- The condition or the assertion, after a step of the call. -/
def Next (I : W → Prop) (J : W → L → Prop) (next : W × Option L) : Prop :=
  match next.2 with
  | none => I next.1
  | some l => J next.1 l

/-- The guard of calls that run alone: the environment moves between them only. -/
def AloneGuard (Gi : W → Req → Inp → Prop) (Gr : W → L → Inp → Prop) (Ge : W → Env → Prop)
    (c : Config Unit W L) : Event Unit Req Inp Env → Prop
  | .invoke _ req inp => (c.pending ()).isNone = true → Gi c.world req inp
  | .resume _ inp => ∀ l ∈ c.pending (), Gr c.world l inp
  | .env e => (c.pending ()).isNone = true ∧ Ge c.world e

instance AloneGuard.decidable (Gi : W → Req → Inp → Prop) (Gr : W → L → Inp → Prop)
    (Ge : W → Env → Prop) [∀ w req inp, Decidable (Gi w req inp)]
    [∀ w l inp, Decidable (Gr w l inp)] [∀ w e, Decidable (Ge w e)] (c : Config Unit W L) :
    (e : Event Unit Req Inp Env) → Decidable (AloneGuard Gi Gr Ge c e)
  | .invoke _ req inp =>
      inferInstanceAs (Decidable ((c.pending ()).isNone = true → Gi c.world req inp))
  | .resume _ inp => inferInstanceAs (Decidable (∀ l ∈ c.pending (), Gr c.world l inp))
  | .env e => inferInstanceAs (Decidable ((c.pending ()).isNone = true ∧ Ge c.world e))

/-- A proof outline of calls that run alone: nothing interferes, so a call may break the
condition and has to restore it only at its end. -/
structure AloneOutline (C : Calls W Req L Inp) (env : Env → W → W)
    (Gi : W → Req → Inp → Prop) (Gr : W → L → Inp → Prop) (Ge : W → Env → Prop)
    (I : W → Prop) (J : W → L → Prop) : Prop where
  invoke : ∀ {w req inp}, I w → Gi w req inp → Next I J (C.invoke req inp w)
  resume : ∀ {w l inp}, J w l → Gr w l inp → Next I J (C.resume l inp w)
  environment : ∀ {w e}, I w → Ge w e → I (env e w)

theorem AloneOutline.step (h : AloneOutline C env Gi Gr Ge I J) (c : Config Unit W L)
    (e : Event Unit Req Inp Env) (hc : Alone I J c) (hg : AloneGuard Gi Gr Ge c e) :
    Alone I J (Interleaving.step C env c e) := by
  have hnext : ∀ {next : W × Option L}, Next I J next →
      Alone I J ⟨next.1, Function.update c.pending () next.2⟩ := by
    intro next hnext
    simp only [Alone, Function.update_self]
    exact hnext
  unfold Alone at hc
  cases e with
  | invoke p req inp =>
      cases hp : c.pending () with
      | some l =>
          rw [step_invoke_busy hp]
          exact hc
      | none =>
          rw [hp] at hc
          rw [step_invoke hp]
          exact hnext (h.invoke hc (hg (by rw [hp]; rfl)))
  | resume p inp =>
      cases hp : c.pending () with
      | none =>
          rw [step_resume_idle hp]
          exact hc
      | some l =>
          rw [hp] at hc
          rw [step_resume hp]
          exact hnext (h.resume hc (hg l hp))
  | env e =>
      obtain ⟨hidle, hGe⟩ := hg
      have hp : c.pending () = none := Option.isNone_iff_eq_none.mp hidle
      rw [hp] at hc
      rw [step_env]
      simp only [Alone, hp]
      exact h.environment hc hGe

/-- **Between two calls the condition holds.** -/
theorem AloneOutline.run (h : AloneOutline C env Gi Gr Ge I J) {w : W}
    {es : List (Event Unit Req Inp Env)} (hw : I w)
    (hes : Along (Interleaving.step C env) (AloneGuard Gi Gr Ge) (Config.idle w) es)
    (hidle : (Runs.run (Interleaving.step C env) (Config.idle w) es).pending () = none) :
    I (Runs.run (Interleaving.step C env) (Config.idle w) es).world := by
  have halone : Alone I J (Runs.run (Interleaving.step C env) (Config.idle w) es) :=
    inv_run (fun c e hc hg => h.step c e hc hg) hw hes
  unfold Alone at halone
  rw [hidle] at halone
  exact halone

end Interleaving
