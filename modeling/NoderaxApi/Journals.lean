/-
# Computations that keep what they did when they throw

A computation that acts on the outside and may throw, with no transaction around it: what it did
before it threw stays done.  Its journal lists what it did, in order, and says how it ended.

`Quiet` says that it did nothing of a kind, and `Atomic` that it did nothing of that kind unless it
returned.  The rules follow the sequence and the loop.
-/
import Mathlib.Data.List.Basic

namespace Journals

/-- What a computation did, and how it ended. -/
structure Journal (W E A : Type) where
  effects : List W
  outcome : Except E A

variable {W E A B C : Type}

namespace Journal

/-- A check or a read: it does nothing, and may throw. -/
def check (answer : Except E A) : Journal W E A := ⟨[], answer⟩

/-- A call, made before it returns or throws. -/
def perform (w : W) (answer : Except E Unit) : Journal W E Unit := ⟨[w], answer⟩

/-- A statement that takes effect if it does not throw. -/
def commit (w : W) : Except E Unit → Journal W E Unit
  | .ok _ => ⟨[w], .ok ()⟩
  | .error error => ⟨[], .error error⟩

instance : Monad (Journal W E) where
  pure a := ⟨[], .ok a⟩
  bind x f :=
    match x.outcome with
    | .ok a => ⟨x.effects ++ (f a).effects, (f a).outcome⟩
    | .error error => ⟨x.effects, .error error⟩

theorem bind_of_ok {x : Journal W E A} {a : A} (h : x.outcome = .ok a) (f : A → Journal W E B) :
    x >>= f = ⟨x.effects ++ (f a).effects, (f a).outcome⟩ := by
  change (match x.outcome with
    | .ok a => (⟨x.effects ++ (f a).effects, (f a).outcome⟩ : Journal W E B)
    | .error error => ⟨x.effects, .error error⟩) = _
  rw [h]

theorem bind_of_error {x : Journal W E A} {error : E} (h : x.outcome = .error error)
    (f : A → Journal W E B) : x >>= f = ⟨x.effects, .error error⟩ := by
  change (match x.outcome with
    | .ok a => (⟨x.effects ++ (f a).effects, (f a).outcome⟩ : Journal W E B)
    | .error error => ⟨x.effects, .error error⟩) = _
  rw [h]

theorem check_ok_bind (a : A) (f : A → Journal W E B) :
    (check (.ok a) : Journal W E A) >>= f = f a := by
  rw [bind_of_ok (show (check (.ok a) : Journal W E A).outcome = .ok a from rfl)]
  rfl

theorem check_error_bind (error : E) (f : A → Journal W E B) :
    (check (.error error) : Journal W E A) >>= f = check (.error error) :=
  bind_of_error (show (check (.error error) : Journal W E A).outcome = .error error from rfl) f

theorem bind_pure (x : Journal W E A) : x >>= pure = x := by
  cases h : x.outcome with
  | error error => rw [bind_of_error h, ← h]
  | ok a =>
      rw [bind_of_ok h]
      change (⟨x.effects ++ [], .ok a⟩ : Journal W E A) = x
      rw [List.append_nil, ← h]

theorem bind_assoc (x : Journal W E A) (f : A → Journal W E B) (g : B → Journal W E C) :
    x >>= f >>= g = x >>= fun a => f a >>= g := by
  cases hx : x.outcome with
  | error error =>
      have hthrown : (x >>= f).outcome = .error error := by rw [bind_of_error hx]
      rw [bind_of_error hthrown, bind_of_error hx, bind_of_error hx]
  | ok a =>
      have hsame : (x >>= f).outcome = (f a).outcome := by rw [bind_of_ok hx]
      rw [bind_of_ok hx (f := fun a => f a >>= g)]
      cases hf : (f a).outcome with
      | error error =>
          rw [bind_of_error (hsame.trans hf), bind_of_error hf, bind_of_ok hx]
      | ok b =>
          rw [bind_of_ok (hsame.trans hf), bind_of_ok hf, bind_of_ok hx, List.append_assoc]

/-! ## Returning, and doing nothing of a kind -/

/-- The computation does not throw. -/
def Returns (x : Journal W E A) : Prop := ∃ a, x.outcome = .ok a

/-- Nothing of the kind was done. -/
def Quiet (p : W → Prop) (x : Journal W E A) : Prop := ∀ w ∈ x.effects, ¬ p w

/-- Nothing of the kind was done, or the computation returned. -/
def Atomic (p : W → Prop) (x : Journal W E A) : Prop :=
  ∀ error, x.outcome = .error error → x.Quiet p

variable {p : W → Prop}

@[simp] theorem returns_pure (a : A) : (pure a : Journal W E A).Returns := ⟨a, rfl⟩

@[simp] theorem quiet_pure (a : A) : (pure a : Journal W E A).Quiet p :=
  fun _ hw => absurd hw List.not_mem_nil

@[simp] theorem quiet_check (answer : Except E A) : (check answer : Journal W E A).Quiet p :=
  fun _ hw => absurd hw List.not_mem_nil

@[simp] theorem outcome_check (answer : Except E A) :
    (check answer : Journal W E A).outcome = answer := rfl

@[simp] theorem outcome_perform (w : W) (answer : Except E Unit) :
    (perform w answer).outcome = answer := rfl

@[simp] theorem outcome_commit (w : W) (answer : Except E Unit) :
    (commit w answer).outcome = answer := by
  cases answer <;> rfl

@[simp] theorem returns_commit (w : W) (answer : Except E Unit) :
    (commit w answer).Returns ↔ answer = .ok () := by
  rw [Returns, outcome_commit]
  exact ⟨fun ⟨_, h⟩ => h, fun h => ⟨(), h⟩⟩

@[simp] theorem returns_perform (w : W) (answer : Except E Unit) :
    (perform w answer).Returns ↔ answer = .ok () :=
  ⟨fun ⟨_, h⟩ => h, fun h => ⟨(), h⟩⟩

@[simp] theorem quiet_perform (w : W) (answer : Except E Unit) :
    (perform w answer).Quiet p ↔ ¬ p w := by
  simp [perform, Quiet]

theorem quiet_commit_iff {w : W} (hw : p w) {answer : Except E Unit} :
    (commit w answer).Quiet p ↔ answer ≠ .ok () := by
  cases answer with
  | ok _ => simp [commit, Quiet, hw]
  | error error => simp [commit, Quiet]

theorem not_returns_iff {x : Journal W E A} :
    ¬ x.Returns ↔ ∃ error, x.outcome = .error error := by
  cases h : x.outcome with
  | ok a => simp [Returns, h]
  | error error => simp [Returns, h]

theorem returns_bind {x : Journal W E A} {f : A → Journal W E B} :
    (x >>= f).Returns ↔ ∃ a, x.outcome = .ok a ∧ (f a).Returns := by
  cases h : x.outcome with
  | ok a => simp [bind_of_ok h, Returns]
  | error error => simp [bind_of_error h, Returns]

/-- Whether the rest returns does not depend on the answer. -/
theorem returns_bind_iff_and {x : Journal W E A} {f : A → Journal W E B} {q : Prop}
    (h : ∀ a, (f a).Returns ↔ q) : (x >>= f).Returns ↔ x.Returns ∧ q := by
  rw [returns_bind]
  constructor
  · rintro ⟨a, ha, hf⟩
    exact ⟨⟨a, ha⟩, (h a).mp hf⟩
  · rintro ⟨⟨a, ha⟩, hq⟩
    exact ⟨a, ha, (h a).mpr hq⟩

theorem returns_bind_unit {x : Journal W E Unit} {f : Unit → Journal W E B} :
    (x >>= f).Returns ↔ x.Returns ∧ (f ()).Returns :=
  returns_bind_iff_and fun _ => Iff.rfl

theorem quiet_bind {x : Journal W E A} {f : A → Journal W E B} :
    (x >>= f).Quiet p ↔ x.Quiet p ∧ ∀ a, x.outcome = .ok a → (f a).Quiet p := by
  cases h : x.outcome with
  | ok a => simp [bind_of_ok h, Quiet, or_imp, forall_and]
  | error error => simp [bind_of_error h, Quiet]

theorem outcome_bind_eq_error {x : Journal W E A} {f : A → Journal W E B} {error : E} :
    (x >>= f).outcome = .error error ↔
      x.outcome = .error error ∨ ∃ a, x.outcome = .ok a ∧ (f a).outcome = .error error := by
  cases h : x.outcome with
  | ok a => simp [bind_of_ok h]
  | error error' => simp [bind_of_error h]

/-- After a computation that did nothing, the rest decides. -/
theorem atomic_bind_of_quiet {x : Journal W E A} (hx : x.Quiet p) {f : A → Journal W E B} :
    (x >>= f).Atomic p ↔ ∀ a, x.outcome = .ok a → (f a).Atomic p := by
  constructor
  · intro h a ha error herror
    exact (quiet_bind.mp (h error (outcome_bind_eq_error.mpr (.inr ⟨a, ha, herror⟩)))).2 a ha
  · intro h error herror
    refine quiet_bind.mpr ⟨hx, fun a ha => ?_⟩
    rcases outcome_bind_eq_error.mp herror with hthrown | ⟨a', ha', hrest⟩
    · cases ha.symm.trans hthrown
    · cases ha.symm.trans ha'
      exact h a ha error hrest

theorem atomic_check_bind {answer : Except E A} {f : A → Journal W E B} :
    (check answer >>= f).Atomic p ↔ ∀ a, answer = .ok a → (f a).Atomic p :=
  atomic_bind_of_quiet (quiet_check answer)

/-- After a computation that cannot return without having done something, the rest must return. -/
theorem atomic_bind_of_loud {x : Journal W E A} (hx : x.Returns → ¬ x.Quiet p)
    {f : A → Journal W E B} : (x >>= f).Atomic p ↔ x.Quiet p ∨ (x >>= f).Returns := by
  constructor
  · intro h
    by_cases hreturns : (x >>= f).Returns
    · exact .inr hreturns
    obtain ⟨error, herror⟩ := not_returns_iff.mp hreturns
    exact .inl (quiet_bind.mp (h error herror)).1
  · rintro (hquiet | ⟨b, hb⟩) error herror
    · exact quiet_bind.mpr ⟨hquiet, fun a ha => absurd hquiet (hx ⟨a, ha⟩)⟩
    · cases hb.symm.trans herror

/-! ## Loops -/

/-- The loop that collects what its turns return. -/
def forEach (f : A → Journal W E B) : List A → Journal W E (List B)
  | [] => pure []
  | a :: as => do
      let b ← f a
      let bs ← forEach f as
      return b :: bs

variable {f : A → Journal W E B} {g : List B → Journal W E C}

theorem returns_forEach {as : List A} :
    (forEach f as).Returns ↔ ∀ a ∈ as, (f a).Returns := by
  induction as with
  | nil => simp [forEach]
  | cons a as ih =>
      simp only [forEach, returns_bind, returns_pure, and_true, List.forall_mem_cons, ← ih]
      constructor
      · rintro ⟨b, hb, hrest⟩
        exact ⟨⟨b, hb⟩, hrest⟩
      · rintro ⟨⟨b, hb⟩, hrest⟩
        exact ⟨b, hb, hrest⟩

/-- A loop whose turns cannot return without having done something, and what follows it. -/
theorem atomic_forEach_bind {as : List A} (hne : as ≠ [])
    (hf : ∀ a ∈ as, (f a).Returns → ¬ (f a).Quiet p) :
    (forEach f as >>= g).Atomic p ↔
      (∃ a ∈ as.head?, (f a).Quiet p) ∨ (forEach f as >>= g).Returns := by
  cases as with
  | nil => exact absurd rfl hne
  | cons a as =>
      simp only [forEach, bind_assoc, List.head?_cons, Option.mem_def, Option.some.injEq,
        exists_eq_left']
      exact atomic_bind_of_loud (hf a List.mem_cons_self)

/-! ## What was done, in order -/

/-- What `pick` takes from the effects. -/
def picked {K : Type} (pick : W → Option K) (x : Journal W E A) : List K :=
  x.effects.filterMap pick

variable {K : Type} {pick : W → Option K}

theorem picked_eq_nil_iff {x : Journal W E A} :
    x.picked pick = [] ↔ x.Quiet fun w => (pick w).isSome := by
  simp [picked, Quiet, List.filterMap_eq_nil_iff]

@[simp] theorem picked_check (answer : Except E A) :
    (check answer : Journal W E A).picked pick = [] := rfl

theorem picked_bind_of_ok {x : Journal W E A} {a : A} (h : x.outcome = .ok a)
    {f : A → Journal W E B} : (x >>= f).picked pick = x.picked pick ++ (f a).picked pick := by
  rw [bind_of_ok h]
  exact List.filterMap_append

end Journal

end Journals
