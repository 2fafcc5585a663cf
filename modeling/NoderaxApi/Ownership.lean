/-
# Resources owned by pending calls

A call may own a resource for a part of its steps (a lock, a connection), and the shared
world records which resources are held.  `Accounted` says that both agree: what a pending
call owns is held, and what is held is owned by exactly one pending call.  A resource that a
call leaves behind, one that a call gives back for another, and one that two calls own all
break it.

`accounted_update_iff` and `excluding_update_iff` say when one step of one call keeps the
account, and when it keeps a relation between any two pending calls.
-/
import NoderaxApi.Interleaving

namespace Interleaving

variable {P W L R : Type*}

/-- What the pending calls own is what is held, and each of it has one owner. -/
structure Accounted (owns? : L → Option R) (Held : W → R → Prop) (c : Config P W L) : Prop where
  held : ∀ {p l r}, c.pending p = some l → owns? l = some r → Held c.world r
  owner : ∀ {r}, Held c.world r → ∃ p l, c.pending p = some l ∧ owns? l = some r
  sole : ∀ {p q l l' r}, c.pending p = some l → c.pending q = some l' → owns? l = some r →
    owns? l' = some r → p = q

variable {owns? : L → Option R} {Held : W → R → Prop} {c : Config P W L}

/-- Nothing is held while no call is pending. -/
theorem accounted_idle_iff {w : W} :
    Accounted owns? Held (Config.idle w : Config P W L) ↔ ∀ r, ¬ Held w r := by
  constructor
  · intro h r hr
    obtain ⟨p, l, hp, -⟩ := h.owner hr
    simp at hp
  · intro hnone
    exact ⟨fun hp _ => by simp at hp, fun hr => absurd hr (hnone _), fun hp _ _ _ => by simp at hp⟩

/-- What the calls other than `p` own. -/
theorem Accounted.others_iff (h : Accounted owns? Held c) {p : P} {l? : Option L}
    (hp : c.pending p = l?) {r : R} :
    (Held c.world r ∧ l?.bind owns? ≠ some r) ↔
      ∃ q l, q ≠ p ∧ c.pending q = some l ∧ owns? l = some r := by
  subst hp
  constructor
  · rintro ⟨hr, hown⟩
    obtain ⟨q, l, hq, hl⟩ := h.owner hr
    refine ⟨q, l, ?_, hq, hl⟩
    rintro rfl
    exact hown (by rw [hq]; exact hl)
  · rintro ⟨q, l, hqp, hq, hl⟩
    refine ⟨h.held hq hl, fun hown => ?_⟩
    obtain ⟨l', hp, hl'⟩ := Option.bind_eq_some_iff.mp hown
    exact hqp (h.sole hq hp hl hl')

variable [DecidableEq P]

/-- **One step keeps the account** exactly when what is held after it is what the other calls
own and, apart from that, what the call itself owns now. -/
theorem accounted_update_iff (h : Accounted owns? Held c) {p : P} {l? next : Option L}
    (hp : c.pending p = l?) {w' : W} :
    Accounted owns? Held ⟨w', Function.update c.pending p next⟩ ↔
      ∀ r, (Held w' r ↔ next.bind owns? = some r ∨ (Held c.world r ∧ l?.bind owns? ≠ some r)) ∧
        (next.bind owns? = some r → ¬ (Held c.world r ∧ l?.bind owns? ≠ some r)) := by
  have hself : Function.update c.pending p next p = next := Function.update_self _ _ _
  have hother : ∀ {q}, q ≠ p → Function.update c.pending p next q = c.pending q :=
    fun hqp => Function.update_of_ne hqp _ _
  constructor
  · intro h' r
    rw [h.others_iff hp]
    refine ⟨⟨fun hr => ?_, ?_⟩, ?_⟩
    · obtain ⟨q, l, hq, hl⟩ := h'.owner hr
      by_cases hqp : q = p
      · subst hqp
        exact .inl (Option.bind_eq_some_iff.mpr ⟨l, hself.symm.trans hq, hl⟩)
      · exact .inr ⟨q, l, hqp, (hother hqp).symm.trans hq, hl⟩
    · rintro (hown | ⟨q, l, hqp, hq, hl⟩)
      · obtain ⟨l, hnext, hl⟩ := Option.bind_eq_some_iff.mp hown
        exact h'.held (hself.trans hnext) hl
      · exact h'.held ((hother hqp).trans hq) hl
    · rintro hown ⟨q, l, hqp, hq, hl⟩
      obtain ⟨l', hnext, hl'⟩ := Option.bind_eq_some_iff.mp hown
      exact hqp (h'.sole ((hother hqp).trans hq) (hself.trans hnext) hl hl')
  · intro hall
    simp only [h.others_iff hp] at hall
    have howner : ∀ {q l r}, Function.update c.pending p next q = some l → owns? l = some r →
        (q = p ∧ next.bind owns? = some r) ∨
          (q ≠ p ∧ c.pending q = some l) := by
      intro q l r hq hl
      by_cases hqp : q = p
      · subst hqp
        exact .inl ⟨rfl, Option.bind_eq_some_iff.mpr ⟨l, hself.symm.trans hq, hl⟩⟩
      · exact .inr ⟨hqp, (hother hqp).symm.trans hq⟩
    refine ⟨fun {q l r} hq hl => ?_, fun {r} hr => ?_, fun {q q' l l' r} hq hq' hl hl' => ?_⟩
    · rcases howner hq hl with ⟨-, hown⟩ | ⟨hqp, hq⟩
      · exact (hall r).1.mpr (.inl hown)
      · exact (hall r).1.mpr (.inr ⟨q, l, hqp, hq, hl⟩)
    · rcases (hall r).1.mp hr with hown | ⟨q, l, hqp, hq, hl⟩
      · obtain ⟨l, hnext, hl⟩ := Option.bind_eq_some_iff.mp hown
        exact ⟨p, l, hself.trans hnext, hl⟩
      · exact ⟨q, l, (hother hqp).trans hq, hl⟩
    · rcases howner hq hl with ⟨hqp, hown⟩ | ⟨hqp, hq⟩ <;>
        rcases howner hq' hl' with ⟨hqp', hown'⟩ | ⟨hqp', hq'⟩
      · exact hqp.trans hqp'.symm
      · exact absurd ⟨q', l', hqp', hq', hl'⟩ ((hall r).2 hown)
      · exact absurd ⟨q, l, hqp, hq, hl⟩ ((hall r).2 hown')
      · exact h.sole hq hq' hl hl'

/-- A step after which the call owns what it owned, and the same is held, keeps the account. -/
theorem Accounted.update_of_same (h : Accounted owns? Held c) {p : P} {l? next : Option L}
    (hp : c.pending p = l?) {w' : W} (hw : ∀ r, Held w' r ↔ Held c.world r)
    (hnext : next.bind owns? = l?.bind owns?) :
    Accounted owns? Held ⟨w', Function.update c.pending p next⟩ := by
  refine (accounted_update_iff h hp).mpr fun r => ⟨?_, fun hown hothers => ?_⟩
  · rw [hw, hnext]
    refine ⟨fun hr => ?_, ?_⟩
    · by_cases hown : l?.bind owns? = some r
      · exact .inl hown
      · exact .inr ⟨hr, hown⟩
    · rintro (hown | hothers)
      · obtain ⟨l, hl?, hl⟩ := Option.bind_eq_some_iff.mp hown
        exact h.held (hp.trans hl?) hl
      · exact hothers.1
  · exact hothers.2 (hnext ▸ hown)

/-- A step that acquires a resource which was free keeps the account. -/
theorem Accounted.update_acquire (h : Accounted owns? Held c) (r₀ : R) {p : P}
    {l? next : Option L} (hp : c.pending p = l?) {w' : W} (hfree : ¬ Held c.world r₀)
    (hnone : l?.bind owns? = none) (hnext : next.bind owns? = some r₀)
    (hw : ∀ r, Held w' r ↔ r = r₀ ∨ Held c.world r) :
    Accounted owns? Held ⟨w', Function.update c.pending p next⟩ := by
  refine (accounted_update_iff h hp).mpr fun r => ?_
  rw [hnone, hnext, hw r, Option.some.injEq]
  refine ⟨?_, ?_⟩
  · simp [eq_comm]
  · rintro rfl hothers
    exact hfree hothers.1

/-- A step that releases what the call owns keeps the account. -/
theorem Accounted.update_release (h : Accounted owns? Held c) (r₀ : R) {p : P}
    {l? next : Option L} (hp : c.pending p = l?) {w' : W} (hown : l?.bind owns? = some r₀)
    (hnext : next.bind owns? = none) (hw : ∀ r, Held w' r ↔ r ≠ r₀ ∧ Held c.world r) :
    Accounted owns? Held ⟨w', Function.update c.pending p next⟩ := by
  refine (accounted_update_iff h hp).mpr fun r => ?_
  rw [hown, hnext, hw r]
  refine ⟨?_, fun hsome => absurd hsome (by simp)⟩
  simp [and_comm, eq_comm]

/-- **One step keeps a relation between any two pending calls** exactly when the call that
moved is in it with every other one. -/
theorem excluding_update_iff {X : L → L → Prop} (hsymm : ∀ {l l'}, X l l' → X l' l)
    (hX : Excluding X c) {p : P} {next : Option L} {w' : W} :
    Excluding X ⟨w', Function.update c.pending p next⟩ ↔
      ∀ l, next = some l → ∀ q other, q ≠ p → c.pending q = some other → X l other := by
  refine ⟨fun hX' l hnext q other hqp hq => ?_, excluding_update hsymm (w := c.world) hX⟩
  refine hX' p q l other (Ne.symm hqp) ?_ ((Function.update_of_ne hqp _ _).trans hq)
  exact (Function.update_self _ _ _).trans hnext

end Interleaving
