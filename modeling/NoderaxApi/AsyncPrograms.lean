/-
# Programs that await

The body of an asynchronous function, cut at its awaits.  An await is an operation on the
shared data, and what follows it is a function of the answer.  Between two awaits the code
runs alone; there it reads and writes the memory of its process, never the shared data.

`programCalls` runs such bodies as interleaved calls.  Three rules say what a call can do:
`Always`, when the answers it gets from the shared data are as assumed, whatever the other
calls do; `Tracked`, when what it may do depends on the answers it has got so far; and
`Ensures`, when no other call runs beside it.
-/
import NoderaxApi.Interleaving

namespace AsyncPrograms

open Runs Interleaving

/-! ## Programs -/

/-- What is left of an asynchronous function. -/
inductive Program (Op : Type) (Answer : Op → Type) (M : Type)
  | done
  | read (k : M → Program Op Answer M)
  | write (f : M → M) (k : Program Op Answer M)
  | await (op : Op) (k : Answer op → Program Op Answer M)

/-- The shared data and the memory of the process. -/
structure Store (D M : Type) where
  data : D
  memory : M

/-- A call that awaits an operation. -/
structure Awaiting (Op : Type) (Answer : Op → Type) (M : Type) where
  op : Op
  next : Answer op → Program Op Answer M

variable {Op : Type} {Answer : Op → Type} {D M Req Inp : Type}

/-- The code up to the next await. -/
def settle : Program Op Answer M → Store D M → Store D M × Option (Awaiting Op Answer M)
  | .done, s => (s, none)
  | .read k, s => settle (k s.memory) s
  | .write f k, s => settle k { s with memory := f s.memory }
  | .await op k, s => (s, some ⟨op, k⟩)

/-- What an operation does to the shared data, and its answer; without one it rejects, which
ends the call. -/
abbrev Exec (Op : Type) (Answer : Op → Type) (D Inp : Type) :=
  (op : Op) → Inp → D → D × Option (Answer op)

/-- The operation of a call is carried out, and the call goes on with the answer. -/
def resumeWith (exec : Exec Op Answer D Inp) (l : Awaiting Op Answer M) (inp : Inp)
    (s : Store D M) : Store D M × Option (Awaiting Op Answer M) :=
  let result := exec l.op inp s.data
  match result.2 with
  | some answer => settle (l.next answer) { s with data := result.1 }
  | none => ({ s with data := result.1 }, none)

/-- Programs as interleaved calls. -/
def programCalls (exec : Exec Op Answer D Inp) (body : Req → Program Op Answer M) :
    Calls (Store D M) Req (Awaiting Op Answer M) Inp where
  invoke req _ s := settle (body req) s
  resume := resumeWith exec

variable {exec : Exec Op Answer D Inp} {body : Req → Program Op Answer M}

/-- Only awaited operations touch the shared data. -/
theorem settle_data (program : Program Op Answer M) (s : Store D M) :
    (settle program s).1.data = s.data := by
  induction program generalizing s with
  | done => rfl
  | read k ih => exact ih s.memory s
  | write f k ih => exact ih { s with memory := f s.memory }
  | await op k => rfl

theorem resumeWith_data (l : Awaiting Op Answer M) (inp : Inp) (s : Store D M) :
    (resumeWith exec l inp s).1.data = (exec l.op inp s.data).1 := by
  unfold resumeWith
  simp only
  split
  · exact settle_data _ _
  · rfl

/-! ## What a call can still do -/

/-- An account of what programs do: what is assumed of the answers, what holds of every await
with what follows it, and of every write with the memory before and after it. -/
structure Account (Op : Type) (Answer : Op → Type) (M : Type) where
  answers : (op : Op) → Answer op → Prop := fun _ _ => True
  awaits : (op : Op) → (Answer op → Program Op Answer M) → Prop
  writes : M → M → Prop := fun _ _ => True

/-- As long as the answers are as assumed, all awaits and writes are as accounted for. -/
def Program.Always (acc : Account Op Answer M) : Program Op Answer M → Prop
  | .done => True
  | .read k => ∀ m, (k m).Always acc
  | .write f k => (∀ m, acc.writes m (f m)) ∧ k.Always acc
  | .await op k => acc.awaits op k ∧ ∀ answer, acc.answers op answer → (k answer).Always acc

/-- The same for a call that awaits an operation. -/
def Awaiting.Always (acc : Account Op Answer M) (l : Awaiting Op Answer M) : Prop :=
  acc.awaits l.op l.next ∧ ∀ answer, acc.answers l.op answer → (l.next answer).Always acc

variable {acc : Account Op Answer M}

theorem Program.Always.ite {p : Prop} [Decidable p] {x y : Program Op Answer M}
    (hx : p → x.Always acc) (hy : ¬ p → y.Always acc) : (if p then x else y).Always acc := by
  split
  next h => exact hx h
  next h => exact hy h

theorem settle_always {program : Program Op Answer M} (h : program.Always acc) (s : Store D M)
    {l : Awaiting Op Answer M} (hl : (settle program s).2 = some l) : l.Always acc := by
  induction program generalizing s with
  | done => exact absurd hl (by simp [settle])
  | read k ih => exact ih s.memory (h s.memory) s hl
  | write f k ih => exact ih h.2 { s with memory := f s.memory } hl
  | await op k =>
      cases hl
      exact h

/-- The writes up to the next await, as one. -/
theorem settle_writes (hrefl : ∀ m, acc.writes m m)
    (htrans : ∀ {a b c}, acc.writes a b → acc.writes b c → acc.writes a c)
    {program : Program Op Answer M} (h : program.Always acc) (s : Store D M) :
    acc.writes s.memory (settle program s).1.memory := by
  induction program generalizing s with
  | done => exact hrefl s.memory
  | read k ih => exact ih s.memory (h s.memory) s
  | write f k ih => exact htrans (h.1 s.memory) (ih h.2 { s with memory := f s.memory })
  | await op k => exact hrefl s.memory

theorem resumeWith_always {l l' : Awaiting Op Answer M} {inp : Inp} {s : Store D M}
    (h : l.Always acc)
    (hanswer : ∀ answer, (exec l.op inp s.data).2 = some answer → acc.answers l.op answer)
    (hl' : (resumeWith exec l inp s).2 = some l') : l'.Always acc := by
  unfold resumeWith at hl'
  simp only at hl'
  split at hl'
  next answer hsome => exact settle_always (h.2 answer (hanswer answer hsome)) _ hl'
  next => exact absurd hl' (by simp)

/-- The call of `p`, if it has one, is accounted for. -/
def AlwaysAt (acc : Account Op Answer M) {P : Type} (p : P)
    (c : Config P (Store D M) (Awaiting Op Answer M)) : Prop :=
  ∀ l, c.pending p = some l → l.Always acc

/-- **What a call can do stays so**, through every step of it and of the others, as long as it
gets the assumed answers. -/
theorem alwaysAt_step {Env P : Type} [DecidableEq P] {env : Env → Store D M → Store D M} {p : P}
    {c : Config P (Store D M) (Awaiting Op Answer M)} (hbody : ∀ req, (body req).Always acc)
    (hc : AlwaysAt acc p c) (e : Event P Req Inp Env)
    (hanswer : ∀ inp l, e = .resume p inp → c.pending p = some l →
      ∀ answer, (exec l.op inp c.world.data).2 = some answer → acc.answers l.op answer) :
    AlwaysAt acc p (step (programCalls exec body) env c e) := by
  have hmoved : ∀ (q : P) (w : Store D M) (next : Option (Awaiting Op Answer M)),
      (q = p → ∀ l, next = some l → l.Always acc) →
        AlwaysAt acc p ⟨w, Function.update c.pending q next⟩ := by
    intro q w next hself l hl
    by_cases hqp : p = q
    · subst hqp
      have hnext : next = some l := (Function.update_self p next c.pending).symm.trans hl
      exact hself rfl l hnext
    · exact hc l ((Function.update_of_ne hqp next c.pending).symm.trans hl)
  cases e with
  | invoke q req inp =>
      cases hq : c.pending q with
      | some l => rw [step_invoke_busy hq]; exact hc
      | none =>
          rw [step_invoke hq]
          exact hmoved q _ _ fun _ l hl => settle_always (hbody req) c.world hl
  | resume q inp =>
      cases hq : c.pending q with
      | none => rw [step_resume_idle hq]; exact hc
      | some l =>
          rw [step_resume hq]
          refine hmoved q _ _ fun hqp l' hl' => ?_
          subst hqp
          exact resumeWith_always (hc l hq) (hanswer inp l rfl hq) hl'
  | env e => exact hc

/-! ## What a call has learnt -/

section Tracking

variable {S : Type}

/-- An account of programs that learn from the answers: what a call keeps of an answer, what is
assumed of it, and what holds of every await of a call that has learnt so much. -/
structure Tracker (Op : Type) (Answer : Op → Type) (S : Type) where
  note : S → (op : Op) → Answer op → S
  answers : S → (op : Op) → Answer op → Prop
  awaits : S → Op → Prop

/-- As long as the answers are as assumed, every await is accounted for by what was learnt
before it. -/
def Program.Tracked (t : Tracker Op Answer S) : Program Op Answer M → S → Prop
  | .done, _ => True
  | .read k, s => ∀ m, (k m).Tracked t s
  | .write _ k, s => k.Tracked t s
  | .await op k, s =>
      t.awaits s op ∧ ∀ answer, t.answers s op answer → (k answer).Tracked t (t.note s op answer)

/-- The same for a call that awaits an operation. -/
def Awaiting.Tracked (t : Tracker Op Answer S) (l : Awaiting Op Answer M) (s : S) : Prop :=
  (Program.await l.op l.next).Tracked t s

variable {t : Tracker Op Answer S}

theorem Program.Tracked.ite {p : Prop} [Decidable p] {x y : Program Op Answer M} {s : S}
    (hx : p → x.Tracked t s) (hy : ¬ p → y.Tracked t s) : (if p then x else y).Tracked t s := by
  split
  next h => exact hx h
  next h => exact hy h

theorem settle_tracked {program : Program Op Answer M} {s : S} (h : program.Tracked t s)
    (w : Store D M) {l : Awaiting Op Answer M} (hl : (settle program w).2 = some l) :
    l.Tracked t s := by
  induction program generalizing w with
  | done => exact absurd hl (by simp [settle])
  | read k ih => exact ih w.memory (h w.memory) w hl
  | write f k ih => exact ih h { w with memory := f w.memory } hl
  | await op k =>
      cases hl
      exact h

/-- What a call has learnt once its operation was carried out. -/
def noteAnswer (exec : Exec Op Answer D Inp) (note : S → (op : Op) → Answer op → S) (s : S)
    (l : Awaiting Op Answer M) (inp : Inp) (w : Store D M) : S :=
  match (exec l.op inp w.data).2 with
  | some answer => note s l.op answer
  | none => s

/-- Programs as interleaved calls, each beside what it has learnt. -/
def trackedCalls (exec : Exec Op Answer D Inp) (body : Req → Program Op Answer M)
    (start : Req → S) (note : S → (op : Op) → Answer op → S) :
    Calls (Store D M) Req (Awaiting Op Answer M × S) Inp :=
  (programCalls exec body).remembering (fun req _ _ => start req) (noteAnswer exec note)

/-- **Every pending call is accounted for by what it has learnt**, where the steps get the
assumed answers. -/
theorem tracked_outline {Env : Type} {env : Env → Store D M → Store D M} {start : Req → S}
    {Gr : Store D M → Awaiting Op Answer M × S → Inp → Prop}
    (hbody : ∀ req, (body req).Tracked t (start req))
    (hanswer : ∀ {w l s inp}, Gr w (l, s) inp → ∀ answer,
      (exec l.op inp w.data).2 = some answer → t.answers s l.op answer) :
    Outline (trackedCalls exec body start t.note) env (fun _ _ _ => True) Gr (fun _ _ => True)
      (fun _ => True) fun _ l => l.1.Tracked t l.2 := by
  refine outline_remembering (fun {w req inp} _ _ => ⟨trivial, fun l hl => ?_⟩)
    (fun {w l s inp} _ hl hg => ⟨trivial, fun l' hl' => ?_⟩) (fun _ _ => trivial)
    (fun _ _ hl => hl) (fun _ _ _ hl => hl) (fun _ _ hl => hl)
  · exact settle_tracked (hbody req) w hl
  · simp only [programCalls, resumeWith] at hl'
    unfold noteAnswer
    cases hresult : (exec l.op inp w.data).2 with
    | none =>
        rw [hresult] at hl'
        exact absurd hl' (by simp)
    | some answer =>
        rw [hresult] at hl'
        exact settle_tracked (hl.2 answer (hanswer hg answer hresult)) _ hl'

end Tracking

/-! ## Calls that run alone -/

/-- What a program does when no other call runs beside it.  While it awaits an operation the
environment may change the shared data along `R`, and the memory in any way; then `mid` holds
of the operation and the data.  At the end `post` holds. -/
def Program.Ensures (exec : Exec Op Answer D Inp) (R : D → D → Prop) (mid : Op → D → Prop)
    (post : D → Prop) : Program Op Answer M → D → Prop
  | .done, d => post d
  | .read k, d => ∀ m, (k m).Ensures exec R mid post d
  | .write _ k, d => k.Ensures exec R mid post d
  | .await op k, d => ∀ d', R d d' →
      mid op d' ∧ ∀ inp,
        match exec op inp d' with
        | (d'', some answer) => (k answer).Ensures exec R mid post d''
        | (d'', none) => post d''

/-- The same for a call that awaits an operation. -/
def Awaiting.Ensures (exec : Exec Op Answer D Inp) (R : D → D → Prop) (mid : Op → D → Prop)
    (post : D → Prop) (l : Awaiting Op Answer M) (d : D) : Prop :=
  (Program.await l.op l.next).Ensures exec R mid post d

theorem Program.Ensures.imp {R : D → D → Prop} {mid : Op → D → Prop} {post post' : D → Prop}
    {program : Program Op Answer M} {d : D} (h : program.Ensures exec R mid post d)
    (hpost : ∀ d, post d → post' d) : program.Ensures exec R mid post' d := by
  induction program generalizing d with
  | done => exact hpost d h
  | read k ih => exact fun m => ih m (h m)
  | write f k ih => exact ih h
  | await op k ih =>
      intro d' hd'
      obtain ⟨hmid, hexec⟩ := h d' hd'
      refine ⟨hmid, fun inp => ?_⟩
      have hnext := hexec inp
      cases hresult : exec op inp d' with
      | mk d'' answer =>
          rw [hresult] at hnext
          cases answer with
          | some answer => exact ih answer hnext
          | none => exact hpost d'' hnext

/-- A program that is accounted for keeps what each of its operations keeps. -/
theorem Program.Always.ensures {R : D → D → Prop} {mid : Op → D → Prop} {I : D → Prop}
    {program : Program Op Answer M} (h : program.Always acc)
    (hR : ∀ {d d'}, R d d' → I d → I d')
    (hop : ∀ op k d, acc.awaits op k → I d → mid op d ∧ ∀ inp, I (exec op inp d).1 ∧
      ∀ answer, (exec op inp d).2 = some answer → acc.answers op answer) {d : D} (hd : I d) :
    program.Ensures exec R mid I d := by
  induction program generalizing d with
  | done => exact hd
  | read k ih => exact fun m => ih m (h m) hd
  | write f k ih => exact ih h.2 hd
  | await op k ih =>
      intro d' hd'
      obtain ⟨hmid, hexec⟩ := hop op k d' h.1 (hR hd' hd)
      refine ⟨hmid, fun inp => ?_⟩
      obtain ⟨hI, hanswer⟩ := hexec inp
      cases hresult : exec op inp d' with
      | mk d'' answer =>
          rw [hresult] at hI hanswer
          cases answer with
          | some answer => exact ih answer (h.2 answer (hanswer answer rfl)) hI
          | none => exact hI

/-- The state between two steps of calls that run alone. -/
def Solo (exec : Exec Op Answer D Inp) (R : D → D → Prop) (mid : Op → D → Prop)
    (post : D → Prop) (c : Config Unit (Store D M) (Awaiting Op Answer M)) : Prop :=
  match c.pending () with
  | none => post c.world.data
  | some l => l.Ensures exec R mid post c.world.data

variable {R : D → D → Prop} {mid : Op → D → Prop} {post : D → Prop}

theorem settle_ensures {program : Program Op Answer M} {s : Store D M} (p : Unit)
    {pending : Unit → Option (Awaiting Op Answer M)}
    (h : program.Ensures exec R mid post s.data) :
    Solo exec R mid post
      ⟨(settle program s).1, Function.update pending p (settle program s).2⟩ := by
  unfold Solo
  simp only [Function.update_self]
  induction program generalizing s with
  | done => exact h
  | read k ih => exact ih s.memory (h s.memory)
  | write f k ih => exact ih (s := { s with memory := f s.memory }) h
  | await op k => exact h

/-- A guard on the starts of the calls: each request is accepted where it arrives. -/
def ArrivalGuard {P Env : Type} (accepts : Req → D → Prop) :
    Config P (Store D M) (Awaiting Op Answer M) → Event P Req Inp Env → Prop :=
  Guard (fun s req _ => accepts req s.data) (fun _ _ _ => True) fun _ _ => True

/-- **One event**, when each request starts where the last one ended. -/
theorem solo_step {Env : Type} {env : Env → Store D M → Store D M} {accepts : Req → D → Prop}
    {c : Config Unit (Store D M) (Awaiting Op Answer M)} (hrefl : ∀ d, R d d)
    (htrans : ∀ {a b d}, R a b → R b d → R a d)
    (henv : ∀ e s, R s.data (env e s).data) (hpost : ∀ {d d'}, R d d' → post d → post d')
    (hbody : ∀ req d, post d → accepts req d → (body req).Ensures exec R mid post d)
    (hc : Solo exec R mid post c) (e : Event Unit Req Inp Env) (he : ArrivalGuard accepts c e) :
    Solo exec R mid post (step (programCalls exec body) env c e) := by
  unfold Solo at hc
  cases e with
  | invoke p req inp =>
      cases hp : c.pending () with
      | some l =>
          rw [hp] at hc
          rw [step_invoke_busy hp]
          unfold Solo
          rw [hp]
          exact hc
      | none =>
          rw [hp] at hc
          rw [step_invoke hp]
          exact settle_ensures p (hbody req c.world.data hc (he (by rw [hp]; rfl)))
  | resume p inp =>
      cases hp : c.pending () with
      | none =>
          rw [hp] at hc
          rw [step_resume_idle hp]
          unfold Solo
          rw [hp]
          exact hc
      | some l =>
          rw [hp] at hc
          rw [step_resume hp]
          have hnext := (hc c.world.data (hrefl c.world.data)).2 inp
          simp only [programCalls, resumeWith]
          cases hexec : exec l.op inp c.world.data with
          | mk data answer =>
              rw [hexec] at hnext
              cases answer with
              | some answer => exact settle_ensures p hnext
              | none =>
                  unfold Solo
                  simp only [Function.update_self]
                  exact hnext
  | env e =>
      rw [step_env]
      unfold Solo
      cases hp : c.pending () with
      | none =>
          rw [hp] at hc
          exact hpost (henv e c.world) hc
      | some l =>
          rw [hp] at hc
          exact fun d' hd' => hc d' (htrans (henv e c.world) hd')

/-- **At every await of calls that run alone** the condition of its operation holds. -/
theorem Solo.at_await {c : Config Unit (Store D M) (Awaiting Op Answer M)} (hrefl : ∀ d, R d d)
    (hc : Solo exec R mid post c) {p : Unit} {l : Awaiting Op Answer M}
    (hp : c.pending p = some l) : mid l.op c.world.data := by
  unfold Solo at hc
  rw [hp] at hc
  exact (hc c.world.data (hrefl c.world.data)).1

end AsyncPrograms
