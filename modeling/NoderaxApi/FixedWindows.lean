/-
# Counting events in windows of a fixed width

A limiter that counts the events of a window.  The window starts with an event; every event before
its end is counted, and is accepted as long as the count is within the limit.  The first event at
or after the end starts the next window and is accepted whatever the limit is.

`Counts` says what the counter knows about the events so far.  From it: at most the quota is
accepted in a window, at most twice the quota in an interval of the same width, and only events
beyond the quota are refused.  `kept_run` says that the others would be treated the same without
the refused ones.
-/
import Mathlib.Algebra.Order.Ring.Defs
import Mathlib.Data.List.Chain
import Mathlib.Tactic.Linarith
import Mathlib.Tactic.Push

namespace FixedWindows

/-- The events of a window, counted since its start. -/
structure Window (T : Type*) where
  count : ℕ
  start : T
  deriving DecidableEq, Repr

/-- An event, the start of the window in which it came, and whether it was accepted. -/
structure Record (T : Type*) where
  time : T
  start : T
  accepted : Bool
  deriving DecidableEq, Repr

/-- The current window and the events so far. -/
structure Log (T : Type*) where
  window : Option (Window T) := none
  records : List (Record T) := []
  deriving DecidableEq, Repr

variable {T : Type*} [LinearOrder T] {limit : ℕ}

/-! ## Accepted events -/

/-- What is accepted in a window: the limit, but its first event in any case. -/
def quota (limit : ℕ) : ℕ := max limit 1

theorem quota_pos (limit : ℕ) : 1 ≤ quota limit := le_max_right limit 1

/-- A later event of a window is accepted as long as the quota is not reached. -/
theorem within_iff (limit : ℕ) {count : ℕ} (hpos : 0 < count) :
    count + 1 ≤ limit ↔ count < quota limit := by
  unfold quota
  omega

/-- How many events are accepted in the window that starts at `start`. -/
def acceptedIn (start : T) (records : List (Record T)) : ℕ :=
  records.countP fun r => r.accepted && r.start = start

theorem acceptedIn_concat (start : T) (records : List (Record T)) (r : Record T) :
    acceptedIn start (records ++ [r]) =
      acceptedIn start records + if r.accepted = true ∧ r.start = start then 1 else 0 := by
  unfold acceptedIn
  rw [List.countP_append, List.countP_singleton]
  simp only [Bool.and_eq_true, decide_eq_true_eq]

theorem acceptedIn_eq_zero {start : T} {records : List (Record T)}
    (h : ∀ r ∈ records, r.start ≠ start) : acceptedIn start records = 0 := by
  unfold acceptedIn
  rw [List.countP_eq_zero]
  intro r hr haccepted
  exact h r hr (of_decide_eq_true (Bool.and_eq_true_iff.mp haccepted).2)

theorem countP_le_add {α : Type*} {p q q' : α → Bool} {l : List α}
    (h : ∀ x ∈ l, p x = true → q x = true ∨ q' x = true) :
    l.countP p ≤ l.countP q + l.countP q' := by
  induction l with
  | nil => exact Nat.le_refl 0
  | cons x l ih =>
      have hrest := ih fun y hy => h y (List.mem_cons_of_mem x hy)
      have hfirst := h x List.mem_cons_self
      rw [List.countP_cons, List.countP_cons, List.countP_cons]
      cases hp : p x with
      | true =>
          rcases hfirst hp with hq | hq
          all_goals
            rw [hq]
            simp only [if_true]
            omega
      | false =>
          rw [if_neg Bool.false_ne_true]
          omega

/-! ## The limiter -/

variable [CommRing T]

section Limiter

variable (width : T) (limit : ℕ)

/-- An event comes. -/
def Log.arrive (log : Log T) (now : T) : Log T :=
  match log.window with
  | none => ⟨some ⟨1, now⟩, log.records ++ [⟨now, now, true⟩]⟩
  | some w =>
      if width ≤ now - w.start then ⟨some ⟨1, now⟩, log.records ++ [⟨now, now, true⟩]⟩
      else ⟨some ⟨w.count + 1, w.start⟩,
        log.records ++ [⟨now, w.start, decide (w.count + 1 ≤ limit)⟩]⟩

/-- Events come one after the other. -/
def run (times : List T) : Log T := times.foldl (Log.arrive width limit) {}

theorem run_concat (times : List T) (now : T) :
    run width limit (times ++ [now]) = (run width limit times).arrive width limit now :=
  List.foldl_concat ..

end Limiter

variable {width : T}

/-- What an event does to the limiter: it starts a window, or it is counted in the current one. -/
theorem arrive_cases (width : T) (limit : ℕ) (log : Log T) (now : T) :
    (∀ w ∈ log.window, width ≤ now - w.start) ∧
        log.arrive width limit now = ⟨some ⟨1, now⟩, log.records ++ [⟨now, now, true⟩]⟩ ∨
      ∃ w ∈ log.window, now - w.start < width ∧ log.arrive width limit now =
        ⟨some ⟨w.count + 1, w.start⟩,
          log.records ++ [⟨now, w.start, decide (w.count + 1 ≤ limit)⟩]⟩ := by
  unfold Log.arrive
  cases log.window with
  | none => exact .inl ⟨fun w hw => absurd hw (Option.not_mem_none w), rfl⟩
  | some w =>
      by_cases hend : width ≤ now - w.start
      · refine .inl ⟨fun w' hw' => ?_, if_pos hend⟩
        rwa [← Option.some_inj.mp hw']
      · exact .inr ⟨w, rfl, not_le.mp hend, if_neg hend⟩

/-! ## What the counter knows -/

/-- The windows of the events so far: their events are counted, and an event is refused only when
the quota is reached.  The last field says when a window ends, whatever was refused in it. -/
structure Windows (width : T) (limit : ℕ) (records : List (Record T)) : Prop where
  spans : ∀ r ∈ records, r.start ≤ r.time ∧ r.time < r.start + width
  apart : ∀ r ∈ records, ∀ r' ∈ records,
    r.start = r'.start ∨ r.start + width ≤ r'.start ∨ r'.start + width ≤ r.start
  bounded : ∀ start, acceptedIn start records ≤ quota limit
  refused : ∀ before r after, records = before ++ r :: after → r.accepted = false →
    acceptedIn r.start before = quota limit
  follows : records.IsChain fun last next =>
    next.start = if width ≤ next.time - last.start then next.time else last.start

/-- The counter of the current window. -/
structure Counts (width : T) (limit : ℕ) (w : Window T) (records : List (Record T)) : Prop extends
    Windows width limit records where
  earlier : ∀ r ∈ records, r.start = w.start ∨ r.start + width ≤ w.start
  pos : 0 < w.count
  count : acceptedIn w.start records = min w.count (quota limit)
  last : ∃ r, records.getLast? = some r ∧ r.start = w.start

theorem windows_nil : Windows width limit [] where
  spans := fun _ hr => absurd hr List.not_mem_nil
  apart := fun _ hr => absurd hr List.not_mem_nil
  bounded := fun _ => Nat.zero_le _
  refused := fun before r after h => absurd h.symm (by simp)
  follows := List.isChain_nil

/-- One more event in a list of events, whatever it does to the counter. -/
theorem Windows.concat {records : List (Record T)} (h : Windows width limit records)
    {r : Record T} (hspan : r.start ≤ r.time ∧ r.time < r.start + width)
    (hearlier : ∀ r' ∈ records, r'.start = r.start ∨ r'.start + width ≤ r.start)
    (haccepted : r.accepted = true → acceptedIn r.start records < quota limit)
    (hrefused : r.accepted = false → acceptedIn r.start records = quota limit)
    (hfollows : ∀ last ∈ records.getLast?,
      r.start = if width ≤ r.time - last.start then r.time else last.start) :
    Windows width limit (records ++ [r]) where
  spans := by
    intro r' hr'
    rcases List.mem_append.mp hr' with hr' | hr'
    · exact h.spans r' hr'
    · rwa [List.mem_singleton.mp hr']
  apart := by
    intro a ha b hb
    rcases List.mem_append.mp ha with ha | ha
    · rcases List.mem_append.mp hb with hb | hb
      · exact h.apart a ha b hb
      · rw [List.mem_singleton.mp hb]
        exact (hearlier a ha).imp_right .inl
    · rw [List.mem_singleton.mp ha]
      rcases List.mem_append.mp hb with hb | hb
      · exact (hearlier b hb).imp Eq.symm .inr
      · exact .inl (by rw [List.mem_singleton.mp hb])
  bounded := by
    intro start
    rw [acceptedIn_concat]
    split
    next hr =>
      rw [← hr.2]
      exact haccepted hr.1
    next => exact h.bounded start
  refused := by
    intro before r' after heq hr'
    rcases List.eq_nil_or_concat after with rfl | ⟨after, last, rfl⟩
    · obtain ⟨rfl, hlast⟩ := List.append_inj' heq rfl
      obtain rfl := List.singleton_inj.mp hlast
      exact hrefused hr'
    · rw [List.concat_eq_append, ← List.cons_append, ← List.append_assoc] at heq
      exact h.refused before r' after (List.append_inj' heq rfl).1 hr'
  follows := by
    rw [List.isChain_append]
    refine ⟨h.follows, List.isChain_singleton r, fun last hlast next hnext => ?_⟩
    rw [← Option.some_inj.mp hnext]
    exact hfollows last hlast

/-- The window is the one that the counter describes. -/
def Log.Holds (width : T) (limit : ℕ) (log : Log T) : Prop :=
  (log.window = none ∧ log.records = []) ∨
    ∃ w, log.window = some w ∧ Counts width limit w log.records

theorem Log.Holds.windows {log : Log T} (h : log.Holds width limit) :
    Windows width limit log.records := by
  rcases h with ⟨-, hnil⟩ | ⟨w, -, hcounts⟩
  · rw [hnil]
    exact windows_nil
  · exact hcounts.toWindows

theorem map_time_arrive (log : Log T) (now : T) :
    (log.arrive width limit now).records.map Record.time =
      log.records.map Record.time ++ [now] := by
  rcases arrive_cases width limit log now with
    ⟨-, harrive⟩ | ⟨w, -, -, harrive⟩
  all_goals rw [harrive, List.map_append, List.map_singleton]

/-- Every event is recorded. -/
theorem map_time_run (times : List T) :
    (run width limit times).records.map Record.time = times := by
  induction times using List.reverseRecOn with
  | nil => rfl
  | append_singleton times now ih => rw [run_concat, map_time_arrive, ih]

section Ordered

variable [IsStrictOrderedRing T]

/-- An event starts a window. -/
theorem Windows.opens (hwidth : 0 < width) {records : List (Record T)}
    (h : Windows width limit records) {now : T} (hend : ∀ r ∈ records, r.start + width ≤ now) :
    Counts width limit ⟨1, now⟩ (records ++ [⟨now, now, true⟩]) := by
  have hnone : acceptedIn now records = 0 :=
    acceptedIn_eq_zero fun r hr heq => by linarith [hend r hr]
  refine { h.concat (r := ⟨now, now, true⟩) ⟨le_rfl, by linarith⟩ (fun r hr => .inr (hend r hr))
    (fun _ => by rw [hnone]; exact quota_pos limit) (fun hr => Bool.noConfusion hr) ?_ with
    earlier := ?_, pos := Nat.one_pos, count := ?_, last := ⟨_, List.getLast?_concat, rfl⟩ }
  · intro last hlast
    exact (if_pos (by linarith [hend last (List.mem_of_getLast? hlast)])).symm
  · intro r hr
    rcases List.mem_append.mp hr with hr | hr
    · exact .inr (hend r hr)
    · exact .inl (by rw [List.mem_singleton.mp hr])
  · rw [acceptedIn_concat, hnone, if_pos ⟨rfl, rfl⟩, Nat.zero_add]
    exact (min_eq_left (quota_pos limit)).symm

/-- An event is counted in the current window. -/
theorem Counts.counts {w : Window T} {records : List (Record T)}
    (h : Counts width limit w records) {now : T} (hstart : w.start ≤ now)
    (hend : now - w.start < width) :
    Counts width limit ⟨w.count + 1, w.start⟩
      (records ++ [⟨now, w.start, decide (w.count + 1 ≤ limit)⟩]) := by
  have hcount := h.count
  have hwithin := within_iff limit h.pos
  refine { h.toWindows.concat (r := ⟨now, w.start, decide (w.count + 1 ≤ limit)⟩)
    ⟨hstart, by linarith⟩ h.earlier ?_ ?_ ?_ with
    earlier := ?_, pos := Nat.succ_pos _, count := ?_, last := ⟨_, List.getLast?_concat, rfl⟩ }
  · intro hr
    have hlt := hwithin.mp (of_decide_eq_true hr)
    rw [hcount]
    omega
  · intro hr
    have hge := (not_congr hwithin).mp (of_decide_eq_false hr)
    rw [hcount]
    omega
  · intro last hlast
    obtain ⟨r, hr, hstart⟩ := h.last
    obtain rfl : r = last := Option.some_inj.mp (hr.symm.trans hlast)
    rw [hstart]
    exact (if_neg (not_le.mpr hend)).symm
  · intro r hr
    rcases List.mem_append.mp hr with hr | hr
    · exact h.earlier r hr
    · exact .inl (by rw [List.mem_singleton.mp hr])
  · rw [acceptedIn_concat, hcount]
    simp only [decide_eq_true_eq, and_true]
    split
    next hle =>
      have := hwithin.mp hle
      omega
    next hgt =>
      have := (not_congr hwithin).mp hgt
      omega

theorem Log.Holds.arrive (hwidth : 0 < width) {log : Log T} (h : log.Holds width limit) {now : T}
    (hlate : ∀ r ∈ log.records, r.time ≤ now) : (log.arrive width limit now).Holds width limit := by
  rcases arrive_cases width limit log now with
    ⟨hends, harrive⟩ | ⟨w, hw, hend, harrive⟩
  · rw [harrive]
    refine .inr ⟨_, rfl, h.windows.opens hwidth fun r hr => ?_⟩
    rcases h with ⟨-, hnil⟩ | ⟨w, hw, hcounts⟩
    · rw [hnil] at hr
      exact absurd hr List.not_mem_nil
    · have hwindow := hends w hw
      rcases hcounts.earlier r hr with hr | hr <;> linarith
  · rw [harrive]
    rcases h with ⟨hnone, -⟩ | ⟨w', hw', hcounts⟩
    · rw [hnone] at hw
      exact absurd hw (Option.not_mem_none w)
    · obtain rfl : w = w' := Option.some_inj.mp (hw.symm.trans hw')
      obtain ⟨r, hr, hstart⟩ := hcounts.last
      have hmem := List.mem_of_getLast? hr
      have hbefore : w.start ≤ now := hstart ▸ (hcounts.spans r hmem).1.trans (hlate r hmem)
      exact .inr ⟨_, rfl, hcounts.counts hbefore hend⟩

/-- **The counter after any events**, if time does not run backwards. -/
theorem run_holds (limit : ℕ) (hwidth : 0 < width) {times : List T}
    (hsorted : times.Pairwise (· ≤ ·)) : (run width limit times).Holds width limit := by
  induction times using List.reverseRecOn with
  | nil => exact .inl ⟨rfl, rfl⟩
  | append_singleton times now ih =>
      rw [List.pairwise_append] at hsorted
      rw [run_concat]
      refine (ih hsorted.1).arrive hwidth fun r hr => ?_
      have htime := List.mem_map_of_mem (f := Record.time) hr
      rw [map_time_run] at htime
      exact hsorted.2.2 r.time htime now (List.mem_singleton_self now)

/-! ## Intervals -/

/-- An interval of the width of a window meets two windows at most. -/
theorem Windows.two {records : List (Record T)} (h : Windows width limit records) (t : T) :
    ∃ a b, ∀ r ∈ records, t ≤ r.time → r.time ≤ t + width → r.start = a ∨ r.start = b := by
  by_cases hfirst : ∃ r ∈ records, t ≤ r.time ∧ r.time ≤ t + width
  · obtain ⟨r₁, hr₁, hlo₁, hhi₁⟩ := hfirst
    by_cases hsecond : ∃ r ∈ records, (t ≤ r.time ∧ r.time ≤ t + width) ∧ r.start ≠ r₁.start
    · obtain ⟨r₂, hr₂, ⟨hlo₂, hhi₂⟩, hne⟩ := hsecond
      refine ⟨r₁.start, r₂.start, fun r hr hlo hhi => ?_⟩
      by_contra hthird
      rw [not_or] at hthird
      have hspan₁ := h.spans r₁ hr₁
      have hspan₂ := h.spans r₂ hr₂
      have hspan := h.spans r hr
      -- The starts of three windows lie within less than two widths.
      rcases (h.apart r₂ hr₂ r₁ hr₁).resolve_left hne with h₁₂ | h₁₂ <;>
        rcases (h.apart r hr r₁ hr₁).resolve_left hthird.1 with h₁ | h₁ <;>
        rcases (h.apart r hr r₂ hr₂).resolve_left hthird.2 with h₂ | h₂ <;>
        linarith
    · refine ⟨r₁.start, r₁.start, fun r hr hlo hhi => .inl ?_⟩
      by_contra hne
      exact hsecond ⟨r, hr, ⟨hlo, hhi⟩, hne⟩
  · exact ⟨t, t, fun r hr hlo hhi => absurd ⟨r, hr, hlo, hhi⟩ hfirst⟩

/-- So twice the quota is accepted in it at most. -/
theorem Windows.accepted_in_interval_le {records : List (Record T)}
    (h : Windows width limit records) (t : T) :
    (records.countP fun r => r.accepted && (t ≤ r.time && r.time ≤ t + width)) ≤
      2 * quota limit := by
  obtain ⟨a, b, htwo⟩ := h.two t
  have hle : (records.countP fun r => r.accepted && (t ≤ r.time && r.time ≤ t + width)) ≤
      acceptedIn a records + acceptedIn b records := by
    refine countP_le_add fun r hr hin => ?_
    simp only [Bool.and_eq_true, decide_eq_true_eq] at hin ⊢
    exact (htwo r hr hin.2.1 hin.2.2).imp (And.intro hin.1) (And.intro hin.1)
  have ha := h.bounded a
  have hb := h.bounded b
  omega

end Ordered

/-! ## Without the refused events -/

/-- A counter that stops at the quota. -/
def Window.kept (limit : ℕ) (w : Window T) : Window T := ⟨min w.count (quota limit), w.start⟩

/-- What the accepted events leave. -/
def Log.kept (limit : ℕ) (log : Log T) : Log T :=
  ⟨log.window.map (Window.kept limit), log.records.filter fun r => r.accepted⟩

theorem arrive_pos (log : Log T) (now : T) :
    ∀ w ∈ (log.arrive width limit now).window, 0 < w.count := by
  intro w hw
  rcases arrive_cases width limit log now with
    ⟨-, harrive⟩ | ⟨w', -, -, harrive⟩
  all_goals
    rw [harrive] at hw
    rw [← Option.some_inj.mp hw]
    exact Nat.succ_pos _

/-- An event leaves what it would leave without the refused ones, or it is refused and leaves
nothing. -/
theorem arrive_kept (width : T) {log : Log T} (hpos : ∀ w ∈ log.window, 0 < w.count) (now : T) :
    (log.arrive width limit now).kept limit = (log.kept limit).arrive width limit now ∨
      (log.arrive width limit now).kept limit = log.kept limit := by
  rcases arrive_cases width limit log now with
    ⟨hends, harrive⟩ | ⟨w, hw, hend, harrive⟩
  · have hopens : (log.kept limit).arrive width limit now =
        ⟨some ⟨1, now⟩, (log.kept limit).records ++ [⟨now, now, true⟩]⟩ := by
      unfold Log.arrive Log.kept
      cases hw : log.window with
      | none => rfl
      | some w => exact if_pos (hends w hw)
    have hone : Window.kept limit ⟨1, now⟩ = ⟨1, now⟩ := by
      rw [Window.kept, min_eq_left (quota_pos limit)]
    left
    rw [hopens, harrive, Log.kept, List.filter_append, Option.map_some, hone]
    rfl
  · have hwindow : (log.kept limit).window = some (w.kept limit) := by
      rw [Log.kept, hw, Option.map_some]
    have hwithin := within_iff limit (hpos w hw)
    by_cases hle : w.count + 1 ≤ limit
    · have hcount : min w.count (quota limit) = w.count := min_eq_left (hwithin.mp hle).le
      have hnext : min (w.count + 1) (quota limit) = w.count + 1 := min_eq_left (hwithin.mp hle)
      have hcounts : (log.kept limit).arrive width limit now = ⟨some ⟨w.count + 1, w.start⟩,
          (log.kept limit).records ++ [⟨now, w.start, true⟩]⟩ := by
        unfold Log.arrive
        rw [hwindow, Window.kept, hcount]
        simp only [if_neg (not_le.mpr hend), hle, decide_true]
      left
      rw [hcounts, harrive, Log.kept, List.filter_append, Option.map_some, Window.kept, hnext,
        decide_eq_true hle]
      rfl
    · have hnext : min (w.count + 1) (quota limit) = min w.count (quota limit) := by
        have := (not_congr hwithin).mp hle
        omega
      right
      rw [harrive, Log.kept, Log.kept, List.filter_append, Option.map_some, Window.kept, hnext,
        decide_eq_false hle, List.filter_cons_of_neg Bool.false_ne_true, List.filter_nil,
        List.append_nil, hw, Option.map_some, Window.kept]

theorem kept_run (times : List T) : (run width limit times).kept limit =
    run width limit (((run width limit times).kept limit).records.map Record.time) := by
  induction times using List.reverseRecOn with
  | nil => rfl
  | append_singleton times now ih =>
      have hpos : ∀ w ∈ (run width limit times).window, 0 < w.count := by
        rcases List.eq_nil_or_concat times with rfl | ⟨before, last, rfl⟩
        · exact fun w hw => absurd hw (Option.not_mem_none w)
        · rw [List.concat_eq_append, run_concat]
          exact arrive_pos _ last
      rw [run_concat]
      rcases arrive_kept width hpos now with hkept | hkept
      · rw [hkept, map_time_arrive, run_concat, ← ih]
      · rw [hkept]
        exact ih

/-- **Refused events change nothing for the others.**  Without them the same events are accepted,
in windows that start at the same times. -/
theorem records_run_accepted (width : T) (limit : ℕ) (times : List T) :
    (run width limit (((run width limit times).records.filter fun r => r.accepted).map
      Record.time)).records = (run width limit times).records.filter fun r => r.accepted :=
  (congrArg Log.records (kept_run times)).symm

end FixedWindows
