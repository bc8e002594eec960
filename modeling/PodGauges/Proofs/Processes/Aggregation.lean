import PodGauges.Processes.Aggregate
import PodGauges.Proofs.Number.Order

/-! Aggregates of samples put together. Counts add up, a start is known of the whole just if it is
known of a part, and it is the oldest of those that are known. So it does not matter in which order
the processes were sampled. -/
namespace PodGauges.Processes

open Number

/-! ## The least number -/

section Least

variable {xs ys : List Float} {x y : Float}

/-- The lesser of a number and those that follow it, the earlier one where neither is less. -/
def leastFrom (x : Float) (xs : List Float) : Float :=
  xs.foldl (fun least y => if y < least then y else least) x

theorem leastFrom_cons (x y : Float) (xs : List Float) :
    leastFrom x (y :: xs) = leastFrom (if y < x then y else x) xs := rfl

/-- The least number so far gives way only to a lesser one. -/
theorem leastFrom_eq_or_less (x : Float) (xs : List Float) :
    leastFrom x xs = x ∨ leastFrom x xs < x := by
  induction xs generalizing x with
  | nil => exact .inl rfl
  | cons y ys ih =>
      rw [leastFrom_cons]
      by_cases hLess : y < x
      · rw [if_pos hLess]
        refine .inr ?_
        rcases ih y with h | h
        · rwa [h]
        · exact less_trans h hLess
      · rw [if_neg hLess]
        exact ih x

theorem leastFrom_mem (x : Float) (xs : List Float) : leastFrom x xs ∈ x :: xs := by
  induction xs generalizing x with
  | nil => exact List.mem_cons_self ..
  | cons y ys ih =>
      rw [leastFrom_cons]
      by_cases hLess : y < x
      · rw [if_pos hLess]
        exact List.mem_cons_of_mem x (ih y)
      · rw [if_neg hLess]
        rcases List.mem_cons.mp (ih x) with hFirst | hRest
        · rw [hFirst]
          exact List.mem_cons_self ..
        · exact List.mem_cons_of_mem x (List.mem_cons_of_mem y hRest)

/-- What is not less than the least number so far is not less than one that comes to be least. -/
theorem not_less_leastFrom_of_not_less (h : ¬ y < x) (xs : List Float) : ¬ y < leastFrom x xs := by
  rcases leastFrom_eq_or_less x xs with hSame | hLess
  · rwa [hSame]
  · exact fun hBelow => h (less_trans hBelow hLess)

/-- None is less than the least, not even one that is no number. -/
theorem not_less_leastFrom (hy : y ∈ x :: xs) : ¬ y < leastFrom x xs := by
  induction xs generalizing x with
  | nil =>
      rw [List.mem_singleton.mp hy]
      exact not_less_self x
  | cons head tail ih =>
      rw [leastFrom_cons]
      by_cases hLess : head < x
      · rw [if_pos hLess]
        rcases List.mem_cons.mp hy with rfl | hTail
        · have hNot : ¬ y < head := fun h => not_less_self y (less_trans h hLess)
          exact not_less_leastFrom_of_not_less hNot tail
        · exact ih hTail
      · rw [if_neg hLess]
        rcases List.mem_cons.mp hy with rfl | hTail
        · exact ih (List.mem_cons_self ..)
        · rcases List.mem_cons.mp hTail with rfl | hLater
          · exact not_less_leastFrom_of_not_less hLess tail
          · exact ih (List.mem_cons_of_mem x hLater)

theorem least?_isSome : (least? xs).isSome = !xs.isEmpty := by
  cases xs <;> rfl

/-- The least of some doubles is one of them, and none is less. -/
theorem least?_spec (h : least? xs = some x) : x ∈ xs ∧ ∀ y ∈ xs, ¬ y < x := by
  cases xs with
  | nil => cases h
  | cons head tail =>
      cases h
      exact ⟨leastFrom_mem head tail, fun y => not_less_leastFrom⟩

end Least

/-! ## Aggregates -/

namespace Aggregate

variable {samples others : List Sample} {now : Float}

/-- A known start before which none of the samples has one. -/
structure IsOldest (samples : List Sample) (start : Float) : Prop where
  known : ∃ sample ∈ samples, sample.start = some start
  first : ∀ sample ∈ samples, ∀ other ∈ sample.start, ¬ other < start

/-- The same counts and, as numbers, the same start and uptime. -/
structure Agrees (a b : Aggregate) : Prop where
  members : a.members = b.members
  count : a.count = b.count
  hasStart : a.hasStart = b.hasStart
  start : (a.start == b.start) = true
  uptime : IsSame a.uptime b.uptime

theorem count_ofSamples (samples : List Sample) (now : Float) (counter : Counter) :
    (ofSamples samples now).count counter = (samples.map (·.count counter)).sum :=
  List.sum_eq_foldl.symm

/-- There is a start just if some process has one. -/
theorem hasStart_ofSamples (samples : List Sample) (now : Float) :
    (ofSamples samples now).hasStart = samples.any (·.start.isSome) := by
  have hEmpty : (samples.filterMap (·.start)).isEmpty = !samples.any (·.start.isSome) := by
    induction samples with
    | nil => rfl
    | cons sample samples ih => cases hStart : sample.start <;> simp [hStart, ih]
  calc (ofSamples samples now).hasStart = !(samples.filterMap (·.start)).isEmpty := least?_isSome
    _ = samples.any (·.start.isSome) := by rw [hEmpty, Bool.not_not]

/-- Where a start is known, the oldest is given, and the time since then. -/
theorem isOldest_ofSamples (h : (ofSamples samples now).hasStart = true) :
    IsOldest samples (ofSamples samples now).start ∧
      (ofSamples samples now).uptime = now - (ofSamples samples now).start := by
  obtain ⟨start, hStart⟩ := Option.isSome_iff_exists.mp h
  obtain ⟨hMem, hLeast⟩ := least?_spec hStart
  have hGiven : (ofSamples samples now).start = start := congrArg (·.getD 0.0) hStart
  have hSince : (ofSamples samples now).uptime = now - start :=
    congrArg (fun oldest => (oldest.map (now - ·)).getD 0.0) hStart
  rw [hGiven, hSince]
  refine ⟨⟨List.mem_filterMap.mp hMem, fun sample hSample other hOther => ?_⟩, rfl⟩
  exact hLeast other (List.mem_filterMap.mpr ⟨sample, hSample, hOther⟩)

/-- Nothing is older than the oldest, so two that are known of the same processes are equal. -/
theorem equal_of_isOldest {a b : Float} (hMem : ∀ sample, sample ∈ samples ↔ sample ∈ others)
    (hNumbers : ∀ sample ∈ samples, ∀ start ∈ sample.start, start.isNaN = false)
    (ha : IsOldest samples a) (hb : IsOldest others b) : (a == b) = true := by
  obtain ⟨first, hFirst, hFirstStart⟩ := ha.known
  obtain ⟨second, hSecond, hSecondStart⟩ := hb.known
  have hSecond' : second ∈ samples := (hMem second).mpr hSecond
  exact equal_of_not_less (hNumbers first hFirst a hFirstStart)
    (hNumbers second hSecond' b hSecondStart)
    (hb.first first ((hMem first).mp hFirst) a hFirstStart)
    (ha.first second hSecond' b hSecondStart)

/-- Without a known start both start and uptime are zero. -/
theorem ofSamples_ageless (h : (ofSamples samples now).hasStart = false) :
    (ofSamples samples now).start = 0.0 ∧ (ofSamples samples now).uptime = 0.0 := by
  have hNone : least? (samples.filterMap (·.start)) = none :=
    Option.not_isSome_iff_eq_none.mp (Bool.eq_false_iff.mp h)
  exact ⟨congrArg (·.getD 0.0) hNone,
    congrArg (fun oldest => (oldest.map (now - ·)).getD 0.0) hNone⟩

/-- In another order samples give the same aggregate, up to which of two equal starts is shown. -/
theorem ofSamples_perm (h : samples.Perm others)
    (hNumbers : ∀ sample ∈ samples, ∀ start ∈ sample.start, start.isNaN = false) :
    Agrees (ofSamples samples now) (ofSamples others now) := by
  have hMem (sample : Sample) : sample ∈ samples ↔ sample ∈ others := h.mem_iff
  have hHas : (ofSamples samples now).hasStart = (ofSamples others now).hasStart := by
    rw [hasStart_ofSamples, hasStart_ofSamples, Bool.eq_iff_iff]
    simp only [List.any_eq_true, hMem]
  have hCount : (ofSamples samples now).count = (ofSamples others now).count := by
    funext counter
    rw [count_ofSamples, count_ofSamples]
    exact (h.map _).sum_eq
  cases hKnown : (ofSamples samples now).hasStart with
  | false =>
      obtain ⟨hStart, hUptime⟩ := ofSamples_ageless hKnown
      obtain ⟨hOtherStart, hOtherUptime⟩ := ofSamples_ageless (hHas ▸ hKnown)
      refine ⟨h.length_eq, hCount, hHas, ?_, .inl (hUptime.trans hOtherUptime.symm)⟩
      rw [hStart, hOtherStart]
      decide +kernel
  | true =>
      obtain ⟨hOldest, hUptime⟩ := isOldest_ofSamples hKnown
      obtain ⟨hOtherOldest, hOtherUptime⟩ := isOldest_ofSamples (hHas ▸ hKnown)
      have hEqual := equal_of_isOldest hMem hNumbers hOldest hOtherOldest
      refine ⟨h.length_eq, hCount, hHas, hEqual, ?_⟩
      rw [hUptime, hOtherUptime]
      exact isSame_sub hEqual now

/-- Members without a start have no say in it. -/
theorem ofSamples_filter (samples : List Sample) (now : Float) :
    (ofSamples (samples.filter (·.start.isSome)) now).start = (ofSamples samples now).start ∧
      (ofSamples (samples.filter (·.start.isSome)) now).uptime = (ofSamples samples now).uptime ∧
      (ofSamples (samples.filter (·.start.isSome)) now).hasStart =
        (ofSamples samples now).hasStart := by
  have hStarts : (samples.filter (·.start.isSome)).filterMap (·.start) =
      samples.filterMap (·.start) := by
    rw [List.filterMap_filter]
    exact List.filterMap_congr fun sample _ => by cases sample.start <;> rfl
  have hOldest := congrArg least? hStarts
  exact ⟨congrArg (·.getD 0.0) hOldest,
    congrArg (fun oldest => (oldest.map (now - ·)).getD 0.0) hOldest, congrArg (·.isSome) hOldest⟩

/-- Aggregating goes along with putting samples together. Members and counts add up from those of
the single samples and a start is known if one of them is; it is the oldest then, found without
regard to members whose start is not known. In another order the samples have the same aggregate,
if the starts are numbers. Starts are compared as numbers, so that a zero is the same with either
sign. The sums of processor times are left out, since adding doubles rounds in the order of the
samples. -/
theorem ofSamples_append (xs ys : List Sample) (now : Float)
    (hNumbers : ∀ sample ∈ xs ++ ys, ∀ start ∈ sample.start, start.isNaN = false) :
    let whole := ofSamples (xs ++ ys) now
    let known := ofSamples ((xs ++ ys).filter (·.start.isSome)) now
    (whole.members = (ofSamples xs now).members + (ofSamples ys now).members ∧
      (∀ counter, whole.count counter =
        (ofSamples xs now).count counter + (ofSamples ys now).count counter) ∧
      whole.hasStart = ((ofSamples xs now).hasStart || (ofSamples ys now).hasStart)) ∧
    ofSamples [] now = ⟨0, 0.0, 0.0, 0.0, 0.0, false, fun _ => 0⟩ ∧
    (∀ sample, (ofSamples [sample] now).members = 1 ∧
      (ofSamples [sample] now).count = sample.count ∧
      (ofSamples [sample] now).hasStart = sample.start.isSome) ∧
    (whole.hasStart = true → IsOldest (xs ++ ys) whole.start ∧ whole.uptime = now - whole.start) ∧
    (known.start = whole.start ∧ known.uptime = whole.uptime ∧ known.hasStart = whole.hasStart) ∧
    ∀ samples, samples.Perm (xs ++ ys) → Agrees whole (ofSamples samples now) := by
  refine ⟨⟨List.length_append, fun counter => ?_, ?_⟩, rfl, fun sample => ⟨rfl, ?_, ?_⟩,
    isOldest_ofSamples, ofSamples_filter (xs ++ ys) now,
    fun samples h => ofSamples_perm h.symm hNumbers⟩
  · simp only [count_ofSamples, List.map_append, List.sum_append]
  · simp only [hasStart_ofSamples, List.any_append]
  · funext counter
    rw [count_ofSamples, List.map_singleton, List.sum_singleton]
  · simp [hasStart_ofSamples]

/-- Processes of different ages, and one whose age is not known. -/
def younger : Sample := ⟨0.5, 0.25, some 2.0, fun _ => 3⟩

def older : Sample := ⟨1.5, 0.75, some 1.0, fun _ => 4⟩

def ageless : Sample := ⟨0.0, 0.0, none, fun _ => 5⟩

/-- A process with an older start, sampled later, makes the whole older. -/
theorem ofSamples_append_older :
    (∀ sample ∈ [younger, ageless] ++ [older], ∀ start ∈ sample.start, start.isNaN = false) ∧
      (ofSamples [younger, ageless, older] 5.0).count .resident = 12 ∧
      (ofSamples [younger, ageless, older] 5.0).hasStart = true ∧
      IsOldest [younger, ageless, older] (ofSamples [younger, ageless, older] 5.0).start ∧
      Agrees (ofSamples [younger, ageless, older] 5.0)
        (ofSamples [older, younger, ageless] 5.0) := by
  have hNumbers : ∀ sample ∈ [younger, ageless] ++ [older], ∀ start ∈ sample.start,
      start.isNaN = false := by
    simp only [List.cons_append, List.nil_append, List.forall_mem_cons, younger, ageless, older]
    decide +kernel
  obtain ⟨⟨_, hCount, hStart⟩, _, _, hOldest, _, hPerm⟩ :=
    ofSamples_append [younger, ageless] [older] 5.0 hNumbers
  exact ⟨hNumbers, hCount .resident, hStart, (hOldest hStart).1,
    hPerm _ (@List.perm_append_comm _ [older] [younger, ageless])⟩

end Aggregate

end PodGauges.Processes
