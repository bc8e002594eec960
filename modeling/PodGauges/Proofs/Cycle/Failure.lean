import PodGauges.Proofs.Config.Accepted
import PodGauges.Proofs.Cycle.Isolation

/-! What a failed update leaves behind. A sample that cannot be taken leaves everything as it was. A
sampled value that is too large is only noticed while the sample is written, and what was written
before it stays written. -/
namespace PodGauges.Cycle

open Number

/-- The writes of a category broke off at one of them: those in front of it are made, its own
series keeps its value or else appears as zero, and no other series of the category has changed. -/
structure BrokenOff (category : Category) (done : List Write) (failing : Write)
    (before after : Gauges) : Prop where
  made : ∀ w ∈ done, ∃ x, w.value.toReal = .ok x ∧ after.value? w.series = some x
  tooLarge : ∃ error, failing.value.toReal = .error error
  marked : after.value? failing.series =
    if failing.value.marksFirst then some ((before.value? failing.series).getD 0.0)
    else before.value? failing.series
  others : ∀ series, series.category? = some category → series ≠ failing.series →
    (∀ w ∈ done, series ≠ w.series) → after.value? series = before.value? series

variable {config : Config} {moment : Moment} {category : Category}

/-- An update fails if its sample cannot be taken, or if a sampled value is too large. -/
theorem sampled_of_failure {failure : Failure}
    (h : failure? config moment category = some failure) :
    sampled config moment category = .error failure ∨
    ∃ done w rest error, sampled config moment category = .ok (done ++ w :: rest) ∧
      (∀ d ∈ done, d.error? = none) ∧ w.error? = some error := by
  unfold failure? at h
  cases hSampled : sampled config moment category with
  | error failure =>
      rw [hSampled] at h
      exact Or.inl (congrArg Except.error (Option.some.inj h))
  | ok writes =>
      rw [hSampled] at h
      obtain ⟨error, hFound, _⟩ := Option.map_eq_some_iff.mp h
      obtain ⟨done, w, rest, rfl, hError, hDone⟩ := List.findSome?_eq_some_iff.mp hFound
      exact Or.inr ⟨done, w, rest, error, rfl, hDone, hError⟩

/-- Processes that could not be updated keep the last sample that there was. -/
theorem lastSampleAfter_of_failure {failure : Failure}
    (h : failure? config moment .process = some failure)
    (lastSample : Option Processes.Aggregate) :
    lastSampleAfter config moment lastSample .process = lastSample := by
  simp only [lastSampleAfter, h]

/-- A category that a cycle reports as failed has kept its series, and the processes their last
sample, unless a sampled value was too large. Then the series hold what was sampled up to that
value, and only the last sample is kept. -/
theorem run_of_failed {state : State}
    (h : (category, false) ∈ (run config moment state).succeeded) :
    (category = .process → (run config moment state).state.lastSample = state.lastSample) ∧
    ((∃ failure, sampled config moment category = .error failure ∧
        (run config moment state).state.gauges.part (some category) =
          state.gauges.part (some category)) ∨
      ∃ done failing rest, sampled config moment category = .ok (done ++ failing :: rest) ∧
        BrokenOff category done failing state.gauges (run config moment state).state.gauges) := by
  obtain ⟨hTurn, hOutcome⟩ := (mem_succeeded config moment state).mp h
  obtain ⟨failure, hFailure⟩ : ∃ failure, failure? config moment category = some failure :=
    Option.isSome_iff_exists.mp (by simpa using hOutcome)
  refine ⟨?_, ?_⟩
  · rintro rfl
    rw [run_lastSample, lastSampleAfter_of_failure hFailure]
  · rcases sampled_of_failure hFailure with
      hSampled | ⟨done, w, rest, error, hSampled, hDone, hError⟩
    · refine Or.inl ⟨failure, hSampled, ?_⟩
      have hShare := run_share config moment state hTurn
      rw [update_state] at hShare
      rw [State.part_of_share hShare]
      simp only [stateAfter, gaugesAfter, hSampled]
    · refine Or.inr ⟨done, w, rest, hSampled, ?_⟩
      have hDescribes := describes_of_sampled hSampled
      obtain ⟨hMade, hMarked, hOthers⟩ :=
        hDescribes.value?_writeAll_of_error hDone hError state.gauges
      -- No other category writes to these series, so that they are what its own writes have left.
      have hRun {series : Series} (hSeries : series.category? = some category) :
          (run config moment state).state.gauges.value? series =
            (state.gauges.writeAll (done ++ w :: rest)).1.value? series := by
        rw [run_value? config moment state hTurn hSeries]
        simp only [gaugesAfter, hSampled]
      refine ⟨fun d hd => ?_, ⟨error, Write.error?_eq_some.mp hError⟩, ?_, ?_⟩
      · rw [hRun (category?_of_sampled hSampled (List.mem_append_left _ hd))]
        exact hMade d hd
      · rw [hRun (category?_of_sampled hSampled (by simp))]
        exact hMarked
      · intro series hSeries hFailing hDone
        rw [hRun hSeries]
        exact hOthers series hFailing hDone

/-- A control group that uses five bytes, with a maximum that no double holds: a one and four
hundred zeros. -/
def overlargeMaximum : Moment where
  tree := ⟨[(["sys"], .directory), (["sys", "fs"], .directory),
    (["sys", "fs", "cgroup"], .directory),
    (["sys", "fs", "cgroup", "memory.current"], .file [0x35]),
    (["sys", "fs", "cgroup", "memory.max"], .file (0x31 :: List.replicate 400 0x30))]⟩
  pageSize := 4096
  now := 0.0
  clock := 0.0

/-- The outcome of a first cycle over that control group. -/
def overlargeOutcome : Outcome :=
  run Config.plain overlargeMaximum (State.start (Gauges.ofConfig Config.plain))

/-- The maximum is sampled and cannot be written, so that the update breaks off there. -/
theorem run_of_failed_overlargeMaximum :
    (.cgroup, false) ∈ overlargeOutcome.succeeded ∧
    ∃ done failing rest,
      sampled Config.plain overlargeMaximum .cgroup = .ok (done ++ failing :: rest) ∧
      BrokenOff .cgroup done failing (Gauges.ofConfig Config.plain)
        overlargeOutcome.state.gauges := by
  have hFailed : (.cgroup, false) ∈ overlargeOutcome.succeeded := by decide +kernel
  have hTaken : (sampled Config.plain overlargeMaximum .cgroup).toOption.isSome := by decide +kernel
  refine ⟨hFailed, ?_⟩
  rcases (run_of_failed hFailed).2 with ⟨failure, hSampled, _⟩ | hBroken
  · rw [hSampled] at hTaken
    cases hTaken
  · exact hBroken

/-- A failed category may be left half-updated. Nothing was measured before this first cycle, and
although the control group is reported as failed, its usage is exported afterwards. -/
theorem run_leaves_half_updated :
    (.cgroup, false) ∈ overlargeOutcome.succeeded ∧
    (Gauges.ofConfig Config.plain).value? ⟨.cgroupMemory .current, []⟩ = some 0.0 ∧
    overlargeOutcome.state.gauges.value? ⟨.cgroupMemory .current, []⟩ = some 5.0 :=
  ⟨by decide +kernel, by decide +kernel, by decide +kernel⟩

end PodGauges.Cycle
