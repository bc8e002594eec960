import PodGauges.Cycle
import PodGauges.Proofs.Cycle.Reading

/-! The categories do not interfere. The state falls into a share for each category and the rest,
which no cycle touches; an update leaves the shares of the others as they are and makes its own from
that share alone. Hence what a cycle does to a category is what its update does alone, whatever the
others do before or after it, and wherever they break off. -/
namespace PodGauges.Cycle

/-- What the state keeps for one category: its series, and for the processes also the throttle and
the last sample. -/
structure Share where
  gauges : Gauges
  kept : Option (Throttle Float × Option Processes.Aggregate)

namespace State

def share (state : State) (category : Category) : Share where
  gauges := state.gauges.part (some category)
  kept := if category = .process then some (state.throttle, state.lastSample) else none

/-- What no category owns: the series that are written before the first cycle, and the count of
cycles. -/
def rest (state : State) : Gauges × Nat := (state.gauges.part none, state.cycles)

end State

/-- A step of a category: the state after it, and whether it succeeded. -/
abbrev Step := State → State × Bool

/-- The steps of some categories one after another, with the outcome of each. -/
def inTurn (step : Category → Step) (state : State) : List Category → State × List (Category × Bool)
  | [] => (state, [])
  | category :: rest =>
    let (state, succeeded) := step category state
    let (state, outcomes) := inTurn step state rest
    (state, (category, succeeded) :: outcomes)

/-- An exception somewhere in the update of a category, for whatever reason: some of its series may
have been written before, and the throttle may have been asked. Nothing after it is done, so the
last sample is not replaced. -/
structure Interruption (category : Category) where
  writes : List Write
  own : ∀ w ∈ writes, w.series.category? = some category
  throttle : Throttle Float → Throttle Float

/-- What an interrupted update leaves. Only that of the processes has a throttle to ask. -/
def Interruption.step {category : Category} (fault : Interruption category) : Step := fun state =>
  ({ state with
      gauges := (state.gauges.writeAll fault.writes).1
      throttle := if category = .process then fault.throttle state.throttle else state.throttle },
    false)

/-- The update of a category, unless an exception is forced into it. -/
def attempt (config : Config) (moment : Moment)
    (fault? : (category : Category) → Option (Interruption category)) (category : Category) :
    Step := fun state =>
  match fault? category with
  | some fault => fault.step state
  | none =>
    let update := update config moment state category
    (update.state, update.failure.isNone)

/-- A step is confined to a category: all other shares and the rest stay as they are, and both the
new share of the category and the outcome follow from its old share. -/
structure Confined (category : Category) (step : Step) : Prop where
  share_of_ne : ∀ state other, other ≠ category → (step state).1.share other = state.share other
  rest_eq : ∀ state, (step state).1.rest = state.rest
  share_congr : ∀ state state', state.share category = state'.share category →
    (step state).1.share category = (step state').1.share category
  outcome_congr : ∀ state state', state.share category = state'.share category →
    (step state).2 = (step state').2

namespace State

variable {state state' : State}

theorem part_of_share {category : Category} (h : state.share category = state'.share category) :
    state.gauges.part (some category) = state'.gauges.part (some category) :=
  congrArg Share.gauges h

/-- The series of a category read alike in states with equal shares of it. -/
theorem value?_of_share {category : Category} (h : state.share category = state'.share category)
    {series : Series} (hSeries : series.category? = some category) :
    state.gauges.value? series = state'.gauges.value? series := by
  apply Gauges.value?_eq_of_part
  rw [hSeries]
  exact part_of_share h

theorem kept_of_share (h : state.share .process = state'.share .process) :
    state.throttle = state'.throttle ∧ state.lastSample = state'.lastSample := by
  have hKept : some (state.throttle, state.lastSample) =
      some (state'.throttle, state'.lastSample) := congrArg Share.kept h
  simpa using hKept

end State

/-- A step that writes series of its category, and changes what is kept of the processes only if it
is theirs, is confined to that category. -/
theorem Confined.of_writes {category : Category} {step : Step} (writes : List Write)
    (own : ∀ w ∈ writes, w.series.category? = some category) (succeeded : Bool)
    (throttle : Throttle Float → Throttle Float)
    (lastSample : Option Processes.Aggregate → Option Processes.Aggregate)
    (hThrottle : category ≠ .process → throttle = id)
    (hLast : category ≠ .process → lastSample = id)
    (h : ∀ state, step state = ({ state with
      gauges := (state.gauges.writeAll writes).1
      throttle := throttle state.throttle
      lastSample := lastSample state.lastSample }, succeeded)) : Confined category step where
  share_of_ne state other hOther := by
    have hForeign : ∀ w ∈ writes, w.series.category? ≠ some other := by
      intro w hw hSame
      rw [own w hw] at hSame
      exact hOther (Option.some.inj hSame).symm
    simp only [h, State.share, Gauges.part_writeAll_of_foreign _ hForeign]
    -- Only the processes keep anything beside gauges, and the step is not theirs.
    by_cases hProcess : other = .process
    · have hCategory : category ≠ .process := fun hc => hOther (hProcess.trans hc.symm)
      simp only [hThrottle hCategory, hLast hCategory, id]
    · simp only [if_neg hProcess]
  rest_eq state := by
    have hForeign : ∀ w ∈ writes, w.series.category? ≠ none := by
      intro w hw hNone
      rw [own w hw] at hNone
      cases hNone
    simp only [h, State.rest, Gauges.part_writeAll_of_foreign _ hForeign]
  share_congr state state' hShare := by
    simp only [h, State.share, Gauges.part_writeAll_of_own _ own, State.part_of_share hShare]
    by_cases hProcess : category = .process
    · subst hProcess
      obtain ⟨hKeptThrottle, hKeptLast⟩ := State.kept_of_share hShare
      rw [hKeptThrottle, hKeptLast]
    · simp only [if_neg hProcess]
  outcome_congr state state' _ := by rw [h, h]

/-- An exception that breaks off an update reaches no further than the update. -/
theorem Interruption.confined {category : Category} (fault : Interruption category) :
    Confined category fault.step := by
  by_cases hProcess : category = .process
  · refine .of_writes fault.writes fault.own false fault.throttle id (absurd hProcess)
      (fun _ => rfl) fun state => ?_
    simp [step, hProcess]
  · refine .of_writes fault.writes fault.own false id id (fun _ => rfl) (fun _ => rfl)
      fun state => ?_
    simp [step, hProcess]

/-- The update of a category is confined to it, even with an exception forced into it. -/
theorem attempt_confined (config : Config) (moment : Moment)
    (fault? : (category : Category) → Option (Interruption category)) (category : Category) :
    Confined category (attempt config moment fault? category) := by
  unfold attempt
  cases fault? category with
  | some fault => exact fault.confined
  | none =>
      have hThrottle (hc : category ≠ .process) :
          (fun throttle => throttleAfter config moment throttle category) = id := by
        cases category <;> first | rfl | exact absurd rfl hc
      have hLast (hc : category ≠ .process) :
          (fun lastSample => lastSampleAfter config moment lastSample category) = id := by
        cases category <;> first | rfl | exact absurd rfl hc
      cases hSampled : sampled config moment category with
      | error failure =>
          refine .of_writes [] (by simp) (failure? config moment category).isNone _ _ hThrottle
            hLast fun state => ?_
          simp [update_state, update_failure, stateAfter, gaugesAfter, hSampled, Gauges.writeAll]
      | ok writes =>
          refine .of_writes writes (fun w hw => category?_of_sampled hSampled hw)
            (failure? config moment category).isNone _ _ hThrottle hLast fun state => ?_
          simp [update_state, update_failure, stateAfter, gaugesAfter, hSampled]

section InTurn

variable {step : Category → Step} (confined : ∀ category, Confined category (step category))
include confined

/-- Steps in turn leave the share of a category that has no turn, and the rest. -/
theorem inTurn_share_of_not_mem (order : List Category) (state : State) {category : Category}
    (h : category ∉ order) : (inTurn step state order).1.share category = state.share category := by
  induction order generalizing state with
  | nil => rfl
  | cons first order ih =>
      have hFirst : category ≠ first := fun he => h (he ▸ List.mem_cons_self ..)
      have hOrder : category ∉ order := fun hm => h (List.mem_cons_of_mem _ hm)
      exact (ih _ hOrder).trans ((confined first).share_of_ne state category hFirst)

/-- Steps that are confined leave alone what belongs to nobody. -/
theorem inTurn_rest (order : List Category) (state : State) :
    (inTurn step state order).1.rest = state.rest := by
  induction order generalizing state with
  | nil => rfl
  | cons first order ih => exact (ih _).trans ((confined first).rest_eq state)

/-- A category that has one turn ends with the share that its step alone would leave. -/
theorem inTurn_share_of_mem {order : List Category} (hNodup : order.Nodup) (state : State)
    {category : Category} (h : category ∈ order) :
    (inTurn step state order).1.share category = (step category state).1.share category := by
  induction order generalizing state with
  | nil => cases h
  | cons first order ih =>
      obtain ⟨hFresh, hOrder⟩ := List.nodup_cons.mp hNodup
      rcases List.mem_cons.mp h with rfl | hLater
      · exact inTurn_share_of_not_mem confined order _ hFresh
      · -- the first step is another category's and has left the share as it was
        have hFirst : category ≠ first := fun he => hFresh (he ▸ hLater)
        have hSame := (confined first).share_of_ne state category hFirst
        exact (ih hOrder _ hLater).trans ((confined category).share_congr _ _ hSame)

/-- The outcome of each step is that which it has alone, whatever came before it. -/
theorem inTurn_outcomes {order : List Category} (hNodup : order.Nodup) (state : State) :
    (inTurn step state order).2 =
      order.map fun category => (category, (step category state).2) := by
  induction order generalizing state with
  | nil => rfl
  | cons first order ih =>
      obtain ⟨hFresh, hOrder⟩ := List.nodup_cons.mp hNodup
      refine congrArg (List.cons _) ((ih hOrder _).trans ?_)
      refine List.map_congr_left fun category hLater => ?_
      have hFirst : category ≠ first := fun he => hFresh (he ▸ hLater)
      have hSame := (confined first).share_of_ne state category hFirst
      rw [(confined category).outcome_congr _ _ hSame]

end InTurn

variable (config : Config) (moment : Moment) (state : State)

/-- The updates of a cycle are attempts in turn, with no exception forced. -/
theorem updateAll_eq (order : List Category) :
    ((updateAll config moment state order).state, (updateAll config moment state order).succeeded) =
      inTurn (attempt config moment fun _ => none) state order := by
  induction order generalizing state with
  | nil => rfl
  | cons category order ih =>
      simp only [inTurn, updateAll, attempt, ← ih]

/-- Only the processes may be left out, for want of a target. -/
theorem mem_categories {category : Category} :
    category ∈ categories config ↔ (category = .process → config.target ≠ none) := by
  cases hTarget : config.target <;> cases category <;> simp [categories, hTarget]

theorem nodup_categories : (categories config).Nodup := by
  unfold categories
  cases config.target.isSome <;> decide

/-- The share of a category after a cycle is what its update alone makes of it. -/
theorem run_share {category : Category} (h : category ∈ categories config) :
    (run config moment state).state.share category =
      (update config moment state category).state.share category := by
  have hTurn := inTurn_share_of_mem (attempt_confined config moment fun _ => none)
    (nodup_categories config) state h
  rw [← updateAll_eq] at hTurn
  exact hTurn

/-- A category that is not updated, as the processes without a target, keeps its share. -/
theorem run_share_of_not_mem {category : Category} (h : category ∉ categories config) :
    (run config moment state).state.share category = state.share category := by
  have hTurn := inTurn_share_of_not_mem (attempt_confined config moment fun _ => none)
    (categories config) state h
  rw [← updateAll_eq] at hTurn
  exact hTurn

/-- A cycle changes nothing outside of the categories but the count of cycles. -/
theorem run_rest : (run config moment state).state.rest =
    (state.gauges.part none, state.cycles + 1) := by
  have hRest := inTurn_rest (attempt_confined config moment fun _ => none) (categories config) state
  rw [← updateAll_eq] at hRest
  obtain ⟨hPart, hCycles⟩ := Prod.mk.inj hRest
  exact Prod.ext hPart (congrArg (· + 1) hCycles)

/-- Of each category in turn it is told whether its update alone succeeds. -/
theorem run_succeeded : (run config moment state).succeeded =
    (categories config).map fun category =>
      (category, (update config moment state category).failure.isNone) := by
  have hTurn := inTurn_outcomes (attempt_confined config moment fun _ => none)
    (nodup_categories config) state
  rw [← updateAll_eq] at hTurn
  exact hTurn

/-- A category succeeds just if it has a turn and nothing fails in it. -/
theorem mem_succeeded {category : Category} {outcome : Bool} :
    (category, outcome) ∈ (run config moment state).succeeded ↔
      category ∈ categories config ∧ outcome = (failure? config moment category).isNone := by
  simp only [run_succeeded, update_failure, List.mem_map, Prod.mk.injEq]
  constructor
  · rintro ⟨_, hTurn, rfl, rfl⟩
    exact ⟨hTurn, rfl⟩
  · rintro ⟨hTurn, rfl⟩
    exact ⟨category, hTurn, rfl, rfl⟩

/-- A series has after a cycle what the update of its category alone gives it. -/
theorem run_value? {category : Category} (h : category ∈ categories config) {series : Series}
    (hSeries : series.category? = some category) :
    (run config moment state).state.gauges.value? series =
      (gaugesAfter config moment state.gauges category).value? series := by
  have hShare := run_share config moment state h
  rw [update_state] at hShare
  exact State.value?_of_share hShare hSeries

/-- The last sample after a cycle is that which the update of the processes leaves. -/
theorem run_lastSample : (run config moment state).state.lastSample =
    lastSampleAfter config moment state.lastSample .process := by
  by_cases hTurn : .process ∈ categories config
  · have hShare := run_share config moment state hTurn
    rw [update_state] at hShare
    exact (State.kept_of_share hShare).2
  · have hTarget : config.target = none := by simpa [mem_categories] using hTurn
    have hSample : sampleProcesses config moment = .ok none := by simp [sampleProcesses, hTarget]
    rw [(State.kept_of_share (run_share_of_not_mem config moment state hTurn)).2]
    simp only [lastSampleAfter, hSample]
    cases failure? config moment .process <;> rfl

/-- In any order, and with exceptions forced into any other categories, the share of a category is
that which it has after a cycle. -/
theorem share_of_order (fault? : (category : Category) → Option (Interruption category))
    {order : List Category} (hOrder : order.Perm (categories config)) {category : Category}
    (hFault : fault? category = none) :
    (inTurn (attempt config moment fault?) state order).1.share category =
      (run config moment state).state.share category := by
  have confined := attempt_confined config moment fault?
  by_cases hTurn : category ∈ order
  · have hNodup : order.Nodup := hOrder.nodup_iff.mpr (nodup_categories config)
    rw [inTurn_share_of_mem confined hNodup state hTurn,
      run_share config moment state (hOrder.mem_iff.mp hTurn)]
    simp only [attempt, hFault]
  · rw [inTurn_share_of_not_mem confined order state hTurn,
      run_share_of_not_mem config moment state fun hm => hTurn (hOrder.mem_iff.mpr hm)]

/-- Every category that is not forced to fail has the outcome of its update alone, in any order. -/
theorem outcomes_of_order (fault? : (category : Category) → Option (Interruption category))
    {order : List Category} (hOrder : order.Perm (categories config)) :
    (inTurn (attempt config moment fault?) state order).2 = order.map fun category =>
      (category, (fault? category).isNone &&
        (update config moment state category).failure.isNone) := by
  have hNodup : order.Nodup := hOrder.nodup_iff.mpr (nodup_categories config)
  rw [inTurn_outcomes (attempt_confined config moment fault?) hNodup]
  refine List.map_congr_left fun category _ => ?_
  cases hFault : fault? category <;> simp [attempt, hFault, Interruption.step]

/-- Trees that agree for a category give it the same share and the same outcome of a cycle. -/
theorem run_congr {tree : File.Tree} {category : Category}
    (h : Agree config moment.tree tree category) :
    (run config { moment with tree := tree } state).state.share category =
      (run config moment state).state.share category ∧
    ∀ outcome, (category, outcome) ∈ (run config { moment with tree := tree } state).succeeded ↔
      (category, outcome) ∈ (run config moment state).succeeded := by
  constructor
  · by_cases hTurn : category ∈ categories config
    · rw [run_share _ _ _ hTurn, run_share _ _ _ hTurn, update_state, update_state,
        stateAfter_congr h]
    · rw [run_share_of_not_mem _ _ _ hTurn, run_share_of_not_mem _ _ _ hTurn]
  · intro outcome
    rw [mem_succeeded, mem_succeeded, failure?_congr h]

/-- The categories of a cycle are isolated from each other, whatever state it starts from. Each has
its turn once, but for the processes without a target. A cycle counts itself once, and leaves each
category as its update alone would, with the same outcome; what belongs to no updated category
stays. Neither another order nor exceptions forced into some of the updates change anything for the
others, and a category sees no file but those it reads. -/
theorem run_isolated :
    (categories config).Nodup ∧
    (∀ category, category ∈ categories config ↔ (category = .process → config.target ≠ none)) ∧
    (run config moment state).state.cycles = state.cycles + 1 ∧
    (run config moment state).state.gauges.part none = state.gauges.part none ∧
    (run config moment state).succeeded = (categories config).map (fun category =>
      (category, (update config moment state category).failure.isNone)) ∧
    (∀ category ∈ categories config, (run config moment state).state.share category =
      (update config moment state category).state.share category) ∧
    (∀ category ∉ categories config,
      (run config moment state).state.share category = state.share category) ∧
    (∀ (fault? : (category : Category) → Option (Interruption category)) (order : List Category),
      order.Perm (categories config) →
      (inTurn (attempt config moment fault?) state order).2 = order.map (fun category =>
        (category, (fault? category).isNone &&
          (update config moment state category).failure.isNone)) ∧
      (∀ series, (∀ category, series.category? = some category → fault? category = none) →
        (inTurn (attempt config moment fault?) state order).1.gauges.value? series =
          (run config moment state).state.gauges.value? series) ∧
      (fault? .process = none →
        (inTurn (attempt config moment fault?) state order).1.throttle =
          (run config moment state).state.throttle ∧
        (inTurn (attempt config moment fault?) state order).1.lastSample =
          (run config moment state).state.lastSample)) ∧
    (∀ (tree : File.Tree) (category : Category), Agree config moment.tree tree category →
      (run config { moment with tree := tree } state).state.share category =
        (run config moment state).state.share category ∧
      ∀ outcome, (category, outcome) ∈ (run config { moment with tree := tree } state).succeeded ↔
        (category, outcome) ∈ (run config moment state).succeeded) := by
  obtain ⟨hPart, hCycles⟩ := Prod.mk.inj (run_rest config moment state)
  refine ⟨nodup_categories config, fun _ => mem_categories config, hCycles, hPart,
    run_succeeded config moment state, fun _ => run_share config moment state,
    fun _ => run_share_of_not_mem config moment state, fun fault? order hOrder => ?_,
    fun tree category => run_congr config moment state⟩
  refine ⟨outcomes_of_order config moment state fault? hOrder, fun series hSeries => ?_,
    fun hFault => State.kept_of_share (share_of_order config moment state fault? hOrder hFault)⟩
  cases hCategory : series.category? with
  | some category =>
      have hShare := share_of_order config moment state fault? hOrder (hSeries category hCategory)
      exact State.value?_of_share hShare hCategory
  | none =>
      have hRest := inTurn_rest (attempt_confined config moment fault?) order state
      apply Gauges.value?_eq_of_part
      rw [hCategory, hPart]
      exact congrArg Prod.fst hRest

end PodGauges.Cycle
