import PodGauges.Proofs.Cycle.Isolation

/-! What a cycle observes of each series, and that a cycle in which every write goes through exports
just that. A series that is not observed keeps what it had. -/
namespace PodGauges

open File Number

/-- A hundred ticks make a second. A mode without a column has spent no time. -/
theorem Host.cpuSeconds_eq_ok {text : List Char} {seconds : Host.CpuSeconds}
    (h : Host.cpuSeconds text Host.defaultTickRate = .ok seconds) :
    ∃ columns, Host.aggregateColumns? text = some columns ∧
      seconds = (fun mode => Host.ticksIn columns mode / 100.0) ∧
      ∀ mode : Host.CpuMode, columns[mode.column]? = none → seconds mode = 0.0 := by
  have hRate : Host.tickRate Host.defaultTickRate = .ok 100.0 := by rfl
  unfold Host.cpuSeconds at h
  cases hColumns : Host.aggregateColumns? text with
  | none =>
      rw [hColumns] at h
      cases h
  | some columns =>
      rw [hColumns, hRate] at h
      obtain rfl : (fun mode => Host.ticksIn columns mode / 100.0) = seconds := Except.ok.inj h
      refine ⟨columns, rfl, rfl, fun mode hMissing => ?_⟩
      simp only [Host.ticksIn, hMissing]
      rfl

/-- Processor times that were seen of a host are those that its file tells. -/
theorem Host.cpuSeconds_of_readCpu {t : Tree} {root : Path} {rate : Int} {seconds : Host.CpuSeconds}
    {log : List Log.Record} (h : Host.readCpu t root rate = .ok (some seconds, log)) :
    ∃ text, t.readLossy (root.child "stat") = .ok text ∧
      Host.cpuSeconds text rate = .ok seconds := by
  simp only [Host.readCpu] at h
  cases hText : t.readLossy (root.child "stat") with
  | error error =>
      rw [hText] at h
      cases h
  | ok text =>
      refine ⟨text, rfl, ?_⟩
      cases hSeconds : Host.cpuSeconds text rate with
      | ok found =>
          simp only [hText, hSeconds] at h
          cases h
          rfl
      | error error =>
          simp only [hText, hSeconds] at h
          cases error <;> cases h

theorem Host.readCpu_of_read {t : Tree} {root : Path} {rate : Int} {snapshot : Host.Snapshot}
    {log : List Log.Record} (h : Host.read t root rate = .ok (snapshot, log)) :
    ∃ cpuLog, Host.readCpu t root rate = .ok (snapshot.cpu, cpuLog) := by
  unfold Host.read at h
  cases hCpu : Host.readCpu t root rate with
  | error error =>
      rw [hCpu] at h
      cases h
  | ok found =>
      rw [hCpu] at h
      cases h
      exact ⟨found.2, rfl⟩

namespace Cycle

/-- Whether a failure came up while sampled values were written. -/
def Failure.isWriting : Failure → Bool
  | .range _ => true
  | _ => false

/-- No write of a cycle at some moment fails. Samples may fail. By `update_failure` this does not
depend on the state in which the cycle starts. -/
def WritesAll (config : Config) (moment : Moment) : Prop :=
  ∀ category ∈ categories config, ¬ (failure? config moment category).any Failure.isWriting

instance (config : Config) (moment : Moment) : Decidable (WritesAll config moment) :=
  inferInstanceAs (Decidable (∀ category ∈ categories config, _))

def eventCount (config : Config) (event : String) (moment : Moment) : Option Int :=
  (Cgroup.read moment.tree config.cgroupRoot).toOption.bind (·.memory.events.get? event)

/-- The processor times at a moment, for all modes or for none. -/
def hostSeconds (config : Config) (moment : Moment) : Option Host.CpuSeconds :=
  (Host.read moment.tree config.procRoot Host.defaultTickRate).toOption.bind (·.1.cpu)

def socketCounts (config : Config) (moment : Moment) : Option Network.SocketCounts :=
  (Network.readSockets moment.tree config.procRoot).toOption

def processSample (config : Config) (moment : Moment) : Option Processes.Aggregate :=
  (sampleProcesses config moment).toOption.join

/-- The age of some processes is known if there are none, or if the start of one of them is. -/
def isAged (sample : Processes.Aggregate) : Bool := sample.members = 0 || sample.hasStart

/-- Where a column is missing, as in a short line, no time was spent in the mode. -/
theorem columns_of_hostSeconds {config : Config} {moment : Moment} {seconds : Host.CpuSeconds}
    (h : hostSeconds config moment = some seconds) :
    ∃ text columns, moment.tree.readLossy (config.procRoot.child "stat") = .ok text ∧
      Host.aggregateColumns? text = some columns ∧
      ∀ mode : Host.CpuMode, columns[mode.column]? = none → seconds mode = 0.0 := by
  obtain ⟨⟨snapshot, log⟩, hFound, hCpu⟩ := Option.bind_eq_some_iff.mp h
  have hRead : Host.read moment.tree config.procRoot Host.defaultTickRate =
      .ok (snapshot, log) := by
    cases hRead : Host.read moment.tree config.procRoot Host.defaultTickRate with
    | error error =>
        rw [hRead] at hFound
        cases hFound
    | ok found =>
        rw [hRead] at hFound
        exact congrArg Except.ok (Option.some.inj hFound)
  obtain ⟨cpuLog, hReadCpu⟩ := Host.readCpu_of_read hRead
  rw [show snapshot.cpu = some seconds from hCpu] at hReadCpu
  obtain ⟨text, hText, hSeconds⟩ := Host.cpuSeconds_of_readCpu hReadCpu
  obtain ⟨columns, hColumns, _, hMissing⟩ := Host.cpuSeconds_eq_ok hSeconds
  exact ⟨text, columns, hText, hColumns, hMissing⟩

section Observed

variable (config : Config) (moment : Moment)

/-- An event that is not counted in a cycle is not observed in it. -/
theorem observed_event (event : String) :
    observed config moment ⟨.cgroupMemoryEvents, [event]⟩ =
      (eventCount config event moment).map fun count => .quantity (.int count) := by
  simp only [observed, Series.category?, Metric.category?, Option.bind_some, seen, eventCount,
    Option.map_bind]
  rfl

theorem observed_hostCpu (mode : Host.CpuMode) :
    observed config moment ⟨.hostCpu, [Host.allProcessors, mode.name]⟩ =
      (hostSeconds config moment).map fun seconds => .quantity (.real (seconds mode)) := by
  simp only [observed, Series.category?, Metric.category?, Option.bind_some, seen, hostSeconds,
    Option.map_bind]
  refine Option.bind_congr fun found _ => ?_
  cases h : found.1.cpu <;> simp [Host.Snapshot.observed, h]

/-- A count of connections is observed for every state in every family, be it zero. -/
theorem observed_connections (state : Network.TcpState) (version : Network.IpVersion) :
    observed config moment ⟨.tcpConnections, [state.name, version.name]⟩ =
      (socketCounts config moment).map fun counts =>
        .quantity (.int (counts.known state version)) := by
  simp only [observed, Series.category?, Metric.category?, Option.bind_some, seen, socketCounts]
  cases (Network.readSockets moment.tree config.procRoot).toOption <;>
    simp [Network.SocketCounts.observed]

variable {metric : ProcessMetric} {value : Processes.Aggregate → Value}

/-- A metric of the processes that every sample tells. -/
theorem observed_process (h : ∀ sample : Processes.Aggregate,
      sample.observed ⟨.process metric, []⟩ = some (value sample)) :
    observed config moment ⟨.process metric, []⟩ = (processSample config moment).map value := by
  simp only [observed, Series.category?, Metric.category?, Option.bind_some, seen, processSample, h]
  exact Option.map_eq_bind.symm

/-- A metric of the processes that only a sample with a known age tells. -/
theorem observed_age (h : ∀ sample : Processes.Aggregate, sample.observed ⟨.process metric, []⟩ =
      if sample.members = 0 ∨ sample.hasStart then some (value sample) else none) :
    observed config moment ⟨.process metric, []⟩ =
      ((processSample config moment).filter isAged).map value := by
  simp only [observed, Series.category?, Metric.category?, Option.bind_some, seen, processSample, h]
  cases (sampleProcesses config moment).toOption.join with
  | none => rfl
  | some sample => by_cases hAge : isAged sample <;> simp_all [isAged, Option.filter_some]

end Observed

variable {config : Config} {moment : Moment} {category : Category} {series : Series}

theorem WritesAll.error?_eq_none (h : WritesAll config moment)
    (hTurn : category ∈ categories config) {writes : List Write}
    (hSampled : sampled config moment category = .ok writes) : ∀ w ∈ writes, w.error? = none := by
  have hFailure := h category hTurn
  simp only [failure?, hSampled] at hFailure
  apply List.findSome?_eq_none_iff.mp
  cases hFound : writes.findSome? Write.error? with
  | none => rfl
  | some error => simp [hFound, Failure.isWriting] at hFailure

/-- After a cycle in which every write goes through, an observed series has the real value of what
was observed, and any other one the value that it had. -/
theorem run_value?_of_observed (h : WritesAll config moment)
    (hSeries : series.category? = some category) (state : State) :
    (∀ value, observed config moment series = some value → ∃ x, value.toReal = .ok x ∧
      (run config moment state).state.gauges.value? series = some x) ∧
    (observed config moment series = none →
      (run config moment state).state.gauges.value? series = state.gauges.value? series) := by
  rw [observed_of_category? hSeries]
  by_cases hTurn : category ∈ categories config
  · rw [run_value? config moment state hTurn hSeries]
    unfold gaugesAfter
    cases hSampled : sampled config moment category with
    | error failure => simp [seen_of_error hSampled]
    | ok writes =>
        exact (describes_of_sampled hSampled).value?_writeAll (h.error?_eq_none hTurn hSampled)
          state.gauges series
  · have hShare := run_share_of_not_mem config moment state hTurn
    have hUnseen : seen config moment category series = none := by
      -- only the processes are ever left out, and then they are not sampled either
      obtain ⟨rfl, hTarget⟩ : category = .process ∧ config.target = none := by
        simpa [mem_categories] using hTurn
      simp [seen, sampleProcesses, hTarget, Except.toOption]
    refine ⟨fun value hValue => ?_, fun _ => State.value?_of_share hShare hSeries⟩
    rw [hUnseen] at hValue
    cases hValue

end Cycle

end PodGauges
