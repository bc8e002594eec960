import PodGauges.Gauges.Writes
import PodGauges.Proofs.Gauges.Ownership

/-! What a snapshot says of each series, as a view beside the list of its writes. A field that was
not seen says nothing. Each list of writes is shown to be told by its view, so that a run of writes
can be read series by series; the view of a snapshot speaks of its own category only. -/
namespace PodGauges

open PodGauges.Cycle Number

/-- An enumeration holds every value of its type. -/
theorem Cgroup.CpuStat.mem_all (stat : Cgroup.CpuStat) : stat ∈ Cgroup.CpuStat.all := by
  cases stat <;> decide

theorem Cgroup.MemoryAmount.mem_all (amount : Cgroup.MemoryAmount) :
    amount ∈ Cgroup.MemoryAmount.all := by
  cases amount <;> decide

theorem ProcessMetric.mem_all (metric : ProcessMetric) : metric ∈ ProcessMetric.all := by
  cases metric with
  | count counter =>
      cases counter with
      | io counter => cases counter <;> decide
      | _ => decide
  | _ => decide

theorem Host.CpuMode.mem_all (mode : Host.CpuMode) : mode ∈ Host.CpuMode.all := by
  cases mode <;> decide

theorem Host.MemoryAmount.mem_all (amount : Host.MemoryAmount) :
    amount ∈ Host.MemoryAmount.all := by
  cases amount <;> decide

theorem Network.Counter.mem_all (counter : Network.Counter) : counter ∈ Network.Counter.all := by
  obtain ⟨transmitted, traffic⟩ := counter
  cases transmitted <;> cases traffic <;> decide

theorem Network.TcpState.mem_all (state : Network.TcpState) : state ∈ Network.TcpState.all := by
  cases state <;> decide

theorem Network.IpVersion.mem_all (version : Network.IpVersion) :
    version ∈ Network.IpVersion.all := by
  cases version <;> decide

def Host.CpuMode.ofName? (name : String) : Option Host.CpuMode := all.find? (·.name = name)

def Network.TcpState.ofName? (name : String) : Option Network.TcpState := all.find? (·.name = name)

/-- A spelling by which every value finds itself names that value only. -/
theorem find?_spelling_eq_some {κ : Type} {all : List κ} {spelling : κ → String}
    (h : ∀ k, all.find? (fun other => spelling other = spelling k) = some k) {name : String}
    {k : κ} : all.find? (fun other => spelling other = name) = some k ↔ spelling k = name := by
  constructor
  · intro hFound
    simpa using List.find?_some hFound
  · rintro rfl
    exact h k

@[simp] theorem Host.CpuMode.ofName?_name (mode : Host.CpuMode) :
    ofName? mode.name = some mode := by
  cases mode <;> rfl

@[simp] theorem Network.TcpState.ofName?_name (state : Network.TcpState) :
    ofName? state.name = some state := by
  cases state <;> rfl

@[simp] theorem Network.IpVersion.ofName?_name (version : Network.IpVersion) :
    ofName? version.name = some version := by
  cases version <;> rfl

theorem Host.CpuMode.ofName?_eq_some {name : String} {mode : Host.CpuMode} :
    ofName? name = some mode ↔ mode.name = name := find?_spelling_eq_some ofName?_name

theorem Network.TcpState.ofName?_eq_some {name : String} {state : Network.TcpState} :
    ofName? name = some state ↔ state.name = name := find?_spelling_eq_some ofName?_name

theorem Network.IpVersion.ofName?_eq_some {name : String} {version : Network.IpVersion} :
    ofName? name = some version ↔ version.name = name := find?_spelling_eq_some ofName?_name

/-- What was seen of a control group, series by series. -/
def Cgroup.Snapshot.observed (snapshot : Cgroup.Snapshot) : Series → Option Value
  | ⟨.cgroupCpu stat, []⟩ => (snapshot.cpu.stat stat).map .quantity
  | ⟨.cgroupCpuLimit, []⟩ => snapshot.cpu.limit.map .limit
  | ⟨.cgroupMemory amount, []⟩ => (snapshot.memory.amount amount).map .limit
  | ⟨.cgroupMemoryEvents, [event]⟩ =>
    (snapshot.memory.events.get? event).map fun count => .quantity (.int count)
  | _ => none

/-- What is known of some processes. Their age is known if there are no processes at all, or if
the start of one of them is. -/
def Processes.Aggregate.observed (sample : Processes.Aggregate) : Series → Option Value
  | ⟨.process .cpuUser, []⟩ => some (.quantity (.real sample.cpuUser))
  | ⟨.process .cpuSystem, []⟩ => some (.quantity (.real sample.cpuSystem))
  | ⟨.process .start, []⟩ =>
    if sample.members = 0 ∨ sample.hasStart then some (.quantity (.real sample.start)) else none
  | ⟨.process .uptime, []⟩ =>
    if sample.members = 0 ∨ sample.hasStart then some (.quantity (.real sample.uptime)) else none
  | ⟨.process (.count counter), []⟩ => some (.quantity (.int (sample.count counter)))
  | _ => none

/-- What was seen of the host. Times are seen for all modes or for none. -/
def Host.Snapshot.observed (snapshot : Host.Snapshot) : Series → Option Value
  | ⟨.hostCpu, [processor, mode]⟩ =>
    if processor = Host.allProcessors then
      snapshot.cpu.bind fun seconds =>
        (Host.CpuMode.ofName? mode).map fun mode => .quantity (.real (seconds mode))
    else none
  | ⟨.hostMemory amount, []⟩ => (snapshot.memory amount).map fun bytes => .quantity (.int bytes)
  | _ => none

/-- What was seen of an interface. -/
def Network.Snapshot.observed (snapshot : Network.Snapshot) : Series → Option Value
  | ⟨.network counter, []⟩ => (snapshot.counter counter).map fun n => .quantity (.int n)
  | _ => none

/-- The counted connections. Every state and family has a count, be it zero. -/
def Network.SocketCounts.observed (counts : Network.SocketCounts) : Series → Option Value
  | ⟨.tcpConnections, [state, version]⟩ =>
    (Network.TcpState.ofName? state).bind fun state =>
      (Network.IpVersion.ofName? version).map fun version =>
        .quantity (.int (counts.known state version))
  | _ => none

/-- The events have to be told apart by their names, as those read from a file are. -/
theorem Cgroup.Snapshot.describes (snapshot : Cgroup.Snapshot)
    (distinct : Keyed.Distinct snapshot.memory.events) :
    Describes snapshot.observed snapshot.writes := by
  intro series value
  simp only [writes, List.mem_append, List.mem_filterMap, Option.mem_toList,
    Option.map_eq_some_iff, List.mem_map, Write.quantity, Write.limit]
  constructor
  · rintro (((⟨stat, -, q, hq, he⟩ | ⟨limit, hl, he⟩) | ⟨amount, -, limit, hl, he⟩) |
      ⟨⟨event, count⟩, hm, he⟩)
    · cases he
      simp [observed, hq]
    · cases he
      simp [observed, hl]
    · cases he
      simp [observed, hl]
    · cases he
      simp [observed, (distinct.mem_iff event count).mp hm]
  · intro h
    unfold observed at h
    split at h
    · next stat =>
        obtain ⟨q, hq, rfl⟩ := Option.map_eq_some_iff.mp h
        exact Or.inl (Or.inl (Or.inl ⟨stat, CpuStat.mem_all stat, q, hq, rfl⟩))
    · obtain ⟨limit, hl, rfl⟩ := Option.map_eq_some_iff.mp h
      exact Or.inl (Or.inl (Or.inr ⟨limit, hl, rfl⟩))
    · next amount =>
        obtain ⟨limit, hl, rfl⟩ := Option.map_eq_some_iff.mp h
        exact Or.inl (Or.inr ⟨amount, MemoryAmount.mem_all amount, limit, hl, rfl⟩)
    · next event =>
        obtain ⟨count, hc, rfl⟩ := Option.map_eq_some_iff.mp h
        exact Or.inr ⟨⟨event, count⟩, (distinct.mem_iff event count).mpr hc, rfl⟩
    · cases h

/-- What is written of processes is what is observed in them. -/
theorem Processes.Aggregate.describes (sample : Processes.Aggregate) :
    Describes sample.observed sample.writes := by
  intro series value
  simp only [writes, List.mem_filterMap, Option.map_eq_some_iff, Write.quantity]
  constructor
  · rintro ⟨metric, -, q, hq, he⟩
    cases he
    cases metric <;> simp_all [observed, writes.value?, writes.hasAge]
  · intro h
    unfold observed at h
    split at h
    · cases h
      exact ⟨.cpuUser, ProcessMetric.mem_all _, _, rfl, rfl⟩
    · cases h
      exact ⟨.cpuSystem, ProcessMetric.mem_all _, _, rfl, rfl⟩
    · split at h
      · next hAge =>
          cases h
          exact ⟨.start, ProcessMetric.mem_all _, _,
            by simp [writes.value?, writes.hasAge, hAge], rfl⟩
      · cases h
    · split at h
      · next hAge =>
          cases h
          exact ⟨.uptime, ProcessMetric.mem_all _, _,
            by simp [writes.value?, writes.hasAge, hAge], rfl⟩
      · cases h
    · next counter =>
        cases h
        exact ⟨.count counter, ProcessMetric.mem_all _, _, rfl, rfl⟩
    · cases h

/-- What is written of the host is what is observed in it. -/
theorem Host.Snapshot.describes (snapshot : Host.Snapshot) :
    Describes snapshot.observed snapshot.writes := by
  intro series value
  simp only [writes, List.mem_append, List.mem_flatMap, List.mem_filterMap, List.mem_map,
    Option.mem_toList, Option.map_eq_some_iff, Write.quantity]
  constructor
  · rintro (⟨seconds, hs, mode, -, he⟩ | ⟨amount, -, bytes, hb, he⟩)
    · cases he
      simp [observed, hs]
    · cases he
      simp [observed, hb]
  · intro h
    unfold observed at h
    split at h
    · next processor name =>
        split at h
        · next hAll =>
            subst hAll
            obtain ⟨seconds, hs, h⟩ := Option.bind_eq_some_iff.mp h
            obtain ⟨mode, hm, rfl⟩ := Option.map_eq_some_iff.mp h
            cases CpuMode.ofName?_eq_some.mp hm
            exact Or.inl ⟨seconds, hs, mode, CpuMode.mem_all mode, rfl⟩
        · cases h
    · next amount =>
        obtain ⟨bytes, hb, rfl⟩ := Option.map_eq_some_iff.mp h
        exact Or.inr ⟨amount, MemoryAmount.mem_all amount, bytes, hb, rfl⟩
    · cases h

/-- What is written of the traffic is what is observed in it. -/
theorem Network.Snapshot.describes (snapshot : Network.Snapshot) :
    Describes snapshot.observed snapshot.writes := by
  intro series value
  simp only [writes, List.mem_filterMap, Option.map_eq_some_iff, Write.quantity]
  constructor
  · rintro ⟨counter, -, n, hn, he⟩
    cases he
    simp [observed, hn]
  · intro h
    unfold observed at h
    split at h
    · next counter =>
        obtain ⟨n, hn, rfl⟩ := Option.map_eq_some_iff.mp h
        exact ⟨counter, Counter.mem_all counter, n, hn, rfl⟩
    · cases h

/-- What is written of connections is their count for each state and family. -/
theorem Network.SocketCounts.describes (counts : Network.SocketCounts) :
    Describes counts.observed (Network.connectionWrites counts.table) := by
  intro series value
  simp only [connectionWrites, table, List.mem_map, List.mem_flatMap]
  constructor
  · rintro ⟨⟨⟨_, _⟩, n⟩, ⟨state, -, version, -, hEntry⟩, he⟩
    cases hEntry
    cases he
    simp [observed]
  · intro h
    unfold observed at h
    split at h
    · obtain ⟨state, hs, h⟩ := Option.bind_eq_some_iff.mp h
      obtain ⟨version, hv, rfl⟩ := Option.map_eq_some_iff.mp h
      cases TcpState.ofName?_eq_some.mp hs
      cases IpVersion.ofName?_eq_some.mp hv
      exact ⟨_, ⟨state, TcpState.mem_all state, version, IpVersion.mem_all version, rfl⟩, rfl⟩
    · cases h

/-! A view speaks of the series of its own category only. -/

theorem Cgroup.Snapshot.category?_of_observed {snapshot : Cgroup.Snapshot} {series : Series}
    {value : Value} (h : snapshot.observed series = some value) :
    series.category? = some .cgroup := by
  unfold observed at h
  split at h <;> first | rfl | cases h

theorem Processes.Aggregate.category?_of_observed {sample : Processes.Aggregate} {series : Series}
    {value : Value} (h : sample.observed series = some value) :
    series.category? = some .process := by
  unfold observed at h
  split at h <;> first | rfl | cases h

theorem Host.Snapshot.category?_of_observed {snapshot : Host.Snapshot} {series : Series}
    {value : Value} (h : snapshot.observed series = some value) :
    series.category? = some .host := by
  unfold observed at h
  split at h <;> first | rfl | cases h

theorem Network.Snapshot.category?_of_observed {snapshot : Network.Snapshot} {series : Series}
    {value : Value} (h : snapshot.observed series = some value) :
    series.category? = some .net := by
  unfold observed at h
  split at h <;> first | rfl | cases h

theorem Network.SocketCounts.category?_of_observed {counts : Network.SocketCounts}
    {series : Series} {value : Value} (h : counts.observed series = some value) :
    series.category? = some .tcp := by
  unfold observed at h
  split at h <;> first | rfl | cases h

end PodGauges
