import PodGauges.Cgroup.Snapshot
import PodGauges.Downward
import PodGauges.Host.Snapshot
import PodGauges.Network.Sockets
import PodGauges.Processes.Aggregate
import PodGauges.Gauges

/-!
What is written for a snapshot of each kind. A field that was not seen is not written, so that its
series keeps the value it had.
-/

namespace PodGauges

open Number

namespace Write

/-- A number for the only series of a metric. -/
def quantity (metric : Metric) (q : Quantity) : Write := ⟨⟨metric, []⟩, .quantity q⟩

/-- A limit for the only series of a metric. -/
def limit (metric : Metric) (limit : Limit) : Write := ⟨⟨metric, []⟩, .limit limit⟩

end Write

def Cgroup.Snapshot.writes (snapshot : Cgroup.Snapshot) : List Write :=
  (Cgroup.CpuStat.all.filterMap fun stat =>
    (snapshot.cpu.stat stat).map (Write.quantity (.cgroupCpu stat))) ++
  (snapshot.cpu.limit.map (Write.limit .cgroupCpuLimit)).toList ++
  (Cgroup.MemoryAmount.all.filterMap fun amount =>
    (snapshot.memory.amount amount).map (Write.limit (.cgroupMemory amount))) ++
  snapshot.memory.events.map fun (event, count) =>
    ⟨⟨.cgroupMemoryEvents, [event]⟩, .quantity (.int count)⟩

/-- What is exported of some processes. Members without a known start leave the start and the
uptime as they were. -/
def Processes.Aggregate.writes (sample : Processes.Aggregate) : List Write :=
  ProcessMetric.all.filterMap fun metric =>
    (value? metric).map (Write.quantity (.process metric))
where
  hasAge : Bool := sample.members = 0 || sample.hasStart
  value? : ProcessMetric → Option Quantity
    | .cpuUser => some (.real sample.cpuUser)
    | .cpuSystem => some (.real sample.cpuSystem)
    | .start => if hasAge then some (.real sample.start) else none
    | .uptime => if hasAge then some (.real sample.uptime) else none
    | .count counter => some (.int (sample.count counter))

/-- The label that stands for all processors together. -/
def Host.allProcessors : String := "all"

/-- Processor time in every mode, and the memory amounts. -/
def Host.Snapshot.writes (snapshot : Host.Snapshot) : List Write :=
  (snapshot.cpu.toList.flatMap fun seconds =>
    Host.CpuMode.all.map fun mode =>
      ⟨⟨.hostCpu, [Host.allProcessors, mode.name]⟩, .quantity (.real (seconds mode))⟩) ++
  Host.MemoryAmount.all.filterMap fun amount =>
    (snapshot.memory amount).map fun bytes => Write.quantity (.hostMemory amount) (.int bytes)

/-- The counters of an interface. -/
def Network.Snapshot.writes (snapshot : Network.Snapshot) : List Write :=
  Network.Counter.all.filterMap fun counter =>
    (snapshot.counter counter).map fun n => Write.quantity (.network counter) (.int n)

/-- Numbers of connections under the names of a state and an address family. -/
abbrev Network.ConnectionTable := Keyed (String × String) Int

/-- The counts of every state and family by name. -/
def Network.SocketCounts.table (counts : Network.SocketCounts) : Network.ConnectionTable :=
  Network.TcpState.all.flatMap fun state =>
    Network.IpVersion.all.map fun version =>
      ((state.name, version.name), (counts.known state version : Int))

def Network.connectionWrites (table : Network.ConnectionTable) : List Write :=
  table.map fun ((state, version), n) => ⟨⟨.tcpConnections, [state, version]⟩, .quantity (.int n)⟩

/-- The metadata fields; what they say is in the labels. -/
def Downward.writes (fields : List Downward.Field) : List Write :=
  fields.map fun (field, value) => ⟨⟨.downwardInfo, [field, value]⟩, .quantity (.int 1)⟩

end PodGauges
