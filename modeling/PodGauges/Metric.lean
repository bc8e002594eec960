import PodGauges.Cgroup.Cpu
import PodGauges.Cgroup.Memory
import PodGauges.Host.Cpu
import PodGauges.Host.Memory
import PodGauges.Network.Interface
import PodGauges.Processes.Sample
import PodGauges.Resource

/-!
The metrics that are exported: their names, their descriptions and the labels that tell the series
of one metric apart.
-/

namespace PodGauges

/-- The labels of metrics that have several series. -/
inductive Label where
  | cpu
  | mode
  | state
  | ipVersion
  | type
  | field
  | value
  deriving DecidableEq, Repr

namespace Label

/-- Every label, each once; a static label may have none of their names. -/
def all : List Label := [.cpu, .mode, .state, .ipVersion, .type, .field, .value]

def name : Label → String
  | .cpu => "cpu"
  | .mode => "mode"
  | .state => "state"
  | .ipVersion => "ip_version"
  | .type => "type"
  | .field => "field"
  | .value => "value"

end Label

inductive ProcessMetric where
  | cpuUser
  | cpuSystem
  | start
  | uptime
  | count (counter : Processes.Counter)
  deriving DecidableEq, Repr

namespace ProcessMetric

/-- The gauges of processes, in the order in which they are declared. -/
def all : List ProcessMetric :=
  [.cpuUser, .cpuSystem, .start, .uptime] ++ Processes.Counter.all.map .count

/-- The name of a gauge of processes, without the configured beginning. -/
def name : ProcessMetric → String
  | .cpuUser => "process_cpu_user_seconds"
  | .cpuSystem => "process_cpu_system_seconds"
  | .start => "process_start_time_seconds"
  | .uptime => "process_uptime_seconds"
  | .count .resident => "process_memory_rss_bytes"
  | .count .virtual => "process_memory_vms_bytes"
  | .count .swap => "process_memory_swap_bytes"
  | .count (.io .charsRead) => "process_io_rchar_bytes_total"
  | .count (.io .charsWritten) => "process_io_wchar_bytes_total"
  | .count (.io .readCalls) => "process_io_syscr_total"
  | .count (.io .writeCalls) => "process_io_syscw_total"
  | .count (.io .bytesRead) => "process_io_read_bytes_total"
  | .count (.io .bytesWritten) => "process_io_write_bytes_total"
  | .count (.io .cancelledBytes) => "process_io_cancelled_write_bytes_total"

def help : ProcessMetric → String
  | .cpuUser => "User CPU time of the observed processes"
  | .cpuSystem => "System CPU time of the observed processes"
  | .start => "Start time of the oldest observed process since epoch"
  | .uptime => "Seconds the oldest observed process has been running"
  | .count .resident => "Resident set size of the observed processes"
  | .count .virtual => "Virtual memory size of the observed processes"
  | .count .swap => "Swap usage of the observed processes"
  | .count (.io .charsRead) => "Characters read (rchar) from /proc/<pid>/io"
  | .count (.io .charsWritten) => "Characters written (wchar) from /proc/<pid>/io"
  | .count (.io .readCalls) => "Read syscalls (syscr) from /proc/<pid>/io"
  | .count (.io .writeCalls) => "Write syscalls (syscw) from /proc/<pid>/io"
  | .count (.io .bytesRead) => "Bytes read from storage (read_bytes)"
  | .count (.io .bytesWritten) => "Bytes written to storage (write_bytes)"
  | .count (.io .cancelledBytes) => "Cancelled write bytes (cancelled_write_bytes)"

end ProcessMetric

inductive Metric where
  | cgroupCpu (stat : Cgroup.CpuStat)
  | cgroupCpuLimit
  | cgroupMemory (amount : Cgroup.MemoryAmount)
  | cgroupMemoryEvents
  | process (metric : ProcessMetric)
  | hostCpu
  | hostMemory (amount : Host.MemoryAmount)
  | network (counter : Network.Counter)
  | tcpConnections
  | downwardInfo
  | resource (resource : Resource)
  deriving DecidableEq, Repr

namespace Metric

/-- The metrics that are always there, in the order of export. -/
def standard : List Metric :=
  [Cgroup.CpuStat.usage, .user, .system, .periods, .throttledPeriods, .throttled].map cgroupCpu ++
    [cgroupCpuLimit] ++ Cgroup.MemoryAmount.all.map cgroupMemory ++ [cgroupMemoryEvents] ++
    ProcessMetric.all.map process ++ [hostCpu] ++ Host.MemoryAmount.all.map hostMemory ++
    Network.Counter.all.map network ++ [tcpConnections, downwardInfo]

/-- The metrics that are there once a resource is declared. -/
def resources : List Metric := Resource.all.map resource

/-- The name of a gauge, without the configured beginning. -/
def name : Metric → String
  | .cgroupCpu .usage => "cgroup_cpu_usage_seconds"
  | .cgroupCpu .user => "cgroup_cpu_user_seconds"
  | .cgroupCpu .system => "cgroup_cpu_system_seconds"
  | .cgroupCpu .throttled => "cgroup_cpu_throttled_seconds"
  | .cgroupCpu .periods => "cgroup_cpu_nr_periods_total"
  | .cgroupCpu .throttledPeriods => "cgroup_cpu_nr_throttled_total"
  | .cgroupCpuLimit => "cgroup_cpu_limit_cores"
  | .cgroupMemory .current => "cgroup_memory_current_bytes"
  | .cgroupMemory .peak => "cgroup_memory_peak_bytes"
  | .cgroupMemory .max => "cgroup_memory_max_bytes"
  | .cgroupMemory .high => "cgroup_memory_high_bytes"
  | .cgroupMemory .low => "cgroup_memory_low_bytes"
  | .cgroupMemoryEvents => "cgroup_memory_events_total"
  | .process metric => metric.name
  | .hostCpu => "host_cpu_seconds_total"
  | .hostMemory .total => "host_memory_total_bytes"
  | .hostMemory .free => "host_memory_free_bytes"
  | .hostMemory .available => "host_memory_available_bytes"
  | .hostMemory .cached => "host_memory_cached_bytes"
  | .hostMemory .buffers => "host_memory_buffers_bytes"
  | .hostMemory .swapTotal => "host_swap_total_bytes"
  | .hostMemory .swapFree => "host_swap_free_bytes"
  | .network ⟨false, .bytes⟩ => "pod_network_receive_bytes_total"
  | .network ⟨true, .bytes⟩ => "pod_network_transmit_bytes_total"
  | .network ⟨false, .packets⟩ => "pod_network_receive_packets_total"
  | .network ⟨true, .packets⟩ => "pod_network_transmit_packets_total"
  | .network ⟨false, .errors⟩ => "pod_network_receive_errors_total"
  | .network ⟨true, .errors⟩ => "pod_network_transmit_errors_total"
  | .network ⟨false, .dropped⟩ => "pod_network_receive_dropped_total"
  | .network ⟨true, .dropped⟩ => "pod_network_transmit_dropped_total"
  | .tcpConnections => "pod_tcp_connections"
  | .downwardInfo => "kubernetes_downward_info"
  | .resource .cpuRequests => "k8s_cpu_requests_millicores"
  | .resource .cpuLimits => "k8s_cpu_limits_millicores"
  | .resource .memoryRequests => "k8s_memory_requests_bytes"
  | .resource .memoryLimits => "k8s_memory_limits_bytes"

/-- What a network counter counts. -/
def trafficHelp : Network.Counter → String
  | ⟨false, .bytes⟩ => "Bytes received"
  | ⟨true, .bytes⟩ => "Bytes transmitted"
  | ⟨false, .packets⟩ => "Packets received"
  | ⟨true, .packets⟩ => "Packets transmitted"
  | ⟨false, .errors⟩ => "Receive errors"
  | ⟨true, .errors⟩ => "Transmit errors"
  | ⟨false, .dropped⟩ => "Dropped received packets"
  | ⟨true, .dropped⟩ => "Dropped transmitted packets"

def help : Metric → String
  | .cgroupCpu .usage => "Total CPU time of the cgroup (usage_usec / 1e6)"
  | .cgroupCpu .user => "User CPU time of the cgroup (user_usec / 1e6)"
  | .cgroupCpu .system => "System CPU time of the cgroup (system_usec / 1e6)"
  | .cgroupCpu .throttled => "Time the cgroup has been throttled (throttled_usec / 1e6)"
  | .cgroupCpu .periods => "Number of elapsed enforcement periods of the cgroup"
  | .cgroupCpu .throttledPeriods => "Number of throttled periods of the cgroup"
  | .cgroupCpuLimit => "CPU limit in cores from cpu.max (quota/period), +Inf if unlimited"
  | .cgroupMemory .current => "Current memory usage (memory.current)"
  | .cgroupMemory .peak => "Peak memory usage (memory.peak)"
  | .cgroupMemory .max => "Memory limit (memory.max), +Inf if unlimited"
  | .cgroupMemory .high => "Memory throttling threshold (memory.high)"
  | .cgroupMemory .low => "Memory protection threshold (memory.low)"
  | .cgroupMemoryEvents => "Cumulative memory events from memory.events"
  | .process metric => metric.help
  | .hostCpu => "Host CPU time per mode from /proc/stat (seconds)"
  | .hostMemory amount => amount.key ++ " from /proc/meminfo"
  | .network counter =>
    s!"{trafficHelp counter} on NET_INTERFACE (/sys/class/net/<iface>/statistics/" ++
      counter.fileName ++ ")"
  | .tcpConnections =>
    "Number of TCP connections by state and IP version from /proc/net/tcp\x7b,6\x7d"
  | .downwardInfo => "Downward API fields exposed as labels; value is always 1."
  | .resource declared => s!"Kubernetes {declared.description} for this container"

/-- The labels that tell the series of a metric apart. -/
def labels : Metric → List Label
  | .cgroupMemoryEvents => [.type]
  | .hostCpu => [.cpu, .mode]
  | .tcpConnections => [.state, .ipVersion]
  | .downwardInfo => [.field, .value]
  | _ => []

/-- Whether a metric is about the host rather than about what runs on it. -/
def isHost : Metric → Bool
  | .hostCpu | .hostMemory _ => true
  | _ => false

end Metric

end PodGauges
