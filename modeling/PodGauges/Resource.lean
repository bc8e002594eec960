/-!
The amounts that a container is promised and those that it may not exceed, as declared for it.
-/

namespace PodGauges

/-- A resource that a container may be granted or limited to. -/
inductive Resource where
  | cpuRequests
  | cpuLimits
  | memoryRequests
  | memoryLimits
  deriving DecidableEq, Repr

namespace Resource

/-- The resources, in the order in which their gauges are declared. -/
def all : List Resource := [.cpuRequests, .cpuLimits, .memoryRequests, .memoryLimits]

def setting : Resource → String
  | .cpuRequests => "CPU_REQUESTS_MILLICORES"
  | .cpuLimits => "CPU_LIMITS_MILLICORES"
  | .memoryRequests => "MEMORY_REQUESTS_BYTES"
  | .memoryLimits => "MEMORY_LIMITS_BYTES"

def description : Resource → String
  | .cpuRequests => "CPU requests in millicores"
  | .cpuLimits => "CPU limits in millicores"
  | .memoryRequests => "Memory requests in bytes"
  | .memoryLimits => "Memory limits in bytes"

end Resource

/-- The amounts declared; those that are not are unknown. -/
abbrev Declared := Resource → Option Float

def Declared.isAny (declared : Declared) : Bool :=
  Resource.all.any fun resource => (declared resource).isSome

end PodGauges
