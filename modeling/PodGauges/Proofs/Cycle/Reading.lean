import Mathlib.Data.List.Basic
import PodGauges.Proofs.Cycle.Sampling
import PodGauges.Proofs.Processes.Samples

/-! The files that a category looks at, and that nothing else in the tree has a say in its update.
Two trees are only compared at the paths that are looked up, links followed, so they may differ in
how those paths lead to their entries. -/
namespace PodGauges

open File

namespace File.Tree

variable {t t' : Tree} {p : Path}

/-! Whatever is asked of a path is answered by the entry that it names. -/

theorem read_congr (h : t.status p = t'.status p) : t.read p = t'.read p := by
  simp only [read, h]

theorem isDirectory_congr (h : t.status p = t'.status p) : t.isDirectory p = t'.isDirectory p := by
  simp only [isDirectory, test, h]

theorem isPresent_congr (h : t.status p = t'.status p) : t.isPresent p = t'.isPresent p := by
  simp only [isPresent, h]

theorem readLossy_congr (h : t.status p = t'.status p) : t.readLossy p = t'.readLossy p := by
  simp only [readLossy, read_congr h]

theorem readText_congr (h : t.status p = t'.status p) : t.readText p = t'.readText p := by
  simp only [readText, read_congr h]

end File.Tree

/-- The files that may lie in the directory of a control group. -/
def Cgroup.fileNames : List String :=
  ["cpu.stat", "cpu.max"] ++ Cgroup.MemoryAmount.all.map (fun amount => "memory." ++ amount.name) ++
    ["memory.events"]

/-- The files of a process that go into its sample. -/
def Processes.fileNames : List String := ["stat", "statm", "status", "io"]

/-- The directory that holds the counters of the configured interface. -/
def Config.statistics (config : Config) : Path :=
  (config.networkRoot.join (Path.ofString config.interface)).child "statistics"

namespace Cycle

/-- A path that a category looks up. The files of a process count only if the target names it, and
command lines and names only if there is a pattern to look for and the process is listed. -/
inductive Reads (config : Config) (t : Tree) : Category → Path → Prop where
  | cgroupRoot : Reads config t .cgroup config.cgroupRoot
  | cgroupFile {name : String} (h : name ∈ Cgroup.fileNames) :
      Reads config t .cgroup (config.cgroupRoot.child name)
  | bootTime {target : Target} {pids : List Processes.Pid} {pid : Processes.Pid}
      (hTarget : config.target = some target) (hPids : target.pids t config.procRoot = .ok pids)
      (hPid : pid ∈ pids) :
      Reads config t .process (config.procRoot.child "stat")
  | processFile {target : Target} {pids : List Processes.Pid} {pid : Processes.Pid} {name : String}
      (hTarget : config.target = some target) (hPids : target.pids t config.procRoot = .ok pids)
      (hPid : pid ∈ pids) (hName : name ∈ Processes.fileNames) :
      Reads config t .process ((Processes.directory config.procRoot pid).child name)
  | search {pattern : Pattern} {listed : List String} {directory name : String}
      (hTarget : config.target = some (.matching pattern))
      (hList : t.list config.procRoot = .ok listed) (hListed : directory ∈ listed)
      (hPid : (Target.pidOfName? directory).isSome) (hName : name ∈ ["cmdline", "comm"]) :
      Reads config t .process ((config.procRoot.child directory).child name)
  | cpuTimes : Reads config t .host (config.procRoot.child "stat")
  | hostMemory : Reads config t .host (config.procRoot.child "meminfo")
  | sockets : Reads config t .tcp ((config.procRoot.child "net").child "tcp")
  | laterSockets : Reads config t .tcp ((config.procRoot.child "net").child "tcp6")
  | statistics : Reads config t .net config.statistics
  | counter (counter : Network.Counter) :
      Reads config t .net (config.statistics.child counter.fileName)

/-- Two trees agree for a category: what it looks up is the same in both, and so is the list of
processes if there is a pattern to look for. Nothing is said of any other file. -/
structure Agree (config : Config) (t t' : Tree) (category : Category) : Prop where
  status : ∀ p, Reads config t category p → t.status p = t'.status p
  list : ∀ pattern, category = .process → config.target = some (.matching pattern) →
    t.list config.procRoot = t'.list config.procRoot

end Cycle

variable {config : Config} {t t' : Tree}

theorem Cgroup.text?_congr {root : Path} {name : String}
    (h : t.status (root.child name) = t'.status (root.child name)) :
    text? t root name = text? t' root name := by
  simp only [text?, Tree.readLossy_congr h]

/-- A control group is read from its own directory. -/
theorem Cgroup.read_congr (h : Cycle.Agree config t t' .cgroup) :
    Cgroup.read t config.cgroupRoot = Cgroup.read t' config.cgroupRoot := by
  have hText {name : String} (hName : name ∈ fileNames) :
      text? t config.cgroupRoot name = text? t' config.cgroupRoot name :=
    text?_congr (h.status _ (.cgroupFile hName))
  have hCpu : readCpu t config.cgroupRoot = readCpu t' config.cgroupRoot := by
    simp only [readCpu, hText (by decide : "cpu.stat" ∈ fileNames),
      hText (by decide : "cpu.max" ∈ fileNames)]
  have hAmount (amount : MemoryAmount) :
      text? t config.cgroupRoot ("memory." ++ amount.name) =
        text? t' config.cgroupRoot ("memory." ++ amount.name) :=
    hText (by cases amount <;> decide)
  have hMemory : readMemory t config.cgroupRoot = readMemory t' config.cgroupRoot := by
    simp only [readMemory, hAmount, hText (by decide : "memory.events" ∈ fileNames)]
  simp only [Cgroup.read, Tree.isDirectory_congr (h.status _ .cgroupRoot), hCpu, hMemory]

/-- The host is read from two files, the first of which the processes read too. -/
theorem Host.read_congr (h : Cycle.Agree config t t' .host) (rate : Int) :
    Host.read t config.procRoot rate = Host.read t' config.procRoot rate := by
  simp only [Host.read, readCpu, readMemory, Tree.readLossy_congr (h.status _ .cpuTimes),
    Tree.readLossy_congr (h.status _ .hostMemory)]

theorem Network.readSockets_congr (h : Cycle.Agree config t t' .tcp) :
    readSockets t config.procRoot = readSockets t' config.procRoot := by
  simp only [readSockets, Tree.readText_congr (h.status _ .sockets),
    Tree.readText_congr (h.status _ .laterSockets)]

/-- Traffic is read from the directory of the interface. -/
theorem Network.read_congr (h : Cycle.Agree config t t' .net) :
    Network.read t config.networkRoot config.interface =
      Network.read t' config.networkRoot config.interface := by
  have hCounter : counter? t config.statistics = counter? t' config.statistics := by
    funext counter
    simp only [counter?, Tree.readText_congr (h.status _ (.counter counter))]
  have hDirectory := Tree.isDirectory_congr (h.status _ .statistics)
  unfold Config.statistics at hCounter hDirectory
  simp only [Network.read, hDirectory, hCounter]

/-- Whether a process is sought goes by its command line and its name. -/
theorem Target.isSought_congr {search : List Char → Bool} {directory : Path}
    (h : ∀ name ∈ ["cmdline", "comm"],
      t.status (directory.child name) = t'.status (directory.child name)) :
    isSought search t directory = isSought search t' directory := by
  simp only [isSought, textOf?, Tree.readLossy_congr (h "cmdline" (by decide)),
    Tree.readLossy_congr (h "comm" (by decide))]

/-- A search goes by the list of processes, and by the command line and name of each. -/
theorem Target.sought_congr {search : List Char → Bool} {root : Path}
    (hList : t.list root = t'.list root)
    (h : ∀ listed, t.list root = .ok listed → ∀ directory ∈ listed,
      (pidOfName? directory).isSome → ∀ name ∈ ["cmdline", "comm"],
        t.status ((root.child directory).child name) =
          t'.status ((root.child directory).child name)) :
    sought search t root = sought search t' root := by
  simp only [sought, ← hList]
  cases hListed : t.list root with
  | error error => rfl
  | ok listed =>
      refine congrArg Except.ok (List.filterMap_congr fun directory hDirectory => ?_)
      cases hPid : pidOfName? directory with
      | none => rfl
      | some pid =>
          have hSome : (pidOfName? directory).isSome := by simp [hPid]
          rw [isSought_congr (h listed hListed directory hDirectory hSome)]

/-- The processes of a target are the same in trees that agree for them. -/
theorem Target.pids_congr {target : Target} (hTarget : config.target = some target)
    (h : Cycle.Agree config t t' .process) :
    target.pids t config.procRoot = target.pids t' config.procRoot := by
  cases target with
  | matching pattern =>
      exact sought_congr (h.list pattern rfl hTarget)
        fun listed hList directory hListed hPid name hName =>
          h.status _ (.search hTarget hList hListed hPid hName)
  | _ => rfl

theorem Target.find_congr {target : Target} (hTarget : config.target = some target)
    (h : Cycle.Agree config t t' .process) (throttle : Throttle Float) (clock : Float) :
    target.find t config.procRoot throttle clock =
      target.find t' config.procRoot throttle clock := by
  cases target with
  | matching pattern =>
      have hSought := pids_congr hTarget h
      simp only [pids] at hSought
      simp only [find, hSought]
  | _ => rfl

/-- What is told of a process as a whole goes by its status line, its page counts and the boot
time. -/
theorem Processes.Accounting.read_congr {root : Path} {pid : Pid}
    (hStat : t.status ((directory root pid).child "stat") =
      t'.status ((directory root pid).child "stat"))
    (hStatm : t.status ((directory root pid).child "statm") =
      t'.status ((directory root pid).child "statm"))
    (hBoot : t.status (root.child "stat") = t'.status (root.child "stat")) :
    Accounting.read t root pid = Accounting.read t' root pid := by
  have hOf (bytes : List UInt8) (stat : Stat) :
      ofStat t root pid bytes stat = ofStat t' root pid bytes stat := by
    simp only [ofStat, beside, Tree.read_congr hStatm, Tree.read_congr hBoot]
  simp only [Accounting.read, Tree.read_congr hStat, Tree.isPresent_congr hStat, hOf]

theorem Processes.textOf_congr {root : Path} {pid : Pid} {name : String}
    (h : t.status ((directory root pid).child name) =
      t'.status ((directory root pid).child name)) :
    textOf t root pid name = textOf t' root pid name := by
  simp only [textOf, Tree.readLossy_congr h]

/-- The sample of a process goes by its own four files and by the boot time. -/
theorem Processes.Sample.read_congr {pageSize : Nat} {root : Path} {pid : Pid}
    (hFile : ∀ name ∈ fileNames, t.status ((directory root pid).child name) =
      t'.status ((directory root pid).child name))
    (hBoot : t.status (root.child "stat") = t'.status (root.child "stat")) :
    Sample.read pageSize t root pid = Sample.read pageSize t' root pid := by
  rw [Sample.read_eq_map, Sample.read_eq_map,
    Accounting.read_congr (hFile "stat" (by decide)) (hFile "statm" (by decide)) hBoot,
    textOf_congr (hFile "status" (by decide)), textOf_congr (hFile "io" (by decide))]

theorem Processes.samples_congr {pageSize : Nat} {root : Path} {pids : List Pid}
    (h : ∀ pid ∈ pids, Sample.read pageSize t root pid = Sample.read pageSize t' root pid) :
    samples pageSize t root pids = samples pageSize t' root pids := by
  induction pids with
  | nil => rfl
  | cons pid pids ih =>
      simp only [samples, h pid (List.mem_cons_self ..),
        ih fun other ho => h other (List.mem_cons_of_mem _ ho)]

namespace Cycle

variable {moment : Moment}

/-- Trees that agree for the processes give the same sample of them. -/
theorem sampleProcesses_congr (h : Agree config moment.tree t' .process) :
    sampleProcesses config moment = sampleProcesses config { moment with tree := t' } := by
  unfold sampleProcesses
  cases hTarget : config.target with
  | none => rfl
  | some target =>
      simp only [← Target.pids_congr hTarget h]
      cases hPids : target.pids moment.tree config.procRoot with
      | error error => rfl
      | ok pids =>
          have hSamples :
              Processes.samples moment.pageSize moment.tree config.procRoot pids =
                Processes.samples moment.pageSize t' config.procRoot pids :=
            Processes.samples_congr fun pid hPid =>
              Processes.Sample.read_congr
                (fun name hName => h.status _ (.processFile hTarget hPids hPid hName))
                (h.status _ (.bootTime hTarget hPids hPid))
          simp only [hSamples]

/-- Trees that agree for a category give it the same sample. -/
theorem sampled_congr {category : Category} (h : Agree config moment.tree t' category) :
    sampled config moment category = sampled config { moment with tree := t' } category := by
  cases category with
  | cgroup => simp only [sampled, Cgroup.read_congr h]
  | process => simp only [sampled, sampleProcesses_congr h]
  | host => simp only [sampled, Host.read_congr h]
  | tcp => simp only [sampled, Network.readSockets_congr h]
  | net => simp only [sampled, Network.read_congr h]

theorem failure?_congr {category : Category} (h : Agree config moment.tree t' category) :
    failure? config moment category = failure? config { moment with tree := t' } category := by
  simp only [failure?, sampled_congr h]

/-- Trees that agree for a category give it the same update of everything, from any state. -/
theorem stateAfter_congr {category : Category} (h : Agree config moment.tree t' category)
    (state : State) :
    stateAfter config moment state category =
      stateAfter config { moment with tree := t' } state category := by
  have hThrottle : throttleAfter config moment state.throttle category =
      throttleAfter config { moment with tree := t' } state.throttle category := by
    cases category with
    | process =>
        unfold throttleAfter
        cases hTarget : config.target with
        | none => rfl
        | some target => simp only [Target.find_congr hTarget h]
    | _ => rfl
  have hLast : lastSampleAfter config moment state.lastSample category =
      lastSampleAfter config { moment with tree := t' } state.lastSample category := by
    cases category with
    | process => simp only [lastSampleAfter, failure?_congr h, sampleProcesses_congr h]
    | _ => rfl
  simp only [stateAfter, gaugesAfter, sampled_congr h, hThrottle, hLast]

end Cycle

end PodGauges
