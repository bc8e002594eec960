import PodGauges.Proofs.Gauges.Observed

/-! An update taken apart: sampling, which reads the files and never looks at what is kept between
cycles, and the writes that follow it. Each category is sampled by one function of the
configuration and the moment, and an update is that sample written. -/
namespace PodGauges

open File Number

/-- The processes that a target names, without the throttle and the log of a search. -/
def Target.pids (target : Target) (t : Tree) (root : Path) : Except IoError (List Processes.Pid) :=
  match target with
  | .single pid => .ok [pid]
  | .listed pids => .ok pids
  | .matching pattern => sought pattern.search t root

/-- The throttle decides what is logged of a search, never what is found. -/
theorem Target.find_pids {τ : Type} [Sub τ] [LT τ] [DecidableRel (α := τ) (· < ·)]
    (target : Target) (t : Tree) (root : Path) (throttle : Throttle τ) (clock : τ) :
    (target.find t root throttle clock).map (·.pids) = target.pids t root := by
  cases target with
  | matching pattern =>
      simp only [find, pids]
      cases sought pattern.search t root <;> rfl
  | _ => rfl

/-- The events of one file are told apart by their names. -/
theorem Cgroup.distinct_events_of_read {t : Tree} {root : Path} {snapshot : Snapshot}
    (h : Cgroup.read t root = .ok snapshot) : Keyed.Distinct snapshot.memory.events := by
  have hMemory : snapshot.memory = readMemory t root := by
    unfold Cgroup.read at h
    split at h
    · cases h
    · cases h
    · split at h <;> cases h
      rfl
  rw [hMemory]
  unfold readMemory
  split
  · exact Keyed.distinct_ofPairs _
  · exact Keyed.distinct_nil

namespace Cycle

/-- The processes of the configured target, sampled and folded into one; none without a target. -/
def sampleProcesses (config : Config) (moment : Moment) :
    Except Failure (Option Processes.Aggregate) :=
  match config.target with
  | none => .ok none
  | some target =>
    match target.pids moment.tree config.procRoot with
    | .error error => .error (.processes error)
    | .ok pids =>
      match Processes.samples moment.pageSize moment.tree config.procRoot pids with
      | .error error => .error (.statusLine error)
      | .ok samples => .ok (some (Processes.Aggregate.ofSamples samples moment.now))

/-- What one cycle writes for a category, or why sampling failed before anything was written. -/
def sampled (config : Config) (moment : Moment) : Category → Except Failure (List Write)
  | .cgroup =>
    match Cgroup.read moment.tree config.cgroupRoot with
    | .ok snapshot => .ok snapshot.writes
    | .error error => .error (.cgroup error)
  | .process =>
    (sampleProcesses config moment).map fun sample => (sample.map (·.writes)).getD []
  | .host =>
    match Host.read moment.tree config.procRoot Host.defaultTickRate with
    | .ok (snapshot, _) => .ok snapshot.writes
    | .error error => .error (.host error)
  | .tcp =>
    match Network.readSockets moment.tree config.procRoot with
    | .ok counts => .ok (Network.connectionWrites counts.table)
    | .error error => .error (.sockets error)
  | .net =>
    match Network.read moment.tree config.networkRoot config.interface with
    | .ok snapshot => .ok ((snapshot.map (·.writes)).getD [])
    | .error error => .error (.interface error)

/-- What the sample of a category says of a series in one cycle. A failed sample says nothing, and
neither does one that is not taken. -/
def seen (config : Config) (moment : Moment) : Category → Series → Option Value
  | .cgroup, series =>
    (Cgroup.read moment.tree config.cgroupRoot).toOption.bind (·.observed series)
  | .process, series => (sampleProcesses config moment).toOption.join.bind (·.observed series)
  | .host, series =>
    (Host.read moment.tree config.procRoot Host.defaultTickRate).toOption.bind
      (·.1.observed series)
  | .tcp, series =>
    (Network.readSockets moment.tree config.procRoot).toOption.bind (·.observed series)
  | .net, series =>
    (Network.read moment.tree config.networkRoot config.interface).toOption.join.bind
      (·.observed series)

/-- What one cycle sees of a series: what the sample of its category says of it. -/
def observed (config : Config) (moment : Moment) (series : Series) : Option Value :=
  series.category?.bind fun category => seen config moment category series

/-- Why the update of a category fails: its sample fails, or else a sampled value is too large. -/
def failure? (config : Config) (moment : Moment) (category : Category) : Option Failure :=
  match sampled config moment category with
  | .error failure => some failure
  | .ok writes => (writes.findSome? Write.error?).map .range

/-- The throttle after the update of a category; only the search for processes asks it. -/
def throttleAfter (config : Config) (moment : Moment) (throttle : Throttle Float) :
    Category → Throttle Float
  | .process =>
    match config.target with
    | none => throttle
    | some target =>
      match target.find moment.tree config.procRoot throttle moment.clock with
      | .ok found => found.throttle
      | .error _ => throttle
  | _ => throttle

/-- The kept sample after the update of a category; a failed update keeps the earlier one. -/
def lastSampleAfter (config : Config) (moment : Moment)
    (lastSample : Option Processes.Aggregate) : Category → Option Processes.Aggregate
  | .process =>
    match failure? config moment .process, sampleProcesses config moment with
    | none, .ok (some sample) => some sample
    | _, _ => lastSample
  | _ => lastSample

/-- The gauges after the update of a category: the sampled values written in order, as far as they
fit. A failed sample writes nothing. -/
def gaugesAfter (config : Config) (moment : Moment) (gauges : Gauges) (category : Category) :
    Gauges :=
  match sampled config moment category with
  | .error _ => gauges
  | .ok writes => (gauges.writeAll writes).1

/-- Everything that an update does to the state. What is kept of the processes is replaced by their
own update alone, and cycles are not counted here. -/
def stateAfter (config : Config) (moment : Moment) (state : State) (category : Category) : State :=
  { state with
    gauges := gaugesAfter config moment state.gauges category
    throttle := throttleAfter config moment state.throttle category
    lastSample := lastSampleAfter config moment state.lastSample category }

variable (config : Config) (moment : Moment) (state : State)

/-- Values are written up to the first that is out of range, which is then the failure. -/
theorem written_eq (writes : List Write) (log : List Log.Record) :
    state.written writes log =
      ⟨{ state with gauges := (state.gauges.writeAll writes).1 },
        (writes.findSome? Write.error?).map .range, log⟩ := by
  rw [← state.gauges.writeAll_error writes]
  unfold State.written
  rcases state.gauges.writeAll writes with ⟨gauges, _ | error⟩ <;> rfl

/-- The update of the processes fails and changes what its parts, taken one by one, say. -/
theorem updateProcesses_eq {target : Target} (hTarget : config.target = some target) :
    (updateProcesses config moment state target).failure = failure? config moment .process ∧
    (updateProcesses config moment state target).state =
      stateAfter config moment state .process := by
  have hPids := target.find_pids moment.tree config.procRoot state.throttle moment.clock
  unfold updateProcesses
  cases hFind : target.find moment.tree config.procRoot state.throttle moment.clock with
  | error error =>
      have hSample : sampleProcesses config moment = .error (.processes error) := by
        rw [hFind] at hPids
        simp [sampleProcesses, hTarget, ← hPids, Except.map]
      simp [stateAfter, failure?, gaugesAfter, throttleAfter, lastSampleAfter, sampled, hSample,
        hTarget, hFind, Except.map]
  | ok found =>
      rw [hFind] at hPids
      cases hSamples : Processes.samples moment.pageSize moment.tree config.procRoot found.pids with
      | error error =>
          have hSample : sampleProcesses config moment = .error (.statusLine error) := by
            simp [sampleProcesses, hTarget, ← hPids, Except.map, hSamples]
          simp [stateAfter, failure?, gaugesAfter, throttleAfter, lastSampleAfter, sampled, hSample,
            hTarget, hFind, hSamples, Except.map]
      | ok samples =>
          have hSample : sampleProcesses config moment =
              .ok (some (Processes.Aggregate.ofSamples samples moment.now)) := by
            simp [sampleProcesses, hTarget, ← hPids, Except.map, hSamples]
          simp only [hSamples, written_eq]
          cases hError : (Processes.Aggregate.ofSamples samples moment.now).writes.findSome?
              Write.error? <;>
            simp [stateAfter, failure?, gaugesAfter, throttleAfter, lastSampleAfter, sampled,
              hSample, hTarget, hFind, hError, Except.map]

/-- An update is its sample written: why it fails depends on the configuration and the moment
alone, and what it leaves is `stateAfter`. -/
theorem update_eq (category : Category) :
    (update config moment state category).failure = failure? config moment category ∧
    (update config moment state category).state = stateAfter config moment state category := by
  cases category with
  | cgroup =>
      simp only [update, updateCgroup, failure?, stateAfter, gaugesAfter, throttleAfter,
        lastSampleAfter, sampled]
      cases Cgroup.read moment.tree config.cgroupRoot <;> simp [written_eq]
  | process =>
      cases hTarget : config.target with
      | some target =>
          simp only [update, hTarget]
          exact updateProcesses_eq config moment state hTarget
      | none =>
          have hSample : sampleProcesses config moment = .ok none := by
            simp [sampleProcesses, hTarget]
          simp [update, hTarget, stateAfter, failure?, gaugesAfter, throttleAfter, lastSampleAfter,
            sampled, hSample, Except.map, Gauges.writeAll]
  | host =>
      simp only [update, updateHost, failure?, stateAfter, gaugesAfter, throttleAfter,
        lastSampleAfter, sampled]
      rcases Host.read moment.tree config.procRoot Host.defaultTickRate with _ | ⟨snapshot, log⟩ <;>
        simp [written_eq]
  | tcp =>
      simp only [update, updateSockets, failure?, stateAfter, gaugesAfter, throttleAfter,
        lastSampleAfter, sampled]
      cases Network.readSockets moment.tree config.procRoot <;> simp [written_eq]
  | net =>
      simp only [update, updateInterface, failure?, stateAfter, gaugesAfter, throttleAfter,
        lastSampleAfter, sampled]
      rcases Network.read moment.tree config.networkRoot config.interface with
        _ | (_ | snapshot) <;> simp [written_eq, Gauges.writeAll]

theorem update_failure (category : Category) :
    (update config moment state category).failure = failure? config moment category :=
  (update_eq config moment state category).1

theorem update_state (category : Category) :
    (update config moment state category).state = stateAfter config moment state category :=
  (update_eq config moment state category).2

variable {config moment} {category : Category} {writes : List Write}

/-- Sampling and the view of it agree: a sample that was taken is written as the view says, and
the view of one that failed says nothing. -/
theorem seen_spec (config : Config) (moment : Moment) (category : Category) :
    match sampled config moment category with
    | .ok writes => Describes (seen config moment category) writes
    | .error _ => ∀ series, seen config moment category series = none := by
  cases category with
  | cgroup =>
      cases hRead : Cgroup.read moment.tree config.cgroupRoot with
      | error error => simp [sampled, seen, hRead, Except.toOption]
      | ok snapshot =>
          simp only [sampled, hRead]
          refine (snapshot.describes (Cgroup.distinct_events_of_read hRead)).of_eq fun series => ?_
          simp [seen, hRead, Except.toOption]
  | process =>
      cases hRead : sampleProcesses config moment with
      | error error => simp [sampled, seen, hRead, Except.toOption, Except.map]
      | ok sample =>
          cases sample with
          | none =>
              simp only [sampled, hRead, Except.map]
              exact Describes.of_nil fun series => by simp [seen, hRead, Except.toOption]
          | some sample =>
              simp only [sampled, hRead, Except.map]
              refine sample.describes.of_eq fun series => ?_
              simp [seen, hRead, Except.toOption]
  | host =>
      cases hRead : Host.read moment.tree config.procRoot Host.defaultTickRate with
      | error error => simp [sampled, seen, hRead, Except.toOption]
      | ok found =>
          simp only [sampled, hRead]
          refine found.1.describes.of_eq fun series => ?_
          simp [seen, hRead, Except.toOption]
  | tcp =>
      cases hRead : Network.readSockets moment.tree config.procRoot with
      | error error => simp [sampled, seen, hRead, Except.toOption]
      | ok counts =>
          simp only [sampled, hRead]
          refine counts.describes.of_eq fun series => ?_
          simp [seen, hRead, Except.toOption]
  | net =>
      cases hRead : Network.read moment.tree config.networkRoot config.interface with
      | error error => simp [sampled, seen, hRead, Except.toOption]
      | ok snapshot =>
          cases snapshot with
          | none =>
              simp only [sampled, hRead]
              exact Describes.of_nil fun series => by simp [seen, hRead, Except.toOption]
          | some snapshot =>
              simp only [sampled, hRead]
              refine snapshot.describes.of_eq fun series => ?_
              simp [seen, hRead, Except.toOption]

/-- What is written is what is seen, each series once. -/
theorem describes_of_sampled (h : sampled config moment category = .ok writes) :
    Describes (seen config moment category) writes := by
  have hSpec := seen_spec config moment category
  rw [h] at hSpec
  exact hSpec

theorem seen_of_error {failure : Failure} (h : sampled config moment category = .error failure)
    (series : Series) : seen config moment category series = none := by
  have hSpec := seen_spec config moment category
  rw [h] at hSpec
  exact hSpec series

/-- A category says nothing of the series of another one. -/
theorem category?_of_seen {series : Series} {value : Value}
    (h : seen config moment category series = some value) : series.category? = some category := by
  cases category with
  | cgroup =>
      obtain ⟨_, _, h⟩ := Option.bind_eq_some_iff.mp h
      exact Cgroup.Snapshot.category?_of_observed h
  | process =>
      obtain ⟨_, _, h⟩ := Option.bind_eq_some_iff.mp h
      exact Processes.Aggregate.category?_of_observed h
  | host =>
      obtain ⟨_, _, h⟩ := Option.bind_eq_some_iff.mp h
      exact Host.Snapshot.category?_of_observed h
  | tcp =>
      obtain ⟨_, _, h⟩ := Option.bind_eq_some_iff.mp h
      exact Network.SocketCounts.category?_of_observed h
  | net =>
      obtain ⟨_, _, h⟩ := Option.bind_eq_some_iff.mp h
      exact Network.Snapshot.category?_of_observed h

/-- A category writes its own series only. -/
theorem category?_of_sampled (h : sampled config moment category = .ok writes) {w : Write}
    (hw : w ∈ writes) : w.series.category? = some category :=
  category?_of_seen ((describes_of_sampled h).view_eq hw)

/-- A series is observed by its own category. -/
theorem observed_of_category? {series : Series} (h : series.category? = some category) :
    observed config moment series = seen config moment category series := by
  simp [observed, h]

end Cycle

end PodGauges
