import Mathlib.Data.Finset.Card
import PodGauges.Proofs.Config.Accepted
import PodGauges.Proofs.Cycle.Isolation
import PodGauges.Proofs.Except
import PodGauges.Proofs.File.Places
import PodGauges.Proofs.Processes.Samples
import PodGauges.Proofs.Text.Utf8

/-! Who is counted in a sample of processes, and how often. A process that has a sample of its own
is counted as often as the target names it. Nothing takes repetitions out of a list, so one that
names a process twice counts it twice; a single process and the directories of a kernel name none
twice. -/
namespace PodGauges

open File Processes Text

/-! ## How a target names its processes -/

/-- The texts that name the processes of a target: the setting of a single one, the tokens of a
list, or the names of the directories in which a pattern was found. -/
def Target.spellings (settings : Config.Settings) (t : Tree) (root : Path) :
    Target → List (List Char)
  | .single _ => [trim ((settings Config.singleSetting).getD "").toList]
  | .listed _ => Config.tokens ((settings Config.listSetting).getD "").toList
  | .matching pattern =>
    (((t.list root).toOption.getD []).filter fun name =>
      (pidOfName? name).isSome && isSought pattern.search t (root.child name)).map (·.toList)

/-- How often a target names a process. -/
def Target.timesNamed (settings : Config.Settings) (t : Tree) (root : Path) (target : Target)
    (pid : Pid) : Nat :=
  (target.spellings settings t root).countP (Number.integer? · = some pid)

/-- A directory in which a pattern is found names the process with the number that it spells. -/
theorem Target.pids_of_matching {settings : Config.Settings} {pattern : Pattern} {t : Tree}
    {root : Path} {pids : List Pid} (hPids : (matching pattern).pids t root = .ok pids) :
    pids = ((matching pattern).spellings settings t root).filterMap Number.integer? := by
  have hPid {name : String} {pid : Pid} (h : pidOfName? name = some pid) :
      Number.integer? name.toList = some pid := by
    simp only [pidOfName?] at h
    split at h
    · exact h
    · cases h
  simp only [Target.pids, sought] at hPids
  cases hList : t.list root with
  | error error =>
      rw [hList] at hPids
      cases hPids
  | ok names =>
      rw [hList] at hPids
      cases hPids
      rw [spellings, hList, List.filterMap_map, List.filterMap_filter]
      refine List.filterMap_congr fun name _ => ?_
      cases hName : pidOfName? name with
      | none => rfl
      | some pid =>
          cases isSought pattern.search t (root.child name)
          · rfl
          · exact (hPid hName).symm

/-- The processes of a target are the numbers that its spellings denote, in order. -/
theorem Config.pids_of_target? {dialect : Pattern.Dialect} {settings : Settings} {target : Target}
    (hTarget : target? dialect settings = .ok (some target)) {t : Tree} {root : Path}
    {pids : List Pid} (hPids : target.pids t root = .ok pids) :
    pids = (target.spellings settings t root).filterMap Number.integer? := by
  cases isChosen_of_target? hTarget with
  | listed hText hListed =>
      cases hPids
      simp only [Target.spellings, hText, Option.getD_some]
      exact (filterMap_of_mapM_eq_ok (fun _ _ h => (pid_eq_ok_iff.mp h).2) hListed).symm
  | single hText hSingle =>
      cases hPids
      simp [Target.spellings, hText, (pid_eq_ok_iff.mp hSingle).2]
  | matching _ _ => exact Target.pids_of_matching hPids

/-- A process is among those of a target as often as the settings name it. -/
theorem Config.count_pids {dialect : Pattern.Dialect} {settings : Settings} {config : Config}
    {target : Target}
    (hConfig : (ofSettings dialect settings).1 = .ok config) (hTarget : config.target = some target)
    {t : Tree} {root : Path} {pids : List Pid} (hPids : target.pids t root = .ok pids) (pid : Pid) :
    pids.count pid = target.timesNamed settings t root pid := by
  have hChosen := (isReadFrom_of_ofSettings hConfig).target
  rw [hTarget] at hChosen
  rw [pids_of_target? hChosen hPids, List.count, List.countP_filterMap, Target.timesNamed]
  refine List.countP_congr fun spelling _ => ?_
  cases Number.integer? spelling <;> simp

/-! ## Who is counted -/

namespace Processes

variable {pageSize : Nat} {t : Tree} {root : Path}

/-- The processes of a list that have a sample, in order and as often as they are listed. -/
def members (pageSize : Nat) (t : Tree) (root : Path) (pids : List Pid) : List Pid :=
  pids.filter fun pid => (Sample.read pageSize t root pid).toOption.isSome

/-- A round holds the sample of each member, in order. -/
theorem map_read_members {pids : List Pid} {found : List Sample}
    (h : samples pageSize t root pids = .ok found) :
    (members pageSize t root pids).map (Sample.read pageSize t root) = found.map .ok := by
  rw [(samples_eq_ok.mp h).2]
  clear h
  induction pids with
  | nil => rfl
  | cons pid pids ih =>
      cases hRead : Sample.read pageSize t root pid <;>
        simpa [members, hRead, Except.toOption] using ih

theorem count_members (pids : List Pid) (pid : Pid) :
    (members pageSize t root pids).count pid =
      if (Sample.read pageSize t root pid).toOption.isSome then pids.count pid else 0 := by
  split
  · next hSample => exact List.count_filter hSample
  · next hNone =>
      refine List.count_eq_zero_of_not_mem fun hMember => hNone ?_
      simpa using (List.mem_filter.mp hMember).2

/-- Members that differ are at most as many as the processes listed. -/
theorem length_le_card_of_nodup {pids : List Pid} (h : (members pageSize t root pids).Nodup) :
    (members pageSize t root pids).length ≤ pids.toFinset.card := by
  rw [← List.toFinset_card_of_nodup h]
  refine Finset.card_le_card fun pid hPid => ?_
  rw [List.mem_toFinset] at hPid ⊢
  exact List.mem_of_mem_filter hPid

/-- The kernel writes the number of a process as the name of its directory, without leading zeros.
-/
def NamedByKernel (t : Tree) (root : Path) : Prop :=
  ∀ names, t.list root = .ok names → ∀ name ∈ names, ∀ pid,
    Target.pidOfName? name = some pid → name = Number.decimalText pid

/-- No two directories of a kernel name one process. -/
theorem nodup_sought {search : List Char → Bool} (hTree : t.Distinct)
    (hNames : NamedByKernel t root) {pids : List Pid} (h : Target.sought search t root = .ok pids) :
    pids.Nodup := by
  unfold Target.sought at h
  cases hList : t.list root with
  | error error =>
      rw [hList] at h
      cases h
  | ok names =>
      rw [hList] at h
      cases h
      have hListed := hTree.nodup_list hList
      refine List.pairwise_filterMap.mpr (hListed.imp_of_mem ?_)
      rintro name other hName hOther hDiffer pid hPid _ hSame rfl
      obtain ⟨hFirst, -⟩ := Option.filter_eq_some_iff.mp hPid
      obtain ⟨hSecond, -⟩ := Option.filter_eq_some_iff.mp hSame
      exact hDiffer ((hNames names hList name hName pid hFirst).trans
        (hNames names hList other hOther pid hSecond).symm)

end Processes

namespace Cycle

variable {dialect : Pattern.Dialect} {settings : Config.Settings} {config : Config}
  {target : Target} {moment : Moment} {sample : Aggregate}

/-- A sample of processes is made of the samples of those that the target names at that time. -/
theorem exists_of_sampleProcesses (hTarget : config.target = some target)
    (h : sampleProcesses config moment = .ok (some sample)) :
    ∃ pids found, target.pids moment.tree config.procRoot = .ok pids ∧
      samples moment.pageSize moment.tree config.procRoot pids = .ok found ∧
      Aggregate.ofSamples found moment.now = sample := by
  simp only [sampleProcesses, hTarget] at h
  cases hPids : target.pids moment.tree config.procRoot with
  | error error =>
      rw [hPids] at h
      cases h
  | ok pids =>
      simp only [hPids] at h
      cases hFound : samples moment.pageSize moment.tree config.procRoot pids with
      | error error =>
          rw [hFound] at h
          cases h
      | ok found =>
          rw [hFound] at h
          exact ⟨pids, found, rfl, hFound, Option.some.inj (Except.ok.inj h)⟩

/-- What is kept of the processes after a cycle in which their update succeeded is the sample taken
in that cycle. -/
theorem lastSample_of_succeeded (hSample : sampleProcesses config moment = .ok (some sample))
    (state : State) (h : (.process, true) ∈ (run config moment state).succeeded) :
    (run config moment state).state.lastSample = some sample := by
  have hNone : failure? config moment .process = none := by
    simpa using ((mem_succeeded config moment state).mp h).2
  rw [run_lastSample]
  simp only [lastSampleAfter, hNone, hSample]

/-- A process is counted in the sample of a cycle as often as the accepted settings name it, if it
has a sample of its own. So nobody is counted twice exactly if no member is named twice, which a
single number never does, nor do the directories of a kernel; then the members are at most as many
as the different processes of the target. -/
theorem members_of_accepted (hConfig : (Config.ofSettings dialect settings).1 = .ok config)
    (hTarget : config.target = some target)
    (hSample : sampleProcesses config moment = .ok (some sample)) :
    ∃ pids found, target.pids moment.tree config.procRoot = .ok pids ∧
      let members := Processes.members moment.pageSize moment.tree config.procRoot pids
      members.map (Sample.read moment.pageSize moment.tree config.procRoot) = found.map .ok ∧
      sample = Aggregate.ofSamples found moment.now ∧
      (∀ state, (.process, true) ∈ (run config moment state).succeeded →
        (run config moment state).state.lastSample = some sample) ∧
      (∀ pid, members.count pid =
        if (Sample.read moment.pageSize moment.tree config.procRoot pid).toOption.isSome then
          target.timesNamed settings moment.tree config.procRoot pid
        else 0) ∧
      (members.Nodup ↔ ∀ pid ∈ members,
        target.timesNamed settings moment.tree config.procRoot pid ≤ 1) ∧
      (members.Nodup → sample.members ≤ pids.toFinset.card) ∧
      (∀ pid, target = .single pid → members.Nodup) ∧
      (∀ pattern, target = .matching pattern → moment.tree.Distinct →
        NamedByKernel moment.tree config.procRoot → members.Nodup) := by
  obtain ⟨pids, found, hPids, hFound, rfl⟩ := exists_of_sampleProcesses hTarget hSample
  have hRead := map_read_members hFound
  have hLength :
      (members moment.pageSize moment.tree config.procRoot pids).length = found.length := by
    simpa using congrArg List.length hRead
  have hCount (pid : Pid) : (members moment.pageSize moment.tree config.procRoot pids).count pid =
      if (Sample.read moment.pageSize moment.tree config.procRoot pid).toOption.isSome then
        target.timesNamed settings moment.tree config.procRoot pid
      else 0 := by
    rw [count_members, Config.count_pids hConfig hTarget hPids]
  refine ⟨pids, found, hPids, hRead, rfl, lastSample_of_succeeded hSample, hCount, ?_, fun h => ?_,
    ?_, ?_⟩
  · rw [List.nodup_iff_count_le_one]
    constructor
    · intro h pid hMember
      have hOnce := h pid
      rwa [hCount, if_pos (List.mem_filter.mp hMember).2] at hOnce
    · intro h pid
      by_cases hMember : pid ∈ members moment.pageSize moment.tree config.procRoot pids
      · rw [hCount, if_pos (List.mem_filter.mp hMember).2]
        exact h pid hMember
      · rw [List.count_eq_zero_of_not_mem hMember]
        exact Nat.zero_le 1
  · calc (Aggregate.ofSamples found moment.now).members
        = (members moment.pageSize moment.tree config.procRoot pids).length := hLength.symm
      _ ≤ pids.toFinset.card := length_le_card_of_nodup h
  · rintro pid rfl
    cases hPids
    exact (List.nodup_singleton pid).filter _
  -- Names without leading zeros that spell one number are the same name.
  · rintro pattern rfl hTree hNames
    exact (nodup_sought hTree hNames hPids).filter _

/-- Nothing is set but a list of processes. -/
def listSettings (text : String) : Config.Settings := fun setting =>
  if setting = Config.listSetting then some text else none

def listing (pids : List Pid) : Config := { Config.plain with target := some (.listed pids) }

/-- A host with two processes, the second of which has swapped out eight kibibytes. -/
def twoProcesses : Moment :=
  ⟨⟨[(["proc"], .directory), (["proc", "3"], .directory), (["proc", "3", "stat"], .file []),
    (["proc", "7"], .directory), (["proc", "7", "stat"], .file []),
    (["proc", "7", "status"], .file (Utf8.asciiBytes "VmSwap:\t8 kB\n".toList))]⟩,
    4096, 0.0, 0.0⟩

/-- A list that names both of them counts each once. -/
theorem members_of_bothListed :
    (Config.ofSettings .ascii (listSettings "3, 7")).1 = .ok (listing [3, 7]) ∧
    ∃ sample, sampleProcesses (listing [3, 7]) twoProcesses = .ok (some sample) ∧
      (members 4096 twoProcesses.tree (listing [3, 7]).procRoot [3, 7]).Nodup ∧
      sample.members ≤ [3, 7].toFinset.card := by
  have hConfig : (Config.ofSettings .ascii (listSettings "3, 7")).1 = .ok (listing [3, 7]) := rfl
  obtain ⟨sample, hSample⟩ : ∃ sample,
      sampleProcesses (listing [3, 7]) twoProcesses = .ok (some sample) := ⟨_, rfl⟩
  obtain ⟨pids, -, hPids, -, -, -, -, hNodup, hCard, -⟩ := members_of_accepted hConfig rfl hSample
  obtain rfl : [3, 7] = pids := Except.ok.inj hPids
  have hOnce := hNodup.mpr (by decide +kernel)
  exact ⟨hConfig, sample, hSample, hOnce, hCard hOnce⟩

/-- A list that names the second twice counts it twice, and so what it has swapped out. -/
theorem members_of_listedTwice :
    (Config.ofSettings .ascii (listSettings "7,7")).1 = .ok (listing [7, 7]) ∧
    ¬ (members 4096 twoProcesses.tree (listing [7, 7]).procRoot [7, 7]).Nodup ∧
    ∃ sample, sampleProcesses (listing [7, 7]) twoProcesses = .ok (some sample) ∧
      [7, 7].toFinset.card < sample.members ∧ sample.count .swap = 2 * (8 * 1024) :=
  ⟨rfl, by decide +kernel, _, rfl, by decide +kernel, by decide +kernel⟩

end Cycle

end PodGauges
