import PodGauges.Config
import PodGauges.Proofs.Config.Labels
import PodGauges.Proofs.Config.Listen
import PodGauges.Proofs.Config.PidList

/-! What is known of a configuration because it was accepted: the names in it are names by the
grammar of the text in which series are exposed, and its numbers are in range. One of them is what
an exporter is told if nothing is set. -/
namespace PodGauges

/-- The processes that a target names by their numbers. -/
def Target.named : Target → List Processes.Pid
  | .single pid => [pid]
  | .listed pids => pids
  | .matching _ => []

namespace Config

/-- The configuration of no settings at all. -/
def plain : Config where
  listen := ⟨"0.0.0.0", 9100⟩
  cgroupRoot := ⟨.root, ["sys", "fs", "cgroup"]⟩
  procRoot := ⟨.root, ["proc"]⟩
  networkRoot := ⟨.root, ["sys", "class", "net"]⟩
  interface := "eth0"
  downward := none
  target := none
  metricPrefix := none
  labels := []
  interval := 5
  nodeName := none
  declared
    | .cpuRequests | .cpuLimits | .memoryRequests | .memoryLimits => none
  logLevel := "INFO"

variable {dialect : Pattern.Dialect}

/-- Every setting has a default, so that none has to be given. -/
theorem ofSettings_none (dialect : Pattern.Dialect) :
    ofSettings dialect (fun _ => none) = (.ok plain, []) := by rfl

/-- The beginning of all metric names comes from one setting or from the other. -/
theorem exists_of_prefixOf? {settings : Settings} {beginning : String}
    (h : prefixOf? settings = .ok (some beginning)) :
    ∃ text, prefixOfText text = .ok (some beginning.toList) := by
  unfold prefixOf? at h
  dsimp only at h
  obtain ⟨first, hFirst, h⟩ := bind_eq_ok.mp h
  split at h
  · cases h
    rw [String.toList_ofList]
    split at hFirst
    · exact ⟨_, hFirst⟩
    · cases hFirst
  · obtain ⟨second, hSecond, h⟩ := bind_eq_ok.mp h
    obtain ⟨name, rfl, rfl⟩ := Option.map_eq_some_iff.mp (Except.ok.inj h)
    rw [String.toList_ofList]
    split at hSecond
    · exact ⟨_, hSecond⟩
    · cases hSecond

/-- Labels that are set have names of labels, each once, and none that a series uses for itself. -/
theorem staticLabels_eq_ok {text : List Char} {labels : Keyed String String}
    (h : staticLabels text = .ok labels) : labels.Distinct ∧
      ∀ name ∈ labels.map (·.1), IsLabelName name.toList ∧ name ∉ seriesLabels := by
  obtain ⟨pairs, hPairs, rfl⟩ := staticLabels_eq_ok_iff.mp h
  refine ⟨Keyed.distinct_ofPairs _, fun name hName => ?_⟩
  obtain ⟨pair, hPair, rfl⟩ := List.mem_map.mp (Keyed.mem_keys_ofPairs.mp hName)
  obtain ⟨piece, -, -, hSettable⟩ := hPairs.exists_piece pair hPair
  exact hSettable

theorem interval?_eq_ok {setting : Option String} {n : Int} (h : interval? setting = .ok n) :
    1 ≤ n := by
  unfold interval? at h
  split at h
  · cases h
    decide
  · dsimp only at h
    split at h
    · cases h
      decide
    · split at h
      · cases h
        exact Int.le_max_right ..
      · cases h

/-- The setting from which a target comes. -/
inductive IsChosen (dialect : Pattern.Dialect) (settings : Settings) : Target → Prop where
  | listed {text : String} {pids : List Processes.Pid} (hText : settings listSetting = some text)
      (hPids : pidList text.toList = .ok pids) : IsChosen dialect settings (.listed pids)
  | single {text : String} {n : Processes.Pid} (hText : settings singleSetting = some text)
      (hPid : pid singleSetting (Text.trim text.toList) = .ok n) :
      IsChosen dialect settings (.single n)
  | matching {text : String} {pattern : Pattern} (hText : settings patternSetting = some text)
      (hPattern : Pattern.ofString dialect text = .ok pattern) :
      IsChosen dialect settings (.matching pattern)

/-- A target is chosen by the first setting that gives one. -/
theorem isChosen_of_target? {settings : Settings} {target : Target}
    (h : target? dialect settings = .ok (some target)) : IsChosen dialect settings target := by
  have hBehind (h : pidTarget? settings = .ok (some target)) :
      IsChosen dialect settings target := by
    unfold pidTarget? at h
    split at h
    · next text hText =>
        obtain ⟨pids, hPids, hTarget⟩ := map_eq_ok.mp h
        cases hTarget
        exact .listed hText hPids
    · split at h
      · cases h
      · next text hText =>
          dsimp only at h
          split at h
          · cases h
          · obtain ⟨n, hn, hTarget⟩ := map_eq_ok.mp h
            cases hTarget
            exact .single hText hn
  unfold target? at h
  split at h
  · exact hBehind (mapError_eq_ok.mp h)
  · exact hBehind (mapError_eq_ok.mp h)
  · next text _ hText =>
      obtain ⟨other, hOther, hTarget⟩ := map_eq_ok.mp h
      cases hTarget
      unfold patternTarget at hOther
      split at hOther
      · next pattern hPattern =>
          cases hOther
          exact .matching hText hPattern
      · cases hOther
      · cases hOther

/-- Nobody chooses a process by a number that is not positive. -/
theorem IsChosen.named_pos {settings : Settings} {target : Target}
    (h : IsChosen dialect settings target) : ∀ pid ∈ target.named, 0 < pid := by
  cases h with
  | listed _ hPids =>
      intro n hn
      obtain ⟨piece, -, hNames⟩ := (pidList_eq_ok_iff.mp hPids).exists_piece n hn
      exact hNames.1
  | single _ hPid => exact List.forall_mem_singleton.mpr (pid_eq_ok_iff.mp hPid).1
  | matching _ _ => exact fun _ h => absurd h List.not_mem_nil

/-- The parts of a configuration that are understood are each read from settings of their own. -/
structure IsReadFrom (config : Config) (dialect : Pattern.Dialect) (settings : Settings) :
    Prop where
  listen : Listen.ofText ((settings "EXPORTER_LISTEN").getD "0.0.0.0:9100").toList =
    .ok config.listen
  target : target? dialect settings = .ok config.target
  beginning : prefixOf? settings = .ok config.metricPrefix
  labels : staticLabels ((settings "METRICS_STATIC_LABELS").getD "").toList = .ok config.labels
  interval : interval? (settings "METRICS_UPDATE_INTERVAL_SECS") = .ok config.interval
  declared : declared? settings = .ok config.declared

/-- Each part of a configuration is read from its own setting. -/
theorem isReadFrom_of_ofSettings {settings : Settings} {config : Config}
    (h : (ofSettings dialect settings).1 = .ok config) : config.IsReadFrom dialect settings := by
  unfold ofSettings at h
  split at h
  · cases h
  · next listen hListen =>
      split at h
      · cases h
      · next target hTarget =>
          obtain ⟨beginning, hBeginning, h⟩ := bind_eq_ok.mp (mapError_eq_ok.mp h)
          obtain ⟨labels, hLabels, h⟩ := bind_eq_ok.mp h
          obtain ⟨interval, hInterval, h⟩ := bind_eq_ok.mp h
          obtain ⟨declared, hDeclared, h⟩ := bind_eq_ok.mp h
          cases h
          exact ⟨hListen, hTarget, hBeginning, hLabels, hInterval, hDeclared⟩

/-- What is known of a configuration because it was accepted. -/
structure Sound (config : Config) : Prop where
  beginning : ∀ beginning, config.metricPrefix = some beginning →
    IsMetricName beginning.toList ∧ beginning.toList.getLast? ≠ some '_' ∧
      prefixOfText beginning.toList = .ok (some beginning.toList)
  labelNames : ∀ name ∈ config.labels.map (·.1), IsLabelName name.toList ∧ name ∉ seriesLabels
  distinctLabels : config.labels.Distinct
  pids : ∀ target, config.target = some target → ∀ pid ∈ target.named, 0 < pid
  port : config.listen.port ≤ 65535
  interval : 1 ≤ config.interval

theorem sound_of_ofSettings {settings : Settings} {config : Config}
    (h : (ofSettings dialect settings).1 = .ok config) : config.Sound := by
  have hRead := isReadFrom_of_ofSettings h
  obtain ⟨-, -, -, -, hPort⟩ := Listen.ofText_eq_ok_iff.mp hRead.listen
  refine ⟨fun beginning hBeginning => ?_, (staticLabels_eq_ok hRead.labels).2,
    (staticLabels_eq_ok hRead.labels).1, fun target hTarget => ?_, hPort,
    interval?_eq_ok hRead.interval⟩
  · obtain ⟨text, hText⟩ := exists_of_prefixOf? (hBeginning ▸ hRead.beginning)
    exact prefixOfText_eq_some hText
  · exact (isChosen_of_target? (hTarget ▸ hRead.target)).named_pos

end Config

end PodGauges
