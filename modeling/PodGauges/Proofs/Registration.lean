import PodGauges.Proofs.Catalogue
import PodGauges.Proofs.Number.Range

/-! Which accepted configurations give an exporter: the library takes all their families, and the
interval is what may still be too large. -/
namespace PodGauges

open Number

variable {ε : Type}

namespace Library

/-- A library with no objection to a well-formed family, unless it has one of that name. -/
def TakesWellFormed (library : Library ε) : Prop :=
  ∀ taken family, family.WellFormed → family.name ∉ taken.map Family.name →
    library taken family = .ok ()

/-- It takes well-formed families one after another if each has a name of its own. -/
theorem TakesWellFormed.declare_eq_ok {library : Library ε} (h : library.TakesWellFormed)
    {taken families : List Family} (hFamilies : ∀ family ∈ families, family.WellFormed)
    (hNames : ((taken ++ families).map Family.name).Nodup) :
    library.declare taken families = .ok (taken ++ families) := by
  induction families generalizing taken with
  | nil => rw [declare, List.append_nil]
  | cons family families ih =>
      have hNew : family.name ∉ taken.map Family.name := by
        rw [List.map_append, List.map_cons] at hNames
        intro hTaken
        exact (List.nodup_append.mp hNames).2.2 _ hTaken _ (List.mem_cons_self ..) rfl
      have hTake : library taken family = .ok () :=
        h taken family (hFamilies family (List.mem_cons_self ..)) hNew
      have hSplit : taken ++ family :: families = taken ++ [family] ++ families := by
        rw [List.append_assoc, List.singleton_append]
      rw [declare, hTake, hSplit]
      rw [hSplit] at hNames
      exact ih (fun other hOther => hFamilies other (List.mem_cons_of_mem _ hOther)) hNames

end Library

namespace Exporter

/-- Whatever the files hold, the exporter of an accepted configuration wants nothing but a double
for its interval. -/
theorem exists_state_build {config : Config} (h : config.Sound) (tree : File.Tree) :
    ∃ state, (build config tree).1 = (realOfInteger config.interval).map fun seconds =>
      { config, interval := .real seconds, state } := by
  have hLeast : max config.interval Config.minInterval = config.interval :=
    Int.max_eq_left h.interval
  rw [← hLeast]
  exact ⟨_, rfl⟩

/-- A library that takes what is well formed makes no difference to an accepted configuration. -/
theorem buildOver_eq_build {library : Library ε} (hLibrary : library.TakesWellFormed)
    {config : Config} (h : config.Sound) (tree : File.Tree) :
    buildOver library config tree = (build config tree).1.mapError .interval := by
  have hDeclared : library.declare [] (Catalogue.ofConfig config).families =
      .ok (Catalogue.ofConfig config).families :=
    hLibrary.declare_eq_ok (fun _ => h.wellFormed) (Catalogue.nodup_familyNames _)
  rw [buildOver, hDeclared]
  rfl

end Exporter

/-- Nothing that is accepted is refused later, but for an interval beyond the doubles. -/
theorem Exporter.buildOver_of_accepted {library : Library ε} {dialect : Pattern.Dialect}
    {settings : Config.Settings} {config : Config} (hLibrary : library.TakesWellFormed)
    (hAccepted : (Config.ofSettings dialect settings).1 = .ok config) (tree : File.Tree) :
    1 ≤ config.interval ∧
    ((∃ exporter, buildOver library config tree = .ok exporter) ↔
      config.interval < firstTooLarge) ∧
    (∀ exporter, buildOver library config tree = .ok exporter → exporter.config = config ∧
      ∃ seconds, realOfInteger config.interval = .ok seconds ∧
        exporter.interval = .real seconds) ∧
    (firstTooLarge ≤ config.interval →
      buildOver library config tree = .error (.interval .integerTooLarge)) := by
  have hSound := Config.sound_of_ofSettings hAccepted
  have hLeast : 1 ≤ config.interval := hSound.interval
  obtain ⟨state, hBuild⟩ := exists_state_build hSound tree
  rw [buildOver_eq_build hLibrary hSound, hBuild]
  have hDouble : (∃ seconds, realOfInteger config.interval = .ok seconds) ↔
      config.interval < firstTooLarge := by
    rw [exists_realOfInteger_iff]
    omega
  refine ⟨hLeast, ?_, ?_, fun hLarge => ?_⟩
  · rw [← hDouble]
    constructor
    · rintro ⟨exporter, h⟩
      obtain ⟨seconds, hSeconds, -⟩ := map_eq_ok.mp (mapError_eq_ok.mp h)
      exact ⟨seconds, hSeconds⟩
    · rintro ⟨seconds, hSeconds⟩
      exact ⟨_, mapError_eq_ok.mpr (map_eq_ok.mpr ⟨seconds, hSeconds, rfl⟩)⟩
  · intro exporter h
    obtain ⟨seconds, hSeconds, rfl⟩ := map_eq_ok.mp (mapError_eq_ok.mp h)
    exact ⟨rfl, seconds, hSeconds, rfl⟩
  · rw [realOfInteger_eq_error (by omega)]
    rfl

/-- A library of gauges. A name may be any that is not empty and not taken, a label any that is not
empty and does not begin with two underscores. -/
def gaugeLibrary : Library String := fun taken family =>
  if family.name = "" then .error "metric name cannot be empty"
  else if "" ∈ family.labels then .error "label name cannot be empty"
  else if family.labels.any fun label => ['_', '_'].isPrefixOf label.toList then
    .error "reserved label name"
  else if family.name ∈ taken.map Family.name then .error "duplicated timeseries"
  else .ok ()

/-- The names of well-formed families are none that it refuses. -/
theorem gaugeLibrary_takesWellFormed : gaugeLibrary.TakesWellFormed := by
  intro taken family h hNew
  have hName : family.name ≠ "" := fun hEmpty =>
    h.name.ne_nil (String.toList_eq_nil_iff.mpr hEmpty)
  have hFilled : "" ∉ family.labels := fun hEmpty => (h.labelNames "" hEmpty).ne_nil rfl
  have hFree : ¬ family.labels.any fun label => ['_', '_'].isPrefixOf label.toList := by
    simpa using fun label hLabel => (h.labelNames label hLabel).not_reserved
  rw [gaugeLibrary, if_neg hName, if_neg hFilled, if_neg hFree, if_neg hNew]

/-- With everything named there is an exporter, of one second's interval. -/
theorem Exporter.buildOver_of_labelledSettings : ∃ config,
    (Config.ofSettings .ascii labelledSettings).1 = .ok config ∧
    gaugeLibrary.TakesWellFormed ∧
    ∀ tree, ∃ exporter seconds, buildOver gaugeLibrary config tree = .ok exporter ∧
      realOfInteger 1 = .ok seconds ∧ exporter.interval = .real seconds := by
  obtain ⟨config, hConfig, hInterval⟩ : ∃ config,
      (Config.ofSettings .ascii labelledSettings).1 = .ok config ∧ config.interval = 1 :=
    exists_of_toOption_map (by decide +kernel)
  refine ⟨config, hConfig, gaugeLibrary_takesWellFormed, fun tree => ?_⟩
  obtain ⟨-, hBuilt, hSeconds, -⟩ :=
    buildOver_of_accepted gaugeLibrary_takesWellFormed hConfig tree
  rw [hInterval] at hBuilt hSeconds
  obtain ⟨exporter, hExporter⟩ := hBuilt.mpr (by decide +kernel)
  obtain ⟨-, seconds, hReal, hSame⟩ := hSeconds exporter hExporter
  exact ⟨exporter, seconds, hExporter, hReal, hSame⟩

/-- Nothing is set but an interval that is too large. -/
def endlessInterval : Config.Settings
  | "METRICS_UPDATE_INTERVAL_SECS" => some (String.ofList ('1' :: List.replicate 309 '0'))
  | _ => none

/-- It is accepted, and no library makes an exporter of it. -/
theorem Exporter.buildOver_of_endlessInterval : ∃ config,
    (Config.ofSettings .ascii endlessInterval).1 = .ok config ∧
    ∀ tree, (build config tree).1 = .error .integerTooLarge ∧
      ∀ (library : Library String) (exporter : Exporter),
        buildOver library config tree ≠ .ok exporter := by
  obtain ⟨config, hConfig, hInterval⟩ : ∃ config,
      (Config.ofSettings .ascii endlessInterval).1 = .ok config ∧ config.interval = 10 ^ 309 :=
    exists_of_toOption_map (by decide +kernel)
  have hLarge : realOfInteger config.interval = .error .integerTooLarge := by
    rw [hInterval]
    exact realOfInteger_eq_error (by decide +kernel)
  refine ⟨config, hConfig, fun tree => ?_⟩
  obtain ⟨state, hBuild⟩ := exists_state_build (Config.sound_of_ofSettings hConfig) tree
  rw [hLarge] at hBuild
  refine ⟨hBuild, fun library exporter h => ?_⟩
  obtain ⟨_, -, hExporter⟩ := bind_eq_ok.mp h
  rw [hBuild] at hExporter
  cases hExporter

end PodGauges
