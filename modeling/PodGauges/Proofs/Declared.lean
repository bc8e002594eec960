import PodGauges.Proofs.Exporter
import PodGauges.Proofs.Exposition

/-! The amounts that are declared for the container, as they are exported after any cycles. A family
without labels is there with a zero before it is written, and this shows for resources that are not
declared as soon as another one is. -/
namespace PodGauges

open PodGauges.Cycle Number

/-! ## Settings -/

namespace Config

/-- The declared amounts are those that the settings give. -/
theorem declared?_eq_ok {settings : Settings} {declared : Declared}
    (h : declared? settings = .ok declared) (resource : Resource) :
    amount? resource.setting (settings resource.setting) = .ok (declared resource) := by
  obtain ⟨cpuRequests, hCpuRequests, h⟩ := bind_eq_ok.mp h
  obtain ⟨cpuLimits, hCpuLimits, h⟩ := bind_eq_ok.mp h
  obtain ⟨memoryRequests, hMemoryRequests, h⟩ := bind_eq_ok.mp h
  obtain ⟨memoryLimits, hMemoryLimits, h⟩ := bind_eq_ok.mp h
  cases h
  cases resource with
  | cpuRequests => exact hCpuRequests
  | cpuLimits => exact hCpuLimits
  | memoryRequests => exact hMemoryRequests
  | memoryLimits => exact hMemoryLimits

/-- What is exported of a resource that is not declared: a zero if its family is there, because
another resource is declared, and carries no label. -/
def undeclared? (config : Config) : Option Float :=
  if config.labels = [] ∧ config.declared.isAny then some 0.0 else none

/-- What is exported of a resource. -/
def amountShown? (config : Config) (resource : Resource) : Option Float :=
  (config.declared resource).or config.undeclared?

theorem isAny_iff {declared : Declared} :
    declared.isAny = true ↔ ∃ resource, (declared resource).isSome = true := by
  have hAll (resource : Resource) : resource ∈ Resource.all := by cases resource <;> decide
  simp only [Declared.isAny, List.any_eq_true, hAll, true_and]

/-- Something is exported of a resource only if one is declared. -/
theorem isAny_of_amountShown? {config : Config} {resource : Resource} {x : Float}
    (h : config.amountShown? resource = some x) : config.declared.isAny = true := by
  rcases Option.or_eq_some_iff.mp h with hDeclared | ⟨-, hUndeclared⟩
  · exact isAny_iff.mpr ⟨resource, by rw [hDeclared]; rfl⟩
  · unfold undeclared? at hUndeclared
    split at hUndeclared
    · next hThere => exact hThere.2
    · cases hUndeclared

/-- All that is shown is declared, unless some resource is declared, another one is not, and no
label is set. -/
theorem amountShown?_eq_declared_iff (config : Config) :
    (∀ resource, config.amountShown? resource = config.declared resource) ↔
      config.labels ≠ [] ∨ (∀ resource, config.declared resource = none) ∨
        ∀ resource, (config.declared resource).isSome := by
  constructor
  · intro h
    -- Without labels any metric shows a zero from the start, so that no resource may be left out.
    by_cases hLabels : config.labels = []
    · right
      by_cases hAny : config.declared.isAny = true
      · right
        intro resource
        cases hDeclared : config.declared resource with
        | some x => rfl
        | none =>
            have hShown := h resource
            rw [amountShown?, undeclared?, hDeclared, if_pos ⟨hLabels, hAny⟩] at hShown
            cases hShown
      · left
        intro resource
        rw [isAny_iff, not_exists] at hAny
        simpa using hAny resource
    · exact .inl hLabels
  · rintro (hLabels | hNone | hAll) resource
    · rw [amountShown?, undeclared?, if_neg fun h => hLabels h.1, Option.or_none]
    · have hAny : ¬ config.declared.isAny = true := fun h => by
        obtain ⟨other, hOther⟩ := isAny_iff.mp h
        rw [hNone other] at hOther
        cases hOther
      rw [amountShown?, undeclared?, if_neg fun h => hAny h.2, Option.or_none]
    · obtain ⟨x, hx⟩ := Option.isSome_iff_exists.mp (hAll resource)
      rw [amountShown?, hx, Option.some_or]

end Config

/-! ## The first gauges -/

namespace Catalogue

/-- If any resource is declared all of them are metrics. -/
theorem resource_mem_metrics {catalogue : Catalogue} {resource : Resource} :
    .resource resource ∈ catalogue.metrics ↔ catalogue.hasResources = true := by
  have hStandard : .resource resource ∉ Metric.standard := by cases resource <;> decide
  have hResource : .resource resource ∈ Metric.resources := by cases resource <;> decide
  unfold metrics
  split <;> simp_all

theorem isBare_resource {catalogue : Catalogue} {resource : Resource} :
    catalogue.isBare (.resource resource) = true ↔ catalogue.labels = [] := by
  simp [isBare, labelNames, constantLabels, Metric.isHost, Metric.labels]

/-- A resource has no label but those that are set. -/
theorem labelsOf_resource {catalogue : Catalogue} {resource : Resource} :
    catalogue.labelsOf ⟨.resource resource, []⟩ = catalogue.labels := by
  simp [labelsOf, constantLabels, Metric.isHost]

end Catalogue

namespace Gauges

/-- The declared amounts are put over what is there from the beginning. -/
theorem value?_ofConfig_resource (config : Config) (resource : Resource) :
    (ofConfig config).value? ⟨.resource resource, []⟩ = config.amountShown? resource := by
  let series : Series := ⟨.resource resource, []⟩
  -- a declared amount that is put once more is the same, so each step may be read on its own
  have hFold {step : Gauges → Resource → Gauges}
      (hStep : ∀ gauges other, (step gauges other).value? series =
        if other = resource then (config.declared resource).or (gauges.value? series)
        else gauges.value? series) (resources : List Resource) (gauges : Gauges) :
      (resources.foldl step gauges).value? series =
        if resource ∈ resources then (config.declared resource).or (gauges.value? series)
        else gauges.value? series := by
    induction resources generalizing gauges with
    | nil => rfl
    | cons other resources ih =>
        rw [List.foldl_cons, ih, hStep]
        by_cases hOther : other = resource
        · cases config.declared resource <;> simp [hOther]
        · simp [hOther, Ne.symm hOther]
  have hBegin : (ofCatalogue (Catalogue.ofConfig config)).value? series = config.undeclared? := by
    simp only [value?_ofCatalogue, List.mem_filter, Catalogue.resource_mem_metrics,
      Catalogue.isBare_resource, Config.undeclared?, true_and, series]
    simp only [Catalogue.ofConfig, and_comm]
  have hAll : resource ∈ Resource.all := by cases resource <;> decide
  unfold ofConfig
  refine (hFold ?_ Resource.all _).trans ?_
  · intro gauges other
    by_cases hOther : other = resource
    · subst hOther
      rw [if_pos rfl]
      split
      · next x hDeclared => rw [value?_put, if_pos rfl, hDeclared, Option.some_or]
      · next hDeclared => rw [hDeclared, Option.none_or]
    · rw [if_neg hOther]
      split
      · have hSeries : series ≠ ⟨.resource other, []⟩ := fun h =>
          hOther (Metric.resource.inj (congrArg Series.metric h)).symm
        rw [value?_put, if_neg hSeries]
      · rfl
  · rw [if_pos hAll, hBegin]
    rfl

end Gauges

/-! ## Cycles -/

namespace Cycle

variable (config : Config) (moment : Moment) {state : State}

/-- A category samples standard series only, and none of a resource. -/
theorem standard_sampled {config : Config} {moment : Moment} {category : Category}
    {writes : List Write} (h : sampled config moment category = .ok writes) :
    ∀ w ∈ writes, w.series.IsStandard := by
  have hNone : ∀ w ∈ ([] : List Write), w.series.IsStandard :=
    fun _ hw => absurd hw List.not_mem_nil
  unfold sampled at h
  cases category with
  | cgroup =>
      dsimp only at h
      split at h
      · cases h
        exact Cgroup.Snapshot.standard_writes _
      · cases h
  | process =>
      obtain ⟨sample, -, rfl⟩ := map_eq_ok.mp h
      cases sample with
      | none => exact hNone
      | some sample => exact sample.standard_writes
  | host =>
      dsimp only at h
      split at h
      · cases h
        exact Host.Snapshot.standard_writes _
      · cases h
  | tcp =>
      dsimp only at h
      split at h
      · cases h
        exact Network.standard_connectionWrites _
      · cases h
  | net =>
      dsimp only at h
      split at h
      · next snapshot _ =>
          cases h
          cases snapshot with
          | none => exact hNone
          | some snapshot => exact snapshot.standard_writes
      · cases h

/-- An update keeps the catalogue, and aligned gauges aligned. -/
theorem update_aligned (h : state.gauges.Aligned) (category : Category) :
    (update config moment state category).state.gauges.Aligned ∧
      (update config moment state category).state.gauges.catalogue = state.gauges.catalogue := by
  rw [update_state]
  dsimp only [stateAfter]
  unfold gaugesAfter
  split
  · exact ⟨h, rfl⟩
  · next hSampled =>
      exact ⟨h.writeAll fun w hw => (standard_sampled hSampled w hw).aligned,
        Gauges.catalogue_writeAll ..⟩

/-- Updates in any order keep the gauges aligned, and the catalogue as it is. -/
theorem updateAll_aligned (h : state.gauges.Aligned) (order : List Category) :
    (updateAll config moment state order).state.gauges.Aligned ∧
      (updateAll config moment state order).state.gauges.catalogue = state.gauges.catalogue := by
  induction order generalizing state with
  | nil => exact ⟨h, rfl⟩
  | cons category order ih =>
      obtain ⟨hAligned, hCatalogue⟩ := update_aligned config moment h category
      rw [← hCatalogue]
      exact ih hAligned

end Cycle

namespace Exporter

variable {exporter : Exporter}

theorem afterCycles_aligned (h : exporter.gauges.Aligned) (moments : List Moment) :
    (exporter.afterCycles moments).gauges.Aligned ∧
      (exporter.afterCycles moments).gauges.catalogue = exporter.gauges.catalogue := by
  induction moments generalizing exporter with
  | nil => exact ⟨h, rfl⟩
  | cons moment moments ih =>
      obtain ⟨hAligned, hCatalogue⟩ : (exporter.cycle moment).1.gauges.Aligned ∧
          (exporter.cycle moment).1.gauges.catalogue = exporter.gauges.catalogue :=
        updateAll_aligned _ _ h _
      rw [← hCatalogue]
      exact ih hAligned

/-- What belongs to no category is as it was before the cycles. -/
theorem afterCycles_rest (exporter : Exporter) (moments : List Moment) :
    (exporter.afterCycles moments).gauges.part none = exporter.gauges.part none := by
  induction moments generalizing exporter with
  | nil => rfl
  | cons moment moments ih =>
      have hStep : (exporter.cycle moment).1.gauges.part none = exporter.gauges.part none :=
        congrArg Prod.fst (run_rest exporter.config moment exporter.state)
      exact (ih _).trans hStep

section Declared

variable {config : Config} {tree : File.Tree} (hBuild : (build config tree).1 = .ok exporter)
  (moments : List Moment)
include hBuild

/-- An exporter begins with the catalogue of its configuration and with aligned gauges. -/
theorem build_aligned : exporter.gauges.Aligned ∧
    exporter.gauges.catalogue = Catalogue.ofConfig config := by
  obtain ⟨-, fields, hGauges⟩ := exists_build hBuild
  rw [hGauges]
  exact ⟨(Gauges.aligned_ofConfig config).writeAll fun w hw =>
      (Downward.standard_writes fields w hw).aligned,
    (Gauges.catalogue_writeAll ..).trans (Gauges.catalogue_ofConfig config)⟩

/-- Neither metadata nor cycles touch what is declared. -/
theorem value?_resource (resource : Resource) :
    (exporter.afterCycles moments).gauges.value? ⟨.resource resource, []⟩ =
      config.amountShown? resource := by
  obtain ⟨-, fields, hGauges⟩ := exists_build hBuild
  rw [Gauges.value?_eq_of_part (exporter.afterCycles_rest moments), hGauges,
    value?_metadata _ fields (by rintro ⟨⟩), Gauges.value?_ofConfig_resource]

end Declared

/-- After any cycles, whatever they read, the samples of a resource are those of its one series,
under the labels that are set; its value is the declared amount. A resource that is not declared
shows a zero if no label is set and another one is declared, and then only. -/
theorem declared_afterCycles {dialect : Pattern.Dialect} {settings : Config.Settings}
    {config : Config} {tree : File.Tree}
    (hConfig : (Config.ofSettings dialect settings).1 = .ok config)
    (hBuild : (build config tree).1 = .ok exporter) (moments : List Moment) :
    (∀ resource : Resource, Config.amount? resource.setting (settings resource.setting) =
      .ok (config.declared resource)) ∧
    (∀ (resource : Resource) (exposed : Exposed) (x : Float),
      exposed.name = (Catalogue.ofConfig config).metricName (.resource resource) →
      ((exposed, x) ∈ (exporter.afterCycles moments).gauges.samples ↔
        exposed.labels = config.labels.toFinset ∧ config.amountShown? resource = some x)) ∧
    (∀ (resource : Resource) (labels : List (String × String)), (labels.map (·.1)).Nodup →
      Exposition.find? (exporter.afterCycles moments).gauges
          ((Catalogue.ofConfig config).metricName (.resource resource)) labels =
        if labels.toFinset = config.labels.toFinset then config.amountShown? resource else none) ∧
    ((∀ resource, config.amountShown? resource = config.declared resource) ↔
      config.labels ≠ [] ∨ (∀ resource, config.declared resource = none) ∨
        ∀ resource, (config.declared resource).isSome) := by
  obtain ⟨hStart, hCatalogue⟩ := build_aligned hBuild
  obtain ⟨hAligned, hSame⟩ := afterCycles_aligned hStart moments
  rw [hCatalogue] at hSame
  have hSamples (resource : Resource) (exposed : Exposed) (x : Float)
      (hName : exposed.name = (Catalogue.ofConfig config).metricName (.resource resource)) :
      (exposed, x) ∈ (exporter.afterCycles moments).gauges.samples ↔
        exposed.labels = config.labels.toFinset ∧ config.amountShown? resource = some x := by
    -- The full name tells the metric, and the metric of a resource has one series.
    rw [hAligned.mem_samples, hSame, ← value?_resource hBuild moments resource]
    constructor
    · rintro ⟨⟨metric, values⟩, -, hValue, rfl⟩
      obtain rfl : metric = .resource resource :=
        Catalogue.metricName_injective _ hName
      obtain rfl : values = [] := List.length_eq_zero_iff.mp (hAligned.isAligned_of_value? hValue)
      exact ⟨congrArg List.toFinset Catalogue.labelsOf_resource, hValue⟩
    · rintro ⟨hLabels, hValue⟩
      have hMetric : .resource resource ∈ (Catalogue.ofConfig config).metrics := by
        rw [value?_resource hBuild] at hValue
        exact Catalogue.resource_mem_metrics.mpr (Config.isAny_of_amountShown? hValue)
      refine ⟨⟨.resource resource, []⟩, hMetric, hValue, Exposed.ext hName.symm ?_⟩
      rw [hLabels]
      exact congrArg List.toFinset Catalogue.labelsOf_resource
  refine ⟨Config.declared?_eq_ok (Config.isReadFrom_of_ofSettings hConfig).declared, hSamples,
    fun resource labels hLabels => ?_, ?_⟩
  · have hNames : ∀ metric,
        ((exporter.afterCycles moments).gauges.catalogue.labelNames metric).Nodup :=
      hSame ▸ (Config.sound_of_ofSettings hConfig).nodup_labelNames
    refine Option.ext fun x => ?_
    rw [Exposition.find?_eq_some hAligned hNames hLabels, hSamples resource _ x rfl]
    split <;> simp_all
  · exact config.amountShown?_eq_declared_iff

/-- Of the settings that name everything the limit that they declare is shown, and no request. -/
theorem declared_afterCycles_labelledSettings : ∃ config exporter,
    (Config.ofSettings .ascii labelledSettings).1 = .ok config ∧
    (build config File.Tree.empty).1 = .ok exporter ∧
    Exposition.find? (exporter.afterCycles vanishing).gauges "team:app_k8s_cpu_limits_millicores"
      [("_tier", "web"), ("zone", "b")] = some 250.0 ∧
    Exposition.find? (exporter.afterCycles vanishing).gauges "team:app_k8s_cpu_requests_millicores"
      [("_tier", "web"), ("zone", "b")] = none := by
  obtain ⟨config, hConfig, hFacts⟩ : ∃ config,
      (Config.ofSettings .ascii labelledSettings).1 = .ok config ∧
        (((build config File.Tree.empty).1.toOption.map (fun _ => ()), config.labels),
          [Resource.cpuLimits, .cpuRequests].map fun resource =>
            ((Catalogue.ofConfig config).metricName (.resource resource),
              config.amountShown? resource)) =
        ((some (), [("zone", "b"), ("_tier", "web")]),
          [("team:app_k8s_cpu_limits_millicores", some 250.0),
            ("team:app_k8s_cpu_requests_millicores", none)]) :=
    exists_of_toOption_map (by decide +kernel)
  simp only [List.map_cons, List.map_nil, List.cons.injEq, Prod.mk.injEq, and_true] at hFacts
  obtain ⟨⟨hBuilt, hLabels⟩, ⟨hLimits, hLimitsShown⟩, hRequests, hRequestsShown⟩ := hFacts
  obtain ⟨exporter, hBuild, -⟩ := exists_of_toOption_map hBuilt
  obtain ⟨-, -, hFind, -⟩ := declared_afterCycles hConfig hBuild vanishing
  have hSameLabels : [("_tier", "web"), ("zone", "b")].toFinset = config.labels.toFinset := by
    rw [hLabels]
    decide
  have hLimitsFound := hFind .cpuLimits [("_tier", "web"), ("zone", "b")] (by decide)
  have hRequestsFound := hFind .cpuRequests [("_tier", "web"), ("zone", "b")] (by decide)
  rw [hLimits, if_pos hSameLabels, hLimitsShown] at hLimitsFound
  rw [hRequests, if_pos hSameLabels, hRequestsShown] at hRequestsFound
  exact ⟨config, exporter, hConfig, hBuild, hLimitsFound, hRequestsFound⟩

/-- The settings that declare the processor time that a container is promised, and nothing else. -/
def requestsOnly : Config.Settings
  | "CPU_REQUESTS_MILLICORES" => some "250"
  | _ => none

/-- A limit is exported then that nobody declared. -/
theorem undeclared_exported : ∃ config exporter,
    (Config.ofSettings .ascii requestsOnly).1 = .ok config ∧
    (build config File.Tree.empty).1 = .ok exporter ∧ config.declared .cpuLimits = none ∧
    "k8s_cpu_limits_millicores 0.0" ∈ Exposition.sampleLines (exporter.afterCycles []).gauges := by
  obtain ⟨config, hConfig, hFacts⟩ : ∃ config,
      (Config.ofSettings .ascii requestsOnly).1 = .ok config ∧
      (config.declared .cpuLimits, (build config File.Tree.empty).1.toOption.map fun exporter =>
        decide ("k8s_cpu_limits_millicores 0.0" ∈
          Exposition.sampleLines (exporter.afterCycles []).gauges)) = (none, some true) :=
    exists_of_toOption_map (by decide +kernel)
  obtain ⟨hNone, hFound⟩ := Prod.mk.inj hFacts
  obtain ⟨exporter, hBuild, hShown⟩ := exists_of_toOption_map hFound
  exact ⟨config, exporter, hConfig, hBuild, hNone, of_decide_eq_true hShown⟩

end Exporter

end PodGauges
