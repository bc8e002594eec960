import Mathlib.Data.List.Nodup
import PodGauges.Proofs.Config.Accepted
import PodGauges.Proofs.Gauges.Writing
import PodGauges.Registration

/-! The families of an accepted configuration have names by the grammar of the text in which series
are exposed, and are told apart by them. -/
namespace PodGauges

/-- A family with a name of a metric, and with names of labels, each once. -/
structure Family.WellFormed (family : Family) : Prop where
  name : IsMetricName family.name.toList
  labelNames : ∀ label ∈ family.labels, IsLabelName label.toList
  distinctLabels : family.labels.Nodup

/-! ## Names -/

/-- A name behind a name and an underscore is a name again. -/
theorem IsMetricName.append {beginning name : List Char} (hBeginning : IsMetricName beginning)
    (hName : IsMetricName name) : IsMetricName (beginning ++ '_' :: name) := by
  obtain @⟨c, rest, hFirst, hRest⟩ := hBeginning
  obtain @⟨e, others, hNameFirst, hNameRest⟩ := hName
  refine @IsMetricName.intro c (rest ++ '_' :: e :: others) hFirst fun d hd => ?_
  simp only [List.mem_append, List.mem_cons] at hd
  rcases hd with hd | rfl | rfl | hd
  · exact hRest d hd
  · exact .inr (.inl rfl)
  · rcases hNameFirst with h | h | h
    · exact .inl h
    · exact .inr (.inl h)
    · exact .inr (.inr (.inl h))
  · exact hNameRest d hd

/-- All metrics but those of declared resources are always there. -/
theorem Metric.mem_standard {metric : Metric} (h : ∀ declared, metric ≠ .resource declared) :
    metric ∈ standard := by
  cases metric with
  | cgroupCpu stat => cases stat <;> decide
  | cgroupMemory amount => cases amount <;> decide
  | process metric =>
      cases metric with
      | count counter =>
          cases counter with
          | io counter => cases counter <;> decide
          | _ => decide
      | _ => decide
  | hostMemory amount => cases amount <;> decide
  | network counter =>
      obtain ⟨transmitted, traffic⟩ := counter
      cases transmitted <;> cases traffic <;> decide
  | resource declared => exact absurd rfl (h declared)
  | _ => decide

theorem Metric.mem_standard_or_resources (metric : Metric) : metric ∈ standard ++ resources := by
  cases metric with
  | resource declared =>
      refine List.mem_append_right _ (List.mem_map_of_mem ?_)
      cases declared <;> decide
  | _ => exact List.mem_append_left _ (mem_standard (by rintro _ ⟨⟩))

namespace Catalogue

/-- The metrics that any catalogue has are among these. -/
theorem metrics_sublist (catalogue : Catalogue) :
    catalogue.metrics.Sublist (Metric.standard ++ Metric.resources) := by
  unfold metrics
  split
  · exact .refl _
  · rw [List.append_nil]
    exact List.sublist_append_left ..

/-- The name of a metric is by the grammar, whatever it is set behind. -/
theorem isMetricName_name (metric : Metric) : IsMetricName metric.name.toList := by
  have hAll : (Metric.standard ++ Metric.resources).all
      fun metric => Config.isMetricName metric.name.toList := by decide +kernel
  exact Config.isMetricName_iff.mp
    (List.all_eq_true.mp hAll metric metric.mem_standard_or_resources)

theorem nodup_names : ((Metric.standard ++ Metric.resources).map Metric.name).Nodup := by
  decide +kernel

theorem name_injective : Function.Injective Metric.name := fun metric other h =>
  List.inj_on_of_nodup_map nodup_names metric.mem_standard_or_resources
    other.mem_standard_or_resources h

theorem toList_metricName (catalogue : Catalogue) (metric : Metric) :
    (catalogue.metricName metric).toList =
      match catalogue.metricPrefix with
      | some beginning => beginning.toList ++ '_' :: metric.name.toList
      | none => metric.name.toList := by
  unfold metricName
  cases catalogue.metricPrefix with
  | none => rfl
  | some beginning =>
      dsimp only
      rw [String.toList_append, String.toList_append, List.append_assoc]
      rfl

/-- Behind one beginning names are told apart as without it. -/
theorem name_eq_of_metricName_eq {catalogue : Catalogue} {metric other : Metric}
    (h : catalogue.metricName metric = catalogue.metricName other) : metric.name = other.name := by
  have hList := congrArg String.toList h
  rw [toList_metricName, toList_metricName] at hList
  cases hPrefix : catalogue.metricPrefix with
  | none =>
      rw [hPrefix] at hList
      exact String.toList_inj.mp hList
  | some beginning =>
      rw [hPrefix] at hList
      exact String.toList_inj.mp (List.cons.inj (List.append_cancel_left hList)).2

/-- A metric is known by its full name under any beginning. -/
theorem metricName_injective (catalogue : Catalogue) :
    Function.Injective catalogue.metricName := fun _ _ h =>
  name_injective (name_eq_of_metricName_eq h)

theorem nodup_metrics (catalogue : Catalogue) : catalogue.metrics.Nodup :=
  (List.Nodup.of_map _ nodup_names).sublist catalogue.metrics_sublist

theorem nodup_metricNames (catalogue : Catalogue) :
    (catalogue.metrics.map catalogue.metricName).Nodup :=
  catalogue.nodup_metrics.map catalogue.metricName_injective

/-! ## Labels -/

/-- The labels of a metric that are not set: the name of the node if it is one about the host, and
those that tell its series apart. -/
def ownLabels (catalogue : Catalogue) (metric : Metric) : List String :=
  (if metric.isHost then catalogue.nodeName.toList.map fun _ => Config.nodeLabel else []) ++
    metric.labels.map Label.name

/-- The labels that are set stand in front of those that are not. -/
theorem labelNames_eq (catalogue : Catalogue) (metric : Metric) :
    catalogue.labelNames metric = catalogue.labels.map (·.1) ++ catalogue.ownLabels metric := by
  unfold labelNames constantLabels ownLabels
  rw [List.map_append, List.append_assoc]
  split
  · rw [List.map_map]
    rfl
  · rfl

/-- A series has no own labels but the name of the node and those of its metric. -/
theorem ownLabels_sublist (catalogue : Catalogue) (metric : Metric) :
    (catalogue.ownLabels metric).Sublist (Config.nodeLabel :: metric.labels.map Label.name) := by
  unfold ownLabels
  split
  · cases catalogue.nodeName with
    | none => exact List.sublist_cons_self ..
    | some name => exact .refl _
  · exact List.sublist_cons_self ..

theorem nodup_ownLabels (catalogue : Catalogue) (metric : Metric) :
    (catalogue.ownLabels metric).Nodup := by
  have hAll : (Config.nodeLabel :: metric.labels.map Label.name).Nodup := by
    cases metric with
    | cgroupMemoryEvents | hostCpu | tcpConnections | downwardInfo => decide
    | _ => exact List.pairwise_singleton ..
  exact hAll.sublist (catalogue.ownLabels_sublist metric)

/-- Labels that may not be set are all those that series use for themselves. -/
theorem mem_seriesLabels_of_mem_ownLabels {catalogue : Catalogue} {metric : Metric} {name : String}
    (h : name ∈ catalogue.ownLabels metric) : name ∈ Config.seriesLabels := by
  have hLabel (label : Label) : label ∈ Label.all := by cases label <;> decide
  rcases List.mem_cons.mp ((catalogue.ownLabels_sublist metric).subset h) with rfl | h
  · exact List.mem_append_right _ (List.mem_singleton_self _)
  · obtain ⟨label, -, rfl⟩ := List.mem_map.mp h
    exact List.mem_append_left _ (List.mem_map_of_mem (hLabel label))

theorem isLabelName_of_mem_seriesLabels {name : String} (h : name ∈ Config.seriesLabels) :
    IsLabelName name.toList := by
  have hAll : Config.seriesLabels.all fun name =>
      Config.isLabelName name.toList && !List.isPrefixOf ['_', '_'] name.toList := by decide +kernel
  obtain ⟨hName, hFree⟩ := Bool.and_eq_true_iff.mp (List.all_eq_true.mp hAll name h)
  refine Config.isLabelName_iff.mp ⟨hName, ?_⟩
  simpa only [Bool.not_eq_true', Bool.not_eq_true] using hFree

/-- A metric without any label has none that tell series apart. -/
theorem labels_of_isBare {catalogue : Catalogue} {metric : Metric} (h : catalogue.isBare metric) :
    metric.labels = [] := by
  simp only [isBare, labelNames, List.isEmpty_iff, List.append_eq_nil_iff, List.map_eq_nil_iff] at h
  exact h.2

end Catalogue

/-! ## Families -/

namespace Config.Sound

variable {config : Config} (h : config.Sound)
include h

/-- A beginning that is accepted makes a name of every metric. -/
theorem isMetricName (metric : Metric) :
    IsMetricName ((Catalogue.ofConfig config).metricName metric).toList := by
  have hName : IsMetricName metric.name.toList := Catalogue.isMetricName_name metric
  rw [Catalogue.toList_metricName]
  cases hPrefix : (Catalogue.ofConfig config).metricPrefix with
  | none => exact hName
  | some beginning => exact (h.beginning beginning hPrefix).1.append hName

/-- What is set as a label, and what a series has of its own, is the name of a label. -/
theorem isLabelName {metric : Metric} {name : String}
    (hName : name ∈ (Catalogue.ofConfig config).labelNames metric) : IsLabelName name.toList := by
  rw [Catalogue.labelNames_eq] at hName
  rcases List.mem_append.mp hName with hName | hName
  · exact (h.labelNames name hName).1
  · exact Catalogue.isLabelName_of_mem_seriesLabels
      (Catalogue.mem_seriesLabels_of_mem_ownLabels hName)

/-- What is set takes no name from a label that a series has of its own. -/
theorem nodup_labelNames (metric : Metric) :
    ((Catalogue.ofConfig config).labelNames metric).Nodup := by
  rw [Catalogue.labelNames_eq]
  refine List.nodup_append.mpr ⟨h.distinctLabels, Catalogue.nodup_ownLabels _ metric, ?_⟩
  rintro name hSet _ hOwn rfl
  exact (h.labelNames name hSet).2 (Catalogue.mem_seriesLabels_of_mem_ownLabels hOwn)

theorem wellFormed {family : Family} (hFamily : family ∈ (Catalogue.ofConfig config).families) :
    family.WellFormed := by
  obtain ⟨metric, -, rfl⟩ := List.mem_map.mp hFamily
  exact ⟨h.isMetricName metric, fun _ => h.isLabelName, h.nodup_labelNames metric⟩

end Config.Sound

/-- No two families share a name, whatever the configuration is. -/
theorem Catalogue.nodup_familyNames (catalogue : Catalogue) :
    (catalogue.families.map (·.name)).Nodup := by
  rw [families, List.map_map]
  exact catalogue.nodup_metricNames

/-- The gauges keep the catalogue of their configuration. -/
theorem Gauges.catalogue_ofConfig (config : Config) :
    (Gauges.ofConfig config).catalogue = Catalogue.ofConfig config :=
  ofConfig_induction (·.catalogue = _) config rfl fun _ _ _ h => h

/-- The names of the labels are those that are set, then that of the node if there is one and the
metric is about the host, then those that tell the series apart. -/
theorem Catalogue.labelNames_ofConfig (config : Config) (metric : Metric) :
    (ofConfig config).labelNames metric = config.labels.map (·.1) ++
      (if metric.isHost ∧ config.nodeName.isSome then ["node_name"] else []) ++
      metric.labels.map Label.name := by
  rw [labelNames_eq, ownLabels, ← List.append_assoc]
  cases hNode : config.nodeName <;> cases hHost : metric.isHost <;>
    simp [ofConfig, Config.nodeLabel, hNode]

/-- Settings that are accepted give gauges whose families are well formed and have names of their
own. A family has the labels that are set, then that of the node if the family is about the host,
then its own. The beginning of the names does not end in an underscore and is taken as it is;
process numbers, port and interval are in range. -/
theorem Gauges.wellFormed_of_accepted {dialect : Pattern.Dialect} {settings : Config.Settings}
    {config : Config} (h : (Config.ofSettings dialect settings).1 = .ok config) :
    (Gauges.ofConfig config).catalogue.families =
      (Metric.standard ++ if config.declared.isAny then Metric.resources else []).map (fun metric =>
        { name := (Catalogue.ofConfig config).metricName metric
          help := metric.help
          labels := config.labels.map (·.1) ++
            (if metric.isHost ∧ config.nodeName.isSome then ["node_name"] else []) ++
            metric.labels.map Label.name }) ∧
    (∀ family ∈ (Gauges.ofConfig config).catalogue.families, family.WellFormed) ∧
    ((Gauges.ofConfig config).catalogue.families.map (·.name)).Nodup ∧
    (∀ beginning, config.metricPrefix = some beginning →
      beginning.toList.getLast? ≠ some '_' ∧
        Config.prefixOfText beginning.toList = .ok (some beginning.toList)) ∧
    (∀ target, config.target = some target → ∀ pid ∈ target.named, 0 < pid) ∧
    config.listen.port ≤ 65535 ∧ 1 ≤ config.interval := by
  have hSound := Config.sound_of_ofSettings h
  rw [Gauges.catalogue_ofConfig]
  have hFamily (metric : Metric) := Catalogue.labelNames_ofConfig config metric
  exact ⟨List.map_congr_left fun metric _ => congrArg (Family.mk _ _) (hFamily metric),
    fun _ => hSound.wellFormed, Catalogue.nodup_familyNames _,
    fun beginning hBeginning => (hSound.beginning beginning hBeginning).2, hSound.pids,
    hSound.port, hSound.interval⟩

/-- Settings that name everything there is to name. -/
def labelledSettings : Config.Settings
  | "METRICS_PREFIX" => some " team:app__ "
  | "METRICS_STATIC_LABELS" => some "zone=a, _tier = web ,zone=b"
  | "NODE_NAME" => some "node-1"
  | "TARGET_PIDS" => some "1, 20"
  | "CPU_LIMITS_MILLICORES" => some "250"
  | "METRICS_UPDATE_INTERVAL_SECS" => some "0"
  | _ => none

/-- They are accepted, with families that the host names too. -/
theorem Gauges.wellFormed_of_labelledSettings : ∃ config,
    (Config.ofSettings .ascii labelledSettings).1 = .ok config ∧
    config.metricPrefix = some "team:app" ∧ config.labels = [("zone", "b"), ("_tier", "web")] ∧
    (∀ family ∈ (Gauges.ofConfig config).catalogue.families, family.WellFormed) ∧
    ((Gauges.ofConfig config).catalogue.families.map (·.name)).Nodup := by
  obtain ⟨config, hConfig, hNamed⟩ : ∃ config,
      (Config.ofSettings .ascii labelledSettings).1 = .ok config ∧
        (config.metricPrefix, config.labels) =
          (some "team:app", [("zone", "b"), ("_tier", "web")]) :=
    exists_of_toOption_map (by decide +kernel)
  obtain ⟨hPrefix, hLabels⟩ := Prod.mk.inj hNamed
  obtain ⟨-, hFamilies, hNames, -⟩ := Gauges.wellFormed_of_accepted hConfig
  exact ⟨config, hConfig, hPrefix, hLabels, hFamilies, hNames⟩

end PodGauges
