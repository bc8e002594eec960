import Mathlib.Data.Finset.Dedup
import Mathlib.Data.List.Perm.Basic
import Mathlib.Data.String.Basic
import PodGauges.Exposition
import PodGauges.Proofs.Gauges.Aligned

/-! Under which names and labels series are exported. In a catalogue that gives each metric labels
of different names, series are told apart by them, so that no sample stands in for another one. -/
namespace PodGauges

/-- The name and the labels of an exported series; the labels have no order. -/
@[ext]
structure Exposed where
  name : String
  labels : Finset (String × String)

instance : DecidableEq Exposed := fun exposed other =>
  decidable_of_iff (exposed.name = other.name ∧ exposed.labels = other.labels)
    Exposed.ext_iff.symm

/-! ## Labels -/

/-- Values under the same names, which differ from each other, are the same if they are so as a
set. -/
theorem eq_of_toFinset_eq {κ ν : Type} [DecidableEq κ] [DecidableEq ν] {table other : List (κ × ν)}
    (hNames : table.map (·.1) = other.map (·.1)) (hNodup : (table.map (·.1)).Nodup)
    (h : table.toFinset = other.toFinset) : table = other := by
  have hMem : ∀ entry ∈ table, entry ∈ other := fun entry hEntry =>
    List.mem_toFinset.mp (h ▸ List.mem_toFinset.mpr hEntry)
  clear h
  induction table generalizing other with
  | nil => exact (List.map_eq_nil_iff.mp hNames.symm).symm
  | cons entry table ih =>
      obtain ⟨first, rest, rfl, hFirst, hRest⟩ := List.map_eq_cons_iff.mp hNames.symm
      obtain ⟨hFresh, hNodup⟩ := List.nodup_cons.mp hNodup
      have hHead : entry = first := by
        rcases List.mem_cons.mp (hMem entry (List.mem_cons_self ..)) with hSame | hLater
        · exact hSame
        · exact absurd (hRest ▸ List.mem_map_of_mem hLater) hFresh
      subst hHead
      refine congrArg (entry :: ·) (ih hRest.symm hNodup fun later hLater => ?_)
      rcases List.mem_cons.mp (hMem later (List.mem_cons_of_mem _ hLater)) with rfl | hOther
      · exact absurd (List.mem_map_of_mem hLater) hFresh
      · exact hOther

namespace Catalogue

variable {catalogue : Catalogue}

/-- The name and the labels of a series. -/
def exposed (catalogue : Catalogue) (series : Series) : Exposed where
  name := catalogue.metricName series.metric
  labels := (catalogue.labelsOf series).toFinset

/-- The names of the labels of a series are those of its family. -/
theorem map_fst_labelsOf (catalogue : Catalogue) {series : Series} (h : series.IsAligned) :
    (catalogue.labelsOf series).map (·.1) = catalogue.labelNames series.metric := by
  have hLength : (series.metric.labels.map Label.name).length ≤ series.values.length := by
    rw [List.length_map, h]
  rw [labelsOf, labelNames, List.map_append, List.map_fst_zip hLength]

theorem nodup_labelsOf (hNames : ∀ metric, (catalogue.labelNames metric).Nodup) {series : Series}
    (h : series.IsAligned) : ((catalogue.labelsOf series).map (·.1)).Nodup := by
  rw [catalogue.map_fst_labelsOf h]
  exact hNames series.metric

/-- Series have a name or a label by which they differ. -/
theorem exposed_injective (hNames : ∀ metric, (catalogue.labelNames metric).Nodup)
    {series other : Series} (hSeries : series.IsAligned) (hOther : other.IsAligned)
    (h : catalogue.exposed series = catalogue.exposed other) : series = other := by
  obtain ⟨hName, hLabels⟩ := Exposed.mk.inj h
  obtain ⟨metric, values⟩ := series
  obtain ⟨otherMetric, otherValues⟩ := other
  have hMetric : metric = otherMetric := catalogue.metricName_injective hName
  subst hMetric
  -- the set forgets the order of the labels, but the names bring it back
  have hTable := eq_of_toFinset_eq
    ((catalogue.map_fst_labelsOf hSeries).trans (catalogue.map_fst_labelsOf hOther).symm)
    (nodup_labelsOf hNames hSeries) hLabels
  have hZip := congrArg (List.map (·.2)) (List.append_cancel_left hTable)
  rw [List.map_snd_zip (by rw [List.length_map]; exact hSeries.le),
    List.map_snd_zip (by rw [List.length_map]; exact hOther.le)] at hZip
  exact congrArg (Series.mk metric) hZip

end Catalogue

/-! ## Samples -/

namespace Gauges

variable {gauges : Gauges}

/-- The series that are exported, with their values, in the order of export. -/
def exported (gauges : Gauges) : List (Series × Float) :=
  gauges.catalogue.metrics.flatMap (Exposition.seriesOf gauges)

/-- What is exported, each value under a name and labels. -/
def samples (gauges : Gauges) : List (Exposed × Float) :=
  gauges.exported.map fun (series, x) => (gauges.catalogue.exposed series, x)

/-- A series is exported with its value just if its metric is in the catalogue. -/
theorem Aligned.mem_exported (h : gauges.Aligned) {series : Series} {x : Float} :
    (series, x) ∈ gauges.exported ↔
      series.metric ∈ gauges.catalogue.metrics ∧ gauges.value? series = some x := by
  have hValue : (series, x) ∈ gauges.values ↔ gauges.value? series = some x :=
    h.distinct.mem_iff series x
  simp only [exported, List.mem_flatMap, Exposition.seriesOf, List.mem_filter, decide_eq_true_eq]
  constructor
  · rintro ⟨metric, hMetric, hEntry, rfl⟩
    exact ⟨hMetric, hValue.mp hEntry⟩
  · rintro ⟨hMetric, hEntry⟩
    exact ⟨_, hMetric, hValue.mpr hEntry, rfl⟩

/-- A series that has a value is aligned. -/
theorem Aligned.isAligned_of_value? (h : gauges.Aligned) {series : Series} {x : Float}
    (hValue : gauges.value? series = some x) : series.IsAligned :=
  h.series series (List.mem_map_of_mem ((h.distinct.mem_iff series x).mpr hValue))

theorem Aligned.isAligned_of_exported (h : gauges.Aligned) {entry : Series × Float}
    (hEntry : entry ∈ gauges.exported) : entry.1.IsAligned :=
  h.isAligned_of_value? (h.mem_exported.mp hEntry).2

theorem Aligned.nodup_exported (h : gauges.Aligned) : (gauges.exported.map (·.1)).Nodup := by
  have hEntries : gauges.exported.Nodup := by
    refine List.nodup_flatMap.mpr
      ⟨fun metric _ => (List.Nodup.of_map _ h.distinct).filter _,
        gauges.catalogue.nodup_metrics.imp ?_⟩
    intro metric other hDiffer entry hHere hThere
    have hMetric : entry.1.metric = metric := by simpa using (List.mem_filter.mp hHere).2
    have hOther : entry.1.metric = other := by simpa using (List.mem_filter.mp hThere).2
    exact hDiffer (hMetric.symm.trans hOther)
  refine hEntries.map_on ?_
  rintro ⟨series, x⟩ hHere ⟨_, y⟩ hThere rfl
  obtain ⟨-, hx⟩ := h.mem_exported.mp hHere
  obtain ⟨-, hy⟩ := h.mem_exported.mp hThere
  rw [Option.some.inj (hx.symm.trans hy)]

/-- A sample is what a series of the catalogue shows. -/
theorem Aligned.mem_samples (h : gauges.Aligned) {exposed : Exposed} {x : Float} :
    (exposed, x) ∈ gauges.samples ↔ ∃ series : Series,
      series.metric ∈ gauges.catalogue.metrics ∧ gauges.value? series = some x ∧
        gauges.catalogue.exposed series = exposed := by
  constructor
  · intro hSample
    obtain ⟨⟨series, y⟩, hEntry, hPair⟩ := List.mem_map.mp hSample
    obtain ⟨rfl, rfl⟩ := Prod.mk.inj hPair
    obtain ⟨hMetric, hValue⟩ := h.mem_exported.mp hEntry
    exact ⟨series, hMetric, hValue, rfl⟩
  · rintro ⟨series, hMetric, hValue, rfl⟩
    exact List.mem_map.mpr ⟨(series, x), h.mem_exported.mpr ⟨hMetric, hValue⟩, rfl⟩

/-- No two samples have the same name and labels. -/
theorem Aligned.nodup_samples (h : gauges.Aligned)
    (hNames : ∀ metric, (gauges.catalogue.labelNames metric).Nodup) :
    (gauges.samples.map (·.1)).Nodup := by
  have hMap : gauges.samples.map (·.1) =
      (gauges.exported.map (·.1)).map gauges.catalogue.exposed := by
    rw [samples, List.map_map, List.map_map]
    rfl
  rw [hMap]
  refine h.nodup_exported.map_on fun series hSeries other hOther hSame => ?_
  obtain ⟨entry, hEntry, rfl⟩ := List.mem_map.mp hSeries
  obtain ⟨otherEntry, hOtherEntry, rfl⟩ := List.mem_map.mp hOther
  exact Catalogue.exposed_injective hNames (h.isAligned_of_exported hEntry)
    (h.isAligned_of_exported hOtherEntry) hSame

end Gauges

/-! ## Look-up -/

namespace Exposition

theorem sorted_perm (labels : List (String × String)) : (sorted labels).Perm labels :=
  List.mergeSort_perm ..

/-- Labels are exposed in the order of their names. -/
theorem pairwise_sorted (labels : List (String × String)) :
    (sorted labels).Pairwise fun a b => decide (a.1 ≤ b.1) = true := by
  refine List.pairwise_mergeSort ?_ ?_ labels
  · intro a b c hab hbc
    exact decide_eq_true (le_trans (of_decide_eq_true hab) (of_decide_eq_true hbc))
  · intro a b
    simpa using le_total a.1 b.1

/-- Labels of different names are sorted in one way only. -/
theorem sorted_eq_iff {labels others : List (String × String)} (hLabels : (labels.map (·.1)).Nodup)
    (hOthers : (others.map (·.1)).Nodup) :
    sorted labels = sorted others ↔ labels.toFinset = others.toFinset := by
  constructor
  · intro h
    have hPerm : labels.Perm others :=
      (sorted_perm labels).symm.trans (h.symm ▸ sorted_perm others)
    exact List.toFinset_eq_of_perm _ _ hPerm
  · intro h
    have hPerm : labels.Perm others :=
      List.perm_of_nodup_nodup_toFinset_eq (.of_map _ hLabels) (.of_map _ hOthers) h
    refine List.Perm.eq_of_pairwise ?_ (pairwise_sorted labels) (pairwise_sorted others)
      ((sorted_perm labels).trans (hPerm.trans (sorted_perm others).symm))
    intro a b ha hb hab hba
    have hName : a.1 = b.1 := le_antisymm (of_decide_eq_true hab) (of_decide_eq_true hba)
    have haMem : a ∈ others := hPerm.mem_iff.mp ((sorted_perm labels).mem_iff.mp ha)
    have hbMem : b ∈ others := (sorted_perm others).mem_iff.mp hb
    exact List.inj_on_of_nodup_map hOthers haMem hbMem hName

/-- What is found under a name and labels is the value of the sample that has them. -/
theorem find?_eq_some {gauges : Gauges} (h : gauges.Aligned)
    (hNames : ∀ metric, (gauges.catalogue.labelNames metric).Nodup) {name : String}
    {labels : List (String × String)} (hLabels : (labels.map (·.1)).Nodup) {x : Float} :
    find? gauges name labels = some x ↔ (⟨name, labels.toFinset⟩, x) ∈ gauges.samples := by
  have hMatch {entry : Series × Float} (hEntry : entry ∈ gauges.exported) :
      (gauges.catalogue.metricName entry.1.metric = name ∧
        sorted (gauges.catalogue.labelsOf entry.1) = sorted labels) ↔
      gauges.catalogue.exposed entry.1 = ⟨name, labels.toFinset⟩ := by
    have hNodup := Catalogue.nodup_labelsOf hNames (h.isAligned_of_exported hEntry)
    rw [sorted_eq_iff hNodup hLabels, Catalogue.exposed, Exposed.mk.injEq]
  have hSample {y : Float} (hFound : find? gauges name labels = some y) :
      (⟨name, labels.toFinset⟩, y) ∈ gauges.samples := by
    obtain ⟨entry, hEntry, hHit⟩ := List.exists_of_findSome?_eq_some hFound
    dsimp only at hHit
    split at hHit
    · next hSame =>
        cases hHit
        exact List.mem_map.mpr ⟨entry, hEntry, Prod.ext ((hMatch hEntry).mp hSame) rfl⟩
    · cases hHit
  refine ⟨hSample, fun hMem => ?_⟩
  cases hFound : find? gauges name labels with
  | none =>
      obtain ⟨entry, hEntry, hPair⟩ := List.mem_map.mp hMem
      have hMiss := List.findSome?_eq_none_iff.mp hFound entry hEntry
      dsimp only at hMiss
      rw [if_pos ((hMatch hEntry).mpr (congrArg Prod.fst hPair))] at hMiss
      cases hMiss
  | some y =>
      -- the first match is the only one
      have hPair := List.inj_on_of_nodup_map (h.nodup_samples hNames) (hSample hFound) hMem rfl
      exact congrArg (some ·.2) hPair

/-- A series that has a value is found under its own name and labels. -/
theorem find?_of_value? {gauges : Gauges} (h : gauges.Aligned)
    (hNames : ∀ metric, (gauges.catalogue.labelNames metric).Nodup) {series : Series}
    (hMetric : series.metric ∈ gauges.catalogue.metrics) {x : Float}
    (hValue : gauges.value? series = some x) :
    find? gauges (gauges.catalogue.metricName series.metric) (gauges.catalogue.labelsOf series) =
      some x := by
  have hLabels := Catalogue.nodup_labelsOf hNames (h.isAligned_of_value? hValue)
  exact (find?_eq_some h hNames hLabels).mpr (h.mem_samples.mpr ⟨series, hMetric, hValue, rfl⟩)

end Exposition

end PodGauges
