import Mathlib.Data.List.Nodup
import PodGauges.Gauges.Writes
import PodGauges.Proofs.Catalogue

/-! Gauges whose series have one value for each label of their metric. What is written for snapshots
keeps them so, and no write changes the catalogue. -/
namespace PodGauges

/-- A series has a value for each of the labels that tell the series of its metric apart. -/
def Series.IsAligned (series : Series) : Prop :=
  series.values.length = series.metric.labels.length

/-- A series that is exported under every configuration, with a value for each of its labels. -/
structure Series.IsStandard (series : Series) : Prop where
  aligned : series.IsAligned
  standard : series.metric ∈ Metric.standard

/-- Each series is kept once, and with as many values as it has labels. -/
structure Gauges.Aligned (gauges : Gauges) : Prop where
  series : ∀ series ∈ gauges.values.map (·.1), series.IsAligned
  distinct : gauges.values.Distinct

namespace Gauges

/-! ## The catalogue -/

/-- A write leaves the catalogue. -/
theorem catalogue_write (gauges : Gauges) (w : Write) :
    (gauges.write w).1.catalogue = gauges.catalogue := by
  unfold write
  split
  · rfl
  · dsimp only
    split
    · unfold mark
      split <;> rfl
    · rfl

theorem catalogue_writeAll (gauges : Gauges) (writes : List Write) :
    (gauges.writeAll writes).1.catalogue = gauges.catalogue := by
  induction writes generalizing gauges with
  | nil => rfl
  | cons w rest ih =>
      cases hError : w.error? with
      | none => rw [writeAll_cons_of_ok hError, ih, catalogue_write]
      | some error => rw [writeAll_cons_of_error hError, catalogue_write]

/-! ## Alignment -/

namespace Aligned

variable {gauges : Gauges} (h : gauges.Aligned)
include h

/-- An aligned series can be put into aligned gauges. -/
theorem put {series : Series} (hSeries : series.IsAligned) (x : Float) :
    (gauges.put series x).Aligned where
  series other hOther := by
    rcases (Keyed.mem_keys_put gauges.values series other x).mp hOther with rfl | hOther
    · exact hSeries
    · exact h.series other hOther
  distinct := h.distinct.put series x

/-- It can be marked there, too, which gives it a zero if it has no value. -/
theorem mark {series : Series} (hSeries : series.IsAligned) : (gauges.mark series).Aligned := by
  unfold Gauges.mark
  split
  · exact h
  · exact h.put hSeries 0.0

/-- A write to an aligned series keeps the gauges aligned, even if its value is out of range. -/
theorem write {w : Write} (hSeries : w.series.IsAligned) : (gauges.write w).1.Aligned := by
  unfold Gauges.write
  split
  · exact h.put hSeries _
  · dsimp only
    split
    · exact h.mark hSeries
    · exact h

/-- Writes to aligned series keep the gauges aligned, wherever they break off. -/
theorem writeAll {writes : List Write} (hSeries : ∀ w ∈ writes, w.series.IsAligned) :
    (gauges.writeAll writes).1.Aligned := by
  induction writes generalizing gauges with
  | nil => exact h
  | cons w rest ih =>
      have hStep : (gauges.write w).1.Aligned := h.write (hSeries w (List.mem_cons_self ..))
      cases hError : w.error? with
      | none =>
          rw [writeAll_cons_of_ok hError]
          exact ih hStep fun v hv => hSeries v (List.mem_cons_of_mem _ hv)
      | some error =>
          rw [writeAll_cons_of_error hError]
          exact hStep

end Aligned

theorem aligned_ofCatalogue (catalogue : Catalogue) : (ofCatalogue catalogue).Aligned where
  series series hSeries := by
    obtain ⟨_, hEntry, rfl⟩ := List.mem_map.mp hSeries
    obtain ⟨metric, hMetric, rfl⟩ := List.mem_map.mp hEntry
    have hBare : metric.labels = [] := Catalogue.labels_of_isBare (List.mem_filter.mp hMetric).2
    simp [Series.IsAligned, hBare]
  distinct := by
    rw [Keyed.Distinct, ofCatalogue, List.map_map]
    exact List.Nodup.map (fun _ _ hSame => congrArg Series.metric hSame)
      (catalogue.nodup_metrics.filter _)

/-- The gauges of a configuration begin aligned. -/
theorem aligned_ofConfig (config : Config) : (ofConfig config).Aligned :=
  ofConfig_induction Aligned config (aligned_ofCatalogue _) fun _ _ x h => h.put (by rfl) x

end Gauges

/-! ## Snapshots -/

theorem Cgroup.Snapshot.standard_writes (snapshot : Cgroup.Snapshot) :
    ∀ w ∈ snapshot.writes, w.series.IsStandard := by
  intro w hw
  simp only [writes, List.mem_append, List.mem_filterMap, Option.map_eq_some_iff,
    Option.mem_toList, List.mem_map] at hw
  rcases hw with ((⟨_, -, _, -, rfl⟩ | ⟨_, -, rfl⟩) | ⟨_, -, _, -, rfl⟩) | ⟨_, -, rfl⟩ <;>
    exact ⟨rfl, Metric.mem_standard (by rintro _ ⟨⟩)⟩

theorem Processes.Aggregate.standard_writes (sample : Processes.Aggregate) :
    ∀ w ∈ sample.writes, w.series.IsStandard := by
  intro w hw
  obtain ⟨metric, -, hw⟩ := List.mem_filterMap.mp hw
  obtain ⟨q, -, rfl⟩ := Option.map_eq_some_iff.mp hw
  exact ⟨rfl, Metric.mem_standard (by rintro _ ⟨⟩)⟩

theorem Host.Snapshot.standard_writes (snapshot : Host.Snapshot) :
    ∀ w ∈ snapshot.writes, w.series.IsStandard := by
  intro w hw
  simp only [writes, List.mem_append, List.mem_flatMap, List.mem_map, List.mem_filterMap,
    Option.map_eq_some_iff] at hw
  rcases hw with ⟨_, -, _, -, rfl⟩ | ⟨_, -, _, -, rfl⟩ <;>
    exact ⟨rfl, Metric.mem_standard (by rintro _ ⟨⟩)⟩

theorem Network.Snapshot.standard_writes (snapshot : Network.Snapshot) :
    ∀ w ∈ snapshot.writes, w.series.IsStandard := by
  intro w hw
  obtain ⟨counter, -, hw⟩ := List.mem_filterMap.mp hw
  obtain ⟨n, -, rfl⟩ := Option.map_eq_some_iff.mp hw
  exact ⟨rfl, Metric.mem_standard (by rintro _ ⟨⟩)⟩

theorem Network.standard_connectionWrites (table : Network.ConnectionTable) :
    ∀ w ∈ Network.connectionWrites table, w.series.IsStandard := by
  intro w hw
  obtain ⟨entry, -, rfl⟩ := List.mem_map.mp hw
  exact ⟨rfl, Metric.mem_standard (by rintro _ ⟨⟩)⟩

theorem Downward.standard_writes (fields : List Downward.Field) :
    ∀ w ∈ Downward.writes fields, w.series.IsStandard := by
  intro w hw
  obtain ⟨field, -, rfl⟩ := List.mem_map.mp hw
  exact ⟨rfl, Metric.mem_standard (by rintro _ ⟨⟩)⟩

end PodGauges
