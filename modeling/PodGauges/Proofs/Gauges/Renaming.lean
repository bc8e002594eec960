import Mathlib.Data.Finset.Option
import PodGauges.Proofs.Config.Accepted
import PodGauges.Proofs.Exposition

/-! A configured beginning, set labels and the name of the node rename series and do nothing else.
The same snapshots are written to the gauges of a configuration and to those of no settings; what
was written is then exported under one map of names and labels. -/
namespace PodGauges

open Number

/-! ## Calls -/

/-- What is written at once: a snapshot, a table of connections, or the metadata. An interface that
is not there gives nothing to write. -/
inductive Call where
  | cgroup (snapshot : Cgroup.Snapshot)
  | processes (sample : Processes.Aggregate)
  | host (snapshot : Host.Snapshot)
  | network (snapshot : Option Network.Snapshot)
  | connections (table : Network.ConnectionTable)
  | metadata (fields : List Downward.Field)

namespace Call

def writes : Call → List Write
  | .cgroup snapshot => snapshot.writes
  | .processes sample => sample.writes
  | .host snapshot => snapshot.writes
  | .network snapshot => (snapshot.map (·.writes)).getD []
  | .connections table => Network.connectionWrites table
  | .metadata fields => Downward.writes fields

/-- The series that a call writes. -/
def series (call : Call) : List Series := call.writes.map (·.series)

/-- Why a call fails, if it does. -/
def error? (call : Call) : Option RangeError := call.writes.findSome? Write.error?

theorem standard_writes (call : Call) : ∀ w ∈ call.writes, w.series.IsStandard := by
  cases call with
  | cgroup snapshot => exact snapshot.standard_writes
  | processes sample => exact sample.standard_writes
  | host snapshot => exact snapshot.standard_writes
  | network snapshot =>
      cases snapshot with
      | none => exact fun _ hw => absurd hw List.not_mem_nil
      | some snapshot => exact snapshot.standard_writes
  | connections table => exact Network.standard_connectionWrites table
  | metadata fields => exact Downward.standard_writes fields

/-- What calls have written is standard. -/
theorem isStandard_of_mem_series {calls : List Call} {series : Series}
    (h : series ∈ calls.flatMap Call.series) : series.IsStandard := by
  obtain ⟨call, -, hSeries⟩ := List.mem_flatMap.mp h
  obtain ⟨w, hw, rfl⟩ := List.mem_map.mp hSeries
  exact call.standard_writes w hw

end Call

namespace Gauges

/-- The gauges after some calls, unless one of them fails. -/
def afterCalls (gauges : Gauges) : List Call → Except RangeError Gauges
  | [] => .ok gauges
  | call :: rest =>
    match gauges.writeAll call.writes with
    | (gauges, none) => gauges.afterCalls rest
    | (_, some error) => .error error

section AfterCalls

variable {gauges : Gauges} {call : Call} {rest calls : List Call}

/-- A call without a value out of range is written in full, and the rest goes on from there. -/
theorem afterCalls_cons_of_ok (h : call.error? = none) :
    gauges.afterCalls (call :: rest) = (gauges.writeAll call.writes).1.afterCalls rest := by
  have hCall : gauges.writeAll call.writes = ((gauges.writeAll call.writes).1, none) := by
    rw [← h, Call.error?, ← writeAll_error gauges]
  rw [afterCalls, hCall]

theorem afterCalls_cons_of_error {error : RangeError} (h : call.error? = some error) :
    gauges.afterCalls (call :: rest) = .error error := by
  have hCall : gauges.writeAll call.writes =
      ((gauges.writeAll call.writes).1, some error) := by
    rw [← h, Call.error?, ← writeAll_error gauges]
  rw [afterCalls, hCall]

/-- Whether calls fail, and why, does not depend on the gauges. -/
theorem afterCalls_eq_error {error : RangeError} :
    gauges.afterCalls calls = .error error ↔ calls.findSome? Call.error? = some error := by
  induction calls generalizing gauges with
  | nil => exact iff_of_false (by rintro ⟨⟩) (by rintro ⟨⟩)
  | cons call rest ih =>
      cases hError : call.error? with
      | none => rw [afterCalls_cons_of_ok hError, ih, List.findSome?_cons, hError]
      | some other =>
          rw [afterCalls_cons_of_error hError, List.findSome?_cons, hError, Except.error.injEq,
            Option.some.injEq]

/-- Calls keep the gauges aligned, and the catalogue as it is. -/
theorem Aligned.afterCalls (h : gauges.Aligned) {after : Gauges}
    (hCalls : gauges.afterCalls calls = .ok after) :
    after.Aligned ∧ after.catalogue = gauges.catalogue := by
  induction calls generalizing gauges with
  | nil =>
      cases hCalls
      exact ⟨h, rfl⟩
  | cons call rest ih =>
      cases hError : call.error? with
      | none =>
          rw [afterCalls_cons_of_ok hError] at hCalls
          have hStep := h.writeAll fun w hw => (call.standard_writes w hw).aligned
          rw [← gauges.catalogue_writeAll call.writes]
          exact ih hStep hCalls
      | some error =>
          rw [afterCalls_cons_of_error hError] at hCalls
          cases hCalls

end AfterCalls

/-! ## Agreement -/

/-- Two gauges have the same value for each of some series. -/
def AgreeOn (series : List Series) (gauges other : Gauges) : Prop :=
  ∀ s ∈ series, ∃ x, gauges.value? s = some x ∧ other.value? s = some x

namespace AgreeOn

variable {series : List Series} {gauges other : Gauges}

/-- A write that goes through makes the gauges agree on one more series. -/
theorem write (h : AgreeOn series gauges other) {w : Write} (hw : w.error? = none) :
    AgreeOn (series ++ [w.series]) (gauges.write w).1 (other.write w).1 := by
  obtain ⟨x, hx⟩ := Write.error?_eq_none.mp hw
  intro s hs
  rw [write_of_ok hx, write_of_ok hx, value?_put, value?_put]
  by_cases hSeries : s = w.series
  · exact ⟨x, if_pos hSeries, if_pos hSeries⟩
  · rw [if_neg hSeries, if_neg hSeries]
    exact h s ((List.mem_append.mp hs).resolve_right (mt List.mem_singleton.mp hSeries))

/-- Gauges that agree on some series also agree on those that are written to both. -/
theorem writeAll (h : AgreeOn series gauges other) {writes : List Write}
    (hWrites : writes.findSome? Write.error? = none) :
    AgreeOn (series ++ writes.map (·.series)) (gauges.writeAll writes).1
      (other.writeAll writes).1 := by
  induction writes generalizing series gauges other with
  | nil =>
      rw [List.map_nil, List.append_nil]
      exact h
  | cons w rest ih =>
      obtain ⟨hw, hRest⟩ : w.error? = none ∧ rest.findSome? Write.error? = none := by
        simpa using hWrites
      rw [writeAll_cons_of_ok hw, writeAll_cons_of_ok hw, List.map_cons, List.append_cons]
      exact ih (h.write hw) hRest

/-- Gauges that begin alike agree on all that the same calls have written. -/
theorem afterCalls (h : AgreeOn series gauges other) {calls : List Call} {after otherAfter : Gauges}
    (hCalls : gauges.afterCalls calls = .ok after)
    (hOther : other.afterCalls calls = .ok otherAfter) :
    AgreeOn (series ++ calls.flatMap Call.series) after otherAfter := by
  induction calls generalizing series gauges other with
  | nil =>
      cases hCalls
      cases hOther
      rw [List.flatMap_nil, List.append_nil]
      exact h
  | cons call rest ih =>
      cases hError : call.error? with
      | none =>
          rw [afterCalls_cons_of_ok hError] at hCalls hOther
          rw [List.flatMap_cons, ← List.append_assoc]
          exact ih (h.writeAll hError) hCalls hOther
      | some error =>
          rw [afterCalls_cons_of_error hError] at hCalls
          cases hCalls

end AgreeOn

end Gauges

/-! ## Renaming -/

namespace Catalogue

/-- The catalogue if nothing is set. -/
def plain : Catalogue := ofConfig Config.plain

/-- The names of the families about the host, without the configured beginning. -/
def hostNames : List String := (Metric.standard.filter Metric.isHost).map Metric.name

/-- The map of names and labels that a catalogue stands for: the beginning in front of the name, and
the set labels beside the others, with the name of the node for families about the host only. -/
def renamed (catalogue : Catalogue) (exposed : Exposed) : Exposed where
  name :=
    match catalogue.metricPrefix with
    | some beginning => s!"{beginning}_{exposed.name}"
    | none => exposed.name
  labels := exposed.labels ∪ catalogue.labels.toFinset ∪
    if exposed.name ∈ hostNames then (catalogue.nodeName.map (Config.nodeLabel, ·)).toFinset else ∅

/-- A metric is about the host just if it is named as one. -/
theorem mem_hostNames {metric : Metric} : metric.name ∈ hostNames ↔ metric.isHost = true := by
  constructor
  · intro h
    obtain ⟨other, hOther, hName⟩ := List.mem_map.mp h
    rw [← name_injective hName]
    exact (List.mem_filter.mp hOther).2
  · intro h
    have hStandard : metric ∈ Metric.standard := Metric.mem_standard (by rintro _ rfl; cases h)
    exact List.mem_map_of_mem (List.mem_filter.mpr ⟨hStandard, h⟩)

/-- Every series has the image of the name and the labels that it has if nothing is set. -/
theorem exposed_eq_renamed (catalogue : Catalogue) (series : Series) :
    catalogue.exposed series = catalogue.renamed (plain.exposed series) := by
  have hHost : (plain.exposed series).name ∈ hostNames ↔ series.metric.isHost = true :=
    mem_hostNames
  have hConstant : (catalogue.constantLabels series.metric).toFinset = catalogue.labels.toFinset ∪
      if (plain.exposed series).name ∈ hostNames then
        (catalogue.nodeName.map (Config.nodeLabel, ·)).toFinset else ∅ := by
    simp only [constantLabels, List.toFinset_append, hHost]
    split
    · cases catalogue.nodeName <;> rfl
    · rfl
  have hPlain : (plain.constantLabels series.metric).toFinset = ∅ := by
    cases hMetric : series.metric.isHost <;>
      simp [plain, ofConfig, Config.plain, constantLabels, hMetric]
  refine Exposed.ext rfl ?_
  simp only [exposed, renamed, labelsOf, List.toFinset_append, hConstant, hPlain,
    Finset.empty_union]
  rw [Finset.union_comm, Finset.union_assoc]

end Catalogue

namespace Gauges

/-- The samples of the series that some calls write. -/
def writtenSamples (gauges : Gauges) (calls : List Call) : List (Exposed × Float) :=
  (gauges.exported.filter fun entry => entry.1 ∈ calls.flatMap Call.series).map
    fun (series, x) => (gauges.catalogue.exposed series, x)

section WrittenSamples

variable {gauges : Gauges} {calls : List Call}

/-- The samples of written series are what these show. -/
theorem Aligned.mem_writtenSamples (h : gauges.Aligned) {exposed : Exposed} {x : Float} :
    (exposed, x) ∈ gauges.writtenSamples calls ↔ ∃ series ∈ calls.flatMap Call.series,
      gauges.value? series = some x ∧ gauges.catalogue.exposed series = exposed := by
  constructor
  · intro hSample
    obtain ⟨⟨series, y⟩, hEntry, hPair⟩ := List.mem_map.mp hSample
    obtain ⟨hExported, hWritten⟩ := List.mem_filter.mp hEntry
    obtain ⟨rfl, rfl⟩ := Prod.mk.inj hPair
    exact ⟨series, of_decide_eq_true hWritten, (h.mem_exported.mp hExported).2, rfl⟩
  · rintro ⟨series, hSeries, hValue, rfl⟩
    have hMetric : series.metric ∈ gauges.catalogue.metrics :=
      List.mem_append_left _ (Call.isStandard_of_mem_series hSeries).standard
    exact List.mem_map.mpr ⟨(series, x),
      List.mem_filter.mpr ⟨h.mem_exported.mpr ⟨hMetric, hValue⟩, decide_eq_true hSeries⟩, rfl⟩

/-- Each written series is sampled once. -/
theorem Aligned.nodup_writtenSamples (h : gauges.Aligned)
    (hNames : ∀ metric, (gauges.catalogue.labelNames metric).Nodup) :
    ((gauges.writtenSamples calls).map (·.1)).Nodup :=
  (h.nodup_samples hNames).sublist ((List.filter_sublist.map _).map _)

/-- If two gauges agree on what was written and one catalogue is the image of the other, so are the
samples. -/
theorem AgreeOn.writtenSamples_perm {other : Gauges}
    (h : AgreeOn (calls.flatMap Call.series) gauges other)
    (hGauges : gauges.Aligned) (hOther : other.Aligned)
    (hNames : ∀ metric, (gauges.catalogue.labelNames metric).Nodup)
    (hOtherNames : ∀ metric, (other.catalogue.labelNames metric).Nodup)
    {image : Exposed → Exposed}
    (hImage : ∀ series, other.catalogue.exposed series = image (gauges.catalogue.exposed series)) :
    (other.writtenSamples calls).Perm
      ((gauges.writtenSamples calls).map fun (exposed, x) => (image exposed, x)) := by
  have hImages :
      ((gauges.writtenSamples calls).map fun (exposed, x) => (image exposed, x)).Nodup := by
    refine (List.Nodup.of_map _ (hGauges.nodup_writtenSamples hNames)).map_on ?_
    rintro ⟨_, x⟩ hHere ⟨_, y⟩ hThere hSame
    obtain ⟨series, hSeries, -, rfl⟩ := hGauges.mem_writtenSamples.mp hHere
    obtain ⟨series', hSeries', -, rfl⟩ := hGauges.mem_writtenSamples.mp hThere
    obtain ⟨hExposed, rfl⟩ := Prod.mk.inj hSame
    rw [← hImage, ← hImage] at hExposed
    rw [Catalogue.exposed_injective hOtherNames (Call.isStandard_of_mem_series hSeries).aligned
      (Call.isStandard_of_mem_series hSeries').aligned hExposed]
  -- Neither side repeats a sample, so that it is enough to compare which ones there are.
  refine (List.perm_ext_iff_of_nodup
    (List.Nodup.of_map _ (hOther.nodup_writtenSamples hOtherNames)) hImages).mpr ?_
  rintro ⟨exposed, x⟩
  rw [hOther.mem_writtenSamples, List.mem_map]
  constructor
  · rintro ⟨series, hSeries, hValue, rfl⟩
    obtain ⟨y, hy, hSame⟩ := h series hSeries
    obtain rfl : y = x := Option.some.inj (hSame.symm.trans hValue)
    exact ⟨_, hGauges.mem_writtenSamples.mpr ⟨series, hSeries, hy, rfl⟩, by rw [hImage]⟩
  · rintro ⟨⟨_, y⟩, hSample, hPair⟩
    obtain ⟨series, hSeries, hValue, rfl⟩ := hGauges.mem_writtenSamples.mp hSample
    obtain ⟨rfl, rfl⟩ := Prod.mk.inj hPair
    obtain ⟨z, hz, hSame⟩ := h series hSeries
    obtain rfl : z = y := Option.some.inj (hz.symm.trans hValue)
    exact ⟨series, hSeries, hSame, hImage series⟩

end WrittenSamples

end Gauges

namespace Config.Sound

variable {config : Config} (h : config.Sound)
include h

/-- Different series that have the same image have the same name and labels already. -/
theorem renamed_injOn : Set.InjOn (Catalogue.ofConfig config).renamed
    {exposed | ∃ series : Series, series.IsAligned ∧ Catalogue.plain.exposed series = exposed} := by
  rintro _ ⟨series, hSeries, rfl⟩ _ ⟨other, hOther, rfl⟩ hSame
  rw [← Catalogue.exposed_eq_renamed, ← Catalogue.exposed_eq_renamed] at hSame
  rw [Catalogue.exposed_injective h.nodup_labelNames hSeries hOther hSame]

end Config.Sound

namespace Gauges

theorem agreeOn_nil (gauges other : Gauges) : AgreeOn [] gauges other :=
  fun _ h => absurd h List.not_mem_nil

/-- Under settings that are accepted the same calls return normally as if nothing is set. The
samples of what they wrote are then the images of those without settings, with the same values, and
different samples have different images. None is lost: each written series is found, with one value,
under its name and labels in both. -/
theorem afterCalls_renames {dialect : Pattern.Dialect} {settings : Config.Settings}
    {config : Config} (hConfig : (Config.ofSettings dialect settings).1 = .ok config)
    (calls : List Call) :
    (∀ error, (ofConfig config).afterCalls calls = .error error ↔
      (ofConfig Config.plain).afterCalls calls = .error error) ∧
    (∀ plain, (ofConfig Config.plain).afterCalls calls = .ok plain →
      ∃ custom, (ofConfig config).afterCalls calls = .ok custom ∧
        (custom.writtenSamples calls).Perm ((plain.writtenSamples calls).map
          fun (exposed, x) => ((Catalogue.ofConfig config).renamed exposed, x)) ∧
        ((custom.writtenSamples calls).map (·.1)).Nodup ∧
        ∀ series ∈ calls.flatMap Call.series, ∃ x,
          Exposition.find? plain (Catalogue.plain.metricName series.metric)
            (Catalogue.plain.labelsOf series) = some x ∧
          Exposition.find? custom ((Catalogue.ofConfig config).metricName series.metric)
            ((Catalogue.ofConfig config).labelsOf series) = some x) ∧
    Set.InjOn (Catalogue.ofConfig config).renamed
      {exposed | ∃ series : Series, series.IsAligned ∧
        Catalogue.plain.exposed series = exposed} := by
  have hSound : config.Sound := Config.sound_of_ofSettings hConfig
  have hPlainSound : Config.plain.Sound :=
    Config.sound_of_ofSettings (congrArg Prod.fst (Config.ofSettings_none dialect))
  refine ⟨fun error => by rw [afterCalls_eq_error, afterCalls_eq_error], ?_, hSound.renamed_injOn⟩
  intro plain hPlain
  obtain ⟨custom, hCustom⟩ : ∃ custom, (ofConfig config).afterCalls calls = .ok custom := by
    cases hCustom : (ofConfig config).afterCalls calls with
    | ok custom => exact ⟨custom, rfl⟩
    | error error =>
        rw [afterCalls_eq_error.mpr (afterCalls_eq_error.mp hCustom)] at hPlain
        cases hPlain
  obtain ⟨hAligned, hCatalogue⟩ := (aligned_ofConfig config).afterCalls hCustom
  obtain ⟨hPlainAligned, hPlainCatalogue⟩ := (aligned_ofConfig Config.plain).afterCalls hPlain
  rw [catalogue_ofConfig] at hCatalogue hPlainCatalogue
  have hNames : ∀ metric, (custom.catalogue.labelNames metric).Nodup :=
    hCatalogue ▸ hSound.nodup_labelNames
  have hPlainNames : ∀ metric, (plain.catalogue.labelNames metric).Nodup :=
    hPlainCatalogue ▸ hPlainSound.nodup_labelNames
  -- Before the calls nothing has been written, so that there is nothing to agree on.
  have hAgree : AgreeOn (calls.flatMap Call.series) plain custom :=
    (agreeOn_nil _ _).afterCalls hPlain hCustom
  refine ⟨custom, hCustom, ?_, hAligned.nodup_writtenSamples hNames, fun series hSeries => ?_⟩
  · refine hAgree.writtenSamples_perm hPlainAligned hAligned hPlainNames hNames fun series => ?_
    rw [hCatalogue, hPlainCatalogue]
    exact Catalogue.exposed_eq_renamed _ series
  · obtain ⟨x, hPlainValue, hValue⟩ := hAgree series hSeries
    have hMetric (gauges : Gauges) : series.metric ∈ gauges.catalogue.metrics :=
      List.mem_append_left _ (Call.isStandard_of_mem_series hSeries).standard
    refine ⟨x, ?_, ?_⟩
    · have hFound :=
        Exposition.find?_of_value? hPlainAligned hPlainNames (hMetric plain) hPlainValue
      rwa [hPlainCatalogue] at hFound
    · have hFound := Exposition.find?_of_value? hAligned hNames (hMetric custom) hValue
      rwa [hCatalogue] at hFound

/-- A host with two kilobytes of memory, and one field of metadata. -/
def twoCalls : List Call :=
  [.host ⟨none, fun amount => if amount = .total then some 2048 else none⟩,
    .metadata [("labels/app", "web")]]

/-- The samples of the two calls if nothing is set. -/
def twoSamples : List (Exposed × Float) :=
  [(⟨"host_memory_total_bytes", ∅⟩, 2048.0),
    (⟨"kubernetes_downward_info", {("field", "labels/app"), ("value", "web")}⟩, 1.0)]

/-- Their images under settings that name everything. -/
def twoImages : List (Exposed × Float) :=
  [(⟨"team:app_host_memory_total_bytes",
      {("zone", "b"), ("_tier", "web"), ("node_name", "node-1")}⟩, 2048.0),
    (⟨"team:app_kubernetes_downward_info",
      {("zone", "b"), ("_tier", "web"), ("field", "labels/app"), ("value", "web")}⟩, 1.0)]

/-- Under labels and a prefix two calls give the same samples under other names. -/
theorem afterCalls_renames_twoCalls : ∃ config plain custom,
    (Config.ofSettings .ascii labelledSettings).1 = .ok config ∧
    (ofConfig Config.plain).afterCalls twoCalls = .ok plain ∧
    (ofConfig config).afterCalls twoCalls = .ok custom ∧
    plain.writtenSamples twoCalls = twoSamples ∧
    (custom.writtenSamples twoCalls).Perm twoImages := by
  obtain ⟨config, hConfig, hImages⟩ : ∃ config,
      (Config.ofSettings .ascii labelledSettings).1 = .ok config ∧
        twoSamples.map (fun (exposed, x) => ((Catalogue.ofConfig config).renamed exposed, x)) =
          twoImages :=
    exists_of_toOption_map (by decide +kernel)
  obtain ⟨plain, hPlain, hSamples⟩ : ∃ plain,
      (ofConfig Config.plain).afterCalls twoCalls = .ok plain ∧
        plain.writtenSamples twoCalls = twoSamples :=
    exists_of_toOption_map (by decide +kernel)
  obtain ⟨custom, hCustom, hPerm, -, -⟩ := (afterCalls_renames hConfig twoCalls).2.1 plain hPlain
  rw [hSamples, hImages] at hPerm
  exact ⟨config, plain, custom, hConfig, hPlain, hCustom, hSamples, hPerm⟩

end Gauges

end PodGauges
