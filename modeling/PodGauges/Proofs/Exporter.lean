import PodGauges.Exporter
import PodGauges.Proofs.Catalogue
import PodGauges.Proofs.Config.Accepted
import PodGauges.Proofs.Cycle.Observation

/-! What an exporter shows after any number of cycles, over files that change as they like: for each
series the value that was observed last, and before the first observation the value that its metric
begins with. -/
namespace PodGauges

open PodGauges.Cycle Number

/-- What a view saw last in a list of moments. -/
def Cycle.lastSeen {α : Type} (view : Moment → Option α) (moments : List Moment) : Option α :=
  (moments.filterMap view).getLast?

/-- What a series shows before it is written for the first time. One without any label is there
from the beginning. -/
def Config.initial? (config : Config) (metric : Metric) : Option Float :=
  if (Catalogue.ofConfig config).isBare metric then some 0.0 else none

/-- The exporter after cycles at some moments. -/
def Exporter.afterCycles (exporter : Exporter) (moments : List Moment) : Exporter :=
  moments.foldl (fun exporter moment => (exporter.cycle moment).1) exporter

/-- What a series shows after cycles at some moments. -/
def Exporter.shown (exporter : Exporter) (moments : List Moment) (series : Series) : Option Float :=
  (exporter.afterCycles moments).gauges.value? series

section LastSeen

variable {α β : Type} (view : Moment → Option α)

theorem lastSeen_nil : lastSeen view [] = none := rfl

/-- Something that was seen first counts only if nothing is seen later. -/
theorem lastSeen_cons (moment : Moment) (moments : List Moment) :
    lastSeen view (moment :: moments) = (lastSeen view moments).or (view moment) := by
  unfold lastSeen
  cases h : view moment with
  | none => simp [h]
  | some value =>
      cases hLater : (moments.filterMap view).getLast? <;>
        simp [h, List.getLast?_cons, hLater]

/-- What was seen last is told by the last moment at which anything was seen. -/
theorem lastSeen_eq_some {moments : List Moment} {value : α} :
    lastSeen view moments = some value ↔ ∃ before moment after,
      moments = before ++ moment :: after ∧ view moment = some value ∧
        ∀ later ∈ after, view later = none := by
  induction moments with
  | nil => simp [lastSeen_nil]
  | cons first moments ih =>
      rw [lastSeen_cons, Option.or_eq_some_iff, ih]
      constructor
      · rintro (⟨before, moment, after, rfl, hSeen, hLater⟩ | ⟨hNone, hSeen⟩)
        · exact ⟨first :: before, moment, after, rfl, hSeen, hLater⟩
        · refine ⟨[], first, moments, rfl, hSeen, ?_⟩
          simpa [lastSeen] using hNone
      · rintro ⟨before, moment, after, hSplit, hSeen, hLater⟩
        cases before with
        | nil =>
            obtain ⟨rfl, rfl⟩ := List.cons.inj hSplit
            refine Or.inr ⟨?_, hSeen⟩
            simpa [lastSeen] using hLater
        | cons _ before =>
            obtain ⟨rfl, rfl⟩ := List.cons.inj hSplit
            exact Or.inl ⟨before, moment, after, rfl, hSeen, hLater⟩

theorem lastSeen_eq_none {moments : List Moment} :
    lastSeen view moments = none ↔ ∀ moment ∈ moments, view moment = none := by
  simp [lastSeen]

/-- To look at a part of what is seen is to see it at the same moments. -/
theorem lastSeen_map {other : Moment → Option β} {f : α → β}
    (h : ∀ moment, other moment = (view moment).map f) (moments : List Moment) :
    lastSeen other moments = (lastSeen view moments).map f := by
  induction moments with
  | nil => rfl
  | cons moment moments ih =>
      rw [lastSeen_cons, lastSeen_cons, ih, h]
      cases lastSeen view moments <;> rfl

end LastSeen

namespace Gauges

variable {series : Series}

/-- In the beginning exactly the series without any label are there, all of them at zero. -/
theorem value?_ofCatalogue (catalogue : Catalogue) (series : Series) :
    (ofCatalogue catalogue).value? series =
      if series.values = [] ∧ series.metric ∈ catalogue.metrics.filter catalogue.isBare
      then some 0.0 else none := by
  unfold ofCatalogue value?
  induction catalogue.metrics.filter catalogue.isBare with
  | nil => simp [Keyed.get?]
  | cons metric metrics ih =>
      obtain ⟨seriesMetric, values⟩ := series
      by_cases hMetric : seriesMetric = metric
      · cases values with
        | nil => simp [Keyed.get?, hMetric]
        | cons _ _ => simpa [Keyed.get?] using ih
      · simp only [List.map_cons, Keyed.get?, List.mem_cons, hMetric, false_or] at ih ⊢
        rw [if_neg (by simp [Ne.symm hMetric]), ih]

/-- The declared amounts are no business of any category. -/
theorem value?_ofConfig (config : Config) (h : series.category? ≠ none) :
    (ofConfig config).value? series = (ofCatalogue (Catalogue.ofConfig config)).value? series := by
  refine ofConfig_induction (·.value? series = _) config rfl fun gauges resource x hSame => ?_
  have hOther : series ≠ ⟨.resource resource, []⟩ := by
    rintro rfl
    exact h rfl
  rw [value?_put, if_neg hOther, hSame]

end Gauges

/-- Every metric of a category is exported under every configuration. -/
theorem Metric.mem_metrics {metric : Metric} (h : metric.category? ≠ none) (catalogue : Catalogue) :
    metric ∈ catalogue.metrics := by
  refine List.mem_append_left _ (mem_standard fun resource hResource => h ?_)
  rw [hResource]
  rfl

/-- Before the first cycle a series of a category shows what its metric begins with. -/
theorem Gauges.value?_initial (config : Config) {series : Series} (h : series.category? ≠ none)
    (hLength : series.values.length = series.metric.labels.length) :
    (Gauges.ofConfig config).value? series = config.initial? series.metric := by
  rw [value?_ofConfig config h, value?_ofCatalogue, Config.initial?]
  have hMetric := Metric.mem_metrics h (Catalogue.ofConfig config)
  by_cases hBare : (Catalogue.ofConfig config).isBare series.metric
  · have hValues : series.values = [] := by
      rw [Catalogue.labels_of_isBare hBare] at hLength
      exact List.length_eq_zero_iff.mp hLength
    simp [hMetric, hBare, hValues]
  · simp [hBare]

namespace Exporter

variable {config : Config} {tree : File.Tree} {exporter : Exporter} {series : Series}

/-- Metadata of a volume is written as the fields that were read, if they were. -/
theorem exists_withDownward (gauges : Gauges) (tree : File.Tree) (volume : File.Path) :
    ∃ fields, (withDownward gauges tree volume).1 =
      (gauges.writeAll (Downward.writes fields)).1 := by
  unfold withDownward
  rcases Downward.read tree volume with ⟨error | fields, log⟩
  · exact ⟨[], rfl⟩
  · refine ⟨fields, ?_⟩
    dsimp only
    rcases gauges.writeAll (Downward.writes fields) with ⟨written, error | error⟩ <;> rfl

/-- A new exporter has the configuration it was built of, and its gauges with some metadata. -/
theorem exists_build (h : (build config tree).1 = .ok exporter) : exporter.config = config ∧
    ∃ fields, exporter.gauges =
      ((Gauges.ofConfig config).writeAll (Downward.writes fields)).1 := by
  unfold build at h
  obtain ⟨seconds, _, rfl⟩ := map_eq_ok.mp h
  refine ⟨rfl, ?_⟩
  unfold gauges
  cases config.downward with
  | none => exact ⟨[], rfl⟩
  | some volume => exact exists_withDownward _ tree volume

/-- Metadata is written into its own series. -/
theorem value?_metadata (gauges : Gauges) (fields : List Downward.Field)
    (h : series.metric ≠ .downwardInfo) :
    (gauges.writeAll (Downward.writes fields)).1.value? series = gauges.value? series := by
  refine gauges.value?_writeAll_of_not_mem fun w hw => ?_
  obtain ⟨field, _, rfl⟩ := List.mem_map.mp hw
  rintro rfl
  exact h rfl

/-- A new exporter has the configuration it was built of, and no category has written yet. -/
theorem build_spec (h : (build config tree).1 = .ok exporter) : exporter.config = config ∧
    ∀ series : Series, series.category? ≠ none →
      series.values.length = series.metric.labels.length →
      exporter.gauges.value? series = config.initial? series.metric := by
  obtain ⟨hConfig, fields, hGauges⟩ := exists_build h
  refine ⟨hConfig, fun series hSeries hLength => ?_⟩
  have hMetric : series.metric ≠ .downwardInfo := fun hInfo =>
    hSeries (congrArg Metric.category? hInfo)
  rw [hGauges, value?_metadata _ fields hMetric, Gauges.value?_initial config hSeries hLength]

/-- Over cycles in which every write goes through, a series comes to have the real value of what was
observed last, and keeps its value if nothing is. -/
theorem afterCycles_value? {category : Category} (hSeries : series.category? = some category)
    (moments : List Moment) (exporter : Exporter)
    (hWrites : ∀ moment ∈ moments, WritesAll exporter.config moment) :
    (∀ value, lastSeen (observed exporter.config · series) moments = some value →
      ∃ x, value.toReal = .ok x ∧
        (exporter.afterCycles moments).gauges.value? series = some x) ∧
    (lastSeen (observed exporter.config · series) moments = none →
      (exporter.afterCycles moments).gauges.value? series = exporter.gauges.value? series) := by
  induction moments generalizing exporter with
  | nil =>
      refine ⟨fun value hValue => ?_, fun _ => rfl⟩
      rw [lastSeen_nil] at hValue
      cases hValue
  | cons moment moments ih =>
      obtain ⟨hSeen, hUnseen⟩ := ih (exporter.cycle moment).1 fun later hLater =>
        hWrites later (List.mem_cons_of_mem _ hLater)
      obtain ⟨hNow, hNotNow⟩ :=
        run_value?_of_observed (hWrites moment (List.mem_cons_self ..)) hSeries exporter.state
      refine ⟨fun value hValue => ?_, fun hNone => ?_⟩
      · rw [lastSeen_cons, Option.or_eq_some_iff] at hValue
        rcases hValue with hLater | ⟨hNoLater, hValue⟩
        · exact hSeen value hLater
        · obtain ⟨x, hReal, hRun⟩ := hNow value hValue
          exact ⟨x, hReal, (hUnseen hNoLater).trans hRun⟩
      · rw [lastSeen_cons, Option.or_eq_none_iff] at hNone
        exact (hUnseen hNone.1).trans (hNotNow hNone.2)

section Shown

variable {moments : List Moment} (hBuild : (build config tree).1 = .ok exporter)
  (hWrites : ∀ moment ∈ moments, WritesAll config moment)
include hBuild hWrites

/-- A series of a category shows what was observed last, and what its metric begins with if nothing
ever was. -/
theorem shown_eq (hSeries : series.category? ≠ none) :
    (∀ value, lastSeen (observed config · series) moments = some value →
      ∃ x, value.toReal = .ok x ∧ exporter.shown moments series = some x) ∧
    (series.values.length = series.metric.labels.length →
      lastSeen (observed config · series) moments = none →
      exporter.shown moments series = config.initial? series.metric) := by
  obtain ⟨rfl, hInitial⟩ := build_spec hBuild
  obtain ⟨category, hCategory⟩ := Option.ne_none_iff_exists'.mp hSeries
  obtain ⟨hSeen, hUnseen⟩ := afterCycles_value? hCategory moments exporter hWrites
  exact ⟨hSeen, fun hLength hNone => (hUnseen hNone).trans (hInitial series hSeries hLength)⟩

/-- If what is observed of a series comes from a view, the series shows what the view saw last. -/
theorem shown_of_view {α : Type} {view : Moment → Option α} {value : α → Value}
    (hSeries : series.category? ≠ none)
    (hView : ∀ moment, observed config moment series = (view moment).map value) {last : α}
    (h : lastSeen view moments = some last) :
    ∃ x, (value last).toReal = .ok x ∧ exporter.shown moments series = some x := by
  refine (shown_eq hBuild hWrites hSeries).1 (value last) ?_
  rw [lastSeen_map view hView, h]
  rfl

/-- A real number is shown as it was seen. -/
theorem shown_of_real {α : Type} {view : Moment → Option α} {value : α → Float}
    (hSeries : series.category? ≠ none)
    (hView : ∀ moment, observed config moment series =
      (view moment).map fun seen => .quantity (.real (value seen))) {last : α}
    (h : lastSeen view moments = some last) :
    exporter.shown moments series = some (value last) := by
  obtain ⟨x, hReal, hShown⟩ := shown_of_view hBuild hWrites hSeries hView h
  rw [hShown, ← Except.ok.inj hReal]

end Shown

/-- An exporter shows what its cycles saw last, series by series. The first two fields cover every
series of a category; the others say of some of them which reading theirs is. -/
structure ShowsLast (exporter : Exporter) (config : Config) (moments : List Moment) : Prop where
  /-- The real value of what was observed at a moment, if nothing was at any later one. -/
  observed : ∀ series : Series, series.category? ≠ none → ∀ before moment after value,
    moments = before ++ moment :: after → observed config moment series = some value →
    (∀ later ∈ after, observed config later series = none) →
      ∃ x, value.toReal = .ok x ∧ exporter.shown moments series = some x
  /-- Zero for a series without labels, and nothing for any other. -/
  unobserved : ∀ series : Series, series.category? ≠ none →
    series.values.length = series.metric.labels.length →
    (∀ moment ∈ moments, Cycle.observed config moment series = none) →
      exporter.shown moments series = config.initial? series.metric
  /-- The last count of an event is that of the last snapshot that holds the event. -/
  events : ∀ event count, lastSeen (eventCount config event) moments = some count →
    ∃ x, realOfInteger count = .ok x ∧
      exporter.shown moments ⟨.cgroupMemoryEvents, [event]⟩ = some x
  /-- All processor times come from the last reading of them. -/
  hostCpu : ∀ seconds, lastSeen (hostSeconds config) moments = some seconds →
    ∀ mode : Host.CpuMode,
      exporter.shown moments ⟨.hostCpu, [Host.allProcessors, mode.name]⟩ = some (seconds mode)
  /-- A reading has zero for the modes that the file does not tell. -/
  missingModes : ∀ moment seconds, hostSeconds config moment = some seconds → ∃ text columns,
    moment.tree.readLossy (config.procRoot.child "stat") = .ok text ∧
    Host.aggregateColumns? text = some columns ∧
    ∀ mode : Host.CpuMode, columns[mode.column]? = none → seconds mode = 0.0
  /-- All numbers of connections come from the last reading of them. -/
  connections : ∀ counts, lastSeen (socketCounts config) moments = some counts →
    ∀ (state : Network.TcpState) (version : Network.IpVersion),
      ∃ x, realOfInteger (counts.known state version) = .ok x ∧
        exporter.shown moments ⟨.tcpConnections, [state.name, version.name]⟩ = some x
  /-- Start and uptime come together from the last sample that knows the age of its processes. -/
  age : ∀ sample,
    lastSeen (fun moment => (processSample config moment).filter isAged) moments = some sample →
      exporter.shown moments ⟨.process .start, []⟩ = some sample.start ∧
      exporter.shown moments ⟨.process .uptime, []⟩ = some sample.uptime
  unknownAge :
    lastSeen (fun moment => (processSample config moment).filter isAged) moments = none →
      exporter.shown moments ⟨.process .start, []⟩ = config.initial? (.process .start) ∧
      exporter.shown moments ⟨.process .uptime, []⟩ = config.initial? (.process .uptime)
  /-- All else about the processes comes from their last sample. -/
  processes : ∀ sample, lastSeen (processSample config) moments = some sample →
    exporter.shown moments ⟨.process .cpuUser, []⟩ = some sample.cpuUser ∧
    exporter.shown moments ⟨.process .cpuSystem, []⟩ = some sample.cpuSystem ∧
    ∀ counter, ∃ x, realOfInteger (sample.count counter) = .ok x ∧
      exporter.shown moments ⟨.process (.count counter), []⟩ = some x

/-- After any cycles in which every write goes through, over files that change as they like, a new
exporter shows what was seen last. Samples may fail at any time; they are no sight of anything. -/
theorem shows_last {moments : List Moment} (hBuild : (build config tree).1 = .ok exporter)
    (hWrites : ∀ moment ∈ moments, WritesAll config moment) :
    exporter.ShowsLast config moments where
  observed _ hSeries before moment after value hMoments hNow hLater := by
    refine (shown_eq hBuild hWrites hSeries).1 value ?_
    exact (lastSeen_eq_some _).mpr ⟨before, moment, after, hMoments, hNow, hLater⟩
  unobserved _ hSeries hLength hNever :=
    (shown_eq hBuild hWrites hSeries).2 hLength ((lastSeen_eq_none _).mpr hNever)
  events event _ h :=
    shown_of_view hBuild hWrites (by rintro ⟨⟩) (observed_event config · event) h
  hostCpu _ h mode :=
    shown_of_real hBuild hWrites (by rintro ⟨⟩) (observed_hostCpu config · mode) h
  missingModes _ _ h := columns_of_hostSeconds h
  connections _ h state version :=
    shown_of_view hBuild hWrites (by rintro ⟨⟩) (observed_connections config · state version) h
  age _ h :=
    ⟨shown_of_real hBuild hWrites (by rintro ⟨⟩) (observed_age config · fun _ => rfl) h,
      shown_of_real hBuild hWrites (by rintro ⟨⟩) (observed_age config · fun _ => rfl) h⟩
  -- The start and the age come from the same field, so that both stay as they began.
  unknownAge h := by
    refine ⟨(shown_eq hBuild hWrites (by rintro ⟨⟩)).2 rfl ?_,
      (shown_eq hBuild hWrites (by rintro ⟨⟩)).2 rfl ?_⟩
    · rw [lastSeen_map _ (observed_age config · fun _ => rfl), h]
      rfl
    · rw [lastSeen_map _ (observed_age config · fun _ => rfl), h]
      rfl
  processes _ h := by
    refine ⟨shown_of_real hBuild hWrites (by rintro ⟨⟩)
        (observed_process config · fun _ => rfl) h,
      shown_of_real hBuild hWrites (by rintro ⟨⟩)
        (observed_process config · fun _ => rfl) h, fun counter => ?_⟩
    have hCount (moment : Moment) : Cycle.observed config moment ⟨.process (.count counter), []⟩ =
        (processSample config moment).map fun sample => .quantity (.int (sample.count counter)) :=
      observed_process config moment fun _ => rfl
    exact shown_of_view hBuild hWrites (by rintro ⟨⟩) hCount h

/-- A control group that uses five bytes and has one process, and the same one after the process
and the file of its usage have gone. -/
def vanishing : List Moment :=
  let root : List (List String × File.Entry) :=
    [(["sys"], .directory), (["sys", "fs"], .directory), (["sys", "fs", "cgroup"], .directory),
      (["proc"], .directory)]
  [⟨⟨root ++ [(["sys", "fs", "cgroup", "memory.current"], .file [0x35]),
      (["proc", "1"], .directory), (["proc", "1", "stat"], .file [])]⟩, 4096, 0.0, 0.0⟩,
    ⟨⟨root⟩, 4096, 5.0, 5.0⟩]

/-- The configuration of no settings but the number of a process. -/
def oneProcess : Config := { Config.plain with target := some (.single 1) }

/-- The usage is still shown, as it was in the first cycle. -/
theorem shows_last_of_vanished : ∃ exporter,
    (build oneProcess File.Tree.empty).1 = .ok exporter ∧
      (∀ moment ∈ vanishing, WritesAll oneProcess moment) ∧
      exporter.shown vanishing ⟨.cgroupMemory .current, []⟩ = some 5.0 := by
  obtain ⟨exporter, hBuild⟩ : ∃ exporter, (build oneProcess File.Tree.empty).1 = .ok exporter :=
    ⟨_, rfl⟩
  have hWrites : ∀ moment ∈ vanishing, WritesAll oneProcess moment := by decide +kernel
  have hSeen : (lastSeen (observed oneProcess · ⟨.cgroupMemory .current, []⟩) vanishing).bind
      (·.toReal.toOption) = some 5.0 := by decide +kernel
  obtain ⟨value, hValue, hReal⟩ := Option.bind_eq_some_iff.mp hSeen
  obtain ⟨before, moment, after, hMoments, hNow, hLater⟩ := (lastSeen_eq_some _).mp hValue
  obtain ⟨x, hx, hShown⟩ := (shows_last hBuild hWrites).observed _ (by rintro ⟨⟩)
    before moment after value hMoments hNow hLater
  rw [hx] at hReal
  exact ⟨exporter, hBuild, hWrites, hShown.trans hReal⟩

end Exporter

end PodGauges
