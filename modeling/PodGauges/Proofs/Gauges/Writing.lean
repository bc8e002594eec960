import PodGauges.Gauges
import PodGauges.Proofs.Keyed

/-! What a list of writes does to the gauges, seen through the value of each series. A failing
write ends the list; the writes in front of it stay made. Nothing is assumed of the gauges that are
written to. -/
namespace PodGauges

open Number

/-- Why a write fails, if it does. This depends on its value alone, not on the gauges. -/
def Write.error? (w : Write) : Option RangeError :=
  match w.value.toReal with
  | .ok _ => none
  | .error error => some error

theorem Write.error?_eq_none {w : Write} : w.error? = none ↔ ∃ x, w.value.toReal = .ok x := by
  unfold Write.error?
  cases w.value.toReal <;> simp

theorem Write.error?_eq_some {w : Write} {error : RangeError} :
    w.error? = some error ↔ w.value.toReal = .error error := by
  unfold Write.error?
  cases w.value.toReal <;> simp

namespace Gauges

/-- The gauges of a configuration come about by puts of declared amounts alone. -/
theorem ofConfig_induction (P : Gauges → Prop) (config : Config)
    (hStart : P (ofCatalogue (Catalogue.ofConfig config)))
    (hPut : ∀ gauges resource x, P gauges → P (gauges.put ⟨.resource resource, []⟩ x)) :
    P (ofConfig config) := by
  unfold ofConfig
  generalize ofCatalogue (Catalogue.ofConfig config) = gauges at hStart ⊢
  induction Resource.all generalizing gauges with
  | nil => exact hStart
  | cons resource resources ih =>
      rw [List.foldl_cons]
      refine ih _ ?_
      split
      · exact hPut _ _ _ hStart
      · exact hStart

/-- A value that is put is there, and all others stay. -/
theorem value?_put (gauges : Gauges) (series other : Series) (x : Float) :
    (gauges.put series x).value? other =
      if other = series then some x else gauges.value? other :=
  Keyed.get?_put gauges.values series other x

/-- A marked series is there, at zero unless it was there before; no other one is affected. -/
theorem value?_mark (gauges : Gauges) (series other : Series) :
    (gauges.mark series).value? other =
      if other = series then some ((gauges.value? series).getD 0.0) else gauges.value? other := by
  unfold mark
  cases hs : gauges.value? series with
  | none => simp [value?_put]
  | some x =>
      by_cases h : other = series
      · simp [h, hs]
      · simp [h]

/-- A write that succeeds puts the real value of what is written. -/
theorem write_of_ok {w : Write} {x : Float} (h : w.value.toReal = .ok x) (gauges : Gauges) :
    gauges.write w = (gauges.put w.series x, none) := by
  simp [write, h]

/-- A write that fails brings its series about at most. -/
theorem write_of_error {w : Write} {error : RangeError} (h : w.value.toReal = .error error)
    (gauges : Gauges) :
    gauges.write w = (if w.value.marksFirst then gauges.mark w.series else gauges, some error) := by
  simp [write, h]

theorem write_error (gauges : Gauges) (w : Write) : (gauges.write w).2 = w.error? := by
  cases h : w.value.toReal with
  | ok x => rw [write_of_ok h, Write.error?_eq_none.mpr ⟨x, h⟩]
  | error error => rw [write_of_error h, Write.error?_eq_some.mpr h]

/-- Writes go on behind one with a value in range. -/
theorem writeAll_cons_of_ok {w : Write} (h : w.error? = none) (gauges : Gauges)
    (rest : List Write) :
    gauges.writeAll (w :: rest) = (gauges.write w).1.writeAll rest := by
  have hw : gauges.write w = ((gauges.write w).1, none) := by rw [← h, ← write_error gauges w]
  rw [writeAll, hw]

/-- Writes end at the first value out of range, which is written as far as it goes. -/
theorem writeAll_cons_of_error {w : Write} {error : RangeError} (h : w.error? = some error)
    (gauges : Gauges) (rest : List Write) :
    gauges.writeAll (w :: rest) = ((gauges.write w).1, some error) := by
  have hw : gauges.write w = ((gauges.write w).1, some error) := by
    rw [← h, ← write_error gauges w]
  rw [writeAll, hw]

/-- Some writes fail with the error of the first of them that fails, from any gauges. -/
theorem writeAll_error (gauges : Gauges) (writes : List Write) :
    (gauges.writeAll writes).2 = writes.findSome? Write.error? := by
  induction writes generalizing gauges with
  | nil => rfl
  | cons w rest ih =>
      cases h : w.error? with
      | none => rw [writeAll_cons_of_ok h, ih, List.findSome?_cons, h]
      | some error => rw [writeAll_cons_of_error h, List.findSome?_cons, h]

/-- The writes up to a failing one are made in full, and those behind it are not made at all. -/
theorem writeAll_append_of_error {done : List Write} {w : Write} {error : RangeError}
    (hDone : ∀ d ∈ done, d.error? = none) (h : w.error? = some error) (gauges : Gauges)
    (rest : List Write) :
    gauges.writeAll (done ++ w :: rest) =
      (((gauges.writeAll done).1.write w).1, some error) := by
  induction done generalizing gauges with
  | nil => exact writeAll_cons_of_error h gauges rest
  | cons d done ih =>
      have hd : d.error? = none := hDone d (List.mem_cons_self ..)
      rw [List.cons_append, writeAll_cons_of_ok hd, writeAll_cons_of_ok hd,
        ih fun e he => hDone e (List.mem_cons_of_mem _ he)]

/-- A write, failed or not, leaves every other series as it was. -/
theorem value?_write_of_ne (gauges : Gauges) {w : Write} {series : Series}
    (h : series ≠ w.series) : (gauges.write w).1.value? series = gauges.value? series := by
  cases hw : w.value.toReal with
  | ok x => simp [write_of_ok hw, value?_put, h]
  | error error =>
      by_cases hm : w.value.marksFirst
      · simp [write_of_error hw, hm, value?_mark, h]
      · simp [write_of_error hw, hm]

/-- A series that no write names keeps its value, wherever the writes break off. -/
theorem value?_writeAll_of_not_mem (gauges : Gauges) {writes : List Write} {series : Series}
    (h : ∀ w ∈ writes, series ≠ w.series) :
    (gauges.writeAll writes).1.value? series = gauges.value? series := by
  induction writes generalizing gauges with
  | nil => rfl
  | cons w rest ih =>
      have hw : (gauges.write w).1.value? series = gauges.value? series :=
        value?_write_of_ne gauges (h w (List.mem_cons_self ..))
      cases he : w.error? with
      | none =>
          rw [writeAll_cons_of_ok he, ih _ fun v hv => h v (List.mem_cons_of_mem _ hv), hw]
      | some error => rw [writeAll_cons_of_error he, hw]

/-- If all writes succeed and those to a series agree, the series ends with what they say. -/
theorem value?_writeAll_of_mem (gauges : Gauges) {writes : List Write} {series : Series} {x : Float}
    (hFit : ∀ w ∈ writes, w.error? = none) (hMem : ∃ w ∈ writes, w.series = series)
    (hSame : ∀ w ∈ writes, w.series = series → w.value.toReal = .ok x) :
    (gauges.writeAll writes).1.value? series = some x := by
  induction writes generalizing gauges with
  | nil =>
      obtain ⟨w, hw, _⟩ := hMem
      cases hw
  | cons w rest ih =>
      rw [writeAll_cons_of_ok (hFit w (List.mem_cons_self ..))]
      by_cases hLater : ∃ v ∈ rest, v.series = series
      · exact ih _ (fun v hv => hFit v (List.mem_cons_of_mem _ hv)) hLater
          fun v hv => hSame v (List.mem_cons_of_mem _ hv)
      · -- no later write names the series, so this one has the last word
        have hNone : ∀ v ∈ rest, series ≠ v.series := fun v hv he => hLater ⟨v, hv, he.symm⟩
        have hHere : w.series = series := by
          obtain ⟨v, hv, he⟩ := hMem
          rcases List.mem_cons.mp hv with rfl | hv
          · exact he
          · exact absurd ⟨v, hv, he⟩ hLater
        rw [value?_writeAll_of_not_mem _ hNone,
          write_of_ok (hSame w (List.mem_cons_self ..) hHere)]
        simp [value?_put, hHere]

end Gauges

/-- Some writes are told by a view: each series is written what the view says of it, and only
series that the view says something of are written. -/
def Describes (view : Series → Option Value) (writes : List Write) : Prop :=
  ∀ series value, ⟨series, value⟩ ∈ writes ↔ view series = some value

namespace Describes

variable {view : Series → Option Value} {writes : List Write}

theorem of_eq (h : Describes view writes) {other : Series → Option Value}
    (he : ∀ series, other series = view series) : Describes other writes := by
  intro series value
  rw [he series]
  exact h series value

/-- No writes are told by a view that says nothing. -/
theorem of_nil (he : ∀ series, view series = none) : Describes view [] := by
  intro series value
  simp [he series]

theorem view_eq (h : Describes view writes) {w : Write} (hw : w ∈ writes) :
    view w.series = some w.value := (h w.series w.value).mp hw

/-- No write names a series that the view says nothing of. -/
theorem series_ne (h : Describes view writes) {series : Series} (hNone : view series = none) :
    ∀ w ∈ writes, series ≠ w.series := by
  rintro w hw rfl
  rw [h.view_eq hw] at hNone
  cases hNone

/-- After writes that all succeed, a series has the real value of what the view says of it, and
the value it had if the view says nothing. -/
theorem value?_writeAll (h : Describes view writes) (hFit : ∀ w ∈ writes, w.error? = none)
    (gauges : Gauges) (series : Series) :
    (∀ value, view series = some value →
      ∃ x, value.toReal = .ok x ∧ (gauges.writeAll writes).1.value? series = some x) ∧
    (view series = none →
      (gauges.writeAll writes).1.value? series = gauges.value? series) := by
  refine ⟨fun value hv => ?_, fun hNone => gauges.value?_writeAll_of_not_mem (h.series_ne hNone)⟩
  have hMem : ⟨series, value⟩ ∈ writes := (h series value).mpr hv
  obtain ⟨x, hx⟩ := Write.error?_eq_none.mp (hFit _ hMem)
  refine ⟨x, hx, gauges.value?_writeAll_of_mem hFit ⟨_, hMem, rfl⟩ ?_⟩
  rintro w hw rfl
  have same : w.value = value := Option.some.inj ((h.view_eq hw).symm.trans hv)
  rw [same]
  exact hx

/-- After writes that break off, those in front have their say, the series of the failing one is
marked at most, and any other series keeps its value. -/
theorem value?_writeAll_of_error {done rest : List Write} {w : Write} {error : RangeError}
    (h : Describes view (done ++ w :: rest)) (hDone : ∀ d ∈ done, d.error? = none)
    (hError : w.error? = some error) (gauges : Gauges) :
    (∀ d ∈ done, ∃ x, d.value.toReal = .ok x ∧
      (gauges.writeAll (done ++ w :: rest)).1.value? d.series = some x) ∧
    (gauges.writeAll (done ++ w :: rest)).1.value? w.series =
      (if w.value.marksFirst then some ((gauges.value? w.series).getD 0.0)
        else gauges.value? w.series) ∧
    ∀ series, series ≠ w.series → (∀ d ∈ done, series ≠ d.series) →
      (gauges.writeAll (done ++ w :: rest)).1.value? series = gauges.value? series := by
  -- one series is never written two values, so no write in front is to the failing series
  have hSame {d e : Write} (hd : d ∈ done ++ w :: rest) (he : e ∈ done ++ w :: rest)
      (hSeries : d.series = e.series) : d.value = e.value := by
    have hView := h.view_eq hd
    rw [hSeries, h.view_eq he] at hView
    exact (Option.some.inj hView).symm
  have hApart : ∀ d ∈ done, d.series ≠ w.series := by
    intro d hd hSeries
    have hValue := hSame (List.mem_append_left _ hd) (by simp) hSeries
    obtain ⟨x, hx⟩ := Write.error?_eq_none.mp (hDone d hd)
    rw [hValue, Write.error?_eq_some.mp hError] at hx
    cases hx
  rw [Gauges.writeAll_append_of_error hDone hError]
  refine ⟨fun d hd => ?_, ?_, fun series hSeries hOther => ?_⟩
  · obtain ⟨x, hx⟩ := Write.error?_eq_none.mp (hDone d hd)
    refine ⟨x, hx, ?_⟩
    rw [Gauges.value?_write_of_ne _ (hApart d hd)]
    refine gauges.value?_writeAll_of_mem hDone ⟨d, hd, rfl⟩ fun e he hSeries => ?_
    rw [hSame (List.mem_append_left _ he) (List.mem_append_left _ hd) hSeries]
    exact hx
  · have hBefore := gauges.value?_writeAll_of_not_mem fun d hd => (hApart d hd).symm
    rw [Gauges.write_of_error (Write.error?_eq_some.mp hError)]
    by_cases hMark : w.value.marksFirst
    · simp [hMark, Gauges.value?_mark, hBefore]
    · simp [hMark, hBefore]
  · rw [Gauges.value?_write_of_ne _ hSeries, gauges.value?_writeAll_of_not_mem hOther]

end Describes

end PodGauges
