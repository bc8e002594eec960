import PodGauges.Cycle.Category
import PodGauges.Proofs.Gauges.Writing

/-! Every metric belongs to one category at most. The gauges fall into one part for each category
and one for the metrics of none, and writes of one category pass through to its own part. -/
namespace PodGauges

open PodGauges.Cycle

/-- The category that a metric belongs to. The metadata and the declared resources belong to none:
they are written once, before the first cycle. -/
def Metric.category? : Metric → Option Category
  | .cgroupCpu _ | .cgroupCpuLimit | .cgroupMemory _ | .cgroupMemoryEvents => some .cgroup
  | .process _ => some .process
  | .hostCpu | .hostMemory _ => some .host
  | .network _ => some .net
  | .tcpConnections => some .tcp
  | .downwardInfo | .resource _ => none

/-- The category of a series is that of its metric. -/
def Series.category? (series : Series) : Option Category := series.metric.category?

namespace Gauges

/-- The part of the gauges that belongs to an owner, in the order of first writes. -/
def part (gauges : Gauges) (owner : Option Category) : Gauges :=
  { gauges with values := gauges.values.filter fun entry => entry.1.category? = owner }

/-- A series of the owner reads in the part as in the whole; any other one is not there. -/
theorem value?_part (gauges : Gauges) (owner : Option Category) (series : Series) :
    (gauges.part owner).value? series =
      if series.category? = owner then gauges.value? series else none := by
  have h := Keyed.get?_filter gauges.values (fun s => decide (s.category? = owner)) series
  simp only [decide_eq_true_eq] at h
  exact h

/-- A series has its value in the part of its owner. -/
theorem value?_part_self (gauges : Gauges) (series : Series) :
    (gauges.part series.category?).value? series = gauges.value? series := by
  rw [value?_part, if_pos rfl]

/-- Gauges of one catalogue that have the same parts agree on every series. -/
theorem value?_eq_of_part {gauges other : Gauges} {series : Series}
    (h : gauges.part series.category? = other.part series.category?) :
    gauges.value? series = other.value? series := by
  rw [← value?_part_self gauges, h, value?_part_self]

/-- To put an own series is to put it into the own part. -/
theorem part_put_of_own (gauges : Gauges) {owner : Option Category} {series : Series}
    (h : series.category? = owner) (x : Float) :
    (gauges.put series x).part owner = (gauges.part owner).put series x := by
  have hf := Keyed.filter_put gauges.values (fun s => decide (s.category? = owner)) series x
  simp only [h, decide_true, if_true] at hf
  unfold part put
  rw [hf]

/-- To put a foreign series is nothing to the own part. -/
theorem part_put_of_foreign (gauges : Gauges) {owner : Option Category} {series : Series}
    (h : series.category? ≠ owner) (x : Float) :
    (gauges.put series x).part owner = gauges.part owner := by
  have hf := Keyed.filter_put gauges.values (fun s => decide (s.category? = owner)) series x
  simp only [h, decide_false, Bool.false_eq_true, if_false] at hf
  unfold part put
  rw [hf]

/-- A write to a series of the owner is the same write to its part. -/
theorem part_write_of_own (gauges : Gauges) {owner : Option Category} {w : Write}
    (h : w.series.category? = owner) :
    (gauges.write w).1.part owner = ((gauges.part owner).write w).1 := by
  have hRead : (gauges.part owner).value? w.series = gauges.value? w.series := by
    rw [value?_part, if_pos h]
  cases hw : w.value.toReal with
  | ok x => simp only [write_of_ok hw, part_put_of_own gauges h]
  | error error =>
      by_cases hm : w.value.marksFirst
      · simp only [write_of_error hw, hm, if_true, mark, hRead]
        cases gauges.value? w.series with
        | none => exact part_put_of_own gauges h _
        | some x => rfl
      · simp [write_of_error hw, hm]

/-- A write elsewhere leaves the part of an owner as it is, also if it fails. -/
theorem part_write_of_foreign (gauges : Gauges) {owner : Option Category} {w : Write}
    (h : w.series.category? ≠ owner) :
    (gauges.write w).1.part owner = gauges.part owner := by
  cases hw : w.value.toReal with
  | ok x => simp only [write_of_ok hw, part_put_of_foreign gauges h]
  | error error =>
      by_cases hm : w.value.marksFirst
      · simp only [write_of_error hw, hm, if_true, mark]
        cases gauges.value? w.series with
        | none => exact part_put_of_foreign gauges h _
        | some x => rfl
      · simp [write_of_error hw, hm]

/-- Writes of one owner, wherever they break off, are the same writes to its part. -/
theorem part_writeAll_of_own (gauges : Gauges) {owner : Option Category} {writes : List Write}
    (h : ∀ w ∈ writes, w.series.category? = owner) :
    (gauges.writeAll writes).1.part owner = ((gauges.part owner).writeAll writes).1 := by
  induction writes generalizing gauges with
  | nil => rfl
  | cons w rest ih =>
      have hw := part_write_of_own gauges (h w (List.mem_cons_self ..))
      cases he : w.error? with
      | none =>
          rw [writeAll_cons_of_ok he, writeAll_cons_of_ok he,
            ih _ fun v hv => h v (List.mem_cons_of_mem _ hv), hw]
      | some error => rw [writeAll_cons_of_error he, writeAll_cons_of_error he, hw]

/-- Writes of other owners, wherever they break off, leave a part as it is. -/
theorem part_writeAll_of_foreign (gauges : Gauges) {owner : Option Category} {writes : List Write}
    (h : ∀ w ∈ writes, w.series.category? ≠ owner) :
    (gauges.writeAll writes).1.part owner = gauges.part owner := by
  induction writes generalizing gauges with
  | nil => rfl
  | cons w rest ih =>
      have hw := part_write_of_foreign gauges (h w (List.mem_cons_self ..))
      cases he : w.error? with
      | none =>
          rw [writeAll_cons_of_ok he, ih _ fun v hv => h v (List.mem_cons_of_mem _ hv), hw]
      | some error => rw [writeAll_cons_of_error he, hw]

end Gauges

end PodGauges
