import Mathlib
import PodGauges.Proofs.Cycle.Reading
import PodGauges.Proofs.Dump
import PodGauges.Proofs.Except

/-! What each file of a control group says of its own fields, and which files say too much. -/
namespace PodGauges.Cgroup

open File Number Text

/-! ## The counters of the processor -/

namespace CpuStat

variable {text : List Char}

theorem keyOf?_key (stat : CpuStat) : Dump.keyOf? all key stat.key.toList = some stat := by
  cases stat <;> decide

theorem isWord_key (stat : CpuStat) : IsWord stat.key.toList := by
  cases stat <;> decide

/-- What the lines of a text give for the counters, in order. -/
abbrev readings (text : List Char) : List (CpuStat × Int) :=
  Dump.readings (Dump.keyOf? all key) text

/-- Only a time has a greatest value, for a double has to hold it in seconds. -/
theorem exists_value_iff (stat : CpuStat) (n : Int) : (∃ amount, stat.value n = .ok amount) ↔
    (stat.isTime → n.natAbs < firstTooLarge * microsecondsPerSecond) := by
  unfold value
  split
  · next hTime =>
      simp only [map_eq_ok, hTime, forall_const]
      rw [← exists_realOfQuotient_iff (by decide)]
      exact ⟨fun ⟨_, x, hx, _⟩ => ⟨x, hx⟩, fun ⟨x, hx⟩ => ⟨_, x, hx, rfl⟩⟩
  · next hTime => simp [hTime]

section Traversal

variable {f : CpuStat × Int → Except RangeError (CpuStat × Quantity)}
  (hf : ∀ stat n, f (stat, n) = (stat.value n).map (stat, ·))
include hf

/-- Of the values of some readings each counter keeps that of its last reading. -/
theorem get?_of_mapM {readings : List (CpuStat × Int)} {values : List (CpuStat × Quantity)}
    (h : readings.mapM f = .ok values) (stat : CpuStat) :
    (Dump.last? stat readings).map stat.value =
      (Keyed.get? stat (Keyed.ofPairs values)).map .ok := by
  induction readings using List.reverseRecOn generalizing values with
  | nil =>
      cases h
      rfl
  | append_singleton readings reading ih =>
      rw [List.mapM_append] at h
      obtain ⟨front, hFront, h⟩ := bind_eq_ok.mp h
      obtain ⟨last, hLast, h⟩ := bind_eq_ok.mp h
      cases h
      rw [List.mapM_cons, List.mapM_nil] at hLast
      obtain ⟨value, hValue, hLast⟩ := bind_eq_ok.mp hLast
      cases hLast
      obtain ⟨other, n⟩ := reading
      rw [hf] at hValue
      obtain ⟨amount, hAmount, rfl⟩ := map_eq_ok.mp hValue
      rw [Dump.last?_append_singleton, Keyed.get?_ofPairs_append]
      by_cases hStat : stat = other
      · simp [hStat, hAmount]
      · simp [hStat, ih hFront]

theorem exists_mapM_iff {readings : List (CpuStat × Int)} :
    (∃ values, readings.mapM f = .ok values) ↔ ∀ stat n, (stat, n) ∈ readings → stat.isTime →
      n.natAbs < firstTooLarge * microsecondsPerSecond := by
  rw [exists_mapM_eq_ok_iff, Prod.forall]
  refine forall_congr' fun stat => forall_congr' fun n => imp_congr_right fun _ => ?_
  rw [← exists_value_iff, hf]
  simp only [map_eq_ok]
  exact ⟨fun ⟨_, x, hx, _⟩ => ⟨x, hx⟩, fun ⟨x, hx⟩ => ⟨_, x, hx, rfl⟩⟩

end Traversal

/-- The table has under a key the value of its last reading, or nothing. -/
theorem get?_of_ofText {table : Keyed CpuStat Quantity} (h : ofText text = .ok table)
    (stat : CpuStat) : (Dump.last? stat (readings text)).map stat.value =
      (table.get? stat).map .ok := by
  obtain ⟨values, hValues, h⟩ := bind_eq_ok.mp h
  cases h
  exact get?_of_mapM (fun _ _ => rfl) hValues stat

/-- The counters can be told unless one of the times is too large. -/
theorem exists_ofText_iff : (∃ table, ofText text = .ok table) ↔
    ∀ stat n, (stat, n) ∈ readings text → stat.isTime →
      n.natAbs < firstTooLarge * microsecondsPerSecond := by
  constructor
  · rintro ⟨table, h⟩
    obtain ⟨values, hValues, -⟩ := bind_eq_ok.mp h
    exact (exists_mapM_iff fun _ _ => rfl).mp ⟨values, hValues⟩
  · intro h
    obtain ⟨values, hValues⟩ := (exists_mapM_iff
      (f := fun reading => (reading.1.value reading.2).map (reading.1, ·)) fun _ _ => rfl).mpr h
    exact ⟨Keyed.ofPairs values, bind_eq_ok.mpr ⟨values, hValues, rfl⟩⟩

end CpuStat

/-! ## The bandwidth -/

/-- A text that gives a quota and a period as integers, of which the latter is positive. -/
def GivesQuota (text : List Char) (quota period : Int) : Prop :=
  ∃ first second rest, words text = first :: second :: rest ∧ integer? first = some quota ∧
    integer? second = some period ∧ 0 < period

theorem GivesQuota.pos {text : List Char} {quota period : Int} (h : GivesQuota text quota period) :
    0 < period := by
  obtain ⟨_, _, _, _, _, _, hPositive⟩ := h
  exact hPositive

/-- A text whose first word is that for no limit. -/
def IsUnlimited (text : List Char) : Prop := (words text).head? = some Limit.unlimitedWord

theorem bandwidth?_of_isUnlimited {text : List Char} (h : IsUnlimited text) :
    bandwidth? text = .ok (some .unlimited) := by
  obtain ⟨rest, hWords⟩ := List.head?_eq_some_iff.mp h
  rw [bandwidth?, hWords]
  exact if_pos rfl

/-- A quota over a period is a number of processors, if a double can hold it. -/
theorem bandwidth?_of_givesQuota {text : List Char} {quota period : Int}
    (h : GivesQuota text quota period) : bandwidth? text =
      (realOfQuotient quota period.toNat).map fun cores => some (.finite (.real cores)) := by
  obtain ⟨first, second, rest, hWords, hQuota, hPeriod, hPositive⟩ := h
  have hNumber : first ≠ Limit.unlimitedWord := by
    rintro rfl
    have hWord : integer? Limit.unlimitedWord = none := by decide
    rw [hWord] at hQuota
    cases hQuota
  rw [bandwidth?, hWords]
  dsimp only
  rw [if_neg hNumber, hQuota, List.head?_cons, Option.bind_some, hPeriod]
  exact if_pos hPositive

/-- A text with neither a quota and its period nor the word for no limit is told nothing of. -/
theorem bandwidth?_of_malformed {text : List Char} (hUnlimited : ¬ IsUnlimited text)
    (hQuota : ∀ quota period, ¬ GivesQuota text quota period) : bandwidth? text = .ok none := by
  unfold bandwidth?
  cases hWords : words text with
  | nil => rfl
  | cons first others =>
      have hNumber : first ≠ Limit.unlimitedWord := by
        rintro rfl
        exact hUnlimited (by rw [IsUnlimited, hWords, List.head?_cons])
      dsimp only
      rw [if_neg hNumber]
      cases hFirst : integer? first with
      | none => rfl
      | some quota =>
          cases others with
          | nil => rfl
          | cons second rest =>
              rw [List.head?_cons, Option.bind_some]
              cases hSecond : integer? second with
              | none => rfl
              | some period =>
                  refine if_neg fun hPositive => hQuota quota period ?_
                  exact ⟨first, second, rest, hWords, hFirst, hSecond, hPositive⟩

/-- A bandwidth can be told unless there are too many periods in the quota. -/
theorem exists_bandwidth?_iff {text : List Char} : (∃ limit, bandwidth? text = .ok limit) ↔
    ∀ quota period, GivesQuota text quota period →
      quota.natAbs < firstTooLarge * period.toNat := by
  have hQuotient {quota period : Int} (h : GivesQuota text quota period) :
      (∃ limit, bandwidth? text = .ok limit) ↔ quota.natAbs < firstTooLarge * period.toNat := by
    have hPositive := h.pos
    rw [bandwidth?_of_givesQuota h, ← exists_realOfQuotient_iff (by omega)]
    simp only [map_eq_ok]
    exact ⟨fun ⟨_, x, hx, _⟩ => ⟨x, hx⟩, fun ⟨x, hx⟩ => ⟨_, x, hx, rfl⟩⟩
  constructor
  · intro hTold quota period h
    exact (hQuotient h).mp hTold
  · intro hSmall
    by_cases hUnlimited : IsUnlimited text
    · exact ⟨_, bandwidth?_of_isUnlimited hUnlimited⟩
    · by_cases hQuota : ∃ quota period, GivesQuota text quota period
      · obtain ⟨quota, period, h⟩ := hQuota
        exact (hQuotient h).mpr (hSmall quota period h)
      · exact ⟨_, bandwidth?_of_malformed hUnlimited fun quota period h => hQuota ⟨_, _, h⟩⟩

/-! ## The whole directory -/

section Directory

variable {t : Tree} {root : Path}

/-- The counters of a file that may be missing. -/
def statOf (text : Option (List Char)) : Except RangeError (Keyed CpuStat Quantity) :=
  (text.map CpuStat.ofText).getD (.ok [])

/-- The bandwidth of a file that may be missing. -/
def bandwidthOf (text : Option (List Char)) : Except RangeError (Option Limit) :=
  (text.map bandwidth?).getD (.ok none)

/-- The processor is read just if both of its files can be used; each gives its own part. -/
theorem readCpu_eq_ok {cpu : Cpu} : readCpu t root = .ok cpu ↔
    (∃ table, statOf (text? t root "cpu.stat") = .ok table ∧
      cpu.stat = fun stat => Keyed.get? stat table) ∧
    bandwidthOf (text? t root "cpu.max") = .ok cpu.limit := by
  have hBind : readCpu t root = statOf (text? t root "cpu.stat") >>= fun table =>
      bandwidthOf (text? t root "cpu.max") >>= fun limit =>
        .ok ⟨fun stat => Keyed.get? stat table, limit⟩ := by
    unfold readCpu statOf bandwidthOf
    cases text? t root "cpu.stat" <;> cases text? t root "cpu.max" <;> rfl
  rw [hBind]
  simp only [bind_eq_ok]
  constructor
  · rintro ⟨table, hTable, limit, hLimit, h⟩
    cases h
    exact ⟨⟨table, hTable, rfl⟩, hLimit⟩
  · rintro ⟨⟨table, hTable, hStat⟩, hLimit⟩
    exact ⟨table, hTable, cpu.limit, hLimit, by rw [← hStat]⟩

/-- What can be told of a directory are the fields of its files, each by itself. -/
theorem read_eq_ok {snapshot : Snapshot} : read t root = .ok snapshot ↔
    t.isDirectory root = .ok true ∧ readCpu t root = .ok snapshot.cpu ∧
      snapshot.memory = readMemory t root := by
  unfold read
  split
  · next h => simp [h]
  · next h => simp [h]
  · next h =>
      cases readCpu t root with
      | error error => simp
      | ok cpu =>
          simp only [h, Except.ok.injEq, true_and]
          constructor
          · rintro rfl
            exact ⟨rfl, rfl⟩
          · rintro ⟨rfl, hMemory⟩
            rw [← hMemory]

end Directory

end PodGauges.Cgroup
