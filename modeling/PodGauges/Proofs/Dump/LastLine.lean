import Mathlib
import PodGauges.Proofs.Cgroup.Files
import PodGauges.Proofs.Dump.Lines
import PodGauges.Proofs.Host.Sources
import PodGauges.Proofs.Processes.Fields
import PodGauges.Proofs.Processes.Samples

/-! The last line for a key decides in every dump that is read: the events and the processor
counters of a control group, the memory of the host, and the swap and the traffic of a process. They
differ in what counts as a key, in the scale of their numbers, and in what they show of a key that
no line gives. -/
namespace PodGauges

open File Number Text

/-! ## Events -/

/-- Events are told by the last line for each. -/
theorem Cgroup.memoryEvents_lastLineWins :
    Dump.LastLineWins (fun key : String => Dump.Tells key.toList) (fun _ n shown => shown = n)
      (fun events key => Keyed.get? key events) memoryEvents := by
  have hShows (text : List Char) (key : String) :
      Keyed.get? key (memoryEvents text) =
        Dump.last? key (Dump.readings (fun word => some (String.ofList word)) text) :=
    Keyed.get?_ofPairs _ key
  apply Dump.LastLineWins.of_readings (fun word => some (String.ofList word))
  · intro key n line
    rw [Dump.reading?_eq_some]
    simp only [Option.some.injEq, ← Dump.gives_iff_tells]
    constructor
    · rintro ⟨word, rfl, hGiven⟩
      rwa [String.toList_ofList]
    · intro hGiven
      exact ⟨key.toList, String.ofList_toList, hGiven⟩
  · intro text text' h
    simp only [memoryEvents, h]
  · exact hShows
  · intro text text' _ hLast key
    rw [hShows, hShows, hLast]

/-! ## Memory of the host -/

namespace Host

/-- A line that gives a number for an amount of memory: its first word is the key of the amount with
any number of colons behind it. -/
def TellsAmount (amount : MemoryAmount) (n : Int) (line : List Char) : Prop :=
  ∃ colons, Dump.Tells (amount.key.toList ++ List.replicate colons ':') n line

/-- No amount has a colon at its end, so that none is lost with that of the line. -/
theorem dropEnd_key (amount : MemoryAmount) :
    dropEnd (· == ':') amount.key.toList = amount.key.toList := by
  cases amount <;> decide

/-- A line gives an amount under its key with any number of colons. -/
theorem givesAmount_iff_tellsAmount {amount : MemoryAmount} {n : Int} {line : List Char} :
    GivesAmount amount n line ↔ TellsAmount amount n line := by
  constructor
  · rintro ⟨word, hKey, hGiven⟩
    obtain ⟨back, hWord, hBack⟩ := exists_dropEnd_append (· == ':') word
    have hColons : back = List.replicate back.length ':' :=
      List.eq_replicate_iff.mpr ⟨rfl, fun c hc => eq_of_beq (hBack c hc)⟩
    refine ⟨back.length, ?_⟩
    rw [← hKey, ← hColons, ← hWord]
    exact Dump.gives_iff_tells.mp hGiven
  · rintro ⟨colons, hTold⟩
    refine ⟨_, ?_, Dump.gives_iff_tells.mpr hTold⟩
    rw [dropEnd_append, dropEnd_key]
    simp

/-- The memory of the host is told by the last line for each amount. -/
theorem memoryBytes_lastLineWins :
    Dump.LastLineWins TellsAmount (fun _ n shown => shown = 1024 * n.getD 0)
      (fun amounts amount => amounts amount) memoryBytes := by
  apply Dump.LastLineWins.of_readings MemoryAmount.ofWord?
  · intro amount n line
    rw [reading?_eq_some, givesAmount_iff_tellsAmount]
  · intro text text' h
    funext amount
    simp only [memoryBytes, h]
  · intro text amount
    exact Int.mul_comm _ _
  · intro text text' _ hLast amount
    simp only [memoryBytes, hLast]

end Host

/-! ## Counters of the processor -/

namespace Cgroup.CpuStat

/-- A counter as it is shown: times are turned from microseconds into seconds. -/
inductive IsScaled : CpuStat → Int → Quantity → Prop where
  | time {stat : CpuStat} {n : Int} {x : Float} (hTime : stat.isTime)
      (hSeconds : realOfQuotient n 1000000 = .ok x) : IsScaled stat n (.real x)
  | count {stat : CpuStat} {n : Int} (hCount : ¬ stat.isTime) : IsScaled stat n (.int n)

theorem isScaled_of_value {stat : CpuStat} {n : Int} {amount : Quantity}
    (h : stat.value n = .ok amount) : IsScaled stat n amount := by
  unfold value at h
  split at h
  · next hTime =>
      obtain ⟨x, hSeconds, rfl⟩ := map_eq_ok.mp h
      exact .time hTime hSeconds
  · next hCount =>
      cases h
      exact .count hCount

/-- The only thing that can be wrong with a text is that one of its times is too large. -/
theorem eq_quotientTooLarge_of_ofText {text : List Char} {error : RangeError}
    (h : ofText text = .error error) : error = .quotientTooLarge := by
  rcases bind_eq_error.mp h with h | ⟨values, -, h⟩
  · obtain ⟨reading, -, h⟩ := exists_of_mapM_eq_error h
    have hValue : reading.1.value reading.2 = .error error := map_eq_error.mp h
    unfold value at hValue
    split at hValue
    · have hQuotient := map_eq_error.mp hValue
      unfold realOfQuotient at hQuotient
      split at hQuotient
      · cases hQuotient
      · exact (Except.error.inj hQuotient).symm
    · cases hValue
  · cases h

variable {text text' : List Char}

/-- The readings decide on the counters, whatever their order is but for the last of each. -/
theorem map_get?_congr (hPerm : (readings text).Perm (readings text'))
    (hLast : ∀ stat, Dump.last? stat (readings text') = Dump.last? stat (readings text))
    (stat : CpuStat) :
    (ofText text').map (Keyed.get? stat) = (ofText text).map (Keyed.get? stat) := by
  have hExists : (∃ table, ofText text' = .ok table) ↔ ∃ table, ofText text = .ok table := by
    simp only [exists_ofText_iff, hPerm.mem_iff]
  cases hText : ofText text with
  | ok table =>
      obtain ⟨table', hText'⟩ := hExists.mpr ⟨table, hText⟩
      have hSame := get?_of_ofText hText' stat
      rw [hLast, get?_of_ofText hText stat] at hSame
      have hShown : Keyed.get? stat table = Keyed.get? stat table' :=
        Option.map_injective (fun _ _ => Except.ok.inj) hSame
      rw [hText']
      exact congrArg Except.ok hShown.symm
  | error error =>
      cases hText' : ofText text' with
      | ok table' =>
          obtain ⟨table, hTable⟩ := hExists.mp ⟨table', hText'⟩
          cases hText.symm.trans hTable
      | error error' =>
          rw [eq_quotientTooLarge_of_ofText hText, eq_quotientTooLarge_of_ofText hText']

/-- The table holds the last number for each key, in the unit of the key. -/
theorem rel_of_ofText {table : Keyed CpuStat Quantity} (h : ofText text = .ok table)
    (stat : CpuStat) :
    Option.Rel (IsScaled stat) (Dump.last? stat (readings text)) (Keyed.get? stat table) := by
  have hValue := get?_of_ofText h stat
  cases hLast : Dump.last? stat (readings text) with
  | none =>
      have hNone : Keyed.get? stat table = none := by simpa [hLast] using hValue.symm
      rw [hNone]
      exact .none
  | some n =>
      rw [hLast] at hValue
      obtain ⟨amount, hShown, hAmount⟩ := Option.map_eq_some_iff.mp hValue.symm
      rw [hShown]
      exact .some (isScaled_of_value hAmount.symm)

/-- The table of the processor is told by the last line for each key, if it is told at all. -/
theorem ofText_lastLineWins :
    Dump.LastLineWins (fun stat : CpuStat => Dump.Tells stat.key.toList)
      (fun stat n shown => ∀ found, shown = .ok found → Option.Rel (IsScaled stat) n found)
      (fun table stat => table.map (Keyed.get? stat)) ofText := by
  apply Dump.LastLineWins.of_readings (Dump.keyOf? all key)
  · intro stat n line
    rw [Dump.reading?_keyOf?_eq_some keyOf?_key, Dump.gives_iff_tells]
  · intro text text' h
    simp only [ofText, h]
  · intro text stat found hFound
    obtain ⟨table, hTable, rfl⟩ := map_eq_ok.mp hFound
    exact rel_of_ofText hTable stat
  · intro text text' hPerm hLast stat
    exact map_get?_congr hPerm hLast stat

/-- The table can be told just if no line tells a time that is too large. -/
theorem exists_ofText_iff_tells : (∃ table, ofText text = .ok table) ↔
    ∀ (stat : CpuStat) n, stat.isTime → ∀ line ∈ lines text, Dump.Tells stat.key.toList n line →
      n.natAbs < firstTooLarge * 1000000 := by
  have hScale : microsecondsPerSecond = 1000000 := rfl
  simp only [exists_ofText_iff, readings, Dump.mem_readings_keyOf? keyOf?_key,
    Dump.gives_iff_tells, hScale]
  constructor
  · intro h stat n hTime line hLine hTold
    exact h stat n ⟨line, hLine, hTold⟩ hTime
  · rintro h stat n ⟨line, hLine, hTold⟩ hTime
    exact h stat n hTime line hLine hTold

end Cgroup.CpuStat

/-! ## Processes -/

namespace Processes

theorem swapBytes_lastLineWins :
    Dump.LastLineWins (fun _ : Unit => Dump.Tells "VmSwap:".toList)
      (fun _ n shown => shown = 1024 * n.getD 0) (fun swap _ => swap) swapBytes := by
  apply Dump.LastLineWins.of_readings (Dump.keyOf? [()] fun _ => swapKey)
  · intro _ n line
    rw [Dump.reading?_keyOf?_eq_some keyOf?_swapKey, Dump.gives_iff_tells]
    rfl
  · intro text text' h
    simp only [swapBytes, h]
  · intro text _
    exact Int.mul_comm _ _
  · intro text text' _ hLast _
    simp only [swapBytes, hLast]

theorem ioCounts_lastLineWins :
    Dump.LastLineWins (fun counter : IoCounter => Dump.Tells (counter.name ++ ":").toList)
      (fun _ n shown => shown = n.getD 0) (fun counts counter => counts counter) ioCounts := by
  apply Dump.LastLineWins.of_readings IoCounter.ofWord?
  · intro counter n line
    rw [← Dump.gives_iff_tells]
    exact Dump.reading?_keyOf?_eq_some IoCounter.keyOf?_name
  · intro text text' h
    funext counter
    simp only [ioCounts, h]
  · intro text counter
    rfl
  · intro text text' _ hLast counter
    exact congrArg (·.getD 0) (hLast counter)

end Processes

/-! ## All dumps -/

namespace Dump

/-- In each of the five dumps the last line that gives a number for a key decides on it, and no
other line does, nor the order of lines for different keys. Where no line gives one, the events and
the counters of the processor are absent and all other numbers are zero. The counters of the
processor can be told at all unless some line gives a time that no double holds. -/
theorem dumps_lastLineWins :
    LastLineWins (fun key : String => Tells key.toList) (fun _ n shown => shown = n)
      (fun events key => Keyed.get? key events) Cgroup.memoryEvents ∧
    LastLineWins Host.TellsAmount (fun _ n shown => shown = 1024 * n.getD 0)
      (fun amounts amount => amounts amount) Host.memoryBytes ∧
    LastLineWins (fun stat : Cgroup.CpuStat => Tells stat.key.toList)
      (fun stat n shown => ∀ found, shown = .ok found →
        Option.Rel (Cgroup.CpuStat.IsScaled stat) n found)
      (fun table stat => table.map (Keyed.get? stat)) Cgroup.CpuStat.ofText ∧
    (∀ text, (∃ table, Cgroup.CpuStat.ofText text = .ok table) ↔
      ∀ (stat : Cgroup.CpuStat) n, stat.isTime → ∀ line ∈ lines text,
        Tells stat.key.toList n line → n.natAbs < firstTooLarge * 1000000) ∧
    LastLineWins (fun _ : Unit => Tells "VmSwap:".toList) (fun _ n shown => shown = 1024 * n.getD 0)
      (fun swap _ => swap) Processes.swapBytes ∧
    LastLineWins (fun counter : Processes.IoCounter => Tells (counter.name ++ ":").toList)
      (fun _ n shown => shown = n.getD 0) (fun counts counter => counts counter)
      Processes.ioCounts ∧
    ∀ pageSize t root pid sample, Processes.Sample.read pageSize t root pid = .ok sample →
      sample.count .swap = Processes.swapBytes (Processes.textOf t root pid "status") ∧
        ∀ counter, sample.count (.io counter) =
          Processes.ioCounts (Processes.textOf t root pid "io") counter :=
  ⟨Cgroup.memoryEvents_lastLineWins, Host.memoryBytes_lastLineWins,
    Cgroup.CpuStat.ofText_lastLineWins, fun _ => Cgroup.CpuStat.exists_ofText_iff_tells,
    Processes.swapBytes_lastLineWins, Processes.ioCounts_lastLineWins,
    fun _ _ _ _ _ h => ⟨Processes.Sample.count_swap h, Processes.Sample.count_io h⟩⟩

/-- Memory that is told once, under a key with two colons. -/
def toldMemory : List Char := "MemTotal:: 7 kB\n".toList

/-- The same behind a line without a number, and in front of a torn one for the same key. -/
def tornMemory : List Char := "HugePages\nMemTotal:: 7 kB\nMemTotal: 9x kB".toList

/-- Neither the line in front nor the torn one behind takes the amount away. -/
theorem dumps_lastLineWins_tornMemory :
    Padded Host.TellsAmount (lines toldMemory) (lines tornMemory) ∧
      Host.memoryBytes tornMemory .total = 7168 := by
  have hTold : lines toldMemory = ["MemTotal:: 7 kB".toList] := by decide +kernel
  have hTorn : lines tornMemory =
      ["HugePages".toList, "MemTotal:: 7 kB".toList, "MemTotal: 9x kB".toList] := by
    decide +kernel
  have hIdle {line : List Char} (h : reading? Host.MemoryAmount.ofWord? line = none) :
      ∀ amount n, ¬ Host.TellsAmount amount n line := by
    intro amount n hTold
    rw [← Host.givesAmount_iff_tellsAmount, ← Host.reading?_eq_some, h] at hTold
    cases hTold
  have hPadded : Padded Host.TellsAmount (lines toldMemory) (lines tornMemory) := by
    rw [hTold, hTorn]
    apply Padded.put (hIdle (by decide +kernel))
    apply Padded.keep
    apply Padded.put (hIdle (by decide +kernel))
    exact Padded.nil
  constructor
  · exact hPadded
  · rw [dumps_lastLineWins.2.1.padded _ _ hPadded]
    decide +kernel

end Dump

end PodGauges
