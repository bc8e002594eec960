import Mathlib
import PodGauges.Proofs.Cycle.Reading
import PodGauges.Proofs.Processes.Fields

/-! What the name of a process has to do with its sample. The kernel puts the name as it is into
two files. In the status line it stands in brackets and has no effect. In the other file it stands
in a line, and a name with a character that ends lines can go on with a line for the swap, which
counts if the process has none of its own. -/
namespace PodGauges.Processes

open File Number Text

/-- A file that begins with the line of the name. -/
def nameLine (name : List UInt8) : List UInt8 := Utf8.encode "Name:\t" ++ name

/-- Two trees that differ in the name of a process only, where the kernel puts it, and in files that
the sample of the process does not look at. A file that cannot be read is the same in both. -/
structure Renamed (t t' : Tree) (root : Path) (pid : Pid) (name name' : List UInt8) : Prop where
  newline_not_mem : 10 ∉ name
  newline_not_mem' : 10 ∉ name'
  stat : t'.status ((directory root pid).child "stat") =
      t.status ((directory root pid).child "stat") ∨
    ∃ front back, 41 ∉ back ∧
      t.read ((directory root pid).child "stat") = .ok (front ++ 40 :: name ++ 41 :: back) ∧
      t'.read ((directory root pid).child "stat") = .ok (front ++ 40 :: name' ++ 41 :: back)
  status : t'.status ((directory root pid).child "status") =
      t.status ((directory root pid).child "status") ∨
    ∃ rest,
      t.read ((directory root pid).child "status") = .ok (nameLine name ++ 10 :: rest) ∧
      t'.read ((directory root pid).child "status") = .ok (nameLine name' ++ 10 :: rest)
  statm : t'.status ((directory root pid).child "statm") =
    t.status ((directory root pid).child "statm")
  io : t'.status ((directory root pid).child "io") = t.status ((directory root pid).child "io")
  boot : t'.status (root.child "stat") = t.status (root.child "stat")

/-- The sample with another value for the swap. -/
def Sample.withSwap (sample : Sample) (n : Int) : Sample :=
  { sample with count := fun counter => if counter = .swap then n else sample.count counter }

/-- The swap that lines of bytes give, in kibibytes. -/
def toldSwap (bytes : List UInt8) : Option Int :=
  Dump.last? () (Dump.readings (Dump.keyOf? [()] fun _ => swapKey) (Utf8.decodeLossy bytes))

/-! ## The status line -/

section Accounting

variable {t t' : Tree} {root : Path} {pid : Pid} {name name' : List UInt8}

/-- Of the status line the name has no part in the fields. -/
theorem fieldBytes_name {front back : List UInt8} (h : 41 ∉ back) (name : List UInt8) :
    fieldBytes (front ++ 40 :: name ++ 41 :: back) = back.drop 1 := by
  rw [fieldBytes]
  exact congrArg (List.drop 1) (afterName_append h)

/-- Of a status line only the fields count. -/
theorem ofBytes?_congr {bytes bytes' : List UInt8} (h : fieldBytes bytes' = fieldBytes bytes) :
    Stat.ofBytes? bytes' = Stat.ofBytes? bytes := by
  simp only [Stat.ofBytes?, h]

theorem isZombieLine_congr {bytes bytes' : List UInt8} (h : fieldBytes bytes' = fieldBytes bytes) :
    isZombieLine bytes' = isZombieLine bytes := by
  simp only [isZombieLine, h]

/-- With the same fields a process is accounted for alike. -/
theorem Accounting.ofStat_congr {bytes bytes' : List UInt8}
    (hFields : fieldBytes bytes' = fieldBytes bytes)
    (hStatm : t'.status ((directory root pid).child "statm") =
      t.status ((directory root pid).child "statm"))
    (hBoot : t'.status (root.child "stat") = t.status (root.child "stat")) (stat : Stat) :
    ofStat t' root pid bytes' stat = ofStat t root pid bytes stat := by
  simp only [ofStat, beside, fileError?, isZombieLine_congr hFields, Tree.read_congr hStatm,
    Tree.read_congr hBoot]

/-- The name has no effect on what the files of the process as a whole tell. -/
theorem Renamed.accounting_eq (h : Renamed t t' root pid name name') :
    Accounting.read t' root pid = Accounting.read t root pid := by
  have hOfStat {bytes bytes' : List UInt8} (hFields : fieldBytes bytes' = fieldBytes bytes) :=
    Accounting.ofStat_congr hFields h.statm h.boot
  rcases h.stat with hSame | ⟨front, back, hBack, hRead, hRead'⟩
  · simp only [Accounting.read, Tree.read_congr hSame, Tree.isPresent_congr hSame, hOfStat rfl]
  · have hFields : fieldBytes (front ++ 40 :: name' ++ 41 :: back) =
        fieldBytes (front ++ 40 :: name ++ 41 :: back) := by
      rw [fieldBytes_name hBack, fieldBytes_name hBack]
    simp only [Accounting.read, hRead, hRead', ofBytes?_congr hFields, hOfStat hFields]

end Accounting

/-! ## Swap -/

section Swap

/-- The swap in bytes is what is told of it, or zero. -/
theorem swapBytes_decodeLossy (bytes : List UInt8) :
    swapBytes (unifyNewlines (Utf8.decodeLossy bytes)) = (toldSwap bytes).getD 0 * 1024 := by
  rw [swapBytes, Dump.readings_unifyNewlines, toldSwap]

/-- What the lines behind a line feed say counts; only if it is nothing, what is in front does. -/
theorem toldSwap_append (front rest : List UInt8) :
    toldSwap (front ++ 10 :: rest) = (toldSwap rest).or (toldSwap front) := by
  rw [toldSwap, Dump.readings_decodeLossy_append, Dump.last?_append]
  rfl

/-- Without a character that ends lines a name says nothing but itself. -/
theorem toldSwap_nameLine {name : List UInt8} (h : IsLine (Utf8.decodeLossy name)) :
    toldSwap (nameLine name) = none := by
  have hMark : "Name:\t" = String.ofList (['N', 'a', 'm', 'e', ':'] ++ ['\t']) := rfl
  have hWord : IsWord ['N', 'a', 'm', 'e', ':'] := by decide
  have hEnds : EndsWord ('\t' :: Utf8.decodeLossy name) := by
    have hTab : isBlank '\t' := by decide
    exact hTab
  have hSingle : IsLine (['N', 'a', 'm', 'e', ':'] ++ '\t' :: Utf8.decodeLossy name) := by
    intro c hc
    rcases List.mem_append.mp hc with hc | hc
    · exact hWord.isLine c hc
    · rcases List.mem_cons.mp hc with rfl | hc
      · decide
      · exact h c hc
  have hSilent : Dump.reading? (Dump.keyOf? [()] fun _ => swapKey)
      (['N', 'a', 'm', 'e', ':'] ++ '\t' :: Utf8.decodeLossy name) = none := by
    rw [Dump.reading?, words_append hWord hEnds]
    cases words ('\t' :: Utf8.decodeLossy name) <;> rfl
  rw [toldSwap, nameLine, hMark, Utf8.decodeLossy_encode_append, List.append_assoc,
    List.singleton_append, Dump.readings_of_isLine _ (by simp) hSingle, hSilent]
  rfl

end Swap

/-! ## The sample -/

section Sample

variable {pageSize : Nat} {t t' : Tree} {root : Path} {pid : Pid} {name name' : List UInt8}

theorem Sample.withSwap_withSwap (sample : Sample) (n m : Int) :
    (sample.withSwap n).withSwap m = sample.withSwap m := by
  simp only [withSwap, Sample.mk.injEq, true_and]
  funext counter
  split <;> rfl

theorem Sample.withSwap_count (sample : Sample) :
    sample.withSwap (sample.count .swap) = sample := by
  have hCount (counter : Counter) :
      (if counter = .swap then sample.count .swap else sample.count counter) =
        sample.count counter := by
    split
    · next h => rw [h]
    · rfl
  simp only [withSwap, hCount]

theorem Sample.withSwap_inj {sample : Sample} {n m : Int} :
    sample.withSwap n = sample.withSwap m ↔ n = m := by
  constructor
  · intro h
    simpa [withSwap] using congrArg (fun sample => sample.count .swap) h
  · exact congrArg _

/-- Apart from the swap a sample goes by the accounting and by the traffic. -/
theorem Sample.read_eq_map_withSwap
    (hAccounting : Accounting.read t' root pid = Accounting.read t root pid)
    (hIo : t'.status ((directory root pid).child "io") =
      t.status ((directory root pid).child "io")) :
    Sample.read pageSize t' root pid = (Sample.read pageSize t root pid).map fun sample =>
      sample.withSwap (swapBytes (textOf t' root pid "status")) := by
  rw [read_eq_map, read_eq_map, hAccounting, textOf_congr hIo]
  cases Accounting.read t root pid with
  | error error => rfl
  | ok known =>
      refine congrArg Except.ok ?_
      simp only [ofParts, withSwap, Sample.mk.injEq, true_and]
      funext counter
      cases counter <;> rfl

theorem swapBytes_textOf {bytes : List UInt8}
    (h : t.read ((directory root pid).child "status") = .ok bytes) :
    swapBytes (textOf t root pid "status") = (toldSwap bytes).getD 0 * 1024 := by
  rw [textOf, Tree.readLossy, h]
  exact swapBytes_decodeLossy bytes

/-- Under another name a process has the sample that it had, with the swap told there. -/
theorem Renamed.read_eq (h : Renamed t t' root pid name name') :
    Sample.read pageSize t' root pid = (Sample.read pageSize t root pid).map fun sample =>
      sample.withSwap (swapBytes (textOf t' root pid "status")) :=
  Sample.read_eq_map_withSwap h.accounting_eq h.io

/-- A process with another name has the same sample just if the swap that is told is the same, or if
there is no sample at all. -/
theorem Renamed.read_eq_iff (h : Renamed t t' root pid name name') :
    Sample.read pageSize t' root pid = Sample.read pageSize t root pid ↔
      (∃ error, Sample.read pageSize t root pid = .error error) ∨
      swapBytes (textOf t' root pid "status") = swapBytes (textOf t root pid "status") := by
  rw [h.read_eq]
  cases hRead : Sample.read pageSize t root pid with
  | error error => exact iff_of_true rfl (.inl ⟨error, rfl⟩)
  | ok sample =>
      have hOwn : sample.withSwap (swapBytes (textOf t root pid "status")) = sample := by
        rw [← Sample.count_swap hRead]
        exact sample.withSwap_count
      constructor
      · intro hSame
        refine .inr (Sample.withSwap_inj.mp (?_ : sample.withSwap _ = sample.withSwap _))
        rw [hOwn]
        exact Except.ok.inj hSame
      · rintro (⟨error, hError⟩ | hSwap)
        · cases hError
        · rw [hSwap]
          exact congrArg _ hOwn

end Sample

/-- The name of a process has no effect on its sample but for the swap, and none on the swap where
it stands in the status line only, where it has no character that ends a line, or where lines behind
it tell the swap. Otherwise the name takes the place of such a line: the samples of two names are
the same just if both tell the same swap, where none counts as zero. -/
theorem read_of_renamed {pageSize : Nat} {t t' : Tree} {root : Path} {pid : Pid}
    {name name' : List UInt8} (h : Renamed t t' root pid name name') :
    (Sample.read pageSize t' root pid).map (·.withSwap 0) =
      (Sample.read pageSize t root pid).map (·.withSwap 0) ∧
    (t'.status ((directory root pid).child "status") =
        t.status ((directory root pid).child "status") →
      Sample.read pageSize t' root pid = Sample.read pageSize t root pid) ∧
    (IsLine (Utf8.decodeLossy name) → IsLine (Utf8.decodeLossy name') →
      Sample.read pageSize t' root pid = Sample.read pageSize t root pid) ∧
    ∀ rest, t.read ((directory root pid).child "status") = .ok (nameLine name ++ 10 :: rest) →
      t'.read ((directory root pid).child "status") = .ok (nameLine name' ++ 10 :: rest) →
      (Sample.read pageSize t' root pid = Sample.read pageSize t root pid ↔
        (∃ error, Sample.read pageSize t root pid = .error error) ∨
        (∃ line ∈ lines (Utf8.decodeLossy rest), ∃ n, Dump.Gives "VmSwap:".toList n line) ∨
        (toldSwap (nameLine name')).getD 0 = (toldSwap (nameLine name)).getD 0) := by
  have hTold {rest : List UInt8} : (toldSwap rest).isSome ↔
      ∃ line ∈ lines (Utf8.decodeLossy rest), ∃ n, Dump.Gives "VmSwap:".toList n line :=
    Dump.isSome_last?_readings_iff keyOf?_swapKey
  have hUntouched (hSame : t'.status ((directory root pid).child "status") =
      t.status ((directory root pid).child "status")) :
      Sample.read pageSize t' root pid = Sample.read pageSize t root pid := by
    refine h.read_eq_iff.mpr (.inr ?_)
    simp only [textOf, Tree.readLossy_congr hSame]
  refine ⟨?_, hUntouched, ?_, ?_⟩
  · rw [h.read_eq]
    cases Sample.read pageSize t root pid with
    | error error => rfl
    | ok sample => exact congrArg Except.ok (sample.withSwap_withSwap _ _)
  · intro hLine hLine'
    rcases h.status with hSame | ⟨rest, hRead, hRead'⟩
    · exact hUntouched hSame
    · refine h.read_eq_iff.mpr (.inr ?_)
      rw [swapBytes_textOf hRead', swapBytes_textOf hRead, toldSwap_append, toldSwap_append,
        toldSwap_nameLine hLine, toldSwap_nameLine hLine']
  · intro rest hRead hRead'
    rw [h.read_eq_iff, swapBytes_textOf hRead', swapBytes_textOf hRead, toldSwap_append,
      toldSwap_append, ← hTold]
    refine or_congr_right ?_
    cases toldSwap rest with
    | none =>
        simp only [Option.none_or, Option.isSome_none, Bool.false_eq_true, false_or]
        omega
    | some n => simp

/-- A process that has ended and was not waited for. Of its swap nothing is told. -/
def zombieNamed (name : List UInt8) : Tree :=
  let zeros := (List.replicate 48 (Utf8.asciiBytes " 0".toList)).flatten
  ⟨[(["proc"], .directory), (["proc", "7"], .directory),
    (["proc", "7", "stat"], .file (Utf8.asciiBytes "7 ".toList ++ 40 :: name ++
      41 :: (Utf8.asciiBytes " Z 1".toList ++ zeros ++ [10]))),
    (["proc", "7", "statm"], .file (Utf8.asciiBytes "0 0 0 0 0 0 0\n".toList)),
    (["proc", "7", "status"],
      .file (nameLine name ++ 10 :: Utf8.asciiBytes "State:\tZ (zombie)\n".toList)),
    (["proc", "stat"], .file (Utf8.asciiBytes "btime 1700000000\n".toList))]⟩

theorem renamed_zombieNamed {name name' : List UInt8} (h : 10 ∉ name) (h' : 10 ∉ name') :
    Renamed (zombieNamed name) (zombieNamed name') ⟨.root, ["proc"]⟩ 7 name name' where
  newline_not_mem := h
  newline_not_mem' := h'
  stat := .inr ⟨_, _, by decide +kernel, rfl, rfl⟩
  status := .inr ⟨_, rfl, rfl⟩
  statm := rfl
  io := rfl
  boot := rfl

def plainName : List UInt8 := Utf8.asciiBytes "a".toList

/-- A name that closes the bracket in which it stands. -/
def bracketName : List UInt8 := Utf8.asciiBytes "b) R (c".toList

/-- A name with a carriage return and a line of its own. -/
def forgedName : List UInt8 := Utf8.asciiBytes "a\rVmSwap: 7".toList

/-- A bracket in the name makes no difference. -/
theorem read_of_renamed_bracketName :
    Renamed (zombieNamed plainName) (zombieNamed bracketName) ⟨.root, ["proc"]⟩ 7 plainName
      bracketName ∧
    Sample.read 4096 (zombieNamed bracketName) ⟨.root, ["proc"]⟩ 7 =
      Sample.read 4096 (zombieNamed plainName) ⟨.root, ["proc"]⟩ 7 := by
  have hRenamed := @renamed_zombieNamed plainName bracketName (by decide) (by decide)
  exact ⟨hRenamed, (read_of_renamed hRenamed).2.2.1 (by decide +kernel) (by decide +kernel)⟩

/-- The forged line is told as the swap of a process that has none. -/
theorem swap_of_forgedName :
    Renamed (zombieNamed plainName) (zombieNamed forgedName) ⟨.root, ["proc"]⟩ 7 plainName
      forgedName ∧
    (Sample.read 4096 (zombieNamed plainName) ⟨.root, ["proc"]⟩ 7).toOption.map (·.count .swap) =
      some 0 ∧
    (Sample.read 4096 (zombieNamed forgedName) ⟨.root, ["proc"]⟩ 7).toOption.map (·.count .swap) =
      some 7168 :=
  ⟨renamed_zombieNamed (by decide) (by decide), by decide +kernel, by decide +kernel⟩

end PodGauges.Processes
