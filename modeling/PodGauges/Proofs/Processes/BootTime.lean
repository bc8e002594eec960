import PodGauges.Proofs.Cycle.Reading
import PodGauges.Proofs.Except
import PodGauges.Proofs.Processes.Samples
import PodGauges.Proofs.Text.Utf8

/-! What the boot time of the host has to do with the samples of processes. Its file is looked up
anew for every process, and what is said by it goes into the start alone. An error of that file is
taken for one of the process, though, so that some errors cost a process its whole sample. -/
namespace PodGauges.Processes

open File

/-- Two trees in which the files of a process are the same. Nothing is said of the file with the
boot time, which may be there or not, say anything, and fail to open for any reason. -/
def AgreeOnFiles (t t' : Tree) (root : Path) (pid : Pid) : Prop :=
  ∀ name ∈ fileNames, t'.status ((directory root pid).child name) =
    t.status ((directory root pid).child name)

/-- The sample as it is where the start is not known. -/
def Sample.withoutStart (sample : Sample) : Sample := { sample with start := none }

/-- An error of a file by which the process with a given status line counts as gone or as out of
reach. That the file is not there is held against a process only if it has ended. -/
def IsHeldAgainst (error : Errno) (stat : List UInt8) : Prop :=
  error = .permissionDenied ∨ error = .operationNotPermitted ∨ error = .noSuchProcess ∨
    error = .noSuchFile ∧ isZombieLine stat

/-- A process for which the boot time is looked up: there is a status line that can be understood,
and nothing is held against the process before. -/
structure NeedsBoot (t : Tree) (root : Path) (pid : Pid) (stat : List UInt8) : Prop where
  notNegative : 0 ≤ pid
  belowLimit : pid < pidLimit
  line : t.read ((directory root pid).child "stat") = .ok stat
  understood : (Stat.ofBytes? stat).isSome
  pages : ∀ error, t.read ((directory root pid).child "statm") = .error error →
    ¬ IsHeldAgainst error stat

/-- A process that has no sample because of the file with the boot time. -/
def LostToBoot (t : Tree) (root : Path) (pid : Pid) : Prop :=
  ∃ stat error, NeedsBoot t root pid stat ∧ t.read (root.child "stat") = .error error ∧
    IsHeldAgainst error stat

section Accounting

variable {t t' : Tree} {root : Path} {pid : Pid} {stat : List UInt8}

/-- An error is passed over just if it is not held against the process. -/
theorem Accounting.fileError?_eq_none (pid : Pid) {error : Errno} :
    fileError? pid stat error = none ↔ ¬ IsHeldAgainst error stat := by
  unfold fileError? IsHeldAgainst
  split
  · next hDenied => exact iff_of_false (by simp) fun h => h (hDenied.imp_right .inl)
  · next hDenied =>
      obtain ⟨hPermission, hOperation⟩ := not_or.mp hDenied
      split
      · next hZombie =>
          refine iff_of_false (by simp) fun h => h ?_
          exact .inr (.inr (hZombie.2.imp_right fun hFile => ⟨hFile, hZombie.1⟩))
      · next hZombie =>
          split
          · next hGone => exact iff_of_false (by simp) fun h => h (.inr (.inr (.inl hGone)))
          · next hGone =>
              refine iff_of_true rfl ?_
              rintro (h | h | h | ⟨hFile, hEnded⟩)
              · exact hPermission h
              · exact hOperation h
              · exact hGone h
              · exact hZombie ⟨hEnded, .inr hFile⟩

/-- A file beside the status line leaves its fields unknown at most, unless its error is held
against the process. -/
theorem Accounting.exists_beside_iff (pid : Pid) {path : Path} :
    (∃ bytes, beside t pid stat path = .ok bytes) ↔
      ∀ error, t.read path = .error error → ¬ IsHeldAgainst error stat := by
  unfold beside
  cases hRead : t.read path with
  | ok bytes => exact iff_of_true ⟨_, rfl⟩ fun _ h => nomatch h
  | error error =>
      simp only [Except.error.injEq, forall_eq']
      rw [← fileError?_eq_none pid]
      cases fileError? pid stat error <;> simp

theorem AgreeOnFiles.read_eq (h : AgreeOnFiles t t' root pid) {name : String}
    (hName : name ∈ fileNames) :
    t'.read ((directory root pid).child name) = t.read ((directory root pid).child name) :=
  Tree.read_congr (h name hName)

theorem AgreeOnFiles.symm (h : AgreeOnFiles t t' root pid) : AgreeOnFiles t' t root pid :=
  fun name hName => (h name hName).symm

theorem NeedsBoot.of_agree (h : NeedsBoot t root pid stat) (hAgree : AgreeOnFiles t t' root pid) :
    NeedsBoot t' root pid stat where
  notNegative := h.notNegative
  belowLimit := h.belowLimit
  line := (hAgree.read_eq (by decide)).trans h.line
  understood := h.understood
  pages error hError := h.pages error ((hAgree.read_eq (by decide)).symm.trans hError)

/-- Whether the boot time is needed is told by the files of the process. -/
theorem AgreeOnFiles.needsBoot_iff (h : AgreeOnFiles t t' root pid) :
    NeedsBoot t' root pid stat ↔ NeedsBoot t root pid stat :=
  ⟨fun hNeeds => hNeeds.of_agree h.symm, fun hNeeds => hNeeds.of_agree h⟩

/-- For a process that needs it the boot time is the last thing to be looked up, and only the start
is made of it. -/
theorem NeedsBoot.read_eq (h : NeedsBoot t root pid stat) (hAgree : AgreeOnFiles t t' root pid) :
    ∃ (known : Accounting) (start : Option (List UInt8) → Option Float), ∀ tree ∈ [t, t'],
      Accounting.read tree root pid = (Accounting.beside tree pid stat (root.child "stat")).map
        fun boot => { known with start := start boot } := by
  obtain ⟨fields, hFields⟩ := Option.isSome_iff_exists.mp h.understood
  obtain ⟨pages, hPages⟩ := (Accounting.exists_beside_iff pid).mpr h.pages
  let known : Accounting :=
    { cpu := fields.cpu.map fun cpu => (cpu.1 / ticksPerSecond, cpu.2 / ticksPerSecond)
      start := none
      pages := pages.bind pageCounts? }
  refine ⟨known, fun boot => (boot.bind bootTime?).map (fields.start / ticksPerSecond + ·), ?_⟩
  have hRead {tree : Tree} (hLine : tree.read ((directory root pid).child "stat") = .ok stat)
      (hPages : Accounting.beside tree pid stat ((directory root pid).child "statm") = .ok pages) :
      Accounting.read tree root pid = (Accounting.beside tree pid stat (root.child "stat")).map
        fun boot => { known with
          start := (boot.bind bootTime?).map (fields.start / ticksPerSecond + ·) } := by
    simp only [Accounting.read, if_neg (Int.not_lt.mpr h.notNegative),
      if_neg (Int.not_le.mpr h.belowLimit), hLine, hFields, Accounting.ofStat, hPages]
    cases Accounting.beside tree pid stat (root.child "stat") <;> rfl
  simp only [List.forall_mem_cons, List.not_mem_nil, false_implies, implies_true, and_true]
  refine ⟨hRead h.line hPages, hRead ((hAgree.read_eq (by decide)).trans h.line) ?_⟩
  rw [← hPages]
  simp only [Accounting.beside, hAgree.read_eq (by decide : "statm" ∈ fileNames)]

/-- For any other process the boot time is not even looked up. -/
theorem AgreeOnFiles.accounting_eq (h : AgreeOnFiles t t' root pid)
    (hNeeds : ∀ stat, ¬ NeedsBoot t root pid stat) :
    Accounting.read t' root pid = Accounting.read t root pid := by
  have hStat := h "stat" (by decide)
  unfold Accounting.read
  simp only [Tree.read_congr hStat, Tree.isPresent_congr hStat]
  split_ifs with hNegative hLimit
  · rfl
  · rfl
  · cases hLine : t.read ((directory root pid).child "stat") with
    | error error => rfl
    | ok stat =>
        cases hFields : Stat.ofBytes? stat with
        | none => simp only [hFields]
        | some fields =>
            -- Then it is the page counts that are held against the process.
            have hHeld : ¬ ∃ pages,
                Accounting.beside t pid stat ((directory root pid).child "statm") = .ok pages := by
              rw [Accounting.exists_beside_iff]
              exact fun hPages => hNeeds stat ⟨Int.not_lt.mp hNegative, Int.not_le.mp hLimit,
                hLine, Option.isSome_iff_exists.mpr ⟨fields, hFields⟩, hPages⟩
            have hSame : Accounting.beside t' pid stat ((directory root pid).child "statm") =
                Accounting.beside t pid stat ((directory root pid).child "statm") := by
              simp only [Accounting.beside, h.read_eq (by decide : "statm" ∈ fileNames)]
            simp only [hFields, Accounting.ofStat, hSame]
            cases hPages : Accounting.beside t pid stat ((directory root pid).child "statm") with
            | error error => rfl
            | ok pages => exact absurd ⟨pages, hPages⟩ hHeld

end Accounting

section Samples

variable {pageSize : Nat} {t t' : Tree} {root : Path} {pid : Pid}

/-- What a sample has beside the accounting comes from the files of the process. -/
theorem AgreeOnFiles.sample_eq (h : AgreeOnFiles t t' root pid) (pageSize : Nat) :
    ∃ make : Accounting → Sample,
      (∀ known start, (make { known with start }).withoutStart = (make known).withoutStart) ∧
      ∀ tree ∈ [t, t'],
        Sample.read pageSize tree root pid = (Accounting.read tree root pid).map make := by
  refine ⟨Sample.ofParts pageSize (textOf t root pid "status") (textOf t root pid "io"),
    fun _ _ => rfl, ?_⟩
  simp only [List.forall_mem_cons, List.not_mem_nil, false_implies, implies_true, and_true]
  constructor
  · exact Sample.read_eq_map pageSize t root pid
  · rw [Sample.read_eq_map, textOf_congr (h "status" (by decide)),
      textOf_congr (h "io" (by decide))]

/-- A process that is lost to the boot time contributes nothing, and one that needs it and is not
lost contributes the same whatever the boot time is, but for the start. -/
theorem NeedsBoot.contribution {stat : List UInt8} (h : NeedsBoot t root pid stat)
    (hAgree : AgreeOnFiles t t' root pid) (pageSize : Nat) : ∃ sample, ∀ tree ∈ [t, t'],
      (LostToBoot tree root pid → (Sample.read pageSize tree root pid).toOption = none) ∧
      (¬ LostToBoot tree root pid →
        (Sample.read pageSize tree root pid).toOption.map Sample.withoutStart = some sample) := by
  obtain ⟨known, start, hRead⟩ := h.read_eq hAgree
  obtain ⟨make, hMake, hSample⟩ := hAgree.sample_eq pageSize
  refine ⟨(make known).withoutStart, fun tree hTree => ?_⟩
  have hNeeds : NeedsBoot tree root pid stat := by
    rcases List.mem_cons.mp hTree with rfl | hTree
    · exact h
    · cases List.mem_singleton.mp hTree
      exact h.of_agree hAgree
  rw [hSample tree hTree, hRead tree hTree]
  constructor
  · rintro ⟨line, error, hOther, hBoot, hHeld⟩
    cases Except.ok.inj (hOther.line.symm.trans hNeeds.line)
    cases hBeside : Accounting.beside tree pid stat (root.child "stat") with
    | error error => rfl
    | ok boot =>
        exact absurd hHeld ((Accounting.exists_beside_iff pid).mp ⟨boot, hBeside⟩ error hBoot)
  · intro hLost
    obtain ⟨boot, hBoot⟩ : ∃ boot, Accounting.beside tree pid stat (root.child "stat") = .ok boot :=
      (Accounting.exists_beside_iff pid).mpr fun error hBoot hHeld =>
        hLost ⟨stat, error, hNeeds, hBoot, hHeld⟩
    rw [hBoot]
    exact congrArg some (hMake known _)

/-- The file with the boot time makes a difference beyond the start just if the process is lost to
it in one tree and not in the other. -/
theorem AgreeOnFiles.contribution_eq_iff (h : AgreeOnFiles t t' root pid) :
    (Sample.read pageSize t' root pid).toOption.map Sample.withoutStart =
        (Sample.read pageSize t root pid).toOption.map Sample.withoutStart ↔
      (LostToBoot t' root pid ↔ LostToBoot t root pid) := by
  by_cases hNeeds : ∃ stat, NeedsBoot t root pid stat
  · obtain ⟨stat, hNeeds⟩ := hNeeds
    obtain ⟨sample, hSample⟩ := hNeeds.contribution h pageSize
    obtain ⟨hLost, hKept⟩ := hSample t (by simp)
    obtain ⟨hLost', hKept'⟩ := hSample t' (by simp)
    by_cases hBoot : LostToBoot t root pid <;> by_cases hBoot' : LostToBoot t' root pid
    · simp [hBoot, hBoot', hLost hBoot, hLost' hBoot']
    · simp [hBoot, hBoot', hLost hBoot, hKept' hBoot']
    · simp [hBoot, hBoot', hKept hBoot, hLost' hBoot']
    · simp [hBoot, hBoot', hKept hBoot, hKept' hBoot']
  · have hNone : ∀ stat, ¬ NeedsBoot t root pid stat := not_exists.mp hNeeds
    obtain ⟨make, -, hSample⟩ := h.sample_eq pageSize
    refine iff_of_true ?_ (iff_of_false ?_ ?_)
    · rw [hSample t' (by simp), hSample t (by simp), h.accounting_eq hNone]
    · rintro ⟨stat, _, hOther, _⟩
      exact hNone stat (h.needsBoot_iff.mp hOther)
    · rintro ⟨stat, _, hOther, _⟩
      exact hNone stat hOther

/-- A status line that cannot be opened is none of the business of the boot time. -/
theorem AgreeOnFiles.unopened_iff (h : AgreeOnFiles t t' root pid) {error : IoError} :
    Sample.read pageSize t' root pid = .error (.unopened error) ↔
      Sample.read pageSize t root pid = .error (.unopened error) := by
  have hOneWay {t t' : Tree} (h : AgreeOnFiles t t' root pid)
      (hUnopenable : Unopenable t root pid error.error) : Unopenable t' root pid error.error := by
    obtain ⟨hNegative, hLimit, hUnread, hDenied, hGone, hAbsent⟩ := hUnopenable
    have hStat := h "stat" (by decide)
    rw [← Tree.read_congr hStat] at hUnread
    rw [← Tree.isPresent_congr hStat] at hAbsent
    exact ⟨hNegative, hLimit, hUnread, hDenied, hGone, hAbsent⟩
  have hUnopenable : Unopenable t' root pid error.error ↔ Unopenable t root pid error.error :=
    ⟨hOneWay h.symm, hOneWay h⟩
  simp only [Sample.read_eq_error, Accounting.read_eq_unopened, hUnopenable]

/-- A round either ends at a process in both trees, for the same reason, or goes on in both with
what the process contributes. -/
theorem AgreeOnFiles.samples_cons (h : AgreeOnFiles t t' root pid) (pids : List Pid) :
    (∃ error, ∀ tree ∈ [t, t'], samples pageSize tree root (pid :: pids) = .error error) ∨
    ∀ tree ∈ [t, t'], samples pageSize tree root (pid :: pids) =
      (samples pageSize tree root pids).map
        ((Sample.read pageSize tree root pid).toOption.toList ++ ·) := by
  have hGoesOn {tree : Tree} (hNone : ¬ EndsRound tree root pid) :
      samples pageSize tree root (pid :: pids) =
        (samples pageSize tree root pids).map
          ((Sample.read pageSize tree root pid).toOption.toList ++ ·) := by
    rcases Processes.samples_cons pageSize tree root pid pids with ⟨_, hEnds, _⟩ | ⟨_, hSamples⟩
    · exact absurd hEnds hNone
    · exact hSamples
  by_cases hEnds : EndsRound t root pid
  · obtain ⟨error, hRead⟩ := (Sample.read_eq_unopened_iff pageSize).mpr hEnds
    refine .inl ⟨error, ?_⟩
    simp [samples, hRead, h.unopened_iff.mpr hRead]
  · have hEnds' : ¬ EndsRound t' root pid := by
      rw [← Sample.read_eq_unopened_iff pageSize] at hEnds ⊢
      rintro ⟨error, hRead⟩
      exact hEnds ⟨error, h.unopened_iff.mp hRead⟩
    exact .inr (by simp [hGoesOn hEnds, hGoesOn hEnds'])

variable {pids : List Pid} (h : ∀ pid ∈ pids, AgreeOnFiles t t' root pid)
include h

/-- The boot time never ends a round. -/
theorem samples_eq_error_iff (error : IoError) :
    samples pageSize t' root pids = .error error ↔ samples pageSize t root pids = .error error := by
  induction pids with
  | nil => exact iff_of_false (by simp [samples]) (by simp [samples])
  | cons pid pids ih =>
      obtain ⟨hFirst, hRest⟩ := List.forall_mem_cons.mp h
      rcases hFirst.samples_cons pids with ⟨other, hSamples⟩ | hSamples
      · rw [hSamples t (by simp), hSamples t' (by simp)]
      · have hMap {xs : Except IoError (List Sample)} {f : List Sample → List Sample} :
            xs.map f = .error error ↔ xs = .error error := by
          cases xs <;> simp [Except.map]
        rw [hSamples t (by simp), hSamples t' (by simp), hMap, hMap, ih hRest]

/-- If no process is lost in one of the trees only, the rounds are the same but for the starts. -/
theorem samples_eq_of_contributions (hSame : ∀ pid ∈ pids,
      (Sample.read pageSize t' root pid).toOption.map Sample.withoutStart =
        (Sample.read pageSize t root pid).toOption.map Sample.withoutStart) :
    (samples pageSize t' root pids).map (·.map Sample.withoutStart) =
      (samples pageSize t root pids).map (·.map Sample.withoutStart) := by
  induction pids with
  | nil => rfl
  | cons pid pids ih =>
      obtain ⟨hFirst, hRest⟩ := List.forall_mem_cons.mp h
      obtain ⟨hOwn, hOthers⟩ := List.forall_mem_cons.mp hSame
      rcases hFirst.samples_cons pids with ⟨other, hSamples⟩ | hSamples
      · rw [hSamples t (by simp), hSamples t' (by simp)]
      · have hMap (xs : Except IoError (List Sample)) (own : Option Sample) :
            (xs.map (own.toList ++ ·)).map (·.map Sample.withoutStart) =
              (xs.map (·.map Sample.withoutStart)).map
                ((own.map Sample.withoutStart).toList ++ ·) := by
          cases xs <;> cases own <;> rfl
        rw [hSamples t (by simp), hSamples t' (by simp), hMap, hMap, hOwn, ih hRest hOthers]

end Samples

/-- Whatever becomes of the file with the boot time, a round ends for the same reason or not at all,
and each process contributes the same but for the start, just if the file does not cost it its
sample in one of the two cases only. It does so for a process that is otherwise in order if it
cannot be opened for want of permission, because there is no such process, or, where the process has
ended and was not waited for, because it is not there. -/
theorem samples_of_bootTime {t t' : Tree} {root : Path} {pids : List Pid}
    (h : ∀ pid ∈ pids, AgreeOnFiles t t' root pid) :
    (∀ error, samples pageSize t' root pids = .error error ↔
      samples pageSize t root pids = .error error) ∧
    (∀ pid ∈ pids, (LostToBoot t root pid → (Sample.read pageSize t root pid).toOption = none) ∧
      ((Sample.read pageSize t' root pid).toOption.map Sample.withoutStart =
          (Sample.read pageSize t root pid).toOption.map Sample.withoutStart ↔
        (LostToBoot t' root pid ↔ LostToBoot t root pid))) ∧
    ((∀ pid ∈ pids, LostToBoot t' root pid ↔ LostToBoot t root pid) →
      (samples pageSize t' root pids).map (·.map Sample.withoutStart) =
        (samples pageSize t root pids).map (·.map Sample.withoutStart)) := by
  refine ⟨samples_eq_error_iff h, fun pid hPid => ⟨?_, (h pid hPid).contribution_eq_iff⟩, ?_⟩
  · rintro hLost
    obtain ⟨stat, -, hNeeds, -⟩ := id hLost
    obtain ⟨sample, hSample⟩ := hNeeds.contribution (h pid hPid) pageSize
    exact (hSample t (by simp)).1 hLost
  · intro hLost
    exact samples_eq_of_contributions h fun pid hPid =>
      (h pid hPid).contribution_eq_iff.mpr (hLost pid hPid)

/-- A host with a process that runs, and with something in the place of the boot time. -/
def hostWithBoot (boot : Entry) : Tree :=
  let zeros := (List.replicate 48 (Text.Utf8.asciiBytes " 0".toList)).flatten
  ⟨[(["proc"], .directory), (["proc", "7"], .directory),
    (["proc", "7", "stat"], .file (Text.Utf8.asciiBytes "7 (a) S 1".toList ++ zeros ++ [10])),
    (["proc", "7", "statm"], .file (Text.Utf8.asciiBytes "3 2 0 0 0 0 0\n".toList)),
    (["proc", "stat"], boot)]⟩

/-- A boot time that can be read. -/
def readableBoot : Entry := .file (Text.Utf8.asciiBytes "btime 1700000000\n".toList)

theorem agreeOnFiles_hostWithBoot (boot boot' : Entry) :
    AgreeOnFiles (hostWithBoot boot) (hostWithBoot boot') ⟨.root, ["proc"]⟩ 7 := by
  have hFiles : fileNames = ["stat", "statm", "status", "io"] := rfl
  intro name hName
  simp only [hFiles, List.mem_cons, List.not_mem_nil, or_false] at hName
  rcases hName with rfl | rfl | rfl | rfl <;> rfl

/-- An input/output error is held against nobody. -/
theorem samples_of_bootTime_unreadable :
    (∀ pid ∈ [7], AgreeOnFiles (hostWithBoot readableBoot) (hostWithBoot (.faulty ⟨5⟩))
      ⟨.root, ["proc"]⟩ pid) ∧
    (samples 4096 (hostWithBoot (.faulty ⟨5⟩)) ⟨.root, ["proc"]⟩ [7]).map
        (·.map Sample.withoutStart) =
      (samples 4096 (hostWithBoot readableBoot) ⟨.root, ["proc"]⟩ [7]).map
        (·.map Sample.withoutStart) := by
  have hAgree : ∀ pid ∈ [7], AgreeOnFiles (hostWithBoot readableBoot)
      (hostWithBoot (.faulty ⟨5⟩)) ⟨.root, ["proc"]⟩ pid := by
    simpa using agreeOnFiles_hostWithBoot readableBoot (.faulty ⟨5⟩)
  refine ⟨hAgree, (samples_of_bootTime hAgree).2.2 fun pid _ => iff_of_false ?_ ?_⟩
  · rintro ⟨stat, error, -, hBoot, hHeld⟩
    cases (Except.error.inj hBoot : (⟨5⟩ : Errno) = error)
    simp [IsHeldAgainst, Errno.permissionDenied, Errno.operationNotPermitted,
      Errno.noSuchProcess, Errno.noSuchFile] at hHeld
  · rintro ⟨stat, error, -, hBoot, -⟩
    cases hBoot

/-- Without permission to read the boot time a process is lost that has a sample otherwise. -/
theorem samples_lost_to_deniedBoot :
    (∀ pid ∈ [7], AgreeOnFiles (hostWithBoot readableBoot)
      (hostWithBoot (.faulty .permissionDenied)) ⟨.root, ["proc"]⟩ pid) ∧
    (samples 4096 (hostWithBoot readableBoot) ⟨.root, ["proc"]⟩ [7]).toOption.map List.length =
      some 1 ∧
    (samples 4096 (hostWithBoot (.faulty .permissionDenied)) ⟨.root, ["proc"]⟩ [7]).toOption.map
      List.length = some 0 := by
  refine ⟨?_, by decide +kernel, by decide +kernel⟩
  simpa using agreeOnFiles_hostWithBoot readableBoot (.faulty .permissionDenied)

end PodGauges.Processes
