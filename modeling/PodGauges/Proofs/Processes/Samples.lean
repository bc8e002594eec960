import PodGauges.Processes.Sample
import PodGauges.Proofs.Except

/-! Which processes contribute to a round of samples, and which of them bring it to an end. Only a
status line that is there and cannot be opened does the latter; whatever else is wrong with a
process costs its own sample at most. -/
namespace PodGauges.Processes

open File

variable {pageSize : Nat} {t : Tree} {root : Path} {pid : Pid}

/-- A status line that cannot be opened, for no reason that says that the process is gone or may not
be looked at. An entry that is there does not count as gone, even if opening it says so. -/
structure Unopenable (t : Tree) (root : Path) (pid : Pid) (error : Errno) : Prop where
  notNegative : 0 ≤ pid
  belowLimit : pid < pidLimit
  unread : t.read ((directory root pid).child "stat") = .error error
  notDenied : error ≠ .permissionDenied ∧ error ≠ .operationNotPermitted
  notGone : error ≠ .noSuchProcess
  notAbsent : error = .noSuchFile → t.isPresent ((directory root pid).child "stat")

namespace Accounting

/-- A file beside the status line may tell that the process is gone, but never ends a round. -/
theorem fileError?_ne_unopened (stat : List UInt8) (error : Errno) (unopened : IoError) :
    fileError? pid stat error ≠ some (.unopened unopened) := by
  unfold fileError?
  intro h
  split at h
  · cases h
  · split at h
    · cases h
    · split at h <;> cases h

theorem beside_ne_unopened (stat : List UInt8) (path : Path) (unopened : IoError) :
    beside t pid stat path ≠ .error (.unopened unopened) := by
  unfold beside
  intro h
  split at h
  · cases h
  · next error _ =>
      split at h
      · next found hFound =>
          cases h
          exact fileError?_ne_unopened stat error unopened hFound
      · cases h

theorem ofStat_ne_unopened (bytes : List UInt8) (stat : Stat) (unopened : IoError) :
    ofStat t root pid bytes stat ≠ .error (.unopened unopened) := by
  unfold ofStat
  intro h
  have hBeside (path : Path) : beside t pid bytes path ≠ .error (.unopened unopened) :=
    beside_ne_unopened bytes path unopened
  cases hp : beside t pid bytes ((directory root pid).child "statm") with
  | error error =>
      rw [hp] at h
      exact hBeside _ (hp.trans (congrArg Except.error (Except.error.inj h)))
  | ok pages =>
      cases hb : beside t pid bytes (root.child "stat") with
      | error error =>
          rw [hp, hb] at h
          exact hBeside _ (hb.trans (congrArg Except.error (Except.error.inj h)))
      | ok boot =>
          rw [hp, hb] at h
          cases h

/-- Only an error that says neither that the process is gone nor that it is out of reach counts as
one of the status line. -/
theorem statError_eq_unopened {isThere : Bool} {error unopened : IoError} :
    statError pid isThere error = .unopened unopened ↔
      (error.error ≠ .permissionDenied ∧ error.error ≠ .operationNotPermitted) ∧
      error.error ≠ .noSuchProcess ∧ (error.error = .noSuchFile → isThere) ∧ error = unopened := by
  unfold statError
  by_cases hDenied : error.error = .permissionDenied ∨ error.error = .operationNotPermitted
  · rw [if_pos hDenied]
    constructor
    · rintro ⟨⟩
    · rintro ⟨⟨hPermission, hOperation⟩, _⟩
      exact (hDenied.elim hPermission hOperation).elim
  · rw [if_neg hDenied]
    have hAllowed := not_or.mp hDenied
    by_cases hGone : error.error = .noSuchProcess
    · simp [hGone]
    · rw [if_neg hGone]
      -- A file that is not there speaks against the process only if its entry is gone, too.
      by_cases hAbsent : error.error = .noSuchFile ∧ !isThere
      · rw [if_pos hAbsent]
        obtain ⟨hFile, hNot⟩ := hAbsent
        simp_all
      · rw [if_neg hAbsent]
        have hThere : error.error = .noSuchFile → isThere := by simpa using hAbsent
        simpa [hAllowed, hGone] using fun _ : error = unopened => hThere

/-- The accounting fails with an unopened status line exactly for one that is unopenable. -/
theorem read_eq_unopened {unopened : IoError} :
    read t root pid = .error (.unopened unopened) ↔
      Unopenable t root pid unopened.error ∧
        unopened.path = ((directory root pid).child "stat").toString := by
  unfold read
  by_cases hNegative : pid < 0
  · simp only [hNegative, if_true]
    constructor
    · rintro ⟨⟩
    · rintro ⟨h, _⟩
      exact absurd h.notNegative (Int.not_le.mpr hNegative)
  · by_cases hLimit : pidLimit ≤ pid
    · simp only [hNegative, hLimit, if_true, if_false]
      constructor
      · intro h
        cases h
      · rintro ⟨h, _⟩
        exact absurd h.belowLimit (Int.not_lt.mpr hLimit)
    · simp only [hNegative, hLimit, if_false]
      cases hRead : t.read ((directory root pid).child "stat") with
      | ok bytes =>
          have hNot : ¬ (Unopenable t root pid unopened.error ∧
              unopened.path = ((directory root pid).child "stat").toString) := by
            rintro ⟨h, _⟩
            rw [h.unread] at hRead
            cases hRead
          refine ⟨fun h => ?_, fun h => absurd h hNot⟩
          cases hStat : Stat.ofBytes? bytes with
          | none => simp [hStat] at h
          | some stat =>
              simp only [hStat] at h
              exact absurd h (ofStat_ne_unopened bytes stat unopened)
      | error error =>
          simp only [Except.error.injEq, statError_eq_unopened]
          constructor
          · rintro ⟨hDenied, hGone, hAbsent, rfl⟩
            exact ⟨⟨Int.not_lt.mp hNegative, Int.not_le.mp hLimit, hRead, hDenied, hGone, hAbsent⟩,
              rfl⟩
          · rintro ⟨h, hPath⟩
            obtain rfl : error = unopened.error := by
              have hUnread := h.unread
              rw [hRead] at hUnread
              exact Except.error.inj hUnread
            exact ⟨h.notDenied, h.notGone, h.notAbsent, by rw [← hPath]⟩

end Accounting

/-- The sample that is made of the accounting of a process and of the texts of its optional files.
-/
def Sample.ofParts (pageSize : Nat) (status io : List Char) (known : Accounting) : Sample where
  cpuUser := (known.cpu.map (·.1)).getD 0.0
  cpuSystem := (known.cpu.map (·.2)).getD 0.0
  start := known.start
  count := fun
    | .resident => (known.pages.getD (0, 0)).2 * pageSize
    | .virtual => (known.pages.getD (0, 0)).1 * pageSize
    | .swap => swapBytes status
    | .io counter => ioCounts io counter

/-- A sample fails just as the accounting does, and the optional files only add to it. -/
theorem Sample.read_eq_map (pageSize : Nat) (t : Tree) (root : Path) (pid : Pid) :
    Sample.read pageSize t root pid =
    (Accounting.read t root pid).map
      (ofParts pageSize (textOf t root pid "status") (textOf t root pid "io")) := by
  unfold Sample.read
  cases Accounting.read t root pid <;> rfl

section Counts

variable {sample : Sample} (h : Sample.read pageSize t root pid = .ok sample)
include h

/-- A process is sampled with the swap that is told of it. -/
theorem Sample.count_swap : sample.count .swap = swapBytes (textOf t root pid "status") := by
  rw [read_eq_map] at h
  obtain ⟨known, -, rfl⟩ := map_eq_ok.mp h
  rfl

/-- A process is sampled with the traffic that is told of it. -/
theorem Sample.count_io (counter : IoCounter) :
    sample.count (.io counter) = ioCounts (textOf t root pid "io") counter := by
  rw [read_eq_map] at h
  obtain ⟨known, -, rfl⟩ := map_eq_ok.mp h
  rfl

end Counts

theorem Sample.read_eq_error {error : SampleError} :
    Sample.read pageSize t root pid = .error error ↔ Accounting.read t root pid = .error error := by
  rw [Sample.read_eq_map, map_eq_error]

def EndsRound (t : Tree) (root : Path) (pid : Pid) : Prop := ∃ error, Unopenable t root pid error

/-- A round ends at a process just if its status line cannot be opened. -/
theorem Sample.read_eq_unopened_iff (pageSize : Nat) :
    (∃ unopened, Sample.read pageSize t root pid = .error (.unopened unopened)) ↔
      EndsRound t root pid := by
  constructor
  · rintro ⟨unopened, h⟩
    exact ⟨_, (Accounting.read_eq_unopened.mp (Sample.read_eq_error.mp h)).1⟩
  · rintro ⟨error, h⟩
    exact ⟨⟨error, _⟩, Sample.read_eq_error.mpr (Accounting.read_eq_unopened.mpr ⟨h, rfl⟩)⟩

/-- A round either ends at a process or goes on with what that process contributes, which is its own
sample or nothing. -/
theorem samples_cons (pageSize : Nat) (t : Tree) (root : Path) (pid : Pid) (pids : List Pid) :
    (∃ error, EndsRound t root pid ∧ samples pageSize t root (pid :: pids) = .error error) ∨
    (¬ EndsRound t root pid ∧ samples pageSize t root (pid :: pids) =
      (samples pageSize t root pids).map
        ((Sample.read pageSize t root pid).toOption.toList ++ ·)) := by
  have hGoesOn (h : ∀ unopened, Sample.read pageSize t root pid ≠ .error (.unopened unopened)) :
      ¬ EndsRound t root pid := by
    intro hEnds
    obtain ⟨unopened, hUnopened⟩ := (Sample.read_eq_unopened_iff pageSize).mpr hEnds
    exact h unopened hUnopened
  cases hRead : Sample.read pageSize t root pid with
  | ok found =>
      exact Or.inr ⟨hGoesOn (by simp [hRead]), by simp [samples, hRead, Except.toOption]⟩
  | error error =>
      cases error with
      | unopened unopened =>
          exact Or.inl ⟨unopened, (Sample.read_eq_unopened_iff pageSize).mp ⟨unopened, hRead⟩,
            by simp [samples, hRead]⟩
      | noSuchProcess _ | accessDenied _ | zombie _ =>
          refine Or.inr ⟨hGoesOn (by simp [hRead]), ?_⟩
          cases hRest : samples pageSize t root pids <;>
            simp [samples, hRead, hRest, Except.toOption, Except.map]

/-- A round succeeds exactly if no process ends it; then it holds what each process contributes, in
order. What one contributes does not depend on the others. -/
theorem samples_eq_ok {pids : List Pid} {found : List Sample} :
    samples pageSize t root pids = .ok found ↔ (∀ pid ∈ pids, ¬ EndsRound t root pid) ∧
      found = pids.filterMap fun pid => (Sample.read pageSize t root pid).toOption := by
  induction pids generalizing found with
  | nil => simp [samples, eq_comm]
  | cons pid pids ih =>
      rcases samples_cons pageSize t root pid pids with
        ⟨error, hEnds, hSamples⟩ | ⟨hGoesOn, hSamples⟩
      · rw [hSamples]
        constructor
        · rintro ⟨⟩
        · rintro ⟨hNone, _⟩
          exact absurd hEnds (hNone pid (List.mem_cons_self ..))
      · have hHead : (Sample.read pageSize t root pid).toOption.toList ++
              pids.filterMap (fun pid => (Sample.read pageSize t root pid).toOption) =
            (pid :: pids).filterMap fun pid => (Sample.read pageSize t root pid).toOption := by
          cases hRead : (Sample.read pageSize t root pid).toOption <;> simp [hRead]
        rw [hSamples]
        constructor
        · intro h
          cases hRest : samples pageSize t root pids with
          | error error =>
              rw [hRest] at h
              cases h
          | ok rest =>
              rw [hRest] at h
              obtain ⟨hOthers, rfl⟩ := ih.mp hRest
              exact ⟨List.forall_mem_cons.mpr ⟨hGoesOn, hOthers⟩,
                (Except.ok.inj h).symm.trans hHead⟩
        · rintro ⟨hNone, rfl⟩
          rw [ih.mpr ⟨(List.forall_mem_cons.mp hNone).2, rfl⟩, ← hHead]
          rfl

/-- A round over two lists is the two rounds one after the other. -/
theorem samples_append (pageSize : Nat) (t : Tree) (root : Path) (xs ys : List Pid) :
    samples pageSize t root (xs ++ ys) =
      (samples pageSize t root xs).bind fun first =>
        (samples pageSize t root ys).map (first ++ ·) := by
  induction xs with
  | nil => cases h : samples pageSize t root ys <;> simp [samples, h, Except.bind, Except.map]
  | cons pid xs ih =>
      simp only [List.cons_append, samples, ih]
      cases Sample.read pageSize t root pid with
      | ok found => cases samples pageSize t root xs <;> cases samples pageSize t root ys <;> rfl
      | error error => cases error <;> rfl

/-- A round returns exactly if no listed process has a status line that cannot be opened. Then every
process contributes its own sample or nothing, whatever the others are. Of two lists together the
samples are those of the one and then those of the other. -/
theorem samples_independent (pageSize : Nat) (t : Tree) (root : Path) (pids : List Pid) :
    ((∃ found, samples pageSize t root pids = .ok found) ↔
      ∀ pid ∈ pids, ¬ EndsRound t root pid) ∧
    (∀ found, samples pageSize t root pids = .ok found →
      found = pids.filterMap fun pid => (Sample.read pageSize t root pid).toOption) ∧
    ∀ others, samples pageSize t root (pids ++ others) =
      (samples pageSize t root pids).bind fun first =>
        (samples pageSize t root others).map (first ++ ·) := by
  refine ⟨⟨?_, ?_⟩, ?_, samples_append pageSize t root pids⟩
  · rintro ⟨found, h⟩
    exact (samples_eq_ok.mp h).1
  · intro h
    exact ⟨_, samples_eq_ok.mpr ⟨h, rfl⟩⟩
  · intro found h
    exact (samples_eq_ok.mp h).2

/-- Two processes, the first of which has a status line with an input/output error. -/
def unreadableSibling : Tree :=
  ⟨[(["proc"], .directory), (["proc", "1"], .directory), (["proc", "1", "stat"], .faulty ⟨5⟩),
    (["proc", "2"], .directory), (["proc", "2", "stat"], .file [])]⟩

/-- The second process has a sample, and loses it to the first. -/
theorem samples_lost_to_sibling :
    (∃ found, samples 4096 unreadableSibling ⟨.root, ["proc"]⟩ [2] = .ok [found]) ∧
    samples 4096 unreadableSibling ⟨.root, ["proc"]⟩ [1, 2] = .error ⟨⟨5⟩, "/proc/1/stat"⟩ :=
  ⟨⟨_, rfl⟩, rfl⟩

end PodGauges.Processes
