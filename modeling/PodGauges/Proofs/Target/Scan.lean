import PodGauges.Proofs.Cycle.Sampling
import PodGauges.Proofs.Except
import PodGauges.Proofs.Number.Decimal
import PodGauges.Proofs.Text.Utf8

/-! The scan for the processes that a search finds. It selects entries of the listing one by one,
each on account of its own name and its own two files, and keeps the order of the listing. -/
namespace PodGauges.Target

open File Processes

/-! ## The files of a process -/

/-- What a file of a process that is not gone reads as: its text, or nothing if it cannot be
read. -/
inductive Tells (t : Tree) (path : Path) : List Char → Prop where
  | content {bytes : List UInt8} (h : t.read path = .ok bytes) :
      Tells t path (Text.unifyNewlines (Text.Utf8.decodeLossy bytes))
  | unreadable {error : Errno} (h : t.read path = .error error) (hFile : error ≠ .noSuchFile)
      (hProcess : error ≠ .noSuchProcess) : Tells t path []

theorem textOf?_eq_some {t : Tree} {path : Path} {text : List Char} :
    textOf? t path = some text ↔ Tells t path text := by
  constructor
  · intro h
    cases hRead : t.read path with
    | ok bytes =>
        simp only [textOf?, Tree.readLossy, hRead, Option.some.injEq] at h
        exact h ▸ .content hRead
    | error error =>
        simp only [textOf?, Tree.readLossy, hRead] at h
        split at h
        · cases h
        · rename_i hGone
          obtain ⟨hFile, hProcess⟩ := not_or.mp hGone
          exact Option.some.inj h ▸ .unreadable hRead hFile hProcess
  · rintro (hRead | ⟨hRead, hFile, hProcess⟩)
    · simp [textOf?, Tree.readLossy, hRead]
    · simp [textOf?, Tree.readLossy, hRead, hFile, hProcess]

/-- The search finds a process by its command line, or else by its name. -/
inductive IsMatched (search : List Char → Bool) (t : Tree) (directory : Path) : Prop where
  | byCommandLine {commandLine : List Char}
      (hLine : Tells t (directory.child "cmdline") commandLine)
      (h : search (spaced commandLine) = true)
  | byName {commandLine name : List Char}
      (hLine : Tells t (directory.child "cmdline") commandLine)
      (hName : Tells t (directory.child "comm") name) (h : search (Text.trim name) = true)

/-- A process is sought just if its command line or else its name is matched. -/
theorem isSought_iff {search : List Char → Bool} {t : Tree} {directory : Path} :
    isSought search t directory = true ↔ IsMatched search t directory := by
  cases hLine : textOf? t (directory.child "cmdline") with
  | none =>
      simp only [isSought, hLine, Bool.false_eq_true, false_iff]
      rintro (⟨hText, -⟩ | ⟨hText, -, -⟩) <;> cases hLine.symm.trans (textOf?_eq_some.mpr hText)
  | some commandLine =>
      have hTells := textOf?_eq_some.mp hLine
      have hUnique {text : List Char} (h : Tells t (directory.child "cmdline") text) :
          text = commandLine := Option.some.inj ((textOf?_eq_some.mpr h).symm.trans hLine)
      rw [isSought, hLine]
      dsimp only
      rw [Bool.or_eq_true]
      constructor
      · rintro (h | h)
        · exact .byCommandLine hTells h
        · split at h
          · cases h
          · rename_i name hName
            exact .byName hTells (textOf?_eq_some.mp hName) h
      · rintro (⟨hText, h⟩ | ⟨hText, hName, h⟩)
        · exact .inl (hUnique hText ▸ h)
        · right
          rw [textOf?_eq_some.mpr hName]
          exact h

instance (search : List Char → Bool) (t : Tree) (directory : Path) :
    Decidable (IsMatched search t directory) :=
  decidable_of_iff (isSought search t directory = true) isSought_iff

/-- Two trees in which both files read the same give the same decision. -/
theorem IsMatched.congr {search : List Char → Bool} {t t' : Tree} {directory : Path}
    (hLine : t'.read (directory.child "cmdline") = t.read (directory.child "cmdline"))
    (hName : t'.read (directory.child "comm") = t.read (directory.child "comm")) :
    IsMatched search t' directory ↔ IsMatched search t directory := by
  rw [← isSought_iff, ← isSought_iff]
  simp only [isSought, textOf?, Tree.readLossy, hLine, hName]

/-! ## The names of the directories -/

/-- Names made of ASCII digits belong to processes. -/
def IsPidName (name : String) : Prop := name.toList ≠ [] ∧ ∀ c ∈ name.toList, c.isDigit = true

-- The general instance for bounded quantifiers would go through all characters.
instance (name : String) : Decidable (IsPidName name) :=
  @instDecidableAnd _ _ inferInstance (List.decidableBAll _ name.toList)

/-- The number that the digits of a name spell. -/
def pidNamed (name : String) : Pid := Nat.ofDigitChars 10 name.toList 0

/-- A name has no more characters than bytes. -/
theorem length_le_utf8ByteSize (name : String) : name.toList.length ≤ name.utf8ByteSize := by
  have hChars (chars : List Char) : chars.length ≤ String.utf8Len chars := by
    induction chars with
    | nil => exact Nat.le_refl 0
    | cons c chars ih =>
        have hSize : 0 < c.utf8Size := Char.utf8Size_pos c
        rw [List.length_cons, String.utf8Len_cons]
        omega
  rw [← String.utf8Len_toList]
  exact hChars _

theorem all_isAsciiDigit {chars : List Char} :
    chars.all Text.isAsciiDigit = true ↔ ∀ c ∈ chars, c.isDigit = true := by
  have hDigit (c : Char) : Text.isAsciiDigit c = c.isDigit := rfl
  simp only [List.all_eq_true, hDigit]

/-- A name that a directory can hold is short enough for the number in it to be read. -/
theorem pidOfName?_eq {name : String} (hShort : name.utf8ByteSize ≤ Tree.maxNameBytes) :
    pidOfName? name = if IsPidName name then some (pidNamed name) else none := by
  have hLength : name.toList.length ≤ Number.maxDecimalDigits :=
    ((length_le_utf8ByteSize name).trans hShort).trans (by decide)
  unfold pidOfName?
  by_cases hPid : IsPidName name
  · rw [if_pos ⟨hPid.1, all_isAsciiDigit.mpr hPid.2⟩, if_pos hPid]
    exact Number.integer?_of_isDigit hPid.2 hPid.1 hLength
  · rw [if_neg hPid, if_neg fun h => hPid ⟨h.1, all_isAsciiDigit.mp h.2⟩]

/-! ## The scan -/

/-- An entry of the listing is that of a process which the search finds. -/
def IsSelected (search : List Char → Bool) (t : Tree) (root : Path) (name : String) : Prop :=
  IsPidName name ∧ IsMatched search t (root.child name)

instance (search : List Char → Bool) (t : Tree) (root : Path) (name : String) :
    Decidable (IsSelected search t root name) :=
  inferInstanceAs (Decidable (_ ∧ _))

variable {t : Tree} {root : Path} {names : List String}

/-- The processes that are sought are those of the selected entries, in order. -/
theorem sought_eq_ok (hList : t.list root = .ok names)
    (hShort : ∀ name ∈ names, name.utf8ByteSize ≤ Tree.maxNameBytes) (search : List Char → Bool) :
    sought search t root = .ok ((names.filter (IsSelected search t root ·)).map pidNamed) := by
  rw [sought, hList]
  dsimp only
  rw [← List.filterMap_eq_map, List.filterMap_filter]
  refine congrArg Except.ok (List.filterMap_congr fun name hName => ?_)
  rw [pidOfName?_eq (hShort name hName)]
  by_cases hPid : IsPidName name
  · simp [hPid, IsSelected, Option.filter, isSought_iff]
  · simp [hPid, IsSelected]

/-- In a tree that agrees with another on the files of all entries but one, the others are selected
as they are there. -/
theorem filter_of_agree {search : List Char → Bool} {t' : Tree} {other : String}
    (hAgree : ∀ name ∈ names, name ≠ other → ∀ file ∈ ["cmdline", "comm"],
      t'.read ((root.child name).child file) = t.read ((root.child name).child file)) :
    names.filter (IsSelected search t' root ·) =
      names.filter fun name => IsSelected search (if name = other then t' else t) root name := by
  refine List.filter_congr fun name hName => ?_
  by_cases hOther : name = other
  · rw [if_pos hOther]
  · have hSame : IsMatched search t' (root.child name) ↔ IsMatched search t (root.child name) :=
      IsMatched.congr (hAgree name hName hOther "cmdline" (by decide))
        (hAgree name hName hOther "comm" (by decide))
    rw [if_neg hOther]
    exact decide_eq_decide.mpr (and_congr_right fun _ => hSame)

/-- A scan of a directory that can be listed never fails. It finds the processes of just those
entries whose names are digits and whose files the search finds something in, in the order of the
listing; and whatever becomes of one entry, the others are selected as before. -/
theorem scan_selects (hList : t.list root = .ok names)
    (hShort : ∀ name ∈ names, name.utf8ByteSize ≤ Tree.maxNameBytes) :
    (∀ search : List Char → Bool, sought search t root =
      .ok ((names.filter (IsSelected search t root ·)).map pidNamed)) ∧
    (∀ (τ : Type) [Sub τ] [LT τ] [DecidableRel (α := τ) (· < ·)] (pattern : Pattern)
      (throttle : Throttle τ) (clock : τ),
      ∃ found, find (.matching pattern) t root throttle clock = .ok found ∧
        found.pids = (names.filter (IsSelected pattern.search t root ·)).map pidNamed) ∧
    ∀ (search : List Char → Bool) (t' : Tree) (other : String), t'.list root = .ok names →
      (∀ name ∈ names, name ≠ other → ∀ file ∈ ["cmdline", "comm"],
        t'.read ((root.child name).child file) = t.read ((root.child name).child file)) →
      sought search t' root = .ok ((names.filter fun name =>
        IsSelected search (if name = other then t' else t) root name).map pidNamed) := by
  refine ⟨sought_eq_ok hList hShort, ?_, ?_⟩
  · intro τ _ _ _ pattern throttle clock
    have hPids := find_pids (.matching pattern) t root throttle clock
    rw [pids, sought_eq_ok hList hShort] at hPids
    exact map_eq_ok.mp hPids
  · intro search t' other hList' hAgree
    rw [sought_eq_ok hList' hShort, filter_of_agree hAgree]

/-- Two kernel threads, one of which only its name tells from the other, a process that has left, a
file, a web server, and a directory that is no process. -/
def busyRoot : Tree :=
  let file (text : String) : Entry := .file (Text.Utf8.asciiBytes text.toList)
  ⟨[(["proc"], .directory), (["proc", "2"], .directory), (["proc", "2", "cmdline"], file ""),
    (["proc", "2", "comm"], file "nginx-writer\n"), (["proc", "7"], .directory),
    (["proc", "7", "cmdline"], .faulty .permissionDenied), (["proc", "7", "comm"], file "writer\n"),
    (["proc", "8"], .directory), (["proc", "8", "comm"], file "nginx\n"),
    (["proc", "9"], file "nginx"), (["proc", "10"], .directory),
    (["proc", "10", "cmdline"], file "nginx\x00-g\x00"), (["proc", "sys"], .directory),
    (["proc", "sys", "cmdline"], file "nginx")]⟩

/-- The thread is found by its name, the server by its command line. -/
theorem scan_selects_busyRoot :
    (busyRoot.list ⟨.root, ["proc"]⟩ = .ok ["2", "7", "8", "9", "10", "sys"] ∧
      ∀ name ∈ ["2", "7", "8", "9", "10", "sys"], name.utf8ByteSize ≤ Tree.maxNameBytes) ∧
    sought ("nginx".toList.isPrefixOf ·) busyRoot ⟨.root, ["proc"]⟩ = .ok [2, 10] := by
  have hList : busyRoot.list ⟨.root, ["proc"]⟩ = .ok ["2", "7", "8", "9", "10", "sys"] := rfl
  have hShort : ∀ name ∈ ["2", "7", "8", "9", "10", "sys"],
      name.utf8ByteSize ≤ Tree.maxNameBytes := by decide
  refine ⟨⟨hList, hShort⟩, ((scan_selects hList hShort).1 _).trans ?_⟩
  decide +kernel

end PodGauges.Target
