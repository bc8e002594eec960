import PodGauges.Downward
import PodGauges.Proofs.File.Places

/-! The fields among some entries below a directory. Each entry is a field or none on its own
account, so that what is found is a filter of the entries, and what is complained about a list of
the files that cannot be opened. -/
namespace PodGauges.Downward

open File

/-- The value of a field whose file has some content. -/
def valueText (bytes : List UInt8) : String :=
  String.ofList (Text.trim (Text.unifyNewlines (Text.Utf8.decodeLossy bytes)))

/-- The path of an entry below a directory. -/
def below (root : Path) (names : List String) : Path := ⟨root.anchor, root.names ++ names⟩

/-- A file is regular even if it cannot be opened. -/
def isRegular : Entry → Bool
  | .file _ | .faulty _ => true
  | .directory | .link _ => false

/-- The value of the field that a regular file is. -/
def valueIn : Entry → String
  | .file bytes => valueText bytes
  | _ => ""

/-- The complaint about a file that cannot be opened. -/
def warnings (path : Path) : Entry → List Log.Record
  | .faulty error => [⟨.warning, .downward, s!"could not read downward api file {path.toString}: {
      IoError.message ⟨error, path.toString⟩}"⟩]
  | _ => []

/-- The names of an entry with what it is, if it is a regular file that the volume does not keep for
itself. -/
def file? (t : Tree) (root : Path) (names : List String) : Option (List String × Entry) :=
  if isVisible names then
    ((t.status (below root names)).toOption.filter isRegular).map fun entry => (names, entry)
  else none

section Fields

variable {t : Tree} {root : Path} {names : List String}

/-- An entry is a file just if it is visible and there is a regular file at its path. -/
theorem file?_eq_some {file : List String × Entry} : file? t root names = some file ↔
    file.1 = names ∧ isVisible names = true ∧ t.status (below root names) = .ok file.2 ∧
      isRegular file.2 = true := by
  obtain ⟨found, entry⟩ := file
  cases hStatus : t.status (below root names) with
  | error error => simp [file?, hStatus, Except.toOption]
  | ok other =>
      simp only [file?, hStatus, Except.toOption, Option.ite_none_right_eq_some,
        Option.map_eq_some_iff, Option.filter_eq_some_iff, Option.some.injEq, Prod.mk.injEq,
        Except.ok.injEq]
      constructor
      · rintro ⟨hVisible, _, ⟨rfl, hRegular⟩, rfl, rfl⟩
        exact ⟨rfl, hVisible, rfl, hRegular⟩
      · rintro ⟨rfl, hVisible, rfl, hRegular⟩
        exact ⟨hVisible, _, ⟨rfl, hRegular⟩, rfl, rfl⟩

/-- What becomes of one regular file: it is a field, and it is complained about if it cannot be
opened. -/
theorem valueOf_of_status {path : Path} {entry : Entry} (h : t.status path = .ok entry)
    (hRegular : isRegular entry = true) :
    valueOf t path = (valueIn entry, warnings path entry) := by
  cases entry with
  | file bytes =>
      simp [valueOf, Tree.readLossy, Tree.read_eq_ok.mpr h, valueIn, valueText, warnings]
  | faulty error =>
      have hRead : t.read path = .error error := by
        simp [Tree.read, h, bind, Except.bind]
      simp only [valueOf, Tree.readLossy, hRead, valueIn, warnings]
  | directory | link => cases hRegular

/-- If every visible entry can be looked up, the regular files among them are found, in order. -/
theorem fieldsOf_eq_files {entries : List (List String)}
    (h : ∀ names ∈ entries, isVisible names = true →
      ∃ entry, t.status (below root names) = .ok entry) :
    fieldsOf t root entries =
      (.ok ((entries.filterMap (file? t root)).map fun file =>
          ("/".intercalate file.1, valueIn file.2)),
        (entries.filterMap (file? t root)).flatMap fun file =>
          warnings (below root file.1) file.2) := by
  induction entries with
  | nil => rfl
  | cons names entries ih =>
      obtain ⟨hFirst, hRest⟩ := List.forall_mem_cons.mp h
      by_cases hVisible : isVisible names = true
      · obtain ⟨entry, hStatus⟩ := hFirst hVisible
        have hFile : t.isFile (below root names) = .ok (isRegular entry) := by
          simp only [Tree.isFile, Tree.test, hStatus]
          cases entry <;> rfl
        unfold below at hFile
        cases hRegular : isRegular entry with
        | true =>
            have hSome : file? t root names = some (names, entry) :=
              file?_eq_some.mpr ⟨rfl, hVisible, hStatus, hRegular⟩
            have hValue := valueOf_of_status hStatus hRegular
            unfold below at hValue
            simp only [fieldsOf, hVisible, if_true, hFile, hRegular, hValue, ih hRest,
              List.filterMap_cons_some hSome, Except.map, List.map_cons, List.flatMap_cons, below]
        | false =>
            have hNone : file? t root names = none := by
              simp [file?, hVisible, hStatus, Except.toOption, hRegular]
            simp only [fieldsOf, hVisible, if_true, hFile, hRegular, ih hRest,
              List.filterMap_cons_none hNone]
      · have hNone : file? t root names = none := if_neg hVisible
        rw [fieldsOf, if_neg hVisible, ih hRest, List.filterMap_cons_none hNone]

end Fields

end PodGauges.Downward
