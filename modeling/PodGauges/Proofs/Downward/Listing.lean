import Mathlib.Data.List.Induction
import PodGauges.Proofs.Downward.Fields
import PodGauges.Proofs.File.Walk
import PodGauges.Proofs.Text.Cutting
import PodGauges.Proofs.Text.Utf8

/-! A volume of plain directories and files. Where there are no links, the walk through a directory
comes by every file below it, at any depth; each is a field under its own name, and the fields are
in the order of their names, compared part by part. -/
namespace PodGauges.Downward

open File

/-- Below a directory there are directories and regular files. Each of them stands in a directory,
under a name. -/
structure HoldsTree (t : Tree) (place : List String) : Prop where
  directory : t.entry? place = some .directory
  distinct : t.Distinct
  isName : ∀ names entry, (place ++ names, entry) ∈ t.entries →
    ∀ name ∈ names, Tree.IsName name ∧ '/' ∉ name.toList
  parent : ∀ front name entry, front ≠ [] → (place ++ (front ++ [name]), entry) ∈ t.entries →
    (place ++ front, .directory) ∈ t.entries
  noLink : ∀ names steps, (place ++ names, .link steps) ∉ t.entries

/-- An entry is hidden by two dots in front of its first name only. -/
theorem isVisible_iff {names : List String} : isVisible names = true ↔
    ∃ first rest, names = first :: rest ∧ ¬ "..".toList <+: first.toList := by
  cases names with
  | nil => simp [isVisible]
  | cons first rest => simp [isVisible, String.isPrefixOf]

/-- Names without slashes are told apart by what they are joined to. -/
theorem intercalate_inj {names others : List String}
    (hNames : ∀ name ∈ names, name ≠ "" ∧ '/' ∉ name.toList)
    (hOthers : ∀ name ∈ others, name ≠ "" ∧ '/' ∉ name.toList)
    (h : "/".intercalate names = "/".intercalate others) : names = others := by
  have hRuns {names : List String} (hNames : ∀ name ∈ names, name ≠ "" ∧ '/' ∉ name.toList) :
      Text.runs (· == '/') ("/".intercalate names).toList = names.map String.toList := by
    have hText : ("/".intercalate names).toList =
        ['/'].intercalate (names.map String.toList) ++ [] := by
      rw [String.toList_intercalate, List.append_nil]
      rfl
    rw [hText]
    refine Text.runs_intercalate rfl (fun run hRun => ?_)
      (fun _ hNone => absurd hNone List.not_mem_nil)
    obtain ⟨name, hName, rfl⟩ := List.mem_map.mp hRun
    obtain ⟨hEmpty, hSlash⟩ := hNames name hName
    refine ⟨fun hNil => hEmpty (String.toList_inj.mp hNil), fun c hc hSep => hSlash ?_⟩
    exact eq_of_beq hSep ▸ hc
  refine List.map_injective_iff.mpr (fun _ _ => String.toList_inj.mp) ?_
  rw [← hRuns hNames, ← hRuns hOthers, h]

namespace HoldsTree

variable {t : Tree} {root : Path} {place names : List String} {entry : Entry}
  (h : HoldsTree t place)
include h

theorem lookup_eq (hNames : names ≠ []) :
    t.entry? (place ++ names) = some entry ↔ (place ++ names, entry) ∈ t.entries :=
  h.distinct.entry?_eq_some (by simp [hNames])

/-- No link stands in the way to an entry. -/
theorem resolve_eq (hLead : t.LinksLead) (hEntry : (place ++ names, entry) ∈ t.entries) :
    t.resolve 0 place names = .ok (place ++ names) := by
  induction names using List.reverseRecOn generalizing entry with
  | nil => rw [List.append_nil]; rfl
  | append_singleton front name ih =>
      have hFront : t.entry? (place ++ front) = some .directory ∧
          t.resolve 0 place front = .ok (place ++ front) := by
        by_cases hNil : front = []
        · subst hNil
          rw [List.append_nil]
          exact ⟨h.directory, rfl⟩
        · have hParent := h.parent front name entry hNil hEntry
          exact ⟨(h.lookup_eq hNil).mpr hParent, ih hParent⟩
      have hName := (h.isName _ _ hEntry name (by simp)).1
      have hFound : t.entry? (place ++ front ++ [name]) = some entry := by
        rw [List.append_assoc]
        exact (h.lookup_eq (by simp)).mpr hEntry
      have hNoLink : ∀ steps, entry ≠ .link steps := by
        rintro steps rfl
        exact h.noLink _ steps hEntry
      have hLast : t.resolve 0 (place ++ front) [name] = .ok (place ++ front ++ [name]) :=
        Tree.resolve_name hFront.1 hName hFound hNoLink
      rw [← List.append_assoc]
      exact Tree.resolve_append hLead hFront.2 hLast

/-- The files are found in the order of their names, and none twice. -/
theorem pairwise_files :
    (((t.descendants place).filterMap (file? t root)).map (·.1)).Pairwise (· < ·) := by
  have hStrict : (t.descendants place).Pairwise (· < ·) :=
    ((Tree.pairwise_descendants t place).and (h.distinct.nodup_descendants place)).imp
      fun hBoth => Decidable.not_not.mp fun hNot => hBoth.2 (List.le_antisymm hBoth.1 hNot)
  refine List.pairwise_map.mpr (List.pairwise_filterMap.mpr (hStrict.imp ?_))
  rintro names others hBefore file hFile file' hFile'
  rw [(file?_eq_some.mp hFile).1, (file?_eq_some.mp hFile').1]
  exact hBefore

section Rooted

variable (hLead : t.LinksLead) (hRoot : t.locate root = .ok place)
include hLead hRoot

/-- Without links on the way a path leads to the entry that has its names. -/
theorem status_eq (hNames : names ≠ []) (hEntry : (place ++ names, entry) ∈ t.entries) :
    t.status (below root names) = .ok entry := by
  have hLocate : t.locate (below root names) = .ok (place ++ names) :=
    Tree.resolve_append hLead hRoot (h.resolve_eq hLead hEntry)
  exact Tree.status_eq_ok.mpr ⟨_, hLocate, (h.lookup_eq hNames).mpr hEntry⟩

/-- What is found are the regular files that the volume does not keep for itself. -/
theorem mem_files : (names, entry) ∈ (t.descendants place).filterMap (file? t root) ↔
    (place ++ names, entry) ∈ t.entries ∧ isRegular entry = true ∧ isVisible names = true := by
  simp only [List.mem_filterMap, file?_eq_some]
  constructor
  · rintro ⟨_, hNames, rfl, hVisible, hStatus, hRegular⟩
    obtain ⟨hNil, other, hOther⟩ := Tree.mem_descendants.mp hNames
    cases (h.status_eq hLead hRoot hNil hOther).symm.trans hStatus
    exact ⟨hOther, hRegular, hVisible⟩
  · rintro ⟨hEntry, hRegular, hVisible⟩
    have hNil : names ≠ [] := by
      rintro rfl
      cases hVisible
    exact ⟨names, Tree.mem_descendants.mpr ⟨hNil, entry, hEntry⟩, rfl, hVisible,
      h.status_eq hLead hRoot hNil hEntry, hRegular⟩

/-- What is read of a volume are its files, with a warning for each that cannot be opened. -/
theorem read_eq : read t root =
    (.ok (((t.descendants place).filterMap (file? t root)).map fun file =>
        ("/".intercalate file.1, valueIn file.2)),
      ((t.descendants place).filterMap (file? t root)).flatMap fun file =>
        warnings (below root file.1) file.2) := by
  have hDirectory : t.isDirectory root = .ok true := by
    simp [Tree.isDirectory, Tree.test, Tree.status_eq_ok.mpr ⟨place, hRoot, h.directory⟩]
  simp only [read, hDirectory, hRoot]
  refine fieldsOf_eq_files fun names hNames _ => ?_
  obtain ⟨hNil, entry, hEntry⟩ := Tree.mem_descendants.mp hNames
  exact ⟨entry, h.status_eq hLead hRoot hNil hEntry⟩

/-- Different files have different keys, as no name has a slash in it. -/
theorem nodup_keys : (((t.descendants place).filterMap (file? t root)).map fun file =>
    "/".intercalate file.1).Nodup := by
  have hNames {file : List String × Entry}
      (hFile : file ∈ (t.descendants place).filterMap (file? t root)) :
      ∀ name ∈ file.1, name ≠ "" ∧ '/' ∉ name.toList := by
    intro name hName
    obtain ⟨hIsName, hSlash⟩ :=
      h.isName _ _ ((h.mem_files hLead hRoot).mp hFile).1 name hName
    exact ⟨hIsName.notEmpty, hSlash⟩
  refine List.pairwise_map.mpr ((List.pairwise_map.mp h.pairwise_files).imp_of_mem ?_)
  intro file other hFile hOther hBefore hSame
  rw [intercalate_inj (hNames hFile) (hNames hOther) hSame] at hBefore
  exact List.lt_irrefl _ hBefore

end Rooted

end HoldsTree

/-- In a volume without links each regular file is a field, however deep it lies and whether it can
be opened or not, unless two dots begin the first of its names. The fields are in the order of these
names and no two have the same key; a file that cannot be opened is empty and complained about once,
and there is no other complaint. The depth is not limited here, as it is for a walk with a limited
stack. -/
theorem read_of_holdsTree {t : Tree} {root : Path} {place : List String} (hLead : t.LinksLead)
    (hRoot : t.locate root = .ok place) (h : HoldsTree t place) :
    ∃ files : List (List String × Entry),
      (∀ names entry, (names, entry) ∈ files ↔
        (place ++ names, entry) ∈ t.entries ∧ isRegular entry = true ∧
          ∃ first rest, names = first :: rest ∧ ¬ "..".toList <+: first.toList) ∧
      (files.map (·.1)).Pairwise (· < ·) ∧
      (files.map fun file => "/".intercalate file.1).Nodup ∧
      read t root =
        (.ok (files.map fun file => ("/".intercalate file.1, valueIn file.2)),
          files.flatMap fun file => warnings (below root file.1) file.2) := by
  refine ⟨(t.descendants place).filterMap (file? t root), fun names entry => ?_, h.pairwise_files,
    h.nodup_keys hLead hRoot, h.read_eq hLead hRoot⟩
  rw [h.mem_files hLead hRoot, isVisible_iff]

/-- What a directory holds comes before a file whose name goes on from that of the directory. -/
example : ["a", "c"] < ["a-b"] := by decide

/-- A volume with a file whose name sorts between a directory and what is in it, one that cannot be
opened, and one that is hidden. -/
def nestedVolume : Tree :=
  ⟨[(["info"], .directory), (["info", "a-b"], .file (Text.Utf8.asciiBytes "core".toList)),
    (["info", "a"], .directory), (["info", "a", "..b"], .faulty .permissionDenied),
    (["info", "a", "c"], .file (Text.Utf8.asciiBytes " prod\n".toList)),
    (["info", "..old"], .directory), (["info", "..old", "c"], .file [])]⟩

theorem holdsTree_nested : HoldsTree nestedVolume ["info"] where
  directory := rfl
  distinct := by decide +kernel
  isName names entry hEntry := by
    simp [nestedVolume] at hEntry
    rcases hEntry with
        ⟨rfl, -⟩ | ⟨rfl, -⟩ | ⟨rfl, -⟩ | ⟨rfl, -⟩ | ⟨rfl, -⟩ | ⟨rfl, -⟩ | ⟨rfl, -⟩ <;>
      decide +kernel
  parent front name entry hFront hEntry := by
    obtain ⟨first, front, rfl⟩ := List.exists_cons_of_ne_nil hFront
    simp [nestedVolume, List.append_eq_singleton_iff] at hEntry
    rcases hEntry with ⟨⟨rfl, rfl, -⟩, -⟩ | ⟨⟨rfl, rfl, -⟩, -⟩ | ⟨⟨rfl, rfl, -⟩, -⟩ <;>
      decide +kernel
  noLink names steps := by simp [nestedVolume]

theorem linksLead_nested : nestedVolume.LinksLead := by
  intro place steps hLink
  have hPlace : place ≠ [] := by
    rintro rfl
    cases hLink
  simpa [nestedVolume] using Tree.mem_entries_of_lookup hPlace hLink

/-- The three files that are not hidden are fields. -/
theorem read_of_nestedVolume : ∃ info log, read nestedVolume ⟨.root, ["info"]⟩ = (.ok info, log) ∧
    ("a/..b", "") ∈ info ∧ ("a/c", "prod") ∈ info ∧ ("a-b", "core") ∈ info := by
  have hRoot : nestedVolume.locate ⟨.root, ["info"]⟩ = .ok ["info"] := rfl
  obtain ⟨files, hFiles, -, -, hRead⟩ :=
    read_of_holdsTree linksLead_nested hRoot holdsTree_nested
  have hField {names : List String} {entry : Entry}
      (hEntry : (["info"] ++ names, entry) ∈ nestedVolume.entries)
      (hRegular : isRegular entry = true) (hVisible : isVisible names = true) :
      ("/".intercalate names, valueIn entry) ∈
        files.map fun file => ("/".intercalate file.1, valueIn file.2) :=
    List.mem_map_of_mem ((hFiles names entry).mpr ⟨hEntry, hRegular, isVisible_iff.mp hVisible⟩)
  refine ⟨_, _, hRead, ?_, ?_, ?_⟩
  · exact @hField ["a", "..b"] (.faulty .permissionDenied) (by decide +kernel) rfl
      (by decide +kernel)
  · have hValue : valueIn (.file (Text.Utf8.asciiBytes " prod\n".toList)) = "prod" := by
      decide +kernel
    exact hValue ▸ @hField ["a", "c"] _ (by decide +kernel) rfl (by decide +kernel)
  · have hValue : valueIn (.file (Text.Utf8.asciiBytes "core".toList)) = "core" := by
      decide +kernel
    exact hValue ▸ @hField ["a-b"] _ (by decide +kernel) rfl (by decide +kernel)

end PodGauges.Downward
