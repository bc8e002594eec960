import Mathlib.Data.List.Nodup
import PodGauges.Proofs.Downward.Fields
import PodGauges.Proofs.File.Walk
import PodGauges.Proofs.Text.Utf8

/-! A volume as the node lays it out. The files are in a directory with the time in its name, a link
leads to that directory, and the first name of every file is a link through it. What is found is
what is a file at the end of such a link. Where the link leads to a directory nothing below it is
found, for links are not entered; so the fields with more than one name are lost. -/
namespace PodGauges.Downward

open File

/-- The fields of a volume before they are laid out, each with the names that lead to it. -/
abbrev Contents := List (List String × List UInt8)

def dataName : String := "..data"

/-- What is where in a volume: the directory of one moment, the link to it, the files in the
directory and the directories that they need, and a link to the first name of each file. -/
inductive IsLaidOut (stamp : String) (contents : Contents) : List String → Entry → Prop where
  | stamped : IsLaidOut stamp contents [stamp] .directory
  | data : IsLaidOut stamp contents [dataName] (.link [stamp])
  | file {names : List String} {bytes : List UInt8} (h : (names, bytes) ∈ contents) :
      IsLaidOut stamp contents (stamp :: names) (.file bytes)
  | between {front : List String} {name : String} {back : List String} {bytes : List UInt8}
      (hFront : front ≠ []) (h : (front ++ name :: back, bytes) ∈ contents) :
      IsLaidOut stamp contents (stamp :: front) .directory
  | visible {name : String} {back : List String} {bytes : List UInt8}
      (h : (name :: back, bytes) ∈ contents) :
      IsLaidOut stamp contents [name] (.link [dataName, name])

/-- A directory holds a volume with some contents and nothing else. The names of the fields do not
begin like those of the volume's own entries. -/
structure HoldsVolume (t : Tree) (place : List String) (stamp : String) (contents : Contents) :
    Prop where
  directory : t.entry? place = some .directory
  distinct : t.Distinct
  isName_stamp : Tree.IsName stamp
  hidden_stamp : ¬ isVisible [stamp]
  visible : ∀ field ∈ contents, isVisible field.1
  isName : ∀ field ∈ contents, ∀ name ∈ field.1, Tree.IsName name ∧ '/' ∉ name.toList
  laidOut : ∀ names entry, names ≠ [] →
    ((place ++ names, entry) ∈ t.entries ↔ IsLaidOut stamp contents names entry)

/-! ## What is found in a directory -/

section Fields

variable {t : Tree} {root : Path}

/-- What an entry contributes: a file that the volume does not keep for itself is a field. -/
def field? (t : Tree) (root : Path) (names : List String) : Option Field :=
  if isVisible names then
    (t.read (below root names)).toOption.map fun bytes => ("/".intercalate names, valueText bytes)
  else none

section OfEntry

variable {names : List String}

theorem field?_of_directory (h : t.status (below root names) = .ok .directory) :
    field? t root names = none := by
  have hRead : (t.read (below root names)).toOption = none := by
    simp [Tree.read, h, bind, Except.bind, Except.toOption]
  simp [field?, hRead]

theorem field?_of_file {bytes : List UInt8} (hVisible : isVisible names)
    (h : t.status (below root names) = .ok (.file bytes)) :
    field? t root names = some ("/".intercalate names, valueText bytes) := by
  rw [field?, if_pos hVisible, Tree.read_eq_ok.mpr h]
  rfl

end OfEntry

/-- If every visible entry is a file or a directory, the fields are found without a complaint. -/
theorem fieldsOf_eq {entries : List (List String)}
    (h : ∀ names ∈ entries, isVisible names → t.status (below root names) = .ok .directory ∨
      ∃ bytes, t.status (below root names) = .ok (.file bytes)) :
    fieldsOf t root entries = (.ok (entries.filterMap (field? t root)), []) := by
  have hEntry : ∀ names ∈ entries, isVisible names →
      ∃ entry, t.status (below root names) = .ok entry := fun names hNames hVisible =>
    (h names hNames hVisible).elim (fun hStatus => ⟨_, hStatus⟩) fun ⟨_, hStatus⟩ => ⟨_, hStatus⟩
  have hQuiet : ∀ file ∈ entries.filterMap (file? t root),
      warnings (below root file.1) file.2 = [] := by
    intro file hFile
    obtain ⟨names, hNames, hFound⟩ := List.mem_filterMap.mp hFile
    obtain ⟨rfl, hVisible, hStatus, hRegular⟩ := file?_eq_some.mp hFound
    rcases h _ hNames hVisible with hOther | ⟨bytes, hOther⟩ <;>
      rw [Except.ok.inj (hStatus.symm.trans hOther)]
    all_goals rfl
  have hField : ∀ names ∈ entries,
      (file? t root names).map (fun file => ("/".intercalate file.1, valueIn file.2)) =
        field? t root names := by
    intro names hNames
    by_cases hVisible : isVisible names
    · rcases h names hNames hVisible with hStatus | ⟨bytes, hStatus⟩
      · rw [field?_of_directory hStatus]
        simp [file?, hVisible, hStatus, Except.toOption, isRegular]
      · rw [field?_of_file hVisible hStatus]
        simp [file?, hVisible, hStatus, Except.toOption, isRegular, valueIn]
    · rw [field?, if_neg hVisible, file?, if_neg hVisible]
      rfl
  rw [fieldsOf_eq_files hEntry, List.map_filterMap, List.flatMap_eq_nil_iff.mpr hQuiet,
    List.filterMap_congr hField]

end Fields

/-! ## Behind the links -/

/-- What the link to the first name of a field leads to. -/
def pointed (back : List String) (bytes : List UInt8) : Entry :=
  if back = [] then .file bytes else .directory

namespace HoldsVolume

variable {t : Tree} {root : Path} {place : List String} {stamp name : String} {contents : Contents}
  {back : List String} {bytes : List UInt8} (h : HoldsVolume t place stamp contents)
include h

theorem lookup_eq {names : List String} {entry : Entry} (hNames : names ≠ [])
    (hEntry : IsLaidOut stamp contents names entry) :
    t.entry? (place ++ names) = some entry :=
  (h.distinct.entry?_eq_some (by simp [hNames])).mpr ((h.laidOut names entry hNames).mpr hEntry)

/-- Behind the link to the directory there is what the link to the name leads to. -/
theorem lookup_behind (hField : (name :: back, bytes) ∈ contents) :
    t.entry? (place ++ [stamp] ++ [name]) = some (pointed back bytes) := by
  rw [List.append_assoc]
  refine h.lookup_eq (List.cons_ne_nil _ _) ?_
  cases back with
  | nil => exact .file hField
  | cons second back => exact .between (List.cons_ne_nil name []) hField

/-- The first name of a field leads through two links to what has that name among the files. -/
theorem resolve_visible (hField : (name :: back, bytes) ∈ contents) :
    t.resolve 2 place [name] = .ok (place ++ [stamp] ++ [name]) := by
  have hName : Tree.IsName name := (h.isName _ hField name (List.mem_cons_self ..)).1
  have hData : Tree.IsName dataName := ⟨by decide, by decide, by decide, by decide⟩
  have hStamp := h.lookup_eq (List.cons_ne_nil _ _) .stamped
  have hFound := h.lookup_behind hField
  have hNoLink : ∀ steps, pointed back bytes ≠ .link steps := by
    intro steps
    cases back <;> simp [pointed]
  calc t.resolve 2 place [name]
      = t.resolve 1 place [dataName, name] :=
        Tree.resolve_link h.directory hName (h.lookup_eq (List.cons_ne_nil _ _) (.visible hField))
          (by decide)
    _ = t.resolve 0 place [stamp, name] :=
        Tree.resolve_link h.directory hData (h.lookup_eq (List.cons_ne_nil _ _) .data)
          h.isName_stamp.notEmpty
    _ = t.resolve 0 (place ++ [stamp]) [name] :=
        Tree.resolve_name h.directory h.isName_stamp hStamp (by simp)
    _ = t.resolve 0 (place ++ [stamp] ++ [name]) [] :=
        Tree.resolve_name hStamp hName hFound hNoLink
    _ = .ok (place ++ [stamp] ++ [name]) := rfl

/-- A link leads to the file of a field with one name, and to a directory for one with more. -/
theorem status_eq (hLead : t.LinksLead)
    (hRoot : t.resolve (Tree.maxLinks - 2) [] root.names = .ok place)
    (hField : (name :: back, bytes) ∈ contents) :
    t.status (below root [name]) = .ok (pointed back bytes) := by
  have hLocate : t.locate (below root [name]) = .ok (place ++ [stamp] ++ [name]) :=
    Tree.resolve_append hLead hRoot (h.resolve_visible hField)
  exact Tree.status_eq_ok.mpr ⟨_, hLocate, h.lookup_behind hField⟩

/-- The visible entries are the links to the first names of the fields. -/
theorem exists_field {names : List String} (hNames : names ∈ t.descendants place)
    (hVisible : isVisible names) :
    ∃ name back bytes, names = [name] ∧ (name :: back, bytes) ∈ contents := by
  obtain ⟨hNil, entry, hEntry⟩ := Tree.mem_descendants.mp hNames
  cases (h.laidOut names entry hNil).mp hEntry with
  | visible hField => exact ⟨_, _, _, rfl, hField⟩
  | data => exact absurd hVisible (by decide +kernel)
  | stamped | file | between => exact absurd hVisible h.hidden_stamp

theorem mem_descendants (hField : (name :: back, bytes) ∈ contents) :
    [name] ∈ t.descendants place :=
  Tree.mem_descendants.mpr ⟨List.cons_ne_nil _ _, _,
    (h.laidOut _ _ (List.cons_ne_nil _ _)).mpr (.visible hField)⟩

/-- An entry of a volume contributes the field whose only name it has, if there is one. -/
theorem field?_eq_some (hLead : t.LinksLead)
    (hRoot : t.resolve (Tree.maxLinks - 2) [] root.names = .ok place) {names : List String}
    (hNames : names ∈ t.descendants place) {key value : String} :
    field? t root names = some (key, value) ↔
      names = [key] ∧ ∃ bytes, ([key], bytes) ∈ contents ∧ value = valueText bytes := by
  constructor
  · intro hField
    by_cases hVisible : isVisible names
    · obtain ⟨name, back, bytes, rfl, hContents⟩ := h.exists_field hNames hVisible
      have hStatus := h.status_eq hLead hRoot hContents
      cases back with
      | nil =>
          rw [field?_of_file hVisible hStatus, String.intercalate_singleton] at hField
          cases hField
          exact ⟨rfl, bytes, hContents, rfl⟩
      | cons second back =>
          rw [field?_of_directory hStatus] at hField
          cases hField
    · rw [field?, if_neg hVisible] at hField
      cases hField
  · rintro ⟨rfl, bytes, hContents, rfl⟩
    rw [field?_of_file (h.visible _ hContents) (h.status_eq hLead hRoot hContents),
      String.intercalate_singleton]

section Read

variable (hLead : t.LinksLead) (hRoot : t.resolve (Tree.maxLinks - 2) [] root.names = .ok place)
include hLead hRoot

/-- What is found in a volume is what its entries contribute, without a complaint. -/
theorem read_eq : read t root = (.ok ((t.descendants place).filterMap (field? t root)), []) := by
  have hPlace : t.locate root = .ok place := Tree.resolve_add hRoot 2
  have hDirectory : t.isDirectory root = .ok true := by
    simp [Tree.isDirectory, Tree.test, Tree.status_eq_ok.mpr ⟨place, hPlace, h.directory⟩]
  simp only [read, hDirectory, hPlace]
  refine fieldsOf_eq fun names hNames hVisible => ?_
  obtain ⟨name, back, bytes, rfl, hContents⟩ := h.exists_field hNames hVisible
  have hStatus := h.status_eq hLead hRoot hContents
  cases back with
  | nil => exact .inr ⟨bytes, hStatus⟩
  | cons second back => exact .inl hStatus

/-- What is found are the fields with one name. -/
theorem mem_fields (key value : String) :
    (key, value) ∈ (t.descendants place).filterMap (field? t root) ↔
      ∃ bytes, ([key], bytes) ∈ contents ∧ value = valueText bytes := by
  rw [List.mem_filterMap]
  constructor
  · rintro ⟨names, hNames, hField⟩
    exact ((h.field?_eq_some hLead hRoot hNames).mp hField).2
  · rintro ⟨bytes, hContents, rfl⟩
    have hNames := h.mem_descendants hContents
    exact ⟨_, hNames, (h.field?_eq_some hLead hRoot hNames).mpr ⟨rfl, bytes, hContents, rfl⟩⟩

/-- No field is found twice, for no two entries have the same names. -/
theorem nodup_keys : (((t.descendants place).filterMap (field? t root)).map (·.1)).Nodup := by
  refine List.pairwise_map.mpr (List.pairwise_filterMap.mpr ?_)
  refine (h.distinct.nodup_descendants place).imp_of_mem ?_
  rintro names other hNames hOther hDiffer ⟨key, value⟩ hField ⟨_, value'⟩ hField' rfl
  have hFirst := (h.field?_eq_some hLead hRoot hNames).mp hField
  have hSecond := (h.field?_eq_some hLead hRoot hOther).mp hField'
  exact hDiffer (hFirst.1.trans hSecond.1.symm)

end Read

end HoldsVolume

/-- The path of a field with two names or more has a slash in it. -/
theorem slash_mem_intercalate (name second : String) (back : List String) :
    '/' ∈ ("/".intercalate (name :: second :: back)).toList := by
  rw [String.toList_intercalate, List.map_cons, List.map_cons, List.intercalate_cons_cons]
  exact List.mem_append_left _ (List.mem_append_right _ (List.mem_singleton.mpr rfl))

/-- The fields found in a volume are those with a single name, each once and with its trimmed
content; nothing of the volume's own is among them, and nothing is complained about. So the contents
come back whole exactly if no field has more than one name. -/
theorem read_of_holdsVolume {t : Tree} {root : Path} {place : List String} {stamp : String}
    {contents : Contents} (hLead : t.LinksLead)
    (hRoot : t.resolve (Tree.maxLinks - 2) [] root.names = .ok place)
    (h : HoldsVolume t place stamp contents) :
    ∃ info, read t root = (.ok info, []) ∧ (info.map (·.1)).Nodup ∧
      (∀ key value, (key, value) ∈ info ↔
        ∃ bytes, ([key], bytes) ∈ contents ∧ value = valueText bytes) ∧
      ((∀ names bytes, (names, bytes) ∈ contents →
          ("/".intercalate names, valueText bytes) ∈ info) ↔
        ∀ names bytes, (names, bytes) ∈ contents → names.length = 1) := by
  have hInfo := h.mem_fields hLead hRoot
  refine ⟨_, h.read_eq hLead hRoot, h.nodup_keys hLead hRoot, hInfo, ?_⟩
  constructor
  · intro hAll names bytes hContents
    cases names with
    | nil => exact absurd (h.visible _ hContents) Bool.false_ne_true
    | cons name back =>
        cases back with
        | nil => rfl
        | cons second back =>
            -- the name of a file has no slash, and the path of such a field does
            obtain ⟨_, hFile, -⟩ := (hInfo _ _).mp (hAll _ _ hContents)
            exact absurd (slash_mem_intercalate name second back)
              (h.isName _ hFile _ (List.mem_singleton.mpr rfl)).2
  · intro hSingle names bytes hContents
    obtain ⟨name, rfl⟩ := List.length_eq_one_iff.mp (hSingle names bytes hContents)
    rw [String.intercalate_singleton, hInfo]
    exact ⟨bytes, hContents, rfl⟩

/-- A volume with a field of one name and one of two. -/
def annotatedContents : Contents :=
  [(["namespace"], Text.Utf8.asciiBytes " prod\n".toList),
    (["annotations", "team"], Text.Utf8.asciiBytes "core\n".toList)]

def annotatedVolume : Tree :=
  ⟨[(["info"], .directory), (["info", "..2024_01_01"], .directory),
    (["info", "..data"], .link ["..2024_01_01"]),
    (["info", "..2024_01_01", "namespace"], .file (Text.Utf8.asciiBytes " prod\n".toList)),
    (["info", "namespace"], .link ["..data", "namespace"]),
    (["info", "..2024_01_01", "annotations"], .directory),
    (["info", "..2024_01_01", "annotations", "team"],
      .file (Text.Utf8.asciiBytes "core\n".toList)),
    (["info", "annotations"], .link ["..data", "annotations"])]⟩

theorem holdsVolume_annotated :
    HoldsVolume annotatedVolume ["info"] "..2024_01_01" annotatedContents where
  directory := rfl
  distinct := by decide +kernel
  isName_stamp := by decide +kernel
  hidden_stamp := by decide +kernel
  visible := by decide +kernel
  isName := by decide +kernel
  laidOut names entry hNames := by
    have hFlat : (["namespace"], Text.Utf8.asciiBytes " prod\n".toList) ∈ annotatedContents :=
      List.mem_cons_self ..
    have hDeep : (["annotations"] ++ "team" :: [], Text.Utf8.asciiBytes "core\n".toList) ∈
        annotatedContents := List.mem_cons_of_mem _ (List.mem_cons_self ..)
    constructor
    · intro hEntry
      simp only [annotatedVolume, List.mem_cons, List.not_mem_nil, or_false, Prod.mk.injEq,
        List.cons_append, List.nil_append, List.cons.injEq, true_and, hNames, false_and,
        false_or] at hEntry
      rcases hEntry with ⟨rfl, rfl⟩ | ⟨rfl, rfl⟩ | ⟨rfl, rfl⟩ | ⟨rfl, rfl⟩ | ⟨rfl, rfl⟩ |
        ⟨rfl, rfl⟩ | ⟨rfl, rfl⟩
      · exact .stamped
      · exact .data
      · exact .file hFlat
      · exact .visible hFlat
      · exact .between (List.cons_ne_nil _ _) hDeep
      · exact .file hDeep
      · exact .visible hDeep
    · intro hEntry
      cases hEntry with
      | stamped => decide +kernel
      | data => decide +kernel
      | file h =>
          simp only [annotatedContents, List.mem_cons, List.not_mem_nil, or_false,
            Prod.mk.injEq] at h
          rcases h with ⟨rfl, rfl⟩ | ⟨rfl, rfl⟩ <;> decide +kernel
      | visible h =>
          simp only [annotatedContents, List.mem_cons, List.not_mem_nil, or_false,
            Prod.mk.injEq, List.cons.injEq] at h
          rcases h with ⟨⟨rfl, -⟩, -⟩ | ⟨⟨rfl, -⟩, -⟩ <;> decide +kernel
      | between hFront h =>
          obtain ⟨first, front, rfl⟩ := List.exists_cons_of_ne_nil hFront
          simp [annotatedContents, List.append_eq_singleton_iff] at h
          obtain ⟨⟨rfl, rfl, -⟩, -⟩ := h
          decide +kernel

theorem linksLead_annotated : annotatedVolume.LinksLead := by
  intro place steps hLink
  cases place with
  | nil => cases hLink
  | cons name place =>
      have hMem := Tree.mem_entries_of_lookup (List.cons_ne_nil name place) hLink
      simp only [annotatedVolume, List.mem_cons, List.not_mem_nil, or_false, Prod.mk.injEq,
        reduceCtorEq, and_false, false_or, Entry.link.injEq] at hMem
      rcases hMem with ⟨-, rfl⟩ | ⟨-, rfl⟩ | ⟨-, rfl⟩ <;> decide

def annotatedRoot : Path := ⟨.root, ["info"]⟩

/-- The field with one name is found. -/
theorem read_of_annotatedVolume : ∃ info,
    read annotatedVolume annotatedRoot = (.ok info, []) ∧ ("namespace", "prod") ∈ info := by
  have hRoot : annotatedVolume.resolve (Tree.maxLinks - 2) [] annotatedRoot.names =
      .ok ["info"] := rfl
  obtain ⟨info, hRead, -, hInfo, -⟩ :=
    read_of_holdsVolume linksLead_annotated hRoot holdsVolume_annotated
  refine ⟨info, hRead, (hInfo _ _).mpr ⟨_, List.mem_cons_self .., ?_⟩⟩
  decide +kernel

/-- The field with two names is not among what is found, although its file can be read. -/
theorem read_lost_behind_link :
    HoldsVolume annotatedVolume ["info"] "..2024_01_01" annotatedContents ∧
    (annotatedVolume.readLossy (annotatedRoot.join (Path.ofString "annotations/team"))).toOption =
      some "core\n".toList ∧
    ∃ info, read annotatedVolume annotatedRoot = (.ok info, []) ∧
      ∀ value, ("annotations/team", value) ∉ info := by
  have hRoot : annotatedVolume.resolve (Tree.maxLinks - 2) [] annotatedRoot.names =
      .ok ["info"] := rfl
  refine ⟨holdsVolume_annotated, by decide +kernel, _,
    holdsVolume_annotated.read_eq linksLead_annotated hRoot, ?_⟩
  intro value hField
  obtain ⟨bytes, hFile, -⟩ := (holdsVolume_annotated.mem_fields linksLead_annotated hRoot
    "annotations/team" value).mp hField
  simp [annotatedContents] at hFile

end PodGauges.Downward
