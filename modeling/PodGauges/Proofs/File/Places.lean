import Mathlib.Data.List.Nodup
import PodGauges.File.Tree
import PodGauges.Proofs.Except

/-! Trees in which no two entries are at one place. In such a tree the entries are what is found by
their places, and a directory lists each name once. -/
namespace PodGauges.File.Tree

/-- No two entries of a tree are at one place. -/
def Distinct (t : Tree) : Prop := (t.entries.map (·.1)).Nodup

instance (t : Tree) : Decidable t.Distinct :=
  inferInstanceAs (Decidable (t.entries.map (·.1)).Nodup)

variable {t : Tree}

/-- What is below a place begins with its names. -/
theorem below?_eq_some {place path names : List String} :
    below? place path = some names ↔ path = place ++ names := by
  induction place generalizing path with
  | nil => simp [below?]
  | cons name place ih =>
      cases path with
      | nil => simp [below?]
      | cons first path =>
          by_cases hName : name = first
          · simp [below?, hName, ih]
          · simp [below?, hName, Ne.symm hName]

/-! ## Looking up -/

theorem mem_entries_of_lookup {place : List String} {entry : Entry} (hPlace : place ≠ [])
    (h : t.entry? place = some entry) : (place, entry) ∈ t.entries := by
  rw [ entry?, if_neg hPlace] at h
  obtain ⟨front, back, hEntries, -⟩ := List.lookup_eq_some_iff.mp h
  rw [hEntries]
  exact List.mem_append_right _ (List.mem_cons_self ..)

/-- If no place has two entries, each of them is the one at its place. -/
theorem Distinct.entry?_eq_some (h : t.Distinct) {place : List String} {entry : Entry}
    (hPlace : place ≠ []) : t.entry? place = some entry ↔ (place, entry) ∈ t.entries := by
  refine ⟨mem_entries_of_lookup hPlace, fun hMem => ?_⟩
  obtain ⟨front, back, hEntries⟩ := List.append_of_mem hMem
  rw [ entry?, if_neg hPlace]
  refine List.lookup_eq_some_iff.mpr ⟨front, back, hEntries, fun other hOther => ?_⟩
  rw [Distinct, hEntries, List.map_append, List.map_cons] at h
  have hFront := List.nodup_append.mp h
  simpa using (hFront.2.2 other.1 (List.mem_map_of_mem hOther) place (List.mem_cons_self ..)).symm

/-- A path names the entry at the place to which it leads. -/
theorem status_eq_ok {p : Path} {entry : Entry} :
    t.status p = .ok entry ↔ ∃ place, t.locate p = .ok place ∧ t.entry? place = some entry := by
  rw [status, bind_eq_ok]
  refine exists_congr fun place => and_congr_right fun _ => ?_
  cases t.entry? place <;> simp

theorem read_eq_ok {p : Path} {bytes : List UInt8} :
    t.read p = .ok bytes ↔ t.status p = .ok (.file bytes) := by
  rw [read, bind_eq_ok]
  constructor
  · rintro ⟨entry, hStatus, h⟩
    cases entry <;> cases h
    exact hStatus
  · exact fun hStatus => ⟨_, hStatus, rfl⟩

/-- What can be read is the content of an entry. -/
theorem exists_entry_of_read {p : Path} {bytes : List UInt8} (h : t.read p = .ok bytes) :
    ∃ place, (place, .file bytes) ∈ t.entries := by
  obtain ⟨place, -, hEntry⟩ := status_eq_ok.mp (read_eq_ok.mp h)
  have hNotRoot : place ≠ [] := by
    rintro rfl
    cases hEntry
  exact ⟨place, mem_entries_of_lookup hNotRoot hEntry⟩

/-! ## Listing -/

/-- No name is twice in a directory. -/
theorem Distinct.nodup_namesAt (h : t.Distinct) (place : List String) :
    (t.namesAt place).Nodup := by
  have hNames : t.namesAt place = (t.entries.map (·.1)).filterMap fun path =>
      if path.dropLast = place then path.getLast? else none := by
    rw [namesAt, List.filterMap_map]
    rfl
  rw [hNames]
  refine List.Nodup.filterMap (fun path other name hName hOther => ?_) h
  have hPath {path : List String}
      (hName : name ∈ if path.dropLast = place then path.getLast? else none) :
      path = place ++ [name] := by
    split at hName
    · next hPlace =>
        obtain ⟨front, rfl⟩ := List.getLast?_eq_some_iff.mp hName
        rw [← hPlace, List.dropLast_concat]
    · cases hName
  rw [hPath hName, hPath hOther]

/-- A directory is listed with each of its names once. -/
theorem Distinct.nodup_list (h : t.Distinct) {p : Path} {names : List String}
    (hList : t.list p = .ok names) : names.Nodup := by
  obtain ⟨place, -, hList⟩ := bind_eq_ok.mp hList
  split at hList <;> cases hList
  exact h.nodup_namesAt place

/-- Below a place there are all entries that begin with its names, at any depth. -/
theorem mem_descendants {place names : List String} :
    names ∈ t.descendants place ↔ names ≠ [] ∧ ∃ entry, (place ++ names, entry) ∈ t.entries := by
  rw [descendants, (List.mergeSort_perm _ _).mem_iff]
  simp only [List.mem_filterMap, Prod.exists]
  constructor
  · rintro ⟨path, entry, hMem, hNames⟩
    split at hNames
    · next hBelow =>
        cases hNames
        exact ⟨List.cons_ne_nil _ _, entry, below?_eq_some.mp hBelow ▸ hMem⟩
    · cases hNames
  · rintro ⟨hNil, entry, hMem⟩
    refine ⟨_, entry, hMem, ?_⟩
    obtain ⟨name, rest, rfl⟩ := List.exists_cons_of_ne_nil hNil
    rw [below?_eq_some.mpr rfl]

theorem not_lt_iff_lt_or_eq {a b : String} : ¬ b < a ↔ a < b ∨ a = b := by
  constructor
  · intro hNot
    by_cases hLess : a < b
    · exact .inl hLess
    · exact .inr (String.le_antisymm (String.not_lt.mp hNot) (String.not_lt.mp hLess))
  · rintro (hLess | rfl)
    · exact String.lt_asymm hLess
    · exact String.lt_irrefl a

/-- Lists of names are ordered by their first difference, and a list is before what goes on from
it. -/
theorem namesBefore_iff {xs ys : List String} : namesBefore xs ys = true ↔ ¬ ys < xs := by
  induction xs generalizing ys with
  | nil => simp [namesBefore]
  | cons x xs ih =>
      cases ys with
      | nil => simp [namesBefore]
      | cons y ys =>
          simp only [namesBefore, Bool.or_eq_true, Bool.and_eq_true, decide_eq_true_eq, beq_iff_eq,
            ih, List.cons_lt_cons_iff, not_or, not_lt_iff_lt_or_eq, not_and]
          constructor
          · rintro (hLess | ⟨rfl, hRest⟩)
            · exact ⟨.inl hLess, fun hSame => absurd (hSame ▸ hLess) (String.lt_irrefl x)⟩
            · exact ⟨.inr rfl, fun _ => hRest⟩
          · rintro ⟨hLess | rfl, hRest⟩
            · exact .inl hLess
            · exact .inr ⟨rfl, hRest rfl⟩

/-- What is below a place is in the order of names, one by one from the first on. -/
theorem pairwise_descendants (t : Tree) (place : List String) :
    (t.descendants place).Pairwise fun xs ys => ¬ ys < xs := by
  refine (List.pairwise_mergeSort (fun xs ys zs hFirst hSecond => ?_) (fun xs ys => ?_) _).imp
    namesBefore_iff.mp
  · exact namesBefore_iff.mpr
      (List.le_trans (namesBefore_iff.mp hFirst) (namesBefore_iff.mp hSecond))
  · rw [Bool.or_eq_true, namesBefore_iff, namesBefore_iff]
    exact List.le_total xs ys

/-- What lies below a directory is found there once. -/
theorem Distinct.nodup_descendants (h : t.Distinct) (place : List String) :
    (t.descendants place).Nodup := by
  have hPairs : t.entries.Pairwise fun first second => first.1 ≠ second.1 := List.pairwise_map.mp h
  refine (List.mergeSort_perm _ _).nodup_iff.mpr (List.pairwise_filterMap.mpr (hPairs.imp ?_))
  rintro ⟨path, _⟩ ⟨other, _⟩ hDiffer names hNames _ hSame rfl
  dsimp only at hNames hSame
  cases hPath : below? place path with
  | none => simp [hPath] at hNames
  | some found =>
      cases hOther : below? place other with
      | none => simp [hOther] at hSame
      | some found' =>
          have hFound : found = found' := by
            rw [hPath] at hNames
            rw [hOther] at hSame
            cases found <;> cases found' <;> simp_all
          rw [hFound] at hPath
          exact hDiffer ((below?_eq_some.mp hPath).trans (below?_eq_some.mp hOther).symm)

end PodGauges.File.Tree
