import Mathlib.Data.List.Induction
import PodGauges.Keyed

/-! Laws of tables under distinct keys. A table is read through `get?`; the order in which keys
first came is kept by every operation here, and so is the distinctness of the keys. -/
namespace PodGauges.Keyed

variable {κ ν : Type} [DecidableEq κ]

/-- Putting a value changes exactly the reading at its own key. -/
theorem get?_put (table : Keyed κ ν) (k k' : κ) (v : ν) :
    get? k' (put k v table) = if k' = k then some v else get? k' table := by
  induction table with
  | nil => simp [put, get?, eq_comm]
  | cons entry rest ih =>
      obtain ⟨k₀, v₀⟩ := entry
      by_cases hk : k₀ = k
      · subst k₀
        by_cases hk' : k' = k
        · simp [put, get?, hk']
        · simp [put, get?, hk', Ne.symm hk']
      · by_cases hk' : k₀ = k'
        · subst k₀
          simp [put, get?, hk]
        · simp [put, get?, hk, hk', ih]

/-- Restricting a table to a class of keys restricts the readings, and loses none of them. -/
theorem get?_filter (table : Keyed κ ν) (p : κ → Bool) (k : κ) :
    get? k (table.filter fun entry => p entry.1) = if p k then get? k table else none := by
  induction table with
  | nil => simp [get?]
  | cons entry rest ih =>
      obtain ⟨k₀, v₀⟩ := entry
      by_cases hk : k₀ = k
      · subst k₀
        by_cases hp : p k
        · simp [get?, hp]
        · simp [hp, ih]
      · by_cases hp : p k₀ <;> simp [get?, hk, hp, ih]

/-- A value put under a key outside of a class leaves the restriction to the class as it is, its
order included; one inside of the class is put into the restriction. -/
theorem filter_put (table : Keyed κ ν) (p : κ → Bool) (k : κ) (v : ν) :
    (put k v table).filter (fun entry => p entry.1) =
      if p k then put k v (table.filter fun entry => p entry.1)
      else table.filter fun entry => p entry.1 := by
  induction table with
  | nil => by_cases hp : p k <;> simp [put, hp]
  | cons entry rest ih =>
      obtain ⟨k₀, v₀⟩ := entry
      by_cases hk : k₀ = k
      · subst k₀
        by_cases hp : p k <;> simp [put, hp]
      · by_cases hp : p k <;> by_cases hp₀ : p k₀ <;> simp [put, hk, hp, hp₀, ih]

/-- No two entries of a table have the same key. -/
def Distinct (table : Keyed κ ν) : Prop := (table.map (·.1)).Nodup

omit [DecidableEq κ] in
theorem distinct_nil : Distinct ([] : Keyed κ ν) := List.nodup_nil

theorem mem_keys_put (table : Keyed κ ν) (k k' : κ) (v : ν) :
    k' ∈ (put k v table).map (·.1) ↔ k' = k ∨ k' ∈ table.map (·.1) := by
  induction table with
  | nil => simp [put]
  | cons entry rest ih =>
      obtain ⟨k₀, v₀⟩ := entry
      by_cases hk : k₀ = k
      · simp [put, hk]
      · simp only [put, hk, if_false, List.map_cons, List.mem_cons, ih]
        exact or_left_comm

/-- To put keeps keys different. -/
theorem Distinct.put {table : Keyed κ ν} (distinct : Distinct table) (k : κ) (v : ν) :
    Distinct (put k v table) := by
  induction table with
  | nil => simp [Distinct, Keyed.put]
  | cons entry rest ih =>
      obtain ⟨k₀, v₀⟩ := entry
      obtain ⟨fresh, hRest⟩ := List.nodup_cons.mp distinct
      by_cases hk : k₀ = k
      · subst k₀
        simp only [Keyed.put, if_true]
        exact List.nodup_cons.mpr ⟨fresh, hRest⟩
      · simp only [Keyed.put, hk, if_false]
        refine List.nodup_cons.mpr ⟨fun h => ?_, ih hRest⟩
        rcases (mem_keys_put rest k k₀ v).mp h with h | h
        · exact hk h
        · exact fresh h

/-- Pairs put one after another never leave two values under one key. -/
theorem distinct_ofPairs (pairs : List (κ × ν)) : Distinct (ofPairs pairs) := by
  have general (table : Keyed κ ν) (h : Distinct table) :
      Distinct (pairs.foldl (fun table pair => Keyed.put pair.1 pair.2 table) table) := by
    induction pairs generalizing table with
    | nil => exact h
    | cons pair rest ih => exact ih _ (h.put pair.1 pair.2)
  exact general [] distinct_nil

/-- The keys of a table of pairs are those of the pairs. -/
theorem mem_keys_ofPairs {pairs : List (κ × ν)} {k : κ} :
    k ∈ (ofPairs pairs).map (·.1) ↔ k ∈ pairs.map (·.1) := by
  have general (table : Keyed κ ν) :
      k ∈ (pairs.foldl (fun table pair => Keyed.put pair.1 pair.2 table) table).map (·.1) ↔
        k ∈ table.map (·.1) ∨ k ∈ pairs.map (·.1) := by
    induction pairs generalizing table with
    | nil => simp
    | cons pair rest ih =>
        rw [List.foldl_cons, ih, mem_keys_put, List.map_cons, List.mem_cons, or_assoc,
          or_left_comm]
  simpa [ofPairs] using general []

theorem mem_of_mem_put {table : Keyed κ ν} {k k' : κ} {v v' : ν} (h : (k', v') ∈ put k v table) :
    (k', v') = (k, v) ∨ (k', v') ∈ table := by
  induction table with
  | nil => exact .inl (List.mem_singleton.mp h)
  | cons entry rest ih =>
      obtain ⟨k₀, v₀⟩ := entry
      rw [put] at h
      split at h
      · exact (List.mem_cons.mp h).imp_right (List.mem_cons_of_mem _)
      · rcases List.mem_cons.mp h with h | h
        · exact .inr (h ▸ List.mem_cons_self ..)
        · exact (ih h).imp_right (List.mem_cons_of_mem _)

/-- Every entry of a table of pairs is one of the pairs. -/
theorem mem_of_mem_ofPairs {pairs : List (κ × ν)} {k : κ} {v : ν} (h : (k, v) ∈ ofPairs pairs) :
    (k, v) ∈ pairs := by
  have general (table : Keyed κ ν)
      (hTable : (k, v) ∈ pairs.foldl (fun table pair => Keyed.put pair.1 pair.2 table) table) :
      (k, v) ∈ pairs ∨ (k, v) ∈ table := by
    clear h
    induction pairs generalizing table with
    | nil => exact .inr hTable
    | cons pair rest ih =>
        rcases ih _ hTable with hRest | hPut
        · exact .inl (List.mem_cons_of_mem _ hRest)
        · rcases mem_of_mem_put hPut with hPair | hBefore
          · exact .inl (hPair ▸ List.mem_cons_self ..)
          · exact .inr hBefore
  exact (general [] h).resolve_right List.not_mem_nil

/-- A table is built pair by pair. -/
theorem ofPairs_append_singleton (pairs : List (κ × ν)) (pair : κ × ν) :
    ofPairs (pairs ++ [pair]) = put pair.1 pair.2 (ofPairs pairs) := by
  rw [ofPairs, List.foldl_append]
  rfl

/-- A pair that comes last decides on its own key and on no other. -/
theorem get?_ofPairs_append (pairs : List (κ × ν)) (pair : κ × ν) (k : κ) :
    get? k (ofPairs (pairs ++ [pair])) =
      if k = pair.1 then some pair.2 else get? k (ofPairs pairs) := by
  rw [ofPairs_append_singleton, get?_put]

/-- A key that is put is appended unless it is there already. -/
theorem keys_put (table : Keyed κ ν) (k : κ) (v : ν) : (put k v table).map (·.1) =
    if k ∈ table.map (·.1) then table.map (·.1) else table.map (·.1) ++ [k] := by
  induction table with
  | nil => rfl
  | cons entry rest ih =>
      obtain ⟨k₀, v₀⟩ := entry
      by_cases hk : k₀ = k
      · simp [put, hk]
      · simp only [put, hk, if_false, List.map_cons, ih, List.mem_cons, Ne.symm hk, false_or]
        split <;> rfl

/-- The keys of a table of pairs stand in the order in which they first came. -/
theorem keys_ofPairs (pairs : List (κ × ν)) :
    (ofPairs pairs).map (·.1) = (pairs.map (·.1)).eraseDups := by
  -- From the back, as each pair meets the table of those in front of it.
  induction pairs using List.reverseRecOn with
  | nil => rfl
  | append_singleton pairs pair ih =>
      rw [ofPairs_append_singleton, keys_put, List.map_append, List.eraseDups_append, ← ih]
      split
      · next h => simp [List.removeAll, mem_keys_ofPairs.mp h]
      · next h => simp [List.removeAll, List.eraseDups_cons, mt mem_keys_ofPairs.mpr h]

/-- Of several values for a key the last one is read. -/
theorem get?_ofPairs (pairs : List (κ × ν)) (k : κ) :
    get? k (ofPairs pairs) = ((pairs.filter (·.1 = k)).getLast?).map (·.2) := by
  induction pairs using List.reverseRecOn with
  | nil => rfl
  | append_singleton pairs pair ih =>
      rw [get?_ofPairs_append, List.filter_append]
      by_cases hk : k = pair.1
      · simp [hk]
      · simp [hk, Ne.symm hk, ih]

/-- A new key goes to the end. -/
theorem put_of_not_mem {table : Keyed κ ν} {k : κ} (h : k ∉ table.map (·.1)) (v : ν) :
    put k v table = table ++ [(k, v)] := by
  induction table with
  | nil => rfl
  | cons entry rest ih =>
      obtain ⟨hk, hRest⟩ := not_or.mp (mt List.mem_cons.mpr h)
      simp [put, Ne.symm hk, ih hRest]

/-- Pairs under distinct keys are a table as they are. -/
theorem ofPairs_of_distinct {pairs : List (κ × ν)} (h : Distinct pairs) :
    ofPairs pairs = pairs := by
  have general (table : Keyed κ ν) (hAll : Distinct (table ++ pairs)) :
      pairs.foldl (fun table pair => Keyed.put pair.1 pair.2 table) table = table ++ pairs := by
    clear h
    induction pairs generalizing table with
    | nil => simp
    | cons pair rest ih =>
        have hFresh : pair.1 ∉ table.map (·.1) := by
          intro hMem
          rw [Distinct, List.map_append, List.nodup_append] at hAll
          exact hAll.2.2 _ hMem _ (List.mem_cons_self ..) rfl
        rw [List.foldl_cons, put_of_not_mem hFresh, ih _ (by simpa using hAll)]
        simp
  exact general [] h

/-- Among distinct keys the reading at a key and the stored entry say the same. -/
theorem Distinct.mem_iff {table : Keyed κ ν} (distinct : Distinct table) (k : κ) (v : ν) :
    (k, v) ∈ table ↔ get? k table = some v := by
  induction table with
  | nil => simp [get?]
  | cons entry rest ih =>
      obtain ⟨k₀, v₀⟩ := entry
      obtain ⟨fresh, hRest⟩ := List.nodup_cons.mp distinct
      by_cases hk : k₀ = k
      · subst k₀
        have absent : (k, v) ∉ rest := fun h => fresh (List.mem_map.mpr ⟨_, h, rfl⟩)
        simp [get?, absent, eq_comm]
      · have different : (k, v) ≠ (k₀, v₀) := fun h => hk (congrArg Prod.fst h).symm
        simp [get?, hk, different, ih hRest]

end PodGauges.Keyed
