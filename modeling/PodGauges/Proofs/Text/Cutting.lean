import PodGauges.Proofs.Text.Trimming
import PodGauges.Text.Cutting

/-! Cutting a text where it was put together: at line ends, at white space, and at a separator. -/
namespace PodGauges.Text

def IsLine (s : List Char) : Prop := ∀ c ∈ s, ¬ isLineBreak c

instance (s : List Char) : Decidable (IsLine s) := List.decidableBAll (¬ isLineBreak ·) s

/-- A word stands between white space and holds none. -/
structure IsWord (s : List Char) : Prop where
  ne_nil : s ≠ []
  not_blank : ∀ c ∈ s, ¬ isBlank c

instance (s : List Char) : Decidable (IsWord s) :=
  have : Decidable (∀ c ∈ s, ¬ isBlank c) := List.decidableBAll (¬ isBlank ·) s
  decidable_of_iff (s ≠ [] ∧ ∀ c ∈ s, ¬ isBlank c) ⟨fun h => ⟨h.1, h.2⟩, fun h => ⟨h.1, h.2⟩⟩

/-- A text that cannot prolong a word in front of it. -/
def EndsWord (s : List Char) : Prop := s.head?.all isBlank

instance (s : List Char) : Decidable (EndsWord s) :=
  inferInstanceAs (Decidable (s.head?.all isBlank = true))

theorem isBlank_of_isLineBreak {c : Char} (h : isLineBreak c) : isBlank c := by
  simp only [isLineBreak, Bool.or_eq_true, beq_iff_eq] at h
  rcases h with ((((((((rfl | rfl) | rfl) | rfl) | rfl) | rfl) | rfl) | rfl) | rfl) | rfl <;> decide

theorem IsWord.isLine {s : List Char} (h : IsWord s) : IsLine s :=
  fun c hc hBreak => h.not_blank c hc (isBlank_of_isLineBreak hBreak)

/-! ## Runs -/

section Runs

variable {p : Char → Bool}

theorem runs_cons {c : Char} (hc : p c) (s : List Char) : runs p (c :: s) = runs p s := by
  cases s <;> simp [runs, hc]

/-- Characters of the class in front of a text belong to no run. -/
theorem runs_append_of_all {front : List Char} (h : ∀ c ∈ front, p c) (s : List Char) :
    runs p (front ++ s) = runs p s := by
  induction front with
  | nil => rfl
  | cons c front ih =>
      rw [List.cons_append, runs_cons (h c (List.mem_cons_self ..)),
        ih fun d hd => h d (List.mem_cons_of_mem _ hd)]

/-- A run is cut off in front of a text that begins with a character of the class. -/
theorem runs_append {run rest : List Char} (hNil : run ≠ []) (hRun : ∀ c ∈ run, ¬ p c)
    (hRest : rest.head?.all p) : runs p (run ++ rest) = run :: runs p rest := by
  induction run with
  | nil => exact absurd rfl hNil
  | cons c run ih =>
      have hc : p c = false := by simpa using hRun c (List.mem_cons_self ..)
      cases run with
      | nil =>
          cases rest with
          | nil => simp [runs, hc]
          | cons d rest =>
              have hd : p d := hRest
              simp [runs, hc, hd]
      | cons d run =>
          have hd : p d = false := by simpa using hRun d (by simp)
          have hRuns := ih (by simp) fun e he => hRun e (List.mem_cons_of_mem _ he)
          rw [List.cons_append] at hRuns
          rw [List.cons_append, List.cons_append, runs, if_neg (by simp [hc])]
          simp only [hd, Bool.false_eq_true, if_false, hRuns]

/-- A character that parts nothing begins a run. -/
theorem runs_ne_nil {c : Char} (hc : ¬ p c) (s : List Char) : runs p (c :: s) ≠ [] := by
  cases s with
  | nil => simp [runs, hc]
  | cons d s =>
      by_cases hd : p d
      · simp [runs, hc, hd]
      · cases hRuns : runs p (d :: s) <;> simp [runs, hc, hd, hRuns]

/-- A character outside the class prolongs the run that it stands in front of. -/
theorem runs_cons_of_eq_cons {c : Char} (hc : ¬ p c) {s run : List Char} {others : List (List Char)}
    (hHead : ¬ s.head?.all p) (h : runs p s = run :: others) :
    runs p (c :: s) = (c :: run) :: others := by
  cases s with
  | nil => exact absurd rfl hHead
  | cons d s =>
      have hd : ¬ p d := by simpa using hHead
      simp [runs, hc, hd, h]

theorem runs_cons_congr {c : Char} {s t : List Char} (hHead : s.head?.all p = t.head?.all p)
    (h : runs p s = runs p t) : runs p (c :: s) = runs p (c :: t) := by
  cases s <;> cases t <;> simp_all [runs]

/-- No character of the class stands in a run. -/
theorem not_mem_of_mem_runs {s run : List Char} (h : run ∈ runs p s) : ∀ c ∈ run, ¬ p c := by
  induction s generalizing run with
  | nil => cases h
  | cons c s ih =>
      by_cases hc : p c
      · rw [runs_cons hc] at h
        exact ih h
      · have hFirst : ∀ d ∈ [c], ¬ p d := by simpa using hc
        by_cases hHead : s.head?.all p
        · have hRuns : runs p ([c] ++ s) = [c] :: runs p s := runs_append (by simp) hFirst hHead
          rw [List.singleton_append] at hRuns
          rw [hRuns] at h
          rcases List.mem_cons.mp h with rfl | hMem
          · exact hFirst
          · exact ih hMem
        · cases hRuns : runs p s with
          | nil =>
              cases s with
              | nil => exact absurd rfl hHead
              | cons d s => exact absurd hRuns (runs_ne_nil (by simpa using hHead) s)
          | cons first others =>
              rw [runs_cons_of_eq_cons hc hHead hRuns] at h
              rw [hRuns] at ih
              rcases List.mem_cons.mp h with rfl | hMem
              · exact List.forall_mem_cons.mpr ⟨hc, ih (List.mem_cons_self ..)⟩
              · exact ih (List.mem_cons_of_mem _ hMem)

/-- A character of the class parts the runs in front of it from those behind it. -/
theorem runs_append_cons {c : Char} (hc : p c) (front rest : List Char) :
    runs p (front ++ c :: rest) = runs p front ++ runs p rest := by
  induction front with
  | nil => exact runs_cons hc rest
  | cons d front ih =>
      by_cases hd : p d
      · rw [List.cons_append, runs_cons hd, runs_cons hd, ih]
      · cases front with
        | nil => simp [runs, hd, hc, runs_cons hc]
        | cons e front =>
            rw [List.cons_append] at ih
            by_cases he : p e
            · simp [runs, hd, he, ih]
            · obtain ⟨run, others, hRuns⟩ := List.exists_cons_of_ne_nil (runs_ne_nil he front)
              have hHead : ∀ t, ¬ (e :: t).head?.all p := fun _ => he
              rw [hRuns] at ih
              rw [List.cons_append, List.cons_append, runs_cons_of_eq_cons hd (hHead _) ih,
                runs_cons_of_eq_cons hd (hHead _) hRuns]
              rfl

/-- Characters of the class around a text belong to no run. -/
theorem runs_surrounded {front back : List Char} (hFront : ∀ c ∈ front, p c)
    (hBack : ∀ c ∈ back, p c) (s : List Char) : runs p (front ++ s ++ back) = runs p s := by
  rw [List.append_assoc, runs_append_of_all hFront]
  cases back with
  | nil => rw [List.append_nil]
  | cons c back =>
      obtain ⟨hc, hRest⟩ := List.forall_mem_cons.mp hBack
      have hNone := runs_append_of_all hRest []
      rw [List.append_nil] at hNone
      rw [runs_append_cons hc, hNone]
      exact List.append_nil _

/-- Runs with one separator between each two of them are read back. -/
theorem runs_intercalate {sep : Char} (hSep : p sep) {all : List (List Char)}
    (h : ∀ run ∈ all, run ≠ [] ∧ ∀ c ∈ run, ¬ p c) {tail : List Char} (hTail : ∀ c ∈ tail, p c) :
    runs p ([sep].intercalate all ++ tail) = all := by
  have hNone : runs p tail = [] := by
    have hAll := runs_append_of_all hTail []
    rwa [List.append_nil] at hAll
  have hHead : tail.head?.all p := by
    cases tail with
    | nil => rfl
    | cons c tail => exact hTail c (List.mem_cons_self ..)
  induction all with
  | nil => exact hNone
  | cons run all ih =>
      obtain ⟨hRun, hOthers⟩ := List.forall_mem_cons.mp h
      cases all with
      | nil => rw [List.intercalate_singleton, runs_append hRun.1 hRun.2 hHead, hNone]
      | cons next all =>
          have hCut : ([sep] ++ ([sep].intercalate (next :: all) ++ tail)).head?.all p := hSep
          rw [List.intercalate_cons_cons, List.append_assoc, List.append_assoc,
            runs_append hRun.1 hRun.2 hCut, List.singleton_append, runs_cons hSep, ih hOthers]

end Runs

/-! ## Lines -/

/-- A character that ends no line belongs to the line that it stands in front of. -/
theorem lines_cons {c : Char} (hc : ¬ isLineBreak c) (s : List Char) :
    lines (c :: s) = match lines s with
      | [] => [[c]]
      | line :: rest => (c :: line) :: rest := by
  -- The equations of `lines` itself are slow to derive, as they tell apart characters.
  rw [lines.eq_def]
  split
  · next h => cases h
  · next h =>
      cases h
      exact absurd rfl hc
  · next h =>
      cases h
      exact if_neg hc

/-- A line and its end are cut off the text in front of which they stand. -/
theorem lines_append {line : List Char} (h : IsLine line) (rest : List Char) :
    lines (line ++ '\n' :: rest) = line :: lines rest := by
  induction line with
  | nil => rfl
  | cons c line ih =>
      rw [List.cons_append, lines_cons (h c (List.mem_cons_self ..)),
        ih fun d hd => h d (List.mem_cons_of_mem _ hd)]

/-- Lines that each have their end are read back. -/
theorem lines_flatMap {rows : List (List Char)} (h : ∀ row ∈ rows, IsLine row) :
    lines (rows.flatMap (· ++ ['\n'])) = rows := by
  induction rows with
  | nil => rfl
  | cons row rows ih =>
      rw [List.flatMap_cons, List.append_assoc, List.singleton_append,
        lines_append (h row (List.mem_cons_self ..)),
        ih fun other hOther => h other (List.mem_cons_of_mem _ hOther)]

/-- A line end that is not half of one belongs to the empty line in front of it. -/
theorem lines_cons_break {c : Char} {s : List Char} (hc : isLineBreak c)
    (hPair : ∀ t, c = '\r' → s = '\n' :: t → False) : lines (c :: s) = [] :: lines s := by
  rw [lines.eq_def]
  split
  · next h => cases h
  · next h =>
      cases h
      exact (hPair _ rfl rfl).elim
  · next h =>
      cases h
      exact if_pos hc

theorem lines_ne_nil {s : List Char} (h : s ≠ []) : lines s ≠ [] := by
  rw [lines.eq_def]
  split
  · exact absurd rfl h
  · exact List.cons_ne_nil _ _
  · split
    · exact List.cons_ne_nil _ _
    · split <;> exact List.cons_ne_nil _ _

/-- The first line is empty just if the text begins with a line end. -/
theorem eq_nil_of_lines_eq_cons {s line : List Char} {rest : List (List Char)}
    (h : lines s = line :: rest) : line = [] ↔ s.head?.all isLineBreak := by
  induction s using lines.induct with
  | case1 => cases h
  | case2 s =>
      cases h
      exact iff_of_true rfl rfl
  | case3 c s hPair hc =>
      rw [lines_cons_break hc hPair] at h
      cases h
      exact iff_of_true rfl hc
  | case4 c s hPair hc hNil =>
      rw [lines_cons hc, hNil] at h
      cases h
      simpa using hc
  | case5 c s hPair hc first others hCons =>
      rw [lines_cons hc, hCons] at h
      cases h
      simpa using hc

/-- A first line is cut off by characters that end lines, or it is the whole text. -/
theorem lines_eq_cons {s line : List Char} {rest : List (List Char)} (h : lines s = line :: rest) :
    (s = line ∧ rest = []) ∨ ∃ breaks tail, (∀ c ∈ breaks, isLineBreak c) ∧ breaks ≠ [] ∧
      s = line ++ breaks ++ tail ∧ lines tail = rest := by
  induction s using lines.induct generalizing line rest with
  | case1 => cases h
  | case2 s =>
      cases h
      exact .inr ⟨['\r', '\n'], s, by simp [isLineBreak], by simp, rfl, rfl⟩
  | case3 c s hPair hc =>
      rw [lines_cons_break hc hPair] at h
      cases h
      exact .inr ⟨[c], s, by simpa using hc, by simp, rfl, rfl⟩
  | case4 c s hPair hc hNil =>
      have hEmpty : s = [] := Decidable.byContradiction fun hSome => lines_ne_nil hSome hNil
      rw [lines_cons hc, hNil] at h
      cases h
      exact .inl ⟨by rw [hEmpty], rfl⟩
  | case5 c s hPair hc first others hCons ih =>
      rw [lines_cons hc, hCons] at h
      cases h
      rcases ih hCons with ⟨rfl, hNone⟩ | ⟨breaks, tail, hBreaks, hSome, rfl, hTail⟩
      · exact .inl ⟨rfl, hNone⟩
      · exact .inr ⟨breaks, tail, hBreaks, hSome, rfl, hTail⟩

/-- The lines that are not empty are the runs without line ends, however these are spelled. -/
theorem filter_lines (s : List Char) : (lines s).filter (· ≠ []) = runs isLineBreak s := by
  induction s using lines.induct with
  | case1 => rfl
  | case2 s ih =>
      rw [runs_cons (by decide), runs_cons (by decide), ← ih]
      rfl
  | case3 c s hPair hc ih =>
      rw [lines_cons_break hc hPair, runs_cons hc, ← ih]
      rfl
  | case4 c s hPair hc hNil ih =>
      have hEmpty : s = [] := Decidable.byContradiction fun hSome => lines_ne_nil hSome hNil
      rw [lines_cons hc, hNil, hEmpty]
      simp [runs, hc]
  | case5 c s hPair hc line rest hCons ih =>
      rw [lines_cons hc, hCons]
      rw [hCons] at ih
      by_cases hLine : line = []
      · have hBreak := (eq_nil_of_lines_eq_cons hCons).mp hLine
        rw [show c :: s = [c] ++ s from rfl, runs_append (by simp) (by simpa using hc) hBreak, ← ih]
        simp [hLine]
      · have hBreak := mt (eq_nil_of_lines_eq_cons hCons).mpr hLine
        rw [List.filter_cons_of_pos (by simpa using hLine)] at ih
        rw [runs_cons_of_eq_cons hc hBreak ih.symm, List.filter_cons_of_pos (by simp)]

theorem head_unifyNewlines (s : List Char) :
    (unifyNewlines s).head?.all isLineBreak = s.head?.all isLineBreak := by
  induction s using unifyNewlines.induct with
  | case1 => rfl
  | case2 s => rfl
  | case3 c s hPair =>
      rw [unifyNewlines.eq_3 _ _ hPair]
      by_cases hc : c = '\r'
      · rw [hc]
        rfl
      · simp [hc]

/-- How line ends are spelled has no say in the runs between them. -/
theorem runs_unifyNewlines (s : List Char) :
    runs isLineBreak (unifyNewlines s) = runs isLineBreak s := by
  induction s using unifyNewlines.induct with
  | case1 => rfl
  | case2 s ih =>
      rw [unifyNewlines, runs_cons (by decide), runs_cons (by decide), runs_cons (by decide), ih]
  | case3 c s hPair ih =>
      rw [unifyNewlines.eq_3 _ _ hPair]
      by_cases hc : c = '\r'
      · rw [if_pos (by simp [hc]), hc, runs_cons (by decide), runs_cons (by decide), ih]
      · rw [if_neg (by simp [hc])]
        exact runs_cons_congr (head_unifyNewlines s) ih

/-- Where no carriage return is, line ends are spelled in one way only. -/
theorem unifyNewlines_of_not_mem {s : List Char} (h : '\r' ∉ s) : unifyNewlines s = s := by
  induction s with
  | nil => rfl
  | cons c s ih =>
      obtain ⟨hc, hs⟩ := not_or.mp (mt List.mem_cons.mpr h)
      rw [unifyNewlines, ih hs, if_neg (by simpa using Ne.symm hc)]
      rintro _ rfl
      exact fun _ => hc rfl

/-- Lines that end in line feeds are left as they are. -/
theorem unifyNewlines_flatMap {rows : List (List Char)} (h : ∀ row ∈ rows, IsLine row) :
    unifyNewlines (rows.flatMap (· ++ ['\n'])) = rows.flatMap (· ++ ['\n']) := by
  refine unifyNewlines_of_not_mem fun hReturn => ?_
  obtain ⟨row, hRow, hc⟩ := List.mem_flatMap.mp hReturn
  rcases List.mem_append.mp hc with hc | hc
  · exact h row hRow _ hc rfl
  · exact absurd hc (by decide)

/-! ## Words -/

theorem words_cons_blank {c : Char} (hc : isBlank c) (s : List Char) :
    words (c :: s) = words s :=
  runs_cons hc s

/-- White space in front of a text belongs to no word. -/
theorem words_append_blank {blanks : List Char} (h : ∀ c ∈ blanks, isBlank c) (s : List Char) :
    words (blanks ++ s) = words s :=
  runs_append_of_all h s

/-- A word ends where white space or nothing follows. -/
theorem words_append {word rest : List Char} (hWord : IsWord word) (hRest : EndsWord rest) :
    words (word ++ rest) = word :: words rest :=
  runs_append hWord.ne_nil hWord.not_blank hRest

/-- A word is cut off at a blank behind it. -/
theorem words_append_space {word : List Char} (hWord : IsWord word) (rest : List Char) :
    words (word ++ ' ' :: rest) = word :: words rest := by
  have hSpace : isBlank ' ' := by decide
  have hEnds : EndsWord (' ' :: rest) := hSpace
  rw [words_append hWord hEnds, words_cons_blank hSpace]

/-- The words of a text are those of its lines. -/
theorem words_eq_flatMap_lines (s : List Char) : words s = (lines s).flatMap words := by
  generalize hLines : lines s = all
  induction all generalizing s with
  | nil =>
      have hEmpty : s = [] := Decidable.byContradiction fun hSome => lines_ne_nil hSome hLines
      rw [hEmpty]
      rfl
  | cons line rest ih =>
      rcases lines_eq_cons hLines with ⟨rfl, rfl⟩ | ⟨breaks, tail, hBreaks, hSome, rfl, hTail⟩
      · exact (List.flatMap_singleton ..).symm
      · obtain ⟨c, breaks, rfl⟩ := List.exists_cons_of_ne_nil hSome
        obtain ⟨hc, hMore⟩ := List.forall_mem_cons.mp hBreaks
        have hBlank : ∀ d ∈ breaks, isBlank d := fun d hd => isBlank_of_isLineBreak (hMore d hd)
        calc words (line ++ c :: breaks ++ tail)
            = words (line ++ c :: (breaks ++ tail)) := by simp
          _ = words line ++ words (breaks ++ tail) :=
              runs_append_cons (isBlank_of_isLineBreak hc) line _
          _ = words line ++ rest.flatMap words := by
              rw [words_append_blank hBlank, ih tail hTail]

/-- To trim a text takes no word away. -/
theorem words_trim (s : List Char) : words (trim s) = words s := by
  obtain ⟨front, back, hText, hFront, hBack⟩ := exists_surrounding isBlank s
  calc words (trim s) = words (front ++ trim s ++ back) := (runs_surrounded hFront hBack _).symm
    _ = words s := congrArg words hText.symm

/-! ## Separators -/

/-- A text without the separator is what stands before the first one behind it. -/
theorem splitFirst?_append {sep : Char} {before : List Char} (h : sep ∉ before)
    (after : List Char) : splitFirst? sep (before ++ sep :: after) = some (before, after) := by
  induction before with
  | nil => simp [splitFirst?]
  | cons c before ih =>
      obtain ⟨hc, hBefore⟩ := not_or.mp (mt List.mem_cons.mpr h)
      rw [List.cons_append, splitFirst?, if_neg (by simpa using Ne.symm hc), ih hBefore]
      rfl

theorem splitFirst?_eq_none {sep : Char} {s : List Char} (h : sep ∉ s) :
    splitFirst? sep s = none := by
  induction s with
  | nil => rfl
  | cons c s ih =>
      obtain ⟨hc, hRest⟩ := not_or.mp (mt List.mem_cons.mpr h)
      rw [splitFirst?, if_neg (by simpa using Ne.symm hc), ih hRest]
      rfl

end PodGauges.Text
