import PodGauges.Proofs.Dump
import PodGauges.Proofs.Number.Literal

/-! What the lines of a dump have to do with one another. A line that gives no key a number can
stand anywhere, and two lines that give no key in common can change places. Of the lines that do
give one the last decides. All of it holds of any reader that goes by the readings of a text. -/
namespace PodGauges.Dump

open Number Text

/-- A line whose first word is a key and whose second one is an integer literal. -/
def Tells (key : List Char) (n : Int) (line : List Char) : Prop :=
  ∃ literal rest, words line = key :: literal :: rest ∧ Denotes literal n

/-- To give a number is to tell it, in words. -/
theorem gives_iff_tells {key line : List Char} {n : Int} : Gives key n line ↔ Tells key n line := by
  unfold Gives Tells
  apply exists_congr
  intro literal
  apply exists_congr
  intro rest
  apply and_congr_right
  intro hWords
  -- A word has no white space around it that a literal could have.
  have hWord : ∀ c ∈ literal, ¬ isBlank c := not_mem_of_mem_runs (by
    show literal ∈ words line
    simp [hWords])
  have hTrim : trimBy isLiteralBlank literal = literal :=
    trimBy_eq_self fun c hc => mt isBlank_of_isLiteralBlank (hWord c hc)
  rw [integer?_eq_some_iff, hTrim]

section Lines

variable {κ : Type} (gives : κ → Int → List Char → Prop)

/-- Two lines that give no key in common. -/
def Apart (first second : List Char) : Prop := ∀ k n m, gives k n first → ¬ gives k m second

/-- Lines, and the same lines with others put anywhere among them that give nothing. -/
inductive Padded : List (List Char) → List (List Char) → Prop where
  | nil : Padded [] []
  | keep (line : List Char) {all more : List (List Char)} (h : Padded all more) :
      Padded (line :: all) (line :: more)
  | put {line : List Char} (hIdle : ∀ k n, ¬ gives k n line) {all more : List (List Char)}
      (h : Padded all more) : Padded all (line :: more)

/-- Lines, and the same lines in another order, in which any two that give a key in common stand as
they did. -/
inductive Reordered : List (List Char) → List (List Char) → Prop where
  | refl (all : List (List Char)) : Reordered all all
  | keep (line : List Char) {all more : List (List Char)} (h : Reordered all more) :
      Reordered (line :: all) (line :: more)
  | swap {first second : List Char} (hApart : Apart gives first second)
      (rest : List (List Char)) : Reordered (first :: second :: rest) (second :: first :: rest)
  | trans {all middle more : List (List Char)} (front : Reordered all middle)
      (back : Reordered middle more) : Reordered all more

variable {gives} {all more : List (List Char)}

theorem Apart.symm {first second : List Char} (h : Apart gives first second) :
    Apart gives second first :=
  fun k n m hSecond hFirst => h k m n hFirst hSecond

theorem Reordered.perm (h : Reordered gives all more) : all.Perm more := by
  induction h with
  | refl => exact .refl _
  | keep line _ ih => exact ih.cons line
  | swap _ rest => exact .swap _ _ rest
  | trans _ _ front back => exact front.trans back

/-- Lines of which no two give a key in common can stand in any order. -/
theorem Reordered.of_perm (h : all.Perm more) (hApart : all.Pairwise (Apart gives)) :
    Reordered gives all more := by
  induction h with
  | nil => exact .refl []
  | cons line _ ih => exact .keep line (ih (List.pairwise_cons.mp hApart).2)
  | swap first second rest =>
      exact .swap ((List.pairwise_cons.mp hApart).1 first (List.mem_cons_self ..)) rest
  | trans front _ ihFront ihBack =>
      have hMiddle := (front.pairwise_iff fun h => Apart.symm h).mp hApart
      exact .trans (ihFront hApart) (ihBack hMiddle)

section Readings

variable {key? : List Char → Option κ}
  (hGives : ∀ k n line, reading? key? line = some (k, n) ↔ gives k n line)
include hGives

theorem reading?_eq_none {line : List Char} (hIdle : ∀ k n, ¬ gives k n line) :
    reading? key? line = none := by
  cases hLine : reading? key? line with
  | none => rfl
  | some reading => exact absurd ((hGives _ _ _).mp hLine) (hIdle reading.1 reading.2)

/-- Lines that give nothing add no readings, wherever they are put. -/
theorem Padded.filterMap_eq (h : Padded gives all more) :
    more.filterMap (reading? key?) = all.filterMap (reading? key?) := by
  induction h with
  | nil => rfl
  | keep line _ ih => simp only [List.filterMap_cons, ih]
  | put hIdle _ ih => rw [List.filterMap_cons_none (reading?_eq_none hGives hIdle), ih]

/-- Lines for different keys can change places without changing the last for any key. -/
theorem Reordered.last?_eq [DecidableEq κ] (h : Reordered gives all more) (k : κ) :
    last? k (more.filterMap (reading? key?)) = last? k (all.filterMap (reading? key?)) := by
  induction h with
  | refl => rfl
  | keep line _ ih =>
      rw [List.filterMap_cons, List.filterMap_cons]
      cases reading? key? line with
      | none => exact ih
      | some reading => simp only [last?_cons, ih]
  | @swap first second hApart rest =>
      simp only [List.filterMap_cons]
      cases hFirst : reading? key? first with
      | none => cases reading? key? second <;> rfl
      | some reading =>
          cases hSecond : reading? key? second with
          | none => rfl
          | some other =>
              apply last?_swap
              intro hKey
              apply hApart other.1 reading.2 other.2
              · rw [← hGives, hFirst, ← hKey]
              · rw [← hGives, hSecond]
  | trans _ _ front back => exact back.trans front

end Readings

/-- A reader of dumps to which the last line for a key decides. What it shows under a key goes by
the number of the last line that gives one, or by there being none; lines that give nothing make no
difference to it, and neither does the order of lines without a key in common. -/
structure LastLineWins {ν τ : Type} (gives : κ → Int → List Char → Prop)
    (shows : κ → Option Int → ν → Prop) (value : τ → κ → ν) (read : List Char → τ) : Prop where
  last : ∀ text k, ∃ n, IsLast (gives k) (lines text) n ∧ shows k n (value (read text) k)
  padded : ∀ text text', Padded gives (lines text) (lines text') → read text' = read text
  reordered : ∀ text text', Reordered gives (lines text) (lines text') →
    ∀ k, value (read text') k = value (read text) k

/-- It does so if the reader goes by the readings of a text, and what it shows under a key by the
last of these. -/
theorem LastLineWins.of_readings [DecidableEq κ] {ν τ : Type} (key? : List Char → Option κ)
    {shows : κ → Option Int → ν → Prop} {value : τ → κ → ν} {read : List Char → τ}
    (hGives : ∀ k n line, reading? key? line = some (k, n) ↔ gives k n line)
    (hRead : ∀ text text', readings key? text' = readings key? text → read text' = read text)
    (hShows : ∀ text k, shows k (last? k (readings key? text)) (value (read text) k))
    (hValue : ∀ text text', (readings key? text).Perm (readings key? text') →
      (∀ k, last? k (readings key? text') = last? k (readings key? text)) →
        ∀ k, value (read text') k = value (read text) k) :
    LastLineWins gives shows value read where
  last text k := by
    have hLast := isLast_readings key? text k
    simp only [hGives] at hLast
    exact ⟨_, hLast, hShows text k⟩
  padded text text' h := hRead text text' (h.filterMap_eq hGives)
  reordered text text' h := hValue text text' (h.perm.filterMap _) (h.last?_eq hGives)

end Lines

end PodGauges.Dump
