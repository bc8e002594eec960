import Mathlib.Data.List.DropRight
import PodGauges.Config.Naming
import PodGauges.Proofs.Text.Cutting

/-! Names in the settings. Those that are accepted are names by the grammar of the text in which
series are exposed; for labels of one's own, some of these are kept free or taken. -/
namespace PodGauges

open Text

/-- The letters of the ASCII block. -/
def IsLetter (c : Char) : Prop := 'a' ≤ c ∧ c ≤ 'z' ∨ 'A' ≤ c ∧ c ≤ 'Z'

instance (c : Char) : Decidable (IsLetter c) :=
  inferInstanceAs (Decidable ('a' ≤ c ∧ c ≤ 'z' ∨ 'A' ≤ c ∧ c ≤ 'Z'))

/-- The digits of the ASCII block. -/
def IsDigit (c : Char) : Prop := '0' ≤ c ∧ c ≤ '9'

instance (c : Char) : Decidable (IsDigit c) := inferInstanceAs (Decidable ('0' ≤ c ∧ c ≤ '9'))

/-- Metrics have names of letters, underscores, colons and, but for the first character, digits. -/
inductive IsMetricName : List Char → Prop where
  | intro {c : Char} {rest : List Char} (hFirst : IsLetter c ∨ c = '_' ∨ c = ':')
      (hRest : ∀ d ∈ rest, IsLetter d ∨ d = '_' ∨ d = ':' ∨ IsDigit d) :
      IsMetricName (c :: rest)

/-- Labels have names without colons, and two underscores in front are kept free. -/
inductive IsLabelName : List Char → Prop where
  | intro {c : Char} {rest : List Char} (hFirst : IsLetter c ∨ c = '_')
      (hRest : ∀ d ∈ rest, IsLetter d ∨ d = '_' ∨ IsDigit d)
      (hFree : ¬ ['_', '_'] <+: c :: rest) : IsLabelName (c :: rest)

theorem IsMetricName.ne_nil {name : List Char} : IsMetricName name → name ≠ []
  | ⟨_, _⟩ => List.cons_ne_nil _ _

theorem IsLabelName.ne_nil {name : List Char} : IsLabelName name → name ≠ []
  | ⟨_, _, _⟩ => List.cons_ne_nil _ _

theorem IsMetricName.mem {name : List Char} (h : IsMetricName name) {c : Char} (hc : c ∈ name) :
    IsLetter c ∨ c = '_' ∨ c = ':' ∨ IsDigit c := by
  obtain ⟨hFirst, hRest⟩ := h
  rcases List.mem_cons.mp hc with rfl | hc
  · exact hFirst.imp_right (Or.imp_right .inl)
  · exact hRest c hc

/-- The grammar of metrics is the wider one. -/
theorem IsLabelName.isMetricName {name : List Char} : IsLabelName name → IsMetricName name
  | ⟨hFirst, hRest, _⟩ =>
    ⟨hFirst.imp_right .inl, fun d hd => (hRest d hd).imp_right (Or.imp_right .inr)⟩

theorem IsLabelName.not_reserved {name : List Char} : IsLabelName name → ¬ ['_', '_'] <+: name
  | ⟨_, _, hFree⟩ => hFree

namespace Config

theorem isAlpha_iff {c : Char} : c.isAlpha ↔ IsLetter c := by
  unfold Char.isAlpha Char.isUpper Char.isLower
  simp only [IsLetter, Char.le_def, Bool.or_eq_true,
    Bool.and_eq_true, decide_eq_true_eq]
  exact or_comm

/-- What is tested of a name is its first character and all others. -/
theorem isName_iff {more name : List Char} : isName more name ↔ ∃ c rest, name = c :: rest ∧
    (IsLetter c ∨ c = '_' ∨ c ∈ more) ∧
    ∀ d ∈ rest, IsLetter d ∨ d = '_' ∨ d ∈ more ∨ IsDigit d := by
  cases name with
  | nil => simp [isName]
  | cons c rest =>
      simp [isName, isAlpha_iff, isAsciiDigit, IsDigit, or_assoc]

/-- The test of a metric name decides the grammar. -/
theorem isMetricName_iff {name : List Char} : isMetricName name ↔ IsMetricName name := by
  rw [isMetricName, isName_iff]
  constructor
  · rintro ⟨c, rest, rfl, hFirst, hRest⟩
    exact ⟨by simpa using hFirst, by simpa using hRest⟩
  · rintro ⟨hFirst, hRest⟩
    exact ⟨_, _, rfl, by simpa using hFirst, by simpa using hRest⟩

/-- The test of a label name decides the grammar, and that the name is not reserved. -/
theorem isLabelName_iff {name : List Char} :
    isLabelName name ∧ ¬ ['_', '_'].isPrefixOf name ↔ IsLabelName name := by
  rw [isLabelName, isName_iff, List.isPrefixOf_iff_prefix]
  constructor
  · rintro ⟨⟨c, rest, rfl, hFirst, hRest⟩, hFree⟩
    exact ⟨by simpa using hFirst, by simpa using hRest, hFree⟩
  · rintro ⟨hFirst, hRest, hFree⟩
    exact ⟨⟨_, _, rfl, by simpa using hFirst, by simpa using hRest⟩, hFree⟩

instance (name : List Char) : Decidable (IsLabelName name) := decidable_of_iff _ isLabelName_iff

/-! ## The beginning of metric names -/

/-- No character that can be seen in the ASCII block is white space. -/
theorem not_isBlank_of_visible {c : Char} (h : 0x21 ≤ c.toNat ∧ c.toNat ≤ 0x7E) :
    ¬ isBlank c := by
  rw [Bool.not_eq_true]
  simp only [isBlank, blankRanges, Ranges.contains, List.any_eq_false, List.mem_cons,
    List.not_mem_nil, or_false, Bool.and_eq_true, decide_eq_true_eq]
  rintro range (rfl | rfl | rfl | rfl | rfl | rfl | rfl | rfl | rfl | rfl) <;> dsimp only <;> omega

/-- Trimming takes nothing from a name. -/
theorem not_isBlank_of_isMetricName {name : List Char} (h : IsMetricName name) :
    ∀ c ∈ name, ¬ isBlank c := by
  have hLetter {c : Char} (hc : IsLetter c) : 0x21 ≤ c.toNat ∧ c.toNat ≤ 0x7E := by
    have hRange : 97 ≤ c.toNat ∧ c.toNat ≤ 122 ∨ 65 ≤ c.toNat ∧ c.toNat ≤ 90 := hc
    omega
  have hDigit {c : Char} (hc : IsDigit c) : 0x21 ≤ c.toNat ∧ c.toNat ≤ 0x7E := by
    have hRange : 48 ≤ c.toNat ∧ c.toNat ≤ 57 := hc
    omega
  intro c hc
  rcases h.mem hc with hc | rfl | rfl | hc
  · exact not_isBlank_of_visible (hLetter hc)
  · decide
  · decide
  · exact not_isBlank_of_visible (hDigit hc)

/-- A beginning that was accepted does not end in an underscore, so that it is accepted again just
as it is. -/
theorem prefixOfText_eq_some {text name : List Char} (h : prefixOfText text = .ok (some name)) :
    IsMetricName name ∧ name.getLast? ≠ some '_' ∧ prefixOfText name = .ok (some name) := by
  have hDrop : dropEnd (· == '_') (trim text) = name ∧ name ≠ [] ∧ isMetricName name := by
    unfold prefixOfText at h
    dsimp only at h
    split at h
    · cases h
    · next hNil =>
        split at h
        · next hName =>
            cases h
            exact ⟨rfl, hNil, hName⟩
        · cases h
  obtain ⟨hDrop, hNil, hName⟩ := hDrop
  have hMetric : IsMetricName name := isMetricName_iff.mp hName
  have hTrim : trim name = name := trimBy_eq_self (not_isBlank_of_isMetricName hMetric)
  have hSelf : dropEnd (· == '_') name = name := by
    rw [← hDrop]
    exact List.rdropWhile_idempotent ..
  have hLast : name.getLast hNil ≠ '_' := by
    simpa using List.rdropWhile_eq_self_iff.mp hSelf hNil
  refine ⟨hMetric, ?_, ?_⟩
  · rw [List.getLast?_eq_some_getLast hNil]
    exact fun h => hLast (Option.some.inj h)
  · rw [prefixOfText, hTrim, hSelf, if_neg hNil, if_pos hName]

/-! ## The names of labels -/

/-- A name that may be given to a label of one's own. -/
def IsSettable (name : String) : Prop := IsLabelName name.toList ∧ name ∉ seriesLabels

instance (name : String) : Decidable (IsSettable name) :=
  inferInstanceAs (Decidable (IsLabelName name.toList ∧ name ∉ seriesLabels))

/-- Why a name is refused. -/
inductive Refused (name : String) : Fault → Prop where
  | malformed (h : ¬ IsLabelName name.toList) : Refused name (.labelName name)
  | taken (hName : IsLabelName name.toList) (hTaken : name ∈ seriesLabels) :
      Refused name (.labelTaken name)

theorem exists_refused_iff {name : String} :
    (∃ fault, Refused name fault) ↔ ¬ IsSettable name := by
  constructor
  · rintro ⟨_, h⟩ ⟨hName, hFree⟩
    cases h with
    | malformed h => exact h hName
    | taken _ hTaken => exact hFree hTaken
  · intro h
    by_cases hName : IsLabelName name.toList
    · exact ⟨_, .taken hName (not_not.mp fun hFree => h ⟨hName, hFree⟩)⟩
    · exact ⟨_, .malformed hName⟩

/-- The outcome for a name, by the two tests that are made of it in turn. -/
theorem labelName_toList (name : String) : labelName name.toList =
    if IsLabelName name.toList then
      if name ∈ seriesLabels then .error (.labelTaken name) else .ok name
    else .error (.labelName name) := by
  unfold labelName
  dsimp only
  rw [String.ofList_toList]
  by_cases hName : IsLabelName name.toList
  · rw [if_pos hName, if_neg (by simpa using isLabelName_iff.mpr hName)]
  · rw [if_neg hName, if_pos]
    have hEither := not_and_or.mp (mt isLabelName_iff.mp hName)
    simpa using hEither

/-- A name that can be set is taken as it is, and no other is taken. -/
theorem labelName_eq_ok_iff {name text : String} :
    labelName name.toList = .ok text ↔ text = name ∧ IsSettable name := by
  rw [labelName_toList, IsSettable]
  by_cases hName : IsLabelName name.toList
  · by_cases hTaken : name ∈ seriesLabels <;> simp [hName, hTaken, eq_comm]
  · simp [hName]

/-- The fault of a name that is refused is the first that applies. -/
theorem labelName_eq_error_iff {name : String} {fault : Fault} :
    labelName name.toList = .error fault ↔ Refused name fault := by
  rw [labelName_toList]
  constructor
  · intro h
    split at h
    · next hName =>
        split at h
        · next hTaken =>
            cases h
            exact .taken hName hTaken
        · cases h
    · next hName =>
        cases h
        exact .malformed hName
  · intro h
    cases h with
    | malformed hName => rw [if_neg hName]
    | taken hName hTaken => rw [if_pos hName, if_pos hTaken]

end Config

end PodGauges
