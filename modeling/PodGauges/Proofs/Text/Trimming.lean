import Mathlib.Data.List.DropRight
import PodGauges.Text.Blank

/-! Trimming takes the characters of a class away from both ends of a text, and no others. -/
namespace PodGauges.Text

variable {p : Char → Bool} {front back s : List Char}

/-- What is dropped from the end of a text stands behind what is left. -/
theorem exists_dropEnd_append (p : Char → Bool) (s : List Char) :
    ∃ back, s = dropEnd p s ++ back ∧ ∀ c ∈ back, p c := by
  refine ⟨(s.reverse.takeWhile p).reverse, ?_, ?_⟩
  · rw [dropEnd, ← List.reverse_append, List.takeWhile_append_dropWhile, List.reverse_reverse]
  · intro c hc
    exact List.all_eq_true.mp List.all_takeWhile c (List.mem_reverse.mp hc)

theorem dropEnd_append (hBack : ∀ c ∈ back, p c) (s : List Char) :
    dropEnd p (s ++ back) = dropEnd p s := by
  rw [dropEnd, List.reverse_append,
    List.dropWhile_append_of_pos fun c hc => hBack c (List.mem_reverse.mp hc), ← dropEnd]

/-- What trimming takes away stands around what it leaves. -/
theorem exists_surrounding (p : Char → Bool) (s : List Char) : ∃ front back,
    s = front ++ trimBy p s ++ back ∧ (∀ c ∈ front, p c) ∧ ∀ c ∈ back, p c := by
  obtain ⟨back, hRest, hBack⟩ := exists_dropEnd_append p (s.dropWhile p)
  refine ⟨s.takeWhile p, back, ?_, List.all_eq_true.mp List.all_takeWhile, hBack⟩
  calc s = s.takeWhile p ++ s.dropWhile p := List.takeWhile_append_dropWhile.symm
    _ = s.takeWhile p ++ (trimBy p s ++ back) := congrArg _ hRest
    _ = _ := (List.append_assoc ..).symm

theorem trimBy_append_front (hFront : ∀ c ∈ front, p c) (s : List Char) :
    trimBy p (front ++ s) = trimBy p s := by
  rw [trimBy, List.dropWhile_append_of_pos hFront, trimBy]

theorem trimBy_append_back (hBack : ∀ c ∈ back, p c) (s : List Char) :
    trimBy p (s ++ back) = trimBy p s := by
  rw [trimBy, List.dropWhile_append, trimBy]
  split
  · next hEmpty =>
      rw [List.dropWhile_eq_nil_iff.mpr hBack, List.isEmpty_iff.mp hEmpty]
  · exact dropEnd_append hBack _

/-- Characters of a class around a text make no difference to what trimming leaves of it. -/
theorem trimBy_surrounded (hFront : ∀ c ∈ front, p c) (hBack : ∀ c ∈ back, p c) (s : List Char) :
    trimBy p (front ++ s ++ back) = trimBy p s := by
  rw [trimBy_append_back hBack, trimBy_append_front hFront]

/-- To trim twice is to trim once. -/
theorem trimBy_trimBy (p : Char → Bool) (s : List Char) :
    trimBy p (trimBy p s) = trimBy p s := by
  obtain ⟨front, back, hText, hFront, hBack⟩ := exists_surrounding p s
  calc trimBy p (trimBy p s) = trimBy p (front ++ trimBy p s ++ back) :=
        (trimBy_surrounded hFront hBack _).symm
    _ = trimBy p s := congrArg (trimBy p) hText.symm

/-- Nothing is trimmed away exactly if no character of the class stands at an end. -/
theorem trimBy_eq_self_iff :
    trimBy p s = s ↔ (∀ c ∈ s.head?, ¬ p c) ∧ ∀ c ∈ s.getLast?, ¬ p c := by
  constructor
  · intro h
    constructor
    · intro c hc
      have hPrefix : trimBy p s <+: s.dropWhile p := List.rdropWhile_prefix p _
      obtain ⟨rest, hRest⟩ := List.head?_eq_some_iff.mp hc
      obtain ⟨more, hMore⟩ := h ▸ hPrefix
      have hHead := List.head?_dropWhile_not p s
      rw [← hMore, hRest] at hHead
      simpa using hHead
    · intro c hc
      obtain ⟨hNil, rfl⟩ := List.mem_getLast?_eq_getLast hc
      have hTrimmed : (s.dropWhile p).rdropWhile p = s := h
      have hLast := List.rdropWhile_last_not p (s.dropWhile p) (hTrimmed.symm ▸ hNil)
      simpa only [hTrimmed] using hLast
  · rintro ⟨hHead, hLast⟩
    have hDrop : s.dropWhile p = s :=
      List.dropWhile_eq_self_iff.mpr fun hSome => hHead _ (by simp [List.head?_eq_getElem?, hSome])
    rw [trimBy, hDrop]
    exact List.rdropWhile_eq_self_iff.mpr fun hNil => hLast _ (List.getLast?_eq_some_getLast hNil)

/-- A text without characters of the class is left as it is. -/
theorem trimBy_eq_self (h : ∀ c ∈ s, ¬ p c) : trimBy p s = s :=
  trimBy_eq_self_iff.mpr
    ⟨fun c hc => h c (List.mem_of_mem_head? hc), fun c hc => h c (List.mem_of_getLast? hc)⟩

/-- A trimmed text has nothing left that a narrower class could take away. -/
theorem trimBy_trim (h : ∀ c, p c → isBlank c) (s : List Char) :
    trimBy p (trim s) = trim s := by
  obtain ⟨hHead, hLast⟩ := trimBy_eq_self_iff.mp (trimBy_trimBy isBlank s)
  exact trimBy_eq_self_iff.mpr
    ⟨fun c hc => mt (h c) (hHead c hc), fun c hc => mt (h c) (hLast c hc)⟩

/-! ## White space -/

/-- A text without white space at either end. -/
structure IsTight (s : List Char) : Prop where
  head : ∀ c ∈ s.head?, ¬ isBlank c
  last : ∀ c ∈ s.getLast?, ¬ isBlank c

/-- There is nothing to trim just if neither end is white space. -/
theorem trim_eq_self_iff {s : List Char} : trim s = s ↔ IsTight s :=
  trimBy_eq_self_iff.trans ⟨fun h => ⟨h.1, h.2⟩, fun h => ⟨h.head, h.last⟩⟩

instance (s : List Char) : Decidable (IsTight s) := decidable_of_iff _ trim_eq_self_iff

/-- White space only, or nothing at all. -/
def Blank (s : List Char) : Prop := ∀ c ∈ s, isBlank c

instance (s : List Char) : Decidable (Blank s) := List.decidableBAll (isBlank ·) s

theorem Blank.not_mem {s : List Char} (h : Blank s) {c : Char} (hc : ¬ isBlank c) : c ∉ s :=
  fun hMem => hc (h c hMem)

/-- All is trimmed just if there is only white space. -/
theorem trim_eq_nil_iff {s : List Char} : trim s = [] ↔ Blank s := by
  constructor
  · intro h
    obtain ⟨front, back, hText, hFront, hBack⟩ := exists_surrounding isBlank s
    have hNone : trimBy isBlank s = [] := h
    rw [hNone, List.append_nil] at hText
    rw [hText]
    exact List.forall_mem_append.mpr ⟨hFront, hBack⟩
  · intro h
    rw [trim, trimBy, List.dropWhile_eq_nil_iff.mpr h]
    rfl

end PodGauges.Text
