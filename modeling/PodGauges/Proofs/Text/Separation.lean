import PodGauges.Proofs.Except
import PodGauges.Proofs.Text.Cutting

/-! Texts as they are put together by hand: pieces with a separator between each two of them, and
white space around what stands in a piece. A cut at the separators finds the pieces again, and
trimming finds what stands in them. Some pieces may say nothing; the others say one thing each. -/
namespace PodGauges.Text

/-! ## Separators -/

section Separators

variable {sep : Char} {s before after : List Char}

/-- To split at a separator is to split a list at an element. -/
theorem splitAll_eq_splitOn (sep : Char) (s : List Char) : splitAll sep s = s.splitOn sep := by
  induction s with
  | nil => rfl
  | cons c s ih =>
      rw [List.splitOn_eq_splitOnP] at ih ⊢
      rw [List.splitOnP_cons_eq_if_modifyHead, splitAll, ih]
      cases hRest : s.splitOnP (· == sep) with
      | nil => exact absurd hRest (List.splitOnP_ne_nil _ _)
      | cons piece pieces => rfl

/-- Pieces without the separator are found again between the separators. -/
theorem splitAll_intercalate {pieces : List (List Char)} (hNil : pieces ≠ [])
    (h : ∀ piece ∈ pieces, sep ∉ piece) : splitAll sep ([sep].intercalate pieces) = pieces := by
  rw [splitAll_eq_splitOn, List.splitOn_intercalate sep h hNil]

theorem splitLast?_eq_none_iff : splitLast? sep s = none ↔ sep ∉ s := by
  induction s with
  | nil => exact iff_of_true rfl List.not_mem_nil
  | cons c s ih =>
      rw [List.mem_cons, not_or, ← ih, splitLast?]
      cases splitLast? sep s with
      | none =>
          exact ⟨fun h => ⟨fun hc => by simp [hc] at h, rfl⟩,
            fun h => if_neg (by simpa using Ne.symm h.1)⟩
      | some cut => simp

/-- The last separator is the one with none behind it. -/
theorem splitLast?_append (h : sep ∉ after) (before : List Char) :
    splitLast? sep (before ++ sep :: after) = some (before, after) := by
  induction before with
  | nil =>
      rw [List.nil_append, splitLast?, splitLast?_eq_none_iff.mpr h]
      exact if_pos (beq_self_eq_true sep)
  | cons c before ih => rw [List.cons_append, splitLast?, ih]

/-- A text is cut at the separator behind which there is no other. -/
theorem splitLast?_eq_some_iff :
    splitLast? sep s = some (before, after) ↔ s = before ++ sep :: after ∧ sep ∉ after := by
  refine ⟨fun h => ?_, fun ⟨hText, hAfter⟩ => hText ▸ splitLast?_append hAfter before⟩
  induction s generalizing before with
  | nil => cases h
  | cons c s ih =>
      rw [splitLast?] at h
      split at h
      · next rest behind hRest =>
          cases h
          obtain ⟨rfl, hSep⟩ := ih hRest
          exact ⟨rfl, hSep⟩
      · next hRest =>
          split at h
          · next hc =>
              cases h
              exact ⟨by rw [eq_of_beq hc]; rfl, splitLast?_eq_none_iff.mp hRest⟩
          · cases h

/-- The cut of a trimmed text is that of the text, but for white space at the ends. -/
theorem splitFirst?_trim (hSep : ¬ isBlank sep) (s : List Char) :
    (splitFirst? sep (trim s)).map (Prod.map trim trim) =
      (splitFirst? sep s).map (Prod.map trim trim) := by
  obtain ⟨front, back, hText, hFront, hBack⟩ := exists_surrounding isBlank s
  by_cases hMem : sep ∈ trim s
  · obtain ⟨before, after, hTrim, hBefore⟩ := List.eq_append_cons_of_mem hMem
    have hCut : s = (front ++ before) ++ sep :: (after ++ back) := by
      rw [hText, show trimBy isBlank s = before ++ sep :: after from hTrim]
      simp
    have hFirst : sep ∉ front ++ before := List.not_mem_append (Blank.not_mem hFront hSep) hBefore
    rw [hTrim, splitFirst?_append hBefore]
    conv_rhs => rw [hCut, splitFirst?_append hFirst]
    simp only [Option.map_some, Prod.map_apply, trim]
    rw [trimBy_append_front hFront, trimBy_append_back hBack]
  · have hNone : sep ∉ s := by
      rw [hText]
      exact List.not_mem_append (List.not_mem_append (Blank.not_mem hFront hSep) hMem)
        (Blank.not_mem hBack hSep)
    rw [splitFirst?_eq_none hMem, splitFirst?_eq_none hNone]

end Separators

/-! ## What pieces tell -/

section Pieces

variable {α ε : Type}

/-- The values of those pieces that tell one, in order; all other pieces are silent. -/
inductive Lists (silent : List Char → Prop) (tells : List Char → α → Prop) :
    List (List Char) → List α → Prop where
  | nil : Lists silent tells [] []
  | skip {piece : List Char} {pieces : List (List Char)} {values : List α} (h : silent piece)
      (hRest : Lists silent tells pieces values) : Lists silent tells (piece :: pieces) values
  | item {piece : List Char} {value : α} {pieces : List (List Char)} {values : List α}
      (h : tells piece value) (hRest : Lists silent tells pieces values) :
      Lists silent tells (piece :: pieces) (value :: values)

variable {silent silent' : List Char → Prop} {tells tells' : List Char → α → Prop}
  {pieces : List (List Char)} {values : List α}

namespace Lists

/-- Pieces tell the same where less is asked of them. -/
theorem imp (h : Lists silent tells pieces values)
    (hSilent : ∀ piece, silent piece → silent' piece)
    (hTells : ∀ piece, ∀ value ∈ values, tells piece value → tells' piece value) :
    Lists silent' tells' pieces values := by
  induction h with
  | nil => exact .nil
  | skip h _ ih => exact .skip (hSilent _ h) (ih hTells)
  | item h _ ih =>
      exact .item (hTells _ _ (List.mem_cons_self ..) h)
        (ih fun piece value hValue => hTells piece value (List.mem_cons_of_mem _ hValue))

/-- What holds of silent pieces and of those that tell holds of all pieces. -/
theorem forall_piece {q : List Char → Prop} (h : Lists silent tells pieces values)
    (hSilent : ∀ piece, silent piece → q piece)
    (hTells : ∀ piece, ∀ value ∈ values, tells piece value → q piece) :
    ∀ piece ∈ pieces, q piece := by
  induction h with
  | nil => exact fun _ h => absurd h List.not_mem_nil
  | skip h _ ih => exact List.forall_mem_cons.mpr ⟨hSilent _ h, ih hTells⟩
  | item h _ ih =>
      exact List.forall_mem_cons.mpr ⟨hTells _ _ (List.mem_cons_self ..) h,
        ih fun piece value hValue => hTells piece value (List.mem_cons_of_mem _ hValue)⟩

/-- Each value is told by some piece. -/
theorem exists_piece (h : Lists silent tells pieces values) :
    ∀ value ∈ values, ∃ piece ∈ pieces, tells piece value := by
  induction h with
  | nil => exact fun _ h => absurd h List.not_mem_nil
  | skip _ _ ih =>
      intro value hValue
      obtain ⟨piece, hPiece, hTells⟩ := ih value hValue
      exact ⟨piece, List.mem_cons_of_mem _ hPiece, hTells⟩
  | item h _ ih =>
      intro value hValue
      rcases List.mem_cons.mp hValue with rfl | hValue
      · exact ⟨_, List.mem_cons_self .., h⟩
      · obtain ⟨piece, hPiece, hTells⟩ := ih value hValue
        exact ⟨piece, List.mem_cons_of_mem _ hPiece, hTells⟩

/-- What pieces tell is told by the text that is put together from them. No pieces make the same
text as one that is empty. -/
theorem splitAll_intercalate {sep : Char} (h : Lists silent tells pieces values)
    (hEmpty : silent []) (hSep : ∀ piece ∈ pieces, sep ∉ piece) :
    Lists silent tells (splitAll sep ([sep].intercalate pieces)) values := by
  cases hPieces : pieces with
  | nil =>
      rw [hPieces] at h
      exact .skip hEmpty h
  | cons piece rest =>
      rw [← hPieces, Text.splitAll_intercalate (by simp [hPieces]) hSep]
      exact h

end Lists

/-- A traversal that may skip pieces gives what these tell. -/
theorem exists_mapM_iff_lists {f : List Char → Except ε (Option α)} :
    (∃ found, pieces.mapM f = .ok found ∧ found.filterMap id = values) ↔
      Lists (f · = .ok none) (fun piece value => f piece = .ok (some value)) pieces values := by
  constructor
  · rintro ⟨found, hFound, rfl⟩
    induction pieces generalizing found with
    | nil =>
        cases hFound
        exact .nil
    | cons piece pieces ih =>
        rw [List.mapM_cons] at hFound
        obtain ⟨first, hFirst, hFound⟩ := bind_eq_ok.mp hFound
        obtain ⟨rest, hRest, hFound⟩ := bind_eq_ok.mp hFound
        cases hFound
        cases first with
        | none => exact .skip hFirst (ih rest hRest)
        | some value => exact .item hFirst (ih rest hRest)
  · intro h
    induction h with
    | nil => exact ⟨[], rfl, rfl⟩
    | skip h _ ih =>
        obtain ⟨rest, hRest, rfl⟩ := ih
        exact ⟨none :: rest, by rw [List.mapM_cons, h, hRest]; rfl, rfl⟩
    | @item _ value _ _ h _ ih =>
        obtain ⟨rest, hRest, rfl⟩ := ih
        exact ⟨some value :: rest, by rw [List.mapM_cons, h, hRest]; rfl, rfl⟩

/-- A traversal of the trimmed pieces that are not blank gives what these tell. -/
theorem mapM_trimmed_eq_ok {f : List Char → Except ε α} :
    ((pieces.map trim).filter (· ≠ [])).mapM f = .ok values ↔ Lists Blank
      (fun piece value => ¬ Blank piece ∧ f (trim piece) = .ok value) pieces values := by
  induction pieces generalizing values with
  | nil =>
      constructor
      · rintro ⟨⟩
        exact .nil
      · rintro ⟨⟩
        rfl
  | cons piece pieces ih =>
      rw [List.map_cons]
      by_cases hBlank : Blank piece
      · rw [List.filter_cons_of_neg (by simpa using trim_eq_nil_iff.mpr hBlank), ih]
        constructor
        · exact .skip hBlank
        · intro h
          cases h with
          | skip _ hRest => exact hRest
          | item hItem _ => exact absurd hBlank hItem.1
      · rw [List.filter_cons_of_pos (by simpa using mt trim_eq_nil_iff.mp hBlank), List.mapM_cons]
        constructor
        · intro h
          obtain ⟨first, hFirst, h⟩ := bind_eq_ok.mp h
          obtain ⟨rest, hRest, h⟩ := bind_eq_ok.mp h
          cases h
          exact .item ⟨hBlank, hFirst⟩ (ih.mp hRest)
        · intro h
          cases h with
          | skip hSkip _ => exact absurd hSkip hBlank
          | item hItem hRest => rw [hItem.2, ih.mpr hRest]; rfl

end Pieces

end PodGauges.Text
