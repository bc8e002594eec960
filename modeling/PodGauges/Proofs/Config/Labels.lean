import PodGauges.Config.Naming
import PodGauges.Proofs.Config.Names
import PodGauges.Proofs.Except
import PodGauges.Proofs.Keyed
import PodGauges.Proofs.Text.Separation

/-! Labels in the settings, pairs of a name and a value between commas. Pairs that are not complete
are passed over; names that no label may have are refused; all else is read as it was written. -/
namespace PodGauges.Config

open Text

/-- A piece without an equals sign, or without a name in front of the first. -/
inductive Incomplete : List Char → Prop where
  | unparted {piece : List Char} (h : '=' ∉ piece) : Incomplete piece
  | nameless {before after : List Char} (h : Blank before) : Incomplete (before ++ '=' :: after)

/-- A piece that gives a name and a value, on the two sides of its first equals sign. -/
inductive IsPair : List Char → String × String → Prop where
  | intro {before after : List Char} (hFirst : '=' ∉ before) (hName : ¬ Blank before) :
      IsPair (before ++ '=' :: after) (String.ofList (trim before), String.ofList (trim after))

/-- A piece in which a name and a value are written out, with white space around both. -/
def WritesPair (piece : List Char) (pair : String × String) : Prop :=
  ∃ front behindName aheadValue back,
    (Blank front ∧ Blank behindName ∧ Blank aheadValue ∧ Blank back) ∧
      piece = front ++ pair.1.toList ++ behindName ++ '=' ::
        (aheadValue ++ pair.2.toList ++ back)

/-! ## One pair -/

/-- A piece without a name or a value is incomplete, and any other one is a pair. -/
theorem incomplete_or_isPair (piece : List Char) :
    Incomplete piece ∨ ∃ pair, IsPair piece pair := by
  by_cases hMem : '=' ∈ piece
  · obtain ⟨before, after, rfl, hFirst⟩ := List.eq_append_cons_of_mem hMem
    by_cases hBlank : Blank before
    · exact .inl (.nameless hBlank)
    · exact .inr ⟨_, .intro hFirst hBlank⟩
  · exact .inl (.unparted hMem)

/-- What a pair is read as, given where its first equals sign stands. -/
theorem label?_of_cut {before : List Char} (hFirst : '=' ∉ before) (after : List Char) :
    label? (before ++ '=' :: after) = if Blank before then .ok none
      else (labelName (trim before)).map fun name => some (name, String.ofList (trim after)) := by
  have hSep : ¬ isBlank '=' := by decide
  -- The pair is trimmed as a whole before it is cut, but no cut is moved by that.
  have hCut := splitFirst?_trim hSep (before ++ '=' :: after)
  rw [splitFirst?_append hFirst, Option.map_some] at hCut
  obtain ⟨⟨name, value⟩, hTrim, hParts⟩ := Option.map_eq_some_iff.mp hCut
  obtain ⟨hName, hValue⟩ : trim name = trim before ∧ trim value = trim after :=
    Prod.mk.inj hParts
  rw [label?, hTrim]
  dsimp only
  rw [hName, hValue]
  exact if_congr trim_eq_nil_iff rfl rfl

theorem label?_of_incomplete {piece : List Char} (h : Incomplete piece) :
    label? piece = .ok none := by
  have hSep : ¬ isBlank '=' := by decide
  cases h with
  | unparted h =>
      have hCut := splitFirst?_trim hSep piece
      rw [splitFirst?_eq_none h, Option.map_none, Option.map_eq_none_iff] at hCut
      rw [label?, hCut]
  | nameless h => rw [label?_of_cut (h.not_mem hSep), if_pos h]

/-- Of a pair the name is looked at, and the value taken as it is. -/
theorem label?_of_isPair {piece : List Char} {pair : String × String} (h : IsPair piece pair) :
    label? piece = (labelName pair.1.toList).map fun name => some (name, pair.2) := by
  obtain ⟨hFirst, hName⟩ := h
  rw [label?_of_cut hFirst, if_neg hName, String.toList_ofList]

theorem label?_eq_ok_none_iff {piece : List Char} : label? piece = .ok none ↔ Incomplete piece := by
  refine ⟨fun h => ?_, label?_of_incomplete⟩
  rcases incomplete_or_isPair piece with hIncomplete | ⟨pair, hPair⟩
  · exact hIncomplete
  · rw [label?_of_isPair hPair] at h
    obtain ⟨_, -, hSome⟩ := map_eq_ok.mp h
    cases hSome

/-- A piece is taken as a label just if it is a pair with a name that can be set. -/
theorem label?_eq_ok_some_iff {piece : List Char} {pair : String × String} :
    label? piece = .ok (some pair) ↔ IsPair piece pair ∧ IsSettable pair.1 := by
  constructor
  · intro h
    rcases incomplete_or_isPair piece with hIncomplete | ⟨other, hOther⟩
    · rw [label?_of_incomplete hIncomplete] at h
      cases h
    · rw [label?_of_isPair hOther] at h
      obtain ⟨name, hName, hSome⟩ := map_eq_ok.mp h
      obtain ⟨rfl, hFree⟩ := labelName_eq_ok_iff.mp hName
      cases hSome
      exact ⟨hOther, hFree⟩
  · rintro ⟨hPair, hFree⟩
    rw [label?_of_isPair hPair, labelName_eq_ok_iff.mpr ⟨rfl, hFree⟩]
    rfl

/-- A pair is refused for its name, whatever its value is. -/
theorem label?_eq_error_iff {piece : List Char} {fault : Fault} :
    label? piece = .error fault ↔ ∃ pair, IsPair piece pair ∧ Refused pair.1 fault := by
  constructor
  · intro h
    rcases incomplete_or_isPair piece with hIncomplete | ⟨pair, hPair⟩
    · rw [label?_of_incomplete hIncomplete] at h
      cases h
    · rw [label?_of_isPair hPair, map_eq_error] at h
      exact ⟨pair, hPair, labelName_eq_error_iff.mp h⟩
  · rintro ⟨pair, hPair, hRefused⟩
    rw [label?_of_isPair hPair, labelName_eq_error_iff.mpr hRefused]
    rfl

/-! ## All pairs -/

/-- A text is accepted just if each of its pieces is incomplete or a pair with a name that can be
set; the pairs are then put one after another. -/
theorem staticLabels_eq_ok_iff {text : List Char} {labels : Keyed String String} :
    staticLabels text = .ok labels ↔ ∃ pairs, Lists Incomplete
      (fun piece pair => IsPair piece pair ∧ IsSettable pair.1) (splitAll ',' text) pairs ∧
        Keyed.ofPairs pairs = labels := by
  have hLists (pairs : List (String × String)) : Lists Incomplete
      (fun piece pair => IsPair piece pair ∧ IsSettable pair.1) (splitAll ',' text) pairs ↔
      ∃ found, (splitAll ',' text).mapM label? = .ok found ∧ found.filterMap id = pairs := by
    simp only [exists_mapM_iff_lists, label?_eq_ok_none_iff, label?_eq_ok_some_iff]
  rw [staticLabels, bind_eq_ok]
  constructor
  · rintro ⟨found, hFound, ⟨⟩⟩
    exact ⟨_, (hLists _).mpr ⟨found, hFound, rfl⟩, rfl⟩
  · rintro ⟨pairs, hPairs, rfl⟩
    obtain ⟨found, hFound, rfl⟩ := (hLists pairs).mp hPairs
    exact ⟨found, hFound, rfl⟩

theorem staticLabels_eq_error_iff {text : List Char} {fault : Fault} :
    staticLabels text = .error fault ↔ (splitAll ',' text).mapM label? = .error fault := by
  rw [staticLabels, bind_eq_error]
  exact or_iff_left fun ⟨_, _, h⟩ => nomatch h

/-- The fault of a text is that of one of its pairs. -/
theorem staticLabels_eq_error {text : List Char} {fault : Fault}
    (h : staticLabels text = .error fault) :
    ∃ piece ∈ splitAll ',' text, ∃ pair, IsPair piece pair ∧ Refused pair.1 fault := by
  obtain ⟨piece, hPiece, hFault⟩ := exists_of_mapM_eq_error (staticLabels_eq_error_iff.mp h)
  exact ⟨piece, hPiece, label?_eq_error_iff.mp hFault⟩

/-- A text is refused just if one of its pieces is a pair with a name that cannot be set. -/
theorem exists_staticLabels_eq_error_iff {text : List Char} :
    (∃ fault, staticLabels text = .error fault) ↔
      ∃ piece ∈ splitAll ',' text, ∃ pair, IsPair piece pair ∧ ¬ IsSettable pair.1 := by
  simp only [staticLabels_eq_error_iff, exists_mapM_eq_error_iff, label?_eq_error_iff,
    ← exists_refused_iff, ← exists_and_left]
  exact exists_congr fun _ => exists_comm

/-! ## Labels that are written out -/

/-- A written pair is taken apart at its first equals sign and trimmed. -/
theorem WritesPair.isPair {piece : List Char} {pair : String × String} (h : WritesPair piece pair)
    (hName : IsLabelName pair.1.toList) (hValue : IsTight pair.2.toList) : IsPair piece pair := by
  have hSep : ¬ isBlank '=' := by decide
  obtain ⟨front, behindName, aheadValue, back, ⟨hFront, hBehind, hAhead, hBack⟩, rfl⟩ := h
  have hFree : '=' ∉ pair.1.toList :=
    mt hName.isMetricName.mem (by decide)
  have hFirst : '=' ∉ front ++ pair.1.toList ++ behindName :=
    List.not_mem_append (List.not_mem_append (hFront.not_mem hSep) hFree) (hBehind.not_mem hSep)
  have hTrimName : trim (front ++ pair.1.toList ++ behindName) = pair.1.toList :=
    (trimBy_surrounded hFront hBehind _).trans
      (trimBy_eq_self (not_isBlank_of_isMetricName hName.isMetricName))
  have hTrimValue : trim (aheadValue ++ pair.2.toList ++ back) = pair.2.toList :=
    (trimBy_surrounded hAhead hBack _).trans (trim_eq_self_iff.mpr hValue)
  have hNil : ¬ Blank (front ++ pair.1.toList ++ behindName) := by
    rw [← trim_eq_nil_iff, hTrimName]
    exact hName.ne_nil
  have hPair : IsPair (front ++ pair.1.toList ++ behindName ++ '=' ::
      (aheadValue ++ pair.2.toList ++ back)) _ := .intro hFirst hNil
  rwa [hTrimName, hTrimValue, String.ofList_toList, String.ofList_toList] at hPair

/-- Labels that are written one by one are read back, whatever white space and incomplete pieces
stand between them. -/
theorem staticLabels_of_written {pieces : List (List Char)} {labels : Keyed String String}
    (h : Lists (fun piece => ',' ∉ piece ∧ Incomplete piece) WritesPair pieces labels)
    (distinct : labels.Distinct) (hLabels : ∀ label ∈ labels,
      IsSettable label.1 ∧ ',' ∉ label.2.toList ∧ IsTight label.2.toList) :
    staticLabels ([','].intercalate pieces) = .ok labels := by
  have hComma : ¬ isBlank ',' := by decide
  have hPairs : Lists Incomplete (fun piece pair => IsPair piece pair ∧ IsSettable pair.1)
      pieces labels := by
    refine h.imp (fun _ hPiece => hPiece.2) fun piece label hLabel hWrites => ?_
    obtain ⟨hName, -, hValue⟩ := hLabels label hLabel
    exact ⟨hWrites.isPair hName.1 hValue, hName⟩
  refine staticLabels_eq_ok_iff.mpr
    ⟨labels, hPairs.splitAll_intercalate (.unparted List.not_mem_nil) ?_,
      Keyed.ofPairs_of_distinct distinct⟩
  -- No piece holds a comma, so that none is cut in two.
  refine h.forall_piece (fun _ hPiece => hPiece.1) ?_
  rintro _ label hLabel ⟨_, _, _, _, ⟨hFront, hBehind, hAhead, hBack⟩, rfl⟩
  obtain ⟨hSettable, hFree, -⟩ := hLabels label hLabel
  have hName : ',' ∉ label.1.toList :=
    mt hSettable.1.isMetricName.mem (by decide)
  simp only [List.mem_append, List.mem_cons, not_or]
  exact ⟨⟨⟨hFront.not_mem hComma, hName⟩, hBehind.not_mem hComma⟩, by decide,
    ⟨hAhead.not_mem hComma, hFree⟩, hBack.not_mem hComma⟩

/-- Labels that are written out are read back in order, incomplete pairs among them or not. Any text
is refused just if some pair in it has a name that may not be set, and for such a name. Otherwise
names stand in the order in which they first came, each with the last of its values. -/
theorem staticLabels_reads :
    (∀ (pieces : List (List Char)) (labels : Keyed String String),
      Lists (fun piece => ',' ∉ piece ∧ Incomplete piece) WritesPair pieces labels →
      labels.Distinct → (∀ label ∈ labels,
        IsSettable label.1 ∧ ',' ∉ label.2.toList ∧ IsTight label.2.toList) →
      staticLabels ([','].intercalate pieces) = .ok labels) ∧
    ∀ text,
      ((∃ fault, staticLabels text = .error fault) ↔
        ∃ piece ∈ splitAll ',' text, ∃ pair, IsPair piece pair ∧ ¬ IsSettable pair.1) ∧
      (∀ fault, staticLabels text = .error fault →
        ∃ piece ∈ splitAll ',' text, ∃ pair, IsPair piece pair ∧ Refused pair.1 fault) ∧
      ∀ labels, staticLabels text = .ok labels →
        ∃ pairs, Lists Incomplete IsPair (splitAll ',' text) pairs ∧
          labels.map (·.1) = (pairs.map (·.1)).eraseDups ∧
          ∀ name, Keyed.get? name labels =
            ((pairs.filter (·.1 = name)).getLast?).map (·.2) := by
  refine ⟨fun _ _ => staticLabels_of_written, fun text =>
    ⟨exists_staticLabels_eq_error_iff, fun _ => staticLabels_eq_error, ?_⟩⟩
  intro labels hLabels
  obtain ⟨pairs, hPairs, rfl⟩ := staticLabels_eq_ok_iff.mp hLabels
  exact ⟨pairs, hPairs.imp (fun _ => id) fun _ _ _ hPair => hPair.1,
    Keyed.keys_ofPairs pairs, Keyed.get?_ofPairs pairs⟩

/-- Untidy labels are read, and a reserved name is refused. -/
theorem staticLabels_reads_untidyLabels :
    (Lists (fun piece => ',' ∉ piece ∧ Incomplete piece) WritesPair
        [" a = 1 ".toList, [], " b ".toList, "=2".toList, "x\t=\n y=z ".toList]
        [("a", "1"), ("x", "y=z")] ∧
      Keyed.Distinct [("a", "1"), ("x", "y=z")] ∧
      ∀ label ∈ [("a", "1"), ("x", "y=z")],
        IsSettable label.1 ∧ ',' ∉ label.2.toList ∧ IsTight label.2.toList) ∧
    staticLabels " a = 1 ,, b ,=2,x\t=\n y=z ".toList = .ok [("a", "1"), ("x", "y=z")] ∧
    ∃ fault, staticLabels "a=1,__b=2".toList = .error fault := by
  obtain ⟨hWritten, hRead⟩ := staticLabels_reads
  have hPieces : Lists (fun piece => ',' ∉ piece ∧ Incomplete piece) WritesPair
      [" a = 1 ".toList, [], " b ".toList, "=2".toList, "x\t=\n y=z ".toList]
      [("a", "1"), ("x", "y=z")] :=
    .item ⟨[' '], [' '], [' '], [' '], by decide, by decide⟩ <|
      .skip ⟨by decide, .unparted (by decide)⟩ <|
      .skip ⟨by decide, .unparted (by decide)⟩ <|
      .skip ⟨by decide, @Incomplete.nameless [] ['2'] (by decide)⟩ <|
      .item ⟨[], ['\t'], ['\n', ' '], [' '], by decide, by decide⟩ .nil
  have hDistinct : Keyed.Distinct [("a", "1"), ("x", "y=z")] := by
    unfold Keyed.Distinct
    decide
  have hPair : IsPair "__b=2".toList ("__b", "2") :=
    @IsPair.intro ['_', '_', 'b'] ['2'] (by decide) (by decide)
  exact ⟨⟨hPieces, hDistinct, by decide⟩, hWritten _ _ hPieces hDistinct (by decide),
    (hRead _).1.mpr ⟨_, by decide, _, hPair, by decide⟩⟩

end PodGauges.Config
