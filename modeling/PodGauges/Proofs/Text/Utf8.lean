import Mathlib.Tactic.SplitIfs
import PodGauges.Text.Utf8

/-! Decoding the bytes of a text gives the text back. -/
namespace PodGauges.Text.Utf8

private theorem toList_loop (bytes : ByteArray) (i : Nat) (before : List UInt8) :
    ByteArray.toList.loop bytes i before = before.reverse ++ bytes.data.toList.drop i := by
  induction i, before using ByteArray.toList.loop.induct bytes with
  | case1 i before hIndex ih =>
      have hDrop : bytes.data.toList.drop i = bytes.data[i] :: bytes.data.toList.drop (i + 1) :=
        List.drop_eq_getElem_cons hIndex
      rw [ByteArray.toList.loop.eq_def, if_pos hIndex, ih, hDrop]
      simp [ByteArray.get!, getElem!_pos bytes.data i hIndex]
  | case2 i before hEnd =>
      rw [ByteArray.toList.loop.eq_def, if_neg hEnd,
        List.drop_eq_nil_of_le (Nat.not_lt.mp hEnd), List.append_nil]

/-- The bytes of a text are those of its characters, one after another. -/
theorem encode_ofList (s : List Char) :
    encode (String.ofList s) = s.flatMap String.utf8EncodeChar := by
  have hLoop := toList_loop (String.ofList s).toByteArray 0 []
  simpa [encode, ByteArray.toList, String.toUTF8_eq_toByteArray, List.utf8Encode] using hLoop

theorem toNat_ofNat {n : Nat} (h : n < 256) : (UInt8.ofNat n).toNat = n := by
  rw [UInt8.toNat_ofNat']
  exact Nat.mod_eq_of_lt h

/-- A byte that continues a sequence adds six bits to its value. -/
theorem piecesFrom_continued {p : Pending} {x : Nat} (hLow : p.low ≤ x % 64 + 128)
    (hHigh : x % 64 + 128 ≤ p.high) (rest : List UInt8) :
    piecesFrom (some p) (UInt8.ofNat (x % 64 + 128) :: rest) =
      if p.owed ≤ 1 then .char (Char.ofNat (p.value * 64 + x % 64)) :: piecesFrom none rest
      else piecesFrom (some ⟨p.used + 1, p.owed - 1, 128, 191, p.value * 64 + x % 64⟩) rest := by
  rw [piecesFrom, toNat_ofNat (by omega)]
  simp only [hLow, hHigh, and_self, if_true, Nat.add_sub_cancel]

/-- The bytes of a character begin a piece that is this character, whatever follows them. -/
theorem piecesFrom_utf8EncodeChar (c : Char) (rest : List UInt8) :
    piecesFrom none (String.utf8EncodeChar c ++ rest) = .char c :: piecesFrom none rest := by
  have hValid : c.toNat < 0xD800 ∨ 0xDFFF < c.toNat ∧ c.toNat < 0x110000 := c.valid
  have hPiece {n : Nat} (h : n = c.toNat) : Piece.char (Char.ofNat n) = .char c := by
    rw [h, Char.ofNat_toNat]
  unfold String.utf8EncodeChar
  simp only [show c.val.toNat = c.toNat from rfl]
  generalize c.toNat = v at hValid hPiece
  -- One case for each number of bytes; the bounds on the second byte shut out nothing valid.
  split_ifs with hOne hTwo hThree <;> simp only [List.cons_append, List.nil_append]
  · rw [piecesFrom, start, toNat_ofNat (by omega), if_pos (by omega), hPiece rfl]
  · rw [piecesFrom, start, toNat_ofNat (by omega), if_neg (by omega), if_neg (by omega),
      if_pos (by omega)]
    dsimp only
    rw [piecesFrom_continued (by dsimp only; omega) (by dsimp only; omega), if_pos (by simp),
      hPiece (by dsimp only; omega)]
  · rw [piecesFrom, start, toNat_ofNat (by omega), if_neg (by omega), if_neg (by omega),
      if_neg (by omega), if_pos (by omega)]
    dsimp only
    rw [piecesFrom_continued (by dsimp only; split <;> omega) (by dsimp only; split <;> omega),
      if_neg (by simp), piecesFrom_continued (by dsimp only; omega) (by dsimp only; omega),
      if_pos (by simp), hPiece (by dsimp only; omega)]
  · rw [piecesFrom, start, toNat_ofNat (by omega), if_neg (by omega), if_neg (by omega),
      if_neg (by omega), if_neg (by omega), if_pos (by omega)]
    dsimp only
    rw [piecesFrom_continued (by dsimp only; split <;> omega) (by dsimp only; split <;> omega),
      if_neg (by simp), piecesFrom_continued (by dsimp only; omega) (by dsimp only; omega),
      if_neg (by simp), piecesFrom_continued (by dsimp only; omega) (by dsimp only; omega),
      if_pos (by simp), hPiece (by dsimp only; omega)]

/-- The bytes of a text fall into its characters, whatever follows them. -/
theorem pieces_encode_append (s : List Char) (rest : List UInt8) :
    pieces (encode (String.ofList s) ++ rest) = s.map .char ++ pieces rest := by
  rw [encode_ofList, pieces]
  induction s with
  | nil => rfl
  | cons c s ih =>
      rw [List.flatMap_cons, List.append_assoc, piecesFrom_utf8EncodeChar, ih, List.map_cons,
        List.cons_append]

theorem pieces_encode (s : List Char) : pieces (encode (String.ofList s)) = s.map .char := by
  simpa [pieces, piecesFrom] using pieces_encode_append s []

theorem collect_chars (offset : Nat) (s : List Char) : collect offset (s.map .char) = .ok s := by
  induction s generalizing offset with
  | nil => rfl
  | cons c s ih => simp [collect, ih, Except.map]

/-- Encoded characters are decoded as they are, whatever follows. -/
theorem decodeLossy_encode_append (s : List Char) (rest : List UInt8) :
    decodeLossy (encode (String.ofList s) ++ rest) = s ++ decodeLossy rest := by
  rw [decodeLossy, pieces_encode_append, List.map_append, List.map_map]
  exact congrArg (· ++ _) (List.map_id s)

/-- A text is decoded from its own bytes. -/
theorem decodeLossy_encode (s : List Char) : decodeLossy (encode (String.ofList s)) = s := by
  simpa [decodeLossy, pieces, piecesFrom] using decodeLossy_encode_append s []

theorem decode_encode (s : List Char) : decode (encode (String.ofList s)) = .ok s := by
  rw [decode, pieces_encode, collect_chars]

/-- Where every byte belongs to a character, both decoders agree. -/
theorem decodeLossy_of_decode {bytes : List UInt8} {text : List Char}
    (h : decode bytes = .ok text) : decodeLossy bytes = text := by
  have hCollect (pieces : List Piece) (offset : Nat) (text : List Char)
      (h : collect offset pieces = .ok text) : pieces = text.map .char := by
    induction pieces generalizing offset text with
    | nil =>
        cases h
        rfl
    | cons piece pieces ih =>
        cases piece with
        | invalid fault length => cases h
        | char c =>
            rw [collect] at h
            cases hRest : collect (offset + c.utf8Size) pieces with
            | error error =>
                rw [hRest] at h
                cases h
            | ok rest =>
                rw [hRest] at h
                cases h
                rw [ih _ rest hRest, List.map_cons]
  unfold decode at h
  split at h
  · next found hFound =>
      cases h
      rw [decodeLossy, hCollect _ _ _ hFound, List.map_map]
      exact List.map_id text
  · cases h

/-! ## Line feeds -/

theorem start_low {b : UInt8} {p : Pending} (h : start b = .inr p) : 128 ≤ p.low := by
  unfold start at h
  dsimp only at h
  split_ifs at h <;> cases h <;> dsimp only <;> omega

section LineFeed

variable {f : Piece → Char} (hFault : ∀ fault other length, f (.invalid fault length) =
  f (.invalid other length))
include hFault

/-- A line feed is never part of a sequence: what stands in front of it is decoded by itself, and so
is what follows. Only the fault of a sequence that it cuts short is another one. -/
theorem map_piecesFrom_append_newline (pending : Option Pending)
    (h : ∀ p ∈ pending, 128 ≤ p.low) (front rest : List UInt8) :
    (piecesFrom pending (front ++ 10 :: rest)).map f =
      (piecesFrom pending front).map f ++ f (.char '\n') :: (piecesFrom none rest).map f := by
  have hFeed : start 10 = .inl (.char '\n') := rfl
  induction front generalizing pending with
  | nil =>
      cases pending with
      | none => rfl
      | some p =>
          have hLow : 128 ≤ p.low := h p rfl
          -- A line feed does not continue a character, so the one that is owed is cut off here.
          have hOutside : ¬ (p.low ≤ (10 : UInt8).toNat ∧ (10 : UInt8).toNat ≤ p.high) := by
            have hTen : (10 : UInt8).toNat = 10 := rfl
            omega
          have hCut : piecesFrom (some p) (10 :: rest) =
              .invalid .invalidContinuation p.used :: .char '\n' :: piecesFrom none rest := by
            rw [piecesFrom]
            dsimp only
            rw [if_neg hOutside, hFeed]
          rw [List.nil_append, hCut]
          exact congrArg (· :: _) (hFault ..)
  | cons b front ih =>
      -- A byte that does not continue a character is read once more, as the start of another one.
      have hStarted : (piecesFrom none (b :: (front ++ 10 :: rest))).map f =
          (piecesFrom none (b :: front)).map f ++
            f (.char '\n') :: (piecesFrom none rest).map f := by
        simp only [piecesFrom]
        cases hStart : start b with
        | inl piece => simp only [List.map_cons, ih none (by simp), List.cons_append]
        | inr p => exact ih (some p) (by simpa using start_low hStart)
      cases pending with
      | none => exact hStarted
      | some p =>
          simp only [piecesFrom] at hStarted
          simp only [List.cons_append, piecesFrom]
          split
          · split
            · rw [List.map_cons, List.map_cons, ih none (by simp), List.cons_append]
            · exact ih _ (by simp)
          · rw [List.map_cons, List.map_cons, hStarted, List.cons_append]

end LineFeed

/-- A line feed is no part of a longer character, so that what is broken in front of it leaves the
rest alone. -/
theorem decodeLossy_append_newline (front rest : List UInt8) :
    decodeLossy (front ++ 10 :: rest) = decodeLossy front ++ '\n' :: decodeLossy rest := by
  unfold decodeLossy pieces
  exact map_piecesFrom_append_newline (fun _ _ _ => rfl) none (by simp) front rest

/-! ## The ASCII block -/

/-- Each character as one byte, of the same number. -/
def asciiBytes (s : List Char) : List UInt8 := s.map fun c => UInt8.ofNat c.toNat

section Ascii

variable {s : List Char} (h : ∀ c ∈ s, c.toNat < 128)
include h

/-- Each ASCII character is one byte, and the byte is that character. -/
theorem asciiText_asciiBytes : asciiText (asciiBytes s) = s := by
  rw [asciiText, asciiBytes, List.map_map]
  refine (List.map_congr_left fun c hc => ?_).trans (List.map_id s)
  have hc := h c hc
  have hByte : UInt8.ofNat c.toNat < 128 := by
    rw [UInt8.lt_iff_toNat_lt, toNat_ofNat (by omega)]
    exact hc
  simp only [Function.comp_apply, hByte, if_true, toNat_ofNat (by omega : c.toNat < 256),
    Char.ofNat_toNat, id_eq]

theorem not_mem_asciiBytes {b : UInt8} (hb : ∀ c ∈ s, c.toNat ≠ b.toNat) : b ∉ asciiBytes s := by
  intro hMem
  obtain ⟨c, hc, rfl⟩ := List.mem_map.mp hMem
  have hAscii := h c hc
  exact hb c hc (toNat_ofNat (by omega)).symm

end Ascii

end PodGauges.Text.Utf8
