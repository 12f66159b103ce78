-- A text is read back from its bytes. Each character is, whatever stands
-- after it, and so reading goes on where the bytes of one character end. Of
-- the mark that a file may start with, reading drops one.
import ImageLint.Text.Utf8

namespace ImageLint.Text

/-- The bytes of a text in UTF-8. -/
def encode (s : Text) : List UInt8 := s.flatMap String.utf8EncodeChar

/-! ## One character -/

theorem toNat_byte {n : Nat} (h : n < 256) : (UInt8.ofNat n).toNat = n := by
  simp [Nat.mod_eq_of_lt h]

/-- A byte within its bounds goes on with the character. -/
theorem readFollowing_byte {following lowest highest length code n : Nat} {rest : List UInt8}
    (hlow : lowest ≤ n) (hhigh : n ≤ highest) (hbyte : n < 256) :
    readFollowing (following + 1) lowest highest length code (UInt8.ofNat n :: rest) =
      readFollowing following 0x80 0xBF (length + 1) (code * 0x40 + (n - 0x80)) rest := by
  simp only [readFollowing, toNat_byte hbyte]
  rw [if_pos (by simp [hlow, hhigh])]

theorem lead_two {n : Nat} (hlow : 0xC2 ≤ n) (hhigh : n ≤ 0xDF) :
    Lead.ofByte? (UInt8.ofNat n) = some ⟨1, 0x80, 0xBF, n - 0xC0⟩ := by
  simp only [Lead.ofByte?, toNat_byte (show n < 256 by omega)]
  rw [if_neg (by omega), if_pos (by simp [hlow, hhigh])]

/-- What the first of three bytes demands of the second. -/
theorem lead_three (n second : Nat) (hlow : 0xE0 ≤ n) (hhigh : n ≤ 0xEF)
    (hsecond : 0x80 ≤ second ∧ second ≤ 0xBF) (hshort : n = 0xE0 → 0xA0 ≤ second)
    (hpair : n = 0xED → second ≤ 0x9F) :
    ∃ lowest highest, lowest ≤ second ∧ second ≤ highest ∧
      Lead.ofByte? (UInt8.ofNat n) = some ⟨2, lowest, highest, n - 0xE0⟩ := by
  simp only [Lead.ofByte?, toNat_byte (show n < 256 by omega)]
  rw [if_neg (by omega), if_neg (by simp; omega)]
  by_cases h0 : n = 0xE0
  · subst h0
    exact ⟨_, _, hshort rfl, hsecond.2, rfl⟩
  by_cases hD : n = 0xED
  · subst hD
    exact ⟨_, _, hsecond.1, hpair rfl, rfl⟩
  rw [if_neg (by simpa using h0), if_neg (by simpa using hD), if_pos (by simp; omega)]
  exact ⟨_, _, hsecond.1, hsecond.2, rfl⟩

theorem lead_four (n second : Nat) (hlow : 0xF0 ≤ n) (hhigh : n ≤ 0xF4)
    (hsecond : 0x80 ≤ second ∧ second ≤ 0xBF) (hshort : n = 0xF0 → 0x90 ≤ second)
    (hlast : n = 0xF4 → second ≤ 0x8F) :
    ∃ lowest highest, lowest ≤ second ∧ second ≤ highest ∧
      Lead.ofByte? (UInt8.ofNat n) = some ⟨3, lowest, highest, n - 0xF0⟩ := by
  simp only [Lead.ofByte?, toNat_byte (show n < 256 by omega)]
  rw [if_neg (by omega), if_neg (by simp; omega), if_neg (by simp; omega), if_neg (by simp; omega),
    if_neg (by simp; omega)]
  by_cases h0 : n = 0xF0
  · subst h0
    exact ⟨_, _, hshort rfl, hsecond.2, rfl⟩
  by_cases h4 : n = 0xF4
  · subst h4
    exact ⟨_, _, hsecond.1, hlast rfl, rfl⟩
  rw [if_neg (by simpa using h0), if_pos (by simp; omega)]
  exact ⟨_, _, hsecond.1, hsecond.2, rfl⟩

/-- A character is read back from its bytes, whatever follows them. -/
theorem readChar_encode (c : Char) (rest : List UInt8) :
    ∃ first following, String.utf8EncodeChar c = first :: following ∧
      readChar first (following ++ rest) = .ok c := by
  have hvalid : c.toNat < 0xD800 ∨ 0xDFFF < c.toNat ∧ c.toNat < 0x110000 := c.valid
  have hread : ∀ code, code = c.toNat →
      (Except.ok (Char.ofNat code) : Except ByteFlaw Char) = .ok c := by
    rintro _ rfl
    rw [Char.ofNat_toNat]
  have hval : c.val.toNat = c.toNat := rfl
  unfold String.utf8EncodeChar readChar
  simp only [hval]
  -- by the number of bytes, from one to four
  split
  · refine ⟨_, _, rfl, ?_⟩
    simp only [Lead.ofByte?, toNat_byte (show c.toNat < 256 by omega)]
    rw [if_pos (by omega)]
    exact hread _ rfl
  split
  · refine ⟨_, _, rfl, ?_⟩
    rw [lead_two (by omega) (by omega)]
    dsimp only [List.cons_append, List.nil_append]
    rw [readFollowing_byte (by omega) (by omega) (by omega)]
    exact hread _ (by omega)
  split
  · refine ⟨_, _, rfl, ?_⟩
    obtain ⟨lowest, highest, hlow, hhigh, hlead⟩ :=
      lead_three (c.toNat / 4096 % 16 + 224) (c.toNat / 64 % 64 + 128) (by omega) (by omega)
        (by omega) (by omega) (by omega)
    rw [hlead]
    dsimp only [List.cons_append, List.nil_append]
    rw [readFollowing_byte hlow hhigh (by omega),
      readFollowing_byte (by omega) (by omega) (by omega)]
    exact hread _ (by omega)
  · refine ⟨_, _, rfl, ?_⟩
    obtain ⟨lowest, highest, hlow, hhigh, hlead⟩ :=
      lead_four (c.toNat / 262144 % 8 + 240) (c.toNat / 4096 % 64 + 128) (by omega) (by omega)
        (by omega) (by omega) (by omega)
    rw [hlead]
    dsimp only [List.cons_append, List.nil_append]
    rw [readFollowing_byte hlow hhigh (by omega),
      readFollowing_byte (by omega) (by omega) (by omega),
      readFollowing_byte (by omega) (by omega) (by omega)]
    exact hread _ (by omega)

/-! ## Whole texts -/

theorem decodeFrom_skip (skipped rest : List UInt8) :
    decodeFrom skipped.length (skipped ++ rest) = decodeFrom 0 rest := by
  induction skipped with
  | nil => rfl
  | cons byte skipped ih => exact ih

theorem decodeFrom_encode (s : Text) (rest : List UInt8) :
    decodeFrom 0 (encode s ++ rest) = s ++ decodeFrom 0 rest := by
  induction s with
  | nil => rfl
  | cons c s ih =>
    obtain ⟨first, following, hbytes, hread⟩ := readChar_encode c (encode s ++ rest)
    have hsize : utf8Size c - 1 = following.length := by
      rw [utf8Size, ← String.length_utf8EncodeChar, hbytes]
      rfl
    rw [encode, List.flatMap_cons, hbytes, List.append_assoc, List.cons_append, ← encode,
      decodeFrom, hread]
    dsimp only
    rw [hsize, decodeFrom_skip, ih, List.cons_append]

theorem decode_encode (s : Text) : decode (encode s) = s := by
  have h := decodeFrom_encode s []
  rwa [List.append_nil, decodeFrom, List.append_nil] at h

/-- Bytes that writing what is read in them does not give back are those of
no text. -/
theorem encode_ne {bytes : List UInt8} (h : encode (decode bytes) ≠ bytes) (s : Text) :
    encode s ≠ bytes := by
  rintro rfl
  rw [decode_encode] at h
  exact h rfl

/-! ## Files -/

theorem dropByteMark_encode_mark (s : Text) :
    dropByteMark (encode (byteOrderMark :: s)) = encode s := rfl

/-- The bytes of a text start with those of a mark only where the text starts
with the mark, and a part of a mark is the bytes of no text. -/
theorem dropByteMark_encode {s : Text} (h : s.head? ≠ some byteOrderMark) :
    dropByteMark (encode s) = encode s := by
  unfold dropByteMark
  split
  next rest hbytes =>
    have hs : s = byteOrderMark :: decode rest := by
      rw [← decode_encode s, hbytes]
      exact decodeFrom_encode [byteOrderMark] rest
    exact absurd (congrArg List.head? hs) h
  next hbytes => exact absurd hbytes (encode_ne (by decide) s)
  next hbytes => exact absurd hbytes (encode_ne (by decide) s)
  next => rfl

/-- The text of a file, less the mark that its bytes start with. -/
theorem ofFile_encode (s : Text) :
    ofFile (encode s) =
      unifyLineEnds (if s.head? = some byteOrderMark then s.tail else s) := by
  unfold ofFile
  split
  next h =>
    obtain ⟨rest, rfl⟩ := List.head?_eq_some_iff.mp h
    rw [dropByteMark_encode_mark, decode_encode, List.tail_cons]
  next h => rw [dropByteMark_encode h, decode_encode]

end ImageLint.Text
