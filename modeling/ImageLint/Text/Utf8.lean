-- Reading bytes as UTF-8. A maximal run of bytes that starts a character
-- and never completes it is one flaw; lenient reading shows each flaw as
-- one replacement character, strict reading stops at the first.
import ImageLint.Text.Lines

namespace ImageLint.Text

/-! ## One character -/

inductive ByteFlaw where
  | badStart
  | badContinuation (length : Nat)
  | endOfData (length : Nat)
  deriving DecidableEq, Repr

def ByteFlaw.size : ByteFlaw → Nat
  | .badStart => 1
  | .badContinuation length => length
  | .endOfData length => length

/-- How the first byte of a character limits the others: how many follow,
the bounds of the next one, and the bits that the first contributes. -/
structure Lead where
  following : Nat
  lowest : Nat
  highest : Nat
  bits : Nat

/-- The limits that a byte sets as the first of a character, if it can be. -/
def Lead.ofByte? (byte : UInt8) : Option Lead :=
  let b := byte.toNat
  if b < 0x80 then some ⟨0, 0x80, 0xBF, b⟩
  else if 0xC2 ≤ b && b ≤ 0xDF then some ⟨1, 0x80, 0xBF, b - 0xC0⟩
  else if b == 0xE0 then some ⟨2, 0xA0, 0xBF, 0⟩
  else if b == 0xED then some ⟨2, 0x80, 0x9F, 0xD⟩
  else if 0xE1 ≤ b && b ≤ 0xEF then some ⟨2, 0x80, 0xBF, b - 0xE0⟩
  else if b == 0xF0 then some ⟨3, 0x90, 0xBF, 0⟩
  else if 0xF1 ≤ b && b ≤ 0xF3 then some ⟨3, 0x80, 0xBF, b - 0xF0⟩
  else if b == 0xF4 then some ⟨3, 0x80, 0x8F, 4⟩
  else none

/-- Reads `following` continuation bytes, the first of them between `lowest`
and `highest`. `length` bytes of the character are already read and give
`code`. -/
def readFollowing : Nat → Nat → Nat → Nat → Nat → List UInt8 → Except ByteFlaw Char
  | 0, _, _, _, code, _ => .ok (Char.ofNat code)
  | _ + 1, _, _, length, _, [] => .error (.endOfData length)
  | following + 1, lowest, highest, length, code, byte :: rest =>
    if lowest ≤ byte.toNat && byte.toNat ≤ highest then
      readFollowing following 0x80 0xBF (length + 1) (code * 0x40 + (byte.toNat - 0x80)) rest
    else .error (.badContinuation length)

/-- The character that starts with `byte` and goes on in `rest`. -/
def readChar (byte : UInt8) (rest : List UInt8) : Except ByteFlaw Char :=
  match Lead.ofByte? byte with
  | none => .error .badStart
  | some lead => readFollowing lead.following lead.lowest lead.highest 1 lead.bits rest

def utf8Size (c : Char) : Nat := c.utf8Size

/-! ## Whole texts -/

def replacement : Char := Char.ofNat 0xFFFD

/-- The text of the bytes after the first `skip`, each flaw shown as one
replacement character. `skip` counts the bytes of the character or flaw read
last. -/
def decodeFrom : Nat → List UInt8 → Text
  | _, [] => []
  | skip + 1, _ :: rest => decodeFrom skip rest
  | 0, byte :: rest =>
    match readChar byte rest with
    | .ok c => c :: decodeFrom (utf8Size c - 1) rest
    | .error flaw => replacement :: decodeFrom (flaw.size - 1) rest

/-- The text of the bytes, each flaw shown as one replacement character. -/
def decode (bytes : List UInt8) : Text := decodeFrom 0 bytes

/-- The first flaw of a byte sequence: the byte there and its position. -/
structure EncodingError where
  flaw : ByteFlaw
  byte : UInt8
  position : Nat
  deriving DecidableEq, Repr

/-- The text of the bytes after the first `skip`, of which `position` is the
first one's place in the file, or the first flaw. -/
def decodeStrictFrom : Nat → Nat → List UInt8 → Except EncodingError Text
  | _, _, [] => .ok []
  | skip + 1, position, _ :: rest => decodeStrictFrom skip (position + 1) rest
  | 0, position, byte :: rest =>
    match readChar byte rest with
    | .ok c => (decodeStrictFrom (utf8Size c - 1) (position + 1) rest).map (c :: ·)
    | .error flaw => .error ⟨flaw, byte, position⟩

def decodeStrict (bytes : List UInt8) : Except EncodingError Text := decodeStrictFrom 0 0 bytes

/-! ## Files -/

/-- The bytes without the byte-order mark they may start with. Bytes that
only start a mark are no text either. -/
def dropByteMark : List UInt8 → List UInt8
  | 0xEF :: 0xBB :: 0xBF :: rest => rest
  | [0xEF, 0xBB] => []
  | [0xEF] => []
  | bytes => bytes

/-- The text of a build script or an exclusion file. -/
def ofFile (bytes : List UInt8) : Text := unifyLineEnds (decode (dropByteMark bytes))

end ImageLint.Text
