-- Texts as lists of characters, with the cuts, joins and searches that the
-- rest of the library reads build scripts with.

namespace ImageLint

/-- A text: the list of its characters. Lists keep every law about cutting
and joining an induction. -/
abbrev Text := List Char

instance : Coe String Text := ⟨String.toList⟩

namespace Text

/-! ## Blanks -/

/-- The blank characters of Unicode: spaces, tabs, line ends and the
information separators. The zero-width space and the byte-order mark are
not blank. -/
def isBlank (c : Char) : Bool :=
  let n := c.toNat
  (9 ≤ n && n ≤ 13) || (28 ≤ n && n ≤ 32) || n == 0x85 || n == 0xA0 || n == 0x1680 ||
    (0x2000 ≤ n && n ≤ 0x200A) || n == 0x2028 || n == 0x2029 || n == 0x202F || n == 0x205F ||
    n == 0x3000

/-- The text without its leading blanks. -/
def stripStart (s : Text) : Text := s.dropWhile isBlank

/-- The text without its trailing blanks. -/
def stripEnd (s : Text) : Text := (s.reverse.dropWhile isBlank).reverse

/-- The text without blanks at either end. -/
def strip (s : Text) : Text := stripEnd (stripStart s)

def byteOrderMark : Char := Char.ofNat 0xFEFF

/-- The text without its leading byte-order marks. -/
def dropMarks (s : Text) : Text := s.dropWhile (· == byteOrderMark)

/-! ## Cuts -/

/-- The pieces of a text between the characters that satisfy `p`. There is
one more piece than there are such characters. -/
def splitWhere (p : Char → Bool) : Text → List Text
  | [] => [[]]
  | c :: rest =>
    if p c then [] :: splitWhere p rest
    else match splitWhere p rest with
      | [] => [[c]]
      | piece :: pieces => (c :: piece) :: pieces

/-- The words of a text: its non-empty pieces between blanks. -/
def words (s : Text) : List Text := (splitWhere isBlank s).filter (!·.isEmpty)

/-- The parts before and after the first `c`, if there is one. -/
def cutAt (c : Char) (s : Text) : Option (Text × Text) :=
  match s.dropWhile (· != c) with
  | [] => none
  | _ :: after => some (s.takeWhile (· != c), after)

/-- The part after the last `c`, or the whole text when there is none. -/
def afterLast (c : Char) (s : Text) : Text := (s.reverse.takeWhile (· != c)).reverse

/-! ## Searches -/

def startsWith (s start : Text) : Bool := start.isPrefixOf s

def endsWith (s ending : Text) : Bool := ending.isSuffixOf s

def holds (part : Text) : Text → Bool
  | [] => part.isEmpty
  | c :: rest => part.isPrefixOf (c :: rest) || holds part rest

/-! ## Joins -/

/-- The texts one after the other, with `separator` between them. -/
def joinWith (separator : Text) (pieces : List Text) : Text := separator.intercalate pieces

def ofNat (n : Nat) : Text := Nat.toDigits 10 n

def ofInt : Int → Text
  | .ofNat n => ofNat n
  | .negSucc n => '-' :: ofNat (n + 1)

/-- The most digits of an integer that is read from a text or written as one. -/
def digitLimit : Nat := 4300

def isWritable (n : Int) : Bool := (ofNat n.natAbs).length ≤ digitLimit

/-- What is said of an integer with too many digits. -/
def digitLimitMessage (detail : Text) : Text :=
  "Exceeds the limit (" ++ ofNat digitLimit ++ " digits) for integer string conversion" ++ detail ++
    "; use sys.set_int_max_str_digits() to increase the limit"

def sort (texts : List Text) : List Text :=
  texts.mergeSort fun a b => !List.lex (b.map Char.toNat) (a.map Char.toNat) Nat.blt

def distinct (texts : List Text) : List Text :=
  texts.foldl (fun kept t => if kept.contains t then kept else kept ++ [t]) []

end Text

end ImageLint
