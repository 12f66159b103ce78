-- What is written in JSON is read back as it was: numbers digit by digit,
-- strings unit by unit, and arrays and objects item by item, whatever blanks
-- the layout puts between them.
import Mathlib.Data.List.Basic
import ImageLint.Json.Reader
import ImageLint.Json.Writer

namespace ImageLint

/-! ## Numerals -/

namespace Text

theorem digitsValue_ofNat (n : Nat) : digitsValue (ofNat n) = n := by
  have h := Nat.ofDigitChars_ten_toDigits (n := n)
  rw [Nat.ofDigitChars_eq_foldl] at h
  exact h

theorem isDigit_of_mem_ofNat {n : Nat} {c : Char} (h : c ∈ ofNat n) : c.isDigit = true :=
  Nat.isDigit_of_mem_toDigits (by decide) (by decide) h

/-- A number other than zero starts with another digit. -/
theorem head_ofNat {n : Nat} (h : n ≠ 0) : ∃ c rest, ofNat n = c :: rest ∧ c ≠ '0' := by
  unfold ofNat
  induction n using Nat.strongRecOn with
  | _ n ih =>
    by_cases hlt : n < 10
    · refine ⟨n.digitChar, [], Nat.toDigits_of_lt_base hlt, ?_⟩
      simpa using h
    · obtain ⟨c, rest, heq, hc⟩ := ih (n / 10) (by omega) (by omega)
      rw [Nat.toDigits_of_base_le (by decide) (by omega), heq]
      exact ⟨c, _, rfl, hc⟩

theorem hexValue?_digitChar : ∀ d < 16, hexValue? d.digitChar = some d := by decide

/-- A hexadecimal number with one more place is the one with a digit less and
its last digit. -/
theorem hex_succ {width : Nat} (hwidth : 0 < width) (n : Nat) :
    hex (width + 1) n = hex width (n / 16) ++ [(n % 16).digitChar] := by
  unfold hex
  dsimp only
  by_cases hlt : n < 16
  · obtain ⟨width, rfl⟩ : ∃ w, width = w + 1 := ⟨width - 1, by omega⟩
    rw [Nat.toDigits_of_lt_base hlt, Nat.div_eq_of_lt hlt, Nat.mod_eq_of_lt hlt, Nat.toDigits_zero]
    simp [List.replicate_succ']
  · rw [Nat.toDigits_of_base_le (by decide) (by omega : 16 ≤ n)]
    simp

/-- Four hexadecimal digits of a number that needs no more. -/
theorem hex_four {n : Nat} (h : n < 0x10000) :
    hex 4 n = [(n / 16 / 16 / 16).digitChar, (n / 16 / 16 % 16).digitChar, (n / 16 % 16).digitChar,
      (n % 16).digitChar] := by
  have hone : hex 1 (n / 16 / 16 / 16) = [(n / 16 / 16 / 16).digitChar] := by
    unfold hex
    rw [Nat.toDigits_of_lt_base (by omega)]
    rfl
  rw [hex_succ (by decide), hex_succ (by decide), hex_succ (by decide), hone]
  rfl

end Text

namespace Json

open Text (ofNat ofInt)

/-! ## Strings -/

theorem unit?_hex {n : Nat} (h : n < 0x10000) :
    unit? (n / 16 / 16 / 16).digitChar (n / 16 / 16 % 16).digitChar (n / 16 % 16).digitChar
      (n % 16).digitChar = some n := by
  unfold unit?
  rw [Text.hexValue?_digitChar _ (by omega), Text.hexValue?_digitChar _ (by omega),
    Text.hexValue?_digitChar _ (by omega), Text.hexValue?_digitChar _ (by omega)]
  simp only [Option.bind_eq_bind, Option.bind_some, Option.pure_def, Option.some.injEq]
  omega

/-- A character is never half of a pair. -/
theorem toNat_valid (c : Char) :
    c.toNat < 0xD800 ∨ 0xDFFF < c.toNat ∧ c.toNat < 0x110000 := c.valid

/-- The units that a character is written as. -/
def unitsOf (c : Char) : List Nat :=
  if c.toNat < 0x10000 then [c.toNat]
  else [0xD800 + (c.toNat - 0x10000) / 0x400, 0xDC00 + (c.toNat - 0x10000) % 0x400]

/-- Units put before what is read from the rest of a string. -/
def withUnits (units : List Nat) : Option (List Nat × Text) → Option (List Nat × Text) :=
  Option.map fun read => (units ++ read.1, read.2)

theorem readUnits_unit {a b c d : Char} {n : Nat} (h : unit? a b c d = some n) (rest : Text) :
    readUnits ('\\' :: 'u' :: a :: b :: c :: d :: rest) = withUnits [n] (readUnits rest) := by
  rw [readUnits, h]
  cases readUnits rest <;> rfl

theorem readUnits_escaped {c char : Char} (h : escaped? c = some char) (rest : Text) :
    readUnits ('\\' :: c :: rest) = withUnits [char.toNat] (readUnits rest) := by
  have hc : c ≠ 'u' := by
    rintro rfl
    cases h
  rw [readUnits, h]
  · cases readUnits rest <;> rfl
  · intro a b d e more heq
    exact absurd heq hc

theorem readUnits_plain {c : Char} (hprintable : 0x20 ≤ c.toNat) (hquote : c ≠ '"')
    (hbackslash : c ≠ '\\') (rest : Text) :
    readUnits (c :: rest) = withUnits [c.toNat] (readUnits rest) := by
  rw [readUnits]
  · rw [if_neg (by simp [hbackslash, Nat.not_lt.mpr hprintable])]
    cases readUnits rest <;> rfl
  all_goals grind

theorem readUnits_hex {n : Nat} (h : n < 0x10000) (rest : Text) :
    readUnits ("\\u".toList ++ Text.hex 4 n ++ rest) = withUnits [n] (readUnits rest) := by
  rw [Text.hex_four h]
  exact readUnits_unit (unit?_hex h) rest

/-- One step: an escaped character is read as its units. -/
theorem readUnits_escapeChar (c : Char) (rest : Text) :
    readUnits (escapeChar c ++ rest) = withUnits (unitsOf c) (readUnits rest) := by
  have hsmall : c.toNat < 0x10000 → unitsOf c = [c.toNat] := fun h => if_pos h
  have hnamed : ∀ letter char : Char, escaped? letter = some char → c = char →
      char.toNat < 0x10000 →
      readUnits (['\\', letter] ++ rest) = withUnits (unitsOf c) (readUnits rest) := by
    rintro letter char hletter rfl hlt
    rw [hsmall hlt]
    exact readUnits_escaped hletter rest
  have hofNat : ∀ n, c.toNat = n → c = Char.ofNat n := by
    rintro n rfl
    exact (Char.ofNat_toNat c).symm
  unfold escapeChar
  split_ifs with h1 h2 h3 h4 h5 h6 h7 h8
  · exact hnamed '"' '"' rfl (by simpa using h1) (by decide)
  · exact hnamed '\\' '\\' rfl (by simpa using h2) (by decide)
  · exact hnamed 'n' '\n' rfl (by simpa using h3) (by decide)
  · exact hnamed 'r' '\r' rfl (by simpa using h4) (by decide)
  · exact hnamed 't' '\t' rfl (by simpa using h5) (by decide)
  · exact hnamed 'b' (Char.ofNat 8) rfl (hofNat 8 (by simpa using h6)) (by decide)
  · exact hnamed 'f' (Char.ofNat 12) rfl (hofNat 12 (by simpa using h7)) (by decide)
  · simp only [Bool.and_eq_true, decide_eq_true_eq] at h8
    rw [hsmall (by omega)]
    exact readUnits_plain h8.1 (by simpa using h1) (by simpa using h2) rest
  · unfold escapeCode
    split_ifs with hlt
    · rw [hsmall hlt]
      exact readUnits_hex hlt rest
    · -- Past the first plane both units fit into four digits.
      have hvalid := toNat_valid c
      rw [unitsOf, if_neg hlt, List.append_assoc, readUnits_hex (by omega), readUnits_hex (by omega)]
      cases readUnits rest <;> rfl

theorem isHighUnit_toNat (c : Char) : Text.isHighUnit c.toNat = false := by
  have hvalid := toNat_valid c
  simp only [Text.isHighUnit, Bool.and_eq_false_iff, decide_eq_false_iff_not]
  omega

theorem unitChar_toNat [Characters] (c : Char) : Text.unitChar c.toNat = c := by
  have hvalid := toNat_valid c
  have hlow : Text.isLowUnit c.toNat = false := by
    simp only [Text.isLowUnit, Bool.and_eq_false_iff, decide_eq_false_iff_not]
    omega
  rw [Text.unitChar, isHighUnit_toNat, hlow]
  exact Char.ofNat_toNat c

/-- The units of a character make up the character again, whatever follows. -/
theorem joinUnits_unitsOf [Characters] (c : Char) (units : List Nat) :
    joinUnits (unitsOf c ++ units) = c :: joinUnits units := by
  have hvalid := toNat_valid c
  unfold unitsOf
  split_ifs with hlt
  · cases units with
    | nil => simp [joinUnits, unitChar_toNat]
    | cons next rest => simp [joinUnits, isHighUnit_toNat, unitChar_toNat]
  · have hhigh : Text.isHighUnit (0xD800 + (c.toNat - 0x10000) / 0x400) = true := by
      simp only [Text.isHighUnit, Bool.and_eq_true, decide_eq_true_eq]
      omega
    have hlow : Text.isLowUnit (0xDC00 + (c.toNat - 0x10000) % 0x400) = true := by
      simp only [Text.isLowUnit, Bool.and_eq_true, decide_eq_true_eq]
      omega
    have hpair : Text.pairChar (0xD800 + (c.toNat - 0x10000) / 0x400)
        (0xDC00 + (c.toNat - 0x10000) % 0x400) = c := by
      have hcode : 0x10000 + (0xD800 + (c.toNat - 0x10000) / 0x400 - 0xD800) * 0x400 +
          (0xDC00 + (c.toNat - 0x10000) % 0x400 - 0xDC00) = c.toNat := by omega
      rw [Text.pairChar, hcode]
      exact Char.ofNat_toNat c
    simp [joinUnits, hhigh, hlow, hpair]

theorem readUnits_string (s rest : Text) :
    readUnits (s.flatMap escapeChar ++ '"' :: rest) = some (s.flatMap unitsOf, rest) := by
  induction s with
  | nil => rfl
  | cons c s ih =>
    rw [List.flatMap_cons, List.append_assoc, readUnits_escapeChar, ih]
    rfl

/-- A string is read back as it was written. -/
theorem readChars_string [Characters] (s rest : Text) :
    readChars (s.flatMap escapeChar ++ '"' :: rest) = some (s, rest) := by
  have hjoin : joinUnits (s.flatMap unitsOf) = s := by
    induction s with
    | nil => rfl
    | cons c s ih => rw [List.flatMap_cons, joinUnits_unitsOf, ih]
  simp only [readChars, readUnits_string, Option.map_some, hjoin]

/-! ## Numbers -/

/-- A number ends where the text begins: no digit, fraction or exponent
follows. -/
def EndsNumber (rest : Text) : Prop :=
  ∀ c, rest.head? = some c → c.isDigit = false ∧ c ≠ '.' ∧ c ≠ 'e' ∧ c ≠ 'E'

theorem takeWhile_digits {digits rest : Text} (h : ∀ c ∈ digits, c.isDigit = true)
    (hrest : EndsNumber rest) :
    (digits ++ rest).takeWhile Char.isDigit = digits ∧
      (digits ++ rest).dropWhile Char.isDigit = rest := by
  have htake : rest.takeWhile Char.isDigit = [] := by
    cases rest with
    | nil => rfl
    | cons c rest => simp [(hrest c rfl).1]
  have hdrop : rest.dropWhile Char.isDigit = rest := by
    cases rest with
    | nil => rfl
    | cons c rest => simp [(hrest c rfl).1]
  rw [List.takeWhile_append_of_pos h, List.dropWhile_append_of_pos h, htake, hdrop]
  exact ⟨List.append_nil digits, rfl⟩

theorem readWhole_ofNat (n : Nat) {rest : Text} (hrest : EndsNumber rest) :
    readWhole (ofNat n ++ rest) = some (ofNat n, rest) := by
  by_cases hn : n = 0
  · subst hn
    rfl
  · obtain ⟨c, digits, heq, hc⟩ := Text.head_ofNat hn
    obtain ⟨htake, hdrop⟩ := takeWhile_digits (fun _ => Text.isDigit_of_mem_ofNat (n := n)) hrest
    rw [heq] at htake hdrop ⊢
    rw [readWhole]
    · rw [htake, hdrop]
    · intro more hmore
      exact hc (List.cons.inj hmore).1

theorem readUnsigned_ofNat (negative : Bool) (n : Nat) {rest : Text} (hrest : EndsNumber rest) :
    readUnsigned negative (ofNat n ++ rest) =
      some (.int (if negative then -(n : Int) else n), rest) := by
  have hfraction : readFraction rest = none := by
    cases rest with
    | nil => rfl
    | cons c rest => simp [readFraction, (hrest c rfl).2.1]
  have hexponent : readExponent rest = none := by
    cases rest with
    | nil => rfl
    | cons c rest => simp [readExponent, (hrest c rfl).2.2]
  unfold readUnsigned
  simp [readWhole_ofNat n hrest, hfraction, hexponent, Text.digitsValue_ofNat]

theorem ne_of_isDigit {c d : Char} (hc : c.isDigit = true) (hd : d.isDigit = false) : c ≠ d := by
  rintro rfl
  rw [hc] at hd
  cases hd

theorem exists_digit_ofNat (n : Nat) :
    ∃ c digits, ofNat n = c :: digits ∧ c.isDigit = true := by
  cases h : ofNat n with
  | nil => exact absurd h Nat.toDigits_ne_nil
  | cons c digits => exact ⟨c, digits, rfl, Text.isDigit_of_mem_ofNat (h ▸ List.mem_cons_self)⟩

/-- An integer is read back as it was written. -/
theorem readAtom_ofInt (n : Int) {rest : Text} (hrest : EndsNumber rest) :
    readAtom (ofInt n ++ rest) = some (.int n, rest) := by
  cases n with
  | ofNat n =>
    obtain ⟨c, digits, heq, hc⟩ := exists_digit_ofNat n
    have hread := readUnsigned_ofNat false n hrest
    have hne : ∀ d : Char, d.isDigit = false → ¬ d = c := fun d hd => (ne_of_isDigit hc hd).symm
    simp only [ofInt, heq, List.cons_append] at hread ⊢
    unfold readAtom
    simp [Text.startsWith, hne 'n' rfl, hne 't' rfl, hne 'f' rfl, hne 'N' rfl, hne 'I' rfl,
      hne '-' rfl, Ne.symm (hne '-' rfl), hread]
  | negSucc n =>
    obtain ⟨c, digits, heq, hc⟩ := exists_digit_ofNat (n + 1)
    have hread := readUnsigned_ofNat true (n + 1) hrest
    have hne : ¬ 'I' = c := (ne_of_isDigit hc rfl).symm
    simp only [ofInt, heq, List.cons_append] at hread ⊢
    unfold readAtom
    simp [Text.startsWith, hne, hread]
    omega

/-! ## Blanks between the parts -/

/-- Only blanks stand between the parts. -/
structure Layout.Blank (layout : Layout) : Prop where
  opening : ∀ c ∈ layout.opening, isSpace c = true
  between : ∀ c ∈ layout.between, isSpace c = true
  closing : ∀ c ∈ layout.closing, isSpace c = true

theorem indented_blank (depth : Nat) : (indented depth).Blank := by
  have hline : ∀ n, ∀ c ∈ '\n' :: List.replicate n ' ', isSpace c = true := by
    intro n c hc
    rcases List.mem_cons.mp hc with rfl | hc
    · rfl
    · rw [List.eq_of_mem_replicate hc]
      rfl
  exact ⟨hline _, hline _, hline _⟩

theorem skipSpaces_append {blanks : Text} (h : ∀ c ∈ blanks, isSpace c = true) (rest : Text) :
    skipSpaces (blanks ++ rest) = skipSpaces rest :=
  List.dropWhile_append_of_pos h

theorem skipSpaces_cons {c : Char} (h : isSpace c = false) (rest : Text) :
    skipSpaces (c :: rest) = c :: rest :=
  List.dropWhile_cons_of_neg (by simp [h])

theorem renderString_append (s rest : Text) :
    renderString s ++ rest = '"' :: (s.flatMap escapeChar ++ '"' :: rest) := by
  simp [renderString]

theorem skipSpaces_renderString (s rest : Text) :
    skipSpaces (renderString s ++ rest) = renderString s ++ rest :=
  skipSpaces_cons rfl _

theorem endsNumber_of_head {c : Char} {rest : Text}
    (h : c.isDigit = false ∧ c ≠ '.' ∧ c ≠ 'e' ∧ c ≠ 'E') : EndsNumber (c :: rest) := by
  intro d hd
  cases hd
  exact h

theorem endsNumber_blanks {blanks rest : Text} (h : ∀ c ∈ blanks, isSpace c = true)
    (hrest : EndsNumber rest) : EndsNumber (blanks ++ rest) := by
  cases blanks with
  | nil => exact hrest
  | cons c blanks =>
    have hc : isSpace c = true := h c List.mem_cons_self
    simp only [isSpace, Bool.or_eq_true, beq_iff_eq] at hc
    rcases hc with ((rfl | rfl) | rfl) | rfl
    all_goals exact endsNumber_of_head (by decide)

/-! ## Values -/

/-- The value has no number with a fraction, and its objects name each field
once. -/
inductive Plain : Json → Prop
  | null : Plain .null
  | bool (value : Bool) : Plain (.bool value)
  | int (value : Int) : Plain (.int value)
  | str (value : Text) : Plain (.str value)
  | arr {items : List Json} (each : ∀ item ∈ items, Plain item) : Plain (.arr items)
  | obj {fields : List (Text × Json)} (names : (fields.map Prod.fst).Nodup)
      (each : ∀ field ∈ fields, Plain field.2) : Plain (.obj fields)

/-- A value is not empty, and it starts neither with a blank nor with a
bracket that closes something. -/
theorem exists_head_renderAt (layout : Nat → Layout) (depth : Nat) {value : Json}
    (h : Plain value) :
    ∃ c rest, renderAt layout depth value = c :: rest ∧ isSpace c = false ∧ c ≠ ']' := by
  cases h with
  | null => exact ⟨'n', _, by rw [renderAt]; rfl, rfl, by decide⟩
  | bool value =>
    cases value with
    | true => exact ⟨'t', _, by rw [renderAt]; rfl, rfl, by decide⟩
    | false => exact ⟨'f', _, by rw [renderAt]; rfl, rfl, by decide⟩
  | int value =>
    rw [renderAt]
    cases value with
    | ofNat n =>
      obtain ⟨c, digits, heq, hc⟩ := exists_digit_ofNat n
      refine ⟨c, digits, heq, ?_, ne_of_isDigit hc rfl⟩
      have hne : ∀ d : Char, d.isDigit = false → (c == d) = false := fun d hd =>
        beq_false_of_ne (ne_of_isDigit hc hd)
      simp [isSpace, hne ' ' rfl, hne '\t' rfl, hne '\n' rfl, hne '\r' rfl]
    | negSucc n => exact ⟨'-', _, rfl, rfl, by decide⟩
  | str value => exact ⟨'"', _, by rw [renderAt]; rfl, rfl, by decide⟩
  | @arr items each =>
    cases items with
    | nil => exact ⟨'[', _, by rw [renderAt]; rfl, rfl, by decide⟩
    | cons item items => exact ⟨'[', _, by rw [renderAt]; rfl, rfl, by decide⟩
  | @obj fields names each =>
    cases fields with
    | nil => exact ⟨'\x7b', _, by rw [renderAt], rfl, by decide⟩
    | cons field fields => exact ⟨'\x7b', _, by rw [renderAt]; rfl, rfl, by decide⟩

/-- The value is read back as it was written, in any layout of blanks and
before any text that ends a number. -/
def ReadsBack [Characters] (value : Json) : Prop :=
  ∀ (layout : Nat → Layout), (∀ depth, (layout depth).Blank) → ∀ (depth fuel : Nat) (rest : Text),
    EndsNumber rest → (renderAt layout depth value).length < fuel →
    readValue fuel (renderAt layout depth value ++ rest) = some (value, rest)

variable {layout : Nat → Layout}

theorem skipSpaces_renderAt (depth : Nat) {value : Json} (h : Plain value) (rest : Text) :
    skipSpaces (renderAt layout depth value ++ rest) = renderAt layout depth value ++ rest := by
  obtain ⟨c, more, heq, hc, _⟩ := exists_head_renderAt layout depth h
  rw [heq]
  exact skipSpaces_cons hc _

/-- One item after the other: after each comes a comma with another item, or
the closing bracket. -/
theorem readItems_render [Characters] (hblank : ∀ depth, (layout depth).Blank) (depth : Nat)
    (items : List Json) (first : Json) (hplain : ∀ item ∈ first :: items, Plain item)
    (hback : ∀ item ∈ first :: items, ReadsBack item) (fuel : Nat) (rest : Text)
    (hfuel : (renderAt layout (depth + 1) first ++ renderItems layout depth items).length + 1 <
      fuel) :
    readItems fuel (renderAt layout (depth + 1) first ++ (renderItems layout depth items ++
      ((layout depth).closing ++ ']' :: rest))) = some (first :: items, rest) := by
  -- Each round uses up one of the fuel and at least a comma of the text.
  induction items generalizing first fuel with
  | nil =>
    obtain ⟨fuel, rfl⟩ : ∃ f, fuel = f + 1 := ⟨fuel - 1, by omega⟩
    rw [renderItems] at hfuel ⊢
    rw [List.length_append, List.length_nil] at hfuel
    have hends : EndsNumber ((layout depth).closing ++ ']' :: rest) :=
      endsNumber_blanks (hblank depth).closing (endsNumber_of_head (by decide))
    have hfirst := hback first List.mem_cons_self layout hblank (depth + 1) fuel _ hends (by omega)
    rw [List.nil_append, readItems, hfirst]
    simp [skipSpaces_append (hblank depth).closing, skipSpaces_cons (c := ']') rfl]
  | cons second items ih =>
    obtain ⟨fuel, rfl⟩ : ∃ f, fuel = f + 1 := ⟨fuel - 1, by omega⟩
    rw [renderItems] at hfuel ⊢
    simp only [List.length_append, List.length_cons] at hfuel
    rw [List.forall_mem_cons] at hplain hback
    have hfirst := hback.1 layout hblank (depth + 1) fuel
      (',' :: ((layout depth).between ++ (renderAt layout (depth + 1) second ++
        (renderItems layout depth items ++ ((layout depth).closing ++ ']' :: rest)))))
      (endsNumber_of_head (by decide)) (by omega)
    have hothers := ih second hplain.2 hback.2 fuel (by rw [List.length_append]; omega)
    simp only [List.cons_append, List.append_assoc] at hfirst ⊢
    rw [readItems, hfirst]
    simp [skipSpaces_cons (c := ',') rfl, skipSpaces_append (hblank depth).between,
      skipSpaces_renderAt (depth + 1) (hplain.2 second List.mem_cons_self), hothers]

theorem setField_append {name : Text} (value : Json) {fields : List (Text × Json)}
    (h : name ∉ fields.map Prod.fst) : setField name value fields = fields ++ [(name, value)] := by
  induction fields with
  | nil => rfl
  | cons field fields ih =>
    simp only [List.map_cons, List.mem_cons, not_or] at h
    rw [setField, if_neg (by simpa using Ne.symm h.1), ih h.2]
    rfl

/-- One field is read, and what comes after it decides how to go on. -/
theorem readFields_field [Characters] (hblank : ∀ depth, (layout depth).Blank) (depth : Nat)
    (name : Text)
    {value : Json} (hplain : Plain value) (hback : ReadsBack value) (read : List (Text × Json))
    (fuel : Nat) {after : Text} (hafter : EndsNumber after)
    (hfuel : (renderAt layout (depth + 1) value).length < fuel) :
    readFields (fuel + 1) read
        (renderString name ++ (": ".toList ++ (renderAt layout (depth + 1) value ++ after))) =
      match skipSpaces after with
      | ',' :: rest => readFields fuel (setField name value read) (skipSpaces rest)
      | '\x7d' :: rest => some (setField name value read, rest)
      | _ => none := by
  have hname := readChars_string name
    (": ".toList ++ (renderAt layout (depth + 1) value ++ after))
  have hcolon : skipSpaces (": ".toList ++ (renderAt layout (depth + 1) value ++ after)) =
      ':' :: ([' '] ++ (renderAt layout (depth + 1) value ++ after)) := rfl
  have hvalue : skipSpaces ([' '] ++ (renderAt layout (depth + 1) value ++ after)) =
      renderAt layout (depth + 1) value ++ after := by
    rw [skipSpaces_append (by simp [isSpace]), skipSpaces_renderAt (depth + 1) hplain]
  have hread := hback layout hblank (depth + 1) fuel after hafter hfuel
  rw [renderString_append, readFields, hname]
  simp only [Option.bind_eq_bind, Option.bind_some, hcolon, hvalue, hread]
  rfl

/-- One field after the other: each is added behind those that are read. -/
theorem readFields_render [Characters] (hblank : ∀ depth, (layout depth).Blank) (depth : Nat)
    (fields : List (Text × Json)) (name : Text) (value : Json)
    (hplain : ∀ field ∈ (name, value) :: fields, Plain field.2)
    (hback : ∀ field ∈ (name, value) :: fields, ReadsBack field.2) (read : List (Text × Json))
    (hnames : ((read ++ (name, value) :: fields).map Prod.fst).Nodup) (fuel : Nat) (rest : Text)
    (hfuel : (renderAt layout (depth + 1) value ++ renderFields layout depth fields).length + 1 <
      fuel) :
    readFields fuel read (renderString name ++ (": ".toList ++ (renderAt layout (depth + 1) value ++
      (renderFields layout depth fields ++ ((layout depth).closing ++ '\x7d' :: rest))))) =
      some (read ++ (name, value) :: fields, rest) := by
  -- No name is met twice, so a field is never set in an old place.
  have hnew : ∀ {name value fields} {read : List (Text × Json)},
      ((read ++ (name, value) :: fields).map Prod.fst).Nodup →
      setField name value read = read ++ [(name, value)] := by
    intro name value fields read hnames
    refine setField_append value fun hmem => ?_
    rw [List.map_append, List.nodup_append] at hnames
    exact hnames.2.2 name hmem name (by simp) rfl
  induction fields generalizing name value read fuel with
  | nil =>
    obtain ⟨fuel, rfl⟩ : ∃ f, fuel = f + 1 := ⟨fuel - 1, by omega⟩
    rw [renderFields, List.nil_append]
    rw [renderFields, List.append_nil] at hfuel
    have hends : EndsNumber ((layout depth).closing ++ '\x7d' :: rest) :=
      endsNumber_blanks (hblank depth).closing (endsNumber_of_head (by decide))
    have hvalue : Plain value := hplain _ List.mem_cons_self
    have hread : ReadsBack value := hback _ List.mem_cons_self
    rw [readFields_field hblank depth name hvalue hread read fuel hends (by omega),
      skipSpaces_append (hblank depth).closing, skipSpaces_cons rfl, hnew hnames]
    rfl
  | cons second fields ih =>
    obtain ⟨secondName, secondValue⟩ := second
    obtain ⟨fuel, rfl⟩ : ∃ f, fuel = f + 1 := ⟨fuel - 1, by omega⟩
    rw [List.forall_mem_cons] at hplain hback
    rw [renderFields] at hfuel ⊢
    simp only [List.length_append, List.length_cons] at hfuel
    simp only [List.cons_append, List.append_assoc]
    have hvalue : Plain value := hplain.1
    have hread : ReadsBack value := hback.1
    rw [readFields_field hblank depth name hvalue hread read fuel
      (endsNumber_of_head (by decide)) (by omega), skipSpaces_cons rfl, hnew hnames]
    have hothers := ih secondName secondValue hplain.2 hback.2 (read ++ [(name, value)])
      (by simpa using hnames) fuel (by rw [List.length_append]; omega)
    simp only [skipSpaces_append (hblank depth).between, skipSpaces_renderString, hothers]
    rw [List.append_assoc]
    rfl

/-- What starts with no quote and no opening bracket is an atom. -/
theorem readValue_atom [Characters] {c : Char} (fuel : Nat) (rest : Text) (hquote : c ≠ '"')
    (hbracket : c ≠ '[') (hbrace : c ≠ '\x7b') :
    readValue (fuel + 1) (c :: rest) = readAtom (c :: rest) := by
  rw [readValue] <;> grind

theorem readsBack_int [Characters] (n : Int) : ReadsBack (.int n) := by
  intro layout _ depth fuel rest hrest hfuel
  obtain ⟨fuel, rfl⟩ : ∃ f, fuel = f + 1 := ⟨fuel - 1, by omega⟩
  have hread := readAtom_ofInt n hrest
  rw [renderAt]
  cases n with
  | ofNat n =>
    obtain ⟨c, digits, heq, hc⟩ := exists_digit_ofNat n
    simp only [ofInt, heq, List.cons_append] at hread ⊢
    rw [readValue_atom fuel _ (ne_of_isDigit hc rfl) (ne_of_isDigit hc rfl) (ne_of_isDigit hc rfl),
      hread]
  | negSucc n =>
    simp only [ofInt, List.cons_append] at hread ⊢
    rw [readValue_atom fuel _ (by decide) (by decide) (by decide), hread]

theorem readsBack_str [Characters] (s : Text) : ReadsBack (.str s) := by
  intro layout _ depth fuel rest _ hfuel
  obtain ⟨fuel, rfl⟩ : ∃ f, fuel = f + 1 := ⟨fuel - 1, by omega⟩
  rw [renderAt, renderString_append, readValue, readChars_string]
  rfl

theorem readsBack_arr [Characters] {items : List Json} (hplain : ∀ item ∈ items, Plain item)
    (hback : ∀ item ∈ items, ReadsBack item) : ReadsBack (.arr items) := by
  intro layout hblank depth fuel rest _ hfuel
  obtain ⟨fuel, rfl⟩ : ∃ f, fuel = f + 1 := ⟨fuel - 1, by omega⟩
  cases items with
  | nil =>
    rw [renderAt]
    rfl
  | cons first items =>
    rw [renderAt] at hfuel ⊢
    simp only [List.length_append, List.length_cons, List.length_nil] at hfuel
    have hitems := readItems_render hblank depth items first hplain hback fuel rest
      (by rw [List.length_append]; omega)
    obtain ⟨c, more, heq, hspace, hbracket⟩ :=
      exists_head_renderAt layout (depth + 1) (hplain first List.mem_cons_self)
    simp only [List.cons_append, List.append_assoc, List.nil_append]
    rw [readValue, skipSpaces_append (hblank depth).opening]
    rw [heq] at hitems ⊢
    rw [List.cons_append, skipSpaces_cons hspace]
    -- An item does not start with the bracket of an empty array.
    split
    · next h => exact absurd (List.cons.inj h).1 hbracket
    · rw [← List.cons_append, hitems]
      rfl

theorem readsBack_obj [Characters] {fields : List (Text × Json)}
    (hnames : (fields.map Prod.fst).Nodup)
    (hplain : ∀ field ∈ fields, Plain field.2) (hback : ∀ field ∈ fields, ReadsBack field.2) :
    ReadsBack (.obj fields) := by
  intro layout hblank depth fuel rest _ hfuel
  obtain ⟨fuel, rfl⟩ : ∃ f, fuel = f + 1 := ⟨fuel - 1, by omega⟩
  cases fields with
  | nil =>
    rw [renderAt]
    rfl
  | cons first fields =>
    obtain ⟨name, value⟩ := first
    rw [renderAt] at hfuel ⊢
    simp only [List.length_append, List.length_cons, List.length_nil] at hfuel
    have hfields := readFields_render hblank depth fields name value hplain hback [] hnames fuel
      rest (by rw [List.length_append]; omega)
    simp only [List.cons_append, List.append_assoc, List.nil_append]
    rw [readValue, skipSpaces_append (hblank depth).opening, skipSpaces_renderString]
    split
    · next h => exact absurd (List.cons.inj h).1 (by decide)
    · rw [hfields]
      rfl

/-- Every plain value is read back as it was written. -/
theorem readsBack_of_plain [Characters] {value : Json} (h : Plain value) : ReadsBack value := by
  induction h with
  | null =>
    intro layout _ depth fuel rest _ hfuel
    obtain ⟨fuel, rfl⟩ : ∃ f, fuel = f + 1 := ⟨fuel - 1, by omega⟩
    rw [renderAt]
    rfl
  | bool value =>
    intro layout _ depth fuel rest _ hfuel
    obtain ⟨fuel, rfl⟩ : ∃ f, fuel = f + 1 := ⟨fuel - 1, by omega⟩
    cases value <;> (rw [renderAt]; rfl)
  | int n => exact readsBack_int n
  | str s => exact readsBack_str s
  | arr each ih => exact readsBack_arr each ih
  | obj names each ih => exact readsBack_obj names each ih

/-- A whole text of a plain value is read as that value, also with blanks
behind it. -/
theorem parse?_renderAt [Characters] (hblank : ∀ depth, (layout depth).Blank) {value : Json}
    (h : Plain value) {blanks : Text} (hend : ∀ c ∈ blanks, isSpace c = true) :
    parse? (renderAt layout 0 value ++ blanks) = some value := by
  have hends : EndsNumber blanks := by
    have hnil : EndsNumber [] := by
      intro c hc
      cases hc
    simpa using endsNumber_blanks hend hnil
  have hread := readsBack_of_plain h layout hblank 0
    ((renderAt layout 0 value ++ blanks).length + 1) blanks hends
    (by rw [List.length_append]; omega)
  have hblanks : skipSpaces blanks = [] := by
    have hskip := skipSpaces_append hend []
    rwa [List.append_nil] at hskip
  unfold parse?
  rw [skipSpaces_renderAt 0 h, hread]
  simp [hblanks]

/-! ## The characters that are written -/

/-- A blank, or a character of ASCII that can be seen. -/
def isWritten (c : Char) : Bool := isSpace c || (0x20 ≤ c.toNat && c.toNat < 0x7F)

theorem isWritten_of_isDigit {c : Char} (h : c.isDigit = true) : isWritten c = true := by
  have hrange : 48 ≤ c.toNat ∧ c.toNat ≤ 57 := by
    simpa [Char.isDigit, UInt32.le_iff_toNat_le] using h
  have : 0x20 ≤ c.toNat ∧ c.toNat < 0x7F := by omega
  simp [isWritten, this]

theorem isWritten_digitChar : ∀ d < 16, isWritten d.digitChar = true := by decide

theorem all_isWritten_hex {n : Nat} (h : n < 0x10000) :
    ("\\u".toList ++ Text.hex 4 n).all isWritten = true := by
  rw [Text.hex_four h]
  simp [isWritten_digitChar _ (by omega : n / 16 / 16 / 16 < 16),
    isWritten_digitChar _ (by omega : n / 16 / 16 % 16 < 16),
    isWritten_digitChar _ (by omega : n / 16 % 16 < 16),
    isWritten_digitChar _ (by omega : n % 16 < 16)]
  decide

theorem all_isWritten_escapeChar (c : Char) : (escapeChar c).all isWritten = true := by
  unfold escapeChar
  split_ifs with h1 h2 h3 h4 h5 h6 h7 h8
  iterate 7 decide
  · simp only [List.all_cons, List.all_nil, Bool.and_true, isWritten, h8, Bool.or_true]
  · have hvalid := toNat_valid c
    unfold escapeCode
    split_ifs with hlt
    · exact all_isWritten_hex hlt
    · rw [List.all_append, all_isWritten_hex (by omega), all_isWritten_hex (by omega)]
      rfl

theorem all_isWritten_renderString (s : Text) : (renderString s).all isWritten = true := by
  simp only [renderString, List.cons_append, List.all_cons, List.all_append, List.all_flatMap,
    List.all_nil, Bool.and_true, Bool.and_eq_true, List.all_eq_true]
  exact ⟨by decide, fun c _ => List.all_eq_true.mp (all_isWritten_escapeChar c), by decide⟩

theorem all_isWritten_blanks {blanks : Text} (h : ∀ c ∈ blanks, isSpace c = true) :
    blanks.all isWritten = true := by
  simp only [List.all_eq_true, isWritten, Bool.or_eq_true]
  exact fun c hc => .inl (h c hc)

theorem all_isWritten_ofInt (n : Int) : (ofInt n).all isWritten = true := by
  have hdigits : ∀ n, (ofNat n).all isWritten = true := fun n =>
    List.all_eq_true.mpr fun c hc => isWritten_of_isDigit (Text.isDigit_of_mem_ofNat hc)
  cases n with
  | ofNat n => exact hdigits n
  | negSucc n =>
    rw [ofInt, List.all_cons, hdigits]
    decide

theorem all_isWritten_renderItems (hblank : ∀ depth, (layout depth).Blank) (depth : Nat)
    {items : List Json}
    (h : ∀ item ∈ items, (renderAt layout (depth + 1) item).all isWritten = true) :
    (renderItems layout depth items).all isWritten = true := by
  induction items with
  | nil =>
    rw [renderItems]
    rfl
  | cons item items ih =>
    rw [List.forall_mem_cons] at h
    rw [renderItems]
    simp only [List.cons_append, List.all_cons, List.all_append,
      all_isWritten_blanks (hblank depth).between, h.1, ih h.2, Bool.and_true]
    decide

theorem all_isWritten_renderFields (hblank : ∀ depth, (layout depth).Blank) (depth : Nat)
    {fields : List (Text × Json)}
    (h : ∀ field ∈ fields, (renderAt layout (depth + 1) field.2).all isWritten = true) :
    (renderFields layout depth fields).all isWritten = true := by
  induction fields with
  | nil =>
    rw [renderFields]
    rfl
  | cons field fields ih =>
    rw [List.forall_mem_cons] at h
    rw [renderFields]
    simp only [List.cons_append, List.all_cons, List.all_append,
      all_isWritten_blanks (hblank depth).between, all_isWritten_renderString, h.1, ih h.2,
      Bool.and_true]
    decide

/-- A plain value is written in ASCII that can be seen, with blanks. -/
theorem all_isWritten_renderAt (hblank : ∀ depth, (layout depth).Blank) {value : Json}
    (h : Plain value) (depth : Nat) : (renderAt layout depth value).all isWritten = true := by
  have hopening := fun depth => all_isWritten_blanks (hblank depth).opening
  have hclosing := fun depth => all_isWritten_blanks (hblank depth).closing
  induction h generalizing depth with
  | null =>
    rw [renderAt]
    decide
  | bool value => cases value <;> (rw [renderAt]; decide)
  | int n =>
    rw [renderAt]
    exact all_isWritten_ofInt n
  | str s =>
    rw [renderAt]
    exact all_isWritten_renderString s
  | @arr items each ih =>
    cases items with
    | nil =>
      rw [renderAt]
      decide
    | cons first items =>
      have hparts := List.forall_mem_cons.mp fun item h => ih item h (depth + 1)
      have hitems := all_isWritten_renderItems hblank depth hparts.2
      rw [renderAt]
      simp only [List.cons_append, List.all_cons, List.all_append, hopening, hclosing, hparts.1,
        hitems, List.all_nil, Bool.and_true]
      decide
  | @obj fields names each ih =>
    cases fields with
    | nil =>
      rw [renderAt]
      decide
    | cons first fields =>
      have hparts := List.forall_mem_cons.mp fun field h => ih field h (depth + 1)
      have hfields := all_isWritten_renderFields hblank depth hparts.2
      rw [renderAt]
      simp only [List.cons_append, List.all_cons, List.all_append, hopening, hclosing, hparts.1,
        all_isWritten_renderString, hfields, List.all_nil, Bool.and_true]
      decide

end Json

end ImageLint
