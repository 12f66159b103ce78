-- A copy reads another stage when its text holds the option for it in any
-- letter case. Neither small letters nor the escapes of a string nor the blanks
-- and quotes between words make or break the option, so it is held by a text in
-- words and by a text in brackets exactly when one of the words holds it.
import Mathlib.Data.List.Forall2
import ImageLint.Instruction
import ImageLint.Proofs.JsonReading
import ImageLint.Proofs.Text

namespace ImageLint

namespace Text

/-! ## Parts of a text -/

/-- A part without the character stands on one side of it. -/
theorem infix_append_cons_iff {part s t : Text} {c : Char} (h : c ∉ part) :
    part <:+: s ++ c :: t ↔ part <:+: s ∨ part <:+: t := by
  constructor
  · rintro ⟨before, after, heq⟩
    rw [List.append_assoc] at heq
    rcases List.append_eq_append_iff.mp heq with ⟨more, rfl, hmore⟩ | ⟨more, rfl, hmore⟩
    · -- the part starts in the first text, and must end before the character
      rcases List.append_eq_append_iff.mp hmore with ⟨rest, rfl, _⟩ | ⟨rest, rfl, hrest⟩
      · exact .inl ⟨before, rest, by simp⟩
      · cases rest with
        | nil => exact .inl ⟨before, [], by simp⟩
        | cons d rest =>
          rw [List.cons_append, List.cons.injEq] at hrest
          exact absurd (by simp [hrest.1]) h
    · cases more with
      | nil =>
        rw [List.nil_append] at hmore
        cases part with
        | nil => exact .inl List.nil_infix
        | cons d rest =>
          rw [List.cons_append, List.cons.injEq] at hmore
          exact absurd (by simp [hmore.1]) h
      | cons d more =>
        rw [List.cons_append, List.cons.injEq] at hmore
        exact .inr ⟨more, after, by rw [hmore.2, List.append_assoc]⟩
  · rintro (⟨before, after, rfl⟩ | ⟨before, after, rfl⟩)
    · exact ⟨before, after ++ c :: t, by simp⟩
    · exact ⟨s ++ c :: before, after, by simp⟩

/-- A part that is not empty and has no blank stands in one of the texts that
are joined by blanks. -/
theorem infix_joinWith_iff {part : Text} (hne : part ≠ []) (h : ' ' ∉ part) (pieces : List Text) :
    part <:+: joinWith [' '] pieces ↔ ∃ piece ∈ pieces, part <:+: piece := by
  unfold joinWith
  induction pieces with
  | nil => simpa using hne
  | cons first rest ih =>
    cases rest with
    | nil => simp
    | cons second rest =>
      rw [List.intercalate_cons_cons, List.append_assoc, List.singleton_append,
        infix_append_cons_iff h, ih]
      simp

/-! ## Parts of a text that is respelled -/

/-- Where `R` says how a character may be spelled as a piece of text, and
`source` which character it then stands for, the spelling keeps the part: what
stands for a character of the part is spelled as that character alone, and
nothing else starts as one of them or holds the first of them. -/
structure Keeps (R : Char → Text → Prop) (source : Char → Char) (part : Text) : Prop where
  nonempty : ∀ c piece, R c piece → piece ≠ []
  alone : ∀ c piece, R c piece → source c ∈ part → piece = [source c]
  starts : ∀ c piece d, R c piece → d ∈ part → piece.head? = some d → source c = d
  first : ∀ c piece d, R c piece → part.head? = some d → d ∈ piece → source c = d

variable {R : Char → Text → Prop} {source : Char → Char} {part s : Text} {pieces : List Text}

/-- One character after the other: what starts the respelled text was there
before. -/
theorem Keeps.exists_start (h : Keeps R source part) (hs : List.Forall₂ R s pieces)
    {front : Text} (hfront : ∀ d ∈ front, d ∈ part) (hstart : front <+: pieces.flatten) :
    ∃ u, u <+: s ∧ u.map source = front := by
  induction hs generalizing front with
  | nil =>
    rw [List.flatten_nil, List.prefix_nil] at hstart
    exact ⟨[], List.nil_prefix, hstart.symm⟩
  | @cons c piece s pieces hpiece _ ih =>
    cases front with
    | nil => exact ⟨[], List.nil_prefix, rfl⟩
    | cons d front =>
      rw [List.forall_mem_cons] at hfront
      obtain ⟨e, more, rfl⟩ := List.exists_cons_of_ne_nil (h.nonempty c piece hpiece)
      rw [List.flatten_cons, List.cons_append, List.cons_prefix_cons] at hstart
      obtain ⟨rfl, hstart⟩ := hstart
      have hsource := h.starts c _ d hpiece hfront.1 rfl
      have halone := h.alone c _ hpiece (hsource ▸ hfront.1)
      rw [List.cons.injEq] at halone
      rw [halone.2, List.nil_append] at hstart
      obtain ⟨u, hu, hmap⟩ := ih hfront.2 hstart
      refine ⟨c :: u, List.cons_prefix_cons.mpr ⟨rfl, hu⟩, ?_⟩
      rw [List.map_cons, hsource, hmap]

theorem Keeps.exists_part (h : Keeps R source part) (hne : part ≠ [])
    (hs : List.Forall₂ R s pieces) (hpart : part <:+: pieces.flatten) :
    ∃ u, u <:+: s ∧ u.map source = part := by
  induction hs with
  | nil =>
    rw [List.flatten_nil, List.infix_nil] at hpart
    exact absurd hpart hne
  | @cons c piece s pieces hpiece hs ih =>
    have hlater : part <:+: pieces.flatten → ∃ u, u <:+: c :: s ∧ u.map source = part := by
      intro hrest
      obtain ⟨u, hu, hmap⟩ := ih hrest
      exact ⟨u, List.infix_cons hu, hmap⟩
    obtain ⟨before, after, heq⟩ := hpart
    rw [List.flatten_cons, List.append_assoc] at heq
    rcases List.append_eq_append_iff.mp heq with ⟨more, hpieceEq, hmore⟩ | ⟨more, _, hmore⟩
    · cases more with
      | nil => exact hlater ⟨[], after, by simpa using hmore⟩
      | cons d more =>
        -- the part starts inside the piece, which is then its first character
        obtain ⟨e, rest, rfl⟩ := List.exists_cons_of_ne_nil hne
        rw [List.cons_append, List.cons_append, List.cons.injEq] at hmore
        obtain ⟨rfl, hmore⟩ := hmore
        have hsource := h.first c piece e hpiece rfl (by simp [hpieceEq])
        have halone := h.alone c piece hpiece (by simp [hsource])
        have hstart : e :: rest <+: (piece :: pieces).flatten := by
          rw [hpieceEq, hsource] at halone
          have hbefore : before = [] := by
            have hlength := congrArg List.length halone
            simp only [List.length_append, List.length_cons, List.length_nil] at hlength
            exact List.length_eq_zero_iff.mp (by omega)
          refine ⟨after, ?_⟩
          rw [List.flatten_cons, ← heq, hbefore, List.nil_append]
        obtain ⟨u, hu, hmap⟩ := h.exists_start (.cons hpiece hs) (fun d hd => hd) hstart
        exact ⟨u, hu.isInfix, hmap⟩
    · exact hlater ⟨more, after, by rw [hmore, List.append_assoc]⟩

theorem Keeps.map_start (h : Keeps R source part) (hs : List.Forall₂ R s pieces) {u : Text}
    (hin : ∀ c ∈ u, source c ∈ part) (hu : u <+: s) : u.map source <+: pieces.flatten := by
  induction hs generalizing u with
  | nil =>
    rw [List.prefix_nil] at hu
    simp [hu]
  | @cons c piece s pieces hpiece _ ih =>
    cases u with
    | nil => exact List.nil_prefix
    | cons d u =>
      obtain ⟨rfl, hrest⟩ := List.cons_prefix_cons.mp hu
      rw [List.forall_mem_cons] at hin
      rw [List.map_cons, List.flatten_cons, h.alone d piece hpiece hin.1]
      exact List.cons_prefix_cons.mpr ⟨rfl, ih hin.2 hrest⟩

theorem Keeps.map_part (h : Keeps R source part) (hs : List.Forall₂ R s pieces) {u : Text}
    (hin : ∀ c ∈ u, source c ∈ part) (hu : u <:+: s) : u.map source <:+: pieces.flatten := by
  induction hs with
  | nil =>
    rw [List.infix_nil] at hu
    simp [hu]
  | @cons c piece s pieces hpiece hs ih =>
    rcases List.infix_cons_iff.mp hu with hu | hu
    · exact (h.map_start (.cons hpiece hs) hin hu).isInfix
    · rw [List.flatten_cons]
      exact (ih hu).trans (List.suffix_append _ _).isInfix

/-- A part is held by the respelled text exactly when what it comes from is held
by the text. -/
theorem Keeps.infix_iff (h : Keeps R source part) (hne : part ≠ [])
    (hs : List.Forall₂ R s pieces) :
    part <:+: pieces.flatten ↔ ∃ u, u <:+: s ∧ u.map source = part := by
  refine ⟨h.exists_part hne hs, ?_⟩
  rintro ⟨u, hu, rfl⟩
  exact h.map_part hs (fun c hc => List.mem_map_of_mem hc) hu

/-! ## Small letters -/

theorem toLower_cases (c : Char) :
    c.toLower = c ∨ (65 ≤ c.toNat ∧ c.toNat ≤ 90 ∧ c.toLower.toNat = c.toNat + 32) := by
  by_cases h : 'A'.val ≤ c.val ∧ c.val ≤ 'Z'.val
  · have hlow : 65 ≤ c.toNat := UInt32.le_iff_toNat_le.mp h.1
    have hhigh : c.toNat ≤ 90 := UInt32.le_iff_toNat_le.mp h.2
    have hlower : c.toLower.toNat = (c.val + ('a'.val - 'A'.val)).toNat := by
      unfold Char.toLower
      rw [dif_pos h]
      rfl
    have hdistance : ('a'.val - 'A'.val).toNat = 32 := rfl
    have hval : c.val.toNat = c.toNat := rfl
    rw [UInt32.toNat_add, hdistance, hval] at hlower
    exact .inr ⟨hlow, hhigh, by omega⟩
  · exact .inl (dif_neg h)

theorem toNat_ofNat_cases (code : Nat) :
    (Char.ofNat code).toNat = code ∨ (Char.ofNat code).toNat = 0 := by
  unfold Char.ofNat
  by_cases hvalid : code.isValidChar
  · rw [dif_pos hvalid]
    exact .inl rfl
  · rw [dif_neg hvalid]
    exact .inr rfl

end Text

/-- The option that names the stage a copy reads, in small letters. -/
def stageOption : Text := "--from="

theorem toNat_of_mem_stageOption {c : Char} (h : c ∈ stageOption) :
    0 < c.toNat ∧ c.toNat < 128 := by
  have hall : stageOption.all (fun c => 0 < c.toNat && c.toNat < 128) = true := by decide
  simpa using List.all_eq_true.mp hall c h

/-- Only ASCII letters become characters of the option. -/
theorem toNat_lt_of_toLower_mem {c : Char} (h : c.toLower ∈ stageOption) : c.toNat < 128 := by
  have hsmall := (toNat_of_mem_stageOption h).2
  rcases Text.toLower_cases c with hsame | ⟨_, hhigh, _⟩
  · rwa [hsame] at hsmall
  · omega

namespace Unicode

open Text

/-- How a character may be spelled in small letters. A sigma that ends a word
has a letter of its own. -/
def SpelledSmall (c : Char) (piece : Text) : Prop :=
  (c ≠ capitalSigma ∧ piece = lowerChar c) ∨
    (c = capitalSigma ∧ (piece = [Char.ofNat 0x3C2] ∨ piece = [Char.ofNat 0x3C3]))

/-- Small letters are spelled one character after the other. -/
theorem exists_spelledSmall (before s : Text) :
    ∃ pieces, List.Forall₂ SpelledSmall s pieces ∧ lowerFrom before s = pieces.flatten := by
  induction s generalizing before with
  | nil => exact ⟨[], .nil, rfl⟩
  | cons c rest ih =>
    obtain ⟨pieces, hpieces, heq⟩ := ih (c :: before)
    rw [lowerFrom, heq]
    refine ⟨_ :: pieces, .cons ?_ hpieces, rfl⟩
    by_cases hsigma : c = capitalSigma
    · rw [if_pos (by simp [hsigma])]
      refine .inr ⟨hsigma, ?_⟩
      split
      · exact .inl rfl
      · exact .inr rfl
    · rw [if_neg (by simp [hsigma])]
      exact .inl ⟨hsigma, rfl⟩

/-- No run of the table leads to a character of the option. -/
theorem lowerRuns_checked : ∀ run ∈ lowerRuns, ∀ c ∈ stageOption,
    (c.toNat : Int) < run.first + run.distance ∨ run.last + run.distance < c.toNat := by
  have hall : (lowerRuns.all fun run => stageOption.all fun c =>
      (c.toNat : Int) < run.first + run.distance ∨ run.last + run.distance < c.toNat) = true := by
    decide +kernel
  simp only [List.all_eq_true, decide_eq_true_eq] at hall
  exact hall

theorem lowerSequences_checked : ∀ entry ∈ lowerSequences,
    entry.2 ≠ [] ∧ ∀ code ∈ entry.2, Char.ofNat code ∉ stageOption := by
  decide +kernel

/-- No character beyond ASCII becomes one of the option in small letters. -/
theorem not_mem_lowerChar {c d : Char} (hc : 128 ≤ c.toNat) (hd : d ∈ stageOption) :
    d ∉ lowerChar c := by
  have hascii := toNat_of_mem_stageOption hd
  have hcode : ∀ {code : Nat}, d = Char.ofNat code → d.toNat = code := by
    rintro code rfl
    rcases Text.toNat_ofNat_cases code with heq | hzero
    · exact heq
    · omega
  unfold lowerChar
  rw [if_neg (by omega)]
  cases hlookup : lowerSequences.lookup c.toNat with
  | some codes =>
    obtain ⟨before, after, htable, _⟩ := List.lookup_eq_some_iff.mp hlookup
    intro hmem
    obtain ⟨code, hmem, heq⟩ := List.mem_map.mp hmem
    rw [← heq] at hd
    exact (lowerSequences_checked (c.toNat, codes) (by simp [htable])).2 code hmem hd
  | none =>
    intro hmem
    have htoNat := hcode (List.mem_singleton.mp hmem)
    unfold CaseRun.apply at htoNat
    split at htoNat
    · rename_i run hfind
      have hrun := List.find?_some hfind
      simp only [Bool.and_eq_true, decide_eq_true_eq] at hrun
      have hapart := lowerRuns_checked run (List.mem_of_find?_eq_some hfind) d hd
      omega
    · omega

/-- Small letters make no option of anything but the option. -/
theorem keeps_spelledSmall : Keeps SpelledSmall Char.toLower stageOption := by
  -- a piece with a character of the option is an ASCII letter in small letters
  have hown : ∀ c piece d, SpelledSmall c piece → d ∈ stageOption → d ∈ piece →
      c.toLower = d := by
    rintro c piece d (⟨_, rfl⟩ | ⟨_, rfl | rfl⟩) hd hmem
    · by_cases hc : c.toNat < 128
      · unfold lowerChar at hmem
        rw [if_pos hc, List.mem_singleton] at hmem
        exact hmem.symm
      · exact absurd hmem (not_mem_lowerChar (by omega) hd)
    · rw [List.mem_singleton.mp hmem] at hd
      exact absurd hd (by decide)
    · rw [List.mem_singleton.mp hmem] at hd
      exact absurd hd (by decide)
  constructor
  · rintro c piece (⟨_, rfl⟩ | ⟨_, rfl | rfl⟩)
    · unfold lowerChar
      split
      · simp
      · split
        · rename_i codes hlookup
          obtain ⟨before, after, htable, _⟩ := List.lookup_eq_some_iff.mp hlookup
          simpa using (lowerSequences_checked (c.toNat, codes) (by simp [htable])).1
        · simp
    · simp
    · simp
  · rintro c piece (⟨_, rfl⟩ | ⟨rfl, _⟩) hmem
    · unfold lowerChar
      rw [if_pos (toNat_lt_of_toLower_mem hmem)]
    · exact absurd hmem (by decide)
  · intro c piece d hpiece hd hhead
    exact hown c piece d hpiece hd (List.mem_of_head? hhead)
  · intro c piece d hpiece hd hmem
    exact hown c piece d hpiece (List.mem_of_head? hd) hmem

end Unicode

/-! ## The option in any letter case -/

/-- The text is the option, in any letter case. -/
def IsStageOption (u : Text) : Prop := u.map Char.toLower = stageOption

namespace IsStageOption

variable {u : Text} (h : IsStageOption u)
include h

theorem ne_nil : u ≠ [] := by
  rintro rfl
  cases h

theorem mem_letters {c : Char} (hc : c ∈ u) : c ∈ "-fromFROM=".toList := by
  have hsmall : c.toLower ∈ stageOption := h ▸ List.mem_map_of_mem hc
  have hall : ∀ code < 128, (Char.ofNat code).toLower ∈ stageOption →
      Char.ofNat code ∈ "-fromFROM=".toList := by decide
  have hletter := hall c.toNat (toNat_lt_of_toLower_mem hsmall)
  rw [Char.ofNat_toNat] at hletter
  exact hletter hsmall

/-- No character but these is part of the option. -/
theorem not_mem {c : Char} (hc : c ∉ "-fromFROM=".toList) : c ∉ u := fun hmem =>
  hc (h.mem_letters hmem)

theorem head?_eq : u.head? = some '-' := by
  obtain ⟨c, rest, rfl⟩ := List.exists_cons_of_ne_nil h.ne_nil
  have hall : "-fromFROM=".toList.all (fun c => c.toLower = '-' → c = '-') = true := by decide
  have hdash := of_decide_eq_true (List.all_eq_true.mp hall c (h.mem_letters List.mem_cons_self))
  have hfirst : c.toLower = '-' := by
    unfold IsStageOption stageOption at h
    simp at h
    exact h.1
  rw [hdash hfirst]
  rfl

end IsStageOption

/-- The text holds the option that names a stage, in any letter case. -/
def NamesStage (s : Text) : Prop := ∃ u, u <:+: s ∧ IsStageOption u

theorem namesStage_iff (s : Text) :
    NamesStage s ↔ Text.holds stageOption (s.map Char.toLower) = true := by
  rw [Text.holds_eq_true_iff]
  constructor
  · rintro ⟨u, hu, hoption⟩
    rw [← hoption]
    exact hu.map Char.toLower
  · rintro ⟨before, after, heq⟩
    obtain ⟨front, last, rfl, hfront, rfl⟩ := List.map_eq_append_iff.mp heq.symm
    obtain ⟨first, u, rfl, rfl, hu⟩ := List.map_eq_append_iff.mp hfront
    exact ⟨u, ⟨first, last, rfl⟩, hu⟩

instance (s : Text) : Decidable (NamesStage s) := decidable_of_iff _ (namesStage_iff s).symm

/-- Only a copy whose text does not hold the option reads the build context. -/
theorem Instruction.readsContext_iff (i : Instruction) :
    i.readsContext = true ↔ ¬ NamesStage i.argument := by
  obtain ⟨pieces, hpieces, heq⟩ := Unicode.exists_spelledSmall [] i.argument
  have hholds := Unicode.keeps_spelledSmall.infix_iff (by decide) hpieces
  rw [← heq] at hholds
  unfold Instruction.readsContext NamesStage IsStageOption
  rw [← hholds, Bool.not_eq_true', ← Bool.not_eq_true, Text.holds_eq_true_iff]
  rfl

theorem namesStage_joinWith (pieces : List Text) :
    NamesStage (Text.joinWith [' '] pieces) ↔ ∃ piece ∈ pieces, NamesStage piece := by
  constructor
  · rintro ⟨u, hu, hoption⟩
    obtain ⟨piece, hpiece, hin⟩ :=
      (Text.infix_joinWith_iff hoption.ne_nil (hoption.not_mem (by decide)) pieces).mp hu
    exact ⟨piece, hpiece, u, hin, hoption⟩
  · rintro ⟨piece, hpiece, u, hin, hoption⟩
    refine ⟨u, ?_, hoption⟩
    exact (Text.infix_joinWith_iff hoption.ne_nil (hoption.not_mem (by decide)) pieces).mpr
      ⟨piece, hpiece, hin⟩

/-! ## The option in a text in brackets -/

namespace Json

/-- An escaped unit starts with a backslash and has no dash. -/
theorem escapedUnit {n : Nat} (h : n < 0x10000) :
    ("\\u".toList ++ Text.hex 4 n).head? = some '\\' ∧ '-' ∉ "\\u".toList ++ Text.hex 4 n := by
  have hdigit : ∀ d < 16, '-' ≠ d.digitChar := by decide
  rw [Text.hex_four h]
  refine ⟨rfl, ?_⟩
  simp [hdigit _ (by omega : n / 16 / 16 / 16 < 16), hdigit _ (by omega : n / 16 / 16 % 16 < 16),
    hdigit _ (by omega : n / 16 % 16 < 16), hdigit _ (by omega : n % 16 < 16)]

/-- A character stands for itself, or is escaped with a backslash in front and
no dash behind it. -/
theorem escapeChar_cases (c : Char) :
    escapeChar c = [c] ∨ ((escapeChar c).head? = some '\\' ∧ '-' ∉ escapeChar c) := by
  unfold escapeChar
  split_ifs with h1 h2 h3 h4 h5 h6 h7 h8
  iterate 7 exact .inr (by decide)
  · exact .inl rfl
  · have hvalid := toNat_valid c
    right
    unfold escapeCode
    split_ifs with hlt
    · exact escapedUnit hlt
    · have hhigh : 0xD800 + (c.toNat - 0x10000) / 0x400 < 0x10000 := by omega
      have hlow : 0xDC00 + (c.toNat - 0x10000) % 0x400 < 0x10000 := by omega
      rw [List.head?_append_of_ne_nil _ (by simp), List.mem_append, not_or]
      exact ⟨(escapedUnit hhigh).1, (escapedUnit hhigh).2, (escapedUnit hlow).2⟩

variable {u : Text} (h : IsStageOption u)
include h

/-- Escapes make no option of anything but the option. -/
theorem keeps_escapeChar : Text.Keeps (fun c piece => piece = escapeChar c) id u := by
  have hall : "-fromFROM=".toList.all (fun c => escapeChar c = [c]) = true := by decide
  constructor
  · rintro c _ rfl
    rcases escapeChar_cases c with heq | ⟨hhead, _⟩
    · simp [heq]
    · intro hnil
      rw [hnil] at hhead
      cases hhead
  · rintro c _ rfl hc
    exact of_decide_eq_true (List.all_eq_true.mp hall c (h.mem_letters hc))
  · rintro c _ d rfl hd hhead
    rcases escapeChar_cases c with heq | ⟨hescaped, _⟩
    · rw [heq] at hhead
      exact Option.some.inj hhead
    · rw [hescaped] at hhead
      rw [← Option.some.inj hhead] at hd
      exact absurd hd (h.not_mem (by decide))
  · rintro c _ d rfl hd hmem
    rw [h.head?_eq] at hd
    obtain rfl := Option.some.inj hd
    rcases escapeChar_cases c with heq | ⟨_, hdash⟩
    · rw [heq] at hmem
      exact (List.mem_singleton.mp hmem).symm
    · exact absurd hmem hdash

theorem infix_flatMap_escapeChar (s : Text) : u <:+: s.flatMap escapeChar ↔ u <:+: s := by
  have hpieces : List.Forall₂ (fun c piece => piece = escapeChar c) s (s.map escapeChar) := by
    induction s with
    | nil => exact .nil
    | cons c s ih => exact .cons rfl ih
  rw [List.flatMap_def, (keeps_escapeChar h).infix_iff h.ne_nil hpieces]
  constructor
  · rintro ⟨v, hv, hmap⟩
    rw [List.map_id] at hmap
    exact hmap ▸ hv
  · intro hu
    exact ⟨u, hu, List.map_id u⟩

theorem infix_cons_of_not_letter {c : Char} (hc : c ∉ "-fromFROM=".toList) (s : Text) :
    u <:+: c :: s ↔ u <:+: s := by
  have hsides := Text.infix_append_cons_iff (s := []) (t := s) (h.not_mem hc)
  rw [List.nil_append, List.infix_nil] at hsides
  simp [hsides, h.ne_nil]

theorem infix_renderString_append (s rest : Text) :
    u <:+: renderString s ++ rest ↔ u <:+: s ∨ u <:+: rest := by
  rw [renderString_append, infix_cons_of_not_letter h (by decide),
    Text.infix_append_cons_iff (h.not_mem (by decide)), infix_flatMap_escapeChar h]

theorem infix_renderItems (depth : Nat) (items : List Text) :
    u <:+: renderItems oneLine depth (items.map .str) ++ [']'] ↔ ∃ item ∈ items, u <:+: item := by
  induction items with
  | nil =>
    rw [List.map_nil, renderItems, List.nil_append, infix_cons_of_not_letter h (by decide),
      List.infix_nil]
    simp [h.ne_nil]
  | cons item items ih =>
    rw [List.map_cons, renderItems, renderAt]
    simp only [oneLine, List.cons_append, List.nil_append, List.append_assoc]
    rw [infix_cons_of_not_letter h (by decide), infix_cons_of_not_letter h (by decide),
      infix_renderString_append h, ih]
    simp

theorem infix_renderLine (items : List Text) :
    u <:+: renderLine (.arr (items.map .str)) ↔ ∃ item ∈ items, u <:+: item := by
  unfold renderLine
  cases items with
  | nil =>
    rw [List.map_nil, renderAt]
    change u <:+: ['[', ']'] ↔ _
    rw [infix_cons_of_not_letter h (by decide), infix_cons_of_not_letter h (by decide),
      List.infix_nil]
    simp [h.ne_nil]
  | cons item items =>
    rw [List.map_cons, renderAt, renderAt]
    simp only [oneLine, List.cons_append, List.nil_append, List.append_nil, List.append_assoc]
    rw [infix_cons_of_not_letter h (by decide), infix_renderString_append h,
      infix_renderItems h]
    simp

end Json

theorem namesStage_renderLine (items : List Text) :
    NamesStage (Json.renderLine (.arr (items.map .str))) ↔ ∃ item ∈ items, NamesStage item := by
  constructor
  · rintro ⟨u, hu, hoption⟩
    obtain ⟨item, hitem, hin⟩ := (Json.infix_renderLine hoption items).mp hu
    exact ⟨item, hitem, u, hin, hoption⟩
  · rintro ⟨item, hitem, u, hin, hoption⟩
    exact ⟨u, (Json.infix_renderLine hoption items).mpr ⟨item, hitem, hin⟩, hoption⟩

end ImageLint
