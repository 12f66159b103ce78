-- A declared rule that names a keyword is kept to it when the keyword is known:
-- the name of a kind of instruction, or the word that opens one. Any other
-- keyword stands for all the lines that no rule looks at, so that such a rule
-- fires on lines that have nothing to do with it, unless it never fires at all.
import ImageLint.Proofs.CheckedSettings
import ImageLint.Proofs.KeyByKey
import ImageLint.Proofs.Layout
import ImageLint.Text.Names

namespace ImageLint

open Yaml (Value)

/-! ## Capitals -/

namespace Unicode

/-- The code points that become ASCII letters in upper case and are no capitals:
the small ASCII letters, a dotless i, a long and a sharp s, and ligatures. -/
def becomeAscii : List Nat :=
  List.range' 97 26 ++ [0x131, 0x17F, 0xDF] ++ List.range' 0xFB00 7

theorem toNat_ofNat {code : Nat} (h : code.isValidChar) : (Char.ofNat code).toNat = code := by
  unfold Char.ofNat
  rw [dif_pos h]
  rfl

/-- A run moves its letters to code points of characters, none of which changes
once more into ASCII letters. Its letters become ASCII letters only if it is one
of those listed. -/
theorem upperRuns_checked : ∀ run ∈ upperRuns,
    (0 ≤ run.first + run.distance ∧ run.last + run.distance < 0xD800 ∨
      0xDFFF < run.first + run.distance ∧ run.last + run.distance < 0x110000) ∧
    (∀ code ∈ becomeAscii,
      (code : Int) < run.first + run.distance ∨ run.last + run.distance < code) ∧
    (run.first + run.distance < 128 → run.first = run.last ∧ run.first ∈ becomeAscii) := by
  decide +kernel

theorem upperSequences_checked : ∀ entry ∈ upperSequences,
    (∀ code ∈ entry.2, code.isValidChar ∧ code ∉ becomeAscii) ∧
    ((∀ code ∈ entry.2, code < 128) → entry.1 ∈ becomeAscii) := by
  decide +kernel

/-- The upper case of one character: by the ASCII rule, as a sequence, by a run,
or the character itself. -/
theorem upperChar_cases (c : Char) :
    (c.toNat < 128 ∧ upperChar c = [c.toUpper]) ∨
    (∃ entry ∈ upperSequences, entry.1 = c.toNat ∧ upperChar c = entry.2.map Char.ofNat) ∨
    (∃ run ∈ upperRuns, run.first ≤ c.toNat ∧ c.toNat ≤ run.last ∧
      upperChar c = [Char.ofNat (c.toNat + run.distance).toNat]) ∨
    (128 ≤ c.toNat ∧ c.toNat ∉ becomeAscii ∧ upperChar c = [c]) := by
  unfold upperChar
  by_cases hascii : c.toNat < 128
  · exact .inl ⟨hascii, if_pos hascii⟩
  rw [if_neg hascii]
  cases hlookup : upperSequences.lookup c.toNat with
  | some codes =>
    obtain ⟨before, after, htable, _⟩ := List.lookup_eq_some_iff.mp hlookup
    exact .inr (.inl ⟨(c.toNat, codes), by simp [htable], rfl, rfl⟩)
  | none =>
    unfold CaseRun.apply
    dsimp only
    cases hfind : upperRuns.find? fun run =>
        run.first ≤ c.toNat && c.toNat ≤ run.last && (c.toNat - run.first) % run.step == 0 with
    | some run =>
      have hrun := List.find?_some hfind
      simp only [Bool.and_eq_true, decide_eq_true_eq] at hrun
      exact .inr (.inr (.inl ⟨run, List.mem_of_find?_eq_some hfind, hrun.1.1, hrun.1.2, rfl⟩))
    | none =>
      refine .inr (.inr (.inr ⟨by omega, fun hmem => ?_, by rw [Char.ofNat_toNat]⟩))
      -- Each of them is in one of the tables.
      have hlisted : ∀ code ∈ becomeAscii, 128 ≤ code →
          (upperSequences.lookup code).isSome ∨ (upperRuns.find? fun run =>
            run.first ≤ code && code ≤ run.last && (code - run.first) % run.step == 0).isSome := by
        decide +kernel
      have hsome := hlisted c.toNat hmem (by omega)
      rw [hlookup, hfind] at hsome
      simp at hsome

/-- What upper case gives never becomes an ASCII letter in its turn. -/
theorem not_mem_becomeAscii {c d : Char} (h : d ∈ upperChar c) : d.toNat ∉ becomeAscii := by
  rcases upperChar_cases c with ⟨hascii, hupper⟩ | ⟨entry, hentry, _, hupper⟩ |
    ⟨run, hrun, hfirst, hlast, hupper⟩ | ⟨_, hnot, hupper⟩
  · rw [hupper, List.mem_singleton] at h
    subst h
    have hcapitals : ∀ code < 128, (Char.ofNat code).toUpper.toNat ∉ becomeAscii := by
      decide +kernel
    simpa using hcapitals c.toNat hascii
  · rw [hupper, List.mem_map] at h
    obtain ⟨code, hcode, rfl⟩ := h
    obtain ⟨hvalid, hnot⟩ := (upperSequences_checked entry hentry).1 code hcode
    rwa [toNat_ofNat hvalid]
  · rw [hupper, List.mem_singleton] at h
    subst h
    obtain ⟨hvalid, hapart, _⟩ := upperRuns_checked run hrun
    rw [toNat_ofNat (by unfold Nat.isValidChar; omega)]
    intro hmem
    have := hapart _ hmem
    omega
  · rw [hupper, List.mem_singleton] at h
    rwa [h]

theorem upperChar_eq_self {d : Char} (hnot : d.toNat ∉ becomeAscii)
    (hascii : ∀ e ∈ upperChar d, e.toNat < 128) : upperChar d = [d] := by
  rcases upperChar_cases d with ⟨_, hupper⟩ | ⟨entry, hentry, hkey, hupper⟩ |
    ⟨run, hrun, hfirst, hlast, hupper⟩ | ⟨_, _, hupper⟩
  · rw [hupper]
    rcases Text.toUpper_cases d with hsame | ⟨hlow, hhigh, _⟩
    · rw [hsame]
    · refine absurd ?_ hnot
      unfold becomeAscii
      simp only [List.mem_append, List.mem_range'_1]
      omega
  · obtain ⟨hvalid, hlisted⟩ := upperSequences_checked entry hentry
    refine absurd (hkey ▸ hlisted fun code hcode => ?_) hnot
    have := hascii (Char.ofNat code) (by rw [hupper]; exact List.mem_map_of_mem hcode)
    rwa [toNat_ofNat (hvalid code hcode).1] at this
  · obtain ⟨hvalid, _, hlisted⟩ := upperRuns_checked run hrun
    have hcode := hascii _ (by rw [hupper]; exact List.mem_singleton_self _)
    rw [toNat_ofNat (by unfold Nat.isValidChar; omega)] at hcode
    obtain ⟨hone, hmem⟩ := hlisted (by omega)
    refine absurd ?_ hnot
    rwa [show d.toNat = run.first by omega]
  · exact hupper

end Unicode

/-- A text in upper case that reads as an ASCII word in upper case is that word. -/
theorem upper_upper_of_ascii {s : Text} (h : ∀ c ∈ upper (upper s), c.toNat < 128) :
    upper (upper s) = upper s := by
  have hfixed : ∀ d ∈ upper s, Unicode.upperChar d = [d] := by
    intro d hd
    obtain ⟨c, _, hdc⟩ := List.mem_flatMap.mp hd
    refine Unicode.upperChar_eq_self (Unicode.not_mem_becomeAscii hdc) fun e he => h e ?_
    exact List.mem_flatMap.mpr ⟨d, hd, he⟩
  calc upper (upper s) = (upper s).flatMap fun d => [d] := List.flatMap_congr hfixed
    _ = upper s := List.flatMap_singleton' _

/-! ## Keywords that are known -/

namespace Keyword

/-- The text is the name of a kind, or the word that opens its instructions. -/
def Known (keyword : Text) : Prop :=
  ∃ kind : Keyword, kind.name = keyword ∨ (keyword, kind) ∈ openers

theorem mem_openers_of_lookup {token : Text} {kind : Keyword}
    (h : openers.lookup token = some kind) : (token, kind) ∈ openers := by
  obtain ⟨before, after, htable, _⟩ := List.lookup_eq_some_iff.mp h
  simp [htable]

/-- The words that open instructions are in upper case, and each opens a kind of
its own. -/
theorem openers_checked : ∀ opener ∈ openers,
    opener.1.all (·.toNat < 128) = true ∧ ofToken opener.1 = opener.2 ∧ opener.2 ≠ .unknown ∧
      ∀ other ∈ openers, other.2 = opener.2 → other.1 = opener.1 := by
  decide +kernel

theorem ofName?_eq_some_iff {keyword : Text} {kind : Keyword} :
    ofName? keyword = some kind ↔ kind.name = keyword := by
  constructor
  · intro h
    have hname := List.find?_some h
    exact beq_iff_eq.mp hname
  · rintro rfl
    cases kind <;> rfl

/-- A keyword in upper case that is not known stands for every other line. -/
theorem ofToken_of_not_known {word : Text} (h : ¬ Known (upper word)) :
    ofToken (upper word) = .unknown := by
  unfold ofToken
  cases hlookup : openers.lookup (upper (upper word)) with
  | none => rfl
  | some kind =>
    have hopener := mem_openers_of_lookup hlookup
    have hascii : ∀ c ∈ upper (upper word), c.toNat < 128 := by
      simpa using (openers_checked _ hopener).1
    rw [upper_upper_of_ascii hascii] at hopener
    exact absurd ⟨kind, .inr hopener⟩ h

theorem ofName?_of_not_known {keyword : Text} (h : ¬ Known keyword) : ofName? keyword = none := by
  rw [Option.eq_none_iff_forall_ne_some]
  intro kind hname
  exact h ⟨kind, .inl (ofName?_eq_some_iff.mp hname)⟩

end Keyword

/-! ## Instructions of a keyword -/

/-- The word that a line opens with. -/
def Instruction.opener (i : Instruction) : Text := i.raw.takeWhile (!Text.isBlank ·)

/-- The instruction is a directive that opens with the keyword in any letter
case, or of the kind that the keyword names. -/
def Instruction.IsOf (keyword : Text) (i : Instruction) : Prop :=
  (i.continues = none ∧ upper i.opener = keyword) ∨ i.keyword.name = keyword

namespace BuildScript

/-- Only a directive is of a kind that rules look at, and the word it opens with
says which. -/
theorem ofToken_opener {lines : List Text} {i : Instruction} {kind : Keyword}
    (hi : i ∈ (ofLines lines).instructions) (hkind : i.keyword = kind) (hknown : kind ≠ .unknown) :
    i.continues = none ∧ Keyword.ofToken i.opener = kind := by
  obtain ⟨owner, number, line, _, rfl⟩ := exists_reading hi
  cases owner with
  | some first => exact absurd hkind.symm hknown
  | none =>
    refine ⟨reading_continues none number line, ?_⟩
    rw [Instruction.opener, reading_raw]
    unfold reading directive at hkind
    dsimp only at hkind
    split at hkind
    · split at hkind
      · exact absurd hkind.symm hknown
      · exact absurd hkind.symm hknown
    · split at hkind
      · exact absurd hkind.symm hknown
      · exact hkind

end BuildScript

/-! ## Declared rules -/

namespace Config

variable {source : Text}

/-- A declared rule of settings that were loaded stands in the configuration. -/
theorem exists_loadRule_of_entries [Characters] {before after : Config}
    {entries : List (Value × Value)}
    (h : (loadEntries source before entries).result = .ok after) {rule : CustomRule}
    (hrule : rule ∈ after.customRules) :
    rule ∈ before.customRules ∨ ∃ item, loadRule source item = .ok rule := by
  induction entries generalizing before with
  | nil =>
    cases h
    exact .inl hrule
  | cons entry entries ih =>
    obtain ⟨name, value⟩ := entry
    rw [result_loadEntries_cons] at h
    cases hname : Key.ofValue? name with
    | none =>
      rw [hname] at h
      exact ih h
    | some key =>
      rw [hname] at h
      dsimp only at h
      rw [loadKey_eq, bind_assoc] at h
      obtain ⟨s, hload, h⟩ := bind_eq_ok_iff.mp h
      rw [pure_bind] at h
      rcases ih h with hput | hitem
      · by_cases hkey : key = .customRules
        · subst hkey
          cases value with
          | list items =>
            obtain ⟨item, _, hitem⟩ := exists_of_mem_mapM hload hput
            exact .inr ⟨item, hitem⟩
          | _ => cases hload
        · have hkept := setting_put_of_ne before (Ne.symm hkey) s
          have hsame : (before.put key s).customRules = before.customRules := hkept
          exact .inl (hsame ▸ hput)
      · exact .inr hitem

theorem exists_loadRule [Characters] {value : Value} {config : Config} {rule : CustomRule}
    (h : (loadValue source value).result = .ok config) (hrule : rule ∈ config.customRules) :
    ∃ item, loadRule source item = .ok rule := by
  cases value with
  | map entries =>
    rcases exists_loadRule_of_entries h hrule with hdefault | hitem
    · cases hdefault
    · exact hitem
  | _ => cases h

/-- The keyword of a declared rule is kept in upper case. -/
theorem keyword_of_loadRule [Characters] {item : Value} {rule : CustomRule} {keyword : Text}
    (h : loadRule source item = .ok rule) (hkeyword : rule.keyword = some keyword) :
    ∃ word, keyword = upper word := by
  rw [(ruleLoaded h).keyword] at hkeyword
  obtain ⟨word, _, hword⟩ := Option.map_eq_some_iff.mp hkeyword
  exact ⟨word.text, hword.symm⟩

end Config

namespace Rules

/-- What a declared rule reports of an instruction. -/
def reportOn (rule : CustomRule) (i : Instruction) : Finding :=
  { ruleId := rule.ruleId
    severity := rule.severity
    message := rule.message
    lines := Finding.refs [i.line]
    topic := 14 }

variable {rule : CustomRule} {pattern : Pattern} {script : BuildScript}

/-- A declared rule reports each instruction of its kind that its pattern
matches. -/
theorem customRule_eq [Characters] (hread : Pattern.read rule.pattern = .ok pattern) :
    customRule script rule = .ok ((script.instructions.filter fun i =>
      isOfKind (keywordOf rule) i && pattern.matchesIn i.raw).map (reportOn rule)) := by
  unfold customRule matchingLines
  rw [hread]
  simp only [Except.bind, bind, pure, Except.pure, List.map_map]
  rfl

theorem keywordOf_eq {keyword : Text} (h : rule.keyword = some keyword) (hne : keyword ≠ []) :
    keywordOf rule = some ((Keyword.ofName? keyword).getD (Keyword.ofToken keyword)) := by
  unfold keywordOf
  rw [h]
  cases keyword with
  | nil => exact absurd rfl hne
  | cons c rest => rfl

/-- A keyword that is known limits a rule to the kind that it names or opens. -/
theorem keywordOf_of_known {keyword : Text} (h : rule.keyword = some keyword)
    (hknown : Keyword.Known keyword) :
    ∃ kind, keywordOf rule = some kind ∧
      (kind.name = keyword ∨ (keyword, kind) ∈ Keyword.openers) := by
  obtain ⟨kind, hkind⟩ := hknown
  have hne : keyword ≠ [] := by
    rintro rfl
    rcases hkind with hname | hopener
    · cases kind <;> cases hname
    · exact absurd hopener (by cases kind <;> decide)
  rw [keywordOf_eq h hne]
  cases hname : Keyword.ofName? keyword with
  | some named => exact ⟨named, rfl, .inl (Keyword.ofName?_eq_some_iff.mp hname)⟩
  | none =>
    rcases hkind with rfl | hopener
    · rw [Keyword.ofName?_eq_some_iff.mpr rfl] at hname
      cases hname
    · refine ⟨kind, ?_, .inr hopener⟩
      rw [Option.getD_none, (Keyword.openers_checked _ hopener).2.1]

/-- A rule with a keyword that is known reports instructions of that keyword
only. -/
theorem isOf_of_known {lines : List Text} {keyword : Text} (h : rule.keyword = some keyword)
    (hknown : Keyword.Known keyword) {i : Instruction}
    (hi : i ∈ (BuildScript.ofLines lines).instructions)
    (hkind : isOfKind (keywordOf rule) i = true) : i.IsOf keyword := by
  obtain ⟨kind, hlimit, hname | hopener⟩ := keywordOf_of_known h hknown
  · rw [hlimit] at hkind
    have hsame : i.keyword = kind := beq_iff_eq.mp hkind
    exact .inr (by rw [hsame, hname])
  · rw [hlimit] at hkind
    have hsame : i.keyword = kind := beq_iff_eq.mp hkind
    obtain ⟨_, _, hlooked, hown⟩ := Keyword.openers_checked _ hopener
    obtain ⟨hdirective, htoken⟩ := BuildScript.ofToken_opener hi hsame hlooked
    refine .inl ⟨hdirective, ?_⟩
    unfold Keyword.ofToken at htoken
    cases hlookup : Keyword.openers.lookup (upper i.opener) with
    | none =>
      rw [hlookup] at htoken
      exact absurd htoken.symm hlooked
    | some other =>
      rw [hlookup] at htoken
      exact hown _ (Keyword.mem_openers_of_lookup hlookup) htoken

/-- A command that goes on in a second line. -/
theorem instructions_continued {text : Text} (hbare : text.Bare) (hhash : text.head? ≠ some '#') :
    (BuildScript.ofLines ["RUN \\".toList, text]).instructions =
      [BuildScript.directive 1 "RUN \\", BuildScript.continuation 1 2 text] := by
  have hsecond : BuildScript.readAt (text, 2) = some (2, text) := by
    unfold BuildScript.readAt BuildScript.significantAt
    rw [if_neg (by simp), Text.significant?_of_strip hbare hhash
      (Text.strip_eq_self hbare.starts hbare.ends)]
    rfl
  have hlines : BuildScript.significantLines ["RUN \\".toList, text] =
      [(1, "RUN \\".toList), (2, text)] := by
    rw [BuildScript.significantLines_readAt]
    simp only [List.zipIdx_cons, List.zipIdx_nil, List.filterMap_cons, List.filterMap_nil, hsecond]
    rfl
  unfold BuildScript.ofLines
  rw [hlines]
  rfl

/-- A rule with a keyword that is not known fires on every line that continues
another and that its pattern matches. -/
theorem isOfKind_continuation {word : Text} (h : rule.keyword = some (upper word))
    (hknown : ¬ Keyword.Known (upper word)) (owner number : Nat) (line : Text) :
    isOfKind (keywordOf rule) (BuildScript.continuation owner number line) = true := by
  by_cases hne : upper word = []
  · unfold keywordOf
    rw [h, hne]
    rfl
  · rw [keywordOf_eq h hne, Keyword.ofName?_of_not_known hknown,
      Keyword.ofToken_of_not_known hknown]
    rfl

end Rules

/-! ## The law -/

/-- A declared rule with a keyword reports instructions of that keyword only,
on every script, exactly when the keyword is known or the rule never reports
anything. -/
theorem rules_keep_to_a_keyword_exactly_when_it_is_known [Characters] {source : Text}
    {value : Value} {config : Config} {rule : CustomRule} {keyword : Text}
    (hload : (Config.loadValue source value).result = .ok config)
    (hrule : rule ∈ config.customRules) (hkeyword : rule.keyword = some keyword) :
    (∀ lines found, Rules.customRule (.ofLines lines) rule = .ok found → ∀ f ∈ found,
        ∃ i ∈ (BuildScript.ofLines lines).instructions,
          f.lines = Finding.refs [i.line] ∧ i.IsOf keyword) ↔
      Keyword.Known keyword ∨ ∀ lines, Rules.customRule (.ofLines lines) rule = .ok [] := by
  obtain ⟨pattern, hread⟩ := ((Config.checked_of_loadValue hload).customRules rule hrule).pattern
  obtain ⟨item, hitem⟩ := Config.exists_loadRule hload hrule
  obtain ⟨word, rfl⟩ := Config.keyword_of_loadRule hitem hkeyword
  constructor
  · intro hkept
    by_contra hnot
    rw [not_or, not_forall] at hnot
    obtain ⟨hunknown, lines, hfires⟩ := hnot
    rw [Rules.customRule_eq hread] at hfires
    obtain ⟨f, hf⟩ := List.exists_mem_of_ne_nil _ fun hnil => hfires (congrArg Except.ok hnil)
    obtain ⟨i, hi, rfl⟩ := List.mem_map.mp hf
    obtain ⟨hi, hmatch⟩ := List.mem_filter.mp hi
    rw [Bool.and_eq_true] at hmatch
    -- The line that is matched could as well continue a command, which makes it none of
    -- the keyword.
    obtain ⟨hbare, hhash⟩ := BuildScript.raw_bare hi
    have hscript := Rules.instructions_continued hbare hhash
    have hreported : Rules.reportOn rule (BuildScript.continuation 1 2 i.raw) ∈
        ((BuildScript.ofLines ["RUN \\".toList, i.raw]).instructions.filter fun i =>
          Rules.isOfKind (Rules.keywordOf rule) i && pattern.matchesIn i.raw).map
            (Rules.reportOn rule) := by
      rw [hscript]
      refine List.mem_map_of_mem (List.mem_filter.mpr ⟨List.mem_of_getElem? (i := 1) rfl, ?_⟩)
      rw [Rules.isOfKind_continuation hkeyword hunknown, Bool.true_and]
      exact hmatch.2
    obtain ⟨other, hother, hlines, hof⟩ := hkept _ _ (Rules.customRule_eq hread) _ hreported
    rw [hscript] at hother
    rcases List.mem_cons.mp hother with rfl | hother
    · cases hlines
    · obtain rfl := List.mem_singleton.mp hother
      rcases hof with ⟨hdirective, _⟩ | hname
      · cases hdirective
      · exact hunknown ⟨.unknown, .inl hname⟩
  · rintro (hknown | hsilent) lines found hfound f hf
    · rw [Rules.customRule_eq hread] at hfound
      cases hfound
      obtain ⟨i, hi, rfl⟩ := List.mem_map.mp hf
      obtain ⟨hi, hmatch⟩ := List.mem_filter.mp hi
      rw [Bool.and_eq_true] at hmatch
      exact ⟨i, hi, rfl, Rules.isOf_of_known hkeyword hknown hi hmatch.1⟩
    · rw [hsilent lines] at hfound
      cases hfound
      cases hf

/-- A rule for the lines that open with `ENV`. -/
def envRule : Value :=
  .map [(.str "custom_rules", .list [.map [
    (.str "id", .str "env"), (.str "pattern", .str "x"), (.str "keyword", .str "env")]])]

/-- A rule for the lines that open with `from`. -/
def fromRule : Value :=
  .map [(.str "custom_rules", .list [.map [
    (.str "id", .str "from"), (.str "pattern", .str "x"), (.str "keyword", .str "from")]])]

open scoped Characters

/-- The keyword is known in any letter case, so the rule keeps to it. -/
theorem a_rule_for_base_images_keeps_to_them :
    ∃ config rule, (Config.loadValue "<config>" fromRule).result = .ok config ∧
      rule ∈ config.customRules ∧ rule.keyword = some "FROM".toList ∧
      ∀ lines found, Rules.customRule (.ofLines lines) rule = .ok found → ∀ f ∈ found,
        ∃ i ∈ (BuildScript.ofLines lines).instructions,
          f.lines = Finding.refs [i.line] ∧ i.IsOf "FROM" := by
  have hload : (Config.loadValue "<config>" fromRule).result = .ok
      { customRules := [⟨"from", .warning, "x", "Custom rule matched.", some "FROM".toList⟩] } := by
    rfl
  refine ⟨_, _, hload, List.mem_singleton_self _, rfl, ?_⟩
  refine (rules_keep_to_a_keyword_exactly_when_it_is_known hload (List.mem_singleton_self _)
    rfl).mpr (.inl ⟨.baseImage, .inr ?_⟩)
  decide

/-- A rule for `ENV` fires on a `CMD`. -/
theorem a_rule_for_ENV_fires_on_CMD :
    ¬ ∀ config rule keyword, (Config.loadValue "<config>" envRule).result = .ok config →
      rule ∈ config.customRules → rule.keyword = some keyword →
      ∀ lines found, Rules.customRule (.ofLines lines) rule = .ok found → ∀ f ∈ found,
        ∃ i ∈ (BuildScript.ofLines lines).instructions,
          f.lines = Finding.refs [i.line] ∧ i.IsOf keyword := by
  intro h
  have hload : (Config.loadValue "<config>" envRule).result = .ok
      { customRules := [⟨"env", .warning, "x", "Custom rule matched.", some "ENV".toList⟩] } := by
    rfl
  obtain ⟨i, hi, _, hof⟩ := h _ _ _ hload (List.mem_singleton_self _) rfl ["CMD x".toList]
    [⟨"env", .warning, "Custom rule matched.", [1], 14, none, false⟩] (by rfl) _
    (List.mem_singleton_self _)
  obtain rfl : i = BuildScript.directive 1 "CMD x" := List.mem_singleton.mp hi
  rcases hof with ⟨_, hopener⟩ | hname
  · exact absurd hopener (by decide)
  · exact absurd hname (by decide)

end ImageLint
