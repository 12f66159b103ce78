-- The report for people shows every finding once, by topic in ascending
-- order and as found within a topic. A run finds in the order of the topics,
-- so that its two reports list its findings in one order.
import Mathlib.Data.List.Sort
import ImageLint.Proofs.Locations
import ImageLint.Proofs.MachineReport
import ImageLint.Report.Human
import ImageLint.Text.Names

namespace ImageLint

namespace Report

/-! ## Findings in the order of their topics -/

/-- The topics of the findings do not descend. -/
def Ascending (findings : List Finding) : Prop := findings.Pairwise fun f g => f.topic ≤ g.topic

/-- The first finding may stand before the second. -/
def mayPrecede (f g : Finding) : Bool := f.topic ≤ g.topic

theorem mayPrecede_trans (f g h : Finding) :
    mayPrecede f g = true → mayPrecede g h = true → mayPrecede f h = true := by
  simpa [mayPrecede] using Int.le_trans

theorem mayPrecede_total (f g : Finding) : (mayPrecede f g || mayPrecede g f) = true := by
  simpa [mayPrecede] using Int.le_total f.topic g.topic

/-- The findings in the order of their topics; those of one topic stay in the
order they have. -/
def byTopic (findings : List Finding) : List Finding := findings.mergeSort mayPrecede

/-- The findings of one topic. -/
def ofTopic (findings : List Finding) (topic : Int) : List Finding :=
  findings.filter (·.topic == topic)

theorem topic_of_mem_ofTopic {findings : List Finding} {topic : Int} {f : Finding}
    (h : f ∈ ofTopic findings topic) : f.topic = topic :=
  eq_of_beq (List.mem_filter.mp h).2

theorem ascending_of_topic {findings : List Finding} {topic : Int}
    (h : ∀ f ∈ findings, f.topic = topic) : Ascending findings :=
  List.pairwise_of_forall_mem_list fun f hf g hg => by rw [h f hf, h g hg]

theorem ascending_ofTopic (findings : List Finding) (topic : Int) :
    Ascending (ofTopic findings topic) :=
  ascending_of_topic fun _ => topic_of_mem_ofTopic

theorem ascending_byTopic (findings : List Finding) : Ascending (byTopic findings) :=
  (List.pairwise_mergeSort mayPrecede_trans mayPrecede_total findings).imp of_decide_eq_true

theorem byTopic_of_ascending {findings : List Finding} (h : Ascending findings) :
    byTopic findings = findings :=
  List.mergeSort_of_pairwise (h.imp decide_eq_true)

/-- Sorting leaves the findings of one topic as they are. -/
theorem ofTopic_byTopic (findings : List Finding) (topic : Int) :
    ofTopic (byTopic findings) topic = ofTopic findings topic := by
  have hperm : (byTopic findings).Perm findings := List.mergeSort_perm _ _
  have hsub : (ofTopic findings topic).Sublist (byTopic findings) :=
    List.sublist_mergeSort mayPrecede_trans mayPrecede_total
      ((ascending_ofTopic findings topic).imp decide_eq_true) List.filter_sublist
  have hkept := hsub.filter (·.topic == topic)
  unfold ofTopic at hkept ⊢
  rw [List.filter_filter] at hkept
  simp only [Bool.and_self] at hkept
  exact (hkept.eq_of_length (hperm.filter _).length_eq.symm).symm

/-- A finding of one of two sequences with the same findings of each topic is
one of the other. -/
theorem mem_of_ofTopic_eq {findings others : List Finding}
    (h : ∀ topic, ofTopic findings topic = ofTopic others topic) {f : Finding}
    (hf : f ∈ findings) : f ∈ others := by
  have hown : f ∈ ofTopic findings f.topic := List.mem_filter.mpr ⟨hf, beq_self_eq_true _⟩
  rw [h] at hown
  exact List.mem_of_mem_filter hown

theorem topic_le_of_mem {f g : Finding} {rest : List Finding} (h : Ascending (f :: rest))
    (hg : g ∈ f :: rest) : f.topic ≤ g.topic := by
  rcases List.mem_cons.mp hg with rfl | hg
  · exact Int.le_refl _
  · exact List.rel_of_pairwise_cons h hg

/-- Findings in the order of their topics are known from those of each
topic. -/
theorem eq_of_ofTopic_eq {findings others : List Finding} (hfindings : Ascending findings)
    (hothers : Ascending others) (h : ∀ topic, ofTopic findings topic = ofTopic others topic) :
    findings = others := by
  induction findings generalizing others with
  | nil =>
    refine (List.eq_nil_iff_forall_not_mem.mpr fun f hf => ?_).symm
    exact List.not_mem_nil (mem_of_ofTopic_eq (fun topic => (h topic).symm) hf)
  | cons f rest ih =>
    cases others with
    | nil => exact absurd (mem_of_ofTopic_eq h List.mem_cons_self) List.not_mem_nil
    | cons g more =>
      -- both start with a finding of the least topic, and with the same one of it
      have hle := topic_le_of_mem hfindings
        (mem_of_ofTopic_eq (fun topic => (h topic).symm) List.mem_cons_self)
      have hge := topic_le_of_mem hothers (mem_of_ofTopic_eq h List.mem_cons_self)
      have hheads := h f.topic
      simp only [ofTopic, List.filter_cons, Int.le_antisymm hle hge, beq_self_eq_true, if_true,
        List.cons.injEq] at hheads
      obtain ⟨rfl, _⟩ := hheads
      rw [ih hfindings.of_cons hothers.of_cons fun topic => ?_]
      have hboth := h topic
      simp only [ofTopic, List.filter_cons] at hboth ⊢
      split at hboth
      · exact List.tail_eq_of_cons_eq hboth
      · exact hboth

/-! ## The topics of a report -/

theorem topicsOf_perm (findings : List Finding) :
    (topicsOf findings).Perm
      (standardTopics.map Prod.fst ++ findings.map (·.topic)).eraseDups :=
  List.mergeSort_perm _ _

theorem topicsOf_increasing (findings : List Finding) : (topicsOf findings).Pairwise (· < ·) := by
  have hsorted : (topicsOf findings).Pairwise (· ≤ ·) := List.pairwise_mergeSort' (· ≤ ·) _
  have hnodup : (topicsOf findings).Nodup :=
    (topicsOf_perm findings).nodup_iff.mpr (Rules.nodup_eraseDups _)
  exact hsorted.imp₂ (fun _ _ => lt_of_le_of_ne) hnodup

theorem mem_topicsOf (findings : List Finding) (topic : Int) :
    topic ∈ topicsOf findings ↔
      topic ∈ standardTopics.map Prod.fst ∨ ∃ f ∈ findings, f.topic = topic := by
  rw [(topicsOf_perm findings).mem_iff, List.mem_eraseDups, List.mem_append,
    List.mem_map (f := Finding.topic)]

/-! ## The findings topic by topic -/

theorem ofTopic_ofTopic (findings : List Finding) (topic other : Int) :
    ofTopic (ofTopic findings topic) other =
      if topic = other then ofTopic findings other else [] := by
  split
  next h =>
    subst h
    simp [ofTopic]
  next h =>
    refine List.filter_eq_nil_iff.mpr fun f hf => ?_
    rw [topic_of_mem_ofTopic hf]
    simpa using h

theorem ofTopic_flatMap (findings : List Finding) {topics : List Int} (h : topics.Nodup)
    (topic : Int) :
    ofTopic (topics.flatMap (ofTopic findings)) topic =
      if topic ∈ topics then ofTopic findings topic else [] := by
  induction topics with
  | nil => rfl
  | cons first rest ih =>
    obtain ⟨hfirst, hrest⟩ := List.nodup_cons.mp h
    have hhead := ofTopic_ofTopic findings first topic
    have htail := ih hrest
    unfold ofTopic at hhead htail ⊢
    rw [List.flatMap_cons, List.filter_append, hhead, htail]
    by_cases heq : first = topic
    · subst heq
      simp [hfirst]
    · simp [heq, Ne.symm heq]

theorem ascending_flatMap (findings : List Finding) {topics : List Int}
    (h : topics.Pairwise (· < ·)) : Ascending (topics.flatMap (ofTopic findings)) := by
  refine List.pairwise_flatMap.mpr
    ⟨fun topic _ => ascending_ofTopic findings topic, h.imp fun hlt f hf g hg => ?_⟩
  rw [topic_of_mem_ofTopic hf, topic_of_mem_ofTopic hg]
  exact Int.le_of_lt hlt

/-- Going through the topics of a report in order, and through the findings of
each, is going through the findings in the order of their topics. -/
theorem flatMap_topicsOf (findings : List Finding) :
    (topicsOf findings).flatMap (ofTopic findings) = byTopic findings := by
  have hincreasing := topicsOf_increasing findings
  refine eq_of_ofTopic_eq (ascending_flatMap findings hincreasing) (ascending_byTopic findings)
    fun topic => ?_
  rw [ofTopic_flatMap findings (hincreasing.imp Int.ne_of_lt), ofTopic_byTopic]
  split
  next => rfl
  next hnone =>
    refine (List.filter_eq_nil_iff.mpr fun f hf htopic => hnone ?_).symm
    exact (mem_topicsOf findings topic).mpr (.inr ⟨f, hf, eq_of_beq htopic⟩)

/-! ## What is shown -/

/-- The marker of a finding and its colour. A check that passed has a marker of
its own; the others go by the severity. -/
inductive Marked (f : Finding) : Text → Colour → Prop
  | passed (h : f.passed = true) : Marked f "✔ PASS" .green
  | error (h : f.passed = false) (hseverity : f.severity = .error) : Marked f "✖ ERROR" .red
  | warning (h : f.passed = false) (hseverity : f.severity = .warning) :
      Marked f "⚠ WARNING" .yellow
  | info (h : f.passed = false) (hseverity : f.severity = .info) : Marked f "ℹ INFO" .blue

/-- What is said of the lines that a finding is about. -/
inductive LinesTold : List Int → Text → Prop
  | none : LinesTold [] []
  | one (line : Int) : LinesTold [line] (" (line: " ++ Text.ofInt line ++ ")")
  | several {lines : List Int} (h : 2 ≤ lines.length) :
      LinesTold lines (" (lines: " ++ Text.joinWith ", " (lines.map Text.ofInt) ++ ")")

/-- The lines that show a tip: each of its own lines once. -/
inductive TipShown (style : Style) : Option Text → List Text → Prop
  | none : TipShown style none []
  | empty : TipShown style (some []) []
  | some {tip first : Text} {rest : List Text} (hlines : Text.lines tip = first :: rest) :
      TipShown style (some tip) (style { colour := some .cyan } ("  → TIP: " ++ first) ::
        rest.map fun line => style { colour := some .cyan } ("      " ++ line))

/-- The lines that show a finding: one with its marker, its message, the lines
that it is about and in detail the id of its rule, and then its tip. -/
inductive FindingShown (style : Style) (verbose : Bool) (f : Finding) : List Text → Prop
  | intro {mark told : Text} {colour : Colour} {tip : List Text} (hmark : Marked f mark colour)
      (htold : LinesTold f.lines told) (htip : TipShown style f.tip tip) :
      FindingShown style verbose f (style { colour := some colour }
        ("  " ++ mark ++ ": " ++ f.message ++ told ++
          if verbose then " [" ++ f.ruleId ++ "]" else []) :: tip)

/-- The heading of a topic. -/
inductive Titled : Int → Text → Prop
  | exclusions : Titled 0 "--- .dockerignore file ---"
  | known {topic : Int} {title : Text} (hzero : topic ≠ 0)
      (h : (topic, title) ∈ standardTopics ++ extraTopics) :
      Titled topic ("[Check " ++ Text.ofInt topic ++ "] " ++ title)
  | other {topic : Int} (h : topic ∉ (standardTopics ++ extraTopics).map Prod.fst) :
      Titled topic ("[Check " ++ Text.ofInt topic ++ "] " ++ "Other")

/-- A part of the body of the report. -/
inductive Piece where
  | heading (topic : Int)
  | finding (f : Finding)
  /-- The remark that a topic has no findings. -/
  | nothing

namespace Piece

/-- The lines that show a part. -/
inductive Shown (style : Style) (verbose : Bool) : Piece → List Text → Prop
  | heading {topic : Int} {title : Text} (h : Titled topic title) :
      Shown style verbose (.heading topic) [[], style { bold := true } title]
  | finding {f : Finding} {lines : List Text} (h : FindingShown style verbose f lines) :
      Shown style verbose (.finding f) lines
  | nothing : Shown style verbose .nothing [style { dim := true } "  no findings"]

/-- The lines that a report has for a part. -/
def lines (style : Style) (verbose : Bool) : Piece → List Text
  | .heading topic => [[], style.bold (topicHeading topic)]
  | .finding f => findingLines style verbose f
  | .nothing => [style.dim "  no findings"]

/-- The topic that a part is the heading of. -/
def heading? : Piece → Option Int
  | .heading topic => some topic
  | _ => none

/-- The finding that a part shows. -/
def finding? : Piece → Option Finding
  | .finding f => some f
  | _ => none

end Piece

section

variable (style : Style)

theorem marked_marker (f : Finding) : Marked f (marker f).1 (marker f).2 := by
  unfold marker
  cases hpassed : f.passed with
  | true => exact .passed hpassed
  | false =>
    cases hseverity : f.severity with
    | error => exact .error hpassed hseverity
    | warning => exact .warning hpassed hseverity
    | info => exact .info hpassed hseverity

theorem linesTold_lineSuffix (f : Finding) : LinesTold f.lines (lineSuffix f) := by
  unfold lineSuffix
  rcases hlines : f.lines with _ | ⟨line, _ | ⟨next, rest⟩⟩
  · exact .none
  · simpa [Text.joinWith] using LinesTold.one line
  · exact .several (by simp)

/-- A tip with some text has a first line to show. -/
theorem tipShown_tipLines (tip : Option Text) :
    TipShown style tip (tipLines style (tip.getD [])) := by
  match tip with
  | none => exact .none
  | some [] => exact .empty
  | some (c :: tip) =>
    rcases hlines : Text.lines (c :: tip) with _ | ⟨first, rest⟩
    · cases (Text.lines_eq_nil_iff _).mp hlines
    · rw [Option.getD_some, tipLines, hlines]
      exact .some hlines

theorem findingShown_findingLines (verbose : Bool) (f : Finding) :
    FindingShown style verbose f (findingLines style verbose f) := by
  have hshown : FindingShown style verbose f _ :=
    .intro (marked_marker f) (linesTold_lineSuffix f) (tipShown_tipLines style f.tip)
  unfold findingLines
  cases verbose <;> simpa [Style.coloured] using hshown

theorem titled_topicHeading (topic : Int) : Titled topic (topicHeading topic) := by
  unfold topicHeading
  by_cases hzero : topic = 0
  · subst hzero
    exact .exclusions
  · dsimp only
    rw [if_neg hzero]
    cases htitle : (standardTopics ++ extraTopics).lookup topic with
    | none =>
      refine .other fun hmem => ?_
      obtain ⟨entry, hentry, rfl⟩ := List.mem_map.mp hmem
      simpa using List.lookup_eq_none_iff.mp htitle entry hentry
    | some title =>
      obtain ⟨before, after, hsplit, _⟩ := List.lookup_eq_some_iff.mp htitle
      exact .known hzero (by rw [hsplit]; simp)

theorem shown_lines (verbose : Bool) (piece : Piece) :
    piece.Shown style verbose (piece.lines style verbose) := by
  cases piece with
  | heading topic => exact .heading (titled_topicHeading topic)
  | finding f => exact .finding (findingShown_findingLines style verbose f)
  | nothing => exact .nothing

end

/-! ## The body of the report -/

/-- The parts under the heading of a topic: its findings, or the remark that
there are none. -/
def piecesBelow (findings : List Finding) (topic : Int) : List Piece :=
  if ∃ f ∈ findings, f.topic = topic then (ofTopic findings topic).map .finding else [.nothing]

/-- The parts of the body of the report. -/
def body (findings : List Finding) : List Piece :=
  (topicsOf findings).flatMap fun topic => .heading topic :: piecesBelow findings topic

theorem ofTopic_eq_nil_iff (findings : List Finding) (topic : Int) :
    ofTopic findings topic = [] ↔ ¬ ∃ f ∈ findings, f.topic = topic := by
  simp [ofTopic]

theorem topicLines_eq (style : Style) (verbose : Bool) (findings : List Finding) (topic : Int) :
    topicLines style verbose findings topic =
      (Piece.heading topic :: piecesBelow findings topic).flatMap (Piece.lines style verbose) := by
  have hnil := ofTopic_eq_nil_iff findings topic
  unfold topicLines piecesBelow
  dsimp only
  rw [← ofTopic, List.flatMap_cons]
  by_cases hfound : ∃ f ∈ findings, f.topic = topic
  · rw [if_pos hfound, List.flatMap_map, if_neg (by simpa [hnil] using hfound)]
    rfl
  · rw [if_neg hfound, hnil.mpr hfound]
    rfl

/-- The text shows the body of the report for a verdict, part by part. -/
def ShowsBody (style : Style) (columns : Int) (scriptName exclusionName : Text) (verdict : Verdict)
    (verbose : Bool) (text : Text) : Prop :=
  ∃ shown, List.Forall₂ (Piece.Shown style verbose) (body verdict.findings) shown ∧
    text = Text.joinWith ['\n'] (openingLines columns scriptName exclusionName ++ shown.flatten ++
      closingLines style columns verdict)

theorem showsBody_human (style : Style) (columns : Int) (scriptName exclusionName : Text)
    (verdict : Verdict) (verbose : Bool) :
    ShowsBody style columns scriptName exclusionName verdict verbose
      (human style columns scriptName exclusionName verdict verbose) := by
  refine ⟨(body verdict.findings).map (Piece.lines style verbose), ?_, ?_⟩
  · rw [List.forall₂_map_right_iff]
    exact List.forall₂_same.mpr fun piece _ => shown_lines style verbose piece
  · rw [← List.flatMap_def, body, List.flatMap_assoc,
      ← funext (topicLines_eq style verbose verdict.findings)]
    rfl

/-! ## What the body shows -/

theorem filterMap_finding?_piecesBelow (findings : List Finding) (topic : Int) :
    (piecesBelow findings topic).filterMap Piece.finding? = ofTopic findings topic := by
  unfold piecesBelow
  split
  next =>
    rw [List.filterMap_map]
    exact List.filterMap_some
  next hnone => exact ((ofTopic_eq_nil_iff findings topic).mpr hnone).symm

theorem filterMap_heading?_piecesBelow (findings : List Finding) (topic : Int) :
    (piecesBelow findings topic).filterMap Piece.heading? = [] := by
  unfold piecesBelow
  split
  next => simp [Piece.heading?]
  next => rfl

theorem filterMap_finding?_body (findings : List Finding) :
    (body findings).filterMap Piece.finding? = byTopic findings := by
  rw [← flatMap_topicsOf, body, List.filterMap_flatMap]
  simp only [List.filterMap_cons, Piece.finding?, filterMap_finding?_piecesBelow]

theorem filterMap_heading?_body (findings : List Finding) :
    (body findings).filterMap Piece.heading? = topicsOf findings := by
  rw [body, List.filterMap_flatMap]
  simp only [List.filterMap_cons, Piece.heading?, filterMap_heading?_piecesBelow]
  exact List.flatMap_singleton' _

/-- The parts show the findings by topic. -/
structure ListsByTopic (findings : List Finding) (pieces : List Piece) : Prop where
  /-- Each finding once, in the order of a stable sort. -/
  sorted : pieces.filterMap Piece.finding? = findings.mergeSort fun f g => f.topic ≤ g.topic
  increasing : (pieces.filterMap Piece.heading?).Pairwise (· < ·)
  mem_headings : ∀ topic, topic ∈ pieces.filterMap Piece.heading? ↔
    0 ≤ topic ∧ topic ≤ 12 ∨ ∃ f ∈ findings, f.topic = topic
  below : pieces = (pieces.filterMap Piece.heading?).flatMap fun topic =>
    .heading topic :: piecesBelow findings topic

theorem mem_standardTopics (topic : Int) :
    topic ∈ standardTopics.map Prod.fst ↔ 0 ≤ topic ∧ topic ≤ 12 := by
  have htopics : standardTopics.map Prod.fst = [0, 1, 2, 3, 4, 5, 6, 7, 8, 9, 10, 11, 12] := rfl
  simp only [htopics, List.mem_cons, List.not_mem_nil, or_false]
  omega

theorem listsByTopic_body (findings : List Finding) : ListsByTopic findings (body findings) where
  sorted := filterMap_finding?_body findings
  increasing := by
    rw [filterMap_heading?_body]
    exact topicsOf_increasing findings
  mem_headings topic := by rw [filterMap_heading?_body, mem_topicsOf, mem_standardTopics]
  below := by
    rw [filterMap_heading?_body]
    rfl

end Report

/-! ## The topics of a run -/

/-- The rules of the catalog stand in the order of the sections that they
write to. -/
theorem catalog_ascends [Characters] (subject : Subject) :
    catalog.Pairwise fun rule rule' => ∀ found found',
      rule.check subject = .ok found → rule'.check subject = .ok found' →
        ∀ f ∈ found, ∀ g ∈ found', f.topic ≤ g.topic := by
  have hfits := catalog_fits subject
  have hsorted : catalogTopics.Pairwise (· ≤ ·) := by decide
  rw [List.pairwise_iff_getElem] at hsorted ⊢
  intro i j hi hj hij found found' hfound hfound' f hf g hg
  rw [(hfits.get hi (hfits.length_eq ▸ hi) found hfound f hf).topic_eq,
    (hfits.get hj (hfits.length_eq ▸ hj) found' hfound' g hg).topic_eq]
  exact hsorted i j _ _ hij

variable {subject : Subject} {f : Finding}

theorem Subject.FoundByCatalog.topic_mem [Characters] (h : subject.FoundByCatalog f) :
    f.topic ∈ catalogTopics := by
  obtain ⟨rule, hrule, found, hfound, hf⟩ := h
  obtain ⟨topic, htopic, hfits⟩ := exists_fits (List.mem_of_mem_filter hrule) subject
  rw [(hfits found hfound f hf).topic_eq]
  exact htopic

theorem catalogTopics_bounds : ∀ topic ∈ catalogTopics, 0 ≤ topic ∧ topic ≤ 13 := by decide

theorem topic_bounds [Characters] (h : subject.FoundByCatalog f ∨ subject.FoundByDeclaration f) :
    0 ≤ f.topic ∧ f.topic ≤ 14 := by
  rcases h with h | h
  · have hbounds := catalogTopics_bounds f.topic h.topic_mem
    omega
  · have htopic := h.declares.topic_eq
    omega

/-- A run finds in the order of the topics. -/
theorem ascending_findings [Characters] {found : List Finding} (h : subject.findings = .ok found) :
    Report.Ascending found := by
  rw [findings_eq] at h
  obtain ⟨builtIn, hbuiltIn, h⟩ := bind_eq_ok_iff.mp h
  obtain ⟨declared, hdeclared, h⟩ := bind_eq_ok_iff.mp h
  cases h
  obtain ⟨lists, hlists, heq⟩ := bind_eq_ok_iff.mp hbuiltIn
  cases heq
  have hlast : ∀ f ∈ declared, f.topic = 14 := fun f hf =>
    (customRules_declares subject declared hdeclared f hf).topic_eq
  refine List.pairwise_append.mpr ⟨?_, ?_, fun f hf g hg => ?_⟩
  · refine pairwise_flatten_of_mapM hlists (fun rule hrule found hfound => ?_)
      ((catalog_ascends subject).sublist List.filter_sublist)
    obtain ⟨_, _, hfits⟩ := exists_fits (List.mem_of_mem_filter hrule) subject
    exact Report.ascending_of_topic fun f hf => (hfits found hfound f hf).topic_eq
  · exact Report.ascending_of_topic hlast
  · have hbuilt : subject.FoundByCatalog f := (mem_flatten_of_mapM hlists f).mp hf
    rw [hlast g hg]
    exact (topic_bounds (.inl hbuilt)).2

namespace Report

/-! ## The law -/

/-- Both reports list the findings of an analysis in the order in which they
were found, which is that of the topics. -/
structure ListedInOneOrder [Characters] (analysis : Analysis) : Prop where
  bounds : ∀ f ∈ analysis.verdict.findings, 0 ≤ f.topic ∧ f.topic ≤ 14
  ascending : analysis.verdict.findings.Pairwise fun f g => f.topic ≤ g.topic
  people : (body analysis.verdict.findings).filterMap Piece.finding? = analysis.verdict.findings
  programs : ∀ scriptName exclusionName, ∃ value contents,
    Json.parse? (machine scriptName exclusionName analysis.exclusions analysis.verdict) =
      some value ∧
    Contents.ofJson? value = some contents ∧
    contents.findings =
      ((body analysis.verdict.findings).filterMap Piece.finding?).map Finding.withoutEmptyTip

theorem listedInOneOrder_of_analyze [Characters] {lines : List Text} {content : Option Text}
    {config : Config} {analysis : Analysis} (h : analyze lines content config = .ok analysis) :
    ListedInOneOrder analysis := by
  obtain ⟨_, hfound, _⟩ := subject_of_analyze h
  have hascending := ascending_findings hfound
  have hbody := (filterMap_finding?_body analysis.verdict.findings).trans
    (byTopic_of_ascending hascending)
  refine ⟨fun f hf => topic_bounds ((mem_findings_iff hfound f).mp hf), hascending, hbody, ?_⟩
  intro scriptName exclusionName
  obtain ⟨value, _, hparse, hread, _⟩ := Contents.readFrom_text
    (.ofRun scriptName exclusionName analysis.exclusions analysis.verdict)
  exact ⟨value, _, hparse, hread, by rw [hbody]; rfl⟩

/-- The report for people shows every finding once, in the order of a stable
sort by topic, under increasing headings of the thirteen standard topics and of
the topics with findings. A run finds in the order of the topics, so that both
reports list its findings in the same order. -/
theorem reports_list_findings_by_topic [Characters] :
    (∀ style columns scriptName exclusionName verdict verbose,
      ListsByTopic verdict.findings (body verdict.findings) ∧
        ShowsBody style columns scriptName exclusionName verdict verbose
          (human style columns scriptName exclusionName verdict verbose)) ∧
    ∀ lines content config analysis, analyze lines content config = .ok analysis →
      ListedInOneOrder analysis :=
  ⟨fun style columns scriptName exclusionName verdict verbose =>
    ⟨listsByTopic_body verdict.findings,
      showsBody_human style columns scriptName exclusionName verdict verbose⟩,
    fun _ _ _ _ => listedInOneOrder_of_analyze⟩

open scoped Characters

/-- What a declared rule finds comes last. -/
theorem a_run_is_reported_in_one_order :
    ∃ analysis, analyze ["FROM a", "b"] none
        { packageManagers := []
          buildToolPatterns := []
          customRules := [⟨"no_b", .warning, "b", "No b.", none⟩] } = .ok analysis ∧
      (∃ f ∈ analysis.verdict.findings, f.topic = 14) ∧ ListedInOneOrder analysis := by
  obtain ⟨analysis, h, hdeclared⟩ : ∃ analysis, analyze ["FROM a", "b"] none
        { packageManagers := []
          buildToolPatterns := []
          customRules := [⟨"no_b", .warning, "b", "No b.", none⟩] } = .ok analysis ∧
      ∃ f ∈ analysis.verdict.findings, f.topic = 14 := ⟨_, by rfl, by decide +kernel⟩
  exact ⟨analysis, h, hdeclared, reports_list_findings_by_topic.2 _ _ _ _ h⟩

end Report

end ImageLint
