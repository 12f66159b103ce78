-- What looking for a file and reading it come to. A script is read exactly
-- if a file is there whose bytes can be read, and an exclusion file may be
-- absent, if the look for it says so.
import ImageLint.Source
import ImageLint.Proofs.Outcomes

namespace ImageLint

namespace Run

/-! ## Files that can be read -/

section

variable {files : Files} {path : Path}

/-- There is a file at the path. -/
def IsThere (files : Files) (path : Path) : Prop :=
  ∃ entry, files.find path = .ok entry ∧ entry.isRegular = true

/-- There is no file at the path: something else is there, or nothing, or there
can be no such name. -/
inductive IsAbsent (files : Files) (path : Path) : Prop
  | other {entry : Entry} (h : files.find path = .ok entry) (hother : entry.isRegular = false)
  | missing {e : FileError} (h : files.find path = .error e) (hmissing : e.meansAbsence = true)
  | unnameable {e : FileError} (h : files.find path = .error e)
      (hname : e.number = FileError.nameTooLong.number)

/-- A look at the path tells whether a file is there. -/
def Answers (files : Files) (path : Path) : Prop :=
  ∀ e, files.find path = .error e → e.meansAbsence = true

/-- A file can be read, and its bytes are the text. -/
def ReadsAs (files : Files) (path : Path) (text : Text) : Prop :=
  ∃ bytes, files.find path = .ok (.file bytes) ∧ Text.ofFile bytes = text

/-- The exclusion file is absent, or it can be read and has the content. -/
inductive ExclusionsRead (files : Files) (path : Path) : Option Text → Prop
  | absent (h : IsAbsent files path) : ExclusionsRead files path none
  | present {content : Text} (h : ReadsAs files path content) :
      ExclusionsRead files path (some content)

theorem ReadsAs.answers {text : Text} (h : ReadsAs files path text) : Answers files path := by
  obtain ⟨bytes, hfind, _⟩ := h
  rintro e he
  rw [hfind] at he
  cases he

theorem isFile_eq_true_iff : files.isFile path = .ok true ↔ IsThere files path := by
  unfold Files.isFile IsThere
  cases files.find path with
  | ok entry => simp [pure, Except.pure]
  | error e =>
    by_cases h : e.meansAbsence = true <;>
      simp [h, pure, Except.pure, throw, throwThe, MonadExceptOf.throw]

theorem isFile_eq_false_iff :
    files.isFile path = .ok false ↔ IsAbsent files path ∧ Answers files path := by
  unfold Files.isFile
  cases hfind : files.find path with
  | ok entry =>
    constructor
    · intro h
      exact ⟨.other hfind (Except.ok.inj h), fun e he => by cases hfind.symm.trans he⟩
    · rintro ⟨⟨hentry, hother⟩ | ⟨he, _⟩ | ⟨he, _⟩, _⟩
      · cases hfind.symm.trans hentry
        exact congrArg Except.ok hother
      · cases hfind.symm.trans he
      · cases hfind.symm.trans he
  | error e =>
    by_cases h : e.meansAbsence = true
    · simp only [h, if_true]
      refine ⟨fun _ => ⟨.missing hfind h, fun e' he => ?_⟩, fun _ => rfl⟩
      cases hfind.symm.trans he
      exact h
    · simp only [h, throw, throwThe, MonadExceptOf.throw]
      exact ⟨nofun, fun hanswers => absurd (hanswers.2 e hfind) h⟩

/-- A file that is there is read with its bytes. -/
theorem isThere_and_read_iff {bytes : List UInt8} :
    IsThere files path ∧ files.read path = .ok bytes ↔ files.find path = .ok (.file bytes) := by
  unfold IsThere Files.read Entry.file
  cases files.find path with
  | ok entry =>
    obtain ⟨isRegular, content⟩ := entry
    simp [bind, Except.bind]
  | error e => simp

theorem readLines_eq_ok_iff {lines : List Text} :
    Source.readLines files path = .ok lines ↔
      ∃ script, ReadsAs files path script ∧ Text.lines script = lines := by
  unfold Source.readLines ReadsAs
  simp only [bind_eq_ok_iff, mapError_eq_ok_iff, ← isThere_and_read_iff, ← isFile_eq_true_iff]
  constructor
  · rintro ⟨_ | _, hfile, h⟩
    · cases h
    · obtain ⟨bytes, hread, h⟩ := bind_eq_ok_iff.mp h
      exact ⟨_, ⟨bytes, ⟨hfile, mapError_eq_ok_iff.mp hread⟩, rfl⟩, Except.ok.inj h⟩
  · rintro ⟨_, ⟨bytes, ⟨hfile, hread⟩, rfl⟩, rfl⟩
    exact ⟨true, hfile, bind_eq_ok_iff.mpr ⟨bytes, mapError_eq_ok_iff.mpr hread, rfl⟩⟩

theorem readOptionalText_eq_ok_iff {content : Option Text} :
    Source.readOptionalText files path = .ok content ↔
      ExclusionsRead files path content ∧ Answers files path := by
  unfold Source.readOptionalText
  simp only [bind_eq_ok_iff, mapError_eq_ok_iff]
  constructor
  · rintro ⟨_ | _, hfile, h⟩
    · obtain ⟨hnone, hanswers⟩ := isFile_eq_false_iff.mp hfile
      cases h
      exact ⟨.absent hnone, hanswers⟩
    · obtain ⟨bytes, hread, h⟩ := bind_eq_ok_iff.mp h
      cases h
      have hreads : ReadsAs files path (Text.ofFile bytes) :=
        ⟨bytes, isThere_and_read_iff.mp ⟨isFile_eq_true_iff.mp hfile, mapError_eq_ok_iff.mp hread⟩,
          rfl⟩
      exact ⟨.present hreads, hreads.answers⟩
  · rintro ⟨hnone | ⟨bytes, hfind, rfl⟩, hanswers⟩
    · exact ⟨false, isFile_eq_false_iff.mpr ⟨hnone, hanswers⟩, rfl⟩
    · obtain ⟨hthere, hread⟩ := isThere_and_read_iff.mpr hfind
      exact ⟨true, isFile_eq_true_iff.mpr hthere,
        bind_eq_ok_iff.mpr ⟨bytes, mapError_eq_ok_iff.mpr hread, rfl⟩⟩

theorem ReadsAs.readOptionalText {text : Text} (h : ReadsAs files path text) :
    Source.readOptionalText files path = .ok (some text) :=
  readOptionalText_eq_ok_iff.mpr ⟨.present h, h.answers⟩

end

end Run

end ImageLint
