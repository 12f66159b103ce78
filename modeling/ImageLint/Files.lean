-- Files as far as a run looks at them.
import ImageLint.Path
import ImageLint.Text.Quoted

namespace ImageLint

/-! ## Errors -/

structure FileError where
  number : Nat
  reason : Text
  deriving DecidableEq, Repr

namespace FileError

def missing : FileError := ⟨2, "No such file or directory"⟩

def locked : FileError := ⟨13, "Permission denied"⟩

def isDirectory : FileError := ⟨21, "Is a directory"⟩

def nameTooLong : FileError := ⟨36, "File name too long"⟩

/-- The numbers of the errors by which nothing is there: a missing file, a
closed one, a file in place of a directory, and links that lead nowhere. -/
def absences : List Nat := [2, 9, 20, 40]

def meansAbsence (error : FileError) : Bool := absences.contains error.number

def messageAt (error : FileError) (path : Path) : Text :=
  "[Errno " ++ Text.ofNat error.number ++ "] " ++ error.reason ++ ": " ++ Text.quoted path.text

end FileError

/-! ## Looking and reading -/

/-- What stands at a path, and what reading it gives. -/
structure Entry where
  isRegular : Bool
  content : Except FileError (List UInt8)

namespace Entry

def file (bytes : List UInt8) : Entry := ⟨true, .ok bytes⟩

def locked : Entry := ⟨true, .error .locked⟩

def directory : Entry := ⟨false, .error .isDirectory⟩

end Entry

/-- The files that a run can see: what stands at each path. -/
structure Files where
  find : Path → Except FileError Entry

/-- A look at a path that does not tell whether a file is there. -/
structure LookupFailure where
  path : Path
  error : FileError
  deriving DecidableEq, Repr

def LookupFailure.message (failure : LookupFailure) : Text := failure.error.messageAt failure.path

namespace Files

/-- There is a file at the path. Errors that do not mean that nothing is there
are not answered. -/
def isFile (files : Files) (path : Path) : Except LookupFailure Bool :=
  match files.find path with
  | .ok entry => return entry.isRegular
  | .error e => if e.meansAbsence then return false else throw ⟨path, e⟩

def read (files : Files) (path : Path) : Except FileError (List UInt8) := do
  (← files.find path).content

/-- The files of which it is known what stands at some paths, and at no
other. -/
def ofList (known : List (Path × Except FileError Entry)) : Files :=
  ⟨fun path => (known.lookup path).getD (.error .missing)⟩

end Files

end ImageLint
