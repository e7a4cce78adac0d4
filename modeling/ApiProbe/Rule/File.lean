import ApiProbe.Rule.Book

/-!
Files of rules. A file that is not there stands for a book without rules; one that is there may
still give no text.
-/
namespace ApiProbe

/-- What is found in the place of a file. -/
inductive RuleFile
  | missing
  | unreadable (reason : String)
  | text (content : String)
  deriving Repr, DecidableEq

/-- What writing a file meets: its directory may be refused, and so may its text. -/
structure FilePlace where
  directory : Except String Unit
  writing : Except String Unit

/-- Why a file of rules cannot be loaded or saved. -/
inductive RuleFileError
  | unreadable (reason : String)
  | refused (error : RuleError)
  deriving Repr, DecidableEq

def RuleFileError.message : RuleFileError → String
  | .unreadable reason => s!"Rule storage error: {reason}"
  | .refused error => error.message

/-- The text of a file, if there is a file. -/
def RuleFile.read : RuleFile → Except RuleFileError (Option String)
  | .missing => .ok none
  | .unreadable reason => .error (.unreadable reason)
  | .text content => .ok (some content)

/-- Reads the book of a file. -/
def RuleBook.loadFile (supply : Supply) (scope : Scope) (file : RuleFile) :
    Except RuleFileError (Nat × RuleBook × Supply) := do
  let content ← file.read
  (load supply scope content).mapError .refused

/-- Writes a book to a file, in a directory that is made if there is none; gives what is found in the
place of the file then. -/
def RuleBook.saveFile (book : RuleBook) (place : FilePlace) : Except RuleFileError RuleFile := do
  place.directory.mapError .unreadable
  place.writing.mapError .unreadable
  pure (.text book.exportText)

end ApiProbe
