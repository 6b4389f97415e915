import ScriptLint.Report.Diagnostic
import ScriptLint.Text.Decimal

set_option autoImplicit false

/-!
Headers: the lines of a report that begin a diagnostic.

A header is a file name, a space, a line number, a colon, a space and a message. A file name may itself
hold spaces, numbers and colons, so a line can be read as a header of more than one file; only files of
the run count, and among them the longest name that fits. The number ends at the *first* colon and
space behind the name.
-/

namespace ScriptLint

/-- A line read as the beginning of a diagnostic. -/
structure Header where
  file : Text
  line : UInt32
  message : Text
  deriving DecidableEq, Repr

namespace Header

/-- Reads a line as a header of the given file. -/
def ofFile? (line file : Text) : Option Header := do
  let rest ← Part.strip? file line
  let rest ← Part.strip? [' '] rest
  let (number, message) ← Part.cutAt? [':', ' '] rest
  let n ← Decimal.read? number
  some ⟨file, n, message⟩

/-- The header with the longer file name, the second one if the names are equally long. -/
def longer (h k : Header) : Header :=
  if h.file.length ≤ k.file.length then k else h

/-- The longest of some headers. -/
def longest? : List Header → Option Header
  | [] => none
  | h :: hs => some (hs.foldl longer h)

/-- Reads a line as a header of one of the files, the one with the longest name that fits. -/
def read? (files : List Text) (line : Text) : Option Header :=
  longest? (files.filterMap (ofFile? line))

end Header

end ScriptLint
