import ScriptLint.Script.Literal
import ScriptLint.Script.Routine

set_option autoImplicit false

/-!
Source files as they are put into a script.

Each file becomes one statement on a line of its own, a call of the reporting routine with the file's
path and contents as literals. Neither literal can hold a raw line end or end early (`Literal`), so no
path and no contents can reach beyond their statement.
-/

namespace ScriptLint

/-- A file that has been read: its path as it was given, and its contents. -/
structure Source where
  path : Text
  contents : Text
  deriving DecidableEq, Repr

/-- The statement that lints a file. -/
def Source.statement (f : Source) : Text :=
  Routine.name ++ ['('] ++ Literal.quote f.path ++ [',', ' '] ++ Literal.quote f.contents
    ++ [')', ';', '\n']

end ScriptLint
