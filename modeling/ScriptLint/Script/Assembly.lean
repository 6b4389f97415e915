import ScriptLint.Script.Source

set_option autoImplicit false

/-!
The script of a run: the engine, the reporting routine, and one statement for each file, in the order
of the files.
-/

namespace ScriptLint

/-- The analysis engine: where it was read, and its source text. -/
structure Engine where
  path : Text
  source : Text
  deriving DecidableEq, Repr

namespace Script

/-- The statements of a list of files. -/
def statements (files : List Source) : Text := files.flatMap Source.statement

/-- The whole script. -/
def assemble (engine : Engine) (options : Options) (files : List Source) : Text :=
  engine.source ++ Routine.text options ++ statements files

end Script

end ScriptLint
