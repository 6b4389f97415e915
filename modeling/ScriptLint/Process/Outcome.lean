import ScriptLint.Process.WaitStatus
import ScriptLint.Text.Utf8

set_option autoImplicit false

/-!
The outcome of a run: what the interpreter printed, and how it ended.

A run is clean when nothing at all was printed; how the interpreter ended takes no part in that.
-/

namespace ScriptLint

/-- What came back from the interpreter. -/
structure Outcome where
  output : Bytes
  status : WaitStatus
  deriving DecidableEq, Repr

namespace Outcome

/-- Whether the interpreter printed nothing. -/
def isClean (o : Outcome) : Bool := o.output.isEmpty

/-- 0 for a clean run and 1 for any other. -/
def exitCode (o : Outcome) : UInt8 := if o.isClean then 0 else 1

/-- The output as a text. -/
def text (o : Outcome) : Text := Utf8.lossy o.output

end Outcome

end ScriptLint
