import ScriptLint.Process.Cause
import ScriptLint.Process.Outcome

set_option autoImplicit false

/-!
Executables: the programs that can be started.

What matters of a program is how it answers. It is started with some arguments, is sent a script on its
standard input, and comes back with what it printed and how it ended, or the conversation breaks. A
program may also close its input without reading it; that is no failure, and all that it changes is
that a script larger than the pipe cannot be sent to the end.
-/

namespace ScriptLint

/-- A program that can be started. -/
structure Executable where
  /-- Whether the program reads what it is sent. -/
  listens : Bool
  /-- What comes back, for the arguments and the script. -/
  respond : List Text → Bytes → Except Cause Outcome

namespace Executable

/-- The number of bytes that a pipe holds while nobody reads from it. -/
def pipeCapacity : Nat := 65536

/-- Whether the program hangs up before the whole script could be sent. -/
def hangsUpOn (exe : Executable) (script : Bytes) : Bool :=
  !exe.listens && decide (pipeCapacity < script.length)

end Executable

end ScriptLint
