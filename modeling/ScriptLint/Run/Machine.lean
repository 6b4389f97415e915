import ScriptLint.Run.Attempt
import ScriptLint.Tree.Resolve

set_option autoImplicit false

/-!
The machine that a run takes place on, and conversations with its programs.

Besides its files a machine has programs that are known by name alone, and a home directory, where the
linter itself is installed. A name with a slash in it is a path; any other name is looked up among the
known programs. The directory of the known programs has the entries `.` and `..` like any other, and they
cannot be started.

The arguments of a program are handed over in a space of limited size. That they do not fit is seen when
the program has been found, and before it is looked at.
-/

namespace ScriptLint

/-- A machine. -/
structure Machine where
  tree : Tree
  programs : List (Text × Executable)
  home : Text

/-- The interpreter of a run: the name of a program, and its arguments. -/
structure Interpreter where
  program : Text
  args : List Text
  deriving DecidableEq, Repr

namespace Interpreter

/-- The interpreter that is used if none is given. -/
def standard : Interpreter := ⟨"js".toList, []⟩

/-- The texts that a program is handed over: its own name, and its arguments. -/
def words (i : Interpreter) : List Text := i.program :: i.args

/-- The size that no single text may have. -/
def wordLimit : Nat := 131072

/-- The size of the space for all texts. -/
def spaceLimit : Nat := 2097152

/-- The room that a text takes: its bytes, an end mark, and the address where it is. -/
def room (s : Text) : Nat := Text.byteSize s + 9

/-- Whether the texts do not fit. -/
def isTooLong (i : Interpreter) : Bool :=
  i.words.any (fun s => decide (wordLimit ≤ Text.byteSize s))
    || decide (spaceLimit < i.words.foldl (fun total s => total + room s) 0)

end Interpreter

namespace Machine

/-- The program of a known name. -/
def lookUp (m : Machine) (name : Text) : Except Cause Executable :=
  if name.isEmpty then .error .notFound
  else if name = ['.'] ∨ name = ['.', '.'] then .error .denied
  else if Path.nameLimit < Text.byteSize name then .error .nameTooLong
  else
    match m.programs.lookup name with
    | some exe => .ok exe
    | none => .error .notFound

/-- What may be started by a name: a program, or a file that was one. -/
def startable (m : Machine) (name : Text) : Except Cause (Option Executable) :=
  if name.contains '/' then m.tree.startable name else (m.lookUp name).map some

/-- The program that an interpreter is. -/
def start (m : Machine) (i : Interpreter) : Except Cause Executable :=
  if i.words.any fun s => s.contains '\x00' then .error .nulInArgument
  else
    match m.startable i.program with
    | .error cause => .error cause
    | .ok found =>
        if i.isTooLong then .error .argumentsTooLong
        else
          match found with
          | some exe => .ok exe
          | none => .error .notExecutable

/-- Sends a script to an interpreter and takes what comes back. How the interpreter ends is part of the
outcome and no failure, and neither is an interpreter that hangs up. -/
def converse (m : Machine) (i : Interpreter) (script : Bytes) : Attempt Outcome := do
  Attempt.note [.spawning i.program i.args]
  let exe ← Attempt.ofExcept (.spawn i.program) (m.start i)
  Attempt.note (if exe.hangsUpOn script then [.hungUp i.program] else [])
  let outcome ← Attempt.ofExcept (.exchange i.program) (exe.respond i.args script)
  Attempt.note [.finished i.program outcome.output.length outcome.status]
  pure outcome

end Machine

end ScriptLint
