import ScriptLint.Process.Executable
import ScriptLint.Script.Routine

set_option autoImplicit false

/-!
Stand-ins for a script interpreter.

A stand-in does not run the script; it reacts to its lines. It can repeat the script, show the calls of
the reporting routine, or report a leak for each call that mentions one, which makes it a tiny engine of
its own whose findings are known in advance. After its reaction it prints fixed parts and ends in a
fixed way.
-/

namespace ScriptLint

/-- What a stand-in makes of a script. -/
inductive Reaction where
  | echo
  | calls
  | leaks
  | arguments
  | silence
  | hangUp
  deriving DecidableEq, Repr

/-- A stand-in: its reaction, the parts it prints behind that, and how it ends. -/
structure StandIn where
  reaction : Reaction
  parts : List Bytes
  status : WaitStatus

namespace StandIn

/-- How a call of the reporting routine opens. -/
def callOpening : Bytes := Utf8.encode (Routine.name ++ ['('])

/-- How the line that sets the options opens. -/
def optionsOpening : Bytes := Utf8.encode "var JSLINT_OPTIONS = ".toList

/-- The word that the leak reaction looks for. -/
def leak : Bytes := Utf8.encode "leak".toList

/-- The lines of a script, without their line feeds; a script that ends in a line feed has no further
line. -/
def scriptLines (script : Bytes) : List Bytes :=
  let pieces := script.splitOnP (· == 10)
  match pieces.getLast? with
  | some [] => pieces.dropLast
  | _ => pieces

/-- What stands between the first two quotation marks of a line. -/
def firstQuoted (line : Bytes) : Bytes :=
  ((line.dropWhile (· != 34)).drop 1).takeWhile (· != 34)

/-- The report for a line that calls the routine and mentions a leak behind that. -/
def leakReport (line : Bytes) : Bytes :=
  match Part.strip? callOpening line with
  | some rest =>
      if Part.holds leak rest then
        firstQuoted line ++ Utf8.encode " 1: implied global 'leak'\n\n".toList
      else []
  | none => []

/-- What a stand-in prints by way of reaction. -/
def react (reaction : Reaction) (args : List Text) (script : Bytes) : Bytes :=
  match reaction with
  | .echo => script
  | .calls =>
      (scriptLines script).flatMap fun line =>
        if Part.opensWith callOpening line || Part.opensWith optionsOpening line then line ++ [10]
        else []
  | .leaks => (scriptLines script).flatMap leakReport
  | .arguments => args.flatMap fun arg => Utf8.encode arg ++ [10]
  | .silence | .hangUp => []

/-- The program that a stand-in is. -/
def executable (s : StandIn) : Executable where
  listens := s.reaction != .hangUp
  respond args script := .ok ⟨react s.reaction args script ++ s.parts.flatten, s.status⟩

end StandIn

end ScriptLint
