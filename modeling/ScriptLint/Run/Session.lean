import ScriptLint.Run.Lint
import ScriptLint.Tree.Edit

set_option autoImplicit false

/-!
Sessions: everything that one process does, one call after the other.

A session is the machine and the engine that is kept. Files may change between calls, in any way, and so
may the programs that are known by name; an engine that is kept does not change with them. Only the calls
that lint with, or ask for, the shared engine can make a session keep one.
-/

namespace ScriptLint

/-- One call in a session. -/
inductive Call where
  | read (path : Text)
  | expand (inputs : List Text)
  | converse (interpreter : Interpreter) (script : Bytes)
  | lintWith (engine : Engine) (request : Request)
  /-- A change of files, which may be refused. -/
  | edit (change : Tree → Tree.Change)
  /-- A change of the programs that are known by name. -/
  | install (programs : List (Text × Executable))
  | load (path : Text)
  | shared (path : Text)
  | lint (request : Request)

/-- What a call comes to. -/
inductive Answer where
  | source (result : Except Failure Source)
  | files (paths : List Text)
  | outcome (result : Except Failure Outcome)
  | edited (refusal : Option Cause)
  | engine (result : Except Failure Engine)

/-- A process: its machine, and the engine that it keeps. -/
structure Session where
  machine : Machine
  kept : Option Engine

namespace Session

/-- A process that keeps no engine yet. -/
def fresh (m : Machine) : Session := ⟨m, none⟩

/-- The session after a change of files. -/
def edit (s : Session) (change : Tree → Tree.Change) : Session × Answer :=
  let changed := change s.machine.tree
  (⟨⟨changed.tree, s.machine.programs, s.machine.home⟩, s.kept⟩, .edited changed.refusal)

/-- One call: the session behind it, and its answer. -/
def step (s : Session) : Call → Session × Answer
  | .read path => (s, .source (Source.read s.machine.tree path).result)
  | .expand inputs => (s, .files (Glob.expand s.machine.tree inputs))
  | .converse interpreter script => (s, .outcome (s.machine.converse interpreter script).result)
  | .lintWith engine request => (s, .outcome (request.lintWith s.machine engine).result)
  | .edit change => s.edit change
  | .install programs =>
      (⟨⟨s.machine.tree, programs, s.machine.home⟩, s.kept⟩, .edited none)
  | .load path => (s, .engine (Engine.load s.machine.tree path).result)
  | .shared path =>
      (⟨s.machine, Engine.keptAfter s.kept s.machine.tree path⟩,
        .engine (Engine.shared s.kept s.machine.tree path).result)
  | .lint request =>
      (⟨s.machine, Engine.keptAfter s.kept s.machine.tree request.enginePath⟩,
        .outcome (request.lint s.machine s.kept).result)

/-- The calls of a session, one after the other: the session behind them, and their answers. -/
def run (s : Session) : List Call → Session × List Answer
  | [] => (s, [])
  | call :: calls =>
      let (next, answer) := s.step call
      let (final, answers) := next.run calls
      (final, answer :: answers)

end Session

end ScriptLint
