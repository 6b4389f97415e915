import ScriptLint.Run.Machine
import ScriptLint.Script.Assembly

set_option autoImplicit false

/-!
A lint run.

The stages of a run are the engine, the sources, and the conversation with the interpreter, in this
order, and the first stage that fails decides. All sources are read before the interpreter is started, so
a source that cannot be read never gives a report on the others.

An engine that has been loaded is kept and serves every later run, whatever path it is given. A run that
fails behind the engine stage has loaded it all the same; a failure to load keeps nothing.
-/

namespace ScriptLint

/-- What is to be linted, and how. -/
structure Request where
  files : List Text
  options : Options
  enginePath : Text
  interpreter : Interpreter
  deriving DecidableEq, Repr

namespace Engine

/-- The name of the engine that is installed beside the linter. -/
def fileName : Text := "fulljslint.js".toList

/-- Where the engine is looked for if no path is given. -/
def standardPath (m : Machine) : Text :=
  if m.home.isEmpty || Part.endsWith ['/'] m.home then m.home ++ fileName else m.home ++ '/' :: fileName

/-- Reads an engine. Its source has to be well-formed UTF-8. -/
def load (t : Tree) (path : Text) : Attempt Engine :=
  match t.read path with
  | .error cause => .fail (.readEngine path cause)
  | .ok bytes =>
      match Utf8.strict? bytes with
      | none => .fail (.readEngine path .notUtf8)
      | some source => ⟨[.loadedEngine path bytes.length], .ok ⟨path, source⟩⟩

/-- The engine that is kept, or else the one at a path. -/
def shared (kept : Option Engine) (t : Tree) (path : Text) : Attempt Engine :=
  match kept with
  | some engine => .done engine
  | none => load t path

/-- The engine that is kept after `shared`. -/
def keptAfter (kept : Option Engine) (t : Tree) (path : Text) : Option Engine :=
  match (shared kept t path).result with
  | .ok engine => some engine
  | .error _ => none

end Engine

/-- Reads a source. Contents that are not well-formed are decoded as far as they go. -/
def Source.read (t : Tree) (path : Text) : Attempt Source :=
  match t.read path with
  | .error cause => .fail (.readSource path cause)
  | .ok bytes =>
      match Utf8.strict? bytes with
      | some contents => ⟨[.readSource path (Text.byteSize contents)], .ok ⟨path, contents⟩⟩
      | none =>
          let contents := Utf8.lossy bytes
          ⟨[.decodedLossily path, .readSource path (Text.byteSize contents)], .ok ⟨path, contents⟩⟩

namespace Request

/-- A request for some files with everything else as usual. -/
def standard (m : Machine) (files : List Text) : Request :=
  ⟨files, .unspecified, Engine.standardPath m, Interpreter.standard⟩

/-- The run of a request with an engine that is already there. -/
def lintWith (m : Machine) (engine : Engine) (r : Request) : Attempt Outcome := do
  let sources ← Attempt.each (Source.read m.tree) r.files
  let script := Script.assemble engine r.options sources
  Attempt.note [.assembled sources.length (Text.byteSize script)]
  let outcome ← m.converse r.interpreter (Utf8.encode script)
  Attempt.note (if outcome.status.success then [] else [.unsuccessful outcome.status])
  pure outcome

/-- The run of a request. -/
def lint (m : Machine) (kept : Option Engine) (r : Request) : Attempt Outcome := do
  let engine ← Engine.shared kept m.tree r.enginePath
  r.lintWith m engine

end Request

end ScriptLint
