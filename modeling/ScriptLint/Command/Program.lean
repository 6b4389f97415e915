import ScriptLint.Command.Help
import ScriptLint.Command.LogFilter
import ScriptLint.Run.Lint

set_option autoImplicit false

/-!
The program as a whole: from a command line on a machine to an exit code, a report and a log.

The exit code is 0 for a clean run and 1 for any other; a clean run is turned into 1 by an interpreter
that ended unsuccessfully, if that was asked for. A run that comes to no outcome, or whose report cannot
be written, ends with 2, and then nothing has been written to the report's side.
-/

namespace ScriptLint.Command

/-- How the program ended: its exit code, what was written to the report's side, and the lines on the
other. -/
structure Ending where
  exit : UInt8
  stdout : Bytes
  stderr : List Text
  deriving DecidableEq, Repr

/-- The exit code of a run that came to nothing. -/
def failureCode : UInt8 := 2

/-- The lines of an error message. -/
def errorLines (message : Text) : List Text := Text.lines ("error: ".toList ++ message ++ ['\n'])

/-- A failure with its cause. -/
def failureText (f : Failure) : Text := f.message ++ [':', ' '] ++ f.cause.message

/-- What was expanded from the inputs, and the events of that. -/
def expansionEvents (t : Tree) (inputs : List Text) : List Event :=
  inputs.filterMap fun input => (Glob.expandInput t input).error?.map (Event.badPattern input)

/-- The request that some settings make on a machine. -/
def Settings.request (m : Machine) (s : Settings) : Request where
  files := Glob.expand m.tree s.inputs
  options := Options.ofOption s.given.options
  enginePath := s.given.engine.getD (Engine.standardPath m)
  interpreter := ⟨s.given.interpreter.getD Interpreter.standard.program, []⟩

/-- The form of the report that some settings ask for. -/
def Settings.format (s : Settings) : Format := s.given.format.getD .text

/-- The run that some settings ask for. -/
def Settings.attempt (m : Machine) (s : Settings) : Attempt Outcome := do
  let request := s.request m
  Attempt.note (expansionEvents m.tree s.inputs ++ [.starting request.files request.enginePath])
  request.lint m none

/-- The exit code for an outcome whose report has been written. -/
def Settings.exitCode (s : Settings) (o : Outcome) : UInt8 :=
  if s.given.checkStatus && !o.status.success then 1 else o.exitCode

/-- The lines of the events that a filter shows. -/
def logLines (f : LogFilter) (events : List Event) : List Text :=
  (events.filter f.shows).flatMap fun e => Text.lines (e.line ++ ['\n'])

/-- Carries out a run. -/
def Settings.execute (m : Machine) (env : Environment) (sink : Sink) (s : Settings) : Ending :=
  let attempt := s.attempt m
  let log := logLines (LogFilter.ofRun env s.given.verbose) attempt.events
  match attempt.result with
  | .error f => ⟨failureCode, [], log ++ errorLines (failureText f)⟩
  | .ok o =>
      match o.deliver sink s.format (s.request m).files with
      | .error cause =>
          ⟨failureCode, [], log ++ errorLines ("failed to write report: ".toList ++ cause.message)⟩
      | .ok report => ⟨s.exitCode o, report, log⟩

/-- Carries out what is not a run. A text that explains the command line may get lost. -/
def Stop.execute (env : Environment) (sink : Sink) : Stop → Ending
  | .usage e => ⟨failureCode, [], errorLines (Terminal.plain e.message)⟩
  | .help isLong => ⟨0, if sink = .full then [] else Utf8.encode (Help.text env isLong), []⟩
  | .version => ⟨0, if sink = .full then [] else Utf8.encode Help.version, []⟩

/-- Carries out a command line. -/
def execute (m : Machine) (env : Environment) (sink : Sink) (args : List Text) : Ending :=
  match Settings.read env args with
  | .ok s => s.execute m env sink
  | .error stop => stop.execute env sink

end ScriptLint.Command
