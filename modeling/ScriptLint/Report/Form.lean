import ScriptLint.Process.Cause
import ScriptLint.Process.Outcome
import ScriptLint.Report.Reader
import ScriptLint.Text.Json

set_option autoImplicit false

/-!
The two forms in which an outcome is reported.

The plain report is the captured output, byte for byte. The machine-readable report is one JSON
document: whether the run is clean, the diagnostics that were recognised, and, when there was output
but nothing in it was recognised, that output as a text. So a report of a run that is not clean always
shows something.
-/

namespace ScriptLint

/-- The form of a report. -/
inductive Format where
  | text
  | json
  deriving DecidableEq, Repr

/-- The form of a name. -/
def Format.ofName? (name : Text) : Option Format :=
  if name = "text".toList then some .text
  else if name = "json".toList then some .json
  else none

/-- Where reports go: a place that takes everything, or one that is full. -/
inductive Sink where
  | willing
  | full
  deriving DecidableEq, Repr

/-- A diagnostic as a JSON object; evidence is a member only if there is some. -/
def Diagnostic.json (d : Diagnostic) : Json :=
  .object <|
    [("file".toList, .string d.file),
     ("line".toList, .number d.line.toNat),
     ("kind".toList, .string d.kind.label),
     ("message".toList, .string d.message)]
    ++ match d.evidence with
       | some evidence => [("evidence".toList, .string evidence)]
       | none => []

namespace Outcome

/-- The diagnostics of the output that name one of the files. -/
def diagnostics (o : Outcome) (files : List Text) : List Diagnostic :=
  Report.diagnostics files o.text

/-- The machine-readable report. -/
def json (o : Outcome) (files : List Text) : Json :=
  let found := o.diagnostics files
  .object <|
    [("clean".toList, .bool o.isClean),
     ("diagnostics".toList, .array (found.map Diagnostic.json))]
    ++ if found.isEmpty && !o.isClean then [("unparsed".toList, .string o.text)] else []

/-- The bytes of the report. -/
def report (o : Outcome) (format : Format) (files : List Text) : Bytes :=
  match format with
  | .text => o.output
  | .json => Utf8.encode ((o.json files).print ++ ['\n'])

/-- Writes the report. A full place still takes a report of no bytes. -/
def deliver (o : Outcome) (sink : Sink) (format : Format) (files : List Text) :
    Except Cause Bytes :=
  let report := o.report format files
  if sink = .full ∧ report ≠ [] then .error .noSpace else .ok report

end Outcome

end ScriptLint
