import ScriptLint.Report.Reader

set_option autoImplicit false

/-!
Printing diagnostics the way the reporting routine of a script does.

A diagnostic takes a header line, for an error a line of evidence, which is empty when there is none,
and then an empty line. `diagnosticAt` is the rule of the reader without its loop: what one line of a
report contributes depends on that line and the one behind it, and on nothing else.
-/

namespace ScriptLint.Report

/-- The header line of a diagnostic. -/
def headerLine (d : Diagnostic) : Text :=
  d.file ++ [' '] ++ Decimal.write d.line ++ [':', ' '] ++ d.message

/-- The lines of a diagnostic. -/
def linesOf (d : Diagnostic) : List Text :=
  match d.kind with
  | .error => [headerLine d, d.evidence.getD [], []]
  | _ => [headerLine d, []]

/-- Lines as a text, each with a line feed. -/
def ofLines (lines : List Text) : Text := lines.flatMap fun line => line ++ ['\n']

/-- The report that a list of diagnostics makes. -/
def print (ds : List Diagnostic) : Text := ofLines (ds.flatMap linesOf)

/-- What the first of some lines contributes, given the lines behind it. -/
def diagnosticAt (files : List Text) (line : Text) (rest : List Text) : Option Diagnostic :=
  (Header.read? files line).map fun h =>
    diagnosticOf h (if Kind.ofMessage h.message = .error then evidence? files rest else none)

/-- The diagnostics of some lines, line by line. -/
def eachLine (files : List Text) : List Text → List Diagnostic
  | [] => []
  | line :: rest => (diagnosticAt files line rest).toList ++ eachLine files rest

end ScriptLint.Report
