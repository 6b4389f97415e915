import ScriptLint.Report.Header

set_option autoImplicit false

/-!
Reading a report back into diagnostics.

The reader goes through the lines once. A header begins a diagnostic; if it is an error, the next line
is its evidence, provided that there is one, that it is not empty and that it is not itself a header.
Evidence is consumed. All other lines are passed over. Since a header is never consumed as evidence,
each header of the report gives exactly one diagnostic.
-/

namespace ScriptLint.Report

/-- The line behind an error, if it can be evidence. -/
def evidence? (files : List Text) : List Text → Option Text
  | [] => none
  | next :: _ =>
      if next.isEmpty || (Header.read? files next).isSome then none else some next

/-- The diagnostic that a header begins. -/
def diagnosticOf (h : Header) (evidence : Option Text) : Diagnostic :=
  ⟨h.file, h.line, Kind.ofMessage h.message, h.message, evidence⟩

/-- Reads lines, with the diagnostics found before them, the latest first. -/
def readLines (files : List Text) (found : List Diagnostic) : List Text → List Diagnostic
  | [] => found.reverse
  | line :: rest =>
      match Header.read? files line with
      | none => readLines files found rest
      | some h =>
          if Kind.ofMessage h.message = .error then
            match evidence? files rest with
            | some evidence => readLines files (diagnosticOf h (some evidence) :: found) rest.tail
            | none => readLines files (diagnosticOf h none :: found) rest
          else readLines files (diagnosticOf h none :: found) rest
  termination_by lines => lines.length
  decreasing_by all_goals (simp only [List.length_cons, List.length_tail]; omega)

/-- The diagnostics of a report about the given files. -/
def diagnostics (files : List Text) (report : Text) : List Diagnostic :=
  readLines files [] report.lines

end ScriptLint.Report
