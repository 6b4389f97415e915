import ScriptLint.Text.Basic

set_option autoImplicit false

/-!
Diagnostics: what a report says about a file.

The kind of a diagnostic is not written in the report; it shows in the wording of the message. A
message that opens with `implied global '` or `unused variable '` and ends with a quotation mark is of
that kind, and every other message is an error. The opening and the end are looked at independently,
and the identifier is what stands between them.
-/

namespace ScriptLint

/-- What a diagnostic is about. -/
inductive Kind where
  | error
  | impliedGlobal
  | unusedVariable
  deriving DecidableEq, Repr

namespace Kind

/-- The name of a kind in a machine-readable report. -/
def label : Kind → Text
  | error => "error".toList
  | impliedGlobal => "implied_global".toList
  | unusedVariable => "unused_variable".toList

/-- How the message of a kind opens; an error has no fixed opening. -/
def opening? : Kind → Option Text
  | error => none
  | impliedGlobal => some "implied global '".toList
  | unusedVariable => some "unused variable '".toList

/-- Whether a message has the wording of a kind that has one. -/
def words (kind : Kind) (message : Text) : Bool :=
  match kind.opening? with
  | some opening => Part.opensWith opening message && Part.endsWith ['\''] message
  | none => false

/-- The kind of a message. -/
def ofMessage (message : Text) : Kind :=
  if impliedGlobal.words message then impliedGlobal
  else if unusedVariable.words message then unusedVariable
  else error

end Kind

/-- One diagnostic of a report. -/
structure Diagnostic where
  file : Text
  line : UInt32
  kind : Kind
  message : Text
  evidence : Option Text
  deriving DecidableEq, Repr

/-- The identifier that an implied global or an unused variable is about. -/
def Diagnostic.name? (d : Diagnostic) : Option Text := do
  let opening ← d.kind.opening?
  let rest ← Part.strip? opening d.message
  Part.stripEnd? ['\''] rest

end ScriptLint
