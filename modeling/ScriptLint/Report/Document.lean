import ScriptLint.Report.Form
import ScriptLint.Text.JsonReader

set_option autoImplicit false

/-!
Documents: what a consumer takes from a machine-readable report.

A consumer knows the names of the members and what kind of value each of them has, and nothing of how a
report is made. A document says whether the run is clean, lists the diagnostics, and may hold a text that
was not recognised; evidence and that text are members only where there are any. A member of any other
name is an error, and so is a value of the wrong kind.
-/

namespace ScriptLint

/-! ## Members -/

namespace Json

/-- The members of an object, if each of them has one of the given names. -/
def members? (names : List Text) : Json → Option (List (Text × Json))
  | object ms => if ms.all fun m => names.contains m.1 then some ms else none
  | _ => none

/-- The truth value of a name. -/
def boolAt? (ms : List (Text × Json)) (name : Text) : Option Bool :=
  match ms.lookup name with
  | some (bool b) => some b
  | _ => none

/-- The 32-bit number of a name. -/
def numberAt? (ms : List (Text × Json)) (name : Text) : Option UInt32 :=
  match ms.lookup name with
  | some (number n) => if n < UInt32.size then some (UInt32.ofNat n) else none
  | _ => none

/-- The text of a name. -/
def textAt? (ms : List (Text × Json)) (name : Text) : Option Text :=
  match ms.lookup name with
  | some (string s) => some s
  | _ => none

/-- The text of a name that may be missing. -/
def optionalTextAt? (ms : List (Text × Json)) (name : Text) : Option (Option Text) :=
  match ms.lookup name with
  | none => some none
  | some (string s) => some (some s)
  | _ => none

/-- The list of a name. -/
def itemsAt? (ms : List (Text × Json)) (name : Text) : Option (List Json) :=
  match ms.lookup name with
  | some (array items) => some items
  | _ => none

end Json

/-! ## Diagnostics -/

/-- The kind of a name in a machine-readable report. -/
def Kind.ofLabel? (label : Text) : Option Kind :=
  if label = "error".toList then some .error
  else if label = "implied_global".toList then some .impliedGlobal
  else if label = "unused_variable".toList then some .unusedVariable
  else none

/-- The diagnostic that an object says. -/
def Diagnostic.ofJson? (j : Json) : Option Diagnostic := do
  let ms ← j.members? ["file".toList, "line".toList, "kind".toList, "message".toList, "evidence".toList]
  let file ← Json.textAt? ms "file".toList
  let line ← Json.numberAt? ms "line".toList
  let kind ← Kind.ofLabel? (← Json.textAt? ms "kind".toList)
  let message ← Json.textAt? ms "message".toList
  let evidence ← Json.optionalTextAt? ms "evidence".toList
  some ⟨file, line, kind, message, evidence⟩

/-! ## Documents -/

/-- What a machine-readable report says. -/
structure Document where
  clean : Bool
  diagnostics : List Diagnostic
  unparsed : Option Text
  deriving DecidableEq, Repr

namespace Document

/-- The document that an object says. -/
def ofJson? (j : Json) : Option Document := do
  let ms ← j.members? ["clean".toList, "diagnostics".toList, "unparsed".toList]
  let clean ← Json.boolAt? ms "clean".toList
  let diagnostics ← (← Json.itemsAt? ms "diagnostics".toList).mapM Diagnostic.ofJson?
  let unparsed ← Json.optionalTextAt? ms "unparsed".toList
  some ⟨clean, diagnostics, unparsed⟩

/-- Reads a document from the bytes of a report, which have to be well-formed UTF-8. -/
def read? (bytes : Bytes) : Option Document := do
  let text ← Utf8.strict? bytes
  let j ← Json.read? text
  ofJson? j

end Document

end ScriptLint
