import ScriptLint.Text.Basic

set_option autoImplicit false

/-!
The options that the analysis engine is given.

They are an expression of the script language and are handed on as they are. Without any, the engine is
given `undefined`, which it reads as "no configuration"; a literal that happens to say `undefined` puts
the same word into the script and is still a literal.
-/

namespace ScriptLint

/-- The options of a run. -/
inductive Options where
  | unspecified
  | literal (text : Text)
  deriving DecidableEq, Repr

namespace Options

instance : Inhabited Options := ⟨unspecified⟩

/-- The word for options that were not given. -/
def absent : Text := "undefined".toList

/-- The options as they stand in the script. -/
def script : Options → Text
  | unspecified => absent
  | literal text => text

/-- Options that may not have been given. -/
def ofOption : Option Text → Options
  | none => unspecified
  | some text => literal text

/-- Whether the options were given as text, whatever it says. -/
def isLiteral : Options → Bool
  | unspecified => false
  | literal _ => true

end Options

end ScriptLint
