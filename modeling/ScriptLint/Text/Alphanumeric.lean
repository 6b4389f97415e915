import ScriptLint.Text.Alphabetic
import ScriptLint.Text.Numeric

set_option autoImplicit false

/-!
Letters and numbers of all scripts.
-/

namespace ScriptLint.Text

/-- Whether a character is a letter or a number. -/
def isAlphanumeric (c : Char) : Bool := isAlphabetic c || isNumeric c

end ScriptLint.Text
