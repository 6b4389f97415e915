import ScriptLint.Text.Basic

set_option autoImplicit false

/-!
Numerals: the texts that denote a number with a fraction and an exponent.

Digits are those of ASCII. There is at least one of them around the point, which may be missing, and at
least one in the exponent. The words for an infinite number and for none are numerals, in any case.
-/

namespace ScriptLint.Numeral

/-- A text without the sign in front. -/
def unsigned : Text → Text
  | '+' :: s | '-' :: s => s
  | s => s

/-- Whether a text is an exponent, with the letter in front of it, or missing. -/
def isExponent : Text → Bool
  | [] => true
  | c :: s =>
      let digits := unsigned s
      (c == 'e' || c == 'E') && !digits.isEmpty && digits.all Char.isDigit

/-- Whether a text without a sign is a numeral in digits. -/
def isDecimal (s : Text) : Bool :=
  let (before, rest) := s.span Char.isDigit
  let (behind, rest) := match rest with
    | '.' :: rest => rest.span Char.isDigit
    | rest => ([], rest)
  !(before.isEmpty && behind.isEmpty) && isExponent rest

/-- The words that are numerals. -/
def words : List String := ["inf", "infinity", "nan"]

/-- Whether a text is a numeral. -/
def isNumeral (s : Text) : Bool :=
  let s := unsigned s
  isDecimal s || words.any fun word => word.toList == s.map Char.toLower

end ScriptLint.Numeral
