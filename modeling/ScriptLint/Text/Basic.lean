import ScriptLint.Text.Part

set_option autoImplicit false

/-!
Texts and the few operations on them that the rest of the library speaks in.

A text is a list of characters and a byte string a list of bytes, so that a statement about either
is a statement about lists: cutting a text at a mark is `List.splitOnP`, replacing a character is a
`flatMap`, and nothing has to be said about offsets into an encoding.
-/

namespace ScriptLint

/-- A text, one character after the other. -/
abbrev Text := List Char

/-- A byte string. -/
abbrev Bytes := List UInt8

namespace Text

/-- `s` with every occurrence of the character `old` replaced by the text `new`. -/
def replaceChar (old : Char) (new s : Text) : Text :=
  s.flatMap fun c => if c = old then new else [c]

/-- `s` with the first occurrence of `mark` replaced by `new`; `s` itself when there is none. -/
def replaceFirst (mark new s : Text) : Text :=
  match Part.cutAt? mark s with
  | some (before, rest) => before ++ new ++ rest
  | none => s

/-- The number of bytes that `s` takes in UTF-8. -/
def byteSize (s : Text) : Nat := s.foldl (fun n c => n + c.utf8Size) 0

/-- The value of a hexadecimal digit. -/
def hexDigit? (c : Char) : Option Nat :=
  if '0' ≤ c ∧ c ≤ '9' then some (c.toNat - '0'.toNat)
  else if 'a' ≤ c ∧ c ≤ 'f' then some (c.toNat - 'a'.toNat + 10)
  else if 'A' ≤ c ∧ c ≤ 'F' then some (c.toNat - 'A'.toNat + 10)
  else none

/-- The number that four hexadecimal digits give. -/
def hexNumber? (a b c d : Char) : Option Nat := do
  return 4096 * (← hexDigit? a) + 256 * (← hexDigit? b) + 16 * (← hexDigit? c) + (← hexDigit? d)

/-- The decimal digits of a number. -/
def ofNat (n : Nat) : Text := (Nat.repr n).toList

/-- The texts of `parts` with `mark` between neighbours. -/
def join (mark : Text) (parts : List Text) : Text := List.intercalate mark parts

end Text

/-! ## Lines

A line ends at a line feed, and one carriage return right before that feed belongs to the line end.
A last line without a feed is a line all the same, with nothing cut off; a text that ends in a feed
has no further, empty line. -/

/-- A line whose feed has been cut off, without the carriage return of its line end. -/
def Text.cutReturn (line : Text) : Text := (Part.stripEnd? ['\r'] line).getD line

/-- The lines of a text. -/
def Text.lines (s : Text) : List Text :=
  let pieces := s.splitOnP (· == '\n')
  let closed := pieces.dropLast.map Text.cutReturn
  match pieces.getLast? with
  | none | some [] => closed
  | some final => closed ++ [final]

end ScriptLint
