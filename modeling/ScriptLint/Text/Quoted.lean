import ScriptLint.Text.Basic
import ScriptLint.Text.Hidden

set_option autoImplicit false

/-!
Texts as they appear between quotation marks in a log line.

The mark, the backslash, NUL, the tabulator and the line ends are written as two characters, and a
character that would not show, or would join onto its neighbour, is written by its number in braces.
So a quoted text stays on its line and shows where it begins and ends.
-/

namespace ScriptLint.Text

/-- The hexadecimal digits of a number, in lower case. -/
def hexDigits (n : Nat) : Text := Nat.toDigits 16 n

/-- One character of a quoted text. -/
def quoteChar (c : Char) : Text :=
  match c with
  | '\x00' => ['\\', '0']
  | '\t' => ['\\', 't']
  | '\n' => ['\\', 'n']
  | '\r' => ['\\', 'r']
  | '"' => ['\\', '"']
  | '\\' => ['\\', '\\']
  | c => if isHidden c then "\\u\x7b".toList ++ hexDigits c.toNat ++ ['\x7d'] else [c]

/-- A text between quotation marks. -/
def quoted (s : Text) : Text := '"' :: s.flatMap quoteChar ++ ['"']

/-- A list of texts, each between quotation marks, in square brackets. -/
def quotedList (parts : List Text) : Text :=
  '[' :: join [',', ' '] (parts.map quoted) ++ [']']

end ScriptLint.Text
