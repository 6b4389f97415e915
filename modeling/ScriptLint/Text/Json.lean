import ScriptLint.Text.Basic

set_option autoImplicit false

/-!
JSON values and their printed form.

A report holds truth values, numbers, texts, lists and objects, and nothing else of JSON. The printed
form puts every member on a line of its own, two blanks deeper than what holds it; an empty list or
object stays on its line. Members of an object keep the order in which they were given. In a text only
the mark, the backslash and the controls below U+0020 are escaped.
-/

namespace ScriptLint

/-- A JSON value. -/
inductive Json where
  | bool (b : Bool)
  | number (n : Nat)
  | string (s : Text)
  | array (items : List Json)
  | object (members : List (Text × Json))

namespace Json

/-- A hexadecimal digit, in lower case. -/
def hexDigit (n : Nat) : Char := Nat.digitChar n

/-- One character of a JSON text. -/
def escapeChar (c : Char) : Text :=
  match c with
  | '"' => ['\\', '"']
  | '\\' => ['\\', '\\']
  | '\x08' => ['\\', 'b']
  | '\x0c' => ['\\', 'f']
  | '\n' => ['\\', 'n']
  | '\r' => ['\\', 'r']
  | '\t' => ['\\', 't']
  | c =>
      if c.toNat < 0x20 then
        ['\\', 'u', '0', '0', hexDigit (c.toNat / 16), hexDigit (c.toNat % 16)]
      else [c]

/-- A text as a JSON text, with its marks. -/
def quote (s : Text) : Text := '"' :: s.flatMap escapeChar ++ ['"']

/-- A line end and the indentation of the line behind it. -/
def newline (depth : Nat) : Text := '\n' :: List.replicate (2 * depth) ' '

mutual

/-- A value whose first line is already indented, at the given depth. -/
def write (depth : Nat) : Json → Text
  | bool true => "true".toList
  | bool false => "false".toList
  | number n => Text.ofNat n
  | string s => quote s
  | array [] => ['[', ']']
  | array (v :: vs) =>
      ['['] ++ newline (depth + 1) ++ write (depth + 1) v ++ writeItems (depth + 1) vs
        ++ newline depth ++ [']']
  | object [] => ['\x7b', '\x7d']
  | object ((k, v) :: ms) =>
      ['\x7b'] ++ newline (depth + 1) ++ quote k ++ [':', ' '] ++ write (depth + 1) v
        ++ writeMembers (depth + 1) ms ++ newline depth ++ ['\x7d']

/-- The further items of a list, each behind a comma and on its own line. -/
def writeItems (depth : Nat) : List Json → Text
  | [] => []
  | v :: vs => [','] ++ newline depth ++ write depth v ++ writeItems depth vs

/-- The further members of an object, each behind a comma and on its own line. -/
def writeMembers (depth : Nat) : List (Text × Json) → Text
  | [] => []
  | (k, v) :: ms =>
      [','] ++ newline depth ++ quote k ++ [':', ' '] ++ write depth v ++ writeMembers depth ms

end

/-- The printed form of a value. -/
def print (v : Json) : Text := write 0 v

end Json

end ScriptLint
