import ScriptLint.Text.Basic

set_option autoImplicit false

/-!
String literals of the script language.

A text is put between quotation marks after six characters have been escaped: the backslash, the mark,
the two line ends, and U+2028 and U+2029, which end a line for older interpreters. `escape` does it by
six passes over the whole text. The backslash pass has to come first: every later pass writes a
backslash of its own, and a backslash pass after it would double that one. The order of the other five
does not matter, because none of them writes a character that another one looks for.

Two more definitions say the same thing from other sides. `escapeEach` maps each character on its own,
and `read?` is the interpreter's side: it reads one literal from the front of a text and returns what
stands behind it. An escaped text is made of *units* (`IsUnit`): a character that needs no escape, or
one of the six two- or six-character escapes.
-/

namespace ScriptLint.Literal

/-- The passes behind the one for the backslash: each looks for one character and writes its escape. -/
def laterPasses : List (Char × Text) :=
  [('"', ['\\', '"']),
   ('\n', ['\\', 'n']),
   ('\r', ['\\', 'r']),
   ('\u2028', ['\\', 'u', '2', '0', '2', '8']),
   ('\u2029', ['\\', 'u', '2', '0', '2', '9'])]

/-- A text after some passes, the first one first. -/
def runPasses (passes : List (Char × Text)) (s : Text) : Text :=
  passes.foldl (fun s pass => Text.replaceChar pass.1 pass.2 s) s

/-- Escapes a text by one pass for each character that needs it, the backslash first. -/
def escape (s : Text) : Text := runPasses laterPasses (Text.replaceChar '\\' ['\\', '\\'] s)

/-- The literal that denotes a text. -/
def quote (s : Text) : Text := '"' :: escape s ++ ['"']

/-! ## One character at a time -/

/-- What one character is written as inside a literal. -/
def escapeChar (c : Char) : Text :=
  match c with
  | '\\' => ['\\', '\\']
  | '"' => ['\\', '"']
  | '\n' => ['\\', 'n']
  | '\r' => ['\\', 'r']
  | '\u2028' => ['\\', 'u', '2', '0', '2', '8']
  | '\u2029' => ['\\', 'u', '2', '0', '2', '9']
  | c => [c]

/-- A text with each of its characters written on its own. -/
def escapeEach (s : Text) : Text := s.flatMap escapeChar

/-- Whether a character may not stand in a literal as it is. -/
def needsEscape (c : Char) : Bool :=
  c == '\\' || c == '"' || c == '\n' || c == '\r' || c == '\u2028' || c == '\u2029'

/-- The units that escaped texts are made of. -/
inductive IsUnit : Text → Prop where
  | plain {c : Char} : needsEscape c = false → IsUnit [c]
  | backslash : IsUnit ['\\', '\\']
  | mark : IsUnit ['\\', '"']
  | feed : IsUnit ['\\', 'n']
  | ret : IsUnit ['\\', 'r']
  | lineSeparator : IsUnit ['\\', 'u', '2', '0', '2', '8']
  | paragraphSeparator : IsUnit ['\\', 'u', '2', '0', '2', '9']

/-- The texts that are put together from units. -/
inductive IsEscaped : Text → Prop where
  | nil : IsEscaped []
  | cons {u s : Text} : IsUnit u → IsEscaped s → IsEscaped (u ++ s)

/-! ## The reader -/

/-- The character whose number four hexadecimal digits give; none for half of a surrogate pair. -/
def hexChar? (a b c d : Char) : Option Char := do
  let n ← Text.hexNumber? a b c d
  if Nat.isValidChar n then some (Char.ofNat n) else none

/-- Reads the inside of a literal up to the first mark that is not escaped. A backslash makes a line
end of `n` and of `r`, a character by its number of `u` and four digits, and stands for the character
behind it otherwise. A raw line end inside a literal is an error. -/
def readBody? : Text → Option (Text × Text)
  | [] => none
  | '"' :: s => some ([], s)
  | '\\' :: 'n' :: s => (readBody? s).map fun (t, rest) => ('\n' :: t, rest)
  | '\\' :: 'r' :: s => (readBody? s).map fun (t, rest) => ('\r' :: t, rest)
  | '\\' :: 'u' :: a :: b :: c :: d :: s =>
      match hexChar? a b c d with
      | some x => (readBody? s).map fun (t, rest) => (x :: t, rest)
      | none => none
  | '\\' :: 'u' :: _ => none
  | '\\' :: c :: s =>
      if needsEscape c && !(c == '\\' || c == '"') then none
      else (readBody? s).map fun (t, rest) => (c :: t, rest)
  | c :: s =>
      if needsEscape c then none
      else (readBody? s).map fun (t, rest) => (c :: t, rest)

/-- Reads one literal from the front of a text: its value, and what stands behind it. -/
def read? : Text → Option (Text × Text)
  | '"' :: s => readBody? s
  | _ => none

end ScriptLint.Literal
