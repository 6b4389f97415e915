import ScriptLint.Text.Basic

set_option autoImplicit false

/-!
Control sequences of terminals: emphasis in a text, and what is left of a text without any sequences.

A sequence opens with the escape character. What follows says how it ends: most end at their first letter,
device strings and commands run on to a terminator of their own. Until then nothing is shown, and the
characters CAN and SUB break a sequence off. Outside of sequences every character is shown but the
controls, of which only the spacing ones are.

A spacing control inside of a short sequence is shown all the same. The text behind it is shown as well,
and the sequence goes on only at the next control that is not spacing.
-/

namespace ScriptLint.Terminal

/-- The escape character. -/
def escape : Char := '\x1b'

/-- A text that is emphasised. -/
def emphasised (s : Text) : Text := escape :: "[1m".toList ++ s ++ escape :: "[0m".toList

/-- Where in a text or in a sequence a character stands. -/
inductive Position where
  | text
  /-- Right behind the escape character. -/
  | opened
  /-- Behind the marks of a sequence that has no parameters. -/
  | marked
  /-- Inside of a sequence with parameters. -/
  | parameters
  /-- At the front of a device string. -/
  | device
  | deviceParameters
  | deviceMarks
  | deviceString
  /-- Inside of a command to the system. -/
  | command
  /-- Inside of a string that no device takes. -/
  | string
  deriving DecidableEq, Repr

namespace Position

/-- Whether the bytes of a character hold the one-byte string terminator. -/
def endsString (c : Char) : Bool := (String.utf8EncodeChar c).contains 0x9C

/-- Where a sequence leads that opens with a character. -/
def opening (c : Char) : Position :=
  if c = '[' then .parameters
  else if c = ']' then .command
  else if c = 'P' then .device
  else if c = 'X' ∨ c = '^' ∨ c = '_' then .string
  else if ' ' ≤ c ∧ c ≤ '/' then .marked
  else if '0' ≤ c ∧ c ≤ '~' then .text
  else .opened

/-- The position behind a character. -/
def next (p : Position) (c : Char) : Position :=
  if c = '\x18' ∨ c = '\x1a' then .text
  else if c = escape then .opened
  else
    match p with
    | .text => .text
    | .opened => opening c
    | .marked => if '0' ≤ c ∧ c ≤ '~' then .text else .marked
    | .parameters => if '@' ≤ c ∧ c ≤ '~' then .text else .parameters
    | .device =>
        if ' ' ≤ c ∧ c ≤ '/' then .deviceMarks
        else if '0' ≤ c ∧ c ≤ '?' then .deviceParameters
        else if '@' ≤ c ∧ c ≤ '~' then .deviceString
        else .device
    | .deviceParameters =>
        if ' ' ≤ c ∧ c ≤ '/' then .deviceMarks
        else if '<' ≤ c ∧ c ≤ '~' then .deviceString
        else .deviceParameters
    | .deviceMarks => if '0' ≤ c ∧ c ≤ '~' then .deviceString else .deviceMarks
    | .deviceString => if endsString c then .text else .deviceString
    | .command => if c = '\x07' then .text else .command
    | .string => if endsString c then .text else .string

end Position

/-- Whether a character is a control that moves on in the text: tab, line feed, form feed or carriage
return. -/
def isSpacing (c : Char) : Bool := c == '\t' || c == '\n' || c == '\x0c' || c == '\r'

/-- Whether a character is no control. -/
def isGraphic (c : Char) : Bool := (' ' ≤ c && c ≤ '~') || '\x80' ≤ c

/-- What has been shown so far, the latest first, and where the reader stands. -/
structure Screen where
  position : Position
  /-- Whether the character before was shown. -/
  flowing : Bool
  shown : Text
  deriving DecidableEq, Repr

namespace Screen

/-- Nothing shown. -/
def blank : Screen := ⟨.text, false, []⟩

/-- Whether a character is shown behind one that was not. -/
def admits (p : Position) (c : Char) : Bool :=
  match p with
  | .text => isGraphic c || isSpacing c
  | .opened | .marked | .parameters => isSpacing c
  | _ => false

/-- Takes one character. -/
def step (r : Screen) (c : Char) : Screen :=
  if r.flowing then
    if isGraphic c || isSpacing c then
      ⟨if '\x80' ≤ c then .text else r.position, true, c :: r.shown⟩
    else ⟨r.position.next c, false, r.shown⟩
  else if admits r.position c then ⟨r.position, true, c :: r.shown⟩
  else ⟨r.position.next c, false, r.shown⟩

end Screen

/-- What is shown of a text. -/
def plain (s : Text) : Text := (s.foldl Screen.step Screen.blank).shown.reverse

example : plain (emphasised "a b".toList) = "a b".toList := by decide

end ScriptLint.Terminal
