import ScriptLint.Regular.Modes

set_option autoImplicit false

/-!
The atoms of a regular expression that are written behind a backslash.

Punctuation stands for itself there, some letters for a control, and `x`, `u` and `U` open the number of a
character in two, four or eight hexadecimal digits; in two digits, where characters are taken as bytes, it
is the number of a byte. Other letters ask for a kind of character or for a place in the text. What is
neither has no meaning and is refused, as are digits, which would refer back to a group.
-/

namespace ScriptLint.Regular

/-- What one atom stands for. -/
inductive Atom where
  | character (c : Char)
  /-- Any character of some kind. -/
  | kind
  /-- A place, and no character. -/
  | place
  deriving DecidableEq, Repr

namespace Atom

/-- The atom for a character, if it can be compared with. -/
def ofChar? (m : Modes) (c : Char) : Option Atom := if m.compares then some (.character c) else none

/-- Reads some more digits of a number, and returns it with the rest. -/
def hex? (m : Modes) (value : Nat) : Nat → Text → Option (Nat × Text)
  | 0, s => some (value, s)
  | digits + 1, s =>
      match m.skip s with
      | [] => none
      | c :: s => (Text.hexDigit? c).bind fun d => hex? m (16 * value + d) digits s

/-- The largest number that is a character in two digits where characters are taken as bytes. -/
def byteLimit : Nat := 0x7F

/-- Reads an atom that is given by its number. -/
def numbered? (m : Modes) (digits : Nat) (s : Text) : Option (Atom × Text) := do
  let (n, rest) ← hex? m 0 digits s
  if n.isValidChar ∧ (m.whole ∨ digits ≠ 2 ∨ n ≤ byteLimit) then
    let atom ← ofChar? m (Char.ofNat n)
    some (atom, rest)
  else none

/-- The control that a letter stands for. -/
def control? (letter : Char) : Option Char :=
  [('a', '\x07'), ('f', '\x0c'), ('t', '\t'), ('n', '\n'), ('r', '\r'), ('v', '\x0b')].lookup letter

/-- Whether a character stands for itself behind a backslash. -/
def isPunctuation (c : Char) : Bool := decide (c < '\x80') && !c.isAlphanum && c != '<' && c != '>'

/-- Reads an atom behind its backslash. -/
def escaped? (m : Modes) : Text → Option (Atom × Text)
  | [] => none
  | 'x' :: s => numbered? m 2 s
  | 'u' :: s => numbered? m 4 s
  | 'U' :: s => numbered? m 8 s
  | c :: s =>
      if isPunctuation c then (ofChar? m c).map fun atom => (atom, s)
      else
        match control? c with
        | some control => (ofChar? m control).map fun atom => (atom, s)
        | none =>
            if c = 'A' ∨ c = 'z' then some (.place, s)
            else if m.whole then none
            else if ['d', 's', 'w'].contains c then some (.kind, s)
            else if ['b', 'B', '<', '>'].contains c then some (.place, s)
            else none

end Atom

end ScriptLint.Regular
