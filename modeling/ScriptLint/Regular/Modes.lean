import ScriptLint.Text.Blank

set_option autoImplicit false

/-!
The modes of a regular expression, which it can switch on and off as it goes along.

Flags are letters. Those in front of a hyphen are switched on and those behind it off; each letter and the
hyphen may stand there once, and the hyphen not at the end. Only three modes bear on whether an expression
is well formed. The other flags (where lines end, what a dot is, which run is tried first) are accepted and
change nothing here.

No tables of the properties of characters are at hand. So as long as characters are taken as wholes, case
can neither be ignored nor can an expression ask for a kind of character; where they are taken as bytes it
can do both, but nothing that it stands for may be a part of a character.
-/

namespace ScriptLint.Regular

/-- The modes that an expression is read in. -/
structure Modes where
  /-- Case is ignored. -/
  caseless : Bool
  /-- Characters are taken as wholes, and not as bytes. -/
  whole : Bool
  /-- Blanks and comments count for nothing. -/
  spaced : Bool
  deriving DecidableEq, Repr

namespace Modes

/-- The modes at the front of an expression. -/
def initial : Modes := ⟨false, true, false⟩

/-- Whether a character can be compared with. -/
def compares (m : Modes) : Bool := !(m.caseless && m.whole)

/-- A text from the first character on that is neither blank nor in a comment. A comment opens with a
number sign and goes up to the end of the line. -/
def skipFrom : Bool → Text → Text
  | _, [] => []
  | true, c :: s => skipFrom (c != '\n') s
  | false, c :: s =>
      if Text.isBlank c then skipFrom false s
      else if c = '#' then skipFrom true s
      else c :: s

/-- A text without the blanks and comments in front, if they count for nothing. -/
def skip (m : Modes) (s : Text) : Text := if m.spaced then skipFrom false s else s

/-! ## Flags -/

/-- The letters of flags. -/
def letters : Text := "imsuURx".toList

/-- Switches one flag. -/
def switch (on : Bool) (m : Modes) (letter : Char) : Modes :=
  match letter with
  | 'i' => ⟨on, m.whole, m.spaced⟩
  | 'u' => ⟨m.caseless, on, m.spaced⟩
  | 'x' => ⟨m.caseless, m.whole, on⟩
  | _ => m

/-- Whether a text is a list of flags. -/
def areFlags (s : Text) : Bool :=
  s.all (fun c => letters.contains c || c == '-') && decide s.Nodup && s.getLast? != some '-'

/-- The modes with some flags switched. -/
def switchAll? (m : Modes) (flags : Text) : Option Modes :=
  if areFlags flags then
    let (on, off) := flags.span (· != '-')
    some (off.foldl (switch false) (on.foldl (switch true) m))
  else none

end Modes

end ScriptLint.Regular
