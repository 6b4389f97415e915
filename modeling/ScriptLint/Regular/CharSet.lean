import ScriptLint.Regular.Atom

set_option autoImplicit false

/-!
Sets of characters in brackets, as they stand in a regular expression.

A set has members: characters, ranges, kinds of characters, and sets within it; an operator (`&&`, `--` or
`~~`) stands between two lists of members. Hyphens right at the front are members, and so is a closing
bracket if nothing is in front of it, so no set is empty by its writing. A set that opens with `^` is
turned around, which would take in parts of characters where these are taken as bytes.

A set is read for the rest of the text behind it and for its height, the number of levels that are built
on one another: the set itself, an operator, a list of more than one member.
-/

namespace ScriptLint.Regular

/-- How many members have been read behind the last operator, the height of the highest of them, and the
height of all in front of that operator. -/
structure Members where
  count : Nat
  highest : Nat
  before : Option Nat
  deriving DecidableEq, Repr

namespace Members

/-- No members read. -/
def empty : Members := ⟨0, 0, none⟩

/-- With one more member. -/
def add (ms : Members) (height : Nat) : Members := ⟨ms.count + 1, max ms.highest height, ms.before⟩

/-- The height of the list of members. -/
def listed : Nat → Nat → Nat
  | 0, height | 1, height => height
  | _, height => height + 1

/-- The height of all that has been read. -/
def height (ms : Members) : Nat :=
  let last := listed ms.count ms.highest
  match ms.before with
  | none => last
  | some before => max before last + 1

/-- Behind an operator. -/
def operate (ms : Members) : Members := ⟨0, 0, some ms.height⟩

end Members

namespace CharSet

/-- The kinds of characters that have a name. -/
def names : List String :=
  ["alnum", "alpha", "ascii", "blank", "cntrl", "digit", "graph", "lower", "print", "punct", "space",
   "upper", "word", "xdigit"]

/-- Whether a set can be used, turned around or not. -/
def isUsable (m : Modes) (turned : Bool) : Bool := m.compares && (m.whole || !turned)

/-- Reads a kind by its name, from behind the opening bracket; says whether it is turned around. -/
def named? : Text → Option (Bool × Text)
  | ':' :: s =>
      let (turned, s) := match s with
        | '^' :: s => (true, s)
        | s => (false, s)
      match s.span (· != ':') with
      | (name, ':' :: ']' :: rest) =>
          if names.contains (String.ofList name) then some (turned, rest) else none
      | _ => none
  | _ => none

/-- Reads one member that is no set, or one end of a range. -/
def member? (m : Modes) : Text → Option (Atom × Text)
  | [] => none
  | c :: s => do
      let (atom, rest) ← if c = '\\' then Atom.escaped? m s else (Atom.ofChar? m c).map fun atom => (atom, s)
      match atom with
      | .place => none
      | .kind => some (atom, rest)
      | .character d => if m.whole ∨ d.toNat ≤ Atom.byteLimit then some (atom, rest) else none

/-- Reads a member or a range, and returns the rest. A hyphen in front of another one, or of the closing
bracket, makes no range. -/
def range? (m : Modes) (s : Text) : Option Text := do
  let (low, rest) ← member? m s
  match m.skip rest with
  | '-' :: behind =>
      match m.skip behind with
      | ']' :: _ | '-' :: _ => some ('-' :: behind)
      | s =>
          match low, ← member? m s with
          | .character low, (.character high, rest) => if low ≤ high then some rest else none
          | _, _ => none
  | rest => some rest

/-- What stands behind an opening bracket, and behind the mark that turns the set around. -/
def opened? (m : Modes) (s : Text) : Option Text :=
  match m.skip s with
  | '^' :: s => if m.whole then some s else none
  | s => some s

/-- Reads a set from behind its opening bracket; returns its height and the rest. `atFront` says whether
hyphens are members, and `fuel` bounds the number of steps. -/
def read? (m : Modes) : Nat → Bool → Members → Text → Option (Nat × Text)
  | 0, _, _, _ => none
  | fuel + 1, atFront, ms, s =>
      match m.skip s with
      | [] => none
      | ']' :: s =>
          if atFront && ms.count == 0 then
            if m.compares then read? m fuel false (ms.add 0) s else none
          else some (ms.height + 1, s)
      | '[' :: s =>
          match named? s with
          | some (turned, s) =>
              if isUsable m turned then read? m fuel false (ms.add 0) s else none
          | none => do
              let inner ← opened? m s
              let (height, s) ← read? m fuel true Members.empty inner
              read? m fuel false (ms.add height) s
      | '&' :: '&' :: s => read? m fuel false ms.operate s
      | '~' :: '~' :: s => read? m fuel false ms.operate s
      | c :: s =>
          if c = '-' ∧ atFront then
            if m.compares then read? m fuel true (ms.add 0) s else none
          else
            match c, s with
            | '-', '-' :: s => read? m fuel false ms.operate s
            | _, _ => do
                let s ← range? m (c :: s)
                read? m fuel false (ms.add 0) s

/-- Reads a set from behind its opening bracket. -/
def ofText? (m : Modes) (s : Text) : Option (Nat × Text) := do
  let inner ← opened? m s
  read? m (inner.length + 1) true Members.empty inner

end CharSet

end ScriptLint.Regular
