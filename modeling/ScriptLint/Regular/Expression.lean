import ScriptLint.Regular.CharSet
import ScriptLint.Text.Alphanumeric

set_option autoImplicit false

/-!
Which texts are regular expressions.

An expression has branches, between bars, and a branch has pieces: characters, atoms behind a backslash,
sets, groups, and each of these with a mark behind it that repeats it. A group may have a name, which no
other group has, or flags that hold inside of it; flags in parentheses of their own hold up to the end of
the group around them. A repetition by numbers in braces is refused: no expression that reaches this
reader holds a closing brace.

An expression is built in levels, one on top of the other: a repetition, a group, a branch of more than
one piece, several branches. There may be no more than `heightLimit` of them.
-/

namespace ScriptLint.Regular

/-- What has been read of a group: of its last branch the number of pieces, the height of the highest one,
and the height of the last one if it can be repeated; of the branches before that, their number and the
height of the highest one. -/
structure Branches where
  count : Nat
  highest : Nat
  last : Option Nat
  finished : Nat
  highestFinished : Nat
  deriving DecidableEq, Repr

namespace Branches

/-- Nothing read. -/
def empty : Branches := ⟨0, 0, none, 0, 0⟩

/-- With one more piece. -/
def add (bs : Branches) (height : Nat) : Branches :=
  ⟨bs.count + 1, max bs.highest height, some height, bs.finished, bs.highestFinished⟩

/-- With flags, which cannot be repeated. -/
def addFlags (bs : Branches) : Branches :=
  ⟨bs.count + 1, bs.highest, none, bs.finished, bs.highestFinished⟩

/-- With the last piece repeated. -/
def repeated? (bs : Branches) : Option Branches :=
  bs.last.map fun height =>
    ⟨bs.count, max bs.highest (height + 1), some (height + 1), bs.finished, bs.highestFinished⟩

/-- The height of the last branch. -/
def branchHeight (bs : Branches) : Nat := Members.listed bs.count bs.highest

/-- In front of a further branch. -/
def next (bs : Branches) : Branches :=
  ⟨0, 0, none, bs.finished + 1, max bs.highestFinished bs.branchHeight⟩

/-- The height of all branches together. -/
def height (bs : Branches) : Nat :=
  if bs.finished = 0 then bs.branchHeight else max bs.highestFinished bs.branchHeight + 1

end Branches

/-- What opens behind a parenthesis. -/
inductive Opening where
  /-- A group, with the modes inside of it. -/
  | group (inside : Modes)
  /-- Flags alone, with the modes behind them. -/
  | flags (behind : Modes)
  deriving DecidableEq, Repr

/-- What is still to be read, and the names of the groups so far. -/
structure Rest where
  text : Text
  names : List Text
  deriving DecidableEq, Repr

namespace Rest

/-- Whether a text can name a group. -/
def isName (name : Text) : Bool :=
  match name with
  | [] => false
  | c :: s =>
      (c == '_' || Text.isAlphabetic c)
        && s.all fun c => ['_', '.', '[', ']'].contains c || Text.isAlphanumeric c

/-- Reads the name of a group, from behind its opening mark. -/
def named? (m : Modes) (names : List Text) (s : Text) : Option (Opening × Rest) :=
  match s.span (· != '>') with
  | (name, '>' :: rest) =>
      if isName name && !names.contains name then some (.group m, ⟨rest, name :: names⟩) else none
  | _ => none

/-- Reads flags and what they are for. -/
def flagged? (m : Modes) (names : List Text) (s : Text) : Option (Opening × Rest) := do
  let (flags, rest) := s.span fun c => c != ':' && c != ')'
  let switched ← m.switchAll? flags
  match rest with
  | ':' :: rest => some (.group switched, ⟨rest, names⟩)
  | _ :: rest => if flags.isEmpty then none else some (.flags switched, ⟨rest, names⟩)
  | [] => none

/-- Reads what opens behind a parenthesis. -/
def opened? (m : Modes) (names : List Text) (s : Text) : Option (Opening × Rest) :=
  match m.skip s with
  | '?' :: 'P' :: '<' :: s => named? m names s
  | '?' :: '<' :: s => named? m names s
  | '?' :: s => flagged? m names s
  | s => some (.group m, ⟨s, names⟩)

/-- Reads a piece that is no group, a set among them; returns its height and the rest. -/
def piece? (m : Modes) : Text → Option (Nat × Text)
  | [] => none
  | '[' :: s => CharSet.ofText? m s
  | '\\' :: s => (Atom.escaped? m s).map fun (_, s) => (0, s)
  | c :: s =>
      if c = '\x7b' then none
      else if c = '.' then if m.whole then some (0, s) else none
      else if c = '^' ∨ c = '$' then some (0, s)
      else (Atom.ofChar? m c).map fun _ => (0, s)

/-- Whether a character repeats the piece in front of it. -/
def isRepetition (c : Char) : Bool := c == '?' || c == '*' || c == '+'

/-- What stands behind a repetition and a mark that makes it a short one. -/
def behindRepetition : Text → Text
  | '?' :: s => s
  | s => s

/-- Reads a group up to the parenthesis that closes it, or to the end of the text; returns its height and
the rest from there on. `fuel` bounds the number of steps. -/
def read? : Nat → Modes → Branches → Rest → Option (Nat × Rest)
  | 0, _, _, _ => none
  | fuel + 1, m, bs, r =>
      match m.skip r.text with
      | [] => some (bs.height, ⟨[], r.names⟩)
      | ')' :: s => some (bs.height, ⟨')' :: s, r.names⟩)
      | '|' :: s => read? fuel m bs.next ⟨s, r.names⟩
      | '(' :: s =>
          match opened? m r.names s with
          | none => none
          | some (.flags behind, r) => read? fuel behind bs.addFlags r
          | some (.group inside, r) =>
              match read? fuel inside Branches.empty r with
              | some (height, ⟨')' :: s, names⟩) => read? fuel m (bs.add (height + 1)) ⟨s, names⟩
              | _ => none
      | c :: s =>
          if isRepetition c then
            match bs.repeated? with
            | none => none
            | some bs => read? fuel m bs ⟨behindRepetition s, r.names⟩
          else
            match piece? m (c :: s) with
            | none => none
            | some (height, s) => read? fuel m (bs.add height) ⟨s, r.names⟩

end Rest

/-- The number of levels that an expression may have. -/
def heightLimit : Nat := 250

/-- Whether a text is a regular expression. -/
def isExpression (s : Text) : Bool :=
  match Rest.read? (s.length + 1) Modes.initial Branches.empty ⟨s, []⟩ with
  | some (height, ⟨[], _⟩) => decide (height ≤ heightLimit)
  | _ => false

end ScriptLint.Regular
