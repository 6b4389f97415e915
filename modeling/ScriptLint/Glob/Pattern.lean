import ScriptLint.Glob.Token

set_option autoImplicit false

/-!
Patterns, read from text.

A pattern is read twice. The first reading goes over the whole text, slashes included, and finds what is
wrong with runs of stars and with sets: three stars or more are never right, two have to be a component
of their own, and a set needs a first member, which may be `]`, and a closing bracket. The second reading
cuts the text at its slashes and reads every component by itself, so a set cannot reach across a slash.

What is wrong is reported with a position, counted in characters from the beginning of the text that was
being read: the whole pattern, or the component.
-/

namespace ScriptLint.Glob

/-- What can be wrong with a pattern. -/
inductive Fault where
  /-- Three stars or more in a row. -/
  | stars
  /-- Two stars that are not a component of their own. -/
  | directories
  /-- A set that is not closed, or has no member. -/
  | set
  deriving DecidableEq, Repr

/-- A fault and where it was found. -/
structure SyntaxError where
  position : Nat
  fault : Fault
  deriving DecidableEq, Repr

namespace SyntaxError

/-- A fault in words. -/
def words : Fault → String
  | .stars => "wildcards are either regular `*` or recursive `**`"
  | .directories => "recursive wildcards must form a single path component"
  | .set => "invalid range pattern"

/-- The error in words. -/
def message (e : SyntaxError) : Text :=
  "Pattern syntax error near position ".toList ++ Text.ofNat e.position ++ [':', ' ']
    ++ (words e.fault).toList

end SyntaxError

/-- The members of a set, read from left to right: three characters with a hyphen in the middle are a
range, any other character stands for itself. -/
def members : Text → List Member
  | a :: '-' :: b :: s => .range a b :: members s
  | a :: s => .single a :: members s
  | [] => []

/-- Reads the rest of a set behind its first member: the text up to the next `]`, and what stands
behind that. -/
def closing? (first : Char) (s : Text) : Option (Text × Text) :=
  (Part.cutAt? [']'] s).map fun (inside, rest) => (first :: inside, rest)

/-- A set and what stands behind it. -/
structure SetReading where
  token : Token
  /-- The number of characters of the set, without its opening bracket. -/
  width : Nat
  rest : Text

/-- Reads a set behind its opening bracket. -/
def readSet? : Text → Option SetReading
  | '!' :: first :: s =>
      (closing? first s).map fun (inside, rest) =>
        ⟨.except (members inside), inside.length + 2, rest⟩
  | '!' :: [] => none
  | first :: s =>
      (closing? first s).map fun (inside, rest) => ⟨.within (members inside), inside.length + 1, rest⟩
  | [] => none

/-! ## Reading a pattern

The reader knows its position and the character before it, and is given as many steps as the text has
characters, since each step uses up at least one. -/

/-- Reads a text into tokens, from a position, behind a character. -/
def readTokens (position : Nat) (before : Option Char) :
    Nat → Text → Except SyntaxError (List Token)
  | 0, _ | _, [] => .ok []
  | fuel + 1, c :: s =>
      let go (width : Nat) (last : Char) (rest : Text) (t : Token) : Except SyntaxError (List Token) :=
        (readTokens (position + width) (some last) fuel rest).map (t :: ·)
      match c with
      | '?' => go 1 '?' s .anyChar
      | '*' =>
          let stars := (s.takeWhile (· == '*')).length
          let rest := s.dropWhile (· == '*')
          if stars = 0 then go 1 '*' s .anyRun
          else if stars = 1 then
            if before = none ∨ before = some '/' then
              match rest with
              | [] => .ok [.anyDirectories]
              | '/' :: rest => go 3 '/' rest .anyDirectories
              | _ => .error ⟨position + 2, .directories⟩
            else .error ⟨position - 1, .directories⟩
          else .error ⟨position + 2, .stars⟩
      | '[' =>
          match readSet? s with
          | some reading => go (1 + reading.width) ']' reading.rest reading.token
          | none => .error ⟨position, .set⟩
      | c => go 1 c s (.char c)

/-- Reads a text into tokens. -/
def tokens (s : Text) : Except SyntaxError (List Token) := readTokens 0 none s.length s

/-- A component of a pattern. -/
inductive Component where
  /-- Any number of directories. -/
  | directories
  /-- One name. -/
  | name (tokens : List Token)
  deriving DecidableEq, Repr

namespace Component

/-- The component that some tokens make. -/
def ofTokens : List Token → Component
  | [.anyDirectories] => .directories
  | ts => .name ts

/-- The one name that a component stands for, if it has no wildcards. -/
def literal? : Component → Option Text
  | .directories => none
  | .name ts =>
      if ts.all fun t => t.literal?.isSome then some (ts.filterMap Token.literal?) else none

/-- Whether a component matches a text. -/
def matchesName (c : Component) (name : Text) : Bool :=
  match c with
  | .directories => false
  | .name ts => Token.matchesName ts name

/-- Whether a component opens with a dot, and so can also mean `.` and `..`. -/
def opensWithDot : Component → Bool
  | .name (.char '.' :: _) => true
  | _ => false

end Component

/-- A pattern: whether it is counted from the root, its components, and whether it asks for
directories. -/
structure Pattern where
  isAbsolute : Bool
  components : List Component
  wantsDirectory : Bool
  deriving DecidableEq, Repr

namespace Pattern

/-- The texts between the slashes of a pattern; a slash at the end has nothing behind it. -/
def pieces (s : Text) : List Text :=
  let parts := s.splitOnP (· == '/')
  match parts.getLast? with
  | some [] => parts.dropLast
  | _ => parts

/-- Reads a pattern. -/
def read (s : Text) : Except SyntaxError Pattern := do
  let _ ← tokens s
  let isAbsolute := Part.opensWith ['/'] s
  let components ← (pieces (if isAbsolute then s.drop 1 else s)).mapM tokens
  pure ⟨isAbsolute, components.map Component.ofTokens, Part.endsWith ['/'] s⟩

end Pattern

end ScriptLint.Glob
