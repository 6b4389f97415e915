import ScriptLint.Text.Basic

set_option autoImplicit false

/-!
Tokens: what a pattern is made of, and which names they match.

A name is matched as a whole, character by character. `?` stands for any one character, `*` for any run
of characters, a set in brackets for one character of the set or, after `!`, for one outside it, and
every other character for itself. A leading dot is a character like any other.

`matchesName` fills a table from the last token to the first. The row of some tokens says, for each
ending of the name from the whole name down to the empty one, whether the tokens match that ending; a
`*` in front turns a row into "this ending or a shorter one is matched". Each row has one entry more than
the name has characters, so the work is the product of the two lengths, whatever the pattern. `Matches`
says the same by rules.
-/

namespace ScriptLint.Glob

/-- One member of a set: a character, or a range with both ends. -/
inductive Member where
  | single (c : Char)
  | range (low high : Char)
  deriving DecidableEq, Repr

/-- Whether a character is that member, or in that range. A reversed range holds nothing. -/
def Member.holds (m : Member) (c : Char) : Bool :=
  match m with
  | .single d => c == d
  | .range low high => decide (low ≤ c) && decide (c ≤ high)

/-- One token of a pattern. -/
inductive Token where
  | char (c : Char)
  | anyChar
  | anyRun
  | anyDirectories
  | within (set : List Member)
  | except (set : List Member)
  deriving DecidableEq, Repr

namespace Token

/-- Whether a token that stands for one character stands for this one. -/
def accepts (t : Token) (c : Char) : Bool :=
  match t with
  | .char d => c == d
  | .anyChar => true
  | .within set => set.any fun m => m.holds c
  | .except set => !set.any fun m => m.holds c
  | .anyRun | .anyDirectories => false

/-- Whether a token stands for a run of any length. -/
def isRun : Token → Bool
  | .anyRun | .anyDirectories => true
  | _ => false

/-- For each entry of a row, whether it or an entry behind it holds. -/
def orLater (row : List Bool) : List Bool :=
  row.foldr (fun b later => (b || later.headD false) :: later) []

/-- The row of some tokens: which endings of the name they match. -/
def row (name : Text) : List Token → List Bool
  | [] => name.map (fun _ => false) ++ [true]
  | t :: ts =>
      let behind := row name ts
      if t.isRun then orLater behind
      else List.zipWith (fun c b => t.accepts c && b) name behind.tail ++ [false]

/-- Whether some tokens match a name. -/
def matchesName (tokens : List Token) (name : Text) : Bool := (row name tokens).headD false

/-- The names that some tokens match, by rules. -/
inductive Matches : List Token → Text → Prop where
  | nil : Matches [] []
  | one {t : Token} {ts : List Token} {c : Char} {s : Text} :
      t.isRun = false → t.accepts c = true → Matches ts s → Matches (t :: ts) (c :: s)
  | runEnd {t : Token} {ts : List Token} {s : Text} :
      t.isRun = true → Matches ts s → Matches (t :: ts) s
  | runMore {t : Token} {ts : List Token} {c : Char} {s : Text} :
      t.isRun = true → Matches (t :: ts) s → Matches (t :: ts) (c :: s)

/-- The character that a token stands for, if it stands for itself. -/
def literal? : Token → Option Char
  | .char c => some c
  | _ => none

end Token

end ScriptLint.Glob
