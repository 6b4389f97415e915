import ScriptLint.Glob.Pattern
import ScriptLint.Tree.Path

set_option autoImplicit false

/-!
What a pattern means.

A pattern is matched against the names on the way to a file, from the outside inwards. Each component
stands for one name, and `**` for any number of names, which are the names of directories because more
follows them. The names need not be texts. Only a text can be matched by a component, while a `**`
stands for names of any kind.
-/

namespace ScriptLint.Glob

/-- The names that some tokens match: the texts that they match, each by its bytes. -/
def Token.MatchesEntry (ts : List Token) (n : Name) : Prop :=
  ∃ s : Text, Utf8.encode s = n.val ∧ Token.Matches ts s

/-- The lists of names that some components match. -/
inductive Meets : List Component → List Name → Prop where
  | nil : Meets [] []
  | name {ts : List Token} {cs : List Component} {n : Name} {ns : List Name} :
      Token.MatchesEntry ts n → Meets cs ns → Meets (.name ts :: cs) (n :: ns)
  | skip {cs : List Component} {ns : List Name} :
      Meets cs ns → Meets (.directories :: cs) ns
  | enter {cs : List Component} {n : Name} {ns : List Name} :
      Meets (.directories :: cs) ns → Meets (.directories :: cs) (n :: ns)

/-! ## Patterns as texts

The same, said of the text of a pattern: what stands between two slashes is matched against a name
as it is written. -/

/-- The characters of a set, given by what stands between its brackets. From left to right, a
character with a hyphen and another one behind it is the beginning of a range, and any other
character is a member by itself. -/
inductive InSet (c : Char) : Text → Prop where
  | range {low high : Char} {set : Text} :
      low ≤ c → c ≤ high → InSet c (low :: '-' :: high :: set)
  | behindRange {low high : Char} {set : Text} :
      InSet c set → InSet c (low :: '-' :: high :: set)
  | single {set : Text} : (∀ high more, set ≠ '-' :: high :: more) → InSet c (c :: set)
  | behindSingle {other : Char} {set : Text} :
      (∀ high more, set ≠ '-' :: high :: more) → InSet c set → InSet c (other :: set)

/-- The names that the text of a component matches. A set reaches up to the first `]` behind its first
member. -/
inductive Fits : Text → Text → Prop where
  | nil : Fits [] []
  | char {c : Char} {p s : Text} :
      c ≠ '*' → c ≠ '?' → c ≠ '[' → Fits p s → Fits (c :: p) (c :: s)
  | anyChar {c : Char} {p s : Text} : Fits p s → Fits ('?' :: p) (c :: s)
  | anyRun {p s : Text} (run : Text) : Fits p s → Fits ('*' :: p) (run ++ s)
  | within {first c : Char} {inside p s : Text} :
      first ≠ '!' → ']' ∉ inside → InSet c (first :: inside) → Fits p s →
      Fits ('[' :: first :: (inside ++ ']' :: p)) (c :: s)
  | except {first c : Char} {inside p s : Text} :
      ']' ∉ inside → ¬ InSet c (first :: inside) → Fits p s →
      Fits ('[' :: '!' :: first :: (inside ++ ']' :: p)) (c :: s)

/-- The lists of names that the components of a pattern match, given by their texts. -/
inductive Selects : List Text → List Text → Prop where
  | nil : Selects [] []
  | name {p n : Text} {ps ns : List Text} :
      p ≠ ['*', '*'] → Fits p n → Selects ps ns → Selects (p :: ps) (n :: ns)
  | directories {ps ns : List Text} (inner : List Text) :
      Selects ps ns → Selects (['*', '*'] :: ps) (inner ++ ns)

end ScriptLint.Glob
