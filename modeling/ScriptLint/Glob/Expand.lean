import ScriptLint.Glob.Walk

set_option autoImplicit false

/-!
Inputs of a run, expanded into files.

An input that holds none of `*`, `?` and `[` is a path, and so is one that leads to a file as it stands,
whatever it looks like. Any other input is a pattern and is replaced by the files that it matches. One
that is no valid pattern, or matches no file, is kept as a path, so that the run can say what is wrong
with it. Every input gives at least one path, in the order of the inputs.

The paths that take the place of a pattern are handed on as texts. One that is no text, since a
directory on the way has a broken name, is decoded as far as it goes: what comes out is no path of the
file any more, and two such paths may come out the same.
-/

namespace ScriptLint.Glob

/-- What has been made of one input. -/
structure Expansion where
  files : List Text
  /-- The reason why the input could not be read as a pattern. -/
  error? : Option SyntaxError
  deriving DecidableEq, Repr

/-- Whether an input could be a pattern. -/
def hasWildcard (input : Text) : Bool := input.any fun c => c == '*' || c == '?' || c == '['

/-- Expands one input. -/
def expandInput (t : Tree) (input : Text) : Expansion :=
  if !hasWildcard input || t.isFile input then ⟨[input], none⟩
  else
    match Pattern.read input with
    | .error e => ⟨[input], some e⟩
    | .ok pattern =>
        match (paths t pattern).filter t.isFile with
        | [] => ⟨[input], none⟩
        | found => ⟨found.map Utf8.lossy, none⟩

/-- Expands a list of inputs. -/
def expand (t : Tree) (inputs : List Text) : List Text :=
  inputs.flatMap fun input => (expandInput t input).files

end ScriptLint.Glob
