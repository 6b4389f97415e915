import ScriptLint.Script.Assembly

set_option autoImplicit false

/-!
Reading the statements of a script.

A list of statements is read the way an interpreter would: the name of the routine, an opening bracket,
two literals with a comma and a blank between them, and the end of the statement with its line feed. Each
literal is read by `Literal.read?`, so where a statement ends is decided by the script alone. The reader
accepts a text only if it is used up.
-/

namespace ScriptLint.Script

/-- Reads one statement from the front of a text. -/
def readStatement? (s : Text) : Option (Source × Text) := do
  let s ← Part.strip? (Routine.name ++ ['(']) s
  let (path, s) ← Literal.read? s
  let s ← Part.strip? [',', ' '] s
  let (contents, s) ← Literal.read? s
  let s ← Part.strip? [')', ';', '\n'] s
  some (⟨path, contents⟩, s)

/-- Reads at most `n` statements, which have to use up the text. -/
def readAtMost? : Nat → Text → Option (List Source)
  | _, [] => some []
  | 0, _ :: _ => none
  | n + 1, c :: s => do
      let (f, rest) ← readStatement? (c :: s)
      let fs ← readAtMost? n rest
      some (f :: fs)

/-- Reads a list of statements. A statement has a character at least, so there are no more statements
than characters. -/
def readStatements? (s : Text) : Option (List Source) := readAtMost? s.length s

end ScriptLint.Script
