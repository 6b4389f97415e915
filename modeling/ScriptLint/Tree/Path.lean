import ScriptLint.Text.Utf8

set_option autoImplicit false

/-!
Paths: the bytes by which files are named.

A file system takes the bytes of a path as they are and looks at its slashes only. A name is often a
text in UTF-8, and need not be one. So paths are bytes here, and a text stands for the bytes that it is
written with wherever a path is wanted.

A path is cut at its slashes into steps. Empty steps count for nothing, but a slash at the end says that
the path names a directory, and is a step of its own. `.` and `..` are steps, but they are no names:
what stands in a directory is never called that, nor nothing, nor anything with a slash in it. A `Name`
carries the proof of that, so nobody who is handed one has to ask again. A path that begins with a slash
is counted from the root.
-/

namespace ScriptLint

/-- A text names a file by its bytes. -/
instance : Coe Text Bytes := ⟨Utf8.encode⟩

namespace Path

/-- The byte between the steps of a path. -/
def slash : UInt8 := 0x2F

/-- The byte of which `.` and `..` are made. -/
def dot : UInt8 := 0x2E

/-- A path has at most this many bytes, less one. -/
def limit : Nat := 4096

/-- A name has at most this many bytes. -/
def nameLimit : Nat := 255

/-- Whether a path is counted from the root. -/
def isAbsolute (p : Bytes) : Bool := Part.opensWith [slash] p

/-- Whether a path ends in a slash. -/
def endsInSlash (p : Bytes) : Bool := Part.endsWith [slash] p

/-- The path of `q` as seen from the directory `p`. -/
def join (p q : Bytes) : Bytes :=
  if isAbsolute q then q
  else if p.isEmpty || endsInSlash p then p ++ q
  else p ++ slash :: q

/-- Whether a path is `.` in one of its spellings. -/
def isHere (p : Bytes) : Bool :=
  match p.splitOnP (· == slash) with
  | first :: rest => first == [dot] && rest.all fun piece => piece.isEmpty || piece == [dot]
  | [] => false

/-- What stands between the slashes of a path, if it is anything. -/
def pieces (p : Bytes) : List Bytes := (p.splitOnP (· == slash)).filter fun piece => !piece.isEmpty

/-- Bytes that are those of a text. -/
def IsText (bytes : Bytes) : Prop := ∃ s : Text, Utf8.encode s = bytes

/-- Bytes that can be a name in a directory. -/
structure IsName (bytes : Bytes) : Prop where
  ne_nil : bytes ≠ []
  slash_not_mem : slash ∉ bytes
  ne_here : bytes ≠ [dot]
  ne_above : bytes ≠ [dot, dot]

/-- The condition on a name, clause by clause. -/
theorem isName_iff {bytes : Bytes} :
    IsName bytes ↔ bytes ≠ [] ∧ slash ∉ bytes ∧ bytes ≠ [dot] ∧ bytes ≠ [dot, dot] :=
  ⟨fun h => ⟨h.1, h.2, h.3, h.4⟩, fun h => ⟨h.1, h.2.1, h.2.2.1, h.2.2.2⟩⟩

instance (bytes : Bytes) : Decidable (IsName bytes) := decidable_of_iff _ isName_iff.symm

end Path

/-- A name in a directory. -/
abbrev Name := { bytes : Bytes // Path.IsName bytes }

/-- One step of a path. -/
inductive Step where
  /-- `.`, which stays where it is. -/
  | here
  /-- `..`, which goes to the directory around. -/
  | above
  /-- A name, which goes to what is called that. -/
  | into (name : Name)
  /-- The slash at the end, which stays where it is and is not content with a file. -/
  | slash
  deriving DecidableEq, Repr

namespace Path

/-- The step that is written between two slashes. -/
def stepOf (piece : Bytes) : Step :=
  if h : IsName piece then .into ⟨piece, h⟩ else if piece = [dot, dot] then .above else .here

/-- The steps of a path, without regard to a slash at its end. -/
def bareSteps (p : Bytes) : List Step := (pieces p).map stepOf

/-- The steps of a path. -/
def steps (p : Bytes) : List Step := bareSteps p ++ if endsInSlash p then [.slash] else []

end Path

end ScriptLint
