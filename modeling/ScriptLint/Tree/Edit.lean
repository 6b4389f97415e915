import ScriptLint.Tree.Resolve

set_option autoImplicit false

/-!
Changing a tree by path: writing a file, making directories, removing a file.

Writing follows links, also to a file that is not there yet, and never makes a directory. Making a
directory makes the directories around it first if they are missing, and is content with a directory
that is there. Removing takes away a link rather than what it points to.

A change that is refused leaves the tree as it was, with one exception: directories that were made around
one that cannot be made stay.
-/

namespace ScriptLint.Tree

/-- What comes of a change: the tree behind it, and why the change was refused, if it was. -/
structure Change where
  tree : Tree
  refusal : Option Cause

namespace Change

/-- A change that has been made. -/
def made (t : Tree) : Change := ⟨t, none⟩

/-- A change that was refused. -/
def refused (t : Tree) (cause : Cause) : Change := ⟨t, some cause⟩

end Change

/-! ## Files -/

/-- Writes a file. It cannot be written to a directory, nor to a path that asks for one by a slash at its
end. -/
def write (t : Tree) (p : Bytes) (contents : Bytes) : Change :=
  match t.spot .write p with
  | .error cause => .refused t cause
  | .ok (.free place) => .made (t.put place (.file contents .data))
  | .ok (.occupied place) =>
      match t.entry? place with
      | some (.file _ role) => .made (t.put place (.file contents role.overwrite))
      | _ => .refused t .isDirectory

/-- Removes a file or a link. -/
def remove (t : Tree) (p : Bytes) : Change :=
  match t.spotOf .hold p (Path.bareSteps p) with
  | .error cause => .refused t cause
  | .ok (.free _) => .refused t .notFound
  | .ok (.occupied place) =>
      match t.entry? place with
      | some .directory => .refused t .isDirectory
      | _ => if Path.endsInSlash p then .refused t .notDirectory else .made (t.erase place)

/-! ## Directories -/

/-- The tree with one more directory, the last of the given steps of the path `p`. -/
def makeDirectory (t : Tree) (p : Bytes) (steps : List Step) : Except Cause Tree :=
  match t.spotOf .hold p steps with
  | .error cause => .error cause
  | .ok (.free place) => .ok (t.put place .directory)
  | .ok (.occupied _) => .error .taken

/-- Whether the given steps of the path `p` lead to a directory. -/
def leadsToDirectory (t : Tree) (p : Bytes) (steps : List Step) : Bool :=
  match t.spotOf .look p steps with
  | .ok (.occupied place) =>
      match t.entry? place with
      | some .directory => true
      | _ => false
  | _ => false

/-- Is content with a directory that is there. -/
def settle (t : Tree) (p : Bytes) (steps : List Step) (cause : Cause) : Change :=
  if t.leadsToDirectory p steps then .made t else .refused t cause

/-- Makes the directory that some steps of the path `p` lead to, and before that, if something is missing
on the way, the directories around it. -/
def makeWithin (around : Tree → Change) (t : Tree) (p : Bytes) (steps : List Step) : Change :=
  match t.makeDirectory p steps with
  | .ok t => .made t
  | .error .notFound =>
      match around t with
      | ⟨t, some cause⟩ => .refused t cause
      | ⟨t, none⟩ =>
          match t.makeDirectory p steps with
          | .ok t => .made t
          | .error cause => t.settle p steps cause
  | .error cause => t.settle p steps cause

/-- Makes the directory that some steps of the path `p` lead to, the last step first, and those around it
that are missing. -/
def makeAround (p : Bytes) : List Step → Tree → Change
  | [], t => .made t
  | step :: around, t => makeWithin (makeAround p around) t p (step :: around).reverse

/-- Makes a directory and those around it that are missing. The empty path names a directory that is
there. The directories around one are found without regard to a step `.`, but the path itself is taken with
all its steps, so a last step `.` asks for a directory that is there. -/
def makeDirectories (t : Tree) (p : Bytes) : Change :=
  let steps := Path.bareSteps p
  if p.isEmpty then .made t
  else makeWithin (makeAround p ((steps.filter (· ≠ .here)).dropLast.reverse)) t p steps

/-! ## Setting up -/

/-- The tree with an entry at a path and the directories around it; a tree that has no room for the
entry stays as it is. -/
def plant (t : Tree) (p : Bytes) (e : Entry) : Tree :=
  let around := (makeAround p (Path.bareSteps p).dropLast.reverse t).tree
  match around.spotOf .hold p (Path.bareSteps p) with
  | .ok (.free place) | .ok (.occupied place) =>
      if place.names.isEmpty then around else around.put place e
  | .error _ => around

end ScriptLint.Tree
