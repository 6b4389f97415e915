import ScriptLint.Tree.Basic
import ScriptLint.Tree.Path

set_option autoImplicit false

/-!
From paths to locations.

A path is walked step by step, and every step but the last has to end in a directory. A symbolic link on
the way is replaced by the path it points to, seen from the directory that holds it; what becomes of a link
at the very end depends on what the walk is for. Forty links are followed and no more, so links that point
at one another come to an end. The walk is total because each link uses up one of the forty and every other
step shortens the path.

The first thing that is wrong decides the cause: a NUL, the empty path and an overlong path are seen
before the walk begins, an overlong name when the walk comes to it. A walk to a file that is to be written does
not even look at a last name with a slash behind it.

What is found depends on the bytes of a path only. A text that was made of a broken name, with U+FFFD for
what could not be read, is another path, and leads nowhere.
-/

namespace ScriptLint.Tree

/-- The number of links that are followed on the way to one location. -/
def linkLimit : Nat := 40

/-- Where a path leads: to something that is there, or to a free place in a directory. -/
inductive Spot where
  | occupied (place : Location)
  | free (place : Location)

/-- What a walk is for. -/
inductive Purpose where
  /-- To look at what is there, and for that to follow a link at the end. -/
  | look
  /-- To take hold of what is there, be it a link. -/
  | hold
  /-- To write a file, also through a link at the end. -/
  | write
  deriving DecidableEq, Repr

/-- Walks the steps of a path from a directory, with `links` links still to be followed. -/
def walk (t : Tree) (purpose : Purpose) (links : Nat) (here : Location) :
    List Step → Except Cause Spot
  | [] => .ok (.occupied here)
  | .here :: rest | .slash :: rest => walk t purpose links here rest
  | .above :: rest => walk t purpose links here.parent rest
  | .into name :: rest =>
      if purpose = .write ∧ rest = [.slash] then .error .isDirectory
      else if Path.nameLimit < name.val.length then .error .nameTooLong
      else
        let place := here.child name
        match t.entry? place with
        | none => if rest.isEmpty then .ok (.free place) else .error .notFound
        | some .directory => walk t purpose links place rest
        | some (.file _ _) => if rest.isEmpty then .ok (.occupied place) else .error .notDirectory
        | some (.link target) =>
            if rest.isEmpty && purpose == .hold then .ok (.occupied place)
            else
              match links with
              | 0 => .error .linkLoop
              | links + 1 =>
                  walk t purpose links (if Path.isAbsolute target then .root else here)
                    (Path.steps target ++ rest)
  termination_by steps => (links, steps.length)

/-- Why a path is refused before it is walked. -/
def refusal? (p : Bytes) : Option Cause :=
  if p.contains 0 then some .nulInPath
  else if p.isEmpty then some .notFound
  else if Path.limit ≤ p.length then some .nameTooLong
  else none

/-- Walks the given steps of a path. -/
def spotOf (t : Tree) (purpose : Purpose) (p : Bytes) (steps : List Step) : Except Cause Spot :=
  match refusal? p with
  | some cause => .error cause
  | none => walk t purpose linkLimit (if Path.isAbsolute p then .root else .working) steps

/-- Where a path leads. -/
def spot (t : Tree) (purpose : Purpose) (p : Bytes) : Except Cause Spot :=
  spotOf t purpose p (Path.steps p)

/-- What a path leads to, and where that is. -/
def find (t : Tree) (purpose : Purpose) (p : Bytes) : Except Cause (Location × Entry) :=
  match spot t purpose p with
  | .error cause => .error cause
  | .ok (.free _) => .error .notFound
  | .ok (.occupied place) =>
      match t.entry? place with
      | some e => .ok (place, e)
      | none => .error .notFound

/-! ## Looking -/

/-- The contents of the file at a path. -/
def read (t : Tree) (p : Bytes) : Except Cause Bytes :=
  match t.find .look p with
  | .ok (_, .file contents _) => .ok contents
  | .ok (_, .directory) => .error .isDirectory
  | .ok (_, .link _) => .error .notFound
  | .error cause => .error cause

/-- Whether a path leads to a file. -/
def isFile (t : Tree) (p : Bytes) : Bool :=
  match t.find .look p with
  | .ok (_, .file _ _) => true
  | _ => false

/-- Whether a path leads to a directory. -/
def isDirectory (t : Tree) (p : Bytes) : Bool :=
  match t.find .look p with
  | .ok (_, .directory) => true
  | _ => false

/-- Whether there is anything at a path, if only a link to nothing. -/
def isTaken (t : Tree) (p : Bytes) : Bool :=
  (t.find .look p).toBool || (t.find .hold p).toBool

/-- The names in the directory at a path, in order; none if there is no directory. -/
def list (t : Tree) (p : Bytes) : List Name :=
  match t.find .look p with
  | .ok (place, .directory) => t.names place
  | _ => []

/-- What may be started at a path: a program, or a file that was one. A directory and a file that never
was a program may not be started. -/
def startable (t : Tree) (p : Bytes) : Except Cause (Option Executable) :=
  match t.find .look p with
  | .ok (_, .file _ (.program exe)) => .ok (some exe)
  | .ok (_, .file _ .overwritten) => .ok none
  | .ok _ => .error .denied
  | .error cause => .error cause

end ScriptLint.Tree
