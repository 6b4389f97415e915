import ScriptLint.Tree.Path

set_option autoImplicit false

/-!
Locations: where a file is, whatever path leads to it.

A location is reached from an anchor by a list of names, from the outside inwards. The anchor is the
root of the file system, the working directory, or one of the directories around the working
directory, whose own names are not known. No name is `.` or `..`: those are steps of a path, not
names, and are used up on the way.
-/

namespace ScriptLint

/-- Where a location is counted from. -/
inductive Anchor where
  | root
  /-- The directory that is `n` levels above the working directory. -/
  | above (n : Nat)
  deriving DecidableEq, Repr

/-- A place in the file system. -/
structure Location where
  anchor : Anchor
  names : List Name
  deriving DecidableEq, Repr

namespace Location

/-- The root of the file system. -/
def root : Location := ⟨.root, []⟩

/-- The working directory. -/
def working : Location := ⟨.above 0, []⟩

/-- The place of a name in a directory. -/
def child (here : Location) (name : Name) : Location := ⟨here.anchor, here.names ++ [name]⟩

/-- The directory around a place; the root is its own. -/
def parent (here : Location) : Location :=
  match here.names, here.anchor with
  | [], .root => root
  | [], .above n => ⟨.above (n + 1), []⟩
  | names, anchor => ⟨anchor, names.dropLast⟩

/-- The name that a place has in the directory `here`, if it is there. -/
def nameIn? (here place : Location) : Option Name :=
  if place.anchor = here.anchor ∧ place.names.dropLast = here.names then place.names.getLast?
  else none

end Location

end ScriptLint
