import ScriptLint.Process.Executable
import ScriptLint.Tree.Location

set_option autoImplicit false

/-!
File trees.

A tree lists what stands at which location: directories, files with their contents, and symbolic links
with the path they point to. A file may be a program, and stays marked as one when other contents are
written to it. The anchors of locations are directories without being listed.

No location is listed twice, and a tree carries the proof of that: an entry is only ever put in the
place of what stood there. So the names of a directory are distinct. They are given in the order of
their bytes, whether they are texts or not.
-/

namespace ScriptLint

/-- What a file is to the one who starts it. -/
inductive Role where
  /-- A file that may not be started. -/
  | data
  | program (exe : Executable)
  /-- A file that may be started, but holds no program any more. -/
  | overwritten

/-- The role of a file whose contents have been replaced. -/
def Role.overwrite : Role → Role
  | data => data
  | _ => overwritten

/-- What stands at a location. -/
inductive Entry where
  | directory
  | file (contents : Bytes) (role : Role)
  | link (target : Bytes)

/-- A file tree. -/
structure Tree where
  entries : List (Location × Entry)
  /-- No location is listed twice. -/
  distinct : (entries.map Prod.fst).Nodup

namespace Tree

/-- A tree in which nothing is listed. -/
def empty : Tree := ⟨[], .nil⟩

/-- What stands at a location. -/
def entry? (t : Tree) (place : Location) : Option Entry :=
  if place.names = [] then some .directory
  else (t.entries.find? fun e => e.1 = place).map Prod.snd

/-- The tree without what stands at a location. -/
def erase (t : Tree) (place : Location) : Tree where
  entries := t.entries.filter fun old => old.1 ≠ place
  distinct := t.distinct.sublist (List.filter_sublist.map Prod.fst)

/-- What has been taken away from a location is not listed there. -/
theorem not_mem_erase (t : Tree) (place : Location) :
    place ∉ (t.erase place).entries.map Prod.fst := by
  intro hmem
  obtain ⟨old, hold, heq⟩ := List.mem_map.1 hmem
  exact of_decide_eq_true (List.mem_filter.1 hold).2 heq

/-- The tree with an entry at a location, in place of what stood there. -/
def put (t : Tree) (place : Location) (e : Entry) : Tree where
  entries := (place, e) :: (t.erase place).entries
  distinct := List.nodup_cons.2 ⟨t.not_mem_erase place, (t.erase place).distinct⟩

/-- Whether a name does not come after another one. -/
def nameLe (a b : Name) : Bool := !decide (b.val < a.val)

/-- The names in a directory, in order. -/
def names (t : Tree) (here : Location) : List Name :=
  (t.entries.filterMap fun e => here.nameIn? e.1).mergeSort nameLe

/-- All names in a tree are texts. -/
def HasTextNames (t : Tree) : Prop := ∀ e ∈ t.entries, ∀ n ∈ e.1.names, Path.IsText n.val

end Tree

end ScriptLint
