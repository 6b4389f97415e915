import Mathlib.Data.List.Lex
import Mathlib.Data.List.Nodup
import ScriptLint.Proofs.Glob.Files

set_option autoImplicit false

/-!
In which order the walk finds its paths.

The entries of a directory are taken in order, and what is found at one of them comes before what is
found at the next. So two paths that part somewhere are in the order of the names by which they
part. Only a `**` can find one path at an entry and another one below it that is longer: with the
names behind the `**` beginning at the entry, or further down. If all `**` stand together, the
number of these names is fixed, so that the two differ in their length.

Both facts are one induction over the walk, for any relation that holds between paths that part
in order, and, if there is a `**`, between a shorter path and a longer one.

The order is that of the bytes. What is handed on is in the same order as long as it consists of
the same bytes, and two paths with U+FFFD in place of different bytes may even be equal.
-/

namespace ScriptLint

namespace Glob

open ScriptLint.Path ScriptLint.Tree

variable {t : Tree} {d : Nat} {ns ms : List Name} {n : Name} {p q : Bytes} {c : Component}
  {cs : List Component} {ts : List Token} {R : List Bytes → List Bytes → Prop}

/-! ## Runs of `**` -/

/-- What a path is cut into: the names up to the entry, its own name, and those behind it. -/
theorem GoesOn.pieces_eq (h : GoesOn ns n cs p) :
    ∃ ms : List Name, pieces p = ns.map Subtype.val ++ n.val :: ms.map Subtype.val
      ∧ Meets cs (n :: ms) := by
  obtain ⟨ms, hmeets, rfl⟩ := h
  refine ⟨ms, ?_, hmeets⟩
  rw [pieces_ofNames (by simp), List.map_append, List.map_cons]

/-- Without a `**` the number of names is fixed. -/
theorem GoesOn.length_eq (hcs : .directories ∉ cs) (h : GoesOn ns n cs p) :
    (pieces p).length = ns.length + cs.length := by
  obtain ⟨ms, hpieces, hmeets⟩ := h.pieces_eq
  rw [hpieces, ← hmeets.length_eq hcs]
  simp

/-- Under a `**` there may be more names, and there is at least one. -/
theorem GoesOn.length_le (hcs : .directories ∉ cs) (h : GoesOn ns n (.directories :: cs) p) :
    ns.length + cs.length ≤ (pieces p).length ∧ ns.length < (pieces p).length := by
  obtain ⟨ms, hpieces, hmeets⟩ := h.pieces_eq
  obtain ⟨inner, rest, hsplit, hrest⟩ := meets_directories_iff.1 hmeets
  have hlength : ms.length + 1 = inner.length + cs.length := by
    rw [← List.length_cons (a := n), hsplit, List.length_append, hrest.length_eq hcs]
  rw [hpieces, List.length_append, List.length_cons, List.length_map, List.length_map]
  omega

end Glob

end ScriptLint
