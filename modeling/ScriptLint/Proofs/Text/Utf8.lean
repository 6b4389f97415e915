import ScriptLint.Text.Utf8

set_option autoImplicit false

/-!
The two readings of a byte string.

Both look at the same units, so where the strict one gives a text at all, the lossy one
gives the same.
-/

namespace ScriptLint.Utf8

/-- The characters of units that are all well formed, whatever would stand for a
malformed one. -/
private theorem filterMap_id_eq_map_getD {us : List Piece} (hus : us.all Option.isSome = true)
    (c : Char) :
    us.filterMap id = us.map fun u => u.getD c := by
  induction us with
  | nil => rfl
  | cons u us ih =>
      rw [List.all_cons, Bool.and_eq_true] at hus
      obtain ⟨x, rfl⟩ := Option.isSome_iff_exists.1 hus.1
      have hx : id (some x) = some x := rfl
      rw [List.filterMap_cons_some hx, List.map_cons, Option.getD_some, ih hus.2]

/-- **A well-formed text is read alike by both.** -/
theorem lossy_of_strict? {bytes : Bytes} {s : Text} (h : strict? bytes = some s) :
    lossy bytes = s := by
  rw [strict?] at h
  by_cases hall : (units bytes).all Option.isSome = true
  · rw [if_pos hall, Option.some.injEq, filterMap_id_eq_map_getD hall replacement] at h
    exact h
  · rw [if_neg hall] at h
    exact absurd h (by simp)

end ScriptLint.Utf8
