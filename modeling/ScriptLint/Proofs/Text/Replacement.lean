import ScriptLint.Text.Basic

set_option autoImplicit false

/-!
Replacing a character throughout a text.

A replacement looks at each character on its own. So it goes through the parts of a text one by
one, it leaves a text alone that does not hold the character, and two replacements can change
places if neither has to do with what the other one writes.
-/

namespace ScriptLint.Text

variable {a b : Char} {x y s : Text}

/-- Replacing goes character by character. -/
theorem replaceChar_append (a : Char) (x s t : Text) :
    replaceChar a x (s ++ t) = replaceChar a x s ++ replaceChar a x t :=
  List.flatMap_append

/-- A text without the character stays as it is. -/
theorem replaceChar_of_not_mem (h : a ∉ s) : replaceChar a x s = s := by
  induction s with
  | nil => rfl
  | cons c s ih =>
      obtain ⟨hc, hs⟩ := not_or.1 (fun hmem => h (List.mem_cons.2 hmem))
      rw [replaceChar, List.flatMap_cons, if_neg (Ne.symm hc), ← replaceChar, ih hs,
        List.singleton_append]

/-- **Replacements that do not meet can change places**: they look for different characters,
and what the one writes the other leaves as it is. -/
theorem replaceChar_comm (hne : a ≠ b) (hx : b ∉ x) (hy : a ∉ y) (s : Text) :
    replaceChar b y (replaceChar a x s) = replaceChar a x (replaceChar b y s) := by
  induction s with
  | nil => rfl
  | cons c s ih =>
      have hsplit : c :: s = [c] ++ s := rfl
      rw [hsplit]
      simp only [replaceChar_append, ih]
      refine congrArg (· ++ _) ?_
      -- on one character at most one of the two has something to do
      by_cases hca : c = a
      · subst hca
        have hb : b ∉ [c] := by simpa using hne.symm
        have hfirst : replaceChar c x [c] = x := by simp [replaceChar]
        rw [replaceChar_of_not_mem hb, hfirst, replaceChar_of_not_mem hx]
      · have ha : a ∉ [c] := by simpa using Ne.symm hca
        rw [replaceChar_of_not_mem ha]
        by_cases hcb : c = b
        · subst hcb
          have hsecond : replaceChar c y [c] = y := by simp [replaceChar]
          rw [hsecond, replaceChar_of_not_mem hy]
        · have hb : b ∉ [c] := by simpa using Ne.symm hcb
          rw [replaceChar_of_not_mem hb, replaceChar_of_not_mem ha]

end ScriptLint.Text
