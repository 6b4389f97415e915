import ScriptLint.Text.Part

set_option autoImplicit false

/-!
Cutting at a mark.

`cutAt?` cuts at the first occurrence. Two facts are all that a reader built on it
needs: what is cut gives the whole again, and a mark whose first element does not stand
in front of it is where the cut is made. Overlaps of a mark with itself play no part in
the second one, since an occurrence that began earlier would begin with that element.

The other side of the first occurrence is the last one: a list that is cut there is cut
in one way only.

Openings and endings are said in terms of appending, so a reader that strips one after
the other and a test that looks at both can be compared.
-/

namespace ScriptLint.Part

variable {α : Type} [DecidableEq α]

@[simp] theorem strip?_append_self (lead s : List α) : strip? lead (lead ++ s) = some s :=
  strip?_eq_some_iff.2 rfl

/-- What stands before and after a mark, with the mark between, is the whole. -/
theorem eq_append_of_cutAt? {mark s before rest : List α}
    (h : cutAt? mark s = some (before, rest)) : s = before ++ mark ++ rest := by
  induction s generalizing before with
  | nil =>
      rw [cutAt?_nil, Option.map_eq_some_iff] at h
      obtain ⟨r, hr, heq⟩ := h
      obtain ⟨rfl, rfl⟩ := Prod.mk.inj heq
      rw [List.nil_append]
      exact strip?_eq_some_iff.1 hr
  | cons a s ih =>
      rw [cutAt?_cons] at h
      cases hstrip : strip? mark (a :: s) with
      | some r =>
          simp only [hstrip, Option.some.injEq, Prod.mk.injEq] at h
          obtain ⟨rfl, rfl⟩ := h
          rw [List.nil_append]
          exact strip?_eq_some_iff.1 hstrip
      | none =>
          simp only [hstrip, Option.map_eq_some_iff] at h
          obtain ⟨⟨b, r⟩, hcut, heq⟩ := h
          obtain ⟨rfl, rfl⟩ := Prod.mk.inj heq
          rw [ih hcut]
          simp only [List.cons_append]

/-- **The first occurrence.** A mark is found behind elements among which its first one
is not. -/
theorem cutAt?_append {m : α} {mark before rest : List α} (hm : m ∉ before) :
    cutAt? (m :: mark) (before ++ (m :: mark) ++ rest) = some (before, rest) := by
  induction before with
  | nil =>
      rw [List.nil_append, List.cons_append, cutAt?_cons, ← List.cons_append, strip?_append_self]
  | cons a before ih =>
      simp only [List.mem_cons, not_or] at hm
      -- the mark does not begin with `a`
      have hstrip : strip? (m :: mark) (a :: (before ++ (m :: mark) ++ rest)) = none := by
        rw [strip?, if_neg hm.1]
      rw [List.cons_append, List.cons_append, cutAt?_cons, hstrip]
      simp only [ih hm.2, Option.map_some]

/-- An element is found behind what does not hold it. -/
theorem cutAt?_singleton_eq_some_iff {m : α} {s before rest : List α} :
    cutAt? [m] s = some (before, rest) ↔ s = before ++ m :: rest ∧ m ∉ before := by
  constructor
  · intro h
    have hs : s = before ++ m :: rest := by
      rw [eq_append_of_cutAt? h, List.append_assoc, List.singleton_append]
    refine ⟨hs, fun hm => ?_⟩
    -- the cut would have been made within `before`
    obtain ⟨a, b, rfl, ha⟩ := List.eq_append_cons_of_mem hm
    have hcut : cutAt? [m] (a ++ [m] ++ (b ++ m :: rest)) = some (a, b ++ m :: rest) :=
      cutAt?_append ha
    have hsame : s = a ++ [m] ++ (b ++ m :: rest) := by simp [hs]
    rw [← hsame, h, Option.some.injEq, Prod.mk.injEq] at hcut
    exact absurd hcut.1 (by simp)
  · rintro ⟨rfl, hm⟩
    have hcut : cutAt? [m] (before ++ [m] ++ rest) = some (before, rest) := cutAt?_append hm
    rwa [List.append_assoc, List.singleton_append] at hcut

/-- Two lists that are cut at the first occurrence of the same element are cut alike. -/
theorem eq_of_first_eq {m : α} {a b c d : List α} (ha : m ∉ a) (hc : m ∉ c)
    (h : a ++ m :: b = c ++ m :: d) : a = c ∧ b = d := by
  have hcut : cutAt? [m] (a ++ m :: b) = some (a, b) := cutAt?_singleton_eq_some_iff.2 ⟨rfl, ha⟩
  have hcut' : cutAt? [m] (a ++ m :: b) = some (c, d) := cutAt?_singleton_eq_some_iff.2 ⟨h, hc⟩
  rw [hcut, Option.some.injEq, Prod.mk.injEq] at hcut'
  exact hcut'

/-! ## Openings and endings -/

/-- A text opens with a lead when the lead is its first part. -/
theorem opensWith_iff {lead s : List α} : opensWith lead s = true ↔ ∃ rest, s = lead ++ rest := by
  rw [opensWith, Option.isSome_iff_exists]
  simp only [strip?_eq_some_iff]

/-- What stands before an ending is what the ending has to be put behind again. -/
theorem stripEnd?_eq_some_iff {tail s before : List α} :
    stripEnd? tail s = some before ↔ s = before ++ tail := by
  rw [stripEnd?, Option.map_eq_some_iff]
  constructor
  · rintro ⟨rest, hrest, rfl⟩
    have hrev : s.reverse = tail.reverse ++ rest := strip?_eq_some_iff.1 hrest
    rw [← List.reverse_reverse s, hrev, List.reverse_append, List.reverse_reverse]
  · rintro rfl
    refine ⟨before.reverse, strip?_eq_some_iff.2 ?_, List.reverse_reverse before⟩
    rw [List.reverse_append]

/-- A text ends with a tail when the tail is its last part. -/
theorem endsWith_iff {tail s : List α} : endsWith tail s = true ↔ ∃ before, s = before ++ tail := by
  rw [endsWith, Option.isSome_iff_exists]
  simp only [stripEnd?_eq_some_iff]

/-! ## Words

Where a word occurs in a list that is put together from two. An element that is not in
the word separates the two sides; and what does not hold the first element of the word
may be left out in front. -/

theorem opensWith_cons_nil (a : α) (word : List α) : opensWith (a :: word) [] = false := rfl

theorem opensWith_cons_cons (a b : α) (word s : List α) :
    opensWith (a :: word) (b :: s) = (decide (a = b) && opensWith word s) := by
  rw [opensWith, strip?]
  by_cases hab : a = b
  · rw [if_pos hab, decide_eq_true hab, Bool.true_and, opensWith]
  · rw [if_neg hab, decide_eq_false hab, Bool.false_and, Option.isSome_none]

/-- A word stands at the front of a text or further on. -/
theorem holds_cons (word : List α) (a : α) (s : List α) :
    holds word (a :: s) = (opensWith word (a :: s) || holds word s) := rfl

/-- An empty text holds no word. -/
theorem holds_nil {word : List α} (hword : word ≠ []) : holds word [] = false := by
  cases word with
  | nil => exact absurd rfl hword
  | cons y word => rfl

/-- A word without a mark cannot reach beyond the mark. -/
theorem opensWith_append_cons {word : List α} {x : α} (hx : x ∉ word) (a b : List α) :
    opensWith word (a ++ x :: b) = opensWith word a := by
  induction word generalizing a with
  | nil => rfl
  | cons y word ih =>
      simp only [List.mem_cons, not_or] at hx
      cases a with
      | nil =>
          rw [List.nil_append, opensWith_cons_cons, decide_eq_false (Ne.symm hx.1), Bool.false_and,
            opensWith_cons_nil]
      | cons z a => rw [List.cons_append, opensWith_cons_cons, opensWith_cons_cons, ih hx.2]

/-- **A word does not reach across an element that it does not hold.** -/
theorem holds_append_cons {word : List α} {x : α} (hword : word ≠ []) (hx : x ∉ word)
    (a b : List α) : holds word (a ++ x :: b) = (holds word a || holds word b) := by
  induction a with
  | nil =>
      have hempty : opensWith word [] = false := holds_nil hword
      have hfront : opensWith word (x :: b) = false :=
        (opensWith_append_cons hx [] b).trans hempty
      rw [List.nil_append, holds_cons, hfront, holds, hempty]
  | cons y a ih =>
      rw [List.cons_append, holds_cons, ← List.cons_append, opensWith_append_cons hx, ih, holds_cons,
        Bool.or_assoc]

/-- A word is not looked for where its first element is not. -/
theorem holds_append_of_not_mem {m : α} {a : List α} (hm : m ∉ a) (word s : List α) :
    holds (m :: word) (a ++ s) = holds (m :: word) s := by
  induction a with
  | nil => rfl
  | cons y a ih =>
      simp only [List.mem_cons, not_or] at hm
      rw [List.cons_append, holds_cons, opensWith_cons_cons, decide_eq_false hm.1, Bool.false_and,
        Bool.false_or, ih hm.2]

/-- A word is not held by a text that lacks its first character. -/
theorem holds_eq_false_of_not_mem {m : α} {s : List α} (hm : m ∉ s) (word : List α) :
    holds (m :: word) s = false := by
  rw [← List.append_nil s, holds_append_of_not_mem hm]
  rfl

/-! ## Pieces

A list is cut at an element by `List.splitOnP`. Induction over the pieces is induction
over the list, one occurrence of the element after the other. -/

omit [DecidableEq α] in
/-- Induction on the pieces between the occurrences of an element, from the last piece to the
first. -/
@[elab_as_elim]
theorem pieceInduction (x : α) {motive : List α → Prop} (last : ∀ s, x ∉ s → motive s)
    (piece : ∀ a b, x ∉ a → motive b → motive (a ++ x :: b)) (s : List α) : motive s := by
  induction hlength : s.length using Nat.strongRecOn generalizing s with
  | ind n ih =>
      by_cases hx : x ∈ s
      · obtain ⟨a, b, rfl, ha⟩ := List.eq_append_cons_of_mem hx
        refine piece a b ha (ih b.length ?_ b rfl)
        rw [← hlength, List.length_append, List.length_cons]
        omega
      · exact last s hx

omit [DecidableEq α] in
/-- A text without the mark is one piece. -/
theorem splitOnP_of_not_mem [BEq α] [LawfulBEq α] {x : α} {s : List α} (hs : x ∉ s) :
    s.splitOnP (· == x) = [s] := by
  refine List.splitOnP_eq_singleton fun a ha => beq_eq_false_iff_ne.2 ?_
  rintro rfl
  exact hs ha

omit [DecidableEq α] in
/-- The first piece ends at the first mark. -/
theorem splitOnP_append_cons_of_not_mem [BEq α] [LawfulBEq α] {x : α} {a : List α} (ha : x ∉ a)
    (b : List α) : (a ++ x :: b).splitOnP (· == x) = a :: b.splitOnP (· == x) := by
  have hne : ∀ y ∈ a, (y == x) = false := by
    intro y hy
    refine beq_eq_false_iff_ne.2 ?_
    rintro rfl
    exact ha hy
  exact List.splitOnP_append_cons_of_forall_mem hne x BEq.rfl b

omit [DecidableEq α] in
/-- No piece holds the element at which the list is cut. -/
theorem not_mem_of_mem_splitOnP [BEq α] [LawfulBEq α] {x : α} {s piece : List α}
    (h : piece ∈ s.splitOnP (· == x)) : x ∉ piece := by
  revert h
  refine pieceInduction x (fun t ht h => ?_) (fun a b ha ih h => ?_) s
  · rw [splitOnP_of_not_mem ht, List.mem_singleton] at h
    rwa [h]
  · rw [splitOnP_append_cons_of_not_mem ha] at h
    rcases List.mem_cons.1 h with rfl | h
    · exact ha
    · exact ih h

/-- **A piece opens with a word** if the word occurs right behind the element at which the
list is cut. -/
theorem any_opensWith_splitOnP [BEq α] [LawfulBEq α] {x : α} {word : List α} (hx : x ∉ word)
    (s : List α) : (s.splitOnP (· == x)).any (opensWith word) = holds (x :: word) (x :: s) := by
  refine pieceInduction x (fun t ht => ?_) (fun a b ha ih => ?_) s
  · rw [splitOnP_of_not_mem ht, holds_cons, opensWith_cons_cons, decide_eq_true rfl, Bool.true_and,
      holds_eq_false_of_not_mem ht, Bool.or_false]
    simp only [List.any_cons, List.any_nil, Bool.or_false]
  · have hfirst : opensWith (x :: word) (x :: (a ++ x :: b)) = opensWith word a := by
      rw [opensWith_cons_cons, decide_eq_true rfl, Bool.true_and, opensWith_append_cons hx]
    rw [splitOnP_append_cons_of_not_mem ha, List.any_cons, ih, holds_cons _ _ (a ++ x :: b), hfirst,
      holds_append_of_not_mem ha]

/-! ## The last occurrence -/

omit [DecidableEq α] in
/-- Nothing stands in front of a last occurrence that is the first element as well. -/
theorem eq_nil_of_cons_eq_append {extra c d : List α} {x : α} (hc : x ∉ c)
    (h : x :: c = extra ++ x :: d) : extra = [] := by
  cases extra with
  | nil => rfl
  | cons y extra =>
      -- the occurrence behind `extra` would be one in `c`
      obtain ⟨-, hcut⟩ := List.cons.inj h
      rw [hcut] at hc
      exact absurd (List.mem_append_right extra List.mem_cons_self) hc

omit [DecidableEq α] in
/-- **The last occurrence.** Two lists that are cut at the last occurrence of the same
element are cut alike. -/
theorem eq_of_append_cons_eq {a b c d : List α} {x : α} (hc : x ∉ c) (hd : x ∉ d)
    (h : a ++ x :: c = b ++ x :: d) : a = b ∧ c = d := by
  obtain ⟨extra, rfl, hextra⟩ | ⟨extra, rfl, hextra⟩ := List.append_eq_append_iff.1 h
  · obtain rfl := eq_nil_of_cons_eq_append hc hextra
    exact ⟨(List.append_nil a).symm, (List.cons.inj hextra).2⟩
  · obtain rfl := eq_nil_of_cons_eq_append hd hextra
    exact ⟨List.append_nil b, (List.cons.inj hextra).2.symm⟩

end ScriptLint.Part
