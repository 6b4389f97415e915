set_option autoImplicit false

/-!
Parts of a sequence: openings, endings and first occurrences.

The sequences are texts and byte strings alike. `strip?` removes a known opening and fails when the
sequence does not open that way; `cutAt?` cuts at the *first* occurrence of a mark. Both return what
is left, so a reader that uses them cannot lose its place.
-/

namespace ScriptLint.Part

variable {α : Type} [DecidableEq α]

/-- The rest of `s` after the opening `lead`, if `s` opens with it. -/
def strip? : List α → List α → Option (List α)
  | [], s => some s
  | _ :: _, [] => none
  | a :: lead, b :: s => if a = b then strip? lead s else none

/-- What stands before the ending `tail` in `s`, if `s` ends with it. -/
def stripEnd? (tail s : List α) : Option (List α) :=
  (strip? tail.reverse s.reverse).map List.reverse

/-- Whether `s` opens with `lead`. -/
def opensWith (lead s : List α) : Bool := (strip? lead s).isSome

/-- Whether `s` ends with `tail`. -/
def endsWith (tail s : List α) : Bool := (stripEnd? tail s).isSome

/-- `cutAt?` behind elements that have been passed, the latest first. -/
def cutBehind? (mark passed : List α) : List α → Option (List α × List α)
  | [] => (strip? mark []).map fun rest => (passed.reverse, rest)
  | a :: s =>
      match strip? mark (a :: s) with
      | some rest => some (passed.reverse, rest)
      | none => cutBehind? mark (a :: passed) s

/-- The parts of `s` before and after the first occurrence of `mark`. -/
def cutAt? (mark s : List α) : Option (List α × List α) := cutBehind? mark [] s

/-- Whether `mark` occurs in `s`. -/
def holds (mark : List α) : List α → Bool
  | [] => opensWith mark []
  | a :: s => opensWith mark (a :: s) || holds mark s

/-! ## Cutting, element by element -/

/-- What has been passed stands in front of what is cut off. -/
theorem cutBehind?_eq (mark passed s : List α) :
    cutBehind? mark passed s
      = (cutAt? mark s).map fun (before, rest) => (passed.reverse ++ before, rest) := by
  induction s generalizing passed with
  | nil => cases h : strip? mark [] <;> simp [cutAt?, cutBehind?, h]
  | cons a s ih =>
    unfold cutAt? cutBehind?
    cases h : strip? mark (a :: s) with
    | some rest => simp
    | none =>
      simp only [ih (a :: passed), ih [a], Option.map_map, Function.comp_def, List.reverse_cons,
        List.reverse_nil, List.nil_append, List.append_assoc]

theorem cutAt?_nil (mark : List α) :
    cutAt? mark [] = (strip? mark []).map fun rest => ([], rest) := rfl

/-- A mark at the front is the first occurrence; otherwise the first element stands before it. -/
theorem cutAt?_cons (mark : List α) (a : α) (s : List α) :
    cutAt? mark (a :: s)
      = match strip? mark (a :: s) with
        | some rest => some ([], rest)
        | none => (cutAt? mark s).map fun (before, rest) => (a :: before, rest) := by
  rw [cutAt?, cutBehind?]
  cases h : strip? mark (a :: s) with
  | some rest => rfl
  | none => simp only [cutBehind?_eq, List.reverse_cons, List.reverse_nil, List.nil_append,
      List.singleton_append]

/-- An opening is what has to be put in front again. -/
theorem strip?_eq_some_iff {lead s rest : List α} : strip? lead s = some rest ↔ s = lead ++ rest := by
  induction lead generalizing s with
  | nil => simp [strip?]
  | cons a lead ih =>
    cases s with
    | nil => simp [strip?]
    | cons b s =>
      by_cases h : a = b
      · subst h; simp [strip?, ih]
      · have hne : ¬ b = a := fun e => h e.symm
        simp [strip?, h, hne]

end ScriptLint.Part
