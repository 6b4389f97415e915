import ScriptLint.Proofs.Script.Literal
import ScriptLint.Proofs.Text.Replacement

set_option autoImplicit false

/-!
The order of the passes.

Every pass of `escape` works on what the passes before it have left, and each of them writes
backslashes, marks and letters. The pass for the backslash would find what the others write, so
it has to come first. The five behind it are `Apart`: no two of them look for the same
character, and none writes a character that another one looks for. Such passes can change places
without a difference, two at a time, and so in any order.
-/

namespace ScriptLint.Literal

variable {p q : Char × Text} {passes passes' : List (Char × Text)}

/-! ## Passes in any order -/

/-- Two passes that look for different characters and do not write what the other looks for. -/
def Apart (p q : Char × Text) : Prop := p.1 ≠ q.1 ∧ q.1 ∉ p.2 ∧ p.1 ∉ q.2

/-- Two such passes can change places. -/
theorem Apart.comm (h : Apart p q) (s : Text) :
    Text.replaceChar q.1 q.2 (Text.replaceChar p.1 p.2 s)
      = Text.replaceChar p.1 p.2 (Text.replaceChar q.1 q.2 s) :=
  Text.replaceChar_comm h.1 h.2.1 h.2.2 s

/-- The passes behind the one for the backslash do not touch what another of them looks for. -/
private theorem pairwise_apart_laterPasses : laterPasses.Pairwise Apart := by
  simp [laterPasses, Apart]

/-- **Passes that are apart can be run in any order.** -/
theorem runPasses_of_perm (hapart : passes.Pairwise Apart) (hperm : passes.Perm passes')
    (s : Text) : runPasses passes s = runPasses passes' s := by
  -- a pass also changes places with itself
  have hcomm : ∀ ⦃p⦄, p ∈ passes → ∀ ⦃q⦄, q ∈ passes → ∀ s,
      Text.replaceChar q.1 q.2 (Text.replaceChar p.1 p.2 s)
        = Text.replaceChar p.1 p.2 (Text.replaceChar q.1 q.2 s) := by
    apply List.Pairwise.forall_of_forall_of_flip
    · intro p _ s
      rfl
    · exact hapart.imp fun h s => h.comm s
    · exact hapart.imp fun h s => (h.comm s).symm
  apply hperm.foldl_eq'
  intro p hp q hq s
  exact hcomm hp hq s

/-- **The six passes are one pass, in any order that begins with the backslash.** They write
each character of a text on its own, so the two parts of a text are written one behind the
other. And the five passes behind the first one may be run in any other order. -/
theorem escape_is_one_pass_in_any_order (s t : Text) :
    escape s = escapeEach s
      ∧ escape (s ++ t) = escape s ++ escape t
      ∧ ∀ passes : List (Char × Text), passes.Perm laterPasses →
          runPasses passes (Text.replaceChar '\\' ['\\', '\\'] s) = escape s := by
  refine ⟨escape_eq_escapeEach s, ?_, ?_⟩
  · simp only [escape_eq_escapeEach, escapeEach, List.flatMap_append]
  · intro passes hperm
    rw [escape]
    exact (runPasses_of_perm pairwise_apart_laterPasses hperm.symm _).symm

/-- The passes from the last one to the first, and a text that looks like what they write. -/
theorem escape_is_one_pass_in_any_order_of_reverse :
    let s : Text := ['\\', 'n', '"', '\u2028']
    laterPasses.reverse.Perm laterPasses
      ∧ runPasses laterPasses.reverse (Text.replaceChar '\\' ['\\', '\\'] s)
        = "\\\\n\\\"\\u2028".toList := by
  intro s
  have hperm : laterPasses.reverse.Perm laterPasses := List.reverse_perm laterPasses
  refine ⟨hperm, ?_⟩
  rw [(escape_is_one_pass_in_any_order s []).2.2 laterPasses.reverse hperm]
  decide

/-- Behind the others, the pass for the backslash would double what they have written. -/
example : Text.replaceChar '\\' ['\\', '\\'] (runPasses laterPasses ['"']) ≠ escape ['"'] := by
  decide

end ScriptLint.Literal
