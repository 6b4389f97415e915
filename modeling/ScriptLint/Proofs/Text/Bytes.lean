import ScriptLint.Proofs.Text.Encoding

set_option autoImplicit false

/-!
How many bytes a text takes.

The size of a text is counted character by character, and it is the number of bytes that the text is
written with. So sizes add up where texts are put together.
-/

namespace ScriptLint.Utf8

/-- The size of a text is the number of its bytes. -/
theorem length_encode (s : Text) : (encode s).length = Text.byteSize s := by
  -- the fold adds up from the front, so it is said for any sum to begin with
  suffices h : ∀ n, s.foldl (fun n c => n + c.utf8Size) n = n + (encode s).length by
    rw [Text.byteSize, h, Nat.zero_add]
  induction s with
  | nil => exact fun n => rfl
  | cons c s ih =>
      intro n
      rw [List.foldl_cons, ih, encode_cons, List.length_append, String.length_utf8EncodeChar,
        Nat.add_assoc]

/-- Sizes add up. -/
theorem byteSize_append (a b : Text) :
    Text.byteSize (a ++ b) = Text.byteSize a + Text.byteSize b := by
  rw [← length_encode, ← length_encode, ← length_encode, encode_append, List.length_append]

/-- The size of a text by its first character. -/
theorem byteSize_cons (c : Char) (s : Text) : Text.byteSize (c :: s) = c.utf8Size + Text.byteSize s := by
  have hfirst : Text.byteSize [c] = c.utf8Size := Nat.zero_add _
  rw [← List.singleton_append, byteSize_append, hfirst]

end ScriptLint.Utf8
