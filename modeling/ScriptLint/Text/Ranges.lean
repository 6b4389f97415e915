set_option autoImplicit false

/-!
Sets of characters, written as ranges of their code points.

A table lists its ranges in increasing order and apart from one another, both ends included. Whether a
character is in the set is whether some range holds it; the order is for the reader of the table.
-/

namespace ScriptLint.Ranges

/-- Whether some range holds the code point of a character. -/
def hold (ranges : List (Nat × Nat)) (c : Char) : Bool :=
  ranges.any fun (low, high) => low ≤ c.toNat && c.toNat ≤ high

/-- Whether ranges are not empty, in increasing order and apart from one another. -/
def areApart : List (Nat × Nat) → Bool
  | [] => true
  | [(low, high)] => low ≤ high
  | (low, high) :: (low', high') :: rest =>
      low ≤ high && high + 1 < low' && areApart ((low', high') :: rest)

end ScriptLint.Ranges
