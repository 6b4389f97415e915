import ScriptLint.Text.Basic

set_option autoImplicit false

/-!
Line numbers, read from decimal digits.

A number is written as one or more of the digits `0` to `9`, after at most one plus sign, and has to
fit into 32 bits. Leading zeros are digits like any other; digits of other scripts are none.
-/

namespace ScriptLint.Decimal

/-- The value of a digit. -/
def digit? (c : Char) : Option Nat :=
  if '0' ≤ c ∧ c ≤ '9' then some (c.toNat - '0'.toNat) else none

/-- The value of a run of digits behind digits worth `n`; none if anything else stands there. -/
def digits? (n : Nat) : Text → Option Nat
  | [] => some n
  | c :: s =>
      match digit? c with
      | some d => digits? (10 * n + d) s
      | none => none

/-- The number that a text without a sign denotes. -/
def unsigned? : Text → Option Nat
  | [] => none
  | s => digits? 0 s

/-- The 32-bit number that a text denotes. -/
def read? (s : Text) : Option UInt32 :=
  let value := match s with
    | '+' :: rest => unsigned? rest
    | _ => unsigned? s
  match value with
  | some n => if n < UInt32.size then some (UInt32.ofNat n) else none
  | none => none

/-- The digits of a 32-bit number, without leading zeros. -/
def write (n : UInt32) : Text := Text.ofNat n.toNat

end ScriptLint.Decimal
