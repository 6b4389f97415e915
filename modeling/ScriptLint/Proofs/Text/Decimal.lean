import ScriptLint.Text.Decimal

set_option autoImplicit false

/-!
Line numbers, written and read.

A 32-bit number is read back from its digits. Nothing but a sign and digits is ever read
as a number, which is what keeps a number apart from the colon and the blank that stand
around it in a report.
-/

namespace ScriptLint.Decimal

/-! ## Digits -/

/-- The digit that a decimal character stands for. -/
theorem digit?_of_isDigit {c : Char} (hc : c.isDigit = true) :
    digit? c = some (c.toNat - '0'.toNat) := by
  simp only [Char.isDigit, Bool.and_eq_true, decide_eq_true_eq] at hc
  exact if_pos hc

/-- A run of digits denotes the number that the library reads off it. -/
theorem digits?_eq_ofDigitChars {s : Text} (hs : ∀ c ∈ s, c.isDigit = true) (n : Nat) :
    digits? n s = some (Nat.ofDigitChars 10 s n) := by
  induction s generalizing n with
  | nil => rw [digits?, Nat.ofDigitChars_nil]
  | cons c s ih =>
      rw [digits?, digit?_of_isDigit (hs c List.mem_cons_self), Nat.ofDigitChars_cons]
      exact ih (fun d hd => hs d (List.mem_cons_of_mem c hd)) _

/-- What is read as a number is made of digits. -/
private theorem digit?_isSome_of_digits? {s : Text} {n m : Nat} (h : digits? n s = some m) :
    ∀ c ∈ s, (digit? c).isSome = true := by
  induction s generalizing n with
  | nil => intro c hc; exact absurd hc List.not_mem_nil
  | cons a s ih =>
      rw [digits?] at h
      cases ha : digit? a with
      | none => simp [ha] at h
      | some d =>
          simp only [ha] at h
          intro c hc
          rcases List.mem_cons.1 hc with rfl | hc
          · rw [ha, Option.isSome_some]
          · exact ih h c hc

/-! ## Reading -/

/-- The value that was read is the number, if it fits into 32 bits. -/
theorem fit_eq_some_iff {value : Option Nat} {n : UInt32} :
    (match value with
      | some m => if m < UInt32.size then some (UInt32.ofNat m) else none
      | none => none) = some n ↔ value = some n.toNat := by
  cases value with
  | none => simp
  | some m =>
      by_cases hm : m < UInt32.size
      · simp only [if_pos hm, Option.some.injEq]
        constructor
        · rintro rfl
          rw [UInt32.toNat_ofNat_of_lt' hm]
        · rintro rfl
          rw [UInt32.ofNat_toNat]
      · -- a number of 32 bits is none of the values that do not fit
        have hne : m ≠ n.toNat := by
          have hlt : n.toNat < UInt32.size := n.toNat_lt_size
          omega
        simp only [if_neg hm, Option.some.injEq, reduceCtorEq, hne]

/-- The sign is dropped once: a second one is no digit. -/
private theorem unsigned?_plus (s : Text) : unsigned? ('+' :: s) = none := rfl

/-- A text denotes a number if it is its digits, with at most one sign in front. -/
theorem read?_eq_some_iff {s : Text} {n : UInt32} :
    read? s = some n
      ↔ unsigned? s = some n.toNat ∨ ∃ t, s = '+' :: t ∧ unsigned? t = some n.toNat := by
  unfold read?
  split
  · next t =>
      refine fit_eq_some_iff.trans ?_
      constructor
      · exact fun h => Or.inr ⟨t, rfl, h⟩
      · rintro (h | ⟨t', ht, h⟩)
        · -- a sign is no digit
          rw [unsigned?_plus] at h
          exact absurd h (by simp)
        · rw [(List.cons.inj ht).2, h]
  · next hsign =>
      refine fit_eq_some_iff.trans ?_
      constructor
      · exact Or.inl
      · rintro (h | ⟨t, rfl, -⟩)
        · exact h
        · exact absurd rfl (hsign t)

/-- Only a sign and digits are read as a number. -/
theorem not_mem_of_read? {s : Text} {n : UInt32} (h : read? s = some n) {c : Char}
    (hsign : c ≠ '+') (hdigit : digit? c = none) : c ∉ s := by
  -- behind the sign, if there is one, every character has a value
  have hrun : ∀ t : Text, unsigned? t = some n.toNat → c ∉ t := by
    intro t ht hmem
    cases t with
    | nil => exact absurd hmem List.not_mem_nil
    | cons a t =>
        have hsome := digit?_isSome_of_digits? ht c hmem
        rw [hdigit] at hsome
        exact Bool.false_ne_true hsome
  rcases read?_eq_some_iff.1 h with hs | ⟨t, rfl, ht⟩
  · exact hrun s hs
  · rw [List.mem_cons, not_or]
    exact ⟨hsign, hrun t ht⟩

/-! ## Writing and reading back -/

/-- A number is written by its decimal digits. -/
theorem write_eq_toDigits (n : UInt32) : write n = Nat.toDigits 10 n.toNat := Nat.toList_repr

/-- Every number has a digit. -/
theorem write_ne_nil (n : UInt32) : write n ≠ [] := by
  rw [write_eq_toDigits]
  exact Nat.toDigits_ne_nil

/-- A written number is made of digits. -/
theorem isDigit_of_mem_write {n : UInt32} {c : Char} (hc : c ∈ write n) : c.isDigit = true := by
  rw [write_eq_toDigits] at hc
  exact Nat.isDigit_of_mem_toDigits (by omega) (by omega) hc

/-- A character that is no digit, such as a blank or a colon, is not in a written
number. -/
theorem not_mem_write {c : Char} (hc : c.isDigit = false) (n : UInt32) : c ∉ write n := by
  intro hmem
  rw [isDigit_of_mem_write hmem] at hc
  exact Bool.false_ne_true hc.symm

/-- **A written number is read back.** -/
theorem read?_write (n : UInt32) : read? (write n) = some n := by
  have hdigits : digits? 0 (write n) = some n.toNat := by
    rw [digits?_eq_ofDigitChars (fun c hc => isDigit_of_mem_write hc), write_eq_toDigits,
      Nat.ofDigitChars_ten_toDigits]
  refine read?_eq_some_iff.2 (Or.inl ?_)
  rw [unsigned?]
  · exact hdigits
  · exact write_ne_nil n

end ScriptLint.Decimal
