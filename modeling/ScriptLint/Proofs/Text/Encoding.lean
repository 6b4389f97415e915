import ScriptLint.Proofs.Text.Utf8

set_option autoImplicit false

/-!
Writing a text in bytes and reading it back.

A character below 80 is one byte, its own number. Every other character takes two bytes
or more, and each of them is 80 or greater; `utf8EncodeChar_cases` writes them out by
the number of the character, so that what is left is arithmetic.

Reading goes character by character. The first byte says how many are to come and
narrows the range of the second one. That the second byte is in that range is where it
counts that a character is no surrogate, and that it is the shortest form that is
written.
-/

namespace ScriptLint.Utf8

/-- Encoding goes character by character. -/
theorem encode_cons (c : Char) (s : Text) : encode (c :: s) = String.utf8EncodeChar c ++ encode s :=
  List.flatMap_cons

/-- Encoding keeps concatenation. -/
theorem encode_append (s t : Text) : encode (s ++ t) = encode s ++ encode t := List.flatMap_append

/-! ## The bytes of a character -/

/-- The surrogates are no characters. -/
theorem toNat_valid (c : Char) : c.toNat < 0xD800 ∨ (0xDFFF < c.toNat ∧ c.toNat < 0x110000) :=
  c.valid

/-- An ASCII character takes one byte. -/
theorem utf8EncodeChar_of_lt {c : Char} (hc : c.toNat < 0x80) :
    String.utf8EncodeChar c = [UInt8.ofNat c.toNat] := by
  have hle : c.val.toNat ≤ 0x7F := by
    change c.toNat ≤ 0x7F
    omega
  rw [String.utf8EncodeChar]
  exact if_pos hle

/-- The bytes of any other character, by its number. -/
theorem utf8EncodeChar_cases {c : Char} (hc : 0x80 ≤ c.toNat) :
    (c.toNat < 0x800 ∧ String.utf8EncodeChar c
        = [UInt8.ofNat (0xC0 + c.toNat / 64), UInt8.ofNat (0x80 + c.toNat % 64)])
      ∨ (0x800 ≤ c.toNat ∧ c.toNat < 0x10000 ∧ String.utf8EncodeChar c
        = [UInt8.ofNat (0xE0 + c.toNat / 4096), UInt8.ofNat (0x80 + c.toNat / 64 % 64),
            UInt8.ofNat (0x80 + c.toNat % 64)])
      ∨ (0x10000 ≤ c.toNat ∧ String.utf8EncodeChar c
        = [UInt8.ofNat (0xF0 + c.toNat / 262144), UInt8.ofNat (0x80 + c.toNat / 4096 % 64),
            UInt8.ofNat (0x80 + c.toNat / 64 % 64), UInt8.ofNat (0x80 + c.toNat % 64)]) := by
  have hvalid := toNat_valid c
  have hval : c.val.toNat = c.toNat := rfl
  simp only [String.utf8EncodeChar, hval]
  have hone : ¬ c.toNat ≤ 0x7F := by omega
  rw [if_neg hone]
  by_cases htwo : c.toNat ≤ 0x7FF
  · have hlead : c.toNat / 64 % 0x20 + 0xC0 = 0xC0 + c.toNat / 64 := by omega
    rw [if_pos htwo, hlead, Nat.add_comm (c.toNat % 0x40)]
    exact .inl ⟨by omega, rfl⟩
  · rw [if_neg htwo]
    by_cases hthree : c.toNat ≤ 0xFFFF
    · have hlead : c.toNat / 4096 % 0x10 + 0xE0 = 0xE0 + c.toNat / 4096 := by omega
      rw [if_pos hthree, hlead, Nat.add_comm (c.toNat / 64 % 0x40), Nat.add_comm (c.toNat % 0x40)]
      exact .inr (.inl ⟨by omega, by omega, rfl⟩)
    · have hlead : c.toNat / 262144 % 0x08 + 0xF0 = 0xF0 + c.toNat / 262144 := by omega
      rw [if_neg hthree, hlead, Nat.add_comm (c.toNat / 4096 % 0x40),
        Nat.add_comm (c.toNat / 64 % 0x40), Nat.add_comm (c.toNat % 0x40)]
      exact .inr (.inr ⟨by omega, rfl⟩)

theorem toNat_ofNat_of_lt {n : Nat} (hn : n < 256) : (UInt8.ofNat n).toNat = n := by
  rw [UInt8.toNat_ofNat', Nat.mod_eq_of_lt hn]

/-- No byte of a character beyond ASCII is one of an ASCII character. -/
theorem utf8EncodeChar_of_le {c : Char} (hc : 0x80 ≤ c.toNat) :
    String.utf8EncodeChar c ≠ [] ∧ ∀ b ∈ String.utf8EncodeChar c, 0x80 ≤ b.toNat := by
  have hvalid := toNat_valid c
  have hbyte : ∀ n, 0x80 ≤ n → n < 256 → 0x80 ≤ (UInt8.ofNat n).toNat := by
    intro n hlow hhigh
    rwa [toNat_ofNat_of_lt hhigh]
  obtain ⟨htwo, hbytes⟩ | ⟨hlow, hhigh, hbytes⟩ | ⟨hlow, hbytes⟩ := utf8EncodeChar_cases hc
  all_goals
    rw [hbytes]
    refine ⟨by simp, fun b hb => ?_⟩
    simp only [List.mem_cons, List.not_mem_nil, or_false] at hb
  · rcases hb with rfl | rfl <;> exact hbyte _ (by omega) (by omega)
  · rcases hb with rfl | rfl | rfl <;> exact hbyte _ (by omega) (by omega)
  · rcases hb with rfl | rfl | rfl | rfl <;> exact hbyte _ (by omega) (by omega)

/-! ## One character, read back -/

/-- A lead byte opens a character. -/
theorem step_opened? {us : List Piece} {b : Nat} {p : Partial} (hb : 0x80 ≤ b ∧ b < 256)
    (hopened : opened? b = some p) : Reader.step ⟨none, us⟩ (UInt8.ofNat b) = ⟨some p, us⟩ := by
  have hlead : ¬ b < 0x80 := by omega
  simp only [Reader.step, Reader.lead, toNat_ofNat_of_lt hb.2, if_neg hlead, hopened]

/-- The last byte of a character completes it. -/
theorem step_last {p : Partial} {us : List Piece} {n : Nat} (hn : n < 64) (hafter : p.after = 0)
    (hrange : p.low ≤ 0x80 + n ∧ 0x80 + n ≤ p.high) :
    Reader.step ⟨some p, us⟩ (UInt8.ofNat (0x80 + n))
      = ⟨none, some (Char.ofNat (p.bits * 64 + n)) :: us⟩ := by
  have hb := toNat_ofNat_of_lt (show 0x80 + n < 256 by omega)
  simp only [Reader.step, hb, if_pos hrange, hafter, Nat.add_sub_cancel_left]

/-- A byte in the middle of a character adds its six bits, and the bytes behind it may be any
continuation. -/
theorem step_further {p : Partial} {us : List Piece} {n k : Nat} (hn : n < 64)
    (hafter : p.after = k + 1) (hrange : p.low ≤ 0x80 + n ∧ 0x80 + n ≤ p.high) :
    Reader.step ⟨some p, us⟩ (UInt8.ofNat (0x80 + n))
      = ⟨some ⟨k, 0x80, 0xBF, p.bits * 64 + n⟩, us⟩ := by
  have hb := toNat_ofNat_of_lt (show 0x80 + n < 256 by omega)
  simp only [Reader.step, hb, if_pos hrange, hafter, Nat.add_sub_cancel_left]

/-- The lead bytes of the characters of two bytes. -/
theorem opened?_two {n : Nat} (hn : 2 ≤ n ∧ n < 32) :
    opened? (0xC0 + n) = some ⟨0, 0x80, 0xBF, n⟩ := by
  rw [opened?, if_pos (by omega), Nat.add_sub_cancel_left]

/-- The first of three bytes, with the range of the second. -/
theorem opened?_three {n : Nat} (hn : n < 16) :
    opened? (0xE0 + n)
      = some ⟨1, if n = 0 then 0xA0 else 0x80, if n = 13 then 0x9F else 0xBF, n⟩ := by
  obtain rfl | rfl | hother : n = 0 ∨ n = 13 ∨ (n ≠ 0 ∧ n ≠ 13) := by omega
  · rfl
  · rfl
  · rw [opened?, if_neg (by omega), if_neg (by omega), if_neg (by omega), if_pos (by omega),
      if_neg hother.1, if_neg hother.2, Nat.add_sub_cancel_left]

/-- The first of four bytes, with the range of the second. -/
theorem opened?_four {n : Nat} (hn : n < 5) :
    opened? (0xF0 + n)
      = some ⟨2, if n = 0 then 0x90 else 0x80, if n = 4 then 0x8F else 0xBF, n⟩ := by
  obtain rfl | rfl | hother : n = 0 ∨ n = 4 ∨ (n ≠ 0 ∧ n ≠ 4) := by omega
  · rfl
  · rfl
  · rw [opened?, if_neg (by omega), if_neg (by omega), if_neg (by omega), if_neg (by omega),
      if_neg (by omega), if_pos (by omega), if_neg hother.1, if_neg hother.2,
      Nat.add_sub_cancel_left]

/-- **A character is read as it was written.** No surrogate is a character, and none is
beyond the last one; with that every byte is in the range in which it is expected. -/
theorem foldl_step_utf8EncodeChar (c : Char) (us : List Piece) :
    (String.utf8EncodeChar c).foldl Reader.step ⟨none, us⟩ = ⟨none, some c :: us⟩ := by
  have hvalid := toNat_valid c
  by_cases hone : c.toNat < 0x80
  · have hb := toNat_ofNat_of_lt (show c.toNat < 256 by omega)
    rw [utf8EncodeChar_of_lt hone, List.foldl_cons, List.foldl_nil]
    simp only [Reader.step, Reader.lead, hb, if_pos hone, Char.ofNat_toNat]
  · obtain ⟨htwo, hbytes⟩ | ⟨hlow, hhigh, hbytes⟩ | ⟨hlow, hbytes⟩ :=
      utf8EncodeChar_cases (Nat.le_of_not_lt hone)
    · have hnumber : c.toNat / 64 * 64 + c.toNat % 64 = c.toNat := by omega
      rw [hbytes, List.foldl_cons, List.foldl_cons, List.foldl_nil,
        step_opened? (by omega) (opened?_two (by omega)),
        step_last (by omega) rfl (by simp only; omega)]
      simp only [hnumber, Char.ofNat_toNat]
    · have hnumber : (c.toNat / 4096 * 64 + c.toNat / 64 % 64) * 64 + c.toNat % 64 = c.toNat := by
        omega
      rw [hbytes, List.foldl_cons, List.foldl_cons, List.foldl_cons, List.foldl_nil,
        step_opened? (by omega) (opened?_three (by omega)),
        step_further (by omega) rfl (by simp only; split <;> split <;> omega),
        step_last (by omega) rfl (by simp only; omega)]
      simp only [hnumber, Char.ofNat_toNat]
    · have hnumber : ((c.toNat / 262144 * 64 + c.toNat / 4096 % 64) * 64 + c.toNat / 64 % 64) * 64
          + c.toNat % 64 = c.toNat := by omega
      rw [hbytes, List.foldl_cons, List.foldl_cons, List.foldl_cons, List.foldl_cons, List.foldl_nil,
        step_opened? (by omega) (opened?_four (by omega)),
        step_further (by omega) rfl (by simp only; split <;> split <;> omega),
        step_further (by omega) rfl (by simp only; omega),
        step_last (by omega) rfl (by simp only; omega)]
      simp only [hnumber, Char.ofNat_toNat]

/-- The reader takes an encoded text character by character, from a boundary to a boundary. -/
private theorem foldl_step_encode (s : Text) (us : List Piece) :
    (encode s).foldl Reader.step ⟨none, us⟩ = ⟨none, (s.map some).reverse ++ us⟩ := by
  induction s generalizing us with
  | nil => rfl
  | cons c s ih =>
      rw [encode, List.flatMap_cons, ← encode, List.foldl_append, foldl_step_utf8EncodeChar, ih,
        List.map_cons, List.reverse_cons, List.append_assoc, List.singleton_append]

/-- Encoded text has no malformed stretch. -/
theorem units_encode (s : Text) : units (encode s) = s.map some := by
  rw [units, Reader.start, foldl_step_encode, List.append_nil, Reader.finish, List.reverse_reverse]

/-- **A text is read as it was written.** -/
theorem lossy_encode (s : Text) : lossy (encode s) = s := by
  have hchar : (fun u : Piece => u.getD replacement) ∘ some = id := rfl
  rw [lossy, units_encode, List.map_map, hchar, List.map_id]

/-- So texts of the same bytes are the same. -/
theorem encode_injective : Function.Injective encode := Function.LeftInverse.injective lossy_encode

/-- What was written is well formed. -/
theorem strict?_encode (s : Text) : strict? (encode s) = some s := by
  have hall : (s.map some).all Option.isSome = true := by
    rw [List.all_map]
    exact List.all_eq_true.2 fun _ _ => rfl
  have hchars : (s.map some).filterMap id = s := by
    rw [List.filterMap_map]
    exact List.filterMap_some
  rw [strict?, units_encode, if_pos hall, hchars]

end ScriptLint.Utf8
