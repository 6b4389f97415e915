import ScriptLint.Proofs.Text.Agreement

set_option autoImplicit false

/-!
Bytes that are put together, and the text that is read from them.

Reading carries a state from byte to byte: a character may be open, and what comes next
may complete it or leave it malformed. So the text of two byte strings together need not
be the text of the one and the text of the other. Behind an ASCII byte it is. Such a byte
never continues a character. It closes whatever is open and is then a character of its
own, and the reader stands where it stood before the first byte.

What has been read before has no influence on what is read later (`Reader.step_behind`),
so the reader in the middle of its input is the reader at the beginning with some units
already there.
-/

namespace ScriptLint.Utf8

/-! ## What has been read -/

namespace Reader

/-- The reader with some units in front of all that it has read. -/
def behind (before : List Piece) (r : Reader) : Reader := ⟨r.pending, r.units ++ before⟩

private theorem behind_start (before : List Piece) : behind before start = ⟨none, before⟩ := by
  rw [behind, start, List.nil_append]

/-- Starting a character only adds to what has been read. -/
theorem lead_append (us before : List Piece) (b : Nat) :
    lead (us ++ before) b = (lead us b).behind before := by
  unfold lead
  by_cases hb : b < 0x80
  · rw [if_pos hb, if_pos hb, behind, List.cons_append]
  · rw [if_neg hb, if_neg hb]
    cases opened? b <;> rfl

/-- **A step looks at the open character alone**, and not at what was read before. -/
theorem step_behind (before : List Piece) (r : Reader) (byte : UInt8) :
    (r.behind before).step byte = (r.step byte).behind before := by
  obtain ⟨pending, us⟩ := r
  cases pending with
  | none => exact lead_append us before byte.toNat
  | some p =>
      simp only [step, behind]
      by_cases hb : p.low ≤ byte.toNat ∧ byte.toNat ≤ p.high
      · rw [if_pos hb, if_pos hb]
        cases p.after <;> rfl
      · rw [if_neg hb, if_neg hb]
        exact lead_append (none :: us) before byte.toNat

/-- What has been read already is not looked at again: induction on the bytes. -/
theorem foldl_step_behind (before : List Piece) (r : Reader) (bytes : Bytes) :
    bytes.foldl step (r.behind before) = (bytes.foldl step r).behind before := by
  induction bytes generalizing r with
  | nil => rfl
  | cons byte bytes ih => rw [List.foldl_cons, List.foldl_cons, step_behind, ih]

/-- Finishing keeps what has been read in front. -/
theorem finish_behind (before : List Piece) (r : Reader) :
    (r.behind before).finish = before.reverse ++ r.finish := by
  obtain ⟨pending, us⟩ := r
  cases pending with
  | none => simp only [behind, finish, List.reverse_append]
  | some p => simp only [behind, finish, ← List.cons_append, List.reverse_append]

/-! ## ASCII bytes -/

/-- A character that is open wants no ASCII byte next. -/
private theorem Reads.low_of_pending {bytes : Bytes} {r : Reader} (h : Reads bytes r) {p : Partial}
    (hp : r.pending = some p) : 0x80 ≤ p.low := by
  cases h with
  | between _ => exact absurd hp (by simp)
  | inside _ hsound _ _ =>
      obtain rfl := Option.some.inj hp
      exact hsound.low

/-- **An ASCII byte closes what is open** and is a character of its own. -/
theorem step_of_ascii {r : Reader} (hr : ∀ p, r.pending = some p → 0x80 ≤ p.low) {byte : UInt8}
    (hbyte : byte.toNat < 0x80) :
    r.step byte = behind (some (Char.ofNat byte.toNat) :: r.finish.reverse) start := by
  obtain ⟨pending, us⟩ := r
  rw [behind_start]
  cases pending with
  | none => simp only [step, lead, if_pos hbyte, finish, List.reverse_reverse]
  | some p =>
      have hlow : 0x80 ≤ p.low := hr p rfl
      have hrange : ¬ (p.low ≤ byte.toNat ∧ byte.toNat ≤ p.high) := by omega
      simp only [step, if_neg hrange, lead, if_pos hbyte, finish, List.reverse_reverse]

end Reader

/-- The units of bytes with an ASCII byte among them: that byte, and on either side the
units of what stands there. -/
theorem units_append_cons {byte : UInt8} (hbyte : byte.toNat < 0x80) (a b : Bytes) :
    units (a ++ byte :: b) = units a ++ some (Char.ofNat byte.toNat) :: units b := by
  have hstart : Reader.Reads [] Reader.start := .between .nil
  have hreads : Reader.Reads ([] ++ a) (a.foldl Reader.step Reader.start) := hstart.foldl_step a
  have hclosed := Reader.step_of_ascii (fun p hp => hreads.low_of_pending hp) hbyte
  rw [units, List.foldl_append, List.foldl_cons, hclosed, Reader.foldl_step_behind,
    Reader.finish_behind, List.reverse_cons, List.reverse_reverse, List.append_assoc,
    List.singleton_append, units, units]

/-- **Bytes can be cut at an ASCII byte** without any change to the text, whatever is
malformed on either side. -/
theorem lossy_append_cons {byte : UInt8} (hbyte : byte.toNat < 0x80) (a b : Bytes) :
    lossy (a ++ byte :: b) = lossy a ++ Char.ofNat byte.toNat :: lossy b := by
  rw [lossy, units_append_cons hbyte, List.map_append, List.map_cons, Option.getD_some, lossy, lossy]

end ScriptLint.Utf8
