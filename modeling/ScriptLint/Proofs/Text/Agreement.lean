import ScriptLint.Proofs.Text.Encoding
import ScriptLint.Proofs.Text.Part

set_option autoImplicit false

/-!
What bytes have in common with the text that is read from them.

Bytes may be malformed, and then the text that is read is not what they were written
from. Still the two agree in all that is ASCII: an ASCII character of the text is a byte
of its own, and whatever stands between two of them in the text, characters or marks for
something malformed, stands for bytes that are not ASCII. `agree_lossy` says so for all
bytes. It is an invariant of the reader: behind every byte the bytes read so far agree
with the characters found so far, but for a character that is still open, which has no
ASCII byte and cannot become an ASCII character.

So an ASCII word is found in the bytes exactly if it is found in the text, and a text
is cut into lines alike before and after it is written in bytes.
-/

namespace ScriptLint.Utf8

/-! ## Agreement -/

theorem toNat_charOfNat {n : Nat} (hn : n.isValidChar) : (Char.ofNat n).toNat = n := by
  rw [Char.ofNat, dif_pos hn]
  rfl

/-- A byte string and a text that hold the same ASCII characters in the same places. Every
other character stands for some bytes, and none of these is one of an ASCII character. -/
inductive Agree : Bytes → Text → Prop where
  | nil : Agree [] []
  | ascii {c : Char} {bytes : Bytes} {s : Text} (hc : c.toNat < 0x80) (rest : Agree bytes s) :
      Agree (UInt8.ofNat c.toNat :: bytes) (c :: s)
  | other {c : Char} {chunk bytes : Bytes} {s : Text} (hc : 0x80 ≤ c.toNat) (hne : chunk ≠ [])
      (hchunk : ∀ b ∈ chunk, 0x80 ≤ b.toNat) (rest : Agree bytes s) : Agree (chunk ++ bytes) (c :: s)

namespace Agree

/-- Agreement is kept by putting bytes and texts behind one another. -/
theorem append {a b : Bytes} {s t : Text} (ha : Agree a s) (hb : Agree b t) :
    Agree (a ++ b) (s ++ t) := by
  induction ha with
  | nil => exact hb
  | ascii hc _ ih => exact .ascii hc ih
  | other hc hne hchunk _ ih =>
      rw [List.append_assoc]
      exact .other hc hne hchunk ih

/-- One more ASCII byte stands for one more ASCII character. -/
private theorem concat_ascii {bytes : Bytes} {s : Text} (h : Agree bytes s) {b : UInt8}
    (hb : b.toNat < 0x80) : Agree (bytes ++ [b]) (s ++ [Char.ofNat b.toNat]) := by
  have hchar : (Char.ofNat b.toNat).toNat = b.toNat := toNat_charOfNat (.inl (by omega))
  have hone : Agree [UInt8.ofNat (Char.ofNat b.toNat).toNat] [Char.ofNat b.toNat] :=
    .ascii (by omega) .nil
  rw [hchar, UInt8.ofNat_toNat] at hone
  exact h.append hone

/-- Bytes beyond ASCII stand for a character beyond ASCII, whichever one it is. -/
theorem concat_other {bytes chunk : Bytes} {s : Text} (h : Agree bytes s) {c : Char}
    (hc : 0x80 ≤ c.toNat) (hne : chunk ≠ []) (hchunk : ∀ b ∈ chunk, 0x80 ≤ b.toNat) :
    Agree (bytes ++ chunk) (s ++ [c]) := by
  have hone : Agree (chunk ++ []) [c] := .other hc hne hchunk .nil
  rw [List.append_nil] at hone
  exact h.append hone

end Agree

/-- A text and its encoding agree. -/
theorem agree_encode (s : Text) : Agree (encode s) s := by
  induction s with
  | nil => exact .nil
  | cons c s ih =>
      rw [encode, List.flatMap_cons, ← encode]
      by_cases hc : c.toNat < 0x80
      · rw [utf8EncodeChar_of_lt hc, List.singleton_append]
        exact .ascii hc ih
      · obtain ⟨hne, hchunk⟩ := utf8EncodeChar_of_le (Nat.le_of_not_lt hc)
        exact .other (Nat.le_of_not_lt hc) hne hchunk ih

/-! ## The reader -/

/-- The number of ways in which some bytes can go on with a character: each has six bits of it. -/
def continuations : Nat → Nat
  | 0 => 1
  | n + 1 => 64 * continuations n

/-- An open character of which every completion is a character beyond ASCII: the numbers
that it can still have, from the least to the greatest, are on one side of the
surrogates. -/
structure Partial.Sound (p : Partial) : Prop where
  low : 0x80 ≤ p.low
  high : p.high ≤ 0xBF
  numbers : (0x80 ≤ (p.bits * 64 + (p.low - 0x80)) * continuations p.after
        ∧ (p.bits * 64 + (p.high - 0x80) + 1) * continuations p.after ≤ 0xD800)
      ∨ (0xE000 ≤ (p.bits * 64 + (p.low - 0x80)) * continuations p.after
        ∧ (p.bits * 64 + (p.high - 0x80) + 1) * continuations p.after ≤ 0x110000)

/-- A lead byte starts a character beyond ASCII. -/
theorem sound_of_opened? {b : Nat} {p : Partial} (h : opened? b = some p) : p.Sound := by
  unfold opened? at h
  repeat' split at h
  case isFalse.isFalse.isFalse.isFalse.isFalse.isFalse.isFalse => exact absurd h (by simp)
  all_goals
    obtain rfl := Option.some.inj h
    exact ⟨by simp, by simp, by simp only [continuations]; omega⟩

/-- The character of a sound open one that is completed. -/
private theorem Partial.Sound.toNat_last {p : Partial} (hp : p.Sound) (hafter : p.after = 0) {b : Nat}
    (hb : p.low ≤ b ∧ b ≤ p.high) :
    0x80 ≤ (Char.ofNat (p.bits * 64 + (b - 0x80))).toNat := by
  obtain ⟨hlow, hhigh, hnumbers⟩ := hp
  rw [hafter, continuations, Nat.mul_one, Nat.mul_one] at hnumbers
  rw [toNat_charOfNat (by unfold Nat.isValidChar; omega)]
  omega

/-- One byte more leaves fewer numbers. -/
theorem Partial.Sound.further {p : Partial} (hp : p.Sound) {n : Nat} (hafter : p.after = n + 1)
    {b : Nat} (hb : p.low ≤ b ∧ b ≤ p.high) :
    Partial.Sound ⟨n, 0x80, 0xBF, p.bits * 64 + (b - 0x80)⟩ := by
  obtain ⟨hlow, hhigh, hnumbers⟩ := hp
  have hleast : (p.bits * 64 + (p.low - 0x80)) * continuations (n + 1)
      ≤ ((p.bits * 64 + (b - 0x80)) * 64 + (0x80 - 0x80)) * continuations n := by
    rw [continuations, ← Nat.mul_assoc]
    exact Nat.mul_le_mul_right _ (by omega)
  have hgreatest : ((p.bits * 64 + (b - 0x80)) * 64 + (0xBF - 0x80) + 1) * continuations n
      ≤ (p.bits * 64 + (p.high - 0x80) + 1) * continuations (n + 1) := by
    rw [continuations, ← Nat.mul_assoc]
    exact Nat.mul_le_mul_right _ (by omega)
  rw [hafter] at hnumbers
  exact ⟨Nat.le_refl _, Nat.le_refl _, by simp only; omega⟩

/-- The characters of some units, the latest unit first. -/
def charsOf (us : List Piece) : Text := us.reverse.map fun u => u.getD replacement

theorem charsOf_cons (u : Piece) (us : List Piece) :
    charsOf (u :: us) = charsOf us ++ [u.getD replacement] := by
  rw [charsOf, List.reverse_cons, List.map_append, ← charsOf, List.map_singleton]

/-- The replacement character is beyond ASCII, so no ASCII text comes out of malformed bytes. -/
theorem le_toNat_replacement : 0x80 ≤ replacement.toNat := by decide

/-- What a reader has made of some bytes: characters that agree with them, and maybe an
open character behind that. -/
inductive Reader.Reads : Bytes → Reader → Prop where
  | between {done : Bytes} {us : List Piece} (h : Agree done (charsOf us)) : Reads done ⟨none, us⟩
  | inside {done rest : Bytes} {us : List Piece} {p : Partial} (h : Agree done (charsOf us))
      (hp : p.Sound) (hne : rest ≠ []) (hrest : ∀ b ∈ rest, 0x80 ≤ b.toNat) :
      Reads (done ++ rest) ⟨some p, us⟩

namespace Reader

/-- One byte at the start of a character: it is ASCII, opens a longer one, or is malformed. -/
theorem reads_lead {done : Bytes} {us : List Piece} (h : Agree done (charsOf us)) (b : UInt8) :
    Reads (done ++ [b]) (lead us b.toNat) := by
  rw [lead]
  by_cases hb : b.toNat < 0x80
  · rw [if_pos hb]
    refine .between ?_
    rw [charsOf_cons]
    exact h.concat_ascii hb
  · have hother : ∀ b' ∈ [b], 0x80 ≤ b'.toNat := by
      intro b' hb'
      rw [List.mem_singleton.1 hb']
      exact Nat.le_of_not_lt hb
    rw [if_neg hb]
    cases hopened : opened? b.toNat with
    | some p => exact .inside h (sound_of_opened? hopened) (by simp) hother
    | none =>
        refine .between ?_
        rw [charsOf_cons]
        exact h.concat_other le_toNat_replacement (by simp) hother

/-- **One byte more.** -/
theorem Reads.step {bytes : Bytes} {r : Reader} (h : Reads bytes r) (b : UInt8) :
    Reads (bytes ++ [b]) (r.step b) := by
  cases h with
  | between h => exact reads_lead h b
  | @inside done rest us p h hp hne hrest =>
      simp only [Reader.step]
      by_cases hb : p.low ≤ b.toNat ∧ b.toNat ≤ p.high
      · have hmore : ∀ b' ∈ rest ++ [b], 0x80 ≤ b'.toNat := by
          intro b' hb'
          obtain hb' | hb' := List.mem_append.1 hb'
          · exact hrest b' hb'
          · rw [List.mem_singleton.1 hb']
            exact Nat.le_trans hp.low hb.1
        rw [if_pos hb, List.append_assoc]
        cases hafter : p.after with
        | zero =>
            refine .between ?_
            rw [charsOf_cons, Option.getD_some]
            exact h.concat_other (hp.toNat_last hafter hb) (by simp) hmore
        | succ n => exact .inside h (hp.further hafter hb) (by simp) hmore
      · -- what was open is malformed, and the byte is a first one again
        rw [if_neg hb]
        refine reads_lead ?_ b
        rw [charsOf_cons]
        exact h.concat_other le_toNat_replacement hne hrest

/-- **All bytes.** -/
theorem Reads.foldl_step {bytes : Bytes} {r : Reader} (h : Reads bytes r) (more : Bytes) :
    Reads (bytes ++ more) (more.foldl Reader.step r) := by
  induction more generalizing bytes r with
  | nil => rwa [List.append_nil]
  | cons b more ih =>
      have hrest := ih (h.step b)
      rwa [List.append_assoc, List.singleton_append] at hrest

/-- At the end of the bytes an unfinished character becomes one replacement character. -/
theorem Reads.finish {bytes : Bytes} {r : Reader} (h : Reads bytes r) :
    Agree bytes (r.finish.map fun u => u.getD replacement) := by
  cases h with
  | between h => exact h
  | inside h hp hne hrest =>
      change Agree _ (charsOf (none :: _))
      rw [charsOf_cons]
      exact h.concat_other le_toNat_replacement hne hrest

end Reader

/-- **Any bytes agree with the text that is made of them**, malformed or not. -/
theorem agree_lossy (bytes : Bytes) : Agree bytes (lossy bytes) :=
  have hstart : Reader.Reads [] Reader.start := .between .nil
  (hstart.foldl_step bytes).finish

/-- The ASCII bytes are the ASCII characters, in the same order: the text alone says which ones
there are. -/
theorem Agree.filter_ascii {bytes : Bytes} {s : Text} (h : Agree bytes s) :
    bytes.filter (fun b => b.toNat < 0x80)
      = (s.filter fun c => c.toNat < 0x80).map fun c => UInt8.ofNat c.toNat := by
  induction h with
  | nil => rfl
  | @ascii c bytes s hc _ ih =>
      have hbyte : (UInt8.ofNat c.toNat).toNat < 0x80 := by
        rwa [toNat_ofNat_of_lt (by omega)]
      rw [List.filter_cons, if_pos (decide_eq_true hbyte), List.filter_cons,
        if_pos (decide_eq_true hc), List.map_cons, ih]
  | @other c chunk bytes s hc _ hchunk _ ih =>
      have hnone : chunk.filter (fun b => b.toNat < 0x80) = [] := by
        refine List.filter_eq_nil_iff.2 fun b hb => ?_
        simpa using hchunk b hb
      have hchar : ¬ decide (c.toNat < 0x80) = true := by
        simpa using hc
      rw [List.filter_append, hnone, List.nil_append, List.filter_cons, if_neg hchar, ih]

/-- **No ASCII byte is lost, added or moved** by reading bytes and writing what was read. -/
theorem filter_encode_lossy (bytes : Bytes) :
    (encode (lossy bytes)).filter (fun b => b.toNat < 0x80)
      = bytes.filter fun b => b.toNat < 0x80 := by
  rw [(agree_encode (lossy bytes)).filter_ascii, (agree_lossy bytes).filter_ascii]

/-! ## ASCII words -/

/-- A text of ASCII characters only. -/
def IsAscii (s : Text) : Prop := ∀ c ∈ s, c.toNat < 0x80

instance (s : Text) : Decidable (IsAscii s) := List.decidableBAll (fun c : Char => c.toNat < 0x80) s

/-- An ASCII character is its own byte. -/
theorem encode_cons_of_lt {c : Char} (hc : c.toNat < 0x80) (s : Text) :
    encode (c :: s) = UInt8.ofNat c.toNat :: encode s := by
  rw [encode_cons, utf8EncodeChar_of_lt hc, List.singleton_append]

/-- ASCII characters with the same byte are the same. -/
theorem ofNat_toNat_inj {c d : Char} (hc : c.toNat < 0x80) (hd : d.toNat < 0x80) :
    UInt8.ofNat c.toNat = UInt8.ofNat d.toNat ↔ c = d := by
  constructor
  · intro h
    have hnat : (UInt8.ofNat c.toNat).toNat = (UInt8.ofNat d.toNat).toNat := by rw [h]
    rw [toNat_ofNat_of_lt (by omega), toNat_ofNat_of_lt (by omega)] at hnat
    rw [← Char.ofNat_toNat c, hnat, Char.ofNat_toNat]
  · rintro rfl
    rfl

variable {word : Text}

/-- **An ASCII word is found in bytes and in text alike.** -/
theorem opensWith_of_agree (hword : IsAscii word) {bytes : Bytes} {s : Text}
    (h : Agree bytes s) : Part.opensWith (encode word) bytes = Part.opensWith word s := by
  induction h generalizing word with
  | nil =>
      cases word with
      | nil => rfl
      | cons d word =>
          rw [encode_cons_of_lt (hword d List.mem_cons_self)]
          rfl
  | ascii hc _ ih =>
      cases word with
      | nil => rfl
      | cons d word =>
          have hd : d.toNat < 0x80 := hword d List.mem_cons_self
          rw [encode_cons_of_lt hd, Part.opensWith_cons_cons, Part.opensWith_cons_cons,
            ih fun c hc => hword c (List.mem_cons_of_mem d hc)]
          simp only [ofNat_toNat_inj hd hc]
  | @other c chunk bytes s hc hne hchunk _ ih =>
      cases word with
      | nil => rfl
      | cons d word =>
          have hd : d.toNat < 0x80 := hword d List.mem_cons_self
          have hchar : d ≠ c := by
            rintro rfl
            omega
          obtain ⟨b, chunk, rfl⟩ := List.exists_cons_of_ne_nil hne
          have hbyte : UInt8.ofNat d.toNat ≠ b := by
            rintro rfl
            have hlow := hchunk _ List.mem_cons_self
            rw [toNat_ofNat_of_lt (by omega)] at hlow
            omega
          rw [encode_cons_of_lt hd, List.cons_append, Part.opensWith_cons_cons,
            Part.opensWith_cons_cons, decide_eq_false hchar, decide_eq_false hbyte, Bool.false_and,
            Bool.false_and]

/-- An ASCII word stands in the bytes exactly when it stands in a text that agrees with them. -/
theorem holds_of_agree (hne : word ≠ []) (hword : IsAscii word) {bytes : Bytes}
    {s : Text} (h : Agree bytes s) : Part.holds (encode word) bytes = Part.holds word s := by
  induction h with
  | nil => exact opensWith_of_agree hword .nil
  | ascii hc rest ih =>
      rw [Part.holds_cons, Part.holds_cons, ih, opensWith_of_agree hword (.ascii hc rest)]
  | @other c chunk bytes s hc hchunkne hchunk rest ih =>
      obtain ⟨d, word, rfl⟩ := List.exists_cons_of_ne_nil hne
      have hd : d.toNat < 0x80 := hword d List.mem_cons_self
      -- neither the character nor any of its bytes begins the word
      have hchar : d ∉ [c] := by
        intro hmem
        rw [List.mem_singleton.1 hmem] at hd
        omega
      have hbyte : UInt8.ofNat d.toNat ∉ chunk := by
        intro hmem
        have hlow := hchunk _ hmem
        rw [toNat_ofNat_of_lt (by omega)] at hlow
        omega
      rw [encode_cons_of_lt hd] at ih ⊢
      rw [Part.holds_append_of_not_mem hbyte, ih]
      exact (Part.holds_append_of_not_mem hchar word s).symm

/-- An ASCII character is among the bytes of a text if it is in the text. -/
theorem ofNat_toNat_mem_encode {c : Char} (hc : c.toNat < 0x80) {s : Text} :
    UInt8.ofNat c.toNat ∈ encode s ↔ c ∈ s := by
  rw [encode, List.mem_flatMap]
  constructor
  · rintro ⟨d, hd, hmem⟩
    by_cases hlow : d.toNat < 0x80
    · rw [utf8EncodeChar_of_lt hlow, List.mem_singleton, ofNat_toNat_inj hc hlow] at hmem
      rwa [hmem]
    · have hbyte := (utf8EncodeChar_of_le (Nat.le_of_not_lt hlow)).2 _ hmem
      rw [toNat_ofNat_of_lt (by omega)] at hbyte
      omega
  · intro hmem
    exact ⟨c, hmem, by rw [utf8EncodeChar_of_lt hc]; exact List.mem_singleton.2 rfl⟩

/-- **A text is cut at an ASCII character as its bytes are.** -/
theorem splitOnP_encode {c : Char} (hc : c.toNat < 0x80) (s : Text) :
    (encode s).splitOnP (· == UInt8.ofNat c.toNat) = (s.splitOnP (· == c)).map encode := by
  have hmark : ∀ t : Text, c ∉ t → UInt8.ofNat c.toNat ∉ encode t :=
    fun t ht hmem => ht ((ofNat_toNat_mem_encode hc).1 hmem)
  refine Part.pieceInduction c (fun t ht => ?_) (fun a b ha ih => ?_) s
  · rw [Part.splitOnP_of_not_mem ht, Part.splitOnP_of_not_mem (hmark t ht), List.map_singleton]
  · rw [encode_append, encode_cons_of_lt hc, Part.splitOnP_append_cons_of_not_mem ha,
      List.map_cons, ← ih]
    exact Part.splitOnP_append_cons_of_not_mem (hmark a ha) _

end ScriptLint.Utf8
