import ScriptLint.Proofs.Text.Boundary

set_option autoImplicit false

/-!
How bytes fall into characters and malformed stretches.

The reader of `Utf8` goes byte by byte and keeps account of what may come next. `FallsInto` says
what it should find without such an account. At the front of some bytes stands a character, or
else a stretch that is malformed: the longest part of the front that a character could begin
with, or a single byte if no character begins with that. There is one way only in which bytes
fall into such units, and it is the one in which they are read.

The reader decides early. It gives up a character at the first byte that is out of range, and
it has to be shown that no character goes on with that byte. This needs no look at the ranges:
a character is read as it was written, so a reader that has found something malformed has not
been reading the beginning of a character. The ranges matter for the other direction. As long as
the reader goes on, there is a character that begins with the bytes read so far
(`Partial.Begun`), and if it completes one, its bytes are those.
-/

namespace ScriptLint.Utf8

/-! ## Units -/

/-- Bytes that a character begins with, without being complete. -/
def Begins (chunk : Bytes) : Prop :=
  ∃ (c : Char) (more : Bytes), more ≠ [] ∧ String.utf8EncodeChar c = chunk ++ more

/-- A malformed stretch and the bytes behind it. No character stands at the front, and the
stretch is the longest part of it that a character begins with, or else one byte. -/
structure IsMalformed (chunk rest : Bytes) : Prop where
  ne_nil : chunk ≠ []
  begins : chunk.length = 1 ∨ Begins chunk
  no_char : ∀ c, ¬ String.utf8EncodeChar c <+: chunk ++ rest
  longest : ∀ longer, longer <+: chunk ++ rest → Begins longer → longer.length ≤ chunk.length

/-- The ways in which bytes fall into characters and malformed stretches. -/
inductive FallsInto : Bytes → List Piece → Prop where
  | nil : FallsInto [] []
  | char (c : Char) {rest : Bytes} {us : List Piece} (behind : FallsInto rest us) :
      FallsInto (String.utf8EncodeChar c ++ rest) (some c :: us)
  | malformed {chunk rest : Bytes} {us : List Piece} (front : IsMalformed chunk rest)
      (behind : FallsInto rest us) : FallsInto (chunk ++ rest) (none :: us)

variable {c d : Char} {p : Partial} {chunk rest begun bytes : Bytes} {us : List Piece}

/-! ## What a reader has found -/

/-- What has been read stays. -/
theorem mem_units_foldl_step {r : Reader} {u : Piece} (hu : u ∈ r.units) (bytes : Bytes) :
    u ∈ (bytes.foldl Reader.step r).units := by
  have hbehind : r = Reader.behind r.units ⟨r.pending, []⟩ := rfl
  rw [hbehind, Reader.foldl_step_behind]
  exact List.mem_append_right _ hu

/-- A character is found where its bytes are, whatever stands behind it. -/
theorem some_mem_units_of_front (h : String.utf8EncodeChar c <+: chunk) :
    some c ∈ (chunk.foldl Reader.step Reader.start).units := by
  obtain ⟨more, rfl⟩ := h
  rw [List.foldl_append, Reader.start, foldl_step_utf8EncodeChar]
  exact mem_units_foldl_step List.mem_cons_self more

/-- The bytes of a character are not those of another one with more behind them. -/
theorem eq_of_prefix_utf8EncodeChar (h : String.utf8EncodeChar c <+: String.utf8EncodeChar d) :
    c = d := by
  have hmem := some_mem_units_of_front h
  rw [Reader.start, foldl_step_utf8EncodeChar, List.mem_singleton] at hmem
  exact Option.some.inj hmem

/-- Encoded characters are told apart from the left. -/
private theorem utf8EncodeChar_append_inj {rest' : Bytes}
    (h : String.utf8EncodeChar c ++ rest = String.utf8EncodeChar d ++ rest') :
    c = d ∧ rest = rest' := by
  have hcd : c = d := by
    obtain hfront | hfront := List.prefix_or_prefix_of_prefix (List.prefix_append _ rest)
      (h ▸ List.prefix_append _ rest')
    · exact eq_of_prefix_utf8EncodeChar hfront
    · exact (eq_of_prefix_utf8EncodeChar hfront).symm
  subst hcd
  exact ⟨rfl, List.append_cancel_left h⟩

/-- **Nothing malformed is found in the beginning of a character.** -/
theorem none_not_mem_units_of_front (h : chunk <+: String.utf8EncodeChar c) :
    none ∉ (chunk.foldl Reader.step Reader.start).units := by
  intro hmem
  obtain ⟨more, hmore⟩ := h
  have hall := mem_units_foldl_step hmem more
  rw [← List.foldl_append, hmore, Reader.start, foldl_step_utf8EncodeChar, List.mem_singleton] at hall
  exact Option.some_ne_none c hall.symm

/-! ## Malformed stretches -/

/-- What is longer than a stretch at the front has the next byte in it. -/
private theorem exists_next_of_length_lt {longer : Bytes} (h : longer <+: chunk ++ rest)
    (hlen : chunk.length < longer.length) :
    ∃ b more, rest = b :: more ∧ chunk ++ [b] <+: longer := by
  obtain ⟨extra, rfl⟩ :=
    List.prefix_of_prefix_length_le (List.prefix_append chunk rest) h (Nat.le_of_lt hlen)
  rw [List.prefix_append_right_inj] at h
  cases extra with
  | nil => simp at hlen
  | cons b extra =>
      obtain ⟨more, hmore⟩ := h
      refine ⟨b, extra ++ more, hmore.symm, extra, ?_⟩
      rw [List.append_assoc, List.singleton_append]

/-- A stretch is malformed if it is no more than a beginning, and if the reader finds that it
cannot go on with the next byte. -/
theorem isMalformed_of_read (hne : chunk ≠ []) (hbegins : chunk.length = 1 ∨ Begins chunk)
    (hwhole : ∀ c, ¬ String.utf8EncodeChar c <+: chunk)
    (hnext : ∀ b more, rest = b :: more →
      none ∈ ((chunk ++ [b]).foldl Reader.step Reader.start).units) :
    IsMalformed chunk rest := by
  have hlonger : ∀ longer c, longer <+: chunk ++ rest → longer <+: String.utf8EncodeChar c →
      longer.length ≤ chunk.length := by
    intro longer c hfront hchar
    refine Nat.le_of_not_lt fun hlen => ?_
    obtain ⟨b, more, hrest, hb⟩ := exists_next_of_length_lt hfront hlen
    exact none_not_mem_units_of_front (hb.trans hchar) (hnext b more hrest)
  refine ⟨hne, hbegins, fun c hc => ?_, fun longer hfront hlong => ?_⟩
  · apply hwhole c
    exact List.prefix_of_prefix_length_le hc (List.prefix_append chunk rest)
      (hlonger _ c hc List.prefix_rfl)
  · obtain ⟨c, more, -, hc⟩ := hlong
    exact hlonger longer c hfront ⟨more, hc.symm⟩

/-- Of two malformed stretches at the same front none is longer than the other. -/
theorem IsMalformed.length_le {chunk' rest' : Bytes} (h : IsMalformed chunk rest)
    (h' : IsMalformed chunk' rest') (heq : chunk ++ rest = chunk' ++ rest') :
    chunk.length ≤ chunk'.length := by
  obtain hone | hbegins := h.begins
  · rw [hone]
    exact List.length_pos_iff.2 h'.ne_nil
  · apply h'.longest chunk ?_ hbegins
    rw [← heq]
    exact List.prefix_append chunk rest

/-- **Bytes fall into units in one way.** -/
theorem FallsInto.unique {us' : List Piece} (h : FallsInto bytes us) (h' : FallsInto bytes us') :
    us = us' := by
  induction h generalizing us' with
  | nil =>
      generalize hbytes : ([] : Bytes) = whole at h'
      cases h' with
      | nil => rfl
      | char d _ => exact absurd (List.append_eq_nil_iff.1 hbytes.symm).1 String.utf8EncodeChar_ne_nil
      | malformed front _ => exact absurd (List.append_eq_nil_iff.1 hbytes.symm).1 front.ne_nil
  | @char c rest us _ ih =>
      generalize hbytes : String.utf8EncodeChar c ++ rest = whole at h'
      cases h' with
      | nil => exact absurd (List.append_eq_nil_iff.1 hbytes).1 String.utf8EncodeChar_ne_nil
      | char d behind =>
          obtain ⟨rfl, rfl⟩ := utf8EncodeChar_append_inj hbytes
          rw [ih behind]
      | malformed front _ => exact absurd (hbytes ▸ List.prefix_append _ rest) (front.no_char c)
  | @malformed chunk rest us front _ ih =>
      generalize hbytes : chunk ++ rest = whole at h'
      cases h' with
      | nil => exact absurd (List.append_eq_nil_iff.1 hbytes).1 front.ne_nil
      | char d _ => exact absurd (hbytes ▸ List.prefix_append _ _) (front.no_char d)
      | malformed front' behind =>
          have hlen := Nat.le_antisymm (front.length_le front' hbytes) (front'.length_le front hbytes.symm)
          obtain ⟨rfl, rfl⟩ := List.append_inj hbytes hlen
          rw [ih behind]

/-! ## Open characters -/

/-- The last bytes of a character by its number, as many as are asked for: each has six bits. -/
def lastBytes (number : Nat) : Nat → Bytes
  | 0 => []
  | n + 1 => UInt8.ofNat (0x80 + number / continuations n % 64) :: lastBytes number n

/-- The characters that an open one can still become: the next byte is in its range, and the bits
up to that byte are those that have been read. -/
def Partial.CanBe (p : Partial) (c : Char) : Prop :=
  ∃ next, (p.low ≤ next ∧ next ≤ p.high)
    ∧ c.toNat / continuations p.after = p.bits * 64 + (next - 0x80)

/-- An open character and the bytes read for it. Every character that it can still become begins
with these bytes, and only the bytes that are owed are missing. -/
structure Partial.Begun (p : Partial) (begun : Bytes) : Prop where
  read : begun.foldl Reader.step Reader.start = ⟨some p, []⟩
  sound : p.Sound
  range : p.low ≤ p.high
  written : ∀ c, p.CanBe c → String.utf8EncodeChar c = begun ++ lastBytes c.toNat (p.after + 1)

/-- Every lead byte wants at least one byte more. -/
private theorem continuations_pos (n : Nat) : 0 < continuations n := by
  induction n with
  | zero => exact Nat.one_pos
  | succ n ih =>
      rw [continuations]
      exact Nat.mul_pos (by omega) ih

/-- The byte that gives the next six bits. -/
theorem lastBytes_succ {number n q : Nat} {b : UInt8} (hb : 0x80 ≤ b.toNat ∧ b.toNat ≤ 0xBF)
    (hnumber : number / continuations n = q * 64 + (b.toNat - 0x80)) :
    lastBytes number (n + 1) = b :: lastBytes number n := by
  have hbits : 0x80 + number / continuations n % 64 = b.toNat := by omega
  rw [lastBytes, hbits, UInt8.ofNat_toNat]

/-- The bytes of a character as a lead byte and what is owed behind it. -/
theorem utf8EncodeChar_eq_cons_lastBytes (hc : 0x80 ≤ c.toNat) :
    (c.toNat < 0x800
        ∧ String.utf8EncodeChar c = UInt8.ofNat (0xC0 + c.toNat / 64) :: lastBytes c.toNat 1)
      ∨ (0x800 ≤ c.toNat ∧ c.toNat < 0x10000
        ∧ String.utf8EncodeChar c = UInt8.ofNat (0xE0 + c.toNat / 4096) :: lastBytes c.toNat 2)
      ∨ (0x10000 ≤ c.toNat
        ∧ String.utf8EncodeChar c = UInt8.ofNat (0xF0 + c.toNat / 262144) :: lastBytes c.toNat 3) := by
  simp only [lastBytes, continuations, Nat.div_one]
  exact utf8EncodeChar_cases hc

/-- What a lead byte opens, by the number of bytes. -/
theorem opened?_cases {b : Nat} (h : opened? b = some p) :
    (∃ n, (2 ≤ n ∧ n < 32) ∧ b = 0xC0 + n ∧ p = ⟨0, 0x80, 0xBF, n⟩)
      ∨ (∃ n, n < 16 ∧ b = 0xE0 + n
          ∧ p = ⟨1, if n = 0 then 0xA0 else 0x80, if n = 13 then 0x9F else 0xBF, n⟩)
      ∨ (∃ n, n < 5 ∧ b = 0xF0 + n
          ∧ p = ⟨2, if n = 0 then 0x90 else 0x80, if n = 4 then 0x8F else 0xBF, n⟩) := by
  by_cases htwo : 0xC2 ≤ b ∧ b < 0xE0
  · obtain ⟨n, rfl⟩ := Nat.exists_eq_add_of_le (show 0xC0 ≤ b by omega)
    have hn : 2 ≤ n ∧ n < 32 := by omega
    rw [opened?_two hn, Option.some.injEq] at h
    exact .inl ⟨n, hn, rfl, h.symm⟩
  by_cases hthree : 0xE0 ≤ b ∧ b < 0xF0
  · obtain ⟨n, rfl⟩ := Nat.exists_eq_add_of_le hthree.1
    have hn : n < 16 := by omega
    rw [opened?_three hn, Option.some.injEq] at h
    exact .inr (.inl ⟨n, hn, rfl, h.symm⟩)
  by_cases hfour : 0xF0 ≤ b ∧ b < 0xF5
  · obtain ⟨n, rfl⟩ := Nat.exists_eq_add_of_le hfour.1
    have hn : n < 5 := by omega
    rw [opened?_four hn, Option.some.injEq] at h
    exact .inr (.inr ⟨n, hn, rfl, h.symm⟩)
  · -- no other byte opens anything
    rw [opened?, if_neg (by omega), if_neg (by omega), if_neg (by omega), if_neg (by omega),
      if_neg (by omega), if_neg (by omega), if_neg (by omega)] at h
    exact absurd h (by simp)

/-- A character that a lead byte can begin is written with that byte. The range of the byte
behind it keeps the number of the character within those that take as many bytes. -/
private theorem utf8EncodeChar_of_opened? {b : UInt8} (h : opened? b.toNat = some p)
    (hc : p.CanBe c) :
    String.utf8EncodeChar c = b :: lastBytes c.toNat (p.after + 1) := by
  obtain ⟨hlow, hhigh, -⟩ := sound_of_opened? h
  obtain ⟨next, hrange, hnumber⟩ := hc
  have hnext : 0x80 ≤ next ∧ next ≤ 0xBF :=
    ⟨Nat.le_trans hlow hrange.1, Nat.le_trans hrange.2 hhigh⟩
  have hbyte : b = UInt8.ofNat b.toNat := UInt8.ofNat_toNat.symm
  obtain ⟨n, hn, hb, rfl⟩ | ⟨n, hn, hb, rfl⟩ | ⟨n, hn, hb, rfl⟩ := opened?_cases h
  all_goals simp only [continuations, Nat.mul_one, Nat.div_one] at hrange hnumber
  · obtain ⟨-, hbytes⟩ | ⟨hlow, -⟩ | ⟨hlow, -⟩ :=
      utf8EncodeChar_eq_cons_lastBytes (show 0x80 ≤ c.toNat by omega)
    · have hlead : 0xC0 + c.toNat / 64 = b.toNat := by omega
      rw [hbytes, hlead, ← hbyte]
    · omega
    · omega
  · have hleast : n = 0 → 0xA0 ≤ next := fun hzero => by rw [if_pos hzero] at hrange; omega
    obtain ⟨hhigh, -⟩ | ⟨-, -, hbytes⟩ | ⟨hlow, -⟩ :=
      utf8EncodeChar_eq_cons_lastBytes (show 0x80 ≤ c.toNat by omega)
    · omega
    · have hlead : 0xE0 + c.toNat / 4096 = b.toNat := by omega
      rw [hbytes, hlead, ← hbyte]
    · omega
  · have hleast : n = 0 → 0x90 ≤ next := fun hzero => by rw [if_pos hzero] at hrange; omega
    obtain ⟨hhigh, -⟩ | ⟨-, hhigh, -⟩ | ⟨-, hbytes⟩ :=
      utf8EncodeChar_eq_cons_lastBytes (show 0x80 ≤ c.toNat by omega)
    · omega
    · omega
    · have hlead : 0xF0 + c.toNat / 262144 = b.toNat := by omega
      rw [hbytes, hlead, ← hbyte]

/-! ## The reader -/

/-- **The first byte.** -/
theorem begun_of_opened? {b : UInt8} (hb : 0x80 ≤ b.toNat) (h : opened? b.toNat = some p) :
    p.Begun [b] := by
  have hascii : ¬ b.toNat < 0x80 := Nat.not_lt_of_le hb
  refine ⟨?_, sound_of_opened? h, ?_, fun c hc => utf8EncodeChar_of_opened? h hc⟩
  · simp only [List.foldl_cons, List.foldl_nil, Reader.step, Reader.start, Reader.lead,
      if_neg hascii, h]
  · obtain ⟨n, hn, -, rfl⟩ | ⟨n, hn, -, rfl⟩ | ⟨n, hn, -, rfl⟩ := opened?_cases h
    · simp
    · simp only
      split <;> split <;> omega
    · simp only
      split <;> split <;> omega

/-- **A byte in range, and more to come.** -/
theorem Partial.Begun.further (hp : p.Begun begun) {n : Nat} (hafter : p.after = n + 1) {b : UInt8}
    (hb : p.low ≤ b.toNat ∧ b.toNat ≤ p.high) :
    Partial.Begun ⟨n, 0x80, 0xBF, p.bits * 64 + (b.toNat - 0x80)⟩ (begun ++ [b]) := by
  have hbyte : 0x80 ≤ b.toNat ∧ b.toNat ≤ 0xBF :=
    ⟨Nat.le_trans hp.sound.low hb.1, Nat.le_trans hb.2 hp.sound.high⟩
  refine ⟨?_, hp.sound.further hafter hb, by simp, ?_⟩
  · rw [List.foldl_append, hp.read]
    simp only [List.foldl_cons, List.foldl_nil, Reader.step, if_pos hb, hafter]
  · rintro c ⟨next, hrange, hnumber⟩
    simp only at hrange hnumber
    -- the bits up to `b` are among those that the next byte is added to
    have hbits : c.toNat / continuations (n + 1) = p.bits * 64 + (b.toNat - 0x80) := by
      rw [continuations, Nat.mul_comm, ← Nat.div_div_eq_div_mul]
      omega
    have hc : p.CanBe c := ⟨b.toNat, hb, by rw [hafter, hbits]⟩
    rw [hp.written c hc, hafter, lastBytes_succ hbyte hbits, List.append_assoc,
      List.singleton_append]

/-- **The last byte.** The character that is completed is written as it was read. -/
theorem Partial.Begun.last (hp : p.Begun begun) (hafter : p.after = 0) {b : UInt8}
    (hb : p.low ≤ b.toNat ∧ b.toNat ≤ p.high) :
    String.utf8EncodeChar (Char.ofNat (p.bits * 64 + (b.toNat - 0x80))) = begun ++ [b] := by
  obtain ⟨hlow, hhigh, hnumbers⟩ := hp.sound
  rw [hafter, continuations, Nat.mul_one, Nat.mul_one] at hnumbers
  have hvalid : (p.bits * 64 + (b.toNat - 0x80)).isValidChar := by
    unfold Nat.isValidChar
    omega
  have hnumber := toNat_charOfNat hvalid
  have hbits : (Char.ofNat (p.bits * 64 + (b.toNat - 0x80))).toNat / continuations 0
      = p.bits * 64 + (b.toNat - 0x80) := by
    rw [hnumber, continuations, Nat.div_one]
  rw [hp.written _ ⟨b.toNat, hb, by rw [hafter, hbits]⟩, hafter,
    lastBytes_succ ⟨Nat.le_trans hlow hb.1, Nat.le_trans hb.2 hhigh⟩ hbits]
  rfl

/-- There is a character that an open one can still become. -/
private theorem Partial.Begun.exists_canBe (hp : p.Begun begun) : ∃ c, p.CanBe c := by
  have hpos := continuations_pos p.after
  have hless : (p.bits * 64 + (p.low - 0x80)) * continuations p.after
      < (p.bits * 64 + (p.high - 0x80) + 1) * continuations p.after := by
    apply Nat.mul_lt_mul_of_pos_right _ hpos
    have hrange := hp.range
    omega
  have hvalid : ((p.bits * 64 + (p.low - 0x80)) * continuations p.after).isValidChar := by
    have hnumbers := hp.sound.numbers
    unfold Nat.isValidChar
    omega
  have hbits := Nat.mul_div_cancel (p.bits * 64 + (p.low - 0x80)) hpos
  rw [← toNat_charOfNat hvalid] at hbits
  exact ⟨_, p.low, ⟨Nat.le_refl _, hp.range⟩, hbits⟩

/-- What the reader has kept of a character is the beginning of one. -/
theorem Partial.Begun.begins (hp : p.Begun begun) : Begins begun := by
  obtain ⟨c, hc⟩ := hp.exists_canBe
  exact ⟨c, _, by rw [lastBytes]; simp, hp.written c hc⟩

/-- No character is complete in the bytes of one that is open. -/
private theorem Partial.Begun.no_char_within (hp : p.Begun begun) (c : Char) :
    ¬ String.utf8EncodeChar c <+: begun := by
  intro h
  have hmem := some_mem_units_of_front h
  rw [hp.read] at hmem
  exact absurd hmem List.not_mem_nil

/-- A lead byte leaves behind what was found before it. -/
theorem Reader.lead_none (b : Nat) : Reader.lead [none] b = (Reader.lead [] b).behind [none] :=
  Reader.lead_append [] [none] b

/-- **An open character is malformed** if the next byte is out of range, or if there is none. -/
theorem Partial.Begun.isMalformed (hp : p.Begun begun)
    (hrest : ∀ b more, rest = b :: more → ¬ (p.low ≤ b.toNat ∧ b.toNat ≤ p.high)) :
    IsMalformed begun rest := by
  have hne : begun ≠ [] := by
    rintro rfl
    have hread : Reader.start = ⟨some p, []⟩ := hp.read
    simp [Reader.start] at hread
  refine isMalformed_of_read hne (.inr hp.begins) hp.no_char_within fun b more hb => ?_
  have hstep : Reader.step ⟨some p, []⟩ b = (Reader.lead [] b.toNat).behind [none] := by
    simp only [Reader.step, if_neg (hrest b more hb), Reader.lead_none]
  rw [List.foldl_append, hp.read, List.foldl_cons, List.foldl_nil, hstep]
  exact List.mem_append_right _ List.mem_cons_self

/-- **A byte that opens nothing** is malformed by itself, whatever stands behind it. -/
theorem isMalformed_singleton {b : UInt8} (hb : 0x80 ≤ b.toNat) (h : opened? b.toNat = none)
    (rest : Bytes) : IsMalformed [b] rest := by
  have hascii : ¬ b.toNat < 0x80 := Nat.not_lt_of_le hb
  have hread : [b].foldl Reader.step Reader.start = ⟨none, [none]⟩ := by
    simp only [List.foldl_cons, List.foldl_nil, Reader.step, Reader.start, Reader.lead,
      if_neg hascii, h]
  have hnone : none ∈ ([b].foldl Reader.step Reader.start).units := by
    rw [hread]
    exact List.mem_cons_self
  refine isMalformed_of_read (by simp) (.inl rfl) (fun c hc => ?_) fun b' more _ => ?_
  · have hmem := some_mem_units_of_front hc
    rw [hread, List.mem_singleton] at hmem
    exact Option.some_ne_none c hmem
  · rw [List.foldl_append]
    exact mem_units_foldl_step hnone [b']

/-! ## All bytes -/

/-- The units of some bytes behind a character that may be open. -/
def unitsBehind (pending : Option Partial) (bytes : Bytes) : List Piece :=
  (bytes.foldl Reader.step ⟨pending, []⟩).finish

theorem unitsBehind_cons (pending : Option Partial) (b : UInt8) (bytes : Bytes) :
    unitsBehind pending (b :: bytes)
      = (Reader.step ⟨pending, []⟩ b).units.reverse
        ++ unitsBehind (Reader.step ⟨pending, []⟩ b).pending bytes := by
  have hstep : Reader.step ⟨pending, []⟩ b
      = Reader.behind (Reader.step ⟨pending, []⟩ b).units ⟨(Reader.step ⟨pending, []⟩ b).pending, []⟩ :=
    rfl
  rw [unitsBehind, List.foldl_cons, hstep, Reader.foldl_step_behind, Reader.finish_behind]
  rfl

/-- **What is read is how the bytes fall into units**, also behind a character that is open. The
induction is on the bytes. Where an open character turns out to be malformed, the byte that
shows it is read again, as the first byte of what follows. -/
theorem fallsInto_unitsBehind (bytes : Bytes) :
    FallsInto bytes (unitsBehind none bytes)
      ∧ ∀ p begun, Partial.Begun p begun → FallsInto (begun ++ bytes) (unitsBehind (some p) bytes) := by
  induction bytes with
  | nil =>
      refine ⟨.nil, fun p begun hp => ?_⟩
      exact .malformed (hp.isMalformed fun b more h => absurd h (by simp)) .nil
  | cons b bytes ih =>
      have hfirst : FallsInto (b :: bytes) (unitsBehind none (b :: bytes)) := by
        rw [unitsBehind_cons]
        simp only [Reader.step, Reader.lead]
        by_cases hb : b.toNat < 0x80
        · have hbyte : String.utf8EncodeChar (Char.ofNat b.toNat) = [b] := by
            have hchar := toNat_charOfNat (n := b.toNat) (.inl (by omega))
            rw [utf8EncodeChar_of_lt (by omega), hchar, UInt8.ofNat_toNat]
          rw [if_pos hb]
          have hall := FallsInto.char (Char.ofNat b.toNat) ih.1
          rwa [hbyte] at hall
        · rw [if_neg hb]
          cases hopened : opened? b.toNat with
          | some p => exact ih.2 p [b] (begun_of_opened? (Nat.le_of_not_lt hb) hopened)
          | none =>
              exact .malformed (isMalformed_singleton (Nat.le_of_not_lt hb) hopened bytes) ih.1
      refine ⟨hfirst, fun p begun hp => ?_⟩
      by_cases hb : p.low ≤ b.toNat ∧ b.toNat ≤ p.high
      · rw [unitsBehind_cons]
        simp only [Reader.step, if_pos hb]
        rw [← List.singleton_append, ← List.append_assoc]
        cases hafter : p.after with
        | zero =>
            rw [← hp.last hafter hb]
            exact .char _ ih.1
        | succ n => exact ih.2 _ _ (hp.further hafter hb)
      · have hagain : unitsBehind (some p) (b :: bytes) = none :: unitsBehind none (b :: bytes) := by
          rw [unitsBehind_cons, unitsBehind_cons]
          simp only [Reader.step, if_neg hb, Reader.lead_none, Reader.behind, List.reverse_append]
          rfl
        rw [hagain]
        refine .malformed (hp.isMalformed fun b' more h => ?_) hfirst
        rwa [← (List.cons.inj h).1]

/-- The pieces that the reader makes are the pieces that the bytes fall into. -/
theorem fallsInto_units (bytes : Bytes) : FallsInto bytes (units bytes) :=
  (fallsInto_unitsBehind bytes).1

/-- **Bytes fall into the units that are read**, and into no others. -/
theorem fallsInto_iff : FallsInto bytes us ↔ us = units bytes := by
  constructor
  · intro h
    exact h.unique (fallsInto_units bytes)
  · rintro rfl
    exact fallsInto_units bytes

/-! ## Well-formed bytes -/

/-- Bytes without anything malformed are those of their characters. -/
private theorem FallsInto.encode_eq (h : FallsInto bytes us) (hall : us.all Option.isSome = true) :
    encode (us.filterMap id) = bytes := by
  induction h with
  | nil => rfl
  | @char c rest us _ ih =>
      have hc : id (some c) = some c := rfl
      rw [List.all_cons, Bool.and_eq_true] at hall
      rw [List.filterMap_cons_some hc, encode_cons, ih hall.2]
  | malformed _ _ _ => exact absurd hall (by simp)

/-- **The strict reader takes just what was written.** -/
theorem strict?_eq_some_iff {s : Text} : strict? bytes = some s ↔ encode s = bytes := by
  constructor
  · intro h
    rw [strict?] at h
    by_cases hall : (units bytes).all Option.isSome = true
    · rw [if_pos hall, Option.some.injEq] at h
      rw [← h]
      exact (fallsInto_units bytes).encode_eq hall
    · rw [if_neg hall] at h
      exact absurd h (by simp)
  · rintro rfl
    exact strict?_encode s

end ScriptLint.Utf8
