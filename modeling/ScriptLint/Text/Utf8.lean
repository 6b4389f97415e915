import ScriptLint.Text.Basic

set_option autoImplicit false

/-!
UTF-8, written and read.

The reader is one machine that is fed a byte at a time. Between characters it waits for a lead byte;
inside one it knows how many bytes are still owed, which range the *next* one must lie in, and the
bits gathered so far. The ranges after a lead byte are what keeps overlong forms, surrogates and
values above U+10FFFF out: `E0` wants `A0` to `BF`, `ED` wants `80` to `9F`, `F0` wants `90` to `BF`
and `F4` wants `80` to `8F`, and every later byte `80` to `BF`. So a character that is completed is
always a scalar value.

A byte that cannot continue the character that is open ends that character as *malformed* and is then
read again as a first byte. Hence each longest beginning of a character that is not completed counts
as one malformed unit, and a byte below `80` is never swallowed. `lossy` writes U+FFFD for each
malformed unit, and `strict?` refuses a text that has one. Both read the same units, so they agree on
every well-formed input.
-/

namespace ScriptLint.Utf8

/-- The bytes of a text. -/
def encode (s : Text) : Bytes := s.flatMap String.utf8EncodeChar

/-- A character that is open: how many bytes must follow the next one, the range of the next one, and
the bits gathered so far. -/
structure Partial where
  after : Nat
  low : Nat
  high : Nat
  bits : Nat
  deriving DecidableEq, Repr

/-- What a lead byte opens; none for a byte that opens nothing of two bytes or more. -/
def opened? (b : Nat) : Option Partial :=
  if 0xC2 ≤ b ∧ b ≤ 0xDF then some ⟨0, 0x80, 0xBF, b - 0xC0⟩
  else if b = 0xE0 then some ⟨1, 0xA0, 0xBF, 0⟩
  else if b = 0xED then some ⟨1, 0x80, 0x9F, 0xD⟩
  else if 0xE1 ≤ b ∧ b ≤ 0xEF then some ⟨1, 0x80, 0xBF, b - 0xE0⟩
  else if b = 0xF0 then some ⟨2, 0x90, 0xBF, 0⟩
  else if 0xF1 ≤ b ∧ b ≤ 0xF3 then some ⟨2, 0x80, 0xBF, b - 0xF0⟩
  else if b = 0xF4 then some ⟨2, 0x80, 0x8F, 4⟩
  else none

/-- A unit of the input: a character, or a malformed stretch. -/
abbrev Piece := Option Char

/-- Where the reader stands: the character that is open, if any, and the units read so far, the
latest first. -/
structure Reader where
  pending : Option Partial
  units : List Piece
  deriving DecidableEq, Repr

/-- The reader before the first byte. -/
def Reader.start : Reader := ⟨none, []⟩

/-- Reads `b` as the first byte of a character. -/
def Reader.lead (units : List Piece) (b : Nat) : Reader :=
  if b < 0x80 then ⟨none, some (Char.ofNat b) :: units⟩
  else
    match opened? b with
    | some p => ⟨some p, units⟩
    | none => ⟨none, none :: units⟩

/-- Reads one byte. -/
def Reader.step (r : Reader) (byte : UInt8) : Reader :=
  let b := byte.toNat
  match r.pending with
  | none => Reader.lead r.units b
  | some p =>
      if p.low ≤ b ∧ b ≤ p.high then
        let bits := p.bits * 64 + (b - 0x80)
        match p.after with
        | 0 => ⟨none, some (Char.ofNat bits) :: r.units⟩
        | n + 1 => ⟨some ⟨n, 0x80, 0xBF, bits⟩, r.units⟩
      else Reader.lead (none :: r.units) b

/-- The units in the order of the input; a character still open at the end is malformed. -/
def Reader.finish (r : Reader) : List Piece :=
  match r.pending with
  | none => r.units.reverse
  | some _ => (none :: r.units).reverse

/-- The units of a byte string. -/
def units (bytes : Bytes) : List Piece := (bytes.foldl Reader.step Reader.start).finish

/-- The replacement character, U+FFFD. -/
def replacement : Char := '\uFFFD'

/-- The text of a byte string, with U+FFFD for each malformed unit. -/
def lossy (bytes : Bytes) : Text := (units bytes).map fun u => u.getD replacement

/-- The text of a byte string, if none of its units is malformed. -/
def strict? (bytes : Bytes) : Option Text :=
  let us := units bytes
  if us.all Option.isSome then some (us.filterMap id) else none

end ScriptLint.Utf8
