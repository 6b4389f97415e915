import ScriptLint.Text.Decimal
import ScriptLint.Text.Json

set_option autoImplicit false

/-!
Reading JSON documents.

The reader takes any document whose values are of the kinds that `Json` has; blanks and line ends between
values count for nothing, and every escape of the format is understood, the ones that the printer does
not use included. A character beyond U+FFFF may be escaped as a pair of surrogates; half of such a pair is
an error. A document is one value with nothing but blanks around it.
-/

namespace ScriptLint.Json

/-- A text without the blanks and line ends in front of it. -/
def skipBlanks (s : Text) : Text :=
  s.dropWhile fun c => c == ' ' || c == '\n' || c == '\r' || c == '\t'

/-! ## Texts -/

/-- What stands for a part of a text: a character, or a number by which one is escaped. -/
inductive Piece where
  | char (c : Char)
  | code (n : Nat)
  deriving DecidableEq, Repr

/-- The character that a letter behind a backslash stands for. -/
def unescape? (c : Char) : Option Char :=
  match c with
  | '"' => some '"'
  | '\\' => some '\\'
  | '/' => some '/'
  | 'b' => some '\x08'
  | 'f' => some '\x0c'
  | 'n' => some '\n'
  | 'r' => some '\r'
  | 't' => some '\t'
  | _ => none

/-- Reads the pieces of a text up to its closing mark. -/
def pieces? : Text → Option (List Piece × Text)
  | [] => none
  | '"' :: s => some ([], s)
  | '\\' :: 'u' :: a :: b :: c :: d :: s => do
      let n ← Text.hexNumber? a b c d
      let (ps, rest) ← pieces? s
      some (.code n :: ps, rest)
  | '\\' :: c :: s => do
      let c ← unescape? c
      let (ps, rest) ← pieces? s
      some (.char c :: ps, rest)
  | c :: s =>
      if c = '\\' ∨ c.toNat < 0x20 then none
      else do
        let (ps, rest) ← pieces? s
        some (.char c :: ps, rest)

/-- The text that some pieces make. -/
def ofPieces? : List Piece → Option Text
  | [] => some []
  | .char c :: ps => (ofPieces? ps).map (c :: ·)
  | .code n :: ps =>
      if Nat.isValidChar n then (ofPieces? ps).map (Char.ofNat n :: ·)
      else
        match ps with
        | .code m :: ps =>
            if 0xD800 ≤ n ∧ n < 0xDC00 ∧ 0xDC00 ≤ m ∧ m < 0xE000 then
              (ofPieces? ps).map (Char.ofNat (0x10000 + (n - 0xD800) * 1024 + (m - 0xDC00)) :: ·)
            else none
        | _ => none

/-- Reads a text behind its opening mark. -/
def readText? (s : Text) : Option (Text × Text) := do
  let (ps, rest) ← pieces? s
  let t ← ofPieces? ps
  some (t, rest)

/-! ## Values -/

/-- Reads a number. A number of more than one digit does not begin with `0`. -/
def readNumber? (s : Text) : Option (Nat × Text) :=
  let digits := s.takeWhile fun c => (Decimal.digit? c).isSome
  let rest := s.drop digits.length
  match digits with
  | '0' :: _ :: _ => none
  | digits => (Decimal.unsigned? digits).map fun n => (n, rest)

mutual

/-- Reads a value in front of a text; `depth` bounds the number of values that are read. -/
def readValue? : Nat → Text → Option (Json × Text)
  | 0, _ => none
  | depth + 1, s =>
      match skipBlanks s with
      | '"' :: s => (readText? s).map fun (t, rest) => (.string t, rest)
      | 't' :: 'r' :: 'u' :: 'e' :: rest => some (.bool true, rest)
      | 'f' :: 'a' :: 'l' :: 's' :: 'e' :: rest => some (.bool false, rest)
      | '[' :: s =>
          match skipBlanks s with
          | ']' :: rest => some (.array [], rest)
          | s => (readItems? depth s).map fun (vs, rest) => (.array vs, rest)
      | '\x7b' :: s =>
          match skipBlanks s with
          | '\x7d' :: rest => some (.object [], rest)
          | s => (readMembers? depth s).map fun (ms, rest) => (.object ms, rest)
      | s => (readNumber? s).map fun (n, rest) => (.number n, rest)

/-- Reads the items of a list that is not empty, up to its closing bracket. -/
def readItems? : Nat → Text → Option (List Json × Text)
  | 0, _ => none
  | depth + 1, s => do
      let (v, s) ← readValue? depth s
      match skipBlanks s with
      | ']' :: rest => some ([v], rest)
      | ',' :: s => (readItems? depth s).map fun (vs, rest) => (v :: vs, rest)
      | _ => none

/-- Reads the members of an object that is not empty, up to its closing brace. -/
def readMembers? : Nat → Text → Option (List (Text × Json) × Text)
  | 0, _ => none
  | depth + 1, s =>
      match skipBlanks s with
      | '"' :: s => do
          let (k, s) ← readText? s
          match skipBlanks s with
          | ':' :: s =>
              let (v, s) ← readValue? depth s
              match skipBlanks s with
              | '\x7d' :: rest => some ([(k, v)], rest)
              | ',' :: s => (readMembers? depth s).map fun (ms, rest) => ((k, v) :: ms, rest)
              | _ => none
          | _ => none
      | _ => none

end

/-- Reads a document. -/
def read? (s : Text) : Option Json := do
  let (v, rest) ← readValue? (2 * s.length + 1) s
  if (skipBlanks rest).isEmpty then some v else none

end ScriptLint.Json
