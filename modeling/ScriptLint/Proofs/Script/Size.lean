import Mathlib.Algebra.GroupWithZero.Nat
import ScriptLint.Proofs.Script.Assembly
import ScriptLint.Proofs.Text.Bytes

set_option autoImplicit false

/-!
The size of a script.

A script is mostly the files it is made for, and escaping makes these longer. By how much is told
one character at a time, since that is how a text is escaped: a backslash, a mark and a line end
of one byte take one byte more, and U+2028 and U+2029, which are three bytes as they are, take
six as an escape. So no character takes more than twice its bytes, and no text does either.
Everything else in a script has a fixed size.
-/

namespace ScriptLint

/-! ## Literals -/

namespace Literal

/-- The characters that are escaped by a backslash and one character more. -/
def shortEscapes : List Char := ['\\', '"', '\n', '\r']

/-- The characters that are escaped by their number. -/
def longEscapes : List Char := ['\u2028', '\u2029']

/-- The number of bytes that a text takes when it is escaped. -/
def writtenSize (s : Text) : Nat :=
  Text.byteSize s + s.countP shortEscapes.contains + 3 * s.countP longEscapes.contains

/-- What a single character takes beyond its own bytes. -/
def extra (c : Char) : Nat :=
  (if shortEscapes.contains c then 1 else 0) + 3 * if longEscapes.contains c then 1 else 0

/-- A character without an escape takes its own bytes only. -/
theorem extra_of_plain {c : Char} (hc : needsEscape c = false) : extra c = 0 := by
  have hnot : ∀ cs : List Char, cs.all needsEscape = true → cs.contains c = false := by
    intro cs hcs
    refine Bool.eq_false_iff.2 fun hmem => ?_
    rw [List.all_eq_true.1 hcs c (List.contains_iff_mem.1 hmem)] at hc
    exact Bool.false_ne_true hc.symm
  rw [extra, hnot shortEscapes (by decide), hnot longEscapes (by decide)]
  rfl

/-- The size of one escaped character, by the seven cases of escaping. -/
private theorem byteSize_escapeChar (c : Char) :
    Text.byteSize (escapeChar c) = c.utf8Size + extra c := by
  cases c using charCases with
  | plain c hc =>
      rw [escapeChar_of_plain hc, extra_of_plain hc, Utf8.byteSize_cons]
      rfl
  | _ => decide

/-- **No character takes more than twice its bytes.** -/
theorem extra_le_utf8Size (c : Char) : extra c ≤ c.utf8Size := by
  cases c using charCases with
  | plain c hc =>
      rw [extra_of_plain hc]
      exact Nat.zero_le _
  | _ => decide

/-- The written size counts character by character, as escaping does. -/
theorem writtenSize_cons (c : Char) (s : Text) :
    writtenSize (c :: s) = c.utf8Size + extra c + writtenSize s := by
  rw [writtenSize, writtenSize, extra, Utf8.byteSize_cons, List.countP_cons, List.countP_cons]
  omega

/-- The written size is the size of the escaped text. -/
theorem byteSize_escape (s : Text) : Text.byteSize (escape s) = writtenSize s := by
  induction s with
  | nil => rfl
  | cons c s ih =>
      rw [escape_cons, Utf8.byteSize_append, byteSize_escapeChar, ih, writtenSize_cons]

/-- At worst every character takes twice its bytes: the short escapes are two bytes for one, the
long ones six for three. -/
theorem writtenSize_le (s : Text) : writtenSize s ≤ 2 * Text.byteSize s := by
  induction s with
  | nil => exact Nat.le_refl _
  | cons c s ih =>
      have hextra := extra_le_utf8Size c
      rw [writtenSize_cons, Utf8.byteSize_cons]
      omega

/-- Escaping never shortens a text. -/
private theorem byteSize_le_writtenSize (s : Text) : Text.byteSize s ≤ writtenSize s := by
  rw [writtenSize]
  omega

/-- A literal is the escaped text between its two quotation marks. -/
theorem byteSize_quote (s : Text) : Text.byteSize (quote s) = 2 + writtenSize s := by
  have hmark : Text.byteSize ['"'] = 1 := by decide
  rw [quote, List.cons_append, Utf8.byteSize_cons, Utf8.byteSize_append, byteSize_escape, hmark]
  have hfront : '"'.utf8Size = 1 := by decide
  omega

end Literal

/-! ## Scripts -/

/-- The size of a statement: twenty-three bytes stand around its path and its contents. -/
theorem Source.byteSize_statement (f : Source) :
    Text.byteSize f.statement
      = 23 + Literal.writtenSize f.path + Literal.writtenSize f.contents := by
  have hfront : Text.byteSize (Routine.name ++ ['(']) = 14 := by decide
  have hbetween : Text.byteSize [',', ' '] = 2 := by decide
  have hend : Text.byteSize [')', ';', '\n'] = 3 := by decide
  rw [statement, Utf8.byteSize_append, Utf8.byteSize_append, Utf8.byteSize_append,
    Utf8.byteSize_append, hfront, hbetween, hend, Literal.byteSize_quote, Literal.byteSize_quote]
  omega

/-- The options take the place of the mark, which is a part of the template. -/
private theorem Routine.byteSize_text (options : Options) :
    Text.byteSize mark ≤ Text.byteSize template
      ∧ Text.byteSize (text options)
          = Text.byteSize template - Text.byteSize mark + Text.byteSize options.script := by
  rw [text_eq_append, template_eq_append]
  simp only [Utf8.byteSize_append]
  omega

namespace Script

/-- What the statements take, where 23 is the call around the two escaped texts. -/
private theorem byteSize_statements (files : List Source) :
    Text.byteSize (statements files)
      = (files.map fun f => 23 + Literal.writtenSize f.path + Literal.writtenSize f.contents).sum := by
  induction files with
  | nil => rfl
  | cons f files ih =>
      rw [statements_cons, Utf8.byteSize_append, Source.byteSize_statement, ih, List.map_cons,
        List.sum_cons]

/-- Statements take twenty-three bytes each, and at most twice what is packed into them. -/
private theorem byteSize_statements_le (files : List Source) :
    Text.byteSize (statements files)
      ≤ 23 * files.length + 2 * (files.map fun f => Text.byteSize f.path + Text.byteSize f.contents).sum := by
  induction files with
  | nil => exact Nat.zero_le _
  | cons f files ih =>
      have hpath := Literal.writtenSize_le f.path
      have hcontents := Literal.writtenSize_le f.contents
      rw [statements_cons, Utf8.byteSize_append, Source.byteSize_statement, List.length_cons,
        List.map_cons, List.sum_cons]
      omega

/-- **The size of a script.** It is the size of the engine, of the routine without its mark and of
the options, and for each file twenty-three bytes and what the path and the contents take when
they are escaped. That is never less than their own size and never more than twice as much, so a
script is at most twice as large as what is packed into it, but for a part that does not depend
on the files and for twenty-three bytes a file. -/
theorem byteSize_assemble_eq_sum (engine : Engine) (options : Options) (files : List Source) :
    let script := assemble engine options files
    let fixed := Text.byteSize engine.source
      + (Text.byteSize Routine.template - Text.byteSize Routine.mark) + Text.byteSize options.script
    (Utf8.encode script).length = Text.byteSize script
      ∧ Text.byteSize Routine.mark ≤ Text.byteSize Routine.template
      ∧ Text.byteSize script = fixed
          + (files.map fun f => 23 + Literal.writtenSize f.path + Literal.writtenSize f.contents).sum
      ∧ (∀ s, Text.byteSize (Literal.escape s) = Literal.writtenSize s
          ∧ Text.byteSize s ≤ Literal.writtenSize s ∧ Literal.writtenSize s ≤ 2 * Text.byteSize s)
      ∧ Text.byteSize script ≤ fixed + 23 * files.length
          + 2 * (files.map fun f => Text.byteSize f.path + Text.byteSize f.contents).sum := by
  intro script fixed
  obtain ⟨hmark, hroutine⟩ := Routine.byteSize_text options
  have hscript : Text.byteSize script = fixed + Text.byteSize (statements files) := by
    simp only [script, fixed, assemble, Utf8.byteSize_append, hroutine]
    omega
  refine ⟨Utf8.length_encode script, hmark, ?_, fun s => ⟨Literal.byteSize_escape s,
    Literal.byteSize_le_writtenSize s, Literal.writtenSize_le s⟩, ?_⟩
  · rw [hscript, byteSize_statements]
  · have hfiles := byteSize_statements_le files
    omega

end Script

end ScriptLint
