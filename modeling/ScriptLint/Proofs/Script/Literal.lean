import ScriptLint.Script.Literal

set_option autoImplicit false

/-!
Literals, from the side of the one who reads them.

`escape` is six passes over a whole text, and the passes work on each other's output.
The first half of this file takes that apart: a pass replaces each character on its own,
so the six together do, and what they make of one character is a finite table,
`escapeChar`. Nothing behind that point looks at a pass again.

The second half is the reader. What `read?` makes of a literal with a text behind it is
the induction on the literal with *the text behind it quantified*: the reader is not
told where the literal ends, so the statement has to hold whatever follows, also when
that begins with a mark or a backslash.

The reader refuses a raw line end wherever it stands, also behind a backslash. That a
literal is read back is therefore at the same time the statement that no line end is
left in it; `not_mem_escape` says this without the reader.
-/

namespace ScriptLint.Literal

/-! ## Characters -/

/-- A character is one of the six that need an escape, or it stands for itself. Every
fact about `escapeChar` below is checked at the six and argued once for the others. -/
@[elab_as_elim]
theorem charCases {motive : Char → Prop} (backslash : motive '\\') (mark : motive '"')
    (feed : motive '\n') (ret : motive '\r') (lineSeparator : motive '\u2028')
    (paragraphSeparator : motive '\u2029') (plain : ∀ c, needsEscape c = false → motive c)
    (c : Char) : motive c := by
  cases hc : needsEscape c with
  | false => exact plain c hc
  | true =>
      simp only [needsEscape, Bool.or_eq_true, beq_iff_eq] at hc
      rcases hc with ((((rfl | rfl) | rfl) | rfl) | rfl) | rfl <;> assumption

/-- A character without an escape is none of the escaped ones. -/
theorem ne_of_plain {c e : Char} (hc : needsEscape c = false) (he : needsEscape e = true) :
    c ≠ e := by
  rintro rfl
  rw [hc] at he
  exact Bool.false_ne_true he

/-- A character without an escape stands for itself. -/
theorem escapeChar_of_plain {c : Char} (hc : needsEscape c = false) : escapeChar c = [c] := by
  unfold escapeChar
  split
  case h_7 => rfl
  all_goals exact absurd hc (by decide)

/-! ## The passes, one character at a time -/

/-- Passes over a text that was put together piece by piece can be run on each piece. -/
private theorem runPasses_flatMap (passes : List (Char × Text)) (f : Char → Text) (s : Text) :
    runPasses passes (s.flatMap f) = s.flatMap fun c => runPasses passes (f c) := by
  induction passes generalizing f with
  | nil => rfl
  | cons pass passes ih =>
    simp only [runPasses, List.foldl_cons, Text.replaceChar] at ih ⊢
    rw [List.flatMap_assoc]
    exact ih _

/-- A character that no pass looks for goes through all of them. -/
private theorem runPasses_of_not_mem {c : Char} {passes : List (Char × Text)}
    (hc : c ∉ passes.map Prod.fst) : runPasses passes [c] = [c] := by
  induction passes with
  | nil => rfl
  | cons pass passes ih =>
    simp only [List.map_cons, List.mem_cons, not_or] at hc
    have hpass : Text.replaceChar pass.1 pass.2 [c] = [c] := by simp [Text.replaceChar, hc.1]
    rw [runPasses, List.foldl_cons, hpass]
    exact ih hc.2

/-- What the six passes make of a single character. -/
theorem runPasses_singleton (c : Char) :
    runPasses laterPasses (if c = '\\' then ['\\', '\\'] else [c]) = escapeChar c := by
  cases c using charCases with
  | plain c hc =>
      rw [if_neg (ne_of_plain hc (by decide)), escapeChar_of_plain hc]
      -- every pass looks for a character that needs an escape
      apply runPasses_of_not_mem
      intro hmem
      simp only [laterPasses, List.map_cons, List.map_nil, List.mem_cons, List.not_mem_nil,
        or_false] at hmem
      rcases hmem with h | h | h | h | h <;> exact ne_of_plain hc (by decide) h
  | _ => decide

/-- **The six passes are one.** Each character is written on its own, whatever stands
around it. -/
theorem escape_eq_escapeEach (s : Text) : escape s = escapeEach s := by
  rw [escape, Text.replaceChar, runPasses_flatMap, escapeEach]
  simp only [runPasses_singleton]

/-- Escaping goes character by character. -/
theorem escape_cons (c : Char) (s : Text) : escape (c :: s) = escapeChar c ++ escape s := by
  simp only [escape_eq_escapeEach, escapeEach, List.flatMap_cons]

/-! ## Line ends -/

/-- The characters that end a line for some interpreter. -/
def lineEnds : List Char := ['\n', '\r', '\u2028', '\u2029']

theorem mem_lineEnds_iff {e : Char} :
    e ∈ lineEnds ↔ e = '\n' ∨ e = '\r' ∨ e = '\u2028' ∨ e = '\u2029' := by
  simp only [lineEnds, List.mem_cons, List.not_mem_nil, or_false]

/-- Every character that ends a line is escaped. -/
private theorem needsEscape_of_mem_lineEnds {e : Char} (he : e ∈ lineEnds) :
    needsEscape e = true := by
  rcases mem_lineEnds_iff.1 he with rfl | rfl | rfl | rfl <;> decide

/-- No escape holds a raw end of a line. -/
private theorem not_mem_escapeChar {e : Char} (he : e ∈ lineEnds) (c : Char) : e ∉ escapeChar c := by
  cases c using charCases with
  | plain c hc =>
      rw [escapeChar_of_plain hc, List.mem_singleton]
      exact (ne_of_plain hc (needsEscape_of_mem_lineEnds he)).symm
  | _ => rcases mem_lineEnds_iff.1 he with rfl | rfl | rfl | rfl <;> decide

/-- No line end of any kind is left in an escaped text. -/
private theorem not_mem_escape {e : Char} (he : e ∈ lineEnds) (s : Text) : e ∉ escape s := by
  rw [escape_eq_escapeEach, escapeEach, List.mem_flatMap]
  rintro ⟨c, -, hc⟩
  exact not_mem_escapeChar he c hc

/-- A literal stands on one line, whichever character ends one. -/
theorem not_mem_quote {e : Char} (he : e ∈ lineEnds) (s : Text) : e ∉ quote s := by
  have hmark : e ≠ '"' := by
    rintro rfl
    exact absurd he (by decide)
  simp [quote, hmark, not_mem_escape he s]

/-! ## Reading a literal back -/

/-- The reader takes a character without an escape as it is. -/
private theorem readBody?_cons_of_plain {c : Char} (hc : needsEscape c = false) (w : Text) :
    readBody? (c :: w) = (readBody? w).map fun (t, rest) => (c :: t, rest) := by
  have hmark : c ≠ '"' := ne_of_plain hc (by decide)
  have hback : c ≠ '\\' := ne_of_plain hc (by decide)
  rw [readBody?]
  · simp only [hc, Bool.false_eq_true, if_false]
  all_goals simp [hmark, hback]

/-- The reader takes the writing of one character off the front and gives that character
back: each row of `escapeChar` is one rule of the reader. -/
theorem readBody?_escapeChar_append (c : Char) (w : Text) :
    readBody? (escapeChar c ++ w) = (readBody? w).map fun (t, rest) => (c :: t, rest) := by
  cases c using charCases with
  | plain c hc =>
      rw [escapeChar_of_plain hc]
      exact readBody?_cons_of_plain hc w
  | backslash => simp [escapeChar, readBody?, needsEscape]
  | mark => simp [escapeChar, readBody?, needsEscape]
  | feed => simp [escapeChar, readBody?]
  | ret => simp [escapeChar, readBody?]
  | lineSeparator =>
      simp [escapeChar, readBody?, show hexChar? '2' '0' '2' '8' = some '\u2028' by decide]
  | paragraphSeparator =>
      simp [escapeChar, readBody?, show hexChar? '2' '0' '2' '9' = some '\u2029' by decide]

/-- Reading undoes escaping and stops at the first quotation mark that escaping did not write,
whatever follows it. -/
theorem readBody?_escape_append (s t : Text) :
    readBody? (escape s ++ '"' :: t) = some (s, t) := by
  induction s with
  | nil => rfl
  | cons c s ih => rw [escape_cons, List.append_assoc, readBody?_escapeChar_append, ih]; rfl

/-- A literal in front of a text, down to the characters that its reader looks at. -/
theorem quote_append (s t : Text) : quote s ++ t = '"' :: (escape s ++ '"' :: t) := by
  simp only [quote, List.cons_append, List.append_assoc, List.nil_append]

/-- The reader stops right behind a literal, whatever follows it. -/
theorem read?_quote_append (s t : Text) : read? (quote s ++ t) = some (s, t) := by
  rw [quote_append]
  exact readBody?_escape_append s t

/-- A literal that opens another one is the same literal, since the reader stops behind
both. -/
theorem eq_of_quote_append_eq {s s' t t' : Text} (h : quote s ++ t = quote s' ++ t') :
    s = s' ∧ t = t' := by
  have hread : some (s, t) = some (s', t') := by
    rw [← read?_quote_append s t, ← read?_quote_append s' t', h]
  exact Prod.mk.inj (Option.some.inj hread)

/-- **Literals delimit themselves.** With any text behind it, the literal of `s` is read
as exactly `s` with exactly that text left; and of two literals one opens the other only
if they denote the same text. -/
theorem quote_self_delimiting (s : Text) :
    (∀ t, read? (quote s ++ t) = some (s, t))
      ∧ ∀ s', (quote s = quote s' ↔ s = s') ∧ (quote s <+: quote s' ↔ s = s') := by
  refine ⟨read?_quote_append s,
    fun s' => ⟨⟨fun h => ?_, fun h => h ▸ rfl⟩, fun h => ?_, fun h => ?_⟩⟩
  · have happ : quote s ++ [] = quote s' ++ [] := by rw [h]
    exact (eq_of_quote_append_eq happ).1
  · obtain ⟨t, ht⟩ := h
    have happ : quote s ++ t = quote s' ++ [] := by rw [ht, List.append_nil]
    exact (eq_of_quote_append_eq happ).1
  · exact h ▸ List.prefix_rfl

/-- Backslashes in front of a mark, and a text behind the literal that looks like its
end. -/
example : read? (quote ['\\', '"', '\\', 'n', '\u2028'] ++ ['"', ')']) =
    some (['\\', '"', '\\', 'n', '\u2028'], ['"', ')']) := by decide

end ScriptLint.Literal
