import ScriptLint.Proofs.Script.Statements

set_option autoImplicit false

/-!
Words in a script.

A word is looked for in the line of a statement. The line consists of fixed text and two
literals, and the marks around the literals separate them. In a literal an escape may
stand for a character, so in principle a word could be made or destroyed by escaping. It
is not if it is `Plain`: none of its characters is escaped, and its first one does not
occur in an escape either, so that no occurrence begins inside an escape.
-/

namespace ScriptLint

namespace Literal

/-- A word that escaping neither makes nor destroys. -/
structure Plain (word : Text) : Prop where
  ne_nil : word ≠ []
  kept : word.any needsEscape = false
  first : ∀ c d, needsEscape c = true → word.head? = some d → d ∉ escapeChar c

/-- A text without characters that need an escape is written as it is. -/
theorem escape_of_any_eq_false {s : Text} (hs : s.any needsEscape = false) : escape s = s := by
  induction s with
  | nil => rfl
  | cons c s ih =>
      rw [List.any_cons, Bool.or_eq_false_iff] at hs
      rw [escape_cons, escapeChar_of_plain hs.1, ih hs.2, List.singleton_append]

/-- A text in which nothing is escaped holds none of the escaped characters. -/
theorem not_mem_of_any_eq_false {c : Char} {s : Text} (hs : s.any needsEscape = false)
    (hc : needsEscape c = true) : c ∉ s :=
  fun hmem => List.any_eq_false.1 hs c hmem hc

/-- An escape begins with a backslash. -/
theorem escapeChar_eq_cons {c : Char} (hc : needsEscape c = true) :
    ∃ rest, escapeChar c = '\\' :: rest := by
  cases c using charCases with
  | plain c hplain => exact absurd (hplain.symm.trans hc) (by decide)
  | _ => exact ⟨_, rfl⟩

/-- An escaped text opens with a plain word exactly when the text does. -/
private theorem opensWith_escape {word : Text} (hword : word.any needsEscape = false) (s : Text) :
    Part.opensWith word (escape s) = Part.opensWith word s := by
  induction word generalizing s with
  | nil => rfl
  | cons d word ih =>
      rw [List.any_cons, Bool.or_eq_false_iff] at hword
      obtain ⟨hd, hrest⟩ := hword
      cases s with
      | nil => rfl
      | cons c s =>
          rw [escape_cons]
          cases hc : needsEscape c with
          | false =>
              rw [escapeChar_of_plain hc, List.singleton_append, Part.opensWith_cons_cons,
                Part.opensWith_cons_cons, ih hrest]
          | true =>
              -- the word begins neither with a backslash nor with what it stands for
              obtain ⟨rest, hescape⟩ := escapeChar_eq_cons hc
              have hback : d ≠ '\\' := ne_of_plain hd (by decide)
              have hchar : d ≠ c := ne_of_plain hd hc
              rw [hescape, List.cons_append, Part.opensWith_cons_cons, Part.opensWith_cons_cons,
                decide_eq_false hback, decide_eq_false hchar, Bool.false_and, Bool.false_and]

/-- **Escaping neither makes nor destroys a plain word.** -/
theorem holds_escape {word : Text} (hword : Plain word) (s : Text) :
    Part.holds word (escape s) = Part.holds word s := by
  induction s with
  | nil => rfl
  | cons c s ih =>
      have hfront : Part.opensWith word (escape (c :: s)) = Part.opensWith word (c :: s) :=
        opensWith_escape hword.kept (c :: s)
      rw [escape_cons] at hfront ⊢
      cases hc : needsEscape c with
      | false =>
          rw [escapeChar_of_plain hc, List.singleton_append] at hfront ⊢
          rw [Part.holds_cons, Part.holds_cons, hfront, ih]
      | true =>
          obtain ⟨d, word, rfl⟩ := List.exists_cons_of_ne_nil hword.ne_nil
          have hnot : d ∉ escapeChar c := hword.first c d hc rfl
          have hchar : d ∉ [c] := by
            rintro hmem
            rw [List.mem_singleton.1 hmem] at hword
            exact not_mem_of_any_eq_false hword.kept hc List.mem_cons_self
          rw [Part.holds_append_of_not_mem hnot, ih]
          exact (Part.holds_append_of_not_mem hchar word s).symm

/-- A plain word in a literal, with anything behind it. -/
theorem holds_quote_append {word : Text} (hword : Plain word) (s rest : Text) :
    Part.holds word (quote s ++ rest) = (Part.holds word s || Part.holds word rest) := by
  have hmark : '"' ∉ word := not_mem_of_any_eq_false hword.kept (by decide)
  have hquote : quote s ++ rest = [] ++ '"' :: (escape s ++ '"' :: rest) := quote_append s rest
  rw [hquote, Part.holds_append_cons hword.ne_nil hmark, Part.holds_append_cons hword.ne_nil hmark,
    holds_escape hword, Part.holds_nil hword.ne_nil, Bool.false_or]

end Literal

namespace Script

/-- What stands in the line of a statement behind the opening of the call. -/
def argumentsOf (f : Source) : Text :=
  Literal.quote f.path ++ ',' :: ' ' :: (Literal.quote f.contents ++ [')', ';'])

/-- The line of a statement behind the opening of its call. -/
theorem statementLine_eq_append (f : Source) :
    statementLine f = Routine.name ++ ['('] ++ argumentsOf f := by
  simp only [statementLine, argumentsOf, List.append_assoc, List.singleton_append]

/-- **A plain word is in a call if it is in the path or in the contents**, and the word
does not begin with any of the fixed characters. -/
theorem holds_argumentsOf {word : Text} (hword : Literal.Plain word)
    (hfixed : ∀ d, word.head? = some d → d ∉ [',', ' ', ')', ';']) (f : Source) :
    Part.holds word (argumentsOf f) = (Part.holds word f.path || Part.holds word f.contents) := by
  obtain ⟨d, word, rfl⟩ := List.exists_cons_of_ne_nil hword.ne_nil
  have hd : d ∉ [',', ' ', ')', ';'] := hfixed d rfl
  have hbetween : d ∉ [',', ' '] := fun hmem => hd (List.mem_append_left [')', ';'] hmem)
  have hend : d ∉ [')', ';'] := fun hmem => hd (List.mem_append_right [',', ' '] hmem)
  have hsplit : argumentsOf f = Literal.quote f.path
      ++ ([',', ' '] ++ (Literal.quote f.contents ++ [')', ';'])) := rfl
  rw [hsplit, Literal.holds_quote_append hword, Part.holds_append_of_not_mem hbetween,
    Literal.holds_quote_append hword, Part.holds_eq_false_of_not_mem hend, Bool.or_false]

end Script

end ScriptLint
