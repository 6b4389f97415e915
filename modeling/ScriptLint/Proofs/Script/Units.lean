import ScriptLint.Proofs.Script.Literal

set_option autoImplicit false

/-!
Escaped texts as a language.

Whether a text is an escaped one can be told without knowing what it was made from: it falls
into units, each of them a character that may stand as it is or one of six escapes. The units
are exactly the writings of single characters, so a text that falls into units has been written
character by character, and that is what `escape` does.

A run of backslashes could fall into units in more than one way, if it were not for the
reader. It takes the writing of one character off the front and never looks back, so what it
has read is the only text that can have been written.
-/

namespace ScriptLint.Literal

variable {u w s s' : Text}

/-! ## Units -/

/-- What escaping writes for one character is one unit. -/
theorem isUnit_escapeChar (c : Char) : IsUnit (escapeChar c) := by
  cases c using charCases with
  | backslash => exact .backslash
  | mark => exact .mark
  | feed => exact .feed
  | ret => exact .ret
  | lineSeparator => exact .lineSeparator
  | paragraphSeparator => exact .paragraphSeparator
  | plain c hc =>
      rw [escapeChar_of_plain hc]
      exact .plain hc

/-- **The units are the writings of single characters.** -/
theorem isUnit_iff : IsUnit u ↔ ∃ c, escapeChar c = u := by
  constructor
  · intro h
    cases h with
    | plain hc => exact ⟨_, escapeChar_of_plain hc⟩
    | backslash => exact ⟨'\\', rfl⟩
    | mark => exact ⟨'"', rfl⟩
    | feed => exact ⟨'\n', rfl⟩
    | ret => exact ⟨'\r', rfl⟩
    | lineSeparator => exact ⟨'\u2028', rfl⟩
    | paragraphSeparator => exact ⟨'\u2029', rfl⟩
  · rintro ⟨c, rfl⟩
    exact isUnit_escapeChar c

/-! ## Texts of units -/

/-- An escaped text is a sequence of units, one for each character. -/
private theorem isEscaped_escape (s : Text) : IsEscaped (escape s) := by
  induction s with
  | nil => exact .nil
  | cons c s ih =>
      rw [escape_cons]
      exact .cons (isUnit_escapeChar c) ih

/-- What falls into units has been written unit by unit. -/
private theorem IsEscaped.exists_escape_eq (h : IsEscaped w) : ∃ s, escape s = w := by
  induction h with
  | nil => exact ⟨[], rfl⟩
  | cons hunit _ ih =>
      obtain ⟨c, rfl⟩ := isUnit_iff.1 hunit
      obtain ⟨s, rfl⟩ := ih
      exact ⟨c :: s, escape_cons c s⟩

/-- Texts that are written alike are read alike, and so they are the same. -/
private theorem eq_of_escape_eq (h : escape s = escape s') : s = s' := by
  have hquote : quote s ++ [] = quote s' ++ [] := by rw [quote, quote, h]
  exact (eq_of_quote_append_eq hquote).1

/-- **Every text of units is written, and from one text only.** What is escaped falls into
units. A text that falls into units is what exactly one text is escaped to, and that text is
what the reader makes of it between two marks, whatever follows. So to read a text of units and
to escape the result changes nothing. -/
theorem escape_writes_each_text_of_units_once :
    (∀ s, IsEscaped (escape s))
      ∧ ∀ w, IsEscaped w → ∃ s, escape s = w ∧ (∀ s', escape s' = w → s' = s)
          ∧ ∀ rest, read? ('"' :: w ++ '"' :: rest) = some (s, rest) := by
  refine ⟨isEscaped_escape, fun w hw => ?_⟩
  obtain ⟨s, rfl⟩ := hw.exists_escape_eq
  refine ⟨s, rfl, fun s' h => eq_of_escape_eq h, fun rest => ?_⟩
  rw [List.cons_append, ← quote_append]
  exact read?_quote_append s rest

/-- A backslash in front of a letter, and the escape that it looks like. -/
theorem escape_writes_each_text_of_units_once_of_backslashes :
    let w : Text := ['\\', '\\', 'u', '2', '\\', 'u', '2', '0', '2', '8', '\\', '\\', '\\', '"']
    let s : Text := ['\\', 'u', '2', '\u2028', '\\', '"']
    IsEscaped w ∧ escape s = w ∧ (∀ s', escape s' = w → s' = s)
      ∧ read? ('"' :: w ++ ['"', '\\']) = some (s, ['\\']) := by
  intro w s
  have hw : IsEscaped w :=
    .cons .backslash <| .cons (.plain (by decide)) <| .cons (.plain (by decide)) <|
      .cons .lineSeparator <| .cons .backslash <| .cons .mark .nil
  have hs : escape s = w := by decide
  obtain ⟨s₁, -, honly, hread⟩ := escape_writes_each_text_of_units_once.2 w hw
  obtain rfl : s = s₁ := honly s hs
  exact ⟨hw, hs, honly, hread ['\\']⟩

end ScriptLint.Literal
