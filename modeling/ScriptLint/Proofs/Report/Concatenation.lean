import ScriptLint.Proofs.Report.Lines
import ScriptLint.Proofs.Report.Reader
import ScriptLint.Proofs.Text.Boundary
import ScriptLint.Report.Form

set_option autoImplicit false

/-!
One report behind another.

What an interpreter prints about several files is one output, and it is read as one.
Three things could carry over from an earlier part into a later one: a character that is
still open, a line without its feed, and an error that still looks for its evidence. A
line feed at the end of the earlier part settles the first two, since it is an ASCII byte
and ends a line. Evidence is looked for one line further on and no more, so the third one
concerns the last line of the earlier part alone, and even there it is the *earlier*
diagnostic that changes. What the later part reports is reported in any case, unchanged
and in its order, behind everything else.
-/

namespace ScriptLint

/-! ## Lines -/

theorem Text.lines_nil : Text.lines [] = [] := by decide

/-- Behind a feed the lines begin anew, and no line of the earlier part is left open. -/
theorem Text.lines_append_feed (s t : Text) :
    (s ++ '\n' :: t).lines = (s ++ ['\n']).lines ++ t.lines := by
  -- the closed lines of `s`, and behind them the lines of any `u`
  have hbehind : ∀ u : Text,
      (s ++ '\n' :: u).lines = (s.splitOnP (· == '\n')).map Text.cutReturn ++ u.lines := by
    intro u
    have hne : u.splitOnP (· == '\n') ≠ [] := List.splitOnP_ne_nil _ u
    have hsplit : (s ++ '\n' :: u).splitOnP (· == '\n')
        = s.splitOnP (· == '\n') ++ u.splitOnP (· == '\n') :=
      List.splitOnP_append_cons s u BEq.rfl
    have hlast : (s.splitOnP (· == '\n') ++ u.splitOnP (· == '\n')).getLast?
        = (u.splitOnP (· == '\n')).getLast? := by
      rw [List.getLast?_append, List.getLast?_eq_some_getLast hne, Option.some_or]
    simp only [Text.lines, hsplit, hlast, List.dropLast_append_of_ne_nil hne, List.map_append]
    split <;> simp only [List.append_assoc]
  rw [hbehind t, hbehind [], Text.lines_nil, List.append_nil]

namespace Report

variable {files : List Text}

/-! ## Diagnostics of lines -/

/-- Evidence is looked for in the next line, so what comes further on makes no difference. -/
theorem diagnosticAt_append {line next : Text} (rest more : List Text) :
    diagnosticAt files line ((next :: rest) ++ more) = diagnosticAt files line (next :: rest) := by
  unfold diagnosticAt
  rw [List.cons_append, evidence?, evidence?]

/-- A line that is no error looks for no evidence. -/
private theorem diagnosticAt_congr {line : Text} (rest rest' : List Text)
    (hline : ∀ h, Header.read? files line = some h → Kind.ofMessage h.message ≠ .error) :
    diagnosticAt files line rest = diagnosticAt files line rest' := by
  unfold diagnosticAt
  cases hread : Header.read? files line with
  | none => rfl
  | some h => rw [Option.map_some, Option.map_some, if_neg (hline h hread), if_neg (hline h hread)]

/-- **Later lines are read as if they stood alone.** -/
theorem eachLine_suffix (lines more : List Text) :
    eachLine files more <:+ eachLine files (lines ++ more) := by
  induction lines with
  | nil => exact List.suffix_rfl
  | cons line lines ih =>
      rw [List.cons_append, eachLine]
      exact ih.trans (List.suffix_append _ _)

/-- **Earlier lines are read as if they stood alone**, unless the last one is an error. -/
theorem eachLine_append {lines : List Text} (more : List Text)
    (hlast : ∀ line h, lines.getLast? = some line → Header.read? files line = some h →
      Kind.ofMessage h.message ≠ .error) :
    eachLine files (lines ++ more) = eachLine files lines ++ eachLine files more := by
  induction lines with
  | nil => rfl
  | cons line lines ih =>
      cases lines with
      | nil =>
          have hline := fun h => hlast line h List.getLast?_singleton
          rw [List.singleton_append, eachLine, eachLine, diagnosticAt_congr more [] hline, eachLine,
            List.append_nil]
      | cons next rest =>
          have htail : eachLine files ((next :: rest) ++ more)
              = eachLine files (next :: rest) ++ eachLine files more := by
            apply ih
            intro l h hl
            exact hlast l h (by rw [List.getLast?_cons_cons, hl])
          calc eachLine files (line :: ((next :: rest) ++ more))
            _ = (diagnosticAt files line ((next :: rest) ++ more)).toList
                  ++ eachLine files ((next :: rest) ++ more) := rfl
            _ = (diagnosticAt files line (next :: rest)).toList
                  ++ (eachLine files (next :: rest) ++ eachLine files more) := by
                rw [diagnosticAt_append, htail]
            _ = eachLine files (line :: next :: rest) ++ eachLine files more :=
                (List.append_assoc _ _ _).symm

end Report

/-! ## Diagnostics of outputs -/

namespace Outcome

theorem diagnostics_eq_eachLine (output : Bytes) (status : WaitStatus) (files : List Text) :
    Outcome.diagnostics ⟨output, status⟩ files
      = Report.eachLine files (Utf8.lossy output).lines := by
  rw [diagnostics, text, Report.diagnostics_eq_eachLine]

/-- The lines of an output behind one that ends in a line feed. -/
theorem lines_lossy_append {earlier : Bytes} (hclosed : earlier = [] ∨ earlier.getLast? = some 0x0A)
    (later : Bytes) :
    (Utf8.lossy (earlier ++ later)).lines
      = (Utf8.lossy earlier).lines ++ (Utf8.lossy later).lines := by
  obtain rfl | hfeed := hclosed
  · rw [List.nil_append]
    exact (List.nil_append _).symm
  · obtain ⟨front, rfl⟩ := List.getLast?_eq_some_iff.1 hfeed
    have hascii : (0x0A : UInt8).toNat < 0x80 := by decide
    rw [List.append_assoc, List.singleton_append, Utf8.lossy_append_cons hascii front later,
      Utf8.lossy_append_cons hascii front []]
    exact Text.lines_append_feed _ _

/-- **Reports one behind the other.** Take an output that is empty or ends in a line feed,
and any output behind it, both with any bytes and about the same files. What is found in
the later one alone is found behind everything else in the two together. If the earlier
one is empty, or its last line is not the header of an error, then what is found in the
two together is what is found in the one and then what is found in the other. -/
theorem diagnostics_append (files : List Text) (earlier later : Bytes)
    (status status' status'' : WaitStatus)
    (closed : earlier = [] ∨ earlier.getLast? = some 0x0A) :
    let both := Outcome.diagnostics ⟨earlier ++ later, status⟩ files
    let first := Outcome.diagnostics ⟨earlier, status'⟩ files
    let second := Outcome.diagnostics ⟨later, status''⟩ files
    second <:+ both
      ∧ ((earlier = [] ∨ ∀ line h, (Utf8.lossy earlier).lines.getLast? = some line →
            Header.read? files line = some h → Kind.ofMessage h.message ≠ .error) →
          both = first ++ second) := by
  intro both first second
  have hboth : both = Report.eachLine files
      ((Utf8.lossy earlier).lines ++ (Utf8.lossy later).lines) := by
    rw [← lines_lossy_append closed later]
    exact diagnostics_eq_eachLine _ _ _
  have hfirst : first = Report.eachLine files (Utf8.lossy earlier).lines :=
    diagnostics_eq_eachLine _ _ _
  have hsecond : second = Report.eachLine files (Utf8.lossy later).lines :=
    diagnostics_eq_eachLine _ _ _
  rw [hboth, hfirst, hsecond]
  refine ⟨Report.eachLine_suffix _ _, fun hlast => Report.eachLine_append _ ?_⟩
  obtain rfl | hlast := hlast
  · -- nothing has no last line
    have hempty : (Utf8.lossy []).lines = [] := by decide
    intro line h hline
    rw [hempty] at hline
    exact absurd hline (by simp)
  · exact hlast

/-- An error whose evidence is the beginning of a character, and an output behind it that
begins with what could complete that character. -/
theorem diagnostics_append_of_broken_character :
    let files : List Text := [['a']]
    let earlier : Bytes := Utf8.encode "a 1: Bad.\n".toList ++ [0xE2, 0x82, 0x0A]
    let later : Bytes := [0xAC, 0x0A] ++ Utf8.encode "a 2: unused variable 'x'\n".toList
    let first : Diagnostic := ⟨['a'], 1, .error, "Bad.".toList, some ['\uFFFD']⟩
    let second : Diagnostic := ⟨['a'], 2, .unusedVariable, "unused variable 'x'".toList, none⟩
    earlier.getLast? = some 0x0A
      ∧ (∀ line h, (Utf8.lossy earlier).lines.getLast? = some line →
          Header.read? files line = some h → Kind.ofMessage h.message ≠ .error)
      ∧ Outcome.diagnostics ⟨earlier ++ later, .exited 0⟩ files = [first, second] := by
  intro files earlier later first second
  have hclosed : earlier.getLast? = some 0x0A := by decide
  have hline : (Utf8.lossy earlier).lines.getLast? = some ['\uFFFD'] := by decide
  have hlast : ∀ line h, (Utf8.lossy earlier).lines.getLast? = some line →
      Header.read? files line = some h → Kind.ofMessage h.message ≠ .error := by
    intro line h hsome hread
    have hnone : Header.read? files ['\uFFFD'] = none := by decide
    rw [hline, Option.some.injEq] at hsome
    rw [← hsome, hnone] at hread
    exact absurd hread (by simp)
  refine ⟨hclosed, hlast, ?_⟩
  rw [(diagnostics_append files earlier later (.exited 0) (.exited 0) (.exited 0)
    (.inr hclosed)).2 (.inr hlast), diagnostics_eq_eachLine, diagnostics_eq_eachLine]
  decide

end Outcome

end ScriptLint
