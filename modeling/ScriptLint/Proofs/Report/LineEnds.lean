import ScriptLint.Proofs.Report.Concatenation
import ScriptLint.Proofs.Text.Replacement

set_option autoImplicit false

/-!
Line ends of two characters.

Some interpreters end a line with a carriage return and a line feed. Such a return must not get
any further than the lines: at the end of a message it would stand behind the closing mark of an
implied global and make an error of it, and on an empty line it would be evidence. The lines of a
text are taken off one by one, each with its end, and an end may have a return in it. So with and
without the returns the lines are the same, and nothing behind the lines can tell the difference.
-/

namespace ScriptLint

variable {line : Text}

/-! ## Lines -/

namespace Text

/-- **The first line.** It goes up to the first feed, and it loses the return of its end. -/
theorem lines_append_cons (hline : '\n' ∉ line) (s : Text) :
    (line ++ '\n' :: s).lines = cutReturn line :: s.lines := by
  have hclosed : (line ++ ['\n']).lines = [cutReturn line] := by
    have h := Report.lines_ofLines (List.forall_mem_singleton.2 hline)
    rwa [Report.ofLines_cons, Report.ofLines_nil, List.map_singleton] at h
  rw [lines_append_feed, hclosed, List.singleton_append]

/-- One return before the feed belongs to the end of the line. -/
private theorem cutReturn_concat (line : Text) : cutReturn (line ++ ['\r']) = line := by
  have hstrip : Part.stripEnd? ['\r'] (line ++ ['\r']) = some line :=
    Part.stripEnd?_eq_some_iff.2 rfl
  rw [cutReturn, hstrip, Option.getD_some]

/-- A text with a return in front of each feed, line by line. -/
private theorem replaceChar_append_feed (hline : '\n' ∉ line) (s : Text) :
    replaceChar '\n' ['\r', '\n'] (line ++ '\n' :: s)
      = (line ++ ['\r']) ++ '\n' :: replaceChar '\n' ['\r', '\n'] s := by
  have hfeed : replaceChar '\n' ['\r', '\n'] ('\n' :: s)
      = '\r' :: '\n' :: replaceChar '\n' ['\r', '\n'] s := rfl
  rw [replaceChar_append, replaceChar_of_not_mem hline, hfeed, List.append_assoc,
    List.singleton_append]

/-- **Returns in the line ends make no difference to the lines.** -/
theorem lines_replaceChar_feed {s : Text} (hs : '\r' ∉ s) :
    (replaceChar '\n' ['\r', '\n'] s).lines = s.lines := by
  revert hs
  refine Part.pieceInduction '\n' (fun t ht _ => ?_) (fun line t hline ih hs => ?_) s
  · -- a last line without an end is left as it is
    rw [replaceChar_of_not_mem ht]
  · have hreturn : '\r' ∉ line := fun hmem => hs (List.mem_append_left _ hmem)
    have hrest : '\r' ∉ t := fun hmem => hs (List.mem_append_right _ (List.mem_cons_of_mem _ hmem))
    have hlonger : '\n' ∉ line ++ ['\r'] := by simp [hline]
    have hlast : line.getLast? ≠ some '\r' := fun h => hreturn (List.mem_of_getLast? h)
    rw [replaceChar_append_feed hline, lines_append_cons hlonger, lines_append_cons hline,
      cutReturn_concat, Report.cutReturn_of_getLast?_ne hlast, ih hrest]

end Text

/-! ## Reports -/

namespace Report

/-- **A report is read alike with either line end.** Take a report without carriage returns, and
the one with a return in front of each of its line feeds. They have the same lines, empty ones and a
last one without an end among them, and so the same diagnostics. -/
theorem diagnostics_of_returns (files : List Text) (report : Text) (bare : '\r' ∉ report) :
    let returned := Text.replaceChar '\n' ['\r', '\n'] report
    returned.lines = report.lines ∧ diagnostics files returned = diagnostics files report := by
  intro returned
  have hlines : returned.lines = report.lines := Text.lines_replaceChar_feed bare
  refine ⟨hlines, ?_⟩
  rw [diagnostics_eq_eachLine, diagnostics_eq_eachLine, hlines]

/-- An error with an empty line behind it, an implied global, and an error with evidence on a last
line without an end. -/
theorem diagnostics_of_returns_of_groups :
    let files : List Text := [['a']]
    let report : Text := "a 1: X\n\na 2: implied global 'x'\na 3: Y\n y".toList
    let returned : Text := "a 1: X\r\n\r\na 2: implied global 'x'\r\na 3: Y\r\n y".toList
    '\r' ∉ report ∧ returned = Text.replaceChar '\n' ['\r', '\n'] report
      ∧ diagnostics files returned
        = [⟨['a'], 1, .error, ['X'], none⟩,
            ⟨['a'], 2, .impliedGlobal, "implied global 'x'".toList, none⟩,
            ⟨['a'], 3, .error, ['Y'], some [' ', 'y']⟩] := by
  intro files report returned
  have bare : '\r' ∉ report := by decide
  have hreturned : returned = Text.replaceChar '\n' ['\r', '\n'] report := by decide
  refine ⟨bare, hreturned, ?_⟩
  rw [hreturned, (diagnostics_of_returns files report bare).2, diagnostics_eq_eachLine]
  decide

end Report

end ScriptLint
