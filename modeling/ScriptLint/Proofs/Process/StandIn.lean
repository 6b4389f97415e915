import ScriptLint.Process.StandIn
import ScriptLint.Proofs.Report.RoundTrip
import ScriptLint.Proofs.Script.Calls
import ScriptLint.Proofs.Script.Words
import ScriptLint.Proofs.Text.Agreement

set_option autoImplicit false

/-!
What the leak reaction makes of a script.

The stand-in reads bytes and takes them line by line; a script is a text. Since the
opening of a call, the quotation marks and the word it looks for are all ASCII, it may as
well be thought of as reading the text (`react_leaks_encode`).

A line that does not open with a call gives nothing, so all that is printed comes from
the statements (`Routine.uncalled_around`), and each of them gives its own part of the
report (`leakReport_statementLine`).
-/

namespace ScriptLint

namespace StandIn

/-! ## Lines -/

/-- An empty line gives nothing, so it does not matter whether the last one counts. -/
private theorem flatMap_scriptLines (script : Bytes) :
    (scriptLines script).flatMap leakReport = (script.splitOnP (· == 10)).flatMap leakReport := by
  have hempty : leakReport [] = [] := by decide
  rw [scriptLines]
  generalize script.splitOnP (· == 10) = pieces
  obtain rfl | ⟨front, last, rfl⟩ := List.eq_nil_or_concat pieces
  · rfl
  · rw [List.concat_eq_append]
    cases last with
    | nil => simp [hempty]
    | cons b last => simp

/-- **The script is read as a text.** -/
theorem react_leaks_encode (args : List Text) (script : Text) :
    react .leaks args (Utf8.encode script)
      = (script.splitOnP (· == '\n')).flatMap fun line => leakReport (Utf8.encode line) := by
  have hcut : (Utf8.encode script).splitOnP (· == 10) = (script.splitOnP (· == '\n')).map Utf8.encode :=
    Utf8.splitOnP_encode (c := '\n') (by decide) script
  rw [react, flatMap_scriptLines, hcut, List.flatMap_map]

/-- A line that does not open a call reports nothing. -/
theorem leakReport_of_not_call {line : Text}
    (hline : Part.opensWith Routine.callOpening line = false) : leakReport (Utf8.encode line) = [] := by
  have hascii : Utf8.IsAscii Routine.callOpening := by decide
  rw [← Utf8.opensWith_of_agree hascii (Utf8.agree_encode line)] at hline
  have hnone : Part.strip? callOpening (Utf8.encode line) = none :=
    Option.isNone_iff_eq_none.1 (Option.isSome_eq_false_iff.1 hline)
  rw [leakReport, hnone]

/-! ## Calls -/

/-- What is between the first two marks of a line. -/
private theorem firstQuoted_eq {front quoted : Bytes} (hfront : 34 ∉ front) (hquoted : 34 ∉ quoted)
    (rest : Bytes) : firstQuoted (front ++ 34 :: (quoted ++ 34 :: rest)) = quoted := by
  have hne : ∀ {bytes : Bytes}, 34 ∉ bytes → ∀ b ∈ bytes, (b != 34) = true := by
    intro bytes hbytes b hb
    refine bne_iff_ne.2 ?_
    rintro rfl
    exact hbytes hb
  rw [firstQuoted, List.dropWhile_append_of_pos (hne hfront), List.dropWhile_cons_of_neg (by decide),
    List.drop_one, List.tail_cons, List.takeWhile_append_of_pos (hne hquoted),
    List.takeWhile_cons_of_neg (by decide), List.append_nil]

/-- The word that is looked for, as a text. -/
def word : Text := "leak".toList

/-- Whether a source mentions the word. -/
def mentions (f : Source) : Bool := Part.holds word f.path || Part.holds word f.contents

/-- What is reported of a file, in words. -/
def wording : Text := "implied global 'leak'".toList

/-- What is reported of a file. -/
def finding (path : Text) : Diagnostic := ⟨path, 1, .impliedGlobal, wording, none⟩

/-- The word begins with an `l`. -/
theorem head?_word {d : Char} (hd : word.head? = some d) : d = 'l' :=
  (Option.some.inj hd).symm

/-- Escaping neither makes the word nor breaks it, as no escape holds an `l`. -/
theorem plain_word : Literal.Plain word where
  ne_nil := by decide
  kept := by decide
  first := by
    intro c d hc hd
    rw [head?_word hd]
    cases c using Literal.charCases with
    | plain c hplain => exact absurd (hplain.symm.trans hc) (by decide)
    | _ => decide

/-- What is printed for one finding, which is what the stand-in prints for one call. -/
theorem print_finding (path : Text) :
    Report.print [finding path] = path ++ " 1: implied global 'leak'\n\n".toList := by
  have hnumber : Decimal.write (finding path).line = ['1'] := show Decimal.write 1 = ['1'] by decide
  have hlines : [finding path].flatMap Report.linesOf = [Report.headerLine (finding path), []] := rfl
  have htail : ' ' :: (['1'] ++ ':' :: ' ' :: wording) ++ ['\n', '\n']
      = " 1: implied global 'leak'\n\n".toList := by decide
  rw [Report.print, hlines, Report.ofLines_cons, Report.ofLines_cons, Report.ofLines_nil,
    List.nil_append, Report.headerLine_eq, hnumber, List.append_assoc, ← htail]
  rfl

/-- **One statement.** Its part of the report is the finding for its file, if the path or
the contents mention the word. -/
theorem leakReport_statementLine {f : Source}
    (hpath : f.path.any Literal.needsEscape = false) :
    leakReport (Utf8.encode (Script.statementLine f))
      = if mentions f then Utf8.encode (Report.print [finding f.path]) else [] := by
  have hstrip : Part.strip? callOpening (Utf8.encode (Script.statementLine f))
      = some (Utf8.encode (Script.argumentsOf f)) := by
    rw [Script.statementLine_eq_append, Utf8.encode_append, callOpening, Part.strip?_append_self]
  have hholds : Part.holds leak (Utf8.encode (Script.argumentsOf f)) = mentions f := by
    have hword : leak = Utf8.encode word := rfl
    have hfixed : ∀ d, word.head? = some d → d ∉ [',', ' ', ')', ';'] := by
      intro d hd
      rw [head?_word hd]
      decide
    rw [hword, Utf8.holds_of_agree plain_word.ne_nil (by decide) (Utf8.agree_encode _),
      Script.holds_argumentsOf plain_word hfixed, mentions]
  have hquoted : firstQuoted (Utf8.encode (Script.statementLine f)) = Utf8.encode f.path := by
    -- no character of the path is escaped, so it is there as it is, and no mark is in it
    have hmark : '"' ∉ f.path := Literal.not_mem_of_any_eq_false hpath (by decide)
    have hline : Script.statementLine f = Routine.callOpening ++ '"' :: (f.path
        ++ '"' :: (',' :: ' ' :: (Literal.quote f.contents ++ [')', ';']))) := by
      simp only [Script.statementLine, Routine.callOpening, Literal.quote,
        Literal.escape_of_any_eq_false hpath, List.append_assoc, List.cons_append, List.nil_append]
    rw [hline, Utf8.encode_append, Utf8.encode_cons_of_lt (by decide), Utf8.encode_append,
      Utf8.encode_cons_of_lt (by decide)]
    exact firstQuoted_eq (by decide)
      (fun hmem => hmark ((Utf8.ofNat_toNat_mem_encode (by decide)).1 hmem)) _
  rw [leakReport, hstrip]
  simp only [hholds, hquoted, print_finding, Utf8.encode_append]

/-! ## The whole script -/

/-- The statements of the files that mention the word are reported one after another, each as its
finding. -/
private theorem flatMap_leakReport_statementLine {files : List Source}
    (hpaths : ∀ f ∈ files, f.path.any Literal.needsEscape = false) :
    files.flatMap (fun f => leakReport (Utf8.encode (Script.statementLine f)))
      = Utf8.encode (Report.print ((files.filter mentions).map fun f => finding f.path)) := by
  induction files with
  | nil => rfl
  | cons f files ih =>
      have hrest := ih fun g hg => hpaths g (List.mem_cons_of_mem f hg)
      rw [List.flatMap_cons, leakReport_statementLine (hpaths f List.mem_cons_self), hrest]
      by_cases hf : mentions f = true
      · rw [if_pos hf, List.filter_cons_of_pos hf, List.map_cons,
          Report.print_cons _ (List.map _ _), Utf8.encode_append]
      · rw [if_neg hf, List.filter_cons_of_neg hf, List.nil_append]

/-- **The findings, and nothing else.** What is printed for a whole script is the report of
the findings for the files that mention the word, in their order. -/
theorem react_leaks_assemble (args : List Text) {engine : Engine} {options : Options}
    {files : List Source} (hengine : Routine.Uncalled engine.source)
    (hoptions : Routine.Uncalled options.script)
    (hpaths : ∀ f ∈ files, f.path.any Literal.needsEscape = false) :
    react .leaks args (Utf8.encode (Script.assemble engine options files))
      = Utf8.encode (Report.print ((files.filter mentions).map fun f => finding f.path)) := by
  have hsilent : ∀ {s : Text}, Routine.Uncalled s →
      (s.splitOnP (· == '\n')).flatMap (fun line => leakReport (Utf8.encode line)) = [] := by
    intro s hs
    exact List.flatMap_eq_nil_iff.2 fun line hline => leakReport_of_not_call (hs line hline)
  have hclosing : leakReport (Utf8.encode Routine.closingLine) = [] :=
    leakReport_of_not_call (by decide)
  have hlast : leakReport (Utf8.encode []) = [] := leakReport_of_not_call (by decide)
  rw [react_leaks_encode, Script.splitOnP_assemble, List.flatMap_append, List.flatMap_append,
    hsilent hengine, hsilent (Routine.uncalled_around hoptions), List.flatMap_cons, hclosing,
    List.flatMap_append, List.flatMap_map, flatMap_leakReport_statementLine hpaths,
    List.flatMap_singleton, hlast]
  simp only [List.nil_append, List.append_nil]

end StandIn

end ScriptLint
