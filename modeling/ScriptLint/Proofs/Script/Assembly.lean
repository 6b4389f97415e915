import ScriptLint.Proofs.Script.Statements
import ScriptLint.Script.Assembly

set_option autoImplicit false

/-!
What a script tells about the run it was made for.

The options are put into the routine as they are, so they may imitate all that follows
them: the rest of the routine, statements, the mark itself. A script can be taken apart
all the same, from its end. Behind the options the routine goes on with a fixed text,
and the last line of that is `closingLine`. What follows are statements, and no
statement is that line. So the *last* line of a script that equals `closingLine` is the
one of the routine, whatever the options say: what stands behind it are the statements,
and what stands before it is the engine, the fixed text in front of the options, the
options, and the fixed text behind them.
-/

namespace ScriptLint

namespace Routine

/-! ## The routine around its options -/

/-- The line that sets the options. -/
def optionsLine : String := "var JSLINT_OPTIONS = \x7boptions\x7d;"

/-- The lines between the one that sets the options and the last one. -/
def innerLines : List String := (templateLines.drop 2).dropLast

/-- The last line of the routine. -/
def closingLine : Text := "\x7d;".toList

/-- The text of the routine in front of the options. -/
def before : Text := "\nvar JSLINT_OPTIONS = ".toList

/-- The text of the routine behind the options, up to its last line. -/
def middle : Text := ';' :: innerLines.flatMap fun line => '\n' :: line.toList

/-- The text of the routine behind the options. -/
def behind : Text := middle ++ '\n' :: (closingLine ++ ['\n'])

/-- The template begins with an empty line, in front of the one with the options. -/
private theorem templateLines_eq : templateLines = "" :: optionsLine :: (innerLines ++ ["\x7d;"]) := rfl

/-- The line with the options around its mark. -/
private theorem feed_cons_optionsLine : '\n' :: optionsLine.toList = before ++ mark ++ [';'] := rfl

/-- A feed behind each line, with one in front of them all, is a feed in front of each,
with one behind them all. -/
private theorem feed_cons_flatMap (lines : List String) :
    '\n' :: lines.flatMap (fun line => line.toList ++ ['\n'])
      = lines.flatMap (fun line => '\n' :: line.toList) ++ ['\n'] := by
  induction lines with
  | nil => rfl
  | cons line lines ih =>
      rw [List.flatMap_cons, List.flatMap_cons, List.append_assoc, List.append_assoc, ← ih,
        List.singleton_append, List.cons_append]

/-- The template, taken apart line by line. -/
theorem template_eq_append : template = before ++ mark ++ behind := by
  have hempty : "".toList = [] := rfl
  calc template
    _ = '\n' :: optionsLine.toList ++ '\n' ::
          (innerLines ++ ["\x7d;"]).flatMap (fun line => line.toList ++ ['\n']) := by
          rw [template, templateLines_eq]
          simp only [List.flatMap_cons, hempty, List.nil_append, List.append_assoc,
            List.cons_append]
    _ = before ++ mark ++ behind := by
          rw [feed_cons_optionsLine, feed_cons_flatMap, List.flatMap_append, behind, middle,
            closingLine]
          simp only [List.flatMap_cons, List.flatMap_nil, List.append_assoc, List.cons_append,
            List.nil_append]

/-- The mark stands behind `before`, and nowhere before that. -/
private theorem cutAt?_template : Part.cutAt? mark template = some (before, behind) := by
  have hmark : mark = '\x7b' :: mark.tail := rfl
  rw [template_eq_append, hmark]
  exact Part.cutAt?_append (by decide)

/-- **The options stand in the routine as they are**, and what stands around them is the
same for all options. -/
theorem text_eq_append (options : Options) : text options = before ++ options.script ++ behind := by
  rw [text, Text.replaceFirst, cutAt?_template]

end Routine

namespace Script

/-- A script from left to right, with the options between two texts that never change. -/
theorem assemble_eq_append (engine : Engine) (options : Options) (files : List Source) :
    assemble engine options files
      = engine.source ++ Routine.before ++ options.script ++ Routine.behind
        ++ statements files := by
  simp only [assemble, Routine.text_eq_append, List.append_assoc]

/-! ## The last line of its kind -/

/-- The pieces of a script, cut at the last line of its routine. -/
theorem splitOnP_closingLine (front : Text) (files : List Source) :
    (front ++ '\n' :: (Routine.closingLine ++ '\n' :: statements files)).splitOnP (· == '\n')
      = front.splitOnP (· == '\n') ++ Routine.closingLine :: (files.map statementLine ++ [[]]) := by
  have hclosing : ∀ line ∈ [Routine.closingLine], '\n' ∉ line := by decide
  have hlines : ∀ line ∈ files.map statementLine, '\n' ∉ line := by
    intro line hline
    obtain ⟨f, -, rfl⟩ := List.mem_map.1 hline
    exact not_mem_statementLine (by decide) f
  have hstatements : (statements files).splitOnP (· == '\n') = files.map statementLine ++ [[]] := by
    have h := Report.splitOnP_ofLines_append hlines []
    rwa [List.append_nil, ← statements_eq_ofLines, List.splitOnP_nil] at h
  have htail := Report.splitOnP_ofLines_append hclosing (statements files)
  rw [Report.ofLines_cons, Report.ofLines_nil, List.append_assoc, List.singleton_append,
    hstatements] at htail
  rw [List.splitOnP_append_cons front _ rfl]
  simp only [htail, List.singleton_append]

/-- No statement is the closing line, so that line is found from the end of the script. -/
theorem closingLine_not_mem (files : List Source) :
    Routine.closingLine ∉ files.map statementLine ++ [[]] := by
  intro hmem
  rcases List.mem_append.1 hmem with h | h
  · -- a statement begins with the name of the routine, `closingLine` with a brace
    obtain ⟨f, -, hf⟩ := List.mem_map.1 h
    have hhead := head?_statementLine f
    rw [hf] at hhead
    exact absurd hhead (by decide)
  · exact absurd h (by decide)

/-- **A script determines what stands before the last line of its routine, and its
files.** -/
theorem eq_of_closingLine_eq {front front' : Text} {files files' : List Source}
    (h : front ++ '\n' :: (Routine.closingLine ++ '\n' :: statements files)
      = front' ++ '\n' :: (Routine.closingLine ++ '\n' :: statements files')) :
    front = front' ∧ files = files' := by
  have hpieces := congrArg (fun s => s.splitOnP (· == '\n')) h
  simp only [splitOnP_closingLine] at hpieces
  -- both are cut at the last piece that is `closingLine`
  obtain ⟨hfront, hlines⟩ :=
    Part.eq_of_append_cons_eq (closingLine_not_mem files) (closingLine_not_mem files') hpieces
  have hstatements : statements files = statements files' := by
    rw [statements_eq_ofLines, statements_eq_ofLines, List.append_cancel_right hlines]
  exact ⟨Report.splitOnP_feed_inj hfront, statements_inj hstatements⟩

/-! ## Options and files -/

/-- **Scripts tell their options and files apart.** Every script of a routine is the
engine, a fixed text, the options, a fixed text and the statements; and with one engine,
two scripts are the same only for the same text of options and the same files. -/
theorem assemble_eq_iff_script_and_files :
    (∀ engine options files, assemble engine options files
        = engine.source ++ Routine.before ++ options.script ++ Routine.behind ++ statements files)
      ∧ ∀ (engine : Engine) (options options' : Options) (files files' : List Source),
          assemble engine options files = assemble engine options' files'
            ↔ options.script = options'.script ∧ files = files' := by
  refine ⟨assemble_eq_append, fun engine options options' files files' => ⟨fun h => ?_, ?_⟩⟩
  · have hparts : ∀ (o : Options) (fs : List Source), assemble engine o fs
        = (engine.source ++ Routine.before ++ o.script ++ Routine.middle)
          ++ '\n' :: (Routine.closingLine ++ '\n' :: statements fs) := by
      intro o fs
      rw [assemble_eq_append, Routine.behind]
      simp only [List.append_assoc, List.cons_append, List.nil_append]
    rw [hparts, hparts] at h
    obtain ⟨hfront, hfiles⟩ := eq_of_closingLine_eq h
    exact ⟨List.append_cancel_left (List.append_cancel_right hfront), hfiles⟩
  · rintro ⟨hscript, rfl⟩
    rw [assemble_eq_append, assemble_eq_append, hscript]

end Script

end ScriptLint
