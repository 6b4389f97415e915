import ScriptLint.Proofs.Script.Assembly

set_option autoImplicit false

/-!
Lines of a script that call the routine.

The statements are such lines. In front of them there is none unless the engine or the
options bring one in: the routine has none of its own, and where the options stand in
it, the text around them keeps their first and last line apart from it.

That a line opens with a call can be said without lines, which is how it is proved here:
behind a feed, put in front of the text, there is a feed with a call. Such a word does
not reach across a blank or a semicolon, so the text around the options can be looked at
by itself.
-/

namespace ScriptLint

namespace Routine

/-! ## Lines that open with a call -/

/-- How a call of the routine opens. -/
def callOpening : Text := name ++ ['(']

/-- No line of a text calls the routine. -/
def Uncalled (s : Text) : Prop :=
  ∀ line ∈ s.splitOnP (· == '\n'), Part.opensWith callOpening line = false

/-- No line opens a call when the opening never stands behind a feed, the start of the text
counted as one. -/
theorem uncalled_iff {s : Text} :
    Uncalled s ↔ Part.holds ('\n' :: callOpening) ('\n' :: s) = false := by
  have hfeed : '\n' ∉ callOpening := by decide
  rw [← Part.any_opensWith_splitOnP hfeed, List.any_eq_false]
  simp only [Uncalled, Bool.not_eq_true]

/-! ## The lines of the routine -/

/-- Lines that do not call the routine, each behind a feed. -/
private theorem holds_flatMap_eq_false {lines : List String}
    (hlines : ∀ line ∈ lines,
      Part.opensWith callOpening line.toList = false ∧ '\n' ∉ line.toList) :
    Part.holds ('\n' :: callOpening) (lines.flatMap fun line => '\n' :: line.toList) = false := by
  have hfeed : '\n' ∉ callOpening := by decide
  induction lines with
  | nil => exact Part.holds_nil (by simp)
  | cons line lines ih =>
      obtain ⟨hline, hone⟩ := hlines line List.mem_cons_self
      have hrest := ih fun l hl => hlines l (List.mem_cons_of_mem line hl)
      -- what follows the line is nothing, or it begins with a feed
      have hfirst : Part.opensWith callOpening
          (line.toList ++ lines.flatMap fun line => '\n' :: line.toList) = false := by
        cases lines with
        | nil => rw [List.flatMap_nil, List.append_nil, hline]
        | cons l lines =>
            rw [List.flatMap_cons, List.cons_append, Part.opensWith_append_cons hfeed, hline]
      rw [List.flatMap_cons, List.cons_append, Part.holds_cons, Part.opensWith_cons_cons, hfirst,
        Bool.and_false, Bool.false_or, Part.holds_append_of_not_mem hone, hrest]

/-- The routine does not call itself at the start of a line. -/
private theorem innerLines_not_call : ∀ line ∈ innerLines,
    Part.opensWith callOpening line.toList = false ∧ '\n' ∉ line.toList := by
  simp only [innerLines, templateLines, List.drop, List.dropLast, List.forall_mem_cons]
  repeat' refine And.intro ?_ ?_
  -- every line is written out by its characters before it is looked at
  all_goals first
    | exact fun line hline => absurd hline List.not_mem_nil
    | (rw [String.toList_ofList]; decide)

/-- The text of the routine between the first line and the options. -/
def optionsOpening : Text := "var JSLINT_OPTIONS = ".toList

/-- **The routine does not call itself**, whatever the options in it are. The first line
of the options stands behind a blank, and their last one is followed by a semicolon;
neither of the two is in a call. -/
theorem uncalled_around {options : Text} (hoptions : Uncalled options) :
    Uncalled (optionsOpening ++ options ++ middle) := by
  have hne : '\n' :: callOpening ≠ [] := by simp
  have hblank : ' ' ∉ '\n' :: callOpening := by decide
  have hsemicolon : ';' ∉ '\n' :: callOpening := by decide
  have hopening : '\n' :: optionsOpening = "\nvar JSLINT_OPTIONS =".toList ++ [' '] := by decide
  have hparts : '\n' :: (optionsOpening ++ options ++ middle)
      = "\nvar JSLINT_OPTIONS =".toList ++ ' ' ::
          (options ++ ';' :: innerLines.flatMap fun line => '\n' :: line.toList) := by
    rw [List.append_assoc, ← List.cons_append, hopening, middle, List.append_assoc,
      List.singleton_append]
  have hfront : Part.holds ('\n' :: callOpening) "\nvar JSLINT_OPTIONS =".toList = false := by decide
  have hinner : Part.holds ('\n' :: callOpening)
      (innerLines.flatMap fun line => '\n' :: line.toList) = false :=
    holds_flatMap_eq_false innerLines_not_call
  have hmiddle : Part.holds ('\n' :: callOpening) options = false := by
    rw [uncalled_iff, Part.holds_cons, Bool.or_eq_false_iff] at hoptions
    exact hoptions.2
  rw [uncalled_iff, hparts, Part.holds_append_cons hne hblank, Part.holds_append_cons hne hsemicolon,
    hfront, hmiddle, hinner]
  rfl

end Routine

namespace Script

/-- The lines of a script: those in front of the last line of the routine, that line, and
the statements. -/
theorem splitOnP_assemble (engine : Engine) (options : Options) (files : List Source) :
    (assemble engine options files).splitOnP (· == '\n')
      = engine.source.splitOnP (· == '\n')
        ++ (Routine.optionsOpening ++ options.script ++ Routine.middle).splitOnP (· == '\n')
        ++ Routine.closingLine :: (files.map statementLine ++ [[]]) := by
  have hparts : assemble engine options files
      = (engine.source ++ '\n' :: (Routine.optionsOpening ++ options.script ++ Routine.middle))
        ++ '\n' :: (Routine.closingLine ++ '\n' :: statements files) := by
    have hbefore : Routine.before = '\n' :: Routine.optionsOpening := rfl
    rw [assemble_eq_append, Routine.behind, hbefore]
    simp only [List.append_assoc, List.cons_append, List.nil_append]
  rw [hparts, splitOnP_closingLine, List.splitOnP_append_cons engine.source _ rfl]

end Script

end ScriptLint
