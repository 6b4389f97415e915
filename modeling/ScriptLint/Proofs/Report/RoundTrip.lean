import ScriptLint.Proofs.Report.Lines
import ScriptLint.Proofs.Report.Reader

set_option autoImplicit false

/-!
Printing diagnostics and reading them back.

What is printed is free text: names, messages and evidence may hold blanks, digits and
colons, and one name may be the beginning of another. Reading finds the boundaries again
under two conditions.

* On the names, `Separate`: none goes on behind another one with a blank, a number and a
  colon. Without that a header of the shorter name can be one of the longer name as
  well, and the longer name wins.
* On a diagnostic, `Printable`: each of its texts stays on its line and keeps its end,
  the kind is that of the message, and evidence is a line that can be told from an empty
  one and from a header.

Lines that are no headers may stand in front of a diagnostic. The proof goes diagnostic
by diagnostic: `eachLine` looks one line ahead, and what it sees there belongs to the
same diagnostic.
-/

namespace ScriptLint.Report

variable {files : List Text} {d : Diagnostic}

/-- No name begins with another one, a blank, a line number and a colon. The only
numbers that count are those a header can hold, written as a header writes them. -/
def Separate (files : List Text) : Prop :=
  ∀ f ∈ files, ∀ g ∈ files, ∀ n : UInt32, ¬ (f ++ ' ' :: (Decimal.write n ++ [':'])) <+: g

/-- Diagnostics that a report can hold. -/
structure Printable (files : List Text) (d : Diagnostic) : Prop where
  file_mem : d.file ∈ files
  message_line : '\n' ∉ d.message
  message_end : d.message.getLast? ≠ some '\r'
  kind_message : Kind.ofMessage d.message = d.kind
  evidence_kind : d.kind ≠ .error → d.evidence = none
  evidence_line : ∀ e ∈ d.evidence, e ≠ [] ∧ '\n' ∉ e ∧ e.getLast? ≠ some '\r'
  evidence_read : ∀ e ∈ d.evidence, Header.read? files e = none

/-- Without evidence it is the message alone that has to keep to its line. -/
theorem printable_of_evidence_none (hfile : d.file ∈ files) (hline : '\n' ∉ d.message)
    (hend : d.message.getLast? ≠ some '\r') (hkind : Kind.ofMessage d.message = d.kind)
    (hnone : d.evidence = none) : Printable files d where
  file_mem := hfile
  message_line := hline
  message_end := hend
  kind_message := hkind
  evidence_kind := fun _ => hnone
  evidence_line := by simp [hnone]
  evidence_read := by simp [hnone]

/-- Names without a colon are separate. -/
private theorem separate_of_colon_not_mem (hfiles : ∀ f ∈ files, ':' ∉ f) : Separate files := by
  rintro f - g hg n ⟨rest, rfl⟩
  exact hfiles _ hg (by simp)

/-! ## The header line -/

theorem headerLine_eq (d : Diagnostic) :
    headerLine d = d.file ++ ' ' :: (Decimal.write d.line ++ ':' :: ' ' :: d.message) := by
  simp only [headerLine, List.append_assoc, List.cons_append, List.nil_append]

/-- A header line is read as what was written if no longer name fits, that is, if no name
that goes on behind `d.file` as the header does is followed by a number and a colon. -/
theorem read?_headerLine_of_not_longer (hfile : d.file ∈ files)
    (hlonger : ∀ (k : Header) (number more : Text), k.file ∈ files →
      headerLine d = k.file ++ ' ' :: (number ++ ':' :: ' ' :: k.message) →
      k.file = d.file ++ ' ' :: (Decimal.write d.line ++ ':' :: more) → False) :
    Header.read? files (headerLine d) = some ⟨d.file, d.line, d.message⟩ := by
  refine Header.read?_eq_some_iff.2 ⟨hfile, ?_, ?_⟩
  · exact Header.ofFile?_eq_some_iff.2
      ⟨rfl, Decimal.write d.line, Decimal.read?_write d.line, headerLine_eq d⟩
  · intro k hk hkfile
    obtain ⟨-, number, -, hkline⟩ := Header.ofFile?_eq_some_iff.1 hkfile
    refine Nat.le_of_not_lt fun hlt => ?_
    obtain ⟨more, hmore, -⟩ := Header.longer_name_eq (Decimal.not_mem_write (by decide) d.line)
      ((headerLine_eq d).symm.trans hkline) hlt
    exact hlonger k number more hk hkline hmore

/-- **A header line is read as what was written.** -/
private theorem read?_headerLine (hsep : Separate files) (hfile : d.file ∈ files) :
    Header.read? files (headerLine d) = some ⟨d.file, d.line, d.message⟩ := by
  -- a longer name that fits would go on behind `d.file` as the header does
  refine read?_headerLine_of_not_longer hfile fun k _ more hk _ hmore => ?_
  refine hsep d.file hfile k.file hk d.line ⟨more, ?_⟩
  rw [hmore]
  simp only [List.append_assoc, List.cons_append, List.nil_append]

/-- A message without a colon leaves no room for a longer name, whatever the names are:
behind a longer name there would be a colon of its own. -/
private theorem read?_headerLine_of_colon_not_mem (hfile : d.file ∈ files)
    (hmessage : ':' ∉ d.message) :
    Header.read? files (headerLine d) = some ⟨d.file, d.line, d.message⟩ := by
  refine read?_headerLine_of_not_longer hfile fun k number more hk hkline hmore => ?_
  rw [headerLine_eq, hmore] at hkline
  simp only [List.append_assoc, List.cons_append, List.append_cancel_left_eq, List.cons.injEq,
    true_and] at hkline
  have hcolon : ':' ∈ ' ' :: d.message := by
    rw [hkline]
    simp
  simp [hmessage] at hcolon

private theorem getLast?_headerLine (d : Diagnostic) (hend : d.message.getLast? ≠ some '\r') :
    (headerLine d).getLast? ≠ some '\r' := by
  rw [headerLine, List.getLast?_append]
  cases hlast : d.message.getLast? with
  | none =>
      -- without a message the blank behind the colon is the last character
      rw [Option.none_or, List.getLast?_append]
      simp
  | some c => rwa [hlast] at hend

/-- A printed header is one line. -/
private theorem feed_not_mem_headerLine (hfile : '\n' ∉ d.file) (hmessage : '\n' ∉ d.message) :
    '\n' ∉ headerLine d := by
  have hnumber : '\n' ∉ Decimal.write d.line := Decimal.not_mem_write (by decide) d.line
  simp [headerLine, hfile, hmessage, hnumber]

/-! ## The lines of a diagnostic -/

/-- The evidence that is printed behind an error is the evidence that is read; an error without
evidence is followed by an empty line, which stops the reader from taking the next one. -/
private theorem evidence?_of_printable (hd : Printable files d) (rest : List Text) :
    evidence? files (d.evidence.getD [] :: rest) = d.evidence := by
  cases hev : d.evidence with
  | none => simp [evidence?]
  | some e =>
      have hmem : e ∈ d.evidence := hev
      have hne : e ≠ [] := (hd.evidence_line e hmem).1
      exact evidence?_eq_some_iff.2 ⟨rest, rfl, hne, hd.evidence_read e hmem⟩

/-- The line of evidence is not read again as a header. -/
private theorem read?_evidence (hd : Printable files d) :
    Header.read? files (d.evidence.getD []) = none := by
  cases hev : d.evidence with
  | none => exact Header.read?_nil files
  | some e => exact hd.evidence_read e hev

/-- **One diagnostic.** Its lines give it, and what stands behind them is read as if
they were not there. -/
theorem eachLine_linesOf_append
    (hheader : Header.read? files (headerLine d) = some ⟨d.file, d.line, d.message⟩)
    (hd : Printable files d) (rest : List Text) :
    eachLine files (linesOf d ++ rest) = d :: eachLine files rest := by
  have hmessage : Kind.ofMessage d.message = d.kind := hd.kind_message
  by_cases hkind : d.kind = .error
  · -- the header takes the line behind it, and that line gives nothing of its own
    have hlines : linesOf d = [headerLine d, d.evidence.getD [], []] := by rw [linesOf, hkind]
    simp only [hlines, List.cons_append, List.nil_append]
    rw [eachLine_cons_of_read? hheader, eachLine_cons_of_read?_none (read?_evidence hd),
      eachLine_cons_of_read?_none (Header.read?_nil files), if_pos (hmessage.trans hkind),
      evidence?_of_printable hd, diagnosticOf, hmessage]
  · -- the header asks for no evidence
    have hlines : linesOf d = [headerLine d, []] := by
      cases hk : d.kind with
      | error => exact absurd hk hkind
      | impliedGlobal => rw [linesOf, hk]
      | unusedVariable => rw [linesOf, hk]
    simp only [hlines, List.cons_append, List.nil_append]
    rw [eachLine_cons_of_read? hheader, eachLine_cons_of_read?_none (Header.read?_nil files),
      if_neg (hmessage ▸ hkind), diagnosticOf, hmessage, ← hd.evidence_kind hkind]

/-- The lines of a diagnostic survive being closed and cut again. -/
theorem line_of_mem_linesOf (hfile : '\n' ∉ d.file) (hd : Printable files d) :
    ∀ line ∈ linesOf d, '\n' ∉ line ∧ Text.cutReturn line = line := by
  have hheader : '\n' ∉ headerLine d ∧ Text.cutReturn (headerLine d) = headerLine d :=
    ⟨feed_not_mem_headerLine hfile hd.message_line,
      cutReturn_of_getLast?_ne (getLast?_headerLine d hd.message_end)⟩
  have hempty : '\n' ∉ ([] : Text) ∧ Text.cutReturn [] = [] :=
    ⟨List.not_mem_nil, cutReturn_of_getLast?_ne (by simp)⟩
  have hevidence : '\n' ∉ d.evidence.getD []
      ∧ Text.cutReturn (d.evidence.getD []) = d.evidence.getD [] := by
    cases hev : d.evidence with
    | none => exact hempty
    | some e =>
        obtain ⟨-, hfeed, hend⟩ := hd.evidence_line e hev
        exact ⟨hfeed, cutReturn_of_getLast?_ne hend⟩
  intro line hline
  rw [linesOf] at hline
  split at hline
  · simp only [List.mem_cons, List.not_mem_nil, or_false] at hline
    rcases hline with rfl | rfl | rfl
    · exact hheader
    · exact hevidence
    · exact hempty
  · simp only [List.mem_cons, List.not_mem_nil, or_false] at hline
    rcases hline with rfl | rfl
    · exact hheader
    · exact hempty

/-! ## The whole report -/

/-- Lines that are no headers are still none when they have lost a carriage return. -/
private theorem read?_cutReturn_eq_none {line : Text} (hline : Header.read? files line = none) :
    Header.read? files (Text.cutReturn line) = none := by
  rcases cutReturn_eq_or line with h | h
  · rw [h]
    exact hline
  · rw [h] at hline
    exact Header.read?_cut_eq_none '\r' hline

/-- The lines of a report: each diagnostic with the lines in front of it. -/
def groupLines (groups : List (List Text × Diagnostic)) : List Text :=
  groups.flatMap fun g => g.1 ++ linesOf g.2

/-- The round trip on lines, by induction on the groups: the noise in front of a group is passed
over, its header is read back, and its evidence is taken and then passed over. -/
private theorem eachLine_groupLines (hfiles : ∀ f ∈ files, '\n' ∉ f) (hsep : Separate files)
    {groups : List (List Text × Diagnostic)}
    (hnoise : ∀ g ∈ groups, ∀ line ∈ g.1, Header.read? files line = none)
    (hprint : ∀ g ∈ groups, Printable files g.2) :
    eachLine files ((groupLines groups).map Text.cutReturn) = groups.map Prod.snd := by
  induction groups with
  | nil => rfl
  | cons g groups ih =>
      have hd : Printable files g.2 := hprint g List.mem_cons_self
      -- cutting returns changes no line of the diagnostic and makes no line in front a header
      have hkept : (linesOf g.2).map Text.cutReturn = linesOf g.2 :=
        calc (linesOf g.2).map Text.cutReturn
          _ = (linesOf g.2).map id := List.map_congr_left fun line hline =>
                (line_of_mem_linesOf (hfiles g.2.file hd.file_mem) hd line hline).2
          _ = linesOf g.2 := List.map_id _
      have hcut : ∀ line ∈ g.1.map Text.cutReturn, Header.read? files line = none := by
        intro line hline
        obtain ⟨l, hl, rfl⟩ := List.mem_map.1 hline
        exact read?_cutReturn_eq_none (hnoise g List.mem_cons_self l hl)
      have hheader := read?_headerLine hsep hd.file_mem
      have hrest := ih (fun g' hg' => hnoise g' (List.mem_cons_of_mem g hg'))
        (fun g' hg' => hprint g' (List.mem_cons_of_mem g hg'))
      rw [groupLines, List.flatMap_cons, ← groupLines, List.map_append, List.map_append, hkept,
        List.append_assoc, eachLine_append_of_read?_none hcut, eachLine_linesOf_append hheader hd,
        hrest, List.map_cons]

/-- **Printer and reader agree.** For separate names and printable diagnostics, with any
lines that are no headers in front of each diagnostic, the report is read as exactly
these diagnostics in this order. -/
theorem diagnostics_ofLines_groupLines (files : List Text) (hfiles : ∀ f ∈ files, '\n' ∉ f)
    (hsep : Separate files) (groups : List (List Text × Diagnostic))
    (hnoise : ∀ g ∈ groups, ∀ line ∈ g.1, '\n' ∉ line ∧ Header.read? files line = none)
    (hprint : ∀ g ∈ groups, Printable files g.2) :
    diagnostics files (ofLines (groupLines groups)) = groups.map Prod.snd := by
  have hfeed : ∀ line ∈ groupLines groups, '\n' ∉ line := by
    intro line hline
    obtain ⟨g, hg, hline⟩ := List.mem_flatMap.1 hline
    rcases List.mem_append.1 hline with h | h
    · exact (hnoise g hg line h).1
    · have hd := hprint g hg
      exact (line_of_mem_linesOf (hfiles g.2.file hd.file_mem) hd line h).1
  rw [diagnostics_eq_eachLine, lines_ofLines hfeed]
  exact eachLine_groupLines hfiles hsep (fun g hg line hline => (hnoise g hg line hline).2) hprint

/-- Two names of which one opens the other, a number in a name, a line of another
program that ends in a carriage return, an error with evidence, one without, and an
unused variable. -/
theorem diagnostics_ofLines_groupLines_of_three :
    let files : List Text := ["my".toList, "my file 7".toList]
    let first : Diagnostic := ⟨"my".toList, 4294967295, .error, "Bad: 'x' 3: y".toList,
      some "  my 12 : z".toList⟩
    let second : Diagnostic := ⟨"my file 7".toList, 0, .error, [], none⟩
    let third : Diagnostic :=
      ⟨"my".toList, 10, .unusedVariable, "unused variable 'a b'".toList, none⟩
    let groups : List (List Text × Diagnostic) :=
      [(["warning: my 1".toList ++ ['\r'], []], first), ([], second), ([['\r']], third)]
    (∀ f ∈ files, '\n' ∉ f) ∧ Separate files
      ∧ (∀ g ∈ groups, ∀ line ∈ g.1, '\n' ∉ line ∧ Header.read? files line = none)
      ∧ (∀ g ∈ groups, Printable files g.2)
      ∧ diagnostics files (ofLines (groupLines groups)) = [first, second, third] := by
  intro files first second third groups
  have hfiles : ∀ f ∈ files, '\n' ∉ f := by decide
  have hsep : Separate files := separate_of_colon_not_mem (by decide)
  have hnoise : ∀ g ∈ groups, ∀ line ∈ g.1, '\n' ∉ line ∧ Header.read? files line = none := by
    decide
  have hfirst : Printable files first :=
    ⟨by decide, by decide, by decide, by decide, by decide, by decide, by decide⟩
  have hsecond : Printable files second :=
    ⟨by decide, by decide, by decide, by decide, by decide, by decide, by decide⟩
  have hthird : Printable files third :=
    ⟨by decide, by decide, by decide, by decide, by decide, by decide, by decide⟩
  have hprint : ∀ g ∈ groups, Printable files g.2 := by
    intro g hg
    simp only [groups, List.mem_cons, List.not_mem_nil, or_false] at hg
    rcases hg with rfl | rfl | rfl
    · exact hfirst
    · exact hsecond
    · exact hthird
  exact ⟨hfiles, hsep, hnoise, hprint,
    diagnostics_ofLines_groupLines files hfiles hsep groups hnoise hprint⟩

/-! ## A report of nothing else -/

/-- **What is printed is read back**, also for names of which one can be taken for the
header of another, as long as every header line is read as what was written. -/
theorem diagnostics_print {ds : List Diagnostic} (hfiles : ∀ d ∈ ds, '\n' ∉ d.file)
    (hheader : ∀ d ∈ ds, Header.read? files (headerLine d) = some ⟨d.file, d.line, d.message⟩)
    (hprint : ∀ d ∈ ds, Printable files d) : diagnostics files (print ds) = ds := by
  have hlines : ∀ line ∈ ds.flatMap linesOf, '\n' ∉ line ∧ Text.cutReturn line = line := by
    intro line hline
    obtain ⟨d, hd, hline⟩ := List.mem_flatMap.1 hline
    exact line_of_mem_linesOf (hfiles d hd) (hprint d hd) line hline
  have hkept : (ds.flatMap linesOf).map Text.cutReturn = ds.flatMap linesOf :=
    calc (ds.flatMap linesOf).map Text.cutReturn
      _ = (ds.flatMap linesOf).map id := List.map_congr_left fun line hline => (hlines line hline).2
      _ = ds.flatMap linesOf := List.map_id _
  rw [diagnostics_eq_eachLine, print, lines_ofLines fun line hline => (hlines line hline).1, hkept]
  clear hlines hkept hfiles
  induction ds with
  | nil => rfl
  | cons d ds ih =>
      rw [List.flatMap_cons, eachLine_linesOf_append (hheader d List.mem_cons_self)
        (hprint d List.mem_cons_self), ih (fun e he => hheader e (List.mem_cons_of_mem d he))
        (fun e he => hprint e (List.mem_cons_of_mem d he))]

/-- Messages without a colon are read back, however the names overlap. -/
theorem diagnostics_print_of_colon_not_mem {ds : List Diagnostic}
    (hfiles : ∀ d ∈ ds, '\n' ∉ d.file) (hprint : ∀ d ∈ ds, Printable files d)
    (hcolon : ∀ d ∈ ds, ':' ∉ d.message) : diagnostics files (print ds) = ds := by
  refine diagnostics_print hfiles (fun d hd => ?_) hprint
  exact read?_headerLine_of_colon_not_mem (hprint d hd).file_mem (hcolon d hd)

end ScriptLint.Report
