import ScriptLint.Proofs.Report.Header
import ScriptLint.Report.Printer

set_option autoImplicit false

/-!
The reader without its loop.

`readLines` goes through the lines of a report and takes one or two at a time.
`eachLine` looks at every line on its own, with the lines behind it in view. They find
the same diagnostics, and the reason is the condition under which a line is consumed as
evidence: it is no header. So `eachLine`, which comes to that line, finds nothing there,
and no header is ever passed over.

From here on a report is read line by line, and the loop is not looked at again.
-/

namespace ScriptLint.Report

variable {files : List Text}

/-! ## Evidence -/

/-- Evidence is the next line, when there is one that is neither empty nor a header. -/
theorem evidence?_eq_some_iff {lines : List Text} {evidence : Text} :
    evidence? files lines = some evidence
      ↔ ∃ rest, lines = evidence :: rest ∧ evidence ≠ [] ∧ Header.read? files evidence = none := by
  cases lines with
  | nil => simp [evidence?]
  | cons next rest =>
      rw [evidence?]
      by_cases hnext : (next.isEmpty || (Header.read? files next).isSome) = true
      · rw [if_pos hnext]
        constructor
        · intro h
          exact absurd h (by simp)
        · rintro ⟨rest', h, hne, hnone⟩
          obtain ⟨rfl, -⟩ := List.cons.inj h
          simp [hne, hnone] at hnext
      · rw [if_neg hnext, Option.some.injEq]
        simp only [Bool.or_eq_true, List.isEmpty_iff, Option.isSome_iff_ne_none, not_or,
          ne_eq, Decidable.not_not] at hnext
        constructor
        · rintro rfl
          exact ⟨rest, rfl, hnext.1, hnext.2⟩
        · rintro ⟨rest', h, -, -⟩
          exact (List.cons.inj h).1

/-! ## Line by line -/

private theorem diagnosticAt_of_read? {line : Text} {h : Header}
    (hread : Header.read? files line = some h)
    (rest : List Text) :
    diagnosticAt files line rest = some (diagnosticOf h
      (if Kind.ofMessage h.message = .error then evidence? files rest else none)) := by
  rw [diagnosticAt, hread, Option.map_some]

/-- A line that is no header is passed over. -/
theorem eachLine_cons_of_read?_none {line : Text} (hread : Header.read? files line = none)
    (rest : List Text) : eachLine files (line :: rest) = eachLine files rest := by
  rw [eachLine, diagnosticAt, hread, Option.map_none, Option.toList_none, List.nil_append]

/-- A header gives one diagnostic, and the lines behind it are read as if it were not there. -/
theorem eachLine_cons_of_read? {line : Text} {h : Header} (hread : Header.read? files line = some h)
    (rest : List Text) :
    eachLine files (line :: rest) = diagnosticOf h
      (if Kind.ofMessage h.message = .error then evidence? files rest else none)
        :: eachLine files rest := by
  rw [eachLine, diagnosticAt_of_read? hread, Option.toList_some, List.singleton_append]

/-- Lines that are no headers give nothing, however many they are. -/
theorem eachLine_append_of_read?_none {noise : List Text}
    (hnoise : ∀ line ∈ noise, Header.read? files line = none) (rest : List Text) :
    eachLine files (noise ++ rest) = eachLine files rest := by
  induction noise with
  | nil => rfl
  | cons line noise ih =>
      rw [List.cons_append, eachLine_cons_of_read?_none (hnoise line List.mem_cons_self)]
      exact ih fun l hl => hnoise l (List.mem_cons_of_mem line hl)

/-- Every diagnostic comes from a header among the lines. -/
theorem mem_eachLine {d : Diagnostic} {lines : List Text} (hd : d ∈ eachLine files lines) :
    ∃ line ∈ lines, ∃ h evidence, Header.read? files line = some h ∧ d = diagnosticOf h evidence := by
  induction lines with
  | nil => exact absurd hd List.not_mem_nil
  | cons line rest ih =>
      cases hread : Header.read? files line with
      | none =>
          rw [eachLine_cons_of_read?_none hread] at hd
          obtain ⟨l, hl, hfound⟩ := ih hd
          exact ⟨l, List.mem_cons_of_mem line hl, hfound⟩
      | some h =>
          rw [eachLine_cons_of_read? hread, List.mem_cons] at hd
          rcases hd with rfl | hd
          · exact ⟨line, List.mem_cons_self, h, _, hread, rfl⟩
          · obtain ⟨l, hl, hfound⟩ := ih hd
            exact ⟨l, List.mem_cons_of_mem line hl, hfound⟩

/-! ## The loop -/

/-- The loop adds to what it has found what the lines give one by one. The induction is
that of the loop, which takes two lines where there is evidence. -/
theorem readLines_eq_append (found : List Diagnostic) (lines : List Text) :
    readLines files found lines = found.reverse ++ eachLine files lines := by
  fun_induction readLines files found lines with
  | case1 found => rw [eachLine, List.append_nil]
  | case2 found line rest hread ih => rw [ih, eachLine_cons_of_read?_none hread]
  | case3 found line rest h hread hkind evidence hev ih =>
      -- the line that was taken is no header, so it gives nothing when its turn comes
      obtain ⟨behind, rfl, -, hnone⟩ := evidence?_eq_some_iff.1 hev
      rw [ih, eachLine_cons_of_read? hread, if_pos hkind, hev, List.tail_cons,
        eachLine_cons_of_read?_none hnone]
      simp only [List.reverse_cons, List.append_assoc, List.singleton_append]
  | case4 found line rest h hread hkind hev ih =>
      rw [ih, eachLine_cons_of_read? hread, if_pos hkind, hev]
      simp only [List.reverse_cons, List.append_assoc, List.singleton_append]
  | case5 found line rest h hread hkind ih =>
      rw [ih, eachLine_cons_of_read? hread, if_neg hkind]
      simp only [List.reverse_cons, List.append_assoc, List.singleton_append]

/-- **The reader without its loop.** -/
theorem diagnostics_eq_eachLine (files : List Text) (report : Text) :
    diagnostics files report = eachLine files report.lines := by
  rw [diagnostics, readLines_eq_append, List.reverse_nil, List.nil_append]

end ScriptLint.Report
