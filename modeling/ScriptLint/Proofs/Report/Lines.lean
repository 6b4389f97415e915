import ScriptLint.Proofs.Text.Part
import ScriptLint.Report.Printer

set_option autoImplicit false

/-!
Lines, put together and taken apart.

`Report.ofLines` closes every line with a feed, and `Text.lines` gives the lines back,
except that it takes one carriage return off the end of each. So a line that does not
end in one comes back as it was.
-/

namespace ScriptLint.Report

@[simp] theorem ofLines_nil : ofLines [] = [] := rfl

/-- The first line comes first, with its feed behind it. -/
theorem ofLines_cons (line : Text) (lines : List Text) :
    ofLines (line :: lines) = line ++ '\n' :: ofLines lines := by
  simp only [ofLines, List.flatMap_cons, List.append_assoc, List.singleton_append]

/-- A report is the concatenation of what is printed for each diagnostic. -/
theorem print_cons (d : Diagnostic) (ds : List Diagnostic) :
    print (d :: ds) = print [d] ++ print ds := by
  simp only [print, ofLines, List.flatMap_cons, List.flatMap_append, List.flatMap_nil,
    List.append_nil]

/-! ## Cutting at feeds -/

/-- The pieces of closed lines are the lines, and then come the pieces of what stands
behind them. -/
theorem splitOnP_ofLines_append {lines : List Text} (hlines : ∀ line ∈ lines, '\n' ∉ line)
    (rest : Text) :
    (ofLines lines ++ rest).splitOnP (· == '\n') = lines ++ rest.splitOnP (· == '\n') := by
  induction lines with
  | nil => rfl
  | cons line lines ih =>
      have hline : ∀ c ∈ line, (c == '\n') = false := by
        intro c hc
        rw [beq_eq_false_iff_ne]
        rintro rfl
        exact hlines line List.mem_cons_self hc
      rw [ofLines_cons, List.append_assoc, List.cons_append,
        List.splitOnP_append_cons_of_forall_mem hline '\n' rfl,
        ih (fun l hl => hlines l (List.mem_cons_of_mem line hl)), List.cons_append]

/-- A text is determined by its pieces. -/
theorem splitOnP_feed_inj {s t : Text}
    (h : s.splitOnP (· == '\n') = t.splitOnP (· == '\n')) : s = t := by
  rw [← List.splitOn_eq_splitOnP, ← List.splitOn_eq_splitOnP] at h
  calc s = List.intercalate ['\n'] (s.splitOn '\n') := (List.intercalate_splitOn '\n').symm
    _ = List.intercalate ['\n'] (t.splitOn '\n') := by rw [h]
    _ = t := List.intercalate_splitOn '\n'

/-- **Lines are given back.** A text of closed lines has these lines and no other. -/
theorem lines_ofLines {lines : List Text} (hlines : ∀ line ∈ lines, '\n' ∉ line) :
    (ofLines lines).lines = lines.map Text.cutReturn := by
  have hpieces : (ofLines lines).splitOnP (· == '\n') = lines ++ [[]] := by
    have h := splitOnP_ofLines_append hlines []
    rwa [List.append_nil, List.splitOnP_nil] at h
  rw [Text.lines, hpieces]
  simp only [List.getLast?_append, List.getLast?_singleton, Option.some_or, List.dropLast_concat]

/-! ## Carriage returns -/

/-- The end of a line loses one carriage return or nothing. -/
theorem cutReturn_eq_or (line : Text) :
    Text.cutReturn line = line ∨ line = Text.cutReturn line ++ ['\r'] := by
  rw [Text.cutReturn, Part.stripEnd?]
  cases hstrip : Part.strip? ['\r'].reverse line.reverse with
  | none => exact Or.inl rfl
  | some rest =>
      -- the end of a line is the front of the line turned round
      have hrev : line.reverse = '\r' :: rest := Part.strip?_eq_some_iff.1 hstrip
      refine Or.inr ?_
      rw [Option.map_some, Option.getD_some, ← List.reverse_cons, ← hrev, List.reverse_reverse]

/-- A line that does not end in a return is left as it is. -/
theorem cutReturn_of_getLast?_ne {line : Text} (hline : line.getLast? ≠ some '\r') :
    Text.cutReturn line = line := by
  rcases cutReturn_eq_or line with h | h
  · exact h
  · rw [h, List.getLast?_concat] at hline
    exact absurd rfl hline

private theorem mem_of_mem_cutReturn {c : Char} {line : Text} (h : c ∈ Text.cutReturn line) :
    c ∈ line := by
  rcases cutReturn_eq_or line with hline | hline
  · rwa [hline] at h
  · rw [hline]
    exact List.mem_append_left _ h

/-- **No line of a text has a feed in it.** -/
theorem feed_not_mem_of_mem_lines {s line : Text} (h : line ∈ s.lines) : '\n' ∉ line := by
  have hclosed : ∀ l ∈ (s.splitOnP (· == '\n')).dropLast.map Text.cutReturn, '\n' ∉ l := by
    intro l hl
    obtain ⟨piece, hpiece, rfl⟩ := List.mem_map.1 hl
    intro hfeed
    exact Part.not_mem_of_mem_splitOnP (List.dropLast_subset _ hpiece) (mem_of_mem_cutReturn hfeed)
  unfold Text.lines at h
  simp only at h
  split at h
  · exact hclosed line h
  · exact hclosed line h
  · next final _ hlast =>
      rcases List.mem_append.1 h with h | h
      · exact hclosed line h
      · rw [List.mem_singleton.1 h]
        exact Part.not_mem_of_mem_splitOnP (List.mem_of_getLast? hlast)

end ScriptLint.Report
