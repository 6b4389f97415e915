import ScriptLint.Glob.Expand
import ScriptLint.Proofs.Glob.Texts

set_option autoImplicit false

/-!
What the inputs of a run are expanded into.

An input gives itself, or the files among the paths that its pattern matches. The walk puts
these paths together name by name, and they may be spelled in another way than the pattern,
so nothing is known about one of them before it has been looked at again. That look is what
counts here: it is the same that comes first when the path is read.

But what is looked at are bytes, and what is handed on is a text. If that is to lead to the same
file, the bytes have to be those of a text, as they are in a tree whose names are texts.
-/

namespace ScriptLint.Glob

variable {t : Tree} {path : Text} {inputs : List Text}

/-- An input gives itself, or the files that its pattern matches, if there are any. -/
theorem expandInput_files_cases (t : Tree) (input : Text) :
    (expandInput t input).files = [input]
      ∨ ∃ pattern, Pattern.read input = .ok pattern
          ∧ (paths t pattern).filter t.isFile ≠ []
          ∧ (expandInput t input).files
            = ((paths t pattern).filter t.isFile).map Utf8.lossy := by
  unfold expandInput
  by_cases hplain : (!hasWildcard input || t.isFile input) = true
  · rw [if_pos hplain]
    exact .inl rfl
  · rw [if_neg hplain]
    cases Pattern.read input with
    | error e => exact .inl rfl
    | ok pattern =>
        cases hfound : (paths t pattern).filter t.isFile with
        | nil => exact .inl (by simp only [hfound])
        | cons first rest => exact .inr ⟨pattern, rfl, by simp [hfound], by simp only [hfound]⟩

/-- An input that cannot be a pattern, or is a file, is not read as one. -/
theorem expandInput_of_path {input : Text} (h : hasWildcard input = false ∨ t.isFile input = true) :
    expandInput t input = ⟨[input], none⟩ := by
  have hplain : (!hasWildcard input || t.isFile input) = true := by
    rcases h with h | h
    · rw [h, Bool.not_false, Bool.true_or]
    · rw [h, Bool.or_true]
  rw [expandInput, if_pos hplain]

/-- An input that is no valid pattern gives itself. -/
theorem expandInput_files_of_invalid {input : Text} {e : SyntaxError}
    (h : Pattern.read input = .error e) :
    (expandInput t input).files = [input] := by
  obtain hself | ⟨pattern, hread, -, -⟩ := expandInput_files_cases t input
  · exact hself
  · rw [h] at hread
    exact absurd hread (by simp)

/-- A pattern that is no file gives the files that it matches, or itself if there are none. -/
theorem expandInput_files_of_read {input : Text} {pattern : Pattern}
    (hwild : hasWildcard input = true) (hfile : t.isFile input = false)
    (hread : Pattern.read input = .ok pattern) :
    (expandInput t input).files
      = if (paths t pattern).filter t.isFile = [] then [input]
        else ((paths t pattern).filter t.isFile).map Utf8.lossy := by
  have hplain : ¬ (!hasWildcard input || t.isFile input) = true := by simp [hwild, hfile]
  rw [expandInput, if_neg hplain]
  simp only [hread]
  split
  · next hnone => rw [if_pos hnone]
  · next hsome => rw [if_neg hsome]

/-- What takes the place of a pattern, in a tree whose names are texts. -/
theorem mem_map_lossy_found_iff (ht : t.HasTextNames) {pattern : Pattern} :
    path ∈ ((paths t pattern).filter t.isFile).map Utf8.lossy
      ↔ Utf8.encode path ∈ paths t pattern ∧ t.isFile path = true := by
  rw [Path.mem_map_lossy_iff fun p hp => isText_of_mem_paths ht (List.mem_filter.1 hp).1,
    List.mem_filter]

/-- Where names are texts, a path is the input itself or leads to a file. -/
private theorem eq_or_isFile_of_mem_expandInput (ht : t.HasTextNames) {input : Text}
    (h : path ∈ (expandInput t input).files) : path = input ∨ t.isFile path = true := by
  obtain hself | ⟨pattern, -, -, hfound⟩ := expandInput_files_cases t input
  · rw [hself, List.mem_singleton] at h
    exact .inl h
  · rw [hfound, mem_map_lossy_found_iff ht] at h
    exact .inr h.2

/-- One input is expanded by itself. -/
theorem expand_singleton (t : Tree) (input : Text) : expand t [input] = (expandInput t input).files :=
  List.flatMap_singleton _ input

/-- **A path that comes from a pattern leads to a file.** -/
theorem mem_or_isFile_of_mem_expand (ht : t.HasTextNames) (h : path ∈ expand t inputs) :
    path ∈ inputs ∨ t.isFile path = true := by
  unfold expand at h
  obtain ⟨input, hinput, hpath⟩ := List.mem_flatMap.1 h
  obtain rfl | hfile := eq_or_isFile_of_mem_expandInput ht hpath
  · exact .inl hinput
  · exact .inr hfile

end ScriptLint.Glob
