import ScriptLint.Proofs.Glob.Files
import ScriptLint.Proofs.Tree.Lookup

set_option autoImplicit false

/-!
Expanding what has been expanded.

Every input gives a block of paths, and the blocks stand in the order of the inputs. `Block` says
by rules what the block of an input is. Three of the rules leave the input as it is: it cannot be
a pattern or leads to a file, it is no valid pattern, or it matches no file. The last one puts
files in its place.

The rules are not symmetric, and that is what makes a second expansion do nothing: a path that
leads to a file is taken as it is, *before* anyone asks whether it looks like a pattern. So it
does not matter what the names of the files in a block look like. Each path of a block is a block
of its own, and there is nothing more to be shown of lists.
-/

namespace ScriptLint.Glob

open ScriptLint.Path ScriptLint.Tree

variable {t : Tree} {input path : Text} {block : List Text}

/-! ## The rules -/

/-- The paths that stand for an input. -/
inductive Block (t : Tree) (input : Text) : List Text → Prop where
  /-- An input without wildcards, or one that leads to a file as it stands. -/
  | path : hasWildcard input = false ∨ t.isFile input = true → Block t input [input]
  /-- An input that is no valid pattern. -/
  | invalid {e : SyntaxError} : Pattern.read input = .error e → Block t input [input]
  /-- A pattern that matches no file. -/
  | unmatched {pattern : Pattern} : Pattern.read input = .ok pattern →
      (∀ path ∈ paths t pattern, ¬ t.isFile path = true) → Block t input [input]
  /-- A pattern that matches files: all of them, in the order in which they are found. -/
  | files {pattern : Pattern} : hasWildcard input = true → t.isFile input = false →
      Pattern.read input = .ok pattern → (∃ path ∈ paths t pattern, t.isFile path = true) →
      Block t input (((paths t pattern).filter t.isFile).map Utf8.lossy)

/-- No input is lost: the rule that puts files in its place asks for one at least. -/
theorem Block.ne_nil (h : Block t input block) : block ≠ [] := by
  cases h with
  | path | invalid | unmatched => exact List.cons_ne_nil input []
  | files _ _ _ hsome =>
      obtain ⟨p, hp, hfile⟩ := hsome
      exact List.ne_nil_of_mem (List.mem_map_of_mem (List.mem_filter.2 ⟨hp, hfile⟩))

/-- **What stands in a block stands for itself.** -/
theorem Block.of_mem (ht : t.HasTextNames) (h : Block t input block) (hpath : path ∈ block) :
    Block t path [path] := by
  cases h with
  | path hplain =>
      obtain rfl := List.mem_singleton.1 hpath
      exact .path hplain
  | invalid hread =>
      obtain rfl := List.mem_singleton.1 hpath
      exact .invalid hread
  | unmatched hread hnone =>
      obtain rfl := List.mem_singleton.1 hpath
      exact .unmatched hread hnone
  | files => exact .path (.inr ((mem_map_lossy_found_iff ht).1 hpath).2)

/-! ## The expansion keeps the rules -/

/-- An input is replaced by its block. -/
private theorem block_expandInput (t : Tree) (input : Text) :
    Block t input (expandInput t input).files := by
  by_cases hplain : hasWildcard input = false ∨ t.isFile input = true
  · rw [expandInput_of_path hplain]
    exact .path hplain
  · obtain ⟨hwild, hfile⟩ := not_or.1 hplain
    rw [Bool.not_eq_false] at hwild
    rw [Bool.not_eq_true] at hfile
    cases hread : Pattern.read input with
    | error e =>
        rw [expandInput_files_of_invalid hread]
        exact .invalid hread
    | ok pattern =>
        rw [expandInput_files_of_read hwild hfile hread]
        by_cases hnone : (paths t pattern).filter t.isFile = []
        · rw [if_pos hnone]
          exact .unmatched hread (List.filter_eq_nil_iff.1 hnone)
        · rw [if_neg hnone]
          obtain ⟨path, hpath⟩ := List.exists_mem_of_ne_nil _ hnone
          exact .files hwild hfile hread ⟨path, List.mem_filter.1 hpath⟩

/-- **The rules leave no choice.** -/
theorem Block.eq (h : Block t input block) : block = (expandInput t input).files := by
  cases h with
  | path hplain => rw [expandInput_of_path hplain]
  | invalid hread => rw [expandInput_files_of_invalid hread]
  | unmatched hread hnone =>
      obtain hself | ⟨pattern, hread', hsome, -⟩ := expandInput_files_cases t input
      · exact hself.symm
      · rw [hread, Except.ok.injEq] at hread'
        rw [← hread'] at hsome
        exact absurd (List.filter_eq_nil_iff.2 hnone) hsome
  | files hwild hfile hread hsome =>
      obtain ⟨p, hp, hpfile⟩ := hsome
      rw [expandInput_files_of_read hwild hfile hread,
        if_neg (List.ne_nil_of_mem (List.mem_filter.2 ⟨hp, hpfile⟩))]

/-! ## Lists of inputs -/

theorem expand_eq_flatMap (t : Tree) (inputs : List Text) :
    expand t inputs = inputs.flatMap fun input => expand t [input] := by
  simp only [expand_singleton]
  rfl

/-- The rules are the expansion, said in another way. -/
theorem block_iff : Block t input block ↔ block = expand t [input] := by
  rw [expand_singleton]
  constructor
  · intro h
    exact h.eq
  · rintro rfl
    exact block_expandInput t input

/-- Paths of which each one stands for itself are left as they are. -/
theorem expand_eq_self {inputs : List Text} (h : ∀ path ∈ inputs, Block t path [path]) :
    expand t inputs = inputs := by
  induction inputs with
  | nil => rfl
  | cons path rest ih =>
      have hself : (expandInput t path).files = [path] := (h path List.mem_cons_self).eq.symm
      have hrest : expand t rest = rest := ih fun p hp => h p (List.mem_cons_of_mem path hp)
      rw [expand, List.flatMap_cons, hself, ← expand, hrest, List.singleton_append]

/-- **Expanding twice is expanding once.** Whatever the inputs are, the expansion consists of one
block for each input, in the order of the inputs. A block is what the rules say, and it is not
empty. Each path of a block, whatever it looks like, is expanded into itself, and so the expansion of
all that has been expanded changes nothing. Any links may stand in the tree. Its names are texts,
since what is decoded with a loss is another path, and may be a pattern itself. -/
theorem expand_expand (ht : t.HasTextNames) (inputs : List Text) :
    expand t (expand t inputs) = expand t inputs
      ∧ expand t inputs = inputs.flatMap (fun input => expand t [input])
      ∧ ∀ input ∈ inputs, (∀ block, Block t input block ↔ block = expand t [input])
          ∧ expand t [input] ≠ []
          ∧ ∀ path ∈ expand t [input], expand t [path] = [path] := by
  have hself : ∀ input, ∀ path ∈ expand t [input], Block t path [path] := by
    intro input path hpath
    exact (block_iff.2 rfl).of_mem ht hpath
  refine ⟨?_, expand_eq_flatMap t inputs, fun input _ => ⟨fun _ => block_iff, ?_, ?_⟩⟩
  · apply expand_eq_self
    intro path hpath
    rw [expand_eq_flatMap] at hpath
    obtain ⟨input, -, hpath⟩ := List.mem_flatMap.1 hpath
    exact hself input path hpath
  · exact (block_iff.2 rfl).ne_nil
  · intro path hpath
    exact expand_eq_self (List.forall_mem_singleton.2 (hself input path hpath))

/-- A file whose name looks like a pattern for the other one, a pattern for both of them, and an
input that is no valid pattern. -/
theorem expand_expand_of_brackets :
    let one : Name := ⟨Utf8.encode "a1".toList, by decide⟩
    let set : Name := ⟨Utf8.encode "a[1]".toList, by decide⟩
    let t : Tree :=
      ⟨[(⟨.above 0, [one]⟩, .file [] .data), (⟨.above 0, [set]⟩, .file [] .data)], by decide⟩
    let inputs : List Text := ["a*".toList, "[".toList]
    expand t (expand t inputs) = expand t inputs
      ∧ "a[1]".toList ∈ expand t ["a*".toList] ∧ expand t ["a[1]".toList] = ["a[1]".toList]
      ∧ expand t ["[".toList] = ["[".toList] := by
  intro one set t inputs
  have ht : t.HasTextNames := by decide
  have hlinks : t.HasNoLinks := by simp [HasNoLinks, t]
  have hfile : t.isFile "a[1]".toList = true :=
    isFile_eq_true_iff.2 ⟨_, _, _, find_of_isEntryName (by decide) rfl⟩
  have hnone : t.isFile "a*".toList = false := by
    rw [isFile, find_of_isEntryName_of_none (by decide) rfl]
  obtain ⟨pattern, hread⟩ : ∃ pattern, Pattern.read "a*".toList = .ok pattern := ⟨_, rfl⟩
  have hpieces : "a*".toList.splitOnP (· == '/') = ["a*".toList] := by decide
  have hfits : Fits "a*".toList "a[1]".toList :=
    .char (by decide) (by decide) (by decide) (.anyRun "[1]".toList .nil)
  have hselected : IsSelected t "a*".toList "a[1]".toList := by
    refine ⟨["a[1]".toList], by decide, ?_, rfl, hfile⟩
    rw [hpieces]
    exact .name (by decide) hfits .nil
  have hfound : "a[1]".toList ∈ ((paths t pattern).filter t.isFile).map Utf8.lossy := by
    refine (mem_map_lossy_found_iff_isSelected hlinks hread ?_ ?_ fun _ => ht).2 hselected
    · rw [hpieces]
      simp
    · rw [hpieces]
      decide
  obtain ⟨htwice, -, hblocks⟩ := expand_expand ht inputs
  obtain ⟨hstar, -, hself⟩ := hblocks "a*".toList List.mem_cons_self
  obtain ⟨hbracket, -, -⟩ := hblocks "[".toList (List.mem_cons_of_mem _ List.mem_cons_self)
  have hmem : "a[1]".toList ∈ expand t ["a*".toList] := by
    rw [← (hstar _).1 (.files rfl hnone hread ⟨_, (mem_map_lossy_found_iff ht).1 hfound⟩)]
    exact hfound
  exact ⟨htwice, hmem, hself _ hmem, ((hbracket _).1 (.invalid rfl)).symm⟩

end ScriptLint.Glob
