import ScriptLint.Proofs.Glob.Components
import ScriptLint.Proofs.Glob.Expansion

set_option autoImplicit false

/-!
The files that a pattern stands for.

For a tree without links it can be said what a pattern is expanded into without saying how: the
files at the paths whose names the components of the pattern match. Everything needed for that has
been shown of the components. What is left is that a path that leads to a file has so few names
that the walk gets to its end.

So far this is about bytes, and holds of every tree without links. Said of texts it needs two
provisos, and both of them are needed. A `**` may lead into a directory whose name is no text, and
what comes back from there is a text that is no path of the file. And a file so deep down that a
path to it would have `Path.limit` bytes is listed in the tree, but no path leads to it.
-/

namespace ScriptLint.Glob

open ScriptLint.Path ScriptLint.Tree

variable {t : Tree} {input path : Text} {p : Bytes} {pattern : Pattern}

/-- A file of the tree, by a path of names that the pieces of a pattern select. -/
def IsSelected (t : Tree) (input path : Text) : Prop :=
  ∃ names : List Text, (∀ n ∈ names, IsName n) ∧ Selects (input.splitOnP (· == '/')) names
    ∧ path = Text.join ['/'] names ∧ t.isFile path = true

/-! ## In bytes -/

/-- **What a pattern finds are the files at the paths that its components match.** -/
theorem mem_found_iff (hlinks : t.HasNoLinks) (hread : Pattern.read input = .ok pattern)
    (hpieces : ∀ p ∈ input.splitOnP (· == '/'), p ≠ [] ∧ p.head? ≠ some '.')
    (hlast : (input.splitOnP (· == '/')).getLast? ≠ some ['*', '*']) :
    p ∈ (paths t pattern).filter t.isFile
      ↔ ∃ ns, ns ≠ [] ∧ Meets pattern.components ns ∧ p = ofNames ns ∧ t.isFile p = true := by
  obtain ⟨habsolute, hdirectory, hspelled⟩ := Pattern.spelledOut_of_read hpieces hread
  have hends : EndsInName pattern.components :=
    hspelled.endsInName (List.splitOnP_ne_nil _ _) hlast
  rw [List.mem_filter, paths_eq_foundIn habsolute hdirectory]
  constructor
  · rintro ⟨hfound, hfile⟩
    obtain ⟨n, ms, hmeets, rfl⟩ := exists_goesOn_of_mem_foundIn hspelled.isPlain hfound
    exact ⟨n :: ms, List.cons_ne_nil n ms, hmeets, rfl, hfile⟩
  · rintro ⟨ns, -, hmeets, rfl, hfile⟩
    -- the path of a file is not too long, so the walk has levels enough for its names
    have hlimit : ns.length < Path.limit := length_lt_limit ((isFile_ofNames_iff hlinks).1 hfile).1
    have hin : ofNames ([] ++ ns)
        ∈ foundIn t (Path.limit + pattern.components.length + 1) [] pattern.components :=
      mem_foundIn_of_isFile hlinks hfile hspelled.isPlain hends hmeets (by omega)
    exact ⟨hin, hfile⟩

/-! ## In texts -/

/-- What a pattern finds is handed on as the texts of the files that it describes. -/
theorem mem_map_lossy_found_iff_isSelected (hlinks : t.HasNoLinks)
    (hread : Pattern.read input = .ok pattern)
    (hpieces : ∀ p ∈ input.splitOnP (· == '/'), p ≠ [] ∧ p.head? ≠ some '.')
    (hlast : (input.splitOnP (· == '/')).getLast? ≠ some ['*', '*'])
    (hnames : ['*', '*'] ∈ input.splitOnP (· == '/') → t.HasTextNames) :
    path ∈ ((paths t pattern).filter t.isFile).map Utf8.lossy ↔ IsSelected t input path := by
  obtain ⟨-, -, hspelled⟩ := Pattern.spelledOut_of_read hpieces hread
  have htexts : ∀ p ∈ (paths t pattern).filter t.isFile, IsText p :=
    fun p hp => isText_of_mem_paths_of_read hread hpieces hnames (List.mem_filter.1 hp).1
  rw [mem_map_lossy_iff htexts, mem_found_iff hlinks hread hpieces hlast]
  constructor
  · rintro ⟨ns, hne, hmeets, hpath, hfile⟩
    obtain ⟨names, hsame, hjoin⟩ := exists_texts_of_encode_eq hne hpath
    refine ⟨names, fun n hn => ?_, (hspelled.meets_iff_selects hsame).1 hmeets, hjoin, hfile⟩
    have hmem : Utf8.encode n ∈ ns.map Subtype.val := hsame ▸ List.mem_map_of_mem hn
    obtain ⟨m, -, hm⟩ := List.mem_map.1 hmem
    exact hm ▸ m.property
  · rintro ⟨names, hall, hselects, rfl, hfile⟩
    obtain ⟨ns, hsame⟩ := exists_names hall
    have hmeets : Meets pattern.components ns := (hspelled.meets_iff_selects hsame).2 hselects
    have hne : ns ≠ [] := by
      rintro rfl
      exact (hspelled.endsInName (List.splitOnP_ne_nil _ _) hlast).not_meets_nil hmeets
    exact ⟨ns, hne, hmeets, encode_join hne hsame, hfile⟩

end ScriptLint.Glob
