import ScriptLint.Proofs.Tree.Names

set_option autoImplicit false

/-!
Looking at a path.

To ask whether a path leads to a file and to read the file there is the same walk; only what
is made of its end differs. So a file that has been seen can be read, as long as the tree stays
as it is.

A walk that looks takes one step at a time, and what stands under the name of the step decides how it
goes on: there is one equation for each kind of entry, and one for none. A path of one name is the
simplest walk. It leads to what stands under that name in the working directory, and nothing else
of the tree is looked at.
-/

namespace ScriptLint.Tree

open ScriptLint.Path

variable {t : Tree} {path : Bytes} {here place : Location} {n : Name} {rest : List Step}
  {links : Nat} {contents : Bytes} {role : Role} {e : Entry}

/-! ## What is made of the end of a walk -/

/-- A path leads to a file if the look at it ends at one. Links on the way, and at the end, have
been followed by then. -/
theorem isFile_eq_true_iff :
    t.isFile path = true ↔
      ∃ place contents role, t.find .look path = .ok (place, .file contents role) := by
  unfold isFile
  split
  · next place contents role hfind => simp [hfind]
  · next hother =>
      refine ⟨fun h => absurd h (by simp), ?_⟩
      rintro ⟨place, contents, role, hfind⟩
      exact absurd hfind (hother place contents role)

/-- The same for a directory. -/
theorem isDirectory_eq_true_iff :
    t.isDirectory path = true ↔ ∃ place, t.find .look path = .ok (place, .directory) := by
  unfold isDirectory
  split
  · next place hfind => simp [hfind]
  · next hother =>
      refine ⟨fun h => absurd h (by simp), ?_⟩
      rintro ⟨place, hfind⟩
      exact absurd hfind (hother place)

/-- Whatever is found is taken, a link at the end or not. -/
theorem isTaken_of_find (h : t.find .look path = .ok (place, e)) : t.isTaken path = true := by
  rw [isTaken, h]
  rfl

/-- A file that is found can be read. -/
theorem read_of_find (h : t.find .look path = .ok (place, .file contents role)) :
    t.read path = .ok contents := by
  unfold read
  rw [h]

/-- A path is found if its walk comes to something. -/
theorem find_of_walk (hrefusal : refusal? path = none) (hrelative : isAbsolute path = false)
    (hwalk : t.walk .look linkLimit .working (steps path) = .ok (.occupied place))
    (hentry : t.entry? place = some e) : t.find .look path = .ok (place, e) := by
  rw [find, spot, spotOf, hrefusal, hrelative]
  simp only [Bool.false_eq_true, if_false, hwalk, hentry]

/-- And it is not found if its walk comes to a free place. -/
theorem find_of_walk_free (hrefusal : refusal? path = none) (hrelative : isAbsolute path = false)
    (hwalk : ∃ place, t.walk .look linkLimit .working (steps path) = .ok (.free place)) :
    t.find .look path = .error .notFound := by
  obtain ⟨place, hwalk⟩ := hwalk
  rw [find, spot, spotOf, hrefusal, hrelative]
  simp only [Bool.false_eq_true, if_false, hwalk]

/-! ## One step of a walk -/

/-- Under a name of nothing the walk ends, and has found a free place if the name was the last. -/
theorem walk_into_none (hsize : n.val.length ≤ nameLimit) (h : t.entry? (here.child n) = none) :
    t.walk .look links here (.into n :: rest)
      = if rest.isEmpty then .ok (.free (here.child n)) else .error .notFound := by
  rw [walk, if_neg (by simp), if_neg (Nat.not_lt.2 hsize)]
  simp only [h]

/-- Through a directory it goes on. -/
theorem walk_into_directory (hsize : n.val.length ≤ nameLimit)
    (h : t.entry? (here.child n) = some .directory) :
    t.walk .look links here (.into n :: rest) = t.walk .look links (here.child n) rest := by
  rw [walk, if_neg (by simp), if_neg (Nat.not_lt.2 hsize)]
  simp only [h]

/-- A file ends the walk, so its name has to be the last. -/
theorem walk_into_file (hsize : n.val.length ≤ nameLimit)
    (h : t.entry? (here.child n) = some (.file contents role)) :
    t.walk .look links here (.into n :: rest)
      = if rest.isEmpty then .ok (.occupied (here.child n)) else .error .notDirectory := by
  rw [walk, if_neg (by simp), if_neg (Nat.not_lt.2 hsize)]
  simp only [h]

/-- The steps of a link are taken in its place, as long as links may be followed. -/
theorem walk_into_link (hsize : n.val.length ≤ nameLimit) {target : Bytes}
    (h : t.entry? (here.child n) = some (.link target)) :
    t.walk .look (links + 1) here (.into n :: rest)
      = t.walk .look links (if isAbsolute target then .root else here) (steps target ++ rest) := by
  rw [walk, if_neg (by simp), if_neg (Nat.not_lt.2 hsize)]
  simp only [h, reduceCtorEq, beq_iff_eq, Bool.and_eq_true, and_false, if_false]

/-! ## Paths of one name -/

/-- Bytes that lead to an entry of the working directory: a name that no walk refuses. -/
def IsEntryName (bytes : Bytes) : Prop := IsName bytes ∧ bytes.length ≤ nameLimit ∧ 0 ∉ bytes

instance (bytes : Bytes) : Decidable (IsEntryName bytes) :=
  inferInstanceAs (Decidable (IsName bytes ∧ bytes.length ≤ nameLimit ∧ 0 ∉ bytes))

/-- The walk along a path of one name is a single step. -/
theorem walk_of_isEntryName (h : IsEntryName path) :
    refusal? path = none ∧ isAbsolute path = false ∧ steps path = [.into ⟨path, h.1⟩] := by
  obtain ⟨hname, hsize, hnul⟩ := h
  have hpath : ofNames [⟨path, hname⟩] = path := ofNames_singleton ⟨path, hname⟩
  have hlimit : nameLimit < Path.limit := by decide
  refine ⟨refusal?_eq_none_iff.2 ⟨hnul, hname.ne_nil, Nat.lt_of_le_of_lt hsize hlimit⟩, ?_, ?_⟩
  · rw [← hpath]
    exact isAbsolute_ofNames _
  · have hsteps : steps (ofNames [⟨path, hname⟩]) = [.into ⟨path, hname⟩] :=
      steps_ofNames (List.cons_ne_nil _ _)
    rwa [hpath] at hsteps

/-- A path of one name leads to the file of that name. -/
theorem find_of_isEntryName (h : IsEntryName path)
    (hentry : t.entry? (Location.working.child ⟨path, h.1⟩) = some (.file contents role)) :
    t.find .look path = .ok (Location.working.child ⟨path, h.1⟩, .file contents role) := by
  obtain ⟨hrefusal, hrelative, hsteps⟩ := walk_of_isEntryName h
  refine find_of_walk hrefusal hrelative ?_ hentry
  rw [hsteps, walk_into_file h.2.1 hentry]
  rfl

/-- And if there is a file, that is what is read. -/
theorem read_of_isEntryName (h : IsEntryName path)
    (hentry : t.entry? (Location.working.child ⟨path, h.1⟩) = some (.file contents role)) :
    t.read path = .ok contents :=
  read_of_find (find_of_isEntryName h hentry)

/-- A path of one name leads to nothing if nothing has that name. -/
theorem find_of_isEntryName_of_none (h : IsEntryName path)
    (hentry : t.entry? (Location.working.child ⟨path, h.1⟩) = none) :
    t.find .look path = .error .notFound := by
  obtain ⟨hrefusal, hrelative, hsteps⟩ := walk_of_isEntryName h
  refine find_of_walk_free hrefusal hrelative ⟨Location.working.child ⟨path, h.1⟩, ?_⟩
  rw [hsteps]
  exact walk_into_none h.2.1 hentry

/-- So there is nothing to be read, and the cause is that there is nothing. -/
theorem read_of_isEntryName_of_none (h : IsEntryName path)
    (hentry : t.entry? (Location.working.child ⟨path, h.1⟩) = none) :
    t.read path = .error .notFound := by
  rw [read, find_of_isEntryName_of_none h hentry]

end ScriptLint.Tree
