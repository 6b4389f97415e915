import ScriptLint.Proofs.Tree.Lookup

set_option autoImplicit false

/-!
Going down a tree by names.

In a tree without links a path of names goes down from the working directory, one name after the
other, and every place on the way but the last is a directory. `Descends` is that way. It can be cut
anywhere, so whatever is at the end of a path, in front of it there are directories, and
each of them lists the name by which the path goes on.

The way down ends where its names say, so what stands there is listed under these names. That a tree
carries the proof that no location is listed twice is what puts the names of a directory in order
without repetition.
-/

namespace ScriptLint.Tree

open ScriptLint.Path

/-- The tree holds no links. -/
def HasNoLinks (t : Tree) : Prop := ∀ e ∈ t.entries, ∀ target, e.2 ≠ .link target

instance (t : Tree) : Decidable t.HasTextNames :=
  decidable_of_iff (t.entries.all fun e => e.1.names.all fun n => decide (IsText n.val)) (by
    simp only [HasTextNames, List.all_eq_true, decide_eq_true_iff])

/-- The way from one place down to another one, by names, through directories. -/
inductive Descends (t : Tree) : Location → List Name → Location → Prop where
  | stay {place : Location} : Descends t place [] place
  | into {here there : Location} {n : Name} {ns : List Name} :
      t.entry? here = some .directory → n.val.length ≤ nameLimit →
      Descends t (here.child n) ns there → Descends t here (n :: ns) there

variable {t : Tree} {here there place : Location} {n : Name} {ns ms : List Name} {e : Entry}
  {p : Bytes}

/-! ## Ways -/

/-- Without names there is nowhere to go. -/
theorem descends_nil_iff : t.Descends here [] there ↔ here = there := by
  constructor
  · rintro ⟨⟩
    rfl
  · rintro rfl
    exact .stay

/-- A way begins in a directory, at a name that a walk does not refuse for its length. -/
theorem descends_cons_iff :
    t.Descends here (n :: ns) there ↔ t.entry? here = some .directory
      ∧ n.val.length ≤ nameLimit ∧ t.Descends (here.child n) ns there := by
  constructor
  · rintro ⟨⟩
    exact ⟨‹_›, ‹_›, ‹_›⟩
  · rintro ⟨hhere, hsize, hrest⟩
    exact .into hhere hsize hrest

/-- A way may be cut anywhere. -/
theorem descends_append_iff :
    t.Descends here (ns ++ ms) there ↔ ∃ mid, t.Descends here ns mid ∧ t.Descends mid ms there := by
  induction ns generalizing here with
  | nil =>
      simp only [List.nil_append, descends_nil_iff]
      constructor
      · intro h
        exact ⟨here, rfl, h⟩
      · rintro ⟨mid, rfl, h⟩
        exact h
  | cons n ns ih =>
      simp only [List.cons_append, descends_cons_iff, ih]
      constructor
      · rintro ⟨hhere, hsize, mid, hfirst, hrest⟩
        exact ⟨mid, ⟨hhere, hsize, hfirst⟩, hrest⟩
      · rintro ⟨mid, ⟨hhere, hsize, hfirst⟩, hrest⟩
        exact ⟨hhere, hsize, mid, hfirst, hrest⟩

/-- Whatever leads somewhere is there itself. -/
theorem Descends.entry?_ne_none (h : t.Descends here ns there) (hthere : t.entry? there ≠ none) :
    t.entry? here ≠ none := by
  cases h with
  | stay => exact hthere
  | into hhere => simp [hhere]

/-- Nothing is below a place that is no directory. -/
theorem Descends.eq_nil (h : t.Descends here ns there) (hhere : t.entry? here ≠ some .directory) :
    ns = [] := by
  cases h with
  | stay => rfl
  | into h => exact absurd h hhere

/-! ## Entries -/

/-- An entry of a directory is never an anchor. -/
theorem child_names_ne_nil (here : Location) (n : Name) : (here.child n).names ≠ [] := by
  simp [Location.child]

/-- What stands at a location is listed there, unless it is an anchor, which needs no listing. -/
theorem mem_entries_of_entry_eq (hplace : place.names ≠ []) (h : t.entry? place = some e) :
    (place, e) ∈ t.entries := by
  unfold entry? at h
  rw [if_neg hplace] at h
  obtain ⟨listed, hfind, rfl⟩ := Option.map_eq_some_iff.1 h
  have hsame := List.find?_some hfind
  rw [← of_decide_eq_true hsame]
  exact List.mem_of_find?_eq_some hfind

/-- In a tree without links nothing that stands anywhere is one, and the anchors are directories.
-/
private theorem entry?_ne_link (hlinks : t.HasNoLinks) (target : Bytes) :
    t.entry? place ≠ some (.link target) := by
  intro h
  by_cases hplace : place.names = []
  · unfold entry? at h
    rw [if_pos hplace] at h
    exact absurd h (by simp)
  · exact hlinks _ (mem_entries_of_entry_eq hplace h) target rfl

/-! ## The walk along names -/

/-- **Along names, the walk finds what is at the end of the way down.** -/
theorem walk_eq_occupied_iff (hlinks : t.HasNoLinks) {links : Nat}
    (hhere : t.entry? here = some .directory) :
    t.walk .look links here (ns.map .into) = .ok (.occupied there)
      ↔ t.Descends here ns there ∧ t.entry? there ≠ none := by
  induction ns generalizing here with
  | nil =>
      rw [List.map_nil, walk, descends_nil_iff]
      simp only [Except.ok.injEq, Spot.occupied.injEq]
      constructor
      · rintro rfl
        exact ⟨rfl, by simp [hhere]⟩
      · exact fun h => h.1
  | cons n ns ih =>
      rw [List.map_cons, descends_cons_iff]
      by_cases hsize : nameLimit < n.val.length
      · rw [walk, if_neg (by simp), if_pos hsize]
        exact iff_of_false (by simp) fun h => absurd h.1.2.1 (Nat.not_le.2 hsize)
      · have hsize : n.val.length ≤ nameLimit := Nat.not_lt.1 hsize
        -- what stands under the first name decides whether the walk goes on
        cases hentry : t.entry? (here.child n) with
        | none =>
            rw [walk_into_none hsize hentry]
            refine iff_of_false (by split <;> simp) ?_
            rintro ⟨⟨-, -, hdown⟩, hthere⟩
            exact hdown.entry?_ne_none hthere hentry
        | some e =>
            cases e with
            | directory => simp only [walk_into_directory hsize hentry, ih hentry, hhere, hsize, true_and]
            | file contents role =>
                have hnot : t.entry? (here.child n) ≠ some .directory := by simp [hentry]
                rw [walk_into_file hsize hentry]
                constructor
                · intro h
                  split at h
                  · next hempty =>
                      obtain rfl := List.map_eq_nil_iff.1 (List.isEmpty_iff.1 hempty)
                      obtain rfl := Spot.occupied.inj (Except.ok.inj h)
                      exact ⟨⟨hhere, hsize, .stay⟩, by simp [hentry]⟩
                  · exact absurd h (by simp)
                · rintro ⟨⟨-, -, hdown⟩, -⟩
                  obtain rfl := hdown.eq_nil hnot
                  obtain rfl := descends_nil_iff.1 hdown
                  rfl
            | link target => exact absurd hentry (entry?_ne_link hlinks target)

/-- **What a path of names leads to.** -/
theorem find_ofNames_eq_ok_iff (hlinks : t.HasNoLinks) :
    t.find .look (ofNames ns) = .ok (place, e)
      ↔ refusal? (ofNames ns) = none ∧ t.Descends .working ns place ∧ t.entry? place = some e := by
  have hworking : t.entry? .working = some .directory := rfl
  have hwalk : t.walk .look linkLimit .working (steps (ofNames ns))
      = t.walk .look linkLimit .working (ns.map .into) := by
    by_cases hne : ns = []
    · subst hne
      rw [steps_ofNames_nil, walk, List.map_nil]
    · rw [steps_ofNames hne]
  rw [find, spot, spotOf, isAbsolute_ofNames ns, if_neg (by decide), hwalk]
  cases hrefusal : refusal? (ofNames ns) with
  | some cause => simp
  | none =>
      simp only [true_and]
      constructor
      · intro h
        split at h
        · exact absurd h (by simp)
        · exact absurd h (by simp)
        · next place' hspot =>
            split at h
            · next e' hentry =>
                obtain ⟨rfl, rfl⟩ := Prod.mk.inj (Except.ok.inj h)
                exact ⟨((walk_eq_occupied_iff hlinks hworking).1 hspot).1, hentry⟩
            · exact absurd h (by simp)
      · rintro ⟨hdown, hentry⟩
        have hspot : t.walk .look linkLimit .working (ns.map .into) = .ok (.occupied place) :=
          (walk_eq_occupied_iff hlinks hworking).2 ⟨hdown, by simp [hentry]⟩
        simp only [hspot, hentry]

/-- A path of names leads to a file if the way down ends there. -/
theorem isFile_ofNames_iff (hlinks : t.HasNoLinks) :
    t.isFile (ofNames ns) = true ↔ refusal? (ofNames ns) = none
      ∧ ∃ place contents role, t.Descends .working ns place
        ∧ t.entry? place = some (.file contents role) := by
  rw [isFile_eq_true_iff]
  simp only [find_ofNames_eq_ok_iff hlinks, exists_and_left]

/-- A place has the name under which it is reached, and no other one. -/
theorem nameIn?_eq_some_iff : here.nameIn? place = some n ↔ place = here.child n := by
  unfold Location.nameIn?
  constructor
  · intro h
    split at h
    · next hsame =>
        obtain ⟨hanchor, hnames⟩ := hsame
        obtain ⟨ns, hlast⟩ := List.getLast?_eq_some_iff.1 h
        rw [hlast, List.dropLast_concat] at hnames
        obtain ⟨anchor, names⟩ := place
        simp only at hanchor hlast
        rw [hanchor, hlast, hnames, Location.child]
    · exact absurd h (by simp)
  · rintro rfl
    simp [Location.child]

/-- A name is listed in a directory if something stands there under it. -/
theorem mem_names_iff : n ∈ t.names here ↔ ∃ e ∈ t.entries, e.1 = here.child n := by
  simp only [names, List.mem_mergeSort, List.mem_filterMap, nameIn?_eq_some_iff]

/-- Whatever stands in a directory is listed there. -/
private theorem mem_names_of_child (h : t.entry? (here.child n) ≠ none) : n ∈ t.names here := by
  obtain ⟨e, he⟩ := Option.ne_none_iff_exists'.1 h
  exact mem_names_iff.2 ⟨_, mem_entries_of_entry_eq (child_names_ne_nil here n) he, rfl⟩

/-- What is listed at a path is listed in the directory that the path leads to. -/
private theorem exists_of_mem_list (h : n ∈ t.list p) :
    ∃ place, t.find .look p = .ok (place, .directory) ∧ n ∈ t.names place := by
  unfold list at h
  split at h
  · next place hfind => exact ⟨place, hfind, h⟩
  · exact absurd h List.not_mem_nil

/-- In a tree whose names are texts, nothing else is listed. -/
theorem isText_of_mem_list (ht : t.HasTextNames) (h : n ∈ t.list p) : IsText n.val := by
  obtain ⟨place, -, hmem⟩ := exists_of_mem_list h
  obtain ⟨e, he, hplace⟩ := mem_names_iff.1 hmem
  refine ht e he n ?_
  rw [hplace]
  exact List.mem_append_right _ (List.mem_singleton.2 rfl)

/-- Nothing is listed at a path that leads to no directory. -/
theorem list_eq_nil (h : t.isDirectory p = false) : t.list p = [] := by
  unfold list
  split
  · next place hfind => exact absurd (isDirectory_eq_true_iff.2 ⟨place, hfind⟩) (by simp [h])
  · rfl

/-- **In front of a file there are directories that list the way to it.** -/
theorem listed_of_isFile (hlinks : t.HasNoLinks)
    (h : t.isFile (ofNames (ns ++ n :: ms)) = true) :
    t.isDirectory (ofNames ns) = true ∧ n ∈ t.list (ofNames ns)
      ∧ t.isTaken (ofNames (ns ++ [n])) = true := by
  obtain ⟨hrefusal, place, contents, role, hdown, hplace⟩ := (isFile_ofNames_iff hlinks).1 h
  obtain ⟨mid, hfirst, hrest⟩ := descends_append_iff.1 hdown
  obtain ⟨hmid, hsize, hlater⟩ := descends_cons_iff.1 hrest
  -- whatever stands under `n`, the way goes on there, so something does
  have hchild : t.entry? (mid.child n) ≠ none := hlater.entry?_ne_none (by simp [hplace])
  obtain ⟨e, he⟩ := Option.ne_none_iff_exists'.1 hchild
  have hrefusal' : refusal? (ofNames ((ns ++ [n]) ++ ms)) = none := by
    rwa [List.append_assoc]
  have hdirectory : t.find .look (ofNames ns) = .ok (mid, .directory) :=
    (find_ofNames_eq_ok_iff hlinks).2 ⟨refusal?_of_append hrefusal, hfirst, hmid⟩
  have htaken : t.find .look (ofNames (ns ++ [n])) = .ok (mid.child n, e) := by
    refine (find_ofNames_eq_ok_iff hlinks).2 ⟨refusal?_of_append hrefusal', ?_, he⟩
    exact descends_append_iff.2 ⟨mid, hfirst, .into hmid hsize .stay⟩
  refine ⟨isDirectory_eq_true_iff.2 ⟨mid, hdirectory⟩, ?_, isTaken_of_find htaken⟩
  rw [list, hdirectory]
  exact mem_names_of_child hchild

end ScriptLint.Tree
