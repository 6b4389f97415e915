import ScriptLint.Proofs.Glob.Components

set_option autoImplicit false

/-!
Where the walk stays among texts.

What the walk takes from a pattern is a text, and so is the slash. The other parts of its paths are
names of entries, so in a tree whose names are texts every path of the walk is one, and nothing
is lost when it is handed on. That is an invariant of the tasks, whatever the pattern is and wherever
the links of the tree lead.

In any other tree it depends on the pattern. A component for a name is held against texts only, so
without a `**` whatever is matched is a text. Under a `**` it need not be.
-/

namespace ScriptLint.Glob

open ScriptLint.Path ScriptLint.Tree

/-- The path that a task is about. -/
def Task.path : Task → Bytes
  | .found path _ | .entry path _ _ _ => path

/-- Tasks about paths that are texts. -/
def AreTexts (tasks : List Task) : Prop := ∀ task ∈ tasks, IsText task.path

variable {t : Tree} {here p : Bytes} {n : Name} {ns : List Name} {cs rest : List Component}
  {task : Task} {w : Bool} {d : Nat}

/-! ## An invariant of the tasks -/

/-- An entry has the name of the directory in front of its own one, or nothing. -/
theorem isText_pathIn {name : Bytes} (hhere : IsText here) (hname : IsText name) :
    IsText (pathIn here name) := by
  unfold pathIn
  split
  · exact hname
  · exact hhere.join hname

/-- Behind a name that is looked up there is either nothing more to be matched, or another
directory. -/
private theorem areTexts_behind (hp : IsText p) :
    (∀ isDirectory, AreTexts (tasksIn t p isDirectory rest)) →
      AreTexts (match rest with
        | [] => [.found p (t.isDirectory p)]
        | _ :: _ => tasksIn t p (t.isDirectory p) rest) := by
  intro h
  cases rest with
  | nil => exact List.forall_mem_singleton.2 hp
  | cons c rest => exact h _

/-- A name that is looked up is written in the pattern, and a name that is listed is one of the
tree. -/
theorem areTexts_tasksIn (ht : t.HasTextNames) (hhere : IsText here) (isDirectory : Bool)
    (cs : List Component) : AreTexts (tasksIn t here isDirectory cs) := by
  induction cs generalizing here isDirectory with
  | nil => exact List.forall_mem_nil _
  | cons c rest ih =>
      rw [tasksIn]
      dsimp only
      split
      · next name _ =>
          have hpath : IsText (pathIn here name) := isText_pathIn hhere (isText_encode name)
          split
          · exact areTexts_behind hpath fun b => ih hpath b
          · exact List.forall_mem_nil _
      · split
        · refine List.forall_mem_append.2 ⟨?_, ?_⟩
          · -- `.` and `..`, if the component has a dot in front
            split
            · intro task htask
              obtain ⟨name, -, htask⟩ := List.mem_flatMap.1 htask
              have hpath : IsText (Path.join here name) := hhere.join (isText_encode name)
              split at htask
              · exact areTexts_behind hpath (fun b => ih hpath b) task htask
              · exact absurd htask List.not_mem_nil
            · exact List.forall_mem_nil _
          · intro task htask
            obtain ⟨name, hname, rfl⟩ := List.mem_map.1 htask
            exact isText_pathIn hhere (isText_of_mem_list ht hname)
        · exact List.forall_mem_nil _

/-- What an entry is found as is its own path, and what it gives rise to lies below that. -/
private theorem areTexts_tryName (ht : t.HasTextNames) (hp : IsText p) (n : Name)
    (isDirectory : Bool) (cs : List Component) :
    (∀ q ∈ (tryName t w p n isDirectory cs).1, IsText q)
      ∧ AreTexts (tryName t w p n isDirectory cs).2 := by
  have hnone : (∀ q ∈ ([] : List Bytes), IsText q) ∧ AreTexts [] :=
    ⟨List.forall_mem_nil _, List.forall_mem_nil _⟩
  unfold tryName
  split
  · exact hnone
  · split
    · split
      · refine ⟨?_, List.forall_mem_nil _⟩
        split
        · exact List.forall_mem_nil _
        · exact List.forall_mem_singleton.2 hp
      · exact ⟨List.forall_mem_nil _, areTexts_tasksIn ht hp isDirectory _⟩
    · exact hnone

/-- **One step of the walk stays among texts.** -/
theorem areTexts_perform (ht : t.HasTextNames) (htask : IsText task.path) :
    (∀ q ∈ (perform t w task).1, IsText q) ∧ AreTexts (perform t w task).2 := by
  cases task with
  | found path isDirectory =>
      refine ⟨?_, List.forall_mem_nil _⟩
      unfold perform
      dsimp only
      split
      · exact List.forall_mem_nil _
      · exact List.forall_mem_singleton.2 htask
  | entry path name isDirectory components =>
      have hpath : IsText path := htask
      have htried := areTexts_tryName (w := w) ht hpath name isDirectory
      have hbelow : ∀ cs, AreTexts (if isDirectory then tasksIn t path true cs else []) := by
        intro cs
        split
        · exact areTexts_tasksIn ht hpath true cs
        · exact List.forall_mem_nil _
      unfold perform
      dsimp only
      split
      · split
        · refine ⟨?_, hbelow _⟩
          split
          · exact List.forall_mem_singleton.2 hpath
          · exact List.forall_mem_nil _
        · exact ⟨(htried _).1, List.forall_mem_append.2 ⟨(htried _).2, hbelow _⟩⟩
      · exact htried _

/-- And so does all of it. -/
private theorem isText_of_mem_visit (ht : t.HasTextNames) {tasks : List Task}
    (htasks : AreTexts tasks)
    (h : p ∈ visit t w d tasks) : IsText p := by
  induction d generalizing tasks with
  | zero => exact absurd h List.not_mem_nil
  | succ d ih =>
      rw [visit] at h
      obtain ⟨task, htask, h⟩ := List.mem_flatMap.1 h
      obtain ⟨hfound, hfurther⟩ := areTexts_perform (w := w) ht (htasks task htask)
      obtain h | h := List.mem_append.1 h
      · exact hfound p h
      · exact ih hfurther h

/-- **In a tree whose names are texts, every pattern is matched by texts alone.** -/
theorem isText_of_mem_paths (ht : t.HasTextNames) {pattern : Pattern} (h : p ∈ paths t pattern) :
    IsText p := by
  refine isText_of_mem_visit ht (areTexts_tasksIn ht ?_ _ _) h
  split
  · exact isText_encode ['/']
  · exact isText_encode ['.']

/-! ## Patterns without a `**` -/

/-- Names that are matched one by one are texts, in any tree. -/
private theorem Meets.isText (h : Meets cs ns) (hcs : .directories ∉ cs) : ∀ n ∈ ns, IsText n.val := by
  induction h with
  | nil => exact List.forall_mem_nil _
  | name hmatches _ ih =>
      obtain ⟨s, hs, -⟩ := hmatches
      exact List.forall_mem_cons.2 ⟨⟨s, hs⟩, ih fun hmem => hcs (List.mem_cons_of_mem _ hmem)⟩
  | skip | enter => exact absurd List.mem_cons_self hcs

/-- **A relative pattern is matched by texts alone**, if it has no `**` or the tree no other names. -/
theorem isText_of_mem_paths_of_read {input : Text} {pattern : Pattern}
    (hread : Pattern.read input = .ok pattern)
    (hpieces : ∀ p ∈ input.splitOnP (· == '/'), p ≠ [] ∧ p.head? ≠ some '.')
    (hnames : ['*', '*'] ∈ input.splitOnP (· == '/') → t.HasTextNames)
    (h : p ∈ paths t pattern) : IsText p := by
  by_cases hstars : ['*', '*'] ∈ input.splitOnP (· == '/')
  · exact isText_of_mem_paths (hnames hstars) h
  · obtain ⟨habsolute, hdirectory, hspelled⟩ := Pattern.spelledOut_of_read hpieces hread
    rw [paths_eq_foundIn habsolute hdirectory] at h
    obtain ⟨n, ms, hmeets, rfl⟩ := exists_goesOn_of_mem_foundIn hspelled.isPlain h
    exact isText_ofNames (hmeets.isText fun hmem => hstars (hspelled.directories_mem_iff.1 hmem))

end ScriptLint.Glob
