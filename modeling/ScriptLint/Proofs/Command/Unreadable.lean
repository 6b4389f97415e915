import ScriptLint.Proofs.Command.ExitCode
import ScriptLint.Proofs.Glob.Expansion
import ScriptLint.Proofs.Run.Failures
import ScriptLint.Proofs.Tree.Lookup

set_option autoImplicit false

/-!
Which file a run that cannot read a source complains about.

The files of a run are its inputs and what their patterns match. Paths of the second kind can
always be read, since they have been looked at on the tree that is read from, and are handed on as
they are where names are texts. So the first file that cannot be read is an input, letter by
letter, and the inputs are the last arguments of the command line: nothing that the walk has put
together ever comes up in an error.
-/

namespace ScriptLint

/-- **A path that is no input leads to a file and can be read.** -/
theorem Glob.readable_of_mem_expand {t : Tree} (ht : t.HasTextNames) {inputs : List Text}
    {path : Text} (h : path ∈ expand t inputs) (hnew : path ∉ inputs) :
    ∃ place contents role, t.find .look path = .ok (place, .file contents role)
      ∧ (Source.read t path).result = .ok ⟨path, Utf8.lossy contents⟩ := by
  have hfile : t.isFile path = true := (mem_or_isFile_of_mem_expand ht h).resolve_left hnew
  obtain ⟨place, contents, role, hfind⟩ := Tree.isFile_eq_true_iff.1 hfile
  exact ⟨place, contents, role, hfind, Source.read_result_of_ok (Tree.read_of_find hfind)⟩

/-- The first file that cannot be read is an input. -/
private theorem Tree.FirstUnreadable.mem_inputs {t : Tree} (ht : t.HasTextNames) {inputs : List Text}
    {path : Text} {cause : Cause} (h : t.FirstUnreadable (Glob.expand t inputs) path cause) :
    path ∈ inputs := by
  obtain ⟨before, after, hsplit, -, hread⟩ := h
  have hmem : path ∈ Glob.expand t inputs := by
    rw [hsplit]
    simp
  by_cases hinput : path ∈ inputs
  · exact hinput
  · obtain ⟨place, contents, role, hfind, -⟩ := Glob.readable_of_mem_expand ht hmem hinput
    rw [Tree.read_of_find hfind] at hread
    exact absurd hread (by simp)

namespace Command

/-- The files are what is left of the arguments. -/
private theorem Reading.files_suffix {r r' : Reading} {args files : List Text}
    (h : r.arguments args = .ok (r', files)) : files <:+ args := by
  fun_induction arguments r args with
  | case1 r =>
      obtain ⟨-, rfl⟩ := Prod.mk.inj (Except.ok.inj h)
      exact List.suffix_rfl
  | case2 r arg rest hoptions ih => exact (ih h).trans (List.suffix_cons arg rest)
  | case3 r rest hoptions =>
      obtain ⟨-, rfl⟩ := Prod.mk.inj (Except.ok.inj h)
      exact List.suffix_cons _ rest
  | case4 r arg rest hhyphens w hword r₁ hread hoptions ih =>
      exact (ih h).trans (List.suffix_cons arg rest)
  | case5 r arg rest hhyphens w hword stop hread hoptions => exact absurd h (by simp)
  | case6 r arg rest hhyphens hword s hoptions hpending ih =>
      exact (ih h).trans (List.suffix_cons arg rest)
  | case7 r arg rest hhyphens hword hoptions hpending =>
      obtain ⟨-, rfl⟩ := Prod.mk.inj (Except.ok.inj h)
      exact List.suffix_rfl

/-- The inputs are the last of the arguments: reading them takes the flags off the front. -/
private theorem Settings.inputs_suffix {env : Environment} {args : List Text} {s : Settings}
    (h : Settings.read env args = .ok s) : s.inputs <:+ args := by
  obtain ⟨r, g, harguments, -, -, -⟩ := Settings.read_eq_ok_iff.1 h
  exact Reading.files_suffix harguments

/-- A run that comes to nothing ends with an error message, and nothing on the report's side. -/
private theorem Settings.execute_of_failure {m : Machine} {s : Settings} {f : Failure}
    (env : Environment) (sink : Sink) (h : (s.attempt m).result = .error f) :
    (s.execute m env sink).exit = 2 ∧ (s.execute m env sink).stdout = []
      ∧ errorLines (failureText f) <:+ (s.execute m env sink).stderr := by
  have hending : s.execute m env sink
      = ⟨failureCode, [], logLines (LogFilter.ofRun env s.given.verbose) (s.attempt m).events
          ++ errorLines (failureText f)⟩ := by
    simp only [execute, h]
  rw [hending]
  exact ⟨rfl, rfl, List.suffix_append _ _⟩

/-- **A run never breaks on a file that nobody has named.** On any tree whose names are texts, a
path in the expansion of some inputs that is none of them leads to a file, through links or not,
and can be read. So a run that fails with a source names one of its file arguments as it was
given, and that is the first file, in the order of the expansion, that cannot be read. -/
theorem source_failure_names_an_argument (m : Machine) (hnames : m.tree.HasTextNames)
    (env : Environment) (sink : Sink) (args : List Text) :
    (∀ inputs path, path ∈ Glob.expand m.tree inputs → path ∉ inputs →
        ∃ place contents role, m.tree.find .look path = .ok (place, .file contents role)
          ∧ (Source.read m.tree path).result = .ok ⟨path, Utf8.lossy contents⟩)
      ∧ ∀ s path cause, Settings.read env args = .ok s →
          (s.attempt m).result = .error (.readSource path cause) →
            path ∈ s.inputs ∧ s.inputs <:+ args
              ∧ m.tree.FirstUnreadable (Glob.expand m.tree s.inputs) path cause
              ∧ (execute m env sink args).exit = 2 ∧ (execute m env sink args).stdout = []
              ∧ errorLines (failureText (.readSource path cause))
                  <:+ (execute m env sink args).stderr := by
  refine ⟨fun inputs path => Glob.readable_of_mem_expand hnames, ?_⟩
  intro s path cause hread hfailure
  have hlint : ((s.request m).lint m none).result = .error (.readSource path cause) := by
    rw [← Settings.attempt_result, hfailure]
  obtain ⟨-, hfirst⟩ := Request.lint_result_eq_readSource_iff.1 hlint
  refine ⟨hfirst.mem_inputs hnames, Settings.inputs_suffix hread, hfirst, ?_⟩
  rw [execute_eq m sink hread]
  exact Settings.execute_of_failure env sink hfailure

/-- A pattern that looks into a directory through a link, and behind it two names of nothing.
The file behind the link is read; the run fails with the first of the other two. -/
theorem source_failure_names_an_argument_of_missing :
    let a : Name := ⟨Utf8.encode ['a'], by decide⟩
    let d : Name := ⟨Utf8.encode ['d'], by decide⟩
    let e : Name := ⟨Utf8.encode ['e'], by decide⟩
    let l : Name := ⟨Utf8.encode ['l'], by decide⟩
    let t : Tree :=
      ⟨[(⟨.above 0, [d]⟩, .directory), (⟨.above 0, [d, a]⟩, .file [0xFF] .data),
        (⟨.above 0, [l]⟩, .link d.val), (⟨.above 0, [e]⟩, .file [] .data)], by decide⟩
    let m : Machine := ⟨t, [], []⟩
    let matched : Text := ['l', '/', 'a']
    let pattern : Text := ['l', '/', '?']
    let inputs : List Text := [pattern, ['z'], ['y']]
    let args : List Text := "--engine".toList :: ['e'] :: inputs
    let s : Settings := ⟨⟨none, some ['e'], none, none, false, false⟩, inputs⟩
    Settings.read [] args = .ok s
      ∧ Glob.expand t inputs = [matched, ['z'], ['y']]
      ∧ (∃ place contents role, t.find .look matched = .ok (place, .file contents role)
          ∧ (Source.read t matched).result = .ok ⟨matched, Utf8.lossy contents⟩)
      ∧ (s.attempt m).result = .error (.readSource ['z'] .notFound)
      ∧ t.FirstUnreadable [matched, ['z'], ['y']] ['z'] .notFound
      ∧ ['z'] ∈ inputs ∧ (execute m [] .willing args).exit = 2 := by
  intro a d e l t m matched pattern inputs args s
  have hread : Settings.read [] args = .ok s := by rfl
  -- behind the link the walk is in the directory, whatever is left of the path
  have hlink : ∀ rest, t.walk .look Tree.linkLimit .working (.into l :: rest)
      = t.walk .look 39 ⟨.above 0, [d]⟩ rest := by
    intro rest
    have hsteps : Path.steps d.val = [.into d] := by decide
    have hrelative : Path.isAbsolute d.val = false := by decide
    rw [Tree.linkLimit, Tree.walk_into_link (by decide) rfl, hsteps, hrelative]
    exact Tree.walk_into_directory (by decide) rfl
  have hdirectory : t.find .look l.val = .ok (⟨.above 0, [d]⟩, .directory) := by
    have hsteps : Path.steps l.val = [.into l] := by decide
    refine Tree.find_of_walk (by decide) (by decide) ?_ rfl
    rw [hsteps, hlink, Tree.walk]
  have hmatched : t.find .look matched = .ok (⟨.above 0, [d, a]⟩, .file [0xFF] .data) := by
    have hsteps : Path.steps matched = [.into l, .into a] := by decide
    refine Tree.find_of_walk (by decide) (by decide) ?_ rfl
    rw [hsteps, hlink]
    exact Tree.walk_into_file (by decide) rfl
  have hnone : t.isFile pattern = false := by
    let question : Name := ⟨Utf8.encode ['?'], by decide⟩
    have hsteps : Path.steps pattern = [.into l, .into question] := by decide
    have hfree : t.find .look pattern = .error .notFound := by
      refine Tree.find_of_walk_free (by decide) (by decide) ⟨⟨.above 0, [d, question]⟩, ?_⟩
      rw [hsteps, hlink]
      exact Tree.walk_into_none (by decide) rfl
    rw [Tree.isFile, hfree]
  have hfile : t.isFile matched = true := Tree.isFile_eq_true_iff.2 ⟨_, _, _, hmatched⟩
  -- `l` is looked up, and `?` is held against the one name that is listed behind it
  let cs : List Glob.Component := [.name [.char 'l'], .name [.anyChar]]
  have hpattern : Glob.Pattern.read pattern = .ok ⟨false, cs, false⟩ := by rfl
  have hpaths : Glob.paths t ⟨false, cs, false⟩ = [Utf8.encode matched] := by
    have hplain : (Glob.Component.name [.anyChar]).IsPlain := by
      refine ⟨rfl, fun s hs => ?_⟩
      have hliteral : (Glob.Component.name [.anyChar]).literal? = none := rfl
      exact absurd (hliteral.symm.trans hs) (by simp)
    have hl : Path.ofNames [l] = l.val := by decide
    have hlist : t.list l.val = [a] := by
      rw [Tree.list, hdirectory]
      simp [Tree.names, t, Location.nameIn?]
    have hquestion : (Glob.Component.name [.anyChar]).matchesEntry a = true := by decide
    rw [Glob.paths_eq_foundIn rfl rfl, Glob.foundIn_of_literal (n := l) rfl rfl, List.nil_append, hl,
      Tree.isTaken_of_find hdirectory, if_pos rfl, Glob.foundBehind, Glob.foundIn_of_listed hplain rfl,
      hl, hlist, List.flatMap_singleton, Glob.foundAt_name, hquestion, if_pos rfl]
    decide
  have hwild : Glob.hasWildcard pattern = true ∧ Glob.hasWildcard ['z'] = false
      ∧ Glob.hasWildcard ['y'] = false := by decide
  have hexpand : Glob.expand t inputs = [matched, ['z'], ['y']] := by
    simp [Glob.expand, Glob.expandInput, inputs, hwild, hnone, hpattern, hpaths, hfile,
      Utf8.lossy_encode]
  have hmissing : t.read (Utf8.encode ['z']) = .error .notFound :=
    Tree.read_of_isEntryName_of_none (by decide) rfl
  have hengine : t.read (Utf8.encode ['e']) = .ok [] := Tree.read_of_isEntryName (by decide) rfl
  have hfailure : (s.attempt m).result = .error (.readSource ['z'] .notFound) := by
    rw [Settings.attempt_result, Request.lint_result_eq_readSource_iff]
    refine ⟨⟨⟨['e'], []⟩, Engine.load_result_eq_ok_iff.2 ⟨[], [], hengine, rfl, rfl⟩⟩, ?_⟩
    refine ⟨[matched], [['y']], hexpand, ?_, hmissing⟩
    intro earlier hearlier
    rw [List.mem_singleton] at hearlier
    exact ⟨[0xFF], hearlier ▸ Tree.read_of_find hmatched⟩
  obtain ⟨hreadable, hnamed⟩ :=
    source_failure_names_an_argument m (by decide) [] .willing args
  obtain ⟨hinput, -, hfirst, hexit, -, -⟩ := hnamed s ['z'] .notFound hread hfailure
  have hfound := hreadable inputs matched (by rw [hexpand]; simp) (by decide)
  exact ⟨hread, hexpand, hfound, hfailure, hexpand ▸ hfirst, hinput, hexit⟩

end Command

end ScriptLint
