import ScriptLint.Proofs.Run.Failures
import ScriptLint.Proofs.Tree.Lookup

set_option autoImplicit false

/-!
Which stage decides a run when several things are wrong.

A run has four stages: its engine, its sources one after the other, the start of its
interpreter, and the conversation. `Request.Ends` says where a run ends by rules, one for
each stage, and in each rule everything before that stage went well. The rules exclude one
another, and one of them always applies, so a run ends where they say.

A stage that fails also hides what comes behind it. For the result alone that would
follow from the rules; here it is shown of the run as a whole, its events included, since
what must not happen behind an unreadable source is that an interpreter is started.
-/

namespace ScriptLint

/-! ## Attempts that fail -/

namespace Attempt

variable {α β : Type}

/-- Behind a step that fails nothing happens: neither a result nor an event comes from what would
have followed. -/
theorem bind_of_error {a : Attempt α} {failure : Failure} (h : a.result = .error failure)
    (next : α → Attempt β) : a >>= next = ⟨a.events, .error failure⟩ := by
  change andThen a next = _
  rw [andThen, h]

/-- The first attempt that fails hides the attempts behind it. -/
private theorem each_append_of_error {f : α → Attempt β} {before : List α} {a : α} {failure : Failure}
    (hbefore : ∀ b ∈ before, ∃ x, (f b).result = .ok x) (ha : (f a).result = .error failure)
    (after : List α) : each f (before ++ a :: after) = each f (before ++ [a]) := by
  induction before with
  | nil => simp only [List.nil_append, each, bind_of_error ha]
  | cons b before ih =>
      obtain ⟨-, hrest⟩ := List.forall_mem_cons.1 hbefore
      simp only [List.cons_append, each, ih hrest]

/-- Steps that agree on each item of a list agree on the list. -/
private theorem each_congr {f g : α → Attempt β} {as : List α} (h : ∀ a ∈ as, f a = g a) :
    each f as = each g as := by
  induction as with
  | nil => rfl
  | cons a as ih =>
      obtain ⟨ha, hrest⟩ := List.forall_mem_cons.1 h
      simp only [each, ha, ih hrest]

/-- An event of two steps is an event of one of them. -/
theorem mem_bind_events {a : Attempt α} {next : α → Attempt β} {e : Event}
    (h : e ∈ (a >>= next).events) : e ∈ a.events ∨ ∃ x, e ∈ (next x).events := by
  change e ∈ (andThen a next).events at h
  unfold andThen at h
  split at h
  · exact .inl h
  · next x _ =>
      rcases List.mem_append.1 h with h | h
      · exact .inl h
      · exact .inr ⟨x, h⟩

/-- An event of a list of steps is an event of one of them. -/
private theorem mem_each_events {f : α → Attempt β} {as : List α} {e : Event}
    (h : e ∈ (each f as).events) : ∃ a ∈ as, e ∈ (f a).events := by
  induction as with
  | nil => exact absurd h List.not_mem_nil
  | cons a as ih =>
      obtain ha | ⟨x, h⟩ := mem_bind_events h
      · exact ⟨a, List.mem_cons_self, ha⟩
      · obtain h | ⟨xs, h⟩ := mem_bind_events h
        · obtain ⟨b, hb, he⟩ := ih h
          exact ⟨b, List.mem_cons_of_mem a hb, he⟩
        · exact absurd h List.not_mem_nil

end Attempt

/-! ## The engine -/

/-- Why there is no engine at a path: there is no file to be read, or one that is no text. -/
inductive Tree.NoEngine (t : Tree) (path : Text) : Cause → Prop where
  | unreadable {cause : Cause} (h : t.read path = .error cause) : NoEngine t path cause
  | noText {bytes : Bytes} (h : t.read path = .ok bytes) (hstrict : Utf8.strict? bytes = none) :
      NoEngine t path .notUtf8

/-- The engine that serves a run: the one that is kept, or else the text at the path. -/
inductive Engine.Serves (t : Tree) (path : Text) : Option Engine → Engine → Prop where
  | kept {engine : Engine} : Serves t path (some engine) engine
  | found {bytes : Bytes} {source : Text} (h : t.read path = .ok bytes)
      (hstrict : Utf8.strict? bytes = some source) : Serves t path none ⟨path, source⟩

section Engines

variable {t t' : Tree} {path : Text} {kept : Option Engine}

/-- A file that holds no engine stops the load with its cause. -/
private theorem Engine.load_of_noEngine {cause : Cause} (h : t.NoEngine path cause) :
    Engine.load t path = .fail (.readEngine path cause) := by
  cases h with
  | unreadable h => rw [load, h]
  | noText h hstrict => simp only [load, h, hstrict]

/-- The shared engine is the kept one, or the one in the file when none is kept. -/
theorem Engine.shared_result_eq_ok_iff {engine : Engine} :
    (Engine.shared kept t path).result = .ok engine ↔ Engine.Serves t path kept engine := by
  cases kept with
  | some k =>
      constructor
      · intro h
        obtain rfl := Except.ok.inj h
        exact .kept
      · intro h
        cases h with
        | kept => rfl
  | none =>
      rw [shared, load_result_eq_ok_iff]
      constructor
      · rintro ⟨bytes, source, h, hstrict, rfl⟩
        exact .found h hstrict
      · intro h
        cases h with
        | found h hstrict => exact ⟨_, _, h, hstrict, rfl⟩

/-- Either there is an engine, or there is a reason why not. -/
private theorem Engine.serves_or_noEngine (kept : Option Engine) (t : Tree) (path : Text) :
    (∃ engine, Engine.Serves t path kept engine) ∨ kept = none ∧ ∃ cause, t.NoEngine path cause := by
  cases kept with
  | some engine => exact .inl ⟨engine, .kept⟩
  | none =>
      cases hread : t.read path with
      | error cause => exact .inr ⟨rfl, cause, .unreadable hread⟩
      | ok bytes =>
          cases hstrict : Utf8.strict? bytes with
          | none => exact .inr ⟨rfl, .notUtf8, .noText hread hstrict⟩
          | some source => exact .inl ⟨⟨path, source⟩, .found hread hstrict⟩

/-- What is asked of a tree for an engine is what stands at its path. -/
private theorem Engine.shared_congr (h : t'.read path = t.read path) :
    Engine.shared kept t' path = Engine.shared kept t path := by
  cases kept with
  | some engine => rfl
  | none => simp only [shared, load, h]

/-- A source depends on its own file only. -/
theorem Source.read_congr (h : t'.read path = t.read path) :
    Source.read t' path = Source.read t path := by
  simp only [read, h]

end Engines

namespace Request

variable {m m' : Machine} {kept : Option Engine} {r r' : Request}

/-! ## Where a run ends -/

/-- How a run ends, by rules. The first three are the stages that fail by themselves. In the last one
everything is there, and the conversation decides; it may still break, which is not up to what is
printed or to how the interpreter ends. -/
inductive Ends (m : Machine) (kept : Option Engine) (r : Request) : Except Failure Outcome → Prop where
  | engine {cause : Cause} (hkept : kept = none) (missing : m.tree.NoEngine r.enginePath cause) :
      Ends m kept r (.error (.readEngine r.enginePath cause))
  | source {engine : Engine} {path : Text} {cause : Cause}
      (served : Engine.Serves m.tree r.enginePath kept engine)
      (first : m.tree.FirstUnreadable r.files path cause) :
      Ends m kept r (.error (.readSource path cause))
  | start {engine : Engine} {contents : List Bytes} {cause : Cause}
      (served : Engine.Serves m.tree r.enginePath kept engine)
      (readable : (r.files.map fun path : Text => m.tree.read path) = contents.map .ok)
      (refused : m.start r.interpreter = .error cause) :
      Ends m kept r (.error (.spawn r.interpreter.program cause))
  | conversation {engine : Engine} {contents : List Bytes} {exe : Executable}
      (served : Engine.Serves m.tree r.enginePath kept engine)
      (readable : (r.files.map fun path : Text => m.tree.read path) = contents.map .ok)
      (started : m.start r.interpreter = .ok exe) :
      Ends m kept r ((exe.respond r.interpreter.args (Utf8.encode
        (Script.assemble engine r.options (sourcesOf r.files contents)))).mapError
          (.exchange r.interpreter.program))

/-- With an engine a run is that of its sources and its interpreter. -/
theorem lint_result_of_serves {engine : Engine}
    (served : Engine.Serves m.tree r.enginePath kept engine) :
    (r.lint m kept).result = (r.lintWith m engine).result := by
  rw [lint, Attempt.bind_result, Engine.shared_result_eq_ok_iff.2 served]
  rfl

/-- Without an engine a run is over at once. -/
theorem lint_of_noEngine {cause : Cause} (missing : m.tree.NoEngine r.enginePath cause) :
    r.lint m none = .fail (.readEngine r.enginePath cause) := by
  rw [lint, Engine.shared, Engine.load_of_noEngine missing]
  rfl

/-- A run ends as the rules say. -/
theorem Ends.result_eq {result : Except Failure Outcome} (h : r.Ends m kept result) :
    (r.lint m kept).result = result := by
  cases h with
  | engine hkept missing =>
      subst hkept
      rw [lint_of_noEngine missing]
      rfl
  | source served first =>
      exact lint_result_eq_readSource_iff.2 ⟨⟨_, Engine.shared_result_eq_ok_iff.2 served⟩, first⟩
  | start served readable refused =>
      rw [lint_result_of_serves served, lintWith_result, each_read_result readable]
      simp only [Except.bind, Machine.converse_result, refused, mapError_error]
  | conversation served readable started =>
      rw [lint_result_of_serves served, lintWith_result, each_read_result readable]
      simp only [Except.bind, Machine.converse_result, started, mapError_ok]

/-- Of the rules one always applies. -/
private theorem exists_ends (m : Machine) (kept : Option Engine) (r : Request) :
    ∃ result, r.Ends m kept result := by
  obtain ⟨engine, served⟩ | ⟨hkept, cause, missing⟩ :=
    Engine.serves_or_noEngine kept m.tree r.enginePath
  · cases hsources : (Attempt.each (Source.read m.tree) r.files).result with
    | error failure =>
        obtain ⟨path, cause, first, -⟩ := Source.each_read_eq_error_iff.1 hsources
        exact ⟨_, .source served first⟩
    | ok sources =>
        obtain ⟨contents, readable, -⟩ := readable_of_each_read hsources
        cases hstart : m.start r.interpreter with
        | error cause => exact ⟨_, .start served readable hstart⟩
        | ok exe => exact ⟨_, .conversation served readable hstart⟩
  · exact ⟨_, .engine hkept missing⟩

/-- **A run ends as the rules say, and in no other way.** -/
theorem lint_result_eq_iff_ends {result : Except Failure Outcome} :
    (r.lint m kept).result = result ↔ r.Ends m kept result := by
  constructor
  · rintro rfl
    obtain ⟨result, hends⟩ := exists_ends m kept r
    rw [hends.result_eq]
    exact hends
  · exact Ends.result_eq

/-! ## What comes behind a failure -/

/-- Runs that are alike up to a file: the same engine path, the same files up to that one, and
at each of these paths the same thing to be read. What comes behind that file in either of them,
and everything else about them, is left open. -/
structure AlikeUpTo (m m' : Machine) (r r' : Request) (before : List Text) (path : Text) : Prop where
  enginePath : r'.enginePath = r.enginePath
  files : ∃ after, r.files = before ++ path :: after
  files' : ∃ after, r'.files = before ++ path :: after
  reads : ∀ p ∈ r.enginePath :: path :: before, m'.tree.read p = m.tree.read p

/-- The sources of a run that breaks with one of them, up to that one. -/
theorem each_read_of_error {t : Tree} {before after : List Text} {path : Text} {cause : Cause}
    (hbefore : ∀ earlier ∈ before, ∃ contents, t.read earlier = .ok contents)
    (hpath : t.read path = .error cause) :
    Attempt.each (Source.read t) (before ++ path :: after)
      = Attempt.each (Source.read t) (before ++ [path]) :=
  Attempt.each_append_of_error
    (fun b hb => Source.exists_read_result_ok_iff.2 (hbefore b hb))
    (Source.read_result_eq_error_iff.2 ⟨cause, hpath, rfl⟩) after

/-- A run that breaks with its sources is its engine and its sources. -/
theorem lint_of_sources_error {failure : Failure}
    (h : (Attempt.each (Source.read m.tree) r.files).result = .error failure) :
    r.lint m kept = Engine.shared kept m.tree r.enginePath >>= fun _ =>
      ⟨(Attempt.each (Source.read m.tree) r.files).events, .error failure⟩ := by
  -- what the engine is does not matter, since the sources are read before it is made use of
  rw [lint]
  refine congrArg _ (funext fun engine => ?_)
  rw [lintWith, Attempt.bind_of_error h]

/-- **What comes behind an unreadable source is never looked at.** -/
theorem lint_eq_of_alikeUpTo {before : List Text} {path : Text} {cause : Cause}
    (halike : AlikeUpTo m m' r r' before path)
    (hbefore : ∀ earlier ∈ before, ∃ contents, m.tree.read earlier = .ok contents)
    (hpath : m.tree.read path = .error cause) : r'.lint m' kept = r.lint m kept := by
  obtain ⟨henginePath, ⟨after, hfiles⟩, ⟨after', hfiles'⟩, hreads⟩ := halike
  obtain ⟨hengine, hreads⟩ := List.forall_mem_cons.1 hreads
  obtain ⟨hsame, hearlier⟩ := List.forall_mem_cons.1 hreads
  have hreads' : ∀ p ∈ before ++ [path], Source.read m'.tree p = Source.read m.tree p := by
    intro p hp
    rcases List.mem_append.1 hp with hp | hp
    · exact Source.read_congr (hearlier p hp)
    · rw [List.mem_singleton.1 hp]
      exact Source.read_congr hsame
  have hsources : Attempt.each (Source.read m.tree) r.files
      = Attempt.each (Source.read m.tree) (before ++ [path]) := by
    rw [hfiles, each_read_of_error hbefore hpath]
  -- the other machine reads the same up to that file, so it breaks there as well
  have hsources' : Attempt.each (Source.read m'.tree) r'.files
      = Attempt.each (Source.read m.tree) (before ++ [path]) := by
    have hbefore' : ∀ earlier ∈ before, ∃ contents, m'.tree.read earlier = .ok contents := by
      intro earlier h
      rw [hearlier earlier h]
      exact hbefore earlier h
    rw [hfiles', each_read_of_error hbefore' (hsame.trans hpath), Attempt.each_congr hreads']
  have herror : (Attempt.each (Source.read m.tree) (before ++ [path])).result
      = .error (.readSource path cause) :=
    Source.each_read_eq_error_iff.2 ⟨path, cause, ⟨before, [], rfl, hbefore, hpath⟩, rfl⟩
  rw [lint_of_sources_error ((congrArg _ hsources).trans herror),
    lint_of_sources_error ((congrArg _ hsources').trans herror), hsources, hsources', henginePath,
    Engine.shared_congr hengine]

/-! ## What is started -/

/-- Loading the engine starts no program. -/
private theorem spawning_not_mem_shared {t : Tree} {path program : Text} {args : List Text} :
    .spawning program args ∉ (Engine.shared kept t path).events := by
  cases kept with
  | some engine => exact List.not_mem_nil
  | none =>
      rw [Engine.shared, Engine.load]
      cases t.read path with
      | error cause => exact List.not_mem_nil
      | ok bytes => cases hstrict : Utf8.strict? bytes <;> simp [hstrict, Attempt.fail]

/-- Reading a source starts no program. -/
private theorem spawning_not_mem_read {t : Tree} {path program : Text} {args : List Text} :
    .spawning program args ∉ (Source.read t path).events := by
  rw [Source.read]
  cases t.read path with
  | error cause => exact List.not_mem_nil
  | ok bytes => cases hstrict : Utf8.strict? bytes <;> simp [hstrict]

/-- A run that breaks with its sources starts no interpreter. -/
private theorem spawning_not_mem_of_sources_error {failure : Failure} {program : Text}
    {args : List Text}
    (h : (Attempt.each (Source.read m.tree) r.files).result = .error failure) :
    .spawning program args ∉ (r.lint m kept).events := by
  rw [lint_of_sources_error h]
  intro hmem
  obtain hmem | ⟨-, hmem⟩ := Attempt.mem_bind_events hmem
  · exact spawning_not_mem_shared hmem
  · obtain ⟨path, -, hmem⟩ := Attempt.mem_each_events hmem
    exact spawning_not_mem_read hmem

/-- **A run ends with the first stage that fails, and what comes behind that takes no part.**

* A run ends as the rules of `Ends` say, and in no other way.
* If no engine is kept and there is none at its path, the run is over, whatever its files and its
  interpreter are.
* If there is a file that cannot be read, then behind the first such file nothing matters: the run
  is the same, with everything that it leaves in the log, for any other files in the place of the
  later ones, any contents of theirs, any options and any interpreter. None is started.
* If there is an engine and every file can be read, and the interpreter can be started, then the
  outcome is what the interpreter answers, whatever that is, however it ends, and also if it hangs
  up. -/
theorem lint_ends_with_first_failing_stage (m : Machine) (kept : Option Engine) (r : Request) :
    (∀ result, (r.lint m kept).result = result ↔ r.Ends m kept result)
      ∧ (∀ cause, kept = none → m.tree.NoEngine r.enginePath cause →
          r.lint m kept = .fail (.readEngine r.enginePath cause))
      ∧ (∀ (before : List Text) (path : Text) (after : List Text) cause,
          r.files = before ++ path :: after →
          (∀ earlier ∈ before, ∃ contents, m.tree.read earlier = .ok contents) →
          m.tree.read path = .error cause →
          (∀ program args, .spawning program args ∉ (r.lint m kept).events)
            ∧ ∀ m' r', AlikeUpTo m m' r r' before path → r'.lint m' kept = r.lint m kept)
      ∧ ∀ (engine : Engine) (contents : List Bytes) (listens : Bool)
          (answer : List Text → Bytes → Outcome),
          Engine.Serves m.tree r.enginePath kept engine →
          (r.files.map fun path : Text => m.tree.read path) = contents.map .ok →
          m.start r.interpreter = .ok ⟨listens, fun args script => .ok (answer args script)⟩ →
          (r.lint m kept).result = .ok (answer r.interpreter.args (Utf8.encode
            (Script.assemble engine r.options (sourcesOf r.files contents)))) := by
  refine ⟨fun result => lint_result_eq_iff_ends, ?_, ?_, ?_⟩
  · rintro cause rfl missing
    exact lint_of_noEngine missing
  · intro before path after cause hfiles hbefore hpath
    have herror : (Attempt.each (Source.read m.tree) r.files).result
        = .error (.readSource path cause) :=
      Source.each_read_eq_error_iff.2 ⟨path, cause, ⟨before, after, hfiles, hbefore, hpath⟩, rfl⟩
    exact ⟨fun program args => spawning_not_mem_of_sources_error herror,
      fun m' r' halike => lint_eq_of_alikeUpTo halike hbefore hpath⟩
  · intro engine contents listens answer served readable started
    exact (Ends.conversation served readable started).result_eq

/-- An engine that is there, a file that can be read, two that cannot, and an interpreter that is not
known. The run breaks with the first of the two files, and it is the same run on a machine that has
the interpreter, for another list of files behind that one. With the first file alone and an
interpreter that hangs up and is killed, there is an outcome. -/
theorem lint_ends_with_first_failing_stage_of_faults :
    let a : Name := ⟨Utf8.encode ['a'], by decide⟩
    let e : Name := ⟨Utf8.encode ['e'], by decide⟩
    let t : Tree :=
      ⟨[(⟨.above 0, [e]⟩, .file [] .data), (⟨.above 0, [a]⟩, .file [0xFF] .data)], by decide⟩
    let killed : WaitStatus := ⟨9⟩
    let exe : Executable := ⟨false, fun _ _ => .ok ⟨[], killed⟩⟩
    let m : Machine := ⟨t, [], []⟩
    let m' : Machine := ⟨t, [(['j', 's'], exe)], []⟩
    let r : Request := ⟨[['a'], ['x'], ['y']], .unspecified, ['e'], ⟨['j', 's'], []⟩⟩
    let r' : Request := ⟨[['a'], ['x'], ['a']], .unspecified, ['e'], ⟨['j', 's'], []⟩⟩
    let r₁ : Request := ⟨[['a']], .unspecified, ['e'], ⟨['j', 's'], []⟩⟩
    (r.lint m none).result = .error (.readSource ['x'] .notFound)
      ∧ r'.lint m' none = r.lint m none
      ∧ (∀ program args, .spawning program args ∉ (r.lint m none).events)
      ∧ r₁.lint ⟨.empty, [], []⟩ none = .fail (.readEngine ['e'] .notFound)
      ∧ (r₁.lint m' none).result = .ok ⟨[], killed⟩ := by
  intro a e t killed exe m m' r r' r₁
  have hengine : t.read (Utf8.encode ['e']) = .ok [] := Tree.read_of_isEntryName (by decide) rfl
  have hfound : t.read (Utf8.encode ['a']) = .ok [0xFF] := Tree.read_of_isEntryName (by decide) rfl
  have hmissing : t.read (Utf8.encode ['x']) = .error .notFound :=
    Tree.read_of_isEntryName_of_none (by decide) rfl
  have hnothing : Tree.empty.read (Utf8.encode ['e']) = .error .notFound :=
    Tree.read_of_isEntryName_of_none (by decide) rfl
  have served : Engine.Serves t ['e'] none ⟨['e'], []⟩ := .found hengine (by decide)
  have hbefore : ∀ earlier : Text, earlier ∈ [['a']] → ∃ contents, t.read earlier = .ok contents := by
    intro earlier h
    rw [List.mem_singleton.1 h]
    exact ⟨[0xFF], hfound⟩
  have halike : AlikeUpTo m m' r r' [['a']] ['x'] := ⟨rfl, ⟨_, rfl⟩, ⟨_, rfl⟩, fun _ _ => rfl⟩
  obtain ⟨hends, -, hbreak, -⟩ := lint_ends_with_first_failing_stage m none r
  obtain ⟨hquiet, hsame⟩ := hbreak [['a']] ['x'] [['y']] .notFound rfl hbefore hmissing
  obtain ⟨-, hover, -, -⟩ := lint_ends_with_first_failing_stage ⟨.empty, [], []⟩ none r₁
  obtain ⟨-, -, -, hanswer⟩ := lint_ends_with_first_failing_stage m' none r₁
  have hreadable : (r₁.files.map fun path : Text => t.read path) = [[0xFF]].map .ok := by
    simp only [r₁, List.map_cons, List.map_nil, hfound]
  refine ⟨(hends _).2 (.source served ⟨_, _, rfl, hbefore, hmissing⟩), hsame m' r' halike, hquiet, ?_, ?_⟩
  · exact hover .notFound rfl (.unreadable hnothing)
  · exact hanswer _ [[0xFF]] false (fun _ _ => ⟨[], killed⟩) served hreadable rfl

end Request

end ScriptLint
