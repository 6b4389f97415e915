import ScriptLint.Proofs.Run.Handover

set_option autoImplicit false

/-!
What becomes of a run, stage by stage.

A run that begins without an engine can stop at four places: its engine, its sources, the
start of its interpreter, and the conversation. `Request.Blocked` says that one of them
stops it, and `Request.Captures` what a run comes to that none of them stops. Both are
told from the machine alone: from the contents of its tree, from what can be started on
it, and from how that answers. Of any run exactly one of the two holds, and the result of
the run tells which.
-/

namespace ScriptLint

/-! ## Reading and talking -/

/-- Either every path can be read, or one of them cannot. -/
theorem readable_or_missing (t : Tree) (paths : List Text) :
    (∃ contents : List Bytes, (paths.map fun path : Text => t.read path) = contents.map .ok)
      ∨ ∃ path ∈ paths, ∃ cause, t.read path = .error cause := by
  induction paths with
  | nil => exact .inl ⟨[], rfl⟩
  | cons path paths ih =>
      cases hread : t.read path with
      | error cause => exact .inr ⟨path, List.mem_cons_self, cause, hread⟩
      | ok bytes =>
          obtain ⟨contents, hcontents⟩ | ⟨other, hother, hmissing⟩ := ih
          · exact .inl ⟨bytes :: contents, by rw [List.map_cons, List.map_cons, hread, hcontents]⟩
          · exact .inr ⟨other, List.mem_cons_of_mem path hother, hmissing⟩

/-- Attempts that succeed together succeed each. -/
private theorem Attempt.exists_of_each_ok {α β : Type} {f : α → Attempt β} {as : List α} {bs : List β}
    (h : (Attempt.each f as).result = .ok bs) : ∀ a ∈ as, ∃ b, (f a).result = .ok b := by
  induction as generalizing bs with
  | nil => simp
  | cons a as ih =>
      rw [each, bind_result, bind_eq_ok_iff] at h
      obtain ⟨b, hb, h⟩ := h
      rw [bind_result, bind_eq_ok_iff] at h
      obtain ⟨rest, hrest, -⟩ := h
      intro a' ha'
      obtain rfl | ha' := List.mem_cons.1 ha'
      · exact ⟨b, hb⟩
      · exact ih hrest a' ha'

/-- Sources that have been read come from files that can be read, and are made of their bytes. -/
theorem readable_of_each_read {t : Tree} {paths : List Text} {sources : List Source}
    (h : (Attempt.each (Source.read t) paths).result = .ok sources) :
    ∃ contents : List Bytes,
      (paths.map fun path : Text => t.read path) = contents.map .ok
        ∧ sources = sourcesOf paths contents := by
  obtain ⟨contents, hcontents⟩ | ⟨path, hpath, cause, hcause⟩ := readable_or_missing t paths
  · exact ⟨contents, hcontents, Except.ok.inj (h.symm.trans (each_read_result hcontents))⟩
  · obtain ⟨source, hsource⟩ := Attempt.exists_of_each_ok h path hpath
    simp [Source.read, hcause, Attempt.fail] at hsource

/-- An engine loads exactly when its file can be read and is valid UTF-8. -/
theorem Engine.load_result_eq_ok_iff {t : Tree} {path : Text} {engine : Engine} :
    (Engine.load t path).result = .ok engine ↔
      ∃ bytes source, t.read path = .ok bytes ∧ Utf8.strict? bytes = some source
        ∧ engine = ⟨path, source⟩ := by
  rw [load]
  cases hread : t.read path with
  | error cause => simp [Attempt.fail]
  | ok bytes =>
      cases hstrict : Utf8.strict? bytes with
      | none => simp [hstrict, Attempt.fail]
      | some source => simp [hstrict, eq_comm]

/-- Wrapping the cause of a failure changes nothing else. -/
private theorem Attempt.ofExcept_result {α : Type} (wrap : Cause → Failure) (x : Except Cause α) :
    (Attempt.ofExcept wrap x).result = x.mapError wrap := by
  cases x <;> rfl

/-- A conversation is a program that is started and answers. -/
theorem Machine.converse_result (m : Machine) (i : Interpreter) (script : Bytes) :
    (m.converse i script).result
      = ((m.start i).mapError (.spawn i.program)).bind fun exe =>
          (exe.respond i.args script).mapError (.exchange i.program) := by
  simp only [converse, Attempt.bind_result, Attempt.note_result, Attempt.ofExcept_result,
    Attempt.pure_result]
  -- events aside, an outcome is passed on as it is, and so is a failure
  cases m.start i with
  | error cause => rfl
  | ok exe =>
      simp only [Except.bind, mapError_ok]
      cases exe.respond i.args script <;> rfl

/-- The interpreter answers when it starts and the exchange with it succeeds. -/
theorem Machine.converse_result_eq_ok_iff {m : Machine} {i : Interpreter} {script : Bytes}
    {o : Outcome} :
    (m.converse i script).result = .ok o ↔
      ∃ exe, m.start i = .ok exe ∧ exe.respond i.args script = .ok o := by
  simp only [converse_result, bind_eq_ok_iff, mapError_eq_ok_iff]

namespace Request

/-! ## Where a run ends -/

/-- What is sent to the interpreter, with an engine and sources that can be read. -/
def Sends (m : Machine) (r : Request) (script : Bytes) : Prop :=
  ∃ (bytes : Bytes) (source : Text) (contents : List Bytes),
    m.tree.read r.enginePath = .ok bytes ∧ Utf8.strict? bytes = some source
      ∧ (r.files.map fun path : Text => m.tree.read path) = contents.map .ok
      ∧ script = Utf8.encode
          (Script.assemble ⟨r.enginePath, source⟩ r.options (sourcesOf r.files contents))

/-- Something stops a run on a machine: its engine or one of its sources cannot be read,
or its interpreter cannot be started or talked to. -/
inductive Blocked (m : Machine) (r : Request) : Prop where
  | engine {cause : Cause} (missing : m.tree.read r.enginePath = .error cause)
  | engineText {bytes : Bytes} (found : m.tree.read r.enginePath = .ok bytes)
      (broken : Utf8.strict? bytes = none)
  | source {path : Text} {cause : Cause} (listed : path ∈ r.files)
      (missing : m.tree.read path = .error cause)
  | start {cause : Cause} (refused : m.start r.interpreter = .error cause)
  | talk {script : Bytes} {exe : Executable} {cause : Cause} (sent : r.Sends m script)
      (started : m.start r.interpreter = .ok exe)
      (broken : exe.respond r.interpreter.args script = .error cause)

/-- What comes back from the interpreter of a run. -/
def Captures (m : Machine) (r : Request) (o : Outcome) : Prop :=
  ∃ (script : Bytes) (exe : Executable), r.Sends m script
    ∧ m.start r.interpreter = .ok exe ∧ exe.respond r.interpreter.args script = .ok o

variable {m : Machine} {r : Request}

/-- A request sends at most one script: the files decide it. -/
theorem Sends.unique {script script' : Bytes} (h : r.Sends m script) (h' : r.Sends m script') :
    script = script' := by
  obtain ⟨bytes, source, contents, hread, hstrict, hcontents, rfl⟩ := h
  obtain ⟨bytes', source', contents', hread', hstrict', hcontents', rfl⟩ := h'
  have hbytes : bytes = bytes' := Except.ok.inj (hread.symm.trans hread')
  subst hbytes
  have hsource : source = source' := Option.some.inj (hstrict.symm.trans hstrict')
  have hsources : contents = contents' :=
    (List.map_inj_right fun _ _ => Except.ok.inj).1 (hcontents.symm.trans hcontents')
  rw [hsource, hsources]

/-- **A run comes to what its interpreter answers**, and to nothing else. -/
theorem lint_result_eq_ok_iff {o : Outcome} : (r.lint m none).result = .ok o ↔ r.Captures m o := by
  rw [lint, Attempt.bind_result, bind_eq_ok_iff]
  constructor
  · rintro ⟨engine, hload, h⟩
    obtain ⟨bytes, source, hread, hstrict, rfl⟩ := Engine.load_result_eq_ok_iff.1 hload
    rw [lintWith_result, bind_eq_ok_iff] at h
    obtain ⟨sources, hsources, h⟩ := h
    obtain ⟨contents, hcontents, rfl⟩ := readable_of_each_read hsources
    obtain ⟨exe, hstart, hrespond⟩ := Machine.converse_result_eq_ok_iff.1 h
    exact ⟨_, exe, ⟨bytes, source, contents, hread, hstrict, hcontents, rfl⟩, hstart, hrespond⟩
  · rintro ⟨_, exe, ⟨bytes, source, contents, hread, hstrict, hcontents, rfl⟩, hstart, hrespond⟩
    refine ⟨⟨r.enginePath, source⟩,
      Engine.load_result_eq_ok_iff.2 ⟨bytes, source, hread, hstrict, rfl⟩, ?_⟩
    rw [lintWith_result, each_read_result hcontents]
    exact Machine.converse_result_eq_ok_iff.2 ⟨exe, hstart, hrespond⟩

/-- A request captures at most one outcome. -/
theorem Captures.unique {o o' : Outcome} (h : r.Captures m o) (h' : r.Captures m o') : o = o' :=
  Except.ok.inj ((lint_result_eq_ok_iff.2 h).symm.trans (lint_result_eq_ok_iff.2 h'))

/-- A run that something stops captures nothing. -/
theorem Captures.not_blocked {o : Outcome} (h : r.Captures m o) : ¬ r.Blocked m := by
  obtain ⟨script, exe, hsends, hstart, hrespond⟩ := h
  have ⟨bytes, source, contents, hread, hstrict, hcontents, _⟩ := hsends
  intro hblocked
  cases hblocked with
  | engine missing => simp [hread] at missing
  | engineText found broken =>
      obtain rfl := Except.ok.inj (hread.symm.trans found)
      simp [hstrict] at broken
  | source listed missing =>
      have hmem : Except.error _ ∈ (r.files.map fun path : Text => m.tree.read path) :=
        List.mem_map.2 ⟨_, listed, missing⟩
      simp [hcontents] at hmem
  | start refused => simp [hstart] at refused
  | talk sent started broken =>
      obtain rfl := hsends.unique sent
      obtain rfl := Except.ok.inj (hstart.symm.trans started)
      simp [hrespond] at broken

/-- A run that nothing stops captures something. -/
theorem blocked_or_captures (m : Machine) (r : Request) :
    r.Blocked m ∨ ∃ o, r.Captures m o := by
  cases hread : m.tree.read r.enginePath with
  | error cause => exact .inl (.engine hread)
  | ok bytes =>
  cases hstrict : Utf8.strict? bytes with
  | none => exact .inl (.engineText hread hstrict)
  | some source =>
  obtain ⟨contents, hcontents⟩ | ⟨path, hpath, cause, hcause⟩ := readable_or_missing m.tree r.files
  · have hsends : r.Sends m _ := ⟨bytes, source, contents, hread, hstrict, hcontents, rfl⟩
    cases hstart : m.start r.interpreter with
    | error cause => exact .inl (.start hstart)
    | ok exe =>
        cases hrespond : exe.respond r.interpreter.args _ with
        | error cause => exact .inl (.talk hsends hstart hrespond)
        | ok o => exact .inr ⟨o, _, exe, hsends, hstart, hrespond⟩
  · exact .inl (.source hpath hcause)

/-- **A run fails if, and only if, something stops it.** -/
theorem lint_result_eq_error_iff : (∃ f, (r.lint m none).result = .error f) ↔ r.Blocked m := by
  constructor
  · rintro ⟨f, hf⟩
    obtain hblocked | ⟨o, ho⟩ := blocked_or_captures m r
    · exact hblocked
    · exact absurd (hf.symm.trans (lint_result_eq_ok_iff.2 ho)) (by simp)
  · intro hblocked
    cases hresult : (r.lint m none).result with
    | error f => exact ⟨f, rfl⟩
    | ok o => exact absurd hblocked (lint_result_eq_ok_iff.1 hresult).not_blocked

end Request

end ScriptLint
