import ScriptLint.Proofs.Run.Attempt
import ScriptLint.Proofs.Tree.Lookup
import ScriptLint.Run.Session

set_option autoImplicit false

/-!
Which engine a session works with.

Two facts about a single call carry everything. A session that keeps an engine keeps it
through any call, whatever path the call names and whatever has become of the files
(`step_kept_of_some`). A session that keeps none keeps, behind a call, exactly what that
call loads from the tree as it is then (`step_kept_of_none`); that is nothing if the call
does not ask for the shared engine, or if it cannot be read at the path of that very
call. Whether the call *succeeds* does not occur in either of them: an engine is kept as
soon as it has been loaded, also if the run behind it fails.

By induction, the engine of a session is the first one that loads, and nothing behind
that moment changes it.
-/

namespace ScriptLint

/-! ## Loading -/

namespace Call

/-- The path at which a call looks for the shared engine, if it asks for that. -/
def enginePath? : Call → Option Text
  | shared path => some path
  | lint request => some request.enginePath
  | _ => none

/-- The engine that a call loads from a tree if none is kept. -/
def engine? (t : Tree) (call : Call) : Option Engine :=
  call.enginePath?.bind fun path => (Engine.load t path).result.toOption

end Call

namespace Engine

/-- An engine is not loaded for one reason only: its source cannot be read. -/
private theorem load_result_eq_error {t : Tree} {path : Text} {f : Failure}
    (h : (load t path).result = .error f) : ∃ cause, f = .readEngine path cause := by
  rw [load] at h
  cases hread : t.read path with
  | error cause =>
      simp only [hread, Attempt.fail, Except.error.injEq] at h
      exact ⟨cause, h.symm⟩
  | ok bytes =>
      simp only [hread] at h
      cases hstrict : Utf8.strict? bytes with
      | none =>
          simp only [hstrict, Attempt.fail, Except.error.injEq] at h
          exact ⟨.notUtf8, h.symm⟩
      | some source => simp [hstrict] at h

/-- A kept engine stays. -/
theorem keptAfter_some (engine : Engine) (t : Tree) (path : Text) :
    keptAfter (some engine) t path = some engine := rfl

/-- Without a kept engine the next one to load is kept, if it loads. -/
theorem keptAfter_none (t : Tree) (path : Text) :
    keptAfter none t path = (load t path).result.toOption := by
  rw [keptAfter, shared]
  cases (load t path).result <;> rfl

end Engine

/-- A run asks for the engine first and goes on with it. -/
theorem Request.lint_result (m : Machine) (kept : Option Engine) (r : Request) :
    (r.lint m kept).result
      = (Engine.shared kept m.tree r.enginePath).result.bind fun engine =>
          (r.lintWith m engine).result := by
  rw [lint, Attempt.bind_result]

namespace Session

/-! ## One call -/

section Step

variable {s : Session} {engine : Engine}

/-- **What is kept stays kept.** -/
theorem step_kept_of_some (hkept : s.kept = some engine) (call : Call) :
    (s.step call).1.kept = some engine := by
  cases call with
  | shared path => simp only [step, hkept, Engine.keptAfter_some]
  | lint request => simp only [step, hkept, Engine.keptAfter_some]
  | edit change => simp only [step, edit, hkept]
  | _ => simp only [step, hkept]

/-- **What is loaded is kept**, and nothing else is. -/
theorem step_kept_of_none (hkept : s.kept = none) (call : Call) :
    (s.step call).1.kept = call.engine? s.machine.tree := by
  cases call with
  | shared path =>
      simp only [step, hkept, Engine.keptAfter_none, Call.engine?, Call.enginePath?,
        Option.bind_some]
  | lint request =>
      simp only [step, hkept, Engine.keptAfter_none, Call.engine?, Call.enginePath?,
        Option.bind_some]
  | edit change => simp only [step, edit, hkept, Call.engine?, Call.enginePath?, Option.bind_none]
  | _ => simp only [step, hkept, Call.engine?, Call.enginePath?, Option.bind_none]

/-- A call that asks for the shared engine changes no files. -/
private theorem step_machine_of_enginePath? {call : Call} {path : Text}
    (hcall : call.enginePath? = some path) : (s.step call).1.machine = s.machine := by
  cases call with
  | shared path => rfl
  | lint request => rfl
  | _ => simp [Call.enginePath?] at hcall

/-- **Without an engine**, the shared engine is what loads at the path of the call. -/
theorem step_shared_of_none (hkept : s.kept = none) (path : Text) :
    (s.step (.shared path)).2 = .engine (Engine.load s.machine.tree path).result := by
  simp only [step, hkept, Engine.shared]

/-- A lint call without a kept engine answers with the engine in its file. -/
private theorem step_lint_of_none (hkept : s.kept = none) (r : Request) :
    (s.step (.lint r)).2
      = .outcome ((Engine.load s.machine.tree r.enginePath).result.bind fun engine =>
          (r.lintWith s.machine engine).result) := by
  simp only [step, hkept, Request.lint_result, Engine.shared]

/-- A call that cannot load its engine leaves the session as it was. -/
private theorem step_of_load_error (hkept : s.kept = none) {call : Call} {path : Text} {f : Failure}
    (hcall : call.enginePath? = some path)
    (hload : (Engine.load s.machine.tree path).result = .error f) : (s.step call).1 = s := by
  have hnone : (s.step call).1.kept = none := by
    rw [step_kept_of_none hkept, Call.engine?, hcall, Option.bind_some, hload]
    rfl
  calc (s.step call).1
    _ = ⟨(s.step call).1.machine, (s.step call).1.kept⟩ := rfl
    _ = ⟨s.machine, s.kept⟩ := by rw [step_machine_of_enginePath? hcall, hnone, hkept]

/-- **With an engine**, the shared engine is that one at every path. -/
theorem step_shared_of_some (hkept : s.kept = some engine) (path : Text) :
    s.step (.shared path) = (s, .engine (.ok engine)) := by
  have hsame : (⟨s.machine, some engine⟩ : Session) = s := by rw [← hkept]
  simp only [step, hkept, Engine.shared, Engine.keptAfter_some, Attempt.done_result, hsame]

/-- With an engine, a run that comes to a conversation sends a script that begins with the
source of that engine. -/
private theorem step_lint_of_some (hkept : s.kept = some engine) (r : Request) :
    s.step (.lint r)
      = (s, .outcome ((Attempt.each (Source.read s.machine.tree) r.files).result.bind
          fun sources => (s.machine.converse r.interpreter (Utf8.encode
            (engine.source ++ Routine.text r.options ++ Script.statements sources))).result)) := by
  have hsame : (⟨s.machine, some engine⟩ : Session) = s := by rw [← hkept]
  have hresult : (r.lint s.machine (some engine)).result
      = (Attempt.each (Source.read s.machine.tree) r.files).result.bind fun sources =>
          (s.machine.converse r.interpreter (Utf8.encode
            (engine.source ++ Routine.text r.options ++ Script.statements sources))).result :=
    (Request.lint_result s.machine (some engine) r).trans (Request.lintWith_result s.machine engine r)
  simp only [step, hkept, hresult, Engine.keptAfter_some, hsame]

end Step

/-! ## Many calls -/

theorem run_cons (s : Session) (call : Call) (calls : List Call) :
    s.run (call :: calls)
      = (((s.step call).1.run calls).1, (s.step call).2 :: ((s.step call).1.run calls).2) := rfl

/-- A run of calls is cut anywhere: the second part goes on from where the first one ends. -/
theorem run_append (s : Session) (xs ys : List Call) :
    s.run (xs ++ ys)
      = (((s.run xs).1.run ys).1, (s.run xs).2 ++ ((s.run xs).1.run ys).2) := by
  induction xs generalizing s with
  | nil => rfl
  | cons call xs ih => simp only [List.cons_append, run_cons, ih]

/-- Each call has one answer, so an answer belongs to its call by its place. -/
theorem length_run_answers (s : Session) (calls : List Call) :
    (s.run calls).2.length = calls.length := by
  induction calls generalizing s with
  | nil => rfl
  | cons call calls ih => simp only [run_cons, List.length_cons, ih]

/-- Induction on the calls: what the first step keeps, every later one keeps too. -/
private theorem run_kept_of_some {s : Session} {engine : Engine} (hkept : s.kept = some engine)
    (calls : List Call) : (s.run calls).1.kept = some engine := by
  induction calls generalizing s with
  | nil => exact hkept
  | cons call calls ih => exact ih (step_kept_of_some hkept call)

/-- Calls none of which loads an engine leave none, each seen in the session behind those
before it. -/
private theorem run_kept_of_none {s : Session} (hkept : s.kept = none) {calls : List Call}
    (hnone : ∀ xs call ys, calls = xs ++ call :: ys →
      call.engine? (s.run xs).1.machine.tree = none) :
    (s.run calls).1.kept = none := by
  induction calls generalizing s with
  | nil => exact hkept
  | cons call calls ih =>
      have hfirst : (s.step call).1.kept = none := by
        rw [step_kept_of_none hkept]
        exact hnone [] call calls rfl
      refine ih hfirst fun xs c ys hsplit => ?_
      exact hnone (call :: xs) c ys (by rw [hsplit, List.cons_append])

/-! ## A process from its start -/

/-- A process behind some calls. -/
def after (m : Machine) (calls : List Call) : Session := ((fresh m).run calls).1

/-- None of some calls has loaded a shared engine, each from the files as they were when
its turn came. -/
def NoneLoaded (m : Machine) (calls : List Call) : Prop :=
  ∀ xs call ys, calls = xs ++ call :: ys → call.engine? (after m xs).machine.tree = none

/-- A process behind more calls is the process behind the first ones, run on. -/
theorem after_append (m : Machine) (xs ys : List Call) :
    after m (xs ++ ys) = ((after m xs).run ys).1 := by
  rw [after, run_append, after]

/-- A call is answered by the session behind the calls before it. -/
private theorem answer_eq_step (m : Machine) (calls : List Call) (call : Call) (later : List Call) :
    ((fresh m).run (calls ++ call :: later)).2[calls.length]?
      = some ((after m calls).step call).2 := by
  rw [run_append, run_cons, List.getElem?_append_right (Nat.le_of_eq (length_run_answers _ _)),
    length_run_answers, Nat.sub_self, List.getElem?_cons_zero, after]

/-- As long as nothing has loaded, nothing is kept. -/
theorem after_kept_of_noneLoaded {m : Machine} {calls : List Call} (hnone : NoneLoaded m calls) :
    (after m calls).kept = none :=
  run_kept_of_none rfl hnone

/-- From the first call that loads an engine on that engine is kept. -/
private theorem after_kept_of_engine? {m : Machine} {calls : List Call} (hnone : NoneLoaded m calls)
    {call : Call} {engine : Engine} (hcall : call.engine? (after m calls).machine.tree = some engine)
    (later : List Call) : (after m (calls ++ call :: later)).kept = some engine := by
  rw [after_append, run_cons]
  apply run_kept_of_some
  rw [step_kept_of_none (after_kept_of_noneLoaded hnone), hcall]

/-- **The first engine that loads serves the process to its end.** Take any calls, with
any changes of files and programs among them.

* As long as none of them has loaded an engine, none is kept. A call that asks for the
  shared engine reads it at its own path from the files as they are; if that fails, the
  failure is the engine's at that path, and the session stays as it was.
* Behind the first call that loads an engine, whatever that call comes to otherwise and
  whatever calls follow it, the shared engine is that one at every path, and every script
  of a run is its source, the routine and the statements.
* Loading an engine by itself, and a run with an engine of the caller's, change
  nothing. -/
theorem first_engine_is_kept (m : Machine) (calls : List Call) :
    (∀ call later, ((fresh m).run (calls ++ call :: later)).2[calls.length]?
        = some ((after m calls).step call).2)
      ∧ (NoneLoaded m calls →
          (after m calls).kept = none
          ∧ (∀ path, ((after m calls).step (.shared path)).2
              = .engine (Engine.load (after m calls).machine.tree path).result)
          ∧ (∀ r : Request, ((after m calls).step (.lint r)).2
              = .outcome ((Engine.load (after m calls).machine.tree r.enginePath).result.bind
                  fun engine => (r.lintWith (after m calls).machine engine).result))
          ∧ (∀ call path f, call.enginePath? = some path →
              (Engine.load (after m calls).machine.tree path).result = .error f →
              (∃ cause, f = .readEngine path cause) ∧ ((after m calls).step call).1 = after m calls)
          ∧ ∀ call engine later, call.engine? (after m calls).machine.tree = some engine →
              let s := after m (calls ++ call :: later)
              s.kept = some engine
                ∧ (∀ path, s.step (.shared path) = (s, .engine (.ok engine)))
                ∧ ∀ r : Request, s.step (.lint r)
                    = (s, .outcome ((Attempt.each (Source.read s.machine.tree) r.files).result.bind
                        fun sources => (s.machine.converse r.interpreter (Utf8.encode
                          (engine.source ++ Routine.text r.options
                            ++ Script.statements sources))).result)))
      ∧ (∀ path, ((after m calls).step (.load path)).1 = after m calls)
      ∧ ∀ engine r, ((after m calls).step (.lintWith engine r)).1 = after m calls := by
  refine ⟨answer_eq_step m calls, fun hnone => ?_, fun _ => rfl, fun _ _ => rfl⟩
  have hkept : (after m calls).kept = none := after_kept_of_noneLoaded hnone
  refine ⟨hkept, step_shared_of_none hkept, step_lint_of_none hkept, ?_, ?_⟩
  · intro call path f hcall hload
    exact ⟨Engine.load_result_eq_error hload, step_of_load_error hkept hcall hload⟩
  · intro call engine later hcall s
    have hlater : s.kept = some engine := after_kept_of_engine? hnone hcall later
    exact ⟨hlater, step_shared_of_some hlater, step_lint_of_some hlater⟩

/-- A path at which there is nothing, and then a run that loads its engine and fails on
its only source: the engine of the failed run is kept. -/
theorem first_engine_is_kept_of_failed_run :
    let e : Name := ⟨Utf8.encode ['e'], by decide⟩
    let t : Tree := ⟨[(⟨.above 0, [e]⟩, .file [0x2F, 0x2F] .data)], by decide⟩
    let m : Machine := ⟨t, [], []⟩
    let engine : Engine := ⟨['e'], ['/', '/']⟩
    let request : Request := ⟨[['x']], .unspecified, ['e'], Interpreter.standard⟩
    NoneLoaded m [.shared ['x']]
      ∧ (Call.lint request).engine? (after m [.shared ['x']]).machine.tree = some engine
      ∧ ((after m [.shared ['x']]).step (.lint request)).2
          = .outcome (.error (.readSource ['x'] .notFound))
      ∧ ∀ later path, ((after m ([.shared ['x']] ++ .lint request :: later)).step (.shared path)).2
          = .engine (.ok engine) := by
  intro e t m engine request
  have hmissing : t.read (Utf8.encode ['x']) = .error .notFound :=
    Tree.read_of_isEntryName_of_none (by decide) rfl
  have hfound : t.read (Utf8.encode ['e']) = .ok [0x2F, 0x2F] :=
    Tree.read_of_isEntryName (by decide) rfl
  have htext : Utf8.strict? [0x2F, 0x2F] = some ['/', '/'] := by decide
  have hload : (Engine.load t ['e']).result = .ok engine := by
    simp only [Engine.load, hfound, htext, engine]
  have hfail : (Engine.load t ['x']).result = .error (.readEngine ['x'] .notFound) := by
    simp only [Engine.load, hmissing, Attempt.fail]
  have hsource : (Source.read t ['x']).result = .error (.readSource ['x'] .notFound) := by
    simp only [Source.read, hmissing, Attempt.fail]
  have hmachine : (after m [.shared ['x']]).machine = m := rfl
  have hnone : NoneLoaded m [.shared ['x']] := by
    intro xs call ys hsplit
    cases xs with
    | nil =>
        obtain ⟨rfl, -⟩ := List.cons.inj hsplit
        simp only [Call.engine?, Call.enginePath?, Option.bind_some]
        rw [show (after m []).machine.tree = t from rfl, hfail]
        rfl
    | cons c xs => exact absurd (List.cons.inj hsplit).2 (by simp)
  have hengine : (Call.lint request).engine? (after m [.shared ['x']]).machine.tree = some engine := by
    simp only [Call.engine?, Call.enginePath?, Option.bind_some, hmachine, m, request, hload]
    rfl
  obtain ⟨-, hidle, -⟩ := first_engine_is_kept m [.shared ['x']]
  obtain ⟨-, -, hrun, -, hserved⟩ := hidle hnone
  refine ⟨hnone, hengine, ?_, fun later path => ?_⟩
  · rw [hrun request, hmachine]
    simp only [m, request, hload, Request.lintWith_result, Attempt.each, Attempt.bind_result,
      hsource, Except.bind]
  · rw [(hserved (.lint request) engine later hengine).2.1 path]

end Session

end ScriptLint
