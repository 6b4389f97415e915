import ScriptLint.Command.Program
import ScriptLint.Proofs.Command.Flags
import ScriptLint.Proofs.Run.Stages
import ScriptLint.Proofs.Tree.Lookup

set_option autoImplicit false

/-!
What a build script can rely on: the exit code and the report.

A run that something stops ends with 2 and an empty report. Any other run has captured
something from its interpreter, and then the exit code and the report are given by that
alone, together with the form of the report and the check of the status
(`Settings.execute_of_captures`). The log takes no part in either of them; neither does the
form of the report in the exit code, as long as the report can be written. So two command
lines that ask for the same run can be compared without looking into the run. That some
argument in front of a command line changes no more than one of these things is known from
the reading of command lines (`Settings.read_cons_flag`).
-/

namespace ScriptLint.Command

/-! ## One run -/

namespace Settings

/-- The report's side takes all that a run would write there. -/
def Accepts (m : Machine) (sink : Sink) (s : Settings) : Prop :=
  ∀ o, (s.request m).Captures m o → ¬ (sink = .full ∧ o.report s.format (s.request m).files ≠ [])

/-- Settings that ask for the same run. They may differ in the form of the report, in the
check of the status, and in the log. -/
structure SameRun (s s' : Settings) : Prop where
  inputs : s'.inputs = s.inputs
  options : s'.given.options = s.given.options
  engine : s'.given.engine = s.given.engine
  interpreter : s'.given.interpreter = s.given.interpreter

variable {m : Machine} {s s' : Settings}

/-- What the two hand to the interpreter is the same request. -/
theorem SameRun.request_eq (h : s.SameRun s') (m : Machine) : s'.request m = s.request m := by
  simp only [request, h.inputs, h.options, h.engine, h.interpreter]

/-- A run of the command ends as its lint request does: its further steps only log. -/
theorem attempt_result (m : Machine) (s : Settings) :
    (s.attempt m).result = ((s.request m).lint m none).result := by
  simp only [attempt, Attempt.bind_result, Attempt.note_result, Except.bind]

/-- The exit code of a run that comes to an outcome: 1 if anything was printed, or if the status
is asked for and tells of a failure. -/
theorem exitCode_eq (s : Settings) (o : Outcome) :
    s.exitCode o
      = if o.output ≠ [] ∨ (s.given.checkStatus = true ∧ o.status.success = false) then 1 else 0 := by
  rw [exitCode, Outcome.exitCode, Outcome.isClean]
  cases s.given.checkStatus <;> cases o.status.success <;> cases o.output <;> simp

/-- **A run that something stops** ends with 2, and with nothing on the report's side. -/
theorem execute_of_blocked (env : Environment) (sink : Sink) (h : (s.request m).Blocked m) :
    (s.execute m env sink).exit = 2 ∧ (s.execute m env sink).stdout = [] := by
  obtain ⟨f, hf⟩ := Request.lint_result_eq_error_iff.2 h
  rw [execute, attempt_result, hf]
  exact ⟨rfl, rfl⟩

/-- **A run that captures something** ends as that says, if the report can be written. -/
theorem execute_of_captures (env : Environment) (sink : Sink) {o : Outcome}
    (h : (s.request m).Captures m o) :
    let report := o.report s.format (s.request m).files
    let e := s.execute m env sink
    (sink = .full ∧ report ≠ [] → e.exit = 2 ∧ e.stdout = [])
      ∧ (¬ (sink = .full ∧ report ≠ []) → e.exit = s.exitCode o ∧ e.stdout = report) := by
  intro report e
  have hresult : (s.attempt m).result = .ok o :=
    (attempt_result m s).trans (Request.lint_result_eq_ok_iff.2 h)
  constructor
  · intro hrefused
    have hdeliver : o.deliver sink s.format (s.request m).files = .error .noSpace := if_pos hrefused
    simp [e, execute, hresult, hdeliver, failureCode]
  · intro htaken
    have hdeliver : o.deliver sink s.format (s.request m).files = .ok report := if_neg htaken
    simp [e, execute, hresult, hdeliver]

/-! ## Two runs -/

/-- **The log takes no part in a report**, and neither does the check of the status. -/
theorem SameRun.stdout_eq (env env' : Environment) (sink : Sink) (h : s.SameRun s')
    (hformat : s'.format = s.format) :
    (s'.execute m env' sink).stdout = (s.execute m env sink).stdout := by
  have hrequest := h.request_eq m
  obtain hblocked | ⟨o, ho⟩ := Request.blocked_or_captures m (s.request m)
  · rw [(execute_of_blocked env sink hblocked).2,
      (execute_of_blocked env' sink (hrequest ▸ hblocked)).2]
  · have ho' : (s'.request m).Captures m o := hrequest ▸ ho
    obtain ⟨hrefused, htaken⟩ := execute_of_captures env sink ho
    obtain ⟨hrefused', htaken'⟩ := execute_of_captures env' sink ho'
    rw [hformat, hrequest] at hrefused' htaken'
    by_cases hfull : sink = .full ∧ o.report s.format (s.request m).files ≠ []
    · rw [(hrefused hfull).2, (hrefused' hfull).2]
    · rw [(htaken hfull).2, (htaken' hfull).2]

/-- The exit codes of the same run, if both reports can be written or both have the same
form: either both are those of the same failure, or both are read off the same outcome. -/
theorem SameRun.exit_cases (env env' : Environment) {sink : Sink} (h : s.SameRun s')
    (hreport : s'.format = s.format ∨ (s.Accepts m sink ∧ s'.Accepts m sink)) :
    ((s.execute m env sink).exit = 2 ∧ (s'.execute m env' sink).exit = 2)
      ∨ ∃ o, (s.execute m env sink).exit = s.exitCode o
          ∧ (s'.execute m env' sink).exit = s'.exitCode o := by
  have hrequest := h.request_eq m
  obtain hblocked | ⟨o, ho⟩ := Request.blocked_or_captures m (s.request m)
  · exact .inl ⟨(execute_of_blocked env sink hblocked).1,
      (execute_of_blocked env' sink (hrequest ▸ hblocked)).1⟩
  · have ho' : (s'.request m).Captures m o := hrequest ▸ ho
    obtain ⟨hrefused, htaken⟩ := execute_of_captures env sink ho
    obtain ⟨hrefused', htaken'⟩ := execute_of_captures env' sink ho'
    obtain hformat | ⟨haccepts, haccepts'⟩ := hreport
    · rw [hformat, hrequest] at hrefused' htaken'
      by_cases hfull : sink = .full ∧ o.report s.format (s.request m).files ≠ []
      · exact .inl ⟨(hrefused hfull).1, (hrefused' hfull).1⟩
      · exact .inr ⟨o, (htaken hfull).1, (htaken' hfull).1⟩
    · exact .inr ⟨o, (htaken (haccepts o ho)).1, (htaken' (haccepts' o ho')).1⟩

/-- With the same answer to whether the status is asked for, the exit codes are the same. -/
private theorem SameRun.exit_eq (env env' : Environment) {sink : Sink} (h : s.SameRun s')
    (hreport : s'.format = s.format ∨ (s.Accepts m sink ∧ s'.Accepts m sink))
    (hstatus : s'.given.checkStatus = s.given.checkStatus) :
    (s'.execute m env' sink).exit = (s.execute m env sink).exit := by
  obtain ⟨hfailed, hfailed'⟩ | ⟨o, ho, ho'⟩ := h.exit_cases env env' hreport
  · rw [hfailed, hfailed']
  · rw [ho, ho', exitCode, exitCode, hstatus]

/-- **The check of the status** can turn a 0 into a 1, and that is all. -/
theorem SameRun.exit_eq_or (env env' : Environment) {sink : Sink} (h : s.SameRun s')
    (hreport : s'.format = s.format ∨ (s.Accepts m sink ∧ s'.Accepts m sink))
    (hstatus : s.given.checkStatus = false) :
    (s'.execute m env' sink).exit = (s.execute m env sink).exit
      ∨ ((s.execute m env sink).exit = 0 ∧ (s'.execute m env' sink).exit = 1) := by
  obtain ⟨hfailed, hfailed'⟩ | ⟨o, ho, ho'⟩ := h.exit_cases env env' hreport
  · exact .inl (by rw [hfailed, hfailed'])
  · rw [ho, ho', exitCode_eq, exitCode_eq, hstatus]
    by_cases houtput : o.output ≠ []
    · exact .inl (by simp [houtput])
    · by_cases hunsuccessful : s'.given.checkStatus = true ∧ o.status.success = false
      · exact .inr (by simp [houtput, hunsuccessful])
      · exact .inl (by simp only [houtput, hunsuccessful]; simp)

/-- The environment stands in for three settings, and the variable of the log is none of
theirs. -/
theorem read_congr {env env' : Environment}
    (hsame : ∀ name, name ≠ "JSLINT_LOG".toList → env'.lookup name = env.lookup name)
    (args : List Text) : read env' args = read env args := by
  have hfrom : Given.orFrom env' = Given.orFrom env := by
    funext g setting
    have hname : ∀ name, setting.envName? = some name → env'.lookup name = env.lookup name := by
      intro name hname
      refine hsame name ?_
      rintro rfl
      cases setting <;> simp [Setting.envName?] at hname
    unfold Given.orFrom
    cases hvariable : setting.envName? with
    | none => rfl
    | some name => simp only [hname name hvariable]
  rw [read, hfrom, read]

end Settings

/-! ## Command lines -/

section CommandLine

variable {env : Environment} {args : List Text} {s : Settings}

/-- A command line that is understood does what its settings say. -/
theorem execute_eq (m : Machine) (sink : Sink) (hread : Settings.read env args = .ok s) :
    execute m env sink args = s.execute m env sink := by
  rw [execute, hread]

/-- **Two command lines that ask for the same run.** The form of the report is all that the
report depends on, and the check of the status is all that the exit code depends on. -/
theorem execute_of_sameRun (m : Machine) (sink : Sink) (hread : Settings.read env args = .ok s)
    {env' : Environment} {args' : List Text} {s' : Settings}
    (hread' : Settings.read env' args' = .ok s') (h : s.SameRun s') :
    let e := execute m env sink args
    let e' := execute m env' sink args'
    (s'.format = s.format → e'.stdout = e.stdout)
      ∧ (s'.format = s.format ∨ (s.Accepts m sink ∧ s'.Accepts m sink) →
          (s'.given.checkStatus = s.given.checkStatus → e'.exit = e.exit)
            ∧ (s.given.checkStatus = false →
                e'.exit = e.exit ∨ (e.exit = 0 ∧ e'.exit = 1))) := by
  intro e e'
  have he : e = s.execute m env sink := execute_eq m sink hread
  have he' : e' = s'.execute m env' sink := execute_eq m sink hread'
  rw [he, he']
  exact ⟨h.stdout_eq env env' sink,
    fun hreport => ⟨h.exit_eq env env' hreport, h.exit_eq_or env env' hreport⟩⟩

/-- **The exit code and the report of a lint run.** Take any command line that asks for
one, on any machine.

* If its engine or a source cannot be read, or its interpreter cannot be started or talked
  to, it ends with 2 and writes no report.
* Otherwise it has captured something. If the report of that is refused, it ends with 2. If
  not, it ends with 1 exactly if there is output, or if the status is checked and is no
  success, and else with 0. The plain report is the output as it is.
* Of two command lines that ask for the same run, the report depends on its form alone,
  and the exit code, as long as the reports can be written, on the check of the status
  alone; that check can turn a 0 into a 1.
* In particular, the environment variable of the log changes neither of the two, a flag
  for the log in front changes neither of the two, and the flag for the status in front
  can turn a 0 into a 1. -/
theorem exit_and_report_of_run (m : Machine) (sink : Sink)
    (hread : Settings.read env args = .ok s) :
    let r := s.request m
    let e := execute m env sink args
    (r.Blocked m → e.exit = 2 ∧ e.stdout = [])
      ∧ (¬ r.Blocked m → ∃ o, r.Captures m o ∧
          let report := o.report s.format r.files
          (sink = .full ∧ report ≠ [] → e.exit = 2)
            ∧ (¬ (sink = .full ∧ report ≠ []) →
                e.exit = (if o.output ≠ []
                    ∨ (s.given.checkStatus = true ∧ o.status.success = false) then 1 else 0)
                  ∧ e.stdout = report ∧ (s.format = .text → e.stdout = o.output)))
      ∧ (∀ env' args' s', Settings.read env' args' = .ok s' → s.SameRun s' →
          let e' := execute m env' sink args'
          (s'.format = s.format → e'.stdout = e.stdout)
            ∧ (s'.format = s.format ∨ (s.Accepts m sink ∧ s'.Accepts m sink) →
                (s'.given.checkStatus = s.given.checkStatus → e'.exit = e.exit)
                  ∧ (s.given.checkStatus = false →
                      e'.exit = e.exit ∨ (e.exit = 0 ∧ e'.exit = 1))))
      ∧ (∀ env', (∀ name, name ≠ "JSLINT_LOG".toList → env'.lookup name = env.lookup name) →
          let e' := execute m env' sink args
          e'.exit = e.exit ∧ e'.stdout = e.stdout)
      ∧ (s.given.verbose = false → ∀ arg ∈ ["--verbose".toList, "-v".toList],
          let e' := execute m env sink (arg :: args)
          e'.exit = e.exit ∧ e'.stdout = e.stdout)
      ∧ (s.given.checkStatus = false →
          let e' := execute m env sink ("--check-status".toList :: args)
          e'.stdout = e.stdout ∧ (e'.exit = e.exit ∨ (e.exit = 0 ∧ e'.exit = 1))) := by
  intro r e
  have he : e = s.execute m env sink := execute_eq m sink hread
  refine ⟨fun hblocked => he ▸ Settings.execute_of_blocked env sink hblocked, fun hfree => ?_,
    fun env' args' s' hread' hsame => execute_of_sameRun m sink hread hread' hsame, ?_, ?_, ?_⟩
  · obtain ⟨o, ho⟩ := (Request.blocked_or_captures m r).resolve_left hfree
    obtain ⟨hrefused, htaken⟩ := Settings.execute_of_captures env sink ho
    refine ⟨o, ho, fun hfull => he ▸ (hrefused hfull).1, fun hwilling => ?_⟩
    obtain ⟨hexit, hstdout⟩ := htaken hwilling
    rw [he, hexit, hstdout, Settings.exitCode_eq]
    exact ⟨rfl, rfl, fun htext => by rw [htext, Outcome.report]⟩
  · intro env' henv
    have hread' : Settings.read env' args = .ok s := (Settings.read_congr henv args).trans hread
    obtain ⟨hstdout, hexit⟩ := execute_of_sameRun m sink hread hread' ⟨rfl, rfl, rfl, rfl⟩
    exact ⟨(hexit (.inl rfl)).1 rfl, hstdout rfl⟩
  · intro hverbose arg harg
    have hread' : Settings.read env (arg :: args) = .ok ⟨s.given.ask .verbose, s.inputs⟩ := by
      simp only [List.mem_cons, List.not_mem_nil, or_false] at harg
      obtain rfl | rfl := harg
      · exact Settings.read_cons_flag (w := .flag .verbose none) (by decide) rfl hread hverbose
      · exact Settings.read_cons_flag (w := .cluster ['v']) (by decide) rfl hread hverbose
    obtain ⟨hstdout, hexit⟩ := execute_of_sameRun m sink hread hread' ⟨rfl, rfl, rfl, rfl⟩
    exact ⟨(hexit (.inl rfl)).1 rfl, hstdout rfl⟩
  · intro hstatus
    have hread' : Settings.read env ("--check-status".toList :: args)
        = .ok ⟨s.given.ask .checkStatus, s.inputs⟩ :=
      Settings.read_cons_flag (w := .flag .checkStatus none) (by decide) rfl hread hstatus
    obtain ⟨hstdout, hexit⟩ := execute_of_sameRun m sink hread hread' ⟨rfl, rfl, rfl, rfl⟩
    exact ⟨hstdout rfl, (hexit (.inl rfl)).2 hstatus⟩

/-- An interpreter that prints a byte that is no text, and then fails. The plain report is
that byte, and the exit code 1; and so it is with the check of the status. -/
theorem exit_and_report_of_run_of_byte :
    let e : Name := ⟨Utf8.encode ['e'], by decide⟩
    let x : Name := ⟨Utf8.encode ['x'], by decide⟩
    let t : Tree :=
      ⟨[(⟨.above 0, [e]⟩, .file [0x2F, 0x2F] .data), (⟨.above 0, [x]⟩, .file [] .data)], by decide⟩
    let exe : Executable := ⟨true, fun _ _ => .ok ⟨[0xFF], .exited 3⟩⟩
    let m : Machine := ⟨t, [("js".toList, exe)], []⟩
    let args : List Text := ["--engine".toList, ['e'], ['x']]
    let s : Settings := ⟨⟨none, some ['e'], none, none, false, false⟩, [['x']]⟩
    Settings.read [] args = .ok s
      ∧ ¬ (s.request m).Blocked m
      ∧ (execute m [] .willing args).exit = 1
      ∧ (execute m [] .willing args).stdout = [0xFF]
      ∧ (execute m [] .willing ("--check-status".toList :: args)).exit = 1 := by
  intro e x t exe m args s
  have hread : Settings.read [] args = .ok s := by rfl
  have hengine : t.read (Utf8.encode ['e']) = .ok [0x2F, 0x2F] :=
    Tree.read_of_isEntryName (by decide) rfl
  have hsource : t.read (Utf8.encode ['x']) = .ok [] := Tree.read_of_isEntryName (by decide) rfl
  have hstart : m.start (s.request m).interpreter = .ok exe := by rfl
  have hcaptures : (s.request m).Captures m ⟨[0xFF], .exited 3⟩ := by
    refine ⟨_, exe, ⟨[0x2F, 0x2F], ['/', '/'], [[]], hengine, by decide, ?_, rfl⟩, hstart, rfl⟩
    simp [Settings.request, Glob.expand, Glob.expandInput, Glob.hasWildcard, s, m, hsource]
  obtain ⟨-, hfree, -, -, -, hstatus⟩ := exit_and_report_of_run m .willing hread
  obtain ⟨o, ho, -, htaken⟩ := hfree hcaptures.not_blocked
  obtain rfl := ho.unique hcaptures
  obtain ⟨hexit, -, hstdout⟩ := htaken (by simp)
  have hone : (execute m [] .willing args).exit = 1 := hexit
  refine ⟨hread, hcaptures.not_blocked, hone, hstdout rfl, ?_⟩
  obtain ⟨-, hsame | ⟨hzero, -⟩⟩ := hstatus rfl
  · exact hsame.trans hone
  · exact absurd (hone.symm.trans hzero) (by decide)

end CommandLine

end ScriptLint.Command
