import ScriptLint.Proofs.Run.Stages

set_option autoImplicit false

/-!
Which failure a run ends with.

Attempts that are made one after the other end with the failure of the first one that fails,
and what stands behind it takes no part. This goes for the stages of a run, and within one of
them for the sources. Every stage has a failure of its own, so the failure tells the stage,
and one that names a source tells which of the files was the first that could not be read.
-/

namespace ScriptLint

/-- **Attempts fail together with the first one that fails.** -/
theorem Attempt.each_result_eq_error_iff {α β : Type} {f : α → Attempt β} {as : List α}
    {failure : Failure} :
    (each f as).result = .error failure ↔
      ∃ before a after, as = before ++ a :: after
        ∧ (∀ b ∈ before, ∃ x, (f b).result = .ok x) ∧ (f a).result = .error failure := by
  induction as with
  | nil => simp [each]
  | cons a as ih =>
      rw [each, bind_result, bind_eq_error_iff]
      constructor
      · rintro (hfirst | ⟨x, hx, hrest⟩)
        · exact ⟨[], a, as, rfl, by simp, hfirst⟩
        · rw [bind_result, bind_eq_error_iff] at hrest
          -- what has succeeded is only put together
          obtain hrest | ⟨xs, -, hdone⟩ := hrest
          · obtain ⟨before, b, after, rfl, hbefore, hb⟩ := ih.1 hrest
            refine ⟨a :: before, b, after, rfl, ?_, hb⟩
            exact List.forall_mem_cons.2 ⟨⟨x, hx⟩, hbefore⟩
          · exact absurd hdone (by simp)
      · rintro ⟨before, b, after, hsplit, hbefore, hb⟩
        cases before with
        | nil =>
            obtain ⟨rfl, rfl⟩ := List.cons.inj hsplit
            exact .inl hb
        | cons first before =>
            obtain ⟨rfl, rfl⟩ := List.cons.inj hsplit
            obtain ⟨⟨x, hx⟩, hbefore⟩ := List.forall_mem_cons.1 hbefore
            refine .inr ⟨x, hx, ?_⟩
            rw [bind_result, bind_eq_error_iff]
            exact .inl (ih.2 ⟨before, b, after, rfl, hbefore, hb⟩)

/-- The first of some files that cannot be read, and why it cannot. -/
def Tree.FirstUnreadable (t : Tree) (files : List Text) (path : Text) (cause : Cause) : Prop :=
  ∃ before after, files = before ++ path :: after
    ∧ (∀ earlier ∈ before, ∃ contents, t.read earlier = .ok contents) ∧ t.read path = .error cause

/-! ## The failures of the stages -/

/-- Reading a source fails as reading its file does, and names it. -/
theorem Source.read_result_eq_error_iff {t : Tree} {path : Text} {failure : Failure} :
    (Source.read t path).result = .error failure ↔
      ∃ cause, t.read path = .error cause ∧ failure = .readSource path cause := by
  cases hread : t.read path with
  | error cause => simp [Source.read, hread, Attempt.fail, eq_comm]
  | ok contents => simp [Source.read_result_of_ok hread]

/-- Any bytes make a source, so only an unreadable file stops one. -/
theorem Source.exists_read_result_ok_iff {t : Tree} {path : Text} :
    (∃ source, (Source.read t path).result = .ok source) ↔
      ∃ contents, t.read path = .ok contents := by
  cases hread : t.read path with
  | error cause => simp [Source.read, hread, Attempt.fail]
  | ok contents => simp [Source.read_result_of_ok hread]

/-- Sources fail with the first file that cannot be read. -/
theorem Source.each_read_eq_error_iff {t : Tree} {files : List Text} {failure : Failure} :
    (Attempt.each (Source.read t) files).result = .error failure ↔
      ∃ path cause, t.FirstUnreadable files path cause ∧ failure = .readSource path cause := by
  simp only [Attempt.each_result_eq_error_iff, Source.exists_read_result_ok_iff,
    Source.read_result_eq_error_iff]
  constructor
  · rintro ⟨before, path, after, hsplit, hbefore, cause, hpath, hfailure⟩
    exact ⟨path, cause, ⟨before, after, hsplit, hbefore, hpath⟩, hfailure⟩
  · rintro ⟨path, cause, ⟨before, after, hsplit, hbefore, hpath⟩, hfailure⟩
    exact ⟨before, path, after, hsplit, hbefore, cause, hpath, hfailure⟩

/-- The shared engine fails in one way only: its file cannot be read. -/
private theorem Engine.cause_of_shared_eq_error {kept : Option Engine} {t : Tree} {path : Text}
    {failure : Failure} (h : (Engine.shared kept t path).result = .error failure) :
    failure = .readEngine path failure.cause := by
  unfold shared at h
  cases kept with
  | some engine => exact absurd h (by simp)
  | none =>
      simp only [load] at h
      cases hread : t.read path with
      | error cause =>
          simp only [hread, Attempt.fail] at h
          obtain rfl := Except.error.inj h
          rfl
      | ok bytes =>
          simp only [hread] at h
          cases hstrict : Utf8.strict? bytes with
          | some source => simp [hstrict] at h
          | none =>
              simp only [hstrict, Attempt.fail] at h
              obtain rfl := Except.error.inj h
              rfl

/-- The interpreter fails at its start or in the exchange. -/
private theorem Machine.cause_of_converse_eq_error {m : Machine} {i : Interpreter} {script : Bytes}
    {failure : Failure} (h : (m.converse i script).result = .error failure) :
    failure = .spawn i.program failure.cause ∨ failure = .exchange i.program failure.cause := by
  rw [converse_result, bind_eq_error_iff] at h
  obtain hstart | ⟨exe, -, hrespond⟩ := h
  · obtain ⟨cause, -, rfl⟩ := mapError_eq_error_iff.1 hstart
    exact .inl rfl
  · obtain ⟨cause, -, rfl⟩ := mapError_eq_error_iff.1 hrespond
    exact .inr rfl

/-- **A run fails with a source** if the engine is there, and then with the first file that
cannot be read. -/
theorem Request.lint_result_eq_readSource_iff {m : Machine} {kept : Option Engine} {r : Request}
    {path : Text} {cause : Cause} :
    (r.lint m kept).result = .error (.readSource path cause) ↔
      (∃ engine, (Engine.shared kept m.tree r.enginePath).result = .ok engine)
        ∧ m.tree.FirstUnreadable r.files path cause := by
  rw [lint, Attempt.bind_result, bind_eq_error_iff]
  constructor
  · rintro (hengine | ⟨engine, hengine, h⟩)
    · exact absurd (Engine.cause_of_shared_eq_error hengine) (by simp)
    · refine ⟨⟨engine, hengine⟩, ?_⟩
      rw [lintWith_result, bind_eq_error_iff] at h
      obtain hsources | ⟨sources, -, hconverse⟩ := h
      · obtain ⟨_, _, hfirst, hsame⟩ := Source.each_read_eq_error_iff.1 hsources
        obtain ⟨rfl, rfl⟩ := Failure.readSource.inj hsame
        exact hfirst
      · exact absurd (Machine.cause_of_converse_eq_error hconverse) (by simp)
  · rintro ⟨⟨engine, hengine⟩, hfirst⟩
    refine .inr ⟨engine, hengine, ?_⟩
    rw [lintWith_result, bind_eq_error_iff]
    exact .inl (Source.each_read_eq_error_iff.2 ⟨path, cause, hfirst, rfl⟩)

end ScriptLint
