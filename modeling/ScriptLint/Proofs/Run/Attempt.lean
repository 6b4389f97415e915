import ScriptLint.Proofs.Steps
import ScriptLint.Proofs.Text.Utf8
import ScriptLint.Run.Lint

set_option autoImplicit false

/-!
What a run comes to, without its events.

The result of an attempt that goes on with another one depends on results alone, so the
events can be left aside. `lintWith_result` is the run in that form: the sources, and
then the conversation about the script that they make.
-/

namespace ScriptLint

/-! ## Results of attempts -/

namespace Attempt

variable {α β : Type}

/-- Results are chained without the events. -/
@[simp] theorem bind_result (a : Attempt α) (next : α → Attempt β) :
    (a >>= next).result = a.result.bind fun x => (next x).result := by
  change (andThen a next).result = _
  rw [andThen]
  cases a.result <;> rfl

@[simp] theorem pure_result (x : α) : (pure x : Attempt α).result = .ok x := rfl

@[simp] theorem done_result (x : α) : (done x).result = .ok x := rfl

@[simp] theorem note_result (events : List Event) : (note events).result = .ok () := rfl

/-- Attempts that all succeed succeed together, in order. -/
theorem each_result_of_map_eq {f : α → Attempt β} {as : List α} {bs : List β}
    (h : as.map (fun a => (f a).result) = bs.map .ok) : (each f as).result = .ok bs := by
  induction as generalizing bs with
  | nil =>
      cases bs with
      | nil => rfl
      | cons b bs => exact absurd h (by simp)
  | cons a as ih =>
      cases bs with
      | nil => exact absurd h (by simp)
      | cons b bs =>
          rw [List.map_cons, List.map_cons] at h
          obtain ⟨hb, hbs⟩ := List.cons.inj h
          simp only [each, bind_result, hb, ih hbs, done_result, Except.bind]

end Attempt

/-- A source that can be read has the contents of its file, decoded as far as they go. -/
theorem Source.read_result_of_ok {t : Tree} {path : Text} {bytes : Bytes}
    (h : t.read path = .ok bytes) :
    (Source.read t path).result = .ok ⟨path, Utf8.lossy bytes⟩ := by
  simp only [Source.read, h]
  cases hstrict : Utf8.strict? bytes with
  | none => rfl
  | some contents => rw [Utf8.lossy_of_strict? hstrict]

/-- **A run is its sources and a conversation.** -/
theorem Request.lintWith_result (m : Machine) (engine : Engine) (r : Request) :
    (r.lintWith m engine).result
      = (Attempt.each (Source.read m.tree) r.files).result.bind fun sources =>
          (m.converse r.interpreter
            (Utf8.encode (Script.assemble engine r.options sources))).result := by
  simp only [lintWith, Attempt.bind_result, Attempt.note_result, Attempt.pure_result]
  refine congrArg _ (funext fun sources => ?_)
  -- the diagnostics are passed on as they are, and so is a failure
  generalize m.converse r.interpreter _ = conversation
  cases conversation.result <;> rfl

end ScriptLint
