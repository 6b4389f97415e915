import ScriptLint.Run.Event

set_option autoImplicit false

/-!
Attempts: computations that may fail and leave events behind either way.

A failure names the stage that failed and keeps its cause. Events are kept in the order in which they
happened, up to and including those of the stage that failed. The result of an attempt does not depend on
events, so what a run comes to can be told without them.
-/

namespace ScriptLint

/-- Why a run came to no outcome. -/
inductive Failure where
  | readSource (path : Text) (cause : Cause)
  | readEngine (path : Text) (cause : Cause)
  | spawn (program : Text) (cause : Cause)
  | exchange (program : Text) (cause : Cause)
  deriving DecidableEq, Repr

namespace Failure

/-- The cause behind a failure. -/
def cause : Failure → Cause
  | readSource _ cause | readEngine _ cause | spawn _ cause | exchange _ cause => cause

/-- A name between grave accents. -/
def ticked (name : Text) : Text := '\x60' :: name ++ ['\x60']

/-- The failure in words, without its cause. -/
def message : Failure → Text
  | readSource path _ => "failed to read source file ".toList ++ ticked path
  | readEngine path _ => "failed to read engine source ".toList ++ ticked path
  | spawn program _ => "failed to launch interpreter ".toList ++ ticked program
  | exchange program _ => "i/o error while talking to interpreter ".toList ++ ticked program

end Failure

/-- A computation with its events and its result. -/
structure Attempt (α : Type) where
  events : List Event
  result : Except Failure α

namespace Attempt

variable {α β : Type}

/-- Comes to a result at once. -/
def done (a : α) : Attempt α := ⟨[], .ok a⟩

/-- Fails at once. -/
def fail (failure : Failure) : Attempt α := ⟨[], .error failure⟩

/-- Leaves some events behind. -/
def note (events : List Event) : Attempt Unit := ⟨events, .ok ()⟩

/-- Goes on with the result of an attempt, if it has one. -/
def andThen (a : Attempt α) (next : α → Attempt β) : Attempt β :=
  match a.result with
  | .error failure => ⟨a.events, .error failure⟩
  | .ok x => ⟨a.events ++ (next x).events, (next x).result⟩

instance : Monad Attempt where
  pure := done
  bind := andThen

/-- An attempt that has no events of its own. -/
def ofExcept (wrap : Cause → Failure) : Except Cause α → Attempt α
  | .ok a => done a
  | .error cause => fail (wrap cause)

/-- Makes an attempt at each element, in order, up to the first one that fails. -/
def each (f : α → Attempt β) : List α → Attempt (List β)
  | [] => done []
  | a :: rest => do
      let b ← f a
      let bs ← each f rest
      done (b :: bs)

end Attempt

end ScriptLint
