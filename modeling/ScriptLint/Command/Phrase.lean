import ScriptLint.Command.Arguments

set_option autoImplicit false

/-!
Phrases: what a command line is written with before its first file.

A phrase is one argument, or two, that give something and are complete in themselves. What a phrase gives
is said here phrase by phrase, without regard to what stands before or behind it; the reader of
`Arguments` comes to the same, argument by argument, as long as no setting and no flag is given twice.

A value in an argument of its own must not be one that the reader takes for something known, except for
the options, which are taken as they come.
-/

namespace ScriptLint.Command

/-- Arguments that give something and are complete in themselves. -/
inductive Phrase where
  /-- A setting by its name, with its value in the next argument. -/
  | apart (s : Setting) (value : Text)
  /-- A setting by its name, with its value behind an equals sign. -/
  | joined (s : Setting) (value : Text)
  /-- The flag for the interpreter's status. -/
  | checkStatus
  /-- The flag for a full log, by its name. -/
  | verbose
  /-- The flag for a full log, by its letter. -/
  | letterV
  /-- The format by its letter, with its value in the next argument. -/
  | letterF (value : Text)
  /-- The two letters in one argument, with the format in the next one. -/
  | letters (value : Text)
  deriving DecidableEq, Repr

namespace Phrase

/-- A name as an argument. -/
def named (name : Text) : Text := '-' :: '-' :: name

/-- The arguments of a phrase. -/
def args : Phrase → List Text
  | apart s value => [named s.name, value]
  | joined s value => [named s.name ++ '=' :: value]
  | checkStatus => [named Flag.checkStatus.name]
  | verbose => [named Flag.verbose.name]
  | letterV => [['-', 'v']]
  | letterF value => [['-', 'f'], value]
  | letters value => [['-', 'v', 'f'], value]

/-- The value that a phrase gives to a setting. -/
def value? (s : Setting) : Phrase → Option Text
  | apart s' value | joined s' value => if s' = s then some value else none
  | letterF value | letters value => if s = .format then some value else none
  | checkStatus | verbose | letterV => none

/-- Whether a phrase asks that the interpreter's status be checked. -/
def asksStatus (p : Phrase) : Bool := p == checkStatus

/-- Whether a phrase asks for a full log. -/
def asksLog : Phrase → Bool
  | verbose | letterV | letters _ => true
  | _ => false

/-- Whether a setting can have a value. -/
def suits (s : Setting) (value : Text) : Bool :=
  match s with
  | .options | .interpreter => true
  | .engine => !value.isEmpty
  | .format => (Format.ofName? value).isSome

/-- Whether an argument can be the value of the setting before it. -/
def standsApart (s : Setting) (value : Text) : Bool :=
  s == .options || (value != ['-', '-'] && (Word.read? value).isNone)

/-- Whether a phrase gives a value that its setting can have, where it can have it. -/
def isSound : Phrase → Bool
  | apart s value => standsApart s value && suits s value
  | joined s value => suits s value
  | letterF value | letters value => suits .format value
  | checkStatus | verbose | letterV => true

/-- Whether no two phrases give the same setting or ask for the same thing. -/
def Distinct (ps : List Phrase) : Prop :=
  ps.Pairwise fun p q =>
    (∀ s : Setting, (p.value? s).isNone ∨ (q.value? s).isNone)
      ∧ ¬ (p.asksStatus = true ∧ q.asksStatus = true)
      ∧ ¬ (p.asksLog = true ∧ q.asksLog = true)

/-- What some phrases give, taken together. -/
def given (ps : List Phrase) : Given where
  options := ps.findSome? (value? .options)
  engine := ps.findSome? (value? .engine)
  interpreter := ps.findSome? (value? .interpreter)
  format := (ps.findSome? (value? .format)).bind Format.ofName?
  checkStatus := ps.any asksStatus
  verbose := ps.any asksLog

/-- The value of a setting in the environment. -/
def fromEnv (env : Environment) (s : Setting) : Option Text := s.envName?.bind fun name => env.lookup name

/-- What some phrases give, with the environment in the place of a setting that they do not give. -/
def givenIn (env : Environment) (ps : List Phrase) : Given where
  options := ps.findSome? (value? .options)
  engine := (ps.findSome? (value? .engine)).or (fromEnv env .engine)
  interpreter := (ps.findSome? (value? .interpreter)).or (fromEnv env .interpreter)
  format := ((ps.findSome? (value? .format)).or (fromEnv env .format)).bind Format.ofName?
  checkStatus := ps.any asksStatus
  verbose := ps.any asksLog

end Phrase

end ScriptLint.Command
