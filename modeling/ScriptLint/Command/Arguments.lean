import ScriptLint.Command.Usage

set_option autoImplicit false

/-!
Reading the command line.

The arguments up to the first file are read as settings and flags; the first argument that is none of
these is a file, and from there on every argument is one. Two hyphens alone end the settings as well and
are dropped. A cluster of one-letter flags counts only if each of its letters is known, so a file named
`-x` needs no special care.

A setting may have its value in the same argument or in the next one. The next one is taken whatever it
is for the options, which may look like anything; for the other settings a known setting or flag is not
taken. A value from the next argument is *pending*: it is looked at only when something else is met, or at
the end. So errors come in the order of the arguments, with one exception: a flag with a value of its own
is refused at once, before a pending value has been looked at. Help and the version are given as soon as
they are met.

Behind the arguments the environment is looked at, for settings that were not given; that there is no file
is found last.
-/

namespace ScriptLint.Command

/-- What has been given so far. -/
structure Given where
  options : Option Text
  engine : Option Text
  interpreter : Option Text
  format : Option Format
  checkStatus : Bool
  verbose : Bool
  deriving DecidableEq, Repr

namespace Given

/-- Nothing given. -/
def nothing : Given := ⟨none, none, none, none, false, false⟩

/-- Whether a setting has been given. -/
def has (g : Given) : Setting → Bool
  | .options => g.options.isSome
  | .engine => g.engine.isSome
  | .interpreter => g.interpreter.isSome
  | .format => g.format.isSome

/-- Gives a setting its value, once. -/
def set (g : Given) (s : Setting) (value : Text) : Except UsageError Given :=
  if g.has s then .error (.repeatedSetting s)
  else
    match s with
    | .options => .ok { g with options := some value }
    | .interpreter => .ok { g with interpreter := some value }
    | .engine =>
        if value.isEmpty then .error (.missingValue .engine)
        else .ok { g with engine := some value }
    | .format =>
        match Format.ofName? value with
        | some format => .ok { g with format := some format }
        | none => .error (if value.isEmpty then .missingValue .format else .invalidFormat value)

end Given

/-- Why a command line does not lead to a run. -/
inductive Stop where
  | usage (error : UsageError)
  | help (long : Bool)
  | version
  deriving DecidableEq, Repr

/-- A setting whose value is in the next argument, and the value once that has been met. -/
structure Pending where
  setting : Setting
  value : Option Text
  deriving DecidableEq, Repr

/-- How far the arguments have been read. -/
structure Reading where
  given : Given
  pending : Option Pending
  deriving DecidableEq, Repr

namespace Reading

/-- Looks at the pending value. -/
def settle (r : Reading) : Except Stop Given :=
  match r.pending with
  | none => .ok r.given
  | some ⟨s, none⟩ => .error (.usage (.missingValue s))
  | some ⟨s, some value⟩ => (r.given.set s value).mapError .usage

/-- Reads a flag; `long` says whether its full name was used. -/
def flag (r : Reading) (f : Flag) (long : Bool) : Except Stop Reading := do
  let g ← r.settle
  match f with
  | .checkStatus =>
      if g.checkStatus then .error (.usage (.repeatedFlag f))
      else .ok ⟨{ g with checkStatus := true }, none⟩
  | .verbose =>
      if g.verbose then .error (.usage (.repeatedFlag f))
      else .ok ⟨{ g with verbose := true }, none⟩
  | .help => .error (.help long)
  | .version => .error .version

/-- Reads a setting, with its value if that is in the same argument. -/
def setting (r : Reading) (s : Setting) (value : Option Text) : Except Stop Reading := do
  let g ← r.settle
  match value with
  | some v =>
      let g ← (g.set s v).mapError .usage
      .ok ⟨g, none⟩
  | none => .ok ⟨g, some ⟨s, none⟩⟩

/-- Reads a cluster of letters. Behind `f` the rest of the cluster is its value. -/
def cluster (r : Reading) : List Char → Except Stop Reading
  | [] => .ok r
  | 'f' :: rest => r.setting .format (if rest.isEmpty then none else some rest)
  | c :: rest => do
      let f : Flag := if c = 'v' then .verbose else if c = 'h' then .help else .version
      let r ← r.flag f false
      cluster r rest

end Reading

/-- An argument that is known. -/
inductive Word where
  | flag (f : Flag) (value : Option Text)
  | setting (s : Setting) (value : Option Text)
  | cluster (letters : List Char)
  deriving DecidableEq, Repr

namespace Word

/-- The argument behind two hyphens: a name, and a value behind the first equals sign. -/
def ofName? (s : Text) : Option Word :=
  let (name, value) := match Part.cutAt? ['='] s with
    | some (name, value) => (name, some value)
    | none => (s, none)
  match Flag.all.find? fun f => f.name = name, Setting.all.find? fun s => s.name = name with
  | some f, _ => some (.flag f value)
  | none, some s => some (.setting s value)
  | none, none => none

/-- Reads an argument as something known. -/
def read? (arg : Text) : Option Word :=
  match arg with
  | '-' :: '-' :: s => ofName? s
  | '-' :: letters =>
      if !letters.isEmpty && letters.all fun c => c == 'f' || c == 'v' || c == 'h' || c == 'V' then
        some (.cluster letters)
      else none
  | _ => none

end Word

/-- Reads a known argument. -/
def Reading.word (r : Reading) : Word → Except Stop Reading
  | .flag f none => r.flag f true
  | .flag f (some value) => .error (.usage (.unexpectedValue f value))
  | .setting s value => r.setting s value
  | .cluster letters => r.cluster letters

/-- Reads arguments up to the first file; returns the files. -/
def Reading.arguments (r : Reading) : List Text → Except Stop (Reading × List Text)
  | [] => .ok (r, [])
  | arg :: rest =>
      match r.pending with
      | some ⟨.options, none⟩ => arguments ⟨r.given, some ⟨.options, some arg⟩⟩ rest
      | pending =>
          if arg = ['-', '-'] then .ok (r, rest)
          else
            match Word.read? arg with
            | some w =>
                match r.word w with
                | .ok r => arguments r rest
                | .error stop => .error stop
            | none =>
                match pending with
                | some ⟨s, none⟩ => arguments ⟨r.given, some ⟨s, some arg⟩⟩ rest
                | _ => .ok (r, arg :: rest)

/-- The variables of the environment and their values. -/
abbrev Environment := List (Text × Text)

/-- Gives a setting its value from the environment, if it has not been given. -/
def Given.orFrom (env : Environment) (g : Given) (s : Setting) : Except UsageError Given :=
  match s.envName? with
  | none => .ok g
  | some name =>
      if g.has s then .ok g
      else
        match env.lookup name with
        | none => .ok g
        | some value => g.set s value

/-- A run that a command line asks for. -/
structure Settings where
  given : Given
  inputs : List Text
  deriving DecidableEq, Repr

/-- Reads a command line. -/
def Settings.read (env : Environment) (args : List Text) : Except Stop Settings := do
  let (r, files) ← (⟨Given.nothing, none⟩ : Reading).arguments args
  let g ← r.settle
  let g ← (Setting.all.foldlM (Given.orFrom env) g).mapError .usage
  if files.isEmpty then .error (.usage .missingFiles) else .ok ⟨g, files⟩

end ScriptLint.Command
