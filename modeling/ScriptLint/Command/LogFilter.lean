import ScriptLint.Command.Arguments
import ScriptLint.Regular.Expression
import ScriptLint.Run.Event
import ScriptLint.Text.Numeral

set_option autoImplicit false

/-!
Which events are shown.

A filter is a list of directives. A directive says up to which level events are shown, for the modules
whose names open in a given way, and maybe only for events that have a given particular. Of the directives
that fit an event the most special one decides; an event that none fits is not shown.

## Writing

Directives stand between commas. A level alone is for all modules, a module alone for all its levels, and
`module=level` for both. A particular stands behind the module as `[{name}]`. What asks for more than
that, for a span around the event or for the value of a particular, can be written in the same brackets but
fits no event, since no event is inside a span. A value has to be a numeral or a regular expression all the
same.

A text without any directive shows errors only, and a text with a directive that cannot be read is no
filter at all.

Blanks around a directive are passed over when the places of its marks are looked for, but its parts are
then cut at these places out of the directive as it stands. So a level with a blank beside it is taken for
the name of a module, and blanks in front shift all parts: the module fits nothing, and behind it no level
can be read.
-/

namespace ScriptLint.Command

/-- A level for some events: those up to that rank are shown. -/
structure Directive where
  /-- How the name of the event's module opens. -/
  module : Text
  /-- The particular that the event has. -/
  particular : Option Text
  /-- Whether it asks for what no event has. -/
  isVoid : Bool
  rank : Nat
  deriving DecidableEq, Repr

namespace Directive

/-! ## Levels -/

/-- The names of the levels, from 0 on. -/
def levelNames : List String := ["off", "error", "warn", "info", "debug", "trace"]

/-- The rank of all levels together. -/
def allLevels : Nat := Level.trace.rank

/-- The rank that a number, or a level's name in any case, stands for. -/
def rank? (s : Text) : Option Nat :=
  match Decimal.read? s with
  | some n => if n.toNat ≤ allLevels then some n.toNat else none
  | none => levelNames.findIdx? fun name => name.toList = s.map Char.toLower

/-! ## Forms -/

/-- Events up to a rank, from all modules. -/
def upTo (rank : Nat) : Directive := ⟨[], none, false, rank⟩

/-- All events of a module. -/
def allOf (module : Text) : Directive := ⟨module, none, false, allLevels⟩

/-- Whether the name of a module can begin with a character. -/
def opensName (c : Char) : Bool := Text.isAlphanumeric c || c == '_' || c == ':' || c == '-'

/-- The part of a text between two places, which are counted in bytes. -/
def cut (s : Text) (start stop : Nat) : Text :=
  Utf8.lossy (((Utf8.encode s).drop start).take (stop - start))

/-- The rank at the end of the directive `s`. What is left of its form at the place `place` is an equals sign
and a level, or nothing for all levels. -/
def rankBehind? (s : Text) (place : Nat) (left : Text) : Option Nat :=
  match left with
  | [] => some allLevels
  | '=' :: _ =>
      match cut s (place + 1) (Text.byteSize s) with
      | [] => some allLevels
      | level => rank? level
  | _ => none

/-- Whether a particular in brackets can be read. Behind a first equals sign it has a value, which goes up
to the second one. -/
def isParticular (s : Text) : Bool :=
  match Part.cutAt? ['='] s with
  | none => true
  | some (_, rest) =>
      let value := rest.takeWhile (· != '=')
      Numeral.isNumeral value || Regular.isExpression value

/-- Reads what stands in brackets, and the rank behind them. `left` is what is left of the form behind the
opening bracket, at the place `place`. -/
def inBrackets? (s module : Text) (place : Nat) (left : Text) : Option Directive :=
  let (span, left) := left.span fun c => c != ']' && c != '\x7b'
  let place := place + Text.byteSize span
  match left with
  | ']' :: left => (rankBehind? s (place + 1) left).map fun rank => ⟨module, none, true, rank⟩
  | _ :: left =>
      let (inner, left) := left.span fun c => c != '\x7d'
      let stop := place + 1 + Text.byteSize inner
      let particular := cut s (place + 1) stop
      match inner, left with
      | _ :: _, '\x7d' :: ']' :: left =>
          if isParticular particular then
            (rankBehind? s (stop + 2) left).map fun rank =>
              ⟨module, some particular, !span.isEmpty || particular.contains '=', rank⟩
          else none
      | _, _ => none
  | [] => none

/-- Reads the directive `s` of more than one part, whose form is `form`. -/
def ofParts? (s form : Text) : Option Directive :=
  let (name, left) := form.span fun c => c != '=' && c != '['
  let place := Text.byteSize name
  let module := cut s 0 place
  match left with
  | '[' :: left => if name.head?.all opensName then inBrackets? s module (place + 1) left else none
  | left =>
      if name.head?.any opensName then
        (rankBehind? s place left).map fun rank => ⟨module, none, false, rank⟩
      else none

/-- Reads a directive. -/
def read? (s : Text) : Option Directive :=
  let form := Text.trimRight (Text.trimLeft s)
  if form.all fun c => c != '=' && c != '[' then
    if form.head?.any opensName then
      some (match rank? s with
        | some rank => upTo rank
        | none => allOf s)
    else none
  else ofParts? s form

/-! ## Deciding -/

/-- Whether a directive fits an event. -/
def fits (e : Event) (d : Directive) : Bool :=
  !d.isVoid && Part.opensWith d.module e.origin && d.particular.all e.has

/-- Whether a directive is no more special than another one: the longer opening of the module counts
first, and then the particular, of two particulars the one with the greater name. -/
def isWithin (d e : Directive) : Bool :=
  if d.module.length = e.module.length then
    match d.particular, e.particular with
    | none, _ => true
    | some _, none => false
    | some p, some q => !decide (q < p)
  else decide (d.module.length < e.module.length)

/-- Of two directives that fit the one that decides, the second one if they are equally special. -/
def stronger (d e : Directive) : Directive := if d.isWithin e then e else d

end Directive

/-- The directives of a filter. -/
structure LogFilter where
  directives : List Directive
  deriving DecidableEq, Repr

namespace LogFilter

/-- The filter that shows events up to a level. -/
def upTo (level : Level) : LogFilter := ⟨[Directive.upTo level.rank]⟩

/-- Reads a filter. -/
def read? (s : Text) : Option LogFilter :=
  match (s.splitOnP (· == ',')).filter fun part => !part.isEmpty with
  | [] => some (upTo .error)
  | parts => (parts.mapM Directive.read?).map LogFilter.mk

/-- The filter of a run: what the environment asks for, or else warnings, or all but traces. -/
def ofRun (env : Environment) (verbose : Bool) : LogFilter :=
  ((env.lookup "JSLINT_LOG".toList).bind read?).getD (upTo (if verbose then .debug else .warn))

/-- Whether an event is shown. -/
def shows (f : LogFilter) (e : Event) : Bool :=
  match f.directives.filter (Directive.fits e) with
  | [] => false
  | d :: ds => decide (e.level.rank ≤ (ds.foldl Directive.stronger d).rank)

end LogFilter

end ScriptLint.Command
