import ScriptLint.Glob.Expand
import ScriptLint.Process.WaitStatus
import ScriptLint.Text.Quoted

set_option autoImplicit false

/-!
Events: what a run writes to its log.

An event has a level, a module that it comes from, and a line of text. The line begins with the event in
plain words; its particulars follow as `name=value`. Lists of files, paths of sources and arguments are
quoted, since a blank in them would be misread; the other values are given as they are.
-/

namespace ScriptLint

/-- How urgent an event is. -/
inductive Level where
  | error
  | warn
  | info
  | debug
  | trace
  deriving DecidableEq, Repr

namespace Level

/-- The level as a number: the more urgent, the smaller. -/
def rank : Level → Nat
  | error => 1
  | warn => 2
  | info => 3
  | debug => 4
  | trace => 5

/-- The level as it stands at the beginning of a log line. -/
def label : Level → Text
  | error => "ERROR".toList
  | warn => "WARN".toList
  | info => "INFO".toList
  | debug => "DEBUG".toList
  | trace => "TRACE".toList

end Level

/-- Something that happens in a run. -/
inductive Event where
  | badPattern (pattern : Text) (error : Glob.SyntaxError)
  | starting (files : List Text) (engine : Text)
  | loadedEngine (path : Text) (bytes : Nat)
  | decodedLossily (path : Text)
  | readSource (path : Text) (bytes : Nat)
  | assembled (files bytes : Nat)
  | spawning (program : Text) (args : List Text)
  | hungUp (program : Text)
  | finished (program : Text) (bytes : Nat) (status : WaitStatus)
  | unsuccessful (status : WaitStatus)
  deriving DecidableEq, Repr

namespace Event

/-- The level of an event. -/
def level : Event → Level
  | decodedLossily _ | unsuccessful _ => .warn
  | _ => .debug

/-- The module that an event comes from, by which it can be selected. -/
def origin : Event → Text
  | badPattern _ _ | starting _ _ => "jslint_cli".toList
  | loadedEngine _ _ => "jslint::engine".toList
  | decodedLossily _ | readSource _ _ => "jslint::package".toList
  | assembled _ _ => "jslint::program".toList
  | spawning _ _ | hungUp _ | finished _ _ _ => "jslint::interpreter".toList
  | unsuccessful _ => "jslint".toList

/-- The event in plain words. -/
def words : Event → Text
  | badPattern _ _ => "not a valid glob, using it as a path".toList
  | starting _ _ => "starting lint run".toList
  | loadedEngine _ _ => "loaded engine".toList
  | decodedLossily _ => "source is not valid UTF-8, decoding lossily".toList
  | readSource _ _ => "read source file".toList
  | assembled _ _ => "assembled program".toList
  | spawning _ _ => "spawning interpreter".toList
  | hungUp _ => "interpreter closed stdin early".toList
  | finished _ _ _ => "interpreter finished".toList
  | unsuccessful _ => "interpreter exited unsuccessfully".toList

/-- The particulars of an event: their names and values. -/
def particulars : Event → List (String × Text)
  | badPattern pattern error => [("pattern", pattern), ("err", error.message)]
  | starting files engine => [("files", Text.quotedList files), ("engine", engine)]
  | loadedEngine path bytes => [("path", path), ("bytes", Text.ofNat bytes)]
  | decodedLossily path => [("path", Text.quoted path)]
  | readSource path bytes => [("path", Text.quoted path), ("bytes", Text.ofNat bytes)]
  | assembled files bytes => [("files", Text.ofNat files), ("bytes", Text.ofNat bytes)]
  | spawning program args => [("program", program), ("args", Text.quotedList args)]
  | hungUp program => [("program", program)]
  | finished program bytes status =>
      [("program", program), ("bytes", Text.ofNat bytes), ("status", status.text)]
  | unsuccessful status => [("status", status.text)]

/-- Whether an event has a particular of a name. Its plain words count as one, named `message`. -/
def has (e : Event) (name : Text) : Bool :=
  name == "message".toList || e.particulars.any fun p => p.1.toList == name

/-- The event in words, with its particulars. -/
def message (e : Event) : Text :=
  e.words ++ e.particulars.flatMap fun (name, value) => ' ' :: name.toList ++ '=' :: value

/-- The line that an event makes in the log. -/
def line (e : Event) : Text := e.level.label ++ ' ' :: e.message

end Event

end ScriptLint
