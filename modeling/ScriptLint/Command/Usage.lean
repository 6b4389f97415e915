import ScriptLint.Report.Form
import ScriptLint.Text.Terminal

set_option autoImplicit false

/-!
What the command line consists of, and what can be wrong with it.

Four settings take a value, and four flags take none. Each may be given once. A value that is empty is
none at all for the settings that need one, the engine and the format; the options and the interpreter
may be empty texts.

A message emphasises the value that it is about. It is meant for a terminal; a reader without one gets it
without emphasis, and without any control sequence that the value may hold.
-/

namespace ScriptLint.Command

/-- What takes a value. -/
inductive Setting where
  | options
  | engine
  | interpreter
  | format
  deriving DecidableEq, Repr

/-- What takes no value. -/
inductive Flag where
  | checkStatus
  | verbose
  | help
  | version
  deriving DecidableEq, Repr

namespace Setting

/-- All settings. -/
def all : List Setting := [options, engine, interpreter, format]

/-- The name of a setting, without its hyphens. -/
def name : Setting → Text
  | options => "options".toList
  | engine => "engine".toList
  | interpreter => "interpreter".toList
  | format => "format".toList

/-- The word for the value of a setting. -/
def valueName : Setting → Text
  | options => "LITERAL".toList
  | engine => "PATH".toList
  | interpreter => "INTERPRETER".toList
  | format => "FORMAT".toList

/-- A setting with its value, as it is shown in messages. -/
def shown (s : Setting) : Text := "--".toList ++ s.name ++ " <".toList ++ s.valueName ++ ['>']

/-- The environment variable that stands in for a setting. -/
def envName? : Setting → Option Text
  | options => none
  | engine => some "JSLINT_ENGINE".toList
  | interpreter => some "JSLINT_INTERPRETER".toList
  | format => some "JSLINT_FORMAT".toList

end Setting

namespace Flag

/-- All flags. -/
def all : List Flag := [checkStatus, verbose, help, version]

/-- The name of a flag, without its hyphens. -/
def name : Flag → Text
  | checkStatus => "check-status".toList
  | verbose => "verbose".toList
  | help => "help".toList
  | version => "version".toList

/-- A flag as it is shown in messages. -/
def shown (f : Flag) : Text := "--".toList ++ f.name

end Flag

/-- What can be wrong with a command line. -/
inductive UsageError where
  | missingFiles
  | missingValue (s : Setting)
  | invalidFormat (value : Text)
  | repeatedSetting (s : Setting)
  | repeatedFlag (f : Flag)
  | unexpectedValue (f : Flag) (value : Text)
  deriving DecidableEq, Repr

namespace UsageError

/-- An emphasised text between quotation marks. -/
def marked (s : Text) : Text := '\'' :: Terminal.emphasised s ++ ['\'']

/-- The line that lists the formats, for messages about the format. -/
def choices (s : Setting) : Text :=
  if s = .format then "\n  [possible values: text, json]".toList else []

/-- The error in words, with emphasis. -/
def message : UsageError → Text
  | missingFiles => "the following required arguments were not provided:\n  <FILES>...".toList
  | missingValue s =>
      "a value is required for ".toList ++ marked s.shown ++ " but none was supplied".toList ++ choices s
  | invalidFormat value =>
      "invalid value ".toList ++ marked value ++ " for ".toList ++ marked Setting.format.shown
        ++ choices .format
  | repeatedSetting s =>
      "the argument ".toList ++ marked s.shown ++ " cannot be used multiple times".toList
  | repeatedFlag f =>
      "the argument ".toList ++ marked f.shown ++ " cannot be used multiple times".toList
  | unexpectedValue f value =>
      "unexpected value ".toList ++ marked value ++ " for ".toList ++ marked f.shown
        ++ " found; no more were expected".toList

end UsageError

end ScriptLint.Command
