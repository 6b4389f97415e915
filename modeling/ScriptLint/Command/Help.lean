import ScriptLint.Command.Arguments

set_option autoImplicit false

/-!
The texts that explain the command line.

Each setting and each flag has a title, with its names in emphasis, and an explanation. In the short text
the explanations stand beside the titles, in one column; in the long one they are paragraphs below them.
Wherever an explanation has a further line, that line is indented like the first one.

Both texts show what the environment holds for the settings that it stands in for; a variable that is not
set shows as one that is empty. Like the messages about a command line, the texts are given without
emphasis and without the control sequences that a value may hold.
-/

namespace ScriptLint.Command.Help

/-- The version, with the name of the program. -/
def version : Text := "jslint 0.1.0\n".toList

/-- Blanks. -/
def blanks (n : Nat) : Text := List.replicate n ' '

/-! ## Titles -/

/-- The width of a title in the short text. -/
def titleWidth : Nat := 35

/-- Stands in front of a name that has no letter beside it. -/
def noLetter : Text := blanks 6

/-- A name after its hyphens, and a letter in front of it. -/
def names (letter : Option Char) (name : Text) : Text :=
  (match letter with
    | some c => blanks 2 ++ Terminal.emphasised ['-', c] ++ [',', ' ']
    | none => noLetter)
  ++ Terminal.emphasised ('-' :: '-' :: name)

/-- The title of a setting. -/
def settingTitle (s : Setting) : Text :=
  names (if s = .format then some 'f' else none) s.name ++ [' ', '<'] ++ s.valueName ++ ['>']

/-- The letter of a flag. -/
def letter? : Flag → Option Char
  | .checkStatus => none
  | .verbose => some 'v'
  | .help => some 'h'
  | .version => some 'V'

/-- The title of a flag. -/
def flagTitle (f : Flag) : Text := names (letter? f) f.name

/-! ## Explanations -/

/-- What the files are. -/
def filesText : Text := "JavaScript files or glob patterns; flags must come before the first one".toList

/-- What a setting is. -/
def settingText : Setting → Text
  | .options => "Options object handed to JSLINT verbatim, e.g. \"\x7bbitwise: false\x7d\"".toList
  | .engine => "Engine source; defaults to fulljslint.js next to this binary".toList
  | .interpreter => "Interpreter that runs the generated script from stdin".toList
  | .format => []

/-- What a flag does; `isLong` tells which of the texts this is for. -/
def flagText (isLong : Bool) : Flag → Text
  | .checkStatus => "Also fail when the interpreter itself exits unsuccessfully".toList
  | .verbose => []
  | .help =>
      if isLong then "Print help (see a summary with '-h')".toList
      else "Print help (see more with '--help')".toList
  | .version => "Print version".toList

/-- What the environment holds for a setting. -/
def held (env : Environment) (s : Setting) : List Text :=
  match s.envName? with
  | none => []
  | some name => ["[env: ".toList ++ name ++ ['='] ++ (env.lookup name).getD [] ++ [']']]

/-- The value that a setting has if it is not given. -/
def standard : Setting → List Text
  | .interpreter => ["[default: js]".toList]
  | .format => ["[default: text]".toList]
  | _ => []

/-- The notes on a setting. -/
def notes (env : Environment) (s : Setting) : List Text := held env s ++ standard s

/-- The values that a setting can have, for the short text. -/
def choices : Setting → List Text
  | .format => ["[possible values: text, json]".toList]
  | _ => []

/-- What a setting is, or else the values that it can have, for the long text. -/
def settingPart : Setting → Text
  | .format =>
      "Possible values:\n- ".toList ++ Terminal.emphasised "text".toList
        ++ ": The engine's report, unchanged\n- ".toList ++ Terminal.emphasised "json".toList
  | s => settingText s

/-- The explanation of a setting for the short text. -/
def settingLine (env : Environment) (s : Setting) : Text :=
  Text.join [' '] ((settingText s :: notes env s ++ choices s).filter fun part => !part.isEmpty)

/-- The explanation of a setting for the long text. -/
def settingParagraph (env : Environment) (s : Setting) : Text :=
  match notes env s with
  | [] => settingPart s
  | notes => settingPart s ++ ['\n', '\n'] ++ Text.join ['\n'] notes

/-! ## The texts -/

/-- A text whose further lines are indented. -/
def indented (n : Nat) (s : Text) : Text := Text.replaceChar '\n' ('\n' :: blanks n) s

/-- A title and its explanation, side by side. -/
def beside (title explanation : Text) : Text :=
  title ++ blanks (titleWidth - (Terminal.plain title).length) ++ indented titleWidth explanation
    ++ ['\n']

/-- A title and its explanation, one below the other. -/
def below (title explanation : Text) : Text :=
  title ++ ['\n'] ++ blanks 10 ++ indented 10 explanation ++ ['\n']

/-- The lines that both texts begin with. -/
def opening : Text :=
  "Run JSLint over JavaScript files\n\nUsage: jslint [OPTIONS] <FILES>...\n\nArguments:\n".toList

/-- The title of the files. -/
def filesTitle : Text := "  <FILES>...".toList

/-- The short text, with emphasis. -/
def short (env : Environment) : Text :=
  opening ++ filesTitle ++ blanks 2 ++ filesText ++ "\n\nOptions:\n".toList
    ++ (Setting.all.flatMap fun s => beside (settingTitle s) (settingLine env s))
    ++ Flag.all.flatMap fun f => beside (flagTitle f) (flagText false f)

/-- The long text, with emphasis. -/
def long (env : Environment) : Text :=
  opening ++ below filesTitle filesText ++ "\nOptions:\n".toList
    ++ Text.join ['\n']
      ((Setting.all.map fun s => below (settingTitle s) (settingParagraph env s))
        ++ Flag.all.map fun f => below (flagTitle f) (flagText true f))

/-- One of the two texts, as it is given. -/
def text (env : Environment) (isLong : Bool) : Text :=
  Terminal.plain (if isLong then long env else short env)

end ScriptLint.Command.Help
