import ScriptLint.Script.Options

set_option autoImplicit false

/-!
The reporting routine of a script.

Behind the engine stands a routine that lints one file and prints what was found: for each error its
header and evidence, for each implied global and each unused variable its header, and an empty line
after each (`Report.Printer` prints the same on this side). The text of the routine is fixed but for
one mark, which is replaced by the options, once; options that hold the mark themselves are not
replaced again.
-/

namespace ScriptLint.Routine

/-- The name under which the script calls the routine. -/
def name : Text := "jslintOneFile".toList

/-- The mark that the options take the place of. -/
def mark : Text := "\x7boptions\x7d".toList

/-- The lines of the routine, with the mark in it. -/
def templateLines : List String := [
  "",
  "var JSLINT_OPTIONS = \x7boptions\x7d;",
  "",
  "var jslintOneFile = function (fileName, fileContents) \x7b",
  "    var data, i, item;",
  "",
  "    JSLINT(fileContents, JSLINT_OPTIONS);",
  "    data = JSLINT.data();",
  "",
  "    for (i = 0; data.errors && i < data.errors.length; i += 1) \x7b",
  "        item = data.errors[i];",
  "        if (item) \x7b",
  "            print(fileName + \" \" + item.line + \": \" + item.reason);",
  "            print(item.evidence);",
  "            print(\"\");",
  "        \x7d",
  "    \x7d",
  "    for (i = 0; data.implieds && i < data.implieds.length; i += 1) \x7b",
  "        item = data.implieds[i];",
  "        if (item) \x7b",
  "            print(fileName + \" \" + item.line + \": implied global '\" + item.name + \"'\");",
  "            print(\"\");",
  "        \x7d",
  "    \x7d",
  "    for (i = 0; data.unused && i < data.unused.length; i += 1) \x7b",
  "        item = data.unused[i];",
  "        if (item) \x7b",
  "            print(fileName + \" \" + item.line + \": unused variable '\" + item.name + \"'\");",
  "            print(\"\");",
  "        \x7d",
  "    \x7d",
  "\x7d;"]

/-- The text of the routine, with the mark in it. -/
def template : Text := templateLines.flatMap fun line => line.toList ++ ['\n']

/-- The routine for some options. -/
def text (options : Options) : Text := Text.replaceFirst mark options.script template

end ScriptLint.Routine
