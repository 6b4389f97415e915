import ScriptLint.Command.Program
import ScriptLint.Process.StandIn
import ScriptLint.Tree.Edit

set_option autoImplicit false

/-!
The executable.

It takes a picture of the working directory, carries out the command line on it, and writes what comes of
that. All that it decides is what gets into the picture: the files and directories below the working
directory, the engine beside the executable, and the absolute paths that the command line or the
environment mentions. The interpreters that it knows by name answer within the process.
-/

namespace ScriptLint.Main

/-- A stand-in that prints nothing but its reaction. -/
def plain (reaction : Reaction) : Executable := (⟨reaction, [], .exited 0⟩ : StandIn).executable

/-- The interpreters that are known by name. -/
def programs : List (Text × Executable) :=
  [("js".toList, plain .calls), ("cat".toList, plain .echo), ("leak".toList, plain .leaks),
   ("args".toList, plain .arguments), ("true".toList, plain .silence)]

/-- The tree with the readable file at a path, if there is one. -/
def addFile (t : Tree) (path : String) : IO Tree := do
  try
    let contents ← IO.FS.readBinFile path
    return t.plant path.toUTF8.toList (.file contents.toList .data)
  catch _ => return t

/-- The tree with the entries of a directory and everything below them; `behind` is what stands before
their names in a path. A link to a file counts as that file. -/
partial def addEntries (t : Tree) (behind : String) (entries : Array IO.FS.DirEntry) :
    IO Tree := do
  let mut tree := t
  for e in entries do
    let path := behind ++ e.fileName
    try
      let data ← e.path.symlinkMetadata
      if data.type == .dir then
        tree := tree.plant path.toUTF8.toList .directory
        tree ← addEntries tree (path ++ "/") (← e.path.readDir)
      else tree ← addFile tree path
    catch _ => pure ()
  return tree

/-- The variables that the program looks at. -/
def environment : IO Command.Environment := do
  let names := ["JSLINT_ENGINE", "JSLINT_INTERPRETER", "JSLINT_FORMAT", "JSLINT_LOG"]
  let values ← names.filterMapM fun name => do
    return (← IO.getEnv name).map fun value => (name.toList, value.toList)
  return values

/-- The absolute paths that some texts mention, also behind an equals sign. -/
def mentioned (texts : List Text) : List Text :=
  (texts.flatMap fun s => [s, ((Part.cutAt? ['='] s).map Prod.snd).getD []]).filter fun s =>
    Part.opensWith ['/'] s

/-- Writes a report, and says whether it could be written. -/
def written (report : Bytes) : IO Bool := do
  try
    let out ← IO.getStdout
    out.write ⟨report.toArray⟩
    out.flush
    return true
  catch _ => return false

end ScriptLint.Main

open ScriptLint

/-- Carries out the command line. -/
def main (args : List String) : IO UInt32 := do
  let env ← Main.environment
  let home := (← IO.appDir).toString
  let texts := args.map String.toList
  let mut tree ← Main.addEntries Tree.empty "" (← (← IO.currentDir).readDir)
  let installed : Machine := ⟨tree, Main.programs, home.toList⟩
  tree ← Main.addFile tree (String.ofList (Engine.standardPath installed))
  for path in Main.mentioned (texts ++ env.map Prod.snd) do
    tree ← Main.addFile tree (String.ofList path)
  let machine : Machine := ⟨tree, Main.programs, home.toList⟩
  let ending := Command.execute machine env .willing texts
  let written ← Main.written ending.stdout
  let ending := if written then ending else Command.execute machine env .full texts
  for line in ending.stderr do
    IO.eprintln (String.ofList line)
  return ending.exit.toUInt32
