import ScriptLint.Glob.Pattern
import ScriptLint.Tree.Resolve

set_option autoImplicit false

/-!
Walking a tree along a pattern.

The walk keeps a list of things to do, and always does the first of them. A thing to do is either an
entry of a directory, together with the components that have yet to be matched, the first of them by the
entry's own name, or a path that has been found. What an entry gives rise to is put in front of
everything else, so the walk goes depth first, and since the names of a directory are taken in order,
what it finds comes in order too.

The paths of the walk are bytes, like the names that they are made of. A pattern is a text, and it can
only be held against names that are texts: any other name is passed over, and nobody is told. But a `**`
looks at no name, so it leads into every directory, and out of one with a broken name come paths
that are no texts.

A component without wildcards is not looked for among the names of a directory but looked up in it. An
entry under a `**` does two things: what its own name leads to under the components behind the `**` comes
first, and its children, under the same `**`, come after that. The directory where the walk begins is not
an entry, and it leaves no trace in the paths that are found.

Every step of the walk makes the path longer or uses up a component, and a path of `Path.limit` bytes
leads nowhere, however deep the tree is; this bounds the depth of the walk, which is what `visit` counts down.
-/

namespace ScriptLint.Glob

/-- Something to do. -/
inductive Task where
  | found (path : Bytes) (isDirectory : Bool)
  | entry (path : Bytes) (name : Name) (isDirectory : Bool) (components : List Component)

/-- The path of a name in a directory; the directory where the walk begins leaves no trace. -/
def pathIn (here name : Bytes) : Bytes := if Path.isHere here then name else Path.join here name

/-- The tasks that some components give rise to in a directory, in the order in which they are done. -/
def tasksIn (t : Tree) (here : Bytes) (isDirectory : Bool) : List Component → List Task
  | [] => []
  | c :: rest =>
      let onto (path : Bytes) : List Task :=
        match rest with
        | [] => [.found path (t.isDirectory path)]
        | _ :: _ => tasksIn t path (t.isDirectory path) rest
      match c.literal? with
      | some name =>
          let path := pathIn here name
          let special := name == ['.'] || name == ['.', '.']
          if (special && isDirectory) || (!special && t.isTaken path) then onto path else []
      | none =>
          if isDirectory then
            let dots :=
              if c.opensWithDot then
                [['.', '.'], ['.']].flatMap fun name : Text =>
                  if c.matchesName name then onto (Path.join here name) else []
              else []
            dots ++ (t.list here).map fun name =>
              let path := pathIn here name.val
              .entry path name (t.isDirectory path) (c :: rest)
          else []

/-- Whether a component matches the name of an entry: the name is a text, and that is matched. -/
def Component.matchesEntry (c : Component) (name : Name) : Bool :=
  match Utf8.strict? name.val with
  | some s => c.matchesName s
  | none => false

/-- What the components make of an entry by its own name: whether it is found, and further tasks. -/
def tryName (t : Tree) (wantsDirectory : Bool) (path : Bytes) (name : Name) (isDirectory : Bool) :
    List Component → List Bytes × List Task
  | [] => ([], [])
  | c :: rest =>
      if c.matchesEntry name then
        match rest with
        | [] => (if wantsDirectory && !isDirectory then [] else [path], [])
        | _ :: _ => ([], tasksIn t path isDirectory rest)
      else ([], [])

/-- What one task finds at once, and the tasks it gives rise to. -/
def perform (t : Tree) (wantsDirectory : Bool) : Task → List Bytes × List Task
  | .found path isDirectory => (if wantsDirectory && !isDirectory then [] else [path], [])
  | .entry path name isDirectory components =>
      match components with
      | .directories :: rest =>
          let rest := rest.dropWhile (· == .directories)
          let below := if isDirectory then tasksIn t path true (.directories :: rest) else []
          match rest with
          | [] => (if isDirectory then [path] else [], below)
          | _ :: _ =>
              let (paths, tasks) := tryName t wantsDirectory path name isDirectory rest
              (paths, tasks ++ below)
      | components => tryName t wantsDirectory path name isDirectory components

/-- The paths that a list of tasks finds, at most `depth` levels deep. -/
def visit (t : Tree) (wantsDirectory : Bool) : Nat → List Task → List Bytes
  | 0, _ => []
  | depth + 1, tasks =>
      tasks.flatMap fun task =>
        let (paths, further) := perform t wantsDirectory task
        paths ++ visit t wantsDirectory depth further

/-- The paths of a tree that a pattern matches, in the order of the walk. -/
def paths (t : Tree) (p : Pattern) : List Bytes :=
  let here : Bytes := if p.isAbsolute then [Path.slash] else [Path.dot]
  visit t p.wantsDirectory (Path.limit + p.components.length + 1)
    (tasksIn t here (t.isDirectory here) p.components)

end ScriptLint.Glob
