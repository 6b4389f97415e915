import ScriptLint.Proofs.Run.Attempt
import ScriptLint.Proofs.Script.Statements
import ScriptLint.Proofs.Tree.Lookup

set_option autoImplicit false

/-!
The script that an interpreter is given.

A run with sources that can all be read hands over the engine, the routine with the
options, and one line for each file. The lines depend on the files alone, not on the
engine, the options or the interpreter. They are read back as the files, so no path and
no contents, whatever they hold, can add a statement, take one away, or move one.
-/

namespace ScriptLint

/-- The sources that paths and the contents found there make. -/
def sourcesOf (paths : List Text) (contents : List Bytes) : List Source :=
  List.zipWith (fun path bytes => ⟨path, Utf8.lossy bytes⟩) paths contents

/-- Sources that can all be read are read in the order in which they are listed. -/
theorem each_read_result {t : Tree} {paths : List Text} {contents : List Bytes}
    (h : (paths.map fun path : Text => t.read path) = contents.map .ok) :
    (Attempt.each (Source.read t) paths).result = .ok (sourcesOf paths contents) := by
  apply Attempt.each_result_of_map_eq
  induction paths generalizing contents with
  | nil =>
      cases contents with
      | nil => rfl
      | cons bytes contents => exact absurd h (by simp)
  | cons path paths ih =>
      cases contents with
      | nil => exact absurd h (by simp)
      | cons bytes contents =>
          rw [List.map_cons, List.map_cons] at h
          obtain ⟨hbytes, hrest⟩ := List.cons.inj h
          rw [List.map_cons, Source.read_result_of_ok hbytes, ih hrest]
          rfl

/-- There is one source for each path. -/
private theorem length_sourcesOf {t : Tree} {paths : List Text} {contents : List Bytes}
    (h : (paths.map fun path : Text => t.read path) = contents.map .ok) :
    (sourcesOf paths contents).length = paths.length := by
  have hlen : paths.length = contents.length := by
    have hlengths := congrArg List.length h
    rwa [List.length_map, List.length_map] at hlengths
  rw [sourcesOf, List.length_zipWith, hlen, Nat.min_self]

/-- **One line for each file, and nothing else.** Behind the engine and the routine an
interpreter is given a tail of closed lines, as many as there are files. No line end of
any kind stands inside a line, and the tail is read as the list of the paths, each with
the contents found there. -/
theorem lintWith_hands_over_one_line_each (t : Tree) (paths : List Text) (contents : List Bytes)
    (readable : (paths.map fun path : Text => t.read path) = contents.map .ok) :
    ∃ (tail : Text) (lines : List Text),
      (∀ (programs : List (Text × Executable)) (home : Text) (engine : Engine)
          (options : Options) (enginePath : Text) (interpreter : Interpreter),
        (Request.lintWith ⟨t, programs, home⟩ engine
            ⟨paths, options, enginePath, interpreter⟩).result
          = (Machine.converse ⟨t, programs, home⟩ interpreter
              (Utf8.encode (engine.source ++ Routine.text options ++ tail))).result)
        ∧ tail = Report.ofLines lines ∧ lines.length = paths.length
        ∧ (∀ line ∈ lines, ∀ e ∈ Literal.lineEnds, e ∉ line)
        ∧ Script.readStatements? tail = some (sourcesOf paths contents) := by
  refine ⟨Script.statements (sourcesOf paths contents),
    (sourcesOf paths contents).map Script.statementLine, ?_, Script.statements_eq_ofLines _, ?_, ?_,
    Script.readStatements?_statements _⟩
  · intro programs home engine options enginePath interpreter
    rw [Request.lintWith_result, each_read_result readable]
    rfl
  · rw [List.length_map, length_sourcesOf readable]
  · intro line hline e he
    obtain ⟨f, -, rfl⟩ := List.mem_map.1 hline
    exact Script.not_mem_statementLine he f

/-- A file whose name is a quotation mark, and a link to it. Its contents close a
literal and a statement and go on with a line feed, a byte that is no text, and a
backslash. -/
theorem lintWith_hands_over_one_line_each_of_two :
    let bytes : Bytes := [0x22, 0x29, 0x3B, 0x0A, 0xFF, 0x5C]
    let mark : Name := ⟨Utf8.encode ['"'], by decide⟩
    let b : Name := ⟨Utf8.encode ['b'], by decide⟩
    let t : Tree :=
      ⟨[(⟨.above 0, [mark]⟩, .file bytes .data), (⟨.above 0, [b]⟩, .link mark.val)], by decide⟩
    let paths : List Text := [['b'], ['.', '/', '"']]
    let contents : Text := ['"', ')', ';', '\n', '\uFFFD', '\\']
    (paths.map fun path : Text => t.read path) = [bytes, bytes].map .ok
      ∧ ∃ (tail : Text) (lines : List Text),
        (∀ (programs : List (Text × Executable)) (home : Text) (engine : Engine)
            (options : Options) (enginePath : Text) (interpreter : Interpreter),
          (Request.lintWith ⟨t, programs, home⟩ engine
              ⟨paths, options, enginePath, interpreter⟩).result
            = (Machine.converse ⟨t, programs, home⟩ interpreter
                (Utf8.encode (engine.source ++ Routine.text options ++ tail))).result)
          ∧ tail = Report.ofLines lines ∧ lines.length = 2
          ∧ (∀ line ∈ lines, ∀ e ∈ Literal.lineEnds, e ∉ line)
          ∧ Script.readStatements? tail
              = some [⟨['b'], contents⟩, ⟨['.', '/', '"'], contents⟩] := by
  intro bytes mark b t paths contents
  have hmark : ∀ links, t.walk .look links .working [.into mark] = .ok (.occupied ⟨.above 0, [mark]⟩) :=
    fun links => Tree.walk_into_file (by decide) rfl
  have hlink : t.find .look (Utf8.encode ['b']) = .ok (⟨.above 0, [mark]⟩, .file bytes .data) := by
    have hsteps : Path.steps (Utf8.encode ['b']) = [.into b] := by decide
    have htarget : Path.steps mark.val ++ [] = [.into mark] := by decide
    have hrelative : Path.isAbsolute mark.val = false := by decide
    refine Tree.find_of_walk (by decide) (by decide) ?_ rfl
    rw [hsteps, Tree.linkLimit, Tree.walk_into_link (by decide) rfl, htarget, hrelative]
    exact hmark 39
  have hfile : t.find .look (Utf8.encode ['.', '/', '"'])
      = .ok (⟨.above 0, [mark]⟩, .file bytes .data) := by
    have hsteps : Path.steps (Utf8.encode ['.', '/', '"']) = [.here, .into mark] := by decide
    refine Tree.find_of_walk (by decide) (by decide) ?_ rfl
    rw [hsteps, Tree.walk]
    exact hmark Tree.linkLimit
  have readable : (paths.map fun path : Text => t.read path) = [bytes, bytes].map .ok := by
    simp only [paths, List.map_cons, List.map_nil, Tree.read_of_find hlink, Tree.read_of_find hfile]
  have hsources : sourcesOf paths [bytes, bytes]
      = [⟨['b'], contents⟩, ⟨['.', '/', '"'], contents⟩] := by decide
  have hover := lintWith_hands_over_one_line_each t paths [bytes, bytes] readable
  rw [hsources] at hover
  exact ⟨readable, hover⟩

end ScriptLint
