import ScriptLint.Proofs.Process.StandIn
import ScriptLint.Proofs.Run.Stages
import ScriptLint.Proofs.Tree.Lookup
import ScriptLint.Report.Form

set_option autoImplicit false

/-!
A run from end to end.

With the leak reaction in the place of the interpreter it is known what a run has to
find: the files that mention the word in their path or in their contents. The way there
leads through everything else. Contents of any bytes are decoded, escaped and put on a
line of their own; that changes nothing about the word. The engine and the routine keep
off these lines. The findings come back as bytes, and as headers whose names may overlap
in any way; since their messages have no colon, each of them is read with its own name.
-/

namespace ScriptLint

namespace StandIn

/-- Whether the word occurs in the path or in the contents of a file. -/
def leaks (path : Text) (contents : Bytes) : Bool :=
  Part.holds "leak".toList path || Part.holds leak contents

/-- Decoding changes nothing about the word. -/
private theorem mentions_lossy (path : Text) (contents : Bytes) :
    mentions ⟨path, Utf8.lossy contents⟩ = leaks path contents := by
  have hword : leak = Utf8.encode word := rfl
  rw [mentions, leaks, hword,
    Utf8.holds_of_agree plain_word.ne_nil (by decide) (Utf8.agree_lossy contents)]
  rfl

/-- A finding can be printed and read back. -/
private theorem printable_finding {files : List Text} {path : Text} (hpath : path ∈ files) :
    Report.Printable files (finding path) := by
  have hline : '\n' ∉ wording := by decide
  have hend : wording.getLast? ≠ some '\r' := by decide
  have hkind : Kind.ofMessage wording = .impliedGlobal := by decide
  exact Report.printable_of_evidence_none hpath hline hend hkind rfl

/-- A printed report of findings is read back as those findings, also when one name opens another.
-/
private theorem diagnostics_findings {files paths : List Text} (hfeed : ∀ f ∈ files, '\n' ∉ f)
    (hpaths : ∀ path ∈ paths, path ∈ files) :
    Report.diagnostics files (Report.print (paths.map finding)) = paths.map finding := by
  have hcolon : ':' ∉ wording := by decide
  apply Report.diagnostics_print_of_colon_not_mem
  · exact List.forall_mem_map.2 fun path hpath => hfeed path (hpaths path hpath)
  · exact List.forall_mem_map.2 fun path hpath => printable_finding (hpaths path hpath)
  · exact List.forall_mem_map.2 fun _ _ => hcolon

/-- Findings leave something to read. -/
theorem encode_print_eq_nil_iff {paths : List Text} :
    Utf8.encode (Report.print (paths.map finding)) = [] ↔ paths = [] := by
  constructor
  · intro h
    cases paths with
    | nil => rfl
    | cons path paths =>
        have hmem : '\n' ∈ Report.print ((path :: paths).map finding) := by
          rw [List.map_cons, Report.print_cons, print_finding]
          simp
        have hbyte := (Utf8.ofNat_toNat_mem_encode (by decide)).2 hmem
        rw [h] at hbyte
        exact absurd hbyte List.not_mem_nil
  · rintro rfl
    rfl

end StandIn

/-- The sources as pairs of a path and its decoded contents. -/
theorem sourcesOf_eq_map (paths : List Text) (contents : List Bytes) :
    sourcesOf paths contents = (paths.zip contents).map fun f => ⟨f.1, Utf8.lossy f.2⟩ := by
  rw [sourcesOf, List.zip_eq_zipWith, List.map_zipWith]

/-- The paths of the files that leak, in order. -/
def leakingPaths (paths : List Text) (contents : List Bytes) : List Text :=
  ((paths.zip contents).filter fun f => StandIn.leaks f.1 f.2).map Prod.fst

/-- The sources that mention the word are those of the leaking paths, in the same order. -/
private theorem filter_mentions_sourcesOf (paths : List Text) (contents : List Bytes) :
    ((sourcesOf paths contents).filter StandIn.mentions).map (fun f => StandIn.finding f.path)
      = (leakingPaths paths contents).map StandIn.finding := by
  have hword : StandIn.mentions ∘ (fun f : Text × Bytes => ⟨f.1, Utf8.lossy f.2⟩)
      = fun f => StandIn.leaks f.1 f.2 := funext fun f => StandIn.mentions_lossy f.1 f.2
  rw [sourcesOf_eq_map, List.filter_map, hword, List.map_map, leakingPaths, List.map_map]
  rfl

/-- **A run finds the files that leak, and nothing else.** Take files that can be read,
with any contents, and names that need no escape, one the beginning of another or not;
an engine and options that do not call the routine themselves; and an interpreter that
reports each call that mentions the word. Then the run succeeds, its diagnostics are one
for each file with the word in its path or in its contents, in the order of the files,
and its exit code tells whether there is one. -/
theorem lintWith_reports_leaks (m : Machine) (engine : Engine) (r : Request)
    (contents : List Bytes) (status : WaitStatus)
    (readable : (r.files.map fun path : Text => m.tree.read path) = contents.map .ok)
    (unescaped : ∀ path ∈ r.files, path.any Literal.needsEscape = false)
    (silent_engine : Routine.Uncalled engine.source)
    (silent_options : Routine.Uncalled r.options.script)
    (started : m.start r.interpreter = .ok (StandIn.executable ⟨.leaks, [], status⟩)) :
    ∃ o, (r.lintWith m engine).result = .ok o
      ∧ o.diagnostics r.files = (leakingPaths r.files contents).map (fun path =>
          ⟨path, 1, .impliedGlobal, "implied global 'leak'".toList, none⟩)
      ∧ o.exitCode = if leakingPaths r.files contents = [] then 0 else 1 := by
  have hlisted : ∀ path ∈ leakingPaths r.files contents, path ∈ r.files := by
    intro path hpath
    obtain ⟨⟨name, bytes⟩, hzip, rfl⟩ := List.mem_map.1 hpath
    exact (List.of_mem_zip (List.mem_filter.1 hzip).1).1
  have hpaths : ∀ f ∈ sourcesOf r.files contents, f.path.any Literal.needsEscape = false := by
    intro f hf
    rw [sourcesOf_eq_map] at hf
    obtain ⟨⟨path, bytes⟩, hzip, rfl⟩ := List.mem_map.1 hf
    exact unescaped path (List.of_mem_zip hzip).1
  have hfeed : ∀ path ∈ r.files, '\n' ∉ path := by
    intro path hpath
    exact Literal.not_mem_of_any_eq_false (unescaped path hpath) (by decide)
  -- what is printed is the report of the findings
  let o : Outcome :=
    ⟨Utf8.encode (Report.print ((leakingPaths r.files contents).map StandIn.finding)), status⟩
  have houtput := StandIn.react_leaks_assemble r.interpreter.args silent_engine silent_options hpaths
  rw [filter_mentions_sourcesOf] at houtput
  have hresult : (r.lintWith m engine).result = .ok o := by
    rw [Request.lintWith_result, each_read_result readable]
    refine Machine.converse_result_eq_ok_iff.2 ⟨_, started, ?_⟩
    simp only [StandIn.executable, houtput, List.flatten_nil, List.append_nil, o]
  refine ⟨o, hresult, ?_, ?_⟩
  · rw [Outcome.diagnostics, Outcome.text, Utf8.lossy_encode]
    exact StandIn.diagnostics_findings hfeed hlisted
  · rw [Outcome.exitCode, Outcome.isClean]
    by_cases hnone : leakingPaths r.files contents = []
    · rw [if_pos hnone, if_pos]
      exact List.isEmpty_iff.2 (StandIn.encode_print_eq_nil_iff.2 hnone)
    · rw [if_neg hnone, if_neg]
      exact fun hempty => hnone (StandIn.encode_print_eq_nil_iff.1 (List.isEmpty_iff.1 hempty))

/-- Two names of which one goes on behind the other like a header, one of them listed
twice. The word is behind a byte that is no text, and in front of a quotation mark. -/
theorem lintWith_reports_leaks_of_overlapping :
    let plain : Text := ['a']
    let longer : Text := ['a', ' ', '1', ':', ' ', 'b']
    let leaking : Bytes := [0xFF, 0x6C, 0x65, 0x61, 0x6B, 0x22]
    let a : Name := ⟨Utf8.encode plain, by decide⟩
    let b : Name := ⟨Utf8.encode longer, by decide⟩
    let t : Tree :=
      ⟨[(⟨.above 0, [a]⟩, .file leaking .data), (⟨.above 0, [b]⟩, .file [] .data)], by decide⟩
    let m : Machine := ⟨t, [("js".toList, StandIn.executable ⟨.leaks, [], .exited 0⟩)], []⟩
    let engine : Engine := ⟨['e'], ['/', '/', '\n']⟩
    let r : Request := ⟨[plain, longer, plain], .unspecified, ['e'], Interpreter.standard⟩
    let found : Diagnostic := ⟨plain, 1, .impliedGlobal, "implied global 'leak'".toList, none⟩
    ∃ o, (r.lintWith m engine).result = .ok o ∧ o.diagnostics r.files = [found, found]
      ∧ o.exitCode = 1 := by
  intro plain longer leaking a b t m engine r found
  have hplain : t.read plain = .ok leaking := Tree.read_of_isEntryName (by decide) rfl
  have hlonger : t.read longer = .ok [] := Tree.read_of_isEntryName (by decide) rfl
  have readable : (r.files.map fun path : Text => m.tree.read path)
      = [leaking, [], leaking].map .ok := by
    simp only [r, m, List.map_cons, List.map_nil, hplain, hlonger]
  have hleaking : leakingPaths r.files [leaking, [], leaking] = [plain, plain] := by decide
  have hfound := lintWith_reports_leaks m engine r [leaking, [], leaking] (.exited 0) readable
    (by decide) (by unfold Routine.Uncalled; decide) (by unfold Routine.Uncalled; decide) rfl
  rw [hleaking] at hfound
  exact hfound

end ScriptLint
