import ScriptLint.Proofs.Report.Reader
import ScriptLint.Proofs.Text.Encoding
import ScriptLint.Proofs.Text.Json
import ScriptLint.Report.Document

set_option autoImplicit false

/-!
The machine-readable report, from the side of the one who reads it.

What is written is one JSON document and a line feed. A reader of JSON gets the members
back as they were given (`Json.read?_print_append`), and what a consumer takes from them
is what the outcome says. Texts may hold anything: the marks, backslashes and controls
that need an escape, and the mark that decoding leaves for broken bytes.

A consumer may rely on one thing more. A report that is not clean shows something, either
a diagnostic or the text in which none was recognised; a clean report shows nothing.
-/

namespace ScriptLint

/-! ## Diagnostics -/

/-- The labels of the three kinds are different texts. -/
private theorem Kind.ofLabel?_label (kind : Kind) : Kind.ofLabel? kind.label = some kind := by
  cases kind <;> decide

/-- A line number fits its type, so reading it back from the document loses nothing. -/
private theorem Json.numberAt?_of_lookup {ms : List (Text × Json)} {name : Text} {n : UInt32}
    (h : ms.lookup name = some (.number n.toNat)) : Json.numberAt? ms name = some n := by
  rw [numberAt?, h]
  simp only [if_pos n.toNat_lt_size, UInt32.ofNat_toNat]

/-- A member for a text, if there is one. -/
def Json.optionalMember (name : Text) (value : Option Text) : List (Text × Json) :=
  (value.map fun s => (name, string s)).toList

/-- The members of the object of a diagnostic. -/
def Diagnostic.members (d : Diagnostic) : List (Text × Json) :=
  [("file".toList, .string d.file), ("line".toList, .number d.line.toNat),
   ("kind".toList, .string d.kind.label), ("message".toList, .string d.message)]
  ++ Json.optionalMember "evidence".toList d.evidence

/-- A diagnostic as a list of members, which is the form that look-ups by name read. -/
theorem Diagnostic.json_eq (d : Diagnostic) : d.json = .object d.members := by
  rw [json, members]
  cases d.evidence <;> rfl

/-- **A diagnostic is read back**, with evidence exactly if it has some. -/
theorem Diagnostic.ofJson?_json (d : Diagnostic) : Diagnostic.ofJson? d.json = some d := by
  rw [json_eq]
  obtain ⟨file, line, kind, message, evidence⟩ := d
  let ms : List (Text × Json) := members ⟨file, line, kind, message, evidence⟩
  -- the members are told from one another by their names, whatever their values are
  have hmembers : (Json.object ms).members?
      ["file".toList, "line".toList, "kind".toList, "message".toList, "evidence".toList]
        = some ms := by
    cases evidence <;> rfl
  have hfile : Json.textAt? ms "file".toList = some file := rfl
  have hline : Json.numberAt? ms "line".toList = some line := Json.numberAt?_of_lookup rfl
  have hkind : Json.textAt? ms "kind".toList = some kind.label := rfl
  have hmessage : Json.textAt? ms "message".toList = some message := rfl
  have hevidence : Json.optionalTextAt? ms "evidence".toList = some evidence := by
    cases evidence <;> rfl
  simp only [ofJson?, ms, hmembers, hfile, hline, hkind, Kind.ofLabel?_label, hmessage, hevidence,
    Option.bind_eq_bind, Option.bind_some]

/-- The diagnostics of a document are read back one by one. -/
private theorem Diagnostic.mapM_ofJson?_json (ds : List Diagnostic) :
    (ds.map Diagnostic.json).mapM Diagnostic.ofJson? = some ds := by
  induction ds with
  | nil => rfl
  | cons d ds ih =>
      rw [List.map_cons, List.mapM_cons, Diagnostic.ofJson?_json, ih]
      rfl

/-! ## Reports -/

namespace Outcome

variable (o : Outcome) (files : List Text)

/-- Nothing is found where nothing was printed. -/
private theorem diagnostics_eq_nil_of_output (h : o.output = []) : o.diagnostics files = [] := by
  rw [diagnostics, text, h, Report.diagnostics_eq_eachLine]
  rfl

/-- What a consumer takes from the report of an outcome. -/
def document : Document where
  clean := o.output.isEmpty
  diagnostics := o.diagnostics files
  unparsed :=
    if o.output ≠ [] ∧ o.diagnostics files = [] then some (Utf8.lossy o.output) else none

/-- The members of the object of an outcome. -/
def members : List (Text × Json) :=
  [("clean".toList, .bool o.isClean),
   ("diagnostics".toList, .array ((o.diagnostics files).map Diagnostic.json))]
  ++ Json.optionalMember "unparsed".toList (o.document files).unparsed

theorem json_eq : o.json files = .object (o.members files) := by
  have hshown : ((o.diagnostics files).isEmpty && !o.isClean) = true
      ↔ o.output ≠ [] ∧ o.diagnostics files = [] := by
    simp only [isClean, Bool.and_eq_true, Bool.not_eq_true', List.isEmpty_eq_false_iff,
      List.isEmpty_iff]
    exact and_comm
  simp only [json, members, document]
  by_cases h : o.output ≠ [] ∧ o.diagnostics files = []
  · rw [if_pos (hshown.2 h), if_pos h]
    rfl
  · rw [if_neg fun hs => h (hshown.1 hs), if_neg h]
    rfl

/-- What a consumer takes from the value that the report prints is the document itself. Every
field is looked up by its name, so the order of the members plays no part. -/
theorem ofJson?_json : Document.ofJson? (o.json files) = some (o.document files) := by
  rw [json_eq]
  have hmembers : (Json.object (o.members files)).members?
      ["clean".toList, "diagnostics".toList, "unparsed".toList] = some (o.members files) := by
    rw [members]
    cases (o.document files).unparsed <;> rfl
  have hclean : Json.boolAt? (o.members files) "clean".toList = some o.isClean := rfl
  have hitems : Json.itemsAt? (o.members files) "diagnostics".toList
      = some ((o.diagnostics files).map Diagnostic.json) := rfl
  have hunparsed : Json.optionalTextAt? (o.members files) "unparsed".toList
      = some (o.document files).unparsed := by
    rw [members]
    cases (o.document files).unparsed <;> rfl
  simp only [Document.ofJson?, hmembers, hclean, hitems, Diagnostic.mapM_ofJson?_json, hunparsed,
    Option.bind_eq_bind, Option.bind_some]
  rfl

private theorem read?_report_json :
    Document.read? (o.report .json files) = some (o.document files) := by
  have hblanks : ∀ c ∈ ['\n'], c ∈ Json.blanks := by
    intro c hc
    rw [List.mem_singleton] at hc
    rw [hc]
    decide
  simp only [Document.read?, report, Utf8.strict?_encode, Option.bind_eq_bind, Option.bind_some,
    Json.read?_print_append _ hblanks]
  exact ofJson?_json o files

/-- A report that is not clean shows something, and a clean one shows nothing. -/
private theorem document_shows :
    ((o.document files).clean = true ∧ (o.document files).diagnostics = []
        ∧ (o.document files).unparsed = none)
      ∨ ((o.document files).clean = false
        ∧ ((o.document files).diagnostics ≠ []
          ∨ (o.document files).unparsed = some (Utf8.lossy o.output))) := by
  by_cases hempty : o.output = []
  · left
    refine ⟨List.isEmpty_iff.2 hempty, diagnostics_eq_nil_of_output o files hempty, if_neg ?_⟩
    exact fun h => h.1 hempty
  · right
    refine ⟨List.isEmpty_eq_false_iff.2 hempty, ?_⟩
    by_cases hnone : o.diagnostics files = []
    · exact .inr (if_pos ⟨hempty, hnone⟩)
    · exact .inl hnone

/-- **The machine-readable report is read back.** For any output and any files, what is
written is one JSON document and a line feed. What a consumer reads is whether there was
no output; the diagnostics of the outcome, field by field; and the decoded output exactly
if there was some and no diagnostic was recognised in it. So it is told either that the
run is clean, and nothing else, or that it is not, and then something is shown. -/
theorem report_json_read_back :
    ∃ (text : Text) (doc : Document),
      o.report .json files = Utf8.encode (text ++ ['\n'])
        ∧ Json.read? text = some (o.json files)
        ∧ Document.read? (o.report .json files) = some doc
        ∧ doc.clean = o.output.isEmpty
        ∧ doc.diagnostics = o.diagnostics files
        ∧ doc.unparsed
          = (if o.output ≠ [] ∧ o.diagnostics files = [] then some (Utf8.lossy o.output) else none)
        ∧ ((doc.clean = true ∧ doc.diagnostics = [] ∧ doc.unparsed = none)
          ∨ (doc.clean = false
            ∧ (doc.diagnostics ≠ [] ∨ doc.unparsed = some (Utf8.lossy o.output)))) := by
  have hdocument : Json.read? (o.json files).print = some (o.json files) := by
    have hread := Json.read?_print_append (o.json files) (fun _ h => absurd h List.not_mem_nil)
    rwa [List.append_nil] at hread
  exact ⟨(o.json files).print, o.document files, rfl, hdocument, read?_report_json o files, rfl, rfl,
    rfl, document_shows o files⟩

end Outcome

end ScriptLint
