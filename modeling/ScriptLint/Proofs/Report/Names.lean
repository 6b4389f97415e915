import ScriptLint.Proofs.Report.RoundTrip

set_option autoImplicit false

/-!
Which names make a difference.

A header is read with the longest name that fits, and a list of names is gone through to find
it. Names that fit one line and are equally long are the same name, so it makes no difference
where in the list a name stands, or how often: `Header.read?_eq_some_iff` says what is read in
terms of membership alone. From there it goes on to evidence, which is refused if it is a
header, and so to every line of a report.

Only names that open a line of the report count, and a line has no line feed in it. Among the
names without a line feed, on the other hand, each one counts, since there is a report that it
is named in. So two lists are told apart by some report exactly if some such name is in one of
them only.
-/

namespace ScriptLint

variable {files files' : List Text} {line name report : Text}

/-! ## One line -/

namespace Header

/-- What is read with some names is read with other ones, if the names that open the line are
the same. -/
theorem read?_eq_some_of_same {h : Header}
    (hsame : ∀ name, name <+: line → (name ∈ files ↔ name ∈ files'))
    (hread : read? files line = some h) : read? files' line = some h := by
  obtain ⟨hmem, hfile, hlongest⟩ := read?_eq_some_iff.1 hread
  refine read?_eq_some_iff.2 ⟨(hsame h.file (prefix_of_ofFile? hfile)).1 hmem, hfile, ?_⟩
  intro k hk hkfile
  exact hlongest k ((hsame k.file (prefix_of_ofFile? hkfile)).2 hk) hkfile

/-- **A line is read alike with names of the same set.** -/
theorem read?_congr (hsame : ∀ name, name <+: line → (name ∈ files ↔ name ∈ files')) :
    read? files line = read? files' line := by
  apply Option.ext
  intro h
  constructor
  · exact read?_eq_some_of_same hsame
  · exact read?_eq_some_of_same fun name hname => (hsame name hname).symm

end Header

namespace Report

/-! ## All lines -/

/-- Evidence is refused alike if the lines are read alike. -/
private theorem evidence?_congr {lines : List Text}
    (hread : ∀ line ∈ lines, Header.read? files line = Header.read? files' line) :
    evidence? files lines = evidence? files' lines := by
  cases lines with
  | nil => rfl
  | cons next rest => rw [evidence?, evidence?, hread next List.mem_cons_self]

/-- The diagnostics depend on the names only through the headers they give. -/
private theorem eachLine_congr {lines : List Text}
    (hread : ∀ line ∈ lines, Header.read? files line = Header.read? files' line) :
    eachLine files lines = eachLine files' lines := by
  induction lines with
  | nil => rfl
  | cons line rest ih =>
      have hrest : ∀ l ∈ rest, Header.read? files l = Header.read? files' l :=
        fun l hl => hread l (List.mem_cons_of_mem line hl)
      rw [eachLine, eachLine, diagnosticAt, diagnosticAt, hread line List.mem_cons_self,
        evidence?_congr hrest, ih hrest]

/-! ## A report that names a file -/

/-- A diagnostic that any file may have. -/
def mention (name : Text) : Diagnostic :=
  ⟨name, 1, .impliedGlobal, "implied global 'x'".toList, none⟩

/-- A report of one mention is read as that mention, whatever the other names are. -/
private theorem diagnostics_print_mention (hmem : name ∈ files) (hname : '\n' ∉ name) :
    diagnostics files (print [mention name]) = [mention name] := by
  have hline : '\n' ∉ "implied global 'x'".toList := by decide
  have hend : "implied global 'x'".toList.getLast? ≠ some '\r' := by decide
  have hkind : Kind.ofMessage "implied global 'x'".toList = .impliedGlobal := by decide
  have hcolon : ':' ∉ "implied global 'x'".toList := by decide
  have hprintable : Printable files (mention name) :=
    printable_of_evidence_none hmem hline hend hkind rfl
  apply diagnostics_print_of_colon_not_mem
  · exact List.forall_mem_singleton.2 hname
  · exact List.forall_mem_singleton.2 hprintable
  · exact List.forall_mem_singleton.2 hcolon

/-- A file that is named in a report is one of the files. -/
private theorem file_mem_of_mem_diagnostics {d : Diagnostic} (hd : d ∈ diagnostics files report) :
    d.file ∈ files := by
  rw [diagnostics_eq_eachLine] at hd
  obtain ⟨line, -, h, evidence, hread, rfl⟩ := mem_eachLine hd
  exact (Header.read?_eq_some_iff.1 hread).1

/-- Equal readings have equal names: the report that mentions a listed name is read as that mention,
and only a listed name is ever the file of a diagnostic. -/
theorem mem_of_diagnostics_eq
    (hequal : ∀ report, diagnostics files report = diagnostics files' report)
    (hname : '\n' ∉ name) (hmem : name ∈ files) : name ∈ files' := by
  have hmention : mention name ∈ diagnostics files' (print [mention name]) := by
    rw [← hequal, diagnostics_print_mention hmem hname]
    exact List.mem_singleton.2 rfl
  exact file_mem_of_mem_diagnostics hmention

/-- **A report is read by the set of names.** Two lists of names give the same diagnostics for
every report if and only if they have the same members, where names with a line feed in them do
not count. In particular neither the order of the names nor their repetition makes a
difference. -/
theorem diagnostics_eq_iff_same_names (files files' : List Text) :
    (∀ report, diagnostics files report = diagnostics files' report)
      ↔ ∀ name, '\n' ∉ name → (name ∈ files ↔ name ∈ files') := by
  constructor
  · intro hequal name hname
    exact ⟨mem_of_diagnostics_eq hequal hname,
      mem_of_diagnostics_eq (fun report => (hequal report).symm) hname⟩
  · intro hsame report
    rw [diagnostics_eq_eachLine, diagnostics_eq_eachLine]
    apply eachLine_congr
    intro line hline
    apply Header.read?_congr
    intro name hname
    -- a name that opens a line has no line feed in it
    apply hsame
    intro hfeed
    exact feed_not_mem_of_mem_lines hline (hname.subset hfeed)

/-- Names one of which opens the other, in two orders and one of them twice, and a line that
is a header of both. -/
theorem diagnostics_eq_iff_same_names_of_overlapping :
    let files : List Text := ["my".toList, "my 1:".toList, "my".toList]
    let files' : List Text := ["my 1:".toList, "my".toList]
    let report : Text := "my 1: 2: Bad.\nmy 3: 4".toList
    let found : List Diagnostic :=
      [⟨"my 1:".toList, 2, .error, "Bad.".toList, none⟩, ⟨"my".toList, 3, .error, ['4'], none⟩]
    (∀ name, '\n' ∉ name → (name ∈ files ↔ name ∈ files'))
      ∧ diagnostics files' report = found ∧ diagnostics files report = found := by
  intro files files' report found
  have hsame : ∀ name, '\n' ∉ name → (name ∈ files ↔ name ∈ files') := by
    intro name _
    simp only [files, files', List.mem_cons, List.not_mem_nil, or_false]
    constructor
    · rintro (h | h | h)
      · exact .inr h
      · exact .inl h
      · exact .inr h
    · rintro (h | h)
      · exact .inr (.inl h)
      · exact .inl h
  have hread : diagnostics files' report = found := by
    rw [diagnostics_eq_eachLine]
    decide
  refine ⟨hsame, hread, ?_⟩
  rw [(diagnostics_eq_iff_same_names files files').2 hsame report]
  exact hread

end Report

end ScriptLint
