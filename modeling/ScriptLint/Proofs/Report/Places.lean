import ScriptLint.Proofs.Report.Reader

set_option autoImplicit false

/-!
What a report says, place by place.

The reader keeps no account of what it has passed over, so what a line gives can be told
from its place: the line itself and the one behind it decide. `contribution?` says what
the line in a place gives, in terms of the places alone. That the places agree with the
reader means two things for someone who only sees the report: every header is reported
once and in its turn, and none of them has been taken for the evidence of the one
before.
-/

namespace ScriptLint

/-- The header that a diagnostic was begun by. -/
def Diagnostic.header (d : Diagnostic) : Header := ⟨d.file, d.line, d.message⟩

namespace Report

variable {files : List Text}

/-- The line behind a place, if there is one, it is not empty, and it is no header. -/
def evidenceBehind (files lines : List Text) (i : Nat) : Option Text :=
  lines[i + 1]?.filter fun next => !next.isEmpty && (Header.read? files next).isNone

/-- What the line in a place gives: nothing if it is no header, and otherwise a diagnostic
of its file, line number and message, with evidence if it is an error and there is some. -/
def contribution? (files lines : List Text) (i : Nat) : Option Diagnostic :=
  (lines[i]?.bind (Header.read? files)).map fun h =>
    let kind := Kind.ofMessage h.message
    ⟨h.file, h.line, kind, h.message,
      if kind = .error then evidenceBehind files lines i else none⟩

/-! ## The first place and the later ones -/

/-- The evidence of the first line is what the peeking loop sees behind it. -/
private theorem evidenceBehind_zero (line : Text) (rest : List Text) :
    evidenceBehind files (line :: rest) 0 = evidence? files rest := by
  cases rest with
  | nil => rfl
  | cons next rest =>
      rw [evidenceBehind, List.getElem?_cons_succ, List.getElem?_cons_zero, Option.filter_some,
        evidence?]
      cases next.isEmpty <;> cases Header.read? files next <;> rfl

/-- The first line contributes what the loop makes of it. -/
private theorem contribution?_zero (line : Text) (rest : List Text) :
    contribution? files (line :: rest) 0 = diagnosticAt files line rest := by
  rw [contribution?, List.getElem?_cons_zero, Option.bind_some, evidenceBehind_zero]
  rfl

/-- A line in front moves every place by one. -/
private theorem contribution?_succ (line : Text) (rest : List Text) (i : Nat) :
    contribution? files (line :: rest) (i + 1) = contribution? files rest i := by
  simp only [contribution?, evidenceBehind, List.getElem?_cons_succ]

/-- The loop that peeks at the next line is a function of the places: induction on the lines, with
the places of the tail moved up by one. -/
theorem eachLine_eq_filterMap (lines : List Text) :
    eachLine files lines = (List.range lines.length).filterMap (contribution? files lines) := by
  induction lines with
  | nil => rfl
  | cons line rest ih =>
      -- the first place by itself, and the later ones as places of the rest
      have hlater : contribution? files (line :: rest) ∘ Nat.succ = contribution? files rest :=
        funext (contribution?_succ line rest)
      rw [eachLine, ih, List.length_cons, List.range_succ_eq_map, List.filterMap_cons,
        contribution?_zero, List.filterMap_map, hlater]
      cases diagnosticAt files line rest <;> rfl

/-! ## Headers -/

/-- Peeking never takes a line away: the headers are those of the lines, in their order. -/
private theorem map_header_eachLine (lines : List Text) :
    (eachLine files lines).map Diagnostic.header = lines.filterMap (Header.read? files) := by
  induction lines with
  | nil => rfl
  | cons line rest ih =>
      cases hread : Header.read? files line with
      | none => rw [eachLine_cons_of_read?_none hread, List.filterMap_cons_none hread, ih]
      | some h =>
          rw [eachLine_cons_of_read? hread, List.filterMap_cons_some hread, List.map_cons, ih]
          rfl

/-- What a line has as evidence is no header. -/
private theorem read?_of_mem_evidence {d : Diagnostic} {lines : List Text} {e : Text}
    (hd : d ∈ eachLine files lines) (he : d.evidence = some e) : Header.read? files e = none := by
  rw [eachLine_eq_filterMap, List.mem_filterMap] at hd
  obtain ⟨i, -, hi⟩ := hd
  rw [contribution?, Option.map_eq_some_iff] at hi
  obtain ⟨h, -, rfl⟩ := hi
  simp only at he
  split at he
  · rw [evidenceBehind, Option.filter_eq_some_iff, Bool.and_eq_true, Option.isNone_iff_eq_none]
      at he
    exact he.2.2
  · exact absurd he (by simp)

/-- **A report is read place by place.** Going through the places of the lines in order, a
line that is a header gives one diagnostic with its file, its line number and its message,
and any other line gives none. The kind is that of the message. Evidence is the line
behind an error, provided that there is one, it is not empty, and it is no header.

So the headers of the report are reported each once and in order, none of them is
evidence, and every file that is named is one of the files. -/
theorem diagnostics_by_place (files : List Text) (report : Text) :
    let lines := report.lines
    let found := diagnostics files report
    found = (List.range lines.length).filterMap (contribution? files lines)
      ∧ found.map Diagnostic.header = lines.filterMap (Header.read? files)
      ∧ ∀ d ∈ found, d.file ∈ files
          ∧ ∀ e, d.evidence = some e → Header.read? files e = none := by
  intro lines found
  have hfound : found = eachLine files lines := diagnostics_eq_eachLine files report
  rw [hfound]
  refine ⟨eachLine_eq_filterMap lines, map_header_eachLine lines, fun d hd => ⟨?_, ?_⟩⟩
  · obtain ⟨line, -, h, evidence, hread, rfl⟩ := mem_eachLine hd
    exact (Header.read?_eq_some_iff.1 hread).1
  · exact fun e he => read?_of_mem_evidence hd he

/-- An error with another one right behind it, that one with evidence, an error with an
empty line behind it, and one at the very end. -/
theorem diagnostics_by_place_of_neighbours :
    let files : List Text := [['a']]
    let report : Text := "a 1: X\na 2: Y\n  y\na 3: Z\n\na 4: W".toList
    let second : Diagnostic := ⟨['a'], 2, .error, ['Y'], some "  y".toList⟩
    diagnostics files report
        = [⟨['a'], 1, .error, ['X'], none⟩, second, ⟨['a'], 3, .error, ['Z'], none⟩,
            ⟨['a'], 4, .error, ['W'], none⟩]
      ∧ second ∈ diagnostics files report ∧ second.file ∈ files
      ∧ ∀ e, second.evidence = some e → Header.read? files e = none := by
  intro files report second
  obtain ⟨hplaces, -, hall⟩ := diagnostics_by_place files report
  have hread : diagnostics files report
      = [⟨['a'], 1, .error, ['X'], none⟩, second, ⟨['a'], 3, .error, ['Z'], none⟩,
          ⟨['a'], 4, .error, ['W'], none⟩] := by
    rw [hplaces]
    decide
  have hmem : second ∈ diagnostics files report := by simp [hread]
  exact ⟨hread, hmem, hall second hmem⟩

end Report

end ScriptLint
