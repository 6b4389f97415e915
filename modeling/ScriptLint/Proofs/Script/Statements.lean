import ScriptLint.Proofs.Report.Lines
import ScriptLint.Proofs.Script.Literal
import ScriptLint.Script.Statements

set_option autoImplicit false

/-!
The statements of a script, read back.

A statement is its line and a feed, and a list of statements is a text of closed lines.
The line holds no line end of any kind: its two literals do not, and the rest of it is
fixed.

Reading goes statement by statement. `read?` says where each literal ends, whatever the
path and the contents are and whatever follows, so the fixed parts between the literals
are found where they were written; then the reader stands at the next statement with the
rest untouched.
-/

namespace ScriptLint.Script

/-! ## One line for each file -/

/-- The line of a statement, without its feed. -/
def statementLine (f : Source) : Text :=
  Routine.name ++ '(' :: (Literal.quote f.path
    ++ ',' :: ' ' :: (Literal.quote f.contents ++ [')', ';']))

/-- A statement is one line with its feed. -/
theorem statement_eq_line (f : Source) : f.statement = statementLine f ++ ['\n'] := by
  simp only [Source.statement, statementLine, List.append_assoc, List.cons_append, List.nil_append]

/-- The statements are lines, one for each file. -/
theorem statements_eq_ofLines (files : List Source) :
    statements files = Report.ofLines (files.map statementLine) := by
  have hline : Source.statement = fun f => statementLine f ++ ['\n'] := funext statement_eq_line
  rw [statements, Report.ofLines, List.flatMap_map, hline]

/-- The first file has the first statement. -/
theorem statements_cons (f : Source) (files : List Source) :
    statements (f :: files) = f.statement ++ statements files := by
  rw [statements, List.flatMap_cons, ← statements]

/-- **Nothing ends the line of a statement but its feed.** -/
theorem not_mem_statementLine {e : Char} (he : e ∈ Literal.lineEnds) (f : Source) :
    e ∉ statementLine f := by
  -- what is fixed is looked through; the two literals hold no line end at all
  have hname : e ∉ Routine.name := by
    rcases Literal.mem_lineEnds_iff.1 he with rfl | rfl | rfl | rfl <;> decide
  have hfixed : e ∉ ['(', ',', ' ', ')', ';'] := by
    rcases Literal.mem_lineEnds_iff.1 he with rfl | rfl | rfl | rfl <;> decide
  simp only [List.mem_cons, List.not_mem_nil, or_false, not_or] at hfixed
  obtain ⟨hopen, hcomma, hblank, hclose, hend⟩ := hfixed
  simp [statementLine, hname, hopen, hcomma, hblank, hclose, hend,
    Literal.not_mem_quote he f.path, Literal.not_mem_quote he f.contents]

/-- Every statement calls the routine. -/
theorem head?_statementLine (f : Source) : (statementLine f).head? = some 'j' := rfl

/-! ## Reading -/

/-- **One statement.** It is read as its file, and what stands behind it is left as it
is. -/
theorem readStatement?_statement_append (f : Source) (rest : Text) :
    readStatement? (f.statement ++ rest) = some (f, rest) := by
  have hparts : f.statement ++ rest = (Routine.name ++ ['(']) ++ (Literal.quote f.path
      ++ ([',', ' '] ++ (Literal.quote f.contents ++ ([')', ';', '\n'] ++ rest)))) := by
    simp only [Source.statement, List.append_assoc]
  rw [hparts, readStatement?]
  simp only [Part.strip?_append_self, Literal.read?_quote_append, Option.bind_eq_bind,
    Option.bind_some]

/-- Statements are read in order, if there is room for all of them. -/
private theorem readAtMost?_statements {n : Nat} {files : List Source} (hn : files.length ≤ n) :
    readAtMost? n (statements files) = some files := by
  induction files generalizing n with
  | nil => cases n <;> rfl
  | cons f files ih =>
      cases n with
      | zero => exact absurd hn (Nat.not_succ_le_zero _)
      | succ n =>
          -- the text is not empty, since a statement can be read from it
          have hread := readStatement?_statement_append f (statements files)
          have hrest := ih (Nat.le_of_succ_le_succ hn)
          rw [← statements_cons] at hread
          cases hs : statements (f :: files) with
          | nil =>
              rw [hs, show readStatement? [] = none from rfl] at hread
              exact absurd hread (by simp)
          | cons c s =>
              rw [hs] at hread
              rw [readAtMost?, hread]
              simp only [Option.bind_eq_bind, Option.bind_some, hrest]

/-- A statement is not empty, so the reader never runs out of steps. -/
private theorem length_le_length_statements (files : List Source) :
    files.length ≤ (statements files).length := by
  induction files with
  | nil => exact Nat.zero_le _
  | cons f files ih =>
      rw [statements_cons, statement_eq_line]
      simp only [List.length_append, List.length_cons, List.length_nil]
      omega

/-- **All statements.** Reading uses up the text and gives the files in their order. -/
theorem readStatements?_statements (files : List Source) :
    readStatements? (statements files) = some files :=
  readAtMost?_statements (length_le_length_statements files)

/-- The statements say which files they are made of: they are read back. -/
theorem statements_inj {files files' : List Source} (h : statements files = statements files') :
    files = files' := by
  have hread : some files = some files' := by
    rw [← readStatements?_statements files, h, readStatements?_statements files']
  exact Option.some.inj hread

end ScriptLint.Script
