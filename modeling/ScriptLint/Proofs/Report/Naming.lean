import ScriptLint.Proofs.Report.Reader

set_option autoImplicit false

/-!
Kinds and identifiers.

The kind of a message and its identifier are two readings of the same wording. The kind
looks at the opening and at the final mark independently; the identifier is read by
stripping the opening and then the mark. The two agree except at one message for each
kind: every opening ends in a mark itself, so the opening *alone* passes both tests of
the kind, while stripping finds nothing left to take the final mark from. That message
has a kind and no identifier, and no other message is affected.
-/

namespace ScriptLint

variable {kind : Kind} {opening message n : Text}

namespace Kind

/-- A message in the wording of a kind, about the identifier `n`. An error has no wording. -/
def Names (kind : Kind) (n message : Text) : Prop :=
  ∃ opening, kind.opening? = some opening ∧ message = opening ++ n ++ ['\'']

/-! ## Wordings -/

/-- A kind with an opening names what stands between that opening and the last quote. -/
theorem names_iff (hkind : kind.opening? = some opening) :
    kind.Names n message ↔ message = opening ++ n ++ ['\''] := by
  rw [Names, hkind]
  simp only [Option.some.injEq, exists_eq_left']

/-- An opening ends in the mark that a message ends in. -/
private theorem endsWith_opening (hkind : kind.opening? = some opening) :
    Part.endsWith ['\''] opening = true := by
  cases kind with
  | error => exact absurd hkind (by simp [opening?])
  | impliedGlobal => obtain rfl := Option.some.inj hkind; decide
  | unusedVariable => obtain rfl := Option.some.inj hkind; decide

/-- **What has the wording of a kind**: the opening alone, where one mark serves as both,
and the opening, an identifier and a mark. -/
theorem words_iff (hkind : kind.opening? = some opening) :
    kind.words message = true ↔ message = opening ∨ ∃ n, message = opening ++ n ++ ['\''] := by
  simp only [words, hkind, Bool.and_eq_true]
  constructor
  · rintro ⟨hlead, hend⟩
    obtain ⟨rest, rfl⟩ := Part.opensWith_iff.1 hlead
    obtain ⟨before, hbefore⟩ := Part.endsWith_iff.1 hend
    -- behind the opening stands nothing, or something that ends in the mark
    rcases List.eq_nil_or_concat rest with rfl | ⟨n, c, rfl⟩
    · exact Or.inl (List.append_nil opening)
    · rw [List.concat_eq_append] at hbefore ⊢
      rw [← List.append_assoc] at hbefore
      obtain ⟨-, hc⟩ := List.append_inj' hbefore rfl
      exact Or.inr ⟨n, by rw [hc, List.append_assoc]⟩
  · rintro (rfl | ⟨n, rfl⟩)
    · exact ⟨Part.opensWith_iff.2 ⟨[], (List.append_nil message).symm⟩, endsWith_opening hkind⟩
    · exact ⟨Part.opensWith_iff.2 ⟨n ++ ['\''], List.append_assoc _ _ _⟩,
        Part.endsWith_iff.2 ⟨opening ++ n, rfl⟩⟩

private theorem words_of_names (hnames : kind.Names n message) : kind.words message = true := by
  obtain ⟨opening, hkind, hmessage⟩ := hnames
  exact (words_iff hkind).2 (Or.inr ⟨n, hmessage⟩)

/-- No message opens like two kinds. -/
private theorem not_words_both :
    ¬ (impliedGlobal.words message = true ∧ unusedVariable.words message = true) := by
  simp only [words, opening?, Bool.and_eq_true]
  rintro ⟨⟨himplied, -⟩, hunused, -⟩
  obtain ⟨rest, rfl⟩ := Part.opensWith_iff.1 himplied
  obtain ⟨rest', hrest⟩ := Part.opensWith_iff.1 hunused
  -- one opening begins with `i`, the other one with `u`
  have hhead : some 'i' = some 'u' := congrArg List.head? hrest
  exact absurd hhead (by decide)

/-! ## The kind of a message -/

/-- The wording decides the kind, as no message has the wording of two kinds. -/
theorem ofMessage_of_words (hwords : kind.words message = true) : ofMessage message = kind := by
  cases kind with
  | error => exact absurd hwords (by simp [words, opening?])
  | impliedGlobal => rw [ofMessage, if_pos hwords]
  | unusedVariable =>
      have hother : ¬ impliedGlobal.words message = true := fun h => not_words_both ⟨h, hwords⟩
      rw [ofMessage, if_neg hother, if_pos hwords]

private theorem words_ofMessage (hne : ofMessage message ≠ error) :
    (ofMessage message).words message = true := by
  unfold ofMessage at hne ⊢
  split
  · assumption
  · split
    · assumption
    · next h h' => rw [if_neg h, if_neg h'] at hne; exact absurd rfl hne

end Kind

/-! ## The identifier -/

/-- A diagnostic has a name exactly when its message names one for its kind. -/
theorem Diagnostic.name?_eq_some_iff {d : Diagnostic} :
    d.name? = some n ↔ d.kind.Names n d.message := by
  simp only [Diagnostic.name?, Option.bind_eq_bind, Option.bind_eq_some_iff, Part.strip?_eq_some_iff,
    Part.stripEnd?_eq_some_iff, Kind.Names]
  constructor
  · rintro ⟨opening, hkind, rest, hmessage, rfl⟩
    exact ⟨opening, hkind, by rw [hmessage, List.append_assoc]⟩
  · rintro ⟨opening, hkind, hmessage⟩
    exact ⟨opening, hkind, n ++ ['\''], by rw [hmessage, List.append_assoc], rfl⟩

/-- An opening alone is too short for an identifier. -/
theorem Kind.not_names_opening (hkind : kind.opening? = some opening) : ¬ kind.Names n opening := by
  rw [Kind.names_iff hkind]
  intro h
  have hlen := congrArg List.length h
  simp only [List.length_append, List.length_singleton] at hlen
  omega

namespace Report

/-- The kind of a diagnostic is that of its message. -/
private theorem kind_of_mem_diagnostics {files : List Text} {report : Text} {d : Diagnostic}
    (hd : d ∈ diagnostics files report) : d.kind = Kind.ofMessage d.message := by
  rw [diagnostics_eq_eachLine] at hd
  obtain ⟨line, -, h, evidence, -, rfl⟩ := mem_eachLine hd
  rfl

/-- **A diagnostic that was read names an identifier as its kind says, unless its message
is an opening alone.** An error has no identifier, and its message is in no wording. Any
other diagnostic has one, and its message is in the wording of its kind about that
identifier. A message that is the opening of a kind and nothing else is of that kind
and has no identifier. -/
theorem diagnostics_name_iff_kind (files : List Text) (report : Text) (d : Diagnostic)
    (hd : d ∈ diagnostics files report) :
    (d.kind = .error → d.name? = none ∧ ∀ kind n, ¬ Kind.Names kind n d.message)
      ∧ (d.kind ≠ .error → d.kind.opening? ≠ some d.message →
          ∃ n, d.name? = some n ∧ d.kind.Names n d.message)
      ∧ ∀ kind : Kind, kind.opening? = some d.message → d.kind = kind ∧ d.name? = none := by
  have hmessage : d.kind = Kind.ofMessage d.message := kind_of_mem_diagnostics hd
  refine ⟨fun herror => ?_, fun hne hlong => ?_, fun kind hbare => ?_⟩
  · -- a message in some wording would have that kind
    have hnone : ∀ kind n, ¬ Kind.Names kind n d.message := by
      intro kind n hnames
      have hkind := Kind.ofMessage_of_words (Kind.words_of_names hnames)
      rw [← hmessage, herror] at hkind
      obtain ⟨opening, hopening, -⟩ := hnames
      exact absurd hopening (by simp [← hkind, Kind.opening?])
    refine ⟨Option.eq_none_iff_forall_ne_some.2 fun n hn => ?_, hnone⟩
    exact hnone d.kind n (Diagnostic.name?_eq_some_iff.1 hn)
  · have hwords : d.kind.words d.message = true := hmessage ▸ Kind.words_ofMessage (hmessage ▸ hne)
    cases hopening : d.kind.opening? with
    | none => simp [Kind.words, hopening] at hwords
    | some opening =>
        rcases (Kind.words_iff hopening).1 hwords with hshort | ⟨n, hn⟩
        · rw [hopening, hshort] at hlong
          exact absurd rfl hlong
        · have hnames : d.kind.Names n d.message := ⟨opening, hopening, hn⟩
          exact ⟨n, Diagnostic.name?_eq_some_iff.2 hnames, hnames⟩
  · have hkind : d.kind = kind :=
      hmessage.trans (Kind.ofMessage_of_words ((Kind.words_iff hbare).2 (Or.inl rfl)))
    refine ⟨hkind, Option.eq_none_iff_forall_ne_some.2 fun n hn => ?_⟩
    rw [Diagnostic.name?_eq_some_iff, hkind] at hn
    exact Kind.not_names_opening hbare hn

/-- An unused variable whose identifier is a mark, and the shortest message of that kind. -/
theorem diagnostics_name_iff_kind_of_marks :
    let files : List Text := ["a b".toList]
    let report : Text := "a b 1: unused variable '''\na b 2: unused variable '\n".toList
    let first : Diagnostic := ⟨"a b".toList, 1, .unusedVariable, "unused variable '''".toList, none⟩
    let second : Diagnostic := ⟨"a b".toList, 2, .unusedVariable, "unused variable '".toList, none⟩
    (first ∈ diagnostics files report ∧ ∃ n, first.name? = some n ∧ first.kind.Names n first.message)
      ∧ second ∈ diagnostics files report ∧ second.name? = none := by
  intro files report first second
  have hread : diagnostics files report = [first, second] := by
    rw [diagnostics_eq_eachLine]
    decide
  have hfirst : first ∈ diagnostics files report := by simp [hread]
  have hsecond : second ∈ diagnostics files report := by simp [hread]
  exact ⟨⟨hfirst, (diagnostics_name_iff_kind files report first hfirst).2.1 (by decide) (by decide)⟩,
    hsecond, ((diagnostics_name_iff_kind files report second hsecond).2.2 .unusedVariable rfl).2⟩

/-- **The kind does not imply an identifier.** A report of one line is read as an implied
global, and nothing is named. -/
theorem diagnostics_bare_opening_unnamed :
    let d : Diagnostic := ⟨"a.js".toList, 1, .impliedGlobal, "implied global '".toList, none⟩
    diagnostics ["a.js".toList] "a.js 1: implied global '".toList = [d]
      ∧ d.name? = none ∧ ∀ n, ¬ Kind.Names .impliedGlobal n d.message := by
  intro d
  refine ⟨?_, by decide, fun n => Kind.not_names_opening rfl⟩
  rw [diagnostics_eq_eachLine]
  decide

end Report

end ScriptLint
