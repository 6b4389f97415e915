import ScriptLint.Proofs.Glob.Reading
import ScriptLint.Proofs.Glob.Walk

set_option autoImplicit false

/-!
The components of a pattern.

A relative pattern without empty components is read piece by piece, each piece between two slashes
by itself. If none of the pieces begins with a dot, then a component without wildcards is the name
that is written, and no component stands for `.` or `..`. So the pieces and the components have
the same shape, and whatever is said about the pieces of a pattern can be said about its components.
-/

namespace ScriptLint.Glob

open ScriptLint.Path

variable {p n : Text} {ps ns : List Text} {ts : List Token} {cs : List Component}

/-! ## One component -/

/-- What is spelled token by token stands for a name. A `**` is the only component that does not,
and it is read otherwise. -/
private theorem ofTokens_of_spelled (h : Spelled p ts) : Component.ofTokens ts = .name ts := by
  cases h <;> rfl

/-- If all tokens are characters, they are the characters that are written. -/
private theorem Spelled.filterMap_literal? (h : Spelled p ts)
    (hts : ∀ t ∈ ts, t.literal?.isSome = true) :
    ts.filterMap Token.literal? = p := by
  induction h with
  | nil => rfl
  | @char c p ts _ _ _ _ ih =>
      have hfirst : Token.literal? (.char c) = some c := rfl
      rw [List.filterMap_cons_some hfirst, ih (List.forall_mem_cons.1 hts).2]
  | anyChar | anyRun | within | except =>
      exact absurd (List.forall_mem_cons.1 hts).1 Bool.false_ne_true

/-- A component is the name that is written, if it has no wildcards. -/
theorem Spelled.isPlain (h : Spelled p ts) (hne : p ≠ []) (hslash : '/' ∉ p)
    (hdot : p.head? ≠ some '.') : (Component.name ts).IsPlain := by
  constructor
  · cases h with
    | @char c =>
        unfold Component.opensWithDot
        split
        · next heq =>
            obtain ⟨hc, -⟩ := List.cons.inj (Component.name.inj heq)
            exact absurd (congrArg some (Token.char.inj hc)) hdot
        · rfl
    | nil | anyChar | anyRun | within | except => rfl
  · intro n hn
    rw [Component.literal?] at hn
    split at hn
    · next hall =>
        rw [h.filterMap_literal? (List.all_eq_true.1 hall)] at hn
        obtain rfl := Option.some.inj hn
        exact isName_encode hne hslash hdot
    · exact absurd hn (by simp)

/-- A `**` opens with no dot, and it is never looked up. -/
private theorem isPlain_directories : Component.directories.IsPlain :=
  ⟨rfl, fun n hn => absurd hn (by simp [Component.literal?])⟩

/-! ## All of them -/

/-- The components that the pieces of a pattern spell. -/
inductive SpelledOut : List Text → List Component → Prop where
  | nil : SpelledOut [] []
  | directories {ps : List Text} {cs : List Component} :
      SpelledOut ps cs → SpelledOut (['*', '*'] :: ps) (.directories :: cs)
  | name {p : Text} {ts : List Token} {ps : List Text} {cs : List Component} :
      p ≠ ['*', '*'] → Spelled p ts → (Component.name ts).IsPlain → SpelledOut ps cs →
      SpelledOut (p :: ps) (.name ts :: cs)

/-- Reading the pieces one by one spells them out. The reader of a piece sees no slash and no
empty text, and a dot in front is what is ruled out by assumption: it would make a component that
can stand for `.` or `..`. -/
private theorem SpelledOut.of_mapM {tss : List (List Token)} (h : ps.mapM tokens = .ok tss)
    (hps : ∀ p ∈ ps, p ≠ [] ∧ '/' ∉ p ∧ p.head? ≠ some '.') :
    SpelledOut ps (tss.map Component.ofTokens) := by
  induction ps generalizing tss with
  | nil =>
      obtain rfl := Except.ok.inj h
      exact .nil
  | cons p ps ih =>
      obtain ⟨⟨hne, hslash, hdot⟩, hrest⟩ := List.forall_mem_cons.1 hps
      rw [List.mapM_cons] at h
      obtain ⟨ts, hts, h⟩ := bind_eq_ok_iff.1 h
      obtain ⟨tss, htss, h⟩ := bind_eq_ok_iff.1 h
      obtain rfl := Except.ok.inj h
      rw [List.map_cons]
      by_cases hstars : p = ['*', '*']
      · subst hstars
        have hread : tokens ['*', '*'] = .ok [.anyDirectories] := rfl
        obtain rfl := Except.ok.inj (hread.symm.trans hts)
        exact .directories (ih htss hrest)
      · have hspelled : Spelled p ts :=
          spelled_of_readTokens hts (Nat.le_refl _) hslash (by simp) fun _ => hstars
        rw [ofTokens_of_spelled hspelled]
        exact .name hstars hspelled (hspelled.isPlain hne hslash hdot) (ih htss hrest)

namespace SpelledOut

/-- All components are plain, which is what the walk has to know about them. -/
theorem isPlain (h : SpelledOut ps cs) : ∀ c ∈ cs, c.IsPlain := by
  induction h with
  | nil => exact List.forall_mem_nil _
  | directories _ ih => exact List.forall_mem_cons.2 ⟨isPlain_directories, ih⟩
  | name _ _ hplain _ ih => exact List.forall_mem_cons.2 ⟨hplain, ih⟩

/-- **The names that the components match are the texts that the pieces select.** -/
theorem meets_iff_selects (h : SpelledOut ps cs) {ns : List Name} {ss : List Text}
    (hns : ns.map Subtype.val = ss.map Utf8.encode) : Meets cs ns ↔ Selects ps ss := by
  induction h generalizing ns ss with
  | nil =>
      rw [meets_nil_iff]
      constructor
      · rintro rfl
        obtain rfl := List.map_eq_nil_iff.1 hns.symm
        exact .nil
      · rintro ⟨⟩
        exact List.map_eq_nil_iff.1 hns
  | directories _ ih =>
      rw [meets_directories_iff]
      constructor
      · rintro ⟨inner, rest, rfl, h⟩
        rw [List.map_append] at hns
        obtain ⟨before, behind, rfl, -, hrest⟩ := List.map_eq_append_iff.1 hns.symm
        exact .directories before ((ih hrest.symm).1 h)
      · intro h
        cases h with
        | name hne => exact absurd rfl hne
        | directories before h =>
            rw [List.map_append] at hns
            obtain ⟨inner, rest, rfl, -, hrest⟩ := List.map_eq_append_iff.1 hns
            exact ⟨inner, rest, rfl, (ih hrest).2 h⟩
  | name hne hspelled _ _ ih =>
      rw [meets_name_iff]
      constructor
      · rintro ⟨n, rest, rfl, ⟨s, hs, hmatches⟩, h⟩
        obtain ⟨s', behind, rfl, hs', hrest⟩ := List.map_eq_cons_iff.1 hns.symm
        obtain rfl := Utf8.encode_injective (hs.trans hs'.symm)
        exact .name hne (hspelled.matches_iff_fits.1 hmatches) ((ih hrest.symm).1 h)
      · intro h
        cases h with
        | name _ hfits h =>
            obtain ⟨n, rest, rfl, hn, hrest⟩ := List.map_eq_cons_iff.1 hns
            exact ⟨n, rest, rfl, ⟨_, hn.symm, hspelled.matches_iff_fits.2 hfits⟩, (ih hrest).2 h⟩
        | directories => exact absurd rfl hne

/-- A `**` in the text is one among the components, and the other way round. -/
theorem directories_mem_iff (h : SpelledOut ps cs) : .directories ∈ cs ↔ ['*', '*'] ∈ ps := by
  induction h with
  | nil => simp
  | directories => simp
  | name hne _ _ _ ih => simp [ih, hne.symm]

/-- If the text does not end in a `**`, the components end in one for a name. -/
theorem endsInName (h : SpelledOut ps cs) (hne : ps ≠ []) (hlast : ps.getLast? ≠ some ['*', '*']) :
    EndsInName cs := by
  induction h with
  | nil => exact absurd rfl hne
  | @directories ps _ _ ih =>
      cases ps with
      | nil => exact absurd rfl hlast
      | cons p ps =>
          rw [List.getLast?_cons_cons] at hlast
          exact (ih (by simp) hlast).cons .directories
  | @name _ ts ps _ _ _ _ hrest ih =>
      cases ps with
      | nil =>
          cases hrest
          exact ⟨ts, rfl⟩
      | cons p ps =>
          rw [List.getLast?_cons_cons] at hlast
          exact (ih (by simp) hlast).cons (.name ts)

end SpelledOut

/-- **Reading a relative pattern.** -/
theorem Pattern.spelledOut_of_read {input : Text} {pattern : Pattern}
    (hpieces : ∀ p ∈ input.splitOnP (· == '/'), p ≠ [] ∧ p.head? ≠ some '.')
    (h : read input = .ok pattern) :
    pattern.isAbsolute = false ∧ pattern.wantsDirectory = false
      ∧ SpelledOut (input.splitOnP (· == '/')) pattern.components := by
  -- an empty piece would come of a slash at either end
  have hempty : [] ∉ input.splitOnP (· == '/') := fun hmem => (hpieces [] hmem).1 rfl
  have habsolute : Part.opensWith ['/'] input = false := Part.opensWith_eq_false_of_splitOnP hempty
  have hslash : Part.endsWith ['/'] input = false := Part.endsWith_eq_false_of_splitOnP hempty
  have hall : pieces input = input.splitOnP (· == '/') := by
    unfold pieces
    dsimp only
    split
    · next hlast => exact absurd (List.mem_of_getLast? hlast) hempty
    · rfl
  obtain ⟨_, -, h⟩ := bind_eq_ok_iff.1 h
  obtain ⟨tss, htss, h⟩ := bind_eq_ok_iff.1 h
  obtain rfl := Except.ok.inj h
  rw [habsolute, if_neg (by decide), hall] at htss
  refine ⟨habsolute, hslash, .of_mapM htss fun p hp => ?_⟩
  exact ⟨(hpieces p hp).1, Part.not_mem_of_mem_splitOnP hp, (hpieces p hp).2⟩

end ScriptLint.Glob
