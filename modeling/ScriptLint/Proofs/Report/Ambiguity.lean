import ScriptLint.Proofs.Report.Header
import ScriptLint.Proofs.Text.Bytes

set_option autoImplicit false

/-!
Lines that are headers of two files.

A file name may hold blanks, digits and colons, so a line can be a header of more than one of the
listed names. It happens in one way only. Both names open the line, so the longer one goes on
where the shorter one ends, and what stands there is the rest of the header of the shorter one: a
blank, a number, a colon and a blank. The longer name has a blank behind it as well. That blank is
none of the number, and so the longer name reaches as far as the colon at least (`Continues`).

Conversely any name that goes on like that shares a line with the other one. So whether the
headers of a report can be ambiguous is seen from the list of names, before there is a report.
-/

namespace ScriptLint.Header

variable {files : List Text} {line f g : Text} {h : Header}

/-- Whether a line can be read as a header of a name. -/
def Fits (line file : Text) : Prop := (ofFile? line file).isSome = true

instance (line file : Text) : Decidable (Fits line file) :=
  inferInstanceAs (Decidable ((ofFile? line file).isSome = true))

/-- The line that is written for a header: the name, a blank, a text that denotes the line number, a
colon, a blank, and the message. -/
def Spells (line : Text) (h : Header) : Prop :=
  ∃ number, Decimal.read? number = some h.line
    ∧ line = h.file ++ ' ' :: (number ++ ':' :: ' ' :: h.message)

/-- A name that goes on behind another one as the headers of that one do, up to the colon. If
there is any more of it, that begins with a blank. -/
def Continues (f g : Text) : Prop :=
  ∃ number n more, Decimal.read? number = some n ∧ (more = [] ∨ ∃ t, more = ' ' :: t)
    ∧ g = f ++ ' ' :: (number ++ ':' :: more)

/-! ## One name -/

/-- The reader of one name accepts exactly the lines that spell a header of that name. -/
theorem ofFile?_eq_some_iff_spells : ofFile? line h.file = some h ↔ Spells line h :=
  ofFile?_eq_some_iff.trans (and_iff_right rfl)

/-- A name fits a line when the line spells a header of that name. -/
theorem fits_iff_exists_spells : Fits line f ↔ ∃ h : Header, h.file = f ∧ Spells line h := by
  rw [Fits, Option.isSome_iff_exists]
  constructor
  · rintro ⟨h, hfile⟩
    obtain rfl := file_of_ofFile? hfile
    exact ⟨h, rfl, ofFile?_eq_some_iff_spells.1 hfile⟩
  · rintro ⟨h, rfl, hspells⟩
    exact ⟨h, ofFile?_eq_some_iff_spells.2 hspells⟩

theorem Spells.fits (hspells : Spells line h) : Fits line h.file :=
  fits_iff_exists_spells.2 ⟨h, rfl, hspells⟩

/-- Every name that fits a line begins it, so two that fit are prefixes of one text. -/
theorem prefix_of_fits (hf : Fits line f) : f <+: line := by
  obtain ⟨h, hfile⟩ := Option.isSome_iff_exists.1 hf
  exact prefix_of_ofFile? hfile

/-! ## Two names -/

/-- A name that goes on behind another one is the longer of the two. -/
theorem Continues.length_lt (hc : Continues f g) : f.length < g.length := by
  obtain ⟨number, n, more, -, -, rfl⟩ := hc
  rw [List.length_append, List.length_cons]
  omega

theorem Continues.byteSize_lt (hc : Continues f g) : Text.byteSize f < Text.byteSize g := by
  obtain ⟨number, n, more, -, -, rfl⟩ := hc
  have hblank : 0 < ' '.utf8Size := Char.utf8Size_pos ' '
  rw [Utf8.byteSize_append, Utf8.byteSize_cons]
  omega

/-- **A longer name that fits goes on from the shorter one.** -/
theorem continues_of_fits (hf : Fits line f) (hg : Fits line g) (hlt : f.length < g.length) :
    Continues f g := by
  obtain ⟨h, rfl, number, hn, hline⟩ := fits_iff_exists_spells.1 hf
  obtain ⟨k, rfl, number', -, hline'⟩ := fits_iff_exists_spells.1 hg
  have hblank : ' ' ∉ number := Decimal.not_mem_of_read? hn (by decide) (by decide)
  obtain ⟨more, hmore, hend⟩ := longer_name_eq hblank (hline.symm.trans hline') hlt
  exact ⟨number, h.line, more, hn, hend, hmore⟩

/-- Of two different names that fit one goes on from the other. -/
theorem continues_or_continues (hf : Fits line f) (hg : Fits line g) (hne : f ≠ g) :
    Continues f g ∨ Continues g f := by
  obtain hlt | heq | hgt := Nat.lt_trichotomy f.length g.length
  · exact .inl (continues_of_fits hf hg hlt)
  · -- equally long openings of one line are the same
    have hfront : f <+: g :=
      List.prefix_of_prefix_length_le (prefix_of_fits hf) (prefix_of_fits hg) (Nat.le_of_eq heq)
    exact absurd (hfront.eq_of_length heq) hne
  · exact .inr (continues_of_fits hg hf hgt)

/-- **A name that goes on from another one shares a line with it**: any line that fits the longer
one. -/
theorem Continues.exists_fits (hc : Continues f g) : ∃ line, Fits line f ∧ Fits line g := by
  obtain ⟨number, n, more, hn, hmore, rfl⟩ := hc
  have hone : Decimal.read? ['1'] = some 1 := by decide
  -- behind the colon of `f` comes a blank, which is in the name or stands behind it
  obtain ⟨message, hmessage⟩ : ∃ message, more ++ ' ' :: "1: ".toList = ' ' :: message := by
    obtain rfl | ⟨t, rfl⟩ := hmore
    · exact ⟨_, rfl⟩
    · exact ⟨_, rfl⟩
  refine ⟨(f ++ ' ' :: (number ++ ':' :: more)) ++ ' ' :: "1: ".toList, ?_, ?_⟩
  · refine fits_iff_exists_spells.2 ⟨⟨f, n, message⟩, rfl, number, hn, ?_⟩
    simp only [List.append_assoc, List.cons_append, hmessage]
  · exact fits_iff_exists_spells.2 ⟨⟨_, 1, []⟩, rfl, ['1'], hone, rfl⟩

/-- Of two names that fit one line, the one with more characters is the one with more bytes. -/
theorem length_le_iff_byteSize_le (hf : Fits line f) (hg : Fits line g) :
    f.length ≤ g.length ↔ Text.byteSize f ≤ Text.byteSize g := by
  by_cases heq : f = g
  · rw [heq]
    exact iff_of_true (Nat.le_refl _) (Nat.le_refl _)
  · obtain hc | hc := continues_or_continues hf hg heq
    · exact iff_of_true (Nat.le_of_lt hc.length_lt) (Nat.le_of_lt hc.byteSize_lt)
    · exact iff_of_false (Nat.not_le_of_lt hc.length_lt) (Nat.not_le_of_lt hc.byteSize_lt)

/-! ## A list of names -/

/-- **What is read is the header of the longest name that fits**, counted in bytes. -/
theorem read?_eq_some_iff_longest :
    read? files line = some h
      ↔ h.file ∈ files ∧ Spells line h
        ∧ ∀ g ∈ files, Fits line g → Text.byteSize g ≤ Text.byteSize h.file := by
  rw [read?_eq_some_iff, ofFile?_eq_some_iff_spells]
  refine and_congr_right fun _ => and_congr_right fun hspells => ?_
  constructor
  · intro hlongest g hg hfits
    obtain ⟨k, rfl, hk⟩ := fits_iff_exists_spells.1 hfits
    rw [← length_le_iff_byteSize_le hfits hspells.fits]
    exact hlongest k hg (ofFile?_eq_some_iff_spells.2 hk)
  · intro hlongest k hk hfile
    have hfits : Fits line k.file := (ofFile?_eq_some_iff_spells.1 hfile).fits
    rw [length_le_iff_byteSize_le hfits hspells.fits]
    exact hlongest k.file hk hfits

/-- A line is no header exactly when no given name fits it. -/
private theorem read?_eq_none_iff_fits : read? files line = none ↔ ∀ f ∈ files, ¬ Fits line f := by
  rw [read?_eq_none_iff]
  refine forall_congr' fun f => forall_congr' fun _ => ?_
  rw [Fits, Bool.not_eq_true, Option.isSome_eq_false_iff, Option.isNone_iff_eq_none]

/-- **How a header can be ambiguous.** If two different names of a list fit one line, the longer one
is the shorter one with a blank, a line number and a colon behind it, and then nothing or a blank
and anything. A line is read as a header if one of the names fits, and it is read with the longest
one of them, with the line number and the message that stand behind that name. If no name of the
list goes on like that from another one, at most one name fits any line, and so every header is
read as the only one that it can be. If there is such a name, there is a line that both names
fit. -/
theorem read?_of_names_that_fit (files : List Text) :
    (∀ line, ∀ f ∈ files, ∀ g ∈ files, f ≠ g → Fits line f → Fits line g →
        Text.byteSize f < Text.byteSize g ∧ Continues f g
          ∨ Text.byteSize g < Text.byteSize f ∧ Continues g f)
      ∧ (∀ line h, read? files line = some h
          ↔ h.file ∈ files ∧ Spells line h
            ∧ ∀ g ∈ files, Fits line g → Text.byteSize g ≤ Text.byteSize h.file)
      ∧ (∀ line, read? files line = none ↔ ∀ f ∈ files, ¬ Fits line f)
      ∧ ((∀ f ∈ files, ∀ g ∈ files, ¬ Continues f g) → ∀ line,
          (∀ f ∈ files, ∀ g ∈ files, Fits line f → Fits line g → f = g)
            ∧ ∀ h, h.file ∈ files → Spells line h → read? files line = some h)
      ∧ ∀ f g, Continues f g → ∃ line, Fits line f ∧ Fits line g := by
  refine ⟨fun line f _ g _ hne hf hg => ?_, fun line h => read?_eq_some_iff_longest,
    fun line => read?_eq_none_iff_fits, fun hapart line => ?_, fun f g hc => hc.exists_fits⟩
  · exact (continues_or_continues hf hg hne).imp (fun hc => ⟨hc.byteSize_lt, hc⟩)
      fun hc => ⟨hc.byteSize_lt, hc⟩
  · have honly : ∀ f ∈ files, ∀ g ∈ files, Fits line f → Fits line g → f = g := by
      intro f hf g hg hfits hfits'
      apply Decidable.byContradiction
      intro hne
      obtain hc | hc := continues_or_continues hfits hfits' hne
      · exact hapart f hf g hg hc
      · exact hapart g hg f hf hc
    refine ⟨honly, fun h hmem hspells => ?_⟩
    refine read?_eq_some_iff_longest.2 ⟨hmem, hspells, fun g hg hfits => ?_⟩
    exact Nat.le_of_eq (congrArg Text.byteSize (honly g hg h.file hmem hfits hspells.fits))

/-- A name that is one character of two bytes, one that goes on from it, and a line that both of
them fit; and two names that never fit one line. -/
theorem read?_of_names_that_fit_of_two :
    let f : Text := ['é']
    let g : Text := "é 1:".toList
    let line : Text := "é 1: 7: X".toList
    let apart : List Text := [['a'], ['b']]
    Fits line f ∧ Fits line g ∧ f ≠ g
      ∧ Text.byteSize f < Text.byteSize g ∧ Continues f g
      ∧ read? [g, f] line = some ⟨g, 7, ['X']⟩
      ∧ (∀ f ∈ apart, ∀ g ∈ apart, ¬ Continues f g)
      ∧ read? apart "a 2: b 3: Y".toList = some ⟨['a'], 2, "b 3: Y".toList⟩ := by
  intro f g line apart
  have hf : Fits line f := by decide
  have hg : Fits line g := by decide
  have hne : f ≠ g := by decide
  have hsize : Text.byteSize f < Text.byteSize g := by decide
  have hseven : Decimal.read? ['7'] = some 7 := by decide
  have htwo : Decimal.read? ['2'] = some 2 := by decide
  have hapart : ∀ f ∈ apart, ∀ g ∈ apart, ¬ Continues f g := by
    intro f hf g hg hc
    have hlt := hc.length_lt
    have hone : ∀ name ∈ apart, name.length = 1 := by simp [apart]
    rw [hone f hf, hone g hg] at hlt
    exact Nat.lt_irrefl 1 hlt
  obtain ⟨htwoNames, hlongest, -, -, -⟩ := read?_of_names_that_fit [g, f]
  obtain ⟨-, -, -, hunambiguous, -⟩ := read?_of_names_that_fit apart
  refine ⟨hf, hg, hne, hsize, ?_, ?_, hapart, ?_⟩
  · obtain ⟨-, hc⟩ | ⟨hlt, -⟩ := htwoNames line f (by simp) g (by simp) hne hf hg
    · exact hc
    · exact absurd hlt (Nat.lt_asymm hsize)
  · refine (hlongest line ⟨g, 7, ['X']⟩).2 ⟨List.mem_cons_self, ⟨['7'], hseven, rfl⟩, ?_⟩
    intro name hname _
    simp only [List.mem_cons, List.not_mem_nil, or_false] at hname
    obtain rfl | rfl := hname
    · exact Nat.le_refl _
    · exact Nat.le_of_lt hsize
  · exact (hunambiguous hapart _).2 ⟨['a'], 2, "b 3: Y".toList⟩ List.mem_cons_self ⟨['2'], htwo, rfl⟩

end ScriptLint.Header
