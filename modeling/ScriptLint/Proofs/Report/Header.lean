import ScriptLint.Proofs.Text.Decimal
import ScriptLint.Proofs.Text.Part
import ScriptLint.Report.Header

set_option autoImplicit false

/-!
Headers as a grammar.

`ofFile?` strips and cuts. What it accepts is a plain concatenation: the name, a blank,
a text that denotes a number, a colon, a blank, the message. The cut is made at the
*first* colon and blank, and since nothing that denotes a number has a colon in it, no
other place comes into question.

`read?` takes the longest of the names that fit. Two names that fit one line are both
openings of it, so equally long ones are equal, and the choice does not depend on where
a name stands in the list. That makes `read?_eq_some_iff` an equivalence; everything
else about headers is derived from it.
-/

namespace ScriptLint.Header

/-! ## One name -/

/-- A number is read up to the first colon, so it has none in it. -/
private theorem colon_not_mem_of_read? {number : Text} {n : UInt32}
    (h : Decimal.read? number = some n) :
    ':' ∉ number :=
  Decimal.not_mem_of_read? h (by decide) (by decide)

/-- **The grammar of a header.** -/
theorem ofFile?_eq_some_iff {line file : Text} {h : Header} :
    ofFile? line file = some h
      ↔ h.file = file ∧ ∃ number, Decimal.read? number = some h.line
          ∧ line = file ++ ' ' :: (number ++ ':' :: ' ' :: h.message) := by
  constructor
  · intro hfile
    simp only [ofFile?, Option.bind_eq_bind, Option.bind_eq_some_iff] at hfile
    obtain ⟨rest, hname, rest', hblank, ⟨number, message⟩, hcut, n, hn, hsome⟩ := hfile
    obtain rfl := Option.some.inj hsome
    refine ⟨rfl, number, hn, ?_⟩
    rw [Part.strip?_eq_some_iff.1 hname, Part.strip?_eq_some_iff.1 hblank,
      Part.eq_append_of_cutAt? hcut]
    simp only [List.append_assoc, List.cons_append, List.nil_append]
  · rintro ⟨rfl, number, hn, rfl⟩
    -- the number holds no colon, so the first colon is the one behind it
    have hcut : Part.cutAt? [':', ' '] (number ++ ':' :: ' ' :: h.message)
        = some (number, h.message) := by
      have hfirst : Part.cutAt? [':', ' '] (number ++ [':', ' '] ++ h.message)
          = some (number, h.message) := Part.cutAt?_append (colon_not_mem_of_read? hn)
      rwa [List.append_assoc] at hfirst
    have hblank : Part.strip? [' '] (' ' :: (number ++ ':' :: ' ' :: h.message))
        = some (number ++ ':' :: ' ' :: h.message) := Part.strip?_append_self [' '] _
    simp only [ofFile?, Option.bind_eq_bind, Part.strip?_append_self, hblank, hcut, hn,
      Option.bind_some]

theorem file_of_ofFile? {line file : Text} {h : Header} (hfile : ofFile? line file = some h) :
    h.file = file := (ofFile?_eq_some_iff.1 hfile).1

/-- A name that fits a line is an opening of it. -/
theorem prefix_of_ofFile? {line file : Text} {h : Header} (hfile : ofFile? line file = some h) :
    file <+: line := by
  obtain ⟨-, number, -, rfl⟩ := ofFile?_eq_some_iff.1 hfile
  exact List.prefix_append _ _

/-- Names that fit one line and are equally long are the same. -/
private theorem eq_of_length_eq {line : Text} {h k : Header} (hh : ofFile? line h.file = some h)
    (hk : ofFile? line k.file = some k) (hlen : h.file.length = k.file.length) : h = k := by
  have hfile : h.file = k.file :=
    List.IsPrefix.eq_of_length
      (List.prefix_of_prefix_length_le (prefix_of_ofFile? hh) (prefix_of_ofFile? hk)
        (Nat.le_of_eq hlen)) hlen
  rw [hfile, hk] at hh
  exact (Option.some.inj hh).symm

/-- **How a longer name can fit.** If a line is a header of `f` and `g` is a longer name
with a blank behind it, then `g` goes on behind `f` with the blank, the number and the
colon of that header. The number has no blank in it, so `g` cannot end inside it. -/
theorem longer_name_eq {f g number message rest : Text} (hnumber : ' ' ∉ number)
    (hline : f ++ ' ' :: (number ++ ':' :: ' ' :: message) = g ++ ' ' :: rest)
    (hlt : f.length < g.length) :
    ∃ more, g = f ++ ' ' :: (number ++ ':' :: more) ∧ (more = [] ∨ ∃ t, more = ' ' :: t) := by
  obtain ⟨extra, rfl, hextra⟩ | ⟨extra, rfl, -⟩ := List.append_eq_append_iff.1 hline
  case inr => rw [List.length_append] at hlt; omega
  -- `extra` is what `g` has behind `f`, and it begins with the blank
  cases extra with
  | nil => rw [List.append_nil] at hlt; omega
  | cons b extra =>
      obtain ⟨rfl, htail⟩ := List.cons.inj hextra
      have hsplit : (number ++ [':']) ++ ' ' :: message = extra ++ ' ' :: rest := by
        rw [List.append_assoc]
        exact htail
      obtain ⟨more, rfl, hmore⟩ | ⟨cut, hcut, hrest⟩ := List.append_eq_append_iff.1 hsplit
      · refine ⟨more, by simp only [List.append_assoc, List.cons_append, List.nil_append], ?_⟩
        cases more with
        | nil => exact Or.inl rfl
        | cons c more => exact Or.inr ⟨more, by rw [(List.cons.inj hmore).1]⟩
      · cases cut with
        | nil =>
            rw [List.append_nil] at hcut
            exact ⟨[], by rw [← hcut], Or.inl rfl⟩
        | cons c cut =>
            -- the blank behind `g` would stand in the number or be its colon
            obtain ⟨rfl, -⟩ := List.cons.inj hrest
            have hmem : ' ' ∈ number ++ [':'] := by
              rw [hcut]
              exact List.mem_append_right _ List.mem_cons_self
            simp [hnumber] at hmem

/-! ## The longest name -/

/-- The fold never makes up a header. -/
private theorem foldl_longer_mem (h : Header) (hs : List Header) : hs.foldl longer h ∈ h :: hs := by
  induction hs generalizing h with
  | nil => exact List.mem_singleton.2 rfl
  | cons k hs ih =>
      rw [List.foldl_cons]
      have hstep : longer h k = h ∨ longer h k = k := by
        unfold longer
        split
        · exact Or.inr rfl
        · exact Or.inl rfl
      rcases List.mem_cons.1 (ih (longer h k)) with hmem | hmem
      · rw [hmem]
        rcases hstep with h' | h' <;> simp [h']
      · exact List.mem_cons_of_mem _ (List.mem_cons_of_mem _ hmem)

/-- The fold never goes back to a shorter name. -/
private theorem length_le_foldl_longer (h : Header) (hs : List Header) :
    ∀ k ∈ h :: hs, k.file.length ≤ (hs.foldl longer h).file.length := by
  induction hs generalizing h with
  | nil => simp
  | cons l hs ih =>
      have hstep : h.file.length ≤ (longer h l).file.length
          ∧ l.file.length ≤ (longer h l).file.length := by
        unfold longer
        split <;> omega
      -- of `h` and `l` the longer one goes on, and nothing shorter is chosen later
      have hmax := ih (longer h l) (longer h l) List.mem_cons_self
      intro k hk
      rw [List.foldl_cons]
      rcases List.mem_cons.1 hk with rfl | hk
      · exact Nat.le_trans hstep.1 hmax
      · rcases List.mem_cons.1 hk with rfl | hk
        · exact Nat.le_trans hstep.2 hmax
        · exact ih (longer h l) k (List.mem_cons_of_mem _ hk)

theorem longest?_eq_none_iff {hs : List Header} : longest? hs = none ↔ hs = [] := by
  cases hs <;> simp [longest?]

theorem mem_of_longest? {hs : List Header} {h : Header} (hlong : longest? hs = some h) :
    h ∈ hs := by
  cases hs with
  | nil => simp [longest?] at hlong
  | cons k hs => exact Option.some.inj hlong ▸ foldl_longer_mem k hs

theorem length_le_of_longest? {hs : List Header} {h k : Header} (hlong : longest? hs = some h)
    (hk : k ∈ hs) : k.file.length ≤ h.file.length := by
  cases hs with
  | nil => exact absurd hk List.not_mem_nil
  | cons l hs => exact Option.some.inj hlong ▸ length_le_foldl_longer l hs k hk

/-! ## All names -/

/-- The candidates for a line: the headers that it spells for the given names. -/
theorem mem_filterMap_ofFile? {files : List Text} {line : Text} {h : Header} :
    h ∈ files.filterMap (ofFile? line) ↔ h.file ∈ files ∧ ofFile? line h.file = some h := by
  rw [List.mem_filterMap]
  constructor
  · rintro ⟨file, hmem, hfile⟩
    rw [file_of_ofFile? hfile]
    exact ⟨hmem, hfile⟩
  · exact fun ⟨hmem, hfile⟩ => ⟨h.file, hmem, hfile⟩

/-- A line is refused only when it is refused for each name alone. -/
theorem read?_eq_none_iff {files : List Text} {line : Text} :
    read? files line = none ↔ ∀ file ∈ files, ofFile? line file = none := by
  rw [read?, longest?_eq_none_iff, List.filterMap_eq_nil_iff]

/-- The empty line is no header. -/
theorem read?_nil (files : List Text) : read? files [] = none := by
  refine read?_eq_none_iff.2 fun file _ => ?_
  cases hfile : ofFile? [] file with
  | none => rfl
  | some h =>
      obtain ⟨-, number, -, hline⟩ := ofFile?_eq_some_iff.1 hfile
      exact absurd hline (by simp)

/-- A line that is no header is none without the carriage return at its end either. -/
theorem read?_cut_eq_none {files : List Text} {line : Text} (c : Char)
    (hline : read? files (line ++ [c]) = none) : read? files line = none := by
  refine read?_eq_none_iff.2 fun file hmem => ?_
  cases hfile : ofFile? line file with
  | none => rfl
  | some h =>
      obtain ⟨hname, number, hn, rfl⟩ := ofFile?_eq_some_iff.1 hfile
      -- what is cut off would be the end of a message
      have hlonger : ofFile? ((file ++ ' ' :: (number ++ ':' :: ' ' :: h.message)) ++ [c]) file
          = some ⟨file, h.line, h.message ++ [c]⟩ := by
        refine ofFile?_eq_some_iff.2 ⟨rfl, number, hn, ?_⟩
        simp only [List.append_assoc, List.cons_append]
      rw [read?_eq_none_iff.1 hline file hmem] at hlonger
      exact absurd hlonger (by simp)

/-- **The longest name that fits.** -/
theorem read?_eq_some_iff {files : List Text} {line : Text} {h : Header} :
    read? files line = some h
      ↔ h.file ∈ files ∧ ofFile? line h.file = some h
        ∧ ∀ k : Header, k.file ∈ files → ofFile? line k.file = some k →
            k.file.length ≤ h.file.length := by
  constructor
  · intro hread
    obtain ⟨hmem, hfile⟩ := mem_filterMap_ofFile?.1 (mem_of_longest? hread)
    refine ⟨hmem, hfile, fun k hk hkfile => ?_⟩
    exact length_le_of_longest? hread (mem_filterMap_ofFile?.2 ⟨hk, hkfile⟩)
  · rintro ⟨hmem, hfile, hmax⟩
    cases hread : read? files line with
    | none =>
        rw [read?_eq_none_iff.1 hread h.file hmem] at hfile
        exact absurd hfile (by simp)
    | some k =>
        -- the name that was chosen fits as well, and is neither longer nor shorter
        have hfits : k ∈ files.filterMap (ofFile? line) := mem_of_longest? hread
        obtain ⟨hkmem, hkfile⟩ := mem_filterMap_ofFile?.1 hfits
        have hle := hmax k hkmem hkfile
        have hge := length_le_of_longest? hread (mem_filterMap_ofFile?.2 ⟨hmem, hfile⟩)
        rw [eq_of_length_eq hkfile hfile (Nat.le_antisymm hle hge)]

end ScriptLint.Header
