import ScriptLint.Glob.Meaning
import ScriptLint.Proofs.Glob.Matching
import ScriptLint.Proofs.Steps
import ScriptLint.Proofs.Text.Part

set_option autoImplicit false

/-!
What the text of a pattern is read as.

The reader of tokens keeps a position and the character before it, for the sake of its errors and
of `**`. Neither matters to what it returns when it succeeds on a component: `Spelled` gives
the tokens of a text by rules, one for each kind of token, and from there on the reader is not
looked at again. Rules and meaning have the same shape, so that the names matched by the tokens
are the names that fit the text is an induction over the rules.
-/

namespace ScriptLint.Glob

/-! ## Sets -/

/-- The rules of a set and the list of its members agree on what it holds, since both are read
from left to right. -/
theorem inSet_iff {c : Char} {set : Text} :
    InSet c set ↔ ((members set).any fun m => m.holds c) = true := by
  induction set using members.induct with
  | case1 low high set ih =>
      rw [members, List.any_cons, Bool.or_eq_true, ← ih, Member.holds, Bool.and_eq_true,
        decide_eq_true_iff, decide_eq_true_iff]
      constructor
      · intro h
        cases h with
        | range hlow hhigh => exact .inl ⟨hlow, hhigh⟩
        | behindRange h => exact .inr h
        | single hnot => exact absurd rfl (hnot high set)
        | behindSingle hnot => exact absurd rfl (hnot high set)
      · rintro (⟨hlow, hhigh⟩ | h)
        · exact .range hlow hhigh
        · exact .behindRange h
  | case2 other set hnot ih =>
      rw [members, List.any_cons, Bool.or_eq_true, ← ih, Member.holds, beq_iff_eq]
      · constructor
        · intro h
          cases h with
          | range => exact absurd rfl (hnot _ _)
          | behindRange => exact absurd rfl (hnot _ _)
          | single => exact .inl rfl
          | behindSingle _ h => exact .inr h
        · rintro (rfl | h)
          · exact .single hnot
          · exact .behindSingle hnot h
      · exact hnot
  | case3 =>
      rw [members, List.any_nil]
      exact iff_of_false (by rintro ⟨⟩) Bool.false_ne_true

/-! ## Tokens -/

/-- The tokens that a text spells. -/
inductive Spelled : Text → List Token → Prop where
  | nil : Spelled [] []
  | char {c : Char} {p : Text} {ts : List Token} :
      c ≠ '*' → c ≠ '?' → c ≠ '[' → Spelled p ts → Spelled (c :: p) (.char c :: ts)
  | anyChar {p : Text} {ts : List Token} : Spelled p ts → Spelled ('?' :: p) (.anyChar :: ts)
  | anyRun {p : Text} {ts : List Token} : Spelled p ts → Spelled ('*' :: p) (.anyRun :: ts)
  | within {first : Char} {inside p : Text} {ts : List Token} :
      first ≠ '!' → ']' ∉ inside → Spelled p ts →
      Spelled ('[' :: first :: (inside ++ ']' :: p)) (.within (members (first :: inside)) :: ts)
  | except {first : Char} {inside p : Text} {ts : List Token} :
      ']' ∉ inside → Spelled p ts →
      Spelled ('[' :: '!' :: first :: (inside ++ ']' :: p))
        (.except (members (first :: inside)) :: ts)

variable {s p n : Text} {ts : List Token}

/-- The rest of a set reaches up to the next bracket, and no further. -/
theorem closing?_eq_some_iff {first : Char} {set rest : Text} :
    closing? first s = some (set, rest)
      ↔ ∃ inside, set = first :: inside ∧ s = inside ++ ']' :: rest ∧ ']' ∉ inside := by
  rw [closing?, Option.map_eq_some_iff]
  constructor
  · rintro ⟨⟨inside, rest⟩, hcut, heq⟩
    obtain ⟨rfl, rfl⟩ := Prod.mk.inj heq
    exact ⟨inside, rfl, Part.cutAt?_singleton_eq_some_iff.1 hcut⟩
  · rintro ⟨inside, rfl, hcut⟩
    exact ⟨(inside, rest), Part.cutAt?_singleton_eq_some_iff.2 hcut, rfl⟩

/-- A set that is read spells its token, and what is left is an ending of the text. -/
private theorem spelled_of_readSet? {reading : SetReading} (h : readSet? s = some reading) :
    reading.rest <:+ s
      ∧ ∀ ts, Spelled reading.rest ts → Spelled ('[' :: s) (reading.token :: ts) := by
  unfold readSet? at h
  split at h
  · next first s =>
      obtain ⟨⟨set, rest⟩, hclosing, rfl⟩ := Option.map_eq_some_iff.1 h
      obtain ⟨inside, rfl, rfl, hinside⟩ := closing?_eq_some_iff.1 hclosing
      refine ⟨⟨'!' :: first :: (inside ++ [']']), by simp⟩, fun ts => .except hinside⟩
  · exact absurd h (by simp)
  · next first s hsome hnone =>
      obtain ⟨⟨set, rest⟩, hclosing, rfl⟩ := Option.map_eq_some_iff.1 h
      obtain ⟨inside, rfl, rfl, hinside⟩ := closing?_eq_some_iff.1 hclosing
      refine ⟨⟨first :: (inside ++ [']']), by simp⟩, fun ts => .within ?_ hinside⟩
      -- a `!` with something behind it is a case above
      rintro rfl
      obtain ⟨c, more, hmore⟩ := List.exists_cons_of_ne_nil
        (List.append_ne_nil_of_right_ne_nil inside (List.cons_ne_nil ']' rest))
      exact hsome c more rfl hmore
  · exact absurd h (by simp)

/-- A run of one star with nothing behind it. -/
private theorem eq_star (hone : (s.takeWhile (· == '*')).length = 1)
    (hend : s.dropWhile (· == '*') = []) :
    s = ['*'] := by
  have hcut : s.takeWhile (· == '*') ++ s.dropWhile (· == '*') = s := List.takeWhile_append_dropWhile
  have hall : (s.takeWhile (· == '*')).all (· == '*') = true := List.all_takeWhile
  obtain ⟨c, hc⟩ := List.length_eq_one_iff.1 hone
  rw [hend, List.append_nil] at hcut
  rw [hc, List.all_cons, List.all_nil, Bool.and_true, beq_iff_eq] at hall
  rw [← hcut, hc, hall]

/-- A star that is read is one by itself, unless there are two of them and nothing else. -/
private theorem exists_of_readTokens_star {position fuel : Nat} {before : Option Char}
    (h : readTokens position before (fuel + 1) ('*' :: s) = .ok ts) (hs : '/' ∉ s)
    (hbefore : before ≠ some '/') (halone : before = none → s ≠ ['*']) :
    ∃ rest, readTokens (position + 1) (some '*') fuel s = .ok rest ∧ .anyRun :: rest = ts := by
  rw [readTokens] at h
  simp only at h
  split at h
  · exact map_eq_ok_iff.1 h
  · split at h
    · next hone =>
        -- two stars are read as a whole component only, and anywhere else they are an error
        split at h
        · next hopen =>
            split at h
            · next hend => exact absurd (eq_star hone hend) (halone (hopen.resolve_right hbefore))
            · next rest hslash =>
                have hmem : '/' ∈ s := (List.dropWhile_suffix (· == '*')).subset
                  (hslash ▸ List.mem_cons_self)
                exact absurd hmem hs
            · exact absurd h (by simp)
        · exact absurd h (by simp)
    · exact absurd h (by simp)

/-- **A component that is read spells its tokens**, unless it is `**`. -/
theorem spelled_of_readTokens {position fuel : Nat} {before : Option Char}
    (h : readTokens position before fuel s = .ok ts) (hfuel : s.length ≤ fuel) (hs : '/' ∉ s)
    (hbefore : before ≠ some '/') (hstars : before = none → s ≠ ['*', '*']) : Spelled s ts := by
  induction fuel generalizing position before s ts with
  | zero =>
      obtain rfl := List.eq_nil_of_length_eq_zero (Nat.le_zero.1 hfuel)
      obtain rfl := Except.ok.inj h
      exact .nil
  | succ fuel ih =>
      cases s with
      | nil =>
          obtain rfl := Except.ok.inj h
          exact .nil
      | cons c s =>
          simp only [List.mem_cons, not_or] at hs
          -- what is behind a token is never at the front, so two stars there are no `**`
          have hnext : ∀ {position last rest ts},
              readTokens position (some last) fuel rest = .ok ts → last ≠ '/' → rest <:+ s →
                Spelled rest ts := by
            intro position last rest ts h hlast hrest
            have hlength : rest.length ≤ fuel :=
              Nat.le_trans hrest.length_le (Nat.le_of_succ_le_succ hfuel)
            refine ih h hlength (fun hmem => hs.2 (hrest.subset hmem)) ?_ (by simp)
            exact fun heq => hlast (Option.some.inj heq)
          by_cases hone : c = '?'
          · subst hone
            rw [readTokens, map_eq_ok_iff] at h
            obtain ⟨ts, hrest, rfl⟩ := h
            exact .anyChar (hnext hrest (by decide) (List.suffix_refl s))
          by_cases hrun : c = '*'
          · subst hrun
            have halone : before = none → s ≠ ['*'] := fun hnone heq => hstars hnone (by rw [heq])
            obtain ⟨ts, hrest, rfl⟩ := exists_of_readTokens_star h hs.2 hbefore halone
            exact .anyRun (hnext hrest (by decide) (List.suffix_refl s))
          by_cases hset : c = '['
          · subst hset
            rw [readTokens] at h
            simp only at h
            split at h
            · next reading hread =>
                obtain ⟨ts, hrest, rfl⟩ := map_eq_ok_iff.1 h
                obtain ⟨hsuffix, hspelled⟩ := spelled_of_readSet? hread
                exact hspelled ts (hnext hrest (by decide) hsuffix)
            · exact absurd h (by simp)
          · rw [readTokens, map_eq_ok_iff] at h
            · obtain ⟨ts, hrest, rfl⟩ := h
              exact .char hrun hone hset (hnext hrest (Ne.symm hs.1) (List.suffix_refl s))
            · exact hone
            · exact hrun
            · exact hset

/-! ## The names that are meant -/

/-- An empty component fits the empty name only. Each of the equations below says what its first
sign does to a name; together they are the rules, read backwards. -/
theorem fits_nil_iff : Fits [] n ↔ n = [] := by
  constructor
  · rintro ⟨⟩
    rfl
  · rintro rfl
    exact .nil

theorem fits_char_iff {c : Char} (hrun : c ≠ '*') (hone : c ≠ '?') (hset : c ≠ '[') :
    Fits (c :: p) n ↔ ∃ s, n = c :: s ∧ Fits p s := by
  constructor
  · intro h
    cases h with
    | char _ _ _ h => exact ⟨_, rfl, h⟩
    | anyChar => exact absurd rfl hone
    | anyRun => exact absurd rfl hrun
    | within => exact absurd rfl hset
    | except => exact absurd rfl hset
  · rintro ⟨s, rfl, h⟩
    exact .char hrun hone hset h

theorem fits_anyChar_iff : Fits ('?' :: p) n ↔ ∃ c s, n = c :: s ∧ Fits p s := by
  constructor
  · intro h
    cases h with
    | char _ hone => exact absurd rfl hone
    | anyChar h => exact ⟨_, _, rfl, h⟩
  · rintro ⟨c, s, rfl, h⟩
    exact .anyChar h

/-- A star takes any stretch in front, the empty one included. -/
theorem fits_anyRun_iff : Fits ('*' :: p) n ↔ ∃ run s, n = run ++ s ∧ Fits p s := by
  constructor
  · intro h
    cases h with
    | char hrun => exact absurd rfl hrun
    | anyRun run h => exact ⟨run, _, rfl, h⟩
  · rintro ⟨run, s, rfl, h⟩
    exact .anyRun run h

/-- A set takes one of its characters. -/
theorem fits_within_iff {first : Char} {inside : Text} (hfirst : first ≠ '!')
    (hinside : ']' ∉ inside) :
    Fits ('[' :: first :: (inside ++ ']' :: p)) n
      ↔ ∃ c s, n = c :: s ∧ InSet c (first :: inside) ∧ Fits p s := by
  constructor
  · intro h
    -- the append is no index that cases can take apart
    generalize hq : '[' :: first :: (inside ++ ']' :: p) = q at h
    cases h with
    | nil => exact absurd hq (by simp)
    | char _ _ hset => exact absurd (List.cons.inj hq).1.symm hset
    | anyChar => exact absurd (List.cons.inj hq).1 (by decide)
    | anyRun => exact absurd (List.cons.inj hq).1 (by decide)
    | within _ hinside' hset h =>
        obtain ⟨rfl, hrest⟩ := List.cons.inj (List.cons.inj hq).2
        obtain ⟨rfl, rfl⟩ := Part.eq_of_first_eq hinside hinside' hrest
        exact ⟨_, _, rfl, hset, h⟩
    | except => exact absurd (List.cons.inj (List.cons.inj hq).2).1 hfirst
  · rintro ⟨c, s, rfl, hset, h⟩
    exact .within hfirst hinside hset h

/-- And behind a mark of exclamation it takes one of the others. -/
theorem fits_except_iff {first : Char} {inside : Text} (hinside : ']' ∉ inside) :
    Fits ('[' :: '!' :: first :: (inside ++ ']' :: p)) n
      ↔ ∃ c s, n = c :: s ∧ ¬ InSet c (first :: inside) ∧ Fits p s := by
  constructor
  · intro h
    generalize hq : '[' :: '!' :: first :: (inside ++ ']' :: p) = q at h
    cases h with
    | nil => exact absurd hq (by simp)
    | char _ _ hset => exact absurd (List.cons.inj hq).1.symm hset
    | anyChar => exact absurd (List.cons.inj hq).1 (by decide)
    | anyRun => exact absurd (List.cons.inj hq).1 (by decide)
    | within hfirst => exact absurd (List.cons.inj (List.cons.inj hq).2).1.symm hfirst
    | except hinside' hset h =>
        obtain ⟨rfl, hrest⟩ := List.cons.inj (List.cons.inj (List.cons.inj hq).2).2
        obtain ⟨rfl, rfl⟩ := Part.eq_of_first_eq hinside hinside' hrest
        exact ⟨_, _, rfl, hset, h⟩
  · rintro ⟨c, s, rfl, hset, h⟩
    exact .except hinside hset h

/-- **What a text is read as matches the names that fit the text.** -/
theorem Spelled.matches_iff_fits (h : Spelled p ts) : Token.Matches ts n ↔ Fits p n := by
  induction h generalizing n with
  | nil => rw [Token.matches_nil_iff, fits_nil_iff]
  | char hrun hone hset _ ih =>
      rw [Token.matches_one_iff rfl, fits_char_iff hrun hone hset]
      constructor
      · rintro ⟨d, s, rfl, haccepts, hs⟩
        exact ⟨s, by rw [eq_of_beq haccepts], ih.1 hs⟩
      · rintro ⟨s, rfl, hs⟩
        exact ⟨_, s, rfl, BEq.rfl, ih.2 hs⟩
  | anyChar _ ih =>
      rw [Token.matches_one_iff rfl, fits_anyChar_iff]
      simp only [ih, Token.accepts, true_and]
  | anyRun _ ih =>
      rw [Token.matches_run_iff rfl, fits_anyRun_iff]
      simp only [ih]
  | within hfirst hinside _ ih =>
      rw [Token.matches_one_iff rfl, fits_within_iff hfirst hinside]
      simp only [ih, Token.accepts, inSet_iff]
  | except hinside _ ih =>
      rw [Token.matches_one_iff rfl, fits_except_iff hinside]
      simp only [ih, Token.accepts, inSet_iff, Bool.not_eq_true', Bool.not_eq_true]

end ScriptLint.Glob
