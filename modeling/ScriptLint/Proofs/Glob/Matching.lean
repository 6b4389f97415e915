import ScriptLint.Glob.Meaning

set_option autoImplicit false

/-!
The table of a match against the rules.

A row has an entry for each ending of the name, and the row of a name is that of its tail behind
one more entry (`row_cons`). So an entry can be told from the entries for shorter names and for
fewer tokens, as the rules tell a match from shorter ones. From `matchesName_iff` on the table is
not looked at again.
-/

namespace ScriptLint.Glob

namespace Token

variable {t : Token} {ts : List Token} {c : Char} {s name : Text}

/-! ## Rules, one token at a time -/

/-- Without tokens only the empty text is matched. -/
theorem matches_nil_iff : Matches [] name ↔ name = [] := by
  constructor
  · rintro ⟨⟩
    rfl
  · rintro rfl
    exact .nil

/-- A token for one character takes the first one. -/
theorem matches_one_iff (ht : t.isRun = false) :
    Matches (t :: ts) name ↔ ∃ c s, name = c :: s ∧ t.accepts c = true ∧ Matches ts s := by
  constructor
  · intro h
    cases h with
    | one _ haccepts h => exact ⟨_, _, rfl, haccepts, h⟩
    | runEnd hrun => exact absurd hrun (by rw [ht]; decide)
    | runMore hrun => exact absurd hrun (by rw [ht]; decide)
  · rintro ⟨c, s, rfl, haccepts, h⟩
    exact .one ht haccepts h

/-- A token for a run takes any number of characters. -/
theorem matches_run_iff (ht : t.isRun = true) :
    Matches (t :: ts) name ↔ ∃ run s, name = run ++ s ∧ Matches ts s := by
  constructor
  · intro h
    induction name with
    | nil =>
        cases h with
        | runEnd _ h => exact ⟨[], [], rfl, h⟩
    | cons c name ih =>
        cases h with
        | one hone => exact absurd ht (by rw [hone]; decide)
        | runEnd _ h => exact ⟨[], c :: name, rfl, h⟩
        | runMore _ h =>
            obtain ⟨run, s, rfl, hrest⟩ := ih h
            exact ⟨c :: run, s, rfl, hrest⟩
  · rintro ⟨run, s, rfl, h⟩
    induction run with
    | nil => exact .runEnd ht h
    | cons c run ih => exact .runMore ht ih

/-! ## Rows -/

theorem orLater_cons (b : Bool) (bs : List Bool) :
    orLater (b :: bs) = (b || (orLater bs).headD false) :: orLater bs := rfl

/-- A row stays as long as it was. -/
private theorem length_orLater (bs : List Bool) : (orLater bs).length = bs.length := by
  induction bs with
  | nil => rfl
  | cons b bs ih => rw [orLater_cons, List.length_cons, ih, List.length_cons]

/-- The row of a run is that of the tokens behind it, with every match passed on to the longer
endings. -/
theorem row_cons_of_isRun (ht : t.isRun = true) (name : Text) (ts : List Token) :
    row name (t :: ts) = orLater (row name ts) := by
  rw [row, if_pos ht]

/-- Any other token takes one character off each ending, and so the empty one is matched no more.
-/
theorem row_cons_of_not_isRun (ht : t.isRun = false) (name : Text) (ts : List Token) :
    row name (t :: ts)
      = List.zipWith (fun c b => t.accepts c && b) name (row name ts).tail ++ [false] := by
  rw [row, if_neg (by rw [ht]; decide)]

/-- An entry for each ending, the empty one included. -/
theorem length_row (name : Text) (ts : List Token) : (row name ts).length = name.length + 1 := by
  induction ts with
  | nil => simp [row]
  | cons t ts ih =>
      by_cases ht : t.isRun = true
      · rw [row_cons_of_isRun ht, length_orLater, ih]
      · rw [row_cons_of_not_isRun (Bool.eq_false_iff.2 ht), List.length_append, List.length_zipWith,
          List.length_tail, ih]
        simp

/-- The first entry of a row is about the whole name. -/
theorem row_eq_cons (name : Text) (ts : List Token) :
    row name ts = matchesName ts name :: (row name ts).tail := by
  have hlen := length_row name ts
  cases hrow : row name ts with
  | nil =>
      rw [hrow] at hlen
      exact absurd hlen (by simp)
  | cons b bs => rw [matchesName, hrow, List.headD_cons, List.tail_cons]

/-- **The row of a name is that of its tail behind one more entry.** -/
theorem row_cons (c : Char) (s : Text) (ts : List Token) :
    row (c :: s) ts = matchesName ts (c :: s) :: row s ts := by
  -- which the row of the tokens behind `t` passes on, of either kind that `t` is
  suffices htail : (row (c :: s) ts).tail = row s ts by
    rw [row_eq_cons, htail]
  induction ts with
  | nil => rfl
  | cons t ts ih =>
      by_cases ht : t.isRun = true
      · rw [row_cons_of_isRun ht, row_cons_of_isRun ht, row_eq_cons (c :: s) ts, ih, orLater_cons,
          List.tail_cons]
      · have ht : t.isRun = false := Bool.eq_false_iff.2 ht
        rw [row_cons_of_not_isRun ht, row_cons_of_not_isRun ht, ih, row_eq_cons s ts,
          List.zipWith_cons_cons, List.cons_append, List.tail_cons, List.tail_cons]

/-! ## What a match comes down to -/

theorem matchesName_nil : matchesName [] name = name.isEmpty := by
  cases name <;> rfl

/-- A run may stand for nothing, and of the empty name there is nothing else to take. -/
private theorem matchesName_cons_nil_of_isRun (ht : t.isRun = true) :
    matchesName (t :: ts) [] = matchesName ts [] := by
  have hrow : row [] ts = [matchesName ts []] := by
    rw [row_eq_cons, List.cons.injEq]
    exact ⟨rfl, List.eq_nil_of_length_eq_zero (by rw [List.length_tail, length_row]; rfl)⟩
  rw [matchesName, row_cons_of_isRun ht, hrow, orLater_cons, List.headD_cons]
  exact Bool.or_false _

/-- A run stands for nothing, or takes the first character and stays. -/
private theorem matchesName_cons_cons_of_isRun (ht : t.isRun = true) :
    matchesName (t :: ts) (c :: s) = (matchesName ts (c :: s) || matchesName (t :: ts) s) := by
  rw [matchesName, row_cons_of_isRun ht, row_cons, orLater_cons, List.headD_cons,
    ← row_cons_of_isRun ht, ← matchesName]

/-- A token for one character does not match the empty name. -/
private theorem matchesName_cons_nil_of_not_isRun (ht : t.isRun = false) :
    matchesName (t :: ts) [] = false := by
  rw [matchesName, row_cons_of_not_isRun ht, List.zipWith_nil_left]
  rfl

/-- It takes the first character if it accepts it. -/
private theorem matchesName_cons_cons_of_not_isRun (ht : t.isRun = false) :
    matchesName (t :: ts) (c :: s) = (t.accepts c && matchesName ts s) := by
  rw [matchesName, row_cons_of_not_isRun ht, row_cons, List.tail_cons, row_eq_cons s ts,
    List.zipWith_cons_cons, List.cons_append, List.headD_cons]

/-- **The table decides the rules.** -/
theorem matchesName_iff : matchesName ts name = true ↔ Matches ts name := by
  induction ts generalizing name with
  | nil => rw [matchesName_nil, List.isEmpty_iff, matches_nil_iff]
  | cons t ts ih =>
      by_cases ht : t.isRun = true
      · -- a run leaves the name as it is, or takes its first character and goes on
        induction name with
        | nil =>
            rw [matchesName_cons_nil_of_isRun ht, ih]
            constructor
            · exact .runEnd ht
            · intro h
              cases h with
              | runEnd _ h => exact h
        | cons c s ihs =>
            rw [matchesName_cons_cons_of_isRun ht, Bool.or_eq_true, ih, ihs]
            constructor
            · rintro (h | h)
              · exact .runEnd ht h
              · exact .runMore ht h
            · intro h
              cases h with
              | one hone => exact absurd ht (by rw [hone]; decide)
              | runEnd _ h => exact .inl h
              | runMore _ h => exact .inr h
      · have ht : t.isRun = false := Bool.eq_false_iff.2 ht
        rw [matches_one_iff ht]
        cases name with
        | nil => simp [matchesName_cons_nil_of_not_isRun ht]
        | cons c s =>
            rw [matchesName_cons_cons_of_not_isRun ht, Bool.and_eq_true, ih]
            constructor
            · rintro ⟨haccepts, h⟩
              exact ⟨c, s, rfl, haccepts, h⟩
            · rintro ⟨c', s', hsplit, haccepts, h⟩
              obtain ⟨rfl, rfl⟩ := List.cons.inj hsplit
              exact ⟨haccepts, h⟩

/-- Characters match themselves. -/
private theorem matches_iff_eq_filterMap (h : ∀ t ∈ ts, t.literal?.isSome = true) :
    Matches ts name ↔ name = ts.filterMap literal? := by
  induction ts generalizing name with
  | nil => exact matches_nil_iff
  | cons t ts ih =>
      obtain ⟨ht, hrest⟩ := List.forall_mem_cons.1 h
      cases t with
      | char c =>
          have hfirst : literal? (.char c) = some c := rfl
          rw [matches_one_iff rfl, List.filterMap_cons_some hfirst]
          constructor
          · rintro ⟨d, s, rfl, haccepts, hs⟩
            rw [(ih hrest).1 hs, eq_of_beq haccepts]
          · rintro rfl
            exact ⟨c, ts.filterMap literal?, rfl, BEq.rfl, (ih hrest).2 rfl⟩
      | anyChar | anyRun | anyDirectories | within _ | except _ => exact absurd ht Bool.false_ne_true

end Token

/-! ## Lists of names -/

variable {ts : List Token} {cs : List Component} {n : Name} {ns : List Name}

/-- A component without wildcards matches the one name that it stands for. -/
theorem exists_name_of_literal? {c : Component} {s : Text} (h : c.literal? = some s) :
    ∃ ts, c = .name ts ∧ ∀ n, Token.MatchesEntry ts n ↔ n.val = Utf8.encode s := by
  unfold Component.literal? at h
  split at h
  · exact absurd h (by simp)
  · next ts =>
      split at h
      · next hall =>
          obtain rfl := Option.some.inj h
          refine ⟨ts, rfl, fun n => ?_⟩
          simp only [Token.MatchesEntry, Token.matches_iff_eq_filterMap (List.all_eq_true.1 hall)]
          constructor
          · rintro ⟨s, hs, rfl⟩
            exact hs.symm
          · intro hn
            exact ⟨_, hn.symm, rfl⟩
      · exact absurd h (by simp)

/-- Without components only the directory where the walk begins is matched. -/
theorem meets_nil_iff : Meets [] ns ↔ ns = [] := by
  constructor
  · rintro ⟨⟩
    rfl
  · rintro rfl
    exact .nil

/-- A component for a name takes the first one. -/
theorem meets_name_iff :
    Meets (.name ts :: cs) ns
      ↔ ∃ n rest, ns = n :: rest ∧ Token.MatchesEntry ts n ∧ Meets cs rest := by
  constructor
  · rintro ⟨⟩
    exact ⟨_, _, rfl, ‹_›, ‹_›⟩
  · rintro ⟨n, rest, rfl, hmatches, h⟩
    exact .name hmatches h

/-- A `**` takes any number of names. -/
theorem meets_directories_iff :
    Meets (.directories :: cs) ns ↔ ∃ inner rest, ns = inner ++ rest ∧ Meets cs rest := by
  constructor
  · intro h
    induction ns with
    | nil =>
        cases h with
        | skip h => exact ⟨[], [], rfl, h⟩
    | cons n ns ih =>
        cases h with
        | skip h => exact ⟨[], n :: ns, rfl, h⟩
        | enter h =>
            obtain ⟨inner, rest, rfl, hrest⟩ := ih h
            exact ⟨n :: inner, rest, rfl, hrest⟩
  · rintro ⟨inner, rest, rfl, h⟩
    induction inner with
    | nil => exact .skip h
    | cons n inner ih => exact .enter ih

/-- A name under a `**` is a directory on the way, or what comes behind the `**` begins with it. -/
theorem meets_directories_cons_iff :
    Meets (.directories :: cs) (n :: ns) ↔ Meets cs (n :: ns) ∨ Meets (.directories :: cs) ns := by
  constructor
  · intro h
    cases h with
    | skip h => exact .inl h
    | enter h => exact .inr h
  · rintro (h | h)
    · exact .skip h
    · exact .enter h

/-- A run of `**` is as good as one. -/
theorem meets_dropWhile_iff :
    Meets (.directories :: cs.dropWhile (· == .directories)) ns ↔ Meets (.directories :: cs) ns := by
  induction cs with
  | nil => rfl
  | cons c cs ih =>
      cases c with
      | name ts => rfl
      | directories =>
          change Meets (.directories :: cs.dropWhile (· == .directories)) ns ↔ _
          rw [ih]
          constructor
          · exact .skip
          · intro h
            obtain ⟨inner, rest, rfl, hrest⟩ := meets_directories_iff.1 h
            obtain ⟨inner', rest', rfl, hrest'⟩ := meets_directories_iff.1 hrest
            refine meets_directories_iff.2 ⟨inner ++ inner', rest', ?_, hrest'⟩
            rw [List.append_assoc]

/-- Without a `**` there is a name for each component. -/
theorem Meets.length_eq (h : Meets cs ns) (hcs : .directories ∉ cs) : ns.length = cs.length := by
  induction h with
  | nil => rfl
  | name _ _ ih =>
      rw [List.length_cons, List.length_cons, ih fun hmem => hcs (List.mem_cons_of_mem _ hmem)]
  | skip => exact absurd List.mem_cons_self hcs
  | enter => exact absurd List.mem_cons_self hcs

end ScriptLint.Glob
