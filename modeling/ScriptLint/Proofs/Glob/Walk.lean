import ScriptLint.Glob.Walk
import ScriptLint.Proofs.Glob.Matching
import ScriptLint.Proofs.Text.Malformed
import ScriptLint.Proofs.Tree.Descent

set_option autoImplicit false

/-!
What the walk along a pattern finds.

Every task of the walk is about a path that is made of names, so what the walk does can be said in
terms of these names: what some components find in a directory (`foundIn`), what they find at
one of its entries (`foundAt`), and what becomes of a path whose last name has just been matched
(`foundBehind`). Each of the three is given by equations that call the others; from there on the
list of tasks is not looked at again.

The walk is sound: what it finds is a path by names that the components match. And in a tree
without links it is complete for files, since each directory on the way to a file lists the name
by which the way goes on. Neither of the two asks whether the names are texts. That is decided where a
name is matched, and a name under a `**` is not.
-/

namespace ScriptLint.Glob

open ScriptLint.Path ScriptLint.Tree

/-- A component that names can be told from: it does not open with a dot, and if it has no
wildcards, it is a name. -/
structure Component.IsPlain (c : Component) : Prop where
  opensWithDot_eq_false : c.opensWithDot = false
  isName_of_literal? : ∀ s : Text, c.literal? = some s → IsName s

/-- What some components find in the directory that some names lead to. -/
def foundIn (t : Tree) (depth : Nat) (ns : List Name) (cs : List Component) : List Bytes :=
  visit t false depth (tasksIn t (ofNames ns) (t.isDirectory (ofNames ns)) cs)

/-- What some components find at an entry of that directory, the first of them by its name. -/
def foundAt (t : Tree) (depth : Nat) (ns : List Name) (n : Name) (cs : List Component) :
    List Bytes :=
  let path := ofNames (ns ++ [n])
  visit t false depth [.entry path n (t.isDirectory path) cs]

/-- What some components find where some names lead to: the path itself, if none of them is left. -/
def foundBehind (t : Tree) (depth : Nat) (ns : List Name) : List Component → List Bytes
  | [] => [ofNames ns]
  | c :: cs => foundIn t depth ns (c :: cs)

variable {t : Tree} {d : Nat} {ns ms : List Name} {n : Name} {p : Bytes} {c : Component}
  {cs : List Component} {ts : List Token}

/-! ## Visits

A visit goes through a list of tasks one by one, so it can be taken apart like the list. -/

/-- Tasks that stand one behind the other are done one behind the other, with everything that the
first ones give rise to before the later ones. -/
theorem visit_append (t : Tree) (w : Bool) (d : Nat) (as bs : List Task) :
    visit t w d (as ++ bs) = visit t w d as ++ visit t w d bs := by
  cases d with
  | zero => rfl
  | succ d => rw [visit, visit, visit, List.flatMap_append]

theorem visit_nil (t : Tree) (w : Bool) (d : Nat) : visit t w d [] = [] := by
  cases d <;> rfl

/-- A list of tasks of one kind is visited by visiting each by itself. -/
private theorem visit_map {α : Type} (t : Tree) (w : Bool) (d : Nat) (f : α → Task) (as : List α) :
    visit t w d (as.map f) = as.flatMap fun a => visit t w d [f a] := by
  induction as with
  | nil => exact visit_nil t w d
  | cons a as ih =>
      rw [List.map_cons, ← List.singleton_append, visit_append, ih, List.flatMap_cons]

/-- One task is performed, and what it gives rise to is visited one level deeper. -/
private theorem visit_singleton (t : Tree) (w : Bool) (d : Nat) (task : Task) :
    visit t w (d + 1) [task] = (perform t w task).1 ++ visit t w d (perform t w task).2 := by
  rw [visit, List.flatMap_singleton]

/-! ## What is found, by equations -/

/-- A component matches an entry if it matches the text that the name is. -/
theorem matchesEntry_iff :
    (Component.name ts).matchesEntry n = true ↔ Token.MatchesEntry ts n := by
  rw [Component.matchesEntry, Token.MatchesEntry]
  cases hstrict : Utf8.strict? n.val with
  | none =>
      refine iff_of_false Bool.false_ne_true ?_
      rintro ⟨s, hs, -⟩
      rw [Utf8.strict?_eq_some_iff.2 hs] at hstrict
      exact absurd hstrict (by simp)
  | some s =>
      have hs : Utf8.encode s = n.val := Utf8.strict?_eq_some_iff.1 hstrict
      simp only [Component.matchesName, Token.matchesName_iff]
      constructor
      · intro h
        exact ⟨s, hs, h⟩
      · -- the same bytes are the same text
        rintro ⟨s', hs', h⟩
        obtain rfl := Utf8.encode_injective (hs'.trans hs.symm)
        exact h

/-- The path of an entry has one more name, wherever the directory is. -/
theorem pathIn_ofNames (ns : List Name) (n : Name) :
    pathIn (ofNames ns) n.val = ofNames (ns ++ [n]) := by
  by_cases hne : ns = []
  · subst hne
    have hhere : isHere (ofNames []) = true := by decide
    rw [pathIn, if_pos hhere, List.nil_append, ofNames_singleton]
  · rw [pathIn, isHere_ofNames hne, if_neg (by decide), join_ofNames hne]

/-- What the walk finds from the working directory. -/
theorem paths_eq_foundIn {pattern : Pattern} (habsolute : pattern.isAbsolute = false)
    (hdirectory : pattern.wantsDirectory = false) :
    paths t pattern
      = foundIn t (Path.limit + pattern.components.length + 1) [] pattern.components := by
  rw [paths, habsolute, hdirectory]
  rfl

/-- Where no component is left there is nothing more to be found below. -/
theorem foundIn_nil : foundIn t d ns [] = [] := visit_nil t false d

/-- A component without wildcards is looked up. -/
theorem foundIn_of_literal {s : Text} (hc : c.literal? = some s) (hn : n.val = Utf8.encode s)
    (ns : List Name) (d : Nat) (cs : List Component) :
    foundIn t (d + 1) ns (c :: cs)
      = if t.isTaken (ofNames (ns ++ [n])) then foundBehind t (d + 1) (ns ++ [n]) cs else [] := by
  have hspecial : (s == ['.'] || s == ['.', '.']) = false := by
    rw [Bool.or_eq_false_iff, beq_eq_false_iff_ne, beq_eq_false_iff_ne]
    constructor
    · rintro rfl
      exact n.property.ne_here hn
    · rintro rfl
      exact n.property.ne_above hn
  rw [foundIn, tasksIn]
  simp only [hc, hspecial, ← hn, pathIn_ofNames, Bool.false_and, Bool.false_or, Bool.not_false,
    Bool.true_and]
  split
  · cases cs with
    | nil =>
        rw [visit_singleton, perform, Bool.false_and, visit_nil]
        rfl
    | cons c cs => rfl
  · exact visit_nil t false (d + 1)

/-- Any other component is held against the entries, one after the other. -/
theorem foundIn_of_listed (hplain : c.IsPlain) (hc : c.literal? = none) (ns : List Name) (d : Nat)
    (cs : List Component) :
    foundIn t d ns (c :: cs)
      = (t.list (ofNames ns)).flatMap fun n => foundAt t d ns n (c :: cs) := by
  rw [foundIn, tasksIn]
  simp only [hc, hplain.opensWithDot_eq_false]
  cases hdirectory : t.isDirectory (ofNames ns) with
  | false =>
      rw [if_neg (by decide), list_eq_nil hdirectory, visit_nil]
      rfl
  | true =>
      rw [if_pos rfl, if_neg (by decide), List.nil_append, visit_map]
      simp only [pathIn_ofNames]
      rfl

/-- What the components make of an entry by its own name, tasks included. -/
private theorem tryName_found (t : Tree) (d : Nat) (ns : List Name) (n : Name) (c : Component)
    (cs : List Component) :
    let path := ofNames (ns ++ [n])
    let tried := tryName t false path n (t.isDirectory path) (c :: cs)
    tried.1 ++ visit t false d tried.2
      = if c.matchesEntry n then foundBehind t d (ns ++ [n]) cs else [] := by
  intro path tried
  by_cases hmatches : c.matchesEntry n = true
  · rw [if_pos hmatches]
    cases cs with
    | nil => simp [tried, tryName, hmatches, visit_nil, foundBehind, path]
    | cons b cs => simp [tried, tryName, hmatches, foundBehind, foundIn, path]
  · rw [if_neg hmatches]
    cases cs <;> simp [tried, tryName, hmatches, visit_nil]

/-- An entry whose name is matched is left behind. -/
theorem foundAt_name (t : Tree) (d : Nat) (ns : List Name) (n : Name) (ts : List Token)
    (cs : List Component) :
    foundAt t (d + 1) ns n (.name ts :: cs)
      = if (Component.name ts).matchesEntry n then foundBehind t d (ns ++ [n]) cs else [] := by
  rw [foundAt, visit_singleton]
  exact tryName_found t d ns n (.name ts) cs

/-- Nothing is below what is no directory. -/
private theorem foundIn_directories_of_not_isDirectory (h : t.isDirectory (ofNames ns) = false) :
    foundIn t d ns (.directories :: cs) = [] := by
  rw [foundIn, tasksIn]
  simp only [Component.literal?, h]
  rw [if_neg (by decide), visit_nil]

/-- Behind a run of `**` there is nothing or a name. -/
theorem dropWhile_directories (cs : List Component) :
    cs.dropWhile (· == .directories) = []
      ∨ ∃ ts more, cs.dropWhile (· == .directories) = .name ts :: more := by
  induction cs with
  | nil => exact .inl rfl
  | cons c cs ih =>
      cases c with
      | directories => exact ih
      | name ts => exact .inr ⟨ts, cs, rfl⟩

/-- What is left behind a run of `**` is as plain as the whole. -/
theorem isPlain_dropWhile (hcs : ∀ b ∈ cs, b.IsPlain) :
    ∀ b ∈ cs.dropWhile (· == .directories), b.IsPlain :=
  fun b hb => hcs b ((List.dropWhile_suffix _).subset hb)

/-- An entry under a `**` is the last of the directories, or one of them with more below it. The name
of the entry plays no part in what is found below it. -/
theorem foundAt_directories (t : Tree) (d : Nat) (ns : List Name) (n : Name) (cs : List Component) :
    let rest := cs.dropWhile (· == .directories)
    foundAt t (d + 1) ns n (.directories :: cs)
      = (if rest = [] then (if t.isDirectory (ofNames (ns ++ [n])) then [ofNames (ns ++ [n])] else [])
          else foundAt t (d + 1) ns n rest)
        ++ foundIn t d (ns ++ [n]) (.directories :: rest) := by
  intro rest
  -- below an entry that is no directory there is nothing, which the components find by themselves
  have hbelow : visit t false d (if t.isDirectory (ofNames (ns ++ [n])) then
        tasksIn t (ofNames (ns ++ [n])) true (.directories :: rest) else [])
      = foundIn t d (ns ++ [n]) (.directories :: rest) := by
    cases hdirectory : t.isDirectory (ofNames (ns ++ [n])) with
    | false => rw [if_neg (by decide), visit_nil, foundIn_directories_of_not_isDirectory hdirectory]
    | true => rw [if_pos rfl, foundIn, hdirectory]
  rw [foundAt, visit_singleton]
  obtain hrest | ⟨ts, more, hrest⟩ : rest = [] ∨ ∃ ts more, rest = .name ts :: more :=
    dropWhile_directories cs
  · rw [hrest] at hbelow ⊢
    simp only [rest] at hrest
    simp only [perform, hrest, hbelow, if_pos]
  · rw [hrest] at hbelow ⊢
    simp only [rest] at hrest
    have htried := tryName_found t d ns n (.name ts) more
    simp only [perform, hrest, visit_append, hbelow, foundAt_name]
    rw [if_neg (by simp), ← List.append_assoc, htried]

/-! ## What is found is matched -/

/-- A path goes on from some names by the name `n`, and from there on it matches some components. -/
def GoesOn (ns : List Name) (n : Name) (cs : List Component) (p : Bytes) : Prop :=
  ∃ ms, Meets cs (n :: ms) ∧ p = ofNames (ns ++ n :: ms)

namespace GoesOn

/-- Components may be exchanged for others that match what they match. -/
theorem imp {cs cs' : List Component} (hmeets : ∀ ms, Meets cs ms → Meets cs' ms)
    (h : GoesOn ns n cs p) : GoesOn ns n cs' p := by
  obtain ⟨ms, hcs, hp⟩ := h
  exact ⟨ms, hmeets _ hcs, hp⟩

/-- One name further up. -/
theorem up {m : Name} {cs cs' : List Component} (hmeets : ∀ ms, Meets cs ms → Meets cs' (n :: ms))
    (h : GoesOn (ns ++ [n]) m cs p) : GoesOn ns n cs' p := by
  obtain ⟨ms, hcs, rfl⟩ := h
  refine ⟨m :: ms, hmeets _ hcs, ?_⟩
  rw [List.append_assoc, List.singleton_append]

/-- What is found behind a name that is matched goes on by that name. -/
theorem of_mem_foundBehind (hmatches : Token.MatchesEntry ts n)
    (hin : ∀ p ∈ foundIn t d (ns ++ [n]) cs, ∃ m, GoesOn (ns ++ [n]) m cs p)
    (h : p ∈ foundBehind t d (ns ++ [n]) cs) : GoesOn ns n (.name ts :: cs) p := by
  cases cs with
  | nil =>
      rw [foundBehind, List.mem_singleton] at h
      exact ⟨[], .name hmatches .nil, h⟩
  | cons c cs =>
      obtain ⟨m, hm⟩ := hin p h
      exact hm.up fun ms => .name hmatches

/-- The same at an entry: the name has been matched, or nothing is found. -/
theorem of_mem_foundAt_name
    (hin : ∀ p ∈ foundIn t d (ns ++ [n]) cs, ∃ m, GoesOn (ns ++ [n]) m cs p)
    (h : p ∈ foundAt t (d + 1) ns n (.name ts :: cs)) : GoesOn ns n (.name ts :: cs) p := by
  rw [foundAt_name] at h
  split at h
  · next hmatches => exact of_mem_foundBehind (matchesEntry_iff.1 hmatches) hin h
  · exact absurd h List.not_mem_nil

/-- An entry that is found, or below which something is found, has a name that is matched. -/
theorem of_mem_foundAt (hcs : ∀ b ∈ c :: cs, b.IsPlain)
    (hin : ∀ cs, (∀ b ∈ cs, b.IsPlain) →
      ∀ p ∈ foundIn t d (ns ++ [n]) cs, ∃ m, GoesOn (ns ++ [n]) m cs p)
    (h : p ∈ foundAt t (d + 1) ns n (c :: cs)) : GoesOn ns n (c :: cs) p := by
  obtain ⟨hc, hrest⟩ := List.forall_mem_cons.1 hcs
  cases c with
  | name ts => exact of_mem_foundAt_name (hin cs hrest) h
  | directories =>
      have hplain := isPlain_dropWhile hrest
      rw [foundAt_directories] at h
      refine GoesOn.imp (fun ms => meets_dropWhile_iff.1) ?_
      rcases List.mem_append.1 h with h | h
      · obtain hnil | ⟨ts, more, hname⟩ := dropWhile_directories cs
        · rw [hnil, if_pos rfl] at h
          rw [hnil]
          split at h
          · exact ⟨[], .enter (.skip .nil), List.mem_singleton.1 h⟩
          · exact absurd h List.not_mem_nil
        · rw [hname, if_neg (by simp)] at h
          rw [hname] at hplain ⊢
          refine GoesOn.imp (fun ms => .skip) ?_
          exact of_mem_foundAt_name (hin more (List.forall_mem_cons.1 hplain).2) h
      · obtain ⟨m, hm⟩ := hin _ (List.forall_mem_cons.2 ⟨hc, hplain⟩) p h
        exact hm.up fun ms => .enter

end GoesOn

/-- **What the walk finds is a path by names that the components match.** -/
theorem exists_goesOn_of_mem_foundIn (hcs : ∀ b ∈ cs, b.IsPlain) (h : p ∈ foundIn t d ns cs) :
    ∃ n, GoesOn ns n cs p := by
  induction d generalizing ns cs p with
  | zero => exact absurd h List.not_mem_nil
  | succ d ih =>
      -- a component that is looked up leaves the depth as it is
      induction cs generalizing ns p with
      | nil =>
          rw [foundIn_nil] at h
          exact absurd h List.not_mem_nil
      | cons c cs ihcs =>
          obtain ⟨hc, hrest⟩ := List.forall_mem_cons.1 hcs
          cases hliteral : c.literal? with
          | some s =>
              let n : Name := ⟨s, hc.isName_of_literal? s hliteral⟩
              have hn : n.val = Utf8.encode s := rfl
              rw [foundIn_of_literal hliteral hn] at h
              obtain ⟨ts, rfl, hmatches⟩ := exists_name_of_literal? hliteral
              split at h
              · exact ⟨n, .of_mem_foundBehind ((hmatches n).2 hn) (fun p hp => ihcs hrest hp) h⟩
              · exact absurd h List.not_mem_nil
          | none =>
              rw [foundIn_of_listed hc hliteral] at h
              obtain ⟨n, -, hat⟩ := List.mem_flatMap.1 h
              exact ⟨n, .of_mem_foundAt hcs (fun cs hcs p hp => ih hcs hp) hat⟩

/-! ## Files that are matched are found -/

/-- The last component is one for a name. -/
def EndsInName (cs : List Component) : Prop := ∃ ts, cs.getLast? = some (.name ts)

/-- The end of the components stays where it is when the first one is taken away. -/
theorem EndsInName.tail (h : EndsInName (c :: cs)) (hne : cs ≠ []) : EndsInName cs := by
  obtain ⟨ts, hts⟩ := h
  obtain ⟨b, cs, rfl⟩ := List.exists_cons_of_ne_nil hne
  exact ⟨ts, by rwa [List.getLast?_cons_cons] at hts⟩

/-- A `**` is not the last component, so there is another one behind it. -/
private theorem EndsInName.ne_nil_of_directories (h : EndsInName (.directories :: cs)) :
    cs ≠ [] := by
  rintro rfl
  obtain ⟨ts, hts⟩ := h
  exact absurd hts (by simp)

/-- What is left behind a run of `**` ends in the same name. -/
private theorem EndsInName.dropWhile (h : EndsInName (.directories :: cs)) :
    EndsInName (cs.dropWhile (· == .directories)) := by
  induction cs with
  | nil => exact absurd rfl h.ne_nil_of_directories
  | cons c cs ih =>
      cases c with
      | directories => exact ih (h.tail (by simp))
      | name ts => exact h.tail (by simp)

/-- And when one is put in front. -/
theorem EndsInName.cons (h : EndsInName cs) (c : Component) : EndsInName (c :: cs) := by
  obtain ⟨ts, hts⟩ := h
  exact ⟨ts, by rw [List.getLast?_cons, hts, Option.getD_some]⟩

/-- Only a `**` matches no names at all. -/
private theorem eq_directories_of_meets_nil (h : Meets cs []) : ∀ b ∈ cs, b = .directories := by
  induction cs with
  | nil => exact List.forall_mem_nil _
  | cons c cs ih =>
      cases h with
      | skip h => exact List.forall_mem_cons.2 ⟨rfl, ih h⟩

/-- A pattern that ends in a name does not match the directory where the walk begins. -/
theorem EndsInName.not_meets_nil (h : EndsInName cs) : ¬ Meets cs [] := by
  intro hmeets
  obtain ⟨ts, hts⟩ := h
  exact absurd (eq_directories_of_meets_nil hmeets _ (List.mem_of_getLast? hts)) (by simp)

/-- A path is found behind its last name, and otherwise where its names go on. -/
private theorem mem_foundBehind (hmeets : Meets cs ms)
    (hin : cs ≠ [] → ofNames (ns ++ n :: ms) ∈ foundIn t d (ns ++ [n]) cs) :
    ofNames (ns ++ n :: ms) ∈ foundBehind t d (ns ++ [n]) cs := by
  cases cs with
  | nil =>
      obtain rfl := meets_nil_iff.1 hmeets
      exact List.mem_singleton.2 rfl
  | cons c cs => exact hin (by simp)

/-- The same at an entry whose name is matched. -/
private theorem mem_foundAt_name (hmatches : Token.MatchesEntry ts n) (hmeets : Meets cs ms)
    (hin : cs ≠ [] → ofNames (ns ++ n :: ms) ∈ foundIn t d (ns ++ [n]) cs) :
    ofNames (ns ++ n :: ms) ∈ foundAt t (d + 1) ns n (.name ts :: cs) := by
  rw [foundAt_name, if_pos (matchesEntry_iff.2 hmatches)]
  exact mem_foundBehind hmeets hin

/-- A file is found at the entry by whose name the way to it goes on, if it is found further down
wherever the components that are left match the names that are left. -/
private theorem mem_foundAt (hcs : ∀ b ∈ c :: cs, b.IsPlain) (hends : EndsInName (c :: cs))
    (hmeets : Meets (c :: cs) (n :: ms))
    (hin : ∀ cs, (∀ b ∈ cs, b.IsPlain) → EndsInName cs → Meets cs ms →
      ofNames (ns ++ n :: ms) ∈ foundIn t d (ns ++ [n]) cs) :
    ofNames (ns ++ n :: ms) ∈ foundAt t (d + 1) ns n (c :: cs) := by
  obtain ⟨hc, hrest⟩ := List.forall_mem_cons.1 hcs
  cases c with
  | name ts =>
      cases hmeets with
      | name hmatches hmeets =>
          exact mem_foundAt_name hmatches hmeets fun hne => hin cs hrest (hends.tail hne) hmeets
  | directories =>
      have hplain := isPlain_dropWhile hrest
      have hends := hends.dropWhile
      rw [foundAt_directories]
      rcases meets_directories_cons_iff.1 (meets_dropWhile_iff.2 hmeets) with hmeets | hmeets
      · refine List.mem_append_left _ ?_
        obtain hnil | ⟨ts, more, hname⟩ := dropWhile_directories cs
        · rw [hnil] at hmeets
          exact absurd (meets_nil_iff.1 hmeets) (by simp)
        · rw [hname] at hmeets hends hplain ⊢
          rw [if_neg (by simp)]
          cases hmeets with
          | name hmatches hmeets =>
              refine mem_foundAt_name hmatches hmeets fun hne => ?_
              exact hin more (List.forall_mem_cons.1 hplain).2 (hends.tail hne) hmeets
      · refine List.mem_append_right _ ?_
        exact hin _ (List.forall_mem_cons.2 ⟨hc, hplain⟩) (hends.cons _) hmeets

/-- **In a tree without links the walk finds every file that the components match**, whatever its
names are made of. Each name on the way takes one level of the depth at most. -/
theorem mem_foundIn_of_isFile (hlinks : t.HasNoLinks)
    (hfile : t.isFile (ofNames (ns ++ ms)) = true) (hcs : ∀ b ∈ cs, b.IsPlain)
    (hends : EndsInName cs) (hmeets : Meets cs ms) (hdepth : ms.length ≤ d) :
    ofNames (ns ++ ms) ∈ foundIn t d ns cs := by
  induction ms generalizing ns cs d with
  | nil => exact absurd hmeets hends.not_meets_nil
  | cons n ms ih =>
      obtain ⟨d, rfl⟩ := Nat.exists_eq_add_one_of_ne_zero (Nat.ne_zero_of_lt hdepth)
      obtain ⟨-, hlisted, htaken⟩ := listed_of_isFile hlinks hfile
      have hin : ∀ d, ms.length ≤ d → ∀ cs, (∀ b ∈ cs, b.IsPlain) → EndsInName cs → Meets cs ms →
          ofNames (ns ++ n :: ms) ∈ foundIn t d (ns ++ [n]) cs := by
        intro d hdepth cs hcs hends hmeets
        have hcut : ns ++ n :: ms = (ns ++ [n]) ++ ms := by simp
        rw [hcut] at hfile ⊢
        exact ih hfile hcs hends hmeets hdepth
      cases cs with
      | nil => exact absurd (meets_nil_iff.1 hmeets) (by simp)
      | cons c cs =>
          obtain ⟨hc, hrest⟩ := List.forall_mem_cons.1 hcs
          cases hliteral : c.literal? with
          | none =>
              rw [foundIn_of_listed hc hliteral]
              refine List.mem_flatMap.2 ⟨n, hlisted, mem_foundAt hcs hends hmeets (hin d ?_)⟩
              exact Nat.le_of_succ_le_succ hdepth
          | some s =>
              obtain ⟨ts, rfl, hname⟩ := exists_name_of_literal? hliteral
              cases hmeets with
              | name hmatches hmeets =>
                  rw [foundIn_of_literal hliteral ((hname n).1 hmatches), if_pos htaken]
                  refine mem_foundBehind hmeets fun hne => ?_
                  exact hin (d + 1) (Nat.le_of_succ_le hdepth) cs hrest (hends.tail hne) hmeets

end ScriptLint.Glob
