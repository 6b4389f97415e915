import ScriptLint.Proofs.Text.Agreement
import ScriptLint.Proofs.Text.Part
import ScriptLint.Tree.Resolve

set_option autoImplicit false

/-!
Names, and the paths that are made of them.

The names on the way down from the working directory make a path, with a slash between neighbours.
No names at all make the path `.`, which is how the working directory itself is spelled; it
leaves no trace in a path that goes on. Since a name has no slash in it, a path of names is cut into
these names again, and the walk along it takes one step for each.

Everything here is about bytes. Texts come in at the end: a path along names that are texts is a
text, and is decoded into that text without loss.
-/

namespace ScriptLint

namespace Part

variable {α : Type} [DecidableEq α] {x : α} {s : List α}

/-- Without an empty piece there is nothing that opens with the element at which it is cut. -/
theorem opensWith_eq_false_of_splitOnP (h : [] ∉ s.splitOnP (· == x)) :
    opensWith [x] s = false := by
  rw [← Bool.not_eq_true]
  intro hopens
  obtain ⟨rest, rfl⟩ := opensWith_iff.1 hopens
  refine h ?_
  have hcut := List.splitOnP_append_cons (p := (· == x)) [] rest BEq.rfl
  rw [List.nil_append] at hcut
  rw [List.singleton_append, hcut]
  exact List.mem_cons_self

/-- The same for what ends with it. -/
theorem endsWith_eq_false_of_splitOnP (h : [] ∉ s.splitOnP (· == x)) :
    endsWith [x] s = false := by
  rw [← Bool.not_eq_true]
  intro hends
  obtain ⟨before, rfl⟩ := endsWith_iff.1 hends
  refine h ?_
  rw [List.splitOnP_append_cons (p := (· == x)) before [] BEq.rfl]
  exact List.mem_append_right _ List.mem_cons_self

end Part

namespace Path

/-- The path along some names, from the working directory. -/
def ofNames (ns : List Name) : Bytes :=
  if ns = [] then [dot] else List.intercalate [slash] (ns.map Subtype.val)

variable {n : Name} {ns ms : List Name}

/-- The path `.` is for no names at all, so wherever there is one the names are what counts. -/
theorem ofNames_of_ne_nil (hne : ns ≠ []) :
    ofNames ns = List.intercalate [slash] (ns.map Subtype.val) :=
  if_neg hne

/-! ## The steps of a path of names -/

/-- No name is cut, so what stands between the slashes are the names. -/
theorem splitOnP_ofNames (hne : ns ≠ []) :
    (ofNames ns).splitOnP (· == slash) = ns.map Subtype.val := by
  rw [ofNames_of_ne_nil hne, ← List.splitOn_eq_splitOnP]
  refine List.splitOn_intercalate slash (fun bytes hbytes => ?_) (hne ∘ List.map_eq_nil_iff.1)
  obtain ⟨n, -, rfl⟩ := List.mem_map.1 hbytes
  exact n.property.slash_not_mem

/-- Nothing in a path of names is cut into an empty piece, the path `.` included. That is what
keeps a slash away from both of its ends. -/
theorem nil_not_mem_splitOnP_ofNames (ns : List Name) :
    [] ∉ (ofNames ns).splitOnP (· == slash) := by
  by_cases hne : ns = []
  · subst hne
    decide
  · rw [splitOnP_ofNames hne]
    intro hmem
    obtain ⟨n, -, hn⟩ := List.mem_map.1 hmem
    exact n.property.ne_nil hn

/-- A path of names is counted from the working directory. -/
theorem isAbsolute_ofNames (ns : List Name) : isAbsolute (ofNames ns) = false :=
  Part.opensWith_eq_false_of_splitOnP (nil_not_mem_splitOnP_ofNames ns)

/-- So it has no further step at its end. -/
theorem endsInSlash_ofNames (ns : List Name) : endsInSlash (ofNames ns) = false :=
  Part.endsWith_eq_false_of_splitOnP (nil_not_mem_splitOnP_ofNames ns)

/-- Since no name is empty, none of them is dropped. -/
theorem pieces_ofNames (hne : ns ≠ []) : pieces (ofNames ns) = ns.map Subtype.val := by
  rw [pieces, splitOnP_ofNames hne, List.filter_eq_self]
  intro bytes hbytes
  obtain ⟨n, -, rfl⟩ := List.mem_map.1 hbytes
  rw [Bool.not_eq_true', List.isEmpty_eq_false_iff]
  exact n.property.ne_nil

/-- A name is never taken for `.` or `..`. -/
private theorem stepOf_name (n : Name) : stepOf n.val = .into n := dif_pos n.property

/-- **The walk along a path of names takes one step for each.** -/
theorem steps_ofNames (hne : ns ≠ []) : steps (ofNames ns) = ns.map .into := by
  rw [steps, bareSteps, pieces_ofNames hne, endsInSlash_ofNames, if_neg (by decide),
    List.append_nil, List.map_map]
  exact List.map_congr_left fun n _ => stepOf_name n

/-- The path `.` has one step, which stays where it is. -/
theorem steps_ofNames_nil : steps (ofNames []) = [.here] := by decide

/-- A path of names is not a spelling of `.`, however long the names are. -/
theorem isHere_ofNames (hne : ns ≠ []) : isHere (ofNames ns) = false := by
  rw [isHere, splitOnP_ofNames hne]
  cases ns with
  | nil => rfl
  | cons n ns =>
      have hfirst : (n.val == [dot]) = false := beq_eq_false_iff_ne.2 n.property.ne_here
      simp only [List.map_cons, hfirst, Bool.false_and]

/-! ## Longer paths -/

/-- One name is its own path, which is how the entries of the working directory are spelled. -/
theorem ofNames_singleton (n : Name) : ofNames [n] = n.val := by
  rw [ofNames_of_ne_nil (by simp), List.map_singleton, List.intercalate_singleton]

/-- A path is read from the outside: its first name, and the path from there on. -/
theorem ofNames_cons (hne : ns ≠ []) (n : Name) :
    ofNames (n :: ns) = n.val ++ slash :: ofNames ns := by
  rw [ofNames_of_ne_nil hne, ofNames_of_ne_nil (by simp), List.map_cons,
    List.intercalate_cons_of_ne_nil (hne ∘ List.map_eq_nil_iff.1), List.append_assoc,
    List.singleton_append]

/-- Two ways in a row have a slash between them. -/
theorem ofNames_append (hne : ns ≠ []) (hms : ms ≠ []) :
    ofNames (ns ++ ms) = ofNames ns ++ slash :: ofNames ms := by
  induction ns with
  | nil => exact absurd rfl hne
  | cons a ns ih =>
      by_cases hns : ns = []
      · subst hns
        rw [List.singleton_append, ofNames_cons hms, ofNames_singleton]
      · rw [List.cons_append, ofNames_cons (by simp [hms]), ih hns, ofNames_cons hns,
          List.append_assoc, List.cons_append]

/-- A path has a byte at least for each of its names. -/
theorem length_le_length_ofNames (ns : List Name) : ns.length ≤ (ofNames ns).length := by
  induction ns with
  | nil => exact Nat.zero_le _
  | cons n ns ih =>
      have hpos : 0 < n.val.length := List.length_pos_iff.2 n.property.ne_nil
      by_cases hne : ns = []
      · subst hne
        rw [ofNames_singleton]
        exact hpos
      · rw [ofNames_cons hne, List.length_append, List.length_cons, List.length_cons]
        omega

/-- A path of names is not empty, so it is not refused for that. -/
theorem ofNames_ne_nil (ns : List Name) : ofNames ns ≠ [] := by
  intro h
  have hlength := length_le_length_ofNames ns
  rw [h] at hlength
  obtain rfl := List.eq_nil_of_length_eq_zero (Nat.le_zero.1 hlength)
  exact absurd h (by decide)

/-- A path of one more name is the name as seen from the directory. -/
theorem join_ofNames (hne : ns ≠ []) (n : Name) : join (ofNames ns) n.val = ofNames (ns ++ [n]) := by
  have hrelative : isAbsolute n.val = false := by
    rw [← ofNames_singleton n]
    exact isAbsolute_ofNames [n]
  have hempty : (ofNames ns).isEmpty = false := List.isEmpty_eq_false_iff.2 (ofNames_ne_nil ns)
  rw [join, hrelative, if_neg (by decide), endsInSlash_ofNames ns, hempty, if_neg (by decide),
    ofNames_append hne (by simp), ofNames_singleton]

/-! ## Names that are texts -/

/-- What is written in a pattern or on the command line is a text. -/
theorem isText_encode (s : Text) : IsText s := ⟨s, rfl⟩

/-- Texts behind one another are a text. -/
theorem IsText.append {p q : Bytes} (hp : IsText p) (hq : IsText q) : IsText (p ++ q) := by
  obtain ⟨s, rfl⟩ := hp
  obtain ⟨u, rfl⟩ := hq
  exact ⟨s ++ u, Utf8.encode_append s u⟩

/-- The slash is a text too, so a text as seen from a text is one. -/
theorem IsText.join {p q : Bytes} (hp : IsText p) (hq : IsText q) : IsText (join p q) := by
  have hslash : IsText [slash] := isText_encode ['/']
  unfold Path.join
  split
  · exact hq
  split
  · exact hp.append hq
  · exact hp.append (hslash.append hq)

/-- Names that are texts, and the texts that they are. -/
private theorem exists_texts (h : ∀ n ∈ ns, IsText n.val) :
    ∃ ss : List Text, ns.map Subtype.val = ss.map Utf8.encode := by
  induction ns with
  | nil => exact ⟨[], rfl⟩
  | cons n ns ih =>
      obtain ⟨⟨s, hs⟩, hrest⟩ := List.forall_mem_cons.1 h
      obtain ⟨ss, hss⟩ := ih hrest
      exact ⟨s :: ss, by rw [List.map_cons, List.map_cons, hs, hss]⟩

/-- The path along names that are texts: these texts, with a slash between neighbours. -/
theorem encode_join {ss : List Text} (hne : ns ≠ []) (h : ns.map Subtype.val = ss.map Utf8.encode) :
    Utf8.encode (Text.join ['/'] ss) = ofNames ns := by
  rw [ofNames_of_ne_nil hne, h, Text.join]
  clear h hne
  induction ss with
  | nil => rfl
  | cons s ss ih =>
      by_cases hss : ss = []
      · subst hss
        rw [List.map_cons, List.map_nil, List.intercalate_singleton, List.intercalate_singleton]
      · rw [List.map_cons, List.intercalate_cons_of_ne_nil hss,
          List.intercalate_cons_of_ne_nil (hss ∘ List.map_eq_nil_iff.1), Utf8.encode_append,
          Utf8.encode_append, ih]
        rfl

/-- And if a path is a text, so are its names. -/
theorem exists_texts_of_encode_eq {path : Text} (hne : ns ≠ []) (h : Utf8.encode path = ofNames ns) :
    ∃ ss : List Text, ns.map Subtype.val = ss.map Utf8.encode ∧ path = Text.join ['/'] ss := by
  have hcut : (Utf8.encode path).splitOnP (· == slash) = (path.splitOnP (· == '/')).map Utf8.encode :=
    Utf8.splitOnP_encode (c := '/') (by decide) path
  rw [h, splitOnP_ofNames hne] at hcut
  exact ⟨_, hcut, Utf8.encode_injective (h.trans (encode_join hne hcut).symm)⟩

/-- Texts that are names. -/
theorem exists_names {ss : List Text} (h : ∀ s ∈ ss, IsName s) :
    ∃ ns : List Name, ns.map Subtype.val = ss.map Utf8.encode := by
  refine ⟨ss.pmap (fun (s : Text) (hs : IsName s) => ⟨Utf8.encode s, hs⟩) h, ?_⟩
  rw [List.map_pmap, List.pmap_eq_map]

/-- A path along texts is a text, since nothing but slashes is put between them. -/
theorem isText_ofNames (h : ∀ n ∈ ns, IsText n.val) : IsText (ofNames ns) := by
  by_cases hne : ns = []
  · subst hne
    exact isText_encode ['.']
  · obtain ⟨ss, hss⟩ := exists_texts h
    exact ⟨_, encode_join hne hss⟩

/-- **What is a text is decoded without loss.** -/
theorem IsText.encode_lossy {bytes : Bytes} (h : IsText bytes) :
    Utf8.encode (Utf8.lossy bytes) = bytes := by
  obtain ⟨s, rfl⟩ := h
  rw [Utf8.lossy_encode]

/-- Whether bytes are a text can be seen by decoding them. -/
theorem isText_iff {bytes : Bytes} : IsText bytes ↔ Utf8.encode (Utf8.lossy bytes) = bytes :=
  ⟨IsText.encode_lossy, fun h => ⟨Utf8.lossy bytes, h⟩⟩

instance (bytes : Bytes) : Decidable (IsText bytes) := decidable_of_iff _ isText_iff.symm

/-- So a list of texts can be had back from what is handed on of it. -/
theorem map_encode_map_lossy {ps : List Bytes} (h : ∀ p ∈ ps, IsText p) :
    (ps.map Utf8.lossy).map Utf8.encode = ps := by
  have hback : ∀ p ∈ ps, (Utf8.encode ∘ Utf8.lossy) p = id p := fun p hp => (h p hp).encode_lossy
  rw [List.map_map, List.map_congr_left hback, List.map_id]

/-- And what is handed on can be told from what was found. -/
theorem mem_map_lossy_iff {ps : List Bytes} (h : ∀ p ∈ ps, IsText p) {s : Text} :
    s ∈ ps.map Utf8.lossy ↔ Utf8.encode s ∈ ps := by
  constructor
  · intro hs
    rw [← map_encode_map_lossy h]
    exact List.mem_map_of_mem hs
  · intro hs
    exact List.mem_map.2 ⟨Utf8.encode s, hs, Utf8.lossy_encode s⟩

/-- A text of more than dots and without a slash is a name. -/
theorem isName_encode {s : Text} (hne : s ≠ []) (hslash : '/' ∉ s) (hdot : s.head? ≠ some '.') :
    IsName s := by
  have hother : ∀ dots : Text, dots.head? = some '.' → Utf8.encode s ≠ Utf8.encode dots := by
    intro dots hdots heq
    exact hdot (Utf8.encode_injective heq ▸ hdots)
  refine ⟨fun hnil => hne (Utf8.encode_injective hnil), ?_, hother ['.'] rfl, hother ['.', '.'] rfl⟩
  intro hmem
  exact hslash ((Utf8.ofNat_toNat_mem_encode (c := '/') (by decide)).1 hmem)

end Path

namespace Tree

open ScriptLint.Path

variable {p : Bytes} {ns ms : List Name}

/-- A path is walked if it has no NUL, is not empty, and has fewer bytes than the limit. Nothing
else is asked of it beforehand. -/
theorem refusal?_eq_none_iff : refusal? p = none ↔ 0 ∉ p ∧ p ≠ [] ∧ p.length < Path.limit := by
  unfold refusal?
  by_cases hnul : p.contains 0 = true
  · rw [if_pos hnul]
    exact ⟨fun h => absurd h (by simp), fun h => absurd (List.contains_iff_mem.1 hnul) h.1⟩
  by_cases hempty : p.isEmpty = true
  · rw [if_neg hnul, if_pos hempty]
    exact ⟨fun h => absurd h (by simp), fun h => absurd (List.isEmpty_iff.1 hempty) h.2.1⟩
  by_cases hsize : Path.limit ≤ p.length
  · rw [if_neg hnul, if_neg hempty, if_pos hsize]
    exact ⟨fun h => absurd h (by simp), fun h => absurd h.2.2 (Nat.not_lt.2 hsize)⟩
  · rw [if_neg hnul, if_neg hempty, if_neg hsize]
    refine iff_of_true rfl ⟨fun hmem => hnul (List.contains_iff_mem.2 hmem), ?_, Nat.not_le.1 hsize⟩
    exact fun hnil => hempty (List.isEmpty_iff.2 hnil)

/-- A path along fewer names is not refused where a longer one is not. -/
theorem refusal?_of_append (h : refusal? (ofNames (ns ++ ms)) = none) :
    refusal? (ofNames ns) = none := by
  by_cases hne : ns = []
  · subst hne
    decide
  by_cases hms : ms = []
  · rwa [hms, List.append_nil] at h
  rw [refusal?_eq_none_iff, ofNames_append hne hms] at h
  obtain ⟨hnul, -, hsize⟩ := h
  refine refusal?_eq_none_iff.2 ⟨fun hmem => hnul (List.mem_append_left _ hmem), ofNames_ne_nil ns, ?_⟩
  rw [List.length_append] at hsize
  exact Nat.lt_of_le_of_lt (Nat.le_add_right _ _) hsize

/-- A path that is not refused has fewer names than a path has bytes. -/
theorem length_lt_limit (h : refusal? (ofNames ns) = none) : ns.length < Path.limit :=
  calc ns.length ≤ (ofNames ns).length := length_le_length_ofNames ns
    _ < Path.limit := (refusal?_eq_none_iff.1 h).2.2

end Tree

end ScriptLint
