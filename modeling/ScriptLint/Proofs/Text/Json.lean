import ScriptLint.Proofs.Text.Decimal
import ScriptLint.Text.JsonReader

set_option autoImplicit false

/-!
JSON documents, printed and read back.

The printer is one of many, and the reader takes what any of them prints. So reading is
not the printer run backwards: it passes over blanks of any number in any place, knows
escapes that are never printed, and tells a value by its first character.

`ReadsBack` is the statement that goes by induction. It has the text behind the value
quantified, since what stands behind an inner value is the rest of the document. That text
may begin with anything but a digit, by which a number would go on. The reader counts down
with every value, and the length of what was printed is always enough.
-/

namespace ScriptLint.Json

/-! ## Texts -/

/-- A control character is read back from its four digits. -/
private theorem hexNumber?_of_lt {n : Nat} (hn : n < 0x20) :
    Text.hexNumber? '0' '0' (hexDigit (n / 16)) (hexDigit (n % 16)) = some n := by
  have hall : ∀ k < 0x20, Text.hexNumber? '0' '0' (hexDigit (k / 16)) (hexDigit (k % 16)) = some k := by
    decide
  exact hall n hn

/-- A character is written with a letter that stands for it, by its number, or as it is. -/
private theorem escapeChar_cases (c : Char) :
    (∃ letter, escapeChar c = ['\\', letter] ∧ unescape? letter = some c)
      ∨ (c.toNat < 0x20 ∧ escapeChar c
          = ['\\', 'u', '0', '0', hexDigit (c.toNat / 16), hexDigit (c.toNat % 16)])
      ∨ (c ≠ '"' ∧ c ≠ '\\' ∧ 0x20 ≤ c.toNat ∧ escapeChar c = [c]) := by
  unfold escapeChar
  split
  case h_8 =>
    rename_i hmark hbackslash _ _ _ _ _
    by_cases hlow : c.toNat < 0x20
    · rw [if_pos hlow]
      exact .inr (.inl ⟨hlow, rfl⟩)
    · rw [if_neg hlow]
      exact .inr (.inr ⟨hmark, hbackslash, by omega, rfl⟩)
  all_goals exact .inl ⟨_, rfl, rfl⟩

/-- **One character.** What it is written as is read as one piece, whatever stands behind
it, and that piece makes this character. -/
theorem pieces?_escapeChar_append (c : Char) :
    ∃ p : Piece,
      (∀ w, pieces? (escapeChar c ++ w) = (pieces? w).map fun (ps, rest) => (p :: ps, rest))
        ∧ ∀ ps, ofPieces? (p :: ps) = (ofPieces? ps).map (c :: ·) := by
  obtain ⟨letter, hc, hletter⟩ | ⟨hlow, hc⟩ | ⟨hmark, hbackslash, hlow, hc⟩ := escapeChar_cases c
  · refine ⟨.char c, fun w => ?_, fun ps => rfl⟩
    have hu : letter ≠ 'u' := by
      rintro rfl
      exact absurd hletter (by simp [unescape?])
    rw [hc, List.cons_append, List.singleton_append, pieces?, hletter]
    · cases pieces? w <;> rfl
    · intro _ _ _ _ _ h
      exact absurd h hu
  · refine ⟨.code c.toNat, fun w => ?_, fun ps => ?_⟩
    · rw [hc]
      simp only [List.cons_append, List.nil_append]
      rw [pieces?, hexNumber?_of_lt hlow]
      cases pieces? w <;> rfl
    · have hvalid : Nat.isValidChar c.toNat := c.valid
      rw [ofPieces?.eq_def]
      simp only [if_pos hvalid, Char.ofNat_toNat]
  · refine ⟨.char c, fun w => ?_, fun ps => rfl⟩
    have hplain : ¬ (c = '\\' ∨ c.toNat < 0x20) := not_or.2 ⟨hbackslash, by omega⟩
    rw [hc, List.singleton_append, pieces?, if_neg hplain]
    · cases pieces? w <;> rfl
    · exact hmark
    · intro _ _ _ _ _ h
      exact absurd h hbackslash
    · intro _ _ h
      exact absurd h hbackslash

/-- **A text is read back**, with exactly what stands behind its closing mark left. -/
theorem readText?_flatMap_append (s rest : Text) :
    readText? (s.flatMap escapeChar ++ '"' :: rest) = some (s, rest) := by
  have hpieces : ∃ ps, pieces? (s.flatMap escapeChar ++ '"' :: rest) = some (ps, rest)
      ∧ ofPieces? ps = some s := by
    induction s with
    | nil => exact ⟨[], rfl, rfl⟩
    | cons c s ih =>
        obtain ⟨ps, hread, hmake⟩ := ih
        obtain ⟨p, hchar, hpiece⟩ := pieces?_escapeChar_append c
        refine ⟨p :: ps, ?_, ?_⟩
        · rw [List.flatMap_cons, List.append_assoc, hchar, hread, Option.map_some]
        · rw [hpiece, hmake, Option.map_some]
  obtain ⟨ps, hread, hmake⟩ := hpieces
  simp only [readText?, hread, hmake, Option.bind_eq_bind, Option.bind_some]

/-! ## Numbers -/

/-- A text that no number goes on with. -/
def Closes (rest : Text) : Prop := ∀ c, rest.head? = some c → Decimal.digit? c = none

/-- A number ends in front of a character that is no digit. -/
theorem closes_cons {c : Char} (hc : Decimal.digit? c = none) (rest : Text) : Closes (c :: rest) := by
  intro d hd
  rw [List.head?_cons, Option.some.injEq] at hd
  rw [← hd, hc]

/-- A number is not written with a zero in front. -/
theorem toDigits_eq_cons {n : Nat} (hn : 0 < n) :
    ∃ c s, Nat.toDigits 10 n = c :: s ∧ c ≠ '0' := by
  induction n using Nat.strongRecOn with
  | ind n ih =>
      by_cases hsmall : n < 10
      · refine ⟨n.digitChar, [], Nat.toDigits_of_lt_base hsmall, ?_⟩
        have hall : ∀ k < 10, 0 < k → k.digitChar ≠ '0' := by decide
        exact hall n hsmall hn
      · obtain ⟨c, s, hfront, hc⟩ := ih (n / 10) (by omega) (by omega)
        refine ⟨c, s ++ [(n % 10).digitChar], ?_, hc⟩
        rw [Nat.toDigits_of_base_le (by omega) (by omega), hfront, List.cons_append]

theorem ofNat_eq_toDigits (n : Nat) : Text.ofNat n = Nat.toDigits 10 n := Nat.toList_repr

/-- A printed number is made of digits. -/
theorem isDigit_of_mem_ofNat {n : Nat} {c : Char} (hc : c ∈ Text.ofNat n) : c.isDigit = true := by
  rw [ofNat_eq_toDigits] at hc
  exact Nat.isDigit_of_mem_toDigits (by omega) (by omega) hc

/-- A printed number is read back. -/
private theorem unsigned?_ofNat (n : Nat) : Decimal.unsigned? (Text.ofNat n) = some n := by
  rw [Decimal.unsigned?]
  · rw [Decimal.digits?_eq_ofDigitChars fun c hc => isDigit_of_mem_ofNat hc, ofNat_eq_toDigits,
      Nat.ofDigitChars_ten_toDigits]
  · intro hnil
    rw [ofNat_eq_toDigits] at hnil
    exact Nat.toDigits_ne_nil hnil

/-- **A number is read back**, up to where it ends. -/
theorem readNumber?_ofNat_append (n : Nat) {rest : Text} (hrest : Closes rest) :
    readNumber? (Text.ofNat n ++ rest) = some (n, rest) := by
  have hdigits : ∀ c ∈ Text.ofNat n, (Decimal.digit? c).isSome = true := by
    intro c hc
    rw [Decimal.digit?_of_isDigit (isDigit_of_mem_ofNat hc), Option.isSome_some]
  have hstop : rest.takeWhile (fun c => (Decimal.digit? c).isSome) = [] := by
    cases rest with
    | nil => rfl
    | cons c rest =>
        have hc : Decimal.digit? c = none := hrest c List.head?_cons
        rw [List.takeWhile_cons, hc]
        rfl
  have htake : (Text.ofNat n ++ rest).takeWhile (fun c => (Decimal.digit? c).isSome) = Text.ofNat n := by
    rw [List.takeWhile_append_of_pos hdigits, hstop, List.append_nil]
  simp only [readNumber?, htake, List.drop_left]
  split
  · -- a zero in front of other digits
    next c s hzero =>
      by_cases hn : 0 < n
      · obtain ⟨d, t, hd, hne⟩ := toDigits_eq_cons hn
        rw [ofNat_eq_toDigits, hd] at hzero
        exact absurd (List.cons.inj hzero).1 hne
      · obtain rfl : n = 0 := by omega
        exact absurd hzero (by simp [Text.ofNat])
  · rw [unsigned?_ofNat, Option.map_some]

/-! ## Blanks -/

/-- The characters that count for nothing between values. -/
def blanks : List Char := [' ', '\n', '\r', '\t']

/-- A blank is passed over. -/
theorem skipBlanks_cons_of_mem {c : Char} (hc : c ∈ blanks) (s : Text) :
    skipBlanks (c :: s) = skipBlanks s := by
  simp only [blanks, List.mem_cons, List.not_mem_nil, or_false] at hc
  rcases hc with rfl | rfl | rfl | rfl <;> rfl

/-- Anything else stops the reader. -/
theorem skipBlanks_cons_of_not_mem {c : Char} (hc : c ∉ blanks) (s : Text) :
    skipBlanks (c :: s) = c :: s := by
  simp only [blanks, List.mem_cons, List.not_mem_nil, or_false, not_or] at hc
  obtain ⟨hblank, hfeed, hreturn, htab⟩ := hc
  rw [skipBlanks, List.dropWhile_cons_of_neg]
  simp [hblank, hfeed, hreturn, htab]

/-- Blanks in front of a text are passed over together. -/
theorem skipBlanks_append {ws : Text} (hws : ∀ c ∈ ws, c ∈ blanks) (s : Text) :
    skipBlanks (ws ++ s) = skipBlanks s := by
  induction ws with
  | nil => rfl
  | cons c ws ih =>
      rw [List.cons_append, skipBlanks_cons_of_mem (hws c List.mem_cons_self)]
      exact ih fun d hd => hws d (List.mem_cons_of_mem c hd)

/-- An indented line break is made of blanks. -/
private theorem mem_blanks_of_mem_newline {depth : Nat} {c : Char} (hc : c ∈ newline depth) :
    c ∈ blanks := by
  obtain rfl | hc := List.mem_cons.1 hc
  · simp [blanks]
  · rw [List.eq_of_mem_replicate hc]
    simp [blanks]

/-- The layout of the printer is passed over. -/
theorem skipBlanks_newline_append (depth : Nat) (s : Text) :
    skipBlanks (newline depth ++ s) = skipBlanks s :=
  skipBlanks_append (fun _ hc => mem_blanks_of_mem_newline hc) s

/-- Blanks in front of a value, of an item and of a member are passed over. -/
theorem readValue?_congr {s t : Text} (h : skipBlanks s = skipBlanks t) (depth : Nat) :
    readValue? depth s = readValue? depth t := by
  cases depth with
  | zero => rw [readValue?, readValue?]
  | succ depth => rw [readValue?, readValue?, h]

/-- Items are read from the first character that is no blank. -/
private theorem readItems?_congr {s t : Text} (h : skipBlanks s = skipBlanks t) (depth : Nat) :
    readItems? depth s = readItems? depth t := by
  cases depth with
  | zero => rw [readItems?, readItems?]
  | succ depth => rw [readItems?, readItems?, readValue?_congr h]

/-- Members are read from the first character that is no blank. -/
private theorem readMembers?_congr {s t : Text} (h : skipBlanks s = skipBlanks t) (depth : Nat) :
    readMembers? depth s = readMembers? depth t := by
  cases depth with
  | zero => rw [readMembers?, readMembers?]
  | succ depth => rw [readMembers?, readMembers?, h]

/-! ## Values -/

/-- A printed number begins with a digit, which tells it from the other values. -/
theorem exists_ofNat_eq_cons (n : Nat) : ∃ c s, Text.ofNat n = c :: s ∧ c.isDigit = true := by
  cases htext : Text.ofNat n with
  | nil => exact absurd (ofNat_eq_toDigits n ▸ htext) Nat.toDigits_ne_nil
  | cons c s =>
      have hmem : c ∈ Text.ofNat n := by
        rw [htext]
        exact List.mem_cons_self
      exact ⟨c, s, rfl, isDigit_of_mem_ofNat hmem⟩

/-- **How a value begins.** It is told from a blank and from the end of what holds it. -/
theorem exists_write_eq_cons (depth : Nat) (v : Json) :
    ∃ c s, write depth v = c :: s ∧ c ∉ blanks ∧ c ≠ ']' := by
  cases v with
  | bool b =>
      cases b with
      | false => exact ⟨'f', _, rfl, by decide, by decide⟩
      | true => exact ⟨'t', _, rfl, by decide, by decide⟩
  | number n =>
      obtain ⟨c, s, htext, hc⟩ := exists_ofNat_eq_cons n
      rw [write, htext]
      refine ⟨c, s, rfl, ?_, ?_⟩
      · intro hmem
        simp only [blanks, List.mem_cons, List.not_mem_nil, or_false] at hmem
        rcases hmem with rfl | rfl | rfl | rfl <;> exact absurd hc (by decide)
      · rintro rfl
        exact absurd hc (by decide)
  | string s => exact ⟨'"', _, rfl, by decide, by decide⟩
  | array vs =>
      cases vs with
      | nil => exact ⟨'[', _, rfl, by decide, by decide⟩
      | cons v vs =>
          rw [write]
          exact ⟨'[', _, rfl, by decide, by decide⟩
  | object ms =>
      cases ms with
      | nil => exact ⟨'\x7b', _, rfl, by decide, by decide⟩
      | cons m ms =>
          rw [write]
          exact ⟨'\x7b', _, rfl, by decide, by decide⟩

/-- A value is found behind any blanks. -/
theorem skipBlanks_write_append (depth : Nat) (v : Json) (rest : Text) :
    skipBlanks (write depth v ++ rest) = write depth v ++ rest := by
  obtain ⟨c, s, hwrite, hc, -⟩ := exists_write_eq_cons depth v
  rw [hwrite, List.cons_append, skipBlanks_cons_of_not_mem hc]

/-- A line break with its indentation of two spaces a level. -/
theorem length_newline (depth : Nat) : (newline depth).length = 2 * depth + 1 := by
  rw [newline, List.length_cons, List.length_replicate]

/-- No number goes on behind an item or a member: there is a comma or a line end. -/
theorem closes_writeItems_append (depth : Nat) (vs : List Json) (n : Nat) (rest : Text) :
    Closes (writeItems depth vs ++ (newline n ++ rest)) := by
  cases vs with
  | nil => exact closes_cons (by decide) _
  | cons v vs =>
      rw [writeItems]
      exact closes_cons (by decide) _

/-- Behind a value there is a comma or a line break, so a number ends there. -/
theorem closes_writeMembers_append (depth : Nat) (ms : List (Text × Json)) (n : Nat) (rest : Text) :
    Closes (writeMembers depth ms ++ (newline n ++ rest)) := by
  cases ms with
  | nil => exact closes_cons (by decide) _
  | cons m ms =>
      rw [writeMembers]
      exact closes_cons (by decide) _

/-- A digit begins a number and no other value. -/
theorem readValue?_ofNat_append (n depth : Nat) {rest : Text} (hrest : Closes rest) :
    readValue? (depth + 1) (Text.ofNat n ++ rest) = some (.number n, rest) := by
  have hskip : skipBlanks (Text.ofNat n ++ rest) = Text.ofNat n ++ rest :=
    skipBlanks_write_append 0 (.number n) rest
  have hnumber := readNumber?_ofNat_append n hrest
  obtain ⟨c, s, htext, hc⟩ := exists_ofNat_eq_cons n
  rw [htext, List.cons_append] at hskip hnumber ⊢
  have hne : ∀ d : Char, d.isDigit = false → c ≠ d := by
    rintro d hd rfl
    rw [hc] at hd
    exact Bool.false_ne_true hd.symm
  rw [readValue?, hskip]
  split
  case h_6 => rw [hnumber, Option.map_some]
  all_goals
    rename_i h
    exact absurd (List.cons.inj h).1 (hne _ (by decide))

theorem quote_append (s rest : Text) :
    quote s ++ rest = '"' :: (s.flatMap escapeChar ++ '"' :: rest) := by
  rw [quote, List.cons_append, List.cons_append, List.append_assoc, List.singleton_append]

/-- A printed string is read back, whatever follows it. -/
theorem readValue?_quote_append (s : Text) (depth : Nat) (rest : Text) :
    readValue? (depth + 1) (quote s ++ rest) = some (.string s, rest) := by
  have hmark : '"' ∉ blanks := by decide
  rw [quote_append, readValue?, skipBlanks_cons_of_not_mem hmark]
  simp only [readText?_flatMap_append, Option.map_some]

/-- A bracket with no bracket behind it opens a list that is not empty. -/
private theorem readValue?_list {s t : Text} {c : Char} (hs : skipBlanks s = c :: t) (hc : c ≠ ']')
    (depth : Nat) :
    readValue? (depth + 1) ('[' :: s)
      = (readItems? depth (c :: t)).map fun (vs, rest) => (.array vs, rest) := by
  have hbracket : '[' ∉ blanks := by decide
  rw [readValue?, skipBlanks_cons_of_not_mem hbracket]
  simp only [hs]
  split
  · next h => exact absurd (List.cons.inj h).1 hc
  · rfl

/-- A brace with a mark behind it opens an object that is not empty. -/
private theorem readValue?_object {s t : Text} (hs : skipBlanks s = '"' :: t) (depth : Nat) :
    readValue? (depth + 1) ('\x7b' :: s)
      = (readMembers? depth ('"' :: t)).map fun (ms, rest) => (.object ms, rest) := by
  have hbrace : '\x7b' ∉ blanks := by decide
  rw [readValue?, skipBlanks_cons_of_not_mem hbrace]
  simp only [hs]
  rfl

/-- An item with a bracket behind it is the last one. -/
private theorem readItems?_last {s t rest : Text} {v : Json} {depth : Nat}
    (hv : readValue? depth s = some (v, t)) (ht : skipBlanks t = ']' :: rest) :
    readItems? (depth + 1) s = some ([v], rest) := by
  rw [readItems?, hv]
  simp only [Option.bind_eq_bind, Option.bind_some, ht]

/-- Behind an item with a comma there are further items. -/
private theorem readItems?_further {s t u rest : Text} {v : Json} {vs : List Json} {depth : Nat}
    (hv : readValue? depth s = some (v, t)) (ht : skipBlanks t = ',' :: u)
    (hvs : readItems? depth u = some (vs, rest)) : readItems? (depth + 1) s = some (v :: vs, rest) := by
  rw [readItems?, hv]
  simp only [Option.bind_eq_bind, Option.bind_some, ht]
  exact (congrArg _ hvs).trans rfl

/-- The name of a member is read back, and its value is what comes next. -/
theorem readMembers?_quote_append (k : Text) (depth : Nat) (rest : Text) :
    readMembers? (depth + 1) (quote k ++ ':' :: ' ' :: rest)
      = (readValue? depth rest).bind fun (v, s) =>
          match skipBlanks s with
          | '\x7d' :: rest => some ([(k, v)], rest)
          | ',' :: s => (readMembers? depth s).map fun (ms, rest) => ((k, v) :: ms, rest)
          | _ => none := by
  have hmark : '"' ∉ blanks := by decide
  have hcolon : ':' ∉ blanks := by decide
  have hblank : ' ' ∈ blanks := by decide
  rw [quote_append, readMembers?, skipBlanks_cons_of_not_mem hmark]
  simp only [readText?_flatMap_append, skipBlanks_cons_of_not_mem hcolon, Option.bind_eq_bind,
    Option.bind_some]
  -- the blank behind the colon is skipped with those in front of the value
  exact congrArg (Option.bind · _) (readValue?_congr (skipBlanks_cons_of_mem hblank rest) depth)

/-- A member with a brace behind it is the last one. -/
private theorem readMembers?_last {k s t rest : Text} {v : Json} {depth : Nat}
    (hv : readValue? depth s = some (v, t)) (ht : skipBlanks t = '\x7d' :: rest) :
    readMembers? (depth + 1) (quote k ++ ':' :: ' ' :: s) = some ([(k, v)], rest) := by
  rw [readMembers?_quote_append, hv]
  simp only [Option.bind_some, ht]

/-- Behind a member with a comma there are further members. -/
private theorem readMembers?_further {k s t u rest : Text} {v : Json} {ms : List (Text × Json)}
    {depth : Nat} (hv : readValue? depth s = some (v, t)) (ht : skipBlanks t = ',' :: u)
    (hms : readMembers? depth u = some (ms, rest)) :
    readMembers? (depth + 1) (quote k ++ ':' :: ' ' :: s) = some ((k, v) :: ms, rest) := by
  rw [readMembers?_quote_append, hv]
  simp only [Option.bind_some, ht]
  exact (congrArg _ hms).trans rfl

/-! ## Documents -/

/-- What stands between the brackets of a list, and its closing bracket. -/
theorem write_array_append (level : Nat) (v : Json) (vs : List Json) (rest : Text) :
    write level (.array (v :: vs)) ++ rest
      = '[' :: (newline (level + 1) ++ (write (level + 1) v ++ (writeItems (level + 1) vs
          ++ (newline level ++ ']' :: rest)))) := by
  simp only [write, List.append_assoc, List.cons_append, List.nil_append]

/-- A printed object that has members, in the order in which its reader meets them. -/
theorem write_object_append (level : Nat) (k : Text) (v : Json) (ms : List (Text × Json))
    (rest : Text) :
    write level (.object ((k, v) :: ms)) ++ rest
      = '\x7b' :: (newline (level + 1) ++ (quote k ++ ':' :: ' ' :: (write (level + 1) v
          ++ (writeMembers (level + 1) ms ++ (newline level ++ '\x7d' :: rest))))) := by
  simp only [write, List.append_assoc, List.cons_append, List.nil_append]

/-- Further items begin with a comma. -/
theorem skipBlanks_writeItems_append (level : Nat) (v : Json) (vs : List Json) (rest : Text) :
    skipBlanks (writeItems level (v :: vs) ++ rest)
      = ',' :: (newline level ++ (write level v ++ (writeItems level vs ++ rest))) := by
  have hcomma : ',' ∉ blanks := by decide
  simp only [writeItems, List.append_assoc, List.cons_append, List.nil_append]
  exact skipBlanks_cons_of_not_mem hcomma _

/-- The members behind the first one begin with a comma. -/
theorem skipBlanks_writeMembers_append (level : Nat) (k : Text) (v : Json)
    (ms : List (Text × Json)) (rest : Text) :
    skipBlanks (writeMembers level ((k, v) :: ms) ++ rest)
      = ',' :: (newline level ++ (quote k ++ ':' :: ' ' :: (write level v
          ++ (writeMembers level ms ++ rest)))) := by
  have hcomma : ',' ∉ blanks := by decide
  simp only [writeMembers, List.append_assoc, List.cons_append, List.nil_append]
  exact skipBlanks_cons_of_not_mem hcomma _

/-- What is read back of everything that is printed in at most `depth` characters. The
reader goes from a value to its items, and from one item to the next, with one step less,
so the three statements are about the same number of steps. -/
structure ReadsBack (depth : Nat) : Prop where
  value : ∀ (v : Json) (level : Nat) (rest : Text), (write level v).length ≤ depth → Closes rest →
    readValue? depth (write level v ++ rest) = some (v, rest)
  items : ∀ (v : Json) (vs : List Json) (level outer : Nat) (rest : Text),
    (write level v).length + (writeItems level vs).length < depth →
    readItems? depth (write level v ++ (writeItems level vs ++ (newline outer ++ ']' :: rest)))
      = some (v :: vs, rest)
  members : ∀ (k : Text) (v : Json) (ms : List (Text × Json)) (level outer : Nat) (rest : Text),
    (write level v).length + (writeMembers level ms).length < depth →
    readMembers? depth (quote k ++ ':' :: ' ' :: (write level v ++ (writeMembers level ms
        ++ (newline outer ++ '\x7d' :: rest))))
      = some ((k, v) :: ms, rest)

namespace ReadsBack

variable {depth : Nat}

/-- One level more for a value: a case for each form of value. -/
private theorem value_succ (h : ReadsBack depth) (v : Json) (level : Nat) (rest : Text)
    (hroom : (write level v).length ≤ depth + 1) (hrest : Closes rest) :
    readValue? (depth + 1) (write level v ++ rest) = some (v, rest) := by
  cases v with
  | bool b => cases b <;> rfl
  | number n =>
      rw [write]
      exact readValue?_ofNat_append n depth hrest
  | string s =>
      rw [write]
      exact readValue?_quote_append s depth rest
  | array vs =>
      cases vs with
      | nil => rfl
      | cons v vs =>
          have hinner : (write (level + 1) v).length + (writeItems (level + 1) vs).length < depth := by
            simp only [write, List.length_append, List.length_cons, length_newline] at hroom
            omega
          have hitems := h.items v vs (level + 1) level rest hinner
          obtain ⟨c, s, hv, -, hc⟩ := exists_write_eq_cons (level + 1) v
          rw [write_array_append, readValue?_list _ hc, ← List.cons_append, ← hv, hitems,
            Option.map_some]
          rw [skipBlanks_newline_append, skipBlanks_write_append, hv, List.cons_append]
  | object ms =>
      cases ms with
      | nil => rfl
      | cons m ms =>
          obtain ⟨k, v⟩ := m
          have hinner : (write (level + 1) v).length + (writeMembers (level + 1) ms).length < depth := by
            simp only [write, List.length_append, List.length_cons, length_newline] at hroom
            omega
          have hmembers := h.members k v ms (level + 1) level rest hinner
          have hmark : '"' ∉ blanks := by decide
          rw [quote_append] at hmembers
          rw [write_object_append, readValue?_object, hmembers, Option.map_some]
          rw [skipBlanks_newline_append, quote_append, skipBlanks_cons_of_not_mem hmark]

/-- One level more for the items behind a bracket. -/
private theorem items_succ (h : ReadsBack depth) (v : Json) (vs : List Json) (level outer : Nat)
    (rest : Text) (hroom : (write level v).length + (writeItems level vs).length < depth + 1) :
    readItems? (depth + 1) (write level v ++ (writeItems level vs ++ (newline outer ++ ']' :: rest)))
      = some (v :: vs, rest) := by
  have hv := h.value v level (writeItems level vs ++ (newline outer ++ ']' :: rest)) (by omega)
    (closes_writeItems_append level vs outer _)
  cases vs with
  | nil => exact readItems?_last hv (skipBlanks_newline_append outer (']' :: rest))
  | cons w vs =>
      have hinner : (write level w).length + (writeItems level vs).length < depth := by
        simp only [writeItems, List.length_append, List.length_cons, length_newline] at hroom
        omega
      have hws := h.items w vs level outer rest hinner
      refine readItems?_further hv (skipBlanks_writeItems_append level w vs _) ?_
      rw [← hws]
      apply readItems?_congr
      rw [skipBlanks_newline_append]

/-- One level more for the members behind a brace. -/
private theorem members_succ (h : ReadsBack depth) (k : Text) (v : Json) (ms : List (Text × Json))
    (level outer : Nat) (rest : Text)
    (hroom : (write level v).length + (writeMembers level ms).length < depth + 1) :
    readMembers? (depth + 1) (quote k ++ ':' :: ' ' :: (write level v ++ (writeMembers level ms
        ++ (newline outer ++ '\x7d' :: rest))))
      = some ((k, v) :: ms, rest) := by
  have hv := h.value v level (writeMembers level ms ++ (newline outer ++ '\x7d' :: rest)) (by omega)
    (closes_writeMembers_append level ms outer _)
  cases ms with
  | nil => exact readMembers?_last hv (skipBlanks_newline_append outer ('\x7d' :: rest))
  | cons m ms =>
      obtain ⟨l, w⟩ := m
      have hinner : (write level w).length + (writeMembers level ms).length < depth := by
        simp only [writeMembers, List.length_append, List.length_cons, length_newline] at hroom
        omega
      have hws := h.members l w ms level outer rest hinner
      refine readMembers?_further hv (skipBlanks_writeMembers_append level l w ms _) ?_
      rw [← hws]
      apply readMembers?_congr
      rw [skipBlanks_newline_append]

end ReadsBack

/-- **Everything that is printed is read back**, whatever its size. -/
theorem readsBack (depth : Nat) : ReadsBack depth := by
  induction depth with
  | zero =>
      refine ⟨fun v level rest hroom _ => ?_, fun v vs level outer rest hroom => ?_,
        fun k v ms level outer rest hroom => ?_⟩
      · -- no value is printed in nothing
        obtain ⟨c, s, hwrite, -, -⟩ := exists_write_eq_cons level v
        rw [hwrite, List.length_cons] at hroom
        omega
      · omega
      · omega
  | succ depth ih => exact ⟨ih.value_succ, ih.items_succ, ih.members_succ⟩

/-- **A printed document is read back**, also with blanks or line ends behind it. -/
theorem read?_print_append (v : Json) {ws : Text} (hws : ∀ c ∈ ws, c ∈ blanks) :
    read? (print v ++ ws) = some v := by
  have hcloses : Closes ws := by
    intro c hc
    have hmem : c ∈ blanks := hws c (List.mem_of_head? hc)
    simp only [blanks, List.mem_cons, List.not_mem_nil, or_false] at hmem
    rcases hmem with rfl | rfl | rfl | rfl <;> decide
  have hroom : (write 0 v).length ≤ 2 * (print v ++ ws).length + 1 := by
    rw [List.length_append, print]
    omega
  have hvalue := (readsBack (2 * (print v ++ ws).length + 1)).value v 0 ws hroom hcloses
  have hend : skipBlanks ws = [] := by
    have hskip := skipBlanks_append hws []
    rw [List.append_nil] at hskip
    exact hskip
  simp only [read?, print] at hvalue ⊢
  rw [hvalue]
  simp only [Option.bind_eq_bind, Option.bind_some, hend, List.isEmpty_nil, if_true]

end ScriptLint.Json
