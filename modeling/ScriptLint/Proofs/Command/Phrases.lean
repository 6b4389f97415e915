import ScriptLint.Command.Phrase
import ScriptLint.Command.Program
import ScriptLint.Proofs.Command.ExitCode
import ScriptLint.Proofs.Script.Assembly
import ScriptLint.Proofs.Text.Part
import ScriptLint.Proofs.Tree.Lookup

set_option autoImplicit false

/-!
A command line of phrases, a first file, and anything.

The reader goes argument by argument, and may be waiting for a value or have one that it has
not looked at. Behind a whole phrase it never waits, and what it has been given, once the
pending value has been looked at, is what the phrases so far give together
(`Phrase.given`). One phrase keeps it so, and then so does any number of them. An argument that
comes when the reader does not wait, and that is nothing known, is the first file; the reader
stops there, so it makes no difference what stands behind it.
-/

namespace ScriptLint.Command

/-! ## Giving one thing more -/

/-- What has been given, and a value for a setting. -/
def Given.put (g : Given) (s : Setting) (value : Text) : Given :=
  match s with
  | .options => { g with options := some value }
  | .engine => { g with engine := some value }
  | .interpreter => { g with interpreter := some value }
  | .format => { g with format := Format.ofName? value }

/-- A setting that has not been given takes every value that suits it. -/
theorem Given.set_of_suits {g : Given} {s : Setting} {value : Text} (hnew : g.has s = false)
    (hsuits : Phrase.suits s value = true) : g.set s value = .ok (g.put s value) := by
  unfold set
  rw [if_neg (by rw [hnew]; simp)]
  cases s with
  | options => rfl
  | interpreter => rfl
  | engine =>
      have hvalue : value.isEmpty = false := by simpa [Phrase.suits] using hsuits
      simp only [hvalue]
      rfl
  | format =>
      obtain ⟨format, hformat⟩ := Option.isSome_iff_exists.1 hsuits
      simp only [hformat, put]

namespace Phrase

variable {ps : List Phrase} {p : Phrase} {s : Setting} {value : Text}

/-- The values of a sound phrase suit their settings. -/
private theorem suits_of_value? (hsound : p.isSound = true) (hvalue : p.value? s = some value) :
    suits s value = true := by
  unfold value? at hvalue
  unfold isSound at hsound
  split at hvalue <;> simp_all

/-- The name of a format looks like nothing known. -/
theorem standsApart_format (hsuits : suits .format value = true) :
    standsApart .format value = true := by
  obtain ⟨format, hformat⟩ := Option.isSome_iff_exists.1 hsuits
  unfold Format.ofName? at hformat
  by_cases htext : value = "text".toList
  · subst htext
    decide
  · rw [if_neg htext] at hformat
    by_cases hjson : value = "json".toList
    · subst hjson
      decide
    · rw [if_neg hjson] at hformat
      exact absurd hformat (by simp)

/-- What no phrase gives has not been given. -/
theorem has_given (hnone : ps.findSome? (value? s) = none) : (given ps).has s = false := by
  cases s <;> simp [Given.has, given, hnone]

/-- A phrase behind others gives what no other one gives. -/
theorem findSome?_of_distinct_append (h : Distinct (ps ++ [p])) (hvalue : p.value? s = some value) :
    ps.findSome? (value? s) = none := by
  rw [List.findSome?_eq_none_iff]
  intro q hq
  obtain ⟨hsettings, -⟩ := (List.pairwise_append.1 h).2.2 q hq p (by simp)
  obtain hnone | hnone := hsettings s
  · exact Option.isNone_iff_eq_none.1 hnone
  · rw [hvalue] at hnone
    exact absurd hnone (by simp)

/-- A phrase behind others asks for what no other one asks for. -/
theorem any_eq_false_of_pairwise_append {asks : Phrase → Bool}
    (h : (ps ++ [p]).Pairwise fun p q => ¬ (asks p = true ∧ asks q = true)) (hasks : asks p = true) :
    ps.any asks = false := by
  rw [List.any_eq_false]
  intro q hq hboth
  exact (List.pairwise_append.1 h).2.2 q hq p (by simp) ⟨hboth, hasks⟩

/-- What is given by phrases with one behind them. -/
theorem given_append_singleton (ps : List Phrase) (p : Phrase) :
    given (ps ++ [p])
      = { options := (ps.findSome? (value? .options)).or (p.value? .options)
          engine := (ps.findSome? (value? .engine)).or (p.value? .engine)
          interpreter := (ps.findSome? (value? .interpreter)).or (p.value? .interpreter)
          format := ((ps.findSome? (value? .format)).or (p.value? .format)).bind Format.ofName?
          checkStatus := ps.any asksStatus || p.asksStatus
          verbose := ps.any asksLog || p.asksLog } := by
  simp only [given, List.findSome?_append, List.findSome?_singleton, List.any_append, List.any_cons,
    List.any_nil, Bool.or_false]

/-- A phrase that gives one setting, and asks for nothing. -/
theorem given_append_of_setting (hvalue : ∀ s', p.value? s' = if s = s' then some value else none)
    (hstatus : p.asksStatus = false) (hlog : p.asksLog = false)
    (hnone : ps.findSome? (value? s) = none) :
    given (ps ++ [p]) = (given ps).put s value := by
  rw [given_append_singleton]
  cases s <;> simp [hvalue, hstatus, hlog, hnone, given, Given.put]

private theorem given_append_checkStatus (ps : List Phrase) :
    given (ps ++ [checkStatus]) = (given ps).ask .checkStatus := by
  rw [given_append_singleton]
  simp [value?, asksStatus, asksLog, given, Given.ask]

/-- A phrase that asks for a full log, and gives no setting. -/
theorem given_append_of_log (hvalue : ∀ s, p.value? s = none) (hstatus : p.asksStatus = false)
    (hlog : p.asksLog = true) : given (ps ++ [p]) = (given ps).ask .verbose := by
  rw [given_append_singleton]
  simp [hvalue, hstatus, hlog, given, Given.ask]

/-- The two letters ask for a full log, and then give the format. -/
private theorem given_append_letters (hnone : ps.findSome? (value? .format) = none) :
    given (ps ++ [letters value]) = ((given ps).ask .verbose).put .format value := by
  rw [given_append_singleton]
  simp [value?, asksStatus, asksLog, hnone, given, Given.ask, Given.put]

end Phrase

/-! ## Reading one argument -/

/-- What does not open with a hyphen is nothing known. -/
private theorem Word.read?_of_head?_ne {arg : Text} (h : arg.head? ≠ some '-') :
    Word.read? arg = none := by
  unfold Word.read?
  split
  · exact absurd rfl h
  · exact absurd rfl h
  · rfl

namespace Reading

variable {r r' : Reading} {g g' : Given} {s : Setting} {value : Text}

/-- A reader that can look at its pending value is not waiting for one. -/
theorem pending_ne_of_settle (h : r.settle = .ok g) (s : Setting) : r.pending ≠ some ⟨s, none⟩ := by
  intro hpending
  simp [settle, hpending] at h

/-- A setting without its value is left open for the next argument. -/
theorem setting_none (h : r.settle = .ok g) (s : Setting) :
    r.setting s none = .ok ⟨g, some ⟨s, none⟩⟩ :=
  bind_eq_ok_iff.2 ⟨g, h, rfl⟩

/-- A setting with its value is settled at once. -/
private theorem setting_some (h : r.settle = .ok g) (hset : g.set s value = .ok g') :
    r.setting s (some value) = .ok ⟨g', none⟩ :=
  bind_eq_ok_iff.2 ⟨g, h, bind_eq_ok_iff.2 ⟨g', mapError_eq_ok_iff.2 hset, rfl⟩⟩

/-- A known argument, met by a reader that is not waiting. -/
theorem arguments_of_word {arg : Text} {w : Word} (h : r.settle = .ok g)
    (hword : Word.read? arg = some w) (hread : r.word w = .ok r') (tail : List Text) :
    r.arguments (arg :: tail) = r'.arguments tail := by
  have hhyphens : arg ≠ ['-', '-'] := by
    rintro rfl
    exact absurd hword (by simp [show Word.read? ['-', '-'] = none from by decide])
  rw [arguments_cons (pending_ne_of_settle h .options), if_neg hhyphens, hword]
  simp only [hread]

/-- A value, met by a reader that is waiting for it. -/
private theorem arguments_of_value (h : Phrase.standsApart s value = true) (g : Given)
    (tail : List Text) :
    (⟨g, some ⟨s, none⟩⟩ : Reading).arguments (value :: tail)
      = (⟨g, some ⟨s, some value⟩⟩ : Reading).arguments tail := by
  by_cases hoptions : s = .options
  · subst hoptions
    rw [arguments]
  · simp only [Phrase.standsApart, Bool.or_eq_true, beq_iff_eq, hoptions, false_or,
      Bool.and_eq_true, bne_iff_ne, Option.isNone_iff_eq_none] at h
    rw [arguments_cons (by simpa using hoptions), if_neg h.1, h.2]

/-- The first file, met by a reader that is not waiting. -/
private theorem arguments_of_file {f : Text} (h : r.settle = .ok g) (hplain : f.head? ≠ some '-')
    (rest : List Text) : r.arguments (f :: rest) = .ok (r, f :: rest) := by
  have hword : Word.read? f = none := Word.read?_of_head?_ne hplain
  have hhyphens : f ≠ ['-', '-'] := by
    rintro rfl
    exact hplain rfl
  rw [arguments_cons (pending_ne_of_settle h .options), if_neg hhyphens, hword]
  simp only
  split
  · next s hpending => exact absurd hpending (pending_ne_of_settle h s)
  · rfl

end Reading

/-! ## Reading one phrase -/

/-- The name of a setting is read as that setting, which waits for a value. -/
private theorem Word.read?_named (s : Setting) :
    Word.read? (Phrase.named s.name) = some (.setting s none) := by
  cases s <;> decide

/-- The name of a setting is read up to the first equals sign. -/
theorem Word.read?_named_append (s : Setting) (value : Text) :
    Word.read? (Phrase.named s.name ++ '=' :: value) = some (.setting s (some value)) := by
  have hname : '=' ∉ s.name := by
    cases s <;> decide
  have hfirst : Part.cutAt? ['='] (s.name ++ ['='] ++ value) = some (s.name, value) :=
    Part.cutAt?_append hname
  have hcut : Part.cutAt? ['='] (s.name ++ '=' :: value) = some (s.name, value) := by
    rwa [List.append_assoc, List.singleton_append] at hfirst
  change Word.ofName? (s.name ++ '=' :: value) = _
  rw [Word.ofName?, hcut]
  cases s <;> rfl

namespace Reading

variable {r : Reading} {g : Given} {ps : List Phrase} {p : Phrase} {s : Setting} {value : Text}

/-- A reader that waits for a value, given one, has that to look at. -/
theorem settle_value {g : Given} (hnew : g.has s = false) (hsuits : Phrase.suits s value = true) :
    (⟨g, some ⟨s, some value⟩⟩ : Reading).settle = .ok (g.put s value) :=
  mapError_eq_ok_iff.2 (Given.set_of_suits hnew hsuits)

/-- A flag, met by a reader that is not waiting. -/
theorem flag_of_settle {f : Flag} (h : r.settle = .ok g) (hf : f = .checkStatus ∨ f = .verbose)
    (hnew : g.asks f = false) (long : Bool) : r.flag f long = .ok ⟨g.ask f, none⟩ :=
  flag_eq_ok_iff.2 ⟨g, h, hf, hnew, rfl⟩

/-- A setting that is waiting for its value, whatever has introduced it, and the value. -/
theorem arguments_of_apart {g' : Given} {first : Text} {w : Word} (h : r.settle = .ok g)
    (hword : Word.read? first = some w) (hread : r.word w = .ok ⟨g', some ⟨s, none⟩⟩)
    (hapart : Phrase.standsApart s value = true) (tail : List Text) :
    r.arguments (first :: value :: tail)
      = (⟨g', some ⟨s, some value⟩⟩ : Reading).arguments tail := by
  rw [arguments_of_word h hword hread, arguments_of_value hapart]

/-- **One phrase more.** A reader that has been given what some phrases give reads one more,
and has been given what they give together. -/
theorem arguments_of_phrase (h : r.settle = .ok (Phrase.given ps)) (hsound : p.isSound = true)
    (hdistinct : Phrase.Distinct (ps ++ [p])) :
    ∃ r' : Reading, r'.settle = .ok (Phrase.given (ps ++ [p]))
      ∧ ∀ tail, r.arguments (p.args ++ tail) = r'.arguments tail := by
  -- what `p` gives, no other phrase has given
  have hnone {s : Setting} {value : Text} (hvalue : p.value? s = some value) :
      ps.findSome? (Phrase.value? s) = none :=
    Phrase.findSome?_of_distinct_append hdistinct hvalue
  have hverbose (hasks : p.asksLog = true) : (Phrase.given ps).asks .verbose = false :=
    Phrase.any_eq_false_of_pairwise_append (List.Pairwise.imp (fun h => h.2.2) hdistinct) hasks
  cases p with
  | apart s value =>
      obtain ⟨hapart, hsuits⟩ := Bool.and_eq_true_iff.1 hsound
      have hnone := hnone (if_pos rfl : (Phrase.apart s value).value? s = some value)
      refine ⟨⟨Phrase.given ps, some ⟨s, some value⟩⟩, ?_, ?_⟩
      · rw [Phrase.given_append_of_setting (fun _ => rfl) rfl rfl hnone]
        exact settle_value (Phrase.has_given hnone) hsuits
      · exact arguments_of_apart h (Word.read?_named s) (setting_none h s) hapart
  | joined s value =>
      have hnone := hnone (if_pos rfl : (Phrase.joined s value).value? s = some value)
      have hset := Given.set_of_suits (Phrase.has_given hnone) hsound
      refine ⟨⟨(Phrase.given ps).put s value, none⟩, ?_, ?_⟩
      · rw [Phrase.given_append_of_setting (fun _ => rfl) rfl rfl hnone]
        rfl
      · exact arguments_of_word h (Word.read?_named_append s value) (setting_some h hset)
  | checkStatus =>
      have hnew : (Phrase.given ps).asks .checkStatus = false :=
        Phrase.any_eq_false_of_pairwise_append (List.Pairwise.imp (fun h => h.2.1) hdistinct) rfl
      refine ⟨⟨(Phrase.given ps).ask .checkStatus, none⟩, ?_, ?_⟩
      · rw [Phrase.given_append_checkStatus]
        rfl
      · exact arguments_of_word (w := .flag .checkStatus none) h (by decide)
          (flag_of_settle h (.inl rfl) hnew true)
  | verbose =>
      refine ⟨⟨(Phrase.given ps).ask .verbose, none⟩, ?_, ?_⟩
      · rw [Phrase.given_append_of_log (fun _ => rfl) rfl rfl]
        rfl
      · exact arguments_of_word (w := .flag .verbose none) h (by decide)
          (flag_of_settle h (.inr rfl) (hverbose rfl) true)
  | letterV =>
      refine ⟨⟨(Phrase.given ps).ask .verbose, none⟩, ?_, ?_⟩
      · rw [Phrase.given_append_of_log (fun _ => rfl) rfl rfl]
        rfl
      · refine arguments_of_word (w := .cluster ['v']) h (by decide) ?_
        exact bind_eq_ok_iff.2 ⟨_, flag_of_settle h (.inr rfl) (hverbose rfl) false, rfl⟩
  | letterF value =>
      have hvalue : (Phrase.letterF value).value? .format = some value := rfl
      have hnone := hnone hvalue
      have hwait : r.word (.cluster ['f']) = .ok ⟨Phrase.given ps, some ⟨.format, none⟩⟩ :=
        setting_none h .format
      refine ⟨⟨Phrase.given ps, some ⟨.format, some value⟩⟩, ?_, ?_⟩
      · have hgiven : Phrase.given (ps ++ [.letterF value]) = (Phrase.given ps).put .format value :=
          Phrase.given_append_of_setting (fun s => by simp [Phrase.value?, eq_comm]) rfl rfl hnone
        rw [hgiven]
        exact settle_value (Phrase.has_given hnone) hsound
      · exact arguments_of_apart h (by decide) hwait (Phrase.standsApart_format hsound)
  | letters value =>
      have hvalue : (Phrase.letters value).value? .format = some value := rfl
      have hnone := hnone hvalue
      have hwait : r.word (.cluster ['v', 'f'])
          = .ok ⟨(Phrase.given ps).ask .verbose, some ⟨.format, none⟩⟩ :=
        bind_eq_ok_iff.2 ⟨_, flag_of_settle h (.inr rfl) (hverbose rfl) false,
          setting_none rfl .format⟩
      refine ⟨⟨(Phrase.given ps).ask .verbose, some ⟨.format, some value⟩⟩, ?_, ?_⟩
      · have hnew : ((Phrase.given ps).ask .verbose).has .format = false := by
          rw [Given.has_ask, Phrase.has_given hnone]
        rw [Phrase.given_append_letters hnone]
        exact settle_value hnew hsound
      · exact arguments_of_apart h (by decide) hwait (Phrase.standsApart_format hsound)

/-- **Any number of phrases**, by induction on those that are still to be read. -/
theorem arguments_of_phrases {qs : List Phrase} (h : r.settle = .ok (Phrase.given ps))
    (hsound : ∀ p ∈ qs, p.isSound = true) (hdistinct : Phrase.Distinct (ps ++ qs)) :
    ∃ r' : Reading, r'.settle = .ok (Phrase.given (ps ++ qs))
      ∧ ∀ tail, r.arguments (qs.flatMap Phrase.args ++ tail) = r'.arguments tail := by
  induction qs generalizing r ps with
  | nil => exact ⟨r, by rw [List.append_nil, h], fun tail => rfl⟩
  | cons p qs ih =>
      obtain ⟨hfirst, hrest⟩ := List.forall_mem_cons.1 hsound
      have hsplit : ps ++ p :: qs = ps ++ [p] ++ qs := by simp
      rw [hsplit] at hdistinct ⊢
      obtain ⟨r₁, hsettle, hread⟩ :=
        arguments_of_phrase h hfirst (List.pairwise_append.1 hdistinct).1
      obtain ⟨r', hsettle', hread'⟩ := ih hsettle hrest hdistinct
      refine ⟨r', hsettle', fun tail => ?_⟩
      rw [List.flatMap_cons, List.append_assoc, hread, hread']

end Reading

/-! ## The environment -/

/-- What has been given, with the environment in the place of a setting that has not been. -/
def Given.filled (env : Environment) (g : Given) (s : Setting) : Given :=
  match Phrase.fromEnv env s with
  | some value => if g.has s then g else g.put s value
  | none => g

private theorem Given.orFrom_eq {env : Environment}
    (hvalid : ∀ s value, Phrase.fromEnv env s = some value → Phrase.suits s value = true)
    (g : Given) (s : Setting) : g.orFrom env s = .ok (g.filled env s) := by
  unfold orFrom filled
  have hsuits := hvalid s
  unfold Phrase.fromEnv at hsuits ⊢
  cases hname : s.envName? with
  | none => rfl
  | some name =>
      rw [hname, Option.bind_some] at hsuits
      simp only [Option.bind_some]
      cases hvalue : env.lookup name with
      | none => simp
      | some value =>
          by_cases hhas : g.has s = true
          · simp only [if_pos hhas]
          · simp only [if_neg hhas]
            exact set_of_suits (by simpa using hhas) (hsuits value hvalue)

private theorem Given.foldlM_orFrom_eq {env : Environment}
    (hvalid : ∀ s value, Phrase.fromEnv env s = some value → Phrase.suits s value = true)
    (ss : List Setting) (g : Given) :
    ss.foldlM (Given.orFrom env) g = .ok (ss.foldl (Given.filled env) g) := by
  induction ss generalizing g with
  | nil => rfl
  | cons s ss ih =>
      rw [List.foldlM_cons, List.foldl_cons, orFrom_eq hvalid]
      exact ih (g.filled env s)

/-- The environment stands in for three settings, each on its own. -/
private theorem Given.foldl_filled (env : Environment) (g : Given) :
    Setting.all.foldl (Given.filled env) g
      = { g with
          engine := g.engine.or (Phrase.fromEnv env .engine)
          interpreter := g.interpreter.or (Phrase.fromEnv env .interpreter)
          format := g.format.or ((Phrase.fromEnv env .format).bind Format.ofName?) } := by
  have hengine (g : Given) :
      g.filled env .engine = { g with engine := g.engine.or (Phrase.fromEnv env .engine) } := by
    obtain ⟨options, engine, interpreter, format, checkStatus, verbose⟩ := g
    unfold filled
    cases Phrase.fromEnv env .engine <;> cases engine <;> rfl
  have hinterpreter (g : Given) : g.filled env .interpreter
      = { g with interpreter := g.interpreter.or (Phrase.fromEnv env .interpreter) } := by
    obtain ⟨options, engine, interpreter, format, checkStatus, verbose⟩ := g
    unfold filled
    cases Phrase.fromEnv env .interpreter <;> cases interpreter <;> rfl
  have hformat (g : Given) : g.filled env .format
      = { g with format := g.format.or ((Phrase.fromEnv env .format).bind Format.ofName?) } := by
    obtain ⟨options, engine, interpreter, format, checkStatus, verbose⟩ := g
    unfold filled
    cases Phrase.fromEnv env .format <;> cases format <;> rfl
  have hoptions (g : Given) : g.filled env .options = g := rfl
  simp only [Setting.all, List.foldl_cons, List.foldl_nil, hoptions, hengine, hinterpreter, hformat]

/-- **What some phrases give, filled up from the environment**, setting by setting. -/
theorem Phrase.foldl_filled_given (env : Environment) {ps : List Phrase}
    (hsound : ∀ p ∈ ps, p.isSound = true) :
    Setting.all.foldl (Given.filled env) (given ps) = givenIn env ps := by
  rw [Given.foldl_filled, givenIn, given]
  congr 1
  cases hvalue : ps.findSome? (value? .format) with
  | none => rfl
  | some value =>
      -- a format that is given by its name is one
      obtain ⟨p, hp, hgives⟩ := List.exists_of_findSome?_eq_some hvalue
      obtain ⟨format, hformat⟩ := Option.isSome_iff_exists.1 (suits_of_value? (hsound p hp) hgives)
      simp [hformat]

/-! ## Command lines -/

/-- What one phrase gives, all of them give: no other one gives it too. -/
private theorem Phrase.findSome?_of_mem {ps : List Phrase} {p : Phrase} {s : Setting} {value : Text}
    (hdistinct : Distinct ps) (hp : p ∈ ps) (hvalue : p.value? s = some value) :
    ps.findSome? (value? s) = some value := by
  obtain ⟨before, behind, rfl⟩ := List.append_of_mem hp
  have hsplit : before ++ p :: behind = (before ++ [p]) ++ behind := by simp
  rw [hsplit] at hdistinct
  have hnone := findSome?_of_distinct_append (List.pairwise_append.1 hdistinct).1 hvalue
  rw [List.findSome?_append, hnone, List.findSome?_cons, hvalue]
  rfl

/-- **Flags end at the first file, for good.** Take phrases that are sound and give nothing
twice, in any order, an argument that does not open with a hyphen, and any arguments behind it,
in an environment that stands in for settings with nothing that does not suit them. The files
are the argument and all that follows it, whatever that looks like, and everything else is what
the phrases give, with the environment. The text of the options stands in the script as it was
given. -/
theorem read_of_phrases_and_files (env : Environment) (ps : List Phrase) (f : Text)
    (rest : List Text) (sound : ∀ p ∈ ps, p.isSound = true) (distinct : Phrase.Distinct ps)
    (plain : f.head? ≠ some '-')
    (valid : ∀ s value, Phrase.fromEnv env s = some value → Phrase.suits s value = true) :
    let args := ps.flatMap Phrase.args ++ f :: rest
    let s : Settings := ⟨Phrase.givenIn env ps, f :: rest⟩
    Settings.read env args = .ok s
      ∧ (∀ m, (s.request m).files = Glob.expand m.tree (f :: rest)
          ∧ ∀ sink, execute m env sink args = s.execute m env sink)
      ∧ ∀ p ∈ ps, ∀ text, p.value? .options = some text →
          ∀ m script, (s.request m).Sends m script →
            ∃ engine sources, script = Utf8.encode (engine ++ "\nvar JSLINT_OPTIONS = ".toList ++ text
              ++ Routine.behind ++ Script.statements sources) := by
  intro args s
  have hread : Settings.read env args = .ok s := by
    have hnothing : (⟨Given.nothing, none⟩ : Reading).settle = .ok (Phrase.given []) := rfl
    obtain ⟨r, hsettle, hphrases⟩ := Reading.arguments_of_phrases hnothing sound distinct
    refine Settings.read_eq_ok_iff.2 ⟨r, Phrase.given ps, ?_, hsettle, ?_, by simp [s]⟩
    · rw [hphrases]
      exact Reading.arguments_of_file hsettle plain rest
    · rw [Given.foldlM_orFrom_eq valid, Phrase.foldl_filled_given env sound]
  refine ⟨hread, fun m => ⟨rfl, fun sink => execute_eq m sink hread⟩, ?_⟩
  intro p hp text htext m script hsends
  obtain ⟨bytes, source, contents, -, -, -, rfl⟩ := hsends
  have hoptions : (s.request m).options = .literal text := by
    have hgiven : s.given.options = some text := Phrase.findSome?_of_mem distinct hp htext
    rw [Settings.request, hgiven]
    rfl
  refine ⟨source, sourcesOf (s.request m).files contents, ?_⟩
  rw [hoptions, Script.assemble_eq_append]
  rfl

/-- Options that look like a flag, the engine from the environment, and files that look like the
end of flags and like one of them. -/
theorem read_of_phrases_and_files_of_hyphens :
    let env : Environment := [("JSLINT_ENGINE".toList, ['e'])]
    let ps : List Phrase := [.apart .options ['-', 'v'], .joined .format "json".toList]
    let files : List Text := [['a'], ['-', '-'], ['-', 'v']]
    let e : Name := ⟨Utf8.encode ['e'], by decide⟩
    let a : Name := ⟨Utf8.encode ['a'], by decide⟩
    let hyphens : Name := ⟨Utf8.encode ['-', '-'], by decide⟩
    let flag : Name := ⟨Utf8.encode ['-', 'v'], by decide⟩
    let t : Tree :=
      ⟨[(⟨.above 0, [e]⟩, .file [0x2F, 0x2F] .data), (⟨.above 0, [a]⟩, .file [] .data),
        (⟨.above 0, [hyphens]⟩, .file [] .data), (⟨.above 0, [flag]⟩, .file [] .data)], by decide⟩
    let m : Machine := ⟨t, [], []⟩
    let s : Settings := ⟨⟨some ['-', 'v'], some ['e'], none, some .json, false, false⟩, files⟩
    ps.flatMap Phrase.args = ["--options".toList, ['-', 'v'], "--format=json".toList]
      ∧ Settings.read env (ps.flatMap Phrase.args ++ files) = .ok s
      ∧ ∃ script, (s.request m).Sends m script
        ∧ ∃ engine sources, script = Utf8.encode (engine ++ "\nvar JSLINT_OPTIONS = ".toList
            ++ ['-', 'v'] ++ Routine.behind ++ Script.statements sources) := by
  intro env ps files e a hyphens flag t m s
  have valid : ∀ s value, Phrase.fromEnv env s = some value → Phrase.suits s value = true := by
    intro s value hvalue
    have hformat : Phrase.fromEnv env .format = none := by decide
    cases s with
    | options => rfl
    | interpreter => rfl
    | engine =>
        obtain rfl := Option.some.inj hvalue
        rfl
    | format => exact absurd (hformat.symm.trans hvalue) (by simp)
  have distinct : Phrase.Distinct ps :=
    List.pairwise_pair.2 ⟨fun s => by cases s <;> decide, by decide, by decide⟩
  obtain ⟨hread, -, hoptions⟩ := read_of_phrases_and_files env ps ['a'] [['-', '-'], ['-', 'v']]
    (by decide) distinct (by decide) valid
  have hengine : t.read (Utf8.encode ['e']) = .ok [0x2F, 0x2F] :=
    Tree.read_of_isEntryName (by decide) rfl
  have hfile : t.read (Utf8.encode ['a']) = .ok [] := Tree.read_of_isEntryName (by decide) rfl
  have hhyphens : t.read (Utf8.encode ['-', '-']) = .ok [] := Tree.read_of_isEntryName (by decide) rfl
  have hflag : t.read (Utf8.encode ['-', 'v']) = .ok [] := Tree.read_of_isEntryName (by decide) rfl
  have hfiles : (files.map fun path : Text => t.read path) = [[], [], []].map .ok := by
    simp only [files, List.map_cons, List.map_nil, hfile, hhyphens, hflag]
  have hsends : (s.request m).Sends m _ :=
    ⟨[0x2F, 0x2F], ['/', '/'], [[], [], []], hengine, by decide, hfiles, rfl⟩
  exact ⟨rfl, hread, _, hsends, hoptions (.apart .options ['-', 'v']) (by simp [ps]) ['-', 'v'] rfl
    m _ hsends⟩

end ScriptLint.Command
