import ScriptLint.Command.Arguments
import ScriptLint.Proofs.Run.Attempt

set_option autoImplicit false

/-!
A flag in front of a command line.

What has been given is read from one argument after the other, and a flag that has been
given matters in one place only: when the same flag is met again. So a command line that
is read without a flag is read in the same way if the flag has been given before, step by
step, with the flag added to all that is given on the way. That no argument is the flag
itself need not be assumed argument by argument. It shows at the end, since nothing that
has been given is ever taken back.
-/

namespace ScriptLint.Command

variable {f : Flag}

/-- Whether a flag is among what has been given. The two flags that end the reading never
are. -/
def Given.asks (g : Given) : Flag → Bool
  | .checkStatus => g.checkStatus
  | .verbose => g.verbose
  | .help | .version => false

/-- What has been given, and a flag. -/
def Given.ask (g : Given) : Flag → Given
  | .checkStatus => { g with checkStatus := true }
  | .verbose => { g with verbose := true }
  | .help | .version => g

/-- The reading with a flag among what has been given. -/
def Reading.ask (r : Reading) (f : Flag) : Reading := ⟨r.given.ask f, r.pending⟩

/-! ## Settings -/

namespace Given

/-- Flags and settings are kept apart. -/
theorem has_ask (g : Given) (f : Flag) (s : Setting) : (g.ask f).has s = g.has s := by
  cases f <;> cases s <;> rfl

/-- It does not matter in which order flags are given. -/
theorem ask_comm (g : Given) (f f' : Flag) : (g.ask f).ask f' = (g.ask f').ask f := by
  cases f <;> cases f' <;> rfl

/-- A flag that has not been given when another one has just been given is not that one, so
the two may as well come the other way round. -/
private theorem asks_of_asks_ask {g : Given} {f f' : Flag} (h : (g.ask f').asks f = false)
    (h' : g.asks f' = false) : g.asks f = false ∧ (g.ask f).asks f' = false := by
  cases f <;> cases f' <;> simp_all [ask, asks]

/-- Settings are given without regard to flags. -/
theorem set_ask {g g' : Given} {s : Setting} {value : Text} (h : g.set s value = .ok g')
    (f : Flag) : g'.asks f = g.asks f ∧ (g.ask f).set s value = .ok (g'.ask f) := by
  unfold set at h ⊢
  rw [has_ask]
  by_cases hhas : g.has s = true
  · rw [if_pos hhas] at h
    exact absurd h (by simp)
  · rw [if_neg hhas] at h ⊢
    cases s with
    | options =>
        obtain rfl := Except.ok.inj h
        cases f <;> exact ⟨rfl, rfl⟩
    | interpreter =>
        obtain rfl := Except.ok.inj h
        cases f <;> exact ⟨rfl, rfl⟩
    | engine =>
        by_cases hempty : value.isEmpty = true
        · simp [hempty] at h
        · simp only [hempty] at h ⊢
          obtain rfl := Except.ok.inj h
          cases f <;> exact ⟨rfl, rfl⟩
    | format =>
        cases hname : Format.ofName? value with
        | none => simp [hname] at h
        | some format =>
            simp only [hname] at h ⊢
            obtain rfl := Except.ok.inj h
            cases f <;> exact ⟨rfl, rfl⟩

end Given

/-! ## Words -/

namespace Reading

/-- The pending value is looked at without regard to flags. -/
theorem settle_ask {r : Reading} {g : Given} (h : r.settle = .ok g) (f : Flag) :
    g.asks f = r.given.asks f ∧ (r.ask f).settle = .ok (g.ask f) := by
  obtain ⟨given, pending⟩ := r
  match pending, h with
  | none, h =>
      obtain rfl := Except.ok.inj h
      exact ⟨rfl, rfl⟩
  | some ⟨s, none⟩, h => exact absurd h (by simp [settle])
  | some ⟨s, some value⟩, h =>
      obtain ⟨hsame, hset⟩ := Given.set_ask (mapError_eq_ok_iff.1 h) f
      exact ⟨hsame, mapError_eq_ok_iff.2 hset⟩

/-- A setting is read without regard to flags. -/
theorem setting_ask {r r' : Reading} {s : Setting} {value : Option Text}
    (h : r.setting s value = .ok r') (f : Flag) :
    r'.given.asks f = r.given.asks f ∧ (r.ask f).setting s value = .ok (r'.ask f) := by
  obtain ⟨g, hsettle, h⟩ := bind_eq_ok_iff.1 h
  obtain ⟨hsame, hsettleAsk⟩ := settle_ask hsettle f
  rw [← hsame]
  cases value with
  | none =>
      obtain rfl := Except.ok.inj h
      exact ⟨rfl, bind_eq_ok_iff.2 ⟨_, hsettleAsk, rfl⟩⟩
  | some v =>
      obtain ⟨g', hset, h⟩ := bind_eq_ok_iff.1 h
      obtain rfl := Except.ok.inj h
      obtain ⟨hsameSet, hsetAsk⟩ := Given.set_ask (mapError_eq_ok_iff.1 hset) f
      refine ⟨hsameSet, bind_eq_ok_iff.2 ⟨_, hsettleAsk, ?_⟩⟩
      exact bind_eq_ok_iff.2 ⟨_, mapError_eq_ok_iff.2 hsetAsk, rfl⟩

/-- What it takes to read a flag. -/
theorem flag_eq_ok_iff {r r' : Reading} {long : Bool} :
    r.flag f long = .ok r' ↔
      ∃ g, r.settle = .ok g ∧ (f = .checkStatus ∨ f = .verbose) ∧ g.asks f = false
        ∧ r' = ⟨g.ask f, none⟩ := by
  rw [flag]
  refine bind_eq_ok_iff.trans (exists_congr fun g => and_congr_right fun _ => ?_)
  cases f with
  | checkStatus => cases hgiven : g.checkStatus <;> simp [Given.asks, Given.ask, hgiven, eq_comm]
  | verbose => cases hgiven : g.verbose <;> simp [Given.asks, Given.ask, hgiven, eq_comm]
  | help => simp
  | version => simp

/-- A flag is read without regard to another one that has been given. -/
theorem flag_ask {r r' : Reading} {f' : Flag} {long : Bool} (h : r.flag f' long = .ok r')
    (hasks : r'.given.asks f = false) :
    r.given.asks f = false ∧ (r.ask f).flag f' long = .ok (r'.ask f) := by
  obtain ⟨g, hsettle, hf', hfirst, rfl⟩ := flag_eq_ok_iff.1 h
  obtain ⟨hbefore, hother⟩ := Given.asks_of_asks_ask hasks hfirst
  obtain ⟨hsame, hsettleAsk⟩ := settle_ask hsettle f
  refine ⟨by rw [← hsame, hbefore],
    flag_eq_ok_iff.2 ⟨g.ask f, hsettleAsk, hf', hother, ?_⟩⟩
  rw [ask, Given.ask_comm]

/-- The letters of a cluster are read as before if a flag that is not among them has been given in
front. -/
private theorem cluster_ask {r r' : Reading} {letters : List Char} (h : r.cluster letters = .ok r')
    (hasks : r'.given.asks f = false) :
    r.given.asks f = false ∧ (r.ask f).cluster letters = .ok (r'.ask f) := by
  fun_induction cluster r letters with
  | case1 r =>
      obtain rfl := Except.ok.inj h
      exact ⟨hasks, rfl⟩
  | case2 r rest =>
      obtain ⟨hsame, hread⟩ := setting_ask h f
      rw [cluster]
      exact ⟨hsame ▸ hasks, hread⟩
  | case3 r c rest hc f' ih =>
      obtain ⟨r₁, hflag, h⟩ := bind_eq_ok_iff.1 h
      obtain ⟨hrest, hread⟩ := ih r₁ h
      obtain ⟨hfirst, hreadFirst⟩ := flag_ask hflag hrest
      refine ⟨hfirst, ?_⟩
      rw [cluster.eq_3 _ _ _ hc]
      exact bind_eq_ok_iff.2 ⟨_, hreadFirst, hread⟩

/-- And so is any word. -/
private theorem word_ask {r r' : Reading} {w : Word} (h : r.word w = .ok r')
    (hasks : r'.given.asks f = false) :
    r.given.asks f = false ∧ (r.ask f).word w = .ok (r'.ask f) := by
  cases w with
  | flag f' value =>
      cases value with
      | none => exact flag_ask h hasks
      | some value => exact absurd h (by simp [word])
  | setting s value =>
      obtain ⟨hsame, hread⟩ := setting_ask h f
      exact ⟨hsame ▸ hasks, hread⟩
  | cluster letters => exact cluster_ask h hasks

/-! ## Arguments -/

/-- How an argument is read unless it is the value of the options. -/
theorem arguments_cons {r : Reading} (hoptions : r.pending ≠ some ⟨.options, none⟩) (arg : Text)
    (rest : List Text) :
    r.arguments (arg :: rest) =
      if arg = ['-', '-'] then .ok (r, rest)
      else
        match Word.read? arg with
        | some w =>
            match r.word w with
            | .ok r => r.arguments rest
            | .error stop => .error stop
        | none =>
            match r.pending with
            | some ⟨s, none⟩ => (⟨r.given, some ⟨s, some arg⟩⟩ : Reading).arguments rest
            | _ => .ok (r, arg :: rest) := by
  rw [arguments]
  split
  · next hpending => exact absurd hpending hoptions
  · rfl

/-- **Arguments that do not hold a flag** are read in the same way behind it. -/
theorem arguments_ask {r r' : Reading} {args files : List Text}
    (h : r.arguments args = .ok (r', files)) (hasks : r'.given.asks f = false) :
    r.given.asks f = false ∧ (r.ask f).arguments args = .ok (r'.ask f, files) := by
  fun_induction arguments r args with
  | case1 r =>
      cases h
      exact ⟨hasks, rfl⟩
  | case2 r arg rest hoptions ih =>
      obtain ⟨hfirst, hread⟩ := ih h
      refine ⟨hfirst, ?_⟩
      rw [arguments, show (r.ask f).pending = some ⟨.options, none⟩ from hoptions]
      exact hread
  | case3 r rest hoptions =>
      cases h
      refine ⟨hasks, ?_⟩
      rw [arguments_cons (r := r'.ask f) hoptions, if_pos rfl]
  | case4 r arg rest hhyphens w hword r₁ hread hoptions ih =>
      obtain ⟨hrest, hreadRest⟩ := ih h
      obtain ⟨hfirst, hreadFirst⟩ := word_ask hread hrest
      refine ⟨hfirst, ?_⟩
      rw [arguments_cons (r := r.ask f) hoptions, if_neg hhyphens, hword]
      simp only [hreadFirst, hreadRest]
  | case5 r arg rest hhyphens w hword stop hread hoptions => cases h
  | case6 r arg rest hhyphens hword s hoptions hpending ih =>
      obtain ⟨hfirst, hread⟩ := ih h
      refine ⟨hfirst, ?_⟩
      rw [arguments_cons (r := r.ask f) hoptions, if_neg hhyphens, hword]
      simp only [show (r.ask f).pending = some ⟨s, none⟩ from hpending]
      exact hread
  | case7 r arg rest hhyphens hword hoptions hpending =>
      cases h
      refine ⟨hasks, ?_⟩
      rw [arguments_cons (r := r'.ask f) hoptions, if_neg hhyphens, hword]
      simp only
      split
      · next s hnone => exact absurd hnone (hpending s)
      · rfl

end Reading

/-! ## Command lines -/

/-- The environment stands in for settings without regard to flags. -/
private theorem Given.orFrom_ask {env : Environment} {g g' : Given} {s : Setting}
    (h : g.orFrom env s = .ok g') (f : Flag) :
    g'.asks f = g.asks f ∧ (g.ask f).orFrom env s = .ok (g'.ask f) := by
  unfold orFrom at h ⊢
  rw [has_ask]
  cases hname : s.envName? with
  | none =>
      rw [hname] at h
      obtain rfl := Except.ok.inj h
      exact ⟨rfl, rfl⟩
  | some name =>
      simp only [hname] at h ⊢
      by_cases hhas : g.has s = true
      · rw [if_pos hhas] at h ⊢
        obtain rfl := Except.ok.inj h
        exact ⟨rfl, rfl⟩
      · rw [if_neg hhas] at h ⊢
        cases hvalue : env.lookup name with
        | none =>
            rw [hvalue] at h
            obtain rfl := Except.ok.inj h
            exact ⟨rfl, rfl⟩
        | some value =>
            simp only [hvalue] at h ⊢
            exact set_ask h f

private theorem Given.foldlM_orFrom_ask {env : Environment} {ss : List Setting} {g g' : Given}
    (h : ss.foldlM (Given.orFrom env) g = .ok g') (f : Flag) :
    g'.asks f = g.asks f ∧ ss.foldlM (Given.orFrom env) (g.ask f) = .ok (g'.ask f) := by
  induction ss generalizing g with
  | nil =>
      obtain rfl := Except.ok.inj h
      exact ⟨rfl, rfl⟩
  | cons s ss ih =>
      rw [List.foldlM_cons] at h ⊢
      obtain ⟨g₁, hfirst, h⟩ := bind_eq_ok_iff.1 h
      obtain ⟨hsame, hrest⟩ := ih h
      obtain ⟨hsameFirst, hfirstAsk⟩ := orFrom_ask hfirst f
      exact ⟨hsame.trans hsameFirst, bind_eq_ok_iff.2 ⟨_, hfirstAsk, hrest⟩⟩

/-- What it takes to read a command line. -/
theorem Settings.read_eq_ok_iff {env : Environment} {args : List Text} {s : Settings} :
    Settings.read env args = .ok s ↔
      ∃ r g, (⟨Given.nothing, none⟩ : Reading).arguments args = .ok (r, s.inputs)
        ∧ r.settle = .ok g ∧ Setting.all.foldlM (Given.orFrom env) g = .ok s.given
        ∧ s.inputs ≠ [] := by
  constructor
  · intro h
    obtain ⟨⟨r, files⟩, harguments, h⟩ := bind_eq_ok_iff.1 h
    obtain ⟨g, hsettle, h⟩ := bind_eq_ok_iff.1 h
    obtain ⟨g', henv, h⟩ := bind_eq_ok_iff.1 h
    cases files with
    | nil => exact absurd h (by simp)
    | cons file files =>
        obtain rfl := Except.ok.inj h
        exact ⟨r, g, harguments, hsettle, mapError_eq_ok_iff.1 henv, by simp⟩
  · rintro ⟨r, g, harguments, hsettle, henv, hinputs⟩
    refine bind_eq_ok_iff.2 ⟨_, harguments, bind_eq_ok_iff.2 ⟨g, hsettle, ?_⟩⟩
    refine bind_eq_ok_iff.2 ⟨s.given, mapError_eq_ok_iff.2 henv, ?_⟩
    simp [hinputs]

/-- **A flag in front of a command line** is added to what that command line asks for, if
it does not ask for the same thing itself. -/
theorem Settings.read_cons_flag {env : Environment} {args : List Text} {s : Settings} {arg : Text}
    {w : Word} (hword : Word.read? arg = some w)
    (hflag : (⟨Given.nothing, none⟩ : Reading).word w = .ok ⟨Given.nothing.ask f, none⟩)
    (h : Settings.read env args = .ok s) (hasks : s.given.asks f = false) :
    Settings.read env (arg :: args) = .ok ⟨s.given.ask f, s.inputs⟩ := by
  have hhyphens : arg ≠ ['-', '-'] := by
    rintro rfl
    exact absurd hword (by simp [show Word.read? ['-', '-'] = none from by decide])
  obtain ⟨r, g, harguments, hsettle, henv, hinputs⟩ := Settings.read_eq_ok_iff.1 h
  obtain ⟨henvSame, hfold⟩ := Given.foldlM_orFrom_ask henv f
  obtain ⟨hsettleSame, hsettleAsk⟩ := Reading.settle_ask hsettle f
  have hrest : r.given.asks f = false := by rw [← hsettleSame, ← henvSame, hasks]
  refine Settings.read_eq_ok_iff.2 ⟨r.ask f, g.ask f, ?_, hsettleAsk, hfold, hinputs⟩
  rw [Reading.arguments_cons (by simp), if_neg hhyphens, hword]
  simp only [hflag]
  exact (Reading.arguments_ask harguments hrest).2

end ScriptLint.Command
