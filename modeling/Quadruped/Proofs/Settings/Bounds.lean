import Mathlib.Data.List.Forall2
import Quadruped.Proofs.Number.Double
import Quadruped.Settings.Basic

/-!
The check of the settings, against bounds that are written without it: a setting stands at its default
where it is unset or empty, and at what its text writes otherwise. Every setting that does not meet its
bound is blamed once, and what is built from settings that meet theirs holds the values that they
stand at.
-/
namespace Quadruped

namespace Number

open Text

theorem digitValue_le {c : Char} {d : ℕ} (digit : digitValue? c = some d) : d ≤ 9 := by
  obtain ⟨first, found, rfl⟩ := Option.map_eq_some_iff.mp digit
  have range := List.find?_some found
  simp only [Bool.and_eq_true, decide_eq_true_eq] at range
  omega

theorem digitRun_digits (s : List Char) (after : Bool) : ∀ d ∈ (digitRun s after).1, d ≤ 9 := by
  fun_induction digitRun s after with
  | case1 | case3 | case5 | case6 => simp
  | case2 _ _ _ _ digit _ _ run ih | case4 _ _ _ _ _ _ _ digit _ _ run ih =>
    rw [run] at ih
    exact List.forall_mem_cons.mpr ⟨digitValue_le digit, ih⟩

theorem valueOf_lt {ds : List ℕ} (digits : ∀ d ∈ ds, d ≤ 9) : valueOf ds < 10 ^ ds.length := by
  induction ds using List.reverseRecOn with
  | nil => simp [valueOf]
  | append_singleton ds d ih =>
    have last := digits d (by simp)
    have before := ih fun c member => digits c (List.mem_append_left _ member)
    unfold valueOf at before ⊢
    rw [List.foldl_append, List.length_append, List.length_singleton, pow_succ]
    simp only [List.foldl_cons, List.foldl_nil]
    omega

theorem readInt_bounded {s : List Char} {n : ℤ} (read : readInt? s = some n) :
    ∃ k ≤ 4300, n.natAbs < 10 ^ k := by
  unfold readInt? at read
  generalize readSign (stripBy isBlankAround s) = parts at read
  obtain ⟨negative, body⟩ := parts
  have digits := digitRun_digits body false
  dsimp only at read
  split at read
  · cases read
  · rename_i ds _ run
    rw [run] at digits
    split at read
    · cases read
    · rename_i short
      refine ⟨ds.length, not_lt.mp short, ?_⟩
      have size : n.natAbs = valueOf ds := by
        cases negative <;> simp at read <;> omega
      rw [size]
      exact valueOf_lt digits
  · cases read

end Number

namespace Settings

open Number Text

/-- The value of a setting: its default where it is unset or empty, or else what its text writes. -/
inductive Stands {α : Type} (read : List Char → Option α) (e : Environment) (name : String)
    (default : α) : α → Prop where
  | absent (unset : e.get? name = none ∨ e.get? name = some "") :
      Stands read e name default default
  | given {raw : String} {v : α} (text : e.get? name = some raw) (filled : raw ≠ "")
      (written : read raw.toList = some v) : Stands read e name default v

def Unreadable {α : Type} (read : List Char → Option α) (e : Environment) (name raw : String) :
    Prop :=
  e.get? name = some raw ∧ raw ≠ "" ∧ read raw.toList = none

abbrev Rate.At (r : Rate) (e : Environment) (v : Float) : Prop :=
  Stands readFloat? e r.name r.default v

abbrev PauseAt (e : Environment) (v : Float) : Prop :=
  Stands readFloat? e pauseName Gains.standard.segmentPause v

abbrev RepeatsAt (e : Environment) (n : ℤ) : Prop :=
  Stands readInt? e repeatsName Timing.standard.startupRepeats n

/-- Blanks around the source do not matter, nor do capitals. -/
abbrev SourceAt (e : Environment) (s : List Char) : Prop :=
  Stands (fun raw => some (lower (strip raw))) e sourceName DistanceSource.elapsed.name.toList s

inductive Setting where
  | rate (r : Rate)
  | pause
  | repeats
  | source
deriving DecidableEq

namespace Setting

def all : List Setting := Rate.all.map rate ++ [pause, repeats, source]

theorem mem_all (s : Setting) : s ∈ all := by
  cases s with
  | rate r => cases r <;> decide
  | _ => decide

def check (e : Environment) : Setting → Option SettingFault
  | rate r => r.check e
  | pause => checkPause e
  | repeats => checkRepeats e
  | source => checkSource e

def Meets (e : Environment) : Setting → Prop
  | rate r => ∃ v, r.At e v ∧ 0 < v
  | pause => ∃ v, PauseAt e v ∧ 0 ≤ v
  | repeats => ∃ n, RepeatsAt e n ∧ 0 ≤ n
  | source => ∃ d : DistanceSource, SourceAt e d.name.toList

inductive Blames (e : Environment) : Setting → SettingFault → Prop where
  | rateText (r : Rate) {raw : String} (bad : Unreadable readFloat? e r.name raw) :
      Blames e (rate r) (.notNumber r.name raw)
  | rate (r : Rate) {v : Float} (stands : r.At e v) (low : ¬ 0 < v) :
      Blames e (rate r) (.notPositive r.name v)
  | pauseText {raw : String} (bad : Unreadable readFloat? e pauseName raw) :
      Blames e pause (.notNumber pauseName raw)
  | pause {v : Float} (stands : PauseAt e v) (low : v < 0) : Blames e pause (.negative pauseName v)
  | repeatsText {raw : String} (bad : Unreadable readInt? e repeatsName raw) :
      Blames e repeats (.notInteger repeatsName raw)
  | repeats {n : ℤ} (stands : RepeatsAt e n) (low : n < 0) :
      Blames e repeats (.negativeCount repeatsName n)
  | source {raw : String} (text : e.get? sourceName = some raw)
      (unknown : ∀ d : DistanceSource, d.name.toList ≠ lower (strip raw.toList)) :
      Blames e source (.unknownSource sourceName (String.ofList (lower (strip raw.toList))))

/-- Where the check is that of the bound. An empty source is not taken as unset, and a pause that is no
number is not found to be too low. -/
def Plain (e : Environment) : Setting → Prop
  | rate _ => True
  | pause => ∀ v, PauseAt e v → (v == v) = true
  | repeats => True
  | source => e.get? sourceName ≠ some ""

end Setting

/-- Gains, a source and a timing that hold the values which the settings stand at. -/
structure Holds (e : Environment) (g : Gains Float) (source : String) (t : Timing Float) : Prop where
  turnSpeed : Rate.turnSpeed.At e g.turnSpeed
  turnTolerance : Rate.turnTolerance.At e g.turnTolerance
  travelSpeed : Rate.travelSpeed.At e g.travelSpeed
  headingGain : Rate.headingGain.At e g.headingGain
  headingLimit : Rate.headingLimit.At e g.headingLimit
  segmentPause : PauseAt e g.segmentPause
  source : SourceAt e source.toList
  controlPeriod : Rate.controlPeriod.At e t.controlPeriod
  feedbackTimeout : Rate.feedbackTimeout.At e t.feedbackTimeout
  startupRepeats : RepeatsAt e t.startupRepeats
  rest : t = { Timing.standard with
    controlPeriod := t.controlPeriod, feedbackTimeout := t.feedbackTimeout
    startupRepeats := t.startupRepeats }

variable {e : Environment}

theorem given_none_iff {name : String} :
    given? e name = none ↔ e.get? name = none ∨ e.get? name = some "" := by
  unfold given?
  cases e.get? name <;> simp

theorem given_some_iff {name raw : String} :
    given? e name = some raw ↔ e.get? name = some raw ∧ raw ≠ "" := by
  simp [given?, Option.filter_eq_some_iff]

section
variable {α : Type} (read : List Char → Option α) (unread : String → SettingFault)
variable (good : α → Prop) [DecidablePred good] (low : α → SettingFault)

def readOr (e : Environment) (name : String) (default : α) : Except SettingFault α :=
  match given? e name with
  | none => .ok default
  | some raw =>
    match read raw.toList with
    | some v => .ok v
    | none => .error (unread raw)

def checkOr (e : Environment) (name : String) (default : α) : Option SettingFault :=
  match readOr read unread e name default with
  | .error why => some why
  | .ok v => if good v then none else some (low v)

theorem number_eq (name : String) (default : Float) :
    number e name default = readOr readFloat? (.notNumber name) e name default := by
  unfold number readOr
  cases given? e name with
  | none => rfl
  | some raw => cases written : readFloat? raw.toList <;> simp [written]

theorem integer_eq (name : String) (default : ℤ) :
    integer e name default = readOr readInt? (.notInteger name) e name default := by
  unfold integer readOr
  cases given? e name with
  | none => rfl
  | some raw => cases written : readInt? raw.toList <;> simp [written]

theorem rateCheck_eq (r : Rate) : r.check e =
    checkOr readFloat? (.notNumber r.name) (0 < ·) (.notPositive r.name) e r.name r.default := by
  unfold Rate.check Rate.read checkOr
  rw [number_eq]
  cases readOr readFloat? (.notNumber r.name) e r.name r.default <;> rfl

theorem checkPause_eq : checkPause e = checkOr readFloat? (.notNumber pauseName) (¬ · < 0)
    (.negative pauseName) e pauseName Gains.standard.segmentPause := by
  unfold checkPause segmentPause checkOr
  rw [number_eq]
  cases readOr readFloat? (.notNumber pauseName) e pauseName Gains.standard.segmentPause <;> simp

theorem checkRepeats_eq : checkRepeats e = checkOr readInt? (.notInteger repeatsName) (0 ≤ ·)
    (.negativeCount repeatsName) e repeatsName Timing.standard.startupRepeats := by
  unfold checkRepeats startupRepeats checkOr
  rw [integer_eq]
  cases readOr readInt? (.notInteger repeatsName) e repeatsName Timing.standard.startupRepeats with
  | error why => rfl
  | ok n => simp only [← not_lt, ite_not]

variable {read unread good low} {name : String} {default : α}

theorem readOr_ok_iff {v : α} :
    readOr read unread e name default = .ok v ↔ Stands read e name default v := by
  constructor
  · intro made
    unfold readOr at made
    split at made
    · rename_i unset
      cases made
      exact .absent (given_none_iff.mp unset)
    · rename_i raw given
      obtain ⟨text, filled⟩ := given_some_iff.mp given
      split at made
      · rename_i written
        cases made
        exact .given text filled written
      · cases made
  · intro stands
    unfold readOr
    cases stands with
    | absent unset => rw [given_none_iff.mpr unset]
    | given text filled written =>
      rw [given_some_iff.mpr ⟨text, filled⟩]
      dsimp only
      rw [written]

theorem Stands.same {v w : α} (one : Stands read e name default v)
    (other : Stands read e name default w) : v = w := by
  have first : readOr read (.notNumber name) e name default = .ok v := readOr_ok_iff.mpr one
  exact Except.ok.inj (first.symm.trans (readOr_ok_iff.mpr other))

theorem readOr_error {why : SettingFault} (failed : readOr read unread e name default = .error why) :
    ∃ raw, Unreadable read e name raw ∧ why = unread raw := by
  unfold readOr at failed
  split at failed
  · cases failed
  · rename_i raw given
    obtain ⟨text, filled⟩ := given_some_iff.mp given
    split at failed
    · cases failed
    · rename_i unwritten
      cases failed
      exact ⟨raw, ⟨text, filled, unwritten⟩, rfl⟩

theorem checkOr_none_iff : checkOr read unread good low e name default = none ↔
    ∃ v, Stands read e name default v ∧ good v := by
  have values : ∀ v, Stands read e name default v ↔ readOr read unread e name default = .ok v :=
    fun v => readOr_ok_iff.symm
  simp only [values]
  unfold checkOr
  cases readOr read unread e name default with
  | error why => simp
  | ok v => simp

theorem checkOr_some {why : SettingFault}
    (bad : checkOr read unread good low e name default = some why) :
    (∃ raw, Unreadable read e name raw ∧ why = unread raw) ∨
      ∃ v, Stands read e name default v ∧ ¬ good v ∧ why = low v := by
  unfold checkOr at bad
  split at bad
  · rename_i failed
    cases bad
    exact .inl (readOr_error failed)
  · rename_i v made
    split at bad
    · cases bad
    · rename_i missed
      cases bad
      exact .inr ⟨v, readOr_ok_iff.mp made, missed, rfl⟩

theorem value_stands (passed : checkOr read unread good low e name default = none) (fallback : α) :
    Stands read e name default (value fallback (readOr read unread e name default)) := by
  obtain ⟨v, stands, _⟩ := checkOr_none_iff.mp passed
  rw [readOr_ok_iff.mpr stands]
  exact stands

end

theorem sourceText_unset (unset : e.get? sourceName = none) :
    sourceText e = DistanceSource.elapsed.name := by
  rw [sourceText, unset]
  decide +kernel

theorem sourceText_given {raw : String} (text : e.get? sourceName = some raw) :
    sourceText e = String.ofList (lower (strip raw.toList)) := by
  rw [sourceText, text]
  rfl

theorem sourceAt_iff (plain : e.get? sourceName ≠ some "") {s : List Char} :
    SourceAt e s ↔ s = (sourceText e).toList := by
  constructor
  · intro stands
    cases stands with
    | absent unset => rw [sourceText_unset (unset.resolve_right plain)]
    | given text _ written =>
      rw [sourceText_given text, String.toList_ofList]
      exact (Option.some.inj written).symm
  · intro same
    cases text : e.get? sourceName with
    | none =>
      rw [same, sourceText_unset text]
      exact .absent (.inl text)
    | some raw =>
      rw [same, sourceText_given text, String.toList_ofList]
      exact .given text (fun empty => plain (empty ▸ text)) rfl

theorem checkSource_none_iff :
    checkSource e = none ↔ ∃ d : DistanceSource, d.name = sourceText e := by
  unfold checkSource DistanceSource.ofName?
  cases found : [DistanceSource.elapsed, .pose].find? (·.name == sourceText e) with
  | some d =>
    have same := List.find?_some found
    simpa using ⟨d, beq_iff_eq.mp same⟩
  | none =>
    simp only [reduceCtorEq, false_iff]
    rintro ⟨d, same⟩
    refine List.find?_eq_none.mp found d ?_ (beq_iff_eq.mpr same)
    cases d <;> decide

theorem checkSource_some {why : SettingFault} (bad : checkSource e = some why) :
    ∃ raw, e.get? sourceName = some raw ∧
      (∀ d : DistanceSource, d.name.toList ≠ lower (strip raw.toList)) ∧
      why = .unknownSource sourceName (String.ofList (lower (strip raw.toList))) := by
  have unknown : ¬ ∃ d : DistanceSource, d.name = sourceText e := by
    rw [← checkSource_none_iff, bad]
    simp
  unfold checkSource at bad
  split at bad
  · cases bad
  · cases bad
    cases text : e.get? sourceName with
    | none => exact absurd ⟨.elapsed, (sourceText_unset text).symm⟩ unknown
    | some raw =>
      have shown := sourceText_given text
      rw [shown]
      refine ⟨raw, rfl, fun d same => unknown ⟨d, ?_⟩, rfl⟩
      rw [shown, ← same, String.ofList_toList]

namespace Setting

theorem check_source : source.check e = checkSource e := by rw [check]

theorem check_blames {s : Setting} {why : SettingFault} (bad : s.check e = some why) :
    Blames e s why := by
  cases s with
  | rate r =>
    rcases checkOr_some ((rateCheck_eq r).symm.trans bad) with
      ⟨raw, text, rfl⟩ | ⟨v, stands, low, rfl⟩
    · exact .rateText r text
    · exact .rate r stands low
  | pause =>
    rcases checkOr_some (checkPause_eq.symm.trans bad) with
      ⟨raw, text, rfl⟩ | ⟨v, stands, low, rfl⟩
    · exact .pauseText text
    · exact .pause stands (not_not.mp low)
  | repeats =>
    rcases checkOr_some (checkRepeats_eq.symm.trans bad) with
      ⟨raw, text, rfl⟩ | ⟨n, stands, low, rfl⟩
    · exact .repeatsText text
    · exact .repeats stands (not_le.mp low)
  | source =>
    obtain ⟨raw, text, unknown, rfl⟩ := checkSource_some (check_source.symm.trans bad)
    exact .source text unknown

theorem check_none_iff {s : Setting} (plain : Plain e s) : s.check e = none ↔ Meets e s := by
  cases s with
  | rate r => exact (Eq.congr_left (rateCheck_eq r)).trans checkOr_none_iff
  | pause =>
    refine (Eq.congr_left checkPause_eq).trans (checkOr_none_iff.trans ?_)
    exact exists_congr fun v => and_congr_right fun stands =>
      (nonneg_iff_not_lt (plain v stands)).symm
  | repeats => exact (Eq.congr_left checkRepeats_eq).trans checkOr_none_iff
  | source =>
    rw [check_source, checkSource_none_iff]
    refine exists_congr fun d => ?_
    rw [sourceAt_iff plain, String.toList_inj]

theorem filterMap_blames (settings : List Setting) :
    List.Forall₂ (Blames e) (settings.filter fun s => (s.check e).isSome)
      (settings.filterMap (·.check e)) := by
  induction settings with
  | nil => exact .nil
  | cons s settings ih =>
    cases bad : s.check e with
    | none =>
      rw [List.filter_cons_of_neg (by simp [bad]), List.filterMap_cons_none bad]
      exact ih
    | some why =>
      rw [List.filter_cons_of_pos (by simp [bad]), List.filterMap_cons_some bad]
      exact .cons (check_blames bad) ih

end Setting

theorem faults_eq : faults e = Setting.all.filterMap (·.check e) := by
  have others : [checkPause e, checkRepeats e, checkSource e] =
      [Setting.pause, .repeats, .source].map (·.check e) := by
    simp only [List.map, Setting.check]
  have rates : (fun r : Rate => r.check e) = (fun s : Setting => s.check e) ∘ Setting.rate := rfl
  rw [faults, Setting.all, others, rates, List.filterMap_append, List.filterMap_map,
    List.filterMap_map, Function.id_comp]

theorem faults_nil_iff : faults e = [] ↔ ∀ s : Setting, s.check e = none := by
  rw [faults_eq, List.filterMap_eq_nil_iff]
  exact ⟨fun none_bad s => none_bad s s.mem_all, fun none_bad s _ => none_bad s⟩

theorem rate_stands {r : Rate} (passed : r.check e = none) : r.At e (rate e r) := by
  unfold rate Rate.read
  rw [number_eq]
  exact value_stands ((rateCheck_eq r).symm.trans passed) _

theorem segmentPause_stands (passed : checkPause e = none) :
    PauseAt e (value Gains.standard.segmentPause (segmentPause e)) := by
  unfold segmentPause
  rw [number_eq]
  exact value_stands (checkPause_eq.symm.trans passed) _

theorem startupRepeats_stands (passed : checkRepeats e = none) :
    RepeatsAt e (value Timing.standard.startupRepeats (startupRepeats e)) := by
  unfold startupRepeats
  rw [integer_eq]
  exact value_stands (checkRepeats_eq.symm.trans passed) _

theorem source_filled (passed : checkSource e = none) : e.get? sourceName ≠ some "" := by
  intro empty
  obtain ⟨d, same⟩ := checkSource_none_iff.mp passed
  rw [sourceText_given empty] at same
  cases d <;> exact absurd same (by decide +kernel)

theorem built_or_refused :
    (faults e ≠ [] → gains e = .error (faults e) ∧ timing e = .error (faults e)) ∧
      (faults e = [] → ∃ g source t, gains e = .ok (g, source) ∧ timing e = .ok t ∧
        Holds e g source t) := by
  unfold gains timing
  constructor
  · intro bad
    cases found : faults e with
    | nil => exact absurd found bad
    | cons why more => exact ⟨rfl, rfl⟩
  · intro none_bad
    rw [none_bad]
    refine ⟨_, _, _, rfl, rfl, ?_⟩
    have passed := faults_nil_iff.mp none_bad
    have rates := fun r => rate_stands (passed (.rate r))
    have filled := source_filled (Setting.check_source.symm.trans (passed .source))
    exact {
      turnSpeed := rates .turnSpeed
      turnTolerance := rates .turnTolerance
      travelSpeed := rates .travelSpeed
      headingGain := rates .headingGain
      headingLimit := rates .headingLimit
      segmentPause := segmentPause_stands (passed .pause)
      source := (sourceAt_iff filled).mpr rfl
      controlPeriod := rates .controlPeriod
      feedbackTimeout := rates .feedbackTimeout
      startupRepeats := startupRepeats_stands (passed .repeats)
      rest := rfl }

/-- Every setting that does not meet its bound is blamed, each once, and no other is, as far as the
check looks at the bound; what is built holds the values of the settings. -/
theorem every_bad_setting_is_blamed_once (e : Environment) :
    (∃ bad, bad.Nodup ∧ List.Forall₂ (Setting.Blames e) bad (faults e) ∧
      ∀ s : Setting, s.Plain e → (s ∈ bad ↔ ¬ s.Meets e)) ∧
    ((∀ s : Setting, s.Plain e) → (faults e = [] ↔ ∀ s : Setting, s.Meets e)) ∧
    (∀ name n, .negativeCount name n ∈ faults e → ∃ k ≤ 4300, n.natAbs < 10 ^ k) ∧
    (faults e ≠ [] → gains e = .error (faults e) ∧ timing e = .error (faults e)) ∧
    (faults e = [] → ∃ g source t, gains e = .ok (g, source) ∧ timing e = .ok t ∧
      Holds e g source t) := by
  have blamed := Setting.filterMap_blames (e := e) Setting.all
  rw [← faults_eq] at blamed
  refine ⟨⟨_, ?_, blamed, ?_⟩, ?_, ?_, built_or_refused⟩
  · exact List.Nodup.filter _ (by decide)
  · intro s plain
    rw [← Setting.check_none_iff plain, List.mem_filter, ← Option.ne_none_iff_isSome]
    exact and_iff_right s.mem_all
  · intro plain
    exact faults_nil_iff.trans (forall_congr' fun s => Setting.check_none_iff (plain s))
  · intro name n member
    rw [faults_eq, List.mem_filterMap] at member
    obtain ⟨s, _, bad⟩ := member
    cases Setting.check_blames bad with
    | repeats stands low =>
      cases stands with
      | absent => exact absurd low (by decide)
      | given _ _ written => exact readInt_bounded written

theorem four_bad_settings_are_blamed :
    let e : Environment := { vars := [("GO2_TURN_SPEED", "fast"), ("GO2_HEADING_LIMIT", "-0.3"),
      ("GO2_STARTUP_REPEATS", "-1"), ("GO2_DISTANCE_SOURCE", "lidar")] }
    (∀ s : Setting, s.Plain e) ∧
      (∃ bad : List Setting, bad.length = 4 ∧ ∀ s : Setting, s ∈ bad ↔ ¬ s.Meets e) ∧
      (¬ ∀ s : Setting, s.Meets e) ∧ gains e = .error (faults e) := by
  intro e
  have plain : ∀ s : Setting, s.Plain e := by
    intro s
    cases s with
    | rate | repeats => trivial
    | pause =>
      intro v stands
      have unset : e.get? pauseName = none := by decide +kernel
      cases stands with
      | absent => decide +kernel
      | given text => cases unset.symm.trans text
    | source =>
      have given : e.get? sourceName ≠ some "" := by decide +kernel
      exact given
  have four : (faults e).length = 4 := by decide +kernel
  obtain ⟨⟨bad, _, blamed, exactly⟩, sound, _, refused, _⟩ := every_bad_setting_is_blamed_once e
  have some_bad : faults e ≠ [] := List.ne_nil_of_length_eq_add_one four
  exact ⟨plain, ⟨bad, blamed.length_eq.trans four, fun s => exactly s (plain s)⟩,
    mt (sound plain).mpr some_bad, (refused some_bad).1⟩

/-- An infinite speed passes, and so does a pause that is no number. An empty source does not, though
an empty setting is otherwise at its default. -/
theorem infinite_speed_passes :
    let fast : Environment := { vars := [("GO2_TURN_SPEED", "inf")] }
    let vague : Environment := { vars := [("GO2_SEGMENT_PAUSE", "nan")] }
    let blank : Environment := { vars := [("GO2_DISTANCE_SOURCE", "")] }
    (faults fast = [] ∧ ¬ ∃ v, Rate.turnSpeed.At fast v ∧ 0 < v ∧ isFinite v = true) ∧
      (faults vague = [] ∧ ¬ Setting.pause.Meets vague) ∧
      ((faults blank).length = 1 ∧ ∀ s : Setting, s.Meets blank) := by
  intro fast vague blank
  refine ⟨⟨List.isEmpty_iff.mp (by decide +kernel), ?_⟩,
    ⟨List.isEmpty_iff.mp (by decide +kernel), ?_⟩, by decide +kernel, ?_⟩
  · rintro ⟨v, stands, _, finite⟩
    have written : Rate.turnSpeed.At fast (infinite false) :=
      .given rfl (by decide +kernel) (by decide +kernel)
    rw [stands.same written] at finite
    exact absurd finite (by decide +kernel)
  · rintro ⟨v, stands, positive⟩
    have written : PauseAt vague notANumber := .given rfl (by decide +kernel) (by decide +kernel)
    rw [stands.same written] at positive
    exact absurd positive (by decide +kernel)
  · have passes : ∀ s : Setting, s.Plain blank → (s.check blank).isNone = true → s.Meets blank :=
      fun s plain passed => (Setting.check_none_iff plain).mp (Option.isNone_iff_eq_none.mp passed)
    intro s
    cases s with
    | rate r => exact passes (.rate r) trivial (by cases r <;> decide +kernel)
    | pause => exact ⟨_, .absent (by decide +kernel), by decide +kernel⟩
    | repeats => exact passes .repeats trivial (by decide +kernel)
    | source => exact ⟨.elapsed, .absent (.inr (by decide +kernel))⟩

end Settings
end Quadruped
