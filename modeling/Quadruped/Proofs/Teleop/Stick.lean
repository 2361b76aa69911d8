import Quadruped.Proofs.Number.Value
import Quadruped.Teleop.Gamepad

/-!
Which key a controller stands for. A pressed button decides alone, then the hat, then the longer axis of
the stick by its sign. A stick at rest stands for a stop only where there is a deadzone at all.
-/
namespace Quadruped.Gamepad

open Number

/-- The buttons that stand for a key, first the one that decides where several are pressed. -/
def mapped : List (Nat × String) := [(7, exitToken), (0, stopToken), (3, "r"), (1, "f")]

def Pressed (buttons : List Bool) (i : Nat) : Prop := buttons[i]? = some true

instance (buttons : List Bool) (i : Nat) : Decidable (Pressed buttons i) :=
  inferInstanceAs (Decidable (buttons[i]? = some true))

theorem buttonToken_eq (buttons : List Bool) :
    buttonToken? buttons = (mapped.find? fun m => buttons.getD m.1 false).map (·.2) := by
  simp only [buttonToken?, mapped, List.find?]
  cases buttons.getD 7 false <;> cases buttons.getD 0 false <;> cases buttons.getD 3 false <;>
    cases buttons.getD 1 false <;> rfl

theorem pressed_iff (buttons : List Bool) (i : Nat) :
    Pressed buttons i ↔ buttons.getD i false = true := by
  rw [List.getD_eq_getElem?_getD]
  unfold Pressed
  cases buttons[i]? with
  | none => simp
  | some b => simp

/-- The axis is pushed as far as the deadzone, which an infinite one never is. -/
def Reaches (axis deadzone : Float) : Prop :=
  isFinite deadzone = true ∧ value deadzone ≤ |value axis|

/-- Of two axes this one decides: it is pushed no less than the other and as far as the deadzone. -/
structure Decides (axis other deadzone : Float) : Prop where
  longer : |value other| ≤ |value axis|
  reaches : Reaches axis deadzone

variable {x y deadzone : Float}

theorem reaches_iff (finite : isFinite x = true) (nonneg : 0 ≤ deadzone) :
    Reaches x deadzone ↔ ¬Scalar.lt (Scalar.absolute x) deadzone = true := by
  obtain ⟨known, size⟩ := absolute_value finite
  have less : Scalar.lt (Scalar.absolute x) deadzone = true ↔ Scalar.absolute x < deadzone :=
    decide_eq_true_iff
  rw [less]
  cases limit : isFinite deadzone with
  | true => rw [lt_iff_value known limit, size, not_lt, Reaches, and_iff_right limit]
  | false =>
    refine ⟨fun reaches => ?_, fun beyond => absurd (lt_of_lost known nonneg limit) beyond⟩
    exact absurd reaches.1 (by rw [limit]; decide)

theorem reaches_at_rest (still : value x = 0) (nonneg : 0 ≤ deadzone) :
    Reaches x deadzone ↔ ¬0 < deadzone := by
  have zero : isFinite 0 = true := by decide +kernel
  cases limit : isFinite deadzone with
  | true =>
    rw [lt_iff_value zero limit, show value 0 = 0 by decide +kernel, Reaches, still, abs_zero,
      not_lt, and_iff_right limit]
  | false =>
    refine ⟨fun reaches => ?_, fun beyond => absurd (lt_of_lost zero nonneg limit) beyond⟩
    exact absurd reaches.1 (by rw [limit]; decide)

inductive Pushed (x y deadzone : Float) : String → Prop
  | rest (level : ¬Reaches x deadzone) (upright : ¬Reaches y deadzone) :
      Pushed x y deadzone stopToken
  | forward (decides : Decides y x deadzone) (ahead : value y < 0) : Pushed x y deadzone "w"
  | backward (decides : Decides y x deadzone) (behind : 0 ≤ value y) : Pushed x y deadzone "s"
  | left (decides : Decides x y deadzone) (left : value x < 0) : Pushed x y deadzone "a"
  | right (decides : Decides x y deadzone) (right : 0 < value x) : Pushed x y deadzone "d"

theorem stickToken_pushed (finite : isFinite x = true) (known : isFinite y = true)
    (nonneg : 0 ≤ deadzone) : Pushed x y deadzone (stickToken x y deadzone) := by
  have order : Scalar.le (Scalar.absolute x) (Scalar.absolute y) = true ↔ |value x| ≤ |value y| := by
    obtain ⟨here, width⟩ := absolute_value finite
    obtain ⟨there, height⟩ := absolute_value known
    rw [← width, ← height]
    exact decide_eq_true_iff.trans (le_iff_value here there)
  have across := reaches_iff finite nonneg
  have along := reaches_iff known nonneg
  unfold stickToken
  split_ifs with centred upright ahead left
  · obtain ⟨level, still⟩ := Bool.and_eq_true_iff.mp centred
    exact .rest (mt across.mp (not_not.mpr level)) (mt along.mp (not_not.mpr still))
  all_goals
    have pushed : Reaches x deadzone ∨ Reaches y deadzone := by
      rw [across, along, ← not_and_or]
      exact mt Bool.and_eq_true_iff.mpr centred
  · have longer := order.mp upright
    exact .forward ⟨longer, pushed.elim (fun x => ⟨x.1, x.2.trans longer⟩) id⟩
      ((lt_zero_iff_value known).mp ahead)
  · have longer := order.mp upright
    exact .backward ⟨longer, pushed.elim (fun x => ⟨x.1, x.2.trans longer⟩) id⟩
      (not_lt.mp (mt (lt_zero_iff_value known).mpr ahead))
  · have longer := le_of_not_ge (mt order.mpr upright)
    exact .left ⟨longer, pushed.elim id fun y => ⟨y.1, y.2.trans longer⟩⟩
      ((lt_zero_iff_value finite).mp left)
  · have longer := not_le.mp (mt order.mpr upright)
    have moved : 0 < |value x| := (abs_nonneg _).trans_lt longer
    refine .right ⟨longer.le, pushed.elim id fun y => ⟨y.1, y.2.trans longer.le⟩⟩ ?_
    have positive := not_lt.mp (mt (lt_zero_iff_value finite).mpr left)
    rwa [abs_of_nonneg positive] at moved

theorem token_of_button (s : Snapshot Float) (deadzone : Float) {key : String}
    (pressed : buttonToken? s.buttons = some key) : token s deadzone = key := by
  unfold token
  rw [pressed]
  rfl

theorem buttonToken_pressed {buttons : List Bool} (pressed : ∃ m ∈ mapped, Pressed buttons m.1) :
    ∃ m ∈ mapped, Pressed buttons m.1 ∧ buttonToken? buttons = some m.2 := by
  obtain ⟨m, member, held⟩ := pressed
  have found : (mapped.find? fun m => buttons.getD m.1 false).isSome = true :=
    List.find?_isSome.mpr ⟨m, member, (pressed_iff buttons m.1).mp held⟩
  obtain ⟨first, decides⟩ := Option.isSome_iff_exists.mp found
  refine ⟨first, List.mem_of_find?_eq_some decides, ?_, ?_⟩
  · have held := List.find?_some decides
    exact (pressed_iff buttons first.1).mpr held
  · rw [buttonToken_eq, decides, Option.map_some]

theorem buttonToken_released {buttons : List Bool}
    (released : ∀ m ∈ mapped, ¬Pressed buttons m.1) : buttonToken? buttons = none := by
  rw [buttonToken_eq, Option.map_eq_none_iff, List.find?_eq_none]
  exact fun m member held => released m member ((pressed_iff buttons m.1).mpr held)

/-- A pressed button decides, whatever the hat and the stick do; then a hat that is pushed sideways,
whatever the stick does. With neither, a stick stands for the key of its longer axis and of the side to
which that axis is pushed, and for a stop at rest, but for one case: where the deadzone is zero a
stick at rest stands for backward. -/
theorem keys_match_controls (s : Snapshot Float) (deadzone : Float) :
    ((∃ m ∈ mapped, Pressed s.buttons m.1) → ∃ m ∈ mapped, Pressed s.buttons m.1 ∧
      ∀ t : Snapshot Float, t.buttons = s.buttons → ∀ other, token t other = m.2) ∧
    ((∀ m ∈ mapped, ¬Pressed s.buttons m.1) →
      (s.hat < 0 → token s deadzone = "q") ∧ (0 < s.hat → token s deadzone = "e") ∧
      (s.hat = 0 → isFinite s.x = true → isFinite s.y = true → 0 ≤ deadzone →
        (token s deadzone = "w" → value s.y < 0 ∧ Decides s.y s.x deadzone) ∧
        (token s deadzone = "s" → Decides s.y s.x deadzone ∧
          (0 < value s.y ∨ value s.x = 0 ∧ value s.y = 0 ∧ ¬0 < deadzone)) ∧
        (token s deadzone = "a" → value s.x < 0 ∧ Decides s.x s.y deadzone) ∧
        (token s deadzone = "d" → 0 < value s.x ∧ Decides s.x s.y deadzone) ∧
        (value s.x = 0 → value s.y = 0 →
          token s deadzone = if 0 < deadzone then stopToken else "s"))) := by
  refine ⟨fun pressed => ?_, fun released => ?_⟩
  · obtain ⟨m, member, held, key⟩ := buttonToken_pressed pressed
    refine ⟨m, member, held, fun t same other => ?_⟩
    exact token_of_button t other (same ▸ key)
  have none_held := buttonToken_released released
  refine ⟨fun left => ?_, fun right => ?_, fun centred finite known nonneg => ?_⟩
  · simp [token, none_held, hatToken?, left]
  · simp [token, none_held, hatToken?, right, right.not_gt]
  have stick : token s deadzone = stickToken s.x s.y deadzone := by
    simp [token, none_held, hatToken?, centred]
  have pushed := stickToken_pushed finite known nonneg
  rw [stick]
  generalize stickToken s.x s.y deadzone = key at pushed
  cases pushed with
  | rest level upright =>
    simp only [stopToken, String.reduceEq, false_imp_iff, true_and]
    intro still _
    rw [if_pos (not_not.mp (mt (reaches_at_rest still nonneg).mpr level))]
  | forward decides ahead =>
    simp only [String.reduceEq, false_imp_iff, true_imp_iff, true_and]
    exact ⟨⟨ahead, decides⟩, fun _ still => absurd still ahead.ne⟩
  | backward decides behind =>
    simp only [String.reduceEq, false_imp_iff, true_imp_iff, true_and]
    refine ⟨⟨decides, ?_⟩, fun _ still => ?_⟩
    · rcases behind.lt_or_eq with positive | still
      · exact .inl positive
      · have short := decides.longer
        rw [← still, abs_zero, abs_nonpos_iff] at short
        exact .inr ⟨short, still.symm, (reaches_at_rest still.symm nonneg).mp decides.reaches⟩
    · rw [if_neg ((reaches_at_rest still nonneg).mp decides.reaches)]
  | left decides left =>
    simp only [String.reduceEq, false_imp_iff, true_imp_iff, true_and]
    exact ⟨⟨left, decides⟩, fun still _ => absurd still left.ne⟩
  | right decides right =>
    simp only [String.reduceEq, false_imp_iff, true_imp_iff, true_and]
    exact ⟨⟨right, decides⟩, fun still _ => absurd still right.ne'⟩

theorem even_push_goes_forward :
    (∃ m ∈ mapped, Pressed [true, true] m.1 ∧ ∀ other,
      token (⟨-1, 1, 1, [true, true]⟩ : Snapshot Float) other = m.2) ∧
    token (⟨1, -1, -1, [false, false, true]⟩ : Snapshot Float) 0 = "q" ∧
    token (⟨1, -1, 1, []⟩ : Snapshot Float) 0 = "e" ∧
    token (⟨0.5, -0.5, 0, [false]⟩ : Snapshot Float) 0.5 = "w" ∧
    value (-0.5) < 0 ∧ Decides (-0.5) 0.5 0.5 := by
  have held : ∃ m ∈ mapped, Pressed [true, true] m.1 := ⟨(0, stopToken), by decide, rfl⟩
  have free : ∀ m ∈ mapped, ¬Pressed [false, false, true] m.1 := by decide
  have bare : ∀ m ∈ mapped, ¬Pressed [] m.1 := by decide
  have idle : ∀ m ∈ mapped, ¬Pressed [false] m.1 := by decide
  obtain ⟨m, member, pressed, key⟩ := (keys_match_controls ⟨-1, 1, 1, [true, true]⟩ 0).1 held
  have left := ((keys_match_controls ⟨1, -1, -1, [false, false, true]⟩ 0).2 free).1 (by decide)
  have right := ((keys_match_controls ⟨1, -1, 1, []⟩ 0).2 bare).2.1 (by decide)
  have stick := ((keys_match_controls ⟨0.5, -0.5, 0, [false]⟩ 0.5).2 idle).2.2 rfl
    (by decide +kernel) (by decide +kernel) (by decide +kernel)
  have forward : token (⟨0.5, -0.5, 0, [false]⟩ : Snapshot Float) 0.5 = "w" := by decide +kernel
  exact ⟨⟨m, member, pressed, fun other => key _ rfl other⟩, left, right, forward,
    stick.1 forward⟩

/-- Without a deadzone a stick at rest stands for a drive backward, though it is pushed nowhere and
nothing is pressed. -/
theorem stick_at_rest_drives_backward :
    isFinite 0 = true ∧ (0 : Float) ≤ 0 ∧ (∀ m ∈ mapped, ¬Pressed [] m.1) ∧
      token (⟨0, 0, 0, []⟩ : Snapshot Float) 0 = "s" ∧ ¬0 < value 0 ∧ "s" ≠ stopToken := by
  decide +kernel

end Quadruped.Gamepad
