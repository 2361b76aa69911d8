import Quadruped.Proofs.Angle
import Quadruped.Proofs.Plan.Reading
import Quadruped.Proofs.Wrapping

/-!
The plan that a route makes. Each turn starts from the heading that the part of the route before it
has led to, so routes compose; and no turn that can be written leads to a heading that is no number.
-/
namespace Quadruped

open Number

namespace Route

section
variable {R : Type}

/-- The heading at the end of a plan: the last one that it turns to, or else the one before it. -/
def headingAfter : R → List (Segment R) → R
  | before, [] => before
  | _, .turn h :: rest => headingAfter h rest
  | before, .travel _ :: rest => headingAfter before rest

variable [Scalar R]

theorem resolveFrom_turn {before a h : R} (turned : Angle.normalize (before + a) = some h)
    (rest : List (RouteStep R)) :
    resolveFrom before (.turn a :: rest) = (resolveFrom h rest).map (.turn h :: ·) := by
  rw [resolveFrom, turned]
  cases made : resolveFrom h rest <;> simp [made]

theorem resolveFrom_append (before : R) (s u : List (RouteStep R)) :
    resolveFrom before (s ++ u) = (resolveFrom before s).bind fun first =>
      (resolveFrom (headingAfter before first) u).map (first ++ ·) := by
  induction s generalizing before with
  | nil =>
    change resolveFrom before u = (resolveFrom before u).map (fun second => second)
    rw [Option.map_id']
  | cons step s ih =>
    cases step with
    | turn a =>
      cases turned : Angle.normalize (before + a) with
      | none => simp [resolveFrom, turned]
      | some h =>
        rw [List.cons_append, resolveFrom_turn turned, resolveFrom_turn turned, ih]
        cases resolveFrom h s with
        | none => rfl
        | some first => simp [headingAfter, Function.comp_def]
    | travel d =>
      rw [List.cons_append, resolveFrom, resolveFrom, ih]
      cases resolveFrom before s with
      | none => rfl
      | some first => simp [headingAfter, Function.comp_def]

end

/-- A step that a text can write: its angle is far from overflowing, its distance is positive. -/
def Fair : RouteStep Float → Prop
  | .turn a => Within 967 a
  | .travel d => isFinite d = true ∧ ¬ d ≤ 0

def Runnable : Segment Float → Prop
  | .turn h => Angle.Wrapped h
  | .travel d => isFinite d = true ∧ ¬ d ≤ 0

inductive Becomes : RouteStep Float → Segment Float → Prop where
  | turn (a h : Float) : Becomes (.turn a) (.turn h)
  | travel (d : Float) : Becomes (.travel d) (.travel d)

/-- Degrees lie closer together than radians, so none overflows. -/
theorem radians_within {degrees : Float} (finite : isFinite degrees = true) :
    Within 967 (radians degrees) := by
  obtain ⟨positive, unit⟩ : ∃ positive, decoded (3.141592653589793 / 180.0 : Float) =
      .finite .positive 5030569068109113 (-58) positive := ⟨_, rfl⟩
  exact (within_of_isFinite finite).mul unit (by decide) (by decide) (by decide) (by decide)

theorem stepOf_fair {kind : List Char} {v : Float} {token : String} {step : RouteStep Float}
    (finite : isFinite v = true) (made : stepOf kind v token = .ok step) : Fair step := by
  unfold stepOf at made
  split at made
  · split at made
    · cases made
    · rename_i far
      cases made
      exact ⟨finite, far⟩
  · split at made
    · cases made
      exact radians_within finite
    · split at made
      · cases made
        exact (radians_within finite).neg
      · cases made

theorem readStep_fair {token : List Char} {step : RouteStep Float}
    (made : readStep token = .ok step) : Fair step := by
  unfold readStep stepOfStripped at made
  dsimp only at made
  split at made
  · cases made
  · cases made
  · split at made
    · cases made
    · split at made
      · rename_i finite
        exact stepOf_fair finite made
      · cases made

theorem turned_wrapped {h a : Float} (wrapped : Angle.Wrapped h) (fair : Within 967 a) :
    ∃ h', Angle.normalize (h + a) = some h' ∧ Angle.Wrapped h' := by
  obtain ⟨w, same, small⟩ := Angle.normalize_small wrapped.finite
  rw [wrapped.normalize_eq, Option.some_inj] at same
  have first : Within 967 h := (same ▸ small).mono (by decide)
  exact Angle.normalize_wrapped (first.add (by decide) (by decide) fair).isFinite

theorem resolveFrom_fair {steps : List (RouteStep Float)} (fair : ∀ step ∈ steps, Fair step)
    {h : Float} (wrapped : Angle.Wrapped h) :
    ∃ plan, resolveFrom h steps = some plan ∧ List.Forall₂ Becomes steps plan ∧
      (∀ segment ∈ plan, Runnable segment) ∧ Angle.Wrapped (headingAfter h plan) := by
  induction steps generalizing h with
  | nil => exact ⟨[], rfl, .nil, by simp, wrapped⟩
  | cons step steps ih =>
    rw [List.forall_mem_cons] at fair
    cases step with
    | turn a =>
      obtain ⟨h', turned, there⟩ := turned_wrapped wrapped fair.1
      obtain ⟨plan, made, each, runs, last⟩ := ih fair.2 there
      refine ⟨.turn h' :: plan, ?_, .cons (.turn a h') each,
        List.forall_mem_cons.mpr ⟨there, runs⟩, last⟩
      rw [resolveFrom_turn turned, made]
      rfl
    | travel d =>
      obtain ⟨plan, made, each, runs, last⟩ := ih fair.2 wrapped
      refine ⟨.travel d :: plan, ?_, .cons (.travel d) each,
        List.forall_mem_cons.mpr ⟨fair.1, runs⟩, last⟩
      rw [resolveFrom, made]
      rfl

theorem resolve_fair {steps : List (RouteStep Float)} (fair : ∀ step ∈ steps, Fair step)
    {heading : Float} (finite : isFinite heading = true) :
    ∃ plan, resolve steps heading = some plan ∧ List.Forall₂ Becomes steps plan ∧
      ∀ segment ∈ plan, Runnable segment := by
  obtain ⟨h, start, wrapped⟩ := Angle.normalize_wrapped finite
  obtain ⟨plan, made, each, runs, _⟩ := resolveFrom_fair fair wrapped
  refine ⟨plan, ?_, each, runs⟩
  rw [resolve, start, Option.bind_some, made]

/-- The second part of a route is resolved as a route of its own from where the first has led: to
wrap a heading again that is wrapped changes nothing. -/
theorem resolve_append {s u : List (RouteStep Float)} (fair : ∀ step ∈ s ++ u, Fair step)
    {heading start : Float} (finite : isFinite heading = true)
    (faces : Angle.normalize heading = some start) :
    ∃ first second, resolve s heading = some first ∧
      resolve u (headingAfter start first) = some second ∧
      resolve (s ++ u) heading = some (first ++ second) := by
  obtain ⟨h, same, wrapped⟩ := Angle.normalize_wrapped finite
  obtain rfl : h = start := Option.some.inj (same.symm.trans faces)
  obtain ⟨first, one, _, _, last⟩ := resolveFrom_fair
    (fun step member => fair step (List.mem_append_left u member)) wrapped
  obtain ⟨second, two, _, _, _⟩ := resolveFrom_fair
    (fun step member => fair step (List.mem_append_right s member)) last
  refine ⟨first, second, ?_, ?_, ?_⟩
  · rw [resolve, faces, Option.bind_some, one]
  · rw [resolve, last.normalize_eq, Option.bind_some, two]
  · rw [resolve, faces, Option.bind_some, resolveFrom_append, one, Option.bind_some, two]
    rfl

/-- Routes compose. As texts, a route joined from two parts is worth the steps of both, or what is wrong
with the first of their tokens that writes none, and blanks do not matter. As steps, the second part
goes on from the heading that the first has led to. -/
theorem routes_compose :
    (∀ a b : List Char,
      ((∃ steps, read (a ++ ',' :: b) = .ok steps) ↔
        (∃ t, t ∈ filled a ∨ t ∈ filled b) ∧
          ∀ t, t ∈ filled a ∨ t ∈ filled b → ∃ step, readStep t = .ok step) ∧
      (∀ steps, read (a ++ ',' :: b) = .ok steps ↔
        (filled a ≠ [] ∨ filled b ≠ []) ∧ ∃ s u, Gives a s ∧ Gives b u ∧ steps = s ++ u) ∧
      ∀ why, read (a ++ ',' :: b) = .error why ↔
        (filled a = [] ∧ filled b = [] ∧ why = .empty) ∨ FirstBad (filled a ++ filled b) why) ∧
    (∀ a b : List Char, Respaced (a.splitOn ',') (b.splitOn ',') → read b = read a) ∧
    ∀ s u : List (RouteStep Float), (∀ step ∈ s ++ u, ∃ token, readStep token = .ok step) →
      ∀ heading, isFinite heading = true →
        ∃ start first second, Angle.normalize heading = some start ∧
          resolve s heading = some first ∧ resolve u (headingAfter start first) = some second ∧
          resolve (s ++ u) heading = some (first ++ second) := by
  refine ⟨fun a b => ⟨?_, ?_, ?_⟩, fun a b => read_respaced, ?_⟩
  · have some_token : filled a ++ filled b ≠ [] ↔ ∃ t, t ∈ filled a ++ filled b :=
      ⟨List.exists_mem_of_ne_nil _, fun ⟨_, member⟩ => List.ne_nil_of_mem member⟩
    simp only [read_ok_iff, exists_and_left, forall₂_ok_exists, filled_join, ← List.mem_append,
      some_token]
  · intro steps
    rw [read_ok_iff, filled_join, ← gives_append]
    simp only [ne_eq, List.append_eq_nil_iff, not_and_or]
  · intro why
    rw [read_error_iff, filled_join, List.append_eq_nil_iff, and_assoc]
  · intro s u written heading finite
    have fair : ∀ step ∈ s ++ u, Fair step := by
      intro step member
      obtain ⟨token, made⟩ := written step member
      exact readStep_fair made
    obtain ⟨start, faces, _⟩ := Angle.normalize_wrapped finite
    obtain ⟨first, second, parts⟩ := resolve_append fair finite faces
    exact ⟨start, first, second, faces, parts⟩

theorem quarter_turns_compose :
    let quarter : RouteStep Float := .turn (radians 90)
    (∃ steps, read ("F1,L90".toList ++ ',' :: " ,R45".toList) = .ok steps) ∧
      read " F1 ,, L90".toList = read "F1,L90".toList ∧
      readStep "L90".toList = .ok quarter ∧ isFinite 3.0 = true ∧
      resolve [quarter] 3.0 = some [.turn (-1.7123889803846897)] ∧
      resolve ([quarter] ++ [quarter]) 3.0 =
        some [.turn (-1.7123889803846897), .turn (-0.14159265358979312)] := by
  intro quarter
  obtain ⟨joined, spaced, resolved⟩ := routes_compose
  have written : readStep "L90".toList = .ok quarter := by decide +kernel
  have finite : isFinite 3.0 = true := by decide +kernel
  refine ⟨(joined _ _).1.mpr ⟨⟨"F1".toList, .inl (by decide +kernel)⟩, ?_⟩, spaced _ _ ?_, written,
    finite, ?_⟩
  · have valid : ∀ t ∈ filled "F1,L90".toList ++ filled " ,R45".toList,
        (readStep t).isOk = true := by decide +kernel
    intro t member
    have good := valid t (List.mem_append.mpr member)
    cases made : readStep t with
    | error why => rw [made] at good; cases good
    | ok step => exact ⟨step, rfl⟩
  · exact @Respaced.padded _ _ [' '] [' '] "F1".toList rfl rfl
      (@Respaced.blank _ _ [] rfl (@Respaced.padded _ _ [' '] [] "L90".toList rfl rfl .nil))
  · obtain ⟨start, first, second, faces, one, two, whole⟩ :=
      resolved [quarter] [quarter] (by simp [← written]) 3.0 finite
    have led : resolve [quarter] 3.0 = some [.turn (-1.7123889803846897)] := by decide +kernel
    obtain rfl := Option.some.inj (led.symm.trans one)
    have next : resolve [quarter] (-1.7123889803846897) = some [.turn (-0.14159265358979312)] := by
      decide +kernel
    obtain rfl := Option.some.inj (next.symm.trans two)
    exact ⟨led, whole⟩

end Route

end Quadruped
