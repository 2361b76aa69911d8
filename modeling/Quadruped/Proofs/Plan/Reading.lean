import Mathlib.Data.List.Forall2
import Mathlib.Data.List.TakeWhile
import Quadruped.Plan.Reading

/-!
A route as text. What it is worth depends on its tokens alone, those that are not blank, each without
the blanks around it: it is their steps in order, or what is wrong with the first that writes none.
-/
namespace Quadruped.Route

open Text

def filled (route : List Char) : List (List Char) :=
  (route.splitOn ',').filter (!isBlankToken ·)

/-- What is wrong with the first token that writes no step. -/
def FirstBad (tokens : List (List Char)) (why : PlanFault Float) : Prop :=
  ∃ before t after, tokens = before ++ t :: after ∧
    (∀ b ∈ before, ∃ step, readStep b = .ok step) ∧ readStep t = .error why

/-- Tokens with blank ones put between them, and with blanks put around them. -/
inductive Respaced : List (List Char) → List (List Char) → Prop where
  | nil : Respaced [] []
  | blank {ts us : List (List Char)} {t : List Char} (blank : isBlankToken t = true)
      (rest : Respaced ts us) : Respaced ts (t :: us)
  | padded {ts us : List (List Char)} {before after : List Char} (t : List Char)
      (left : isBlankToken before = true) (right : isBlankToken after = true)
      (rest : Respaced ts us) : Respaced (t :: ts) ((before ++ t ++ after) :: us)

/-- What one part of a route adds to the whole; a part with only blank tokens adds nothing. -/
inductive Gives (part : List Char) : List (RouteStep Float) → Prop where
  | nothing (empty : filled part = []) : Gives part []
  | steps {steps : List (RouteStep Float)} (made : read part = .ok steps) : Gives part steps

theorem tokens_eq_splitOn (cs : List Char) : tokens cs = cs.splitOn ',' := by
  induction cs with
  | nil => rfl
  | cons c rest ih =>
    rw [List.splitOn_cons_eq_if_modifyHead, ← ih, tokens]
    cases split : tokens rest with
    | nil => exact absurd (ih.symm.trans split) (List.splitOn_ne_nil ',' rest)
    | cons t ts => rfl

theorem filled_join (a b : List Char) : filled (a ++ ',' :: b) = filled a ++ filled b := by
  rw [filled, List.splitOn_append_cons_self, List.filter_append]
  rfl

theorem read_eq (route : List Char) :
    read route = if filled route = [] then .error .empty else readSteps (filled route) := by
  unfold read
  rw [tokens_eq_splitOn]
  exact if_congr List.isEmpty_iff rfl rfl

theorem readSteps_ok_iff {tokens : List (List Char)} {steps : List (RouteStep Float)} :
    readSteps tokens = .ok steps ↔ List.Forall₂ (fun t step => readStep t = .ok step) tokens steps := by
  induction tokens generalizing steps with
  | nil => cases steps <;> simp [readSteps]
  | cons t ts ih =>
    rw [readSteps, List.forall₂_cons_left_iff]
    cases first : readStep t with
    | error why => simp [bind, Except.bind]
    | ok step =>
      cases later : readSteps ts with
      | error why => simp [later, bind, Except.bind, ← ih]
      | ok others =>
        simp only [later, bind, Except.bind, ← ih, Except.ok.injEq]
        exact ⟨fun whole => ⟨step, others, rfl, rfl, whole.symm⟩,
          fun ⟨_, _, same, rest, whole⟩ => by rw [whole, same, rest]⟩

theorem readSteps_error_iff {tokens : List (List Char)} {why : PlanFault Float} :
    readSteps tokens = .error why ↔ FirstBad tokens why := by
  induction tokens with
  | nil =>
    constructor
    · intro fails
      cases fails
    · rintro ⟨before, t, after, whole, _⟩
      simp at whole
  | cons t ts ih =>
    rw [readSteps]
    cases first : readStep t with
    | error fault =>
      simp only [bind, Except.bind, Except.error.injEq]
      constructor
      · rintro rfl
        exact ⟨[], t, ts, rfl, by simp, first⟩
      · rintro ⟨_ | ⟨b, before⟩, u, after, whole, valid, bad⟩
        · obtain ⟨rfl, rfl⟩ := List.cons.inj whole
          exact Except.error.inj (first.symm.trans bad)
        · obtain ⟨rfl, rfl⟩ := List.cons.inj whole
          obtain ⟨step, good⟩ := valid t (by simp)
          cases first.symm.trans good
    | ok step =>
      have passes : (do let ss ← readSteps ts; Except.ok (step :: ss)) = .error why ↔
          readSteps ts = .error why := by
        cases readSteps ts <;> simp [bind, Except.bind]
      refine passes.trans (ih.trans ⟨?_, ?_⟩)
      · rintro ⟨before, u, after, rfl, valid, bad⟩
        exact ⟨t :: before, u, after, rfl, List.forall_mem_cons.mpr ⟨⟨step, first⟩, valid⟩, bad⟩
      · rintro ⟨_ | ⟨b, before⟩, u, after, whole, valid, bad⟩
        · obtain ⟨rfl, rfl⟩ := List.cons.inj whole
          cases first.symm.trans bad
        · obtain ⟨rfl, rfl⟩ := List.cons.inj whole
          exact ⟨before, u, after, rfl, (List.forall_mem_cons.mp valid).2, bad⟩

theorem read_ok_iff {route : List Char} {steps : List (RouteStep Float)} :
    read route = .ok steps ↔ filled route ≠ [] ∧
      List.Forall₂ (fun t step => readStep t = .ok step) (filled route) steps := by
  rw [read_eq]
  split
  · rename_i empty
    simp [empty]
  · rename_i some_token
    simp only [readSteps_ok_iff, ne_eq, some_token, not_false_eq_true, true_and]

theorem read_error_iff {route : List Char} {why : PlanFault Float} :
    read route = .error why ↔ (filled route = [] ∧ why = .empty) ∨ FirstBad (filled route) why := by
  rw [read_eq]
  split
  · rename_i empty
    have none_bad : ¬ FirstBad [] why := by
      rintro ⟨before, t, after, whole, _⟩
      simp at whole
    simp [empty, none_bad, eq_comm]
  · rename_i some_token
    simp only [readSteps_error_iff, some_token, false_and, false_or]

theorem forall₂_ok_exists {tokens : List (List Char)} :
    (∃ steps, List.Forall₂ (fun t step => readStep t = .ok step) tokens steps) ↔
      ∀ t ∈ tokens, ∃ step, readStep t = .ok step := by
  induction tokens with
  | nil => simp
  | cons t ts ih =>
    rw [List.forall_mem_cons, ← ih]
    constructor
    · rintro ⟨_, made⟩
      cases made with
      | cons first later => exact ⟨⟨_, first⟩, _, later⟩
    · rintro ⟨⟨step, first⟩, steps, later⟩
      exact ⟨step :: steps, .cons first later⟩

theorem gives_iff {part : List Char} {steps : List (RouteStep Float)} :
    Gives part steps ↔ List.Forall₂ (fun t step => readStep t = .ok step) (filled part) steps := by
  constructor
  · rintro (empty | made)
    · rw [empty]
      exact .nil
    · exact (read_ok_iff.mp made).2
  · intro made
    by_cases empty : filled part = []
    · rw [empty] at made
      cases made
      exact .nothing empty
    · exact .steps (read_ok_iff.mpr ⟨empty, made⟩)

theorem gives_append {a b : List Char} {steps : List (RouteStep Float)} :
    (∃ s u, Gives a s ∧ Gives b u ∧ steps = s ++ u) ↔
      List.Forall₂ (fun t step => readStep t = .ok step) (filled a ++ filled b) steps := by
  simp only [gives_iff]
  constructor
  · rintro ⟨s, u, first, second, rfl⟩
    exact List.rel_append first second
  · intro made
    have turned : List.Forall₂ (fun step t => readStep t = .ok step) steps (filled a ++ filled b) :=
      List.Forall₂.flip made
    exact ⟨_, _, .flip (List.forall₂_take_append steps _ _ turned),
      .flip (List.forall₂_drop_append steps _ _ turned), (List.take_append_drop _ steps).symm⟩

theorem dropWhile_all {p : Char → Bool} {s : List Char} (all : s.all p = true) :
    s.dropWhile p = [] :=
  List.dropWhile_eq_nil_iff.mpr (List.all_eq_true.mp all)

theorem stripBy_padded {p : Char → Bool} {before after : List Char} (t : List Char)
    (left : before.all p = true) (right : after.all p = true) :
    stripBy p (before ++ t ++ after) = stripBy p t := by
  have front : (before ++ t ++ after).dropWhile p = (t ++ after).dropWhile p := by
    rw [List.append_assoc, List.dropWhile_append_of_pos (List.all_eq_true.mp left)]
  have back : after.reverse.all p = true := by rwa [List.all_reverse]
  unfold stripBy
  rw [front, List.dropWhile_append]
  split
  · rename_i nothing
    rw [dropWhile_all right, List.isEmpty_iff.mp nothing]
  · rw [List.reverse_append, List.dropWhile_append_of_pos (List.all_eq_true.mp back)]

theorem readStep_padded {before after : List Char} (t : List Char)
    (left : isBlankToken before = true) (right : isBlankToken after = true) :
    readStep (before ++ t ++ after) = readStep t := by
  unfold readStep strip
  rw [stripBy_padded t left right]

theorem Respaced.same {ts us : List (List Char)} (respaced : Respaced ts us) :
    (us.filter (!isBlankToken ·) = [] ↔ ts.filter (!isBlankToken ·) = []) ∧
      readSteps (us.filter (!isBlankToken ·)) = readSteps (ts.filter (!isBlankToken ·)) := by
  induction respaced with
  | nil => exact ⟨Iff.rfl, rfl⟩
  | blank blank rest ih =>
    rw [List.filter_cons_of_neg (by simp [blank])]
    exact ih
  | @padded ts us before after t left right rest ih =>
    have same : isBlankToken (before ++ t ++ after) = isBlankToken t := by
      unfold isBlankToken at left right ⊢
      rw [List.all_append, List.all_append, left, right, Bool.true_and, Bool.and_true]
    cases blank : isBlankToken t with
    | true =>
      rw [List.filter_cons_of_neg (by rw [same, blank]; decide),
        List.filter_cons_of_neg (by rw [blank]; decide)]
      exact ih
    | false =>
      rw [List.filter_cons_of_pos (by rw [same, blank]; rfl),
        List.filter_cons_of_pos (by rw [blank]; rfl)]
      refine ⟨by simp, ?_⟩
      rw [readSteps, readSteps, readStep_padded t left right, ih.2]

theorem read_respaced {a b : List Char} (respaced : Respaced (a.splitOn ',') (b.splitOn ',')) :
    read b = read a := by
  obtain ⟨empty, steps⟩ := respaced.same
  rw [read_eq, read_eq]
  exact if_congr empty rfl steps

end Quadruped.Route
