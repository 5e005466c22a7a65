import KernelGen.Generation.Script
import KernelGen.Proofs.Generation.Outputs

/-! The steps of a run as one list that does not end where a text cannot be rendered. A script
does the steps before the first such text, and ends with its error. -/
namespace KernelGen

/-- A directory to be made, or a file to be written with what rendering its text has led to. -/
inductive Step where
  | prepare (directory : Directory)
  | put (output : Output) (text : Except Error String)

namespace Step

/-- The action of a step, unless its text cannot be rendered. -/
def action? : Step → Option Action
  | .prepare d => some (.prepare d)
  | .put o (.ok text) => some (.write o.directory o.fileName text)
  | .put _ (.error _) => none

/-- The file of a step, with its text. -/
def product? : Step → Option (Output × Except Error String)
  | .prepare _ => none
  | .put o text => some (o, text)

theorem eq_prepare {step : Step} {d : Directory} (h : step.action? = some (.prepare d)) :
    step = .prepare d := by
  cases step with
  | prepare e => cases h; rfl
  | put o text => cases text <;> cases h

theorem eq_put {step : Step} {d : Directory} {name text : String}
    (h : step.action? = some (.write d name text)) : step = .put ⟨d, name⟩ (.ok text) := by
  cases step with
  | prepare e => cases h
  | put o content =>
      cases content with
      | error e => cases h
      | ok content => cases h; rfl

end Step

/-- Whether more happens than that something is told. -/
def Action.isEffect : Action → Bool
  | .tell _ => false
  | _ => true

/-- The actions do the steps, one after the other; things may be told between them. -/
def Carries (actions : List Action) (steps : List Step) : Prop :=
  steps.map Step.action? = (actions.filter Action.isEffect).map some

theorem Carries.nil : Carries [] [] := rfl

theorem Carries.append {first second : List Action} {front back : List Step}
    (left : Carries first front) (right : Carries second back) :
    Carries (first ++ second) (front ++ back) := by
  rw [Carries] at left right ⊢
  rw [List.map_append, List.filter_append, List.map_append, left, right]

/-- Actions are cut where steps are. -/
theorem Carries.split {first rest : List Action} {a : Action} {steps : List Step}
    (h : Carries (first ++ a :: rest) steps) (hEffect : a.isEffect) :
    ∃ front step back, steps = front ++ step :: back ∧ Carries first front ∧
      step.action? = some a := by
  rw [Carries, List.filter_append, List.filter_cons_of_pos hEffect, List.map_append,
    List.map_cons, List.map_eq_append_iff] at h
  obtain ⟨front, later, rfl, hFront, hLater⟩ := h
  obtain ⟨step, back, rfl, hStep, -⟩ := List.map_eq_cons_iff.mp hLater
  exact ⟨front, step, back, rfl, hFront, hStep⟩

namespace Script

variable {α β : Type}

/-- A script that ends well does all of the steps. One that ends with an error does those before
the first text that cannot be rendered, which is the one with this error. -/
def Follows (s : Script α) (steps : List Step) : Prop :=
  match s.ending with
  | .ok _ => Carries s.actions steps
  | .error e => ∃ done o rest, steps = done ++ .put o (.error e) :: rest ∧ Carries s.actions done

theorem Follows.pure (a : α) : Follows (pure a : Script α) [] := Carries.nil

theorem follows_tell (message : String) : Follows (tell message) [] := rfl

theorem follows_prepare (d : Directory) : Follows (act (.prepare d)) [.prepare d] := rfl

/-- The second script goes on with steps of its own if the first one ends well. -/
theorem Follows.bind {s : Script α} {next : α → Script β} {front back : List Step}
    (left : s.Follows front) (right : ∀ a, s.ending = .ok a → (next a).Follows back) :
    (s >>= next).Follows (front ++ back) := by
  obtain ⟨actions, ending⟩ := s
  cases ending with
  | error e =>
      obtain ⟨done, o, rest, rfl, hDone⟩ := left
      exact ⟨done, o, rest ++ back, by simp, hDone⟩
  | ok a =>
      have hNext := right a rfl
      change Carries actions front at left
      change Follows ⟨actions ++ (next a).actions, (next a).ending⟩ _
      rw [Follows] at hNext ⊢
      cases hEnding : (next a).ending with
      | ok b =>
          rw [hEnding] at hNext
          exact left.append hNext
      | error e =>
          rw [hEnding] at hNext
          obtain ⟨done, o, rest, rfl, hDone⟩ := hNext
          exact ⟨front ++ done, o, rest, by simp, left.append hDone⟩

/-- Rendering a text and writing it is one step, whether it can be rendered or not. -/
theorem follows_put {e : Except Error α} (o : Output) (text : α → String)
    {next : α → Script β} {steps : List Step}
    (h : ∀ a, e = .ok a → (next a).Follows steps) :
    (do
      let a ← ofExcept e
      act (.write o.directory o.fileName (text a))
      next a).Follows (.put o (e.map text) :: steps) := by
  cases e with
  | error e => exact ⟨[], o, steps, rfl, Carries.nil⟩
  | ok a =>
      have hWrite : (act (.write o.directory o.fileName (text a))).Follows [.put o (.ok (text a))] :=
        rfl
      exact hWrite.bind fun _ _ => h a rfl

/-- Where a script stops, also before its end, the steps say what was done and what is next. -/
theorem Follows.split {s : Script α} {steps : List Step} (h : s.Follows steps)
    {first rest : List Action} {a : Action} (hActions : s.actions = first ++ a :: rest)
    (hEffect : a.isEffect) :
    ∃ front step back, steps = front ++ step :: back ∧ Carries first front ∧
      step.action? = some a := by
  rw [Follows, hActions] at h
  cases hEnding : s.ending with
  | ok b =>
      rw [hEnding] at h
      exact h.split hEffect
  | error e =>
      rw [hEnding] at h
      obtain ⟨done, o, later, rfl, hDone⟩ := h
      obtain ⟨front, step, back, rfl, hFront, hStep⟩ := hDone.split hEffect
      exact ⟨front, step, back ++ .put o (.error e) :: later, by simp, hFront, hStep⟩

end Script

end KernelGen
