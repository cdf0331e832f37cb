import Mathlib.Logic.Basic

/-!
# Runs of a partial step function

A system is a function `step state action`, undefined where the action is not
enabled.  `Reaches` collects the states of all runs whose steps meet a
condition, and `execute` runs a list of actions.  `monitor` adds a history
variable: what an observer has seen of the run so far.
-/

universe u v w

variable {σ : Type u} {α : Type v} {β : Type w}

/-- The states a run from `initial` can be in while every step is `allowed`. -/
inductive Reaches
    (step : σ → α → Option σ) (allowed : σ → α → Prop) (initial : σ) :
    σ → Prop where
  | start : Reaches step allowed initial initial
  | step {state next : σ} {action : α}
      (before : Reaches step allowed initial state)
      (meets : allowed state action)
      (taken : step state action = some next) :
      Reaches step allowed initial next

namespace Reaches

variable {step : σ → α → Option σ} {allowed weaker : σ → α → Prop}
  {initial state : σ}

/-- What holds at the start and survives every allowed step holds throughout
the run. -/
theorem invariant {property : σ → Prop}
    (reaches : Reaches step allowed initial state)
    (holds : property initial)
    (preserved : ∀ before action after,
      property before → allowed before action →
        step before action = some after → property after) :
    property state := by
  induction reaches with
  | start =>
      exact holds
  | step before meets taken inductionHypothesis =>
      exact preserved _ _ _ inductionHypothesis meets taken

theorem mono
    (reaches : Reaches step allowed initial state)
    (weakens : ∀ before action, allowed before action →
      weaker before action) :
    Reaches step weaker initial state := by
  induction reaches with
  | start =>
      exact .start
  | step before meets taken inductionHypothesis =>
      exact .step inductionHypothesis (weakens _ _ meets) taken

end Reaches

/-- Execute the actions in order, as long as each is allowed and enabled. -/
def execute
    (step : σ → α → Option σ) (allowed : σ → α → Prop)
    [∀ state action, Decidable (allowed state action)] :
    σ → List α → Option σ
  | state, [] => some state
  | state, action :: rest =>
      if allowed state action then
        (step state action).bind fun next => execute step allowed next rest
      else
        none

section Execution

variable {step : σ → α → Option σ} {allowed : σ → α → Prop}
  [∀ state action, Decidable (allowed state action)] {initial : σ}

/-- An executed run is a run. -/
theorem Reaches.of_execute
    {state final : σ} {actions : List α}
    (reaches : Reaches step allowed initial state)
    (executed : execute step allowed state actions = some final) :
    Reaches step allowed initial final := by
  induction actions generalizing state with
  | nil =>
      cases executed
      exact reaches
  | cons action rest inductionHypothesis =>
      rw [execute] at executed
      split at executed
      · rename_i meets
        obtain ⟨next, taken, later⟩ := Option.bind_eq_some_iff.mp executed
        exact inductionHypothesis (.step reaches meets taken) later
      · cases executed

/-- Evaluate a property of the state a run ends in. -/
theorem exists_reaches_of_execute
    {property : σ → Prop} [DecidablePred property] (actions : List α)
    (executed :
      (execute step allowed initial actions).any
        (fun final => property final) = true) :
    ∃ final, Reaches step allowed initial final ∧ property final := by
  cases ended : execute step allowed initial actions with
  | none =>
      rw [ended] at executed
      cases executed
  | some final =>
      rw [ended] at executed
      exact ⟨final, Reaches.start.of_execute ended,
        of_decide_eq_true executed⟩

end Execution

/-! ## History variables -/

/-- Run the system and collect what `observe` sees of each step. -/
def monitor (step : σ → α → Option σ) (observe : σ → α → σ → List β) :
    σ × List β → α → Option (σ × List β) :=
  fun (state, seen) action =>
    (step state action).map fun next =>
      (next, seen ++ observe state action next)

theorem monitor_eq_some
    {step : σ → α → Option σ} {observe : σ → α → σ → List β}
    {before after : σ × List β} {action : α} :
    monitor step observe before action = some after ↔
      step before.1 action = some after.1 ∧
        after.2 = before.2 ++ observe before.1 action after.1 := by
  obtain ⟨state, seen⟩ := before
  obtain ⟨next, later⟩ := after
  simp only [monitor, Option.map_eq_some_iff, Prod.mk.injEq]
  constructor
  · rintro ⟨reached, taken, rfl, rfl⟩
    exact ⟨taken, rfl⟩
  · rintro ⟨taken, rfl⟩
    exact ⟨next, taken, rfl, rfl⟩

/-- A monitored run is a run. -/
theorem Reaches.of_monitor
    {step : σ → α → Option σ} {observe : σ → α → σ → List β}
    {allowed : σ × List β → α → Prop} {weaker : σ → α → Prop}
    {initial final : σ × List β}
    (runs : Reaches (monitor step observe) allowed initial final)
    (weakens : ∀ before action, allowed before action →
      weaker before.1 action) :
    Reaches step weaker initial.1 final.1 := by
  induction runs with
  | start =>
      exact .start
  | step before meets taken inductionHypothesis =>
      exact .step inductionHypothesis (weakens _ _ meets)
        (monitor_eq_some.mp taken).1

/-! ## Two systems in step -/

/-- A step of both. -/
def lockstep (step : σ → α → Option σ) (states : σ × σ) (actions : α × α) :
    Option (σ × σ) :=
  (step states.1 actions.1).bind fun left =>
    (step states.2 actions.2).map fun right => (left, right)

theorem lockstep_eq_some {step : σ → α → Option σ} {states after : σ × σ}
    {actions : α × α} :
    lockstep step states actions = some after ↔
      step states.1 actions.1 = some after.1 ∧
        step states.2 actions.2 = some after.2 := by
  unfold lockstep
  cases step states.1 actions.1 with
  | none =>
      simp
  | some left =>
      cases step states.2 actions.2 with
      | none =>
          simp
      | some right =>
          simp [Prod.ext_iff]
