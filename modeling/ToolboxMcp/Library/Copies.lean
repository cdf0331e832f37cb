import ToolboxMcp.Library.Runs

/-!
# Copies kept up to date by announcements

A client keeps a copy of what a system shows, and takes a new one whenever the
system announces a change.  Steps may change what is shown without announcing
it at once, as long as the system then owes the announcement.
-/

universe u v w

namespace Copies

variable {σ : Type u} {α : Type v} {β : Type w}

/-- The copy taken at a step, if the step announces anything. -/
def fetched (shows : σ → β) (announces : σ → α → σ → Bool)
    (before : σ) (action : α) (after : σ) : List β :=
  if announces before action after then [shows after] else []

/-- The last copy is what is shown now, or an announcement is owed. -/
def Current (shows : σ → β) (owes : σ → Prop) (state : σ) (copies : List β) :
    Prop :=
  copies.getLast? = some (shows state) ∨ owes state

/-- A step that changes nothing in silence. -/
inductive Honest (shows : σ → β) (owes : σ → Prop)
    (announces : σ → α → σ → Bool) (before : σ) (action : α) (after : σ) :
    Prop where
  | announced (announced : announces before action after = true)
  | indebted (indebted : owes after)
  | unchanged (same : shows after = shows before)
      (still : owes before → owes after)

variable {shows : σ → β} {owes : σ → Prop} {announces : σ → α → σ → Bool}

theorem Current.step {before after : σ} {action : α} {copies : List β}
    (current : Current shows owes before copies)
    (honest : Honest shows owes announces before action after) :
    Current shows owes after
      (copies ++ fetched shows announces before action after) := by
  unfold fetched
  cases told : announces before action after with
  | true =>
      left
      rw [if_pos rfl, List.getLast?_concat]
  | false =>
      rw [if_neg Bool.false_ne_true, List.append_nil]
      cases honest with
      | announced announced =>
          rw [told] at announced
          cases announced
      | indebted indebted =>
          exact .inr indebted
      | unchanged same still =>
          rcases current with current | indebted
          · left
            rw [same]
            exact current
          · exact .inr (still indebted)

/-- In a run of honest steps the last copy stays current. -/
theorem current_of_reaches {step : σ → α → Option σ}
    {allowed : σ → α → Prop} {holds : σ → Prop} {initial final : σ}
    {taken copies : List β}
    (reaches :
      Reaches (monitor step (fetched shows announces))
        (fun before action => allowed before.1 action)
        (initial, taken) (final, copies))
    (held : holds initial) (current : Current shows owes initial taken)
    (kept : ∀ before action after, holds before → allowed before action →
      step before action = some after →
        holds after ∧ Honest shows owes announces before action after) :
    holds final ∧ Current shows owes final copies := by
  have throughout :
      holds (final, copies).1 ∧
        Current shows owes (final, copies).1 (final, copies).2 := by
    refine @Reaches.invariant _ _ _ _ _ _
      (fun state => holds state.1 ∧ Current shows owes state.1 state.2)
      reaches ⟨held, current⟩ ?_
    intro before action after both meets moved
    obtain ⟨stepped, grown⟩ := monitor_eq_some.mp moved
    obtain ⟨still, honest⟩ := kept _ _ _ both.1 meets stepped
    rw [grown]
    exact ⟨still, both.2.step honest⟩
  exact throughout

end Copies
