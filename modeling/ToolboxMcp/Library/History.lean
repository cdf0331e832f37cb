import Mathlib.Data.List.Basic

/-!
# The most recent event of a history

A history is a list of events, the latest last.  `since marks` is its part
after the last mark, newest event first, and `mostRecent marks concerns` is the
latest event of that part that concerns a given matter.
-/

namespace History

universe u

variable {β : Type u}

/-- The events after the last one that `marks`, newest first. -/
def since (marks : β → Bool) (history : List β) : List β :=
  history.reverse.takeWhile fun event => !marks event

def mostRecent (marks concerns : β → Bool) (history : List β) : Option β :=
  (since marks history).find? concerns

@[simp]
theorem mostRecent_nil (marks concerns : β → Bool) :
    mostRecent marks concerns [] = none :=
  rfl

theorem since_concat (marks : β → Bool) (history : List β) (event : β) :
    since marks (history ++ [event]) =
      if marks event then [] else event :: since marks history := by
  cases marked : marks event with
  | true =>
      simp [since, marked]
  | false =>
      simp [since, marked]

/-- A later event hides the earlier ones exactly when it is a mark or concerns
the same matter. -/
theorem mostRecent_concat
    (marks concerns : β → Bool) (history : List β) (event : β) :
    mostRecent marks concerns (history ++ [event]) =
      if marks event then none
      else if concerns event then some event
      else mostRecent marks concerns history := by
  unfold mostRecent
  rw [since_concat]
  split
  · rfl
  · cases hides : concerns event with
    | true =>
        simp [hides]
    | false =>
        simp [hides]

end History
