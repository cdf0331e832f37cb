import ToolboxMcp.Library.Effect

/-!
# What a program returns

`ReturnsOnly` looks at the value of a program alone: whatever state it starts in, a
value it returns is a good one.  The rules follow the program's shape, and the
effects whose values do not matter are passed over by `ReturnsOnly.after`.
-/

namespace Effect

variable {σ ε α β : Type}

/-- Every value the program returns is good. -/
def ReturnsOnly (program : Effect σ ε α) (good : α → Prop) : Prop :=
  ∀ state value, (outcome program state).1 = .ok value → good value

variable {program : Effect σ ε α} {good : α → Prop}

theorem ReturnsOnly.mono {better : α → Prop} (yields : ReturnsOnly program good)
    (weaker : ∀ value, good value → better value) :
    ReturnsOnly program better :=
  fun state value returned => weaker value (yields state value returned)

theorem returnsOnly_pure {value : α} (returns : good value) :
    ReturnsOnly (pure value : Effect σ ε α) good := by
  rintro state other returned
  cases returned
  exact returns

theorem returnsOnly_throw (exception : ε) :
    ReturnsOnly (throw exception : Effect σ ε α) good := by
  rintro state value returned
  cases returned

theorem returnsOnly_bind {next : α → Effect σ ε β} {better : β → Prop}
    (yieldsFirst : ReturnsOnly program good)
    (yieldsNext : ∀ value, good value → ReturnsOnly (next value) better) :
    ReturnsOnly (program >>= next) better := by
  intro state value returned
  have first := yieldsFirst state
  rw [outcome_bind] at returned
  generalize outcome program state = result at first returned
  rcases result with ⟨exception | middle, after⟩
  · cases returned
  · exact yieldsNext middle (first middle rfl) after value returned

/-- The first effect is of no account. -/
theorem ReturnsOnly.after {next : α → Effect σ ε β} {better : β → Prop}
    (yields : ∀ value, ReturnsOnly (next value) better) :
    ReturnsOnly (program >>= next) better :=
  have anything : ReturnsOnly program fun _ => True := fun _ _ _ => trivial
  returnsOnly_bind anything fun value _ => yields value

end Effect
