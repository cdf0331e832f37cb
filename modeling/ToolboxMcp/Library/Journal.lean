import ToolboxMcp.Library.Effect
import ToolboxMcp.Library.Runs

/-!
# Programs that can be stopped

A program that changes a persistent state may be stopped between any two of its
changes, and what it has done until then remains.  `Journal` keeps every state
the program has passed through; a stop leaves one of them behind.  An attempt
at an action is finished or stopped.  If every state on the way of an action
still stands for what was before or already for what comes after, then a whole
run of attempts amounts to doing some of the actions in their order, among
them all that were finished.
-/

universe u

/-- A state and the states before it, the last one at the end. -/
structure Journal (σ : Type) where
  now : σ
  past : List σ := []

namespace Journal

variable {σ : Type} {journal : Journal σ} {crash weaker : σ → Prop}

/-- What a stop can have left behind. -/
def states (journal : Journal σ) : List σ :=
  journal.past ++ [journal.now]

def move (journal : Journal σ) (next : σ) : Journal σ where
  now := next
  past := journal.states

def moves (journal : Journal σ) (path : List σ) : Journal σ :=
  path.foldl move journal

theorem states_move (journal : Journal σ) (next : σ) :
    (journal.move next).states = journal.states ++ [next] :=
  rfl

theorem states_moves (journal : Journal σ) (path : List σ) :
    (journal.moves path).states = journal.states ++ path := by
  induction path generalizing journal with
  | nil =>
      exact (List.append_nil _).symm
  | cons next rest inductionHypothesis =>
      have later := inductionHypothesis (journal.move next)
      rw [states_move, List.append_assoc] at later
      exact later

theorem now_moves (journal : Journal σ) (path : List σ) :
    (journal.moves path).now = path.getLast?.getD journal.now := by
  induction path generalizing journal with
  | nil =>
      rfl
  | cons next rest inductionHypothesis =>
      have later := inductionHypothesis (journal.move next)
      change (moves (journal.move next) rest).now = _
      rw [later, List.getLast?_cons]
      rfl

/-- Wherever the program is stopped, the state is as described. -/
def Within (crash : σ → Prop) (journal : Journal σ) : Prop :=
  ∀ state ∈ journal.states, crash state

theorem Within.now (within : journal.Within crash) : crash journal.now :=
  within journal.now (List.mem_append_right _ (List.mem_singleton_self _))

theorem within_start {state : σ} (holds : crash state) :
    (Journal.mk state []).Within crash := by
  intro left member
  rw [List.mem_singleton.mp member]
  exact holds

theorem Within.mono (within : journal.Within crash)
    (weaken : ∀ state, crash state → weaker state) :
    journal.Within weaker :=
  fun state member => weaken state (within state member)

theorem Within.moves (within : journal.Within crash) {path : List σ}
    (passes : ∀ state ∈ path, crash state) :
    (journal.moves path).Within crash := by
  intro state member
  rw [states_moves] at member
  rcases List.mem_append.mp member with earlier | later
  · exact within state earlier
  · exact passes state later

end Journal

/-- Programs over a persistent state. -/
abbrev Stoppable (σ ε : Type) : Type → Type :=
  Effect (Journal σ) ε

namespace Stoppable

open Effect

variable {σ ε α β : Type}

/-- The present state. -/
def look : Stoppable σ ε σ := do
  return (← get).now

/-- Pass through the states of a path that starts from the present one. -/
def pass (path : σ → List σ) : Stoppable σ ε PUnit :=
  modify fun journal => journal.moves (path journal.now)

@[simp]
theorem wp_look (post : σ → Journal σ → Prop)
    (raised : ε → Journal σ → Prop) (journal : Journal σ) :
    wp (look : Stoppable σ ε σ) post raised journal ↔
      post journal.now journal :=
  Iff.rfl

@[simp]
theorem wp_pass (path : σ → List σ) (post : PUnit → Journal σ → Prop)
    (raised : ε → Journal σ → Prop) (journal : Journal σ) :
    wp (pass path : Stoppable σ ε PUnit) post raised journal ↔
      post PUnit.unit (journal.moves (path journal.now)) :=
  Iff.rfl

/-- The journal of a program that starts in this state. -/
def record (program : Stoppable σ ε α) (state : σ) : Journal σ :=
  (outcome program ⟨state, []⟩).2

/-- The program returns into `post`, and stopped anywhere it leaves a state
that meets `crash`. -/
theorem record_of_wp {program : Stoppable σ ε α} {state : σ}
    {post crash : σ → Prop}
    (holds :
      wp program
        (fun _ after => post after.now ∧ after.Within crash)
        (fun _ _ => False) ⟨state, []⟩) :
    post (record program state).now ∧ (record program state).Within crash := by
  rcases wp_cases holds with
    ⟨value, final, computed, ends⟩ | ⟨_, _, _, impossible⟩
  · unfold record
    rw [computed]
    exact ends
  · exact impossible.elim

end Stoppable

/-! ## Simulation -/

namespace Effect

variable {σ τ ε α β : Type} {related : σ → τ → Prop} {state : σ} {other : τ}

/-- From these states both programs end alike, and in related states. -/
def Simulates (related : σ → τ → Prop) (first : Effect σ ε α)
    (second : Effect τ ε α) (state : σ) (other : τ) : Prop :=
  (outcome first state).1 = (outcome second other).1 ∧
    related (outcome first state).2 (outcome second other).2

theorem simulates_pure (holds : related state other) (value : α) :
    Simulates related (pure value : Effect σ ε α) (pure value) state other :=
  ⟨rfl, holds⟩

theorem simulates_throw (holds : related state other) (exception : ε) :
    Simulates related (throw exception : Effect σ ε α) (throw exception)
      state other :=
  ⟨rfl, holds⟩

theorem simulates_fromExcept (holds : related state other)
    (result : Except ε α) :
    Simulates related (fromExcept result : Effect σ ε α) (fromExcept result)
      state other := by
  cases result with
  | error exception =>
      exact simulates_throw holds exception
  | ok value =>
      exact simulates_pure holds value

theorem simulates_bind {first : Effect σ ε α} {second : Effect τ ε α}
    {next : α → Effect σ ε β} {next' : α → Effect τ ε β}
    (begins : Simulates related first second state other)
    (goesOn : ∀ value middle middle', related middle middle' →
      Simulates related (next value) (next' value) middle middle') :
    Simulates related (first >>= next) (second >>= next') state other := by
  obtain ⟨same, holds⟩ := begins
  unfold Simulates
  rw [outcome_bind, outcome_bind]
  rcases computed : outcome first state with ⟨result, middle⟩
  rcases computed' : outcome second other with ⟨result', middle'⟩
  rw [computed, computed'] at same holds
  cases same
  cases result with
  | error exception =>
      exact ⟨rfl, holds⟩
  | ok value =>
      exact goesOn value middle middle' holds

theorem simulates_mapM {γ : Type} {first : γ → Effect σ ε α}
    {second : γ → Effect τ ε α} {items : List γ}
    (holds : related state other)
    (each : ∀ item middle middle', related middle middle' →
      Simulates related (first item) (second item) middle middle') :
    Simulates related (items.mapM first) (items.mapM second) state other := by
  induction items generalizing state other with
  | nil =>
      exact simulates_pure holds []
  | cons item rest inductionHypothesis =>
      rw [List.mapM_cons, List.mapM_cons]
      apply simulates_bind (each item state other holds)
      intro value middle middle' still
      apply simulates_bind (inductionHypothesis still)
      intro values last last' ends
      exact simulates_pure ends (value :: values)

/-- What the second program returns and where, the first one does too. -/
theorem Simulates.returns {first : Effect σ ε α} {second : Effect τ ε α}
    (simulates : Simulates related first second state other) {value : α}
    {final' : τ} (returned : outcome second other = (.ok value, final')) :
    ∃ final, outcome first state = (.ok value, final) ∧
      related final final' := by
  obtain ⟨same, holds⟩ := simulates
  rcases computed : outcome first state with ⟨result, final⟩
  rw [computed, returned] at same holds
  cases same
  exact ⟨final, rfl, holds⟩

theorem wp_of_returns {program : Effect σ ε α} {value : α} {final : σ}
    {post : α → σ → Prop} {raised : ε → σ → Prop}
    (returned : outcome program state = (.ok value, final))
    (holds : post value final) : wp program post raised state := by
  unfold wp
  rw [returned]
  exact holds

end Effect

/-! ## Attempts -/

/-- An action is finished, or stopped after this many changes. -/
inductive Attempt (α : Type u) where
  | finished (action : α)
  | stopped (action : α) (changes : Nat)

namespace Attempt

variable {α : Type u}

def action : Attempt α → α
  | finished action => action
  | stopped action _ => action

/-- The actions that took effect: each finished one and any of the others. -/
inductive Taken : List (Attempt α) → List α → Prop where
  | nil : Taken [] []
  | finished {attempts : List (Attempt α)} {taken : List α} (action : α)
      (later : Taken attempts taken) :
      Taken (.finished action :: attempts) (action :: taken)
  | kept {attempts : List (Attempt α)} {taken : List α} (action : α)
      (changes : Nat) (later : Taken attempts taken) :
      Taken (.stopped action changes :: attempts) (action :: taken)
  | lost {attempts : List (Attempt α)} {taken : List α} (action : α)
      (changes : Nat) (later : Taken attempts taken) :
      Taken (.stopped action changes :: attempts) taken

theorem Taken.append {first second : List (Attempt α)} {early late : List α}
    (begins : Taken first early) (ends : Taken second late) :
    Taken (first ++ second) (early ++ late) := by
  induction begins with
  | nil =>
      exact ends
  | finished action later inductionHypothesis =>
      exact .finished action inductionHypothesis
  | kept action changes later inductionHypothesis =>
      exact .kept action changes inductionHypothesis
  | lost action changes later inductionHypothesis =>
      exact .lost action changes inductionHypothesis

end Attempt

section Attempts

variable {σ ε χ : Type} {α : Type u}

/-- The state an attempt leaves behind. -/
def Attempt.leaves (perform : α → Stoppable σ ε Unit) (state : σ) :
    Attempt α → Option σ
  | .finished action => some (Stoppable.record (perform action) state).now
  | .stopped action changes =>
      (Stoppable.record (perform action) state).states[changes]?

/-- The attempts of a run are collected. -/
def attempting (perform : α → Stoppable σ ε Unit) :
    σ × List (Attempt α) → Attempt α → Option (σ × List (Attempt α)) :=
  monitor (Attempt.leaves perform) fun _ attempt _ => [attempt]

theorem reaches_attempt {perform : α → Stoppable σ ε Unit}
    {allowed : σ × List (Attempt α) → Attempt α → Prop} {initial state left : σ}
    {seen : List (Attempt α)}
    (before :
      Reaches (attempting perform) allowed (initial, []) (state, seen))
    (attempt : Attempt α) (meets : allowed (state, seen) attempt)
    (leaves : attempt.leaves perform state = some left) :
    Reaches (attempting perform) allowed (initial, [])
      (left, seen ++ [attempt]) :=
  before.step meets (monitor_eq_some.mpr ⟨leaves, rfl⟩)

/-- What every action keeps wherever it is stopped, a run keeps. -/
theorem holds_of_attempts {perform : α → Stoppable σ ε Unit}
    {holds : σ → Prop} {allowed : σ × List (Attempt α) → Attempt α → Prop}
    {initial final : σ} {attempts : List (Attempt α)}
    (keeps : ∀ action state, holds state →
      (Stoppable.record (perform action) state).Within holds)
    (initially : holds initial)
    (reaches :
      Reaches (attempting perform) allowed (initial, []) (final, attempts)) :
    holds final := by
  refine @Reaches.invariant _ _ _ _ _ _ (fun state => holds state.1) reaches
    initially ?_
  rintro ⟨before, earlier⟩ attempt ⟨after, later⟩ still _ moved
  obtain ⟨left, _⟩ := monitor_eq_some.mp moved
  cases attempt with
  | finished action =>
      cases left
      exact (keeps action before still).now
  | stopped action changes =>
      exact keeps action before still after (List.mem_of_getElem? left)

/-- If a finished action takes effect and a stopped one takes effect or leaves
everything as it was, then a run amounts to the actions that took effect. -/
theorem taken_of_attempts {perform : α → Stoppable σ ε Unit}
    {stands : χ → σ → Prop} {apply : χ → α → χ} {intact : σ → Prop}
    {good : α → Prop} {start : χ} {initial final : σ}
    {attempts : List (Attempt α)}
    (effect : ∀ value action state, good action → stands value state →
      stands (apply value action)
          (Stoppable.record (perform action) state).now ∧
        (Stoppable.record (perform action) state).Within fun left =>
          intact left → stands value left ∨ stands (apply value action) left)
    (initially : stands start initial)
    (reaches :
      Reaches (attempting perform)
        (fun before attempt => good attempt.action ∧
          ∀ left ∈ attempt.leaves perform before.1, intact left)
        (initial, []) (final, attempts)) :
    ∃ taken, Attempt.Taken attempts taken ∧
      stands (taken.foldl apply start) final := by
  refine @Reaches.invariant _ _ _ _ _ _ (fun state =>
    ∃ taken, Attempt.Taken state.2 taken ∧
      stands (taken.foldl apply start) state.1) reaches ?_ ?_
  · exact ⟨[], .nil, initially⟩
  · rintro ⟨before, earlier⟩ attempt ⟨after, later⟩ ⟨taken, counted, holds⟩
      ⟨proper, unharmed⟩ moved
    obtain ⟨left, grown⟩ := monitor_eq_some.mp moved
    simp only at left grown counted holds unharmed
    subst grown
    have sound := unharmed after left
    cases attempt with
    | finished action =>
        obtain ⟨finishes, _⟩ := effect _ action before proper holds
        cases left
        refine ⟨taken ++ [action], counted.append (.finished action .nil), ?_⟩
        rw [List.foldl_append]
        exact finishes
    | stopped action changes =>
        obtain ⟨_, within⟩ := effect _ action before proper holds
        have passed := within after (List.mem_of_getElem? left)
        rcases passed sound with unchanged | changed
        · refine ⟨taken ++ [], counted.append (.lost action changes .nil), ?_⟩
          rw [List.append_nil]
          exact unchanged
        · refine ⟨taken ++ [action],
            counted.append (.kept action changes .nil), ?_⟩
          rw [List.foldl_append]
          exact changed

end Attempts
