import Mathlib.Logic.Basic

/-!
# Programs with state and exceptions

`Effect σ ε` is the monad of programs over a mutable state `σ` that may raise
`ε`; the changes made before a raise remain.  `wp` is its weakest-precondition
semantics: one postcondition for a normal return, one for a raise.  The rules
are equivalences tagged for `simp`, so that a program is executed symbolically
by rewriting.  `Keeps` packages properties that relate the state before and
after, whichever way the program ends.
-/

/-- Programs over the state `σ` that may raise `ε`. -/
abbrev Effect (σ ε : Type) : Type → Type :=
  ExceptT ε (StateM σ)

namespace Effect

variable {σ ε α β : Type}

/-- Run a program to its result and final state. -/
def outcome (program : Effect σ ε α) (state : σ) : Except ε α × σ :=
  program.run.run state

/-- The program returns into `post` or raises into `raised`. -/
def wp (program : Effect σ ε α)
    (post : α → σ → Prop) (raised : ε → σ → Prop) (state : σ) : Prop :=
  match outcome program state with
  | (.ok value, final) => post value final
  | (.error exception, final) => raised exception final

/-- The two ways a program with a `wp` fact can have ended. -/
theorem wp_cases
    {program : Effect σ ε α} {post : α → σ → Prop}
    {raised : ε → σ → Prop} {state : σ}
    (holds : wp program post raised state) :
    (∃ value final,
      outcome program state = (.ok value, final) ∧ post value final) ∨
    ∃ exception final,
      outcome program state = (.error exception, final) ∧
        raised exception final := by
  unfold wp at holds
  rcases computed : outcome program state with ⟨exception | value, final⟩
  · rw [computed] at holds
    exact .inr ⟨exception, final, rfl, holds⟩
  · rw [computed] at holds
    exact .inl ⟨value, final, rfl, holds⟩

/-- What holds however the program ends holds of its final state. -/
theorem final_of_wp
    {program : Effect σ ε α} {property : σ → Prop} {state : σ}
    (holds : wp program (fun _ final => property final)
      (fun _ final => property final) state) :
    property (outcome program state).2 := by
  rcases wp_cases holds with
    ⟨value, final, computed, holds⟩ | ⟨exception, final, computed, holds⟩
  · rw [computed]
    exact holds
  · rw [computed]
    exact holds

theorem wp_and
    {program : Effect σ ε α} {post post' : α → σ → Prop}
    {raised raised' : ε → σ → Prop} {state : σ}
    (left : wp program post raised state)
    (right : wp program post' raised' state) :
    wp program (fun value final => post value final ∧ post' value final)
      (fun exception final =>
        raised exception final ∧ raised' exception final) state := by
  unfold wp at left right ⊢
  generalize outcome program state = result at left right ⊢
  rcases result with ⟨exception | value, final⟩
  · exact ⟨left, right⟩
  · exact ⟨left, right⟩

theorem wp_any (program : Effect σ ε α) (state : σ) :
    wp program (fun _ _ => True) (fun _ _ => True) state := by
  unfold wp
  split
  · trivial
  · trivial

/-- A program ends as it ends. -/
theorem wp_self (program : Effect σ ε α) (state : σ) :
    wp program
      (fun value final => outcome program state = (.ok value, final))
      (fun exception final => outcome program state = (.error exception, final))
      state := by
  unfold wp
  generalize outcome program state = result
  rcases result with ⟨exception | value, final⟩
  · rfl
  · rfl

theorem wp_mono
    {program : Effect σ ε α} {post post' : α → σ → Prop}
    {raised raised' : ε → σ → Prop} {state : σ}
    (holds : wp program post raised state)
    (normal : ∀ value final, post value final → post' value final)
    (exceptional :
      ∀ exception final, raised exception final →
        raised' exception final) :
    wp program post' raised' state := by
  unfold wp at holds ⊢
  generalize outcome program state = result at holds ⊢
  rcases result with ⟨exception | value, final⟩
  · exact exceptional exception final holds
  · exact normal value final holds

/-- Forget a fact about what the program returns. -/
theorem wp_left
    {program : Effect σ ε α} {post extra : α → σ → Prop}
    {raised : ε → σ → Prop} {state : σ}
    (holds :
      wp program (fun value final => post value final ∧ extra value final)
        raised state) :
    wp program post raised state :=
  wp_mono holds (fun _ _ both => both.1) fun _ _ => id

/-- What holds however the program ends, beside a fact about what it
returns. -/
theorem final_of_wp_left
    {program : Effect σ ε α} {property : σ → Prop} {extra : α → σ → Prop}
    {state : σ}
    (holds :
      wp program (fun value final => property final ∧ extra value final)
        (fun _ final => property final) state) :
    property (outcome program state).2 :=
  final_of_wp (wp_left holds)

@[simp]
theorem wp_pure
    (value : α) (post : α → σ → Prop) (raised : ε → σ → Prop)
    (state : σ) :
    wp (pure value : Effect σ ε α) post raised state ↔
      post value state :=
  Iff.rfl

@[simp]
theorem wp_throw
    (exception : ε) (post : α → σ → Prop) (raised : ε → σ → Prop)
    (state : σ) :
    wp (throw exception : Effect σ ε α) post raised state ↔
      raised exception state :=
  Iff.rfl

@[simp]
theorem wp_get
    (post : σ → σ → Prop) (raised : ε → σ → Prop) (state : σ) :
    wp (get : Effect σ ε σ) post raised state ↔ post state state :=
  Iff.rfl

@[simp]
theorem wp_set
    (next : σ) (post : PUnit → σ → Prop) (raised : ε → σ → Prop)
    (state : σ) :
    wp (set next : Effect σ ε PUnit) post raised state ↔
      post PUnit.unit next :=
  Iff.rfl

@[simp]
theorem wp_modify
    (change : σ → σ) (post : PUnit → σ → Prop)
    (raised : ε → σ → Prop) (state : σ) :
    wp (modify change : Effect σ ε PUnit) post raised state ↔
      post PUnit.unit (change state) :=
  Iff.rfl

theorem outcome_pure (value : α) (state : σ) :
    outcome (pure value : Effect σ ε α) state = (.ok value, state) :=
  rfl

theorem outcome_get (state : σ) :
    outcome (get : Effect σ ε σ) state = (.ok state, state) :=
  rfl

theorem outcome_set (next state : σ) :
    outcome (set next : Effect σ ε PUnit) state = (.ok PUnit.unit, next) :=
  rfl

theorem outcome_modify (change : σ → σ) (state : σ) :
    outcome (modify change : Effect σ ε PUnit) state =
      (.ok PUnit.unit, change state) :=
  rfl

theorem outcome_bind
    (first : Effect σ ε α) (next : α → Effect σ ε β) (state : σ) :
    outcome (first >>= next) state =
      match outcome first state with
      | (.ok value, middle) => outcome (next value) middle
      | (.error exception, middle) => (.error exception, middle) := by
  unfold outcome
  simp only [ExceptT.run_bind, StateT.run_bind]
  generalize StateT.run first.run state = result
  rcases result with ⟨_ | _, middle⟩ <;> rfl

/-- A sequence returns through both of its parts. -/
theorem outcome_bind_eq_ok
    {first : Effect σ ε α} {next : α → Effect σ ε β}
    {state final : σ} {value : β} :
    outcome (first >>= next) state = (.ok value, final) ↔
      ∃ result middle,
        outcome first state = (.ok result, middle) ∧
          outcome (next result) middle = (.ok value, final) := by
  rw [outcome_bind]
  rcases outcome first state with ⟨exception | result, middle⟩
  · simp
  · constructor
    · intro returned
      exact ⟨result, middle, rfl, returned⟩
    · rintro ⟨_, _, ⟨⟩, returned⟩
      exact returned

/-- A fallible computation answers through both of its parts. -/
theorem bind_eq_ok {first : Except ε α} {next : α → Except ε β} {value : β} :
    (first >>= next) = .ok value ↔
      ∃ result, first = .ok result ∧ next result = .ok value := by
  cases first with
  | error exception =>
      constructor
      · intro returned
        cases returned
      · rintro ⟨result, ⟨⟩, _⟩
  | ok result =>
      constructor
      · intro returned
        exact ⟨result, rfl, returned⟩
      · rintro ⟨_, ⟨⟩, returned⟩
        exact returned

@[simp]
theorem wp_bind
    (first : Effect σ ε α) (next : α → Effect σ ε β)
    (post : β → σ → Prop) (raised : ε → σ → Prop) (state : σ) :
    wp (first >>= next) post raised state ↔
      wp first (fun value middle => wp (next value) post raised middle)
        raised state := by
  unfold wp
  rw [outcome_bind]
  rcases outcome first state with ⟨_ | _, middle⟩ <;> rfl

@[simp]
theorem wp_map
    (change : α → β) (program : Effect σ ε α)
    (post : β → σ → Prop) (raised : ε → σ → Prop) (state : σ) :
    wp (change <$> program) post raised state ↔
      wp program (fun value final => post (change value) final)
        raised state := by
  rw [map_eq_pure_bind, wp_bind]
  rfl

/-- Run a program under `try`: exceptions selected by `catches` become
values, the others pass. -/
def attempt {ε' : Type} (catches : ε → Option ε')
    (program : Effect σ ε α) : Effect σ ε (Except ε' α) :=
  ExceptT.mk fun state =>
    match outcome program state with
    | (.ok value, final) => (.ok (.ok value), final)
    | (.error exception, final) =>
        match catches exception with
        | some caught => (.ok (.error caught), final)
        | none => (.error exception, final)

theorem outcome_attempt
    {ε' : Type} (catches : ε → Option ε') (program : Effect σ ε α)
    (state : σ) :
    outcome (attempt catches program) state =
      match outcome program state with
      | (.ok value, final) => (.ok (.ok value), final)
      | (.error exception, final) =>
          match catches exception with
          | some caught => (.ok (.error caught), final)
          | none => (.error exception, final) :=
  rfl

@[simp]
theorem wp_attempt
    {ε' : Type} (catches : ε → Option ε') (program : Effect σ ε α)
    (post : Except ε' α → σ → Prop) (raised : ε → σ → Prop)
    (state : σ) :
    wp (attempt catches program) post raised state ↔
      wp program (fun value final => post (.ok value) final)
        (fun exception final =>
          match catches exception with
          | some caught => post (.error caught) final
          | none => raised exception final) state := by
  unfold wp
  rw [outcome_attempt]
  rcases outcome program state with ⟨exception | value, final⟩
  · cases selected : catches exception <;> simp [selected]
  · rfl

/-- A computation without state, run for its result or its exception. -/
def fromExcept : Except ε α → Effect σ ε α
  | .ok value => pure value
  | .error exception => throw exception

theorem outcome_fromExcept (result : Except ε α) (state : σ) :
    outcome (fromExcept result) state = (result, state) := by
  cases result <;> rfl

@[simp]
theorem wp_fromExcept
    (result : Except ε α) (post : α → σ → Prop) (raised : ε → σ → Prop)
    (state : σ) :
    wp (fromExcept result) post raised state ↔
      match result with
      | .ok value => post value state
      | .error exception => raised exception state := by
  cases result <;> exact Iff.rfl

section Keeps

variable (related : σ → σ → Prop)

/-- However the program ends, its final state is related to its first. -/
def Keeps (program : Effect σ ε α) : Prop :=
  ∀ state, related state (outcome program state).2

variable {related}

theorem Keeps.wp
    {program : Effect σ ε α} (keeps : Keeps related program)
    (state : σ) :
    wp program (fun _ final => related state final)
      (fun _ final => related state final) state := by
  have kept := keeps state
  unfold Effect.wp
  generalize outcome program state = result at kept ⊢
  rcases result with ⟨exception | value, final⟩
  · exact kept
  · exact kept

theorem keeps_pure (refl : ∀ state, related state state) (value : α) :
    Keeps related (pure value : Effect σ ε α) :=
  fun state => refl state

theorem keeps_throw (refl : ∀ state, related state state)
    (exception : ε) :
    Keeps related (throw exception : Effect σ ε α) :=
  fun state => refl state

theorem keeps_get (refl : ∀ state, related state state) :
    Keeps related (get : Effect σ ε σ) :=
  fun state => refl state

theorem keeps_modify {change : σ → σ}
    (step : ∀ state, related state (change state)) :
    Keeps related (modify change : Effect σ ε PUnit) :=
  step

theorem keeps_bind
    (trans : ∀ first second third,
      related first second → related second third → related first third)
    {first : Effect σ ε α} {next : α → Effect σ ε β}
    (keepsFirst : Keeps related first)
    (keepsNext : ∀ value, Keeps related (next value)) :
    Keeps related (first >>= next) := by
  intro state
  have beginning := keepsFirst state
  rw [outcome_bind]
  generalize outcome first state = result at beginning ⊢
  rcases result with ⟨exception | value, middle⟩
  · exact beginning
  · exact trans _ _ _ beginning (keepsNext value middle)

end Keeps

/-! ## Invariants of the state -/

section Maintains

variable (holds : σ → Prop)

/-- Started where the invariant holds, the program ends where it holds, and a
value it returns is a good one. -/
def Maintains (program : Effect σ ε α) (good : α → Prop) : Prop :=
  ∀ state, holds state →
    wp program (fun value final => holds final ∧ good value)
      (fun _ final => holds final) state

variable {holds} {program : Effect σ ε α} {good : α → Prop}

theorem Maintains.final
    (maintains : Maintains holds program good) {state : σ}
    (initially : holds state) : holds (outcome program state).2 :=
  final_of_wp <|
    wp_mono (maintains state initially) (fun _ _ => And.left)
      fun _ _ => id

theorem Maintains.value
    (maintains : Maintains holds program good) {state final : σ} {value : α}
    (initially : holds state)
    (returned : outcome program state = (.ok value, final)) : good value := by
  have result := maintains state initially
  unfold Effect.wp at result
  rw [returned] at result
  exact result.2

theorem Maintains.mono {better : α → Prop}
    (maintains : Maintains holds program good)
    (weaker : ∀ value, good value → better value) :
    Maintains holds program better :=
  fun state initially =>
    wp_mono (maintains state initially)
      (fun value _ result => ⟨result.1, weaker value result.2⟩)
      fun _ _ => id

theorem maintains_pure {value : α} (returns : good value) :
    Maintains holds (pure value : Effect σ ε α) good :=
  fun _ initially => ⟨initially, returns⟩

theorem maintains_throw (exception : ε) :
    Maintains holds (throw exception : Effect σ ε α) good :=
  fun _ initially => initially

theorem maintains_get :
    Maintains holds (get : Effect σ ε σ) holds :=
  fun _ initially => ⟨initially, initially⟩

theorem maintains_set {next : σ} (result : holds next) :
    Maintains holds (set next : Effect σ ε PUnit) fun _ => True :=
  fun _ _ => ⟨result, trivial⟩

theorem maintains_modify {change : σ → σ}
    (preserved : ∀ state, holds state → holds (change state)) :
    Maintains holds (modify change : Effect σ ε PUnit) fun _ => True :=
  fun state initially => ⟨preserved state initially, trivial⟩

theorem maintains_bind
    {first : Effect σ ε α} {next : α → Effect σ ε β} {better : β → Prop}
    (maintainsFirst : Maintains holds first good)
    (maintainsNext : ∀ value, good value →
      Maintains holds (next value) better) :
    Maintains holds (first >>= next) better := by
  intro state initially
  rw [wp_bind]
  exact wp_mono (maintainsFirst state initially)
    (fun value middle result =>
      maintainsNext value result.2 middle result.1)
    fun _ _ => id

theorem maintains_attempt
    {ε' : Type} {catches : ε → Option ε'}
    (maintains : Maintains holds program good) :
    Maintains holds (attempt catches program) fun result =>
      ∀ value, result = .ok value → good value := by
  intro state initially
  rw [wp_attempt]
  apply wp_mono (maintains state initially)
  · intro value final result
    exact ⟨result.1, fun _ same => by cases same; exact result.2⟩
  · intro exception final result
    cases catches exception with
    | some caught =>
        exact ⟨result, fun _ same => by cases same⟩
    | none =>
        exact result

end Maintains

section Projects

variable {α' β' : Type} {project : σ → σ} {view : α → α'}

/-- On projected states the second program does what the first one does, seen
through the projection. -/
def Projects (project : σ → σ) (view : α → α') (first : Effect σ ε α)
    (second : Effect σ ε α') : Prop :=
  ∀ state,
    outcome second (project state) =
      ((outcome first state).1.map view, project (outcome first state).2)

theorem Projects.same {first second : Effect σ ε α}
    (projects : Projects project id first second) (state : σ) :
    outcome second (project state) =
      ((outcome first state).1, project (outcome first state).2) := by
  rw [projects state]
  rcases outcome first state with ⟨exception | value, final⟩
  · rfl
  · rfl

theorem projects_pure (value : α) :
    Projects project view (pure value : Effect σ ε α) (pure (view value)) :=
  fun _ => rfl

theorem projects_throw (exception : ε) :
    Projects project view (throw exception : Effect σ ε α)
      (throw exception) :=
  fun _ => rfl

theorem projects_get :
    Projects project project (get : Effect σ ε σ) get :=
  fun _ => rfl

theorem projects_set (next : σ) :
    Projects project id (set next : Effect σ ε PUnit)
      (set (project next)) :=
  fun _ => rfl

theorem projects_modify {change change' : σ → σ}
    (commutes : ∀ state, project (change state) = change' (project state)) :
    Projects project id (modify change : Effect σ ε PUnit)
      (modify change') := by
  intro state
  rw [outcome_modify, outcome_modify, ← commutes]
  rfl

theorem projects_bind
    {first : Effect σ ε α} {first' : Effect σ ε α'} {view' : β → β'}
    {next : α → Effect σ ε β} {next' : α' → Effect σ ε β'}
    (projectsFirst : Projects project view first first')
    (projectsNext : ∀ value,
      Projects project view' (next value) (next' (view value))) :
    Projects project view' (first >>= next) (first' >>= next') := by
  intro state
  rw [outcome_bind, outcome_bind, projectsFirst state]
  rcases outcome first state with ⟨exception | value, middle⟩
  · rfl
  · exact projectsNext value middle

theorem projects_attempt
    {ε' : Type} {catches : ε → Option ε'} {first : Effect σ ε α}
    {second : Effect σ ε α'} (projects : Projects project view first second) :
    Projects project (Except.map view) (attempt catches first)
      (attempt catches second) := by
  intro state
  rw [outcome_attempt, outcome_attempt, projects state]
  rcases outcome first state with ⟨exception | value, final⟩
  · simp only [Except.map]
    cases catches exception with
    | some caught =>
        rfl
    | none =>
        rfl
  · rfl

theorem projects_ite {condition : Prop} [Decidable condition]
    {first second : Effect σ ε α} {first' second' : Effect σ ε α'}
    (positive : Projects project view first first')
    (negative : Projects project view second second') :
    Projects project view (if condition then first else second)
      (if condition then first' else second') := by
  split
  · exact positive
  · exact negative

end Projects

/-! ## Two programs side by side -/

section Pairs

variable {α' β' : Type}

/-- From these two states both programs return, into `post`, or both raise the
same exception, into `raised`. -/
def wpBoth (first : Effect σ ε α) (second : Effect σ ε α')
    (post : α → α' → σ → σ → Prop) (raised : ε → σ → σ → Prop)
    (left right : σ) : Prop :=
  match outcome first left, outcome second right with
  | (.ok value, final), (.ok other, final') => post value other final final'
  | (.error exception, final), (.error other, final') =>
      exception = other ∧ raised exception final final'
  | _, _ => False

/-- The two ways a pair of programs can have ended. -/
theorem wpBoth_cases
    {first : Effect σ ε α} {second : Effect σ ε α'}
    {post : α → α' → σ → σ → Prop} {raised : ε → σ → σ → Prop}
    {left right : σ} (holds : wpBoth first second post raised left right) :
    (∃ value other final final',
      outcome first left = (.ok value, final) ∧
        outcome second right = (.ok other, final') ∧
          post value other final final') ∨
    ∃ exception final final',
      outcome first left = (.error exception, final) ∧
        outcome second right = (.error exception, final') ∧
          raised exception final final' := by
  unfold wpBoth at holds
  generalize outcome first left = result at holds ⊢
  generalize outcome second right = result' at holds ⊢
  rcases result with ⟨exception | value, final⟩
  · rcases result' with ⟨other | value', final'⟩
    · obtain ⟨rfl, holds⟩ := holds
      exact .inr ⟨exception, final, final', rfl, rfl, holds⟩
    · cases holds
  · rcases result' with ⟨other | value', final'⟩
    · cases holds
    · exact .inl ⟨value, value', final, final', rfl, rfl, holds⟩

variable (post : α → α' → σ → σ → Prop) (raised : ε → σ → σ → Prop)
  (left right : σ)

@[simp]
theorem wpBoth_throw (exception : ε) :
    wpBoth (throw exception : Effect σ ε α) (throw exception) post raised left
        right ↔
      raised exception left right :=
  ⟨And.right, fun holds => ⟨rfl, holds⟩⟩

@[simp]
theorem wpBoth_get (post : σ → σ → σ → σ → Prop) :
    wpBoth (get : Effect σ ε σ) get post raised left right ↔
      post left right left right :=
  Iff.rfl

@[simp]
theorem wpBoth_set (next next' : σ) (post : PUnit → PUnit → σ → σ → Prop) :
    wpBoth (set next : Effect σ ε PUnit) (set next') post raised left right ↔
      post PUnit.unit PUnit.unit next next' :=
  Iff.rfl

@[simp]
theorem wpBoth_modify (change change' : σ → σ)
    (post : PUnit → PUnit → σ → σ → Prop) :
    wpBoth (modify change : Effect σ ε PUnit) (modify change') post raised left
        right ↔
      post PUnit.unit PUnit.unit (change left) (change' right) :=
  Iff.rfl

theorem wpBoth_bind {first : Effect σ ε α} {second : Effect σ ε α'}
    {next : α → Effect σ ε β} {next' : α' → Effect σ ε β'}
    {post : β → β' → σ → σ → Prop} {raised : ε → σ → σ → Prop}
    {left right : σ}
    (holds :
      wpBoth first second
        (fun value other => wpBoth (next value) (next' other) post raised)
        raised left right) :
    wpBoth (first >>= next) (second >>= next') post raised left right := by
  rcases wpBoth_cases holds with
    ⟨value, other, final, final', computed, computed', later⟩ |
      ⟨exception, final, final', computed, computed', later⟩
  · unfold wpBoth
    rw [outcome_bind, outcome_bind, computed, computed']
    exact later
  · unfold wpBoth
    rw [outcome_bind, outcome_bind, computed, computed']
    exact ⟨rfl, later⟩

theorem wpBoth_attempt
    {ε' : Type} {catches : ε → Option ε'} {first : Effect σ ε α}
    {second : Effect σ ε α'}
    {post : Except ε' α → Except ε' α' → σ → σ → Prop}
    {raised : ε → σ → σ → Prop} {left right : σ}
    (holds :
      wpBoth first second (fun value other => post (.ok value) (.ok other))
        (fun exception final final' =>
          match catches exception with
          | some caught => post (.error caught) (.error caught) final final'
          | none => raised exception final final') left right) :
    wpBoth (attempt catches first) (attempt catches second) post raised left
      right := by
  rcases wpBoth_cases holds with
    ⟨value, other, final, final', computed, computed', later⟩ |
      ⟨exception, final, final', computed, computed', later⟩
  · unfold wpBoth
    rw [outcome_attempt, outcome_attempt, computed, computed']
    exact later
  · unfold wpBoth
    rw [outcome_attempt, outcome_attempt, computed, computed']
    cases selected : catches exception with
    | some caught =>
        simpa [selected] using later
    | none =>
        simpa [selected] using later

theorem wpBoth_ite {condition : Prop} [Decidable condition]
    {first second : Effect σ ε α} {first' second' : Effect σ ε α'}
    {post : α → α' → σ → σ → Prop} {raised : ε → σ → σ → Prop}
    {left right : σ}
    (positive : condition → wpBoth first first' post raised left right)
    (negative : ¬ condition → wpBoth second second' post raised left right) :
    wpBoth (if condition then first else second)
      (if condition then first' else second') post raised left right := by
  split
  · rename_i holds
    exact positive holds
  · rename_i fails
    exact negative fails

end Pairs

end Effect
