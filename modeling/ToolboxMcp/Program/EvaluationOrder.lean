import ToolboxMcp.Program.Python
import ToolboxMcp.Program.Relations
import ToolboxMcp.Program.Results

/-!
# The evaluator follows Python's order

In runs that reach no place where the evaluator leaves it.  An evaluation that
has made no call leaves the state alone and depends on the variables only, by
either set of rules, so that it can be moved past another one; that is all the
evaluator's own order asks for.
-/

namespace ToolboxMcp

open Effect

/-! ## Evaluation without calls -/

/-- The computation binds no variable; when it returns without having made a
call, it has changed nothing, and returns the same wherever the variables are
the same. -/
def Still {α : Type} (program : ProgramM α) : Prop :=
  ∀ state value after, outcome program state = (.ok value, after) →
    after.environment = state.environment ∧
      (after = state ∨
        state.invocations.length < after.invocations.length) ∧
      (after = state → ∀ other : ProgramState,
        other.environment = state.environment →
          outcome program other = (.ok value, other))

namespace Still

variable {α β : Type}

theorem returns (value : α) : Still (pure value : ProgramM α) := by
  rintro state _ _ ⟨⟩
  exact ⟨rfl, .inl rfl, fun _ _ _ => rfl⟩

theorem raises (error : PyError) :
    Still (throw (.error error) : ProgramM α) := by
  rintro state _ _ ⟨⟩

theorem sequence {first : ProgramM α} {next : α → ProgramM β}
    (begins : Still first) (goesOn : ∀ value, Still (next value)) :
    Still (first >>= next) := by
  intro state value after returned
  obtain ⟨result, middle, one, two⟩ := outcome_bind_eq_ok.mp returned
  obtain ⟨kept, moved, again⟩ := begins state result middle one
  obtain ⟨keptLater, movedLater, againLater⟩ :=
    goesOn result middle value after two
  refine ⟨keptLater.trans kept, ?_, ?_⟩
  · rcases moved with rfl | longer
    · exact movedLater
    · right
      rcases movedLater with rfl | longerLater
      · exact longer
      · exact longer.trans longerLater
  · intro unmoved other same
    subst unmoved
    have stays : middle = after := by
      rcases moved with still | longer
      · exact still
      · rcases movedLater with still | longerLater
        · exact still.symm
        · exact absurd (longer.trans longerLater) (Nat.lt_irrefl _)
    subst stays
    exact outcome_bind_eq_ok.mpr
      ⟨result, other, again rfl other same, againLater rfl other same⟩

theorem computes (result : Except PyError α) : Still (computed result) := by
  cases result with
  | ok value =>
      exact returns value
  | error error =>
      exact raises error

theorem reads (id : String) : Still (lookupName id) := by
  intro state value after returned
  unfold lookupName at returned
  rw [outcome_bind, outcome_get] at returned
  simp only at returned
  cases found : state.environment.get id with
  | none =>
      rw [found] at returned
      cases returned
  | some stored =>
      rw [found] at returned
      cases returned
      refine ⟨rfl, .inl rfl, fun _ other same => ?_⟩
      unfold lookupName
      rw [outcome_bind, outcome_get]
      simp only [same, found]
      rfl

theorem names (functionName : String) : Still (isBound functionName) := by
  rintro state _ _ ⟨⟩
  refine ⟨rfl, .inl rfl, fun _ other same => ?_⟩
  unfold isBound
  rw [outcome_bind, outcome_get]
  simp only [same]
  rfl

theorem invokes [PythonStack] (runtime : ToolProgramRuntime)
    (positional : List PyValue) (keywords : Dict String PyValue) :
    Still (callToolBuiltin runtime positional keywords) := by
  intro state value after returned
  obtain ⟨invocation, invoked⟩ := invoked_of_callToolBuiltin returned
  obtain ⟨result, _, _, _, _, rfl⟩ := answered_of_invokeTool invoked
  have longer : state.invocations.length <
      (state.invocations ++ [invocation]).length := by
    simp
  refine ⟨rfl, .inr longer, fun unmoved => ?_⟩
  have same := congrArg (fun state => state.invocations.length) unmoved
  exact absurd same (Nat.ne_of_gt longer)

variable {program : ProgramM α} {state after : ProgramState} {value : α}

theorem unmoved (still : Still program)
    (returned : outcome program state = (.ok value, after))
    (quiet : after.invocations = state.invocations) : after = state := by
  rcases (still state value after returned).2.1 with same | longer
  · exact same
  · rw [quiet] at longer
    exact absurd longer (Nat.lt_irrefl _)

/-- It gives the same value in another state with these variables. -/
theorem moved (still : Still program)
    (returned : outcome program state = (.ok value, state))
    {other : ProgramState} (same : other.environment = state.environment) :
    outcome program other = (.ok value, other) :=
  (still state value state returned).2.2 rfl other same

theorem environment (still : Still program)
    (returned : outcome program state = (.ok value, after)) :
    after.environment = state.environment :=
  (still state value after returned).1

end Still

section Rules

variable [PythonArithmetic]

def still (runtime : ToolProgramRuntime) :
    EvaluationRelation runtime (fun _ => True) where
  rel program _ := Still program
  returns := Still.returns
  sequence first next := Still.sequence first next
  raises := Still.raises
  reads _ := Still.reads _
  invokes _ := Still.invokes runtime

variable (runtime : ToolProgramRuntime) (tupleOf : List PyValue → PyValue)

theorem still_evalExpression (expression : Expr) :
    Still (evalExpression runtime expression) :=
  (still runtime).rel_evalExpression expression fun _ _ => trivial

theorem still_evalKeys (entries : List (Expr × Expr)) :
    Still (evalKeys runtime entries) :=
  (still runtime).rel_evalKeys entries fun _ _ => trivial

theorem still_evalComparators (links : List (ComparisonOperator × Expr)) :
    Still (evalComparators runtime links) :=
  (still runtime).rel_evalComparators links fun _ _ => trivial

theorem still_applyComparison (op : ComparisonOperator)
    (left right : PyValue) : Still (applyComparison op left right) := by
  unfold applyComparison
  split
  · exact Still.raises _
  · exact Still.computes _

/-! ## Python's rules make nothing else -/

theorem still_applyNamed (functionName : String) (shadowed : Bool)
    (positional : List PyValue) (keywords : List (String × PyValue)) :
    Still (Python.applyNamed runtime functionName shadowed positional
      keywords) := by
  unfold Python.applyNamed
  split
  · exact Still.raises _
  · split
    · exact (still runtime).rel_applyFunction functionName trivial positional
        (keywordDict keywords)
    · exact Still.raises _

mutual

theorem still_evaluate : (expression : Expr) →
    Still (Python.evaluate runtime tupleOf expression)
  | .constant value => Still.returns value
  | .name id => Still.reads id
  | .dict entries => by
      rw [Python.evaluate]
      exact Still.sequence (still_evaluateEntries entries) fun _ =>
        Still.computes _
  | .list elts => by
      rw [Python.evaluate]
      exact Still.sequence (still_evaluateAll elts) fun _ => Still.returns _
  | .tuple elts => by
      rw [Python.evaluate]
      exact Still.sequence (still_evaluateAll elts) fun _ => Still.returns _
  | .attribute value attr => by
      rw [Python.evaluate]
      exact Still.sequence (still_evaluate value) fun base =>
        (still runtime).rel_attributeValue base attr
  | .subscript value key => by
      rw [Python.evaluate]
      exact Still.sequence (still_evaluate value) fun base =>
        Still.sequence
          (@EvaluationRelation.rel_evalSlice _ runtime _ (still runtime) key _
            (Python.evaluate runtime tupleOf key) (still_evaluate key))
          fun found => (still runtime).rel_subscriptValue base found
  | .slice => Still.raises _
  | .call func args keywords => by
      cases func with
      | name functionName =>
          rw [Python.evaluate]
          exact Still.sequence (Still.names functionName) fun _ =>
            Still.sequence (still_evaluateAll args) fun _ =>
              Still.sequence (still_evaluateKeywords keywords) fun _ =>
                still_applyNamed runtime functionName _ _ _
      | _ =>
          exact Still.raises _
  | .binOp left op right => by
      rw [Python.evaluate]
      exact Still.sequence (still_evaluate left) fun first =>
        Still.sequence (still_evaluate right) fun second =>
          (still runtime).rel_applyBinaryOperator op first second
  | .boolOp .and values => by
      rw [Python.evaluate]
      exact still_evaluateAnd values
  | .boolOp .or values => by
      rw [Python.evaluate]
      exact still_evaluateOr values
  | .compare left links => by
      rw [Python.evaluate]
      exact Still.sequence (still_evaluate left) fun current =>
        still_evaluateLinks links current
  | .unaryOp op operand => by
      rw [Python.evaluate]
      exact Still.sequence (still_evaluate operand) fun value =>
        (still runtime).rel_applyUnaryOperator op value
  | .ifExp test body orelse => by
      rw [Python.evaluate]
      refine Still.sequence (still_evaluate test) fun value => ?_
      split
      · exact still_evaluate body
      · exact still_evaluate orelse
  | .unsupported _ => Still.raises _

theorem still_evaluateAll : (expressions : List Expr) →
    Still (Python.evaluateAll runtime tupleOf expressions)
  | [] => Still.returns []
  | head :: tail => by
      rw [Python.evaluateAll]
      exact Still.sequence (still_evaluate head) fun _ =>
        Still.sequence (still_evaluateAll tail) fun _ => Still.returns _

theorem still_evaluateEntries : (entries : List (Expr × Expr)) →
    Still (Python.evaluateEntries runtime tupleOf entries)
  | [] => Still.returns []
  | (key, value) :: tail => by
      rw [Python.evaluateEntries]
      exact Still.sequence (still_evaluate key) fun _ =>
        Still.sequence (still_evaluate value) fun _ =>
          Still.sequence (still_evaluateEntries tail) fun _ =>
            Still.returns _

theorem still_evaluateKeywords :
    (keywords : List (Option String × Expr)) →
      Still (Python.evaluateKeywords runtime tupleOf keywords)
  | [] => Still.returns []
  | (some _, argument) :: tail => by
      rw [Python.evaluateKeywords]
      exact Still.sequence (still_evaluate argument) fun _ =>
        Still.sequence (still_evaluateKeywords tail) fun _ => Still.returns _
  | (none, argument) :: tail => by
      rw [Python.evaluateKeywords]
      exact Still.sequence (still_evaluate argument) fun mapping =>
        Still.sequence ((still runtime).rel_entriesOf "call" mapping)
          fun _ => Still.sequence (still_evaluateKeywords tail) fun _ =>
            Still.returns _

theorem still_evaluateAnd : (operands : List Expr) →
    Still (Python.evaluateAnd runtime tupleOf operands)
  | [] => Still.returns _
  | [operand] => by
      rw [Python.evaluateAnd]
      exact still_evaluate operand
  | operand :: next :: rest => by
      rw [Python.evaluateAnd]
      · refine Still.sequence (still_evaluate operand) fun value => ?_
        split
        · exact still_evaluateAnd (next :: rest)
        · exact Still.returns value
      · simp

theorem still_evaluateOr : (operands : List Expr) →
    Still (Python.evaluateOr runtime tupleOf operands)
  | [] => Still.returns _
  | [operand] => by
      rw [Python.evaluateOr]
      exact still_evaluate operand
  | operand :: next :: rest => by
      rw [Python.evaluateOr]
      · refine Still.sequence (still_evaluate operand) fun value => ?_
        split
        · exact Still.returns value
        · exact still_evaluateOr (next :: rest)
      · simp

theorem still_evaluateLinks : (links : List (ComparisonOperator × Expr)) →
    (current : PyValue) →
      Still (Python.evaluateLinks runtime tupleOf current links)
  | [], _ => Still.returns _
  | (op, comparator) :: rest, current => by
      rw [Python.evaluateLinks]
      refine Still.sequence (still_evaluate comparator) fun value =>
        Still.sequence (still_applyComparison op current value)
          fun holds => ?_
      split
      · exact still_evaluateLinks rest value
      · exact Still.returns _

end

end Rules

/-! ## Expressions -/

/-- Where the program returns from the state, the other one does the same. -/
def Follows {α : Type} (program other : ProgramM α) (state : ProgramState) :
    Prop :=
  ∀ value after, outcome program state = (.ok value, after) →
    outcome other state = (.ok value, after)

theorem after_of_outcome {α : Type} {program : ProgramM α}
    {property : α → ProgramState → Prop} {state after : ProgramState}
    {value : α} (holds : After program property state)
    (returned : outcome program state = (.ok value, after)) :
    property value after := by
  unfold After wp at holds
  rw [returned] at holds
  exact holds

theorem Follows.refl {α : Type} (program : ProgramM α)
    (state : ProgramState) : Follows program program state :=
  fun _ _ => id

theorem Follows.raises {α : Type} (error : PyError) (other : ProgramM α)
    (state : ProgramState) :
    Follows (throw (.error error) : ProgramM α) other state := by
  rintro _ _ ⟨⟩

/-- The second part follows wherever the first one ends. -/
theorem Follows.sequence {α β : Type} {first other : ProgramM α}
    {next later : α → ProgramM β} {state : ProgramState}
    (begins : Follows first other state)
    (goesOn :
      After first (fun value middle => Follows (next value) (later value) middle)
        state) :
    Follows (first >>= next) (other >>= later) state := by
  intro value after returned
  obtain ⟨result, middle, one, two⟩ := outcome_bind_eq_ok.mp returned
  exact outcome_bind_eq_ok.mpr
    ⟨result, middle, begins _ _ one,
      after_of_outcome goesOn one _ _ two⟩

theorem after_any {α : Type} {program : ProgramM α}
    {property : α → ProgramState → Prop} {state : ProgramState}
    (always : ∀ value middle, property value middle) :
    After program property state :=
  wp_mono (wp_any program state) (fun value middle _ => always value middle)
    fun _ _ => id

theorem after_mono {α : Type} {program : ProgramM α}
    {property weaker : α → ProgramState → Prop} {state : ProgramState}
    (holds : After program property state)
    (weakens : ∀ value middle, property value middle → weaker value middle) :
    After program weaker state :=
  wp_mono holds weakens fun _ _ => id

section Expressions

variable (runtime : ToolProgramRuntime) [PythonArithmetic]

/-- The entries of a display, whose keys the evaluator evaluates from one state
and whose values from another.  Python is in the second one while the
remaining keys make no call, and in the first one while no value has made
one. -/
theorem follows_entries_cons {key value : Expr} {tail : List (Expr × Expr)}
    {keyState nextKey lastKey valueState nextValue pythonState : ProgramState}
    {firstKey firstValue : PyValue} {laterKeys : List PyValue}
    (keyed :
      outcome (evalExpression runtime key) keyState = (.ok firstKey, nextKey))
    (moreKeys :
      outcome (evalKeys runtime tail) nextKey = (.ok laterKeys, lastKey))
    (valued :
      outcome (evalExpression runtime value) valueState =
        (.ok firstValue, nextValue))
    (keyFollows :
      outcome (Python.evaluate runtime .list key) keyState =
        (.ok firstKey, nextKey))
    (valueFollows :
      outcome (Python.evaluate runtime .list value) valueState =
        (.ok firstValue, nextValue))
    (undisturbed :
      nextValue.invocations = valueState.invocations ∨
        QuietKeys runtime tail nextKey)
    (same : valueState.environment = keyState.environment)
    (meets :
      lastKey = keyState ∧ pythonState = valueState ∨
        pythonState = keyState ∧ valueState = lastKey) :
    ∃ middle nextPython,
      outcome (Python.evaluate runtime .list key) pythonState =
          (.ok firstKey, middle) ∧
        outcome (Python.evaluate runtime .list value) middle =
          (.ok firstValue, nextPython) ∧
        (lastKey = nextKey ∧ nextPython = nextValue ∨
          nextPython = nextKey ∧ nextValue = lastKey) := by
  have keyStill := still_evaluate runtime .list key
  have valueStill := still_evaluate runtime .list value
  rcases meets with ⟨quiet, rfl⟩ | ⟨rfl, here⟩
  · have unmoved : nextKey = keyState := by
      have grows := (still_evalExpression runtime key _ _ _ keyed).2.1
      have growsLater := (still_evalKeys runtime tail _ _ _ moreKeys).2.1
      rcases grows with stays | longer
      · exact stays
      · rcases growsLater with stays | longerLater
        · exact stays.symm.trans quiet
        · rw [quiet] at longerLater
          exact absurd (longer.trans longerLater) (Nat.lt_irrefl _)
    rw [unmoved] at keyFollows
    exact ⟨pythonState, nextValue, keyStill.moved keyFollows same,
      valueFollows, .inl ⟨quiet.trans unmoved.symm, rfl⟩⟩
  · have keyEnvironment := keyStill.environment keyFollows
    refine ⟨nextKey, ?_⟩
    rcases undisturbed with silent | silent
    · have unmoved := valueStill.unmoved valueFollows silent
      subst unmoved
      exact ⟨nextKey, keyFollows,
        valueStill.moved valueFollows (keyEnvironment.trans same.symm),
        .inr ⟨rfl, here⟩⟩
    · have unmoved : lastKey = nextKey :=
        (still_evalKeys runtime tail).unmoved moreKeys
          (after_of_outcome silent moreKeys)
      rw [here, unmoved] at valueFollows
      exact ⟨nextValue, keyFollows, valueFollows, .inl ⟨unmoved, rfl⟩⟩

/-- What the comparison of neighbours adds to the evaluation of one comparator
after the other. -/
theorem follows_links_cons {current : PyValue} {op : ComparisonOperator}
    {comparator : Expr} {rest : List (ComparisonOperator × Expr)}
    {state : ProgramState}
    (head : Follows (evalExpression runtime comparator)
      (Python.evaluate runtime .list comparator) state)
    (links :
      After (evalExpression runtime comparator)
        (fun value middle =>
          After (applyComparison op current value)
            (fun holds _ =>
              if holds then
                Follows
                  (do
                    let comparators ← evalComparators runtime rest
                    compareChain value comparators)
                  (Python.evaluateLinks runtime .list value rest) middle
              else
                After (evalComparators runtime rest)
                  (fun _ after => after.invocations = middle.invocations)
                  middle)
            middle) state) :
    Follows
      (do
        let comparators ← evalComparators runtime ((op, comparator) :: rest)
        compareChain current comparators)
      (Python.evaluateLinks runtime .list current ((op, comparator) :: rest))
      state := by
  intro value after returned
  rw [evalComparators] at returned
  obtain ⟨comparators, last, evaluated, compared⟩ :=
    outcome_bind_eq_ok.mp returned
  obtain ⟨first, middle, one, later⟩ := outcome_bind_eq_ok.mp evaluated
  obtain ⟨others, third, two, collected⟩ := outcome_bind_eq_ok.mp later
  cases collected
  rw [compareChain] at compared
  obtain ⟨holds, fourth, link, goesOn⟩ := outcome_bind_eq_ok.mp compared
  -- A comparison looks at no state, so it can be made before the others are
  -- evaluated.
  have stays : ∀ state : ProgramState,
      outcome (applyComparison op current first) state =
        (.ok holds, state) ∧ fourth = last := by
    intro state
    unfold applyComparison at link ⊢
    split at link
    · cases link
    · generalize PythonArithmetic.comparison op current first = result
        at link ⊢
      cases result with
      | ok outcome =>
          cases link
          exact ⟨rfl, rfl⟩
      | error error =>
          cases link
  obtain ⟨early, unchanged⟩ := stays middle
  subst unchanged
  have linked := after_of_outcome links one
  have inOrder := after_of_outcome linked early
  rw [Python.evaluateLinks]
  refine outcome_bind_eq_ok.mpr ⟨first, middle, head _ _ one, ?_⟩
  refine outcome_bind_eq_ok.mpr ⟨holds, middle, early, ?_⟩
  cases holds with
  | true =>
      exact inOrder value after
        (outcome_bind_eq_ok.mpr ⟨others, _, two, goesOn⟩)
  | false =>
      cases goesOn
      have unmoved := (still_evalComparators runtime rest).unmoved two
        (after_of_outcome inOrder two)
      rw [unmoved]
      rfl

theorem follows_boolop_last {decided : PyValue → Bool} {operand : Expr}
    {initial : Option PyValue} {state : ProgramState}
    (head : Follows (evalExpression runtime operand)
      (Python.evaluate runtime .list operand) state) :
    Follows (evalBoolop runtime decided [operand] initial)
      (Python.evaluate runtime .list operand) state := by
  intro value after returned
  rw [evalBoolop] at returned
  obtain ⟨result, middle, evaluated, decides⟩ :=
    outcome_bind_eq_ok.mp returned
  have same : outcome (pure result : ProgramM PyValue) middle =
      (.ok value, after) := by
    split at decides
    · exact decides
    · exact decides
  cases same
  exact head _ _ evaluated

/-- Where the names are distinct and the mappings empty, the collected keywords
are those the evaluator collects. -/
theorem follows_applyNamed {functionName : String}
    {positional : List PyValue} {keywords : List (Option String × Expr)}
    {named : List (String × PyValue)} {state middle : ProgramState}
    (distinct : (keywords.filterMap Prod.fst).Nodup)
    (collected :
      outcome (evalKeywords runtime keywords) state = (.ok named, middle)) :
    Python.applyNamed runtime functionName false positional named =
      applyFunction runtime functionName positional (keywordDict named) := by
  have names : named.map Prod.fst = keywords.filterMap Prod.fst := by
    clear distinct
    induction keywords generalizing state named with
    | nil =>
        cases collected
        rfl
    | cons keyword keywords inductionHypothesis =>
        obtain ⟨name, argument⟩ := keyword
        cases name with
        | none =>
            exact inductionHypothesis collected
        | some name =>
            rw [evalKeywords] at collected
            obtain ⟨value, second, _, later⟩ :=
              outcome_bind_eq_ok.mp collected
            obtain ⟨rest, third, others, built⟩ :=
              outcome_bind_eq_ok.mp later
            cases built
            rw [List.map_cons, inductionHypothesis others]
            rfl
  unfold Python.applyNamed
  rw [names, if_pos distinct]
  rfl

mutual

/-- Where the evaluator returns, Python's rules give the same value after the
same effects. -/
theorem follows_evaluate : (expression : Expr) → (state : ProgramState) →
    expression.InOrder runtime state →
      Follows (evalExpression runtime expression)
        (Python.evaluate runtime .list expression) state
  | .constant _, state, _ => .refl _ state
  | .name _, state, _ => .refl _ state
  | .dict entries, state, inOrder => by
      obtain ⟨keysInOrder, valuesInOrder⟩ := inOrder
      intro value after returned
      rw [evalExpression] at returned
      obtain ⟨keys, middle, keyed, later⟩ := outcome_bind_eq_ok.mp returned
      obtain ⟨values, last, valued, built⟩ := outcome_bind_eq_ok.mp later
      obtain ⟨inMiddle, entriesInOrder⟩ :=
        after_of_outcome valuesInOrder keyed
      have evaluated := follows_entries entries state middle middle last state
        keys values keyed valued keysInOrder inMiddle entriesInOrder
        ((still_evalKeys runtime entries).environment keyed)
        (.inr ⟨rfl, rfl⟩)
      rw [Python.evaluate]
      exact outcome_bind_eq_ok.mpr ⟨keys.zip values, last, evaluated, built⟩
  | .list elts, state, inOrder => by
      rw [evalExpression, Python.evaluate]
      exact Follows.sequence (follows_all elts state inOrder)
        (after_any fun _ _ => .refl _ _)
  | .tuple elts, state, inOrder => by
      rw [evalExpression, Python.evaluate]
      exact Follows.sequence (follows_all elts state inOrder)
        (after_any fun _ _ => .refl _ _)
  | .attribute value attr, state, inOrder => by
      rw [evalExpression, Python.evaluate]
      exact Follows.sequence (follows_evaluate value state inOrder)
        (after_any fun _ _ => .refl _ _)
  | .subscript value key, state, inOrder => by
      obtain ⟨first, second⟩ := inOrder
      rw [evalExpression, Python.evaluate]
      refine Follows.sequence (follows_evaluate value state first)
        (after_mono second fun _ middle keyInOrder => ?_)
      refine Follows.sequence ?_ (after_any fun _ _ => .refl _ _)
      unfold evalSlice
      split
      · exact .refl _ _
      · exact follows_evaluate key middle keyInOrder
  | .slice, state, _ => .refl _ state
  | .call func args keywords, state, inOrder => by
      cases func with
      | name functionName =>
          obtain ⟨unbound, distinct, first, second⟩ := inOrder
          rw [evalExpression, Python.evaluate]
          intro value after returned
          have callee : outcome (isBound functionName) state =
              (.ok false, state) := by
            unfold isBound
            rw [outcome_bind, outcome_get]
            simp only [unbound]
            rfl
          refine outcome_bind_eq_ok.mpr ⟨false, state, callee, ?_⟩
          refine Follows.sequence (follows_all args state first)
            (after_mono second fun positional middle rest => ?_) _ _ returned
          intro value after returned
          obtain ⟨named, last, collected, applied⟩ :=
            outcome_bind_eq_ok.mp returned
          refine outcome_bind_eq_ok.mpr ⟨named, last,
            follows_keywords keywords middle rest _ _ collected, ?_⟩
          rw [follows_applyNamed runtime distinct collected]
          exact applied
      | _ =>
          exact .refl _ state
  | .binOp left op right, state, inOrder => by
      obtain ⟨first, second⟩ := inOrder
      rw [evalExpression, Python.evaluate]
      exact Follows.sequence (follows_evaluate left state first)
        (after_mono second fun _ middle rightInOrder =>
          Follows.sequence (follows_evaluate right middle rightInOrder)
            (after_any fun _ _ => .refl _ _))
  | .boolOp .and values, state, inOrder => by
      rw [evalExpression, Python.evaluate]
      cases values with
      | nil =>
          exact .refl _ state
      | cons head tail =>
          exact follows_and (head :: tail) state inOrder _
            (List.cons_ne_nil _ _)
  | .boolOp .or values, state, inOrder => by
      rw [evalExpression, Python.evaluate]
      cases values with
      | nil =>
          rintro _ _ ⟨⟩
      | cons head tail =>
          exact follows_or (head :: tail) state inOrder _
            (List.cons_ne_nil _ _)
  | .compare left links, state, inOrder => by
      obtain ⟨first, second⟩ := inOrder
      rw [evalExpression, Python.evaluate]
      exact Follows.sequence (follows_evaluate left state first)
        (after_mono second fun current middle linksInOrder =>
          follows_links links current middle linksInOrder)
  | .unaryOp op operand, state, inOrder => by
      rw [evalExpression, Python.evaluate]
      exact Follows.sequence (follows_evaluate operand state inOrder)
        (after_any fun _ _ => .refl _ _)
  | .ifExp test body orelse, state, inOrder => by
      obtain ⟨first, second⟩ := inOrder
      rw [evalExpression, Python.evaluate]
      refine Follows.sequence (follows_evaluate test state first)
        (after_mono second fun value middle branch => ?_)
      cases truth : value.truthy with
      | true =>
          rw [truth] at branch
          exact follows_evaluate body middle branch
      | false =>
          rw [truth] at branch
          exact follows_evaluate orelse middle branch
  | .unsupported _, state, _ => .refl _ state

theorem follows_all : (expressions : List Expr) → (state : ProgramState) →
    ExprsInOrder runtime expressions state →
      Follows (evalExpressions runtime expressions)
        (Python.evaluateAll runtime .list expressions) state
  | [], state, _ => .refl _ state
  | head :: tail, state, inOrder => by
      obtain ⟨first, second⟩ := inOrder
      rw [evalExpressions, Python.evaluateAll]
      exact Follows.sequence (follows_evaluate head state first)
        (after_mono second fun _ middle rest =>
          Follows.sequence (follows_all tail middle rest)
            (after_any fun _ _ => .refl _ _))

theorem follows_entries : (entries : List (Expr × Expr)) →
    (keyState lastKey valueState lastValue pythonState : ProgramState) →
    (keys values : List PyValue) →
    outcome (evalKeys runtime entries) keyState = (.ok keys, lastKey) →
    outcome (evalValues runtime entries) valueState =
      (.ok values, lastValue) →
    KeysInOrder runtime entries keyState →
    ValuesInOrder runtime entries valueState →
    EntriesInOrder runtime entries keyState valueState →
    valueState.environment = keyState.environment →
    (lastKey = keyState ∧ pythonState = valueState ∨
      pythonState = keyState ∧ valueState = lastKey) →
      outcome (Python.evaluateEntries runtime .list entries) pythonState =
        (.ok (keys.zip values), lastValue)
  | [], keyState, lastKey, valueState, lastValue, pythonState, keys, values,
      keyed, valued, _, _, _, _, meets => by
      cases keyed
      cases valued
      rcases meets with ⟨_, rfl⟩ | ⟨rfl, rfl⟩
      · rfl
      · rfl
  | (key, value) :: tail, keyState, lastKey, valueState, lastValue,
      pythonState, keys, values, keyed, valued, keysInOrder, valuesInOrder,
      entriesInOrder, same, meets => by
      rw [evalKeys] at keyed
      rw [evalValues] at valued
      obtain ⟨firstKey, nextKey, oneKey, otherKeys⟩ :=
        outcome_bind_eq_ok.mp keyed
      obtain ⟨laterKeys, endOfKeys, moreKeys, allKeys⟩ :=
        outcome_bind_eq_ok.mp otherKeys
      obtain ⟨firstValue, nextValue, oneValue, otherValues⟩ :=
        outcome_bind_eq_ok.mp valued
      obtain ⟨laterValues, endOfValues, moreValues, allValues⟩ :=
        outcome_bind_eq_ok.mp otherValues
      cases allKeys
      cases allValues
      have keyFollows := follows_evaluate key keyState keysInOrder.1 _ _ oneKey
      have valueFollows :=
        follows_evaluate value valueState valuesInOrder.1 _ _ oneValue
      rw [EntriesInOrder] at entriesInOrder
      have keyInOrder := after_of_outcome entriesInOrder oneKey
      obtain ⟨undisturbed, tailInOrder⟩ :=
        after_of_outcome keyInOrder oneValue
      obtain ⟨middle, nextPython, pythonKey, pythonValue, meetsLater⟩ :=
        follows_entries_cons runtime oneKey moreKeys oneValue keyFollows
          valueFollows undisturbed same meets
      have sameLater : nextValue.environment = nextKey.environment :=
        ((still_evalExpression runtime value).environment oneValue).trans
          (same.trans
            ((still_evalExpression runtime key).environment oneKey).symm)
      have otherKeysInOrder := after_of_outcome keysInOrder.2 oneKey
      have otherValuesInOrder := after_of_outcome valuesInOrder.2 oneValue
      have rest := follows_entries tail nextKey _ nextValue _ nextPython
        laterKeys laterValues moreKeys moreValues otherKeysInOrder
        otherValuesInOrder tailInOrder sameLater meetsLater
      rw [Python.evaluateEntries]
      refine outcome_bind_eq_ok.mpr ⟨firstKey, middle, pythonKey, ?_⟩
      refine outcome_bind_eq_ok.mpr ⟨firstValue, nextPython, pythonValue, ?_⟩
      exact outcome_bind_eq_ok.mpr ⟨laterKeys.zip laterValues, _, rest, rfl⟩

theorem follows_keywords : (keywords : List (Option String × Expr)) →
    (state : ProgramState) → KeywordsInOrder runtime keywords state →
      Follows (evalKeywords runtime keywords)
        (Python.evaluateKeywords runtime .list keywords) state
  | [], state, _ => .refl _ state
  | (some name, argument) :: tail, state, inOrder => by
      obtain ⟨first, second⟩ := inOrder
      rw [evalKeywords, Python.evaluateKeywords]
      exact Follows.sequence (follows_evaluate argument state first)
        (after_mono second fun _ middle rest =>
          Follows.sequence (follows_keywords tail middle rest)
            (after_any fun _ _ => .refl _ _))
  | (none, argument) :: tail, state, inOrder => by
      obtain ⟨empty, rest⟩ := inOrder
      rw [evalKeywords, Python.evaluateKeywords]
      intro named after returned
      refine outcome_bind_eq_ok.mpr ⟨.dict [], state, empty, ?_⟩
      refine outcome_bind_eq_ok.mpr ⟨[], state, rfl, ?_⟩
      exact outcome_bind_eq_ok.mpr
        ⟨named, after, follows_keywords tail state rest _ _ returned, rfl⟩

theorem follows_and : (values : List Expr) → (state : ProgramState) →
    BoolopInOrder runtime (fun result => !result.truthy) values state →
    ∀ initial, values ≠ [] →
      Follows (evalBoolop runtime (fun result => !result.truthy) values
          initial)
        (Python.evaluateAnd runtime .list values) state
  | [], _, _ => fun _ none => absurd rfl none
  | [operand], state, inOrder => fun _ _ => by
      rw [Python.evaluateAnd]
      exact follows_boolop_last runtime
        (follows_evaluate operand state inOrder.1)
  | operand :: next :: rest, state, inOrder => fun _ _ => by
      obtain ⟨first, second⟩ := inOrder
      rw [evalBoolop, Python.evaluateAnd]
      · refine Follows.sequence (follows_evaluate operand state first)
          (after_mono second fun value middle later => ?_)
        cases truth : value.truthy with
        | true =>
            exact follows_and (next :: rest) middle
              (later (by simp [truth])) (some value)
              (List.cons_ne_nil _ _)
        | false =>
            exact .refl _ _
      · simp

theorem follows_or : (values : List Expr) → (state : ProgramState) →
    BoolopInOrder runtime PyValue.truthy values state →
    ∀ initial, values ≠ [] →
      Follows (evalBoolop runtime PyValue.truthy values initial)
        (Python.evaluateOr runtime .list values) state
  | [], _, _ => fun _ none => absurd rfl none
  | [operand], state, inOrder => fun _ _ => by
      rw [Python.evaluateOr]
      exact follows_boolop_last runtime
        (follows_evaluate operand state inOrder.1)
  | operand :: next :: rest, state, inOrder => fun _ _ => by
      obtain ⟨first, second⟩ := inOrder
      rw [evalBoolop, Python.evaluateOr]
      · refine Follows.sequence (follows_evaluate operand state first)
          (after_mono second fun value middle later => ?_)
        cases truth : value.truthy with
        | true =>
            exact .refl _ _
        | false =>
            exact follows_or (next :: rest) middle (later truth) (some value)
              (List.cons_ne_nil _ _)
      · simp

theorem follows_links : (links : List (ComparisonOperator × Expr)) →
    (current : PyValue) → (state : ProgramState) →
    LinksInOrder runtime current links state →
      Follows
        (do
          let comparators ← evalComparators runtime links
          compareChain current comparators)
        (Python.evaluateLinks runtime .list current links) state
  | [], _, state, _ => .refl _ state
  | (op, comparator) :: rest, current, state, inOrder => by
      obtain ⟨first, second⟩ := inOrder
      refine follows_links_cons runtime
        (follows_evaluate comparator state first)
        (after_mono second fun value middle link =>
          after_mono link fun holds _ goesOn => ?_)
      cases holds with
      | true =>
          exact follows_links rest value middle goesOn
      | false =>
          exact goesOn

end

end Expressions


/-! ## Statements -/

/-- The flow of control a statement's ending stands for. -/
def Flow.ofResult {α : Type} : Except Stop α → Option Flow
  | .ok _ => some .normal
  | .error stop =>
      stop.signal.map fun
        | .loopBreak => .breaking
        | .loopContinue => .continuing

/-- Where the program returns or signals, the other one has that flow. -/
def FollowsFlow {α : Type} (program : ProgramM α) (other : ProgramM Flow)
    (state : ProgramState) : Prop :=
  ∀ result after flow, outcome program state = (result, after) →
    Flow.ofResult result = some flow →
      outcome other state = (.ok flow, after)

/-- Whatever the program raises is not a loop signal. -/
def Unsignalled {α : Type} (program : ProgramM α) : Prop :=
  ∀ state,
    wp program (fun _ _ => True) (fun stop _ => stop.signal = none) state

namespace Unsignalled

variable {α β : Type}

theorem sequence {first : ProgramM α} {next : α → ProgramM β}
    (begins : Unsignalled first) (goesOn : ∀ value, Unsignalled (next value)) :
    Unsignalled (first >>= next) := by
  intro state
  rw [wp_bind]
  apply wp_mono (begins state)
  · exact fun value middle _ => goesOn value middle
  · exact fun _ _ silent => silent

theorem returns (value : α) : Unsignalled (pure value : ProgramM α) :=
  fun _ => trivial

theorem catches (program : ProgramM PyValue) :
    Unsignalled (catchSignal program) := by
  intro state
  unfold catchSignal
  rw [wp_attempt]
  unfold wp
  rcases outcome program state with ⟨stop | value, final⟩
  · simp only
    cases caught : stop.signal with
    | some signal =>
        trivial
    | none =>
        rfl
  · trivial

variable [PythonStack]

theorem records (invocation : Invocation) (result : ToolResult) :
    Unsignalled (recordResult invocation result) := by
  intro state
  unfold wp
  by_cases fits : invocation.fits (state.traces.length + 1)
  · rw [outcome_recordResult fits]
    cases result.isError with
    | true =>
        rfl
    | false =>
        trivial
  · rw [outcome_recordResult_overflow fits]
    rfl

theorem invokes (runtime : ToolProgramRuntime) (positional : List PyValue)
    (keywords : Dict String PyValue) :
    Unsignalled (callToolBuiltin runtime positional keywords) := by
  have chosen : ∀ arguments tool : Option PyValue,
      Unsignalled (do
        let invocation ← dispatch arguments tool
        invokeTool runtime invocation) := by
    intro arguments tool
    apply sequence
    · unfold dispatch
      intro state
      split
      · split
        · trivial
        · trivial
        · trivial
        · rfl
      · rfl
    · intro invocation state
      unfold invokeTool
      simp only [wp_bind, wp_get, wp_set]
      split
      · rfl
      · rfl
      · rfl
      · exact records _ _ _
  intro state
  unfold callToolBuiltin
  rw [wp_bind, wp_get]
  split
  · rfl
  · split
    · rfl
    · cases positional with
      | cons tool rest =>
          exact chosen rest.head? (some tool) state
      | nil =>
          exact chosen (keywords.get "arguments") (keywords.get "tool") state

end Unsignalled

/-- Neither expressions nor assignments raise loop signals. -/
def unsignalling [PythonArithmetic] (runtime : ToolProgramRuntime) :
    AssignmentRelation runtime (fun _ => True) where
  rel program _ := Unsignalled program
  returns := Unsignalled.returns
  sequence first next := Unsignalled.sequence first next
  raises _ := fun _ => rfl
  reads := by
    intro id _ state
    unfold lookupName
    rw [wp_bind, wp_get]
    split
    · trivial
    · rfl
  invokes _ := Unsignalled.invokes runtime
  binds _ _ := fun _ => trivial

namespace FollowsFlow

variable {α β : Type} {state : ProgramState}

theorem returns (value : α) (state : ProgramState) :
    FollowsFlow (pure value : ProgramM α) (pure .normal) state := by
  rintro _ _ flow ⟨⟩ ⟨⟩
  rfl

theorem raises (error : PyError) (other : ProgramM Flow)
    (state : ProgramState) :
    FollowsFlow (throw (.error error) : ProgramM α) other state := by
  rintro _ _ flow ⟨⟩ ⟨⟩

theorem sequence {first other : ProgramM α} {next : α → ProgramM β}
    {later : α → ProgramM Flow} (unsignalled : Unsignalled first)
    (begins : Follows first other state)
    (goesOn :
      After first
        (fun value middle => FollowsFlow (next value) (later value) middle)
        state) :
    FollowsFlow (first >>= next) (other >>= later) state := by
  intro result final flow ended flows
  rw [outcome_bind] at ended
  rcases wp_cases (unsignalled state) with
    ⟨value, middle, returned, _⟩ | ⟨stop, middle, raised, silent⟩
  · rw [returned] at ended
    rw [outcome_bind, begins _ _ returned]
    exact after_of_outcome goesOn returned result final flow ended flows
  · rw [raised] at ended
    cases ended
    simp [Flow.ofResult, silent] at flows

/-- A program that returns what the other one computes. -/
theorem single {program other : ProgramM α}
    (unsignalled : Unsignalled program)
    (follows : Follows program other state) :
    FollowsFlow program (do
      let _ ← other
      return .normal) state := by
  have both := FollowsFlow.sequence unsignalled follows
    (after_any fun value middle => FollowsFlow.returns value middle)
  rw [bind_pure] at both
  exact both

end FollowsFlow

section Statements

variable {runtime : ToolProgramRuntime} [PythonArithmetic]

theorem unsignalled_evalExpression (expression : Expr) :
    Unsignalled (evalExpression runtime expression) :=
  (unsignalling runtime).rel_evalExpression expression fun _ _ => trivial

theorem unsignalled_beginIteration (target : Expr) (item : PyValue) :
    Unsignalled (beginIteration runtime (assignTarget target item)) := by
  unfold beginIteration countIteration
  refine Unsignalled.sequence ?_ fun _ => Unsignalled.sequence ?_ fun _ => ?_
  · intro state
    rw [wp_bind, wp_modify, wp_bind, wp_get]
    split
    · rfl
    · trivial
  · exact (unsignalling runtime).rel_assignTarget target item
      fun _ _ => trivial
  · exact fun _ => trivial

theorem unsignalled_execBody (statements : List Stmt) (result : PyValue) :
    Unsignalled (execBody runtime statements result) := by
  induction statements generalizing result with
  | nil =>
      exact Unsignalled.returns _
  | cons nested rest inductionHypothesis =>
      rw [execBody]
      refine Unsignalled.sequence (Unsignalled.catches _) fun ended => ?_
      cases ended with
      | ok value =>
          exact inductionHypothesis value
      | error signal =>
          exact Unsignalled.returns _

theorem unsignalled_forEach {target : Expr}
    {body : PyValue → ProgramM (PyValue × Option LoopSignal)}
    (bodies : ∀ result, Unsignalled (body result))
    (items : List PyValue) (result : PyValue) :
    Unsignalled (forEach runtime (assignTarget target) body items result) := by
  induction items generalizing result with
  | nil =>
      exact Unsignalled.returns result
  | cons item items inductionHypothesis =>
      rw [forEach]
      refine Unsignalled.sequence (unsignalled_beginIteration target item)
        fun _ => Unsignalled.sequence (bodies result) fun ended => ?_
      split
      · exact Unsignalled.returns _
      · exact inductionHypothesis _

/-- The flow a caught signal stands for. -/
def Flow.ofSignal : Option LoopSignal → Flow
  | none => .normal
  | some .loopBreak => .breaking
  | some .loopContinue => .continuing

omit [PythonArithmetic] in
/-- Iteration by iteration, the loops do the same. -/
theorem follows_forEach {assign : PyValue → ProgramM Unit}
    {body : PyValue → ProgramM (PyValue × Option LoopSignal)}
    {bodyInOrder : ProgramState → Prop} {other : ProgramM Flow}
    (bodies : ∀ result state value signal after, bodyInOrder state →
      outcome (body result) state = (.ok (value, signal), after) →
        outcome other state = (.ok (Flow.ofSignal signal), after))
    (items : List PyValue) (result : PyValue) {state after : ProgramState}
    {value : PyValue}
    (inOrder :
      ItemsInOrder runtime assign body bodyInOrder items result state)
    (returned :
      outcome (forEach runtime assign body items result) state =
        (.ok value, after)) :
    ∃ flow,
      outcome (Python.repeatFor runtime assign other items) state =
        (.ok flow, after) := by
  induction items generalizing result state with
  | nil =>
      cases returned
      exact ⟨.normal, rfl⟩
  | cons item items inductionHypothesis =>
      rw [forEach] at returned
      obtain ⟨_, begun, one, later⟩ := outcome_bind_eq_ok.mp returned
      obtain ⟨⟨found, signal⟩, middle, two, goesOn⟩ :=
        outcome_bind_eq_ok.mp later
      obtain ⟨here, next⟩ := after_of_outcome inOrder one
      have others := after_of_outcome next two
      have flow := bodies _ _ _ _ _ here two
      rw [Python.repeatFor]
      cases signal with
      | none =>
          obtain ⟨final, rest⟩ := inductionHypothesis found others goesOn
          exact ⟨final, outcome_bind_eq_ok.mpr ⟨_, begun, one,
            outcome_bind_eq_ok.mpr ⟨_, middle, flow, rest⟩⟩⟩
      | some caught =>
          cases caught with
          | loopBreak =>
              cases goesOn
              exact ⟨.breaking, outcome_bind_eq_ok.mpr ⟨_, begun, one,
                outcome_bind_eq_ok.mpr ⟨_, _, flow, rfl⟩⟩⟩
          | loopContinue =>
              obtain ⟨final, rest⟩ := inductionHypothesis found others goesOn
              exact ⟨final, outcome_bind_eq_ok.mpr ⟨_, begun, one,
                outcome_bind_eq_ok.mpr ⟨_, middle, flow, rest⟩⟩⟩

mutual

theorem follows_execute : (statement : Stmt) → (state : ProgramState) →
    statement.InOrder runtime state →
      FollowsFlow (execStatement runtime statement)
        (Python.execute runtime .list statement) state
  | .assign targets value, state, inOrder => by
      rw [execStatement, Python.execute]
      refine FollowsFlow.sequence (unsignalled_evalExpression value)
        (follows_evaluate runtime value state inOrder)
        (after_any fun found middle => ?_)
      exact FollowsFlow.sequence
        ((unsignalling runtime).rel_targets targets found fun _ _ => trivial)
        (.refl _ _) (after_any fun _ _ => FollowsFlow.returns found _)
  | .augAssign target op value, state, inOrder => by
      rw [execStatement, Python.execute]
      refine FollowsFlow.sequence
        ((unsignalling runtime).rel_readAssignmentTarget target
          fun _ _ => trivial)
        (.refl _ _) (after_mono inOrder fun current middle valueInOrder => ?_)
      refine FollowsFlow.sequence (unsignalled_evalExpression value)
        (follows_evaluate runtime value middle valueInOrder)
        (after_any fun found _ => ?_)
      refine FollowsFlow.sequence
        ((unsignalling runtime).rel_applyBinaryOperator op current found)
        (.refl _ _) (after_any fun updated _ => ?_)
      exact FollowsFlow.sequence
        ((unsignalling runtime).rel_assignTarget target updated
          fun _ _ => trivial)
        (.refl _ _) (after_any fun _ _ => FollowsFlow.returns updated _)
  | .expr value, state, inOrder => by
      rw [execStatement, Python.execute]
      exact FollowsFlow.single (unsignalled_evalExpression value)
        (follows_evaluate runtime value state inOrder)
  | .ifElse test body orelse, state, inOrder => by
      obtain ⟨first, second⟩ := inOrder
      rw [execStatement, Python.execute]
      refine FollowsFlow.sequence (unsignalled_evalExpression test)
        (follows_evaluate runtime test state first)
        (after_mono second fun value middle branch => ?_)
      cases truth : value.truthy with
      | true =>
          rw [truth] at branch
          exact follows_executeAll body middle branch .none
      | false =>
          rw [truth] at branch
          exact follows_executeAll orelse middle branch .none
  | .forIn target iter body orelse, state, inOrder => by
      obtain ⟨first, second⟩ := inOrder
      rw [execStatement, Python.execute]
      split
      · rename_i empty
        have none : orelse = [] := List.isEmpty_iff.mp empty
        refine FollowsFlow.sequence (unsignalled_evalExpression iter)
          (follows_evaluate runtime iter state first)
          (after_mono second fun iterable middle itemsInOrder => ?_)
        refine FollowsFlow.sequence
          ((unsignalling runtime).rel_loopItems iterable) (.refl _ _)
          (after_mono itemsInOrder fun items begun loopInOrder => ?_)
        intro result after flow ended flows
        have unsignalled :
            Unsignalled
              (forEach runtime (assignTarget target)
                (fun result => execBody runtime body result) items .none) :=
          unsignalled_forEach (unsignalled_execBody body) items .none
        rcases wp_cases (unsignalled begun) with
          ⟨value, final, returned, _⟩ | ⟨stop, final, raised, silent⟩
        · rw [returned] at ended
          cases ended
          cases flows
          obtain ⟨reached, repeated⟩ := follows_forEach
            (follows_execBody body) items .none loopInOrder returned
          refine outcome_bind_eq_ok.mpr ⟨reached, _, repeated, ?_⟩
          subst none
          cases reached with
          | breaking =>
              rfl
          | _ =>
              rw [Python.executeAll]
              rfl
        · rw [raised] at ended
          cases ended
          simp [Flow.ofResult, silent] at flows
      · exact FollowsFlow.raises _ _ _
  | .breakLoop, state, _ => by
      rintro _ _ flow ⟨⟩ ⟨⟩
      rfl
  | .continueLoop, state, _ => by
      rintro _ _ flow ⟨⟩ ⟨⟩
      rfl
  | .pass, state, _ => FollowsFlow.returns _ state
  | .unsupported _, state, _ => FollowsFlow.raises _ _ state

theorem follows_executeAll : (statements : List Stmt) →
    (state : ProgramState) → StmtsInOrder runtime statements state →
    ∀ result,
      FollowsFlow (execBlock runtime statements result)
        (Python.executeAll runtime .list statements) state
  | [], state, _ => fun result => FollowsFlow.returns result state
  | head :: tail, state, inOrder => fun result => by
      obtain ⟨first, second⟩ := inOrder
      have begins := follows_execute head state first
      rw [execBlock, Python.executeAll]
      intro ending after flow ended flows
      rw [outcome_bind] at ended ⊢
      cases reached : outcome (execStatement runtime head) state with
      | mk headResult middle =>
          rw [reached] at ended
          cases headResult with
          | ok value =>
              rw [begins _ _ .normal reached rfl]
              have rest := after_of_outcome second reached
              exact follows_executeAll tail middle rest value _ _ _ ended flows
          | error stop =>
              cases ended
              rw [begins _ _ flow reached flows]
              cases flow with
              | normal =>
                  cases stop <;> simp [Flow.ofResult, Stop.signal] at flows
              | breaking =>
                  rfl
              | continuing =>
                  rfl

theorem follows_execBody : (statements : List Stmt) →
    ∀ result state value signal after,
      StmtsInOrder runtime statements state →
      outcome (execBody runtime statements result) state =
          (.ok (value, signal), after) →
        outcome (Python.executeAll runtime .list statements) state =
          (.ok (Flow.ofSignal signal), after)
  | [] => by
      rintro result state value signal after _ ⟨⟩
      rfl
  | head :: tail => by
      intro result state value signal after inOrder returned
      obtain ⟨first, second⟩ := inOrder
      have begins := follows_execute head state first
      rw [execBody] at returned
      rw [Python.executeAll]
      obtain ⟨caught, middle, tried, goesOn⟩ :=
        outcome_bind_eq_ok.mp returned
      unfold catchSignal at tried
      rw [outcome_attempt] at tried
      cases reached : outcome (execStatement runtime head) state with
      | mk headResult final =>
          rw [reached] at tried
          cases headResult with
          | ok found =>
              cases tried
              have flow := begins _ _ .normal reached rfl
              have rest := after_of_outcome second reached
              refine outcome_bind_eq_ok.mpr ⟨.normal, _, flow, ?_⟩
              exact follows_execBody tail _ _ _ _ _ rest goesOn
          | error stop =>
              cases stop with
              | loopBreak =>
                  cases tried
                  cases goesOn
                  have flow := begins _ _ .breaking reached rfl
                  exact outcome_bind_eq_ok.mpr ⟨.breaking, _, flow, rfl⟩
              | loopContinue =>
                  cases tried
                  cases goesOn
                  have flow := begins _ _ .continuing reached rfl
                  exact outcome_bind_eq_ok.mpr ⟨.continuing, _, flow, rfl⟩
              | _ =>
                  cases tried

end

end Statements

/-! ## Runs -/

/-- How Python's rules execute the program from the context of the request. -/
def Python.run (runtime : ToolProgramRuntime) [PythonArithmetic]
    (tupleOf : List PyValue → PyValue) (request : ProgramRequest)
    (module : Module) : Except Stop Flow × ProgramState :=
  outcome (Python.executeAll runtime tupleOf module.body)
    { environment := request.initialContext }

section Runs

variable [PythonArithmetic] {runtime : ToolProgramRuntime}
  {parse : String → Except ParseFailure Module}
  {request : ProgramRequest} {module : Module}

/-- Where the interpreter reports no error and its run has reached no place
where it leaves Python's order, it has made the invocations Python's rules
prescribe, and Python completes the program too. -/
theorem invocations_eq_python {result : ProgramRunResult}
    (parsed : parse request.program = .ok module)
    (inOrder :
      StmtsInOrder runtime module.body
        { environment := request.initialContext })
    (reported : (run runtime parse request).1 = .result result)
    (succeeds : result.success = true) :
    (∃ flow, (Python.run runtime .list request module).1 = .ok flow) ∧
      (run runtime parse request).2.invocations =
        (Python.run runtime .list request module).2.invocations := by
  obtain ⟨lastValue, ended, _⟩ := completes_of_success reported succeeds
  unfold execution execProgram at ended
  rw [parsed] at ended
  split at ended
  · cases ended
  · simp only at ended
    split at ended
    · cases ended
    · have flow :=
        follows_executeAll module.body _ inOrder .none _ _ .normal ended rfl
      unfold Python.run
      rw [flow]
      exact ⟨⟨.normal, rfl⟩, rfl⟩

end Runs

section Integers

open scoped Integers

/-- An invoker that answers every call with a text. -/
def Integers.runtime : ToolProgramRuntime where
  toolInvoker _ _ := .result { content := [.text "1"] }

def Integers.toolCall (tool : String) : Expr :=
  .call (.name "call_tool") [.constant (.str tool)] []

/-- `2 < 1 < call_tool("a")`. -/
def Integers.decidedChain : Expr :=
  .compare (.constant (.int 2))
    [(.lt, .constant (.int 1)), (.lt, Integers.toolCall "a")]

/-- `call_tool("b") if 1 else 2 < 1 < call_tool("a")`. -/
def Integers.orderedModule : Module where
  nodes := 20
  body :=
    [.expr (.ifExp (.constant (.int 1)) (Integers.toolCall "b")
      Integers.decidedChain)]

/-- A chain that is not reached is in nobody's way. -/
theorem invocations_eq_python_conditional :
    ((run Integers.runtime (fun _ => .ok Integers.orderedModule)
        { program := "" }).2.invocations.map Invocation.tool = ["b"]) ∧
      (run Integers.runtime (fun _ => .ok Integers.orderedModule)
          { program := "" }).2.invocations =
        (Python.run Integers.runtime .list { program := "" }
          Integers.orderedModule).2.invocations := by
  refine ⟨by decide +kernel, ?_⟩
  refine (invocations_eq_python rfl ?_ rfl rfl).2
  exact ⟨⟨trivial, rfl, List.nodup_nil, ⟨trivial, trivial⟩, trivial⟩, trivial⟩

def Integers.chainModule : Module where
  nodes := 12
  body := [.expr Integers.decidedChain]

/-- `if (1,) == [1]: call_tool("a")`. -/
def Integers.tupleModule : Module where
  nodes := 15
  body :=
    [.ifElse
      (.compare (.tuple [.constant (.int 1)])
        [(.eq, .list [.constant (.int 1)])])
      [.expr (Integers.toolCall "a")] []]

/-- A tuple display builds a list, so that it is equal to one; and a chain goes
on to its last comparator although it is decided before. -/
theorem python_invokes_nothing :
    ((∃ result,
        (run Integers.runtime (fun _ => .ok Integers.tupleModule)
          { program := "" }).1 = .result result ∧ result.success = true) ∧
      (run Integers.runtime (fun _ => .ok Integers.tupleModule)
          { program := "" }).2.invocations.map Invocation.tool = ["a"] ∧
      (Python.run Integers.runtime .tuple { program := "" }
        Integers.tupleModule).2.invocations.length = 0) ∧
    (∃ result,
        (run Integers.runtime (fun _ => .ok Integers.chainModule)
          { program := "" }).1 = .result result ∧ result.success = true) ∧
      (run Integers.runtime (fun _ => .ok Integers.chainModule)
          { program := "" }).2.invocations.map Invocation.tool = ["a"] ∧
      (Python.run Integers.runtime .tuple { program := "" }
        Integers.chainModule).2.invocations.length = 0 :=
  ⟨⟨⟨_, rfl, rfl⟩, by decide +kernel, by decide +kernel⟩,
    ⟨_, rfl, rfl⟩, by decide +kernel, by decide +kernel⟩

/-- `{call_tool("k"): call_tool("v"), call_tool("l"): 0}`: both keys are
evaluated before the first value. -/
def Integers.display : Module where
  nodes := 16
  body :=
    [.expr (.dict
      [(Integers.toolCall "k", Integers.toolCall "v"),
       (Integers.toolCall "l", .constant (.int 0))])]

theorem display_reorders :
    (∃ result,
        (run Integers.runtime (fun _ => .ok Integers.display)
          { program := "" }).1 = .result result ∧ result.success = true) ∧
      (run Integers.runtime (fun _ => .ok Integers.display)
          { program := "" }).2.invocations.map Invocation.tool =
        ["k", "l", "v"] ∧
      (Python.run Integers.runtime .tuple { program := "" }
          Integers.display).2.invocations.map Invocation.tool =
        ["k", "v", "l"] :=
  ⟨⟨_, rfl, rfl⟩, by decide +kernel, by decide +kernel⟩

end Integers

end ToolboxMcp
