import ToolboxMcp.Program.Relations

/-!
# Unused context does not leak

Two states that differ only in variables outside `names` stay so under every
evaluation that keeps to `names`, and the evaluation ends in both in the same
way.  A run from such contexts makes the same invocations and returns the same
result.
-/

namespace ToolboxMcp

open Effect

/-- Nothing but variables outside `names` tells the states apart. -/
structure Indistinguishable (names : String → Prop)
    (left right : ProgramState) : Prop where
  traces : left.traces = right.traces
  loopIterations : left.loopIterations = right.loopIterations
  invocations : left.invocations = right.invocations
  bodiesEntered : left.bodiesEntered = right.bodiesEntered
  environment :
    ∀ id, names id → left.environment.get id = right.environment.get id

/-- From indistinguishable states the computations end alike. -/
def Alike (names : String → Prop) {α : Type}
    (program other : ProgramM α) : Prop :=
  ∀ left right, Indistinguishable names left right →
    (outcome program left).1 = (outcome other right).1 ∧
      Indistinguishable names (outcome program left).2
        (outcome other right).2

namespace Alike

variable {names : String → Prop} {α β : Type}

/-- A computation that does not look at the state. -/
theorem constant {program : ProgramM α} (result : Except Stop α)
    (same : ∀ state, outcome program state = (result, state)) :
    Alike names program program := by
  intro left right alike
  rw [same left, same right]
  exact ⟨rfl, alike⟩

theorem sequence {first other : ProgramM α} {next later : α → ProgramM β}
    (begins : Alike names first other)
    (goesOn : ∀ value, Alike names (next value) (later value)) :
    Alike names (first >>= next) (other >>= later) := by
  intro left right alike
  obtain ⟨same, middle⟩ := begins left right alike
  rw [outcome_bind, outcome_bind]
  generalize outcome first left = ended at same middle ⊢
  generalize outcome other right = ended' at same middle ⊢
  obtain ⟨result, state⟩ := ended
  obtain ⟨result', state'⟩ := ended'
  simp only at same middle
  subst same
  cases result with
  | ok value =>
      exact goesOn value state state' middle
  | error stop =>
      exact ⟨rfl, middle⟩

theorem reads {id : String} (named : names id) :
    Alike names (lookupName id) (lookupName id) := by
  intro left right alike
  have same := alike.environment id named
  cases found : left.environment.get id with
  | some value =>
      have looked : ∀ state : ProgramState,
          state.environment.get id = some value →
            outcome (lookupName id) state = (.ok value, state) := by
        intro state stored
        unfold lookupName
        simp only [outcome_bind, outcome_get, stored, outcome_pure]
      rw [looked left found, looked right (same ▸ found)]
      exact ⟨rfl, alike⟩
  | none =>
      have looked : ∀ state : ProgramState,
          state.environment.get id = none →
            outcome (lookupName id) state =
              (.error (.error (.valueError ("Unknown variable: " ++ id))),
                state) := by
        intro state missing
        unfold lookupName
        simp only [outcome_bind, outcome_get, missing]
        rfl
      rw [looked left found, looked right (same ▸ found)]
      exact ⟨rfl, alike⟩

theorem binds (id : String) (value : PyValue) :
    Alike names (bindName id value) (bindName id value) := by
  intro left right alike
  refine ⟨rfl, alike.traces, alike.loopIterations, alike.invocations,
    alike.bodiesEntered, ?_⟩
  intro other named
  change (left.environment.set id value).get other =
    (right.environment.set id value).get other
  rw [Dict.get_set, Dict.get_set]
  split
  · rfl
  · exact alike.environment other named

theorem catches {program other : ProgramM PyValue}
    (alike : Alike names program other) :
    Alike names (catchSignal program) (catchSignal other) := by
  intro left right same
  obtain ⟨results, states⟩ := alike left right same
  unfold catchSignal
  rw [outcome_attempt, outcome_attempt]
  generalize outcome program left = ended at results states ⊢
  generalize outcome other right = ended' at results states ⊢
  obtain ⟨result, state⟩ := ended
  obtain ⟨result', state'⟩ := ended'
  simp only at results states
  subst results
  cases result with
  | ok value =>
      exact ⟨rfl, states⟩
  | error stop =>
      simp only
      cases stop.signal with
      | some signal =>
          exact ⟨rfl, states⟩
      | none =>
          exact ⟨rfl, states⟩

theorem raises (stop : Stop) :
    Alike names (throw stop : ProgramM α) (throw stop) :=
  constant (.error stop) fun _ => rfl

theorem dispatches (arguments tool : Option PyValue) :
    Alike names (dispatch arguments tool) (dispatch arguments tool) := by
  unfold dispatch
  split
  · split
    · exact constant _ fun _ => rfl
    · exact constant _ fun _ => rfl
    · exact constant _ fun _ => rfl
    · exact raises _
  · exact raises _

/-- The traces are recorded under the same number. -/
theorem records [PythonStack] (invocation : Invocation)
    (result : ToolResult) :
    Alike names (recordResult invocation result)
      (recordResult invocation result) := by
  intro left right alike
  by_cases fits : invocation.fits (right.traces.length + 1)
  · have fitsLeft : invocation.fits (left.traces.length + 1) := by
      rw [alike.traces]
      exact fits
    rw [outcome_recordResult fits, outcome_recordResult fitsLeft,
      alike.traces]
    exact ⟨rfl, rfl, alike.loopIterations, alike.invocations,
      alike.bodiesEntered, alike.environment⟩
  · have overflows : ¬ invocation.fits (left.traces.length + 1) := by
      rw [alike.traces]
      exact fits
    rw [outcome_recordResult_overflow fits,
      outcome_recordResult_overflow overflows]
    exact ⟨rfl, alike⟩

/-- The invoker sees the same earlier invocations. -/
theorem answers [PythonStack] (runtime : ToolProgramRuntime) (invocation : Invocation) :
    Alike names (invokeTool runtime invocation)
      (invokeTool runtime invocation) := by
  intro left right alike
  have called : Indistinguishable names
      { left with invocations := left.invocations ++ [invocation] }
      { right with invocations := right.invocations ++ [invocation] } := by
    refine ⟨alike.traces, alike.loopIterations, ?_, alike.bodiesEntered,
      alike.environment⟩
    exact congrArg (· ++ [invocation]) alike.invocations
  unfold invokeTool
  simp only [outcome_bind, outcome_get, outcome_set]
  rw [alike.invocations]
  rw [alike.invocations] at called
  cases runtime.toolInvoker right.invocations invocation with
  | timeout =>
      exact ⟨rfl, called⟩
  | exception message =>
      exact ⟨rfl, called⟩
  | cancelled =>
      exact ⟨rfl, called⟩
  | result result =>
      exact records invocation result _ _ called

theorem invokes [PythonStack] (runtime : ToolProgramRuntime)
    (positional : List PyValue) (keywords : Dict String PyValue) :
    Alike names (callToolBuiltin runtime positional keywords)
      (callToolBuiltin runtime positional keywords) := by
  have chosen : ∀ arguments tool : Option PyValue,
      Alike names
        (do
          let invocation ← dispatch arguments tool
          invokeTool runtime invocation)
        (do
          let invocation ← dispatch arguments tool
          invokeTool runtime invocation) :=
    fun arguments tool =>
      sequence (dispatches arguments tool) (answers runtime)
  intro left right alike
  unfold callToolBuiltin
  simp only [outcome_bind, outcome_get]
  rw [alike.traces]
  split
  · exact ⟨rfl, alike⟩
  · split
    · exact ⟨rfl, alike⟩
    · cases positional with
      | cons tool rest =>
          exact chosen rest.head? (some tool) left right alike
      | nil =>
          exact chosen (keywords.get "arguments") (keywords.get "tool") left
            right alike

theorem counts (runtime : ToolProgramRuntime) :
    Alike names (countIteration runtime) (countIteration runtime) := by
  intro left right alike
  have counted : Indistinguishable names
      { left with loopIterations := left.loopIterations + 1 }
      { right with loopIterations := right.loopIterations + 1 } :=
    ⟨alike.traces, congrArg (· + 1) alike.loopIterations,
      alike.invocations, alike.bodiesEntered, alike.environment⟩
  unfold countIteration
  simp only [outcome_bind, outcome_modify, outcome_get]
  rw [alike.loopIterations]
  rw [alike.loopIterations] at counted
  split
  · exact ⟨rfl, counted⟩
  · exact ⟨rfl, counted⟩

theorem enters : Alike names enterBody enterBody := by
  intro left right alike
  exact ⟨rfl, alike.traces, alike.loopIterations, alike.invocations,
    congrArg (· + 1) alike.bodiesEntered, alike.environment⟩

theorem iterates (runtime : ToolProgramRuntime)
    {assign other : ProgramM Unit} (assigns : Alike names assign other) :
    Alike names (beginIteration runtime assign)
      (beginIteration runtime other) :=
  sequence (counts runtime) fun _ =>
    sequence assigns fun _ => enters

end Alike

/-- Ending alike is a relation the evaluator respects. -/
def indistinguishably [PythonArithmetic] (runtime : ToolProgramRuntime)
    (names : String → Prop) : ProgramRelation runtime names where
  rel := Alike names
  returns value := Alike.constant (.ok value) fun _ => rfl
  sequence := Alike.sequence
  raises _ := Alike.raises _
  breaks := Alike.raises _
  continues := Alike.raises _
  reads := Alike.reads
  binds value _ := Alike.binds _ value
  invokes _ := Alike.invokes runtime
  iterates := Alike.iterates runtime
  catches := Alike.catches

/-! ## Whole runs -/

/-- The variables a run may let show: those of the program text and those the
request names. -/
def relevant (parse : String → Except ParseFailure Module)
    (request : ProgramRequest) (id : String) : Prop :=
  (∃ module, parse request.program = .ok module ∧
    id ∈ namesOfStmts module.body) ∨
  id = request.resultVariable ∨ id ∈ request.returnVariables.getD []

section Runs

variable [PythonArithmetic] {runtime : ToolProgramRuntime}

theorem alike_execProgram {names : String → Prop}
    (parse : String → Except ParseFailure Module) (program : String)
    (within : ∀ module, parse program = .ok module →
      ∀ id ∈ namesOfStmts module.body, names id) :
    Alike names (execProgram runtime parse program)
      (execProgram runtime parse program) := by
  unfold execProgram
  split
  · exact Alike.raises _
  · split
    · exact Alike.raises _
    · exact Alike.raises _
    · rename_i module parsed
      split
      · exact Alike.raises _
      · exact (indistinguishably runtime names).rel_execBlock _ _
          (within module parsed)

omit [PythonArithmetic] in
theorem serializableBindings_congr
    {room : Nat} {left right : Dict String PyValue}
    {returnVariables : List String}
    (same : ∀ id ∈ returnVariables, left.get id = right.get id) :
    serializableBindings room left (some returnVariables) =
      serializableBindings room right (some returnVariables) := by
  unfold serializableBindings
  simp only [Option.getD_some]
  generalize ([] : Dict String PyValue) = built
  induction returnVariables generalizing built with
  | nil =>
      rfl
  | cons key keys inductionHypothesis =>
      rw [List.foldlM_cons, List.foldlM_cons, same key List.mem_cons_self]
      congr 1
      funext next
      exact inductionHypothesis
        (fun id member => same id (List.mem_cons_of_mem _ member)) next

omit [PythonArithmetic] in
/-- The parts of a result that are read off the variables. -/
theorem returned_congr {parse : String → Except ParseFailure Module}
    {request : ProgramRequest} {left right : ProgramState}
    (alike : Indistinguishable (relevant parse request) left right) :
    left.environment.get request.resultVariable =
        right.environment.get request.resultVariable ∧
      ∀ room,
        serializableBindings room left.environment
            request.returnVariables =
          serializableBindings room right.environment
            request.returnVariables := by
  refine ⟨alike.environment _ (.inr (.inl rfl)), fun room => ?_⟩
  cases wanted : request.returnVariables with
  | none =>
      rfl
  | some returnVariables =>
      apply serializableBindings_congr
      intro id member
      apply alike.environment
      right
      right
      rw [wanted]
      exact member

theorem alike_completeProgram
    (parse : String → Except ParseFailure Module)
    (request : ProgramRequest) :
    ∀ left right, Indistinguishable (relevant parse request) left right →
      ∀ other,
        (outcome (completeProgram runtime parse request) left).1 =
            (outcome (completeProgram runtime parse
              { request with initialContext := other }) right).1 ∧
          Indistinguishable (relevant parse request)
            (outcome (completeProgram runtime parse request) left).2
            (outcome (completeProgram runtime parse
              { request with initialContext := other }) right).2 := by
  intro left right start other
  have executes :
      Alike (relevant parse request)
        (execProgram runtime parse request.program)
        (execProgram runtime parse request.program) :=
    alike_execProgram parse request.program
      fun module parsed id member => .inl ⟨module, parsed, member⟩
  refine Alike.sequence executes (fun lastValue state state' alike => ?_)
    left right start
  obtain ⟨chosen, returned⟩ := returned_congr alike
  have same :
      successResult request lastValue state =
        successResult { request with initialContext := other } lastValue
          state' := by
    simp only [successResult, chosen, returned, alike.traces]
  simp only [outcome_bind, outcome_get, same]
  cases successResult { request with initialContext := other } lastValue
      state' with
  | ok result =>
      exact ⟨rfl, alike⟩
  | error error =>
      exact ⟨rfl, alike⟩

/-- Contexts that agree on the relevant variables lead to the same
invocations and the same result. -/
theorem run_eq_of_agree
    (parse : String → Except ParseFailure Module)
    (request : ProgramRequest) (other : Dict String PyValue)
    (agree : ∀ id, relevant parse request id →
      request.initialContext.get id = other.get id) :
    (run runtime parse request).1 =
        (run runtime parse { request with initialContext := other }).1 ∧
      (run runtime parse request).2.invocations =
        (run runtime parse
          { request with initialContext := other }).2.invocations := by
  have start : Indistinguishable (relevant parse request)
      { environment := request.initialContext }
      { environment := other } :=
    ⟨rfl, rfl, rfl, rfl, agree⟩
  have ends := @alike_completeProgram _ runtime parse request _ _ start other
  unfold run
  simp only
  generalize outcome (completeProgram runtime parse request)
    { environment := request.initialContext } = ended at ends ⊢
  generalize outcome (completeProgram runtime parse
    { request with initialContext := other })
    { environment := other } = ended' at ends ⊢
  obtain ⟨result, state⟩ := ended
  obtain ⟨result', state'⟩ := ended'
  obtain ⟨results, alike⟩ := ends
  simp only at results alike
  subst results
  refine ⟨?_, ?_⟩
  · cases result with
    | ok result =>
        rfl
    | error stop =>
        obtain ⟨chosen, returned⟩ := returned_congr alike
        simp only [RunEnding.ofFailure, failureResult, chosen, returned,
          alike.traces]
  · cases result with
    | ok result =>
        exact alike.invocations
    | error stop =>
        exact alike.invocations

end Runs

section Integers

open scoped Integers

/-- A program that evaluates `x` does not show what else there is. -/
theorem run_eq_of_agree_unused :
    (run { toolInvoker := fun _ _ => .timeout }
        (fun _ => .ok { body := [.expr (.name "x")], nodes := 4 })
        { program := "x"
          initialContext := [("x", .int 1), ("token", .str "secret")] }).1 =
      (run { toolInvoker := fun _ _ => .timeout }
        (fun _ => .ok { body := [.expr (.name "x")], nodes := 4 })
        { program := "x", initialContext := [("x", .int 1)] }).1 := by
  refine (run_eq_of_agree _
    { program := "x"
      initialContext := [("x", .int 1), ("token", .str "secret")] }
    [("x", .int 1)] ?_).1
  rintro id (⟨module, ⟨⟩, member⟩ | same | none)
  · have named : id = "x" := by
      simpa [namesOfStmts, Stmt.names, Expr.names] using member
    rw [named]
    rfl
  · have named : id = "result" := same
    rw [named]
    rfl
  · cases none

end Integers

end ToolboxMcp
