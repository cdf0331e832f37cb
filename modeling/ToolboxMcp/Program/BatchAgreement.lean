import ToolboxMcp.Program.BatchProgram
import ToolboxMcp.Program.CallBinding
import ToolboxMcp.Program.Results

/-!
# A batch and its program agree

Run against the same mounted tools, a batch and the program written for it make
the same calls and complete the same steps.  The simulation relates the engines
between two steps; what they disagree about is at the end.
-/

namespace ToolboxMcp

open Effect

/-! ## One step in both engines -/

section Simulation

/-- The tools were called alike, and the variables of the program are the ids
of the steps that completed. -/
structure Matches (tools : MountedTools) (batch : BatchState)
    (program : ProgramState) : Prop where
  invocations :
    tools.delivered [] program.invocations = batch.invocations
  completed :
    program.environment.map Prod.fst =
      (batch.results.filter fun result => !result.isError).map (·.id)

/-- Both engines between two steps; the program has the values of the steps
that are used. -/
structure Corresponds (tools : MountedTools) (used : String → Prop)
    (batch : BatchState) (program : ProgramState) : Prop where
  delivered : tools.delivered [] batch.invocations = batch.invocations
  invocations : program.invocations = batch.invocations
  counted : batch.invocations.length = batch.results.length
  traces : program.traces.length = batch.results.length
  completed : program.environment.map Prod.fst = batch.results.map (·.id)
  unbound :
    ∀ id, program.environment.get id = none ↔
      batch.resultsById.get id = none
  bound :
    ∀ id, used id →
      program.environment.get id =
        (batch.resultsById.get id).map BatchStepResult.value
  succeeded : ∀ result ∈ batch.results, result.isError = false
  settled :
    ∀ id result, batch.resultsById.get id = some result →
      result.isError = false ∧ (used id → result.value = result.data)

variable {tools : MountedTools} {used : String → Prop} {batch : BatchState}
  {program : ProgramState}

theorem Corresponds.filter (corresponds : Corresponds tools used batch program) :
    (batch.results.filter fun result => !result.isError) = batch.results := by
  apply List.filter_eq_self.mpr
  intro result member
  simp [corresponds.succeeded result member]

theorem Corresponds.matches (corresponds : Corresponds tools used batch program) :
    Matches tools batch program where
  invocations := by
    rw [corresponds.invocations]
    exact corresponds.delivered
  completed := by
    rw [corresponds.filter]
    exact corresponds.completed

/-- A step that fails, after the calls that `after` records. -/
theorem Corresponds.failed (corresponds : Corresponds tools used batch program)
    {after : BatchState} {later : ProgramState} {result : BatchStepResult}
    (failed : result.isError = true)
    (results : after.results = batch.results)
    (environment : later.environment = program.environment)
    (delivered :
      tools.delivered [] later.invocations = after.invocations) :
    Matches tools (after.record result) later where
  invocations := delivered
  completed := by
    simp [BatchState.record, List.filter_append, failed, environment, results,
      corresponds.matches.completed]

theorem mem_record (batch : BatchState) (result : BatchStepResult) :
    result ∈ (batch.record result).results :=
  List.mem_append_right _ (List.mem_singleton_self result)

theorem Corresponds.delivers (corresponds : Corresponds tools used batch program)
    {invocation : Invocation}
    (mounted :
      tools.isMountedTool batch.invocations invocation.tool = true) :
    tools.delivered [] (program.invocations ++ [invocation]) =
      batch.invocations ++ [invocation] := by
  rw [corresponds.invocations, delivered_concat, corresponds.delivered]
  simp [mounted]

theorem Corresponds.withholds (corresponds : Corresponds tools used batch program)
    {invocation : Invocation}
    (absent :
      tools.isMountedTool batch.invocations invocation.tool = false) :
    tools.delivered [] (program.invocations ++ [invocation]) =
      batch.invocations := by
  rw [corresponds.invocations, delivered_concat, corresponds.delivered]
  simp [absent]

theorem keys_set_of_get_eq_none {id : String} {value : PyValue}
    {environment : Dict String PyValue}
    (fresh : environment.get id = none) :
    (environment.set id value).map Prod.fst =
      environment.map Prod.fst ++ [id] := by
  apply KeyedList.keys_upsert_of_not_mem Prod.fst
  intro member
  have found := (KeyedList.lookup_isSome_iff Prod.fst).mpr member
  simp only [Dict.get, Option.map_eq_none_iff] at fresh
  rw [fresh] at found
  cases found

/-- A step that completed in both engines. -/
theorem Corresponds.completes
    (corresponds : Corresponds tools used batch program)
    (invocation : Invocation) (result : BatchStepResult) (value : PyValue)
    (trace : ProgramCallTrace)
    (mounted :
      tools.isMountedTool batch.invocations invocation.tool = true)
    (fresh : batch.resultsById.get result.id = none)
    (succeeded : result.isError = false)
    (same :
      used result.id →
        result.value = value ∧ result.value = result.data) :
    Corresponds tools used ((batch.called invocation).record result)
      { program with
        environment := program.environment.set result.id value
        invocations := program.invocations ++ [invocation]
        traces := program.traces ++ [trace] } where
  delivered := by
    have delivers := corresponds.delivers mounted
    rw [corresponds.invocations] at delivers
    exact delivers
  invocations := by
    simp only [BatchState.record, BatchState.called, corresponds.invocations]
  counted := by
    simp [BatchState.record, BatchState.called, corresponds.counted]
  traces := by
    simp [BatchState.record, BatchState.called, corresponds.traces]
  completed := by
    have unbound := (corresponds.unbound result.id).mpr fresh
    simp [BatchState.record, BatchState.called, corresponds.completed,
      keys_set_of_get_eq_none unbound]
  unbound := by
    intro id
    simp only [BatchState.record, BatchState.called, Dict.get_set]
    split
    · simp
    · exact corresponds.unbound id
  bound := by
    intro id isUsed
    simp only [BatchState.record, BatchState.called, Dict.get_set]
    split
    · rename_i here
      rw [here] at isUsed
      simp only [Option.map_some, (same isUsed).1]
    · exact corresponds.bound id isUsed
  succeeded := by
    intro found member
    rcases List.mem_append.mp member with earlier | new
    · exact corresponds.succeeded found earlier
    · rw [List.mem_singleton.mp new]
      exact succeeded
  settled := by
    intro id found read
    simp only [BatchState.record, BatchState.called, Dict.get_set] at read
    split at read
    · rename_i here
      cases read
      rw [here]
      exact ⟨succeeded, fun isUsed => (same isUsed).2⟩
    · exact corresponds.settled id found read

section Statements

variable {runtime : ToolProgramRuntime} [PythonArithmetic]

theorem outcome_callToolBuiltin {tool : String} {value : PyValue}
    (budget : program.traces.length < runtime.maxToolCalls) :
    outcome (callToolBuiltin runtime [.str tool, value] []) program =
      outcome
        (dispatch (some value) (some (.str tool)) >>= invokeTool runtime)
        program :=
  outcome_callToolBuiltin_picked budget (by simp)

/-- The call ends neither with a value nor with a cancellation. -/
def CallFails (runtime : ToolProgramRuntime) (program : ProgramState)
    (invocation : Invocation) : Prop :=
  (runtime.toolInvoker program.invocations invocation).raises ∨
    ∃ result,
      runtime.toolInvoker program.invocations invocation = .result result ∧
        (result.isError = true ∨
          ¬ invocation.fits (program.traces.length + 1))

theorem invokeTool_fails {invocation : Invocation}
    (fails : CallFails runtime program invocation) :
    ∃ stop final,
      outcome (invokeTool runtime invocation) program =
          (.error stop, final) ∧
        stop.failure.isSome = true ∧
        final.environment = program.environment ∧
        final.invocations = program.invocations ++ [invocation] := by
  rcases fails with raises | ⟨result, reply, failed⟩
  · unfold invokeTool
    simp only [outcome_bind, outcome_get, outcome_set]
    cases reply : runtime.toolInvoker program.invocations invocation with
    | timeout => exact ⟨_, _, rfl, rfl, rfl, rfl⟩
    | exception message => exact ⟨_, _, rfl, rfl, rfl, rfl⟩
    | cancelled =>
        rw [reply] at raises
        cases raises
    | result result =>
        rw [reply] at raises
        cases raises
  · rw [outcome_invokeTool_result reply]
    by_cases fits : invocation.fits (program.traces.length + 1)
    · have isError := failed.resolve_right (not_not_intro fits)
      rw [outcome_recordResult (by exact fits), if_pos isError]
      exact ⟨_, _, rfl, rfl, rfl, rfl⟩
    · rw [outcome_recordResult_overflow (by exact fits)]
      exact ⟨_, _, rfl, rfl, rfl, rfl⟩

theorem invokeTool_cancelled {invocation : Invocation}
    (reply :
      runtime.toolInvoker program.invocations invocation = .cancelled) :
    outcome (invokeTool runtime invocation) program =
      (.error .cancelled,
        { program with
          invocations := program.invocations ++ [invocation] }) := by
  unfold invokeTool
  rw [outcome_bind, outcome_get]
  simp only [outcome_bind, outcome_set, reply]
  rfl

theorem invokeTool_answers {invocation : Invocation} {result : ToolResult}
    (reply :
      runtime.toolInvoker program.invocations invocation = .result result)
    (succeeded : result.isError = false)
    (fits : invocation.fits (program.traces.length + 1)) :
    outcome (invokeTool runtime invocation) program =
      (.ok result.value,
        { program with
          invocations := program.invocations ++ [invocation]
          traces :=
            program.traces ++
              [result.trace (program.traces.length + 1) invocation] }) := by
  rw [outcome_invokeTool_result reply, outcome_recordResult (by exact fits),
    if_neg (by rw [succeeded]; exact Bool.false_ne_true)]

/-- Bind the answer of a call. -/
def bindAnswer (id : String) :
    Except Stop PyValue × ProgramState → Except Stop PyValue × ProgramState
  | (.error stop, final) => (.error stop, final)
  | (.ok answer, final) =>
      (.ok answer,
        { final with environment := final.environment.set id answer })

theorem outcome_callStatement {id tool : String} {arguments : Expr} :
    outcome (execStatement runtime (callStatement id tool arguments)) program =
      match outcome (evalExpression runtime arguments) program with
      | (.error stop, middle) => (.error stop, middle)
      | (.ok value, middle) =>
          bindAnswer id
            (outcome (callToolBuiltin runtime [.str tool, value] [])
              middle) := by
  unfold callStatement
  simp only [execStatement, evalExpression, evalExpressions, evalKeywords,
    outcome_bind, outcome_pure]
  rcases outcome (evalExpression runtime arguments) program with
    ⟨stop | value, middle⟩
  · rfl
  · simp only [applyFunction, keywordDict, List.foldl_nil]
    rcases outcome (callToolBuiltin runtime [.str tool, value] []) middle with
      ⟨stop | answer, final⟩
    · rfl
    · rfl

/-- Arguments that are neither an object nor absent. -/
theorem call_refuses {id tool : String} {arguments : Expr} {value : PyValue}
    (budget : program.traces.length < runtime.maxToolCalls)
    (read : outcome (evalExpression runtime arguments) program =
      (.ok value, program))
    (other : ∀ entries, value ≠ .dict entries) (present : value ≠ .none) :
    ∃ error,
      outcome (execStatement runtime (callStatement id tool arguments))
          program =
        (.error (.error error), program) := by
  rw [outcome_callStatement, read]
  simp only [outcome_callToolBuiltin budget]
  cases value with
  | none => exact absurd rfl present
  | dict entries => exact absurd rfl (other entries)
  | bool value => exact ⟨_, rfl⟩
  | int value => exact ⟨_, rfl⟩
  | float literal => exact ⟨_, rfl⟩
  | complex literal => exact ⟨_, rfl⟩
  | bytes items => exact ⟨_, rfl⟩
  | str value => exact ⟨_, rfl⟩
  | list items => exact ⟨_, rfl⟩
  | tuple items => exact ⟨_, rfl⟩
  | date isoformat => exact ⟨_, rfl⟩
  | object className identity => exact ⟨_, rfl⟩

theorem outcome_call {id tool : String} {arguments : Expr}
    {entries : List (String × PyValue)}
    (budget : program.traces.length < runtime.maxToolCalls)
    (read : outcome (evalExpression runtime arguments) program =
      (.ok (.dict entries), program)) :
    outcome (execStatement runtime (callStatement id tool arguments)) program =
      bindAnswer id (outcome (invokeTool runtime ⟨tool, entries⟩) program) := by
  rw [outcome_callStatement, read]
  simp only [outcome_callToolBuiltin budget]
  rfl

end Statements

theorem callMountedTool_of_mounted {invocation : Invocation}
    (mounted :
      tools.isMountedTool batch.invocations invocation.tool = true) :
    tools.callMountedTool batch.invocations invocation =
      tools.callTool batch.invocations invocation := by
  simp [MountedTools.callMountedTool, mounted]

section Attempts

variable {reader : TextReader} {step : BatchStep} [PythonArithmetic]

theorem attemptStep_unresolved {message : String}
    (resolved :
      resolveBatchValue reader batch.resultsById (.dict step.arguments) =
        .error message) :
    outcome (attemptStep reader tools step) batch =
      (.error (.exception message), batch) := by
  unfold attemptStep
  simp only [outcome_bind, outcome_get, outcome_fromExcept, resolved,
    Except.mapError]

theorem attemptStep_not_object {value : PyValue}
    (resolved :
      resolveBatchValue reader batch.resultsById (.dict step.arguments) =
        .ok value)
    (other : ∀ entries, value ≠ .dict entries) :
    ∃ message,
      outcome (attemptStep reader tools step) batch =
        (.error (.exception message), batch) := by
  have refused : ∃ message, stepArguments step value = .error message := by
    unfold stepArguments
    split
    · exact absurd rfl (other _)
    · exact ⟨_, rfl⟩
  obtain ⟨message, refused⟩ := refused
  refine ⟨message, ?_⟩
  unfold attemptStep
  simp only [outcome_bind, outcome_get, outcome_fromExcept, resolved,
    Except.mapError, refused]

theorem outcome_attemptStep {entries : List (String × PyValue)}
    (resolved :
      resolveBatchValue reader batch.resultsById (.dict step.arguments) =
        .ok (.dict entries)) :
    outcome (attemptStep reader tools step) batch =
      if tools.isMountedTool batch.invocations step.tool then
        outcome (answerStep reader tools step entries) batch
      else
        (.error (.exception
          ("Batch step " ++ step.id ++ " references unknown mounted tool: " ++
            step.tool)), batch) := by
  unfold attemptStep
  simp only [outcome_bind, outcome_get, outcome_fromExcept, resolved,
    Except.mapError, stepArguments]
  split
  · rfl
  · rfl

/-- The result of a step whose call answered. -/
def answeredResult (step : BatchStep) (entries : List (String × PyValue))
    (data : PyValue) (result : ToolResult) : BatchStepResult where
  id := step.id
  tool := step.tool
  resolvedArguments := PyValue.redactedEntries entries
  data := data
  text := joinedTextContent result
  isError := result.isError
  errorMessage :=
    if result.isError then joinedTextContent result else none

section Answers

variable {entries : List (String × PyValue)} {result : ToolResult}

/-- A call that has no answer. -/
theorem outcome_answerStep_unanswered
    (mounted : tools.isMountedTool batch.invocations step.tool = true) :
    (tools.callTool batch.invocations ⟨step.tool, entries⟩ = .cancelled →
      outcome (answerStep reader tools step entries) batch =
        (.error .cancelled, batch.called ⟨step.tool, entries⟩)) ∧
    ((tools.callTool batch.invocations ⟨step.tool, entries⟩).raises →
      ∃ message,
        outcome (answerStep reader tools step entries) batch =
          (.error (.exception message),
            batch.called ⟨step.tool, entries⟩)) := by
  have reply :=
    @callMountedTool_of_mounted tools batch ⟨step.tool, entries⟩ mounted
  unfold answerStep callStepTool
  simp only [outcome_bind, outcome_get, outcome_set, reply]
  cases tools.callTool batch.invocations ⟨step.tool, entries⟩ with
  | timeout => exact ⟨nofun, fun _ => ⟨_, rfl⟩⟩
  | exception message => exact ⟨nofun, fun _ => ⟨_, rfl⟩⟩
  | cancelled => exact ⟨fun _ => rfl, False.elim⟩
  | result result => exact ⟨nofun, False.elim⟩

/-- An answer that is normalised, to arguments that are redacted. -/
theorem outcome_answerStep {data : PyValue} {text : Option String}
    (mounted : tools.isMountedTool batch.invocations step.tool = true)
    (answer :
      tools.callTool batch.invocations ⟨step.tool, entries⟩ =
        .result result)
    (normalized : normalizeCallResult reader result = .ok (data, text))
    (named : text = joinedTextContent result)
    (fits : (PyValue.dict entries).depth ≤ PythonStack.batchRoom) :
    outcome (answerStep reader tools step entries) batch =
      (.ok (answeredResult step entries data result),
        batch.called ⟨step.tool, entries⟩) := by
  have reply :=
    @callMountedTool_of_mounted tools batch ⟨step.tool, entries⟩ mounted
  have redacted :
      redactedArguments entries = .ok (PyValue.redactedEntries entries) :=
    if_pos fits
  unfold answerStep callStepTool
  simp only [outcome_bind, outcome_get, outcome_set, reply, answer,
    outcome_pure, outcome_fromExcept, normalized, redacted,
    Except.mapError, named]
  rfl

theorem outcome_answerStep_raises
    (mounted : tools.isMountedTool batch.invocations step.tool = true)
    (answer :
      tools.callTool batch.invocations ⟨step.tool, entries⟩ =
        .result result)
    (raises :
      (∃ message, normalizeCallResult reader result = .error message) ∨
        ¬ (PyValue.dict entries).depth ≤ PythonStack.batchRoom) :
    ∃ message,
      outcome (answerStep reader tools step entries) batch =
        (.error (.exception message),
          batch.called ⟨step.tool, entries⟩) := by
  have reply :=
    @callMountedTool_of_mounted tools batch ⟨step.tool, entries⟩ mounted
  unfold answerStep callStepTool
  simp only [outcome_bind, outcome_get, outcome_set, reply, answer,
    outcome_pure, outcome_fromExcept]
  cases normalized : normalizeCallResult reader result with
  | error message =>
      exact ⟨message, rfl⟩
  | ok both =>
      have overflows := raises.resolve_left (by simp [normalized])
      have redacted :
          redactedArguments entries = .error (.exception recursionText) :=
        if_neg overflows
      simp only [Except.mapError, redacted]
      exact ⟨_, rfl⟩

end Answers

end Attempts

/-- How a step ends in the batch and its statement in the program. -/
inductive StepEnds (tools : MountedTools) (used : String → Prop) :
    Except BatchStop BatchStepResult × BatchState →
      Except Stop PyValue × ProgramState → Prop where
  | completes {result : BatchStepResult} {batch : BatchState}
      {value : PyValue} {program : ProgramState} :
      result.isError = false → Corresponds tools used batch program →
      StepEnds tools used (.ok result, batch) (.ok value, program)
  | fails {result : BatchStepResult} {batch : BatchState}
      {stop : Stop} {program : ProgramState} :
      result.isError = true → result ∈ batch.results →
      stop.failure.isSome = true → Matches tools batch program →
      StepEnds tools used (.ok result, batch) (.error stop, program)
  | cancelled {batch : BatchState} {program : ProgramState} :
      Matches tools batch program →
      StepEnds tools used (.error .cancelled, batch)
        (.error .cancelled, program)

/-- Both engines read the answer alike: `json.loads` leaves a text that is used
alone and raises on no other, and the arguments fit the stack of both engines
or of neither.  An answer that is an error fails the step in any case. -/
def ReadAlike [PythonStack] (reader : TextReader) (isUsed : Prop)
    (index : Nat) (invocation : Invocation) (result : ToolResult) : Prop :=
  result.isError = false →
    Decodable reader result ∧ (isUsed → Undecoded reader result) ∧
      ((PyValue.dict invocation.arguments).depth ≤ PythonStack.batchRoom ↔
        invocation.fits (index + 1))

section Steps

variable {runtime : ToolProgramRuntime} [PythonArithmetic]

/-- The call reaches its tool and fails. -/
theorem Corresponds.callFails
    (corresponds : Corresponds tools used batch program)
    {invocation : Invocation} {result : BatchStepResult} {id : String}
    (mounted :
      tools.isMountedTool batch.invocations invocation.tool = true)
    (failed : result.isError = true)
    (fails : CallFails runtime program invocation) :
    StepEnds tools used (.ok result, (batch.called invocation).record result)
      (bindAnswer id (outcome (invokeTool runtime invocation) program)) := by
  obtain ⟨stop, final, invoked, failure, environment, invocations⟩ :=
    invokeTool_fails fails
  rw [invoked]
  apply StepEnds.fails failed (mem_record _ result) failure
  refine corresponds.failed failed ?_ environment ?_
  · rfl
  · rw [invocations]
    exact corresponds.delivers mounted

variable {reader : TextReader} {step : BatchStep}
  {entries : List (String × PyValue)}

/-- The body of the step raises after its call, and the call fails. -/
theorem Corresponds.callRaises
    (corresponds : Corresponds tools used batch program)
    (mounted : tools.isMountedTool batch.invocations step.tool = true)
    (resolved :
      resolveBatchValue reader batch.resultsById (.dict step.arguments) =
        .ok (.dict entries))
    (raises :
      ∃ message,
        outcome (answerStep reader tools step entries) batch =
          (.error (.exception message),
            batch.called ⟨step.tool, entries⟩))
    (fails : CallFails runtime program ⟨step.tool, entries⟩) :
    StepEnds tools used (outcome (runStep reader tools step) batch)
      (bindAnswer step.id
        (outcome (invokeTool runtime ⟨step.tool, entries⟩) program)) := by
  obtain ⟨message, raised⟩ := raises
  rw [outcome_runStep, outcome_attemptStep resolved, if_pos mounted, raised]
  exact corresponds.callFails mounted rfl fails

/-- The call is answered without an error. -/
theorem Corresponds.callAnswers
    (corresponds : Corresponds tools used batch program)
    {result : ToolResult}
    (fresh : batch.resultsById.get step.id = none)
    (mounted : tools.isMountedTool batch.invocations step.tool = true)
    (resolved :
      resolveBatchValue reader batch.resultsById (.dict step.arguments) =
        .ok (.dict entries))
    (answer :
      tools.callTool batch.invocations ⟨step.tool, entries⟩ =
        .result result)
    (reply :
      runtime.toolInvoker program.invocations ⟨step.tool, entries⟩ =
        .result result)
    (succeeded : result.isError = false)
    (alike :
      ReadAlike reader (used step.id) batch.invocations.length
        ⟨step.tool, entries⟩ result) :
    StepEnds tools used (outcome (runStep reader tools step) batch)
      (bindAnswer step.id
        (outcome (invokeTool runtime ⟨step.tool, entries⟩) program)) := by
  obtain ⟨decodable, undecoded, room⟩ := alike succeeded
  have index : batch.invocations.length = program.traces.length :=
    corresponds.counted.trans corresponds.traces.symm
  rw [index] at room
  obtain ⟨data, normalized⟩ := normalizeCallResult_decodable decodable
  by_cases fits : (PyValue.dict entries).depth ≤ PythonStack.batchRoom
  · rw [outcome_runStep, outcome_attemptStep resolved, if_pos mounted,
      outcome_answerStep mounted answer normalized rfl fits,
      invokeTool_answers reply succeeded (room.mp fits)]
    refine .completes succeeded (corresponds.completes ⟨step.tool, entries⟩
      (answeredResult step entries data result) result.value _ mounted fresh
        succeeded fun isUsed => ?_)
    have left := normalizeCallResult_undecoded (undecoded isUsed)
    rw [normalized] at left
    cases left
    have value :
        (answeredResult step entries result.value result).value =
          result.value :=
      value_of_data text_of_value_eq_none
    exact ⟨value, value⟩
  · exact corresponds.callRaises mounted resolved
      (outcome_answerStep_raises mounted answer (.inr fits))
      (.inr ⟨result, reply, .inr (mt room.mpr fits)⟩)

/-- The call is answered with an error. -/
theorem Corresponds.callRefuses
    (corresponds : Corresponds tools used batch program)
    {result : ToolResult}
    (mounted : tools.isMountedTool batch.invocations step.tool = true)
    (resolved :
      resolveBatchValue reader batch.resultsById (.dict step.arguments) =
        .ok (.dict entries))
    (answer :
      tools.callTool batch.invocations ⟨step.tool, entries⟩ =
        .result result)
    (reply :
      runtime.toolInvoker program.invocations ⟨step.tool, entries⟩ =
        .result result)
    (failed : result.isError = true) :
    StepEnds tools used (outcome (runStep reader tools step) batch)
      (bindAnswer step.id
        (outcome (invokeTool runtime ⟨step.tool, entries⟩) program)) := by
  have fails : CallFails runtime program ⟨step.tool, entries⟩ :=
    .inr ⟨result, reply, .inl failed⟩
  by_cases decodable : Decodable reader result
  · obtain ⟨data, normalized⟩ := normalizeCallResult_decodable decodable
    by_cases fits : (PyValue.dict entries).depth ≤ PythonStack.batchRoom
    · rw [outcome_runStep, outcome_attemptStep resolved, if_pos mounted,
        outcome_answerStep mounted answer normalized rfl fits]
      exact corresponds.callFails mounted failed fails
    · exact corresponds.callRaises mounted resolved
        (outcome_answerStep_raises mounted answer (.inr fits)) fails
  · have raises :
        ∃ message, normalizeCallResult reader result = .error message :=
      normalizeCallResult_raises decodable
    exact corresponds.callRaises mounted resolved
      (outcome_answerStep_raises mounted answer (.inl raises)) fails

/-- The call reaches its tool. -/
theorem Corresponds.callEnds
    (corresponds : Corresponds tools used batch program)
    (fresh : batch.resultsById.get step.id = none)
    (mounted : tools.isMountedTool batch.invocations step.tool = true)
    (resolved :
      resolveBatchValue reader batch.resultsById (.dict step.arguments) =
        .ok (.dict entries))
    (alike : ∀ result,
      tools.callTool batch.invocations ⟨step.tool, entries⟩ =
          .result result →
        ReadAlike reader (used step.id) batch.invocations.length
          ⟨step.tool, entries⟩ result)
    (reply :
      runtime.toolInvoker program.invocations ⟨step.tool, entries⟩ =
        tools.callTool batch.invocations ⟨step.tool, entries⟩) :
    StepEnds tools used (outcome (runStep reader tools step) batch)
      (bindAnswer step.id
        (outcome (invokeTool runtime ⟨step.tool, entries⟩) program)) := by
  obtain ⟨cancels, raises⟩ :=
    @outcome_answerStep_unanswered tools batch reader step _ entries mounted
  cases answer : tools.callTool batch.invocations ⟨step.tool, entries⟩ with
  | timeout =>
      apply corresponds.callRaises mounted resolved
      · exact raises (by rw [answer]; trivial)
      · exact .inl (by rw [reply, answer]; trivial)
  | exception message =>
      apply corresponds.callRaises mounted resolved
      · exact raises (by rw [answer]; trivial)
      · exact .inl (by rw [reply, answer]; trivial)
  | cancelled =>
      rw [outcome_runStep, outcome_attemptStep resolved, if_pos mounted,
        cancels answer, invokeTool_cancelled (reply.trans answer)]
      exact .cancelled ⟨corresponds.delivers mounted,
        corresponds.matches.completed⟩
  | result result =>
      cases failed : result.isError with
      | true =>
          exact corresponds.callRefuses mounted resolved answer
            (reply.trans answer) failed
      | false =>
          exact corresponds.callAnswers fresh mounted resolved answer
            (reply.trans answer) failed (alike result answer)

variable {arguments : Expr}

/-- Both engines refuse the arguments, and call nothing. -/
theorem Corresponds.refuses
    (corresponds : Corresponds tools used batch program)
    {message : String} {error : PyError}
    (attempted :
      outcome (attemptStep reader tools step) batch =
        (.error (.exception message), batch))
    (executed :
      outcome (execStatement runtime
          (callStatement step.id step.tool arguments)) program =
        (.error (.error error), program)) :
    StepEnds tools used (outcome (runStep reader tools step) batch)
      (outcome (execStatement runtime
        (callStatement step.id step.tool arguments)) program) := by
  rw [outcome_runStep, attempted, executed]
  apply StepEnds.fails rfl (mem_record batch _)
  · cases error with
    | valueError message => rfl
    | exception message => rfl
  · apply corresponds.failed rfl rfl rfl
    exact corresponds.matches.invocations

/-- Both engines have the arguments of a call. -/
theorem Corresponds.calls
    (corresponds : Corresponds tools used batch program)
    (invoker : runtime.toolInvoker = tools.callMountedTool)
    (fresh : batch.resultsById.get step.id = none)
    (budget : program.traces.length < runtime.maxToolCalls)
    (resolved :
      resolveBatchValue reader batch.resultsById (.dict step.arguments) =
        .ok (.dict entries))
    (alike : tools.isMountedTool batch.invocations step.tool = true →
      ∀ result,
        tools.callTool batch.invocations ⟨step.tool, entries⟩ =
            .result result →
          ReadAlike reader (used step.id) batch.invocations.length
            ⟨step.tool, entries⟩ result)
    (read : outcome (evalExpression runtime arguments) program =
      (.ok (.dict entries), program)) :
    StepEnds tools used (outcome (runStep reader tools step) batch)
      (outcome (execStatement runtime
        (callStatement step.id step.tool arguments)) program) := by
  have asked :
      runtime.toolInvoker program.invocations ⟨step.tool, entries⟩ =
        tools.callMountedTool batch.invocations ⟨step.tool, entries⟩ := by
    rw [invoker, corresponds.invocations]
  rw [outcome_call budget read]
  cases mounted : tools.isMountedTool batch.invocations step.tool with
  | true =>
      apply corresponds.callEnds fresh mounted resolved (alike mounted)
      simp [asked, MountedTools.callMountedTool, mounted]
  | false =>
      have fails : CallFails runtime program ⟨step.tool, entries⟩ := by
        left
        simp [asked, MountedTools.callMountedTool, mounted,
          InvokerReply.raises]
      obtain ⟨stop, final, invoked, failure, environment, invocations⟩ :=
        invokeTool_fails fails
      rw [outcome_runStep, outcome_attemptStep resolved, mounted, invoked]
      apply StepEnds.fails rfl (mem_record batch _) failure
      apply corresponds.failed rfl rfl environment
      rw [invocations]
      exact corresponds.withholds mounted

theorem step_ends (corresponds : Corresponds tools used batch program)
    (invoker : runtime.toolInvoker = tools.callMountedTool)
    (alike : ∀ entries result,
      resolveBatchValue reader batch.resultsById (.dict step.arguments) =
          .ok (.dict entries) →
        tools.isMountedTool batch.invocations step.tool = true →
        tools.callTool batch.invocations ⟨step.tool, entries⟩ =
            .result result →
          ReadAlike reader (used step.id) batch.invocations.length
            ⟨step.tool, entries⟩ result)
    (fresh : batch.resultsById.get step.id = none)
    (budget : program.traces.length < runtime.maxToolCalls)
    (present :
      resolveBatchValue reader batch.resultsById (.dict step.arguments) ≠
        .ok .none)
    (yields :
      Yields
        (resolveBatchValue reader batch.resultsById (.dict step.arguments))
        (evalExpression runtime arguments) program) :
    StepEnds tools used (outcome (runStep reader tools step) batch)
      (outcome (execStatement runtime
        (callStatement step.id step.tool arguments)) program) := by
  cases resolved :
      resolveBatchValue reader batch.resultsById (.dict step.arguments) with
  | error message =>
      rw [resolved] at yields
      obtain ⟨error, raised⟩ := yields
      apply corresponds.refuses (attemptStep_unresolved resolved)
      rw [outcome_callStatement, raised]
  | ok value =>
      rw [resolved] at yields present
      have read :
          outcome (evalExpression runtime arguments) program =
            (.ok value, program) := yields
      by_cases object : ∃ entries, value = .dict entries
      · obtain ⟨entries, rfl⟩ := object
        exact corresponds.calls invoker fresh budget resolved
          (fun mounted result => alike entries result resolved mounted) read
      · have other : ∀ entries, value ≠ .dict entries :=
          fun entries same => object ⟨entries, same⟩
        have absent : value ≠ .none :=
          fun same => present (congrArg Except.ok same)
        obtain ⟨message, attempted⟩ := attemptStep_not_object resolved other
        obtain ⟨error, executed⟩ := call_refuses budget read other absent
        exact corresponds.refuses attempted executed

end Steps

/-- How the steps end in the batch and their program. -/
inductive RunEnds (tools : MountedTools) (used : String → Prop)
    (ids : List String) :
    Except BatchStop Bool × BatchState →
      Except Stop PyValue × ProgramState → Prop where
  | completes {batch : BatchState} {value : PyValue}
      {program : ProgramState} :
      Corresponds tools used batch program →
      batch.results.map (·.id) = ids →
      RunEnds tools used ids (.ok false, batch) (.ok value, program)
  | fails {batch : BatchState} {stop : Stop} {program : ProgramState} :
      (∃ result ∈ batch.results, result.isError = true) →
      stop.failure.isSome = true → Matches tools batch program →
      RunEnds tools used ids (.ok true, batch) (.error stop, program)
  | cancelled {batch : BatchState} {program : ProgramState} :
      Matches tools batch program →
      RunEnds tools used ids (.error .cancelled, batch)
        (.error .cancelled, program)

section Runs

theorem corresponds_start :
    Corresponds tools used {} { environment := [] } where
  delivered := rfl
  invocations := rfl
  counted := rfl
  traces := rfl
  completed := rfl
  unbound id := by
    constructor <;> exact fun _ => rfl
  bound _ _ := rfl
  succeeded := nofun
  settled := nofun

theorem batchProgram_cons {reader : TextReader} {lists : List String → Bool}
    {literal : PyValue → Expr} {step : BatchStep} {steps : List BatchStep}
    {body : List Stmt}
    (written :
      batchProgram reader lists literal (step :: steps) = some body) :
    ∃ arguments later,
      writeValue reader lists literal (.dict step.arguments) =
          some arguments ∧
        batchProgram reader lists literal steps = some later ∧
        body = callStatement step.id step.tool arguments :: later := by
  unfold batchProgram at written
  split at written
  · rename_i statement later wroteHere wroteLater
    obtain ⟨arguments, wrote, rfl⟩ := Option.map_eq_some_iff.mp wroteHere
    cases written
    exact ⟨arguments, later, wrote, wroteLater, rfl⟩
  · cases written

variable {reader : TextReader} {results final : Dict String BatchStepResult}

theorem resolve_none_mono {entries : List (String × PyValue)}
    (kept : ∀ id result, results.get id = some result →
      final.get id = some result)
    (resolved :
      resolveBatchValue reader results (.dict entries) = .ok .none) :
    resolveBatchValue reader final (.dict entries) = .ok .none := by
  unfold resolveBatchValue at resolved ⊢
  split at resolved
  · rename_i reference whole
    unfold extractBatchReference at resolved ⊢
    cases tokens : batchTokens reference with
    | nil =>
        rw [tokens] at resolved
        cases resolved
    | cons stepId rest =>
        rw [tokens] at resolved
        cases found : results.get stepId with
        | none =>
            simp only [found] at resolved
            cases resolved
        | some result =>
            simp only [found] at resolved
            simp only [kept stepId result found]
            exact resolved
  · cases resolved
  · cases entered : resolveBatchEntries reader results entries with
    | error message =>
        rw [entered] at resolved
        cases resolved
    | ok rest =>
        rw [entered] at resolved
        cases resolved

theorem listsIn_of_descend
    (kept : ∀ id result, results.get id = some result →
      final.get id = some result)
    {id : String} {result : BatchStepResult} {taken : List String}
    {value : PyValue} (found : results.get id = some result)
    (leads : descend reader result.value taken = .ok value) :
    listsIn reader final (id :: taken) = value.isList := by
  simp only [listsIn, kept id result found, leads]

variable [PythonArithmetic] {runtime : ToolProgramRuntime}
variable {literal : PyValue → Expr}

/-- A step whose arguments resolve calls its mounted tool, and no later step
takes the call back. -/
theorem invocation_of_resolved {step : BatchStep} {steps : List BatchStep}
    {entries : List (String × PyValue)}
    (resolved :
      resolveBatchValue reader batch.resultsById (.dict step.arguments) =
        .ok (.dict entries))
    (mounted : tools.isMountedTool batch.invocations step.tool = true) :
    batch.invocations ++ [⟨step.tool, entries⟩] <+:
      (outcome (runSteps reader tools false (step :: steps))
        batch).2.invocations := by
  have called :
      (outcome (runStep reader tools step) batch).2.invocations =
        batch.invocations ++ [⟨step.tool, entries⟩] := by
    have body := @answerStep_calls reader tools _ step entries batch
    rw [outcome_runStep, outcome_attemptStep resolved, if_pos mounted]
    rcases ended : outcome (answerStep reader tools step entries) batch with
      ⟨(message | _) | result, final⟩
    · rw [ended] at body
      exact congrArg BatchState.invocations body
    · rw [ended] at body
      exact congrArg BatchState.invocations body
    · rw [ended] at body
      exact congrArg BatchState.invocations body
  unfold runSteps
  rw [outcome_bind, ← called]
  rcases outcome (runStep reader tools step) batch with
    ⟨stop | result, middle⟩
  · exact List.prefix_rfl
  · simp only
    split
    · exact List.prefix_rfl
    · exact runSteps_prolong false steps middle

/-- What is recorded stays, as no later step has its id. -/
theorem get_final {steps : List BatchStep} {batch : BatchState}
    (fresh : ∀ step ∈ steps, batch.resultsById.get step.id = none)
    {id : String} {result : BatchStepResult}
    (found : batch.resultsById.get id = some result) :
    (outcome (runSteps reader tools false steps) batch).2.resultsById.get
      id = some result := by
  rw [runSteps_keep steps batch id]
  · exact found
  · intro member
    obtain ⟨other, among, rfl⟩ := List.mem_map.mp member
    rw [fresh other among] at found
    cases found

omit [PythonArithmetic] in
/-- Recording a step leaves the ids of the later ones free. -/
theorem fresh_later {step : BatchStep} {steps : List BatchStep}
    {byId : Dict String BatchStepResult}
    (distinct : ((step :: steps).map (·.id)).Nodup)
    (fresh : ∀ other ∈ step :: steps, byId.get other.id = none)
    (result : BatchStepResult) :
    ∀ other ∈ steps, (byId.set step.id result).get other.id = none := by
  intro other among
  have unseen := (List.nodup_cons.mp distinct).1
  have different : other.id ≠ step.id := by
    intro same
    apply unseen
    simp only [← same]
    exact List.mem_map_of_mem among
  rw [Dict.get_set, if_neg different]
  exact fresh other (List.mem_cons_of_mem step among)

theorem steps_end
    (invoker : runtime.toolInvoker = tools.callMountedTool)
    (strings : ∀ name, PythonArithmetic.str (.str name) = .ok name)
    (denotes : Denotes runtime literal)
    (steps : List BatchStep) :
    ∀ before body batch program last,
      (∀ step ∈ steps, ∀ id ∈ referencedIds (.dict step.arguments),
        used id) →
      (∀ earlier invocation result step,
        earlier ++ [invocation] <+:
            (outcome (runSteps reader tools false steps)
              batch).2.invocations →
          (before ++ steps)[earlier.length]? = some step →
          tools.callTool earlier invocation = .result result →
            ReadAlike reader (used step.id) earlier.length invocation
              result) →
      before.length = batch.results.length →
      batchProgram reader (listsIn reader final) literal steps = some body →
      final =
        (outcome (runSteps reader tools false steps) batch).2.resultsById →
      Corresponds tools used batch program →
      (steps.map (·.id)).Nodup →
      (∀ step ∈ steps, batch.resultsById.get step.id = none) →
      program.traces.length + steps.length ≤ runtime.maxToolCalls →
      (∀ step ∈ steps,
        resolveBatchValue reader final (.dict step.arguments) ≠ .ok .none) →
      RunEnds tools used (batch.results.map (·.id) ++ steps.map (·.id))
        (outcome (runSteps reader tools false steps) batch)
        (outcome (execBlock runtime body last) program) := by
  induction steps with
  | nil =>
      rintro before body batch program last named alike position ⟨⟩ ends
        corresponds distinct fresh budget present
      unfold runSteps execBlock
      exact .completes corresponds (by simp)
  | cons step steps inductionHypothesis =>
      intro before body batch program last named alike position written ends
        corresponds distinct fresh budget present
      obtain ⟨arguments, later, wrote, wroteLater, rfl⟩ :=
        batchProgram_cons written
      have freshHere := fresh step List.mem_cons_self
      have kept : ∀ id result, batch.resultsById.get id = some result →
          final.get id = some result := by
        intro id result found
        rw [ends]
        exact get_final fresh found
      have reads :
          Reads reader (listsIn reader final) used batch.resultsById
            program :=
        { bound := corresponds.bound
          settled := fun id result found =>
            (corresponds.settled id result found).1
          known := fun id result taken value found leads =>
            listsIn_of_descend kept found leads }
      have yields :=
        value_yields strings denotes reads _ arguments
          (named step List.mem_cons_self) wrote
      have room : program.traces.length < runtime.maxToolCalls := by
        simp only [List.length_cons] at budget
        omega
      have here :
          (before ++ step :: steps)[batch.invocations.length]? =
            some step := by
        rw [corresponds.counted, ← position]
        simp
      have ended :=
        step_ends corresponds invoker
          (fun entries result resolved mounted answer =>
            alike _ _ result step (invocation_of_resolved resolved mounted)
              here answer)
          freshHere room
          (fun absent => present step List.mem_cons_self
            (resolve_none_mono kept absent)) yields
      have records :
          wp (runStep reader tools step) _ _ batch :=
        runStep_records step batch
      unfold wp at records
      unfold runSteps at ends alike ⊢
      unfold execBlock
      rw [outcome_bind] at ends alike ⊢
      rw [outcome_bind]
      generalize outcome (runStep reader tools step) batch = ran
        at ended ends alike records ⊢
      generalize
        outcome (execStatement runtime
          (callStatement step.id step.tool arguments)) program = executed
        at ended ⊢
      cases ended with
      | @completes result middle value program' succeeded after =>
          obtain ⟨identified, grown, byId⟩ := records
          simp only [succeeded, Bool.false_and, Bool.false_eq_true, if_false]
            at ends alike ⊢
          have distinctLater := (List.nodup_cons.mp distinct).2
          have freshLater :
              ∀ other ∈ steps, middle.resultsById.get other.id = none := by
            rw [byId]
            exact fresh_later distinct fresh result
          have roomLater :
              program'.traces.length + steps.length ≤
                runtime.maxToolCalls := by
            have counted := corresponds.traces
            have countedLater := after.traces
            rw [grown, List.length_append, List.length_singleton]
              at countedLater
            simp only [List.length_cons] at budget
            omega
          have positionLater :
              (before ++ [step]).length = middle.results.length := by
            rw [grown, List.length_append, List.length_append, position]
            rfl
          rw [List.append_cons] at alike
          have rest :=
            inductionHypothesis (before ++ [step]) later middle program' value
              (fun other among => named other (List.mem_cons_of_mem _ among))
              alike positionLater wroteLater ends after distinctLater
              freshLater roomLater
              fun other among => present other (List.mem_cons_of_mem _ among)
          have ids :
              middle.results.map (·.id) ++ steps.map (·.id) =
                batch.results.map (·.id) ++ (step :: steps).map (·.id) := by
            simp [grown, identified]
          rw [ids] at rest
          exact rest
      | fails failed recorded failure agrees =>
          simp only [failed, Bool.not_false, Bool.and_self, if_true]
          exact .fails ⟨_, recorded, failed⟩ failure agrees
      | cancelled agrees =>
          exact .cancelled agrees

end Runs

end Simulation

/-! ## The two engines -/

/-- Both engines make the same calls, complete the same steps and end alike;
on success the batch returns what the program bound to the selected id. -/
structure EnginesAgree (tools : MountedTools) (selected : Option String)
    (batch : Option BatchRunResult × BatchState)
    (program : RunEnding × ProgramState) : Prop where
  invocations :
    tools.delivered [] program.2.invocations = batch.2.invocations
  completed :
    program.2.environment.map Prod.fst =
      (batch.2.results.filter fun result => !result.isError).map (·.id)
  cancelled : batch.1 = none ↔ program.1 = .cancelled
  success : batch.1.map (·.success) = program.1.result?.map (·.success)
  finalData :
    ∀ result, batch.1 = some result → result.success = true →
      result.finalData =
        (selected.bind fun id => program.2.environment.get id).getD .none

/-- A reference or the final step of the batch reads the step. -/
def UsedIn (steps : List BatchStep) (finalStep : Option String)
    (id : String) : Prop :=
  (∃ step ∈ steps, id ∈ referencedIds (.dict step.arguments)) ∨
    selectedStep finalStep (steps.map (·.id)) = some id

section Agreement

variable {tools : MountedTools} {reader : TextReader} {used : String → Prop}

theorem duplicateId?_eq_none {steps : List BatchStep} :
    ∀ seenIds : List String, (steps.map (·.id)).Nodup →
      (∀ step ∈ steps, step.id ∉ seenIds) →
      duplicateId? seenIds steps = none := by
  induction steps with
  | nil =>
      intro seenIds distinct unseen
      rfl
  | cons step steps inductionHypothesis =>
      intro seenIds distinct unseen
      unfold duplicateId?
      rw [if_neg (unseen step List.mem_cons_self)]
      apply inductionHypothesis _ (List.nodup_cons.mp distinct).2
      intro other among member
      rcases List.mem_cons.mp member with same | earlier
      · apply (List.nodup_cons.mp distinct).1
        simp only [← same]
        exact List.mem_map_of_mem among
      · exact unseen other (List.mem_cons_of_mem step among) earlier

theorem selectedStep_ne_empty {finalStep : Option String} {ids : List String}
    {id : String} (named : ∀ id ∈ ids, id ≠ "")
    (selected : selectedStep finalStep ids = some id) : id ≠ "" := by
  unfold selectedStep at selected
  split at selected
  · split at selected
    · exact named id (List.mem_of_getLast? selected)
    · rename_i nonempty
      cases selected
      exact nonempty
  · exact named id (List.mem_of_getLast? selected)

/-- What a completed batch returns is what the program bound. -/
theorem Corresponds.finalData {batch : BatchState} {program : ProgramState}
    (corresponds : Corresponds tools used batch program)
    {finalStep : Option String} {ids : List String}
    (named : ∀ id ∈ ids, id ≠ "")
    (isUsed : ∀ id, selectedStep finalStep ids = some id → used id) :
    (((selectedStep finalStep ids).bind fun id =>
        if id = "" then none else batch.resultsById.get id).map
          (·.data)).getD .none =
      ((selectedStep finalStep ids).bind fun id =>
        program.environment.get id).getD .none := by
  cases selected : selectedStep finalStep ids with
  | none => rfl
  | some id =>
      have bound := corresponds.bound id (isUsed id selected)
      simp only [Option.bind_some, bound,
        if_neg (selectedStep_ne_empty named selected)]
      cases found : batch.resultsById.get id with
      | none => rfl
      | some result =>
          have settled := corresponds.settled id result found
          exact (settled.2 (isUsed id selected)).symm

theorem firstError_eq_none {batch : BatchState} {program : ProgramState}
    (corresponds : Corresponds tools used batch program) :
    batch.results.find? (·.isError) = none := by
  apply List.find?_eq_none.mpr
  intro result member
  simp [corresponds.succeeded result member]

variable [PythonArithmetic] {runtime : ToolProgramRuntime}
variable {literal : PyValue → Expr}

theorem run_too_long
    (parse : String → Except ParseFailure Module) {request : ProgramRequest}
    (exceeds : request.program.length > runtime.maxProgramLength) :
    (run runtime parse request).1.result?.map (·.success) ≠ some true := by
  intro succeeded
  obtain ⟨result, returned, success⟩ := Option.map_eq_some_iff.mp succeeded
  obtain ⟨lastValue, ended, _⟩ :=
    completes_of_success (RunEnding.eq_result returned) success
  unfold execution execProgram at ended
  rw [if_pos exceeds] at ended
  cases ended

/-- The steps of a batch that is accepted are run. -/
theorem runToolBatch_of_distinct {steps : List BatchStep}
    {finalStep : Option String} (nonempty : steps ≠ [])
    (distinct : (steps.map (·.id)).Nodup) :
    runToolBatch reader tools steps finalStep =
      ((outcome (runSteps reader tools false steps) {}).1.toOption.map
          fun stopped => batchResult steps finalStep stopped
            (outcome (runSteps reader tools false steps) {}).2,
        (outcome (runSteps reader tools false steps) {}).2) := by
  have inhabited : steps.isEmpty = false := by
    cases steps with
    | nil => exact absurd rfl nonempty
    | cons step steps => rfl
  have unique : duplicateId? [] steps = none :=
    duplicateId?_eq_none [] distinct (by simp)
  unfold runToolBatch
  rw [inhabited, unique]
  simp only [Bool.false_eq_true, if_false]
  rcases outcome (runSteps reader tools false steps) {} with
    ⟨stop | stopped, batch⟩
  · rfl
  · rfl

theorem execution_of_parsed {parse : String → Except ParseFailure Module}
    {request : ProgramRequest} {body : List Stmt} {nodes : Nat}
    (context : request.initialContext = [])
    (parsed : parse request.program = .ok ⟨body, nodes⟩)
    (length : request.program.length ≤ runtime.maxProgramLength)
    (size : nodes ≤ runtime.maxAstNodes) :
    execution runtime parse request =
      outcome (execBlock runtime body .none) { environment := [] } := by
  unfold execution execProgram
  rw [if_neg (Nat.not_lt.mpr length), parsed, context]
  simp only [gt_iff_lt, Nat.not_lt.mpr size, if_false]

section Endings

variable {request : ProgramRequest} {steps : List BatchStep}
  {finalStep : Option String} {batch : BatchState} {program : ProgramState}
  {data : PyValue}

omit [PythonArithmetic] in
theorem enginesAgree_of_completes
    (corresponds :
      Corresponds tools (UsedIn steps finalStep) batch program)
    (ids : batch.results.map (·.id) = steps.map (·.id))
    (named : ∀ step ∈ steps, step.id ≠ "") :
    EnginesAgree tools (selectedStep finalStep (steps.map (·.id)))
      (some (batchResult steps finalStep false batch), batch)
      (.result (request.resultOf none data program), program) := by
  have noError := firstError_eq_none corresponds
  refine ⟨corresponds.matches.invocations, corresponds.matches.completed,
    ?_, ?_, ?_⟩
  · constructor
    · intro absent
      cases absent
    · intro ended
      cases ended
  · simp [batchResult, noError, RunEnding.result?, ProgramRequest.resultOf]
  · intro result returned succeeded
    cases returned
    simp only [batchResult, ids]
    exact corresponds.finalData (by simpa using named)
      fun id selected => .inr selected

omit [PythonArithmetic] in
theorem enginesAgree_of_fails {selected : Option String} {error : ErrorInfo}
    (failed : ∃ result ∈ batch.results, result.isError = true)
    (agrees : Matches tools batch program) :
    EnginesAgree tools selected
      (some (batchResult steps finalStep true batch), batch)
      (.result (request.resultOf (some error) data program), program) := by
  obtain ⟨result, member, isError⟩ := failed
  have someError : (batch.results.find? (·.isError)).isNone = false := by
    rw [Option.isNone_eq_false_iff, List.find?_isSome]
    exact ⟨result, member, isError⟩
  refine ⟨agrees.invocations, agrees.completed, ?_, ?_, ?_⟩
  · constructor
    · intro absent
      cases absent
    · intro ended
      cases ended
  · simp [batchResult, someError, RunEnding.result?, ProgramRequest.resultOf]
  · intro result' returned succeeded
    cases returned
    simp only [batchResult, someError] at succeeded
    cases succeeded

omit [PythonArithmetic] in
theorem enginesAgree_of_cancelled {selected : Option String}
    (agrees : Matches tools batch program) :
    EnginesAgree tools selected (none, batch) (.cancelled, program) := by
  refine ⟨agrees.invocations, agrees.completed,
    ⟨fun _ => rfl, fun _ => rfl⟩, rfl, ?_⟩
  intro result returned
  cases returned

end Endings

/-- Run on the program written for it, within the budgets and the stack and
against tools whose used texts are not JSON, a batch and the program agree. -/
theorem batch_agrees
    (parse : String → Except ParseFailure Module)
    (request : ProgramRequest) {steps : List BatchStep}
    {finalStep : Option String} {body : List Stmt} {nodes : Nat}
    (invoker : runtime.toolInvoker = tools.callMountedTool)
    (strings : ∀ name, PythonArithmetic.str (.str name) = .ok name)
    (denotes : Denotes runtime literal)
    (alike : ∀ earlier invocation result step,
      earlier ++ [invocation] <+:
          (runToolBatch reader tools steps finalStep).2.invocations →
        steps[earlier.length]? = some step →
        tools.callTool earlier invocation = .result result →
          ReadAlike reader (UsedIn steps finalStep step.id) earlier.length
            invocation result)
    (nonempty : steps ≠ [])
    (distinct : (steps.map (·.id)).Nodup)
    (named : ∀ step ∈ steps, step.id ≠ "")
    (written :
      batchProgram reader
          (listsIn reader
            (runToolBatch reader tools steps finalStep).2.resultsById)
          literal steps =
        some body)
    (context : request.initialContext = [])
    (parsed : parse request.program = .ok ⟨body, nodes⟩)
    (length : request.program.length ≤ runtime.maxProgramLength)
    (size : nodes ≤ runtime.maxAstNodes)
    (calls : steps.length ≤ runtime.maxToolCalls)
    (returnable : Returnable runtime parse request)
    (present : ∀ step ∈ steps,
      resolveBatchValue reader
          (runToolBatch reader tools steps finalStep).2.resultsById
          (.dict step.arguments) ≠
        .ok .none) :
    EnginesAgree tools (selectedStep finalStep (steps.map (·.id)))
      (runToolBatch reader tools steps finalStep)
      (run runtime parse request) := by
  have started :=
    @runToolBatch_of_distinct tools reader _ steps finalStep nonempty distinct
  rw [started] at written present alike ⊢
  have ends :=
    @steps_end tools (UsedIn steps finalStep) reader _ _ runtime literal
      invoker strings denotes steps
      [] body {} { environment := [] } .none
      (fun step among id refers => .inl ⟨step, among, refers⟩) alike rfl
      written rfl corresponds_start distinct
      (fun _ _ => rfl) (by simpa using calls) present
  rw [← execution_of_parsed context parsed length size] at ends
  generalize outcome (runSteps reader tools false steps) {} = ran at ends ⊢
  generalize performed : execution runtime parse request = ended at ends
  cases ends with
  | @completes batch value program corresponds ids =>
      rw [run_of_projectable performed
        (returnable.completed value program performed)]
      have idsOfSteps : batch.results.map (·.id) = steps.map (·.id) := by
        simpa using ids
      exact enginesAgree_of_completes corresponds idsOfSteps named
  | @fails batch stop program failed failure agrees =>
      obtain ⟨error, reported⟩ := Option.isSome_iff_exists.mp failure
      rw [run_of_error performed, ofFailure_of_projectable reported
        (returnable.failed stop program performed)]
      exact enginesAgree_of_fails failed agrees
  | @cancelled batch program agrees =>
      rw [run_of_error performed]
      exact enginesAgree_of_cancelled agrees

end Agreement

section Integers

open scoped Integers

/-- A reader of one-digit numbers. -/
def digits : TextReader where
  isdigit token := token = "0" ∨ token = "1" ∨ token = "7"
  int token :=
    if token = "0" then .ok 0
    else if token = "1" then .ok 1
    else if token = "7" then .ok 7
    else .error "invalid literal"
  loads text :=
    if text = "7" then .value (.int 7)
    else if text = "[" then .exception recursionText
    else .decodeError

/-- Tools that give every call the same answer. -/
def answering (result : ToolResult) : MountedTools where
  isMountedTool _ _ := true
  callTool _ _ := .result result
  timeoutText _ := ""

theorem denotes_constant (runtime : ToolProgramRuntime) :
    Denotes runtime .constant := by
  intro value state scalar
  simp only [evalExpression, outcome_pure]

def batchRuntime (tools : MountedTools) : ToolProgramRuntime where
  toolInvoker := tools.callMountedTool

def listing : ToolResult where
  structuredContent := some [("items", .list [.int 4, .int 5])]

def numberText : ToolResult where
  content := [.text "7"]

/-- Tools of which one notes something and answers with a number. -/
def measuring : MountedTools where
  isMountedTool _ _ := true
  callTool _ invocation :=
    .result (if invocation.tool = "t.note" then numberText else listing)
  timeoutText _ := ""

def measuredSteps : List BatchStep :=
  [{ id := "a", tool := "t.list" },
    { id := "n", tool := "t.note" },
    { id := "b"
      tool := "t.show"
      arguments := [("item", .dict [("$from", .str "a.items.1")])] }]

def measuredBody : List Stmt :=
  [callStatement "a" "t.list" (.dict []),
    callStatement "n" "t.note" (.dict []),
    callStatement "b" "t.show"
      (.dict
        [(.constant (.str "item"),
          .subscript
            (.subscript (.name "a") (.constant (.str "items")))
            (.constant (.int 1)))])]

theorem unused_note : ¬ UsedIn measuredSteps none "n" := by
  rintro (⟨step, among, refers⟩ | selected)
  · simp only [measuredSteps, List.mem_cons, List.not_mem_nil, or_false]
      at among
    rcases among with rfl | rfl | rfl
    · cases refers
    · cases refers
    · revert refers
      decide
  · revert selected
    decide

theorem fits_alike {invocation : Invocation}
    (shallow : (PyValue.dict invocation.arguments).depth ≤ 890)
    (index : Nat) :
    (PyValue.dict invocation.arguments).depth ≤ PythonStack.batchRoom ↔
      invocation.fits index :=
  ⟨fun _ => shallow, fun _ => shallow.trans (by decide)⟩

theorem readAlike_listing (isUsed : Prop) (index : Nat)
    {invocation : Invocation}
    (shallow : (PyValue.dict invocation.arguments).depth ≤ 890) :
    ReadAlike digits isUsed index invocation listing :=
  fun _ => ⟨nofun, fun _ => nofun, fits_alike shallow _⟩

theorem readAlike_note {isUsed : Prop} (unused : ¬ isUsed) (index : Nat)
    {invocation : Invocation}
    (shallow : (PyValue.dict invocation.arguments).depth ≤ 890) :
    ReadAlike digits isUsed index invocation numberText := by
  refine fun _ =>
    ⟨?_, fun used => absurd used unused, fits_alike shallow _⟩
  rintro _ text message ⟨⟩ ⟨⟩

/-- A batch whose last step reads a list of the first, and none reads the
number that the second one answers. -/
theorem batch_agrees_measured :
    EnginesAgree measuring
      (selectedStep none (measuredSteps.map (·.id)))
      (runToolBatch digits measuring measuredSteps none)
      (run (batchRuntime measuring)
        (fun _ => .ok ⟨measuredBody, 35⟩)
        { program :=
            "a = call_tool('t.list', \x7b\x7d)\n" ++
              "n = call_tool('t.note', \x7b\x7d)\n" ++
              "b = call_tool('t.show', \x7b'item': a['items'][1]\x7d)" }) := by
  have written :
      batchProgram digits
          (listsIn digits
            (runToolBatch digits measuring measuredSteps none).2.resultsById)
          .constant measuredSteps =
        some measuredBody := rfl
  have parsed :
      (.ok ⟨measuredBody, 35⟩ : Except ParseFailure Module) =
        .ok ⟨measuredBody, 35⟩ := rfl
  have made :
      (runToolBatch digits measuring measuredSteps none).2.invocations =
        [⟨"t.list", []⟩, ⟨"t.note", []⟩, ⟨"t.show", [("item", .int 5)]⟩] :=
    rfl
  refine batch_agrees _ _ ?_ (fun _ => rfl) (denotes_constant _) ?_ ?_ ?_ ?_
    written ?_ parsed ?_ ?_ ?_ ?_ ?_
  · rfl
  · intro earlier invocation result step within position answered
    rw [made] at within
    cases answered
    rcases earlier with _ | ⟨first, _ | ⟨second, _ | ⟨third, rest⟩⟩⟩
    · cases List.cons_prefix_cons.mp within |>.1
      exact readAlike_listing _ _ (by decide)
    · cases List.cons_prefix_cons.mp
        (List.cons_prefix_cons.mp within).2 |>.1
      cases position
      exact readAlike_note unused_note _ (by decide)
    · cases List.cons_prefix_cons.mp (List.cons_prefix_cons.mp
        (List.cons_prefix_cons.mp within).2).2 |>.1
      exact readAlike_listing _ _ (by decide)
    · have counted := within.length_le
      simp only [List.length_append, List.length_cons, List.length_nil]
        at counted
      omega
  · decide
  · decide
  · decide
  · rfl
  · decide
  · decide
  · decide
  · constructor
    · rintro lastValue state ⟨⟩
      exact ⟨by decide, nofun⟩
    · rintro stop state ⟨⟩
  · intro step member
    simp only [measuredSteps, List.mem_cons, List.not_mem_nil, or_false]
      at member
    rcases member with rfl | rfl | rfl
    · rintro ⟨⟩
    · rintro ⟨⟩
    · rintro ⟨⟩

def singleStep : List BatchStep :=
  [{ id := "a", tool := "t" }]

def singleBody : List Stmt :=
  [callStatement "a" "t" (.dict [])]

/-- The second step takes all of the first as its arguments. -/
def passedSteps : List BatchStep :=
  [{ id := "a", tool := "t" },
    { id := "b", tool := "t", arguments := [("$from", .str "a")] }]

def passedBody : List Stmt :=
  [callStatement "a" "t" (.dict []), callStatement "b" "t" (.name "a")]

def longText : String :=
  String.ofList (List.replicate 12001 'x')

def longSteps : List BatchStep :=
  [{ id := "a", tool := "t", arguments := [("k", .str longText)] }]

def longProgram : String :=
  "a = call_tool('t', \x7b'k': '" ++ longText ++ "'\x7d)"

def longBody : List Stmt :=
  [callStatement "a" "t"
    (.dict [(.constant (.str "k"), .constant (.str longText))])]

theorem longProgram_exceeds : longProgram.length > 12000 := by
  have long : longText.length = 12001 := by
    unfold longText
    rw [String.length_ofList, List.length_replicate]
  unfold longProgram
  rw [String.length_append, String.length_append, long]
  omega

theorem batch_answers (text : String) :
    (runToolBatch digits (answering listing)
        [{ id := "a", tool := "t", arguments := [("k", .str text)] }]
        none).1.map (·.success) =
      some true :=
  rfl

def bracketText : ToolResult where
  content := [.text "["]

def nestedValue : Nat → PyValue
  | 0 => .none
  | levels + 1 => .list [nestedValue levels]

def deepListing (levels : Nat) : ToolResult where
  structuredContent := some [("x", nestedValue levels)]

def relayedSteps : List BatchStep :=
  [{ id := "a", tool := "t" },
    { id := "b"
      tool := "t"
      arguments := [("k", .dict [("$from", .str "a.x")])] }]

def relayedBody : List Stmt :=
  [callStatement "a" "t" (.dict []),
    callStatement "b" "t"
      (.dict
        [(.constant (.str "k"),
          .subscript (.name "a") (.constant (.str "x")))])]

/-- A text that is JSON, a reference to nothing, a program over the length
limit, a batch without steps, a text that `json.loads` raises on, a result
too deep to be projected and arguments too deep to be redacted by one engine
only set the engines apart. -/
theorem engines_differ :
    ¬ EnginesAgree (answering numberText) (some "a")
        (runToolBatch digits (answering numberText) singleStep none)
        (run (batchRuntime (answering numberText))
          (fun _ => .ok ⟨singleBody, 9⟩)
          { program := "a = call_tool('t', \x7b\x7d)" }) ∧
      ¬ EnginesAgree (answering {}) (some "b")
        (runToolBatch digits (answering {}) passedSteps none)
        (run (batchRuntime (answering {}))
          (fun _ => .ok ⟨passedBody, 18⟩)
          { program :=
              "a = call_tool('t', \x7b\x7d)\nb = call_tool('t', a)" }) ∧
      ¬ EnginesAgree (answering listing) (some "a")
        (runToolBatch digits (answering listing) longSteps none)
        (run (batchRuntime (answering listing))
          (fun _ => .ok ⟨longBody, 11⟩) { program := longProgram }) ∧
      ¬ EnginesAgree (answering listing) none
        (runToolBatch digits (answering listing) [] none)
        (run (batchRuntime (answering listing)) (fun _ => .ok ⟨[], 1⟩)
          { program := "" }) ∧
      ¬ EnginesAgree (answering bracketText) (some "a")
        (runToolBatch digits (answering bracketText) singleStep none)
        (run (batchRuntime (answering bracketText))
          (fun _ => .ok ⟨singleBody, 9⟩)
          { program := "a = call_tool('t', \x7b\x7d)" }) ∧
      ¬ EnginesAgree (answering (deepListing 950)) (some "a")
        (runToolBatch digits (answering (deepListing 950)) singleStep none)
        (run (batchRuntime (answering (deepListing 950)))
          (fun _ => .ok ⟨singleBody, 9⟩)
          { program := "a = call_tool('t', \x7b\x7d)" }) ∧
      ¬ EnginesAgree (answering (deepListing 893)) (some "b")
        (runToolBatch digits (answering (deepListing 893)) relayedSteps none)
        (run (batchRuntime (answering (deepListing 893)))
          (fun _ => .ok ⟨relayedBody, 21⟩)
          { program :=
              "a = call_tool('t', \x7b\x7d)\n" ++
                "b = call_tool('t', \x7b'k': a['x']\x7d)" }) := by
  refine ⟨?_, ?_, ?_, ?_, ?_, ?_, ?_⟩
  · intro agree
    have decoded : PyValue.int 7 = .str "7" :=
      agree.finalData _ rfl rfl
    cases decoded
  · intro agree
    have calls := congrArg List.length agree.invocations
    cases calls
  · intro agree
    have answered :
        (runToolBatch digits (answering listing) longSteps none).1.map
            (·.success) =
          some true := batch_answers longText
    have exceeds :
        ({ program := longProgram } : ProgramRequest).program.length >
          (batchRuntime (answering listing)).maxProgramLength :=
      longProgram_exceeds
    exact run_too_long (fun _ => .ok ⟨longBody, 11⟩) exceeds
      (agree.success.symm.trans answered)
  · intro agree
    cases agree.success
  · intro agree
    cases agree.success
  · intro agree
    have answered :
        (runToolBatch digits (answering (deepListing 950)) singleStep none).1.map
            (·.success) =
          some true := by
      decide +kernel
    have stopped :
        (run (batchRuntime (answering (deepListing 950)))
            (fun _ => .ok ⟨singleBody, 9⟩)
            { program := "a = call_tool('t', \x7b\x7d)" }).1.result?.map
              (·.success) =
          some false := by
      decide +kernel
    cases answered.symm.trans (agree.success.trans stopped)
  · intro agree
    have answered :
        (runToolBatch digits (answering (deepListing 893)) relayedSteps
            none).1.map (·.success) =
          some true := by
      decide +kernel
    have stopped :
        (run (batchRuntime (answering (deepListing 893)))
            (fun _ => .ok ⟨relayedBody, 21⟩)
            { program :=
                "a = call_tool('t', \x7b\x7d)\n" ++
                  "b = call_tool('t', \x7b'k': a['x']\x7d)" }).1.result?.map
              (·.success) =
          some false := by
      decide +kernel
    cases answered.symm.trans (agree.success.trans stopped)

end Integers

end ToolboxMcp
