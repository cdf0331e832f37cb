import ToolboxMcp.Program.Runtime

/-!
# Batches of tool calls

`run_tool_batch` with its reference resolver.  What Python's strings and its
JSON reader answer is a parameter, and so is what the mounted tools do with the
calls that reach them.
-/

namespace ToolboxMcp

open Effect

structure BatchStep where
  id : String
  tool : String
  arguments : List (String × PyValue) := []

structure BatchStepResult where
  id : String
  tool : String
  resolvedArguments : List (String × PyValue) := []
  data : PyValue := .none
  text : Option String := none
  isError : Bool := false
  errorMessage : Option String := none

structure BatchRunResult where
  success : Bool := true
  error : Option ErrorInfo := none
  stepCount : Nat
  completedSteps : Nat
  stoppedOnError : Bool := false
  finalStep : Option String := none
  finalData : PyValue := .none
  finalText : Option String := none
  results : List BatchStepResult := []

/-! ## What lies outside -/

/-- How `json.loads` ends.  Only the decode error is caught where it is
called. -/
inductive Loaded where
  | value (value : PyValue)
  | decodeError
  | exception (message : String)

structure TextReader where
  isdigit : String → Bool
  /-- `int` of a string of digits, or the text of its `ValueError`. -/
  int : String → Except String Nat
  loads : String → Loaded

/-- The mounted tools, as a function of the calls that were made before. -/
structure MountedTools where
  isMountedTool : List Invocation → String → Bool
  callTool : List Invocation → Invocation → InvokerReply
  /-- The text of the `TimeoutError` a call ends with. -/
  timeoutText : Invocation → String

namespace MountedTools

/-- `call_mounted_tool`. -/
def callMountedTool
    (tools : MountedTools) (earlier : List Invocation)
    (invocation : Invocation) : InvokerReply :=
  if tools.isMountedTool earlier invocation.tool then
    tools.callTool earlier invocation
  else
    .exception ("Unknown mounted tool: " ++ invocation.tool)

/-- Of the calls made in this order, those that reach a mounted tool. -/
def delivered (tools : MountedTools) (earlier : List Invocation) :
    List Invocation → List Invocation
  | [] => []
  | invocation :: later =>
      if tools.isMountedTool earlier invocation.tool then
        invocation :: delivered tools (earlier ++ [invocation]) later
      else
        delivered tools (earlier ++ [invocation]) later

end MountedTools

/-! ## References -/

/-- Why a token of a reference leads nowhere. -/
inductive LookupFailure where
  | missingKey (token : String)
  | notNumeric (token : String)
  | invalidLiteral (message : String)
  | outOfRange (index : Nat)
  | cannotDescend (token : String)

def LookupFailure.message (reference : String) : LookupFailure → String
  | .missingKey token =>
      "Batch reference '" ++ reference ++ "' is missing key '" ++ token ++ "'"
  | .notNumeric token =>
      "Batch reference '" ++ reference ++
        "' expected a numeric list index, got '" ++ token ++ "'"
  | .invalidLiteral message => message
  | .outOfRange index =>
      "Batch reference '" ++ reference ++ "' index '" ++ toString index ++
        "' is out of range"
  | .cannotDescend token =>
      "Batch reference '" ++ reference ++ "' cannot descend into '" ++
        token ++ "'"

/-- `[token for token in reference.split(".") if token]`. -/
def batchTokens (reference : String) : List String :=
  ((reference.toList.splitOn '.').filter fun token => !token.isEmpty).map
    String.ofList

/-- The one entry of a dict whose only key is `$from`. -/
def reference? : List (String × PyValue) → Option PyValue
  | [(key, reference)] => if key = "$from" then some reference else none
  | _ => none

/-- What references to the step read. -/
def BatchStepResult.value (result : BatchStepResult) : PyValue :=
  match result.data with
  | .none => (result.text.map PyValue.str).getD .none
  | data => data

section Engine

variable (reader : TextReader)

/-- One token of a reference. -/
def descendToken (current : PyValue) (token : String) :
    Except LookupFailure PyValue :=
  match current with
  | .dict entries =>
      match Dict.get token entries with
      | some value => .ok value
      | none => .error (.missingKey token)
  | .list items =>
      if reader.isdigit token then
        match reader.int token with
        | .ok index =>
            match items[index]? with
            | some value => .ok value
            | none => .error (.outOfRange index)
        | .error message => .error (.invalidLiteral message)
      else
        .error (.notNumeric token)
  | _ => .error (.cannotDescend token)

def descend (current : PyValue) : List String → Except LookupFailure PyValue
  | [] => .ok current
  | token :: tokens =>
      match descendToken reader current token with
      | .ok next => descend next tokens
      | .error failure => .error failure

def extractBatchReference
    (reference : String) (resultsById : Dict String BatchStepResult) :
    Except String PyValue :=
  match batchTokens reference with
  | [] => .error "Batch reference cannot be empty"
  | stepId :: tokens =>
      match resultsById.get stepId with
      | none =>
          .error ("Batch reference points to an unknown step: " ++ stepId)
      | some stepResult =>
          if stepResult.isError then
            .error ("Batch reference points to a failed step: " ++ stepId)
          else
            (descend reader stepResult.value tokens).mapError
              (LookupFailure.message reference)

mutual

def resolveBatchValue (resultsById : Dict String BatchStepResult) :
    PyValue → Except String PyValue
  | .dict entries =>
      match reference? entries with
      | some (.str reference) =>
          extractBatchReference reader reference resultsById
      | some _ => .error "Batch reference values must be strings"
      | none => do
          let resolved ← resolveBatchEntries resultsById entries
          return PyValue.dictOf resolved
  | .list items => do
      let resolved ← resolveBatchItems resultsById items
      return .list resolved
  | value => .ok value

def resolveBatchItems (resultsById : Dict String BatchStepResult) :
    List PyValue → Except String (List PyValue)
  | [] => .ok []
  | item :: items => do
      let value ← resolveBatchValue resultsById item
      let values ← resolveBatchItems resultsById items
      return value :: values

def resolveBatchEntries (resultsById : Dict String BatchStepResult) :
    List (String × PyValue) → Except String (List (String × PyValue))
  | [] => .ok []
  | (key, item) :: entries => do
      let value ← resolveBatchValue resultsById item
      let rest ← resolveBatchEntries resultsById entries
      return (key, value) :: rest

end

section Resolution

variable {reader : TextReader} {resultsById : Dict String BatchStepResult}

theorem resolveBatchItems_cons {item : PyValue}
    {items resolved : List PyValue} :
    resolveBatchItems reader resultsById (item :: items) = .ok resolved ↔
      ∃ value, resolveBatchValue reader resultsById item = .ok value ∧
        ∃ values, resolveBatchItems reader resultsById items = .ok values ∧
          value :: values = resolved := by
  simp only [resolveBatchItems, bind_eq_ok, pure, Except.pure,
    Except.ok.injEq]

theorem resolveBatchEntries_cons {key : String} {item : PyValue}
    {entries resolved : List (String × PyValue)} :
    resolveBatchEntries reader resultsById ((key, item) :: entries) =
        .ok resolved ↔
      ∃ value, resolveBatchValue reader resultsById item = .ok value ∧
        ∃ rest, resolveBatchEntries reader resultsById entries = .ok rest ∧
          (key, value) :: rest = resolved := by
  simp only [resolveBatchEntries, bind_eq_ok, pure, Except.pure,
    Except.ok.injEq]

theorem resolveBatchValue_list {items : List PyValue} {resolved : PyValue} :
    resolveBatchValue reader resultsById (.list items) = .ok resolved ↔
      ∃ values, resolveBatchItems reader resultsById items = .ok values ∧
        .list values = resolved := by
  unfold resolveBatchValue
  simp only [bind_eq_ok, pure, Except.pure, Except.ok.injEq]

theorem resolveBatchValue_dict {entries : List (String × PyValue)}
    {resolved : PyValue} (other : reference? entries = none) :
    resolveBatchValue reader resultsById (.dict entries) = .ok resolved ↔
      ∃ values, resolveBatchEntries reader resultsById entries = .ok values ∧
        PyValue.dictOf values = resolved := by
  unfold resolveBatchValue
  rw [other]
  simp only [bind_eq_ok, pure, Except.pure, Except.ok.injEq]

/-- What is resolved for the entries has their keys. -/
theorem resolveBatchEntries_keys
    (entries : List (String × PyValue)) :
    ∀ resolved, resolveBatchEntries reader resultsById entries = .ok resolved →
      resolved.map Prod.fst = entries.map Prod.fst := by
  induction entries with
  | nil =>
      rintro resolved ⟨⟩
      rfl
  | cons entry entries inductionHypothesis =>
      intro resolved resolves
      obtain ⟨_, _, rest, others, rfl⟩ := resolveBatchEntries_cons.mp resolves
      simp [inductionHypothesis rest others]

end Resolution

/-! ## Steps -/

/-- `_normalize_call_result`: structured data, or else what the text decodes
to, or else the text. -/
def normalizeCallResult (result : ToolResult) :
    Except String (PyValue × Option String) :=
  let text := joinedTextContent result
  match result.structuredContent, text with
  | some entries, _ => .ok (.dict entries, text)
  | none, none => .ok (.none, none)
  | none, some content =>
      match reader.loads content with
      | .value value => .ok (value, text)
      | .decodeError => .ok (.str content, text)
      | .exception message => .error message

structure BatchState where
  results : List BatchStepResult := []
  resultsById : Dict String BatchStepResult := []
  invocations : List Invocation := []

def BatchState.record (state : BatchState) (result : BatchStepResult) :
    BatchState :=
  { state with
    results := state.results ++ [result]
    resultsById := state.resultsById.set result.id result }

/-- What leaves the body of a step: an exception it catches, or a
cancellation, which it does not. -/
inductive BatchStop where
  | exception (message : String)
  | cancelled

def BatchStop.caught : BatchStop → Option String
  | .exception message => some message
  | .cancelled => none

abbrev BatchM :=
  Effect BatchState BatchStop

variable (tools : MountedTools) [PythonStack]

/-- Await the mounted tool. -/
def callStepTool (invocation : Invocation) : BatchM ToolResult := do
  let state ← get
  set { state with invocations := state.invocations ++ [invocation] }
  match tools.callMountedTool state.invocations invocation with
  | .timeout => throw (.exception (tools.timeoutText invocation))
  | .exception message => throw (.exception message)
  | .cancelled => throw .cancelled
  | .result result => return result

/-- The arguments of a step, which have to be an object. -/
def stepArguments (step : BatchStep) :
    PyValue → Except String (List (String × PyValue))
  | .dict entries => .ok entries
  | _ =>
      .error
        ("Batch step arguments must resolve to an object for step " ++ step.id)

/-- `str(exc)`. -/
def PyError.message : PyError → String
  | .valueError message => message
  | .exception message => message

/-- `_redacted_argument_value` of the arguments of a step. -/
def redactedArguments
    (resolvedArguments : List (String × PyValue)) :
    Except PyError (List (String × PyValue)) :=
  (PyValue.dict resolvedArguments).recursing PythonStack.batchRoom
    (PyValue.redactedEntries resolvedArguments)

/-- Call the tool of a step and normalise what it answers. -/
def answerStep (step : BatchStep)
    (resolvedArguments : List (String × PyValue)) :
    BatchM BatchStepResult := do
  let callResult ← callStepTool tools ⟨step.tool, resolvedArguments⟩
  let (data, text) ←
    fromExcept
      ((normalizeCallResult reader callResult).mapError BatchStop.exception)
  let redacted ←
    fromExcept ((redactedArguments resolvedArguments).mapError fun error =>
      BatchStop.exception error.message)
  return {
    id := step.id
    tool := step.tool
    resolvedArguments := redacted
    data := data
    text := text
    isError := callResult.isError
    errorMessage :=
      if callResult.isError then joinedTextContent callResult else none }

/-- The body of the `try` block of a step. -/
def attemptStep (step : BatchStep) : BatchM BatchStepResult := do
  let state ← get
  let resolved ←
    fromExcept ((resolveBatchValue reader state.resultsById
      (.dict step.arguments)).mapError BatchStop.exception)
  let resolvedArguments ←
    fromExcept ((stepArguments step resolved).mapError BatchStop.exception)
  if tools.isMountedTool state.invocations step.tool then
    answerStep reader tools step resolvedArguments
  else
    throw (.exception
      ("Batch step " ++ step.id ++ " references unknown mounted tool: " ++
        step.tool))

/-- The result of a step whose body raised. -/
def raisedResult (step : BatchStep) (message : String) : BatchStepResult where
  id := step.id
  tool := step.tool
  resolvedArguments := []
  isError := true
  errorMessage := some message

def BatchStep.settle (step : BatchStep) :
    Except String BatchStepResult → BatchStepResult
  | .ok result => result
  | .error message => raisedResult step message

def runStep (step : BatchStep) : BatchM BatchStepResult := do
  let ended ← attempt BatchStop.caught (attemptStep reader tools step)
  modify fun state => state.record (step.settle ended)
  return step.settle ended

/-- Run the steps; the value is `stopped_on_error`. -/
def runSteps (continueOnError : Bool) : List BatchStep → BatchM Bool
  | [] => return false
  | step :: steps => do
      let result ← runStep reader tools step
      if result.isError && !continueOnError then
        return true
      else
        runSteps continueOnError steps

/-! ## Runs -/

/-- The first id that a step shares with an earlier one. -/
def duplicateId? (seenIds : List String) : List BatchStep → Option String
  | [] => none
  | step :: steps =>
      if step.id ∈ seenIds then
        some step.id
      else
        duplicateId? (step.id :: seenIds) steps

/-- `final_step or results[-1].id`. -/
def selectedStep (finalStep : Option String) (ids : List String) :
    Option String :=
  match finalStep with
  | some id => if id = "" then ids.getLast? else some id
  | none => ids.getLast?

def stepFailed (failed : BatchStepResult) : ErrorInfo where
  code := "step_failed"
  message :=
    "Batch step " ++ failed.id ++ " failed: " ++
      (match failed.errorMessage with
        | some message => if message = "" then "unknown error" else message
        | none => "unknown error")
  details :=
    some (.obj [("step_id", .str failed.id), ("tool", .str failed.tool)])

def batchResult
    (steps : List BatchStep) (finalStep : Option String)
    (stoppedOnError : Bool) (state : BatchState) : BatchRunResult :=
  let selectedId := selectedStep finalStep (state.results.map (·.id))
  let selected :=
    selectedId.bind fun id =>
      if id = "" then none else state.resultsById.get id
  let firstError := state.results.find? (·.isError)
  { success := firstError.isNone
    error := firstError.map stepFailed
    stepCount := steps.length
    completedSteps := state.results.length
    stoppedOnError := stoppedOnError
    finalStep := selectedId
    finalData := (selected.map (·.data)).getD .none
    finalText := selected.bind (·.text)
    results := state.results }

def invalidBatch
    (steps : List BatchStep) (message : String) (details : Option Json) :
    BatchRunResult where
  success := false
  error :=
    some { code := "invalid_batch", message := message, details := details }
  stepCount := steps.length
  completedSteps := 0

/-- The result of the batch, unless it is cancelled, and the state it ends
in. -/
def runToolBatch
    (steps : List BatchStep) (finalStep : Option String := none)
    (continueOnError : Bool := false) : Option BatchRunResult × BatchState :=
  if steps.isEmpty then
    (some (invalidBatch steps "run_tool_batch requires at least one step"
      none), {})
  else
    match duplicateId? [] steps with
    | some id =>
        (some (invalidBatch steps ("Duplicate batch step id: " ++ id)
          (some (.obj [("step_id", .str id)]))), {})
    | none =>
        match outcome (runSteps reader tools continueOnError steps) {} with
        | (.ok stoppedOnError, state) =>
            (some (batchResult steps finalStep stoppedOnError state), state)
        | (.error _, state) => (none, state)

end Engine

/-! ## Steps of a batch -/

section Steps

variable {reader : TextReader} {tools : MountedTools}

/-- The result has structured data, or no text that `json.loads` reads. -/
def Undecoded (reader : TextReader) (result : ToolResult) : Prop :=
  result.structuredContent = none →
    ∀ text, joinedTextContent result = some text →
      reader.loads text = .decodeError

/-- `json.loads` does not raise on the text, unless that is no JSON. -/
def Decodable (reader : TextReader) (result : ToolResult) : Prop :=
  result.structuredContent = none →
    ∀ text message, joinedTextContent result = some text →
      reader.loads text ≠ .exception message

theorem normalizeCallResult_undecoded {result : ToolResult}
    (undecoded : Undecoded reader result) :
    normalizeCallResult reader result =
      .ok (result.value, joinedTextContent result) := by
  unfold normalizeCallResult ToolResult.value ToolResult.normalize
  cases structured : result.structuredContent with
  | some entries => rfl
  | none =>
      cases content : joinedTextContent result with
      | none => rfl
      | some text =>
          simp only [undecoded structured text content]
          rfl

theorem normalizeCallResult_decodable {result : ToolResult}
    (decodable : Decodable reader result) :
    ∃ data,
      normalizeCallResult reader result =
        .ok (data, joinedTextContent result) := by
  unfold normalizeCallResult
  cases structured : result.structuredContent with
  | some entries => exact ⟨_, rfl⟩
  | none =>
      cases content : joinedTextContent result with
      | none => exact ⟨_, rfl⟩
      | some text =>
          have loaded := decodable structured text
          cases ended : reader.loads text with
          | value value => exact ⟨value, by simp only [ended]⟩
          | decodeError => exact ⟨.str text, by simp only [ended]⟩
          | exception message => exact absurd ended (loaded message content)

theorem normalizeCallResult_raises {result : ToolResult}
    (undecodable : ¬ Decodable reader result) :
    ∃ message, normalizeCallResult reader result = .error message := by
  unfold Decodable at undecodable
  push Not at undecodable
  obtain ⟨unstructured, text, message, content, raised⟩ := undecodable
  refine ⟨message, ?_⟩
  simp only [normalizeCallResult, unstructured, content, raised]

/-- The value of a call is absent only where its text is. -/
theorem text_of_value_eq_none {result : ToolResult}
    (absent : result.value = .none) : joinedTextContent result = none := by
  unfold ToolResult.value ToolResult.normalize at absent
  cases structured : result.structuredContent with
  | some entries =>
      rw [structured] at absent
      cases absent
  | none =>
      rw [structured] at absent
      cases content : joinedTextContent result with
      | none => rfl
      | some text =>
          rw [content] at absent
          cases absent

theorem value_of_data {stepResult : BatchStepResult}
    (absent : stepResult.data = .none → stepResult.text = none) :
    stepResult.value = stepResult.data := by
  unfold BatchStepResult.value
  split
  · rename_i data
    rw [absent data, data]
    rfl
  · rfl

theorem delivered_concat
    (tools : MountedTools) (invocation : Invocation)
    (calls : List Invocation) :
    ∀ earlier,
      tools.delivered earlier (calls ++ [invocation]) =
        tools.delivered earlier calls ++
          if tools.isMountedTool (earlier ++ calls) invocation.tool then
            [invocation]
          else
            [] := by
  induction calls with
  | nil =>
      intro earlier
      simp [MountedTools.delivered]
  | cons call calls inductionHypothesis =>
      intro earlier
      simp only [List.cons_append, MountedTools.delivered, inductionHypothesis,
        List.append_assoc, List.nil_append]
      split
      · rfl
      · rfl

variable [PythonStack]

theorem outcome_runStep (step : BatchStep) (batch : BatchState) :
    outcome (runStep reader tools step) batch =
      match outcome (attemptStep reader tools step) batch with
      | (.ok result, final) => (.ok result, final.record result)
      | (.error (.exception message), final) =>
          (.ok (raisedResult step message),
            final.record (raisedResult step message))
      | (.error .cancelled, final) => (.error .cancelled, final) := by
  unfold runStep
  rw [outcome_bind, outcome_attempt]
  rcases outcome (attemptStep reader tools step) batch with
    ⟨(message | _) | result, final⟩
  · rfl
  · rfl
  · rfl

theorem answerStep_keeps (step : BatchStep)
    (entries : List (String × PyValue)) (batch : BatchState) :
    wp (answerStep reader tools step entries)
      (fun result final =>
        result.id = step.id ∧ final.results = batch.results ∧
          final.resultsById = batch.resultsById)
      (fun _ final =>
        final.results = batch.results ∧
          final.resultsById = batch.resultsById) batch := by
  unfold answerStep callStepTool
  simp only [wp_bind, wp_get, wp_set]
  split
  · exact ⟨rfl, rfl⟩
  · exact ⟨rfl, rfl⟩
  · exact ⟨rfl, rfl⟩
  · simp only [wp_pure, wp_fromExcept]
    split
    · split
      · exact ⟨trivial, trivial, trivial⟩
      · exact ⟨trivial, trivial⟩
    · exact ⟨trivial, trivial⟩

/-- The state after a call to the tool. -/
def BatchState.called (batch : BatchState) (invocation : Invocation) :
    BatchState :=
  { batch with invocations := batch.invocations ++ [invocation] }

/-- The body of a step whose arguments are known calls its tool. -/
theorem answerStep_calls (step : BatchStep)
    (entries : List (String × PyValue)) (batch : BatchState) :
    (outcome (answerStep reader tools step entries) batch).2 =
      batch.called ⟨step.tool, entries⟩ := by
  unfold answerStep callStepTool
  simp only [outcome_bind, outcome_get, outcome_set]
  cases tools.callMountedTool batch.invocations ⟨step.tool, entries⟩ with
  | result result =>
      simp only [outcome_pure, outcome_fromExcept]
      cases normalizeCallResult reader result with
      | error message => rfl
      | ok answer =>
          cases redactedArguments entries with
          | error error => rfl
          | ok redacted => rfl
  | _ => rfl

/-- Calls are only added. -/
def BatchState.Prolongs (before after : BatchState) : Prop :=
  before.invocations <+: after.invocations

theorem runStep_prolongs (step : BatchStep) :
    Keeps BatchState.Prolongs (runStep reader tools step) := by
  intro batch
  have body :
      batch.invocations <+:
        (outcome (attemptStep reader tools step) batch).2.invocations := by
    unfold attemptStep
    simp only [outcome_bind, outcome_get, outcome_fromExcept]
    cases resolveBatchValue reader batch.resultsById
        (.dict step.arguments) with
    | error message => exact List.prefix_rfl
    | ok resolved =>
        simp only [Except.mapError]
        cases stepArguments step resolved with
        | error message => exact List.prefix_rfl
        | ok entries =>
            simp only
            split
            · rw [answerStep_calls]
              exact List.prefix_append _ _
            · exact List.prefix_rfl
  rw [outcome_runStep]
  rcases ended : outcome (attemptStep reader tools step) batch with
    ⟨(message | _) | result, final⟩
  · rw [ended] at body
    exact body
  · rw [ended] at body
    exact body
  · rw [ended] at body
    exact body

theorem runSteps_prolong (continueOnError : Bool) (steps : List BatchStep) :
    Keeps BatchState.Prolongs
      (runSteps reader tools continueOnError steps) := by
  have unchanged : ∀ batch : BatchState, batch.Prolongs batch :=
    fun batch => List.prefix_rfl
  induction steps with
  | nil =>
      exact keeps_pure unchanged false
  | cons step steps inductionHypothesis =>
      unfold runSteps
      have trans : ∀ first second third : BatchState,
          first.Prolongs second → second.Prolongs third →
            first.Prolongs third :=
        fun _ _ _ one two => List.IsPrefix.trans one two
      refine keeps_bind trans (runStep_prolongs step) fun result => ?_
      split
      · exact keeps_pure unchanged true
      · exact inductionHypothesis

/-- The body of a step leaves the results alone. -/
theorem attemptStep_keeps (step : BatchStep) (batch : BatchState) :
    wp (attemptStep reader tools step)
      (fun result final =>
        result.id = step.id ∧ final.results = batch.results ∧
          final.resultsById = batch.resultsById)
      (fun _ final =>
        final.results = batch.results ∧
          final.resultsById = batch.resultsById) batch := by
  unfold attemptStep
  simp only [wp_bind, wp_get, wp_fromExcept]
  split
  · split
    · split
      · exact answerStep_keeps step _ batch
      · exact ⟨rfl, rfl⟩
    · exact ⟨trivial, trivial⟩
  · exact ⟨trivial, trivial⟩

/-- A step records its own result, and that alone. -/
theorem runStep_records (step : BatchStep) (batch : BatchState) :
    wp (runStep reader tools step)
      (fun result final =>
        result.id = step.id ∧ final.results = batch.results ++ [result] ∧
          final.resultsById = batch.resultsById.set step.id result)
      (fun _ final => final.resultsById = batch.resultsById) batch := by
  unfold runStep
  simp only [wp_bind, wp_attempt, wp_modify, wp_pure]
  refine wp_mono (attemptStep_keeps step batch) ?_ ?_
  · rintro result final ⟨named, results, byId⟩
    simp only [BatchStep.settle, BatchState.record, named, results, byId,
      and_self]
  · rintro stop final ⟨results, byId⟩
    cases stop with
    | exception message =>
        simp only [BatchStop.caught, BatchStep.settle, BatchState.record,
          raisedResult, results, byId, and_self]
    | cancelled =>
        exact byId

/-- A run writes results for its own steps only. -/
theorem runSteps_keep (steps : List BatchStep) :
    ∀ (batch : BatchState) (id : String), id ∉ steps.map (·.id) →
      (outcome (runSteps reader tools false steps)
          batch).2.resultsById.get id =
        batch.resultsById.get id := by
  induction steps with
  | nil =>
      intro batch id other
      rfl
  | cons step steps inductionHypothesis =>
      intro batch id other
      have parts : id ≠ step.id ∧ id ∉ steps.map (·.id) := by
        simpa using other
      unfold runSteps
      rw [outcome_bind]
      rcases wp_cases (runStep_records step batch) with
        ⟨result, middle, ran, named, results, byId⟩ |
        ⟨stop, middle, ran, byId⟩
      · have same :
            middle.resultsById.get id = batch.resultsById.get id := by
          rw [byId, Dict.get_set, if_neg parts.1]
        rw [ran]
        simp only
        split
        · exact same
        · rw [inductionHypothesis middle id parts.2]
          exact same
      · rw [ran]
        simp only [byId]

end Steps

end ToolboxMcp
