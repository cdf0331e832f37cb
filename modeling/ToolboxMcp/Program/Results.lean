import ToolboxMcp.Program.Runtime

/-!
# How a run ends

A run has a result when the values it returns nest no deeper than the stack has
room for.  If they do not after a program that completed, the run fails with
`program_runtime_error`; if they do not after one that failed, `run` itself
raises.
-/

namespace ToolboxMcp

open Effect

/-! ## Returned variables -/

/-- The binding of a variable that is returned. -/
def Returned (environment : Dict String PyValue) (keys : List String)
    (key : String) (value : PyValue) : Prop :=
  key ∈ keys ∧ key.startsWith "_" = false ∧ environment.get key = some value

/-- What `_serializable_bindings` returns, if the stack has room. -/
def returnedBindings (environment : Dict String PyValue)
    (keys : List String) : Dict String PyValue :=
  keys.foldl
    (fun serializable key =>
      if key.startsWith "_" then
        serializable
      else
        match environment.get key with
        | some value => serializable.set key value.jsonSafe
        | none => serializable) []

namespace PyValue

variable {room : Nat} {value : PyValue}

theorem jsonSafeValue_of_le (fits : value.depth ≤ room) :
    value.jsonSafeValue room = .ok value.jsonSafe :=
  if_pos fits

theorem jsonSafeValue_of_lt (overflows : ¬ value.depth ≤ room) :
    value.jsonSafeValue room = .error (.exception recursionText) :=
  if_neg overflows

end PyValue

section Bindings

variable {room : Nat} {environment : Dict String PyValue}

/-- Every returned variable nests no deeper than the room for it. -/
def BindingsFit (room : Nat) (environment : Dict String PyValue)
    (keys : List String) : Prop :=
  ∀ key value, Returned environment keys key value → value.depth ≤ room

theorem BindingsFit.tail {key : String} {keys : List String}
    (fit : BindingsFit room environment (key :: keys)) :
    BindingsFit room environment keys :=
  fun other value returned =>
    fit other value ⟨List.mem_cons_of_mem _ returned.1, returned.2⟩

theorem BindingsFit.cons {key : String} {keys : List String}
    (fit : BindingsFit room environment keys)
    (first :
      ∀ value, key.startsWith "_" = false →
        environment.get key = some value → value.depth ≤ room) :
    BindingsFit room environment (key :: keys) := by
  rintro other value ⟨requested, visible, found⟩
  rcases List.mem_cons.mp requested with rfl | later
  · exact first value visible found
  · exact fit other value ⟨later, visible, found⟩

theorem serializableBindings_of_fit
    {returnVariables : Option (List String)}
    (fit :
      BindingsFit (room - 1) environment (returnVariables.getD [])) :
    serializableBindings room environment returnVariables =
      .ok (returnedBindings environment (returnVariables.getD [])) := by
  unfold serializableBindings returnedBindings
  generalize returnVariables.getD [] = keys at fit ⊢
  generalize ([] : Dict String PyValue) = built
  induction keys generalizing built with
  | nil =>
      rfl
  | cons key keys inductionHypothesis =>
      have others := inductionHypothesis fit.tail
      rw [List.foldlM_cons, List.foldl_cons]
      by_cases hidden : key.startsWith "_" = true
      · rw [if_pos hidden, if_pos hidden]
        exact others built
      · rw [if_neg hidden, if_neg hidden]
        cases found : environment.get key with
        | none =>
            exact others built
        | some value =>
            have fits := fit key value
              ⟨List.mem_cons_self, by simpa using hidden, found⟩
            simp only [PyValue.jsonSafeValue_of_le fits]
            exact others (Dict.set key value.jsonSafe built)

theorem serializableBindings_of_overflow
    {returnVariables : Option (List String)}
    (overflows :
      ¬ BindingsFit (room - 1) environment (returnVariables.getD [])) :
    serializableBindings room environment returnVariables =
      .error (.exception recursionText) := by
  unfold serializableBindings
  generalize returnVariables.getD [] = keys at overflows ⊢
  generalize ([] : Dict String PyValue) = built
  induction keys generalizing built with
  | nil =>
      refine absurd ?_ overflows
      rintro key value ⟨requested, _⟩
      cases requested
  | cons key keys inductionHypothesis =>
      rw [List.foldlM_cons]
      by_cases hidden : key.startsWith "_" = true
      · rw [if_pos hidden]
        apply inductionHypothesis
        intro fit
        refine overflows (fit.cons fun value visible _ => ?_)
        rw [hidden] at visible
        cases visible
      · rw [if_neg hidden]
        cases found : environment.get key with
        | none =>
            apply inductionHypothesis
            intro fit
            refine overflows (fit.cons fun value _ same => ?_)
            rw [found] at same
            cases same
        | some value =>
            by_cases fits : value.depth ≤ room - 1
            · simp only [PyValue.jsonSafeValue_of_le fits]
              apply inductionHypothesis
              intro fit
              refine overflows (fit.cons fun other _ same => ?_)
              rw [found] at same
              cases same
              exact fits
            · simp only [PyValue.jsonSafeValue_of_lt fits]
              rfl

end Bindings

/-! ## Results -/

def RunEnding.result? : RunEnding → Option ProgramRunResult
  | .result reported => some reported
  | .raised _ => none
  | .cancelled => none

theorem RunEnding.eq_result {ending : RunEnding} {result : ProgramRunResult}
    (found : ending.result? = some result) : ending = .result result := by
  cases ending with
  | result reported => exact congrArg _ (Option.some.inj found)
  | raised error => cases found
  | cancelled => cases found

/-- The values to be returned nest no deeper than the room for them. -/
structure Projectable (room : Nat) (request : ProgramRequest)
    (finalData : PyValue) (state : ProgramState) : Prop where
  finalData : finalData.depth ≤ room
  bindings :
    BindingsFit (room - 1) state.environment
      (request.returnVariables.getD [])

/-- The value of the result variable, or another one. -/
def ProgramRequest.finalData (request : ProgramRequest)
    (fallback : PyValue) (state : ProgramState) : PyValue :=
  (state.environment.get request.resultVariable).getD fallback

/-- The result with this value and these variables projected. -/
def ProgramRequest.resultOf (request : ProgramRequest)
    (error : Option ErrorInfo) (finalData : PyValue) (state : ProgramState) :
    ProgramRunResult where
  success := error.isNone
  error := error
  resultVariable := request.resultVariable
  finalData := finalData.jsonSafe
  finalText := finalData.text?
  callCount := state.traces.length
  calls := state.traces
  variableBindings :=
    returnedBindings state.environment (request.returnVariables.getD [])

section Results

variable [PythonStack] {request : ProgramRequest} {state : ProgramState}

theorem successResult_of_projectable {lastValue : PyValue}
    (fits :
      Projectable PythonStack.resultRoom request
        (request.finalData lastValue state) state) :
    successResult request lastValue state =
      .ok (request.resultOf none (request.finalData lastValue state)
        state) := by
  have projected := PyValue.jsonSafeValue_of_le fits.finalData
  unfold ProgramRequest.finalData at projected
  simp only [successResult, projected,
    serializableBindings_of_fit fits.bindings]
  rfl

theorem successResult_of_overflow {lastValue : PyValue}
    (overflows :
      ¬ Projectable PythonStack.resultRoom request
        (request.finalData lastValue state) state) :
    successResult request lastValue state =
      .error (.exception recursionText) := by
  by_cases fits :
      (request.finalData lastValue state).depth ≤ PythonStack.resultRoom
  · have bindings := serializableBindings_of_overflow fun bindings =>
      overflows ⟨fits, bindings⟩
    have projected := PyValue.jsonSafeValue_of_le fits
    unfold ProgramRequest.finalData at projected
    simp only [successResult, projected, bindings]
    rfl
  · have raised := PyValue.jsonSafeValue_of_lt fits
    unfold ProgramRequest.finalData at raised
    simp only [successResult, raised]
    rfl

/-- The values a failure returns nest no deeper than the room for them. -/
abbrev FailureProjectable (request : ProgramRequest)
    (state : ProgramState) : Prop :=
  Projectable (PythonStack.resultRoom - 1) request
    (request.finalData .none state) state

theorem failureResult_of_projectable (error : ErrorInfo)
    (fits : FailureProjectable request state) :
    failureResult request error state =
      .ok (request.resultOf (some error) (request.finalData .none state)
        state) := by
  have projected := PyValue.jsonSafeValue_of_le fits.finalData
  unfold ProgramRequest.finalData at projected
  simp only [failureResult, projected,
    serializableBindings_of_fit fits.bindings]
  rfl

theorem failureResult_of_overflow (error : ErrorInfo)
    (overflows : ¬ FailureProjectable request state) :
    failureResult request error state =
      .error (.exception recursionText) := by
  by_cases fits :
      (request.finalData .none state).depth ≤ PythonStack.resultRoom - 1
  · have bindings := serializableBindings_of_overflow fun bindings =>
      overflows ⟨fits, bindings⟩
    have projected := PyValue.jsonSafeValue_of_le fits
    unfold ProgramRequest.finalData at projected
    simp only [failureResult, projected, bindings]
    rfl
  · have raised := PyValue.jsonSafeValue_of_lt fits
    unfold ProgramRequest.finalData at raised
    simp only [failureResult, raised]
    rfl

theorem ofFailure_of_projectable {stop : Stop} {error : ErrorInfo}
    (failure : stop.failure = some error)
    (fits : FailureProjectable request state) :
    RunEnding.ofFailure request stop state =
      .result (request.resultOf (some error)
        (request.finalData .none state) state) := by
  simp only [RunEnding.ofFailure, failure,
    failureResult_of_projectable error fits]

theorem ofFailure_of_overflow {stop : Stop} {error : ErrorInfo}
    (failure : stop.failure = some error)
    (overflows : ¬ FailureProjectable request state) :
    RunEnding.ofFailure request stop state =
      .raised (.exception recursionText) := by
  simp only [RunEnding.ofFailure, failure,
    failureResult_of_overflow error overflows]

/-- A failure that has a result has this one. -/
theorem result_of_ofFailure {stop : Stop} {result : ProgramRunResult}
    (ended : RunEnding.ofFailure request stop state = .result result) :
    FailureProjectable request state ∧
      ∃ error,
        stop.failure = some error ∧
          result =
            request.resultOf (some error) (request.finalData .none state)
              state := by
  cases failure : stop.failure with
  | none =>
      simp only [RunEnding.ofFailure, failure] at ended
      cases ended
  | some error =>
      by_cases fits : FailureProjectable request state
      · rw [ofFailure_of_projectable failure fits] at ended
        cases ended
        exact ⟨fits, error, rfl, rfl⟩
      · rw [ofFailure_of_overflow failure fits] at ended
        cases ended

omit [PythonStack] in
/-- No clause of `run` catches a cancellation, and only that. -/
theorem Stop.cancelled_of_failure {stop : Stop}
    (failure : stop.failure = none) : stop = .cancelled := by
  cases stop with
  | cancelled =>
      rfl
  | error error =>
      cases error <;> cases failure
  | _ =>
      cases failure

/-- Nothing but a cancellation ends a run without a result or an
exception. -/
theorem cancelled_of_ofFailure {stop : Stop}
    (ended : RunEnding.ofFailure request stop state = .cancelled) :
    stop = .cancelled := by
  cases failure : stop.failure with
  | some error =>
      by_cases fits : FailureProjectable request state
      · rw [ofFailure_of_projectable failure fits] at ended
        cases ended
      · rw [ofFailure_of_overflow failure fits] at ended
        cases ended
  | none =>
      exact Stop.cancelled_of_failure failure

end Results

/-! ## Runs -/

section Runs

variable [PythonArithmetic] {runtime : ToolProgramRuntime}
  {parse : String → Except ParseFailure Module} {request : ProgramRequest}
  {state : ProgramState}

/-- How the statements of the program end. -/
def execution (runtime : ToolProgramRuntime)
    (parse : String → Except ParseFailure Module)
    (request : ProgramRequest) : Except Stop PyValue × ProgramState :=
  outcome (execProgram runtime parse request.program)
    { environment := request.initialContext }

/-- What the run has to return nests no deeper than the stack has room for. -/
structure Returnable (runtime : ToolProgramRuntime)
    (parse : String → Except ParseFailure Module)
    (request : ProgramRequest) : Prop where
  completed :
    ∀ lastValue state,
      execution runtime parse request = (.ok lastValue, state) →
        Projectable PythonStack.resultRoom request
          (request.finalData lastValue state) state
  failed :
    ∀ stop state,
      execution runtime parse request = (.error stop, state) →
        FailureProjectable request state

theorem run_of_error {stop : Stop}
    (ended : execution runtime parse request = (.error stop, state)) :
    run runtime parse request = (.ofFailure request stop state, state) := by
  unfold execution at ended
  simp only [run, completeProgram, outcome_bind, ended]

theorem run_of_projectable {lastValue : PyValue}
    (ended : execution runtime parse request = (.ok lastValue, state))
    (fits :
      Projectable PythonStack.resultRoom request
        (request.finalData lastValue state) state) :
    run runtime parse request =
      (.result (request.resultOf none (request.finalData lastValue state)
        state), state) := by
  unfold execution at ended
  simp only [run, completeProgram, outcome_bind, ended, outcome_get,
    successResult_of_projectable fits, computed, outcome_pure]

/-- The stop of a completed program whose result cannot be projected. -/
def Stop.overflow : Stop :=
  .error (.exception recursionText)

theorem run_of_overflow {lastValue : PyValue}
    (ended : execution runtime parse request = (.ok lastValue, state))
    (overflows :
      ¬ Projectable PythonStack.resultRoom request
        (request.finalData lastValue state) state) :
    run runtime parse request =
      (.ofFailure request .overflow state, state) := by
  unfold execution at ended
  simp only [run, completeProgram, outcome_bind, ended, outcome_get,
    successResult_of_overflow overflows, computed]
  rfl

/-- Projecting changes no state. -/
theorem state_run :
    (run runtime parse request).2 =
      (execution runtime parse request).2 := by
  rcases ended : execution runtime parse request with ⟨stop | lastValue, state⟩
  · rw [run_of_error ended]
  · by_cases fits :
        Projectable PythonStack.resultRoom request
          (request.finalData lastValue state) state
    · rw [run_of_projectable ended fits]
    · rw [run_of_overflow ended fits]

/-- A run that succeeds has executed its program to the end. -/
theorem completes_of_success {result : ProgramRunResult}
    (reported : (run runtime parse request).1 = .result result)
    (succeeds : result.success = true) :
    ∃ lastValue,
      execution runtime parse request =
          (.ok lastValue, (run runtime parse request).2) ∧
        Projectable PythonStack.resultRoom request
          (request.finalData lastValue (run runtime parse request).2)
          (run runtime parse request).2 ∧
        result =
          request.resultOf none
            (request.finalData lastValue (run runtime parse request).2)
            (run runtime parse request).2 := by
  rcases ended : execution runtime parse request with ⟨stop | lastValue, state⟩
  · rw [run_of_error ended] at reported
    obtain ⟨_, error, _, rfl⟩ := result_of_ofFailure reported
    cases succeeds
  · by_cases fits :
        Projectable PythonStack.resultRoom request
          (request.finalData lastValue state) state
    · rw [run_of_projectable ended fits] at reported ⊢
      cases reported
      exact ⟨lastValue, rfl, fits, rfl⟩
    · rw [run_of_overflow ended fits] at reported
      simp only at reported
      obtain ⟨_, error, _, rfl⟩ := result_of_ofFailure reported
      cases succeeds

end Runs

end ToolboxMcp
