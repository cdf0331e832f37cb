import ToolboxMcp.Program.Results
import ToolboxMcp.Program.TwoRuntimes

/-!
# Larger budgets and other tools

What a run does depends on the tools only through the answers it gets, and on
the budgets only where it exceeds one.  Under a runtime with budgets at least
as large, whose tools answer the invocations of the run alike, the run is the
same, unless it was cut off by a budget; then it is the beginning of the other
one.
-/

namespace ToolboxMcp

open Effect

/-- No budget of the second runtime is smaller. -/
structure ToolProgramRuntime.Allows (small large : ToolProgramRuntime) :
    Prop where
  programLength : small.maxProgramLength ≤ large.maxProgramLength
  astNodes : small.maxAstNodes ≤ large.maxAstNodes
  loopIterations : small.maxLoopIterations ≤ large.maxLoopIterations
  toolCalls : small.maxToolCalls ≤ large.maxToolCalls

/-- Both invokers answer each of these invocations alike, in view of the
earlier ones. -/
def SameAnswers (small large : ToolProgramRuntime)
    (invocations : List Invocation) : Prop :=
  ∀ earlier last, earlier ++ [last] <+: invocations →
    small.toolInvoker earlier last = large.toolInvoker earlier last

/-- Invocations and traces are only added. -/
structure ProgramState.Prolongs (before after : ProgramState) : Prop where
  invocations : before.invocations <+: after.invocations
  traces : before.traces <+: after.traces

theorem ProgramState.Prolongs.refl (state : ProgramState) :
    state.Prolongs state :=
  ⟨List.prefix_rfl, List.prefix_rfl⟩

theorem ProgramState.Prolongs.trans {first second third : ProgramState}
    (left : first.Prolongs second) (right : second.Prolongs third) :
    first.Prolongs third :=
  ⟨left.invocations.trans right.invocations, left.traces.trans right.traces⟩

def Stop.exceedsBudget : Stop → Bool
  | .issue code _ _ => code = "budget_exceeded"
  | _ => false

section TwoRuns

variable {small large : ToolProgramRuntime} {α β : Type}

theorem SameAnswers.of_prefix {first second : List Invocation}
    (same : SameAnswers small large second) (initial : first <+: second) :
    SameAnswers small large first :=
  fun earlier last within => same earlier last (within.trans initial)

/-- The first end is the second one, or it is cut off by a budget. -/
inductive CutOff : Except Stop α × ProgramState →
    Except Stop α × ProgramState → Prop where
  | same (ended : Except Stop α × ProgramState) : CutOff ended ended
  | exceeded {stop : Stop} {cut : ProgramState}
      {ended : Except Stop α × ProgramState}
      (exceeds : stop.exceedsBudget = true) (prolongs : cut.Prolongs ended.2) :
      CutOff (.error stop, cut) ended

/-- The second computation goes on as the first one, and may go further. -/
structure GoesFurther (small large : ToolProgramRuntime)
    (program other : ProgramM α) : Prop where
  grows : Keeps ProgramState.Prolongs program
  goesOn : Keeps ProgramState.Prolongs other
  follows :
    ∀ state,
      SameAnswers small large (outcome program state).2.invocations →
        CutOff (outcome program state) (outcome other state)

namespace GoesFurther

theorem of_grows {program : ProgramM α}
    (grows : Keeps ProgramState.Prolongs program) :
    GoesFurther small large program program where
  grows := grows
  goesOn := grows
  follows := fun _ _ => .same _

theorem constant {program : ProgramM α} (result : Except Stop α)
    (ends : ∀ state, outcome program state = (result, state)) :
    GoesFurther small large program program := by
  apply of_grows
  intro state
  rw [ends]
  exact .refl state

/-- What comes later prolongs what came first. -/
theorem prolongs_bind {first : ProgramM α} {next : α → ProgramM β}
    (grows : ∀ value, Keeps ProgramState.Prolongs (next value))
    (state : ProgramState) :
    (outcome first state).2.Prolongs (outcome (first >>= next) state).2 := by
  rw [outcome_bind]
  rcases outcome first state with ⟨stop | value, middle⟩
  · exact .refl middle
  · exact grows value middle

theorem sequence {first other : ProgramM α} {next later : α → ProgramM β}
    (begins : GoesFurther small large first other)
    (ends : ∀ value, GoesFurther small large (next value) (later value)) :
    GoesFurther small large (first >>= next) (other >>= later) where
  grows :=
    keeps_bind (fun _ _ _ => .trans) begins.grows fun value =>
      (ends value).grows
  goesOn :=
    keeps_bind (fun _ _ _ => .trans) begins.goesOn fun value =>
      (ends value).goesOn
  follows := by
    intro state same
    have begun := begins.follows state
    have further : (outcome other state).2.Prolongs
        (outcome (other >>= later) state).2 :=
      prolongs_bind (fun value => (ends value).goesOn) state
    rcases cutOff : outcome first state with ⟨stop | value, middle⟩
    · rw [cutOff] at begun
      rw [outcome_bind, cutOff] at same ⊢
      have early := begun same
      generalize found : outcome other state = ended at early further
      cases early with
      | same =>
          rw [outcome_bind, found]
          exact .same _
      | exceeded exceeds prolongs =>
          exact .exceeded exceeds (prolongs.trans further)
    · rw [cutOff] at begun
      rw [outcome_bind, cutOff] at same ⊢
      have early :=
        begun (same.of_prefix ((ends value).grows middle).invocations)
      generalize found : outcome other state = ended at early
      cases early
      rw [outcome_bind, found]
      exact (ends value).follows middle same

theorem state_catchSignal (program : ProgramM PyValue)
    (state : ProgramState) :
    (outcome (catchSignal program) state).2 = (outcome program state).2 := by
  unfold catchSignal
  rw [outcome_attempt]
  rcases outcome program state with ⟨stop | value, after⟩
  · cases stop <;> rfl
  · rfl

/-- An exceeded budget is no signal. -/
theorem catchSignal_exceeded {program : ProgramM PyValue}
    {state cut : ProgramState} {stop : Stop}
    (ended : outcome program state = (.error stop, cut))
    (exceeds : stop.exceedsBudget = true) :
    outcome (catchSignal program) state = (.error stop, cut) := by
  unfold catchSignal
  rw [outcome_attempt, ended]
  cases stop with
  | issue code message details =>
      rfl
  | _ =>
      cases exceeds

theorem catches {program other : ProgramM PyValue}
    (runs : GoesFurther small large program other) :
    GoesFurther small large (catchSignal program) (catchSignal other) where
  grows := by
    intro state
    rw [state_catchSignal]
    exact runs.grows state
  goesOn := by
    intro state
    rw [state_catchSignal]
    exact runs.goesOn state
  follows := by
    intro state same
    rw [state_catchSignal] at same
    have ends := runs.follows state same
    generalize cutOff : outcome program state = ended at ends
    generalize found : outcome other state = ended' at ends
    cases ends with
    | same =>
        have alike : outcome (catchSignal program) state =
            outcome (catchSignal other) state := by
          unfold catchSignal
          rw [outcome_attempt, outcome_attempt, cutOff, found]
        rw [alike]
        exact .same _
    | exceeded exceeds prolongs =>
        rw [catchSignal_exceeded cutOff exceeds]
        apply CutOff.exceeded exceeds
        rw [state_catchSignal, found]
        exact prolongs

/-! ## The two places -/

theorem grows_countIteration (runtime : ToolProgramRuntime) :
    Keeps ProgramState.Prolongs (countIteration runtime) := by
  intro state
  unfold countIteration
  simp only [outcome_bind, outcome_modify, outcome_get]
  split
  · exact ⟨List.prefix_rfl, List.prefix_rfl⟩
  · exact ⟨List.prefix_rfl, List.prefix_rfl⟩

theorem enters : GoesFurther small large enterBody enterBody := by
  apply of_grows
  exact fun state => ⟨List.prefix_rfl, List.prefix_rfl⟩

theorem counts (allows : small.Allows large) :
    GoesFurther small large (countIteration small) (countIteration large) where
  grows := grows_countIteration small
  goesOn := grows_countIteration large
  follows := by
    intro state _
    have further := grows_countIteration large state
    unfold countIteration at further ⊢
    simp only [outcome_bind, outcome_modify, outcome_get] at further ⊢
    by_cases exceeds : state.loopIterations + 1 > small.maxLoopIterations
    · rw [if_pos exceeds]
      exact .exceeded rfl ⟨further.invocations, further.traces⟩
    · have fits : ¬ state.loopIterations + 1 > large.maxLoopIterations := by
        have larger := allows.loopIterations
        omega
      rw [if_neg exceeds, if_neg fits]
      exact .same _

theorem iterates (allows : small.Allows large) {assign other : ProgramM Unit}
    (assigns : GoesFurther small large assign other) :
    GoesFurther small large (beginIteration small assign)
      (beginIteration large other) :=
  sequence (counts allows) fun _ => sequence assigns fun _ => enters

section Calls

variable [PythonArithmetic]

theorem invokesTool (invocation : Invocation) :
    GoesFurther small large (invokeTool small invocation)
      (invokeTool large invocation) where
  grows := by
    intro state
    obtain ⟨invoked, traced⟩ := invocations_invokeTool small invocation state
    exact ⟨invoked ▸ List.prefix_append _ _, traced⟩
  goesOn := by
    intro state
    obtain ⟨invoked, traced⟩ := invocations_invokeTool large invocation state
    exact ⟨invoked ▸ List.prefix_append _ _, traced⟩
  follows := by
    intro state same
    rw [(invocations_invokeTool small invocation state).1] at same
    have answer := same state.invocations invocation List.prefix_rfl
    have alike : outcome (invokeTool small invocation) state =
        outcome (invokeTool large invocation) state := by
      unfold invokeTool
      simp only [outcome_bind, outcome_get, outcome_set, answer]
    rw [alike]
    exact .same _

omit [PythonArithmetic] in
theorem dispatches (arguments tool : Option PyValue) :
    GoesFurther small large (dispatch arguments tool) (dispatch arguments tool) := by
  unfold dispatch
  split
  · split
    · exact constant _ fun _ => rfl
    · exact constant _ fun _ => rfl
    · exact constant _ fun _ => rfl
    · exact constant _ fun _ => rfl
  · exact constant _ fun _ => rfl

/-- What happens once the budget and the keywords have been checked. -/
theorem chooses (arguments tool : Option PyValue) :
    GoesFurther small large
      (do
        let invocation ← dispatch arguments tool
        invokeTool small invocation)
      (do
        let invocation ← dispatch arguments tool
        invokeTool large invocation) :=
  sequence (dispatches arguments tool) invokesTool

theorem grows_callToolBuiltin (runtime : ToolProgramRuntime)
    (positional : List PyValue) (keywords : Dict String PyValue) :
    Keeps ProgramState.Prolongs
      (callToolBuiltin runtime positional keywords) := by
  have alone : ∀ arguments tool : Option PyValue,
      GoesFurther runtime runtime
        (do
          let invocation ← dispatch arguments tool
          invokeTool runtime invocation)
        (do
          let invocation ← dispatch arguments tool
          invokeTool runtime invocation) :=
    chooses
  intro state
  unfold callToolBuiltin
  simp only [outcome_bind, outcome_get]
  split
  · exact .refl state
  · split
    · exact .refl state
    · cases positional with
      | cons tool rest =>
          exact (alone rest.head? (some tool)).grows state
      | nil =>
          exact (alone (keywords.get "arguments")
            (keywords.get "tool")).grows state

theorem calls (allows : small.Allows large) (positional : List PyValue)
    (keywords : Dict String PyValue) :
    GoesFurther small large (callToolBuiltin small positional keywords)
      (callToolBuiltin large positional keywords) where
  grows := grows_callToolBuiltin small positional keywords
  goesOn := grows_callToolBuiltin large positional keywords
  follows := by
    intro state same
    have further := grows_callToolBuiltin large positional keywords state
    unfold callToolBuiltin at same further ⊢
    simp only [outcome_bind, outcome_get] at same further ⊢
    by_cases exceeds : state.traces.length ≥ small.maxToolCalls
    · rw [if_pos exceeds]
      exact .exceeded rfl further
    · have fits : ¬ state.traces.length ≥ large.maxToolCalls := by
        have larger := allows.toolCalls
        omega
      rw [if_neg exceeds] at same ⊢
      rw [if_neg fits]
      split
      · exact .same _
      · rename_i known
        rw [if_neg known] at same
        cases positional with
        | cons tool rest =>
            exact (chooses rest.head? (some tool)).follows state same
        | nil =>
            exact (chooses (keywords.get "arguments")
              (keywords.get "tool")).follows state same

end Calls

theorem reads (id : String) :
    GoesFurther small large (lookupName id) (lookupName id) := by
  apply of_grows
  intro state
  unfold lookupName
  simp only [outcome_bind, outcome_get]
  split
  · exact .refl state
  · exact .refl state

theorem binds (id : String) (value : PyValue) :
    GoesFurther small large (bindName id value) (bindName id value) := by
  apply of_grows
  exact fun state => ⟨List.prefix_rfl, List.prefix_rfl⟩

end GoesFurther

/-- Going on is a relation between evaluations under two runtimes. -/
def goingFurther [PythonArithmetic] (allows : small.Allows large) :
    RuntimeRelation small large where
  rel := GoesFurther small large
  returns value := GoesFurther.constant (.ok value) fun _ => rfl
  sequence := GoesFurther.sequence
  raises error := GoesFurther.constant (.error (.error error)) fun _ => rfl
  breaks := GoesFurther.constant (.error .loopBreak) fun _ => rfl
  continues := GoesFurther.constant (.error .loopContinue) fun _ => rfl
  reads _ := GoesFurther.reads _
  binds value _ := GoesFurther.binds _ value
  invokes _ positional keywords :=
    .of_grows (GoesFurther.grows_callToolBuiltin small positional keywords)
  iterates assigns :=
    GoesFurther.sequence
      (.of_grows (GoesFurther.grows_countIteration small)) fun _ =>
      GoesFurther.sequence assigns fun _ => GoesFurther.enters
  catches := GoesFurther.catches
  calls := GoesFurther.calls allows
  counts := GoesFurther.iterates allows

end TwoRuns

/-! ## Whole runs -/

section Runs

variable [PythonArithmetic] {small large : ToolProgramRuntime}

omit [PythonArithmetic] in
theorem allows_self (runtime : ToolProgramRuntime) :
    runtime.Allows runtime :=
  ⟨le_rfl, le_rfl, le_rfl, le_rfl⟩

theorem grows_execProgram (runtime : ToolProgramRuntime)
    (parse : String → Except ParseFailure Module) (program : String) :
    Keeps ProgramState.Prolongs (execProgram runtime parse program) := by
  unfold execProgram
  split
  · exact fun state => .refl state
  · split
    · exact fun state => .refl state
    · exact fun state => .refl state
    · split
      · exact fun state => .refl state
      · exact ((goingFurther (allows_self runtime)).rel_execBlock _ _).grows

theorem goesFurther_execProgram (allows : small.Allows large)
    (parse : String → Except ParseFailure Module) (program : String) :
    GoesFurther small large (execProgram small parse program)
      (execProgram large parse program) where
  grows := grows_execProgram small parse program
  goesOn := grows_execProgram large parse program
  follows := by
    intro state same
    have further := grows_execProgram large parse program state
    unfold execProgram at same further ⊢
    by_cases long : program.length > small.maxProgramLength
    · rw [if_pos long]
      exact .exceeded rfl further
    · have fits : ¬ program.length > large.maxProgramLength := by
        have larger := allows.programLength
        omega
      rw [if_neg long] at same ⊢
      rw [if_neg fits] at further ⊢
      cases parsed : parse program with
      | error failure =>
          cases failure <;> exact .same _
      | ok module =>
          rw [parsed] at same further
          by_cases wide : module.nodes > small.maxAstNodes
          · simp only [if_pos wide]
            exact .exceeded rfl further
          · have narrow : ¬ module.nodes > large.maxAstNodes := by
              have larger := allows.astNodes
              omega
            simp only [if_neg wide] at same ⊢
            simp only [if_neg narrow]
            exact ((goingFurther allows).rel_execBlock module.body
              .none).follows state same

/-- A budget cut the run off, and the result says so unless it cannot be
projected. -/
structure CutShort (runtime : ToolProgramRuntime)
    (parse : String → Except ParseFailure Module)
    (request : ProgramRequest) : Prop where
  stopped :
    ∃ stop,
      (execution runtime parse request).1 = .error stop ∧
        stop.exceedsBudget = true
  reported :
    FailureProjectable request (run runtime parse request).2 →
      ∃ result error,
        (run runtime parse request).1 = .result result ∧
          result.error = some error ∧ error.code = "budget_exceeded"

theorem cutShort_of_exceeds {runtime : ToolProgramRuntime}
    {parse : String → Except ParseFailure Module} {request : ProgramRequest}
    {stop : Stop} {cut : ProgramState}
    (ended : execution runtime parse request = (.error stop, cut))
    (exceeds : stop.exceedsBudget = true) :
    CutShort runtime parse request where
  stopped := ⟨stop, congrArg Prod.fst ended, exceeds⟩
  reported := by
    intro fits
    rw [run_of_error ended] at fits ⊢
    cases stop with
    | issue code message details =>
        have named : code = "budget_exceeded" := of_decide_eq_true exceeds
        have failure :
            (Stop.issue code message details).failure =
              some (failureInfo code message
                (some (issueDetails details))) := rfl
        exact ⟨_, _, ofFailure_of_projectable failure fits, rfl, named⟩
    | _ =>
        cases exceeds

/-- How the statements end determines the run. -/
theorem run_eq_of_execution {left right : ToolProgramRuntime}
    {parse : String → Except ParseFailure Module} {request : ProgramRequest}
    (same :
      execution left parse request = execution right parse request) :
    run left parse request = run right parse request := by
  unfold execution at same
  simp only [run, completeProgram, outcome_bind, same]

/-- Under larger budgets, with tools that answer the invocations of a run alike,
the run is the same, or it was cut off by a budget and goes further. -/
theorem run_goes_further (allows : small.Allows large)
    (parse : String → Except ParseFailure Module) (request : ProgramRequest)
    (same : SameAnswers small large (run small parse request).2.invocations) :
    run large parse request = run small parse request ∨
      (run small parse request).2.Prolongs (run large parse request).2 ∧
        CutShort small parse request := by
  rw [state_run] at same
  have ends :
      CutOff (execution small parse request)
        (execution large parse request) :=
    (goesFurther_execProgram allows parse request.program).follows _ same
  rw [state_run, state_run]
  rcases ended : execution small parse request with ⟨result, cut⟩
  generalize further : execution large parse request = ended' at ends ⊢
  rw [ended] at ends
  cases ends with
  | same =>
      exact .inl (run_eq_of_execution (further.trans ended.symm))
  | exceeded exceeds prolongs =>
      exact .inr ⟨prolongs, cutShort_of_exceeds ended exceeds⟩

end Runs

section Integers

open scoped Integers

/-- Three calls of a tool that answers. -/
def threeCalls : Module where
  body :=
    [.forIn (.name "i") (.call (.name "range") [.constant (.int 3)] [])
      [.expr (.call (.name "call_tool") [.constant (.str "ping")] [])] []]
  nodes := 9

/-- Two of three calls are within the smaller budget. -/
theorem run_goes_further_calls :
    (run { maxToolCalls := 2, toolInvoker := fun _ _ => .result {} }
        (fun _ => .ok threeCalls) { program := "" }).2.Prolongs
      (run { toolInvoker := fun _ _ => .result {} }
        (fun _ => .ok threeCalls) { program := "" }).2 ∧
      (run { maxToolCalls := 2, toolInvoker := fun _ _ => .result {} }
        (fun _ => .ok threeCalls) { program := "" }).2.invocations.length =
        2 ∧
      (run { toolInvoker := fun _ _ => .result {} }
        (fun _ => .ok threeCalls) { program := "" }).2.invocations.length =
        3 := by
  have allows : ToolProgramRuntime.Allows
      { maxToolCalls := 2, toolInvoker := fun _ _ => .result {} }
      { toolInvoker := fun _ _ => .result {} } :=
    ⟨le_rfl, le_rfl, le_rfl, by decide⟩
  refine ⟨?_, rfl, rfl⟩
  rcases run_goes_further allows (fun _ => .ok threeCalls) { program := "" }
      (fun _ _ _ => rfl) with alike | ⟨prolongs, _⟩
  · rw [alike]
    exact .refl _
  · exact prolongs

end Integers

end ToolboxMcp
