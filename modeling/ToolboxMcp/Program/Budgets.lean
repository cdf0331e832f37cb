import Mathlib.Data.List.Range
import ToolboxMcp.Program.Relations
import ToolboxMcp.Program.Results

/-!
# Budgets and traces

Every evaluation keeps the books: the invocations made so far are exactly the
recorded traces, there are at most as many as the budget allows, and no loop
body is entered that was not counted.  The books stay open only while nothing
has failed, so a failed invocation is the last one.  An answered invocation is
recorded if its arguments can be redacted within the stack; the run that makes
one whose arguments cannot ends with an invocation it does not account for.
-/

namespace ToolboxMcp

open Effect

/-- Each trace is that of the invoker's answer to the invocation in the same
place. -/
inductive Recorded (runtime : ToolProgramRuntime) :
    List Invocation → List ProgramCallTrace → Prop where
  | none : Recorded runtime [] []
  | more {invocations : List Invocation} {traces : List ProgramCallTrace}
      {invocation : Invocation} {result : ToolResult}
      (before : Recorded runtime invocations traces)
      (answer :
        runtime.toolInvoker invocations invocation = .result result) :
      Recorded runtime (invocations ++ [invocation])
        (traces ++ [result.trace (traces.length + 1) invocation])

namespace Recorded

variable {runtime : ToolProgramRuntime} {invocations : List Invocation}
  {traces : List ProgramCallTrace}

theorem length (recorded : Recorded runtime invocations traces) :
    invocations.length = traces.length := by
  induction recorded with
  | none =>
      rfl
  | more before answer inductionHypothesis =>
      simp [inductionHypothesis]

theorem calls (recorded : Recorded runtime invocations traces) :
    traces.map (fun trace => (trace.tool, trace.arguments)) =
      invocations.map fun invocation =>
        (invocation.tool,
          PyValue.redactedEntries invocation.arguments) := by
  induction recorded with
  | none =>
      rfl
  | more before answer inductionHypothesis =>
      simp [inductionHypothesis, ToolResult.trace]

theorem indexed (recorded : Recorded runtime invocations traces) :
    traces.map ProgramCallTrace.index = List.range' 1 traces.length := by
  induction recorded with
  | none =>
      rfl
  | @more _ traces _ _ before answer inductionHypothesis =>
      have last : [traces.length + 1] = [1 + traces.length] := by
        rw [Nat.add_comm]
      rw [List.map_append, inductionHypothesis, List.length_append]
      simp only [List.map_cons, List.map_nil, ToolResult.trace,
        List.length_singleton]
      rw [last, List.range'_concat]
      simp

/-- Every recorded invocation was answered. -/
theorem answered {earlier : List Invocation} {last : Invocation}
    (recorded : Recorded runtime (earlier ++ [last]) traces) :
    ∃ result, runtime.toolInvoker earlier last = .result result := by
  generalize whole : earlier ++ [last] = invocations at recorded
  cases recorded with
  | none =>
      simp at whole
  | more before answer =>
      obtain ⟨rfl, single⟩ := List.append_inj' whole rfl
      cases single
      exact ⟨_, answer⟩

end Recorded

/-! ## The books -/

section Fits

variable [PythonStack]

/-- The stack has room to redact the arguments of every answered
invocation. -/
def AnswersFit (runtime : ToolProgramRuntime)
    (invocations : List Invocation) : Prop :=
  ∀ earlier invocation result, earlier ++ [invocation] <+: invocations →
    runtime.toolInvoker earlier invocation = .result result →
      invocation.fits (earlier.length + 1)

theorem AnswersFit.concat {runtime : ToolProgramRuntime}
    {invocations : List Invocation} {last : Invocation}
    (fit : AnswersFit runtime invocations)
    (fits :
      ∀ result, runtime.toolInvoker invocations last = .result result →
        last.fits (invocations.length + 1)) :
    AnswersFit runtime (invocations ++ [last]) := by
  intro earlier invocation result within answer
  rcases List.prefix_concat_iff.mp within with whole | before
  · obtain ⟨rfl, single⟩ := List.append_inj' whole rfl
    cases single
    exact fits result answer
  · exact fit earlier invocation result before answer

theorem AnswersFit.last {runtime : ToolProgramRuntime}
    {invocations : List Invocation} {last : Invocation} {result : ToolResult}
    (fit : AnswersFit runtime (invocations ++ [last]))
    (answer : runtime.toolInvoker invocations last = .result result) :
    last.fits (invocations.length + 1) :=
  fit invocations last result List.prefix_rfl answer

end Fits

/-- The codes of an invocation that did not come to an answer. -/
def failsInvocation (code : String) : Prop :=
  code = "tool_timeout" ∨ code = "tool_invocation_failed"

theorem not_failsInvocation_budget : ¬ failsInvocation "budget_exceeded" := by
  unfold failsInvocation
  decide

theorem not_failsInvocation_runtime :
    ¬ failsInvocation "program_runtime_error" := by
  unfold failsInvocation
  decide

theorem not_failsInvocation_result :
    ¬ failsInvocation "tool_call_failed" := by
  unfold failsInvocation
  decide

section Definitions

variable [PythonArithmetic]

/-- The state of an evaluation nothing has failed in. -/
structure Accounted (runtime : ToolProgramRuntime) (state : ProgramState) :
    Prop where
  recorded : Recorded runtime state.invocations state.traces
  fit : AnswersFit runtime state.invocations
  calls : state.traces.length ≤ runtime.maxToolCalls
  clean : ∀ trace ∈ state.traces, trace.isError = false
  entered : state.bodiesEntered ≤ state.loopIterations
  iterations : state.loopIterations ≤ runtime.maxLoopIterations

/-- The books are in order after a stretch that entered no more bodies than it
counted iterations. -/
structure Booked (runtime : ToolProgramRuntime)
    (before after : ProgramState) : Prop where
  accounted : Accounted runtime after
  counted :
    after.bodiesEntered + before.loopIterations ≤
      before.bodiesEntered + after.loopIterations
  grows : before.loopIterations ≤ after.loopIterations

/-- How an evaluation can end for good. -/
inductive Halted (runtime : ToolProgramRuntime) :
    Stop → ProgramState → Prop where
  | unanswered {stop : Stop} {state : ProgramState}
      {earlier : List Invocation} {last : Invocation}
      (bodies : state.bodiesEntered ≤ runtime.maxLoopIterations)
      (invocations : state.invocations = earlier ++ [last])
      (recorded : Recorded runtime earlier state.traces)
      (fit : AnswersFit runtime (earlier ++ [last]))
      (calls : state.traces.length < runtime.maxToolCalls)
      (clean : ∀ trace ∈ state.traces, trace.isError = false)
      (reason :
        stop = .cancelled ∧
            runtime.toolInvoker earlier last = .cancelled ∨
          (runtime.toolInvoker earlier last).raises ∧
            ∃ code message, failsInvocation code ∧
              stop = .issue code message (toolDetails last.tool)) :
      Halted runtime stop state
  | untraced {state : ProgramState} {earlier : List Invocation}
      {last : Invocation} {result : ToolResult}
      (bodies : state.bodiesEntered ≤ runtime.maxLoopIterations)
      (invocations : state.invocations = earlier ++ [last])
      (recorded : Recorded runtime earlier state.traces)
      (calls : state.traces.length < runtime.maxToolCalls)
      (answer : runtime.toolInvoker earlier last = .result result)
      (overflows : ¬ last.fits (earlier.length + 1)) :
      Halted runtime .overflow state
  | answered {stop : Stop} {state : ProgramState}
      (bodies : state.bodiesEntered ≤ runtime.maxLoopIterations)
      (recorded : Recorded runtime state.invocations state.traces)
      (fit : AnswersFit runtime state.invocations)
      (calls : state.traces.length ≤ runtime.maxToolCalls)
      (clean : ∀ trace ∈ state.traces.dropLast, trace.isError = false)
      (reason : ∀ code message details,
        stop = .issue code message details → ¬ failsInvocation code)
      (proceeds : stop ≠ .cancelled) :
      Halted runtime stop state

/-- A caught signal leaves the books as a return does. -/
def Stopped (runtime : ToolProgramRuntime) (before : ProgramState)
    (stop : Stop) (after : ProgramState) : Prop :=
  (stop.signal ≠ none ∧ Booked runtime before after) ∨
    (stop.signal = none ∧ Halted runtime stop after)

end Definitions

section Books

variable [PythonArithmetic] {runtime : ToolProgramRuntime} {first second third : ProgramState}

theorem Accounted.bodies (accounted : Accounted runtime first) :
    first.bodiesEntered ≤ runtime.maxLoopIterations :=
  accounted.entered.trans accounted.iterations

theorem Accounted.booked (accounted : Accounted runtime first) :
    Booked runtime first first :=
  ⟨accounted, le_rfl, le_rfl⟩

theorem Booked.trans (left : Booked runtime first second)
    (right : Booked runtime second third) : Booked runtime first third := by
  refine ⟨right.accounted, ?_, left.grows.trans right.grows⟩
  have one := left.counted
  have two := right.counted
  omega

theorem Stopped.after {stop : Stop} (left : Booked runtime first second)
    (right : Stopped runtime second stop third) :
    Stopped runtime first stop third := by
  rcases right with ⟨signals, booked⟩ | halted
  · exact .inl ⟨signals, left.trans booked⟩
  · exact .inr halted

/-- An exception that has nothing to do with a tool. -/
theorem Accounted.halted (accounted : Accounted runtime first) {stop : Stop}
    (reason : ∀ code message details,
      stop = .issue code message details → ¬ failsInvocation code)
    (proceeds : stop ≠ .cancelled) : Halted runtime stop first :=
  .answered accounted.bodies accounted.recorded accounted.fit accounted.calls
    (fun trace member =>
      accounted.clean trace (List.dropLast_subset _ member))
    reason proceeds

theorem Accounted.halted_budget (accounted : Accounted runtime first)
    (message : String) (details : List (String × PyValue)) :
    Halted runtime (.issue "budget_exceeded" message details) first := by
  apply accounted.halted
  · rintro code _ _ ⟨⟩
    exact not_failsInvocation_budget
  · simp

theorem Accounted.halted_error (accounted : Accounted runtime first)
    (error : PyError) : Halted runtime (.error error) first := by
  apply accounted.halted
  · rintro _ _ _ ⟨⟩
  · simp

end Books

/-! ## Every evaluation keeps them -/

/-- The computation keeps the books. -/
def Bookkeeping [PythonArithmetic] (runtime : ToolProgramRuntime) {α : Type}
    (program : ProgramM α) : Prop :=
  ∀ state, Accounted runtime state →
    wp program (fun _ after => Booked runtime state after)
      (fun stop after => Stopped runtime state stop after) state

namespace Bookkeeping

variable [PythonArithmetic] {runtime : ToolProgramRuntime} {α β : Type}

theorem returns (value : α) :
    Bookkeeping runtime (pure value : ProgramM α) :=
  fun _ accounted => accounted.booked

theorem sequence {first : ProgramM α} {next : α → ProgramM β}
    (keepsFirst : Bookkeeping runtime first)
    (keepsNext : ∀ value, Bookkeeping runtime (next value)) :
    Bookkeeping runtime (first >>= next) := by
  intro state accounted
  rw [wp_bind]
  apply wp_mono (keepsFirst state accounted)
  · intro value middle booked
    apply wp_mono (keepsNext value middle booked.accounted)
    · exact fun _ _ later => booked.trans later
    · exact fun _ _ stopped => stopped.after booked
  · exact fun _ _ stopped => stopped

theorem raises (error : PyError) :
    Bookkeeping runtime (throw (.error error) : ProgramM α) :=
  fun _ accounted => .inr ⟨rfl, accounted.halted_error error⟩

theorem reads (id : String) : Bookkeeping runtime (lookupName id) := by
  intro state accounted
  unfold lookupName
  rw [wp_bind, wp_get]
  split
  · exact accounted.booked
  · exact .inr ⟨rfl, accounted.halted_error _⟩

theorem binds (id : String) (value : PyValue) :
    Bookkeeping runtime (bindName id value) := by
  intro state accounted
  have same : Accounted runtime
      { state with environment := state.environment.set id value } :=
    ⟨accounted.recorded, accounted.fit, accounted.calls, accounted.clean,
      accounted.entered, accounted.iterations⟩
  exact ⟨same, le_rfl, le_rfl⟩

theorem catches {program : ProgramM PyValue}
    (keeps : Bookkeeping runtime program) :
    Bookkeeping runtime (catchSignal program) := by
  intro state accounted
  unfold catchSignal
  rw [wp_attempt]
  apply wp_mono (keeps state accounted)
  · exact fun _ _ booked => booked
  · intro stop after stopped
    rcases stopped with ⟨signals, booked⟩ | ⟨silent, halted⟩
    · obtain ⟨signal, found⟩ := Option.ne_none_iff_exists'.mp signals
      rw [found]
      exact booked
    · rw [silent]
      exact .inr ⟨silent, halted⟩

/-- A counted iteration leaves room for one more body. -/
theorem iterates {assign : ProgramM Unit}
    (keeps : Bookkeeping runtime assign) :
    Bookkeeping runtime (beginIteration runtime assign) := by
  intro state accounted
  unfold beginIteration countIteration
  simp only [wp_bind, wp_modify, wp_get]
  by_cases exceeded :
      state.loopIterations + 1 > runtime.maxLoopIterations
  · rw [if_pos exceeded]
    right
    refine ⟨rfl, ?_⟩
    have bodies := accounted.bodies
    refine .answered bodies accounted.recorded accounted.fit accounted.calls
      ?_ ?_ ?_
    · exact fun trace member =>
        accounted.clean trace (List.dropLast_subset _ member)
    · rintro code _ _ ⟨⟩
      exact not_failsInvocation_budget
    · simp
  · rw [if_neg exceeded]
    have counted : Accounted runtime
        { state with loopIterations := state.loopIterations + 1 } :=
      ⟨accounted.recorded, accounted.fit, accounted.calls, accounted.clean,
        Nat.le_succ_of_le accounted.entered, Nat.le_of_not_lt exceeded⟩
    have step : Booked runtime state
        { state with loopIterations := state.loopIterations + 1 } := by
      refine ⟨counted, ?_, Nat.le_succ _⟩
      change state.bodiesEntered + state.loopIterations ≤
        state.bodiesEntered + (state.loopIterations + 1)
      omega
    rw [wp_pure]
    apply wp_mono (keeps _ counted)
    · intro _ after booked
      have room := booked.counted
      have before := accounted.entered
      have fits : after.bodiesEntered + 1 ≤ after.loopIterations := by
        change after.bodiesEntered + (state.loopIterations + 1) ≤
          state.bodiesEntered + after.loopIterations at room
        omega
      have grows : state.loopIterations ≤ after.loopIterations :=
        step.grows.trans booked.grows
      refine ⟨⟨booked.accounted.recorded, booked.accounted.fit,
        booked.accounted.calls, booked.accounted.clean, fits,
        booked.accounted.iterations⟩, ?_, grows⟩
      change after.bodiesEntered + 1 + state.loopIterations ≤
        state.bodiesEntered + after.loopIterations
      change after.bodiesEntered + (state.loopIterations + 1) ≤
        state.bodiesEntered + after.loopIterations at room
      omega
    · exact fun _ _ stopped => stopped.after step

theorem dispatches (arguments tool : Option PyValue) :
    Bookkeeping runtime (dispatch arguments tool) := by
  unfold dispatch
  split
  · split
    · exact returns _
    · exact returns _
    · exact returns _
    · exact raises _
  · exact raises _

/-- An answer whose arguments can be redacted is recorded. -/
theorem records {invocation : Invocation} {result : ToolResult}
    {state : ProgramState} (accounted : Accounted runtime state)
    (room : state.traces.length < runtime.maxToolCalls)
    (answer :
      runtime.toolInvoker state.invocations invocation = .result result)
    (fits : invocation.fits (state.traces.length + 1)) :
    wp (recordResult invocation result)
      (fun _ after => Booked runtime state after)
      (fun stop after => Stopped runtime state stop after)
      { state with invocations := state.invocations ++ [invocation] } := by
  have recorded :
      Recorded runtime (state.invocations ++ [invocation])
        (state.traces ++
          [result.trace (state.traces.length + 1) invocation]) :=
    .more accounted.recorded answer
  have fit : AnswersFit runtime (state.invocations ++ [invocation]) := by
    apply accounted.fit.concat
    intro _ _
    rw [accounted.recorded.length]
    exact fits
  have calls :
      (state.traces ++
          [result.trace (state.traces.length + 1) invocation]).length ≤
        runtime.maxToolCalls := by
    rw [List.length_append, List.length_singleton]
    exact room
  unfold wp
  rw [outcome_recordResult (by exact fits)]
  cases failed : result.isError with
  | true =>
      right
      refine ⟨rfl, .answered accounted.bodies recorded fit calls ?_ ?_ ?_⟩
      · intro trace member
        rw [List.dropLast_concat] at member
        exact accounted.clean trace member
      · rintro code _ _ ⟨⟩
        exact not_failsInvocation_result
      · simp [ToolResult.failure]
  | false =>
      have clean : ∀ trace ∈ state.traces ++
          [result.trace (state.traces.length + 1) invocation],
          trace.isError = false := by
        intro trace member
        rcases List.mem_append.mp member with old | new
        · exact accounted.clean trace old
        · rw [List.mem_singleton.mp new]
          exact failed
      exact ⟨⟨recorded, fit, calls, clean, accounted.entered,
        accounted.iterations⟩, le_rfl, le_rfl⟩

/-- The four answers of the invoker. -/
theorem answers (invocation : Invocation) {state : ProgramState}
    (accounted : Accounted runtime state)
    (room : state.traces.length < runtime.maxToolCalls) :
    wp (invokeTool runtime invocation)
      (fun _ after => Booked runtime state after)
      (fun stop after => Stopped runtime state stop after) state := by
  have unanswered : ∀ stop : Stop,
      (∀ result,
        runtime.toolInvoker state.invocations invocation ≠
          .result result) →
      (stop = .cancelled ∧
          runtime.toolInvoker state.invocations invocation = .cancelled ∨
        (runtime.toolInvoker state.invocations invocation).raises ∧
          ∃ code message, failsInvocation code ∧
            stop = .issue code message (toolDetails invocation.tool)) →
      Halted runtime stop
        { state with invocations := state.invocations ++ [invocation] } :=
    fun stop silent reason =>
      .unanswered accounted.bodies rfl accounted.recorded
        (accounted.fit.concat fun result answer =>
          absurd answer (silent result))
        room accounted.clean reason
  unfold invokeTool
  simp only [wp_bind, wp_get, wp_set]
  cases answer : runtime.toolInvoker state.invocations invocation with
  | timeout =>
      refine .inr ⟨rfl, unanswered _ (by simp [answer]) (.inr ?_)⟩
      rw [answer]
      exact ⟨trivial, _, _, .inl rfl, rfl⟩
  | exception message =>
      refine .inr ⟨rfl, unanswered _ (by simp [answer]) (.inr ?_)⟩
      rw [answer]
      exact ⟨trivial, _, _, .inr rfl, rfl⟩
  | cancelled =>
      exact .inr ⟨rfl,
        unanswered _ (by simp [answer]) (.inl ⟨rfl, answer⟩)⟩
  | result result =>
      by_cases fits : invocation.fits (state.traces.length + 1)
      · exact records accounted room answer fits
      · have overflows : ¬ invocation.fits (state.invocations.length + 1) := by
          rw [accounted.recorded.length]
          exact fits
        simp only
        unfold wp
        rw [outcome_recordResult_overflow (by exact fits)]
        exact .inr ⟨rfl, .untraced accounted.bodies rfl accounted.recorded
          room answer overflows⟩

theorem invokes (positional : List PyValue)
    (keywords : Dict String PyValue) :
    Bookkeeping runtime (callToolBuiltin runtime positional keywords) := by
  intro state accounted
  unfold callToolBuiltin
  rw [wp_bind, wp_get]
  split
  · exact .inr ⟨rfl, accounted.halted_budget _ _⟩
  · rename_i within
    have room : state.traces.length < runtime.maxToolCalls :=
      Nat.lt_of_not_le within
    split
    · exact .inr ⟨rfl, accounted.halted_error _⟩
    · have chosen : ∀ arguments tool : Option PyValue,
          wp (do
              let invocation ← dispatch arguments tool
              invokeTool runtime invocation)
            (fun _ after => Booked runtime state after)
            (fun stop after => Stopped runtime state stop after) state := by
        intro arguments tool
        rw [wp_bind]
        unfold dispatch
        split
        · split
          · exact answers _ accounted room
          · exact answers _ accounted room
          · exact answers _ accounted room
          · exact .inr ⟨rfl, accounted.halted_error _⟩
        · exact .inr ⟨rfl, accounted.halted_error _⟩
      cases positional with
      | cons tool rest =>
          exact chosen rest.head? (some tool)
      | nil =>
          exact chosen (keywords.get "arguments") (keywords.get "tool")

end Bookkeeping

/-- Keeping the books, as a relation of a computation to itself. -/
def bookkeeping [PythonArithmetic] (runtime : ToolProgramRuntime) :
    ProgramRelation runtime (fun _ => True) where
  rel program _ := Bookkeeping runtime program
  returns := Bookkeeping.returns
  sequence first next := Bookkeeping.sequence first next
  raises := Bookkeeping.raises
  breaks _ accounted := .inl ⟨by simp [Stop.signal], accounted.booked⟩
  continues _ accounted := .inl ⟨by simp [Stop.signal], accounted.booked⟩
  reads _ := Bookkeeping.reads _
  binds value _ := Bookkeeping.binds _ value
  invokes _ := Bookkeeping.invokes
  iterates := Bookkeeping.iterates
  catches := Bookkeeping.catches

/-! ## Whole runs -/

/-- The run fails with this error of an invocation without an answer. -/
def RunEnding.FailsInvocation (ending : RunEnding) (error : ErrorInfo) :
    Prop :=
  ∃ result, ending = .result result ∧ result.error = some error ∧
    failsInvocation error.code

/-- The traces account for the invocations of a run. -/
structure Accounts (runtime : ToolProgramRuntime) (ending : RunEnding)
    (state : ProgramState) : Prop where
  indexed :
    state.traces.map ProgramCallTrace.index =
      List.range' 1 state.traces.length
  reported :
    ∀ result, ending = .result result →
      result.calls = state.traces ∧ result.callCount = state.traces.length
  /-- The recorded invocations, then at most one more: that of the tool the
  error names, if the error is that of an invocation without an answer. -/
  invoked :
    ∃ (earlier : List Invocation) (last : Option Invocation),
      state.invocations = earlier ++ last.toList ∧
      Recorded runtime earlier state.traces ∧
      (last.isSome ↔ ∃ error, ending.FailsInvocation error) ∧
      (∀ invocation error, last = some invocation →
        ending.FailsInvocation error →
          error.details =
            some (issueDetails (toolDetails invocation.tool))) ∧
      ∀ before trace after,
        state.traces = before ++ trace :: after → trace.isError = true →
          after = [] ∧ last = none

/-- The arguments of every answered invocation can be redacted, and after a
failed one its result can be built, within the stack. -/
structure InvocationsFit [PythonStack] (runtime : ToolProgramRuntime)
    (request : ProgramRequest) (state : ProgramState) : Prop where
  answered : AnswersFit runtime state.invocations
  failed :
    ∀ earlier last, state.invocations = earlier ++ [last] →
      (runtime.toolInvoker earlier last).raises →
        FailureProjectable request state

/-- What is to be shown of every run.  A cancelled run has been awaiting its
last invocation. -/
structure WithinBudgets [PythonStack] (runtime : ToolProgramRuntime)
    (request : ProgramRequest) (ended : RunEnding × ProgramState) :
    Prop where
  bodies : ended.2.bodiesEntered ≤ runtime.maxLoopIterations
  calls : ended.2.invocations.length ≤ runtime.maxToolCalls
  cancelled :
    ended.1 = .cancelled →
      ∃ earlier last,
        ended.2.invocations = earlier ++ [last] ∧
          Recorded runtime earlier ended.2.traces
  accounts :
    ended.1 ≠ .cancelled →
      (Accounts runtime ended.1 ended.2 ↔
        InvocationsFit runtime request ended.2)

section Runs

variable [PythonArithmetic] {runtime : ToolProgramRuntime}
  {request : ProgramRequest} {state : ProgramState}

theorem Halted.within {stop : Stop} (halted : Halted runtime stop state) :
    state.bodiesEntered ≤ runtime.maxLoopIterations ∧
      state.invocations.length ≤ runtime.maxToolCalls := by
  have oneMore : ∀ {earlier : List Invocation} {last : Invocation},
      state.invocations = earlier ++ [last] →
        Recorded runtime earlier state.traces →
          state.traces.length < runtime.maxToolCalls →
            state.invocations.length ≤ runtime.maxToolCalls := by
    intro earlier last invocations recorded calls
    rw [invocations, List.length_append, recorded.length]
    exact calls
  cases halted with
  | unanswered bodies invocations recorded fit calls clean reason =>
      exact ⟨bodies, oneMore invocations recorded calls⟩
  | untraced bodies invocations recorded calls answer overflows =>
      exact ⟨bodies, oneMore invocations recorded calls⟩
  | answered bodies recorded fit calls clean reason proceeds =>
      refine ⟨bodies, ?_⟩
      rw [recorded.length]
      exact calls

omit [PythonArithmetic] in
/-- A failed trace is the last one. -/
theorem last_of_isError {traces before after : List ProgramCallTrace}
    {trace : ProgramCallTrace}
    (clean : ∀ trace ∈ traces.dropLast, trace.isError = false)
    (split : traces = before ++ trace :: after)
    (failed : trace.isError = true) : after = [] := by
  by_contra more
  have earlier : trace ∈ traces.dropLast := by
    rw [split, List.dropLast_append_of_ne_nil (List.cons_ne_nil trace after)]
    apply List.mem_append_right
    rw [List.dropLast_cons_of_ne_nil more]
    exact List.mem_cons_self
  rw [clean trace earlier] at failed
  cases failed

omit [PythonArithmetic] in
/-- An ending with an answer for every invocation names no failed tool. -/
theorem not_failsInvocation_of_failure {stop : Stop} {error : ErrorInfo}
    (failure : stop.failure = some error)
    (reason : ∀ code message details,
      stop = .issue code message details → ¬ failsInvocation code) :
    ¬ failsInvocation error.code := by
  have invalid : ¬ failsInvocation "invalid_program" := by
    unfold failsInvocation
    decide
  cases stop with
  | issue code message details =>
      have same := Option.some.inj failure
      rw [← same]
      exact reason code message details rfl
  | syntaxError message line offset =>
      rw [← Option.some.inj failure]
      exact invalid
  | error pyError =>
      cases pyError with
      | valueError message =>
          rw [← Option.some.inj failure]
          exact invalid
      | exception message =>
          rw [← Option.some.inj failure]
          exact not_failsInvocation_runtime
  | loopBreak =>
      rw [← Option.some.inj failure]
      exact not_failsInvocation_runtime
  | loopContinue =>
      rw [← Option.some.inj failure]
      exact not_failsInvocation_runtime
  | cancelled =>
      cases failure

/-- The error of a failed run is that of the stop. -/
theorem failure_of_failsInvocation {stop : Stop} {error : ErrorInfo}
    (fails :
      (RunEnding.ofFailure request stop state).FailsInvocation error) :
    FailureProjectable request state ∧ stop.failure = some error ∧
      failsInvocation error.code := by
  obtain ⟨result, ended, reported, code⟩ := fails
  obtain ⟨fits, found, failure, rfl⟩ := result_of_ofFailure ended
  cases reported
  exact ⟨fits, failure, code⟩

theorem reported_of_ofFailure {stop : Stop} {result : ProgramRunResult}
    (ended : RunEnding.ofFailure request stop state = .result result) :
    result.calls = state.traces ∧
      result.callCount = state.traces.length := by
  obtain ⟨_, error, _, rfl⟩ := result_of_ofFailure ended
  exact ⟨rfl, rfl⟩

omit [PythonArithmetic] in
/-- One more invocation than traces is accounted for by a failing error
only. -/
theorem Accounts.fails_of_length {ending : RunEnding}
    (accounts : Accounts runtime ending state)
    (oneMore : state.invocations.length = state.traces.length + 1) :
    ∃ error, ending.FailsInvocation error := by
  obtain ⟨earlier, last, invocations, recorded, fails, _⟩ := accounts.invoked
  apply fails.mp
  rw [invocations, List.length_append, recorded.length] at oneMore
  cases last with
  | none =>
      simp at oneMore
  | some invocation =>
      rfl

omit [PythonArithmetic] in
/-- Without an invocation that failed everything is recorded. -/
theorem accounts_of_recorded {ending : RunEnding}
    (recorded : Recorded runtime state.invocations state.traces)
    (clean : ∀ trace ∈ state.traces.dropLast, trace.isError = false)
    (reported :
      ∀ result, ending = .result result →
        result.calls = state.traces ∧
          result.callCount = state.traces.length)
    (silent : ∀ error, ¬ ending.FailsInvocation error) :
    Accounts runtime ending state where
  indexed := recorded.indexed
  reported := reported
  invoked := by
    refine ⟨state.invocations, none, by simp, recorded, ?_, ?_, ?_⟩
    · constructor
      · rintro ⟨⟩
      · rintro ⟨error, fails⟩
        exact absurd fails (silent error)
    · rintro invocation error ⟨⟩
    · intro before trace after split failed
      exact ⟨last_of_isError clean split failed, rfl⟩

theorem invocationsFit_of_recorded
    (recorded : Recorded runtime state.invocations state.traces)
    (fit : AnswersFit runtime state.invocations) :
    InvocationsFit runtime request state where
  answered := fit
  failed := by
    intro earlier last invocations fails
    rw [invocations] at recorded
    obtain ⟨result, answer⟩ := recorded.answered
    rw [answer] at fails
    cases fails

/-- A failed invocation is accounted for if its result can be built. -/
theorem accounts_of_unanswered {earlier : List Invocation}
    {last : Invocation} {code message : String}
    (invocations : state.invocations = earlier ++ [last])
    (recorded : Recorded runtime earlier state.traces)
    (clean : ∀ trace ∈ state.traces, trace.isError = false)
    (fails : failsInvocation code)
    (fits : FailureProjectable request state) :
    Accounts runtime
      (.ofFailure request
        (.issue code message (toolDetails last.tool)) state) state where
  indexed := recorded.indexed
  reported := fun _ => reported_of_ofFailure
  invoked := by
    refine ⟨earlier, some last, invocations, recorded, ?_, ?_, ?_⟩
    · constructor
      · intro _
        exact ⟨_, _, ofFailure_of_projectable rfl fits, rfl, fails⟩
      · exact fun _ => rfl
    · rintro invocation error ⟨⟩ failing
      obtain ⟨_, failure, _⟩ := failure_of_failsInvocation failing
      rw [← Option.some.inj failure]
      rfl
    · intro before trace after split failed
      have member : trace ∈ state.traces := by
        rw [split]
        exact List.mem_append_right _ List.mem_cons_self
      rw [clean trace member] at failed
      cases failed

theorem Halted.accounts {stop : Stop} (halted : Halted runtime stop state)
    (proceeds : stop ≠ .cancelled) :
    Accounts runtime (.ofFailure request stop state) state ↔
      InvocationsFit runtime request state := by
  cases halted with
  | unanswered bodies invocations recorded fit calls clean reason =>
      rename_i earlier last
      rcases reason with ⟨rfl, _⟩ | ⟨fails, code, message, codes, rfl⟩
      · exact absurd rfl proceeds
      · constructor
        · intro accounts
          refine ⟨invocations ▸ fit, fun _ _ _ _ => ?_⟩
          obtain ⟨error, failing⟩ := accounts.fails_of_length (by
            rw [invocations, List.length_append, recorded.length]
            rfl)
          exact (failure_of_failsInvocation failing).1
        · intro fits
          exact accounts_of_unanswered invocations recorded clean codes
            (fits.failed earlier last invocations fails)
  | untraced bodies invocations recorded calls answer overflows =>
      constructor
      · intro accounts
        obtain ⟨error, failing⟩ := accounts.fails_of_length (by
          rw [invocations, List.length_append, recorded.length]
          rfl)
        obtain ⟨_, failure, codes⟩ := failure_of_failsInvocation failing
        refine absurd codes (not_failsInvocation_of_failure failure ?_)
        rintro _ _ _ ⟨⟩
      · intro fits
        have room := fits.answered
        rw [invocations] at room
        exact absurd (room.last answer) overflows
  | answered bodies recorded fit calls clean reason _ =>
      refine ⟨fun _ => invocationsFit_of_recorded recorded fit, fun _ =>
        accounts_of_recorded recorded clean (fun _ => reported_of_ofFailure)
          fun error failing => ?_⟩
      obtain ⟨_, failure, codes⟩ := failure_of_failsInvocation failing
      exact not_failsInvocation_of_failure failure reason codes

/-- A cancelled evaluation was awaiting its last invocation. -/
theorem Halted.awaiting {stop : Stop} (halted : Halted runtime stop state)
    (cancelled : stop = .cancelled) :
    ∃ earlier last,
      state.invocations = earlier ++ [last] ∧
        Recorded runtime earlier state.traces := by
  cases halted with
  | unanswered bodies invocations recorded fit calls clean reason =>
      exact ⟨_, _, invocations, recorded⟩
  | untraced bodies invocations recorded calls answer overflows =>
      cases cancelled
  | answered bodies recorded fit calls clean reason proceeds =>
      exact absurd cancelled proceeds

theorem Halted.withinBudgets {stop : Stop}
    (halted : Halted runtime stop state) :
    WithinBudgets runtime request
      (.ofFailure request stop state, state) := by
  refine ⟨halted.within.1, halted.within.2, fun cancelled => ?_, fun ends =>
    halted.accounts ?_⟩
  · exact halted.awaiting (cancelled_of_ofFailure cancelled)
  · rintro rfl
    exact ends rfl

theorem Accounted.withinBudgets (accounted : Accounted runtime state)
    (finalData : PyValue) :
    WithinBudgets runtime request
      (.result (request.resultOf none finalData state), state) := by
  refine ⟨accounted.bodies, ?_, nofun, fun _ => ?_⟩
  · rw [accounted.recorded.length]
    exact accounted.calls
  · refine ⟨fun _ => invocationsFit_of_recorded accounted.recorded
      accounted.fit, fun _ => accounts_of_recorded accounted.recorded ?_ ?_
        ?_⟩
    · exact fun trace member =>
        accounted.clean trace (List.dropLast_subset _ member)
    · rintro _ ⟨⟩
      exact ⟨rfl, rfl⟩
    · rintro error ⟨_, ⟨⟩, ⟨⟩, _⟩

/-- The body of the `try` block keeps the books. -/
theorem bookkeeping_execProgram
    (parse : String → Except ParseFailure Module) (program : String) :
    Bookkeeping runtime (execProgram runtime parse program) := by
  have refused : ∀ message details,
      Bookkeeping runtime
        (raiseIssue "budget_exceeded" message details :
          ProgramM PyValue) :=
    fun message details _ accounted =>
      .inr ⟨rfl, accounted.halted_budget message details⟩
  unfold execProgram
  split
  · exact refused _ _
  · split
    · intro state accounted
      refine .inr ⟨rfl, accounted.halted ?_ ?_⟩
      · rintro _ _ _ ⟨⟩
      · simp
    · exact Bookkeeping.raises _
    · split
      · exact refused _ _
      · exact (bookkeeping runtime).rel_execBlock _ _ fun _ _ => trivial

/-- Every run stays within its budgets, and accounts for its invocations just
if what it has to redact and to return fits the stack. -/
theorem run_withinBudgets
    (runtime : ToolProgramRuntime)
    (parse : String → Except ParseFailure Module)
    (request : ProgramRequest) :
    WithinBudgets runtime request (run runtime parse request) := by
  have initial :
      Accounted runtime { environment := request.initialContext } := by
    refine ⟨.none, ?_, Nat.zero_le _, nofun, le_rfl, Nat.zero_le _⟩
    intro earlier invocation result within
    simp at within
  have kept := bookkeeping_execProgram parse request.program _ initial
  rcases wp_cases kept with
    ⟨lastValue, state, ended, booked⟩ | ⟨stop, state, ended, stopped⟩
  · by_cases fits :
        Projectable PythonStack.resultRoom request
          (request.finalData lastValue state) state
    · rw [run_of_projectable ended fits]
      exact booked.accounted.withinBudgets _
    · rw [run_of_overflow ended fits]
      exact (booked.accounted.halted_error _).withinBudgets
  · rw [run_of_error ended]
    rcases stopped with ⟨signals, booked⟩ | ⟨_, halted⟩
    · apply Halted.withinBudgets
      apply booked.accounted.halted
      · rintro _ _ _ rfl
        exact absurd rfl signals
      · rintro rfl
        exact signals rfl
    · exact halted.withinBudgets

end Runs

section Integers

open scoped Integers

def answeringRuntime : ToolProgramRuntime where
  toolInvoker _ _ := .result { content := [.text "1"] }

/-- `x = []`, then `x = [x]` as often as given, then
`call_tool("t", {"a": x})`. -/
def nestingModule (levels : Int) : Module where
  nodes := 40
  body :=
    [.assign [.name "x"] (.list []),
     .forIn (.name "i")
      (.call (.name "range") [.constant (.int levels)] [])
      [.assign [.name "x"] (.list [.name "x"])] [],
     .expr (.call (.name "call_tool")
      [.constant (.str "t"), .dict [(.constant (.str "a"), .name "x")]] [])]

/-- A call with shallow arguments is accounted for. -/
theorem run_withinBudgets_shallow :
    Accounts answeringRuntime
      (run answeringRuntime (fun _ => .ok (nestingModule 3))
        { program := "" }).1
      (run answeringRuntime (fun _ => .ok (nestingModule 3))
        { program := "" }).2 := by
  have within := run_withinBudgets answeringRuntime
    (fun _ => .ok (nestingModule 3)) { program := "" }
  have shallow :
      ∀ invocation ∈ (run answeringRuntime (fun _ => .ok (nestingModule 3))
          { program := "" }).2.invocations,
        (PyValue.dict invocation.arguments).depth ≤ 890 := by
    decide +kernel
  refine (within.accounts nofun).mpr ⟨?_, fun _ _ _ => False.elim⟩
  intro earlier invocation result initial _
  exact shallow invocation
    (initial.subset (List.mem_append_right _ List.mem_cons_self))

/-- The redaction of deep arguments runs out of stack after the invocation and
before its trace is recorded. -/
theorem nested_arguments_untraced :
    (run answeringRuntime (fun _ => .ok (nestingModule 999))
        { program := "" }).2.invocations.length = 1 ∧
      (run answeringRuntime (fun _ => .ok (nestingModule 999))
        { program := "" }).2.traces.length = 0 ∧
      (((run answeringRuntime (fun _ => .ok (nestingModule 999))
        { program := "" }).1.result?.bind ProgramRunResult.error).map
          ErrorInfo.code) = some "program_runtime_error" ∧
      ¬ Accounts answeringRuntime
        (run answeringRuntime (fun _ => .ok (nestingModule 999))
          { program := "" }).1
        (run answeringRuntime (fun _ => .ok (nestingModule 999))
          { program := "" }).2 := by
  have ends :
      (run answeringRuntime (fun _ => .ok (nestingModule 999))
          { program := "" }).2.invocations.length = 1 ∧
        (run answeringRuntime (fun _ => .ok (nestingModule 999))
          { program := "" }).2.traces.length = 0 ∧
        (((run answeringRuntime (fun _ => .ok (nestingModule 999))
          { program := "" }).1.result?.bind ProgramRunResult.error).map
            ErrorInfo.code) = some "program_runtime_error" := by
    decide +kernel
  obtain ⟨invoked, untraced, code⟩ := ends
  refine ⟨invoked, untraced, code, fun accounts => ?_⟩
  obtain ⟨error, result, ended, reported, fails⟩ :=
    accounts.fails_of_length (by rw [invoked, untraced])
  rw [ended] at code
  simp only [RunEnding.result?, Option.bind_some, reported,
    Option.map_some, Option.some.injEq] at code
  rw [code] at fails
  exact not_failsInvocation_runtime fails

end Integers

end ToolboxMcp
