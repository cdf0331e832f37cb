import ToolboxMcp.Program.BatchAgreement

/-!
# What a batch does to its steps

A run of a batch is cut into the visits of its steps.  One visit makes at most
one call, and only after every reference in the arguments has been resolved to
a step that was visited before and has not failed.
-/

namespace ToolboxMcp

open Effect

/-! ## References in a tree of arguments -/

/-- The first value stands in the second, at some depth of dicts and lists. -/
inductive Within (inner : PyValue) : PyValue → Prop where
  | self : Within inner inner
  | entry {key : String} {value : PyValue} {entries : List (String × PyValue)}
      (member : (key, value) ∈ entries) (within : Within inner value) :
      Within inner (.dict entries)
  | item {value : PyValue} {items : List PyValue}
      (member : value ∈ items) (within : Within inner value) :
      Within inner (.list items)

/-- `{"$from": reference}`. -/
def referenceNode (reference : String) : PyValue :=
  .dict [("$from", .str reference)]

theorem reference?_eq_some {entries : List (String × PyValue)}
    {reference : PyValue} (node : reference? entries = some reference) :
    entries = [("$from", reference)] := by
  unfold reference? at node
  split at node
  · split at node
    · rename_i key found same
      cases node
      rw [same]
    · cases node
  · cases node

section Resolution

variable {reader : TextReader} {resultsById : Dict String BatchStepResult}

theorem resolved_entry {entries resolved : List (String × PyValue)}
    (resolves : resolveBatchEntries reader resultsById entries = .ok resolved)
    {key : String} {value : PyValue} (member : (key, value) ∈ entries) :
    ∃ found, resolveBatchValue reader resultsById value = .ok found := by
  induction entries generalizing resolved with
  | nil => cases member
  | cons entry entries inductionHypothesis =>
      obtain ⟨found, head, rest, tail, _⟩ :=
        resolveBatchEntries_cons.mp resolves
      rcases List.mem_cons.mp member with rfl | later
      · exact ⟨found, head⟩
      · exact inductionHypothesis tail later

theorem resolved_item {items resolved : List PyValue}
    (resolves : resolveBatchItems reader resultsById items = .ok resolved)
    {value : PyValue} (member : value ∈ items) :
    ∃ found, resolveBatchValue reader resultsById value = .ok found := by
  induction items generalizing resolved with
  | nil => cases member
  | cons item items inductionHypothesis =>
      obtain ⟨found, head, rest, tail, _⟩ := resolveBatchItems_cons.mp resolves
      rcases List.mem_cons.mp member with rfl | later
      · exact ⟨found, head⟩
      · exact inductionHypothesis tail later

/-- A tree resolves only if each reference in it does. -/
theorem resolved_within {reference : String} {value resolved : PyValue}
    (within : Within (referenceNode reference) value)
    (resolves : resolveBatchValue reader resultsById value = .ok resolved) :
    ∃ found,
      extractBatchReference reader reference resultsById = .ok found := by
  induction within generalizing resolved with
  | self =>
      unfold referenceNode resolveBatchValue at resolves
      exact ⟨resolved, resolves⟩
  | @entry key value entries member within inductionHypothesis =>
      cases node : reference? entries with
      | none =>
          obtain ⟨others, inside, _⟩ := (resolveBatchValue_dict node).mp resolves
          obtain ⟨found, held⟩ := resolved_entry inside member
          exact inductionHypothesis held
      | some target =>
          have whole := reference?_eq_some node
          rw [whole] at member
          cases List.mem_singleton.mp member
          unfold resolveBatchValue at resolves
          cases value with
          | str name => cases within
          | _ =>
              rw [node] at resolves
              cases resolves
  | @item value items member within inductionHypothesis =>
      obtain ⟨others, inside, _⟩ := resolveBatchValue_list.mp resolves
      obtain ⟨found, held⟩ := resolved_item inside member
      exact inductionHypothesis held

/-- A reference names a step that has a result without an error. -/
theorem named_of_extracted {reference : String} {found : PyValue}
    (extracted :
      extractBatchReference reader reference resultsById = .ok found) :
    ∃ stepId tokens result,
      batchTokens reference = stepId :: tokens ∧
        resultsById.get stepId = some result ∧ result.isError = false := by
  unfold extractBatchReference at extracted
  split at extracted
  · cases extracted
  · rename_i stepId tokens split_
    cases stored : resultsById.get stepId with
    | none =>
        rw [stored] at extracted
        cases extracted
    | some result =>
        rw [stored] at extracted
        simp only at extracted
        split at extracted
        · cases extracted
        · rename_i succeeded
          exact ⟨stepId, tokens, result, split_, stored,
            by simpa using succeeded⟩

end Resolution

/-! ## Visits -/

structure BatchVisit where
  step : BatchStep
  before : BatchState
  invocation : Option Invocation
  /-- None where the visit was cancelled. -/
  result : Option BatchStepResult
  after : BatchState

section Visits

variable [PythonStack] (reader : TextReader) (tools : MountedTools)

/-- A call that the step makes carries its arguments with the references
resolved. -/
def BatchStep.Makes (step : BatchStep) (before : BatchState)
    (called : Option Invocation) : Prop :=
  ∀ invocation ∈ called,
    invocation.tool = step.tool ∧
      resolveBatchValue reader before.resultsById (.dict step.arguments) =
        .ok (.dict invocation.arguments)

/-- The visit is what `runStep` does in the state before it. -/
structure BatchVisit.Runs (visit : BatchVisit) : Prop where
  run :
    (match outcome (runStep reader tools visit.step) visit.before with
      | (.ok result, after) => (some result, after)
      | (.error _, after) => (none, after)) = (visit.result, visit.after)
  invocations :
    visit.after.invocations =
      visit.before.invocations ++ visit.invocation.toList

/-- The visits lead from one state to the other. -/
inductive Visits : BatchState → List BatchVisit → BatchState → Prop where
  | done (state : BatchState) : Visits state [] state
  | next {visit : BatchVisit} {visited : List BatchVisit} {final : BatchState}
      (runs : visit.Runs reader tools)
      (visits : Visits visit.after visited final) :
      Visits visit.before (visit :: visited) final

variable {reader tools}

/-- What the body of a step leaves behind, and the call it has made. -/
structure BatchStep.Leaves (reader : TextReader) (step : BatchStep)
    (before after : BatchState) (called : Option Invocation) : Prop where
  results : after.results = before.results
  resultsById : after.resultsById = before.resultsById
  makes : step.Makes reader before called
  invocations :
    after.invocations = before.invocations ++ called.toList

omit [PythonStack] in
theorem leaves_nothing (step : BatchStep) (batch : BatchState) :
    step.Leaves reader batch batch none where
  results := rfl
  resultsById := rfl
  makes := by
    intro invocation member
    cases member
  invocations := (List.append_nil _).symm

omit [PythonStack] in
/-- What a conversion raises is no cancellation. -/
theorem caught_of_mapError {ε α : Type} {message : ε → String}
    {result : Except ε α} {stop : BatchStop}
    (raised :
      result.mapError (fun error => BatchStop.exception (message error)) =
        .error stop) :
    stop ≠ .cancelled := by
  intro cancelled
  subst cancelled
  cases result with
  | ok value => cases raised
  | error message => cases raised

omit [PythonStack] in
theorem eq_dict_of_stepArguments {step : BatchStep} {resolved : PyValue}
    {entries : List (String × PyValue)}
    (object : stepArguments step resolved = .ok entries) :
    resolved = .dict entries := by
  cases resolved with
  | dict others =>
      cases object
      rfl
  | _ => cases object

theorem attemptStep_leaves (step : BatchStep) (batch : BatchState) :
    wp (attemptStep reader tools step)
      (fun result final =>
        result.id = step.id ∧ result.tool = step.tool ∧
          ∃ called, step.Leaves reader batch final called)
      (fun stop final =>
        ∃ called, step.Leaves reader batch final called ∧
          (stop = .cancelled →
            ∃ invocation ∈ called,
              tools.callMountedTool batch.invocations invocation =
                .cancelled)) batch := by
  unfold attemptStep
  simp only [wp_bind, wp_get, wp_fromExcept]
  cases resolves :
    resolveBatchValue reader batch.resultsById (.dict step.arguments) with
  | error message =>
      refine ⟨none, leaves_nothing step batch, ?_⟩
      intro stopped
      cases stopped
  | ok resolved =>
      cases object : stepArguments step resolved with
      | error message =>
          simp only [Except.mapError, object]
          refine ⟨none, leaves_nothing step batch, ?_⟩
          intro stopped
          cases stopped
      | ok entries =>
          cases eq_dict_of_stepArguments object
          have leaves : ∀ final : BatchState,
              final.results = batch.results →
                final.resultsById = batch.resultsById →
                  final.invocations =
                      batch.invocations ++ [⟨step.tool, entries⟩] →
                    step.Leaves reader batch final
                      (some ⟨step.tool, entries⟩) := by
            intro final results byId invocations
            refine ⟨results, byId, ?_, invocations⟩
            intro invocation member
            cases member
            exact ⟨rfl, resolves⟩
          simp only [Except.mapError, object]
          split
          · unfold answerStep callStepTool
            simp only [wp_bind, wp_get, wp_set]
            split
            · exact ⟨_, leaves _ rfl rfl rfl, by intro stopped; cases stopped⟩
            · exact ⟨_, leaves _ rfl rfl rfl, by intro stopped; cases stopped⟩
            · rename_i cancelled
              exact ⟨_, leaves _ rfl rfl rfl, fun _ =>
                ⟨_, rfl, cancelled⟩⟩
            · simp only [wp_pure, wp_fromExcept]
              split
              · split
                · exact ⟨trivial, trivial, _, leaves _ rfl rfl rfl⟩
                · rename_i raised
                  refine ⟨_, leaves _ rfl rfl rfl, ?_⟩
                  intro stopped
                  exact absurd stopped (caught_of_mapError raised)
              · rename_i raised
                refine ⟨_, leaves _ rfl rfl rfl, ?_⟩
                intro stopped
                exact absurd stopped (caught_of_mapError raised)
          · exact ⟨none, leaves_nothing step batch,
              by intro stopped; cases stopped⟩

/-- The visit ends with a result of its own step. -/
structure BatchVisit.Reported (visit : BatchVisit)
    (result : BatchStepResult) : Prop where
  ends : visit.result = some result
  id : result.id = visit.step.id
  tool : result.tool = visit.step.tool
  results : visit.after.results = visit.before.results ++ [result]
  resultsById :
    visit.after.resultsById =
      visit.before.resultsById.set visit.step.id result

/-- The visit ends when its call is cancelled. -/
structure BatchVisit.Cancelled (tools : MountedTools)
    (visit : BatchVisit) : Prop where
  ends : visit.result = none
  results : visit.after.results = visit.before.results
  resultsById : visit.after.resultsById = visit.before.resultsById
  call :
    ∃ invocation ∈ visit.invocation,
      tools.callMountedTool visit.before.invocations invocation = .cancelled

/-- There is a visit for each run of a step. -/
theorem exists_visit (step : BatchStep) (batch : BatchState) :
    ∃ visit : BatchVisit,
      visit.Runs reader tools ∧ visit.step = step ∧ visit.before = batch ∧
        visit.step.Makes reader visit.before visit.invocation ∧
        ((∃ result,
            outcome (runStep reader tools step) batch =
                (.ok result, visit.after) ∧
              visit.Reported result) ∨
          (outcome (runStep reader tools step) batch =
              (.error .cancelled, visit.after) ∧
            visit.Cancelled tools)) := by
  have ran := @outcome_runStep reader tools _ step batch
  rcases wp_cases (@attemptStep_leaves _ reader tools step batch) with
    ⟨result, middle, ended, named, tool, called, leaves⟩ |
      ⟨stop, middle, ended, called, leaves, cancels⟩
  · rw [ended] at ran
    refine ⟨⟨step, batch, called, some result, middle.record result⟩,
      ⟨by rw [ran], leaves.invocations⟩, rfl, rfl, leaves.makes,
      .inl ⟨result, ran, rfl, named, tool, ?_, ?_⟩⟩
    · simp only [BatchState.record, leaves.results]
    · simp only [BatchState.record, leaves.resultsById, named]
  · rw [ended] at ran
    cases stop with
    | exception message =>
        refine ⟨⟨step, batch, called, some (raisedResult step message),
            middle.record (raisedResult step message)⟩,
          ⟨by rw [ran], leaves.invocations⟩, rfl, rfl, leaves.makes,
          .inl ⟨_, ran, rfl, rfl, rfl, ?_, ?_⟩⟩
        · simp only [BatchState.record, leaves.results]
        · simp only [BatchState.record, leaves.resultsById, raisedResult]
    | cancelled =>
        exact ⟨⟨step, batch, called, none, middle⟩,
          ⟨by rw [ran], leaves.invocations⟩, rfl, rfl, leaves.makes,
          .inr ⟨ran, rfl, leaves.results, leaves.resultsById, cancels rfl⟩⟩

/-- The run determines the visit. -/
theorem BatchVisit.Runs.unique {visit other : BatchVisit}
    (runs : visit.Runs reader tools) (again : other.Runs reader tools)
    (step : other.step = visit.step) (before : other.before = visit.before) :
    other = visit := by
  obtain ⟨_, _, _, _, _⟩ := visit
  obtain ⟨_, _, _, _, _⟩ := other
  simp only at step before
  subst step before
  obtain ⟨result, after⟩ :=
    Prod.mk.inj (runs.run.symm.trans again.run)
  have called := runs.invocations.symm
  rw [after, again.invocations] at called
  simp only at result after called
  have heads := congrArg List.head? (List.append_cancel_left called)
  simp only [Option.head?_toList] at heads
  simp [result, after, heads]

theorem BatchVisit.Runs.makes {visit : BatchVisit}
    (runs : visit.Runs reader tools) :
    visit.step.Makes reader visit.before visit.invocation := by
  obtain ⟨other, again, step, before, makes, _⟩ :=
    @exists_visit _ reader tools visit.step visit.before
  cases runs.unique again step before
  exact makes

theorem BatchVisit.Runs.ends {visit : BatchVisit}
    (runs : visit.Runs reader tools) :
    (∃ result, visit.Reported result) ∨ visit.Cancelled tools := by
  obtain ⟨other, again, step, before, _, ends⟩ :=
    @exists_visit _ reader tools visit.step visit.before
  cases runs.unique again step before
  rcases ends with ⟨result, _, reported⟩ | ⟨_, cancelled⟩
  · exact .inl ⟨result, reported⟩
  · exact .inr cancelled

/-! ## Visits one after the other -/

/-- What is recorded about the state: its steps have their results under their
ids. -/
structure BatchState.Indexed (state : BatchState) : Prop where
  recorded :
    ∀ id result, state.resultsById.get id = some result →
      result ∈ state.results ∧ result.id = id

omit [PythonStack] in
theorem BatchVisit.Reported.indexed {visit : BatchVisit}
    {result : BatchStepResult} (reported : visit.Reported result)
    (indexed : visit.before.Indexed) : visit.after.Indexed := by
  constructor
  intro id found stored
  rw [reported.resultsById, Dict.get_set] at stored
  rw [reported.results]
  split at stored
  · rename_i same
    cases stored
    exact ⟨by simp, reported.id.trans same.symm⟩
  · obtain ⟨member, named⟩ := indexed.recorded id found stored
    exact ⟨List.mem_append_left _ member, named⟩

omit [PythonStack] in
theorem BatchVisit.Cancelled.indexed {visit : BatchVisit}
    (cancelled : visit.Cancelled tools) (indexed : visit.before.Indexed) :
    visit.after.Indexed := by
  constructor
  rw [cancelled.results, cancelled.resultsById]
  exact indexed.recorded

theorem Visits.results {before final : BatchState}
    {visited : List BatchVisit}
    (visits : Visits reader tools before visited final) :
    final.results = before.results ++ visited.filterMap (·.result) := by
  induction visits with
  | done state => simp
  | @next visit visited final runs _ inductionHypothesis =>
      rw [inductionHypothesis]
      rcases runs.ends with ⟨result, reported⟩ | cancelled
      · rw [reported.results, List.filterMap_cons_some reported.ends,
          List.append_assoc]
        rfl
      · rw [cancelled.results, List.filterMap_cons_none cancelled.ends]

theorem Visits.invocations {before final : BatchState}
    {visited : List BatchVisit}
    (visits : Visits reader tools before visited final) :
    final.invocations =
      before.invocations ++ visited.filterMap (·.invocation) := by
  induction visits with
  | done state => simp
  | @next visit visited final runs _ inductionHypothesis =>
      rw [inductionHypothesis, runs.invocations]
      cases called : visit.invocation with
      | none => simp [called]
      | some invocation => simp [called]

/-- A list of visits can be cut anywhere. -/
theorem Visits.cut {front back : List BatchVisit} :
    ∀ {before final : BatchState},
      Visits reader tools before (front ++ back) final →
        ∃ middle, Visits reader tools before front middle ∧
          Visits reader tools middle back final := by
  induction front with
  | nil =>
      intro before final visits
      exact ⟨before, .done before, visits⟩
  | cons visit front inductionHypothesis =>
      intro before final visits
      cases visits with
      | next runs rest =>
          obtain ⟨middle, first, last⟩ := inductionHypothesis rest
          exact ⟨middle, .next runs first, last⟩

theorem Visits.indexed {before final : BatchState}
    {visited : List BatchVisit}
    (visits : Visits reader tools before visited final)
    (indexed : before.Indexed) : final.Indexed := by
  induction visits with
  | done state => exact indexed
  | @next visit visited final runs _ inductionHypothesis =>
      apply inductionHypothesis
      rcases runs.ends with ⟨result, reported⟩ | cancelled
      · exact reported.indexed indexed
      · exact cancelled.indexed indexed

/-- A step that makes a call refers to steps that were visited before it and
have a result without an error. -/
theorem BatchVisit.Runs.refers {visit : BatchVisit}
    (runs : visit.Runs reader tools) (indexed : visit.before.Indexed)
    (called : visit.invocation.isSome = true) {reference : String}
    (within :
      Within (referenceNode reference) (.dict visit.step.arguments)) :
    ∃ stepId tokens, batchTokens reference = stepId :: tokens ∧
      ∃ result ∈ visit.before.results,
        result.id = stepId ∧ result.isError = false := by
  obtain ⟨invocation, made⟩ := Option.isSome_iff_exists.mp called
  obtain ⟨_, resolves⟩ := runs.makes invocation made
  obtain ⟨found, extracted⟩ := resolved_within within resolves
  obtain ⟨stepId, tokens, result, named, stored, succeeded⟩ :=
    named_of_extracted extracted
  obtain ⟨member, same⟩ := indexed.recorded stepId result stored
  exact ⟨stepId, tokens, named, result, member, same, succeeded⟩

/-! ## Where a batch ends -/

def BatchVisit.failed (visit : BatchVisit) : Bool :=
  visit.result.any (·.isError)

/-- How far a batch goes that is not cancelled. -/
inductive Extent (continueOnError : Bool) (steps : List BatchStep)
    (visited : List BatchVisit) : Bool → Prop where
  | all (whole : visited.map (·.step) = steps)
      (goesOn :
        continueOnError = true ∨ ∀ visit ∈ visited, visit.failed = false) :
      Extent continueOnError steps visited false
  | stopped {front : List BatchVisit} {last : BatchVisit}
      (stops : continueOnError = false) (ends : visited = front ++ [last])
      (succeeded : ∀ visit ∈ front, visit.failed = false)
      (failed : last.failed = true) :
      Extent continueOnError steps visited true

omit [PythonStack] in
theorem Extent.cons {continueOnError stopped : Bool}
    {steps : List BatchStep} {visit : BatchVisit}
    {visited : List BatchVisit}
    (extent : Extent continueOnError steps visited stopped)
    (goesOn : continueOnError = true ∨ visit.failed = false) :
    Extent continueOnError (visit.step :: steps) (visit :: visited)
      stopped := by
  cases extent with
  | all whole others =>
      refine .all (by simp [whole]) ?_
      rcases goesOn with continues | succeeded
      · exact .inl continues
      · rcases others with continues | others
        · exact .inl continues
        · refine .inr ?_
          intro other member
          rcases List.mem_cons.mp member with rfl | later
          · exact succeeded
          · exact others other later
  | @stopped front last stops ends succeeded failed =>
      have parts : visit :: visited = (visit :: front) ++ [last] := by
        rw [ends]
        rfl
      refine .stopped stops parts ?_ failed
      intro other member
      rcases List.mem_cons.mp member with rfl | later
      · rcases goesOn with continues | good
        · rw [stops] at continues
          cases continues
        · exact good
      · exact succeeded other later

/-- The steps of a batch are visited in order, up to where it ends. -/
theorem runSteps_visits (continueOnError : Bool) (steps : List BatchStep) :
    ∀ batch : BatchState,
      ∃ visited,
        Visits reader tools batch visited
            (outcome (runSteps reader tools continueOnError steps)
              batch).2 ∧
          visited.map (·.step) <+: steps ∧
          match (outcome (runSteps reader tools continueOnError steps)
              batch).1 with
          | .ok stopped =>
              Extent continueOnError steps visited stopped ∧
                ∀ visit ∈ visited, ∃ result, visit.Reported result
          | .error _ =>
              ∃ front last, visited = front ++ [last] ∧
                last.Cancelled tools := by
  induction steps with
  | nil =>
      intro batch
      refine ⟨[], .done batch, List.nil_prefix, ?_⟩
      exact ⟨.all rfl (.inr (by simp)), by simp⟩
  | cons step steps inductionHypothesis =>
      intro batch
      unfold runSteps
      rw [outcome_bind]
      obtain ⟨visit, runs, rfl, rfl, _, ends⟩ :=
        @exists_visit _ reader tools step batch
      rcases ends with ⟨result, ran, reported⟩ | ⟨ran, cancelled⟩
      · have failing : visit.failed = result.isError := by
          simp [BatchVisit.failed, reported.ends]
        rw [ran]
        simp only
        split
        · rename_i stops
          have both : result.isError = true ∧ continueOnError = false := by
            simpa using stops
          refine ⟨[visit], .next runs (.done _), by simp, ?_, ?_⟩
          · have alone : [visit] = [] ++ [visit] := rfl
            exact .stopped both.2 alone (by simp) (failing.trans both.1)
          · intro other member
            cases List.mem_singleton.mp member
            exact ⟨result, reported⟩
        · rename_i goes
          have goesOn : continueOnError = true ∨ visit.failed = false := by
            rw [failing]
            cases failed : result.isError with
            | false => exact .inr rfl
            | true => exact .inl (by simpa [failed] using goes)
          obtain ⟨visited, visits, ahead, ends⟩ :=
            inductionHypothesis visit.after
          refine ⟨visit :: visited, .next runs visits, ?_, ?_⟩
          · simpa using ahead
          · split at ends
            · refine ⟨ends.1.cons goesOn, ?_⟩
              intro other member
              rcases List.mem_cons.mp member with rfl | later
              · exact ⟨result, reported⟩
              · exact ends.2 other later
            · obtain ⟨front, last, parts, cancelled⟩ := ends
              exact ⟨visit :: front, last, by simp [parts], cancelled⟩
      · rw [ran]
        refine ⟨[visit], .next runs (.done _), by simp, [], visit, rfl,
          cancelled⟩

/-! ## What a batch reports -/

/-- The batch accounts for the steps it has visited. -/
structure BatchAccounts (tools : MountedTools) (steps : List BatchStep)
    (visited : List BatchVisit) (final : BatchState) : Prop where
  ordered : visited.map (·.step) <+: steps
  invocations : final.invocations = visited.filterMap (·.invocation)
  tool :
    ∀ visit ∈ visited, ∀ invocation ∈ visit.invocation,
      invocation.tool = visit.step.tool
  refers :
    ∀ front visit back, visited = front ++ visit :: back →
      visit.invocation.isSome = true →
        ∀ reference,
          Within (referenceNode reference) (.dict visit.step.arguments) →
            ∃ stepId tokens, batchTokens reference = stepId :: tokens ∧
              ∃ earlier ∈ front, ∃ result,
                earlier.result = some result ∧ earlier.step.id = stepId ∧
                  result.isError = false

/-- The result of the batch tells how the visits went. -/
structure BatchReports (steps : List BatchStep) (continueOnError : Bool)
    (visited : List BatchVisit) (result : BatchRunResult) : Prop where
  results : visited.map (·.result) = result.results.map some
  ids :
    result.results.map (fun own => (own.id, own.tool)) =
      visited.map (fun visit => (visit.step.id, visit.step.tool))
  extent : Extent continueOnError steps visited result.stoppedOnError
  success :
    result.success = true ↔ ∀ own ∈ result.results, own.isError = false
  completed :
    result.success = true → result.completedSteps = result.stepCount
  stepCount : result.stepCount = steps.length
  completedSteps : result.completedSteps = result.results.length
  succeeds : result.success = true → result.error = none
  fails :
    ∀ front failed back, result.results = front ++ failed :: back →
      (∀ own ∈ front, own.isError = false) → failed.isError = true →
        result.error = some (stepFailed failed)
  stopped :
    result.stoppedOnError = true ↔
      (∃ own ∈ result.results, own.isError = true) ∧ continueOnError = false

theorem batchAccounts_of_visits {steps : List BatchStep}
    {visited : List BatchVisit} {final : BatchState}
    (visits : Visits reader tools {} visited final)
    (ordered : visited.map (·.step) <+: steps) :
    BatchAccounts tools steps visited final where
  ordered := ordered
  invocations := visits.invocations
  tool := by
    intro visit member invocation called
    obtain ⟨front, back, parts⟩ := List.append_of_mem member
    subst parts
    obtain ⟨middle, _, rest⟩ := visits.cut
    cases rest with
    | next runs _ => exact (runs.makes invocation called).1
  refers := by
    intro front visit back parts called reference within
    subst parts
    obtain ⟨middle, first, rest⟩ := visits.cut
    cases rest with
    | next runs _ =>
        have empty : BatchState.Indexed {} := by
          constructor
          intro id result stored
          cases stored
        obtain ⟨stepId, tokens, named, result, member, same, succeeded⟩ :=
          runs.refers (first.indexed empty) called within
        rw [first.results] at member
        obtain ⟨earlier, among, ended⟩ := List.mem_filterMap.mp member
        obtain ⟨before, after, cut⟩ := List.append_of_mem among
        subst cut
        obtain ⟨_, _, visiting⟩ := first.cut
        cases visiting with
        | next ran _ =>
            rcases ran.ends with ⟨own, reported⟩ | cancelled
            · cases reported.ends.symm.trans ended
              exact ⟨stepId, tokens, named, earlier, among, result, ended,
                reported.id.symm.trans same, succeeded⟩
            · cases cancelled.ends.symm.trans ended

omit [PythonStack] in
theorem failed_iff_of_results {visited : List BatchVisit}
    {results : List BatchStepResult}
    (same : visited.map (·.result) = results.map some) :
    (∀ visit ∈ visited, visit.failed = false) ↔
      ∀ own ∈ results, own.isError = false := by
  have failures :
      visited.map (·.failed) = results.map (·.isError) := by
    have mapped := congrArg (List.map (Option.any (·.isError))) same
    simpa [BatchVisit.failed, Function.comp_def] using mapped
  constructor
  · intro succeeded own member
    have among : own.isError ∈ visited.map (·.failed) := by
      rw [failures]
      exact List.mem_map_of_mem member
    obtain ⟨visit, visiting, failed⟩ := List.mem_map.mp among
    exact failed.symm.trans (succeeded visit visiting)
  · intro succeeded visit member
    have among : visit.failed ∈ results.map (·.isError) := by
      rw [← failures]
      exact List.mem_map_of_mem member
    obtain ⟨own, among, failed⟩ := List.mem_map.mp among
    exact failed.symm.trans (succeeded own among)

omit [PythonStack] in
theorem results_of_reported {visited : List BatchVisit}
    (reported : ∀ visit ∈ visited, ∃ result, visit.Reported result) :
    visited.map (·.result) = (visited.filterMap (·.result)).map some ∧
      (visited.filterMap (·.result)).map (fun own => (own.id, own.tool)) =
        visited.map (fun visit => (visit.step.id, visit.step.tool)) := by
  induction visited with
  | nil => exact ⟨rfl, rfl⟩
  | cons visit visited inductionHypothesis =>
      obtain ⟨result, first⟩ := reported visit List.mem_cons_self
      obtain ⟨results, ids⟩ :=
        inductionHypothesis fun other member =>
          reported other (List.mem_cons_of_mem visit member)
      rw [List.filterMap_cons_some first.ends]
      constructor
      · simp only [List.map_cons, first.ends, results]
      · simp only [List.map_cons, ids, first.id, first.tool]

omit [PythonStack] in
/-- A batch is stopped by a failure, unless it is told to go on. -/
theorem Extent.stopped_iff {continueOnError stopped : Bool}
    {steps : List BatchStep} {visited : List BatchVisit}
    (extent : Extent continueOnError steps visited stopped) :
    stopped = true ↔
      (∃ visit ∈ visited, visit.failed = true) ∧
        continueOnError = false := by
  cases extent with
  | all whole goesOn =>
      constructor
      · intro stops
        cases stops
      · rintro ⟨⟨visit, member, failed⟩, stops⟩
        rcases goesOn with continues | succeeded
        · cases continues.symm.trans stops
        · cases failed.symm.trans (succeeded visit member)
  | @stopped front last stops ends succeeded failed =>
      constructor
      · intro _
        exact ⟨⟨last, by simp [ends], failed⟩, stops⟩
      · intro _
        rfl

omit [PythonStack] in
/-- Without a failure a batch visits all its steps. -/
theorem Extent.whole {continueOnError stopped : Bool}
    {steps : List BatchStep} {visited : List BatchVisit}
    (extent : Extent continueOnError steps visited stopped)
    (succeeded : ∀ visit ∈ visited, visit.failed = false) :
    visited.map (·.step) = steps := by
  cases extent with
  | all whole goesOn => exact whole
  | @stopped front last stops ends others failed =>
      have last : last.failed = false := succeeded last (by simp [ends])
      cases failed.symm.trans last

theorem batchReports_of_visits {steps : List BatchStep}
    {continueOnError stopped : Bool} {visited : List BatchVisit}
    {final : BatchState} (finalStep : Option String)
    (visits : Visits reader tools {} visited final)
    (extent : Extent continueOnError steps visited stopped)
    (reported : ∀ visit ∈ visited, ∃ result, visit.Reported result) :
    BatchReports steps continueOnError visited
      (batchResult steps finalStep stopped final) := by
  have recorded : final.results = visited.filterMap (·.result) :=
    visits.results
  obtain ⟨results, ids⟩ := results_of_reported reported
  rw [← recorded] at results ids
  have failures := failed_iff_of_results results
  have success :
      (final.results.find? (·.isError)).isNone = true ↔
        ∀ own ∈ final.results, own.isError = false := by
    simp
  have lengths : visited.length = final.results.length := by
    have counted := congrArg List.length results
    simpa using counted
  refine ⟨results, ids, extent, success, ?_, rfl, rfl, ?_, ?_, ?_⟩
  · intro succeeds
    have whole := extent.whole (failures.mpr (success.mp succeeds))
    have counted := congrArg List.length whole
    simp only [batchResult]
    rw [← lengths, ← counted, List.length_map]
  · intro succeeds
    have none : final.results.find? (·.isError) = none :=
      Option.isNone_iff_eq_none.mp succeeds
    simp only [batchResult, none, Option.map_none]
  · intro front failed back parts others failing
    have first : final.results.find? (·.isError) = some failed := by
      apply List.find?_eq_some_iff_append.mpr
      refine ⟨failing, front, back, parts, ?_⟩
      intro own member
      simp [others own member]
    simp only [batchResult, first, Option.map_some]
  · rw [show (batchResult steps finalStep stopped final).stoppedOnError =
      stopped from rfl, extent.stopped_iff]
    have failing :
        (∃ visit ∈ visited, visit.failed = true) ↔
          ∃ own ∈ final.results, own.isError = true := by
      have negated := not_congr failures
      simpa using negated
    rw [failing]
    rfl

/-- A batch that is accepted runs its steps. -/
theorem runToolBatch_accepted {steps : List BatchStep}
    (finalStep : Option String) (continueOnError : Bool)
    (nonempty : steps ≠ []) (accepted : duplicateId? [] steps = none) :
    runToolBatch reader tools steps finalStep continueOnError =
      (match (outcome (runSteps reader tools continueOnError steps) {}).1 with
        | .ok stoppedOnError =>
            some
              (batchResult steps finalStep stoppedOnError
                (outcome (runSteps reader tools continueOnError steps) {}).2)
        | .error _ => none,
        (outcome (runSteps reader tools continueOnError steps) {}).2) := by
  have filled : steps.isEmpty = false := by simpa using nonempty
  unfold runToolBatch
  rw [filled, accepted]
  simp only [Bool.false_eq_true, if_false]
  rcases outcome (runSteps reader tools continueOnError steps) {} with
    ⟨stop | stopped, final⟩
  · rfl
  · rfl

/-- Every batch that is accepted visits a prefix of its steps, each of which
makes at most one call, and reports how they ended; only a cancelled call
leaves it without a result. -/
theorem runToolBatch_reports {steps : List BatchStep}
    (nonempty : steps ≠ []) (distinct : (steps.map (·.id)).Nodup)
    (finalStep : Option String) (continueOnError : Bool) :
    ∃ visited,
      Visits reader tools {} visited
          (runToolBatch reader tools steps finalStep continueOnError).2 ∧
        BatchAccounts tools steps visited
          (runToolBatch reader tools steps finalStep continueOnError).2 ∧
        match (runToolBatch reader tools steps finalStep
            continueOnError).1 with
        | some result => BatchReports steps continueOnError visited result
        | none =>
            ∃ front last invocation,
              visited = front ++ [last] ∧ last.invocation = some invocation ∧
                tools.callMountedTool last.before.invocations invocation =
                  .cancelled := by
  have accepted : duplicateId? [] steps = none :=
    duplicateId?_eq_none [] distinct (by simp)
  obtain ⟨visited, visits, ordered, ends⟩ :=
    @runSteps_visits _ reader tools continueOnError steps {}
  rw [runToolBatch_accepted finalStep continueOnError nonempty accepted]
  refine ⟨visited, visits, batchAccounts_of_visits visits ordered, ?_⟩
  rcases ended : outcome (runSteps reader tools continueOnError steps) {} with
    ⟨stop | stopped, final⟩
  · rw [ended] at ends
    obtain ⟨front, last, parts, cancelled⟩ := ends
    obtain ⟨invocation, called, reply⟩ := cancelled.call
    exact ⟨front, last, invocation, parts, called, reply⟩
  · rw [ended] at visits ends
    exact batchReports_of_visits finalStep visits ends.1 ends.2

end Visits

section Integers

open scoped Integers

def refusal : ToolResult where
  isError := true

/-- The first step fails, so the last one, which refers to it, makes no
call. -/
theorem runToolBatch_reports_refusal :
    ∃ visited result,
      BatchAccounts (answering refusal) measuredSteps visited
          (runToolBatch digits (answering refusal) measuredSteps none
            true).2 ∧
        (runToolBatch digits (answering refusal) measuredSteps none true).1 =
          some result ∧
        BatchReports measuredSteps true visited result ∧
        result.results.map (·.isError) = [true, true, true] ∧
        visited.filterMap (·.invocation) =
          [⟨"t.list", []⟩, ⟨"t.note", []⟩] := by
  obtain ⟨visited, visits, accounts, ends⟩ :=
    @runToolBatch_reports _ digits (answering refusal) measuredSteps
      (List.cons_ne_nil _ _) (by decide) none true
  exact ⟨visited, _, accounts, rfl, ends, rfl, accounts.invocations.symm⟩

end Integers

end ToolboxMcp
