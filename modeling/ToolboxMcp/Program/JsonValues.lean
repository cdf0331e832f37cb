import ToolboxMcp.Program.Results

/-!
# What a program returns is JSON

As far as the stack reaches, the projection of results leaves JSON values alone
and turns every other value into JSON, except for floats that are not finite,
which it passes on.
-/

namespace ToolboxMcp

open Effect

/-! ## JSON values -/

/-- The `repr` of a float that is a number. -/
def finiteLiteral (literal : String) : Bool :=
  literal ≠ "nan" ∧ literal ≠ "inf" ∧ literal ≠ "-inf"

namespace PyValue

mutual

def isJson : PyValue → Bool
  | .none => true
  | .bool _ => true
  | .int _ => true
  | .float literal => finiteLiteral literal
  | .str _ => true
  | .list items => itemsAreJson items
  | .dict entries => entriesAreJson entries
  | .complex _ => false
  | .bytes _ => false
  | .tuple _ => false
  | .date _ => false
  | .object _ _ => false

def itemsAreJson : List PyValue → Bool
  | [] => true
  | item :: items => item.isJson && itemsAreJson items

def entriesAreJson : List (String × PyValue) → Bool
  | [] => true
  | (_, item) :: entries => item.isJson && entriesAreJson entries

end

mutual

/-- Every float in the value is a number. -/
def isFinite : PyValue → Bool
  | .float literal => finiteLiteral literal
  | .list items => itemsAreFinite items
  | .tuple items => itemsAreFinite items
  | .dict entries => entriesAreFinite entries
  | .none => true
  | .bool _ => true
  | .int _ => true
  | .complex _ => true
  | .str _ => true
  | .bytes _ => true
  | .date _ => true
  | .object _ _ => true

def itemsAreFinite : List PyValue → Bool
  | [] => true
  | item :: items => item.isFinite && itemsAreFinite items

def entriesAreFinite : List (String × PyValue) → Bool
  | [] => true
  | (_, item) :: entries => item.isFinite && entriesAreFinite entries

end

mutual

/-- The projection of a value is JSON just if its floats are finite. -/
theorem isJson_jsonSafe : (value : PyValue) →
    value.jsonSafe.isJson = value.isFinite
  | .none => rfl
  | .bool _ => rfl
  | .int _ => rfl
  | .float _ => rfl
  | .complex _ => rfl
  | .str _ => rfl
  | .bytes _ => rfl
  | .date _ => rfl
  | .object _ _ => rfl
  | .list items => itemsAreJson_jsonSafe items
  | .tuple items => itemsAreJson_jsonSafe items
  | .dict entries => entriesAreJson_jsonSafe entries

theorem itemsAreJson_jsonSafe : (items : List PyValue) →
    itemsAreJson (jsonSafeItems items) = itemsAreFinite items
  | [] => rfl
  | item :: items => by
      simp only [jsonSafeItems, itemsAreJson, itemsAreFinite,
        isJson_jsonSafe item, itemsAreJson_jsonSafe items]

theorem entriesAreJson_jsonSafe : (entries : List (String × PyValue)) →
    entriesAreJson (jsonSafeEntries entries) = entriesAreFinite entries
  | [] => rfl
  | (key, item) :: entries => by
      simp only [jsonSafeEntries, entriesAreJson, entriesAreFinite,
        isJson_jsonSafe item, entriesAreJson_jsonSafe entries]

end

mutual

/-- The projection leaves JSON values alone. -/
theorem jsonSafe_of_isJson : (value : PyValue) → value.isJson = true →
    value.jsonSafe = value
  | .none, _ => rfl
  | .bool _, _ => rfl
  | .int _, _ => rfl
  | .float _, _ => rfl
  | .str _, _ => rfl
  | .list items, json => congrArg list (jsonSafeItems_of_json items json)
  | .dict entries, json =>
      congrArg dict (jsonSafeEntries_of_json entries json)

theorem jsonSafeItems_of_json : (items : List PyValue) →
    itemsAreJson items = true → jsonSafeItems items = items
  | [], _ => rfl
  | item :: items, json => by
      have both : item.isJson = true ∧ itemsAreJson items = true := by
        simpa [itemsAreJson] using json
      rw [jsonSafeItems, jsonSafe_of_isJson item both.1,
        jsonSafeItems_of_json items both.2]

theorem jsonSafeEntries_of_json : (entries : List (String × PyValue)) →
    entriesAreJson entries = true → jsonSafeEntries entries = entries
  | [], _ => rfl
  | (key, item) :: entries, json => by
      have both : item.isJson = true ∧ entriesAreJson entries = true := by
        simpa [entriesAreJson] using json
      rw [jsonSafeEntries, jsonSafe_of_isJson item both.1,
        jsonSafeEntries_of_json entries both.2]

end

mutual

theorem jsonSafe_jsonSafe : (value : PyValue) →
    value.jsonSafe.jsonSafe = value.jsonSafe
  | .none => rfl
  | .bool _ => rfl
  | .int _ => rfl
  | .float _ => rfl
  | .complex _ => rfl
  | .str _ => rfl
  | .bytes _ => rfl
  | .date _ => rfl
  | .object _ _ => rfl
  | .list items => congrArg list (jsonSafeItems_jsonSafeItems items)
  | .tuple items => congrArg list (jsonSafeItems_jsonSafeItems items)
  | .dict entries => congrArg dict (jsonSafeEntries_jsonSafeEntries entries)

theorem jsonSafeItems_jsonSafeItems : (items : List PyValue) →
    jsonSafeItems (jsonSafeItems items) = jsonSafeItems items
  | [] => rfl
  | item :: items => by
      simp only [jsonSafeItems, jsonSafe_jsonSafe item,
        jsonSafeItems_jsonSafeItems items]

theorem jsonSafeEntries_jsonSafeEntries :
    (entries : List (String × PyValue)) →
    jsonSafeEntries (jsonSafeEntries entries) = jsonSafeEntries entries
  | [] => rfl
  | (key, item) :: entries => by
      simp only [jsonSafeEntries, jsonSafe_jsonSafe item,
        jsonSafeEntries_jsonSafeEntries entries]

end

/-- The keys of a dict are kept as they are. -/
theorem keys_jsonSafeEntries (entries : List (String × PyValue)) :
    (jsonSafeEntries entries).map Prod.fst = entries.map Prod.fst := by
  induction entries with
  | nil => rfl
  | cons entry entries inductionHypothesis =>
      simp only [jsonSafeEntries, List.map_cons, inductionHypothesis]

variable {room : Nat} {value projected : PyValue}

theorem jsonSafeValue_eq_ok :
    value.jsonSafeValue room = .ok projected ↔
      value.depth ≤ room ∧ value.jsonSafe = projected := by
  by_cases fits : value.depth ≤ room
  · rw [jsonSafeValue_of_le fits, Except.ok.injEq]
    exact (and_iff_right fits).symm
  · rw [jsonSafeValue_of_lt fits]
    constructor
    · intro same
      cases same
    · intro both
      exact absurd both.1 fits

/-- Within the stack the projection leaves JSON values alone. -/
theorem jsonSafeValue_of_isJson (json : value.isJson = true) :
    value.jsonSafeValue room = .ok value ↔ value.depth ≤ room := by
  rw [jsonSafeValue_eq_ok]
  exact and_iff_left (jsonSafe_of_isJson value json)

/-- Projecting again changes nothing. -/
theorem jsonSafeValue_jsonSafeValue
    (returned : value.jsonSafeValue room = .ok projected) (further : Nat) :
    projected.jsonSafeValue further = .ok projected ↔
      projected.depth ≤ further := by
  obtain ⟨_, rfl⟩ := jsonSafeValue_eq_ok.mp returned
  rw [jsonSafeValue_eq_ok]
  exact and_iff_left (jsonSafe_jsonSafe value)

/-- The projection of a dict has the keys of the dict. -/
theorem keys_jsonSafeValue {entries : List (String × PyValue)}
    (returned : (PyValue.dict entries).jsonSafeValue room = .ok projected) :
    ∃ items,
      projected = .dict items ∧
        items.map Prod.fst = entries.map Prod.fst := by
  obtain ⟨_, rfl⟩ := jsonSafeValue_eq_ok.mp returned
  exact ⟨jsonSafeEntries entries, rfl, keys_jsonSafeEntries entries⟩

end PyValue

/-! ## Returned variables -/

section Bindings

variable {environment : Dict String PyValue} {keys : List String}

theorem mem_returnedBindings {entry : String × PyValue}
    (member : entry ∈ returnedBindings environment keys) :
    ∃ value,
      Returned environment keys entry.1 value ∧
        entry.2 = value.jsonSafe := by
  let Sound (built : Dict String PyValue) : Prop :=
    ∀ entry ∈ built, ∃ value,
      Returned environment keys entry.1 value ∧
        entry.2 = value.jsonSafe
  suffices sound : Sound (returnedBindings environment keys) from
    sound entry member
  unfold returnedBindings
  refine List.foldlRecOn keys _ ?_ ?_
  · intro entry member
    cases member
  · intro built known key requested entry member
    split at member
    · exact known entry member
    · rename_i visible
      split at member
      · rename_i value found
        rcases KeyedList.mem_upsert Prod.fst member with rfl | earlier
        · exact ⟨value, ⟨requested, by simpa using visible, found⟩, rfl⟩
        · exact known entry earlier
      · exact known entry member

/-- What one item brings about, and no item undoes, holds after a fold over
it. -/
theorem foldl_settles {α β : Type} {step : β → α → β} {settled : β → Prop}
    {item : α} (settles : ∀ built, settled (step built item))
    (keeps : ∀ built other, settled built → settled (step built other))
    {items : List α} (member : item ∈ items) (built : β) :
    settled (items.foldl step built) := by
  obtain ⟨before, after, rfl⟩ := List.append_of_mem member
  rw [List.foldl_append, List.foldl_cons]
  exact List.foldlRecOn after step (settles _) fun built known other _ =>
    keeps built other known

theorem returnedBindings_mem {key : String} {value : PyValue}
    (returned : Returned environment keys key value) :
    (key, value.jsonSafe) ∈ returnedBindings environment keys := by
  obtain ⟨requested, visible, found⟩ := returned
  apply Dict.mem_of_get
  let Stored (built : Dict String PyValue) : Prop :=
    built.get key = some value.jsonSafe
  change Stored (returnedBindings environment keys)
  unfold returnedBindings
  refine foldl_settles ?_ ?_ requested []
  · intro built
    change Dict.get key _ = _
    rw [visible, found]
    simp only [Bool.false_eq_true, if_false, Dict.get_set, if_true]
  · intro built other known
    split
    · exact known
    · split
      · rename_i visible' value' found'
        change Dict.get key _ = _
        rw [Dict.get_set]
        split
        · rename_i same
          subst same
          exact congrArg (Option.map PyValue.jsonSafe)
            (found'.symm.trans found)
        · exact known
      · exact known

end Bindings

/-! ## Results of runs -/

/-- The final data and the returned variables are JSON. -/
structure ProgramRunResult.IsJson (result : ProgramRunResult) : Prop where
  finalData : result.finalData.isJson = true
  bindings : ∀ entry ∈ result.variableBindings, entry.2.isJson = true

/-- The run returns JSON; one that is cancelled returns nothing. -/
def RunEnding.ReturnsJson : RunEnding → Prop
  | .result reported => reported.IsJson
  | .raised _ => False
  | .cancelled => True

def RunEnding.raises : RunEnding → Bool
  | .result _ => false
  | .raised _ => true
  | .cancelled => false

/-- The values to be returned hold finite floats only. -/
structure ReturnsFinite (request : ProgramRequest) (finalData : PyValue)
    (state : ProgramState) : Prop where
  finalData : finalData.isFinite = true
  bindings :
    ∀ key value,
      Returned state.environment (request.returnVariables.getD []) key
          value →
        value.isFinite = true

theorem resultOf_isJson {request : ProgramRequest}
    {error : Option ErrorInfo} {finalData : PyValue} {state : ProgramState} :
    (request.resultOf error finalData state).IsJson ↔
      ReturnsFinite request finalData state := by
  constructor
  · intro json
    constructor
    · rw [← PyValue.isJson_jsonSafe]
      exact json.finalData
    · intro key value requested
      rw [← PyValue.isJson_jsonSafe]
      exact json.bindings _ (returnedBindings_mem requested)
  · intro finite
    constructor
    · change finalData.jsonSafe.isJson = true
      rw [PyValue.isJson_jsonSafe]
      exact finite.finalData
    · intro entry member
      obtain ⟨value, requested, same⟩ := mem_returnedBindings member
      rw [same, PyValue.isJson_jsonSafe]
      exact finite.bindings _ _ requested

section Runs

variable [PythonArithmetic]

/-- A failure can report the values it returns. -/
def FailureReportable (request : ProgramRequest)
    (state : ProgramState) : Prop :=
  FailureProjectable request state ∧
    ReturnsFinite request (request.finalData .none state) state

/-- What is to be returned after the statements of the program have ended so
can be reported.  If it nests too deep after a program that completed, a
failure is reported. -/
def Reportable (request : ProgramRequest) :
    Except Stop PyValue × ProgramState → Prop
  | (.ok lastValue, state) =>
      (Projectable PythonStack.resultRoom request
            (request.finalData lastValue state) state ∧
          ReturnsFinite request (request.finalData lastValue state)
            state) ∨
        (¬ Projectable PythonStack.resultRoom request
            (request.finalData lastValue state) state ∧
          FailureReportable request state)
  | (.error stop, state) =>
      stop = .cancelled ∨ FailureReportable request state

theorem ofFailure_returnsJson {request : ProgramRequest} {stop : Stop}
    {state : ProgramState} :
    (RunEnding.ofFailure request stop state).ReturnsJson ↔
      stop = .cancelled ∨ FailureReportable request state := by
  cases failure : stop.failure with
  | none =>
      have cancelled := Stop.cancelled_of_failure failure
      rw [cancelled]
      exact ⟨fun _ => .inl rfl, fun _ => trivial⟩
  | some error =>
      have goesOn : stop ≠ .cancelled := by
        rintro rfl
        cases failure
      by_cases fits : FailureProjectable request state
      · rw [ofFailure_of_projectable failure fits]
        constructor
        · intro json
          exact .inr ⟨fits, resultOf_isJson.mp json⟩
        · rintro (cancelled | reportable)
          · exact absurd cancelled goesOn
          · exact resultOf_isJson.mpr reportable.2
      · rw [ofFailure_of_overflow failure fits]
        constructor
        · exact False.elim
        · rintro (cancelled | reportable)
          · exact absurd cancelled goesOn
          · exact absurd reportable.1 fits

theorem run_returnsJson (runtime : ToolProgramRuntime)
    (parse : String → Except ParseFailure Module)
    (request : ProgramRequest) :
    (run runtime parse request).1.ReturnsJson ↔
      Reportable request (execution runtime parse request) := by
  rcases ended : execution runtime parse request with ⟨stop | lastValue, state⟩
  · rw [run_of_error ended]
    exact ofFailure_returnsJson
  · by_cases fits :
        Projectable PythonStack.resultRoom request
          (request.finalData lastValue state) state
    · rw [run_of_projectable ended fits]
      constructor
      · intro json
        exact .inl ⟨fits, resultOf_isJson.mp json⟩
      · rintro (reportable | ⟨overflows, _⟩)
        · exact resultOf_isJson.mpr reportable.2
        · exact absurd fits overflows
    · rw [run_of_overflow ended fits]
      have notCancelled : Stop.overflow ≠ .cancelled := nofun
      have failed := @ofFailure_returnsJson _ request .overflow state
      constructor
      · intro json
        exact .inr ⟨fits, (failed.mp json).resolve_left notCancelled⟩
      · rintro (⟨fits', _⟩ | ⟨_, reportable⟩)
        · exact absurd fits' fits
        · exact failed.mpr (.inr reportable)

/-- The projection leaves JSON alone, is idempotent and keeps keys as far as
the stack reaches, and a run returns JSON if and only if what it has to return
fits the stack and holds no float that is not finite. -/
theorem run_returns_json :
    (∀ (room : Nat) (value : PyValue),
      value.isJson = true →
        (value.jsonSafeValue room = .ok value ↔ value.depth ≤ room)) ∧
    (∀ (room further : Nat) (value projected : PyValue),
      value.jsonSafeValue room = .ok projected →
        (projected.jsonSafeValue further = .ok projected ↔
          projected.depth ≤ further)) ∧
    (∀ (room : Nat) (entries : List (String × PyValue))
        (projected : PyValue),
      (PyValue.dict entries).jsonSafeValue room = .ok projected →
        ∃ items,
          projected = .dict items ∧
            items.map Prod.fst = entries.map Prod.fst) ∧
    ∀ (runtime : ToolProgramRuntime)
      (parse : String → Except ParseFailure Module)
      (request : ProgramRequest),
      (run runtime parse request).1.ReturnsJson ↔
        Reportable request (execution runtime parse request) :=
  ⟨fun _ _ json => PyValue.jsonSafeValue_of_isJson json,
    fun _ further _ _ returned =>
      PyValue.jsonSafeValue_jsonSafeValue returned further,
    fun _ _ _ returned => PyValue.keys_jsonSafeValue returned,
    run_returnsJson⟩

end Runs

section Integers

open scoped Integers

def idleRuntime : ToolProgramRuntime where
  toolInvoker _ _ := .timeout

/-- `result = <value>`. -/
def assignResult (value : PyValue) : Module where
  body := [.assign [.name "result"] (.constant value)]
  nodes := 5

def pairRequest : ProgramRequest where
  program := "result = (1, None)"

/-- A tuple of finite values is returned as a JSON array. -/
theorem run_returns_json_pair :
    (PyValue.list [.int 1, .none]).jsonSafeValue 2 =
        .ok (.list [.int 1, .none]) ∧
      (run idleRuntime
        (fun _ => .ok (assignResult (.tuple [.int 1, .none])))
        pairRequest).1.ReturnsJson := by
  obtain ⟨keeps, _, _, runs⟩ := run_returns_json
  refine ⟨(keeps 2 (.list [.int 1, .none]) rfl).mpr (Nat.le_refl 2),
    (runs _ _ _).mpr (.inl ⟨⟨?_, ?_⟩, ?_, ?_⟩)⟩
  · decide
  · rintro key value ⟨requested, _⟩
    cases requested
  · rfl
  · rintro key value ⟨requested, _⟩
    cases requested

/-- `result = []`, then `result = [result]` as often as given. -/
def deepResult (levels : Int) : Module where
  nodes := 20
  body :=
    [.assign [.name "result"] (.list []),
     .forIn (.name "i")
      (.call (.name "range") [.constant (.int levels)] [])
      [.assign [.name "result"] (.list [.name "result"])] []]

/-- A float literal that overflows is returned as it is, and nothing is
returned where a list of lists nests deeper than the stack. -/
theorem infinity_returned :
    (∃ result,
      (run idleRuntime (fun _ => .ok (assignResult (.float "inf")))
          { program := "result = 1e999" }).1 = .result result ∧
        result.success = true ∧ result.finalData.isJson = false ∧
        ¬ result.IsJson) ∧
      (run idleRuntime (fun _ => .ok (deepResult 999))
          { program := "" }).1.result? = none ∧
      ¬ (run idleRuntime (fun _ => .ok (deepResult 999))
          { program := "" }).1.ReturnsJson := by
  refine ⟨⟨_, rfl, rfl, rfl, ?_⟩, ?_⟩
  · intro json
    cases json.finalData
  · have raises :
        (run idleRuntime (fun _ => .ok (deepResult 999))
          { program := "" }).1.raises = true := by
      decide +kernel
    cases ended :
        (run idleRuntime (fun _ => .ok (deepResult 999))
          { program := "" }).1 with
    | result result =>
        rw [ended] at raises
        cases raises
    | raised error =>
        exact ⟨rfl, id⟩
    | cancelled =>
        rw [ended] at raises
        cases raises

end Integers

end ToolboxMcp
