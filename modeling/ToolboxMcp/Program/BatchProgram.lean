import ToolboxMcp.Program.Batch

/-!
# The program written for a batch

One call for each step, with the references written as subscript chains.  The
expression written for an argument evaluates to what the reference resolver of
the batch makes of it.
-/

namespace ToolboxMcp

open Effect

/-! ## The program of a batch -/

def PyValue.isList : PyValue → Bool
  | .list _ => true
  | _ => false

section Writing

variable (reader : TextReader)

/-- Whether the path leads to a list in these results. -/
def listsIn (results : Dict String BatchStepResult) : List String → Bool
  | [] => false
  | stepId :: tokens =>
      match results.get stepId with
      | none => false
      | some stepResult =>
          match descend reader stepResult.value tokens with
          | .ok value => value.isList
          | .error _ => false

/-- The subscript for a token: an integer on lists, where it is one. -/
def subscriptKey (onList : Bool) (token : String) : PyValue :=
  if onList && reader.isdigit token then
    match reader.int token with
    | .ok index => .int index
    | .error _ => .str token
  else
    .str token

def chainExpr (lists : List String → Bool) (path : List String)
    (base : Expr) : List String → Expr
  | [] => base
  | token :: tokens =>
      chainExpr lists (path ++ [token])
        (.subscript base (.constant (subscriptKey reader (lists path) token)))
        tokens

/-- `s.k1...kn` as `s[k1]...[kn]`. -/
def referenceExpr (lists : List String → Bool) (reference : String) :
    Option Expr :=
  match batchTokens reference with
  | [] => none
  | stepId :: tokens =>
      some (chainExpr reader lists [stepId] (.name stepId) tokens)

mutual

/-- A value with its references, as an expression; `literal` writes what is
neither a dict nor a list. -/
def writeValue
    (lists : List String → Bool) (literal : PyValue → Expr) :
    PyValue → Option Expr
  | .dict entries =>
      match reference? entries with
      | some (.str reference) => referenceExpr reader lists reference
      | some _ => none
      | none => (writeEntries lists literal entries).map Expr.dict
  | .list items => (writeItems lists literal items).map Expr.list
  | value => some (literal value)

def writeItems
    (lists : List String → Bool) (literal : PyValue → Expr) :
    List PyValue → Option (List Expr)
  | [] => some []
  | item :: items =>
      match writeValue lists literal item, writeItems lists literal items with
      | some head, some tail => some (head :: tail)
      | _, _ => none

def writeEntries
    (lists : List String → Bool) (literal : PyValue → Expr) :
    List (String × PyValue) → Option (List (Expr × Expr))
  | [] => some []
  | (key, item) :: entries =>
      match writeValue lists literal item,
        writeEntries lists literal entries with
      | some head, some tail => some ((.constant (.str key), head) :: tail)
      | _, _ => none

end

mutual

/-- The steps that the references of a value name. -/
def referencedIds : PyValue → List String
  | .dict entries =>
      match reference? entries with
      | some (.str reference) => (batchTokens reference).take 1
      | some _ => []
      | none => referencedInEntries entries
  | .list items => referencedInItems items
  | _ => []

def referencedInItems : List PyValue → List String
  | [] => []
  | item :: items => referencedIds item ++ referencedInItems items

def referencedInEntries : List (String × PyValue) → List String
  | [] => []
  | (_, item) :: entries => referencedIds item ++ referencedInEntries entries

end

/-- `id = call_tool(tool, arguments)`. -/
def callStatement (id tool : String) (arguments : Expr) : Stmt :=
  .assign [.name id]
    (.call (.name "call_tool") [.constant (.str tool), arguments] [])

def stepStatement
    (lists : List String → Bool) (literal : PyValue → Expr)
    (step : BatchStep) : Option Stmt :=
  (writeValue reader lists literal (.dict step.arguments)).map
    (callStatement step.id step.tool)

/-- The program of a batch, unless a reference has no step to name. -/
def batchProgram
    (lists : List String → Bool) (literal : PyValue → Expr) :
    List BatchStep → Option (List Stmt)
  | [] => some []
  | step :: steps =>
      match stepStatement reader lists literal step,
        batchProgram lists literal steps with
      | some statement, some statements => some (statement :: statements)
      | _, _ => none

end Writing

/-! ## Arguments evaluate to what they resolve to -/

/-- The evaluation ends with the value, or raises where there is none, and
leaves the state. -/
def Yields {ε α : Type} (result : Except ε α) (program : ProgramM α)
    (state : ProgramState) : Prop :=
  match result with
  | .ok value => outcome program state = (.ok value, state)
  | .error _ => ∃ error, outcome program state = (.error (.error error), state)

theorem yields_mapError {ε ε' α : Type} {change : ε → ε'}
    {result : Except ε α} {program : ProgramM α} {state : ProgramState}
    (yields : Yields result program state) :
    Yields (result.mapError change) program state := by
  cases result with
  | ok value => exact yields
  | error failure => exact yields

theorem descendToken_subscript
    (reader : TextReader) (current : PyValue) (token : String) :
    current.subscript (subscriptKey reader current.isList token) =
      (descendToken reader current token).toOption := by
  cases current with
  | dict entries =>
      simp only [PyValue.isList, subscriptKey, Bool.false_and, Bool.false_eq_true,
        if_false, PyValue.subscript, descendToken]
      cases Dict.get token entries with
      | none => rfl
      | some value => rfl
  | list items =>
      simp only [PyValue.isList, subscriptKey, Bool.true_and, descendToken]
      cases reader.isdigit token with
      | false => rfl
      | true =>
          cases reader.int token with
          | error message => rfl
          | ok index =>
              simp only [if_true, PyValue.subscript, PyValue.index?,
                Option.bind_some, PyValue.itemAt, Int.natCast_nonneg,
                Int.toNat_natCast]
              cases items[index]? with
              | none => rfl
              | some value => rfl
  | none => rfl
  | bool value => rfl
  | int value => rfl
  | float literal => rfl
  | complex literal => rfl
  | str value => rfl
  | bytes items => rfl
  | tuple items => rfl
  | date isoformat => rfl
  | object className identity => rfl

section Evaluation

variable {runtime : ToolProgramRuntime} {reader : TextReader}
variable {state : ProgramState}

/-- A list display, of its head and its tail. -/
theorem cons_yields {ε α : Type} {head : Except ε α}
    {tail : Except ε (List α)} {first : ProgramM α}
    {later : ProgramM (List α)} (heads : Yields head first state)
    (tails : Yields tail later state) :
    Yields
      (do
        let value ← head
        let values ← tail
        return value :: values)
      (do
        let value ← first
        let values ← later
        return value :: values) state := by
  cases head with
  | error failure =>
      obtain ⟨error, raised⟩ := heads
      refine ⟨error, ?_⟩
      rw [outcome_bind, raised]
  | ok value =>
      have read : outcome first state = (.ok value, state) := heads
      cases tail with
      | error failure =>
          obtain ⟨error, raised⟩ := tails
          refine ⟨error, ?_⟩
          simp only [outcome_bind, read, raised]
      | ok values =>
          have rest : outcome later state = (.ok values, state) := tails
          change outcome _ state = (.ok (value :: values), state)
          simp only [outcome_bind, read, rest, outcome_pure]

variable [PythonArithmetic]

theorem outcome_subscript {base : Expr} {key : PyValue} :
    outcome (evalExpression runtime (.subscript base (.constant key))) state =
      match outcome (evalExpression runtime base) state with
      | (.ok value, middle) => outcome (subscriptValue value key) middle
      | (.error stop, middle) => (.error stop, middle) := by
  simp only [evalExpression, evalSlice, outcome_bind, outcome_pure]
  rcases outcome (evalExpression runtime base) state with
    ⟨stop | value, middle⟩
  · rfl
  · rfl

theorem subscriptValue_raises {base key : PyValue}
    (missing : base.subscript key = none) :
    ∃ error,
      outcome (subscriptValue base key) state =
        (.error (.error error), state) := by
  unfold subscriptValue
  rw [missing]
  simp only [outcome_bind]
  cases PythonArithmetic.str key with
  | ok text => exact ⟨_, rfl⟩
  | error error => exact ⟨error, rfl⟩

theorem chain_raises {lists : List String → Bool} {error : PyError}
    (tokens : List String) :
    ∀ path base,
      outcome (evalExpression runtime base) state =
        (.error (.error error), state) →
      outcome
          (evalExpression runtime (chainExpr reader lists path base tokens))
          state =
        (.error (.error error), state) := by
  induction tokens with
  | nil =>
      intro path base raised
      exact raised
  | cons token tokens inductionHypothesis =>
      intro path base raised
      apply inductionHypothesis
      rw [outcome_subscript, raised]

/-- A chain reads what its tokens lead to. -/
theorem chain_yields {lists : List String → Bool} (tokens : List String) :
    ∀ path base current,
      outcome (evalExpression runtime base) state = (.ok current, state) →
      (∀ taken value, descend reader current taken = .ok value →
        lists (path ++ taken) = value.isList) →
      Yields (descend reader current tokens)
        (evalExpression runtime (chainExpr reader lists path base tokens))
        state := by
  induction tokens with
  | nil =>
      intro path base current read known
      exact read
  | cons token tokens inductionHypothesis =>
      intro path base current read known
      have here : lists path = current.isList := by
        simpa using known [] current rfl
      have subscript :=
        descendToken_subscript reader current token
      rw [descend]
      cases found : descendToken reader current token with
      | ok next =>
          rw [found] at subscript
          apply inductionHypothesis (path ++ [token]) _ next
          · rw [outcome_subscript, read, here]
            simp only [subscriptValue, subscript]
            rfl
          · intro taken value leads
            have further :=
              known (token :: taken) value (by rw [descend, found]; exact leads)
            simpa using further
      | error failure =>
          rw [found] at subscript
          obtain ⟨error, raised⟩ := subscriptValue_raises subscript
          refine ⟨error, chain_raises tokens (path ++ [token]) _ ?_⟩
          rw [outcome_subscript, read, here]
          exact raised

/-- The variables of the used steps hold the results, and `lists` knows their
lists. -/
structure Reads (reader : TextReader) (lists : List String → Bool)
    (used : String → Prop) (results : Dict String BatchStepResult)
    (state : ProgramState) : Prop where
  bound :
    ∀ id, used id →
      state.environment.get id = (results.get id).map BatchStepResult.value
  settled : ∀ id result, results.get id = some result → result.isError = false
  known :
    ∀ id result taken value, results.get id = some result →
      descend reader result.value taken = .ok value →
      lists (id :: taken) = value.isList

def PyValue.isScalar : PyValue → Bool
  | .dict _ => false
  | .list _ => false
  | _ => true

/-- The expressions written for scalars evaluate to them. -/
def Denotes (runtime : ToolProgramRuntime) (literal : PyValue → Expr) : Prop :=
  ∀ value state, value.isScalar = true →
    outcome (evalExpression runtime (literal value)) state = (.ok value, state)

theorem reference_yields {lists : List String → Bool}
    {used : String → Prop} {results : Dict String BatchStepResult}
    {reference : String} {expr : Expr}
    (reads : Reads reader lists used results state)
    (named : ∀ id ∈ (batchTokens reference).take 1, used id)
    (written : referenceExpr reader lists reference = some expr) :
    Yields (extractBatchReference reader reference results)
      (evalExpression runtime expr) state := by
  unfold referenceExpr at written
  unfold extractBatchReference
  cases tokens : batchTokens reference with
  | nil =>
      rw [tokens] at written
      cases written
  | cons stepId tokens' =>
      rw [tokens] at written
      injection written with same
      subst same
      have isUsed : used stepId := by
        apply named
        rw [tokens]
        exact List.mem_cons_self
      have bound := reads.bound stepId isUsed
      cases found : results.get stepId with
      | none =>
          rw [found] at bound
          simp only [found]
          refine ⟨.valueError ("Unknown variable: " ++ stepId),
            chain_raises tokens' [stepId] (.name stepId) ?_⟩
          simp only [evalExpression, lookupName, outcome_bind, outcome_get]
          rw [bound]
          rfl
      | some result =>
          rw [found] at bound
          simp only [found, reads.settled stepId result found,
            Bool.false_eq_true, if_false]
          apply yields_mapError
          apply chain_yields tokens' [stepId] (.name stepId) result.value
          · simp only [evalExpression, lookupName, outcome_bind, outcome_get]
            rw [bound]
            rfl
          · intro taken value leads
            exact reads.known stepId result taken value found leads

section Values

variable {lists : List String → Bool} {literal : PyValue → Expr}
variable {used : String → Prop} {results : Dict String BatchStepResult}

theorem keys_yield (entries : List (String × PyValue)) :
    ∀ pairs, writeEntries reader lists literal entries = some pairs →
      outcome (evalKeys runtime pairs) state =
        (.ok (entries.map fun entry => .str entry.1), state) := by
  induction entries with
  | nil =>
      rintro pairs ⟨⟩
      simp [evalKeys, outcome_pure]
  | cons entry entries inductionHypothesis =>
      intro pairs written
      obtain ⟨key, item⟩ := entry
      unfold writeEntries at written
      split at written
      · rename_i head tail wroteHead wroteTail
        cases written
        simp only [evalKeys, evalExpression, outcome_bind, outcome_pure,
          inductionHypothesis tail wroteTail, List.map_cons]
      · cases written

/-- The display of resolved entries is the dict they resolve to. -/
theorem dictDisplay_resolved
    (strings : ∀ name, PythonArithmetic.str (.str name) = .ok name)
    {entries resolved : List (String × PyValue)}
    (keys : resolved.map Prod.fst = entries.map Prod.fst) :
    dictDisplay
        ((entries.map fun entry => PyValue.str entry.1).zip
          (resolved.map Prod.snd)) =
      .ok (PyValue.dictOf resolved) := by
  have zipped :
      (entries.map fun entry => PyValue.str entry.1).zip
          (resolved.map Prod.snd) =
        resolved.map fun entry => (PyValue.str entry.1, entry.2) := by
    have same :
        (entries.map fun entry => PyValue.str entry.1) =
          resolved.map fun entry => PyValue.str entry.1 := by
      simpa [List.map_map, Function.comp_def] using
        congrArg (List.map PyValue.str) keys.symm
    rw [same, List.zip_map']
  have named :
      (resolved.map fun entry => (PyValue.str entry.1, entry.2)).mapM
          (fun entry => do
            return (← PythonArithmetic.str entry.1, entry.2)) =
        (.ok resolved : Except PyError (List (String × PyValue))) := by
    clear keys zipped
    induction resolved with
    | nil =>
        rfl
    | cons entry resolved inductionHypothesis =>
        rw [List.map_cons, List.mapM_cons, inductionHypothesis, strings]
        rfl
  rw [zipped, dictDisplay, named]
  rfl

theorem list_yields {items : List PyValue} {exprs : List Expr}
    (yields : Yields (resolveBatchItems reader results items)
      (evalExpressions runtime exprs) state) :
    Yields
      (do
        let resolved ← resolveBatchItems reader results items
        return PyValue.list resolved)
      (evalExpression runtime (.list exprs)) state := by
  simp only [evalExpression]
  cases ended : resolveBatchItems reader results items with
  | error message =>
      rw [ended] at yields
      obtain ⟨error, raised⟩ := yields
      refine ⟨error, ?_⟩
      rw [outcome_bind, raised]
  | ok resolved =>
      rw [ended] at yields
      have read :
          outcome (evalExpressions runtime exprs) state =
            (.ok resolved, state) := yields
      change outcome _ state = (.ok (PyValue.list resolved), state)
      simp only [outcome_bind, read, outcome_pure]

theorem dict_yields
    (strings : ∀ name, PythonArithmetic.str (.str name) = .ok name)
    {entries : List (String × PyValue)} {pairs : List (Expr × Expr)}
    (wrote : writeEntries reader lists literal entries = some pairs)
    (yields : Yields
      ((resolveBatchEntries reader results entries).map (List.map Prod.snd))
      (evalValues runtime pairs) state) :
    Yields
      (do
        let resolved ← resolveBatchEntries reader results entries
        return PyValue.dictOf resolved)
      (evalExpression runtime (.dict pairs)) state := by
  have keys :
      outcome (evalKeys runtime pairs) state =
        (.ok (entries.map fun entry => .str entry.1), state) :=
    keys_yield entries pairs wrote
  simp only [evalExpression]
  cases ended : resolveBatchEntries reader results entries with
  | error message =>
      rw [ended] at yields
      obtain ⟨error, raised⟩ := yields
      refine ⟨error, ?_⟩
      simp only [outcome_bind, keys, raised]
  | ok resolved =>
      rw [ended] at yields
      have read :
          outcome (evalValues runtime pairs) state =
            (.ok (resolved.map Prod.snd), state) := yields
      change outcome _ state = (.ok (PyValue.dictOf resolved), state)
      simp only [outcome_bind, keys, read]
      rw [dictDisplay_resolved strings
        (resolveBatchEntries_keys entries resolved ended)]
      rfl

mutual

theorem value_yields
    (strings : ∀ name, PythonArithmetic.str (.str name) = .ok name)
    (denotes : Denotes runtime literal)
    (reads : Reads reader lists used results state) :
    ∀ value expr, (∀ id ∈ referencedIds value, used id) →
      writeValue reader lists literal value = some expr →
      Yields (resolveBatchValue reader results value)
        (evalExpression runtime expr) state
  | .dict entries, expr, named, written => by
      unfold writeValue at written
      unfold referencedIds at named
      unfold resolveBatchValue
      cases whole : reference? entries with
      | none =>
          simp only [whole] at written named ⊢
          obtain ⟨pairs, wrote, rfl⟩ := Option.map_eq_some_iff.mp written
          exact dict_yields strings wrote
            (entries_yield strings denotes reads entries pairs named wrote)
      | some value =>
          simp only [whole] at written named ⊢
          cases value with
          | str reference =>
              exact reference_yields reads named written
          | _ =>
              cases written
  | .list items, expr, named, written => by
      unfold writeValue at written
      unfold resolveBatchValue
      obtain ⟨exprs, wrote, rfl⟩ := Option.map_eq_some_iff.mp written
      exact list_yields
        (items_yield strings denotes reads items exprs named wrote)
  | .none, _, _, rfl => denotes .none state rfl
  | .bool value, _, _, rfl => denotes (.bool value) state rfl
  | .int value, _, _, rfl => denotes (.int value) state rfl
  | .float value, _, _, rfl => denotes (.float value) state rfl
  | .complex value, _, _, rfl => denotes (.complex value) state rfl
  | .str value, _, _, rfl => denotes (.str value) state rfl
  | .bytes value, _, _, rfl => denotes (.bytes value) state rfl
  | .tuple value, _, _, rfl => denotes (.tuple value) state rfl
  | .date value, _, _, rfl => denotes (.date value) state rfl
  | .object className identity, _, _, rfl =>
      denotes (.object className identity) state rfl

theorem items_yield
    (strings : ∀ name, PythonArithmetic.str (.str name) = .ok name)
    (denotes : Denotes runtime literal)
    (reads : Reads reader lists used results state) :
    ∀ items exprs, (∀ id ∈ referencedInItems items, used id) →
      writeItems reader lists literal items = some exprs →
      Yields (resolveBatchItems reader results items)
        (evalExpressions runtime exprs) state
  | [], _, _, rfl => by
      unfold resolveBatchItems evalExpressions
      rfl
  | item :: items, exprs, named, written => by
      unfold writeItems at written
      split at written
      · rename_i head tail wroteHead wroteTail
        cases written
        have first := value_yields strings denotes reads item head
          (fun id member => named id (List.mem_append_left _ member))
          wroteHead
        have later := items_yield strings denotes reads items tail
          (fun id member => named id (List.mem_append_right _ member))
          wroteTail
        unfold resolveBatchItems evalExpressions
        exact cons_yields first later
      · cases written

theorem entries_yield
    (strings : ∀ name, PythonArithmetic.str (.str name) = .ok name)
    (denotes : Denotes runtime literal)
    (reads : Reads reader lists used results state) :
    ∀ entries pairs, (∀ id ∈ referencedInEntries entries, used id) →
      writeEntries reader lists literal entries = some pairs →
      Yields
        ((resolveBatchEntries reader results entries).map (List.map Prod.snd))
        (evalValues runtime pairs) state
  | [], _, _, rfl => by
      unfold resolveBatchEntries evalValues
      rfl
  | (key, item) :: entries, pairs, named, written => by
      unfold writeEntries at written
      split at written
      · rename_i head tail wroteHead wroteTail
        cases written
        have first := value_yields strings denotes reads item head
          (fun id member => named id (List.mem_append_left _ member))
          wroteHead
        have later := entries_yield strings denotes reads entries tail
          (fun id member => named id (List.mem_append_right _ member))
          wroteTail
        unfold resolveBatchEntries evalValues
        have both := cons_yields first later
        cases value : resolveBatchValue reader results item with
        | error message =>
            rw [value] at both
            exact both
        | ok head =>
            rw [value] at both
            cases rest : resolveBatchEntries reader results entries with
            | error message =>
                rw [rest] at both
                exact both
            | ok resolved =>
                rw [rest] at both
                exact both
      · cases written

end

end Values

end Evaluation

end ToolboxMcp
