import ToolboxMcp.Library.Effect
import ToolboxMcp.Program.Syntax

/-!
# The program evaluator

`ToolProgramRuntime` with its two counters.  The invoker answers each call with
the earlier ones in view, so that a function of the invocations stands for
whatever the mounted tools do.  `invocations` and `bodiesEntered` record what
the evaluator does to the outside and how often it enters a loop body; it never
reads them.
-/

namespace ToolboxMcp

open Effect

/-! ## State -/

structure Invocation where
  tool : String
  arguments : List (String × PyValue)
deriving Repr

structure ToolResult where
  content : List ContentBlock := []
  structuredContent : Option (List (String × PyValue)) := none
  isError : Bool := false

/-- How awaiting the invoker ends. -/
inductive InvokerReply where
  | result (result : ToolResult)
  | timeout
  | exception (message : String)
  | cancelled

/-- An `Exception`, which a cancellation is not. -/
def InvokerReply.raises : InvokerReply → Prop
  | .timeout => True
  | .exception _ => True
  | .result _ => False
  | .cancelled => False

structure ProgramCallTrace where
  index : Nat
  tool : String
  arguments : List (String × PyValue) := []
  data : Option PyValue := none
  text : Option String := none
  isError : Bool := false
  errorMessage : Option String := none
deriving Repr

structure ToolProgramRuntime where
  maxProgramLength : Nat := 12000
  maxAstNodes : Nat := 500
  maxLoopIterations : Nat := 1000
  maxToolCalls : Nat := 128
  toolInvoker : List Invocation → Invocation → InvokerReply

structure ProgramState where
  environment : Dict String PyValue := []
  traces : List ProgramCallTrace := []
  loopIterations : Nat := 0
  invocations : List Invocation := []
  bodiesEntered : Nat := 0

/-- What leaves an evaluation: an issue of the runtime, another exception, a
loop signal, or a cancellation, which no clause of the evaluator catches. -/
inductive Stop where
  | issue (code message : String) (details : List (String × PyValue))
  | syntaxError (message : String) (line offset : Option Nat)
  | error (error : PyError)
  | loopBreak
  | loopContinue
  | cancelled

inductive LoopSignal where
  | loopBreak
  | loopContinue

/-- The signals `_exec_for_loop` catches. -/
def Stop.signal : Stop → Option LoopSignal
  | .loopBreak => some .loopBreak
  | .loopContinue => some .loopContinue
  | _ => none

abbrev ProgramM :=
  Effect ProgramState Stop

def raiseValueError {α : Type} (message : String) : ProgramM α :=
  throw (.error (.valueError message))

def raiseIssue {α : Type}
    (code message : String) (details : List (String × PyValue)) :
    ProgramM α :=
  throw (.issue code message details)

/-- What Python computed, or the exception it raised. -/
def computed {α : Type} : Except PyError α → ProgramM α
  | .ok value => pure value
  | .error error => throw (.error error)

/-! ## The environment -/

def lookupName (id : String) : ProgramM PyValue := do
  let state ← get
  match state.environment.get id with
  | some value => return value
  | none => raiseValueError ("Unknown variable: " ++ id)

def bindName (id : String) (value : PyValue) : ProgramM Unit :=
  modify fun state =>
    { state with environment := state.environment.set id value }

/-- The items a target list of the given length takes. -/
def unpack (targets : Nat) (value : PyValue) : ProgramM (List PyValue) :=
  match value with
  | .list items => checkLength items
  | .tuple items => checkLength items
  | other =>
      raiseValueError ("Cannot unpack value of type " ++ other.typeName)
where
  checkLength (items : List PyValue) : ProgramM (List PyValue) :=
    if targets ≠ items.length then
      raiseValueError
        ("Cannot unpack " ++ toString items.length ++ " value(s) into " ++
          toString targets ++ " target(s)")
    else
      return items

mutual

def assignTarget : Expr → PyValue → ProgramM Unit
  | .name id, value => bindName id value
  | .tuple elts, value => do
      let items ← unpack elts.length value
      assignEach elts items
  | .list elts, value => do
      let items ← unpack elts.length value
      assignEach elts items
  | other, _ =>
      raiseValueError ("Unsupported assignment target: " ++ other.className)

def assignEach : List Expr → List PyValue → ProgramM Unit
  | target :: targets, item :: items => do
      assignTarget target item
      assignEach targets items
  | _, _ => return

end

def readAssignmentTarget : Expr → ProgramM PyValue
  | .name id => lookupName id
  | other =>
      raiseValueError ("Unsupported assignment target: " ++ other.className)

/-! ## Calls -/

def joinedTextContent (result : ToolResult) : Option String :=
  let blocks := result.content.filterMap fun
    | .text text => some text
    | .other => none
  if blocks.isEmpty then none else some ("\n".intercalate blocks)

/-- `_normalize_result`: structured data, or else the text. -/
def ToolResult.normalize (result : ToolResult) :
    Option PyValue × Option String :=
  let text := joinedTextContent result
  match result.structuredContent with
  | some entries => (some (.dict entries), text)
  | none => (text.map PyValue.str, text)

def ToolResult.trace
    (result : ToolResult) (index : Nat) (invocation : Invocation) :
    ProgramCallTrace where
  index := index
  tool := invocation.tool
  arguments := PyValue.redactedEntries invocation.arguments
  data := result.normalize.1
  text := result.normalize.2
  isError := result.isError
  errorMessage := if result.isError then joinedTextContent result else none

/-- The trace of a call; the redaction of its arguments may run out of
stack. -/
def ToolResult.traceWithin [PythonStack]
    (result : ToolResult) (index : Nat) (invocation : Invocation) :
    Except PyError ProgramCallTrace :=
  (PyValue.dict invocation.arguments).recursing (PythonStack.callRoom index)
    (result.trace index invocation)

/-- `text or fallback`. -/
def textOr (text : Option String) (fallback : String) : String :=
  match text with
  | some text => if text = "" then fallback else text
  | none => fallback

/-- What `call_tool` evaluates to. -/
def ToolResult.value (result : ToolResult) : PyValue :=
  match result.normalize with
  | (some data, _) => data
  | (none, some text) => .str text
  | (none, none) => .none

def toolDetails (tool : String) : List (String × PyValue) :=
  [("tool", .str tool)]

def dispatch (arguments : Option PyValue) (tool : Option PyValue) :
    ProgramM Invocation :=
  match tool with
  | some (.str name) =>
      match arguments with
      | none => return ⟨name, []⟩
      | some .none => return ⟨name, []⟩
      | some (.dict entries) => return ⟨name, entries⟩
      | some _ => raiseValueError "call_tool arguments must be an object"
  | _ =>
      raiseValueError
        "call_tool requires the first argument to be the mounted tool name"

section Evaluation

variable (runtime : ToolProgramRuntime)

/-- Record the trace of a call that was answered. -/
def recordResult [PythonStack]
    (invocation : Invocation) (result : ToolResult) : ProgramM PyValue := do
  let state ← get
  let trace ←
    computed (result.traceWithin (state.traces.length + 1) invocation)
  set { state with traces := state.traces ++ [trace] }
  if trace.isError then
    raiseIssue "tool_call_failed"
      (textOr trace.errorMessage ("Tool call failed: " ++ invocation.tool))
      (toolDetails invocation.tool ++ [("call_index", .int trace.index)])
  else
    return result.value

/-- The stack has room to redact the arguments of the call with this
number. -/
def Invocation.fits [PythonStack] (invocation : Invocation) (index : Nat) :
    Prop :=
  (PyValue.dict invocation.arguments).depth ≤ PythonStack.callRoom index

/-- What `tool_call_failed` says. -/
def ToolResult.failure (result : ToolResult) (index : Nat)
    (invocation : Invocation) : Stop :=
  .issue "tool_call_failed"
    (textOr (result.trace index invocation).errorMessage
      ("Tool call failed: " ++ invocation.tool))
    (toolDetails invocation.tool ++ [("call_index", .int index)])

section Traces

variable [PythonStack] {invocation : Invocation} {result : ToolResult}
  {state : ProgramState}

theorem outcome_recordResult (fits : invocation.fits (state.traces.length + 1)) :
    outcome (recordResult invocation result) state =
      (if result.isError then
          .error (result.failure (state.traces.length + 1) invocation)
        else
          .ok result.value,
        { state with
          traces :=
            state.traces ++
              [result.trace (state.traces.length + 1) invocation] }) := by
  have traced :
      result.traceWithin (state.traces.length + 1) invocation =
        .ok (result.trace (state.traces.length + 1) invocation) :=
    if_pos fits
  unfold recordResult
  simp only [outcome_bind, outcome_get, traced, computed, outcome_pure,
    outcome_set]
  cases failed : result.isError with
  | true =>
      have isError :
          (result.trace (state.traces.length + 1) invocation).isError =
            true := failed
      rw [if_pos isError]
      rfl
  | false =>
      have isError :
          (result.trace (state.traces.length + 1) invocation).isError ≠
            true := by
        change result.isError ≠ true
        rw [failed]
        exact Bool.false_ne_true
      rw [if_neg isError]
      rfl

/-- Without room for the redaction no trace is recorded. -/
theorem outcome_recordResult_overflow
    (overflows : ¬ invocation.fits (state.traces.length + 1)) :
    outcome (recordResult invocation result) state =
      (.error (.error (.exception recursionText)), state) := by
  have raised :
      result.traceWithin (state.traces.length + 1) invocation =
        .error (.exception recursionText) := if_neg overflows
  unfold recordResult
  simp only [outcome_bind, outcome_get, raised, computed]
  rfl

end Traces

/-- Hand the call to the invoker. -/
def invokeTool [PythonStack] (invocation : Invocation) :
    ProgramM PyValue := do
  let state ← get
  let reply := runtime.toolInvoker state.invocations invocation
  set { state with invocations := state.invocations ++ [invocation] }
  match reply with
  | .timeout =>
      raiseIssue "tool_timeout"
        ("Mounted tool call timed out: " ++ invocation.tool)
        (toolDetails invocation.tool)
  | .exception message =>
      raiseIssue "tool_invocation_failed" message
        (toolDetails invocation.tool)
  | .cancelled => throw .cancelled
  | .result result => recordResult invocation result

def callToolBuiltin [PythonStack]
    (positional : List PyValue) (keywords : Dict String PyValue) :
    ProgramM PyValue := do
  let state ← get
  if state.traces.length ≥ runtime.maxToolCalls then
    raiseIssue "budget_exceeded"
      ("Program exceeds max mounted tool call count of " ++
        toString runtime.maxToolCalls)
      [("limit", .int runtime.maxToolCalls)]
  else if keywords.any (fun entry =>
      entry.1 ≠ "tool" ∧ entry.1 ≠ "arguments") then
    raiseValueError
      "call_tool only accepts 'tool' and 'arguments' keyword parameters"
  else
    let invocation ←
      match positional with
      | tool :: rest => dispatch rest.head? (some tool)
      | [] => dispatch (keywords.get "arguments") (keywords.get "tool")
    invokeTool runtime invocation

section Calls

variable {runtime} {state after : ProgramState}

theorem outcome_invokeTool_result [PythonStack] {invocation : Invocation}
    {result : ToolResult}
    (reply :
      runtime.toolInvoker state.invocations invocation = .result result) :
    outcome (invokeTool runtime invocation) state =
      outcome (recordResult invocation result)
        { state with invocations := state.invocations ++ [invocation] } := by
  unfold invokeTool
  simp only [outcome_bind, outcome_get, outcome_set, reply]

/-- An invocation is added, and perhaps its trace. -/
theorem invocations_invokeTool [PythonStack] (runtime : ToolProgramRuntime)
    (invocation : Invocation) (state : ProgramState) :
    (outcome (invokeTool runtime invocation) state).2.invocations =
        state.invocations ++ [invocation] ∧
      state.traces <+:
        (outcome (invokeTool runtime invocation) state).2.traces := by
  cases reply : runtime.toolInvoker state.invocations invocation with
  | result result =>
      rw [outcome_invokeTool_result reply]
      by_cases fits : invocation.fits (state.traces.length + 1)
      · rw [outcome_recordResult (by exact fits)]
        exact ⟨rfl, List.prefix_append _ _⟩
      · rw [outcome_recordResult_overflow (by exact fits)]
        exact ⟨rfl, List.prefix_rfl⟩
  | _ =>
      unfold invokeTool
      simp only [outcome_bind, outcome_get, outcome_set, reply]
      exact ⟨rfl, List.prefix_rfl⟩

/-- A call that returns was answered without an error. -/
theorem answered_of_invokeTool [PythonStack] {invocation : Invocation} {value : PyValue}
    (returned :
      outcome (invokeTool runtime invocation) state = (.ok value, after)) :
    ∃ result,
      runtime.toolInvoker state.invocations invocation = .result result ∧
        invocation.fits (state.traces.length + 1) ∧
        result.isError = false ∧ value = result.value ∧
        after =
          { state with
            invocations := state.invocations ++ [invocation]
            traces :=
              state.traces ++
                [result.trace (state.traces.length + 1) invocation] } := by
  cases reply : runtime.toolInvoker state.invocations invocation with
  | result result =>
      rw [outcome_invokeTool_result reply] at returned
      by_cases fits : invocation.fits (state.traces.length + 1)
      · rw [outcome_recordResult (by exact fits)] at returned
        cases failed : result.isError with
        | true =>
            rw [failed] at returned
            cases returned
        | false =>
            rw [failed] at returned
            cases returned
            exact ⟨result, rfl, fits, failed, rfl, rfl⟩
      · rw [outcome_recordResult_overflow (by exact fits)] at returned
        cases returned
  | _ =>
      unfold invokeTool at returned
      simp only [outcome_bind, outcome_get, outcome_set, reply] at returned
      cases returned

theorem outcome_dispatch_state {arguments tool : Option PyValue}
    {invocation : Invocation}
    (returned :
      outcome (dispatch arguments tool) state = (.ok invocation, after)) :
    after = state := by
  unfold dispatch at returned
  split at returned
  · split at returned
    · cases returned
      rfl
    · cases returned
      rfl
    · cases returned
      rfl
    · cases returned
  · cases returned

/-- A `call_tool` that returns has made one invocation. -/
theorem invoked_of_callToolBuiltin [PythonStack] {positional : List PyValue}
    {keywords : Dict String PyValue} {value : PyValue}
    (returned :
      outcome (callToolBuiltin runtime positional keywords) state =
        (.ok value, after)) :
    ∃ invocation,
      outcome (invokeTool runtime invocation) state = (.ok value, after) := by
  have chosen : ∀ arguments tool : Option PyValue,
      outcome (do
          let invocation ← dispatch arguments tool
          invokeTool runtime invocation) state = (.ok value, after) →
        ∃ invocation,
          outcome (invokeTool runtime invocation) state =
            (.ok value, after) := by
    intro arguments tool ended
    obtain ⟨invocation, middle, dispatched, invoked⟩ :=
      outcome_bind_eq_ok.mp ended
    rw [outcome_dispatch_state dispatched] at invoked
    exact ⟨invocation, invoked⟩
  unfold callToolBuiltin at returned
  rw [outcome_bind, outcome_get] at returned
  simp only at returned
  split at returned
  · cases returned
  · split at returned
    · cases returned
    · cases positional with
      | cons tool rest =>
          exact chosen rest.head? (some tool) returned
      | nil =>
          exact chosen (keywords.get "arguments") (keywords.get "tool")
            returned

end Calls

/-- Count a loop iteration against the budget. -/
def countIteration : ProgramM Unit := do
  modify fun state =>
    { state with loopIterations := state.loopIterations + 1 }
  let state ← get
  if state.loopIterations > runtime.maxLoopIterations then
    raiseIssue "budget_exceeded"
      ("Program exceeds max loop iteration count of " ++
        toString runtime.maxLoopIterations)
      [("limit", .int runtime.maxLoopIterations)]
  else
    return

def enterBody : ProgramM Unit :=
  modify fun state => { state with bodiesEntered := state.bodiesEntered + 1 }

/-- What happens before the body of a loop: count, assign the target, enter. -/
def beginIteration (assign : ProgramM Unit) : ProgramM Unit := do
  countIteration runtime
  assign
  enterBody

/-! ## Operators and functions -/

section Operators

variable [PythonArithmetic]

def applyBinaryOperator
    (op : BinaryOperator) (left right : PyValue) : ProgramM PyValue :=
  match op with
  | .unsupported kind =>
      raiseValueError ("Unsupported binary operator: " ++ kind)
  | _ => computed (PythonArithmetic.binary op left right)

def applyUnaryOperator (op : UnaryOperator) (operand : PyValue) :
    ProgramM PyValue :=
  match op with
  | .not => return .bool !operand.truthy
  | .uSub => computed (PythonArithmetic.negative operand)
  | .uAdd => computed (PythonArithmetic.positive operand)
  | .unsupported kind =>
      raiseValueError ("Unsupported unary operator: " ++ kind)

def applyComparison
    (op : ComparisonOperator) (left right : PyValue) : ProgramM Bool :=
  match op with
  | .unsupported kind =>
      raiseValueError ("Unsupported comparison operator: " ++ kind)
  | _ => computed (PythonArithmetic.comparison op left right)

/-- Compare neighbours until one comparison fails. -/
def compareChain (current : PyValue) :
    List (ComparisonOperator × PyValue) → ProgramM PyValue
  | [] => return .bool true
  | (op, comparator) :: rest => do
      if ← applyComparison op current comparator then
        compareChain comparator rest
      else
        return .bool false

def subscriptValue (base key : PyValue) : ProgramM PyValue :=
  match base.subscript key with
  | some value => return value
  | none => do
      let text ← computed (PythonArithmetic.str key)
      raiseValueError ("Subscript lookup failed for key '" ++ text ++ "'")

def attributeValue (base : PyValue) (attr : String) : ProgramM PyValue :=
  let refused :=
    raiseValueError
      ("Cannot access attribute '" ++ attr ++ "' on value of type " ++
        base.typeName)
  match base with
  | .dict entries =>
      match Dict.get attr entries with
      | some value => return value
      | none => refused
  | _ => refused

def iterableItems (value : PyValue) : Except PyError (List PyValue) :=
  match value.iterate with
  | some items => .ok items
  | none =>
      .error (.exception ("'" ++ value.typeName ++ "' object is not iterable"))

/-- A function that takes exactly one argument. -/
def unary
    (functionName : String) (positional : List PyValue)
    (body : PyValue → ProgramM PyValue) : ProgramM PyValue :=
  match positional with
  | [value] => body value
  | _ =>
      raiseValueError
        (functionName ++ " expects exactly 1 positional argument(s)")

def rangeBuiltin (positional : List PyValue) : ProgramM PyValue :=
  if 1 ≤ positional.length ∧ positional.length ≤ 3 then
    computed <| do
      match ← positional.mapM PythonArithmetic.int with
      | [stop] => PyValue.rangeOf 0 stop 1
      | [start, stop] => PyValue.rangeOf start stop 1
      | start :: stop :: step :: _ => PyValue.rangeOf start stop step
      | [] => .ok .none
  else
    raiseValueError "range expects between 1 and 3 positional argument(s)"

/-- The entries of a dictionary argument. -/
def entriesOf (functionName : String) (value : PyValue) :
    ProgramM (List (String × PyValue)) :=
  match value with
  | .dict entries => return entries
  | _ => raiseValueError (functionName ++ " expects a dictionary argument")

/-- The functions a program can call, once their arguments are evaluated. -/
def applyFunction
    (functionName : String) (positional : List PyValue)
    (keywords : Dict String PyValue) : ProgramM PyValue :=
  match functionName with
  | "call_tool" => callToolBuiltin runtime positional keywords
  | "len" => unary "len" positional fun value => computed value.len
  | "sum" =>
      unary "sum" positional fun value => computed do
        let items ← iterableItems value
        items.foldlM (PythonArithmetic.binary .add) (.int 0)
  | "sorted" =>
      unary "sorted" positional fun value => computed do
        let items ← iterableItems value
        return .list (← PythonArithmetic.sorted items)
  | "range" => rangeBuiltin positional
  | "keys" =>
      unary "keys" positional fun value => do
        let entries ← entriesOf "keys" value
        return .list (entries.map fun entry => .str entry.1)
  | "values" =>
      unary "values" positional fun value => do
        let entries ← entriesOf "values" value
        return .list (entries.map Prod.snd)
  | "items" =>
      unary "items" positional fun value => do
        let entries ← entriesOf "items" value
        return .list (entries.map fun entry =>
          .tuple [.str entry.1, entry.2])
  | "str" =>
      unary "str" positional fun value => computed do
        return .str (← PythonArithmetic.str value)
  | "int" =>
      unary "int" positional fun value => computed do
        return .int (← PythonArithmetic.int value)
  | "float" =>
      unary "float" positional fun value => computed do
        return .float (← PythonArithmetic.float value)
  | "bool" =>
      unary "bool" positional fun value => return .bool value.truthy
  | _ => raiseValueError ("Unsupported function call: " ++ functionName)

/-- The keyword arguments as a dict: a repeated name keeps its last value. -/
def keywordDict (keywords : List (String × PyValue)) : Dict String PyValue :=
  keywords.foldl (fun built entry => Dict.set entry.1 entry.2 built) []

/-- `{str(key): value for key, value in entries}`. -/
def dictDisplay (entries : List (PyValue × PyValue)) :
    Except PyError PyValue := do
  let named ← entries.mapM fun entry => do
    return (← PythonArithmetic.str entry.1, entry.2)
  return PyValue.dictOf named

/-- `_eval_slice`: a slice is refused, any other node evaluated. -/
def evalSlice (node : Expr) (evaluate : ProgramM PyValue) :
    ProgramM PyValue :=
  match node with
  | .slice => raiseValueError "Slice syntax is not supported"
  | _ => evaluate

end Operators

/-! ## Expressions -/

variable [PythonArithmetic]

mutual

def evalExpression : Expr → ProgramM PyValue
  | .constant value => return value
  | .name id => lookupName id
  | .dict entries => do
      let keys ← evalKeys entries
      let values ← evalValues entries
      computed (dictDisplay (keys.zip values))
  | .list elts => do
      let items ← evalExpressions elts
      return .list items
  | .tuple elts => do
      let items ← evalExpressions elts
      return .list items
  | .attribute value attr => do
      let base ← evalExpression value
      attributeValue base attr
  | .subscript value key => do
      let base ← evalExpression value
      let key ← evalSlice key (evalExpression key)
      subscriptValue base key
  | .call func args keywords =>
      match func with
      | .name functionName => do
          let positional ← evalExpressions args
          let keywords ← evalKeywords keywords
          applyFunction runtime functionName positional
            (keywordDict keywords)
      | _ =>
          raiseValueError "Only direct builtin function calls are supported"
  | .binOp left op right => do
      let left ← evalExpression left
      let right ← evalExpression right
      applyBinaryOperator op left right
  | .boolOp .and values =>
      evalBoolop (fun result => !result.truthy) values (some (.bool true))
  | .boolOp .or values => evalBoolop PyValue.truthy values none
  | .compare left links => do
      let left ← evalExpression left
      let comparators ← evalComparators links
      compareChain left comparators
  | .unaryOp op operand => do
      let operand ← evalExpression operand
      applyUnaryOperator op operand
  | .ifExp test body orelse => do
      let test ← evalExpression test
      if test.truthy then evalExpression body else evalExpression orelse
  | other =>
      raiseValueError ("Unsupported expression type: " ++ other.className)

def evalExpressions : List Expr → ProgramM (List PyValue)
  | [] => return []
  | head :: tail => do
      let value ← evalExpression head
      let values ← evalExpressions tail
      return value :: values

def evalKeys : List (Expr × Expr) → ProgramM (List PyValue)
  | [] => return []
  | (key, _) :: tail => do
      let value ← evalExpression key
      let values ← evalKeys tail
      return value :: values

def evalValues : List (Expr × Expr) → ProgramM (List PyValue)
  | [] => return []
  | (_, value) :: tail => do
      let value ← evalExpression value
      let values ← evalValues tail
      return value :: values

/-- All comparators, before any of them is compared. -/
def evalComparators :
    List (ComparisonOperator × Expr) →
      ProgramM (List (ComparisonOperator × PyValue))
  | [] => return []
  | (op, comparator) :: tail => do
      let value ← evalExpression comparator
      let rest ← evalComparators tail
      return (op, value) :: rest

/-- The keyword arguments as written; those without a name are left out. -/
def evalKeywords :
    List (Option String × Expr) → ProgramM (List (String × PyValue))
  | [] => return []
  | (some name, argument) :: tail => do
      let value ← evalExpression argument
      let rest ← evalKeywords tail
      return (name, value) :: rest
  | (none, _) :: tail => evalKeywords tail

/-- Evaluate until a result has `decided`; it needs a first result only where
there is nothing to evaluate. -/
def evalBoolop (decided : PyValue → Bool) :
    List Expr → Option PyValue → ProgramM PyValue
  | [], some result => return result
  | [], none =>
      throw (.error (.exception "local variable 'result' has no value"))
  | value :: rest, _ => do
      let result ← evalExpression value
      if decided result then
        return result
      else
        evalBoolop decided rest (some result)

end

/-! ## Statements -/

/-- Run a statement of a loop body; a signal becomes a value. -/
def catchSignal (program : ProgramM PyValue) :
    ProgramM (Except LoopSignal PyValue) :=
  attempt Stop.signal program

/-- Run the body for each item.  The result is that of the last statement that
completed in any iteration. -/
def forEach (assign : PyValue → ProgramM Unit)
    (body : PyValue → ProgramM (PyValue × Option LoopSignal)) :
    List PyValue → PyValue → ProgramM PyValue
  | [], result => return result
  | item :: items, result => do
      beginIteration runtime (assign item)
      match ← body result with
      | (result, some .loopBreak) => return result
      | (result, _) => forEach assign body items result

/-- The items of a loop. -/
def loopItems (iterable : PyValue) : ProgramM (List PyValue) :=
  match iterable.iterate with
  | some items => return items
  | none =>
      raiseValueError
        ("Value of type " ++ iterable.typeName ++ " is not iterable")

mutual

def execStatement : Stmt → ProgramM PyValue
  | .assign targets value => do
      let value ← evalExpression runtime value
      targets.forM fun target => assignTarget target value
      return value
  | .augAssign target op value => do
      let current ← readAssignmentTarget target
      let value ← evalExpression runtime value
      let updated ← applyBinaryOperator op current value
      assignTarget target updated
      return updated
  | .expr value => evalExpression runtime value
  | .ifElse test body orelse => do
      let test ← evalExpression runtime test
      if test.truthy then execBlock body .none else execBlock orelse .none
  | .forIn target iter body orelse =>
      if orelse.isEmpty then do
        let iterable ← evalExpression runtime iter
        let items ← loopItems iterable
        forEach runtime (assignTarget target)
          (fun result => execBody body result) items .none
      else
        raiseValueError "For-else blocks are not supported"
  | .breakLoop => throw .loopBreak
  | .continueLoop => throw .loopContinue
  | .pass => return .none
  | .unsupported kind =>
      raiseValueError ("Unsupported statement type: " ++ kind)

/-- The statements of a branch, with the result of the last one. -/
def execBlock : List Stmt → PyValue → ProgramM PyValue
  | [], result => return result
  | nested :: rest, _ => do
      let result ← execStatement nested
      execBlock rest result

/-- The statements of a loop body, up to the first signal. -/
def execBody :
    List Stmt → PyValue → ProgramM (PyValue × Option LoopSignal)
  | [], result => return (result, none)
  | nested :: rest, result => do
      match ← catchSignal (execStatement nested) with
      | .ok value => execBody rest value
      | .error signal => return (result, some signal)

end

end Evaluation

/-! ## Runs -/

inductive ParseFailure where
  | syntaxError (message : String) (line offset : Option Nat)
  | error (error : PyError)

structure ProgramRunResult where
  success : Bool := true
  error : Option ErrorInfo := none
  resultVariable : String := "result"
  finalData : PyValue := .none
  finalText : Option String := none
  callCount : Nat := 0
  calls : List ProgramCallTrace := []
  variableBindings : Dict String PyValue := []
deriving Repr

/-- What a client asks to be run. -/
structure ProgramRequest where
  program : String
  initialContext : Dict String PyValue := []
  resultVariable : String := "result"
  returnVariables : Option (List String) := none

/-- `final_data if isinstance(final_data, str) else None`. -/
def PyValue.text? : PyValue → Option String
  | .str value => some value
  | _ => Option.none

/-- `_serializable_bindings`, which projects one frame further down. -/
def serializableBindings (room : Nat)
    (environment : Dict String PyValue)
    (returnVariables : Option (List String)) :
    Except PyError (Dict String PyValue) :=
  (returnVariables.getD []).foldlM
    (fun serializable key =>
      if key.startsWith "_" then
        return serializable
      else
        match environment.get key with
        | some value => do
            let projected ← value.jsonSafeValue (room - 1)
            return serializable.set key projected
        | none => return serializable) []

def jsonOfDetail : PyValue → Json
  | .str value => .str value
  | .int value => .num value
  | _ => .null

def issueDetails (details : List (String × PyValue)) : Json :=
  .obj (details.map fun entry => (entry.1, jsonOfDetail entry.2))

def failureInfo
    (code message : String) (details : Option Json) : ErrorInfo where
  code := code
  message := message
  retryable := code = "tool_timeout" ∨ code = "tool_invocation_failed"
  details := details

/-- The clauses of `run`, in order; a cancellation is not among them. -/
def Stop.failure : Stop → Option ErrorInfo
  | .issue code message details =>
      some (failureInfo code message (some (issueDetails details)))
  | .syntaxError message line offset =>
      some <| failureInfo "invalid_program"
        (if message = "" then "Program could not be parsed" else message)
        (some (.obj
          [("line", (line.map fun n => Json.num n).getD .null),
           ("offset", (offset.map fun n => Json.num n).getD .null)]))
  | .error (.valueError message) =>
      some (failureInfo "invalid_program" message none)
  | .error (.exception message) =>
      some (failureInfo "program_runtime_error" message none)
  | .loopBreak => some (failureInfo "program_runtime_error" "" none)
  | .loopContinue => some (failureInfo "program_runtime_error" "" none)
  | .cancelled => none

section Results

variable [PythonStack]

/-- `_failure_result`, which projects one frame further down than `run`. -/
def failureResult
    (request : ProgramRequest) (error : ErrorInfo) (state : ProgramState) :
    Except PyError ProgramRunResult := do
  let finalData := (state.environment.get request.resultVariable).getD .none
  let projected ← finalData.jsonSafeValue (PythonStack.resultRoom - 1)
  let bindings ←
    serializableBindings (PythonStack.resultRoom - 1) state.environment
      request.returnVariables
  return {
    success := false
    error := some error
    resultVariable := request.resultVariable
    finalData := projected
    finalText := finalData.text?
    callCount := state.traces.length
    calls := state.traces
    variableBindings := bindings }

def successResult
    (request : ProgramRequest) (lastValue : PyValue)
    (state : ProgramState) : Except PyError ProgramRunResult := do
  let finalData :=
    (state.environment.get request.resultVariable).getD lastValue
  let projected ← finalData.jsonSafeValue PythonStack.resultRoom
  let bindings ←
    serializableBindings PythonStack.resultRoom state.environment
      request.returnVariables
  return {
    success := true
    error := none
    resultVariable := request.resultVariable
    finalData := projected
    finalText := finalData.text?
    callCount := state.traces.length
    calls := state.traces
    variableBindings := bindings }

/-- How `run` ends: with a result, with an exception that building the result
of a failure raises, or cancelled. -/
inductive RunEnding where
  | result (result : ProgramRunResult)
  | raised (error : PyError)
  | cancelled

def RunEnding.ofFailure
    (request : ProgramRequest) (stop : Stop) (state : ProgramState) :
    RunEnding :=
  match stop.failure with
  | some error =>
      match failureResult request error state with
      | .ok failed => .result failed
      | .error overflow => .raised overflow
  | none => .cancelled

end Results

section Runs

variable (runtime : ToolProgramRuntime) [PythonArithmetic]

/-- The `try` block of `run` up to the result. -/
def execProgram
    (parse : String → Except ParseFailure Module) (program : String) :
    ProgramM PyValue :=
  if program.length > runtime.maxProgramLength then
    raiseIssue "budget_exceeded"
      ("Program exceeds max length of " ++
        toString runtime.maxProgramLength ++ " characters")
      [("limit", .int runtime.maxProgramLength)]
  else
    match parse program with
    | .error (.syntaxError message line offset) =>
        throw (.syntaxError message line offset)
    | .error (.error error) => throw (.error error)
    | .ok module =>
        if module.nodes > runtime.maxAstNodes then
          raiseIssue "budget_exceeded"
            ("Program exceeds max AST size of " ++
              toString runtime.maxAstNodes ++ " nodes")
            [("limit", .int runtime.maxAstNodes),
             ("actual", .int module.nodes)]
        else
          execBlock runtime module.body .none

/-- The `try` block of `run`. -/
def completeProgram
    (parse : String → Except ParseFailure Module)
    (request : ProgramRequest) : ProgramM ProgramRunResult := do
  let lastValue ← execProgram runtime parse request.program
  let state ← get
  computed (successResult request lastValue state)

/-- The ending of the run and the state it ends in. -/
def run
    (parse : String → Except ParseFailure Module)
    (request : ProgramRequest) : RunEnding × ProgramState :=
  match outcome (completeProgram runtime parse request)
      { environment := request.initialContext } with
  | (.ok result, state) => (.result result, state)
  | (.error stop, state) => (.ofFailure request stop state, state)

end Runs

end ToolboxMcp
