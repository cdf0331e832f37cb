import ToolboxMcp.Program.Runtime

/-!
# Python's order of evaluation

`Python.evaluate` and `Python.execute` state the order in which Python
evaluates the accepted subset: the function of a call before its arguments, the
entries of a dict display one after the other, the comparators of a chain only
while it holds, `**` arguments in their place.  Break and continue are flows of
control, not exceptions.

The rules are about the order, not about the values.  The functions of a call
and the operations on values are those of the runtime, where a dict display
has strings for keys, `d.name` reads an entry and an augmented assignment binds
a new value.  What a tuple display builds is a parameter, since the runtime
builds a list.
-/

namespace ToolboxMcp

open Effect

inductive Flow where
  | normal
  | breaking
  | continuing

/-- A variable shadows the function of this name. -/
def isBound (functionName : String) : ProgramM Bool := do
  let state ← get
  return (state.environment.get functionName).isSome

/-! ## Python's rules -/

namespace Python

section Rules

variable (runtime : ToolProgramRuntime) (tupleOf : List PyValue → PyValue)
  [PythonArithmetic]

/-- Call what the name stands for; the values of a program are not callable,
and no keyword may be given twice. -/
def applyNamed (functionName : String) (shadowed : Bool)
    (positional : List PyValue) (keywords : List (String × PyValue)) :
    ProgramM PyValue :=
  if shadowed then
    throw (.error (.exception (functionName ++ " is not callable")))
  else if (keywords.map Prod.fst).Nodup then
    applyFunction runtime functionName positional (keywordDict keywords)
  else
    throw (.error (.exception
      (functionName ++ "() got multiple values for keyword argument")))

mutual

def evaluate : Expr → ProgramM PyValue
  | .constant value => return value
  | .name id => lookupName id
  | .dict entries => do
      let entries ← evaluateEntries entries
      computed (dictDisplay entries)
  | .list elts => do
      let items ← evaluateAll elts
      return .list items
  | .tuple elts => do
      let items ← evaluateAll elts
      return tupleOf items
  | .attribute value attr => do
      let base ← evaluate value
      attributeValue base attr
  | .subscript value key => do
      let base ← evaluate value
      let key ← evalSlice key (evaluate key)
      subscriptValue base key
  | .call func args keywords =>
      match func with
      | .name functionName => do
          let shadowed ← isBound functionName
          let positional ← evaluateAll args
          let keywords ← evaluateKeywords keywords
          applyNamed runtime functionName shadowed positional keywords
      | _ =>
          raiseValueError "Only direct builtin function calls are supported"
  | .binOp left op right => do
      let left ← evaluate left
      let right ← evaluate right
      applyBinaryOperator op left right
  | .boolOp .and values => evaluateAnd values
  | .boolOp .or values => evaluateOr values
  | .compare left links => do
      let left ← evaluate left
      evaluateLinks left links
  | .unaryOp op operand => do
      let operand ← evaluate operand
      applyUnaryOperator op operand
  | .ifExp test body orelse => do
      let test ← evaluate test
      if test.truthy then evaluate body else evaluate orelse
  | other =>
      raiseValueError ("Unsupported expression type: " ++ other.className)

def evaluateAll : List Expr → ProgramM (List PyValue)
  | [] => return []
  | head :: tail => do
      let value ← evaluate head
      let values ← evaluateAll tail
      return value :: values

/-- Key and value of an entry before the next entry. -/
def evaluateEntries :
    List (Expr × Expr) → ProgramM (List (PyValue × PyValue))
  | [] => return []
  | (key, value) :: tail => do
      let key ← evaluate key
      let value ← evaluate value
      let entries ← evaluateEntries tail
      return (key, value) :: entries

/-- An argument without a name contributes the entries of a mapping. -/
def evaluateKeywords :
    List (Option String × Expr) → ProgramM (List (String × PyValue))
  | [] => return []
  | (some name, argument) :: tail => do
      let value ← evaluate argument
      let rest ← evaluateKeywords tail
      return (name, value) :: rest
  | (none, argument) :: tail => do
      let mapping ← evaluate argument
      let entries ← entriesOf "call" mapping
      let rest ← evaluateKeywords tail
      return entries ++ rest

/-- Up to the first operand that is false. -/
def evaluateAnd : List Expr → ProgramM PyValue
  | [] => return .bool true
  | [operand] => evaluate operand
  | operand :: rest => do
      let value ← evaluate operand
      if value.truthy then evaluateAnd rest else return value

/-- Up to the first operand that is true. -/
def evaluateOr : List Expr → ProgramM PyValue
  | [] => return .bool false
  | [operand] => evaluate operand
  | operand :: rest => do
      let value ← evaluate operand
      if value.truthy then return value else evaluateOr rest

/-- A comparator is evaluated once the comparison before it has held. -/
def evaluateLinks (current : PyValue) :
    List (ComparisonOperator × Expr) → ProgramM PyValue
  | [] => return .bool true
  | (op, comparator) :: rest => do
      let value ← evaluate comparator
      if ← applyComparison op current value then
        evaluateLinks value rest
      else
        return .bool false

end

/-- A loop over its items, until one iteration breaks. -/
def repeatFor (assign : PyValue → ProgramM Unit) (body : ProgramM Flow) :
    List PyValue → ProgramM Flow
  | [] => return .normal
  | item :: items => do
      beginIteration runtime (assign item)
      match ← body with
      | .breaking => return .breaking
      | _ => repeatFor assign body items

mutual

def execute : Stmt → ProgramM Flow
  | .assign targets value => do
      let value ← evaluate runtime tupleOf value
      targets.forM fun target => assignTarget target value
      return .normal
  | .augAssign target op value => do
      let current ← readAssignmentTarget target
      let value ← evaluate runtime tupleOf value
      let updated ← applyBinaryOperator op current value
      assignTarget target updated
      return .normal
  | .expr value => do
      let _ ← evaluate runtime tupleOf value
      return .normal
  | .ifElse test body orelse => do
      let test ← evaluate runtime tupleOf test
      if test.truthy then executeAll body else executeAll orelse
  | .forIn target iter body orelse => do
      let iterable ← evaluate runtime tupleOf iter
      let items ← loopItems iterable
      match ← repeatFor runtime (assignTarget target) (executeAll body)
          items with
      | .breaking => return .normal
      | _ => executeAll orelse
  | .breakLoop => return .breaking
  | .continueLoop => return .continuing
  | .pass => return .normal
  | .unsupported kind =>
      raiseValueError ("Unsupported statement type: " ++ kind)

/-- Statements after a break or a continue are not executed. -/
def executeAll : List Stmt → ProgramM Flow
  | [] => return .normal
  | head :: tail => do
      match ← execute head with
      | .normal => executeAll tail
      | flow => return flow

end

end Rules

end Python

/-! ## Evaluation in order -/

/-- The property holds of what the program returns, if it returns. -/
abbrev After {α : Type} (program : ProgramM α)
    (property : α → ProgramState → Prop) (state : ProgramState) : Prop :=
  wp program property (fun _ _ => True) state

section Order

variable (runtime : ToolProgramRuntime) [PythonArithmetic]

/-- The keys make no call. -/
def QuietKeys (entries : List (Expr × Expr)) (state : ProgramState) : Prop :=
  After (evalKeys runtime entries)
    (fun _ after => after.invocations = state.invocations) state

/-- No key makes a call that is written after a value that makes one.  The
keys are evaluated from the first state, the values from the second one. -/
def EntriesInOrder :
    List (Expr × Expr) → ProgramState → ProgramState → Prop
  | [], _, _ => True
  | (key, value) :: tail, keyState, valueState =>
      After (evalExpression runtime key)
        (fun _ nextKey =>
          After (evalExpression runtime value)
            (fun _ nextValue =>
              (nextValue.invocations = valueState.invocations ∨
                  QuietKeys runtime tail nextKey) ∧
                EntriesInOrder tail nextKey nextValue) valueState) keyState

mutual

/-- Evaluated from the state, the expression reaches no place where the
evaluator leaves Python's order: a comparator that makes a call once its chain
is false, a key of a display that makes one after an earlier value did, a `**`
argument other than an empty mapping, a keyword given twice, or a call of a
function whose name is a variable. -/
def Expr.InOrder : Expr → ProgramState → Prop
  | .dict entries, state =>
      KeysInOrder entries state ∧
        After (evalKeys runtime entries)
          (fun _ middle =>
            ValuesInOrder entries middle ∧
              EntriesInOrder runtime entries state middle) state
  | .list elts, state => ExprsInOrder elts state
  | .tuple elts, state => ExprsInOrder elts state
  | .attribute value _, state => value.InOrder state
  | .subscript value key, state =>
      value.InOrder state ∧
        After (evalExpression runtime value)
          (fun _ middle => key.InOrder middle) state
  | .call (.name functionName) args keywords, state =>
      state.environment.get functionName = none ∧
        (keywords.filterMap Prod.fst).Nodup ∧
        ExprsInOrder args state ∧
        After (evalExpressions runtime args)
          (fun _ middle => KeywordsInOrder keywords middle) state
  | .binOp left _ right, state =>
      left.InOrder state ∧
        After (evalExpression runtime left)
          (fun _ middle => right.InOrder middle) state
  | .boolOp .and values, state =>
      BoolopInOrder (fun result => !result.truthy) values state
  | .boolOp .or values, state =>
      BoolopInOrder PyValue.truthy values state
  | .compare left links, state =>
      left.InOrder state ∧
        After (evalExpression runtime left)
          (fun value middle => LinksInOrder value links middle) state
  | .unaryOp _ operand, state => operand.InOrder state
  | .ifExp test body orelse, state =>
      test.InOrder state ∧
        After (evalExpression runtime test)
          (fun value middle =>
            if value.truthy then body.InOrder middle
            else orelse.InOrder middle) state
  | _, _ => True

def ExprsInOrder : List Expr → ProgramState → Prop
  | [], _ => True
  | head :: tail, state =>
      head.InOrder state ∧
        After (evalExpression runtime head)
          (fun _ middle => ExprsInOrder tail middle) state

def KeysInOrder : List (Expr × Expr) → ProgramState → Prop
  | [], _ => True
  | (key, _) :: tail, state =>
      key.InOrder state ∧
        After (evalExpression runtime key)
          (fun _ middle => KeysInOrder tail middle) state

def ValuesInOrder : List (Expr × Expr) → ProgramState → Prop
  | [], _ => True
  | (_, value) :: tail, state =>
      value.InOrder state ∧
        After (evalExpression runtime value)
          (fun _ middle => ValuesInOrder tail middle) state

def KeywordsInOrder : List (Option String × Expr) → ProgramState → Prop
  | [], _ => True
  | (some _, argument) :: tail, state =>
      argument.InOrder state ∧
        After (evalExpression runtime argument)
          (fun _ middle => KeywordsInOrder tail middle) state
  | (none, argument) :: tail, state =>
      outcome (Python.evaluate runtime .list argument) state =
          (.ok (.dict []), state) ∧
        KeywordsInOrder tail state

/-- Up to the operand that decides. -/
def BoolopInOrder (decided : PyValue → Bool) :
    List Expr → ProgramState → Prop
  | [], _ => True
  | operand :: rest, state =>
      operand.InOrder state ∧
        After (evalExpression runtime operand)
          (fun value middle =>
            decided value = false → BoolopInOrder decided rest middle) state

/-- The comparators after a comparison that is false make no call. -/
def LinksInOrder (current : PyValue) :
    List (ComparisonOperator × Expr) → ProgramState → Prop
  | [], _ => True
  | (op, comparator) :: rest, state =>
      comparator.InOrder state ∧
        After (evalExpression runtime comparator)
          (fun value middle =>
            After (applyComparison op current value)
              (fun holds _ =>
                if holds then
                  LinksInOrder value rest middle
                else
                  After (evalComparators runtime rest)
                    (fun _ after =>
                      after.invocations = middle.invocations) middle)
              middle) state

end

/-- Iteration by iteration, until one breaks. -/
def ItemsInOrder (assign : PyValue → ProgramM Unit)
    (body : PyValue → ProgramM (PyValue × Option LoopSignal))
    (bodyInOrder : ProgramState → Prop) :
    List PyValue → PyValue → ProgramState → Prop
  | [], _, _ => True
  | item :: items, result, state =>
      After (beginIteration runtime (assign item))
        (fun _ begun =>
          bodyInOrder begun ∧
            After (body result)
              (fun ended later =>
                match ended.2 with
                | some .loopBreak => True
                | _ =>
                    ItemsInOrder assign body bodyInOrder items ended.1 later)
              begun) state

mutual

def Stmt.InOrder : Stmt → ProgramState → Prop
  | .assign _ value, state => value.InOrder runtime state
  | .augAssign target _ value, state =>
      After (readAssignmentTarget target)
        (fun _ middle => value.InOrder runtime middle) state
  | .expr value, state => value.InOrder runtime state
  | .ifElse test body orelse, state =>
      test.InOrder runtime state ∧
        After (evalExpression runtime test)
          (fun value middle =>
            if value.truthy then StmtsInOrder body middle
            else StmtsInOrder orelse middle) state
  | .forIn target iter body _, state =>
      iter.InOrder runtime state ∧
        After (evalExpression runtime iter)
          (fun iterable middle =>
            After (loopItems iterable)
              (fun items later =>
                ItemsInOrder runtime (assignTarget target)
                  (fun result => execBody runtime body result)
                  (fun begun => StmtsInOrder body begun) items .none later)
              middle) state
  | _, _ => True

def StmtsInOrder : List Stmt → ProgramState → Prop
  | [], _ => True
  | head :: tail, state =>
      head.InOrder state ∧
        After (execStatement runtime head)
          (fun _ middle => StmtsInOrder tail middle) state

end

end Order

end ToolboxMcp
