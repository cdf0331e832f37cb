import ToolboxMcp.Library.KeyedList
import ToolboxMcp.Service.Calls

/-!
# Programs and their values

The abstract syntax `ast.parse` delivers, as far as the evaluator looks at it,
and the values programs compute with.  A node the evaluator rejects is kept
with the name of its class.  Floats and complex numbers are known by their
literal; what Python computes on numbers and strings is the class
`PythonArithmetic`, and how deep it recurses the class `PythonStack`.
-/

namespace ToolboxMcp

inductive PyValue where
  | none
  | bool (value : Bool)
  | int (value : Int)
  | float (literal : String)
  | complex (literal : String)
  | str (value : String)
  | bytes (items : List UInt8)
  | list (items : List PyValue)
  | tuple (items : List PyValue)
  | dict (entries : List (String × PyValue))
  /-- A `date` or `datetime`. -/
  | date (isoformat : String)
  /-- Any other object, such as `...`, without a truth value, a length, items
  or a `model_dump` of its own. -/
  | object (className : String) (identity : Nat)
deriving Repr, Inhabited

inductive BinaryOperator where
  | add
  | sub
  | mult
  | div
  | unsupported (className : String)
deriving Repr, DecidableEq

inductive BoolOperator where
  | and
  | or
deriving Repr, DecidableEq

inductive ComparisonOperator where
  | eq
  | notEq
  | lt
  | ltE
  | gt
  | gtE
  | isIn
  | isNotIn
  | unsupported (className : String)
deriving Repr, DecidableEq

inductive UnaryOperator where
  | not
  | uSub
  | uAdd
  | unsupported (className : String)
deriving Repr, DecidableEq

/-- Expressions.  The keys and values of a dict display are kept in pairs, and
so are the operators and comparators of a comparison.  The key of a `**` entry
is `None`, which is rejected like any other class. -/
inductive Expr where
  | constant (value : PyValue)
  | name (id : String)
  | dict (entries : List (Expr × Expr))
  | list (elts : List Expr)
  | tuple (elts : List Expr)
  | attribute (value : Expr) (attr : String)
  | subscript (value slice : Expr)
  | slice
  | call
      (func : Expr) (args : List Expr)
      (keywords : List (Option String × Expr))
  | binOp (left : Expr) (op : BinaryOperator) (right : Expr)
  | boolOp (op : BoolOperator) (values : List Expr)
  | compare (left : Expr) (links : List (ComparisonOperator × Expr))
  | unaryOp (op : UnaryOperator) (operand : Expr)
  | ifExp (test body orelse : Expr)
  | unsupported (className : String)
deriving Repr, Inhabited

inductive Stmt where
  | assign (targets : List Expr) (value : Expr)
  | augAssign (target : Expr) (op : BinaryOperator) (value : Expr)
  | expr (value : Expr)
  | ifElse (test : Expr) (body orelse : List Stmt)
  | forIn (target iter : Expr) (body orelse : List Stmt)
  | breakLoop
  | continueLoop
  | pass
  | unsupported (className : String)
deriving Repr, Inhabited

/-- A parsed program with the length of `ast.walk`. -/
structure Module where
  body : List Stmt
  nodes : Nat
deriving Repr

namespace Expr

def className : Expr → String
  | .constant _ => "Constant"
  | .name _ => "Name"
  | .dict .. => "Dict"
  | .list _ => "List"
  | .tuple _ => "Tuple"
  | .attribute .. => "Attribute"
  | .subscript .. => "Subscript"
  | .slice => "Slice"
  | .call .. => "Call"
  | .binOp .. => "BinOp"
  | .boolOp .. => "BoolOp"
  | .compare .. => "Compare"
  | .unaryOp .. => "UnaryOp"
  | .ifExp .. => "IfExp"
  | .unsupported kind => kind

end Expr

/-! ## Variable names of a program -/

mutual

/-- The identifiers of the `Name` nodes of the expression. -/
def Expr.names : Expr → List String
  | .constant _ => []
  | .name id => [id]
  | .dict entries => namesOfEntries entries
  | .list elts => namesOfExprs elts
  | .tuple elts => namesOfExprs elts
  | .attribute value _ => value.names
  | .subscript value key => value.names ++ key.names
  | .slice => []
  | .call func args keywords =>
      func.names ++ namesOfExprs args ++ namesOfKeywords keywords
  | .binOp left _ right => left.names ++ right.names
  | .boolOp _ values => namesOfExprs values
  | .compare left links => left.names ++ namesOfLinks links
  | .unaryOp _ operand => operand.names
  | .ifExp test body orelse => test.names ++ body.names ++ orelse.names
  | .unsupported _ => []

def namesOfExprs : List Expr → List String
  | [] => []
  | head :: tail => head.names ++ namesOfExprs tail

def namesOfKeywords : List (Option String × Expr) → List String
  | [] => []
  | (_, value) :: tail => value.names ++ namesOfKeywords tail

def namesOfEntries : List (Expr × Expr) → List String
  | [] => []
  | (key, value) :: tail => key.names ++ value.names ++ namesOfEntries tail

def namesOfLinks : List (ComparisonOperator × Expr) → List String
  | [] => []
  | (_, comparator) :: tail => comparator.names ++ namesOfLinks tail

end

mutual

def Stmt.names : Stmt → List String
  | .assign targets value => namesOfExprs targets ++ value.names
  | .augAssign target _ value => target.names ++ value.names
  | .expr value => value.names
  | .ifElse test body orelse =>
      test.names ++ namesOfStmts body ++ namesOfStmts orelse
  | .forIn target iter body orelse =>
      target.names ++ iter.names ++ namesOfStmts body ++ namesOfStmts orelse
  | .breakLoop => []
  | .continueLoop => []
  | .pass => []
  | .unsupported _ => []

def namesOfStmts : List Stmt → List String
  | [] => []
  | head :: tail => head.names ++ namesOfStmts tail

end

/-! ## Values -/

inductive PyError where
  | valueError (message : String)
  | exception (message : String)
deriving Repr, DecidableEq

/-- `str` of a `RecursionError`. -/
def recursionText : String :=
  "maximum recursion depth exceeded"

/-- How many activations of a recursive function the interpreter's stack has
room for where the recursion starts; one more is a `RecursionError`. -/
class PythonStack where
  /-- In the mounted tool call of a program with this number, which may stand
  deep in an expression. -/
  callRoom : Nat → Nat
  /-- In the `run` of a program. -/
  resultRoom : Nat
  /-- In a step of a batch. -/
  batchRoom : Nat

/-- What Python computes on numbers, strings and mixed operands. -/
class PythonArithmetic extends PythonStack where
  binary : BinaryOperator → PyValue → PyValue → Except PyError PyValue
  comparison : ComparisonOperator → PyValue → PyValue → Except PyError Bool
  negative : PyValue → Except PyError PyValue
  positive : PyValue → Except PyError PyValue
  sorted : List PyValue → Except PyError (List PyValue)
  str : PyValue → Except PyError String
  int : PyValue → Except PyError Int
  float : PyValue → Except PyError String

namespace PyValue

/-- `type(value).__name__`. -/
def typeName : PyValue → String
  | .none => "NoneType"
  | .bool _ => "bool"
  | .int _ => "int"
  | .float _ => "float"
  | .complex _ => "complex"
  | .str _ => "str"
  | .bytes _ => "bytes"
  | .list _ => "list"
  | .tuple _ => "tuple"
  | .dict _ => "dict"
  | .date _ => "datetime"
  | .object className _ => className

/-- `bool(value)`. -/
def truthy : PyValue → Bool
  | .none => false
  | .bool value => value
  | .int value => value ≠ 0
  | .float literal => literal ≠ "0.0" ∧ literal ≠ "-0.0"
  | .complex literal => literal ∉ ["0j", "-0j", "(-0+0j)", "(-0-0j)"]
  | .str value => value ≠ ""
  | .bytes items => !items.isEmpty
  | .list items => !items.isEmpty
  | .tuple items => !items.isEmpty
  | .dict entries => !entries.isEmpty
  | .date _ => true
  | .object .. => true

/-- The items `iter(value)` yields, unless that is a `TypeError`. -/
def iterate : PyValue → Option (List PyValue)
  | .str value => some (value.toList.map fun char => .str (String.singleton char))
  | .bytes items => some (items.map fun item => .int item.toNat)
  | .list items => some items
  | .tuple items => some items
  | .dict entries => some (entries.map fun entry => .str entry.1)
  | _ => Option.none

/-- The index of a list position; a bool is an int. -/
def index? : PyValue → Option Int
  | .int value => some value
  | .bool value => some (if value then 1 else 0)
  | _ => Option.none

/-- `items[position]`, counting from the end below zero. -/
def itemAt {α : Type} (items : List α) (position : Int) : Option α :=
  if 0 ≤ position then
    items[position.toNat]?
  else if 0 ≤ items.length + position then
    items[(items.length + position).toNat]?
  else
    Option.none

/-- `base[key]`, unless that raises. -/
def subscript (base key : PyValue) : Option PyValue :=
  match base with
  | .list items => key.index?.bind (itemAt items)
  | .tuple items => key.index?.bind (itemAt items)
  | .str value =>
      (key.index?.bind (itemAt value.toList)).map fun char =>
        .str (String.singleton char)
  | .bytes items =>
      (key.index?.bind (itemAt items)).map fun item => .int item.toNat
  | .dict entries =>
      match key with
      | .str name => Dict.get name entries
      | _ => Option.none
  | _ => Option.none

def len : PyValue → Except PyError PyValue
  | .str value => .ok (.int value.length)
  | .bytes items => .ok (.int items.length)
  | .list items => .ok (.int items.length)
  | .tuple items => .ok (.int items.length)
  | .dict entries => .ok (.int entries.length)
  | other =>
      .error (.exception
        ("object of type '" ++ other.typeName ++ "' has no len()"))

/-- `list(range(start, stop, step))`. -/
def rangeOf (start stop step : Int) : Except PyError PyValue :=
  if step = 0 then
    .error (.valueError "range() arg 3 must not be zero")
  else
    let count :=
      if 0 < step then (stop - start + step - 1) / step
      else (start - stop - step - 1) / (-step)
    .ok (.list ((List.range count.toNat).map fun position =>
      .int (start + position * step)))

/-- The entries of a dict with the given keys and values in order. -/
def dictOf (entries : List (String × PyValue)) : PyValue :=
  .dict (entries.foldl
    (fun built entry => Dict.set entry.1 entry.2 built) [])

mutual

/-- The activations of a function that recurses into the items of a value. -/
def depth : PyValue → Nat
  | .list items => depthOfItems items + 1
  | .tuple items => depthOfItems items + 1
  | .dict entries => depthOfEntries entries + 1
  | _ => 1

def depthOfItems : List PyValue → Nat
  | [] => 0
  | head :: tail => max head.depth (depthOfItems tail)

def depthOfEntries : List (String × PyValue) → Nat
  | [] => 0
  | (_, value) :: tail => max value.depth (depthOfEntries tail)

end

/-- The result of a function that recurses into the items of the value. -/
def recursing {α : Type} (room : Nat) (value : PyValue) (result : α) :
    Except PyError α :=
  if value.depth ≤ room then
    .ok result
  else
    .error (.exception recursionText)

def opaqueObject (className : String) : PyValue :=
  .dict [("type", .str "opaque"), ("class_name", .str className)]

mutual

/-- What `_json_safe_value` returns, if the stack has room. -/
def jsonSafe : PyValue → PyValue
  | .none => .none
  | .bool value => .bool value
  | .int value => .int value
  | .float literal => .float literal
  | .complex _ => opaqueObject "complex"
  | .str value => .str value
  | .bytes _ => opaqueObject "bytes"
  | .date isoformat => .str isoformat
  | .dict entries => .dict (jsonSafeEntries entries)
  | .list items => .list (jsonSafeItems items)
  | .tuple items => .list (jsonSafeItems items)
  | .object className _ => opaqueObject className

def jsonSafeItems : List PyValue → List PyValue
  | [] => []
  | head :: tail => head.jsonSafe :: jsonSafeItems tail

def jsonSafeEntries : List (String × PyValue) → List (String × PyValue)
  | [] => []
  | (key, value) :: tail => (key, value.jsonSafe) :: jsonSafeEntries tail

end

/-- `_json_safe_value`. -/
def jsonSafeValue (room : Nat) (value : PyValue) : Except PyError PyValue :=
  value.recursing room value.jsonSafe

mutual

/-- What `_redacted_argument_value` returns, if the stack has room. -/
def redacted : PyValue → PyValue
  | .none => .none
  | .dict entries => .dict (redactedEntries entries)
  | .list items => .list (redactedItems items)
  | .tuple items => .list (redactedItems items)
  | _ => .str "[redacted]"

def redactedItems : List PyValue → List PyValue
  | [] => []
  | head :: tail => head.redacted :: redactedItems tail

def redactedEntries : List (String × PyValue) → List (String × PyValue)
  | [] => []
  | (key, value) :: tail => (key, value.redacted) :: redactedEntries tail

end

end PyValue

/-! ## A concrete arithmetic -/

namespace Integers

def unsupported {α : Type} : Except PyError α :=
  .error (.exception "unsupported operand types")

def sameItems : List PyValue → List PyValue → Except PyError Bool
  | [], [] => .ok true
  | [], _ :: _ => .ok false
  | _ :: _, [] => .ok false
  | .int first :: items, .int second :: others =>
      if first = second then sameItems items others else .ok false
  | _ :: _, _ :: _ => unsupported

/-- Python on integers and strings, and the equality of sequences of integers;
other operands are refused.  The evaluator of programs stands deeper in the
stack than a batch. -/
scoped instance arithmetic : PythonArithmetic where
  callRoom _ := 890
  resultRoom := 900
  batchRoom := 900
  binary op left right :=
    match op, left, right with
    | .add, .int first, .int second => .ok (.int (first + second))
    | .sub, .int first, .int second => .ok (.int (first - second))
    | .mult, .int first, .int second => .ok (.int (first * second))
    | .add, .str first, .str second => .ok (.str (first ++ second))
    | _, _, _ => unsupported
  comparison op left right :=
    match op, left, right with
    | .eq, .int first, .int second => .ok (first = second)
    | .notEq, .int first, .int second => .ok (first ≠ second)
    | .lt, .int first, .int second => .ok (first < second)
    | .ltE, .int first, .int second => .ok (first ≤ second)
    | .gt, .int first, .int second => .ok (second < first)
    | .gtE, .int first, .int second => .ok (second ≤ first)
    | .eq, .str first, .str second => .ok (first = second)
    | .notEq, .str first, .str second => .ok (first ≠ second)
    | .eq, .list items, .list others => sameItems items others
    | .eq, .tuple items, .tuple others => sameItems items others
    | .eq, .list _, .tuple _ => .ok false
    | .eq, .tuple _, .list _ => .ok false
    | _, _, _ => unsupported
  negative
    | .int value => .ok (.int (-value))
    | _ => unsupported
  positive
    | .int value => .ok (.int value)
    | _ => unsupported
  sorted
    | [] => .ok []
    | [item] => .ok [item]
    | _ => unsupported
  str
    | .str value => .ok value
    | .int value => .ok (toString value)
    | _ => unsupported
  int
    | .int value => .ok value
    | _ => unsupported
  float _ := unsupported

end Integers

end ToolboxMcp
