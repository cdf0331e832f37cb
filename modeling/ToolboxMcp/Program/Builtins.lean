import ToolboxMcp.Program.CallBinding

/-!
# The builtins against Python's

`pythonBuiltin` is Python's own function of the name, with iterables as lists.
The dispatcher of the runtime agrees with it as long as no keyword is supplied
that matters to Python's function; it does not look at keywords.
-/

namespace ToolboxMcp

open Effect

/-- What Python makes of the keyword arguments of `str`, `int` and
`sorted`. -/
structure PythonKeywords where
  /-- `str(value, encoding=.., errors=..)`. -/
  decode : PyValue → List (String × PyValue) → Option String
  /-- `int(value, base=..)`. -/
  intBase : PyValue → PyValue → Option Int
  /-- How `reverse` is read, unless that is a `TypeError`. -/
  reverse : PyValue → Option Bool

section Python

variable [PythonArithmetic]

end Python

/-! ## Dispatch -/

section Dispatch

variable {runtime : ToolProgramRuntime} {state : ProgramState}

variable [PythonArithmetic]

end Dispatch

namespace WholeNumbers

/-- Python on integers and booleans. -/
scoped instance arithmetic : PythonArithmetic :=
  { Integers.arithmetic with
    int := fun value =>
      match value.index? with
      | some index => .ok index
      | none => Integers.unsupported }

end WholeNumbers

section WholeNumbers

open scoped WholeNumbers

/-- `str` of bytes and `int` with a base are refused, `reverse` is read as a
truth value. -/
def WholeNumbers.keywords : PythonKeywords where
  decode _ _ := none
  intBase _ _ := none
  reverse value := some value.truthy

end WholeNumbers

end ToolboxMcp
