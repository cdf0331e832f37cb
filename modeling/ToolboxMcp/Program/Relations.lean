import ToolboxMcp.Program.Runtime

/-!
# Relations the evaluator respects

A relation between computations that holds of the primitive steps and is kept
by sequencing and by catching loop signals holds of the evaluation of every
expression and the execution of every statement.  What is proved of all
programs is an instance: a unary property relates a computation to itself.
-/

namespace ToolboxMcp

open Effect

/-- A relation that everything expressions are made of respects.  Only the
variables in `names` are looked up, and `call_tool` counts as one. -/
structure EvaluationRelation [PythonArithmetic]
    (runtime : ToolProgramRuntime) (names : String → Prop) where
  rel : {α : Type} → ProgramM α → ProgramM α → Prop
  returns : ∀ {α : Type} (value : α), rel (pure value) (pure value)
  sequence :
    ∀ {α β : Type} {first other : ProgramM α} {next later : α → ProgramM β},
      rel first other → (∀ value, rel (next value) (later value)) →
        rel (first >>= next) (other >>= later)
  raises :
    ∀ {α : Type} (error : PyError),
      rel (throw (.error error) : ProgramM α) (throw (.error error))
  reads : ∀ {id : String}, names id → rel (lookupName id) (lookupName id)
  invokes :
    names "call_tool" →
      ∀ (positional : List PyValue) (keywords : Dict String PyValue),
        rel (callToolBuiltin runtime positional keywords)
          (callToolBuiltin runtime positional keywords)

/-- The same with assignments, which bind variables. -/
structure AssignmentRelation [PythonArithmetic]
    (runtime : ToolProgramRuntime) (names : String → Prop)
    extends EvaluationRelation runtime names where
  binds :
    ∀ {id : String} (value : PyValue), names id →
      rel (bindName id value) (bindName id value)

/-- The same with loops and their signals. -/
structure ProgramRelation [PythonArithmetic]
    (runtime : ToolProgramRuntime) (names : String → Prop)
    extends AssignmentRelation runtime names where
  breaks : rel (throw .loopBreak : ProgramM PyValue) (throw .loopBreak)
  continues :
    rel (throw .loopContinue : ProgramM PyValue) (throw .loopContinue)
  iterates :
    ∀ {assign other : ProgramM Unit}, rel assign other →
      rel (beginIteration runtime assign) (beginIteration runtime other)
  catches :
    ∀ {program other : ProgramM PyValue}, rel program other →
      rel (catchSignal program) (catchSignal other)

namespace EvaluationRelation

variable [PythonArithmetic] {runtime : ToolProgramRuntime} {names : String → Prop}
  (relation : EvaluationRelation runtime names)

theorem rel_computed {α : Type} (result : Except PyError α) :
    relation.rel (ToolboxMcp.computed result)
      (ToolboxMcp.computed result) := by
  cases result with
  | ok value =>
      exact relation.returns value
  | error error =>
      exact relation.raises error

theorem rel_applyBinaryOperator
    (op : BinaryOperator) (left right : PyValue) :
    relation.rel (applyBinaryOperator op left right)
      (applyBinaryOperator op left right) := by
  unfold applyBinaryOperator
  split
  · exact relation.raises _
  · exact relation.rel_computed _

theorem rel_applyUnaryOperator (op : UnaryOperator) (operand : PyValue) :
    relation.rel (applyUnaryOperator op operand)
      (applyUnaryOperator op operand) := by
  cases op with
  | not =>
      exact relation.returns _
  | uSub =>
      exact relation.rel_computed _
  | uAdd =>
      exact relation.rel_computed _
  | unsupported kind =>
      exact relation.raises _

theorem rel_compareChain (current : PyValue)
    (links : List (ComparisonOperator × PyValue)) :
    relation.rel (compareChain current links)
      (compareChain current links) := by
  induction links generalizing current with
  | nil =>
      exact relation.returns _
  | cons link rest inductionHypothesis =>
      obtain ⟨op, comparator⟩ := link
      rw [compareChain]
      refine relation.sequence ?_ fun holds => ?_
      · unfold applyComparison
        split
        · exact relation.raises _
        · exact relation.rel_computed _
      · cases holds with
        | true =>
            exact inductionHypothesis comparator
        | false =>
            exact relation.returns _

theorem rel_subscriptValue (base key : PyValue) :
    relation.rel (subscriptValue base key) (subscriptValue base key) := by
  unfold subscriptValue
  split
  · exact relation.returns _
  · exact relation.sequence (relation.rel_computed _) fun _ =>
      relation.raises _

theorem rel_attributeValue (base : PyValue) (attr : String) :
    relation.rel (attributeValue base attr) (attributeValue base attr) := by
  unfold attributeValue
  cases base with
  | dict entries =>
      simp only
      cases Dict.get attr entries with
      | some value =>
          exact relation.returns value
      | none =>
          exact relation.raises _
  | _ =>
      exact relation.raises _

theorem rel_unary (functionName : String) (positional : List PyValue)
    {body other : PyValue → ProgramM PyValue}
    (bodies : ∀ value, relation.rel (body value) (other value)) :
    relation.rel (unary functionName positional body)
      (unary functionName positional other) := by
  unfold unary
  split
  · exact bodies _
  · exact relation.raises _

theorem rel_entriesOf (functionName : String) (value : PyValue) :
    relation.rel (entriesOf functionName value)
      (entriesOf functionName value) := by
  cases value with
  | dict entries =>
      exact relation.returns entries
  | _ =>
      exact relation.raises _

theorem rel_rangeBuiltin (positional : List PyValue) :
    relation.rel (rangeBuiltin positional) (rangeBuiltin positional) := by
  unfold rangeBuiltin
  split
  · exact relation.rel_computed _
  · exact relation.raises _

theorem rel_applyFunction (functionName : String)
    (named : names functionName)
    (positional : List PyValue) (keywords : Dict String PyValue) :
    relation.rel (applyFunction runtime functionName positional keywords)
      (applyFunction runtime functionName positional keywords) := by
  have overEntries : ∀ (kind : String)
      (change : List (String × PyValue) → PyValue),
      relation.rel
        (unary kind positional fun value => do
          let entries ← entriesOf kind value
          return change entries)
        (unary kind positional fun value => do
          let entries ← entriesOf kind value
          return change entries) := by
    intro kind change
    refine relation.rel_unary kind positional fun value => ?_
    exact relation.sequence (relation.rel_entriesOf kind value)
      fun entries => relation.returns (change entries)
  unfold applyFunction
  split
  · exact relation.invokes named positional keywords
  · exact relation.rel_unary _ _ fun _ => relation.rel_computed _
  · exact relation.rel_unary _ _ fun _ => relation.rel_computed _
  · exact relation.rel_unary _ _ fun _ => relation.rel_computed _
  · exact relation.rel_rangeBuiltin positional
  · exact overEntries "keys" _
  · exact overEntries "values" _
  · exact overEntries "items" _
  · exact relation.rel_unary _ _ fun _ => relation.rel_computed _
  · exact relation.rel_unary _ _ fun _ => relation.rel_computed _
  · exact relation.rel_unary _ _ fun _ => relation.rel_computed _
  · exact relation.rel_unary _ _ fun _ => relation.returns _
  · exact relation.raises _

theorem rel_evalSlice (node : Expr) {evaluate other : ProgramM PyValue}
    (evaluated : relation.rel evaluate other) :
    relation.rel (evalSlice node evaluate) (evalSlice node other) := by
  unfold evalSlice
  split
  · exact relation.raises _
  · exact evaluated


/-! ## Expressions -/

mutual

theorem rel_evalExpression : (expression : Expr) →
    (∀ id ∈ expression.names, names id) →
      relation.rel (evalExpression runtime expression)
        (evalExpression runtime expression)
  | .constant value, _ => relation.returns value
  | .name id, within => by
      have named : id ∈ (Expr.name id).names := by
        simp [Expr.names]
      exact relation.reads (within id named)
  | .dict entries, within => by
      rw [evalExpression]
      exact relation.sequence (rel_evalKeys entries within) fun _ =>
        relation.sequence (rel_evalValues entries within) fun _ =>
          relation.rel_computed _
  | .list elts, within => by
      rw [evalExpression]
      exact relation.sequence (rel_evalExpressions elts within) fun _ =>
        relation.returns _
  | .tuple elts, within => by
      rw [evalExpression]
      exact relation.sequence (rel_evalExpressions elts within) fun _ =>
        relation.returns _
  | .attribute value attr, within => by
      rw [evalExpression]
      exact relation.sequence (rel_evalExpression value within) fun base =>
        relation.rel_attributeValue base attr
  | .subscript value key, within => by
      have inValue : ∀ id ∈ value.names, names id := fun id member =>
        within id (List.mem_append_left _ member)
      have inKey : ∀ id ∈ key.names, names id := fun id member =>
        within id (List.mem_append_right _ member)
      rw [evalExpression]
      exact relation.sequence (rel_evalExpression value inValue) fun base =>
        relation.sequence
          (relation.rel_evalSlice key (rel_evalExpression key inKey))
          fun found => relation.rel_subscriptValue base found
  | .slice, _ => relation.raises _
  | .call func args keywords, within => by
      have inArgs : ∀ id ∈ namesOfExprs args, names id := fun id member =>
        within id
          (List.mem_append_left _ (List.mem_append_right _ member))
      have inKeywords : ∀ id ∈ namesOfKeywords keywords, names id :=
        fun id member => within id (List.mem_append_right _ member)
      cases func with
      | name functionName =>
          have named : functionName ∈
              (Expr.call (.name functionName) args keywords).names := by
            simp [Expr.names]
          rw [evalExpression]
          exact relation.sequence (rel_evalExpressions args inArgs)
            fun positional =>
              relation.sequence (rel_evalKeywords keywords inKeywords)
                fun given =>
                  relation.rel_applyFunction _ (within _ named) positional
                    (keywordDict given)
      | _ =>
          exact relation.raises _
  | .binOp left op right, within => by
      have inLeft : ∀ id ∈ left.names, names id := fun id member =>
        within id (List.mem_append_left _ member)
      have inRight : ∀ id ∈ right.names, names id := fun id member =>
        within id (List.mem_append_right _ member)
      rw [evalExpression]
      exact relation.sequence (rel_evalExpression left inLeft) fun first =>
        relation.sequence (rel_evalExpression right inRight) fun second =>
          relation.rel_applyBinaryOperator op first second
  | .boolOp .and values, within => by
      rw [evalExpression]
      exact rel_evalBoolop _ values _ within
  | .boolOp .or values, within => by
      rw [evalExpression]
      exact rel_evalBoolop _ values _ within
  | .compare left links, within => by
      have inLeft : ∀ id ∈ left.names, names id := fun id member =>
        within id (List.mem_append_left _ member)
      have inOthers : ∀ id ∈ namesOfLinks links, names id :=
        fun id member => within id (List.mem_append_right _ member)
      rw [evalExpression]
      exact relation.sequence (rel_evalExpression left inLeft) fun first =>
        relation.sequence (rel_evalComparators links inOthers)
          fun others => relation.rel_compareChain first others
  | .unaryOp op operand, within => by
      rw [evalExpression]
      exact relation.sequence (rel_evalExpression operand within)
        fun value => relation.rel_applyUnaryOperator op value
  | .ifExp test body orelse, within => by
      have inTest : ∀ id ∈ test.names, names id := fun id member =>
        within id
          (List.mem_append_left _ (List.mem_append_left _ member))
      have inBody : ∀ id ∈ body.names, names id := fun id member =>
        within id
          (List.mem_append_left _ (List.mem_append_right _ member))
      have inOrelse : ∀ id ∈ orelse.names, names id := fun id member =>
        within id (List.mem_append_right _ member)
      rw [evalExpression]
      refine relation.sequence (rel_evalExpression test inTest)
        fun value => ?_
      split
      · exact rel_evalExpression body inBody
      · exact rel_evalExpression orelse inOrelse
  | .unsupported _, _ => relation.raises _

theorem rel_evalExpressions : (expressions : List Expr) →
    (∀ id ∈ namesOfExprs expressions, names id) →
      relation.rel (evalExpressions runtime expressions)
        (evalExpressions runtime expressions)
  | [], _ => relation.returns []
  | head :: tail, within => by
      have inHead : ∀ id ∈ head.names, names id := fun id member =>
        within id (List.mem_append_left _ member)
      have inTail : ∀ id ∈ namesOfExprs tail, names id := fun id member =>
        within id (List.mem_append_right _ member)
      rw [evalExpressions]
      exact relation.sequence (rel_evalExpression head inHead) fun _ =>
        relation.sequence (rel_evalExpressions tail inTail) fun _ =>
          relation.returns _

theorem rel_evalKeys : (entries : List (Expr × Expr)) →
    (∀ id ∈ namesOfEntries entries, names id) →
      relation.rel (evalKeys runtime entries) (evalKeys runtime entries)
  | [], _ => relation.returns []
  | (key, value) :: tail, within => by
      have inKey : ∀ id ∈ key.names, names id := fun id member =>
        within id
          (List.mem_append_left _ (List.mem_append_left _ member))
      have inTail : ∀ id ∈ namesOfEntries tail, names id :=
        fun id member => within id (List.mem_append_right _ member)
      rw [evalKeys]
      exact relation.sequence (rel_evalExpression key inKey) fun _ =>
        relation.sequence (rel_evalKeys tail inTail) fun _ =>
          relation.returns _

theorem rel_evalValues : (entries : List (Expr × Expr)) →
    (∀ id ∈ namesOfEntries entries, names id) →
      relation.rel (evalValues runtime entries) (evalValues runtime entries)
  | [], _ => relation.returns []
  | (key, value) :: tail, within => by
      have inValue : ∀ id ∈ value.names, names id := fun id member =>
        within id
          (List.mem_append_left _ (List.mem_append_right _ member))
      have inTail : ∀ id ∈ namesOfEntries tail, names id :=
        fun id member => within id (List.mem_append_right _ member)
      rw [evalValues]
      exact relation.sequence (rel_evalExpression value inValue) fun _ =>
        relation.sequence (rel_evalValues tail inTail) fun _ =>
          relation.returns _

theorem rel_evalComparators :
    (links : List (ComparisonOperator × Expr)) →
    (∀ id ∈ namesOfLinks links, names id) →
      relation.rel (evalComparators runtime links)
        (evalComparators runtime links)
  | [], _ => relation.returns []
  | (op, comparator) :: tail, within => by
      have inComparator : ∀ id ∈ comparator.names, names id :=
        fun id member => within id (List.mem_append_left _ member)
      have inTail : ∀ id ∈ namesOfLinks tail, names id := fun id member =>
        within id (List.mem_append_right _ member)
      rw [evalComparators]
      exact relation.sequence (rel_evalExpression comparator inComparator)
        fun _ => relation.sequence (rel_evalComparators tail inTail)
          fun _ => relation.returns _

theorem rel_evalKeywords : (keywords : List (Option String × Expr)) →
    (∀ id ∈ namesOfKeywords keywords, names id) →
      relation.rel (evalKeywords runtime keywords)
        (evalKeywords runtime keywords)
  | [], _ => relation.returns []
  | (some name, argument) :: tail, within => by
      have inArgument : ∀ id ∈ argument.names, names id := fun id member =>
        within id (List.mem_append_left _ member)
      have inTail : ∀ id ∈ namesOfKeywords tail, names id :=
        fun id member => within id (List.mem_append_right _ member)
      rw [evalKeywords]
      exact relation.sequence (rel_evalExpression argument inArgument)
        fun _ => relation.sequence (rel_evalKeywords tail inTail) fun _ =>
          relation.returns _
  | (none, argument) :: tail, within => by
      have inTail : ∀ id ∈ namesOfKeywords tail, names id :=
        fun id member => within id (List.mem_append_right _ member)
      rw [evalKeywords]
      exact rel_evalKeywords tail inTail

theorem rel_evalBoolop (decided : PyValue → Bool) :
    (values : List Expr) → (result : Option PyValue) →
    (∀ id ∈ namesOfExprs values, names id) →
      relation.rel (evalBoolop runtime decided values result)
        (evalBoolop runtime decided values result)
  | [], some result, _ => relation.returns result
  | [], none, _ => relation.raises _
  | value :: rest, result, within => by
      have inValue : ∀ id ∈ value.names, names id := fun id member =>
        within id (List.mem_append_left _ member)
      have inRest : ∀ id ∈ namesOfExprs rest, names id := fun id member =>
        within id (List.mem_append_right _ member)
      rw [evalBoolop]
      refine relation.sequence (rel_evalExpression value inValue)
        fun found => ?_
      split
      · exact relation.returns found
      · exact rel_evalBoolop decided rest (some found) inRest

end

end EvaluationRelation

/-! ## Assignments -/

namespace AssignmentRelation

variable [PythonArithmetic] {runtime : ToolProgramRuntime} {names : String → Prop}
  (relation : AssignmentRelation runtime names)

theorem rel_unpack (targets : Nat) (value : PyValue) :
    relation.rel (ToolboxMcp.unpack targets value)
      (ToolboxMcp.unpack targets value) := by
  have checked : ∀ items,
      relation.rel (unpack.checkLength targets items)
        (unpack.checkLength targets items) := by
    intro items
    unfold unpack.checkLength
    split
    · exact relation.raises _
    · exact relation.returns items
  cases value with
  | list items =>
      exact checked items
  | tuple items =>
      exact checked items
  | _ =>
      exact relation.raises _

mutual

theorem rel_assignTarget : (target : Expr) → (value : PyValue) →
    (∀ id ∈ target.names, names id) →
      relation.rel (ToolboxMcp.assignTarget target value)
        (ToolboxMcp.assignTarget target value)
  | .name id, value, within => by
      have named : id ∈ (Expr.name id).names := by
        simp [Expr.names]
      exact relation.binds value (within id named)
  | .tuple elts, value, within => by
      rw [ToolboxMcp.assignTarget]
      exact relation.sequence (relation.rel_unpack _ value) fun items =>
        rel_assignEach elts items within
  | .list elts, value, within => by
      rw [ToolboxMcp.assignTarget]
      exact relation.sequence (relation.rel_unpack _ value) fun items =>
        rel_assignEach elts items within
  | .constant _, _, _ => relation.raises _
  | .dict _, _, _ => relation.raises _
  | .attribute _ _, _, _ => relation.raises _
  | .subscript _ _, _, _ => relation.raises _
  | .slice, _, _ => relation.raises _
  | .call _ _ _, _, _ => relation.raises _
  | .binOp _ _ _, _, _ => relation.raises _
  | .boolOp _ _, _, _ => relation.raises _
  | .compare _ _, _, _ => relation.raises _
  | .unaryOp _ _, _, _ => relation.raises _
  | .ifExp _ _ _, _, _ => relation.raises _
  | .unsupported _, _, _ => relation.raises _

theorem rel_assignEach : (targets : List Expr) → (items : List PyValue) →
    (∀ id ∈ namesOfExprs targets, names id) →
      relation.rel (ToolboxMcp.assignEach targets items)
        (ToolboxMcp.assignEach targets items)
  | [], _, _ => relation.returns ()
  | _ :: _, [], _ => relation.returns ()
  | target :: targets, item :: items, within => by
      rw [ToolboxMcp.assignEach]
      have first : ∀ id ∈ target.names, names id := fun id member =>
        within id (List.mem_append_left _ member)
      have others : ∀ id ∈ namesOfExprs targets, names id := fun id member =>
        within id (List.mem_append_right _ member)
      exact relation.sequence (rel_assignTarget target item first)
        fun _ => rel_assignEach targets items others

end

theorem rel_readAssignmentTarget (target : Expr)
    (within : ∀ id ∈ target.names, names id) :
    relation.rel (readAssignmentTarget target)
      (readAssignmentTarget target) := by
  cases target with
  | name id =>
      have named : id ∈ (Expr.name id).names := by
        simp [Expr.names]
      exact relation.reads (within id named)
  | _ =>
      exact relation.raises _

theorem rel_targets (targets : List Expr) (value : PyValue)
    (within : ∀ id ∈ namesOfExprs targets, names id) :
    relation.rel (targets.forM fun target => assignTarget target value)
      (targets.forM fun target => assignTarget target value) := by
  induction targets with
  | nil =>
      exact relation.returns ()
  | cons target targets inductionHypothesis =>
      have first : ∀ id ∈ target.names, names id := fun id member =>
        within id (List.mem_append_left _ member)
      have others : ∀ id ∈ namesOfExprs targets, names id := fun id member =>
        within id (List.mem_append_right _ member)
      change relation.rel
        (assignTarget target value >>= fun _ =>
          targets.forM fun target => assignTarget target value)
        (assignTarget target value >>= fun _ =>
          targets.forM fun target => assignTarget target value)
      exact relation.sequence (relation.rel_assignTarget target value first)
        fun _ => inductionHypothesis others

theorem rel_loopItems (iterable : PyValue) :
    relation.rel (loopItems iterable) (loopItems iterable) := by
  unfold loopItems
  split
  · exact relation.returns _
  · exact relation.raises _

end AssignmentRelation

/-! ## Statements -/

namespace ProgramRelation

variable [PythonArithmetic] {runtime : ToolProgramRuntime} {names : String → Prop}
  (relation : ProgramRelation runtime names)

theorem rel_forEach {assign : PyValue → ProgramM Unit}
    {body : PyValue → ProgramM (PyValue × Option LoopSignal)}
    (assigns : ∀ item, relation.rel (assign item) (assign item))
    (bodies : ∀ result, relation.rel (body result) (body result))
    (items : List PyValue) (result : PyValue) :
    relation.rel (forEach runtime assign body items result)
      (forEach runtime assign body items result) := by
  induction items generalizing result with
  | nil =>
      exact relation.returns result
  | cons item items inductionHypothesis =>
      rw [forEach]
      refine relation.sequence (relation.iterates (assigns item))
        fun _ => relation.sequence (bodies result) fun ended => ?_
      split
      · exact relation.returns _
      · exact inductionHypothesis _

mutual

theorem rel_execStatement : (statement : Stmt) →
    (∀ id ∈ statement.names, names id) →
      relation.rel (execStatement runtime statement)
        (execStatement runtime statement)
  | .assign targets value, within => by
      have inTargets : ∀ id ∈ namesOfExprs targets, names id :=
        fun id member => within id (List.mem_append_left _ member)
      have inValue : ∀ id ∈ value.names, names id := fun id member =>
        within id (List.mem_append_right _ member)
      rw [execStatement]
      exact relation.sequence (relation.rel_evalExpression value inValue)
        fun found =>
          relation.sequence (relation.rel_targets targets found inTargets)
            fun _ => relation.returns found
  | .augAssign target op value, within => by
      have inTarget : ∀ id ∈ target.names, names id := fun id member =>
        within id (List.mem_append_left _ member)
      have inValue : ∀ id ∈ value.names, names id := fun id member =>
        within id (List.mem_append_right _ member)
      rw [execStatement]
      exact relation.sequence
        (relation.rel_readAssignmentTarget target inTarget) fun current =>
          relation.sequence (relation.rel_evalExpression value inValue)
            fun operand =>
              relation.sequence
                (relation.rel_applyBinaryOperator op current operand)
                fun updated =>
                  relation.sequence
                    (relation.rel_assignTarget target updated inTarget)
                    fun _ => relation.returns updated
  | .expr value, within => by
      rw [execStatement]
      exact relation.rel_evalExpression value within
  | .ifElse test body orelse, within => by
      have inTest : ∀ id ∈ test.names, names id := fun id member =>
        within id
          (List.mem_append_left _ (List.mem_append_left _ member))
      have inBody : ∀ id ∈ namesOfStmts body, names id := fun id member =>
        within id
          (List.mem_append_left _ (List.mem_append_right _ member))
      have inOrelse : ∀ id ∈ namesOfStmts orelse, names id :=
        fun id member => within id (List.mem_append_right _ member)
      rw [execStatement]
      refine relation.sequence (relation.rel_evalExpression test inTest)
        fun value => ?_
      split
      · exact rel_execBlock body _ inBody
      · exact rel_execBlock orelse _ inOrelse
  | .forIn target iter body orelse, within => by
      have inTarget : ∀ id ∈ target.names, names id := fun id member =>
        within id
          (List.mem_append_left _
            (List.mem_append_left _ (List.mem_append_left _ member)))
      have inIter : ∀ id ∈ iter.names, names id := fun id member =>
        within id
          (List.mem_append_left _
            (List.mem_append_left _ (List.mem_append_right _ member)))
      have inBody : ∀ id ∈ namesOfStmts body, names id := fun id member =>
        within id
          (List.mem_append_left _ (List.mem_append_right _ member))
      rw [execStatement]
      split
      · exact relation.sequence (relation.rel_evalExpression iter inIter)
          fun iterable =>
            relation.sequence (relation.rel_loopItems iterable)
              fun items =>
                relation.rel_forEach
                  (fun item => relation.rel_assignTarget target item inTarget)
                  (fun result => rel_execBody body result inBody) items _
      · exact relation.raises _
  | .breakLoop, _ => relation.breaks
  | .continueLoop, _ => relation.continues
  | .pass, _ => relation.returns _
  | .unsupported _, _ => relation.raises _

theorem rel_execBlock : (statements : List Stmt) → (result : PyValue) →
    (∀ id ∈ namesOfStmts statements, names id) →
      relation.rel (execBlock runtime statements result)
        (execBlock runtime statements result)
  | [], result, _ => relation.returns result
  | nested :: rest, _, within => by
      have inNested : ∀ id ∈ nested.names, names id := fun id member =>
        within id (List.mem_append_left _ member)
      have inRest : ∀ id ∈ namesOfStmts rest, names id := fun id member =>
        within id (List.mem_append_right _ member)
      rw [execBlock]
      exact relation.sequence (rel_execStatement nested inNested)
        fun found => rel_execBlock rest found inRest

theorem rel_execBody : (statements : List Stmt) → (result : PyValue) →
    (∀ id ∈ namesOfStmts statements, names id) →
      relation.rel (execBody runtime statements result)
        (execBody runtime statements result)
  | [], result, _ => relation.returns (result, none)
  | nested :: rest, result, within => by
      have inNested : ∀ id ∈ nested.names, names id := fun id member =>
        within id (List.mem_append_left _ member)
      have inRest : ∀ id ∈ namesOfStmts rest, names id := fun id member =>
        within id (List.mem_append_right _ member)
      rw [execBody]
      refine relation.sequence
        (relation.catches (rel_execStatement nested inNested))
        fun ended => ?_
      split
      · exact rel_execBody rest _ inRest
      · exact relation.returns _

end

end ProgramRelation

end ToolboxMcp
