import ToolboxMcp.Program.Relations

/-!
# One program under two runtimes

A runtime enters an evaluation at two places only: where a tool is called and
where an iteration is counted.  A relation the evaluator respects, that in
addition holds there between two runtimes, holds between the whole runs of a
program under the one and under the other.
-/

namespace ToolboxMcp

open Effect

/-- A relation under the first runtime that also connects it to the second. -/
structure RuntimeRelation [PythonArithmetic]
    (left right : ToolProgramRuntime)
    extends ProgramRelation left fun _ => True where
  calls :
    ∀ (positional : List PyValue) (keywords : Dict String PyValue),
      rel (callToolBuiltin left positional keywords)
        (callToolBuiltin right positional keywords)
  counts :
    ∀ {assign : ProgramM Unit}, rel assign assign →
      rel (beginIteration left assign) (beginIteration right assign)

namespace RuntimeRelation

variable [PythonArithmetic] {left right : ToolProgramRuntime}
  (relation : RuntimeRelation left right)

theorem rel_applyFunction (functionName : String)
    (positional : List PyValue) (keywords : Dict String PyValue) :
    relation.rel (applyFunction left functionName positional keywords)
      (applyFunction right functionName positional keywords) := by
  by_cases calls : functionName = "call_tool"
  · subst calls
    exact relation.calls positional keywords
  · have same :
        applyFunction right functionName positional keywords =
          applyFunction left functionName positional keywords := by
      unfold applyFunction
      split <;> first | rfl | exact absurd rfl calls
    rw [same]
    exact relation.toEvaluationRelation.rel_applyFunction functionName trivial
      positional keywords

mutual

theorem rel_evalExpression : (expression : Expr) →
    relation.rel (evalExpression left expression)
      (evalExpression right expression)
  | .constant value => relation.returns value
  | .name _ => relation.reads trivial
  | .dict entries => by
      rw [evalExpression, evalExpression]
      exact relation.sequence (rel_evalKeys entries) fun _ =>
        relation.sequence (rel_evalValues entries) fun _ =>
          relation.rel_computed _
  | .list elts => by
      rw [evalExpression, evalExpression]
      exact relation.sequence (rel_evalExpressions elts) fun _ =>
        relation.returns _
  | .tuple elts => by
      rw [evalExpression, evalExpression]
      exact relation.sequence (rel_evalExpressions elts) fun _ =>
        relation.returns _
  | .attribute value attr => by
      rw [evalExpression, evalExpression]
      exact relation.sequence (rel_evalExpression value) fun base =>
        relation.rel_attributeValue base attr
  | .subscript value key => by
      rw [evalExpression, evalExpression]
      exact relation.sequence (rel_evalExpression value) fun base =>
        relation.sequence
          (relation.rel_evalSlice key (rel_evalExpression key))
          fun found => relation.rel_subscriptValue base found
  | .slice => relation.raises _
  | .call func args keywords => by
      cases func with
      | name functionName =>
          rw [evalExpression, evalExpression]
          exact relation.sequence (rel_evalExpressions args)
            fun positional =>
              relation.sequence (rel_evalKeywords keywords) fun given =>
                relation.rel_applyFunction _ positional (keywordDict given)
      | _ =>
          exact relation.raises _
  | .binOp left' op right' => by
      rw [evalExpression, evalExpression]
      exact relation.sequence (rel_evalExpression left') fun first =>
        relation.sequence (rel_evalExpression right') fun second =>
          relation.rel_applyBinaryOperator op first second
  | .boolOp .and values => by
      rw [evalExpression, evalExpression]
      exact rel_evalBoolop _ values _
  | .boolOp .or values => by
      rw [evalExpression, evalExpression]
      exact rel_evalBoolop _ values _
  | .compare first links => by
      rw [evalExpression, evalExpression]
      exact relation.sequence (rel_evalExpression first) fun found =>
        relation.sequence (rel_evalComparators links) fun others =>
          relation.rel_compareChain found others
  | .unaryOp op operand => by
      rw [evalExpression, evalExpression]
      exact relation.sequence (rel_evalExpression operand) fun value =>
        relation.rel_applyUnaryOperator op value
  | .ifExp test body orelse => by
      rw [evalExpression, evalExpression]
      refine relation.sequence (rel_evalExpression test) fun value => ?_
      split
      · exact rel_evalExpression body
      · exact rel_evalExpression orelse
  | .unsupported _ => relation.raises _

theorem rel_evalExpressions : (expressions : List Expr) →
    relation.rel (evalExpressions left expressions)
      (evalExpressions right expressions)
  | [] => relation.returns []
  | head :: tail => by
      rw [evalExpressions, evalExpressions]
      exact relation.sequence (rel_evalExpression head) fun _ =>
        relation.sequence (rel_evalExpressions tail) fun _ =>
          relation.returns _

theorem rel_evalKeys : (entries : List (Expr × Expr)) →
    relation.rel (evalKeys left entries) (evalKeys right entries)
  | [] => relation.returns []
  | (key, value) :: tail => by
      rw [evalKeys, evalKeys]
      exact relation.sequence (rel_evalExpression key) fun _ =>
        relation.sequence (rel_evalKeys tail) fun _ => relation.returns _

theorem rel_evalValues : (entries : List (Expr × Expr)) →
    relation.rel (evalValues left entries) (evalValues right entries)
  | [] => relation.returns []
  | (key, value) :: tail => by
      rw [evalValues, evalValues]
      exact relation.sequence (rel_evalExpression value) fun _ =>
        relation.sequence (rel_evalValues tail) fun _ => relation.returns _

theorem rel_evalComparators :
    (links : List (ComparisonOperator × Expr)) →
    relation.rel (evalComparators left links) (evalComparators right links)
  | [] => relation.returns []
  | (op, comparator) :: tail => by
      rw [evalComparators, evalComparators]
      exact relation.sequence (rel_evalExpression comparator) fun _ =>
        relation.sequence (rel_evalComparators tail) fun _ =>
          relation.returns _

theorem rel_evalKeywords : (keywords : List (Option String × Expr)) →
    relation.rel (evalKeywords left keywords) (evalKeywords right keywords)
  | [] => relation.returns []
  | (some name, argument) :: tail => by
      rw [evalKeywords, evalKeywords]
      exact relation.sequence (rel_evalExpression argument) fun _ =>
        relation.sequence (rel_evalKeywords tail) fun _ =>
          relation.returns _
  | (none, argument) :: tail => by
      rw [evalKeywords, evalKeywords]
      exact rel_evalKeywords tail

theorem rel_evalBoolop (decided : PyValue → Bool) :
    (values : List Expr) → (result : Option PyValue) →
    relation.rel (evalBoolop left decided values result)
      (evalBoolop right decided values result)
  | [], some result => relation.returns result
  | [], none => relation.raises _
  | value :: rest, result => by
      rw [evalBoolop, evalBoolop]
      refine relation.sequence (rel_evalExpression value) fun found => ?_
      split
      · exact relation.returns found
      · exact rel_evalBoolop decided rest (some found)

end

/-! ## Statements -/

theorem rel_forEach {assign : PyValue → ProgramM Unit}
    {body other : PyValue → ProgramM (PyValue × Option LoopSignal)}
    (assigns : ∀ item, relation.rel (assign item) (assign item))
    (bodies : ∀ result, relation.rel (body result) (other result))
    (items : List PyValue) (result : PyValue) :
    relation.rel (forEach left assign body items result)
      (forEach right assign other items result) := by
  induction items generalizing result with
  | nil =>
      exact relation.returns result
  | cons item items inductionHypothesis =>
      rw [forEach, forEach]
      refine relation.sequence (relation.counts (assigns item))
        fun _ => relation.sequence (bodies result) fun ended => ?_
      split
      · exact relation.returns _
      · exact inductionHypothesis _

mutual

theorem rel_execStatement : (statement : Stmt) →
    relation.rel (execStatement left statement)
      (execStatement right statement)
  | .assign targets value => by
      rw [execStatement, execStatement]
      exact relation.sequence (relation.rel_evalExpression value)
        fun found =>
          relation.sequence
            (relation.rel_targets targets found fun _ _ => trivial)
            fun _ => relation.returns found
  | .augAssign target op value => by
      rw [execStatement, execStatement]
      exact relation.sequence
        (relation.rel_readAssignmentTarget target fun _ _ => trivial)
        fun current =>
          relation.sequence (relation.rel_evalExpression value)
            fun operand =>
              relation.sequence
                (relation.rel_applyBinaryOperator op current operand)
                fun updated =>
                  relation.sequence
                    (relation.rel_assignTarget target updated
                      fun _ _ => trivial)
                    fun _ => relation.returns updated
  | .expr value => by
      rw [execStatement, execStatement]
      exact relation.rel_evalExpression value
  | .ifElse test body orelse => by
      rw [execStatement, execStatement]
      refine relation.sequence (relation.rel_evalExpression test)
        fun value => ?_
      split
      · exact rel_execBlock body _
      · exact rel_execBlock orelse _
  | .forIn target iter body orelse => by
      rw [execStatement, execStatement]
      split
      · exact relation.sequence (relation.rel_evalExpression iter)
          fun iterable =>
            relation.sequence (relation.rel_loopItems iterable)
              fun items =>
                relation.rel_forEach
                  (fun item => relation.rel_assignTarget target item
                    fun _ _ => trivial)
                  (fun result => rel_execBody body result) items _
      · exact relation.raises _
  | .breakLoop => relation.breaks
  | .continueLoop => relation.continues
  | .pass => relation.returns _
  | .unsupported _ => relation.raises _

theorem rel_execBlock : (statements : List Stmt) → (result : PyValue) →
    relation.rel (execBlock left statements result)
      (execBlock right statements result)
  | [], result => relation.returns result
  | nested :: rest, _ => by
      rw [execBlock, execBlock]
      exact relation.sequence (rel_execStatement nested) fun found =>
        rel_execBlock rest found

theorem rel_execBody : (statements : List Stmt) → (result : PyValue) →
    relation.rel (execBody left statements result)
      (execBody right statements result)
  | [], result => relation.returns (result, none)
  | nested :: rest, result => by
      rw [execBody, execBody]
      refine relation.sequence (relation.catches (rel_execStatement nested))
        fun ended => ?_
      split
      · exact rel_execBody rest _
      · exact relation.returns _

end

end RuntimeRelation

end ToolboxMcp
