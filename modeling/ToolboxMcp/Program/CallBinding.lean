import ToolboxMcp.Program.Relations

/-!
# What a tool call is written with

`call_tool` binds its arguments by hand.  `bindCallTool` is what Python makes
of the same call for a function of `tool` and `arguments`; a call respects its
program if the invoker gets that, or nothing at all.
-/

namespace ToolboxMcp

open Effect

/-! ## Python's binding -/

/-- Bind the arguments to `call_tool(tool, arguments=None)`, unless Python
refuses the call. -/
def bindCallTool (positional : List PyValue)
    (keywords : List (String × PyValue)) : Option (PyValue × PyValue) :=
  match positional, keywords with
  | [], _ =>
      if (keywords.map Prod.fst).Nodup ∧
          ∀ name ∈ keywords.map Prod.fst,
            name = "tool" ∨ name = "arguments" then
        (Dict.get "tool" (keywordDict keywords)).map fun tool =>
          (tool, (Dict.get "arguments" (keywordDict keywords)).getD .none)
      else
        none
  | [tool], [] => some (tool, .none)
  | [tool], [(name, arguments)] =>
      if name = "arguments" then some (tool, arguments) else none
  | [tool, arguments], [] => some (tool, arguments)
  | _, _ => none

/-- The invocation has the tool and the arguments of the program. -/
def Invocation.passes (invocation : Invocation) (tool arguments : PyValue) :
    Prop :=
  tool = .str invocation.tool ∧
    (arguments = .dict invocation.arguments ∨
      arguments = .none ∧ invocation.arguments = [])

/-- From `before`, the call invokes the tool as Python binds its arguments,
with no mapping left out, or raises without an invocation. -/
def Respects (keywords : List (Option String × Expr))
    (positional : List PyValue) (named : List (String × PyValue))
    (before : ProgramState) (ended : Except Stop PyValue × ProgramState) :
    Prop :=
  (∃ invocation tool arguments,
    ended.2.invocations = before.invocations ++ [invocation] ∧
      (∀ keyword ∈ keywords, keyword.1.isSome = true) ∧
      bindCallTool positional named = some (tool, arguments) ∧
      invocation.passes tool arguments) ∨
  (ended.2.invocations = before.invocations ∧
    ∃ stop, ended.1 = .error stop)

/-! ## When a call respects its program -/

/-- The tool and the arguments the runtime picks. -/
def pickedArguments (positional : List PyValue)
    (keywords : Dict String PyValue) : Option PyValue × Option PyValue :=
  match positional with
  | tool :: rest => (some tool, rest.head?)
  | [] => (keywords.get "tool", keywords.get "arguments")

/-- What `call_tool` takes for the name of a tool and its arguments. -/
def usable : Option PyValue × Option PyValue → Bool
  | (some (.str _), none) => true
  | (some (.str _), some .none) => true
  | (some (.str _), some (.dict _)) => true
  | _ => false

/-- The checks of `call_tool` pass. -/
def Accepted (runtime : ToolProgramRuntime) (state : ProgramState)
    (positional : List PyValue) (keywords : Dict String PyValue) : Prop :=
  state.traces.length < runtime.maxToolCalls ∧
    (∀ entry ∈ keywords, entry.1 = "tool" ∨ entry.1 = "arguments") ∧
    usable (pickedArguments positional keywords) = true

/-- No keyword twice, no third argument and, beside a positional one, no
keyword that says anything. -/
def PlainValues (named : List (String × PyValue)) : List PyValue → Prop
  | [] => (named.map Prod.fst).Nodup
  | [_] =>
      named = [] ∨ named = [("arguments", .none)] ∨
        named = [("arguments", .dict [])]
  | [_, _] => named = []
  | _ => False

/-- Nothing the call is written with is left out. -/
structure Plain (keywords : List (Option String × Expr))
    (positional : List PyValue) (named : List (String × PyValue)) : Prop where
  noMapping : ∀ keyword ∈ keywords, keyword.1.isSome = true
  values : PlainValues named positional

theorem mem_keys_set {built : Dict String PyValue} {written name : String}
    {value : PyValue} :
    name ∈ (built.set written value).map Prod.fst ↔
      name = written ∨ name ∈ built.map Prod.fst := by
  unfold Dict.set
  by_cases present : written ∈ built.map Prod.fst
  · rw [KeyedList.keys_upsert_of_mem Prod.fst present]
    constructor
    · exact .inr
    · rintro (rfl | member)
      · exact present
      · exact member
  · rw [KeyedList.keys_upsert_of_not_mem Prod.fst present]
    simp [or_comm]

/-- The keyword dict has the names that are written. -/
theorem mem_keywordDict (named : List (String × PyValue)) (name : String) :
    name ∈ (keywordDict named).map Prod.fst ↔ name ∈ named.map Prod.fst := by
  have folds :
      ∀ (named : List (String × PyValue)) (built : Dict String PyValue),
        name ∈ (named.foldl
            (fun built entry => Dict.set entry.1 entry.2 built) built).map
              Prod.fst ↔
          name ∈ built.map Prod.fst ∨ name ∈ named.map Prod.fst := by
    intro named
    induction named with
    | nil => simp
    | cons entry named inductionHypothesis =>
        intro built
        rw [List.foldl_cons, inductionHypothesis, mem_keys_set]
        simp only [List.map_cons, List.mem_cons]
        tauto
  have all := folds named []
  simpa [keywordDict] using all

theorem names_of_accepted {named : List (String × PyValue)} :
    (∀ entry ∈ keywordDict named, entry.1 = "tool" ∨ entry.1 = "arguments") ↔
      ∀ name ∈ named.map Prod.fst, name = "tool" ∨ name = "arguments" := by
  constructor
  · intro accepted name member
    rw [← mem_keywordDict] at member
    obtain ⟨entry, among, rfl⟩ := List.mem_map.mp member
    exact accepted entry among
  · intro written entry among
    apply written
    rw [← mem_keywordDict]
    exact List.mem_map_of_mem among

/-! ## The runtime -/

/-- The invocation made of a usable choice. -/
def pickedInvocation : Option PyValue × Option PyValue → Invocation
  | (some (.str name), some (.dict entries)) => ⟨name, entries⟩
  | (some (.str name), _) => ⟨name, []⟩
  | _ => ⟨"", []⟩

section Runtime

variable {runtime : ToolProgramRuntime} {state : ProgramState}

theorem outcome_dispatch {picked : Option PyValue × Option PyValue}
    (accepted : usable picked = true) :
    outcome (dispatch picked.2 picked.1) state =
      (.ok (pickedInvocation picked), state) := by
  unfold usable at accepted
  split at accepted
  · rfl
  · rfl
  · rfl
  · cases accepted

theorem dispatch_raises {picked : Option PyValue × Option PyValue}
    (refused : usable picked = false) :
    ∃ stop, outcome (dispatch picked.2 picked.1) state =
      (.error stop, state) := by
  obtain ⟨tool, arguments⟩ := picked
  unfold dispatch
  split
  · rename_i name chosen
    simp only at chosen
    subst chosen
    split
    · rename_i absent
      simp only at absent
      subst absent
      cases refused
    · rename_i absent
      simp only at absent
      subst absent
      cases refused
    · rename_i entries object
      simp only at object
      subst object
      cases refused
    · exact ⟨_, rfl⟩
  · exact ⟨_, rfl⟩

theorem usable_alone {tool : PyValue}
    (accepts : usable (some tool, none) = true) : ∃ name, tool = .str name := by
  cases tool with
  | str name => exact ⟨name, rfl⟩
  | _ => cases accepts

theorem usable_both {tool arguments : PyValue}
    (accepts : usable (some tool, some arguments) = true) :
    ∃ name, tool = .str name ∧
      (arguments = .none ∨ ∃ entries, arguments = .dict entries) := by
  cases tool with
  | str name =>
      cases arguments with
      | none => exact ⟨name, rfl, .inl rfl⟩
      | dict entries => exact ⟨name, rfl, .inr ⟨entries, rfl⟩⟩
      | _ => cases accepts
  | _ => cases accepts

variable [PythonArithmetic]

theorem outcome_callToolBuiltin_picked {positional : List PyValue}
    {keywords : Dict String PyValue}
    (budget : state.traces.length < runtime.maxToolCalls)
    (names : ∀ entry ∈ keywords,
      entry.1 = "tool" ∨ entry.1 = "arguments") :
    outcome (callToolBuiltin runtime positional keywords) state =
      outcome
        (dispatch (pickedArguments positional keywords).2
            (pickedArguments positional keywords).1 >>=
          invokeTool runtime) state := by
  have known :
      (keywords.any fun entry =>
        decide (entry.1 ≠ "tool" ∧ entry.1 ≠ "arguments")) = false := by
    rw [List.any_eq_false]
    intro entry among
    have named := names entry among
    simp only [decide_eq_true_eq]
    tauto
  unfold callToolBuiltin
  rw [outcome_bind, outcome_get]
  simp only [ge_iff_le, Nat.not_le.mpr budget, if_false, known,
    Bool.false_eq_true]
  cases positional with
  | nil => rfl
  | cons tool rest => rfl

/-- A call that fails a check raises, and invokes nothing. -/
theorem callToolBuiltin_refuses {positional : List PyValue}
    {keywords : Dict String PyValue}
    (refused : ¬ Accepted runtime state positional keywords) :
    ∃ stop, outcome (callToolBuiltin runtime positional keywords) state =
      (.error stop, state) := by
  by_cases budget : state.traces.length < runtime.maxToolCalls
  · by_cases names :
        ∀ entry ∈ keywords, entry.1 = "tool" ∨ entry.1 = "arguments"
    · have unusable :
          usable (pickedArguments positional keywords) = false := by
        rw [Bool.eq_false_iff]
        intro accepted
        exact refused ⟨budget, names, accepted⟩
      obtain ⟨stop, raised⟩ := @dispatch_raises state _ unusable
      refine ⟨stop, ?_⟩
      rw [outcome_callToolBuiltin_picked budget names, outcome_bind, raised]
    · have unknown :
          (keywords.any fun entry =>
            decide (entry.1 ≠ "tool" ∧ entry.1 ≠ "arguments")) = true := by
        rw [List.any_eq_true]
        by_contra none
        apply names
        intro entry among
        by_contra other
        apply none
        refine ⟨entry, among, ?_⟩
        simpa [not_or] using other
      unfold callToolBuiltin
      rw [outcome_bind, outcome_get]
      simp only [ge_iff_le, Nat.not_le.mpr budget, if_false, unknown, if_true]
      exact ⟨_, rfl⟩
  · unfold callToolBuiltin
    rw [outcome_bind, outcome_get]
    simp only [ge_iff_le, Nat.not_lt.mp budget, if_true]
    exact ⟨_, rfl⟩

/-- A call that passes the checks makes one invocation. -/
theorem callToolBuiltin_invokes {positional : List PyValue}
    {keywords : Dict String PyValue}
    (accepted : Accepted runtime state positional keywords) :
    (outcome (callToolBuiltin runtime positional keywords)
        state).2.invocations =
      state.invocations ++
        [pickedInvocation (pickedArguments positional keywords)] := by
  obtain ⟨budget, names, usable⟩ := accepted
  rw [outcome_callToolBuiltin_picked budget names, outcome_bind,
    outcome_dispatch usable]
  exact (invocations_invokeTool runtime _ state).1

omit [PythonArithmetic] in
/-- What Python binds in a call that passes the checks. -/
theorem binds_picked_iff {positional : List PyValue}
    {named : List (String × PyValue)}
    (accepted : Accepted runtime state positional (keywordDict named)) :
    (∃ tool arguments,
      bindCallTool positional named = some (tool, arguments) ∧
        (pickedInvocation (pickedArguments positional
          (keywordDict named))).passes tool arguments) ↔
      PlainValues named positional := by
  obtain ⟨budget, names, accepts⟩ := accepted
  rw [names_of_accepted] at names
  unfold usable at accepts
  rcases positional with _ | ⟨tool, _ | ⟨arguments, _ | ⟨more, rest⟩⟩⟩
  · simp only [pickedArguments, PlainValues] at accepts ⊢
    unfold bindCallTool
    simp only
    constructor
    · rintro ⟨tool, arguments, bound, passes⟩
      split at bound
      · rename_i both
        exact both.1
      · cases bound
    · intro distinct
      rw [if_pos ⟨distinct, names⟩]
      split at accepts
      · rename_i name chosen
        obtain ⟨toolChosen, argumentsChosen⟩ := Prod.mk.inj chosen
        simp only [toolChosen, argumentsChosen]
        exact ⟨_, _, rfl, rfl, .inr ⟨rfl, rfl⟩⟩
      · rename_i name chosen
        obtain ⟨toolChosen, argumentsChosen⟩ := Prod.mk.inj chosen
        simp only [toolChosen, argumentsChosen]
        exact ⟨_, _, rfl, rfl, .inr ⟨rfl, rfl⟩⟩
      · rename_i name entries chosen
        obtain ⟨toolChosen, argumentsChosen⟩ := Prod.mk.inj chosen
        simp only [toolChosen, argumentsChosen]
        exact ⟨_, _, rfl, rfl, .inl rfl⟩
      · cases accepts
  · obtain ⟨name, rfl⟩ := usable_alone accepts
    rcases named with _ | ⟨⟨keyword, given⟩, _ | ⟨second, others⟩⟩
    · simp only [PlainValues, true_or, iff_true]
      exact ⟨_, _, rfl, rfl, .inr ⟨rfl, rfl⟩⟩
    · simp only [PlainValues, List.cons_ne_nil, false_or, List.cons.injEq,
        Prod.mk.injEq, and_true]
      constructor
      · rintro ⟨tool, arguments, bound, passes⟩
        have binds :
            bindCallTool [.str name] [(keyword, given)] =
              if keyword = "arguments" then some (.str name, given)
              else none := rfl
        rw [binds] at bound
        split at bound
        · rename_i isArguments
          cases bound
          rcases passes.2 with object | ⟨absent, empty⟩
          · exact .inr ⟨isArguments, object⟩
          · exact .inl ⟨isArguments, absent⟩
        · cases bound
      · rintro (⟨rfl, rfl⟩ | ⟨rfl, rfl⟩)
        · exact ⟨_, _, rfl, rfl, .inr ⟨rfl, rfl⟩⟩
        · exact ⟨_, _, rfl, rfl, .inl rfl⟩
    · simp [PlainValues, bindCallTool]
  · obtain ⟨name, rfl, kinds⟩ := usable_both accepts
    cases named with
    | nil =>
        simp only [PlainValues, iff_true]
        rcases kinds with rfl | ⟨entries, rfl⟩
        · exact ⟨_, _, rfl, rfl, .inr ⟨rfl, rfl⟩⟩
        · exact ⟨_, _, rfl, rfl, .inl rfl⟩
    | cons keyword rest =>
        simp [PlainValues, bindCallTool]
  · simp [PlainValues, bindCallTool]

theorem outcome_call_evaluated {functionName : String} {args : List Expr}
    {keywords : List (Option String × Expr)} {positional : List PyValue}
    {named : List (String × PyValue)} {before between : ProgramState}
    (evaluated :
      outcome (evalExpressions runtime args) before =
        (.ok positional, between))
    (evaluatedKeywords :
      outcome (evalKeywords runtime keywords) between = (.ok named, state)) :
    outcome (evalExpression runtime (.call (.name functionName) args keywords))
        before =
      outcome
        (applyFunction runtime functionName positional (keywordDict named))
        state := by
  simp only [evalExpression, outcome_bind, evaluated, evaluatedKeywords]

/-- A call gets to the invoker as it is written, or not at all, exactly when
the checks of `call_tool` let no call through that leaves an argument out. -/
theorem respects_iff {args : List Expr}
    {keywords : List (Option String × Expr)} {positional : List PyValue}
    {named : List (String × PyValue)} {before between : ProgramState}
    (evaluated :
      outcome (evalExpressions runtime args) before =
        (.ok positional, between))
    (evaluatedKeywords :
      outcome (evalKeywords runtime keywords) between = (.ok named, state)) :
    Respects keywords positional named state
        (outcome
          (evalExpression runtime (.call (.name "call_tool") args keywords))
          before) ↔
      (Accepted runtime state positional (keywordDict named) →
        Plain keywords positional named) := by
  have called :
      outcome
          (evalExpression runtime (.call (.name "call_tool") args keywords))
          before =
        outcome (callToolBuiltin runtime positional (keywordDict named))
          state :=
    outcome_call_evaluated evaluated evaluatedKeywords
  rw [called]
  by_cases accepted : Accepted runtime state positional (keywordDict named)
  · have invokes := callToolBuiltin_invokes accepted
    have binds := binds_picked_iff accepted
    constructor
    · rintro (⟨invocation, tool, arguments, appended, noMapping, bound,
        passes⟩ | ⟨same, raised⟩) _
      · rw [invokes] at appended
        have picked := List.append_cancel_left appended
        injection picked with picked
        rw [← picked] at passes
        exact ⟨noMapping, binds.mp ⟨tool, arguments, bound, passes⟩⟩
      · rw [invokes] at same
        simp at same
    · intro plain
      obtain ⟨noMapping, written⟩ := plain accepted
      obtain ⟨tool, arguments, bound, passes⟩ := binds.mpr written
      exact .inl ⟨_, tool, arguments, invokes, noMapping, bound, passes⟩
  · obtain ⟨stop, raised⟩ := callToolBuiltin_refuses accepted
    simp only [accepted, false_implies, iff_true]
    right
    rw [raised]
    exact ⟨rfl, stop, rfl⟩

end Runtime

section Integers

open scoped Integers

/-- A lone tool name beside the `arguments` keyword. -/
def mixedCall : Expr :=
  .call (.name "call_tool") [.constant (.str "t")]
    [(some "arguments", .dict [(.constant (.str "k"), .constant (.int 1))])]

def silentRuntime : ToolProgramRuntime where
  toolInvoker _ _ := .result {}

/-- The arguments of a call with both keywords reach the tool. -/
theorem respects_keywords :
    Respects [(some "tool", .constant (.str "t")), (some "arguments", .dict [])]
      [] [("tool", .str "t"), ("arguments", .dict [])] {}
      (outcome
        (evalExpression silentRuntime
          (.call (.name "call_tool") []
            [(some "tool", .constant (.str "t")),
              (some "arguments", .dict [])])) {}) := by
  refine (respects_iff rfl rfl).mpr fun _ => ⟨?_, ?_⟩
  · simp
  · simp [PlainValues]

/-- Beside a positional tool name, the `arguments` keyword is dropped. -/
theorem mixed_call_drops_arguments :
    ¬ Respects
      [(some "arguments", .dict [(.constant (.str "k"), .constant (.int 1))])]
      [.str "t"] [("arguments", .dict [("k", .int 1)])] {}
      (outcome (evalExpression silentRuntime mixedCall) {}) := by
  rintro (⟨invocation, tool, arguments, appended, noMapping, bound, passes⟩ |
    ⟨same, raised⟩)
  · cases appended
    cases bound
    rcases passes.2 with object | ⟨absent, empty⟩
    · cases object
    · cases absent
  · cases same

end Integers

end ToolboxMcp
