import ToolboxMcp.Program.BatchRuns

/-!
# Redacted values

Two values of one shape have one redaction, which nests as deep as they do, and
of their scalars nothing is left.  Where the keys of a dict are in another
order, so are those of the redaction.
-/

namespace ToolboxMcp

/-! ## The redactor of the service -/

namespace ToolboxService

mutual

/-- `_redacted_argument_value` of the service. -/
def redactedArgumentValue : PyValue → PyValue
  | .none => .none
  | .dict entries => .dict (redactedArgumentEntries entries)
  | .list items => .list (redactedArgumentItems items)
  | .tuple items => .list (redactedArgumentItems items)
  | _ => .str "[redacted]"

def redactedArgumentItems : List PyValue → List PyValue
  | [] => []
  | item :: items =>
      redactedArgumentValue item :: redactedArgumentItems items

def redactedArgumentEntries :
    List (String × PyValue) → List (String × PyValue)
  | [] => []
  | (key, item) :: entries =>
      (key, redactedArgumentValue item) :: redactedArgumentEntries entries

end

mutual

/-- The redactors of the service and of the program runtime agree. -/
theorem redactedArgumentValue_eq : (value : PyValue) →
    redactedArgumentValue value = value.redacted
  | .dict entries =>
      congrArg PyValue.dict (redactedArgumentEntries_eq entries)
  | .list items => congrArg PyValue.list (redactedArgumentItems_eq items)
  | .tuple items => congrArg PyValue.list (redactedArgumentItems_eq items)
  | .none => rfl
  | .bool _ => rfl
  | .int _ => rfl
  | .float _ => rfl
  | .complex _ => rfl
  | .str _ => rfl
  | .bytes _ => rfl
  | .date _ => rfl
  | .object _ _ => rfl

theorem redactedArgumentItems_eq : (items : List PyValue) →
    redactedArgumentItems items = PyValue.redactedItems items
  | [] => rfl
  | item :: items =>
      congrArg₂ List.cons (redactedArgumentValue_eq item)
        (redactedArgumentItems_eq items)

theorem redactedArgumentEntries_eq : (entries : List (String × PyValue)) →
    redactedArgumentEntries entries = PyValue.redactedEntries entries
  | [] => rfl
  | (key, item) :: entries =>
      congrArg₂ List.cons
        (congrArg (Prod.mk key) (redactedArgumentValue_eq item))
        (redactedArgumentEntries_eq entries)

end

end ToolboxService

/-! ## Shapes -/

/-- A scalar other than None. -/
def PyValue.isLeaf : PyValue → Bool
  | .none => false
  | .dict _ => false
  | .list _ => false
  | .tuple _ => false
  | _ => true

def PyValue.elements? : PyValue → Option (List PyValue)
  | .list items => some items
  | .tuple items => some items
  | _ => Option.none

mutual

/-- The same keys, lengths and places of None, at every depth. -/
inductive SameShape : PyValue → PyValue → Prop where
  | none : SameShape .none .none
  | leaf {value other : PyValue} (left : value.isLeaf = true)
      (right : other.isLeaf = true) : SameShape value other
  | sequence {value other : PyValue} {items others : List PyValue}
      (left : value.elements? = some items)
      (right : other.elements? = some others)
      (values : SameShapes items others) : SameShape value other
  | dict {entries others : List (String × PyValue)}
      (values : SameShapeEntries entries others) :
      SameShape (.dict entries) (.dict others)

inductive SameShapes : List PyValue → List PyValue → Prop where
  | nil : SameShapes [] []
  | cons {item other : PyValue} {items others : List PyValue}
      (head : SameShape item other) (tail : SameShapes items others) :
      SameShapes (item :: items) (other :: others)

inductive SameShapeEntries :
    List (String × PyValue) → List (String × PyValue) → Prop where
  | nil : SameShapeEntries [] []
  | cons {key : String} {item other : PyValue}
      {entries others : List (String × PyValue)}
      (head : SameShape item other)
      (tail : SameShapeEntries entries others) :
      SameShapeEntries ((key, item) :: entries) ((key, other) :: others)

end

theorem PyValue.redacted_of_isLeaf {value : PyValue}
    (leaf : value.isLeaf = true) : value.redacted = .str "[redacted]" := by
  cases value with
  | none => cases leaf
  | dict entries => cases leaf
  | list items => cases leaf
  | tuple items => cases leaf
  | _ => rfl

theorem PyValue.redacted_of_elements {value : PyValue}
    {items : List PyValue} (elements : value.elements? = some items) :
    value.redacted = .list (PyValue.redactedItems items) := by
  cases value with
  | list items =>
      cases elements
      rfl
  | tuple items =>
      cases elements
      rfl
  | _ => cases elements

mutual

/-- The redaction is determined by the shape. -/
theorem redacted_of_sameShape : {value other : PyValue} →
    SameShape value other → value.redacted = other.redacted
  | _, _, .none => rfl
  | _, _, .leaf left right => by
      rw [PyValue.redacted_of_isLeaf left, PyValue.redacted_of_isLeaf right]
  | _, _, .sequence left right values => by
      rw [PyValue.redacted_of_elements left,
        PyValue.redacted_of_elements right, redactedItems_of_sameShapes values]
  | _, _, .dict values => by
      simp only [PyValue.redacted, redactedEntries_of_sameShape values]

theorem redactedItems_of_sameShapes : {items others : List PyValue} →
    SameShapes items others →
      PyValue.redactedItems items = PyValue.redactedItems others
  | _, _, .nil => rfl
  | _, _, .cons head tail => by
      simp only [PyValue.redactedItems, redacted_of_sameShape head,
        redactedItems_of_sameShapes tail]

theorem redactedEntries_of_sameShape :
    {entries others : List (String × PyValue)} →
    SameShapeEntries entries others →
      PyValue.redactedEntries entries = PyValue.redactedEntries others
  | _, _, .nil => rfl
  | _, _, .cons head tail => by
      simp only [PyValue.redactedEntries, redacted_of_sameShape head,
        redactedEntries_of_sameShape tail]

end

/-! ## Keys in another order -/

mutual

/-- Equal to Python, which does not compare the order of keys. -/
inductive Reordered : PyValue → PyValue → Prop where
  | same (value : PyValue) : Reordered value value
  | list {items others : List PyValue} (values : Reorderings items others) :
      Reordered (.list items) (.list others)
  | tuple {items others : List PyValue} (values : Reorderings items others) :
      Reordered (.tuple items) (.tuple others)
  | dict {entries middle others : List (String × PyValue)}
      (values : ReorderedEntries entries middle)
      (order : middle.Perm others) :
      Reordered (.dict entries) (.dict others)

inductive Reorderings : List PyValue → List PyValue → Prop where
  | nil : Reorderings [] []
  | cons {item other : PyValue} {items others : List PyValue}
      (head : Reordered item other) (tail : Reorderings items others) :
      Reorderings (item :: items) (other :: others)

inductive ReorderedEntries :
    List (String × PyValue) → List (String × PyValue) → Prop where
  | nil : ReorderedEntries [] []
  | cons {key : String} {item other : PyValue}
      {entries others : List (String × PyValue)}
      (head : Reordered item other)
      (tail : ReorderedEntries entries others) :
      ReorderedEntries ((key, item) :: entries) ((key, other) :: others)

end

def redactedEntry (entry : String × PyValue) : String × PyValue :=
  (entry.1, entry.2.redacted)

theorem redactedEntries_eq_map (entries : List (String × PyValue)) :
    PyValue.redactedEntries entries = entries.map redactedEntry := by
  induction entries with
  | nil => rfl
  | cons entry entries inductionHypothesis =>
      simp only [PyValue.redactedEntries, inductionHypothesis, List.map_cons,
        redactedEntry]

mutual

theorem redacted_of_reordered : {value other : PyValue} →
    Reordered value other → Reordered value.redacted other.redacted
  | _, _, .same _ => .same _
  | _, _, .list values => .list (redactedItems_of_reorderings values)
  | _, _, .tuple values => .list (redactedItems_of_reorderings values)
  | _, _, .dict values order => by
      refine .dict (redactedEntries_of_reordered values) ?_
      rw [redactedEntries_eq_map, redactedEntries_eq_map]
      exact order.map _

theorem redactedItems_of_reorderings : {items others : List PyValue} →
    Reorderings items others →
      Reorderings (PyValue.redactedItems items) (PyValue.redactedItems others)
  | _, _, .nil => .nil
  | _, _, .cons head tail =>
      .cons (redacted_of_reordered head) (redactedItems_of_reorderings tail)

theorem redactedEntries_of_reordered :
    {entries others : List (String × PyValue)} →
    ReorderedEntries entries others →
      ReorderedEntries (PyValue.redactedEntries entries)
        (PyValue.redactedEntries others)
  | _, _, .nil => .nil
  | _, _, .cons head tail =>
      .cons (redacted_of_reordered head) (redactedEntries_of_reordered tail)

end

/-! ## Depth -/

namespace PyValue

mutual

/-- Redaction keeps the depth. -/
theorem depth_redacted : (value : PyValue) →
    value.redacted.depth = value.depth
  | .dict entries =>
      congrArg Nat.succ (depth_redactedEntries entries)
  | .list items => congrArg Nat.succ (depth_redactedItems items)
  | .tuple items => congrArg Nat.succ (depth_redactedItems items)
  | .none => rfl
  | .bool _ => rfl
  | .int _ => rfl
  | .float _ => rfl
  | .complex _ => rfl
  | .str _ => rfl
  | .bytes _ => rfl
  | .date _ => rfl
  | .object _ _ => rfl

theorem depth_redactedItems : (items : List PyValue) →
    depthOfItems (redactedItems items) = depthOfItems items
  | [] => rfl
  | item :: items => by
      simp only [redactedItems, depthOfItems, depth_redacted item,
        depth_redactedItems items]

theorem depth_redactedEntries : (entries : List (String × PyValue)) →
    depthOfEntries (redactedEntries entries) = depthOfEntries entries
  | [] => rfl
  | (key, item) :: entries => by
      simp only [redactedEntries, depthOfEntries, depth_redacted item,
        depth_redactedEntries entries]

end

theorem depthOfEntries_of_perm {entries others : List (String × PyValue)}
    (order : entries.Perm others) :
    depthOfEntries entries = depthOfEntries others := by
  induction order with
  | nil => rfl
  | cons entry _ inductionHypothesis =>
      simp only [depthOfEntries, inductionHypothesis]
  | swap first second rest =>
      simp only [depthOfEntries]
      exact Nat.max_left_comm _ _ _
  | trans _ _ first second => exact first.trans second

end PyValue

mutual

theorem depth_of_reordered : {value other : PyValue} →
    Reordered value other → value.depth = other.depth
  | _, _, .same _ => rfl
  | _, _, .list values => congrArg Nat.succ (depth_of_reorderings values)
  | _, _, .tuple values => congrArg Nat.succ (depth_of_reorderings values)
  | _, _, .dict values order =>
      congrArg Nat.succ
        ((depth_of_reorderedEntries values).trans
          (PyValue.depthOfEntries_of_perm order))

theorem depth_of_reorderings : {items others : List PyValue} →
    Reorderings items others →
      PyValue.depthOfItems items = PyValue.depthOfItems others
  | _, _, .nil => rfl
  | _, _, .cons head tail => by
      simp only [PyValue.depthOfItems, depth_of_reordered head,
        depth_of_reorderings tail]

theorem depth_of_reorderedEntries :
    {entries others : List (String × PyValue)} →
    ReorderedEntries entries others →
      PyValue.depthOfEntries entries = PyValue.depthOfEntries others
  | _, _, .nil => rfl
  | _, _, .cons head tail => by
      simp only [PyValue.depthOfEntries, depth_of_reordered head,
        depth_of_reorderedEntries tail]

end

/-! ## What is left -/

mutual

/-- Nothing but None and the marker is left of scalars. -/
theorem marker_of_within : (value : PyValue) → {inner : PyValue} →
    Within inner value.redacted → inner.isScalar = true →
      inner = .none ∨ inner = .str "[redacted]"
  | .dict entries, inner, within, scalar => by
      unfold PyValue.redacted at within
      cases within with
      | self => cases scalar
      | entry member deeper =>
          exact marker_of_entry entries member deeper scalar
  | .list items, inner, within, scalar => by
      unfold PyValue.redacted at within
      cases within with
      | self => cases scalar
      | item member deeper =>
          exact marker_of_item items member deeper scalar
  | .tuple items, inner, within, scalar => by
      unfold PyValue.redacted at within
      cases within with
      | self => cases scalar
      | item member deeper =>
          exact marker_of_item items member deeper scalar
  | .none, _, .self, _ => .inl rfl
  | .bool _, _, .self, _ => .inr rfl
  | .int _, _, .self, _ => .inr rfl
  | .float _, _, .self, _ => .inr rfl
  | .complex _, _, .self, _ => .inr rfl
  | .str _, _, .self, _ => .inr rfl
  | .bytes _, _, .self, _ => .inr rfl
  | .date _, _, .self, _ => .inr rfl
  | .object _ _, _, .self, _ => .inr rfl

theorem marker_of_item : (items : List PyValue) →
    {value inner : PyValue} → value ∈ PyValue.redactedItems items →
      Within inner value → inner.isScalar = true →
        inner = .none ∨ inner = .str "[redacted]"
  | item :: items, value, inner, member, within, scalar => by
      rcases List.mem_cons.mp member with rfl | later
      · exact marker_of_within item within scalar
      · exact marker_of_item items later within scalar

theorem marker_of_entry : (entries : List (String × PyValue)) →
    {key : String} → {value inner : PyValue} →
      (key, value) ∈ PyValue.redactedEntries entries →
        Within inner value → inner.isScalar = true →
          inner = .none ∨ inner = .str "[redacted]"
  | (name, item) :: entries, key, value, inner, member, within, scalar => by
      rcases List.mem_cons.mp member with same | later
      · cases same
        exact marker_of_within item within scalar
      · exact marker_of_entry entries later within scalar

end

end ToolboxMcp
