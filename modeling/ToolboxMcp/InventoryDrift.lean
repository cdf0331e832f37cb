import ToolboxMcp.KeyOrder
import ToolboxMcp.Service.Lifecycle

/-!
# Exact drift detection

Three notions of equality of inventories: the inventory hash, the diff by names
and tool hashes, and being the same set of tools.  They coincide as far as the
digest keeps apart what is hashed.  Objects are compared up to the order of
their keys, which `canonical` sorts.
-/

namespace ToolboxMcp

open Effect

/-! ## Inventories up to the order of keys -/

/-- The inventories are the same set of tools. -/
def SameTools (left right : List ToolSchema) : Prop :=
  ∀ tool, tool ∈ left.map ToolSchema.canonical ↔
    tool ∈ right.map ToolSchema.canonical

/-! ## What is hashed -/

def toolPayload (tool : ToolSchema) : Json :=
  .obj
    [("name", .str tool.name),
     ("title", .ofStr? tool.title),
     ("description", .ofStr? tool.description),
     ("input_schema", tool.inputSchema),
     ("output_schema", tool.outputSchema.getD .null)]

def entryPayload (tool : ToolSchema) : Json :=
  .obj
    [("name", .str tool.name),
     ("title", .ofStr? tool.title),
     ("description", .ofStr? tool.description),
     ("input_schema", tool.inputSchema),
     ("output_schema", tool.outputSchema.getD .null),
     ("tool_hash", .str tool.toolHash)]

def inventoryPayload (tools : List ToolSchema) : Json :=
  .arr ((sortTools tools).map entryPayload)

/-- Everything hashed for an inventory. -/
def hashedPayloads (tools : List ToolSchema) : List Json :=
  inventoryPayload tools :: tools.map toolPayload

theorem canonical_eq_null {value : Json}
    (null : value.canonical = .null) : value = .null := by
  cases value with
  | null => rfl
  | bool value => cases null
  | num value => cases null
  | str value => cases null
  | arr items => cases null
  | obj fields => cases null

theorem ofStr?_of_canonical {text other : Option String}
    (same : (Json.ofStr? text).canonical = (Json.ofStr? other).canonical) :
    text = other := by
  cases text with
  | none =>
      cases other with
      | none => rfl
      | some text => cases same
  | some text =>
      cases other with
      | none => cases same
      | some other =>
          simp only [Json.ofStr?, Json.canonical, Json.str.injEq] at same
          rw [same]

theorem output_of_canonical {schema other : Option Json}
    (present : schema ≠ some .null) (otherPresent : other ≠ some .null)
    (same :
      (schema.getD .null).canonical = (other.getD .null).canonical) :
    schema.map Json.canonical = other.map Json.canonical := by
  cases schema with
  | none =>
      cases other with
      | none => rfl
      | some other =>
          exact absurd (congrArg some (canonical_eq_null same.symm))
            otherPresent
  | some schema =>
      cases other with
      | none => exact absurd (congrArg some (canonical_eq_null same)) present
      | some other => exact congrArg some same

theorem output_getD_canonical (schema : Option Json) :
    (schema.getD .null).canonical =
      (schema.map Json.canonical).getD .null := by
  cases schema with
  | none => rfl
  | some schema => rfl

/-- The fields that both payloads of a tool share. -/
theorem fields_of_canonical {tool other : ToolSchema}
    {rest otherRest : List (String × Json)}
    (apart : ∀ name ∈ otherRest.map Prod.fst, name = "tool_hash")
    (present : tool.outputSchema ≠ some .null)
    (otherPresent : other.outputSchema ≠ some .null)
    (same :
      (Json.obj
          (("name", .str tool.name) :: ("title", .ofStr? tool.title) ::
            ("description", .ofStr? tool.description) ::
            ("input_schema", tool.inputSchema) ::
            ("output_schema", tool.outputSchema.getD .null) ::
            rest)).canonical =
        (Json.obj
          (("name", .str other.name) :: ("title", .ofStr? other.title) ::
            ("description", .ofStr? other.description) ::
            ("input_schema", other.inputSchema) ::
            ("output_schema", other.outputSchema.getD .null) ::
            otherRest)).canonical) :
    tool.name = other.name ∧ tool.title = other.title ∧
      tool.description = other.description ∧
      tool.inputSchema.canonical = other.inputSchema.canonical ∧
      tool.outputSchema.map Json.canonical =
        other.outputSchema.map Json.canonical := by
  have elsewhere : ∀ name found, name ≠ "tool_hash" →
      (name, found) ∉ otherRest := by
    intro name found different member
    exact different (apart name (List.mem_map_of_mem member))
  obtain ⟨name, nameIn, names⟩ :=
    mem_of_canonical_eq same
      (show ("name", Json.str tool.name) ∈ _ by simp)
  obtain ⟨title, titleIn, titles⟩ :=
    mem_of_canonical_eq same
      (show ("title", Json.ofStr? tool.title) ∈ _ by simp)
  obtain ⟨description, descriptionIn, descriptions⟩ :=
    mem_of_canonical_eq same
      (show ("description", Json.ofStr? tool.description) ∈ _ by simp)
  obtain ⟨input, inputIn, inputs⟩ :=
    mem_of_canonical_eq same
      (show ("input_schema", tool.inputSchema) ∈ _ by simp)
  obtain ⟨output, outputIn, outputs⟩ :=
    mem_of_canonical_eq same
      (show ("output_schema", tool.outputSchema.getD .null) ∈ _ by simp)
  simp [elsewhere] at nameIn titleIn descriptionIn inputIn outputIn
  subst nameIn titleIn descriptionIn inputIn outputIn
  simp only [Json.canonical, Json.str.injEq] at names
  exact ⟨names.symm, (ofStr?_of_canonical titles).symm,
    (ofStr?_of_canonical descriptions).symm, inputs.symm,
    (output_of_canonical otherPresent present outputs).symm⟩

/-- The tool without its hash. -/
def ToolSchema.unhashed (tool : ToolSchema) : ToolSchema :=
  { tool.canonical with toolHash := "" }

theorem unhashed_eq_iff {tool other : ToolSchema} :
    tool.unhashed = other.unhashed ↔
      tool.name = other.name ∧ tool.title = other.title ∧
        tool.description = other.description ∧
        tool.inputSchema.canonical = other.inputSchema.canonical ∧
        tool.outputSchema.map Json.canonical =
          other.outputSchema.map Json.canonical := by
  simp [ToolSchema.unhashed, ToolSchema.canonical]

theorem canonical_eq_iff {tool other : ToolSchema} :
    tool.canonical = other.canonical ↔
      tool.unhashed = other.unhashed ∧ tool.toolHash = other.toolHash := by
  rw [unhashed_eq_iff]
  simp [ToolSchema.canonical, and_assoc]

theorem name_of_canonical {tool other : ToolSchema}
    (same : tool.canonical = other.canonical) : tool.name = other.name :=
  (unhashed_eq_iff.mp (canonical_eq_iff.mp same).1).1

theorem toolPayload_canonical_iff {tool other : ToolSchema}
    (present : tool.outputSchema ≠ some .null)
    (otherPresent : other.outputSchema ≠ some .null) :
    (toolPayload tool).canonical = (toolPayload other).canonical ↔
      tool.unhashed = other.unhashed := by
  rw [unhashed_eq_iff]
  constructor
  · exact fields_of_canonical (by simp) present otherPresent
  · rintro ⟨name, title, description, input, output⟩
    simp only [toolPayload, Json.canonical, canonicalFields,
      output_getD_canonical, name, title, description, input, output]

/-- Up to the order of keys, an entry of the inventory is its tool. -/
theorem entryPayload_canonical_iff {tool other : ToolSchema}
    (present : tool.outputSchema ≠ some .null)
    (otherPresent : other.outputSchema ≠ some .null) :
    (entryPayload tool).canonical = (entryPayload other).canonical ↔
      tool.canonical = other.canonical := by
  rw [canonical_eq_iff]
  constructor
  · intro same
    refine ⟨unhashed_eq_iff.mpr
      (fields_of_canonical (by simp) present otherPresent same), ?_⟩
    obtain ⟨hash, among, hashes⟩ :=
      mem_of_canonical_eq same
        (show ("tool_hash", Json.str tool.toolHash) ∈ _ by simp)
    simp at among
    subst among
    simp only [Json.canonical, Json.str.injEq] at hashes
    exact hashes.symm
  · rintro ⟨unhashed, hash⟩
    obtain ⟨name, title, description, input, output⟩ :=
      unhashed_eq_iff.mp unhashed
    simp only [entryPayload, Json.canonical, canonicalFields,
      output_getD_canonical, name, title, description, input, output, hash]

theorem nodup_of_duplicateNames {names : List String}
    (unique : (duplicateNames names).isEmpty = true) : names.Nodup := by
  rw [List.nodup_iff_count_le_one]
  intro name
  by_contra many
  have member : name ∈ duplicateNames names := by
    unfold duplicateNames sortNames
    rw [List.mem_insertionSort, List.mem_filter, List.mem_dedup,
      ← List.one_le_count_iff]
    constructor
    · omega
    · simpa using many
  rw [List.isEmpty_iff.mp unique] at member
  cases member

section Hashing

variable [Platform]

theorem inventoryHash_eq (tools : List ToolSchema) :
    inventoryHash tools = sha256 (inventoryPayload tools) :=
  rfl

/-- Among these payloads, the hash tells apart exactly what differs by more
than the order of keys. -/
def DigestFaithful (payloads : List Json) : Prop :=
  ∀ left ∈ payloads, ∀ right ∈ payloads,
    sha256 left = sha256 right ↔ left.canonical = right.canonical

/-- The schemas of the library's `Tool` are objects. -/
structure Tool.Typed (tool : Tool) : Prop where
  input : ∃ fields, tool.inputSchema = .obj fields
  output : ∀ schema, tool.outputSchema = some schema →
    ∃ fields, schema = .obj fields

/-- An inventory as `validate_tool_inventory` returns it. -/
structure Inventory (tools : List ToolSchema) : Prop where
  distinct : (tools.map ToolSchema.name).Nodup
  hashed : ∀ tool ∈ tools, tool.toolHash = sha256 (toolPayload tool)
  output : ∀ tool ∈ tools, tool.outputSchema ≠ some .null

theorem hashed_normalizeTool {tool : Tool} (typed : tool.Typed) :
    (normalizeTool tool).toolHash =
        sha256 (toolPayload (normalizeTool tool)) ∧
      (normalizeTool tool).outputSchema ≠ some .null := by
  obtain ⟨fields, input⟩ := typed.input
  constructor
  · simp [normalizeTool, toolPayload, input, Json.orEmpty]
  · intro null
    obtain ⟨fields, object⟩ := typed.output .null null
    cases object

theorem inventory_of_validate {ns : Namespace} {tools : List Tool}
    {normalized : List ToolSchema}
    (typed : ∀ tool ∈ tools, tool.Typed)
    (validated : validateToolInventory ns tools = .ok normalized) :
    Inventory normalized := by
  unfold validateToolInventory at validated
  simp only at validated
  split at validated
  · rename_i unique
    cases validated
    have perm := List.perm_insertionSort
      (fun left right : ToolSchema => left.name ≤ right.name)
      (tools.map normalizeTool)
    have normalizes : ∀ tool ∈ sortTools (tools.map normalizeTool),
        ∃ listed ∈ tools, normalizeTool listed = tool := by
      intro tool member
      rw [sortTools, perm.mem_iff] at member
      exact List.mem_map.mp member
    refine ⟨?_, ?_, ?_⟩
    · rw [sortTools, (perm.map ToolSchema.name).nodup_iff, List.map_map]
      exact nodup_of_duplicateNames unique
    · intro tool member
      obtain ⟨listed, among, rfl⟩ := normalizes tool member
      exact (hashed_normalizeTool (typed listed among)).1
    · intro tool member
      obtain ⟨listed, among, rfl⟩ := normalizes tool member
      exact (hashed_normalizeTool (typed listed among)).2
  · cases validated

end Hashing

/-! ## Sorted inventories -/

section Sorting

/-- Tools are sorted by their names. -/
abbrev byName (left right : ToolSchema) : Prop :=
  left.name ≤ right.name

instance : Std.Total byName where
  total left right := le_total left.name right.name

instance : IsTrans ToolSchema byName where
  trans _ _ _ := le_trans

theorem sortTools_eq (tools : List ToolSchema) :
    sortTools tools = tools.insertionSort byName :=
  rfl

theorem mem_sortTools {tool : ToolSchema} {tools : List ToolSchema} :
    tool ∈ sortTools tools ↔ tool ∈ tools := by
  rw [sortTools_eq, List.mem_insertionSort]

theorem sortTools_perm {left right : List ToolSchema}
    (distinct : (left.map ToolSchema.name).Nodup)
    (perm : left.Perm right) : sortTools left = sortTools right := by
  have sorted :
      (sortTools left).Perm (sortTools right) :=
    (List.perm_insertionSort _ left).trans
      (perm.trans (List.perm_insertionSort _ right).symm)
  refine List.Perm.eq_of_pairwise ?_
    (List.pairwise_insertionSort byName left)
    (List.pairwise_insertionSort byName right) sorted
  intro tool other member otherMember below above
  rw [mem_sortTools] at member otherMember
  exact List.inj_on_of_nodup_map distinct member
    (perm.mem_iff.mpr otherMember) (le_antisymm below above)

theorem map_canonical_sortTools (tools : List ToolSchema) :
    (sortTools tools).map ToolSchema.canonical =
      sortTools (tools.map ToolSchema.canonical) :=
  List.map_insertionSort byName byName ToolSchema.canonical tools
    fun _ _ _ _ => Iff.rfl

theorem names_canonical (tools : List ToolSchema) :
    (tools.map ToolSchema.canonical).map ToolSchema.name =
      tools.map ToolSchema.name := by
  rw [List.map_map]
  rfl

theorem sameTools_iff_sorted {left right : List ToolSchema}
    (distinct : (left.map ToolSchema.name).Nodup)
    (otherDistinct : (right.map ToolSchema.name).Nodup) :
    (sortTools left).map ToolSchema.canonical =
        (sortTools right).map ToolSchema.canonical ↔
      SameTools left right := by
  rw [map_canonical_sortTools, map_canonical_sortTools]
  rw [← names_canonical left] at distinct
  rw [← names_canonical right] at otherDistinct
  constructor
  · intro same tool
    rw [← mem_sortTools, same, mem_sortTools]
  · intro same
    exact sortTools_perm distinct
      ((List.perm_ext_iff_of_nodup distinct.of_map
        otherDistinct.of_map).mpr same)

theorem map_eq_map_iff {α β γ : Type} {f : α → β} {g : α → γ}
    (left : List α) :
    ∀ right : List α,
      (∀ a ∈ left, ∀ b ∈ right, f a = f b ↔ g a = g b) →
      (left.map f = right.map f ↔ left.map g = right.map g) := by
  induction left with
  | nil =>
      intro right alike
      cases right with
      | nil => simp
      | cons b right => simp
  | cons a left inductionHypothesis =>
      intro right alike
      cases right with
      | nil => simp
      | cons b right =>
          simp only [List.map_cons, List.cons.injEq]
          rw [alike a List.mem_cons_self b List.mem_cons_self,
            inductionHypothesis right fun a member b other =>
              alike a (List.mem_cons_of_mem _ member) b
                (List.mem_cons_of_mem _ other)]

theorem mem_sortNames {name : String} {names : List String} :
    name ∈ sortNames names ↔ name ∈ names := by
  rw [sortNames, List.mem_insertionSort]

theorem sortNames_sorted (names : List String) :
    (sortNames names).Pairwise (· ≤ ·) :=
  List.pairwise_insertionSort (· ≤ ·) names

theorem sortNames_nodup {names : List String} (nodup : names.Nodup) :
    (sortNames names).Nodup :=
  (List.perm_insertionSort _ names).nodup_iff.mpr nodup

theorem sorted_eq_of_mem_iff {names other : List String}
    (sorted : names.Pairwise (· ≤ ·)) (otherSorted : other.Pairwise (· ≤ ·))
    (nodup : names.Nodup) (otherNodup : other.Nodup)
    (same : ∀ name, name ∈ names ↔ name ∈ other) : names = other :=
  List.Perm.eq_of_pairwise (fun _ _ _ _ => le_antisymm) sorted otherSorted
    ((List.perm_ext_iff_of_nodup nodup otherNodup).mpr same)

/-- In an inventory, a name stands for one tool. -/
theorem toolNamed_eq_some_iff {tools : List ToolSchema}
    (distinct : (tools.map ToolSchema.name).Nodup) {name : String}
    {tool : ToolSchema} :
    toolNamed name tools = some tool ↔ tool ∈ tools ∧ tool.name = name := by
  unfold toolNamed
  constructor
  · intro found
    exact ⟨List.mem_reverse.mp (List.mem_of_find?_eq_some found), by
      simpa using List.find?_some found⟩
  · rintro ⟨member, rfl⟩
    cases found : tools.reverse.find? fun other => other.name = tool.name with
    | none =>
        have absent :=
          List.find?_eq_none.mp found tool (List.mem_reverse.mpr member)
        simp at absent
    | some other =>
        have named : other.name = tool.name := by
          simpa using List.find?_some found
        have among : other ∈ tools :=
          List.mem_reverse.mp (List.mem_of_find?_eq_some found)
        rw [List.inj_on_of_nodup_map distinct among member named]

end Sorting

/-- Whatever the first part does. -/
theorem wp_after {α β : Type} {first : ServiceM α} {next : α → ServiceM β}
    {post : β → World → Prop} {world : World}
    (rest : ∀ value middle,
      wp (next value) post (fun _ _ => True) middle) :
    wp (first >>= next) post (fun _ _ => True) world := by
  rw [wp_bind]
  exact wp_mono (wp_any first world) (fun value middle _ => rest value middle)
    fun _ _ _ => trivial

theorem recordHealthObservation_status (ns : Namespace)
    (status : HealthStatus) (observedSchemaHash : Option String)
    (observedToolCount : Option Nat) (error : Option ErrorInfo)
    (world : World) :
    wp (recordHealthObservation ns status observedSchemaHash
        observedToolCount error)
      (fun result _ => result.status = status) (fun _ _ => True) world := by
  unfold recordHealthObservation
  refine wp_after fun current middle => ?_
  split
  · trivial
  · refine wp_after fun now middle => ?_
    refine wp_after fun _ middle => ?_
    rfl

theorem reportUnhealthy_status (ns : Namespace) (scope : Option Scope)
    (record : ToolsetRecord) (status : HealthStatus)
    (code message staleReason : String) (drift : List (String × Json))
    (observed : Option (String × Nat)) (world : World) :
    wp (reportUnhealthy ns scope record status code message staleReason drift
        observed)
      (fun progress _ =>
        ∃ result, progress = .left [.checked result] ∧
          result.status = status)
      (fun _ _ => True) world := by
  unfold reportUnhealthy
  refine wp_after fun error middle => ?_
  rw [wp_bind]
  refine wp_mono (recordHealthObservation_status ns status _ _ error middle)
    ?_ fun _ _ _ => trivial
  intro result after reported
  refine wp_after fun _ middle => ?_
  exact ⟨result, rfl, reported⟩

/-! ## The three notions of equality -/

section Drift

variable [Platform] {left right : List ToolSchema}

theorem inventoryHash_perm (inventory : Inventory left)
    (perm : right.Perm left) : inventoryHash right = inventoryHash left := by
  rw [inventoryHash_eq, inventoryHash_eq, inventoryPayload, inventoryPayload,
    sortTools_perm inventory.distinct perm.symm]

theorem inventoryPayload_canonical_iff (inventory : Inventory left)
    (other : Inventory right) :
    (inventoryPayload left).canonical = (inventoryPayload right).canonical ↔
      SameTools left right := by
  rw [← sameTools_iff_sorted inventory.distinct other.distinct]
  simp only [inventoryPayload, Json.canonical, Json.arr.injEq,
    canonicalItems_eq_map, List.map_map]
  apply map_eq_map_iff
  intro tool member found among
  exact entryPayload_canonical_iff
    (inventory.output tool (mem_sortTools.mp member))
    (other.output found (mem_sortTools.mp among))

theorem inventoryHash_eq_iff (inventory : Inventory left)
    (other : Inventory right)
    (faithful :
      DigestFaithful (hashedPayloads left ++ hashedPayloads right)) :
    inventoryHash left = inventoryHash right ↔ SameTools left right := by
  rw [inventoryHash_eq, inventoryHash_eq,
    ← inventoryPayload_canonical_iff inventory other]
  exact faithful _ (by simp [hashedPayloads]) _ (by simp [hashedPayloads])

/-- Tools with the same hash are the same, and conversely. -/
theorem toolHash_eq_iff (inventory : Inventory left)
    (other : Inventory right)
    (faithful :
      DigestFaithful (hashedPayloads left ++ hashedPayloads right))
    {tool found : ToolSchema} (member : tool ∈ left) (among : found ∈ right) :
    tool.toolHash = found.toolHash ↔ tool.canonical = found.canonical := by
  have hashes :
      tool.toolHash = found.toolHash ↔ tool.unhashed = found.unhashed := by
    rw [inventory.hashed tool member, other.hashed found among,
      ← toolPayload_canonical_iff (inventory.output tool member)
        (other.output found among)]
    apply faithful
    · exact List.mem_append_left _
        (List.mem_cons_of_mem _ (List.mem_map_of_mem member))
    · exact List.mem_append_right _
        (List.mem_cons_of_mem _ (List.mem_map_of_mem among))
  rw [canonical_eq_iff, ← hashes, and_self]

theorem mem_addedTools {ns : Namespace} {name : String} :
    name ∈ (diffToolsets ns left right).addedTools ↔
      name ∈ right.map ToolSchema.name ∧
        name ∉ left.map ToolSchema.name := by
  simp only [diffToolsets, mem_sortNames, List.mem_filter, List.mem_dedup,
    decide_eq_true_eq]

theorem mem_removedTools {ns : Namespace} {name : String} :
    name ∈ (diffToolsets ns left right).removedTools ↔
      name ∈ left.map ToolSchema.name ∧
        name ∉ right.map ToolSchema.name := by
  simp only [diffToolsets, mem_sortNames, List.mem_filter, List.mem_dedup,
    decide_eq_true_eq]

theorem mem_changedTools {ns : Namespace} {name : String}
    (distinct : (left.map ToolSchema.name).Nodup)
    (otherDistinct : (right.map ToolSchema.name).Nodup) :
    name ∈ (diffToolsets ns left right).changedTools ↔
      ∃ tool ∈ left, ∃ found ∈ right, tool.name = name ∧
        found.name = name ∧ tool.toolHash ≠ found.toolHash := by
  simp only [diffToolsets, mem_sortNames, List.mem_filter, List.mem_dedup,
    decide_eq_true_eq]
  constructor
  · rintro ⟨here, before, differ⟩
    obtain ⟨found, among, rfl⟩ := List.mem_map.mp here
    obtain ⟨tool, member, named⟩ := List.mem_map.mp before
    rw [(toolNamed_eq_some_iff otherDistinct).mpr ⟨among, rfl⟩,
      (toolNamed_eq_some_iff distinct).mpr ⟨member, named⟩] at differ
    refine ⟨tool, member, found, among, named, rfl, ?_⟩
    intro same
    exact differ (congrArg some same.symm)
  · rintro ⟨tool, member, found, among, named, rfl, differ⟩
    refine ⟨List.mem_map_of_mem among,
      named ▸ List.mem_map_of_mem member, ?_⟩
    rw [(toolNamed_eq_some_iff otherDistinct).mpr ⟨among, rfl⟩,
      (toolNamed_eq_some_iff distinct).mpr ⟨member, named⟩]
    intro same
    exact differ (Option.some.inj same).symm

/-- An empty diff, in all three of its lists. -/
def NoChanges (result : RefreshResult) : Prop :=
  result.addedTools = [] ∧ result.removedTools = [] ∧
    result.changedTools = []

theorem noChanges_iff (inventory : Inventory left) (other : Inventory right)
    (faithful :
      DigestFaithful (hashedPayloads left ++ hashedPayloads right))
    (ns : Namespace) :
    NoChanges (diffToolsets ns left right) ↔ SameTools left right := by
  unfold NoChanges
  simp only [List.eq_nil_iff_forall_not_mem, mem_addedTools,
    mem_removedTools,
    mem_changedTools inventory.distinct other.distinct]
  constructor
  · rintro ⟨added, removed, changed⟩ tool
    -- a tool of either side meets one of its name on the other
    have meets : ∀ kept ∈ left, ∀ found ∈ right, kept.name = found.name →
        kept.canonical = found.canonical := by
      intro kept member found among named
      rw [← toolHash_eq_iff inventory other faithful member among]
      by_contra differ
      exact changed found.name
        ⟨kept, member, found, among, named, rfl, differ⟩
    constructor
    · intro member
      obtain ⟨kept, inLeft, rfl⟩ := List.mem_map.mp member
      have named : kept.name ∈ right.map ToolSchema.name := by
        by_contra absent
        exact removed kept.name ⟨List.mem_map_of_mem inLeft, absent⟩
      obtain ⟨found, among, same⟩ := List.mem_map.mp named
      rw [meets kept inLeft found among same.symm]
      exact List.mem_map_of_mem among
    · intro member
      obtain ⟨found, among, rfl⟩ := List.mem_map.mp member
      have named : found.name ∈ left.map ToolSchema.name := by
        by_contra absent
        exact added found.name ⟨List.mem_map_of_mem among, absent⟩
      obtain ⟨kept, inLeft, same⟩ := List.mem_map.mp named
      rw [← meets kept inLeft found among same]
      exact List.mem_map_of_mem inLeft
  · intro same
    have forward : ∀ kept ∈ left, ∃ found ∈ right,
        found.canonical = kept.canonical := by
      intro kept member
      exact List.mem_map.mp ((same _).mp (List.mem_map_of_mem member))
    have backward : ∀ found ∈ right, ∃ kept ∈ left,
        kept.canonical = found.canonical := by
      intro found among
      exact List.mem_map.mp ((same _).mpr (List.mem_map_of_mem among))
    refine ⟨?_, ?_, ?_⟩
    · rintro name ⟨here, absent⟩
      obtain ⟨found, among, rfl⟩ := List.mem_map.mp here
      obtain ⟨kept, member, alike⟩ := backward found among
      apply absent
      have named : kept.name = found.name :=
        name_of_canonical alike
      rw [← named]
      exact List.mem_map_of_mem member
    · rintro name ⟨before, absent⟩
      obtain ⟨kept, member, rfl⟩ := List.mem_map.mp before
      obtain ⟨found, among, alike⟩ := forward kept member
      apply absent
      have named : found.name = kept.name :=
        name_of_canonical alike
      rw [← named]
      exact List.mem_map_of_mem among
    · rintro name ⟨kept, member, found, among, named, sameName, differ⟩
      obtain ⟨twin, inLeft, alike⟩ := backward found among
      have twinName : twin.name = found.name :=
        name_of_canonical alike
      have same : twin = kept :=
        List.inj_on_of_nodup_map inventory.distinct inLeft member
          (by rw [twinName, sameName, named])
      rw [same] at alike
      exact differ
        ((toolHash_eq_iff inventory other faithful member among).mpr alike)

/-- The names that stand for the same tool on both sides. -/
def Unchanged (left right : List ToolSchema) (name : String) : Prop :=
  ∃ tool ∈ left, ∃ found ∈ right, tool.name = name ∧
    tool.canonical = found.canonical

theorem names_partition (inventory : Inventory left)
    (other : Inventory right)
    (faithful :
      DigestFaithful (hashedPayloads left ++ hashedPayloads right))
    (ns : Namespace) (name : String) :
    name ∈ right.map ToolSchema.name ↔
      name ∈ (diffToolsets ns left right).addedTools ∨
        name ∈ (diffToolsets ns left right).changedTools ∨
          Unchanged left right name := by
  rw [mem_addedTools, mem_changedTools inventory.distinct other.distinct]
  constructor
  · intro here
    by_cases before : name ∈ left.map ToolSchema.name
    · obtain ⟨found, among, rfl⟩ := List.mem_map.mp here
      obtain ⟨tool, member, named⟩ := List.mem_map.mp before
      by_cases same : tool.toolHash = found.toolHash
      · exact .inr (.inr ⟨tool, member, found, among, named,
          (toolHash_eq_iff inventory other faithful member among).mp same⟩)
      · exact .inr (.inl ⟨tool, member, found, among, named, rfl, same⟩)
    · exact .inl ⟨here, before⟩
  · rintro (⟨here, _⟩ | ⟨tool, member, found, among, named, rfl, differ⟩ |
      ⟨tool, member, found, among, rfl, alike⟩)
    · exact here
    · exact List.mem_map_of_mem among
    · have named : found.name = tool.name :=
        name_of_canonical alike.symm
      rw [← named]
      exact List.mem_map_of_mem among

theorem changedTools_swap (inventory : Inventory left)
    (other : Inventory right) (ns : Namespace) :
    (diffToolsets ns right left).changedTools =
      (diffToolsets ns left right).changedTools := by
  apply sorted_eq_of_mem_iff (sortNames_sorted _) (sortNames_sorted _)
    (sortNames_nodup ((List.nodup_dedup _).filter _))
    (sortNames_nodup ((List.nodup_dedup _).filter _))
  intro name
  change name ∈ (diffToolsets ns right left).changedTools ↔
    name ∈ (diffToolsets ns left right).changedTools
  rw [mem_changedTools inventory.distinct other.distinct,
    mem_changedTools other.distinct inventory.distinct]
  constructor
  · rintro ⟨tool, member, found, among, named, sameName, differ⟩
    exact ⟨found, among, tool, member, sameName, named, differ.symm⟩
  · rintro ⟨tool, member, found, among, named, sameName, differ⟩
    exact ⟨found, among, tool, member, sameName, named, differ.symm⟩

/-! ## Health checks -/

/-- The entry of a check that got an answer. -/
theorem probeAnswered_reports (ns : Namespace) (scope : Option Scope)
    {record : ToolsetRecord} {cachedHash : String}
    (cached : record.schemaHash = some cachedHash)
    (observed : List ToolSchema) (world : World) :
    wp (probeAnswered ns scope record observed)
      (fun progress _ =>
        ∃ result, progress = .left [.checked result] ∧
          (result.status = .stale ↔ cachedHash ≠ inventoryHash observed))
      (fun _ _ => True) world := by
  unfold probeAnswered
  by_cases drift : cachedHash ≠ inventoryHash observed
  · have differs :
        record.schemaHash.filter (· ≠ inventoryHash observed) =
          some cachedHash := by
      simp [cached, Option.filter, drift]
    simp only [differs]
    refine wp_mono (reportUnhealthy_status ns scope record _ _ _ _ _ _ world)
      ?_ fun _ _ _ => trivial
    rintro progress after ⟨result, left, status⟩
    exact ⟨result, left, by simp [status, drift]⟩
  · have agrees :
        record.schemaHash.filter (· ≠ inventoryHash observed) = none := by
      simp only [ne_eq, not_not] at drift
      simp [cached, Option.filter, drift]
    simp only [agrees]
    rw [wp_bind]
    refine wp_mono (recordHealthObservation_status ns _ _ _ none world) ?_
      fun _ _ _ => trivial
    intro result after status
    refine wp_after fun _ middle => ?_
    exact ⟨result, rfl, by simp [status, drift]⟩

/-- All that drift detection says about two inventories, the second of which a
runtime answers a health check with. -/
structure ExactDrift (ns : Namespace) (cached observed : List ToolSchema)
    (listed : List Tool) : Prop where
  permuted :
    ∀ tools, tools.Perm cached → inventoryHash tools = inventoryHash cached
  sameHash :
    inventoryHash cached = inventoryHash observed ↔
      SameTools cached observed
  noChanges :
    NoChanges (diffToolsets ns cached observed) ↔ SameTools cached observed
  added_swap :
    (diffToolsets ns observed cached).addedTools =
      (diffToolsets ns cached observed).removedTools
  removed_swap :
    (diffToolsets ns observed cached).removedTools =
      (diffToolsets ns cached observed).addedTools
  changed_swap :
    (diffToolsets ns observed cached).changedTools =
      (diffToolsets ns cached observed).changedTools
  sorted :
    (diffToolsets ns cached observed).addedTools.Pairwise (· ≤ ·) ∧
      (diffToolsets ns cached observed).removedTools.Pairwise (· ≤ ·) ∧
        (diffToolsets ns cached observed).changedTools.Pairwise (· ≤ ·)
  disjoint :
    (diffToolsets ns cached observed).addedTools.Disjoint
        (diffToolsets ns cached observed).removedTools ∧
      (diffToolsets ns cached observed).addedTools.Disjoint
          (diffToolsets ns cached observed).changedTools ∧
        (diffToolsets ns cached observed).removedTools.Disjoint
          (diffToolsets ns cached observed).changedTools
  names :
    ∀ name, name ∈ observed.map ToolSchema.name ↔
      name ∈ (diffToolsets ns cached observed).addedTools ∨
        name ∈ (diffToolsets ns cached observed).changedTools ∨
          Unchanged cached observed name
  unchanged :
    ∀ name, Unchanged cached observed name →
      name ∉ (diffToolsets ns cached observed).addedTools ∧
        name ∉ (diffToolsets ns cached observed).changedTools
  health :
    ∀ scope record runtime world,
      record.schemaHash = some (inventoryHash cached) →
      wp (resumeProbing ns scope record runtime (.ok listed))
        (fun progress _ =>
          ∃ result, progress = .left [.checked result] ∧
            (result.status = .stale ↔ ¬ SameTools cached observed))
        (fun _ _ => True) world

/-- Drift detection is exact. -/
theorem drift_exact {ns ns' : Namespace} {before listed : List Tool}
    {cached observed : List ToolSchema}
    (typedBefore : ∀ tool ∈ before, tool.Typed)
    (typed : ∀ tool ∈ listed, tool.Typed)
    (validatedBefore : validateToolInventory ns' before = .ok cached)
    (validated : validateToolInventory ns listed = .ok observed)
    (faithful :
      DigestFaithful (hashedPayloads cached ++ hashedPayloads observed)) :
    ExactDrift ns cached observed listed := by
  have inventory := inventory_of_validate typedBefore validatedBefore
  have other := inventory_of_validate typed validated
  have sameHash := inventoryHash_eq_iff inventory other faithful
  exact
    { permuted := fun tools perm => inventoryHash_perm inventory perm
      sameHash := sameHash
      noChanges := noChanges_iff inventory other faithful ns
      added_swap := rfl
      removed_swap := rfl
      changed_swap := changedTools_swap inventory other ns
      sorted :=
        ⟨sortNames_sorted _, sortNames_sorted _, sortNames_sorted _⟩
      disjoint := by
        refine ⟨?_, ?_, ?_⟩
        · intro name added removed
          exact (mem_removedTools.mp removed).2 (mem_addedTools.mp added).1
        · intro name added changed
          obtain ⟨tool, member, found, among, named, _⟩ :=
            (mem_changedTools inventory.distinct other.distinct).mp changed
          exact (mem_addedTools.mp added).2
            (named ▸ List.mem_map_of_mem member)
        · intro name removed changed
          obtain ⟨tool, member, found, among, _, named, _⟩ :=
            (mem_changedTools inventory.distinct other.distinct).mp changed
          exact (mem_removedTools.mp removed).2
            (named ▸ List.mem_map_of_mem among)
      names := names_partition inventory other faithful ns
      unchanged := by
        rintro name ⟨tool, member, found, among, rfl, alike⟩
        refine ⟨?_, ?_⟩
        · intro added
          exact (mem_addedTools.mp added).2 (List.mem_map_of_mem member)
        · intro changed
          obtain ⟨tool', member', found', among', named, sameName, differ⟩ :=
            (mem_changedTools inventory.distinct other.distinct).mp changed
          have sameTool : tool' = tool :=
            List.inj_on_of_nodup_map inventory.distinct member' member named
          have sameFound : found' = found :=
            List.inj_on_of_nodup_map other.distinct among' among
              (by rw [sameName, name_of_canonical alike])
          subst sameTool sameFound
          exact differ
            ((toolHash_eq_iff inventory other faithful member' among').mpr
              alike)
      health := by
        intro scope record runtime world hash
        unfold resumeProbing
        simp only [validated]
        have reports :=
          probeAnswered_reports ns scope hash observed world
        simpa only [ne_eq, sameHash] using reports }

end Drift

section Ascii

open scoped Ascii

/-- What is hashed for the small server before and after its tool is described
is told apart. -/
theorem hashed_ping_faithful :
    DigestFaithful
      (hashedPayloads [normalizeTool Ascii.ping] ++
        hashedPayloads [normalizeTool Ascii.describedPing]) := by
  have digests :
      ((hashedPayloads [normalizeTool Ascii.ping] ++
          hashedPayloads [normalizeTool Ascii.describedPing]).map
        sha256).Nodup := by
    decide +kernel
  have texts :
      ((hashedPayloads [normalizeTool Ascii.ping] ++
          hashedPayloads [normalizeTool Ascii.describedPing]).map
        fun payload => Ascii.dumps payload.canonical).Nodup := by
    decide +kernel
  intro left member right among
  constructor
  · intro same
    rw [List.inj_on_of_nodup_map digests member among same]
  · intro same
    have sameText := congrArg Ascii.dumps same
    rw [List.inj_on_of_nodup_map texts member among sameText]

/-- The description changes the hash of the tool. -/
theorem drift_exact_ping :
    ExactDrift "small" [normalizeTool Ascii.ping]
        [normalizeTool Ascii.describedPing] [Ascii.describedPing] ∧
      (diffToolsets "small" [normalizeTool Ascii.ping]
        [normalizeTool Ascii.describedPing]).changedTools = ["ping"] := by
  refine ⟨@drift_exact _ "small" "small" [Ascii.ping] [Ascii.describedPing]
    _ _ ?_ ?_ rfl rfl hashed_ping_faithful, by decide +kernel⟩
  · intro tool member
    obtain rfl := List.mem_singleton.mp member
    exact ⟨⟨[], rfl⟩, by rintro schema ⟨⟩⟩
  · intro tool member
    obtain rfl := List.mem_singleton.mp member
    exact ⟨⟨[], rfl⟩, by rintro schema ⟨⟩⟩

end Ascii

end ToolboxMcp
