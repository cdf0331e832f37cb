import ToolboxMcp.Service.Mirroring

/-!
# Contract inspection

`inspect_*_contracts` and `diff_*_contracts` show the cached snapshot of a
namespace, or the tools its runtime reports, and compare either with the
previous snapshot.  Where the snapshot was taken of the runtime, both sources
show the same contracts.
-/

namespace ToolboxMcp

/-! ## The operations -/

inductive ContractSource where
  | cached
  | mounted
deriving DecidableEq, Repr

structure SchemaShapeSummary where
  rootType : Option String := none
  propertyNames : List String := []
  requiredProperties : List String := []
  propertyCount : Nat := 0
  itemType : Option String := none
  hasAdditionalProperties : Option Bool := none
deriving DecidableEq, Repr

structure ToolContractSummary where
  name : String
  mountedName : Option String := none
  title : Option String := none
  description : Option String := none
  toolHash : Option String := none
  inputSchema : SchemaShapeSummary := {}
  outputSchema : Option SchemaShapeSummary := none
deriving DecidableEq, Repr

structure ContractAvailability where
  registered : Bool := false
  cached : Bool := false
  mounted : Bool := false
  stale : Bool := false
  missing : Bool := false
deriving DecidableEq, Repr

structure ToolsetContractInspection where
  ns : Namespace
  source : ContractSource
  availability : ContractAvailability
  transportState : Option TransportState := none
  staleReason : Option String := none
  schemaHash : Option String := none
  previousSchemaHash : Option String := none
  toolCount : Nat := 0
  capturedAt : Option Time := none
  lastKnownGoodAt : Option Time := none
  tools : List ToolContractSummary := []
deriving Repr

inductive ContractChange where
  | added
  | removed
  | changed
deriving DecidableEq, Repr

structure ToolContractDelta where
  change : ContractChange
  name : String
  mountedName : Option String := none
  previousSummary : Option ToolContractSummary := none
  currentSummary : Option ToolContractSummary := none
deriving DecidableEq, Repr

structure ToolsetContractDiff where
  ns : Namespace
  source : ContractSource
  availability : ContractAvailability
  previousAvailable : Bool := false
  diffAvailable : Bool := false
  transportState : Option TransportState := none
  staleReason : Option String := none
  currentSchemaHash : Option String := none
  previousSchemaHash : Option String := none
  currentToolCount : Nat := 0
  previousToolCount : Nat := 0
  currentCapturedAt : Option Time := none
  previousCapturedAt : Option Time := none
  hasChanges : Bool := false
  addedTools : List String := []
  removedTools : List String := []
  changedTools : List String := []
  changes : List ToolContractDelta := []
deriving Repr

def summarizeSchemaShape : Json → SchemaShapeSummary
  | .obj fields =>
      let properties := (Dict.get "properties" fields).bind Json.obj?
      let required := (Dict.get "required" fields).bind Json.arr?
      let items := (Dict.get "items" fields).bind Json.obj?
      let propertyNames :=
        sortNames ((properties.getD []).map Prod.fst)
      { rootType := (Dict.get "type" fields).bind Json.str?
        propertyNames := propertyNames
        requiredProperties :=
          sortNames ((required.getD []).filterMap Json.str?)
        propertyCount := propertyNames.length
        itemType :=
          (items.bind fun items => Dict.get "type" items).bind Json.str?
        hasAdditionalProperties :=
          (Dict.get "additionalProperties" fields).bind Json.bool? }
  | _ => {}

/-- With a namespace, the summary has a mounted name. -/
def summarizeToolContract (ns : Option Namespace) (tool : ToolSchema) :
    ToolContractSummary where
  name := tool.name
  mountedName := ns.map fun ns => mountedToolName ns tool.name
  title := tool.title
  description := tool.description
  toolHash := some tool.toolHash
  inputSchema := summarizeSchemaShape tool.inputSchema
  outputSchema := tool.outputSchema.map summarizeSchemaShape

/-- `namespace if source == "mounted" else None`. -/
def ContractSource.naming (ns : Namespace) : ContractSource → Option Namespace
  | .cached => none
  | .mounted => some ns

/-- What `_contract_source_details` collects for one source. -/
structure ContractSourceDetails where
  record : Option ToolsetRecord
  hasCached : Bool
  hasMounted : Bool
  sourceAvailable : Bool
  sourceTools : List ToolSchema
  schemaHash : Option String
  capturedAt : Option Time

section Operations

variable [Platform]

def contractSourceDetails (world : World) (ns : Namespace)
    (source : ContractSource) : ContractSourceDetails :=
  let snapshot := world.document.getSchemaSnapshot ns
  let runtime := world.runtimeFor ns
  let mountedTools :=
    match runtime with
    | some runtime => (world.objects runtime).tools.map normalizeTool
    | none => []
  { record := world.record ns
    hasCached := snapshot.isSome
    hasMounted := runtime.isSome
    sourceAvailable :=
      match source with
      | .cached => snapshot.isSome
      | .mounted => runtime.isSome
    sourceTools :=
      match source with
      | .cached => (snapshot.map SchemaSnapshot.tools).getD []
      | .mounted => mountedTools
    schemaHash :=
      match source with
      | .cached => snapshot.map SchemaSnapshot.schemaHash
      -- an empty list is falsy
      | .mounted =>
          if mountedTools.isEmpty then none
          else some (inventoryHash mountedTools)
    capturedAt :=
      match source with
      | .cached => snapshot.map SchemaSnapshot.capturedAt
      | .mounted => none }

def buildContractInspection (world : World) (ns : Namespace)
    (source : ContractSource) : ToolsetContractInspection :=
  let details := contractSourceDetails world ns source
  { ns := ns
    source := source
    availability :=
      { registered := details.record.isSome
        cached := details.hasCached
        mounted := details.hasMounted
        stale := (details.record.map ToolsetRecord.stale).getD false
        missing := !details.sourceAvailable }
    transportState := details.record.map ToolsetRecord.transportState
    staleReason := details.record.bind ToolsetRecord.staleReason
    schemaHash := details.schemaHash
    previousSchemaHash := details.record.bind ToolsetRecord.previousSchemaHash
    toolCount :=
      if details.sourceAvailable then details.sourceTools.length else 0
    capturedAt := details.capturedAt
    lastKnownGoodAt := details.record.bind ToolsetRecord.lastKnownGoodAt
    tools :=
      (if details.sourceAvailable then details.sourceTools else []).map
        (summarizeToolContract (source.naming ns)) }

/-- The entries of a diff.  The names come from the two inventories, so that
the lookups find them. -/
def contractChanges (ns : Namespace) (source : ContractSource)
    (previous current : List ToolSchema) : List ToolContractDelta :=
  let diff := diffToolsets ns previous current
  let mountedName (name : String) :=
    (source.naming ns).map fun ns => mountedToolName ns name
  let previousSummary (name : String) :=
    (toolNamed name previous).map (summarizeToolContract none)
  let currentSummary (name : String) :=
    (toolNamed name current).map (summarizeToolContract (source.naming ns))
  (diff.addedTools.map fun name =>
    { change := .added
      name := name
      mountedName := mountedName name
      currentSummary := currentSummary name }) ++
  (diff.removedTools.map fun name =>
    { change := .removed
      name := name
      mountedName := mountedName name
      previousSummary := previousSummary name }) ++
  (diff.changedTools.map fun name =>
    { change := .changed
      name := name
      mountedName := mountedName name
      previousSummary := previousSummary name
      currentSummary := currentSummary name })

def buildContractDiff (world : World) (ns : Namespace)
    (source : ContractSource) : ToolsetContractDiff :=
  let inspection := buildContractInspection world ns source
  let previousSnapshot := world.document.getPreviousSchemaSnapshot ns
  let previousTools := (previousSnapshot.map SchemaSnapshot.tools).getD []
  let currentTools :=
    if inspection.availability.missing then []
    else (contractSourceDetails world ns source).sourceTools
  let diffAvailable :=
    !inspection.availability.missing && previousSnapshot.isSome
  let diff := diffToolsets ns previousTools currentTools
  let addedTools := if diffAvailable then diff.addedTools else []
  let removedTools := if diffAvailable then diff.removedTools else []
  let changedTools := if diffAvailable then diff.changedTools else []
  { ns := ns
    source := source
    availability := inspection.availability
    previousAvailable := previousSnapshot.isSome
    diffAvailable := diffAvailable
    transportState := inspection.transportState
    staleReason := inspection.staleReason
    currentSchemaHash := inspection.schemaHash
    previousSchemaHash :=
      match previousSnapshot with
      | some snapshot => some snapshot.schemaHash
      | none => inspection.previousSchemaHash
    currentToolCount := inspection.toolCount
    previousToolCount := previousTools.length
    currentCapturedAt := inspection.capturedAt
    previousCapturedAt := previousSnapshot.map SchemaSnapshot.capturedAt
    hasChanges :=
      !(addedTools.isEmpty && removedTools.isEmpty && changedTools.isEmpty)
    addedTools := addedTools
    removedTools := removedTools
    changedTools := changedTools
    changes :=
      if diffAvailable then
        contractChanges ns source previousTools currentTools
      else [] }

/-- Without namespaces, all records or all running runtimes. -/
def ContractSource.selected (world : World)
    (namespaces : Option (List Namespace)) :
    ContractSource → List Namespace
  | .cached => ToolboxMcp.selected world namespaces fun _ => true
  | .mounted =>
      match namespaces with
      | some (first :: rest) => first :: rest
      | _ => world.mountedNamespaces

/-- `inspect_cached_contracts` and `inspect_mounted_contracts`. -/
def inspectContracts (world : World) (source : ContractSource)
    (namespaces : Option (List Namespace)) :
    List ToolsetContractInspection :=
  (source.selected world namespaces).map fun ns =>
    buildContractInspection world ns source

/-- `diff_cached_contracts` and `diff_mounted_contracts`. -/
def diffContracts (world : World) (source : ContractSource)
    (namespaces : Option (List Namespace)) : List ToolsetContractDiff :=
  (source.selected world namespaces).map fun ns =>
    buildContractDiff world ns source

/-- What some inspection answers on the namespace. -/
def Inspects (world : World) (source : ContractSource) (ns : Namespace)
    (entry : ToolsetContractInspection) : Prop :=
  entry.ns = ns ∧ ∃ namespaces, entry ∈ inspectContracts world source namespaces

/-- What some diff answers on the namespace. -/
def Diffs (world : World) (source : ContractSource) (ns : Namespace)
    (entry : ToolsetContractDiff) : Prop :=
  entry.ns = ns ∧ ∃ namespaces, entry ∈ diffContracts world source namespaces

omit [Platform] in
theorem mem_selected_singleton {world : World} {source : ContractSource}
    {ns : Namespace} : ns ∈ source.selected world (some [ns]) := by
  cases source <;> exact List.mem_singleton_self ns

/-- The answer on a namespace does not depend on what else is asked for. -/
theorem inspects_iff {world : World} {source : ContractSource}
    {ns : Namespace} {entry : ToolsetContractInspection} :
    Inspects world source ns entry ↔
      entry = buildContractInspection world ns source := by
  constructor
  · rintro ⟨rfl, namespaces, member⟩
    obtain ⟨_, _, rfl⟩ := List.mem_map.mp member
    rfl
  · rintro rfl
    exact ⟨rfl, some [ns], List.mem_map_of_mem mem_selected_singleton⟩

theorem diffs_iff {world : World} {source : ContractSource}
    {ns : Namespace} {entry : ToolsetContractDiff} :
    Diffs world source ns entry ↔
      entry = buildContractDiff world ns source := by
  constructor
  · rintro ⟨rfl, namespaces, member⟩
    obtain ⟨_, _, rfl⟩ := List.mem_map.mp member
    rfl
  · rintro rfl
    exact ⟨rfl, some [ns], List.mem_map_of_mem mem_selected_singleton⟩

end Operations

/-! ## Inventories in another order -/

section Sorting

variable [Platform]

theorem validateToolInventory_eq_ok {ns : Namespace} {tools : List Tool}
    {normalized : List ToolSchema}
    (validated : validateToolInventory ns tools = .ok normalized) :
    (((tools.map normalizeTool).map ToolSchema.name).Nodup) ∧
      normalized = sortTools (tools.map normalizeTool) := by
  constructor
  · rw [List.map_map]
    exact nodup_of_validate (by rw [validated]; rfl)
  · unfold validateToolInventory at validated
    simp only at validated
    split at validated
    · exact (Except.ok.inj validated).symm
    · cases validated

variable {ns : Namespace} {previous tools : List ToolSchema}

omit [Platform] in
theorem sortTools_perm_self (tools : List ToolSchema) :
    (sortTools tools).Perm tools :=
  List.perm_insertionSort byName tools

omit [Platform] in
theorem sortNames_perm {names other : List String}
    (perm : names.Perm other) : sortNames names = sortNames other :=
  List.Perm.eq_of_pairwise (fun _ _ _ _ => le_antisymm)
    (sortNames_sorted names) (sortNames_sorted other)
    ((List.perm_insertionSort _ names).trans
      (perm.trans (List.perm_insertionSort _ other).symm))

omit [Platform] in
theorem distinct_sortTools
    (distinct : (tools.map ToolSchema.name).Nodup) :
    ((sortTools tools).map ToolSchema.name).Nodup :=
  ((sortTools_perm_self tools).map ToolSchema.name).nodup_iff.mpr distinct

theorem inventoryHash_sortTools
    (distinct : (tools.map ToolSchema.name).Nodup) :
    inventoryHash (sortTools tools) = inventoryHash tools := by
  unfold inventoryHash
  rw [sortTools_perm (distinct_sortTools distinct) (sortTools_perm_self tools)]

omit [Platform] in
theorem toolNamed_sortTools
    (distinct : (tools.map ToolSchema.name).Nodup) (name : String) :
    toolNamed name (sortTools tools) = toolNamed name tools := by
  apply Option.ext
  intro tool
  rw [toolNamed_eq_some_iff (distinct_sortTools distinct),
    toolNamed_eq_some_iff distinct, mem_sortTools]

/-- A diff does not depend on the order of the current tools. -/
theorem diffToolsets_sortTools
    (distinct : (tools.map ToolSchema.name).Nodup) :
    diffToolsets ns previous (sortTools tools) =
      diffToolsets ns previous tools := by
  have names := (sortTools_perm_self tools).map ToolSchema.name
  unfold diffToolsets
  simp only [RefreshResult.mk.injEq, true_and, toolNamed_sortTools distinct]
  refine ⟨inventoryHash_sortTools distinct, ?_, ?_, ?_⟩
  · exact sortNames_perm (names.dedup.filter _)
  · simp only [List.mem_dedup, names.mem_iff]
  · exact sortNames_perm (names.dedup.filter _)

end Sorting

/-! ## Agreement of the two sources -/

/-- What both sources are to show of a tool. -/
def ToolContractSummary.contract (summary : ToolContractSummary) :
    String × Option String × SchemaShapeSummary × Option SchemaShapeSummary :=
  (summary.name, summary.toolHash, summary.inputSchema, summary.outputSchema)

def ToolContractSummary.unmounted (summary : ToolContractSummary) :
    ToolContractSummary :=
  { summary with mountedName := none }

/-- Only the mounted source gives mounted names. -/
def ToolContractDelta.unmounted (delta : ToolContractDelta) :
    ToolContractDelta :=
  { delta with
    mountedName := none
    previousSummary := delta.previousSummary.map (·.unmounted)
    currentSummary := delta.currentSummary.map (·.unmounted) }

/-- The cached and the mounted entries show the same. -/
structure ViewsAlike (cached mounted : ToolsetContractInspection)
    (cachedDiff mountedDiff : ToolsetContractDiff) : Prop where
  schemaHash : cached.schemaHash = mounted.schemaHash
  toolCount : cached.toolCount = mounted.toolCount
  tools : ∀ contract,
    contract ∈ cached.tools.map ToolContractSummary.contract ↔
      contract ∈ mounted.tools.map ToolContractSummary.contract
  currentSchemaHash :
    cachedDiff.currentSchemaHash = mountedDiff.currentSchemaHash
  addedTools : cachedDiff.addedTools = mountedDiff.addedTools
  removedTools : cachedDiff.removedTools = mountedDiff.removedTools
  changedTools : cachedDiff.changedTools = mountedDiff.changedTools
  changes :
    cachedDiff.changes.map ToolContractDelta.unmounted =
      mountedDiff.changes.map ToolContractDelta.unmounted

/-- Whatever the four operations are asked for, they show the same of the
namespace. -/
def ViewsAgree [Platform] (world : World) (ns : Namespace) : Prop :=
  ∀ cached mounted cachedDiff mountedDiff,
    Inspects world .cached ns cached → Inspects world .mounted ns mounted →
      Diffs world .cached ns cachedDiff → Diffs world .mounted ns mountedDiff →
        ViewsAlike cached mounted cachedDiff mountedDiff

theorem summarizeToolContract_unmounted (naming : Option Namespace)
    (tool : ToolSchema) :
    (summarizeToolContract naming tool).unmounted =
      summarizeToolContract none tool :=
  rfl

section Agreement

variable [Platform] {world : World} {ns : Namespace} {runtime : RuntimeId}
  {snapshot : SchemaSnapshot}

/-- The entries do not depend on the source or the order of the current
tools. -/
theorem contractChanges_sortTools {previous tools : List ToolSchema}
    (distinct : (tools.map ToolSchema.name).Nodup) :
    (contractChanges ns .cached previous (sortTools tools)).map
        ToolContractDelta.unmounted =
      (contractChanges ns .mounted previous tools).map
        ToolContractDelta.unmounted := by
  simp only [contractChanges, diffToolsets_sortTools distinct,
    toolNamed_sortTools distinct, List.map_append, List.map_map,
    Option.map_map, Option.map_none, Function.comp_def,
    ToolContractDelta.unmounted, summarizeToolContract_unmounted]

theorem mountedDetails (running : world.runtimeFor ns = some runtime) :
    (contractSourceDetails world ns .mounted).sourceAvailable = true ∧
      (contractSourceDetails world ns .mounted).sourceTools =
        (world.objects runtime).tools.map normalizeTool ∧
      (contractSourceDetails world ns .mounted).schemaHash =
        if (world.objects runtime).tools.isEmpty then none
        else
          some (inventoryHash
            ((world.objects runtime).tools.map normalizeTool)) := by
  simp [contractSourceDetails, running]

theorem cachedDetails
    (cached : world.document.getSchemaSnapshot ns = some snapshot) :
    (contractSourceDetails world ns .cached).sourceAvailable = true ∧
      (contractSourceDetails world ns .cached).sourceTools =
        snapshot.tools ∧
      (contractSourceDetails world ns .cached).schemaHash =
        some snapshot.schemaHash := by
  simp [contractSourceDetails, cached]

/-- The mounted view has no hash for an empty inventory. -/
theorem viewsAgree_iff (running : world.runtimeFor ns = some runtime)
    (cached : world.document.getSchemaSnapshot ns = some snapshot)
    (captured : CapturedFrom ns (world.objects runtime).tools snapshot) :
    ViewsAgree world ns ↔ (world.objects runtime).tools ≠ [] := by
  obtain ⟨distinct, listed⟩ := validateToolInventory_eq_ok captured.listed
  obtain ⟨available, tools, hash⟩ := mountedDetails running
  obtain ⟨stored, snapshotTools, snapshotHash⟩ := cachedDetails cached
  have sameHash : snapshot.schemaHash =
      inventoryHash ((world.objects runtime).tools.map normalizeTool) := by
    rw [captured.schemaHash, listed, inventoryHash_sortTools distinct]
  constructor
  · intro agree empty
    have hashes :=
      (agree _ _ _ _ (inspects_iff.mpr rfl) (inspects_iff.mpr rfl)
        (diffs_iff.mpr rfl) (diffs_iff.mpr rfl)).schemaHash
    simp [buildContractInspection, snapshotHash, hash, empty] at hashes
  · intro listing cached mounted cachedDiff mountedDiff inspects mounts
      differs mountedDiffers
    rw [inspects_iff.mp inspects, inspects_iff.mp mounts,
      diffs_iff.mp differs, diffs_iff.mp mountedDiffers]
    have whole : (world.objects runtime).tools.isEmpty = false := by
      simpa using listing
    rw [whole, if_neg Bool.false_ne_true, ← sameHash] at hash
    have difference :
        ∀ previous,
          diffToolsets ns previous snapshot.tools =
            diffToolsets ns previous
              ((world.objects runtime).tools.map normalizeTool) := by
      intro previous
      rw [listed, diffToolsets_sortTools distinct]
    constructor
    · simp only [buildContractInspection, snapshotHash, hash]
    · simp only [buildContractInspection, stored, available, snapshotTools,
        tools, listed, if_true]
      exact (sortTools_perm_self _).length_eq
    · intro contract
      simp only [buildContractInspection, stored, available, snapshotTools,
        tools, listed, if_true]
      rw [List.map_map, List.map_map]
      exact ((sortTools_perm_self _).map _).mem_iff
    · simp only [buildContractDiff, buildContractInspection, snapshotHash,
        hash]
    · simp only [buildContractDiff, buildContractInspection, stored,
        available, snapshotTools, tools, Bool.not_true, Bool.false_eq_true,
        if_false, difference]
    · simp only [buildContractDiff, buildContractInspection, stored,
        available, snapshotTools, tools, Bool.not_true, Bool.false_eq_true,
        if_false, difference]
    · simp only [buildContractDiff, buildContractInspection, stored,
        available, snapshotTools, tools, Bool.not_true, Bool.false_eq_true,
        if_false, difference]
    · simp only [buildContractDiff, buildContractInspection, stored,
        available, snapshotTools, tools, listed, Bool.not_true,
        Bool.false_eq_true, if_false]
      split
      · exact contractChanges_sortTools distinct
      · rfl

end Agreement

/-! ## What a refresh reports -/

/-- The entry has the summaries its kind calls for. -/
def ToolContractDelta.Summarizes (naming : Option Namespace)
    (previous current : List ToolSchema) (delta : ToolContractDelta) : Prop :=
  let before :=
    ∃ tool ∈ previous, tool.name = delta.name ∧
      delta.previousSummary = some (summarizeToolContract none tool)
  let now :=
    ∃ tool ∈ current, tool.name = delta.name ∧
      delta.currentSummary = some (summarizeToolContract naming tool)
  match delta.change with
  | .added => delta.previousSummary = none ∧ now
  | .removed => before ∧ delta.currentSummary = none
  | .changed => before ∧ now

/-- The diff of one source shows what the refresh has reported. -/
structure ToolsetContractDiff.Shows (result : RefreshResult)
    (naming : Option Namespace) (previous current : List ToolSchema)
    (diff : ToolsetContractDiff) : Prop where
  available : diff.diffAvailable = true
  addedTools : diff.addedTools = result.addedTools
  removedTools : diff.removedTools = result.removedTools
  changedTools : diff.changedTools = result.changedTools
  hasChanges :
    diff.hasChanges = true ↔
      diff.addedTools ≠ [] ∨ diff.removedTools ≠ [] ∨ diff.changedTools ≠ []
  listed :
    diff.changes.map ToolContractDelta.name =
      diff.addedTools ++ diff.removedTools ++ diff.changedTools
  once : (diff.changes.map ToolContractDelta.name).Nodup
  kinds : ∀ delta ∈ diff.changes,
    match delta.change with
    | .added => delta.name ∈ diff.addedTools
    | .removed => delta.name ∈ diff.removedTools
    | .changed => delta.name ∈ diff.changedTools
  summaries : ∀ delta ∈ diff.changes, delta.Summarizes naming previous current

section Reports

variable [Platform] {ns : Namespace} {source : ContractSource}
  {previous current : List ToolSchema}

omit [Platform] in
theorem toolNamed_of_mem {name : String} {tools : List ToolSchema}
    (member : name ∈ tools.map ToolSchema.name) :
    ∃ tool ∈ tools, tool.name = name ∧ toolNamed name tools = some tool := by
  obtain ⟨tool, among, named⟩ := List.mem_map.mp member
  have found : (toolNamed name tools).isSome = true := by
    unfold toolNamed
    exact List.find?_isSome.mpr
      ⟨tool, List.mem_reverse.mpr among, by simpa using named⟩
  obtain ⟨last, first⟩ := Option.isSome_iff_exists.mp found
  exact ⟨last, List.mem_reverse.mp (List.mem_of_find?_eq_some first),
    by simpa using List.find?_some first, first⟩

/-- A changed name is in both inventories. -/
theorem listed_of_changed {name : String}
    (changed : name ∈ (diffToolsets ns previous current).changedTools) :
    name ∈ previous.map ToolSchema.name ∧
      name ∈ current.map ToolSchema.name := by
  simp only [diffToolsets, mem_sortNames, List.mem_filter, List.mem_dedup,
    decide_eq_true_eq] at changed
  exact ⟨changed.2.1, changed.1⟩

theorem nodup_diff :
    ((diffToolsets ns previous current).addedTools ++
      (diffToolsets ns previous current).removedTools ++
      (diffToolsets ns previous current).changedTools).Nodup := by
  have once : ∀ (names : List String) (keeps : String → Bool),
      (sortNames (names.dedup.filter keeps)).Nodup :=
    fun names keeps => sortNames_nodup ((List.nodup_dedup names).filter keeps)
  rw [List.nodup_append', List.nodup_append']
  refine ⟨⟨once _ _, once _ _, ?_⟩, once _ _, ?_⟩
  · intro name added removed
    exact (mem_addedTools.mp added).2 (mem_removedTools.mp removed).1
  · intro name other changed
    have both := listed_of_changed changed
    rcases List.mem_append.mp other with added | removed
    · exact (mem_addedTools.mp added).2 both.1
    · exact (mem_removedTools.mp removed).2 both.2

theorem names_contractChanges :
    (contractChanges ns source previous current).map ToolContractDelta.name =
      (diffToolsets ns previous current).addedTools ++
        (diffToolsets ns previous current).removedTools ++
        (diffToolsets ns previous current).changedTools := by
  simp [contractChanges, Function.comp_def]

/-- Every entry has the summaries of its sides, and is listed. -/
theorem contractChanges_spec {delta : ToolContractDelta}
    (member : delta ∈ contractChanges ns source previous current) :
    (match delta.change with
      | .added => delta.name ∈ (diffToolsets ns previous current).addedTools
      | .removed =>
          delta.name ∈ (diffToolsets ns previous current).removedTools
      | .changed =>
          delta.name ∈ (diffToolsets ns previous current).changedTools) ∧
      delta.Summarizes (source.naming ns) previous current := by
  have summarized : ∀ {naming : Option Namespace} {name : String}
      {tools : List ToolSchema}, name ∈ tools.map ToolSchema.name →
      ∃ tool ∈ tools, tool.name = name ∧
        (toolNamed name tools).map (summarizeToolContract naming) =
          some (summarizeToolContract naming tool) := by
    intro naming name tools listed
    obtain ⟨tool, among, named, found⟩ := toolNamed_of_mem listed
    exact ⟨tool, among, named, by rw [found]; rfl⟩
  simp only [contractChanges, List.mem_append, List.mem_map] at member
  rcases member with (⟨name, added, rfl⟩ | ⟨name, removed, rfl⟩) |
    ⟨name, changed, rfl⟩
  · exact ⟨added, rfl, summarized (mem_addedTools.mp added).1⟩
  · exact ⟨removed, summarized (mem_removedTools.mp removed).1, rfl⟩
  · have both := listed_of_changed changed
    exact ⟨changed, summarized both.1, summarized both.2⟩

theorem hasChanges_iff {world : World} :
    (buildContractDiff world ns source).hasChanges = true ↔
      (buildContractDiff world ns source).addedTools ≠ [] ∨
        (buildContractDiff world ns source).removedTools ≠ [] ∨
        (buildContractDiff world ns source).changedTools ≠ [] := by
  generalize computed : buildContractDiff world ns source = diff
  have flag :
      diff.hasChanges =
        !(diff.addedTools.isEmpty && diff.removedTools.isEmpty &&
          diff.changedTools.isEmpty) := by
    rw [← computed]
    rfl
  rw [flag, Bool.not_eq_true', Bool.and_eq_false_iff, Bool.and_eq_false_iff,
    List.isEmpty_eq_false_iff, List.isEmpty_eq_false_iff,
    List.isEmpty_eq_false_iff, or_assoc]

/-- An available diff shows the comparison of the two inventories. -/
theorem shows_of_available {world : World} {snapshot : SchemaSnapshot}
    {result : RefreshResult}
    (available :
      (contractSourceDetails world ns source).sourceAvailable = true)
    (retired :
      world.document.getPreviousSchemaSnapshot ns = some snapshot)
    (added :
      (diffToolsets ns snapshot.tools
        (contractSourceDetails world ns source).sourceTools).addedTools =
        result.addedTools)
    (removed :
      (diffToolsets ns snapshot.tools
        (contractSourceDetails world ns source).sourceTools).removedTools =
        result.removedTools)
    (changed :
      (diffToolsets ns snapshot.tools
        (contractSourceDetails world ns source).sourceTools).changedTools =
        result.changedTools) :
    (buildContractDiff world ns source).Shows result (source.naming ns)
      snapshot.tools (contractSourceDetails world ns source).sourceTools := by
  have built :
      (buildContractDiff world ns source).changes =
        contractChanges ns source snapshot.tools
          (contractSourceDetails world ns source).sourceTools := by
    simp [buildContractDiff, buildContractInspection, available, retired]
  have lists :
      (buildContractDiff world ns source).addedTools = result.addedTools ∧
      (buildContractDiff world ns source).removedTools =
        result.removedTools ∧
      (buildContractDiff world ns source).changedTools =
        result.changedTools := by
    simp [buildContractDiff, buildContractInspection, available, retired,
      added, removed, changed]
  obtain ⟨addedList, removedList, changedList⟩ := lists
  constructor
  · simp [buildContractDiff, buildContractInspection, available, retired]
  · exact addedList
  · exact removedList
  · exact changedList
  · exact hasChanges_iff
  · rw [built, names_contractChanges, added, removed, changed, addedList,
      removedList, changedList]
  · rw [built, names_contractChanges]
    exact nodup_diff
  · intro delta member
    rw [built] at member
    rw [addedList, removedList, changedList, ← added, ← removed, ← changed]
    exact (contractChanges_spec member).1
  · intro delta member
    rw [built] at member
    exact (contractChanges_spec member).2

end Reports

end ToolboxMcp
