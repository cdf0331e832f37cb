import ToolboxMcp.Service.Inspection
import ToolboxMcp.Service.Listing

/-!
# Descriptions of mounted tools

`describe_mounted_tools` rebuilds a tool from its listing, hashes it and
summarises its schemas.  It keeps the descriptions of the namespaces asked
for, looks the names asked for up among these, and gives a reason for every
name and namespace that it has nothing for.
-/

namespace ToolboxMcp

/-! ## The operation -/

structure MountedToolDescription where
  ns : Namespace
  mountedName : String
  sourceName : String
  title : Option String := none
  description : Option String := none
  toolHash : Option String := none
  inputSchema : SchemaShapeSummary := {}
  outputSchema : Option SchemaShapeSummary := none
  requiredInputs : List String := []
deriving DecidableEq, Repr

inductive MissingReason where
  | invalidMountedName
  | unknownToolset
  | namespaceNotMounted
  | toolNotMounted
  | notMounted
deriving DecidableEq, Repr

def MissingReason.text : MissingReason → String
  | .invalidMountedName => "invalid_mounted_name"
  | .unknownToolset => "unknown_toolset"
  | .namespaceNotMounted => "namespace_not_mounted"
  | .toolNotMounted => "tool_not_mounted"
  | .notMounted => "not_mounted"

inductive MissingDescription where
  | tool (mountedName : String) (reason : MissingReason)
  | toolset (ns : Namespace) (reason : MissingReason)
deriving DecidableEq, Repr

structure MountedToolDescriptionResult where
  count : Nat
  descriptions : List MountedToolDescription := []
  missing : List MissingDescription := []
deriving DecidableEq, Repr

/-- The tool as `_build_mounted_tool_description` rebuilds it. -/
def MountedTool.rebuilt (mounted : MountedTool) : Tool where
  name := mounted.sourceName
  title := mounted.title
  description := some (mounted.description.getD "")
  inputSchema := mounted.inputSchema
  outputSchema := mounted.outputSchema

def buildMountedToolDescription [Platform] (mounted : MountedTool) :
    MountedToolDescription :=
  let normalized := normalizeTool mounted.rebuilt
  let inputSummary := summarizeSchemaShape normalized.inputSchema
  { ns := mounted.ns
    mountedName := mounted.mountedName
    sourceName := mounted.sourceName
    title := mounted.title
    description := mounted.description
    toolHash := some normalized.toolHash
    inputSchema := inputSummary
    outputSchema := normalized.outputSchema.map summarizeSchemaShape
    requiredInputs := inputSummary.requiredProperties }

/-- `mounted_name.partition(".")`: what is before the first dot, if there is
one. -/
def namespacePart (mountedName : String) : Option Namespace :=
  if '.' ∈ mountedName.toList then
    some (String.ofList (mountedName.toList.takeWhile (· ≠ '.')))
  else
    none

def mountedToolMissingReason (world : World) (mountedName : String) :
    MissingReason :=
  match namespacePart mountedName with
  | none => .invalidMountedName
  | some ns =>
      if world.record ns = none then .unknownToolset
      else if ns ∉ world.mountedNamespaces then .namespaceNotMounted
      else .toolNotMounted

def toolsetMissingReason (world : World) (ns : Namespace) : MissingReason :=
  if world.record ns = none then .unknownToolset else .notMounted

/-- The dict of the descriptions keeps the last one of a name. -/
def describedAs (descriptions : List MountedToolDescription)
    (mountedName : String) : Option MountedToolDescription :=
  descriptions.reverse.find? fun item => item.mountedName = mountedName

/-- The descriptions left by the namespace filter. -/
def filteredDescriptions [Platform] (world : World)
    (namespaces : Option (List Namespace)) : List MountedToolDescription :=
  let descriptions :=
    (listAllMountedTools world).map buildMountedToolDescription
  match namespaces with
  | some namespaces => descriptions.filter fun item => item.ns ∈ namespaces
  | none => descriptions

def describeMountedTools [Platform] (world : World)
    (namespaces : Option (List Namespace))
    (mountedNames : Option (List String)) : MountedToolDescriptionResult :=
  let filtered := filteredDescriptions world namespaces
  let descriptions :=
    match mountedNames with
    | some names => names.filterMap (describedAs filtered)
    | none =>
        filtered.insertionSort fun left right =>
          left.mountedName ≤ right.mountedName
  let missingTools :=
    (mountedNames.getD []).filterMap fun name =>
      if describedAs filtered name = none then
        some (.tool name (mountedToolMissingReason world name))
      else none
  let missingToolsets :=
    (namespaces.getD []).filterMap fun ns =>
      if ns ∈ world.mountedNamespaces then none
      else some (.toolset ns (toolsetMissingReason world ns))
  { count := descriptions.length
    descriptions := descriptions
    missing := missingTools ++ missingToolsets }

/-! ## What is described -/

section Describing

variable [Platform] {world : World} {namespaces : Option (List Namespace)}
  {mountedNames : Option (List String)}
  {description : MountedToolDescription} {mountedName : String}
  {tool : MountedTool}

/-- Without a filter, every namespace is let through. -/
def Lets (namespaces : Option (List Namespace)) (ns : Namespace) : Prop :=
  ∀ filter, namespaces = some filter → ns ∈ filter

theorem mem_filteredDescriptions :
    description ∈ filteredDescriptions world namespaces ↔
      ∃ tool ∈ listAllMountedTools world,
        Lets namespaces tool.ns ∧
          buildMountedToolDescription tool = description := by
  unfold filteredDescriptions Lets
  cases namespaces with
  | none => simp
  | some filter =>
      simp only [List.mem_filter, List.mem_map, decide_eq_true_eq,
        Option.some.injEq, forall_eq']
      constructor
      · rintro ⟨⟨tool, member, rfl⟩, let_through⟩
        exact ⟨tool, member, let_through, rfl⟩
      · rintro ⟨tool, member, let_through, rfl⟩
        exact ⟨⟨tool, member, rfl⟩, let_through⟩

omit [Platform] in
theorem exists_describedAs {descriptions : List MountedToolDescription} :
    (∃ item, describedAs descriptions mountedName = some item) ↔
      ∃ item ∈ descriptions, item.mountedName = mountedName := by
  rw [← Option.isSome_iff_exists, describedAs, List.find?_isSome]
  simp

/-- A name is looked up to the description of the tool listed under it. -/
theorem describedAs_filtered (listed : world.Listed) :
    describedAs (filteredDescriptions world namespaces) mountedName =
        some description ↔
      ∃ tool ∈ listAllMountedTools world,
        tool.mountedName = mountedName ∧ Lets namespaces tool.ns ∧
          buildMountedToolDescription tool = description := by
  constructor
  · intro found
    have member := List.mem_of_find?_eq_some found
    have named := List.find?_some found
    rw [List.mem_reverse] at member
    rw [decide_eq_true_iff] at named
    obtain ⟨tool, among, passes, rfl⟩ := mem_filteredDescriptions.mp member
    exact ⟨tool, among, named, passes, rfl⟩
  · rintro ⟨tool, among, named, passes, rfl⟩
    have member :
        buildMountedToolDescription tool ∈
          filteredDescriptions world namespaces :=
      mem_filteredDescriptions.mpr ⟨tool, among, passes, rfl⟩
    obtain ⟨item, found⟩ :=
      exists_describedAs.mpr ⟨_, member, named⟩
    have first := List.find?_some found
    rw [decide_eq_true_iff] at first
    obtain ⟨other, otherAmong, _, rfl⟩ :=
      mem_filteredDescriptions.mp
        (List.mem_reverse.mp (List.mem_of_find?_eq_some found))
    have same : other = tool :=
      List.inj_on_of_nodup_map (nodup_listAllMountedTools listed) otherAmong
        among (first.trans named.symm)
    rw [found, same]

/-- Whatever is asked for, only mounted tools are described. -/
theorem listed_of_described
    (described :
      description ∈
        (describeMountedTools world namespaces mountedNames).descriptions) :
    ∃ tool ∈ listAllMountedTools world,
      Lets namespaces tool.ns ∧
        buildMountedToolDescription tool = description := by
  apply mem_filteredDescriptions.mp
  cases mountedNames with
  | none =>
      simp only [describeMountedTools, List.mem_insertionSort] at described
      exact described
  | some names =>
      simp only [describeMountedTools, List.mem_filterMap] at described
      obtain ⟨name, _, found⟩ := described
      exact List.mem_reverse.mp (List.mem_of_find?_eq_some found)

/-- Without filters, every mounted tool is described. -/
theorem described_of_listed (member : tool ∈ listAllMountedTools world) :
    buildMountedToolDescription tool ∈
      (describeMountedTools world none none).descriptions := by
  simp only [describeMountedTools, List.mem_insertionSort]
  refine mem_filteredDescriptions.mpr ⟨tool, member, ?_, rfl⟩
  intro filter absent
  cases absent

end Describing

end ToolboxMcp
