import ToolboxMcp.ContractViews
import ToolboxMcp.Dispatch
import ToolboxMcp.Service.Descriptions

/-!
# Descriptions and what they are compared with

A description is to be recognised as the contract `inspect_mounted_contracts`
shows for its tool, and whatever was asked for is to be described or explained.
The first fails for tools without a description, which are hashed with an empty
one; the second for mounted tools whose namespace was filtered out.
-/

namespace ToolboxMcp

open Effect

/-! ## Descriptions and contracts -/

/-- The description and the contract show the same of the tool. -/
structure MountedToolDescription.Matches
    (shown : MountedToolDescription) (contract : ToolContractSummary) :
    Prop where
  toolHash : shown.toolHash = contract.toolHash
  description : shown.description = contract.description
  inputSchema : shown.inputSchema = contract.inputSchema
  outputSchema : shown.outputSchema = contract.outputSchema

section Hashes

variable [Platform] {ns : Namespace} {mountedName : String} {tool : Tool}

/-- What is hashed for the description of a tool. -/
def rebuiltPayload (tool : Tool) : Json :=
  toolPayload (normalizeTool (mountedToolOf "" "" tool).rebuilt)

theorem normalizeTool_rebuilt (typed : tool.Typed) :
    normalizeTool (mountedToolOf ns mountedName tool).rebuilt =
      { normalizeTool tool with
        description := some (tool.description.getD "")
        toolHash := sha256 (rebuiltPayload tool) } := by
  obtain ⟨fields, input⟩ := typed.input
  simp [normalizeTool, rebuiltPayload, toolPayload, MountedTool.rebuilt,
    mountedToolOf, input, Json.orEmpty]

/-- Everything but the hash is passed on. -/
theorem buildMountedToolDescription_of (typed : tool.Typed) :
    buildMountedToolDescription (mountedToolOf ns mountedName tool) =
      { ns := ns
        mountedName := mountedName
        sourceName := tool.name
        title := tool.title
        description := tool.description
        toolHash := some (sha256 (rebuiltPayload tool))
        inputSchema := summarizeSchemaShape tool.inputSchema
        outputSchema := tool.outputSchema.map summarizeSchemaShape
        requiredInputs :=
          (summarizeSchemaShape tool.inputSchema).requiredProperties } := by
  obtain ⟨fields, input⟩ := typed.input
  unfold buildMountedToolDescription
  rw [normalizeTool_rebuilt typed]
  simp [normalizeTool, mountedToolOf, input, Json.orEmpty]

theorem rebuiltPayload_eq (typed : tool.Typed)
    (described : tool.description ≠ none) :
    rebuiltPayload tool = toolPayload (normalizeTool tool) := by
  obtain ⟨text, present⟩ := Option.ne_none_iff_exists'.mp described
  unfold rebuiltPayload
  rw [normalizeTool_rebuilt typed]
  simp [toolPayload, normalizeTool, present]

/-- A missing description is hashed as an empty one. -/
theorem rebuiltPayload_canonical_iff (typed : tool.Typed) :
    (rebuiltPayload tool).canonical =
        (toolPayload (normalizeTool tool)).canonical ↔
      tool.description ≠ none := by
  constructor
  · intro same absent
    have present := (hashed_normalizeTool typed).2
    have rebuiltPresent :
        (normalizeTool (mountedToolOf "" "" tool).rebuilt).outputSchema ≠
          some .null := by
      rw [normalizeTool_rebuilt typed]
      exact present
    have unhashed :=
      (toolPayload_canonical_iff rebuiltPresent present).mp same
    have descriptions := (unhashed_eq_iff.mp unhashed).2.2.1
    rw [normalizeTool_rebuilt typed] at descriptions
    simp [normalizeTool, absent] at descriptions
  · intro described
    rw [rebuiltPayload_eq typed described]

/-- The description of a tool matches a contract summarised from the same tool
exactly if the tool has a description. -/
theorem matches_iff (typed : tool.Typed)
    (faithful :
      DigestFaithful [rebuiltPayload tool, toolPayload (normalizeTool tool)])
    (naming : Option Namespace) :
    (buildMountedToolDescription
        (mountedToolOf ns mountedName tool)).Matches
      (summarizeToolContract naming (normalizeTool tool)) ↔
      tool.description ≠ none := by
  have hashes :
      sha256 (rebuiltPayload tool) = (normalizeTool tool).toolHash ↔
        tool.description ≠ none := by
    rw [(hashed_normalizeTool typed).1, ← rebuiltPayload_canonical_iff typed]
    exact faithful _ (by simp) _ (by simp)
  obtain ⟨fields, input⟩ := typed.input
  rw [buildMountedToolDescription_of typed, ← hashes]
  constructor
  · intro agree
    simpa [summarizeToolContract] using agree.toolHash
  · intro same
    constructor
    · simp [summarizeToolContract, same]
    · rfl
    · simp [summarizeToolContract, normalizeTool, input, Json.orEmpty]
    · rfl

end Hashes

namespace Machine

section Contracts

variable [Platform] {machine after : Machine}

/-- The contracts `inspect_mounted_contracts` shows under a mounted name. -/
def contractsNamed (machine : Machine) (ns : Namespace)
    (mountedName : String) : List ToolContractSummary :=
  (buildContractInspection machine.world ns .mounted).tools.filter
    fun contract => contract.mountedName = some mountedName

theorem mem_contractsNamed {ns : Namespace} {mountedName : String}
    {contract : ToolContractSummary} :
    contract ∈ after.contractsNamed ns mountedName ↔
      ∃ runtime, after.world.runtimeFor ns = some runtime ∧
        ∃ tool ∈ (after.world.objects runtime).tools,
          mountedToolName ns tool.name = mountedName ∧
            summarizeToolContract (some ns) (normalizeTool tool) =
              contract := by
  unfold contractsNamed
  cases running : after.world.runtimeFor ns with
  | none =>
      simp [buildContractInspection, contractSourceDetails, running]
  | some runtime =>
      obtain ⟨available, tools, _⟩ := mountedDetails running
      simp only [buildContractInspection, available, tools, if_true,
        List.mem_filter, List.mem_map, decide_eq_true_eq]
      constructor
      · rintro ⟨⟨_, ⟨tool, member, rfl⟩, rfl⟩, named⟩
        exact ⟨runtime, rfl, tool, member, Option.some.inj named, rfl⟩
      · rintro ⟨_, ⟨⟩, tool, member, named, rfl⟩
        exact ⟨⟨_, ⟨tool, member, rfl⟩, rfl⟩, congrArg some named⟩

/-- In every state, each mounted tool has one description, whatever is asked
for.  Of the contracts of the running runtime exactly one has its mounted name,
and this one, like the cached contract of a snapshot taken of the runtime,
matches the description if and only if the tool has a description. -/
theorem described_matches_contract
    (admitted : machine.world.document.Admitted)
    (reaches : Reaches lifeStep (fun _ _ => True) machine.restart after)
    {ns : Namespace} {runtime : RuntimeId} {tool : Tool}
    (running : after.world.runtimeFor ns = some runtime)
    (member : tool ∈ (after.world.objects runtime).tools)
    (typed : tool.Typed)
    (faithful :
      DigestFaithful
        [rebuiltPayload tool, toolPayload (normalizeTool tool)]) :
    ∃ description contract,
      description ∈ (describeMountedTools after.world none none).descriptions ∧
        (∀ namespaces mountedNames,
          ∀ other ∈
              (describeMountedTools after.world namespaces
                mountedNames).descriptions,
            other.mountedName = mountedToolName ns tool.name →
              other = description) ∧
        (∀ other,
          other ∈ after.contractsNamed ns (mountedToolName ns tool.name) ↔
            other = contract) ∧
        (description.Matches contract ↔ tool.description ≠ none) ∧
        ∀ snapshot,
          after.world.document.getSchemaSnapshot ns = some snapshot →
            CapturedFrom ns (after.world.objects runtime).tools snapshot →
            ∀ other ∈
                (buildContractInspection after.world ns .cached).tools,
              other.name = tool.name →
                (description.Matches other ↔ tool.description ≠ none) := by
  have listed := (dispatching_of_lives admitted reaches).2.listed
  have mountedAs := (World.runtimeFor_eq_some.mp running).1
  have distinct := listed.distinct ns runtime mountedAs
  have undotted := (listed.admitted ns runtime mountedAs).undotted
  have agrees :=
    @matches_iff _ ns (mountedToolName ns tool.name) tool typed faithful
  have inListing :
      mountedToolOf ns (mountedToolName ns tool.name) tool ∈
        listAllMountedTools after.world := by
    rw [mem_listAllMountedTools listed]
    exact ⟨ns, mem_mountedToolsOf.mpr ⟨runtime, tool, running, member, rfl⟩⟩
  refine ⟨_, _, described_of_listed inListing, ?_, ?_, agrees (some ns), ?_⟩
  · intro namespaces mountedNames other shown named
    obtain ⟨mounted, among, _, rfl⟩ := listed_of_described shown
    have same :
        mounted = mountedToolOf ns (mountedToolName ns tool.name) tool :=
      List.inj_on_of_nodup_map (nodup_listAllMountedTools listed) among
        inListing named
    rw [same]
  · intro other
    constructor
    · intro found
      obtain ⟨_, again, source, inSame, named, rfl⟩ :=
        mem_contractsNamed.mp found
      cases running.symm.trans again
      have sameName := (mountedToolName_inj undotted undotted named).2
      rw [List.inj_on_of_nodup_map distinct inSame member sameName]
    · rintro rfl
      exact mem_contractsNamed.mpr ⟨runtime, running, tool, member, rfl, rfl⟩
  · intro snapshot cached captured contract found named
    obtain ⟨stored, snapshotTools, _⟩ := cachedDetails cached
    obtain ⟨_, sorted⟩ := validateToolInventory_eq_ok captured.listed
    have inSnapshot :
        ∃ cachedTool ∈ snapshot.tools,
          summarizeToolContract none cachedTool = contract := by
      simpa [buildContractInspection, stored, snapshotTools,
        ContractSource.naming] using found
    obtain ⟨cachedTool, inTools, rfl⟩ := inSnapshot
    rw [sorted, mem_sortTools, List.mem_map] at inTools
    obtain ⟨source, inSame, rfl⟩ := inTools
    have sameName : source.name = tool.name := named
    rw [List.inj_on_of_nodup_map distinct inSame member sameName]
    exact agrees none

end Contracts

end Machine

/-! ## Accounting for what was asked for -/

def MissingDescription.mountedName? : MissingDescription → Option String
  | .tool mountedName _ => some mountedName
  | .toolset _ _ => none

def MissingDescription.ns? : MissingDescription → Option Namespace
  | .tool _ _ => none
  | .toolset ns _ => some ns

/-- What the reason says is so. -/
def MissingDescription.Holds (world : World) : MissingDescription → Prop
  | .tool mountedName .invalidMountedName => '.' ∉ mountedName.toList
  | .tool mountedName .unknownToolset =>
      ∃ ns, namespacePart mountedName = some ns ∧ world.record ns = none
  | .tool mountedName .namespaceNotMounted =>
      ∃ ns, namespacePart mountedName = some ns ∧
        world.record ns ≠ none ∧ world.runtimeFor ns = none
  | .tool mountedName .toolNotMounted =>
      ∀ tool ∈ listAllMountedTools world, tool.mountedName ≠ mountedName
  | .toolset ns .unknownToolset => world.record ns = none
  | .toolset ns .notMounted =>
      world.record ns ≠ none ∧ world.runtimeFor ns = none
  | _ => False

/-- Every name asked for is described or missing, every namespace without a
running runtime is missing, and the reasons hold. -/
structure MountedToolDescriptionResult.Accounts [Platform] (world : World)
    (namespaces : Option (List Namespace))
    (mountedNames : Option (List String))
    (result : MountedToolDescriptionResult) : Prop where
  names : ∀ names, mountedNames = some names →
    ∃ described : String → Bool,
      result.descriptions.map MountedToolDescription.mountedName =
          names.filter described ∧
        result.missing.filterMap MissingDescription.mountedName? =
          names.filter fun name => !described name
  descriptions : ∀ description ∈ result.descriptions,
    ∃ tool ∈ listAllMountedTools world,
      buildMountedToolDescription tool = description
  toolsets :
    result.missing.filterMap MissingDescription.ns? =
      (namespaces.getD []).filter fun ns => world.runtimeFor ns = none
  reasons : ∀ missing ∈ result.missing, missing.Holds world

section Accounting

variable [Platform] {world : World} {namespaces : Option (List Namespace)}
  {mountedNames : Option (List String)}

omit [Platform] in
theorem namespacePart_mountedToolName {ns : Namespace}
    (undotted : Undotted ns) (sourceName : String) :
    namespacePart (mountedToolName ns sourceName) = some ns := by
  unfold namespacePart
  rw [toList_mountedToolName, if_pos (by simp)]
  have before :
      (ns.toList ++ '.' :: sourceName.toList).takeWhile (· ≠ '.') =
        ns.toList := by
    rw [List.takeWhile_append_of_pos]
    · simp
    · intro character member
      have different : character ≠ '.' := by
        rintro rfl
        exact undotted member
      simpa using different
  rw [before, String.ofList_toList]

theorem not_mem_mountedNamespaces (listed : world.Listed) {ns : Namespace} :
    ns ∉ world.mountedNamespaces ↔ world.runtimeFor ns = none := by
  rw [mem_mountedNamespaces listed, ← Option.ne_none_iff_exists', not_not]

theorem toolset_reason (listed : world.Listed) {ns : Namespace}
    (unmounted : ns ∉ world.mountedNamespaces) :
    (MissingDescription.toolset ns (toolsetMissingReason world ns)).Holds
      world := by
  unfold toolsetMissingReason
  by_cases known : world.record ns = none
  · rw [if_pos known]
    exact known
  · rw [if_neg known]
    exact ⟨known, (not_mem_mountedNamespaces listed).mp unmounted⟩

/-- The reasons given for a name hold, up to `tool_not_mounted` for a mounted
tool. -/
theorem tool_reason (listed : world.Listed) (mountedName : String) :
    (MissingDescription.tool mountedName
        (mountedToolMissingReason world mountedName)).Holds world ↔
      ∀ tool ∈ listAllMountedTools world, tool.mountedName = mountedName →
        world.record tool.ns = none := by
  -- the namespace of a listed tool is read off its name
  have parts : ∀ tool ∈ listAllMountedTools world,
      namespacePart tool.mountedName = some tool.ns ∧
        tool.ns ∈ world.mountedNamespaces := by
    intro tool member
    obtain ⟨ns, here⟩ := (mem_listAllMountedTools listed).mp member
    have undotted := undotted_of_mem listed here
    obtain ⟨runtime, source, running, _, rfl⟩ := mem_mountedToolsOf.mp here
    exact ⟨namespacePart_mountedToolName undotted source.name,
      (mem_mountedNamespaces listed).mpr ⟨runtime, running⟩⟩
  unfold mountedToolMissingReason
  cases part : namespacePart mountedName with
  | none =>
      have dotless : '.' ∉ mountedName.toList := by
        intro dotted
        rw [namespacePart, if_pos dotted] at part
        cases part
      refine iff_of_true dotless ?_
      rintro tool member rfl
      have same := (parts tool member).1
      rw [part] at same
      cases same
  | some ns =>
      by_cases known : world.record ns = none
      · simp only [known, if_true]
        refine iff_of_true ⟨ns, part, known⟩ ?_
        rintro tool member rfl
        have same := (parts tool member).1
        rw [part] at same
        rw [← Option.some.inj same]
        exact known
      · simp only [known, if_false]
        by_cases mounted : ns ∈ world.mountedNamespaces
        · rw [if_neg (not_not_intro mounted)]
          constructor
          · intro absent tool member named
            exact absurd named (absent tool member)
          · rintro unregistered tool member rfl
            have same := (parts tool member).1
            rw [part] at same
            apply known
            rw [Option.some.inj same]
            exact unregistered tool member rfl
        · rw [if_pos mounted]
          refine iff_of_true
            ⟨ns, part, known, (not_mem_mountedNamespaces listed).mp mounted⟩
            ?_
          rintro tool member rfl
          obtain ⟨same, running⟩ := parts tool member
          rw [part] at same
          rw [Option.some.inj same] at mounted
          exact absurd running mounted

/-- The name belongs to no mounted tool of a registered namespace that the
filter leaves out. -/
def NotFilteredOut (world : World) (namespaces : Option (List Namespace))
    (mountedName : String) : Prop :=
  ∀ tool ∈ listAllMountedTools world, tool.mountedName = mountedName →
    world.record tool.ns ≠ none → Lets namespaces tool.ns

/-- A name has no description exactly if a filter keeps the tools of that name
out. -/
theorem describedAs_eq_none (listed : world.Listed) {mountedName : String} :
    describedAs (filteredDescriptions world namespaces) mountedName = none ↔
      ∀ tool ∈ listAllMountedTools world, tool.mountedName = mountedName →
        ¬ Lets namespaces tool.ns := by
  rw [Option.eq_none_iff_forall_ne_some]
  constructor
  · intro nothing tool member named passes
    exact nothing _ ((describedAs_filtered listed).mpr
      ⟨tool, member, named, passes, rfl⟩)
  · intro blocked description found
    obtain ⟨tool, member, named, passes, _⟩ :=
      (describedAs_filtered listed).mp found
    exact blocked tool member named passes

theorem mem_missing {missing : MissingDescription} :
    missing ∈
        (describeMountedTools world namespaces mountedNames).missing ↔
      (∃ name ∈ mountedNames.getD [],
        describedAs (filteredDescriptions world namespaces) name = none ∧
          .tool name (mountedToolMissingReason world name) = missing) ∨
        ∃ ns ∈ namespaces.getD [], ns ∉ world.mountedNamespaces ∧
          .toolset ns (toolsetMissingReason world ns) = missing := by
  simp only [describeMountedTools, List.mem_append, List.mem_filterMap]
  refine or_congr ?_ ?_
  · refine exists_congr fun name => and_congr_right fun _ => ?_
    by_cases absent :
        describedAs (filteredDescriptions world namespaces) name = none
    · simp [absent]
    · simp [absent]
  · refine exists_congr fun ns => and_congr_right fun _ => ?_
    by_cases mounted : ns ∈ world.mountedNamespaces
    · simp [mounted]
    · simp [mounted]

theorem missing_mountedNames :
    (describeMountedTools world namespaces mountedNames).missing.filterMap
        MissingDescription.mountedName? =
      (mountedNames.getD []).filter fun name =>
        !(describedAs (filteredDescriptions world namespaces) name).isSome := by
  have toolsets : ∀ asked : List Namespace,
      (asked.filterMap fun ns =>
          if ns ∈ world.mountedNamespaces then none
          else some (MissingDescription.toolset ns
            (toolsetMissingReason world ns))).filterMap
        MissingDescription.mountedName? = [] := by
    intro asked
    induction asked with
    | nil => rfl
    | cons ns asked inductionHypothesis =>
        by_cases mounted : ns ∈ world.mountedNamespaces
        · simpa [mounted] using inductionHypothesis
        · simpa [mounted, MissingDescription.mountedName?] using
            inductionHypothesis
  simp only [describeMountedTools, List.filterMap_append, toolsets,
    List.append_nil]
  generalize mountedNames.getD [] = names
  induction names with
  | nil => rfl
  | cons name names inductionHypothesis =>
      by_cases absent :
          describedAs (filteredDescriptions world namespaces) name = none
      · simp [absent, inductionHypothesis, MissingDescription.mountedName?]
      · simp [absent, inductionHypothesis]

theorem missing_toolsets (listed : world.Listed) :
    (describeMountedTools world namespaces mountedNames).missing.filterMap
        MissingDescription.ns? =
      (namespaces.getD []).filter fun ns => world.runtimeFor ns = none := by
  have tools : ∀ asked : List String,
      (asked.filterMap fun name =>
          if describedAs (filteredDescriptions world namespaces) name = none
          then some (MissingDescription.tool name
            (mountedToolMissingReason world name))
          else none).filterMap MissingDescription.ns? = [] := by
    intro asked
    induction asked with
    | nil => rfl
    | cons name asked inductionHypothesis =>
        by_cases absent :
            describedAs (filteredDescriptions world namespaces) name = none
        · simpa [absent, MissingDescription.ns?] using inductionHypothesis
        · simpa [absent] using inductionHypothesis
  simp only [describeMountedTools, List.filterMap_append, tools,
    List.nil_append]
  generalize namespaces.getD [] = asked
  induction asked with
  | nil => rfl
  | cons ns asked inductionHypothesis =>
      by_cases mounted : ns ∈ world.mountedNamespaces
      · have running : world.runtimeFor ns ≠ none := by
          intro unmounted
          exact (not_mem_mountedNamespaces listed).mpr unmounted mounted
        simp [mounted, running, inductionHypothesis]
      · have unmounted := (not_mem_mountedNamespaces listed).mp mounted
        simp [mounted, unmounted, inductionHypothesis,
          MissingDescription.ns?]

theorem described_mountedNames (names : List String) :
    (describeMountedTools world namespaces
        (some names)).descriptions.map MountedToolDescription.mountedName =
      names.filter fun name =>
        (describedAs (filteredDescriptions world namespaces) name).isSome := by
  simp only [describeMountedTools]
  induction names with
  | nil => rfl
  | cons name names inductionHypothesis =>
      cases found :
          describedAs (filteredDescriptions world namespaces) name with
      | none => simp [found, inductionHypothesis]
      | some description =>
          have named := List.find?_some found
          rw [decide_eq_true_iff] at named
          simp [found, inductionHypothesis, named]

/-- Everything asked for is accounted for exactly if no name asked for was
filtered out. -/
theorem accounts_iff (listed : world.Listed) :
    (describeMountedTools world namespaces mountedNames).Accounts world
        namespaces mountedNames ↔
      ∀ name ∈ mountedNames.getD [],
        NotFilteredOut world namespaces name := by
  constructor
  · intro accounts name asked tool member named registered
    by_contra blocked
    have absent :
        describedAs (filteredDescriptions world namespaces) name = none := by
      rw [describedAs_eq_none listed]
      intro other among otherNamed
      have same : other = tool :=
        List.inj_on_of_nodup_map (nodup_listAllMountedTools listed) among
          member (otherNamed.trans named.symm)
      rw [same]
      exact blocked
    have holds :=
      accounts.reasons _ (mem_missing.mpr (.inl ⟨name, asked, absent, rfl⟩))
    exact registered ((tool_reason listed name).mp holds tool member named)
  · intro unfiltered
    constructor
    · rintro names rfl
      exact ⟨_, described_mountedNames names, missing_mountedNames⟩
    · intro description described
      obtain ⟨tool, member, _, same⟩ := listed_of_described described
      exact ⟨tool, member, same⟩
    · exact missing_toolsets listed
    · intro missing member
      rcases mem_missing.mp member with
        ⟨name, asked, absent, rfl⟩ | ⟨ns, _, unmounted, rfl⟩
      · rw [tool_reason listed]
        intro tool among named
        by_contra registered
        exact (describedAs_eq_none listed).mp absent tool among named
          (unfiltered name asked tool among named registered)
      · exact toolset_reason listed unmounted

end Accounting

/-- In every state of every run. -/
theorem Machine.accounts_of_lives [Platform] {machine after : Machine}
    (admitted : machine.world.document.Admitted)
    (reaches :
      Reaches Machine.lifeStep (fun _ _ => True) machine.restart after)
    (namespaces : Option (List Namespace))
    (mountedNames : Option (List String)) :
    (describeMountedTools after.world namespaces mountedNames).Accounts
        after.world namespaces mountedNames ↔
      ∀ name ∈ mountedNames.getD [],
        NotFilteredOut after.world namespaces name :=
  accounts_iff (Machine.dispatching_of_lives admitted reaches).2.listed

namespace Machine

/-! ## One activated toolset -/

/-- The bundled toolset is activated; its server lists `tool`. -/
def activation (tool : Tool) : List (Option Action) :=
  [some (.request (.activateToolsets ["fake_stdio"] "thread" true)),
   some (.acquire 0), some (.enter 0), some (.reply 0 (.ok [tool]))]

theorem admitted_emptyHost [Platform] (config : HostConfig) :
    (emptyHost config).world.document.Admitted := by
  intro ns present
  exact absurd rfl present

section Hashed

/-- With the digest of the tool that a contract shows with an empty
description. -/
def describedHexdigest (text : String) : String :=
  if text = Ascii.pingText "\"\"" ++ "\x7d" then
    "f7741e6f8cfcc0d2364abf56d93b3cbaff97b32f893d07b22d348b9fab1aa7bb"
  else
    Ascii.hexdigest text

local instance describedPlatform : Platform :=
  { Ascii.platform with hexdigest := describedHexdigest }

theorem typed_of_object {tool : Tool}
    (input : tool.inputSchema.obj?.isSome = true)
    (output : tool.outputSchema.isNone = true) : tool.Typed := by
  constructor
  · cases schema : tool.inputSchema with
    | obj fields => exact ⟨fields, rfl⟩
    | _ =>
        rw [schema] at input
        cases input
  · intro schema present
    rw [present] at output
    cases output

/-- The only tool has a description. -/
theorem described_matches_contract_fake :
    ∃ machine description contract,
      Reaches lifeStep (fun _ _ => True) (firstProcess {}) machine ∧
        description ∈
          (describeMountedTools machine.world none none).descriptions ∧
        contract ∈ (buildContractInspection machine.world "fake_stdio"
          .mounted).tools ∧
        description.Matches contract := by
  obtain ⟨machine, reaches, running, listing⟩ :=
    exists_reaches_of_execute (activation Ascii.describedPing)
      (by decide +kernel :
        (execute lifeStep (fun _ _ => True) (firstProcess {}) _).any
          (fun machine =>
            machine.world.runtimeFor "fake_stdio" = some 0 ∧
              (machine.world.objects 0).tools.any fun tool =>
                tool.description.isSome && tool.inputSchema.obj?.isSome &&
                  tool.outputSchema.isNone) = true)
  obtain ⟨tool, member, shape⟩ := List.any_eq_true.mp listing
  simp only [Bool.and_eq_true] at shape
  obtain ⟨⟨text, input⟩, output⟩ := shape
  have typed : tool.Typed := typed_of_object input output
  have described : tool.description ≠ none :=
    Option.isSome_iff_ne_none.mp text
  have faithful :
      DigestFaithful
        [rebuiltPayload tool, toolPayload (normalizeTool tool)] := by
    rw [rebuiltPayload_eq typed described]
    intro left leftMember right rightMember
    simp only [List.mem_cons, List.not_mem_nil, or_false, or_self] at *
    rw [leftMember, rightMember]
    simp
  obtain ⟨description, contract, shown, _, named, agrees, _⟩ :=
    described_matches_contract (admitted_emptyHost {}) reaches running member
      typed faithful
  have found := (named contract).mpr rfl
  exact ⟨machine, description, contract, reaches, shown,
    List.mem_of_mem_filter found, agrees.mpr described⟩

/-- The only tool has no description: its contract has another hash. -/
theorem undescribed_tool_mismatches :
    ∃ machine description contract,
      Reaches lifeStep (fun _ _ => True) (firstProcess {}) machine ∧
        (describeMountedTools machine.world none none).descriptions =
          [description] ∧
        (buildContractInspection machine.world "fake_stdio"
            .mounted).tools = [contract] ∧
        some description.mountedName = contract.mountedName ∧
        description.toolHash =
          some ("sha256:" ++
            "f7741e6f8cfcc0d2364abf56d93b3cbaff97b32f893d07b22d348b9fab1aa7bb") ∧
        contract.toolHash =
          some ("sha256:" ++
            "b3ada9a944b1314b966f16bf92eef42598d64568a34c8f1a0f2aa7def24b5b1d") ∧
        ¬ description.Matches contract := by
  obtain ⟨machine, reaches, descriptions, contracts⟩ :=
    exists_reaches_of_execute (activation Ascii.ping)
      (by decide +kernel :
        (execute lifeStep (fun _ _ => True) (firstProcess {}) _).any
          (fun machine =>
            (describeMountedTools machine.world none none).descriptions =
                [{ ns := "fake_stdio"
                   mountedName := "fake_stdio.ping"
                   sourceName := "ping"
                   toolHash := some ("sha256:" ++
                     "f7741e6f8cfcc0d2364abf56d93b3cbaff97b32f893d07b22d348b9fab1aa7bb") }] ∧
              (buildContractInspection machine.world "fake_stdio"
                  .mounted).tools =
                [{ name := "ping"
                   mountedName := some "fake_stdio.ping"
                   toolHash := some ("sha256:" ++
                     "b3ada9a944b1314b966f16bf92eef42598d64568a34c8f1a0f2aa7def24b5b1d") }]) =
          true)
  refine ⟨machine, _, _, reaches, descriptions, contracts, rfl, rfl, rfl, ?_⟩
  intro matching
  have hashes := matching.toolHash
  revert hashes
  decide

end Hashed

section Ascii

open scoped Ascii

/-- Everything is asked for by name, and nothing is filtered out. -/
theorem accounts_of_lives_fake :
    ∃ machine,
      Reaches lifeStep (fun _ _ => True) (firstProcess {}) machine ∧
        (describeMountedTools machine.world none
          (some ["fake_stdio.ping", "fake_stdio.pong"])).Accounts
          machine.world none
          (some ["fake_stdio.ping", "fake_stdio.pong"]) := by
  obtain ⟨machine, reaches, _⟩ :=
    exists_reaches_of_execute (activation Ascii.ping)
      (by decide +kernel :
        (execute lifeStep (fun _ _ => True) (firstProcess {}) _).any
          (fun machine => machine.idle = true) = true)
  refine ⟨machine, reaches,
    (accounts_of_lives (admitted_emptyHost {}) reaches none _).mpr ?_⟩
  intro name _ tool _ _ _ filter absent
  cases absent

/-- The bundled tool is mounted, but asked for together with another
namespace: it is reported as not mounted. -/
theorem mounted_tool_reported_missing :
    ∃ machine,
      Reaches lifeStep (fun _ _ => True) (firstProcess {}) machine ∧
        (listAllMountedTools machine.world).map MountedTool.mountedName =
          ["fake_stdio.ping"] ∧
        (describeMountedTools machine.world (some ["other"])
            (some ["fake_stdio.ping"])).missing =
          [.tool "fake_stdio.ping" .toolNotMounted,
           .toolset "other" .unknownToolset] ∧
        ¬ (describeMountedTools machine.world (some ["other"])
            (some ["fake_stdio.ping"])).Accounts machine.world
            (some ["other"]) (some ["fake_stdio.ping"]) := by
  obtain ⟨machine, reaches, listed, missing⟩ :=
    exists_reaches_of_execute (activation Ascii.ping)
      (by decide +kernel :
        (execute lifeStep (fun _ _ => True) (firstProcess {}) _).any
          (fun machine =>
            (listAllMountedTools machine.world).map
                MountedTool.mountedName = ["fake_stdio.ping"] ∧
              (describeMountedTools machine.world (some ["other"])
                  (some ["fake_stdio.ping"])).missing =
                [.tool "fake_stdio.ping" .toolNotMounted,
                 .toolset "other" .unknownToolset]) = true)
  refine ⟨machine, reaches, listed, missing, ?_⟩
  intro accounts
  have absent :=
    accounts.reasons (.tool "fake_stdio.ping" .toolNotMounted)
      (by simp [missing])
  have mounted :
      "fake_stdio.ping" ∈
        (listAllMountedTools machine.world).map MountedTool.mountedName := by
    simp [listed]
  obtain ⟨tool, member, named⟩ := List.mem_map.mp mounted
  exact absent tool member named

end Ascii

end Machine

end ToolboxMcp
