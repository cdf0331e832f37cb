import ToolboxMcp.Service.Listing

/-!
# The tools of the server

`ToolboxServer` lists its own tools before the mounted ones, looks a name up in
the same order when it is called, and sends `tools/list_changed` after a request
whose response has an item that may have changed the list.
-/

namespace ToolboxMcp

/-! ## Listing and calling -/

/-- `list_mounted_tool_definitions`, for one tool. -/
def MountedTool.definition (mounted : MountedTool) : Tool where
  name := mounted.mountedName
  title := mounted.title
  description := some (mounted.description.getD "")
  inputSchema := mounted.inputSchema
  outputSchema := mounted.outputSchema

def listMountedToolDefinitions (world : World) : List Tool :=
  (listAllMountedTools world).map MountedTool.definition

/-- The names and descriptions `create_server` registers, in its order. -/
def serverTools : List (String × String) :=
  [("search_toolsets",
    "Search registered toolsets by metadata without loading full schemas."),
   ("list_toolsets", "List registered toolsets and their current status."),
   ("get_toolset_status",
    "Get detailed status for one or more toolsets."),
   ("inspect_cached_contracts",
    "Inspect cached tool contracts with compact schema summaries, without " ++
      "activating toolsets."),
   ("inspect_mounted_contracts",
    "Inspect mounted tool contracts for active toolsets with compact " ++
      "schema summaries."),
   ("describe_mounted_tools",
    "Describe currently mounted tools with compact composition-oriented " ++
      "summaries. Use this before writing a batch or program when you want " ++
      "the cheapest live tool view."),
   ("diff_cached_contracts",
    "Diff cached tool contracts against the previous stored schema " ++
      "snapshot for one or more namespaces."),
   ("diff_mounted_contracts",
    "Diff mounted tool contracts against the previous stored schema " ++
      "snapshot for active namespaces."),
   ("inspect_runtime_budgets",
    "Inspect current program runtime budgets and transport timeout limits " ++
      "so composition callers can shape requests intentionally."),
   ("list_audit_events",
    "List recent Toolbox lifecycle audit events with optional filters."),
   ("check_toolset_health",
    "Run bounded health checks against active managed runtimes."),
   ("restore_toolsets",
    "Restore previously active restorable toolsets when policy and " ++
      "identity allow it."),
   ("clear_stale_toolsets",
    "Clear stale state and health-failure markers without reconnecting " ++
      "toolsets."),
   ("register_toolset",
    "Register a managed toolset without activating it."),
   ("activate_toolsets",
    "Activate one or more toolsets for a given scope."),
   ("refresh_toolsets",
    "Refresh one or more toolsets and atomically swap their cached " ++
      "contracts."),
   ("deactivate_toolsets",
    "Deactivate one or more toolsets from a given scope."),
   ("unregister_toolsets",
    "Remove one or more registered toolsets from Toolbox."),
   ("run_tool_batch",
    "Compose multiple mounted tool calls in one round trip. Use " ++
      "\x7b'$from': 'step_id.path.to.value'\x7d inside later arguments to " ++
      "reference earlier step results."),
   ("run_tool_program",
    "Execute a constrained Python-like tool composition program over " ++
      "mounted tools. Use call_tool('namespace.tool', arguments) and " ++
      "assign the final value to 'result' or another named result " ++
      "variable. Program variables and mounted-tool contract summaries are " ++
      "only returned when explicitly requested.")]

/-- `FastMCP.list_tools`; the schemas are read off the Python signatures. -/
def staticTools (signature : String → Json) : List Tool :=
  serverTools.map fun tool =>
    { name := tool.1
      description := some tool.2
      inputSchema := signature tool.1 }

def listTools (signature : String → Json) (world : World) : List Tool :=
  staticTools signature ++ listMountedToolDefinitions world

/-- Where `ToolboxServer.call_tool` takes a name. -/
inductive Route where
  | static (name : String)
  | mounted (mountedName : String)
  | toolError (message : String)
deriving DecidableEq

def route (world : World) (name : String) : Route :=
  if name ∈ serverTools.map Prod.fst then
    .static name
  else if isMountedTool world name then
    .mounted name
  else
    .toolError ("Unknown tool: " ++ name)

/-! ## Notifications -/

/-- The items for which the server sends `tools/list_changed`.  Nobody is told
of what the start restores. -/
def Operation.notifies : Operation → Entry → Bool
  | .restore _ false, .restored _ => true
  | .activate .., .activated _ => true
  | .refresh .., .refreshed _ => true
  | .deactivate .., .deactivated .. => true
  | .unregister _, .unregistered _ => true
  | .unregister _, .skipped _ reason _ =>
      reason == "disconnected_before_unregistration"
  | _, _ => false

/-- Only the start of the server restores as a start. -/
def Operation.served : Operation → Bool
  | .restore _ startup => !startup
  | _ => true

/-- The operation never notifies anybody. -/
def Operation.Silent (operation : Operation) : Prop :=
  ∀ entry, operation.notifies entry = false

/-! ## What is shown -/

/-- The mounted runtimes run and list as before. -/
structure SameListing (before after : World) : Prop where
  runtimes : after.runtimes = before.runtimes
  running :
    ∀ ns runtime, before.runtimes.get ns = some runtime →
      after.isRunning runtime = before.isRunning runtime
  tools :
    ∀ ns runtime, before.runtimes.get ns = some runtime →
      (after.objects runtime).tools = (before.objects runtime).tools

section Worlds

variable {ns : Namespace} {before middle after world : World}

theorem SameListing.refl (world : World) : SameListing world world :=
  ⟨rfl, fun _ _ _ => rfl, fun _ _ _ => rfl⟩

theorem SameListing.trans (first : SameListing before middle)
    (second : SameListing middle after) : SameListing before after := by
  have moved : ∀ ns runtime, before.runtimes.get ns = some runtime →
      middle.runtimes.get ns = some runtime := by
    intro ns runtime mounted
    rw [first.runtimes]
    exact mounted
  constructor
  · exact second.runtimes.trans first.runtimes
  · exact fun ns runtime mounted =>
      (second.running ns runtime (moved ns runtime mounted)).trans
        (first.running ns runtime mounted)
  · exact fun ns runtime mounted =>
      (second.tools ns runtime (moved ns runtime mounted)).trans
        (first.tools ns runtime mounted)

theorem sameListing_of_objects (runtimes : after.runtimes = before.runtimes)
    (objects : after.objects = before.objects) : SameListing before after := by
  refine ⟨runtimes, ?_, ?_⟩
  · intro _ runtime _
    unfold World.isRunning
    rw [objects]
  · intro _ runtime _
    rw [objects]

theorem SameTransport.sameListing (same : SameTransport before after) :
    SameListing before after :=
  sameListing_of_objects same.runtimes same.objects

/-- The end of a runtime nobody sees running is not seen. -/
theorem sameListing_markDone {runtime : RuntimeId}
    (unseen : ∀ ns, world.runtimes.get ns = some runtime →
      world.isRunning runtime = false) :
    SameListing world (world.markDone runtime) := by
  refine ⟨rfl, ?_, ?_⟩
  · intro ns other mounted
    by_cases same : other = runtime
    · subst same
      rw [unseen ns mounted]
      simp [World.isRunning, ManagedToolsetRuntime.isRunning]
    · simp [World.isRunning, same]
  · intro ns other mounted
    by_cases same : other = runtime
    · subst same
      simp
    · simp [same]

/-- A new runtime is not mounted yet. -/
theorem sameListing_spawnRuntime (housed : world.Housed) :
    SameListing world (world.spawnRuntime ns) := by
  have different : ∀ home runtime,
      world.runtimes.get home = some runtime →
        runtime ≠ world.nextRuntime :=
    fun home runtime mounted => (housed home runtime mounted).1.ne
  refine ⟨rfl, ?_, ?_⟩
  · intro home runtime mounted
    simp [World.isRunning, different home runtime mounted]
  · intro home runtime mounted
    simp [different home runtime mounted]

/-! ## Inventories -/

/-- Every mounted runtime has listed a valid inventory. -/
structure World.Inventoried [Platform] (world : World) : Prop where
  keys : (world.runtimes.map Prod.fst).Nodup
  valid :
    ∀ ns runtime, world.runtimes.get ns = some runtime →
      (validateToolInventory ns (world.objects runtime).tools).isOk = true

variable [Platform]

theorem Relists.inventoried (relists : Relists ns before after)
    (housed : before.Housed) (inventoried : before.Inventoried) :
    after.Inventoried := by
  cases relists with
  | kept runtimes tools =>
      constructor
      · rw [runtimes]
        exact inventoried.keys
      · intro home runtime mounted
        rw [runtimes] at mounted
        rw [tools runtime (housed home runtime mounted).1]
        exact inventoried.valid home runtime mounted
  | dropped runtimes tools =>
      constructor
      · rw [runtimes]
        exact KeyedList.nodup_keys_erase Prod.fst inventoried.keys ns
      · intro home runtime mounted
        rw [runtimes, Dict.get_pop] at mounted
        split at mounted
        · cases mounted
        · rw [tools runtime (housed home runtime mounted).1]
          exact inventoried.valid home runtime mounted
  | @mounted landed owned runtimes valid tools =>
      constructor
      · rw [runtimes]
        exact KeyedList.nodup_keys_upsert Prod.fst inventoried.keys
          (ns, landed)
      · intro home runtime mounted
        rw [runtimes, Dict.get_set] at mounted
        split at mounted
        · rename_i here
          cases mounted
          rw [here]
          exact valid
        · rename_i elsewhere
          obtain ⟨present, named⟩ := housed home runtime mounted
          have different : runtime ≠ landed := by
            rintro rfl
            exact elsewhere (named.symm.trans owned.2)
          rw [tools runtime present different]
          exact inventoried.valid home runtime mounted

/-- The same runtimes show the same list. -/
theorem SameListing.listTools (same : SameListing before after)
    (inventoried : before.Inventoried) (signature : String → Json) :
    ToolboxMcp.listTools signature after =
      ToolboxMcp.listTools signature before := by
  have shown : ∀ entry ∈ before.runtimes,
      after.isRunning entry.2 = before.isRunning entry.2 := by
    rintro ⟨home, runtime⟩ member
    have found :=
      KeyedList.lookup_of_mem Prod.fst inventoried.keys member
    apply same.running home
    unfold Dict.get
    rw [found]
    rfl
  have namespaces : after.mountedNamespaces = before.mountedNamespaces := by
    unfold World.mountedNamespaces
    rw [same.runtimes, List.filter_congr shown]
  have each : ∀ home,
      mountedToolsOf after home = mountedToolsOf before home := by
    intro home
    unfold mountedToolsOf World.runtimeFor World.mounted
    rw [same.runtimes]
    cases mounted : before.runtimes.get home with
    | none =>
        rfl
    | some runtime =>
        rw [Option.filter_some, Option.filter_some,
          same.running home runtime mounted]
        cases before.isRunning runtime with
        | true =>
            simp only [if_true]
            rw [same.tools home runtime mounted]
        | false =>
            rfl
  unfold ToolboxMcp.listTools listMountedToolDefinitions listAllMountedTools
  rw [namespaces, funext each]

end Worlds

end ToolboxMcp
