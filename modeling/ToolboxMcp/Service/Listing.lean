import Mathlib.Data.List.Sort
import ToolboxMcp.InventoryDrift
import ToolboxMcp.Service.Mounting
import ToolboxMcp.Service.Views

/-!
# Listing and dispatching mounted tools

`list_mounted_tools` names a tool by its namespace, a dot and its own name; a
call takes such a name apart by trying the mounted namespaces.  Both agree in a
world whose mounted namespaces have no dots and whose runtimes list no name
twice.
-/

namespace ToolboxMcp

open Effect

/-! ## The operations -/

/-- The tools of one namespace. -/
def mountedToolsOf (world : World) (ns : Namespace) : List MountedTool :=
  match world.runtimeFor ns with
  | some runtime =>
      (world.objects runtime).tools.map fun tool =>
        mountedToolOf ns (mountedToolName ns tool.name) tool
  | none => []

/-- `list_mounted_tools` without a namespace. -/
def listAllMountedTools (world : World) : List MountedTool :=
  (world.mountedNamespaces.flatMap (mountedToolsOf world)).insertionSort
    fun left right => left.mountedName ≤ right.mountedName

def isMountedTool (world : World) (mountedName : String) : Bool :=
  (resolveMountedTool world mountedName).isSome

/-! ## Names -/

def Undotted (ns : Namespace) : Prop :=
  '.' ∉ ns.toList

/-- Accepted by `register_toolset`, or the bundled toolset. -/
def Admitted [Platform] (ns : Namespace) : Prop :=
  isValidNamespace ns = true ∨ ns = "fake_stdio"

theorem Admitted.undotted [Platform] {ns : Namespace}
    (admitted : Admitted ns) : Undotted ns := by
  rcases admitted with valid | rfl
  · intro member
    simp only [isValidNamespace, Bool.and_eq_true, List.all_eq_true] at valid
    have dot := valid.2 '.' member
    rw [Platform.isalnum_dot] at dot
    cases dot
  · unfold Undotted
    decide

theorem split_at_first {left right : List Char} {rest others : List Char}
    (noLeft : '.' ∉ left) (noRight : '.' ∉ right)
    (same : left ++ '.' :: rest = right ++ '.' :: others) :
    left = right ∧ rest = others := by
  induction left generalizing right with
  | nil =>
      cases right with
      | nil =>
          exact ⟨rfl, List.tail_eq_of_cons_eq same⟩
      | cons first more =>
          rw [List.nil_append, List.cons_append] at same
          injection same with dot _
          exact absurd (dot ▸ List.mem_cons_self) noRight
  | cons character left inductionHypothesis =>
      cases right with
      | nil =>
          rw [List.nil_append, List.cons_append] at same
          injection same with dot _
          exact absurd (dot ▸ List.mem_cons_self) noLeft
      | cons first more =>
          rw [List.cons_append, List.cons_append] at same
          injection same with here later
          obtain ⟨rfl, rfl⟩ :=
            inductionHypothesis
              (fun member => noLeft (List.mem_cons_of_mem _ member))
              (fun member => noRight (List.mem_cons_of_mem _ member)) later
          exact ⟨by rw [here], rfl⟩

theorem toList_mountedToolName (ns : Namespace) (sourceName : String) :
    (mountedToolName ns sourceName).toList =
      ns.toList ++ '.' :: sourceName.toList := by
  simp [mountedToolName, String.toList_append]

/-- The parts of a mounted name can be read off it. -/
theorem mountedToolName_inj {ns other : Namespace} {name sourceName : String}
    (undotted : Undotted ns) (otherUndotted : Undotted other)
    (same : mountedToolName ns name = mountedToolName other sourceName) :
    ns = other ∧ name = sourceName := by
  have lists := congrArg String.toList same
  rw [toList_mountedToolName, toList_mountedToolName] at lists
  obtain ⟨namespaces, names⟩ := split_at_first undotted otherUndotted lists
  exact ⟨String.toList_inj.mp namespaces, String.toList_inj.mp names⟩

theorem afterPrefix_eq_some {head text rest : String} :
    afterPrefix head text = some rest ↔ text = head ++ rest := by
  unfold afterPrefix
  constructor
  · intro found
    split at found
    · rename_i starts
      obtain ⟨tail, split⟩ := List.isPrefixOf_iff_prefix.mp starts
      cases found
      apply String.toList_inj.mp
      rw [String.toList_append, String.toList_ofList, ← split,
        List.drop_left]
    · cases found
  · rintro rfl
    have starts :
        head.toList.isPrefixOf (head ++ rest).toList = true := by
      rw [String.toList_append]
      exact List.isPrefixOf_iff_prefix.mpr (List.prefix_append _ _)
    rw [if_pos starts, String.toList_append, List.drop_left,
      String.ofList_toList]

/-! ## Agreement in one world -/

/-- What listing and dispatching rely on. -/
structure World.Listed [Platform] (world : World) : Prop where
  keys : (world.runtimes.map Prod.fst).Nodup
  admitted :
    ∀ ns runtime, world.runtimes.get ns = some runtime → Admitted ns
  distinct :
    ∀ ns runtime, world.runtimes.get ns = some runtime →
      ((world.objects runtime).tools.map Tool.name).Nodup

section Agreement

variable [Platform] {world : World} {ns : Namespace} {mountedName : String}
  {tool : MountedTool}

theorem resolveIn_eq_some (listed : world.Listed) :
    resolveIn world mountedName ns = some tool ↔
      tool ∈ mountedToolsOf world ns ∧ tool.mountedName = mountedName := by
  unfold resolveIn mountedToolsOf
  cases running : world.runtimeFor ns with
  | none =>
      simp
  | some runtime =>
      have mounted := (World.runtimeFor_eq_some.mp running).1
      have distinct := listed.distinct ns runtime mounted
      simp only [bind, Option.bind_eq_some_iff, pure, Option.some.injEq,
        afterPrefix_eq_some, List.mem_map]
      constructor
      · rintro ⟨sourceName, rfl, _, rfl, source, found, rfl⟩
        have member := List.mem_of_find?_eq_some found
        have named := List.find?_some found
        rw [decide_eq_true_iff] at named
        subst named
        exact ⟨⟨source, member, rfl⟩, rfl⟩
      · rintro ⟨⟨source, member, rfl⟩, rfl⟩
        refine ⟨source.name, rfl, runtime, rfl, source, ?_, rfl⟩
        have found :
            ((world.objects runtime).tools.find? fun other =>
              other.name = source.name).isSome = true :=
          List.find?_isSome.mpr ⟨source, member, by simp⟩
        obtain ⟨other, first⟩ := Option.isSome_iff_exists.mp found
        have among := List.mem_of_find?_eq_some first
        have named := List.find?_some first
        rw [decide_eq_true_iff] at named
        rw [first, List.inj_on_of_nodup_map distinct among member named]

theorem nodup_mountedNamespaces (listed : world.Listed) :
    world.mountedNamespaces.Nodup := by
  unfold World.mountedNamespaces sortNames
  rw [(List.perm_insertionSort _ _).nodup_iff]
  exact listed.keys.sublist (List.filter_sublist.map Prod.fst)

theorem mem_mountedNamespaces (listed : world.Listed) :
    ns ∈ world.mountedNamespaces ↔
      ∃ runtime, world.runtimeFor ns = some runtime := by
  unfold World.mountedNamespaces sortNames
  rw [List.mem_insertionSort, List.mem_map]
  simp only [World.runtimeFor_eq_some, List.mem_filter]
  constructor
  · rintro ⟨⟨_, runtime⟩, ⟨entry, running⟩, rfl⟩
    have found := KeyedList.lookup_of_mem Prod.fst listed.keys entry
    refine ⟨runtime, ?_, running⟩
    unfold World.mounted Dict.get
    rw [found]
    rfl
  · rintro ⟨runtime, mounted, running⟩
    exact ⟨(ns, runtime), ⟨Dict.mem_of_get mounted, running⟩, rfl⟩

omit [Platform] in
theorem mem_mountedToolsOf :
    tool ∈ mountedToolsOf world ns ↔
      ∃ runtime source,
        world.runtimeFor ns = some runtime ∧
          source ∈ (world.objects runtime).tools ∧
          tool =
            mountedToolOf ns (mountedToolName ns source.name) source := by
  unfold mountedToolsOf
  cases world.runtimeFor ns with
  | none =>
      simp
  | some runtime =>
      simp [eq_comm]

theorem undotted_of_mem (listed : world.Listed)
    (member : tool ∈ mountedToolsOf world ns) : Undotted ns := by
  obtain ⟨runtime, _, running, _⟩ := mem_mountedToolsOf.mp member
  have mounted := (World.runtimeFor_eq_some.mp running).1
  exact (listed.admitted ns runtime mounted).undotted

/-- The mounted name tells the namespace and the source tool. -/
theorem parts_of_mountedName (listed : world.Listed) {other : Namespace}
    {found : MountedTool} (member : tool ∈ mountedToolsOf world ns)
    (among : found ∈ mountedToolsOf world other)
    (same : tool.mountedName = found.mountedName) :
    ns = other ∧ tool.sourceName = found.sourceName := by
  have undotted := undotted_of_mem listed member
  have otherUndotted := undotted_of_mem listed among
  obtain ⟨_, source, _, _, rfl⟩ := mem_mountedToolsOf.mp member
  obtain ⟨_, origin, _, _, rfl⟩ := mem_mountedToolsOf.mp among
  exact mountedToolName_inj undotted otherUndotted same

theorem nodup_mountedToolsOf (listed : world.Listed) (ns : Namespace) :
    ((mountedToolsOf world ns).map MountedTool.mountedName).Nodup := by
  unfold mountedToolsOf
  cases running : world.runtimeFor ns with
  | none =>
      exact List.nodup_nil
  | some runtime =>
      have mounted := (World.runtimeFor_eq_some.mp running).1
      have undotted := (listed.admitted ns runtime mounted).undotted
      have distinct := listed.distinct ns runtime mounted
      have names :
          ((world.objects runtime).tools.map fun tool =>
              mountedToolOf ns (mountedToolName ns tool.name) tool).map
              MountedTool.mountedName =
            ((world.objects runtime).tools.map Tool.name).map
              (mountedToolName ns) := by
        rw [List.map_map, List.map_map]
        rfl
      simp only [names]
      apply distinct.map
      exact fun name other same =>
        (mountedToolName_inj undotted undotted same).2

theorem mem_listAllMountedTools (listed : world.Listed) :
    tool ∈ listAllMountedTools world ↔
      ∃ ns, tool ∈ mountedToolsOf world ns := by
  unfold listAllMountedTools
  rw [List.mem_insertionSort, List.mem_flatMap]
  constructor
  · rintro ⟨ns, _, member⟩
    exact ⟨ns, member⟩
  · rintro ⟨ns, member⟩
    obtain ⟨runtime, _, running, _⟩ := mem_mountedToolsOf.mp member
    exact ⟨ns, (mem_mountedNamespaces listed).mpr ⟨runtime, running⟩,
      member⟩

/-- No name is listed twice. -/
theorem nodup_listAllMountedTools (listed : world.Listed) :
    ((listAllMountedTools world).map MountedTool.mountedName).Nodup := by
  unfold listAllMountedTools
  rw [((List.perm_insertionSort _ _).map _).nodup_iff, List.map_flatMap,
    List.nodup_flatMap]
  refine ⟨fun ns _ => nodup_mountedToolsOf listed ns, ?_⟩
  apply (nodup_mountedNamespaces listed).imp
  intro ns other different
  apply List.disjoint_left.mpr
  intro name here there
  obtain ⟨tool, member, rfl⟩ := List.mem_map.mp here
  obtain ⟨found, among, same⟩ := List.mem_map.mp there
  exact different (parts_of_mountedName listed member among same.symm).1

/-- A name is resolved to the tool listed under it. -/
theorem resolveMountedTool_eq_some (listed : world.Listed) :
    resolveMountedTool world mountedName = some tool ↔
      tool ∈ listAllMountedTools world ∧
        tool.mountedName = mountedName := by
  rw [mem_listAllMountedTools listed]
  unfold resolveMountedTool
  constructor
  · intro resolved
    obtain ⟨ns, _, found⟩ := List.exists_of_findSome?_eq_some resolved
    obtain ⟨member, named⟩ := (resolveIn_eq_some listed).mp found
    exact ⟨⟨ns, member⟩, named⟩
  · rintro ⟨⟨ns, member⟩, named⟩
    have resolves := (resolveIn_eq_some listed).mpr ⟨member, named⟩
    obtain ⟨runtime, _, running, _⟩ := mem_mountedToolsOf.mp member
    cases first : (world.mountedNamespaces.insertionSort fun left right =>
        right.length ≤ left.length).findSome?
          (resolveIn world mountedName) with
    | none =>
        rw [List.findSome?_eq_none_iff] at first
        have fails := first ns <| (List.mem_insertionSort _).mpr <|
          (mem_mountedNamespaces listed).mpr ⟨runtime, running⟩
        cases fails.symm.trans resolves
    | some found =>
        -- whichever namespace came first, its tool has the same name
        obtain ⟨other, _, matched⟩ :=
          List.exists_of_findSome?_eq_some first
        obtain ⟨among, same⟩ := (resolveIn_eq_some listed).mp matched
        obtain ⟨rfl, _⟩ :=
          parts_of_mountedName listed member among (named.trans same.symm)
        exact matched.symm.trans resolves

end Agreement

/-! ## What a stretch does to the mounted inventories -/

/-- Runtimes keep the inventory they came up with. -/
def SameInventories (before after : World) : Prop :=
  ∀ runtime < before.nextRuntime,
    (after.objects runtime).tools = (before.objects runtime).tools

/-- The mounted runtime of the namespace is kept, dropped, or replaced by one
that has listed a valid inventory. -/
inductive Relists [Platform] (ns : Namespace) (before after : World) :
    Prop where
  | kept
      (runtimes : after.runtimes = before.runtimes)
      (tools : SameInventories before after) :
      Relists ns before after
  | dropped
      (runtimes : after.runtimes = before.runtimes.pop ns)
      (tools : SameInventories before after) :
      Relists ns before after
  | mounted {runtime : RuntimeId}
      (owned : before.Owned ns runtime)
      (runtimes : after.runtimes = before.runtimes.set ns runtime)
      (listed :
        (validateToolInventory ns (after.objects runtime).tools).isOk = true)
      (tools : ∀ other < before.nextRuntime, other ≠ runtime →
        (after.objects other).tools = (before.objects other).tools) :
      Relists ns before after

theorem nodup_of_validate [Platform] {ns : Namespace} {tools : List Tool}
    (valid : (validateToolInventory ns tools).isOk = true) :
    (tools.map Tool.name).Nodup := by
  unfold validateToolInventory at valid
  simp only at valid
  split at valid
  · rename_i unique
    exact nodup_of_duplicateNames unique
  · cases valid

section Worlds

variable {ns : Namespace} {before after world : World}

theorem SameInventories.refl (world : World) : SameInventories world world :=
  fun _ _ => rfl

theorem sameInventories_markDone (runtime : RuntimeId) :
    SameInventories world (world.markDone runtime) := by
  intro other _
  rw [World.markDone_objects, Function.update_apply]
  split
  · rename_i same
    rw [same]
  · rfl

theorem sameInventories_markClosed (runtime : RuntimeId) :
    SameInventories world (world.markClosed runtime) := by
  intro other _
  rw [World.markClosed_objects, Function.update_apply]
  split
  · rename_i same
    rw [same]
  · rfl

theorem sameInventories_spawnRuntime :
    SameInventories world (world.spawnRuntime ns) := by
  intro other present
  rw [World.spawnRuntime_objects, Function.update_of_ne present.ne]

variable [Platform]

theorem SameTransport.relists (same : SameTransport before after) :
    Relists ns before after :=
  .kept same.runtimes fun runtime _ => by rw [same.objects]

theorem SameTransport.relists_markDone {runtime : RuntimeId}
    (same : SameTransport (before.markDone runtime) after) :
    Relists ns before after := by
  refine Relists.kept (same.runtimes.trans rfl) ?_
  intro other present
  rw [same.objects]
  exact sameInventories_markDone runtime other present

theorem SameTransport.relists_spawnRuntime
    (same : SameTransport before after) :
    Relists ns before (after.spawnRuntime ns) := by
  have runtimes : (after.spawnRuntime ns).runtimes = before.runtimes :=
    same.runtimes
  apply Relists.kept runtimes
  intro other present
  rw [← same.nextRuntime] at present
  rw [sameInventories_spawnRuntime other present, same.objects]

theorem relists_disconnected (existing : RuntimeId) :
    Relists ns world ((world.unmount ns).markClosed existing) :=
  .dropped rfl fun other present =>
    sameInventories_markClosed existing other present

/-- The opened runtime has come up. -/
theorem relists_landed {tools : List Tool} {runtime : RuntimeId}
    (owned : world.Owned ns runtime)
    (valid : bootstraps ns (.ok tools) = true)
    (runtimes : after.runtimes = (landed world ns runtime tools).runtimes)
    (objects : ∀ other, (after.objects other).tools =
      ((landed world ns runtime tools).objects other).tools) :
    Relists ns world after := by
  apply Relists.mounted owned runtimes
  · rw [objects]
    simpa [landed, bootstraps] using valid
  · intro other _ different
    rw [objects]
    simp [landed, Function.update_of_ne different]

/-- A world stays listed when an admitted namespace relists. -/
theorem Relists.listed (relists : Relists ns before after)
    (housed : before.Housed) (admitted : Admitted ns)
    (listed : before.Listed) : after.Listed := by
  cases relists with
  | kept runtimes tools =>
      constructor
      · rw [runtimes]
        exact listed.keys
      · rw [runtimes]
        exact listed.admitted
      · intro home runtime mounted
        rw [runtimes] at mounted
        rw [tools runtime (housed home runtime mounted).1]
        exact listed.distinct home runtime mounted
  | dropped runtimes tools =>
      have still : ∀ home runtime, after.runtimes.get home = some runtime →
          before.runtimes.get home = some runtime := by
        intro home runtime mounted
        rw [runtimes, Dict.get_pop] at mounted
        split at mounted
        · cases mounted
        · exact mounted
      constructor
      · rw [runtimes]
        exact KeyedList.nodup_keys_erase Prod.fst listed.keys ns
      · exact fun home runtime mounted =>
          listed.admitted home runtime (still home runtime mounted)
      · intro home runtime mounted
        have earlier := still home runtime mounted
        rw [tools runtime (housed home runtime earlier).1]
        exact listed.distinct home runtime earlier
  | @mounted landed owned runtimes valid tools =>
      have either : ∀ home runtime,
          after.runtimes.get home = some runtime →
            home = ns ∧ runtime = landed ∨
              home ≠ ns ∧ before.runtimes.get home = some runtime := by
        intro home runtime mounted
        rw [runtimes, Dict.get_set] at mounted
        split at mounted
        · rename_i here
          exact .inl ⟨here, (Option.some.inj mounted).symm⟩
        · rename_i elsewhere
          exact .inr ⟨elsewhere, mounted⟩
      constructor
      · rw [runtimes]
        exact KeyedList.nodup_keys_upsert Prod.fst listed.keys (ns, landed)
      · intro home runtime mounted
        rcases either home runtime mounted with ⟨rfl, _⟩ | ⟨_, earlier⟩
        · exact admitted
        · exact listed.admitted home runtime earlier
      · intro home runtime mounted
        rcases either home runtime mounted with
          ⟨rfl, rfl⟩ | ⟨elsewhere, earlier⟩
        · exact nodup_of_validate valid
        · obtain ⟨present, named⟩ := housed home runtime earlier
          have different : runtime ≠ landed := by
            rintro rfl
            exact elsewhere (named.symm.trans owned.2)
          rw [tools runtime present different]
          exact listed.distinct home runtime earlier

end Worlds

section Stretches

variable {ns : Namespace} {world : World}

variable [Platform]

theorem start_relists (operation : Operation) :
    wp (start operation ns) (fun _ after => Relists ns world after)
      (fun _ after => Relists ns world after) world := by
  have quietly : ∀ {after : World}, Quiet ns world after →
      Relists ns world after :=
    fun quiet => quiet.toSameTransport.relists
  have untouched : ∀ {after : World}, Untouched world after →
      Relists ns world after :=
    fun untouched => quietly (untouched.quiet ns)
  have opened : ∀ {after : World}, Quiet ns world after →
      Relists ns world (after.spawnRuntime ns) :=
    fun quiet => quiet.toSameTransport.relists_spawnRuntime
  have removed : ∀ {after : World}, Removed ns world after →
      Relists ns world after :=
    fun removed => .kept removed.runtimes fun _ _ => by rw [removed.objects]
  cases operation with
  | register transport registration =>
      apply startRegister_rule
      · exact fun _ _ same => untouched same
      · exact fun _ _ _ _ _ wrote => quietly wrote.toQuiet
      · exact fun _ _ _ _ _ _ _ wrote => quietly wrote.toQuiet
      · exact fun _ _ _ same => untouched same
  | activate scope ifNotLoaded =>
      apply startActivate_rule
      · exact fun _ _ same => untouched same
      · exact fun _ _ _ _ _ => quietly (.refl world)
      · exact fun _ _ _ _ _ _ _ _ _ _ wrote => quietly wrote.toQuiet
      · exact fun _ _ _ _ _ _ _ wrote => quietly wrote.toQuiet
      · exact fun _ _ _ _ _ _ wrote => opened wrote.toQuiet
      · exact fun _ _ _ _ _ wrote => quietly wrote.toQuiet
      · exact fun _ _ quiet _ => quietly quiet
  | refresh ifStale scope =>
      apply startRefresh_rule
      · exact fun _ _ same _ => untouched same
      · exact fun _ _ _ => opened (.refl world)
      · exact fun _ _ quiet _ => quietly quiet
  | deactivate scope force =>
      apply startDeactivate_rule
      · exact fun _ _ same _ => untouched same
      · exact fun _ _ _ _ _ wrote => quietly wrote.toQuiet
      · exact fun _ _ _ _ _ _ wrote => quietly wrote.toQuiet
      · exact fun _ existing _ _ _ _ _ => relists_disconnected existing
      · exact fun _ _ quiet _ => quietly quiet
  | restore stableHostIdentity startup =>
      apply startRestore_rule
      · exact fun _ _ same _ => untouched same
      · exact fun _ _ _ _ _ _ _ _ _ _ _ wrote => quietly wrote.toQuiet
      · exact fun _ _ _ _ _ _ _ _ _ wrote => quietly wrote.toQuiet
      · exact fun _ _ _ _ _ _ _ wrote => opened wrote.toQuiet
      · exact fun _ _ _ _ _ _ wrote => quietly wrote.toQuiet
      · exact fun _ _ quiet _ => quietly quiet
  | checkHealth scope =>
      apply startCheckHealth_rule
      · exact fun _ _ same _ => untouched same
      · exact fun _ _ _ _ => quietly (.refl world)
      · exact fun _ _ _ _ _ _ _ _ wrote => quietly wrote.toQuiet
      · exact fun _ _ quiet _ => quietly quiet
  | clearStale =>
      apply startClearStale_rule
      · exact fun _ _ same _ => untouched same
      · exact fun _ _ _ _ _ wrote => quietly wrote.toQuiet
      · exact fun _ _ quiet _ => quietly quiet
  | markStale reason =>
      apply startMarkStale_rule
      · exact fun _ => quietly (.refl world)
      · exact fun _ _ _ wrote => quietly wrote.toQuiet
      · exact fun _ _ quiet _ => quietly quiet
  | unregister force =>
      apply startUnregister_rule
      · exact fun _ _ same => untouched same
      · exact fun _ _ _ _ _ gone _ => removed gone
      · exact fun _ existing _ _ _ => relists_disconnected existing
      · rintro _ after _ (quiet | gone)
        · exact quietly quiet
        · exact removed gone

theorem resume_relists {stage : Stage} (proper : stage.Proper world ns)
    (reply : Reply) :
    wp (resume ns stage reply) (fun _ after => Relists ns world after)
      (fun _ after => Relists ns world after) world := by
  have same : Relists ns world world := (SameTransport.refl world).relists
  have quietly : ∀ {after : World}, Quiet ns world after →
      Relists ns world after :=
    fun quiet => quiet.toSameTransport.relists
  have done : ∀ (runtime : RuntimeId) {after : World},
      Quiet ns (world.markDone runtime) after → Relists ns world after :=
    fun _ _ quiet => quiet.toSameTransport.relists_markDone
  have ended : ∀ runtime, Relists ns world (world.markDone runtime) :=
    fun runtime => done runtime (.refl _)
  cases stage with
  | opening opening record runtime =>
      obtain ⟨named, owned⟩ := proper
      have lands : ∀ {tools : List Tool} {after : World},
          reply = .ok tools → bootstraps ns reply = true →
          Quiet ns (landed world ns runtime tools) after →
          Relists ns world after := by
        rintro tools after rfl valid quiet
        apply relists_landed owned valid quiet.runtimes
        intro other
        rw [quiet.objects]
      apply resumeOpening_rule named
      · exact fun _ => same
      · exact fun _ _ _ wrote => done runtime wrote.toQuiet
      · rintro tools snapshot existing rfl valid _ _
        have runtimes :
            ((landed world ns runtime tools).markClosed existing).runtimes =
              (landed world ns runtime tools).runtimes := rfl
        apply relists_landed owned valid runtimes
        intro other
        simp only [World.markClosed_objects, Function.update_apply]
        split
        · rename_i here
          rw [here]
        · rfl
      · exact fun _ _ _ _ replied valid _ _ installed =>
          lands replied valid installed.toQuiet
      · exact fun _ _ _ _ _ _ replied valid _ _ quiet _ _ _ =>
          lands replied valid quiet
      · rintro _ after _ (quiet | ⟨_, valid, tools, replied, quiet⟩)
        · exact done runtime quiet
        · exact lands replied valid quiet
  | swapping closing opening record snapshot =>
      apply resumeSwapping_rule proper.1 proper.2.1
      · exact fun _ => ended _
      · exact fun _ _ _ wrote => done _ wrote.toQuiet
      · exact fun _ _ _ installed => done _ installed.toQuiet
      · exact fun _ _ _ _ _ quiet _ _ _ => done _ quiet
      · exact fun _ _ quiet _ => done _ quiet
  | deactivating closing scope force record =>
      apply resumeDeactivating_rule proper.1
      · exact fun _ _ wrote => done _ wrote.toQuiet
      · exact fun _ _ => ended _
      · exact fun _ _ quiet _ => done _ quiet
  | unregistering closing force =>
      have removed : ∀ {after : World},
          Removed ns (world.markDone closing.runtime) after →
          Relists ns world after := by
        intro after gone
        refine Relists.kept (gone.runtimes.trans rfl) ?_
        intro other present
        rw [gone.objects]
        exact sameInventories_markDone closing.runtime other present
      apply resumeUnregistering_rule
      · exact fun _ _ gone _ => removed gone
      · exact fun _ _ => ended _
      · rintro _ after _ (quiet | gone)
        · exact done _ quiet
        · exact removed gone
  | probing scope record runtime =>
      apply resumeProbing_rule
      · exact fun _ _ _ _ _ _ _ _ _ _ wrote => quietly wrote.toQuiet
      · exact fun _ =>
          .kept rfl (sameInventories_markClosed runtime)
      · exact fun _ existing _ _ => relists_disconnected existing
      · exact fun _ _ => same
      · exact fun _ _ _ _ _ _ _ _ wrote => quietly wrote.toQuiet
      · exact fun _ => same
      · exact fun _ _ quiet _ => quietly quiet
  | aborting scope record runtime =>
      apply resumeAborting_rule
      · intro _ existing _
        have closed : SameInventories (world.markDone runtime)
            (((world.markDone runtime).unmount ns).markClosed existing) :=
          sameInventories_markClosed existing
        refine Relists.dropped rfl fun other present => ?_
        exact (closed other present).trans
          (sameInventories_markDone runtime other present)
      · exact fun _ _ => ended _
      · exact fun _ _ _ _ _ _ _ _ wrote => done _ wrote.toQuiet
      · exact fun _ => ended _
      · exact fun _ _ quiet _ => done _ quiet
  | unhealthy closing scope record exception =>
      apply resumeUnhealthy_rule
      · exact fun _ _ _ => ended _
      · exact fun _ _ _ _ _ _ _ _ wrote => done _ wrote.toQuiet
      · exact fun _ _ => ended _
      · exact fun _ _ quiet _ => done _ quiet

end Stretches

section Calls

variable [Platform] {tool : MountedTool} {world : World}

theorem finishCallFailure_relists (exception : PyException) :
    wp (finishCallFailure tool exception)
      (fun _ after => Relists tool.ns world after)
      (fun _ after => Relists tool.ns world after) world := by
  apply finishCallFailure_rule
  · exact fun _ _ untouched =>
      (untouched.quiet tool.ns).toSameTransport.relists
  · exact fun _ _ _ _ _ wrote => wrote.toSameTransport.relists
  · exact fun _ _ quiet _ _ => quiet.toSameTransport.relists

theorem callFailed_relists (exception : PyException) :
    wp (callFailed tool exception)
      (fun _ after => Relists tool.ns world after)
      (fun _ after => Relists tool.ns world after) world := by
  apply callFailed_rule
  · exact fun existing _ => relists_disconnected existing
  · exact fun _ => finishCallFailure_relists exception

theorem dispatchCall_relists :
    wp (dispatchCall tool) (fun _ after => Relists tool.ns world after)
      (fun _ after => Relists tool.ns world after) world := by
  apply dispatchCall_rule
  · exact fun _ _ => (SameTransport.refl world).relists
  · exact fun _ exception => callFailed_relists exception

theorem resumeCall_relists (stage : CallStage)
    (reply : Except Raised CallToolResult) :
    wp (resumeCall tool stage reply)
      (fun _ after => Relists tool.ns world after)
      (fun _ after => Relists tool.ns world after) world := by
  have same : Relists tool.ns world world :=
    (SameTransport.refl world).relists
  have ended : ∀ runtime, Relists tool.ns world (world.markDone runtime) :=
    fun runtime => (SameTransport.refl _).relists_markDone
  -- the failure handler runs after the runtime is done
  have later : ∀ {runtime : RuntimeId} {after : World},
      Relists tool.ns (world.markDone runtime) after →
      Relists tool.ns world after := by
    intro runtime after relists
    have before : SameInventories world (world.markDone runtime) :=
      sameInventories_markDone runtime
    cases relists with
    | kept runtimes tools =>
        exact .kept runtimes fun other present =>
          (tools other present).trans (before other present)
    | dropped runtimes tools =>
        exact .dropped runtimes fun other present =>
          (tools other present).trans (before other present)
    | @mounted landed owned runtimes listed tools =>
        refine .mounted ⟨owned.1, ?_⟩ runtimes listed
          fun other present different =>
            (tools other present different).trans (before other present)
        have named := owned.2
        rw [World.markDone_objects, Function.update_apply] at named
        split at named
        · rename_i here
          rw [here]
          exact named
        · exact named
  cases stage with
  | calling runtime =>
      apply resumeCalling_rule
      · exact fun _ _ => same
      · exact fun _ _ _ => .kept rfl (sameInventories_markClosed runtime)
      · exact fun exception _ _ => callFailed_relists exception
      · exact fun _ => same
  | aborting runtime =>
      apply resumeCallAborting_rule
      · intro exception _
        exact wp_mono (callFailed_relists exception)
          (fun _ _ => later) fun _ _ => later
      · exact fun _ => ended runtime
  | disconnecting closing exception =>
      apply resumeCallDisconnecting_rule
      · intro _
        exact wp_mono (finishCallFailure_relists exception)
          (fun _ _ => later) fun _ _ => later
      · exact fun _ _ => ended closing.runtime

end Calls

end ToolboxMcp
