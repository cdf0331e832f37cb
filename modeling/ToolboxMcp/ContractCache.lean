import ToolboxMcp.Library.History
import ToolboxMcp.Lifetime
import ToolboxMcp.Mounted
import ToolboxMcp.Service.Caching

/-!
# The contract cache

The hashes and the tool count of a record and the snapshots of the two caches
are written in separate steps by different operations.  In every life of a host
they agree, and the previous snapshot of a namespace is the one that was
current before its last opening.
-/

namespace ToolboxMcp

open Effect

/-! ## Agreement of records and snapshots -/

section Coherence

variable [Platform]

/-- The record of the namespace agrees with its snapshots. -/
structure World.Coherent (world : World) (ns : Namespace) : Prop where
  unregistered :
    world.contract ns = none →
      world.document.getSchemaSnapshot ns = none
  schemaHash :
    ∀ contract, world.contract ns = some contract →
      contract.1 =
        (world.document.getSchemaSnapshot ns).map SchemaSnapshot.schemaHash
  previousSchemaHash :
    ∀ contract, world.contract ns = some contract →
      contract.2.1 =
        (world.document.getPreviousSchemaSnapshot ns).map
          SchemaSnapshot.schemaHash
  toolCount :
    ∀ contract snapshot, world.contract ns = some contract →
      world.document.getSchemaSnapshot ns = some snapshot →
      contract.2.2 = snapshot.toolCount
  current :
    ∀ snapshot, world.document.getSchemaSnapshot ns = some snapshot →
      Captured ns snapshot
  previous :
    ∀ snapshot,
      world.document.getPreviousSchemaSnapshot ns = some snapshot →
        Captured ns snapshot
  /-- There is no previous snapshot before there is a current one. -/
  first :
    world.document.getSchemaSnapshot ns = none →
      world.document.getPreviousSchemaSnapshot ns = none

variable {ns : Namespace} {before after : World}

theorem SameContract.coherent (same : SameContract ns before after)
    (coherent : before.Coherent ns) : after.Coherent ns where
  unregistered := by
    rw [same.contract, same.snapshot]
    exact coherent.unregistered
  schemaHash := by
    rw [same.contract, same.snapshot]
    exact coherent.schemaHash
  previousSchemaHash := by
    rw [same.contract, same.previous]
    exact coherent.previousSchemaHash
  toolCount := by
    rw [same.contract, same.snapshot]
    exact coherent.toolCount
  current := by
    rw [same.snapshot]
    exact coherent.current
  previous := by
    rw [same.previous]
    exact coherent.previous
  first := by
    rw [same.snapshot, same.previous]
    exact coherent.first

/-- The snapshot an opening retires becomes the previous one. -/
theorem World.Coherent.retires (coherent : before.Coherent ns) :
    (before.document.getSchemaSnapshot ns).or
        (before.document.getPreviousSchemaSnapshot ns) =
      before.document.getSchemaSnapshot ns := by
  cases current : before.document.getSchemaSnapshot ns with
  | none =>
      rw [coherent.first current]
      rfl
  | some snapshot =>
      rfl

theorem CacheStep.coherent {events : List CacheEvent}
    (step : CacheStep ns before after events)
    (coherent : before.Coherent ns) : after.Coherent ns := by
  cases step with
  | kept same =>
      exact same.coherent coherent
  | registered missing written snapshot previous =>
      have noSnapshot : after.document.getSchemaSnapshot ns = none :=
        snapshot.trans (coherent.unregistered missing)
      have noPrevious :
          after.document.getPreviousSchemaSnapshot ns = none :=
        previous.trans (coherent.first (coherent.unregistered missing))
      constructor
      · exact fun _ => noSnapshot
      · intro contract found
        cases written.symm.trans found
        rw [noSnapshot]
        rfl
      · intro contract found
        cases written.symm.trans found
        rw [noPrevious]
        rfl
      · intro contract snapshot _ found
        cases noSnapshot.symm.trans found
      · intro snapshot found
        cases noSnapshot.symm.trans found
      · intro snapshot found
        cases noPrevious.symm.trans found
      · exact fun _ => noPrevious
  | @opened record snapshot previousHash captured stored remembered written
      replaced retired =>
      rw [coherent.retires] at retired
      have hash :
          previousHash =
            (before.document.getSchemaSnapshot ns).map
              SchemaSnapshot.schemaHash := by
        rcases remembered with same | same
        · have known := coherent.schemaHash _ stored
          exact same.trans known
        · exact same
      constructor
      · intro missing
        cases written.symm.trans missing
      · intro contract found
        cases written.symm.trans found
        rw [replaced]
        rfl
      · intro contract found
        cases written.symm.trans found
        rw [retired]
        exact hash
      · intro contract other found current
        cases written.symm.trans found
        cases replaced.symm.trans current
        rfl
      · intro other found
        cases replaced.symm.trans found
        exact captured
      · intro other found
        rw [retired] at found
        exact coherent.current other found
      · intro missing
        cases replaced.symm.trans missing
  | unregistered gone snapshot previous =>
      constructor
      · exact fun _ => snapshot
      · intro contract found
        cases gone.symm.trans found
      · intro contract found
        cases gone.symm.trans found
      · intro contract other found
        cases gone.symm.trans found
      · intro other found
        cases snapshot.symm.trans found
      · intro other found
        cases previous.symm.trans found
      · exact fun _ => previous

end Coherence

/-! ## The snapshot retired last -/

def CacheEvent.removes (ns : Namespace) : CacheEvent → Bool
  | .unregistered home => home = ns
  | .opened .. => false

def CacheEvent.opens (ns : Namespace) : CacheEvent → Bool
  | .opened home _ => home = ns
  | .unregistered _ => false

def CacheEvent.retired : CacheEvent → Option SchemaSnapshot
  | .opened _ snapshot => snapshot
  | .unregistered _ => none

/-- What was current before the last opening since the registration. -/
def retiredLast (ns : Namespace) (history : List CacheEvent) :
    Option SchemaSnapshot :=
  (History.mostRecent (CacheEvent.removes ns) (CacheEvent.opens ns)
    history).bind CacheEvent.retired

theorem retiredLast_opened (home ns : Namespace)
    (snapshot : Option SchemaSnapshot) (history : List CacheEvent) :
    retiredLast ns (history ++ [.opened home snapshot]) =
      if home = ns then snapshot else retiredLast ns history := by
  unfold retiredLast
  rw [History.mostRecent_concat]
  by_cases same : home = ns
  · simp [CacheEvent.removes, CacheEvent.opens, CacheEvent.retired, same]
  · simp [CacheEvent.removes, CacheEvent.opens, same]

theorem retiredLast_unregistered (home ns : Namespace)
    (history : List CacheEvent) :
    retiredLast ns (history ++ [.unregistered home]) =
      if home = ns then none else retiredLast ns history := by
  unfold retiredLast
  rw [History.mostRecent_concat]
  by_cases same : home = ns
  · simp [CacheEvent.removes, same]
  · simp [CacheEvent.removes, CacheEvent.opens, same]

section Steps

variable [Platform] {ns : Namespace} {before after : World}

theorem CacheStep.retires {events history : List CacheEvent}
    (step : CacheStep ns before after events)
    (coherent : before.Coherent ns)
    (known :
      before.document.getPreviousSchemaSnapshot ns =
        retiredLast ns history) :
    after.document.getPreviousSchemaSnapshot ns =
      retiredLast ns (history ++ events) := by
  cases step with
  | kept same =>
      rw [same.previous, List.append_nil]
      exact known
  | registered missing written snapshot previous =>
      rw [previous, List.append_nil]
      exact known
  | opened captured stored remembered written replaced retired =>
      rw [retired, coherent.retires, retiredLast_opened, if_pos rfl]
  | unregistered gone snapshot previous =>
      rw [previous, retiredLast_unregistered, if_pos rfl]

/-- The events of one namespace say nothing of another. -/
theorem CacheStep.elsewhere {other : Namespace}
    {events history : List CacheEvent}
    (step : CacheStep ns before after events) (different : other ≠ ns) :
    retiredLast other (history ++ events) = retiredLast other history := by
  cases step with
  | kept same =>
      rw [List.append_nil]
  | registered missing written snapshot previous =>
      rw [List.append_nil]
  | opened captured stored remembered written replaced retired =>
      rw [retiredLast_opened, if_neg different.symm]
  | unregistered gone snapshot previous =>
      rw [retiredLast_unregistered, if_neg different.symm]

end Steps

/-! ## Starts -/

section Starts

/-- The caches are as before. -/
def SameCaches (before after : World) : Prop :=
  after.document.schemaCache = before.document.schemaCache ∧
    after.document.previousSchemaCache = before.document.previousSchemaCache

theorem SameCaches.trans (first second third : World)
    (left : SameCaches first second) (right : SameCaches second third) :
    SameCaches first third :=
  ⟨right.1.trans left.1, right.2.trans left.2⟩

theorem sameCaches_upsertToolset (record : ToolsetRecord) :
    Keeps SameCaches (upsertToolset record) := by
  intro world
  have executed :
      wp (upsertToolset record) (fun _ after => SameCaches world after)
        (fun _ after => SameCaches world after) world := by
    unfold upsertToolset
    rw [wp_storeWrite]
    cases world.nextFault with
    | some exception =>
        exact ⟨rfl, rfl⟩
    | none =>
        exact ⟨rfl, rfl⟩
  exact final_of_wp executed

theorem sameCaches_reconcileRecords (records : List ToolsetRecord) :
    Keeps SameCaches (reconcileRecords records) := by
  induction records with
  | nil =>
      exact keeps_pure (fun _ => ⟨rfl, rfl⟩) ()
  | cons record rest inductionHypothesis =>
      unfold reconcileRecords
      split
      · exact keeps_bind SameCaches.trans (sameCaches_upsertToolset _)
          fun _ => inductionHypothesis
      · exact inductionHypothesis

theorem sameCaches_startService : Keeps SameCaches startService := by
  refine keeps_bind SameCaches.trans
    (keeps_modify fun _ => ⟨rfl, rfl⟩) fun _ => ?_
  have bundles : Keeps SameCaches bootstrapDefaults := by
    refine keeps_bind SameCaches.trans
      (keeps_get fun _ => ⟨rfl, rfl⟩) fun world => ?_
    split
    · exact keeps_pure (fun _ => ⟨rfl, rfl⟩) ()
    · exact sameCaches_upsertToolset _
  refine keeps_bind SameCaches.trans bundles fun _ => ?_
  exact keeps_bind SameCaches.trans
    (keeps_get fun _ => ⟨rfl, rfl⟩)
    fun world => sameCaches_reconcileRecords _

end Starts

namespace Machine

section Runs

variable [Platform]

/-- The action resumes a stage in which a runtime is being opened. -/
def opening (machine : Machine) : Action → Bool
  | .reply task _ =>
      match machine.tasks task with
      | some (.suspended _ _ _ _ _ stage) => stage.opens
      | _ => false
  | _ => false

/-- The events an observer of the responses records. -/
def cacheEvents (machine : Machine) (action : Option Action)
    (_ : Machine) : List CacheEvent :=
  match action.bind fun action =>
    (machine.visit action).map fun visit => (action, visit) with
  | some (action, visit) =>
      ToolboxMcp.cacheEvents machine.world visit.ns (machine.opening action)
        (machine.reports action)
  | none => []

structure Cached (machine : Machine) (history : List CacheEvent) :
    Prop where
  coherent : ∀ ns, machine.world.Coherent ns
  retired :
    ∀ ns,
      machine.world.document.getPreviousSchemaSnapshot ns =
        retiredLast ns history
  recalls :
    ∀ task ns lock operation rest entries stage,
      machine.tasks task =
          some (.suspended ns lock operation rest entries stage) →
        stage.Recalls machine.world ns

variable {machine after : Machine} {history : List CacheEvent}

/-- One task has moved on without suspending in a block. -/
theorem Cached.advance (cached : machine.Cached history) {task : TaskId}
    {next : Task}
    (tasks : after.tasks = Function.update machine.tasks task (some next))
    (same : SameContracts machine.world after.world)
    (awake : ∀ ns lock operation rest entries stage,
      next ≠ .suspended ns lock operation rest entries stage) :
    after.Cached history where
  coherent ns := (same ns).coherent (cached.coherent ns)
  retired ns := (same ns).previous.trans (cached.retired ns)
  recalls := by
    intro other ns lock operation rest entries stage found
    rw [tasks] at found
    by_cases here : other = task
    · subst here
      rw [Function.update_self] at found
      exact absurd (Option.some.inj found) (awake _ _ _ _ _ _)
    · rw [Function.update_of_ne here] at found
      exact (cached.recalls other _ _ _ _ _ _ found).same (same ns)

omit [Platform] in
theorem CallStretch.contracts {task : TaskId} {tool : MountedTool}
    {world : World} {program : ServiceM CallProgress}
    (reliable : machine.world.Reliable)
    (stretch : machine.CallStretch task tool world program) :
    wp program (fun _ after => SameContracts machine.world after)
      (fun _ after => SameContracts machine.world after) world := by
  have counted := stretch.aside
  have before : SameContracts machine.world world := by
    intro ns
    refine ⟨?_, counted.snapshots ns, counted.previousSnapshots ns⟩
    unfold World.contract
    rw [counted.records]
  have later :
      wp program (fun _ after => SameContracts world after)
        (fun _ after => SameContracts world after) world := by
    cases stretch with
    | first found turn resolved =>
        exact dispatchCall_contracts (counted.reliable reliable)
    | later reply found free =>
        exact resumeCall_contracts reliable _ reply
  apply wp_mono later
  · exact fun _ _ same => before.trans same
  · exact fun _ _ same => before.trans same

section Stretches

/-- What a stretch makes of the contract of its namespace. -/
theorem visit_caches (orderly : machine.Orderly)
    (cached : machine.Cached history) {action : Action} {visit : Visit}
    (visits : machine.visit action = some visit) :
    wp visit.program
      (fun progress after =>
        progress.Caches visit.ns (machine.opening action) machine.world after)
      (fun _ after => SameContract visit.ns machine.world after)
      machine.world := by
  unfold Machine.visit at visits
  cases action with
  | enter task =>
      simp only at visits
      split at visits
      · cases visits
        exact start_caches orderly.reliable _
      · cases visits
  | reply task reply =>
      simp only at visits
      split at visits
      · rename_i ns lock operation rest entries stage found
        cases visits
        have opens : machine.opening (.reply task reply) = stage.opens := by
          simp [opening, found]
        rw [opens]
        exact resume_caches orderly.reliable
          (cached.recalls task _ _ _ _ _ _ found)
          (orderly.sane.proper task _ found) reply
      · cases visits
  | _ =>
      cases visits

variable {task : TaskId} {ns : Namespace} {lock : LockId}
  {operation : Operation} {rest : List Namespace} {entries : List Entry}
  {program : ServiceM Progress} {action : Action}

/-- The end of a stretch of a block, whose task excludes all others from the
namespace. -/
theorem cached_proceed (orderly : machine.Orderly)
    (cached : machine.Cached history)
    (stretch : machine.Stretch task ns lock operation rest entries program)
    (visits : machine.visit action = some ⟨ns, operation, program⟩) :
    (machine.proceed task ns lock operation rest entries
      (outcome program machine.world)).Cached
      (history ++
        ToolboxMcp.cacheEvents machine.world ns (machine.opening action)
          (reported (outcome program machine.world).1)) := by
  have advanced : ∀ {next : Task} {world : World} {moved : Machine}
      {events : List CacheEvent},
      moved.tasks = Function.update machine.tasks task (some next) →
      moved.world = world → Sound ns machine.world world →
      CacheStep ns machine.world world events →
      (∀ home held asked later earlier stage,
        next = .suspended home held asked later earlier stage →
          stage.Recalls world home) →
      moved.Cached (history ++ events) := by
    intro next world moved events tasks reached sound contracts suspends
    subst reached
    constructor
    · intro home
      by_cases same : home = ns
      · subst same
        exact contracts.coherent (cached.coherent home)
      · have unchanged := sound.toConfined.sameContract same
        exact unchanged.coherent (cached.coherent home)
    · intro home
      by_cases same : home = ns
      · subst same
        exact contracts.retires (cached.coherent home) (cached.retired home)
      · have unchanged := sound.toConfined.sameContract same
        rw [contracts.elsewhere same, unchanged.previous]
        exact cached.retired home
    · intro other home held asked later earlier stage found
      rw [tasks] at found
      by_cases same : other = task
      · subst same
        rw [Function.update_self] at found
        exact suspends _ _ _ _ _ _ (Option.some.inj found)
      · rw [Function.update_of_ne same] at found
        have different :=
          stretch.elsewhere orderly.sane orderly.serialized same found
        exact (cached.recalls other _ _ _ _ _ _ found).same
          (sound.toConfined.sameContract different)
  have contracts := visit_caches orderly cached visits
  rcases wp_cases (wp_and (stretch.sound orderly.sane) contracts) with
    ⟨stage | more, world, computed, ⟨sound, _⟩, caches⟩ |
      ⟨raised, world, computed, sound, same⟩
  · have reported := caches.cached
    simp only [computed]
    refine advanced rfl rfl sound reported ?_
    intro home held asked later earlier suspended next
    cases next
    exact caches.recalls
  · have reported := caches.cached
    simp only [computed]
    refine advanced rfl rfl sound reported ?_
    intro home held asked later earlier suspended next
    cases rest <;> cases next
  · simp only [computed]
    refine advanced rfl rfl sound (.kept same) ?_
    intro home held asked later earlier suspended next
    cases next

end Stretches

theorem cached_turn (orderly : machine.Orderly)
    (cached : machine.Cached history) {action : Action}
    (turn : machine.Turn action after) :
    after.Cached (history ++ machine.cacheEvents (some action) after) := by
  have silent : machine.visit action = none →
      after.Cached history →
      after.Cached
        (history ++ machine.cacheEvents (some action) after) := by
    intro elsewhere holds
    have nothing : machine.cacheEvents (some action) after = [] := by
      simp [cacheEvents, elsewhere]
    rw [nothing, List.append_nil]
    exact holds
  cases turn with
  | aside moves tasks awake world elsewhere =>
      apply silent elsewhere
      have same : SameContracts machine.world after.world := by
        intro ns
        refine ⟨?_, world.snapshots ns, world.previousSnapshots ns⟩
        unfold World.contract
        rw [world.records]
      apply cached.advance tasks same
      rintro _ _ _ _ _ _ rfl
      cases awake
  | visiting stretch proceeds visits =>
      subst proceeds
      have events := cached_proceed orderly cached stretch visits
      simpa [cacheEvents, reports, visits] using events
  | calling stretch proceeds elsewhere =>
      apply silent elsewhere
      subst proceeds
      rcases wp_cases (stretch.contracts orderly.reliable) with
        ⟨stage | result, world, computed, same⟩ |
          ⟨raised, world, computed, same⟩
      · rw [computed]
        exact cached.advance rfl same (by simp)
      · rw [computed]
        exact cached.advance rfl same (by simp [concluding])
      · rw [computed]
        exact cached.advance rfl same (by simp [concluding])
  | @dying runtime died elsewhere =>
      apply silent elsewhere
      subst died
      have same : SameContracts machine.world
          (machine.world.markDone runtime) := fun _ => ⟨rfl, rfl, rfl⟩
      constructor
      · exact fun ns => (same ns).coherent (cached.coherent ns)
      · exact fun ns => (same ns).previous.trans (cached.retired ns)
      · intro task ns lock operation rest entries stage found
        exact (cached.recalls task _ _ _ _ _ _ found).same (same ns)

omit [Platform] in
theorem contract_bundled {world after : World}
    (records : ∀ ns, after.document.getToolset ns =
      (bundled world ns).map reconciledRecord) (ns : Namespace) :
    after.contract ns = world.contract ns ∨
      world.contract ns = none ∧ after.contract ns = some (none, none, 0) := by
  have reconciled :
      after.contract ns = (bundled world ns).map ToolsetRecord.contract := by
    unfold World.contract
    rw [records ns, Option.map_map]
    rfl
  rw [reconciled]
  unfold bundled World.contract
  cases stored : world.document.getToolset ns with
  | some record =>
      exact .inl rfl
  | none =>
      by_cases same : ns = "fake_stdio"
      · right
        rw [if_pos same]
        exact ⟨rfl, rfl⟩
      · left
        rw [if_neg same]
        rfl

/-- A start leaves the contracts alone, except that the bundled toolset is
registered where it is missing. -/
theorem cacheStep_restart (reliable : machine.world.Reliable)
    (distinct : machine.world.document.Distinct) (ns : Namespace) :
    CacheStep ns machine.world machine.restart.world [] := by
  obtain ⟨_, records⟩ := restart_spec reliable distinct
  have caches : SameCaches machine.world machine.restart.world :=
    sameCaches_startService machine.world
  have snapshot :
      machine.restart.world.document.getSchemaSnapshot ns =
        machine.world.document.getSchemaSnapshot ns := by
    unfold StateDocument.getSchemaSnapshot
    rw [caches.1]
  have previous :
      machine.restart.world.document.getPreviousSchemaSnapshot ns =
        machine.world.document.getPreviousSchemaSnapshot ns := by
    unfold StateDocument.getPreviousSchemaSnapshot
    rw [caches.2]
  rcases contract_bundled records ns with same | ⟨missing, written⟩
  · exact .kept ⟨same, snapshot, previous⟩
  · exact .registered missing written snapshot previous

/-- A new process reads the document the last one has left. -/
theorem cached_restart (reliable : machine.world.Reliable)
    (distinct : machine.world.document.Distinct)
    (cached : machine.Cached history) : machine.restart.Cached history where
  coherent ns :=
    (cacheStep_restart reliable distinct ns).coherent (cached.coherent ns)
  retired ns := by
    have later :=
      (cacheStep_restart reliable distinct ns).retires (cached.coherent ns)
        (cached.retired ns)
    rw [List.append_nil] at later
    exact later
  recalls := by
    intro task ns lock operation rest entries stage found
    cases found

theorem cached_lifeStep (orderly : machine.Orderly)
    (cached : machine.Cached history) {action : Option Action}
    (taken : lifeStep machine action = some after) :
    after.Cached (history ++ machine.cacheEvents action after) := by
  cases action with
  | none =>
      cases taken
      have nothing :
          machine.cacheEvents none machine.restart = [] := rfl
      rw [nothing, List.append_nil]
      exact cached_restart orderly.reliable orderly.distinct cached
  | some action =>
      exact cached_turn orderly cached (turn_of_step taken)

theorem cached_emptyHost (config : HostConfig) :
    (emptyHost config).Cached [] := by
  constructor
  · intro ns
    constructor
    · exact fun _ => rfl
    · intro contract found
      cases found
    · intro contract found
      cases found
    · intro contract snapshot found
      cases found
    · intro snapshot found
      cases found
    · intro snapshot found
      cases found
    · exact fun _ => rfl
  · exact fun ns => rfl
  · intro task ns lock operation rest entries stage found
    cases found

/-- A life of a host, with the events of its caches so far. -/
abbrev cachingStep :=
  monitor lifeStep cacheEvents

theorem cached_of_lives {config : HostConfig}
    {recorded : Machine × List CacheEvent}
    (reaches :
      Reaches cachingStep (fun state => state.1.OneAtATime)
        (firstProcess config, []) recorded) :
    recorded.1.Orderly ∧ recorded.1.Cached recorded.2 := by
  have initial : (firstProcess config).Cached [] :=
    cached_restart (reliable_emptyHost config) StateDocument.distinct_empty
      (cached_emptyHost config)
  have started := coupled_of_lives
    (.start : Reaches lifeStep OneAtATime (firstProcess config) _)
  apply reaches.invariant ⟨started.1, initial⟩
  intro before action next invariant meets taken
  obtain ⟨orderly, cached⟩ := invariant
  obtain ⟨moved, events⟩ := monitor_eq_some.mp taken
  refine ⟨orderly_lifeStep orderly meets moved, ?_⟩
  rw [events]
  exact cached_lifeStep orderly cached moved

/-- In every state of every life of a host each namespace has at most one
current and one previous snapshot, and only if it is registered; every snapshot
agrees with its tools, every record with its snapshots; and the previous
snapshot is the one the last opening has retired. -/
theorem contract_cache {config : HostConfig} {machine : Machine}
    {history : List CacheEvent}
    (reaches :
      Reaches cachingStep (fun state => state.1.OneAtATime)
        (firstProcess config, []) (machine, history)) :
    (machine.world.document.schemaCache.map SchemaSnapshot.ns).Nodup ∧
      (machine.world.document.previousSchemaCache.map
        SchemaSnapshot.ns).Nodup ∧
      (∀ snapshot,
        snapshot ∈ machine.world.document.schemaCache ∨
            snapshot ∈ machine.world.document.previousSchemaCache →
          machine.world.record snapshot.ns ≠ none ∧
            snapshot.schemaHash = inventoryHash snapshot.tools ∧
            snapshot.toolCount = snapshot.tools.length) ∧
      (∀ ns record, machine.world.record ns = some record →
        record.schemaHash =
            (machine.world.document.getSchemaSnapshot ns).map
              SchemaSnapshot.schemaHash ∧
          record.previousSchemaHash =
            (machine.world.document.getPreviousSchemaSnapshot ns).map
              SchemaSnapshot.schemaHash ∧
          ∀ snapshot,
            machine.world.document.getSchemaSnapshot ns = some snapshot →
              record.toolCount = snapshot.toolCount) ∧
      ∀ ns,
        machine.world.document.getPreviousSchemaSnapshot ns =
          retiredLast ns history := by
  obtain ⟨orderly, cached⟩ := cached_of_lives reaches
  refine ⟨orderly.distinct.snapshots, orderly.distinct.previousSnapshots,
    ?_, ?_, cached.retired⟩
  · intro snapshot member
    have captured : Captured snapshot.ns snapshot := by
      rcases member with current | previous
      · exact (cached.coherent snapshot.ns).current snapshot
          (KeyedList.lookup_of_mem _ orderly.distinct.snapshots current)
      · exact (cached.coherent snapshot.ns).previous snapshot
          (KeyedList.lookup_of_mem _ orderly.distinct.previousSnapshots
            previous)
    refine ⟨?_, captured.schemaHash, captured.toolCount⟩
    intro missing
    have noRecord :
        machine.world.document.getToolset snapshot.ns = none := missing
    have uncontracted : machine.world.contract snapshot.ns = none := by
      simp [World.contract, noRecord]
    have noSnapshot :=
      (cached.coherent snapshot.ns).unregistered uncontracted
    rcases member with current | previous
    · have found := KeyedList.lookup_of_mem SchemaSnapshot.ns
        orderly.distinct.snapshots current
      cases found.symm.trans noSnapshot
    · have found := KeyedList.lookup_of_mem SchemaSnapshot.ns
        orderly.distinct.previousSnapshots previous
      have noPrevious := (cached.coherent snapshot.ns).first noSnapshot
      cases found.symm.trans noPrevious
  · intro ns record found
    have contract := World.contract_of_found found
    have coherent := cached.coherent ns
    exact ⟨coherent.schemaHash _ contract,
      coherent.previousSchemaHash _ contract,
      fun snapshot current => coherent.toolCount _ snapshot contract current⟩

end Runs

section Ascii

open scoped Ascii

/-- The bundled toolset is activated and refreshed in the first process. -/
theorem contract_cache_fake :
    ∃ machine history,
      Reaches cachingStep (fun state => state.1.OneAtATime)
          (firstProcess {}, []) (machine, history) ∧
        (machine.world.document.getPreviousSchemaSnapshot
          "fake_stdio").isSome ∧
        machine.world.document.getPreviousSchemaSnapshot "fake_stdio" =
          retiredLast "fake_stdio" history := by
  obtain ⟨⟨machine, history⟩, reaches, present⟩ :=
    exists_reaches_of_execute
      [some (.request (.activateToolsets ["fake_stdio"] "thread" true)),
       some (.acquire 0), some (.enter 0), some (.reply 0 (.ok [])),
       some (.request (.refreshToolsets ["fake_stdio"] false none)),
       some (.acquire 1), some (.enter 1), some (.reply 1 (.ok [])),
       some (.reply 1 (.ok []))]
      (by decide +kernel :
        (execute cachingStep (fun state => state.1.OneAtATime)
            (firstProcess {}, []) _).any
          (fun final =>
            (final.1.world.document.getPreviousSchemaSnapshot
              "fake_stdio").isSome = true) = true)
  exact ⟨machine, history, reaches, present,
    (contract_cache reaches).2.2.2.2 "fake_stdio"⟩

end Ascii

end Machine

end ToolboxMcp
