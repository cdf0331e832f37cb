import ToolboxMcp.Liveness
import ToolboxMcp.Retained
import ToolboxMcp.Retries
import ToolboxMcp.ScopeHistory

/-!
# What a crash leaves to be restored

A scope that may be restored is recoverable as long as it is loaded, in every
record the service writes or holds.  So it does not matter where in its
operations a process is killed: the next start finds every such scope among the
recoverable ones, and keeps it there.
-/

namespace ToolboxMcp

open Effect

theorem scopePolicy_of_registered {record edited : ToolsetRecord}
    (same : edited.registered = record.registered)
    (loaded : edited.loadedScopes = record.loadedScopes)
    (recoverable : edited.recoverableScopes = record.recoverableScopes) :
    scopePolicy edited = scopePolicy record := by
  have policy : ∀ made : ToolsetRecord,
      scopePolicy made =
        { scopePolicy made.registered with
          loadedScopes := made.loadedScopes
          recoverableScopes := made.recoverableScopes } :=
    fun _ => rfl
  rw [policy edited, policy record, same, loaded, recoverable]

/-- No edit spoils a well-kept record. -/
def RecordInvariant.wellKept : RecordInvariant where
  holds := WellKept
  relabelled := fun kept same loaded recoverable =>
    kept.congr (scopePolicy_of_registered same loaded recoverable).symm
  activated := WellKept.activated
  restored := by
    intro record scopes kept lost
    constructor
    case toScopePolicyValid =>
      apply kept.toScopePolicyValid.addScopes
      intro scope member
      exact kept.restorable_supported scope
        (kept.recoverable_restorable scope (lost scope member))
    case backed =>
      intro scope loaded restorable
      rw [addScopes_eq] at restorable ⊢
      rcases (mem_addScopes record scope _).mp loaded with added | earlier
      · exact lost scope added
      · exact kept.backed scope earlier restorable
  reduced := WellKept.withoutScope
  reconciled := WellKept.reconciled

/-- The host has the identity that a restore of the toolset requires. -/
def ToolsetRecord.Identified (record : ToolsetRecord) (identity : Bool) :
    Prop :=
  record.restoreRequiresIdentity = true → identity = true

theorem reconciledRecord_identified {record : ToolsetRecord}
    {identity : Bool} (identified : record.Identified identity) :
    (reconciledRecord record).Identified identity := by
  unfold reconciledRecord
  split
  · exact identified
  · exact identified

/-- With the identity and on request, everything recoverable is offered. -/
theorem WellKept.offered_explicitly {record : ToolsetRecord}
    (kept : WellKept record) {identity : Bool}
    (identified : record.Identified identity) (scope : Scope) :
    scope ∈ ToolboxMcp.recoveryScopes record identity true ↔
      scope ∈ record.recoverableScopes := by
  constructor
  · exact fun member => (mem_recoveryScopes record scope member).1
  · intro recoverable
    have restorable := kept.recoverable_restorable scope recoverable
    have supported := kept.restorable_supported scope restorable
    have gate : (record.restoreRequiresIdentity && !identity) = false := by
      cases required : record.restoreRequiresIdentity with
      | false => rfl
      | true => rw [identified required]; rfl
    simp [ToolboxMcp.recoveryScopes, gate, recoverable, restorable, supported]

/-- The start keeps what is recoverable, and adds nothing. -/
theorem WellKept.recoverableScopes_reconciled {record : ToolsetRecord}
    (kept : WellKept record) :
    (reconciledRecord record).recoverableScopes =
      record.recoverableScopes := by
  unfold reconciledRecord
  split
  · rename_i empty
    have nothing : record.recoverableScopes = [] := List.isEmpty_iff.mp empty
    rw [nothing, List.filter_eq_nil_iff]
    intro scope loaded restorable
    have recoverable :=
      kept.backed scope loaded (of_decide_eq_true restorable)
    rw [nothing] at recoverable
    cases recoverable
  · rfl

/-- The start reconciles every stored record. -/
theorem StateDocument.getToolset_started {document : StateDocument}
    {config : HostConfig} {ns : Namespace} {record : ToolsetRecord}
    (stored : document.getToolset ns = some record) :
    (document.started config).getToolset ns =
      some (reconciledRecord record) := by
  have bundles :
      (document.bundledWith config).getToolset ns = some record := by
    unfold bundledWith
    cases found : document.getToolset "fake_stdio" with
    | some bundled =>
        exact stored
    | none =>
        have different : ns ≠ (fakeToolset config).ns := by
          intro same
          rw [same] at stored
          cases found.symm.trans stored
        exact (getToolset_upsertToolset (fakeToolset config) ns).trans
          ((if_neg different).trans stored)
  have mapped :
      (document.started config).getToolset ns =
        ((document.bundledWith config).getToolset ns).map
          reconciledRecord :=
    KeyedList.lookup_map (fun _ => rfl) ns _
  rw [mapped, bundles]
  rfl

namespace Machine

/-! ## Every run -/

/-- What holds in every state of every process. -/
structure KeptWell (machine : Machine) : Prop where
  sane : machine.Sane
  distinct : machine.world.document.Distinct
  records : machine.Retains .wellKept

variable {machine after : Machine}

theorem keptWell_restart (distinct : machine.world.document.Distinct)
    (retains : machine.world.Retains .wellKept) :
    machine.restart.KeptWell where
  sane := sane_restart machine
  distinct :=
    (final_of_wp (startService_restartable distinct)).distinct
  records :=
    { stored :=
        final_of_wp
          (retains_startService (wellKept_fakeToolset _) retains)
      held := fun _ _ found => by cases found }

section Steps

variable [Platform]

omit [Platform] in
/-- A new registration has no scopes yet. -/
theorem brings_wellKept (operation : Operation) (ns : Namespace) :
    operation.Brings .wellKept ns := by
  intro transport registration record _ accepted
  obtain ⟨_, loaded, _, _, _, valid⟩ := toRecord_valid accepted
  refine ⟨valid, ?_⟩
  intro scope member
  rw [loaded] at member
  cases member

theorem keptWell_lifeStep (kept : machine.KeptWell) {action : Option Action}
    (taken : lifeStep machine action = some after) : after.KeptWell := by
  cases action with
  | none =>
      cases taken
      exact keptWell_restart kept.distinct kept.records.stored
  | some action =>
      have turn := turn_of_step taken
      have distinct := (store_of_turn kept.sane turn).2 kept.distinct
      exact {
        sane := sane_step kept.sane taken
        distinct := distinct
        records :=
          retains_turn kept.records distinct
            (fun ns operation _ => brings_wellKept operation ns) turn }

theorem keptWell_of_lives {host : World} (fresh : host.document = {})
    {allowed : Machine → Option Action → Prop}
    (reaches : Reaches lifeStep allowed (restart { world := host }) machine) :
    machine.KeptWell := by
  have nothing : host.document.Distinct ∧ host.Retains .wellKept := by
    rw [World.Retains, fresh]
    exact ⟨StateDocument.distinct_empty, fun _ member => by cases member⟩
  apply reaches.invariant (keptWell_restart nothing.1 nothing.2)
  intro before action next kept _ taken
  exact keptWell_lifeStep kept taken

/-- The start that comes through has the record, reconciled. -/
theorem started_after_kill {host : World} (fresh : host.document = {})
    (reaches :
      Reaches lifeStep (fun _ _ => True) (restart { world := host }) machine)
    {ns : Namespace} {record : ToolsetRecord}
    (stored : machine.world.record ns = some record)
    (attempts : List (List (Option PyException))) :
    ∃ serving,
      outcome startService
          { attempts.foldl World.attemptStart machine.world with
            writeFaults := [] } = (.ok (), serving) ∧
        serving.record ns = some (reconciledRecord record) ∧
        WellKept record ∧
        serving.Reliable ∧
        serving.runtimes = [] ∧
        serving.namespaceLocks = [] := by
  have kept := keptWell_of_lives fresh reaches
  have again := restartable_attempts kept.distinct attempts
  generalize attempts.foldl World.attemptStart machine.world = begun
    at again ⊢
  have reliable : World.Reliable { begun with writeFaults := [] } := by
    simp [World.Reliable]
  obtain ⟨serving, computed, document, transport⟩ :=
    startService_completes reliable again.distinct
  have same : serving.document =
      machine.world.document.started machine.world.config :=
    document.trans again.started
  refine ⟨serving, computed, ?_, kept.records.stored.found stored,
    transport.reliable reliable, transport.runtimes, transport.namespaceLocks⟩
  unfold World.record
  rw [same]
  exact StateDocument.getToolset_started stored

/-- Whatever the operations were doing when the process was killed, and
however many starts failed after that: the start that comes through finds every
toolset as it was registered, with the recoverable scopes it had, and among
them is every scope that was loaded and may be restored. -/
theorem recoverable_after_kill {host : World} (fresh : host.document = {})
    (reaches :
      Reaches lifeStep (fun _ _ => True) (restart { world := host }) machine)
    {ns : Namespace} {record : ToolsetRecord}
    (stored : machine.world.record ns = some record)
    (attempts : List (List (Option PyException))) :
    ∃ started serving,
      outcome startService
          { attempts.foldl World.attemptStart machine.world with
            writeFaults := [] } = (.ok (), serving) ∧
        serving.record ns = some started ∧
        started.registered = record.registered ∧
        started.loadedScopes = [] ∧
        started.recoverableScopes = record.recoverableScopes ∧
        ∀ scope ∈ record.loadedScopes, scope ∈ record.restorableScopes →
          scope ∈ started.recoverableScopes := by
  obtain ⟨serving, computed, found, kept, _⟩ :=
    started_after_kill fresh reaches stored attempts
  have recoverable := kept.recoverableScopes_reconciled
  refine ⟨reconciledRecord record, serving, computed, found, rfl, rfl,
    recoverable, ?_⟩
  rw [recoverable]
  exact kept.backed

/-! ## Restoring what was lost -/

/-- The restore of a toolset that is not connected waits for the new runtime. -/
theorem startRestore_opens {world : World} (reliable : world.Reliable)
    {ns : Namespace} {record : ToolsetRecord}
    (stored : world.record ns = some record)
    (unmounted : world.runtimes = []) {identity startup : Bool}
    {candidates : List Scope}
    (offered : recoveryScopes record identity (!startup) = candidates)
    (lost : candidates ≠ []) :
    wp (startRestore ns identity startup)
      (fun progress after => ∃ middle,
        progress = .inside
          (.opening (.restore candidates startup)
            ((Opening.restore candidates startup).announced record)
            world.nextRuntime) ∧
        after = middle.spawnRuntime ns ∧
        Wrote ns ((Opening.restore candidates startup).announced record) world
          middle)
      (fun _ _ => False) world := by
  have down : world.runtimeFor ns = none := by
    unfold World.runtimeFor World.mounted
    rw [unmounted]
    rfl
  have nonempty : candidates.isEmpty = false := by
    rw [← Bool.not_eq_true, List.isEmpty_iff]
    exact lost
  unfold startRestore
  rw [wp_bind, wp_get]
  simp only [stored, offered, nonempty, down]
  apply begin_rule stored
  · exact fun after wrote => ⟨after, rfl, rfl, wrote⟩
  · exact fun _ _ unreliable _ => absurd reliable unreliable
  · exact fun _ _ _ unreliable => unreliable reliable

/-- The new runtime reports its tools, and the restore ends. -/
theorem resume_restores {world : World} (reliable : world.Reliable)
    {ns : Namespace} {held : ToolsetRecord} (named : held.ns = ns)
    (unmounted : world.runtimes = []) {candidates : List Scope}
    {startup : Bool} {runtime : RuntimeId} {tools : List Tool}
    (valid : (validateToolInventory ns tools).isOk = true) :
    wp
      (resume ns (.opening (.restore candidates startup) held runtime)
        (.ok tools))
      (fun progress after => ∃ snapshot now result,
        progress = .left [.restored result] ∧
        result.restoredScopes =
          ((Opening.restore candidates startup).completedRecord held snapshot
            now).loadedScopes ∧
        Installed ns
          ((Opening.restore candidates startup).completedRecord held snapshot
            now)
          snapshot (landed world ns runtime tools) after)
      (fun _ _ => False) world := by
  have empty : world.runtimes.get ns = none := by
    rw [unmounted]
    rfl
  have bootstrapping : bootstraps ns (.ok tools) = true := valid
  apply resumeOpening_rule named
  · intro cancelled
    cases cancelled
  · intro exception after failed
    cases failed.symm.trans bootstrapping
  · intro tools snapshot existing _ _ _ mounted
    cases empty.symm.trans mounted
  · intro reported snapshot now after same _ _ _ installed
    cases same
    exact ⟨snapshot, now, _, rfl, rfl, installed⟩
  · exact fun _ _ _ _ _ _ _ _ _ unreliable => absurd reliable unreliable
  · exact fun _ _ unreliable => absurd reliable unreliable

/-- The actions of a restore of one toolset, in a process that does nothing
else. -/
def restoreAlone (ns : Namespace) (identity : Bool) (tools : List Tool) :
    List Action :=
  [.request (.restoreToolsets (some [ns]) identity false), .acquire 0,
   .enter 0, .reply 0 (.ok tools)]

/-- Where there are no locks, a request makes one and gets it at once. -/
theorem step_acquire_alone {world : World}
    (unlocked : world.namespaceLocks = []) (ns : Namespace) (block : Block) :
    step (({ world := world } : Machine).spawn (.arriving ns block) world)
        (.acquire 0) =
      some
        ((({ ({ world := world } : Machine).spawn (.arriving ns block) world
              with world := world.setLockEntry ns 0, nextLock := 1 } :
            Machine).changeLock 0 Mutex.acquire).setTask 0
          (.entered ns 0 block) (world.setLockEntry ns 0) (some 0)) := by
  refine step_acquire.mpr ⟨ns, block, rfl, rfl, ?_⟩
  have missing : world.namespaceLocks.get ns = none := by
    rw [unlocked]
    rfl
  have looked :
      (({ world := world } : Machine).spawn (.arriving ns block)
        world).namespaceLock ns =
        (0, { ({ world := world } : Machine).spawn (.arriving ns block) world
          with world := world.setLockEntry ns 0, nextLock := 1 }) := by
    unfold namespaceLock
    rw [show (({ world := world } : Machine).spawn (.arriving ns block)
      world).world.namespaceLocks.get ns = none from missing]
    rfl
  unfold acquire
  rw [looked]
  rfl

/-- In a new process, an explicit restore of a toolset with something to
recover loads exactly its recoverable scopes into a running runtime. -/
theorem restoreAlone_loads {world : World} (reliable : world.Reliable)
    {ns : Namespace} {record : ToolsetRecord} (kept : WellKept record)
    (stored : world.record ns = some record)
    (unloaded : record.loadedScopes = [])
    (lost : record.recoverableScopes ≠ [])
    {identity : Bool} (identified : record.Identified identity)
    (unmounted : world.runtimes = []) (unlocked : world.namespaceLocks = [])
    {tools : List Tool} (valid : (validateToolInventory ns tools).isOk = true) :
    ∃ final result restored,
      execute step (fun _ _ => True) { world := world }
          (restoreAlone ns identity tools) = some final ∧
        final.tasks 0 =
          some (.answered (.response [.restored result])) ∧
        final.world.record ns = some restored ∧
        result.restoredScopes = restored.loadedScopes ∧
        (∀ scope, scope ∈ restored.loadedScopes ↔
          scope ∈ record.recoverableScopes) ∧
        ∃ runtime, final.world.runtimeFor ns = some runtime ∧
          (final.world.objects runtime).tools = tools := by
  have offered := kept.offered_explicitly identified
  generalize scopes : recoveryScopes record identity true = candidates at offered
  have nonempty : candidates ≠ [] := by
    rintro rfl
    apply lost
    exact List.eq_nil_iff_forall_not_mem.mpr fun scope member =>
      List.not_mem_nil ((offered scope).mpr member)
  let block : Block := .operation (.restore identity false) [] []
  let first : Machine :=
    ({ world := world } : Machine).spawn (.arriving ns block) world
  let locked : World := world.setLockEntry ns 0
  let second : Machine :=
    (({ first with world := locked, nextLock := 1 } : Machine).changeLock 0
      Mutex.acquire).setTask 0 (.entered ns 0 block) locked (some 0)
  have requested :
      step { world := world }
        (.request (.restoreToolsets (some [ns]) identity false)) = some first :=
    step_request.mpr ⟨rfl, rfl⟩
  have acquired : step first (.acquire 0) = some second :=
    step_acquire_alone unlocked ns block
  have opens :=
    @startRestore_opens _ locked reliable ns record stored unmounted identity false
      candidates scopes nonempty
  rcases wp_cases opens with
    ⟨_, opened, computed, middle, rfl, rfl, wrote⟩ | ⟨_, _, _, impossible⟩
  swap
  · exact impossible.elim
  have stillReliable : World.Reliable (middle.spawnRuntime ns) :=
    wrote.reliable reliable
  have stillUnmounted : (middle.spawnRuntime ns).runtimes = [] :=
    wrote.runtimes.trans unmounted
  have named : record.ns = ns := StateDocument.getToolset_ns stored
  have resumes :=
    @resume_restores _ (middle.spawnRuntime ns) stillReliable ns
      ((Opening.restore candidates false).announced record) named
      stillUnmounted candidates false world.nextRuntime tools valid
  rcases wp_cases resumes with
    ⟨_, served, finished, snapshot, now, result, rfl, listed, installed⟩ |
      ⟨_, _, _, impossible⟩
  swap
  · exact impossible.elim
  let third : Machine :=
    second.setTask 0
      (.suspended ns 0 (.restore identity false) [] []
        (.opening (.restore candidates false)
          ((Opening.restore candidates false).announced record)
          world.nextRuntime))
      (middle.spawnRuntime ns) none
  let final : Machine :=
    third.leave 0 0 served (.answered (.response [.restored result]))
  have entered : step second (.enter 0) = some third := by
    refine step_enter.mpr ⟨ns, 0, block, rfl, rfl, ?_⟩
    change second.proceed 0 ns 0 (.restore identity false) [] []
      (outcome (startRestore ns identity false) locked) = third
    rw [computed]
    rfl
  have replied : step third (.reply 0 (.ok tools)) = some final := by
    refine step_reply.mpr ⟨ns, 0, _, _, _, _, rfl, rfl, ?_⟩
    change third.proceed 0 ns 0 (.restore identity false) [] []
      (outcome _ (middle.spawnRuntime ns)) = final
    rw [finished]
    rfl
  refine ⟨final, result, _, ?_, rfl, installed.written, listed, ?_, ?_⟩
  · simp [restoreAlone, execute, requested, acquired, entered, replied]
  · intro scope
    rw [← offered scope]
    change scope ∈ (addScopes _ candidates).loadedScopes ↔ _
    rw [mem_addScopes]
    change scope ∈ candidates ∨ scope ∈ record.loadedScopes ↔ _
    simp [unloaded]
  · have next : middle.nextRuntime = world.nextRuntime := wrote.nextRuntime
    refine ⟨world.nextRuntime, ?_, ?_⟩
    · rw [World.runtimeFor_eq_some]
      have mounted : served.runtimes.get ns = some world.nextRuntime := by
        rw [installed.runtimes]
        exact (Dict.get_set ns ns _ _).trans (if_pos rfl)
      have running : served.isRunning world.nextRuntime = true := by
        unfold World.isRunning
        rw [installed.objects]
        simp [landed, next, ManagedToolsetRuntime.isRunning]
      exact ⟨mounted, running⟩
    · change (served.objects _).tools = tools
      rw [installed.objects]
      simp [landed]

/-- After a kill, failed starts and one that comes through, an explicit restore
brings back every scope that was loaded and may be restored, and nothing that
was not recoverable. -/
theorem restored_after_kill {host : World} (fresh : host.document = {})
    (reaches :
      Reaches lifeStep (fun _ _ => True) (restart { world := host }) machine)
    {ns : Namespace} {record : ToolsetRecord}
    (stored : machine.world.record ns = some record)
    (lost : record.recoverableScopes ≠ [])
    {identity : Bool} (identified : record.Identified identity)
    (attempts : List (List (Option PyException))) {tools : List Tool}
    (valid : (validateToolInventory ns tools).isOk = true) :
    ∃ serving final result restored,
      outcome startService
          { attempts.foldl World.attemptStart machine.world with
            writeFaults := [] } = (.ok (), serving) ∧
        execute step (fun _ _ => True) { world := serving }
          (restoreAlone ns identity tools) = some final ∧
        final.tasks 0 = some (.answered (.response [.restored result])) ∧
        final.world.record ns = some restored ∧
        result.restoredScopes = restored.loadedScopes ∧
        (∀ scope, scope ∈ restored.loadedScopes ↔
          scope ∈ record.recoverableScopes) ∧
        (∀ scope ∈ record.loadedScopes, scope ∈ record.restorableScopes →
          scope ∈ restored.loadedScopes) ∧
        ∃ runtime, final.world.runtimeFor ns = some runtime ∧
          (final.world.objects runtime).tools = tools := by
  obtain ⟨serving, computed, found, kept, reliable, unmounted, unlocked⟩ :=
    started_after_kill fresh reaches stored attempts
  have same := kept.recoverableScopes_reconciled
  have recoverable : (reconciledRecord record).recoverableScopes ≠ [] := by
    rw [same]
    exact lost
  obtain ⟨final, result, restored, executed, answered, written, listed, loaded,
      connected⟩ :=
    restoreAlone_loads reliable kept.reconciled found rfl recoverable
      (reconciledRecord_identified identified) unmounted unlocked valid
  rw [same] at loaded
  exact ⟨serving, final, result, restored, computed, executed, answered,
    written, listed, loaded,
    fun scope member restorable =>
      (loaded scope).mpr (kept.backed scope member restorable),
    connected⟩

end Steps

section Ascii

open scoped Ascii

/-- A toolset whose session scope may be restored is activated for a session;
its deactivation has the lock when the process is killed. -/
def killedInDeactivation : List (Option Action) :=
  [some (.request
     (.registerToolset "files" (.ok { command := "python" })
       { title := "Files"
         description := "Files"
         restorableScopes := some ["session"] })),
   some (.acquire 0), some (.enter 0),
   some (.request (.activateToolsets ["files"] "session" true)),
   some (.acquire 1), some (.enter 1),
   some (.reply 1 (.ok [{ name := "read" }])),
   some (.request (.deactivateToolsets ["files"] "session" false)),
   some (.acquire 2)]

/-- The scopes stored for the toolset when the process is killed. -/
def storedScopes (machine : Machine) : Option (List Scope × List Scope) :=
  (machine.world.record "files").map fun record =>
    (record.loadedScopes, record.recoverableScopes)

theorem killedInDeactivation_stored :
    ∃ machine record,
      Reaches lifeStep (fun _ _ => True) (restart { world := {} }) machine ∧
        machine.world.record "files" = some record ∧
        record.loadedScopes = [.session] ∧
        record.recoverableScopes = [.session] := by
  obtain ⟨machine, reaches, stored⟩ :=
    exists_reaches_of_execute killedInDeactivation
      (by decide +kernel :
        (execute lifeStep (fun _ _ => True) (restart { world := {} })
          killedInDeactivation).any
            (fun final =>
              final.storedScopes = some ([.session], [.session])) = true)
  obtain ⟨record, found, scopes⟩ := Option.map_eq_some_iff.mp stored
  exact ⟨machine, record, reaches, found, congrArg Prod.fst scopes,
    congrArg Prod.snd scopes⟩

/-- One start fails before one comes through. -/
theorem recoverable_after_kill_session :
    ∃ machine record started serving,
      Reaches lifeStep (fun _ _ => True) (restart { world := {} }) machine ∧
        machine.world.record "files" = some record ∧
        record.loadedScopes = [.session] ∧
        outcome startService
            { [[some ⟨false, "disk"⟩]].foldl World.attemptStart
                machine.world with
              writeFaults := [] } = (.ok (), serving) ∧
        serving.record "files" = some started ∧
        started.loadedScopes = [] ∧
        started.recoverableScopes = [.session] := by
  obtain ⟨machine, record, reaches, stored, loaded, recoverable⟩ :=
    killedInDeactivation_stored
  obtain ⟨started, serving, computed, found, _, empty, same, _⟩ :=
    recoverable_after_kill rfl reaches stored [[some ⟨false, "disk"⟩]]
  exact ⟨machine, record, started, serving, reaches, stored, loaded, computed,
    found, empty, same.trans recoverable⟩

theorem restored_after_kill_session :
    ∃ machine record serving final restored,
      Reaches lifeStep (fun _ _ => True) (restart { world := {} }) machine ∧
        machine.world.record "files" = some record ∧
        outcome startService { machine.world with writeFaults := [] } =
          (.ok (), serving) ∧
        execute step (fun _ _ => True) { world := serving }
          (restoreAlone "files" true [{ name := "read" }]) = some final ∧
        final.world.record "files" = some restored ∧
        .session ∈ restored.loadedScopes := by
  obtain ⟨machine, record, reaches, stored, _, recoverable⟩ :=
    killedInDeactivation_stored
  have lost : record.recoverableScopes ≠ [] := by
    rw [recoverable]
    exact List.cons_ne_nil _ _
  have valid :
      (validateToolInventory "files" [{ name := "read" }]).isOk = true := by
    decide +kernel
  obtain ⟨serving, final, _, restored, computed, executed, _, written, _,
      loaded, _⟩ :=
    restored_after_kill rfl reaches stored lost (fun _ => rfl) [] valid
  refine ⟨machine, record, serving, final, restored, reaches, stored,
    computed, executed, written, (loaded .session).mpr ?_⟩
  rw [recoverable]
  exact List.mem_singleton_self _

end Ascii

end Machine

end ToolboxMcp
