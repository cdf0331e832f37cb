import ToolboxMcp.Lifetime
import ToolboxMcp.Service.Listing

/-!
# Listing and dispatch agree

In every state of every run, restarts included, each mounted namespace was
admitted and each mounted runtime has listed a valid inventory.  So a mounted
name is resolved exactly if it is listed, and to the tool listed under it.
-/

namespace ToolboxMcp

open Effect

section Property

variable [Platform]

/-- The namespaces a registration is going to visit. -/
def Block.Admitted (ns : Namespace) : Block → Prop
  | .operation asked rest _ =>
      asked.registers = true →
        ∀ home ∈ ns :: rest, ToolboxMcp.Admitted home
  | _ => True

/-- The namespaces a task is going to write or to mount. -/
def Task.Admitted : Task → Prop
  | .arriving ns block => block.Admitted ns
  | .waiting ns _ block => block.Admitted ns
  | .entered ns _ block => block.Admitted ns
  | .suspended ns _ operation rest entries _ =>
      ToolboxMcp.Admitted ns ∧
        (Block.operation operation rest entries).Admitted ns
  | .calling tool _ => ToolboxMcp.Admitted tool.ns
  | .answered _ => True

/-- Every registered namespace was admitted. -/
def StateDocument.Admitted (document : StateDocument) : Prop :=
  ∀ ns, document.getToolset ns ≠ none → ToolboxMcp.Admitted ns

namespace Machine

structure Dispatching (machine : Machine) : Prop where
  listed : machine.world.Listed
  records : machine.world.document.Admitted
  tasks :
    ∀ task current,
      machine.tasks task = some current → current.Admitted

variable {machine after : Machine}

theorem admitted_update {task : TaskId} {next : Task}
    (admitted : ∀ other current,
      machine.tasks other = some current → current.Admitted)
    (tasks : after.tasks = Function.update machine.tasks task (some next))
    (moved : next.Admitted) :
    ∀ other current, after.tasks other = some current → current.Admitted := by
  intro other current found
  rw [tasks] at found
  by_cases same : other = task
  · subst same
    rw [Function.update_self] at found
    cases found
    exact moved
  · rw [Function.update_of_ne same] at found
    exact admitted other current found

theorem admitted_nextVisit {operation : Operation} {ns : Namespace}
    {rest : List Namespace} {entries : List Entry}
    (admitted : (Block.operation operation rest entries).Admitted ns)
    (reported : List Entry) :
    (nextVisit operation rest reported).Admitted := by
  cases rest with
  | nil =>
      trivial
  | cons home later =>
      intro registers other member
      exact admitted registers other (List.mem_cons_of_mem _ member)

/-- Only a valid namespace is admitted for registration. -/
theorem accept_admitted (request : Request) {world : World} :
    wp (accept request)
      (fun admission _ => ∀ operation namespaces,
        admission = .admitted operation namespaces →
          operation.registers = true →
            ∀ ns ∈ namespaces, ToolboxMcp.Admitted ns)
      (fun _ _ => True) world := by
  have refuses : ∀ operation error,
      wp (refuse operation error)
        (fun admission _ => ∀ operation namespaces,
          admission = .admitted operation namespaces →
            operation.registers = true →
              ∀ ns ∈ namespaces, ToolboxMcp.Admitted ns)
        (fun _ _ => True) world := by
    intro operation error
    unfold refuse
    rw [wp_bind]
    apply appendAuditEvent_rule
    · rintro after untouched _ _ ⟨⟩
    · exact fun _ _ _ _ => trivial
  cases request with
  | registerToolset ns transport registration =>
      simp only [accept, acceptRegister]
      split
      · exact refuses _ _
      · rename_i valid
        split
        · exact refuses _ _
        · rintro _ _ ⟨⟩ _ home member
          rw [List.mem_singleton.mp member]
          left
          simpa using valid
  | activateToolsets namespaces scope ifNotLoaded =>
      simp only [accept]
      split
      · rintro _ _ ⟨⟩ ⟨⟩
      · exact refuses _ _
  | refreshToolsets namespaces ifStale scope =>
      simp only [accept]
      split
      · rintro _ _ ⟨⟩ ⟨⟩
      · exact refuses _ _
  | deactivateToolsets namespaces scope force =>
      simp only [accept]
      split
      · rintro _ _ ⟨⟩ ⟨⟩
      · exact refuses _ _
  | restoreToolsets namespaces stableHostIdentity startup =>
      rintro _ _ ⟨⟩ ⟨⟩
  | checkToolsetHealth namespaces scope =>
      simp only [accept]
      split
      · rintro _ _ ⟨⟩ ⟨⟩
      · exact refuses _ _
  | clearStaleToolsets namespaces =>
      rintro _ _ ⟨⟩ ⟨⟩
  | markToolsetStale ns reason =>
      rintro _ _ ⟨⟩ ⟨⟩
  | unregisterToolsets namespaces force =>
      rintro _ _ ⟨⟩ ⟨⟩

/-! ## Stretches -/

section Stretches

variable {task : TaskId} {ns : Namespace} {lock : LockId}
  {operation : Operation} {rest : List Namespace} {entries : List Entry}
  {program : ServiceM Progress}

theorem Stretch.relists (sane : machine.Sane)
    (stretch : machine.Stretch task ns lock operation rest entries program) :
    wp program (fun _ after => Relists ns machine.world after)
      (fun _ after => Relists ns machine.world after) machine.world := by
  cases stretch with
  | first found turn =>
      exact start_relists operation
  | later reply found free =>
      exact resume_relists (sane.proper task _ found) reply

theorem Stretch.block (dispatching : machine.Dispatching)
    (stretch : machine.Stretch task ns lock operation rest entries program) :
    (Block.operation operation rest entries).Admitted ns := by
  cases stretch with
  | first found turn =>
      exact dispatching.tasks task _ found
  | later reply found free =>
      exact (dispatching.tasks task _ found).2

/-- A stretch that is not on an admitted namespace touches nothing. -/
theorem Stretch.admitted_or_untouched (dispatching : machine.Dispatching)
    (stretch : machine.Stretch task ns lock operation rest entries program) :
    ToolboxMcp.Admitted ns ∨
      wp program
        (fun progress after => (∃ more, progress = .left more) ∧
          Untouched machine.world after)
        (fun _ after => Untouched machine.world after) machine.world := by
  have block := stretch.block dispatching
  cases stretch with
  | later reply found free =>
      exact .inl (dispatching.tasks task _ found).1
  | first found turn =>
      by_cases registers : operation.registers = true
      · exact .inl (block registers ns List.mem_cons_self)
      · cases stored : machine.world.document.getToolset ns with
        | some record =>
            left
            apply dispatching.records
            rw [stored]
            exact Option.some_ne_none record
        | none =>
            right
            apply start_unknown_rule stored
            · rintro transport registration rfl
              exact registers rfl
            · exact fun entry after untouched => ⟨⟨_, rfl⟩, untouched⟩
            · exact fun _ _ untouched => untouched

end Stretches

/-! ## Steps -/

section Steps

theorem Aside.listed {before after : World} (aside : Aside before after)
    (listed : before.Listed) : after.Listed := by
  constructor
  · rw [aside.runtimes]
    exact listed.keys
  · rw [aside.runtimes]
    exact listed.admitted
  · rw [aside.runtimes, aside.objects]
    exact listed.distinct

theorem admitted_of_records {before after : StateDocument} {ns : Namespace}
    (admitted : before.Admitted)
    (others : ∀ other, other ≠ ns →
      after.getToolset other = before.getToolset other)
    (here : ToolboxMcp.Admitted ns) : after.Admitted := by
  intro other present
  by_cases same : other = ns
  · rw [same]
    exact here
  · apply admitted
    rwa [← others other same]

/-- What a stretch leaves behind. -/
theorem Stretch.keeps {task : TaskId} {ns : Namespace} {lock : LockId}
    {operation : Operation} {rest : List Namespace} {entries : List Entry}
    {program : ServiceM Progress} (sane : machine.Sane)
    (dispatching : machine.Dispatching)
    (stretch : machine.Stretch task ns lock operation rest entries program) :
    wp program
      (fun progress after =>
        (after.Listed ∧ after.document.Admitted) ∧
          ((∃ more, progress = .left more) ∨ ToolboxMcp.Admitted ns))
      (fun _ after => after.Listed ∧ after.document.Admitted)
      machine.world := by
  rcases stretch.admitted_or_untouched dispatching with admitted | untouched
  · have keeps : ∀ {after : World}, Relists ns machine.world after →
        Sound ns machine.world after →
          after.Listed ∧ after.document.Admitted :=
      fun relists sound =>
        ⟨relists.listed sane.housed admitted dispatching.listed,
          admitted_of_records dispatching.records sound.records admitted⟩
    apply wp_mono (wp_and (stretch.relists sane) (stretch.sound sane))
    · exact fun _ _ both => ⟨keeps both.1 both.2.1, .inr admitted⟩
    · exact fun _ _ both => keeps both.1 both.2
  · have keeps : ∀ {after : World}, Untouched machine.world after →
        after.Listed ∧ after.document.Admitted := by
      intro after untouched
      refine ⟨Aside.listed untouched.aside dispatching.listed, ?_⟩
      intro ns present
      apply dispatching.records
      rwa [← untouched.records]
    apply wp_mono untouched
    · exact fun _ _ both => ⟨keeps both.2, .inl both.1⟩
    · exact fun _ _ => keeps

theorem CallStretch.relists {task : TaskId} {tool : MountedTool}
    {world : World} {program : ServiceM CallProgress}
    (stretch : machine.CallStretch task tool world program) :
    wp program (fun _ after => Relists tool.ns world after)
      (fun _ after => Relists tool.ns world after) world := by
  cases stretch with
  | first found turn resolved =>
      exact dispatchCall_relists
  | later reply found free =>
      exact resumeCall_relists _ reply

theorem CallStretch.admitted {task : TaskId} {tool : MountedTool}
    {world : World} {program : ServiceM CallProgress}
    (dispatching : machine.Dispatching)
    (stretch : machine.CallStretch task tool world program) :
    ToolboxMcp.Admitted tool.ns := by
  cases stretch with
  | first found turn resolved =>
      obtain ⟨runtime, running⟩ := resolveMountedTool_running resolved
      exact dispatching.listed.admitted tool.ns runtime
        (World.runtimeFor_eq_some.mp running).1
  | later reply found free =>
      exact dispatching.tasks task _ found

theorem CallStretch.keeps {task : TaskId} {tool : MountedTool}
    {world : World} {program : ServiceM CallProgress} (sane : machine.Sane)
    (dispatching : machine.Dispatching)
    (stretch : machine.CallStretch task tool world program) :
    wp program
      (fun _ after => after.Listed ∧ after.document.Admitted)
      (fun _ after => after.Listed ∧ after.document.Admitted) world := by
  have admitted := stretch.admitted dispatching
  have counted := stretch.aside
  have listed := Aside.listed counted dispatching.listed
  have housed := counted.housed sane.housed
  have records : world.document.Admitted := by
    intro ns present
    apply dispatching.records
    rwa [← counted.records]
  apply wp_mono (wp_and stretch.relists (stretch.sound sane))
  · exact fun _ _ both =>
      ⟨both.1.listed housed admitted listed,
        admitted_of_records records both.2.1.records admitted⟩
  · exact fun _ _ both =>
      ⟨both.1.listed housed admitted listed,
        admitted_of_records records both.2.records admitted⟩

/-- A step that runs no stretch hands the blocks of the tasks on. -/
theorem tasks_aside {action : Action} (dispatching : machine.Dispatching)
    (taken : step machine action = some after)
    (elsewhere : machine.visit action = none) :
    ∀ task current, after.tasks task = some current → current.Admitted := by
  have admitted := dispatching.tasks
  cases action with
  | request request =>
      obtain ⟨_, rfl⟩ := step_request.mp taken
      unfold Machine.request
      rcases wp_cases (@accept_admitted _ request machine.world) with
        ⟨error | ⟨operation, namespaces⟩, world, computed, valid⟩ |
          ⟨raised, world, computed, _⟩
      · rw [computed]
        exact admitted_update admitted rfl trivial
      · rw [computed]
        refine admitted_update admitted rfl ?_
        cases namespaces with
        | nil =>
            trivial
        | cons ns rest =>
            exact valid operation (ns :: rest) rfl
      · rw [computed]
        exact admitted_update admitted rfl trivial
  | call mountedName =>
      obtain ⟨_, rfl⟩ := step_call.mp taken
      unfold Machine.call
      rcases outcome (locateCall mountedName) machine.world with
        ⟨raised | ns, world⟩
      · exact admitted_update admitted rfl trivial
      · exact admitted_update admitted rfl trivial
  | acquire task =>
      obtain ⟨ns, block, found, _, rfl⟩ := step_acquire.mp taken
      have block := admitted task _ found
      obtain ⟨_, tasks, _⟩ := machine.namespaceLock_spec ns
      unfold acquire
      generalize machine.namespaceLock ns = looked at tasks ⊢
      obtain ⟨lock, middle⟩ := looked
      simp only at tasks ⊢
      split
      · exact admitted_update (tasks ▸ admitted) rfl block
      · exact admitted_update (tasks ▸ admitted) rfl block
  | grant task =>
      obtain ⟨ns, lock, block, found, _, _, rfl⟩ := step_grant.mp taken
      have block := admitted task _ found
      exact admitted_update admitted rfl block
  | enter task =>
      obtain ⟨ns, lock, block, found, turn, rfl⟩ := step_enter.mp taken
      cases block with
      | operation operation rest entries =>
          simp [visit, found] at elsewhere
      | callStart mountedName =>
          simp only [Machine.enter, startCall]
          rcases admitCall_cases machine.world mountedName with
            ⟨tool, resolved, computed⟩ | ⟨raised, computed⟩
          · obtain ⟨runtime, running⟩ := resolveMountedTool_running resolved
            have home :=
              dispatching.listed.admitted tool.ns runtime
                (World.runtimeFor_eq_some.mp running).1
            rw [computed]
            simp only
            rcases outcome (dispatchCall tool) _ with
              ⟨raised | stage | result, final⟩
            · exact admitted_update admitted rfl trivial
            · exact admitted_update admitted rfl home
            · exact admitted_update admitted rfl trivial
          · rw [computed]
            exact admitted_update admitted rfl trivial
      | callFinish result =>
          exact admitted_update admitted rfl trivial
  | reply task reply =>
      obtain ⟨ns, lock, operation, rest, entries, stage, found, _⟩ :=
        step_reply.mp taken
      simp [visit, found] at elsewhere
  | callReply task reply =>
      obtain ⟨tool, stage, found, _, rfl⟩ := step_callReply.mp taken
      have home := admitted task _ found
      rcases outcome (resumeCall tool stage reply) machine.world with
        ⟨raised | stage | result, world⟩
      · exact admitted_update admitted rfl trivial
      · exact admitted_update admitted rfl home
      · exact admitted_update admitted rfl trivial
  | cancelWaiting task =>
      obtain ⟨ns, lock, block, found, _, rfl⟩ := step_cancelWaiting.mp taken
      exact admitted_update admitted rfl trivial
  | die runtime =>
      obtain ⟨_, rfl⟩ := step_die.mp taken
      exact admitted

theorem dispatching_step {action : Action} (sane : machine.Sane)
    (dispatching : machine.Dispatching)
    (taken : step machine action = some after) : after.Dispatching := by
  have turn := turn_of_step taken
  cases turn with
  | aside moves tasks awake world elsewhere =>
      refine ⟨Aside.listed world dispatching.listed, ?_,
        tasks_aside dispatching taken elsewhere⟩
      intro ns present
      apply dispatching.records
      rwa [← world.records]
  | @visiting task ns lock operation rest entries program stretch proceeds
      visits =>
      subst proceeds
      have block := stretch.block dispatching
      rcases wp_cases (stretch.keeps sane dispatching) with
        ⟨stage | more, world, computed, ⟨listed, records⟩, home⟩ |
          ⟨raised, world, computed, listed, records⟩
      · rw [computed]
        have admitted : ToolboxMcp.Admitted ns := by
          rcases home with ⟨_, ⟨⟩⟩ | admitted
          · exact admitted
        exact ⟨listed, records,
          admitted_update dispatching.tasks rfl ⟨admitted, block⟩⟩
      · rw [computed]
        exact ⟨listed, records,
          admitted_update dispatching.tasks rfl (admitted_nextVisit block _)⟩
      · rw [computed]
        exact ⟨listed, records,
          admitted_update dispatching.tasks rfl trivial⟩
  | calling stretch proceeds elsewhere =>
      have tasks := tasks_aside dispatching taken elsewhere
      subst proceeds
      have kept := final_of_wp (stretch.keeps sane dispatching)
      refine ⟨?_, ?_, tasks⟩
      · rw [proceedCall_world]
        exact kept.1
      · rw [proceedCall_world]
        exact kept.2
  | @dying runtime died elsewhere =>
      have tasks := tasks_aside dispatching taken elsewhere
      subst died
      have same : SameInventories machine.world
          (machine.world.markDone runtime) :=
        sameInventories_markDone runtime
      refine ⟨⟨dispatching.listed.keys, dispatching.listed.admitted, ?_⟩,
        dispatching.records, tasks⟩
      intro ns mounted found
      have before : machine.world.runtimes.get ns = some mounted := found
      rw [same mounted (sane.housed ns mounted before).1]
      exact dispatching.listed.distinct ns mounted before

end Steps

/-! ## Process starts -/

section Starts

/-- Runtimes are as before, and every registered namespace is still an admitted
one. -/
def StaysAdmitted (before after : World) : Prop :=
  after.runtimes = before.runtimes ∧
    (before.document.Admitted → after.document.Admitted)

theorem StaysAdmitted.trans (first second third : World)
    (left : StaysAdmitted first second)
    (right : StaysAdmitted second third) : StaysAdmitted first third :=
  ⟨right.1.trans left.1, fun admitted => right.2 (left.2 admitted)⟩

theorem staysAdmitted_upsertToolset {record : ToolsetRecord}
    (admitted : ToolboxMcp.Admitted record.ns) :
    Keeps StaysAdmitted (upsertToolset record) := by
  intro world
  refine final_of_wp (upsertToolset_rule rfl ?_ ?_)
  · exact fun after wrote =>
      ⟨wrote.runtimes, fun before =>
        admitted_of_records before wrote.records admitted⟩
  · exact fun exception after untouched _ =>
      ⟨untouched.runtimes, fun before ns present =>
        before ns (by rwa [← untouched.records])⟩

theorem staysAdmitted_reconcileRecords {records : List ToolsetRecord}
    (admitted : ∀ record ∈ records, ToolboxMcp.Admitted record.ns) :
    Keeps StaysAdmitted (reconcileRecords records) := by
  induction records with
  | nil =>
      exact keeps_pure (fun _ => ⟨rfl, id⟩) ()
  | cons record rest inductionHypothesis =>
      have later := inductionHypothesis fun other member =>
        admitted other (List.mem_cons_of_mem _ member)
      have here : ToolboxMcp.Admitted (reconciledRecord record).ns :=
        admitted record List.mem_cons_self
      unfold reconcileRecords
      split
      · exact keeps_bind StaysAdmitted.trans
          (staysAdmitted_upsertToolset here) fun _ => later
      · exact later

theorem staysAdmitted_bootstrapDefaults :
    Keeps StaysAdmitted bootstrapDefaults := by
  refine keeps_bind StaysAdmitted.trans
    (keeps_get fun _ => ⟨rfl, id⟩) fun world => ?_
  split
  · exact keeps_pure (fun _ => ⟨rfl, id⟩) ()
  · exact staysAdmitted_upsertToolset (.inr rfl)

theorem admitted_of_mem {document : StateDocument}
    (admitted : document.Admitted) {record : ToolsetRecord}
    (member : record ∈ document.toolsets) :
    ToolboxMcp.Admitted record.ns := by
  apply admitted
  intro missing
  exact StateDocument.getToolset_eq_none.mp missing
    (List.mem_map_of_mem member)

/-- Whatever its store does, a new process starts with nothing mounted. -/
theorem startService_admitted {world : World}
    (admitted : world.document.Admitted) :
    wp startService
      (fun _ after => after.runtimes = [] ∧ after.document.Admitted)
      (fun _ after => after.runtimes = [] ∧ after.document.Admitted)
      world := by
  unfold startService
  rw [wp_bind, wp_modify, wp_bind]
  have kept : ∀ {after : World}, StaysAdmitted world.restarted after →
      after.runtimes = [] ∧ after.document.Admitted :=
    fun stays => ⟨stays.1, stays.2 admitted⟩
  apply wp_mono (staysAdmitted_bootstrapDefaults.wp world.restarted)
  · intro _ middle stays
    obtain ⟨unmounted, records⟩ := kept stays
    rw [wp_bind, wp_get]
    apply wp_mono ((staysAdmitted_reconcileRecords
      fun _ member => admitted_of_mem records member).wp middle)
    · exact fun _ _ later => ⟨later.1.trans unmounted, later.2 records⟩
    · exact fun _ _ later => ⟨later.1.trans unmounted, later.2 records⟩
  · exact fun _ _ => kept

theorem dispatching_restart (records : machine.world.document.Admitted) :
    machine.restart.Sane ∧ machine.restart.Dispatching := by
  have started :
      machine.restart.world.runtimes = [] ∧
        machine.restart.world.document.Admitted :=
    final_of_wp (startService_admitted records)
  obtain ⟨unmounted, admitted⟩ := started
  have nothing : ∀ ns runtime,
      machine.restart.world.runtimes.get ns ≠ some runtime := by
    intro ns runtime mounted
    rw [unmounted] at mounted
    cases mounted
  refine ⟨?_, ?_⟩
  · exact {
      housed := fun ns runtime mounted =>
        absurd mounted (nothing ns runtime)
      fresh := fun _ _ => rfl
      proper := fun task current found => by cases found
      running := fun task current found => by cases found
      consistent := Mutex.Consistent.initial }
  · refine ⟨⟨?_, ?_, ?_⟩, admitted, ?_⟩
    · rw [unmounted]
      exact List.nodup_nil
    · exact fun ns runtime mounted => absurd mounted (nothing ns runtime)
    · exact fun ns runtime mounted => absurd mounted (nothing ns runtime)
    · intro task current found
      cases found

end Starts

/-! ## The property -/

theorem dispatching_of_lives
    (admitted : machine.world.document.Admitted)
    (reaches : Reaches lifeStep (fun _ _ => True) machine.restart after) :
    after.Sane ∧ after.Dispatching := by
  apply reaches.invariant (dispatching_restart admitted)
  rintro before action next ⟨sane, dispatching⟩ _ taken
  cases action with
  | none =>
      cases taken
      exact dispatching_restart dispatching.records
  | some action =>
      exact ⟨sane_step sane taken, dispatching_step sane dispatching taken⟩

/-- Listing and dispatch agree in every state of every run of a host whose
first document holds admitted namespaces only. -/
theorem listing_dispatch (admitted : machine.world.document.Admitted)
    (reaches : Reaches lifeStep (fun _ _ => True) machine.restart after) :
    ((listAllMountedTools after.world).map MountedTool.mountedName).Nodup ∧
      (∀ mountedName,
        isMountedTool after.world mountedName = true ↔
          mountedName ∈
            (listAllMountedTools after.world).map
              MountedTool.mountedName) ∧
      ∀ mountedName tool,
        resolveMountedTool after.world mountedName = some tool ↔
          tool ∈ listAllMountedTools after.world ∧
            tool.mountedName = mountedName := by
  have listed := (dispatching_of_lives admitted reaches).2.listed
  refine ⟨nodup_listAllMountedTools listed, ?_,
    fun _ _ => resolveMountedTool_eq_some listed⟩
  intro mountedName
  unfold isMountedTool
  rw [Option.isSome_iff_exists, List.mem_map]
  exact exists_congr fun tool => resolveMountedTool_eq_some listed

end Machine

end Property

namespace Machine

section Ascii

open scoped Ascii

/-- The bundled toolset is activated in the first process. -/
theorem listing_dispatch_fake :
    ∃ machine,
      Reaches lifeStep (fun _ _ => True) (firstProcess {}) machine ∧
        isMountedTool machine.world "fake_stdio.ping" = true ∧
        "fake_stdio.ping" ∈
          (listAllMountedTools machine.world).map MountedTool.mountedName := by
  obtain ⟨machine, reaches, mounted⟩ :=
    exists_reaches_of_execute
      [some (.request (.activateToolsets ["fake_stdio"] "thread" true)),
       some (.acquire 0), some (.enter 0), some (.reply 0 (.ok [Ascii.ping]))]
      (by decide +kernel :
        (execute lifeStep (fun _ _ => True) (firstProcess {}) _).any
          (fun machine =>
            isMountedTool machine.world "fake_stdio.ping" = true) = true)
  have admitted : (emptyHost {}).world.document.Admitted := by
    intro ns present
    exact absurd rfl present
  exact ⟨machine, reaches, mounted,
    ((listing_dispatch admitted reaches).2.1 "fake_stdio.ping").mp mounted⟩

end Ascii

end Machine

end ToolboxMcp
