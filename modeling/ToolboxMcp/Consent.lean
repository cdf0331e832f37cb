import ToolboxMcp.Retries
import ToolboxMcp.Service.Dormancy
import ToolboxMcp.Service.Listing
import ToolboxMcp.Visits

/-!
# Nothing starts unasked

No downstream process of a toolset is launched in a life of the service in
which the client neither activates nor restores it, if the start of the server
has nothing to restore of it: whatever else is asked meanwhile, and in which
order the tasks run.
-/

namespace ToolboxMcp

open Effect

/-- The request leaves the toolset alone: it does not activate it, and restores
it only as the start of the server does. -/
def Request.Withholds (stable : Bool) (ns : Namespace) (world : World) :
    Request → Prop
  | .activateToolsets namespaces _ _ => ns ∉ namespaces
  | .restoreToolsets namespaces stableHostIdentity startup =>
      startup = true ∧ stableHostIdentity = stable ∨
        ns ∉ selected world namespaces fun record =>
          !record.recoverableScopes.isEmpty
  | _ => True

theorem refrains_of_asks {stable : Bool} {ns : Namespace} {world : World}
    {request : Request} {operation : Operation}
    (withholds : request.Withholds stable ns world)
    (asks : request.Asks operation) (subject : ns ∈ request.subjects world) :
    operation.refrains stable = true := by
  cases request with
  | activateToolsets namespaces scope ifNotLoaded =>
      exact absurd subject withholds
  | restoreToolsets namespaces stableHostIdentity startup =>
      cases asks
      rcases withholds with ⟨rfl, rfl⟩ | elsewhere
      · simp [Operation.refrains]
      · exact absurd subject elsewhere
  | clearStaleToolsets namespaces =>
      cases asks
      rfl
  | markToolsetStale home reason =>
      cases asks
      rfl
  | unregisterToolsets namespaces force =>
      cases asks
      rfl
  | _ =>
      obtain ⟨parsed, _, rfl⟩ := asks
      rfl

/-- The task is suspended in a block or a call of the namespace. -/
def Task.worksAt (ns : Namespace) : Task → Prop
  | .suspended home .. => home = ns
  | .calling tool _ => tool.ns = ns
  | _ => False

theorem Task.worksAt_of_awake {task : Task} {ns : Namespace}
    (awake : task.atAwait = false) : ¬ task.worksAt ns := by
  cases task with
  | suspended home lock operation rest entries stage =>
      cases awake
  | calling tool stage =>
      cases awake
  | _ =>
      exact id

instance {stable : Bool} {ns : Namespace} {world : World} :
    (request : Request) → Decidable (request.Withholds stable ns world)
  | .activateToolsets .. => inferInstanceAs (Decidable (_ ∉ _))
  | .restoreToolsets .. => inferInstanceAs (Decidable (_ ∨ _))
  | .registerToolset .. => inferInstanceAs (Decidable True)
  | .refreshToolsets .. => inferInstanceAs (Decidable True)
  | .deactivateToolsets .. => inferInstanceAs (Decidable True)
  | .checkToolsetHealth .. => inferInstanceAs (Decidable True)
  | .clearStaleToolsets _ => inferInstanceAs (Decidable True)
  | .markToolsetStale .. => inferInstanceAs (Decidable True)
  | .unregisterToolsets .. => inferInstanceAs (Decidable True)

namespace Machine

def Withholds (stable : Bool) (ns : Namespace) (machine : Machine) :
    Action → Prop
  | .request request => request.Withholds stable ns machine.world
  | _ => True

instance {stable : Bool} {ns : Namespace} (machine : Machine) :
    (action : Action) → Decidable (machine.Withholds stable ns action)
  | .request request =>
      inferInstanceAs
        (Decidable (request.Withholds stable ns machine.world))
  | .call _ => inferInstanceAs (Decidable True)
  | .acquire _ => inferInstanceAs (Decidable True)
  | .grant _ => inferInstanceAs (Decidable True)
  | .enter _ => inferInstanceAs (Decidable True)
  | .reply .. => inferInstanceAs (Decidable True)
  | .callReply .. => inferInstanceAs (Decidable True)
  | .cancelWaiting _ => inferInstanceAs (Decidable True)
  | .die _ => inferInstanceAs (Decidable True)

/-- The toolset is dormant, none of its runtimes has been launched since
`floor`, and nobody works at it or is about to wake it. -/
structure Asleep (stable : Bool) (ns : Namespace) (floor : RuntimeId)
    (machine : Machine) : Prop where
  dormant : machine.world.Dormant stable ns
  unlaunched :
    ∀ runtime, floor ≤ runtime → runtime < machine.world.nextRuntime →
      (machine.world.objects runtime).ns ≠ ns
  idle :
    ∀ task current,
      machine.tasks task = some current → ¬ current.worksAt ns
  visits :
    ∀ operation,
      machine.Awaits (ns, operation) → operation.refrains stable = true

section Steps

variable [Platform] {stable : Bool} {ns home : Namespace} {floor : RuntimeId}
  {machine after : Machine} {action : Action} {task : TaskId} {next : Task}
  {before later : World}

omit [Platform] in
theorem idle_update
    (idle : ∀ other current,
      machine.tasks other = some current → ¬ current.worksAt ns)
    (tasks : after.tasks = Function.update machine.tasks task (some next))
    (moved : ¬ next.worksAt ns) :
    ∀ other current,
      after.tasks other = some current → ¬ current.worksAt ns := by
  intro other current found
  rw [tasks] at found
  by_cases same : other = task
  · subst same
    rw [Function.update_self] at found
    cases found
    exact moved
  · rw [Function.update_of_ne same] at found
    exact idle other current found

omit [Platform] in
theorem worksAt_nextVisit (operation : Operation) (rest : List Namespace)
    (entries : List Entry) :
    ¬ (nextVisit operation rest entries).worksAt ns :=
  Task.worksAt_of_awake (atAwait_nextVisit operation rest entries)

omit [Platform] in
/-- A stretch somewhere else leaves the toolset as it is. -/
theorem dormant_elsewhere (sound : Sound home before later)
    (different : ns ≠ home) (dormant : before.Dormant stable ns) :
    later.Dormant stable ns where
  unmounted := (sound.runtimes ns different).trans dormant.unmounted
  stored := by
    intro record found
    rw [sound.records ns different] at found
    exact dormant.stored record found

omit [Platform] in
theorem unlaunched_elsewhere (sound : Sound home before later)
    (launches : Launches home before later) (different : ns ≠ home)
    (unlaunched : ∀ runtime, floor ≤ runtime →
      runtime < before.nextRuntime → (before.objects runtime).ns ≠ ns) :
    ∀ runtime, floor ≤ runtime → runtime < later.nextRuntime →
      (later.objects runtime).ns ≠ ns := by
  intro runtime ours issued
  by_cases earlier : runtime < before.nextRuntime
  · rw [sound.owners runtime earlier]
    exact unlaunched runtime ours earlier
  · rw [launches runtime (not_lt.mp earlier) issued]
    exact Ne.symm different

theorem Stretch.launches {lock : LockId} {operation : Operation}
    {rest : List Namespace} {entries : List Entry}
    {program : ServiceM Progress} (sane : machine.Sane)
    (stretch :
      machine.Stretch task home lock operation rest entries program) :
    wp program (fun _ later => Launches home machine.world later)
      (fun _ later => Launches home machine.world later) machine.world := by
  cases stretch with
  | first found turn =>
      exact start_launches operation
  | later reply found free =>
      exact resume_launches (sane.proper task _ found) reply

omit [Platform] in
theorem CallStretch.launches {tool : MountedTool} {world : World}
    {program : ServiceM CallProgress}
    (stretch : machine.CallStretch task tool world program) :
    wp program (fun _ later => Launches tool.ns world later)
      (fun _ later => Launches tool.ns world later) world := by
  cases stretch with
  | first found turn resolved =>
      exact dispatchCall_launches
  | later reply found free =>
      exact resumeCall_launches _ reply

omit [Platform] in
theorem idle_proceed {lock : LockId} {operation : Operation}
    {rest : List Namespace} {entries : List Entry}
    (idle : ∀ other current,
      machine.tasks other = some current → ¬ current.worksAt ns)
    (result : Except Raised Progress × World)
    (leaves : ns ≠ home ∨ ∀ progress, result.1 = .ok progress →
      progress.Leaves) :
    ∀ other current,
      (machine.proceed task home lock operation rest entries result).tasks
          other = some current → ¬ current.worksAt ns := by
  rcases result with ⟨raised | stage | more, world⟩
  · exact idle_update idle rfl id
  · refine idle_update idle rfl ?_
    rcases leaves with different | leaves
    · exact Ne.symm different
    · exact (leaves _ rfl).elim
  · exact idle_update idle rfl (worksAt_nextVisit _ _ _)

omit [Platform] in
theorem idle_proceedCall {locks : LockId → Mutex TaskId} {tool : MountedTool}
    (idle : ∀ other current,
      machine.tasks other = some current → ¬ current.worksAt ns)
    (different : ns ≠ tool.ns) (result : Except Raised CallProgress × World) :
    ∀ other current,
      (proceedCall { machine with locks := locks } task tool result).tasks
          other = some current → ¬ current.worksAt ns := by
  rcases result with ⟨raised | stage | value, world⟩
  · exact idle_update idle rfl id
  · exact idle_update idle rfl (Ne.symm different)
  · exact idle_update idle rfl id

omit [Platform] in
/-- A task that calls a tool calls one of another toolset. -/
theorem CallStretch.elsewhere {tool : MountedTool} {world : World}
    {program : ServiceM CallProgress}
    (asleep : machine.Asleep stable ns floor)
    (stretch : machine.CallStretch task tool world program) :
    ns ≠ tool.ns := by
  rintro rfl
  cases stretch with
  | first found turn resolved =>
      obtain ⟨runtime, running⟩ := resolveMountedTool_running resolved
      have mounted : machine.world.runtimes.get tool.ns = some runtime :=
        (World.runtimeFor_eq_some.mp running).1
      rw [asleep.dormant.unmounted] at mounted
      cases mounted
  | later reply found free =>
      exact asleep.idle task _ found rfl

/-- Whatever happens, the toolset stays asleep unless it is asked for. -/
theorem asleep_step (sane : machine.Sane)
    (asleep : machine.Asleep stable ns floor)
    (withholds : machine.Withholds stable ns action)
    (taken : step machine action = some after) :
    after.Asleep stable ns floor := by
  have visits : ∀ operation, after.Awaits (ns, operation) →
      operation.refrains stable = true := by
    intro operation awaits
    rcases awaits_step taken awaits with earlier | ⟨request, rfl, asks, subject⟩
    · exact asleep.visits operation earlier
    · exact refrains_of_asks withholds asks subject
  have turn := turn_of_step taken
  cases turn with
  | aside moves tasks awake world elsewhere =>
      refine ⟨⟨?_, ?_⟩, ?_, ?_, visits⟩
      · rw [world.runtimes]
        exact asleep.dormant.unmounted
      · intro record found
        rw [world.records] at found
        exact asleep.dormant.stored record found
      · rw [world.nextRuntime, world.objects]
        exact asleep.unlaunched
      · exact idle_update asleep.idle tasks (Task.worksAt_of_awake awake)
  | @visiting task home lock operation rest entries program stretch proceeds
      visiting =>
      subst proceeds
      have sound := final_of_wp_left (stretch.sound sane)
      have launches := final_of_wp (stretch.launches sane)
      by_cases same : ns = home
      · subst same
        cases stretch with
        | later reply found free =>
            exact absurd rfl (asleep.idle task _ found)
        | first found turn =>
            have refrains : operation.refrains stable = true :=
              asleep.visits operation ⟨task, _, found, List.mem_cons_self⟩
            have rests : machine.world.Rests stable ns
                machine.world.nextRuntime :=
              ⟨asleep.dormant, rfl⟩
            have keeps : KeepsResting stable ns machine.world.nextRuntime
                (start operation ns) Progress.Leaves :=
              start_rests refrains
            obtain ⟨dormant, unissued⟩ := keeps.final rests
            refine ⟨?_, ?_, ?_, visits⟩
            · rw [proceed_world]
              exact dormant
            · rw [proceed_world, unissued]
              intro runtime ours issued
              rw [sound.owners runtime issued]
              exact asleep.unlaunched runtime ours issued
            · refine idle_proceed asleep.idle _ (.inr ?_)
              intro progress computed
              exact keeps.value rests (Prod.ext computed rfl)
      · refine ⟨?_, ?_, ?_, visits⟩
        · rw [proceed_world]
          exact dormant_elsewhere sound same asleep.dormant
        · rw [proceed_world]
          exact unlaunched_elsewhere sound launches same asleep.unlaunched
        · exact idle_proceed asleep.idle _ (.inl same)
  | @calling task tool world program locks stretch proceeds elsewhere =>
      have different := stretch.elsewhere asleep
      have sound := final_of_wp_left (stretch.sound sane)
      have launches := final_of_wp stretch.launches
      have counted := stretch.aside
      subst proceeds
      refine ⟨?_, ?_, ?_, visits⟩
      · rw [proceedCall_world]
        apply dormant_elsewhere sound different
        constructor
        · rw [counted.runtimes]
          exact asleep.dormant.unmounted
        · intro record found
          rw [counted.records] at found
          exact asleep.dormant.stored record found
      · rw [proceedCall_world]
        apply unlaunched_elsewhere sound launches different
        rw [counted.nextRuntime, counted.objects]
        exact asleep.unlaunched
      · exact idle_proceedCall asleep.idle different _
  | @dying runtime died elsewhere =>
      subst died
      refine ⟨⟨asleep.dormant.unmounted, asleep.dormant.stored⟩, ?_,
        asleep.idle, visits⟩
      intro other ours issued
      have same : ((machine.world.markDone runtime).objects other).ns =
          (machine.world.objects other).ns := by
        rw [World.markDone_objects, Function.update_apply]
        split
        · rename_i equal
          rw [equal]
        · rfl
      exact same ▸ asleep.unlaunched other ours issued

/-! ## A life of the service -/

omit [Platform] in
theorem sane_unmounted {world : World} (unmounted : world.runtimes = []) :
    Sane { world := world } where
  housed := fun home runtime mounted => by
    rw [unmounted] at mounted
    cases mounted
  fresh := fun _ _ => rfl
  proper := fun task current found => by cases found
  running := fun task current found => by cases found
  consistent := Mutex.Consistent.initial

theorem asleep_of_reaches {start : Machine} (sane : start.Sane)
    (asleep : start.Asleep stable ns floor)
    (reaches : Reaches step (Withholds stable ns) start machine) :
    machine.Sane ∧ machine.Asleep stable ns floor := by
  apply reaches.invariant ⟨sane, asleep⟩
  rintro before action after ⟨sane, asleep⟩ withholds taken
  exact ⟨sane_step sane taken, asleep_step sane asleep withholds taken⟩

omit [Platform] in
/-- What the start leaves is asleep. -/
theorem asleep_started {host serving : World}
    (distinct : host.document.Distinct)
    (started :
      outcome startService { host with writeFaults := [] } =
        (.ok (), serving))
    (unoffered : ∀ record, serving.record ns = some record →
      recoveryScopes record stable false = [])
    (faults : List (Option PyException)) :
    let first : Machine := { world := { serving with writeFaults := faults } }
    first.Sane ∧ first.Asleep stable ns serving.nextRuntime := by
  have reliable : World.Reliable { host with writeFaults := [] } := by
    simp [World.Reliable]
  have settles :
      wp startService
        (fun _ after =>
          after.runtimes = [] ∧
            ∀ home, after.document.getToolset home =
              (bundled { host with writeFaults := [] } home).map
                reconciledRecord)
        (fun _ _ => False) { host with writeFaults := [] } :=
    startService_rule reliable distinct fun after transport records =>
      ⟨transport.runtimes, records⟩
  unfold wp at settles
  rw [started] at settles
  obtain ⟨unmounted, records⟩ := settles
  refine ⟨sane_unmounted unmounted, ⟨?_, ?_⟩, ?_, ?_, ?_⟩
  · change serving.runtimes.get ns = none
    rw [unmounted]
    rfl
  · intro record found
    refine ⟨?_, unoffered record found⟩
    obtain ⟨earlier, _, rfl⟩ :=
      Option.map_eq_some_iff.mp ((records ns).symm.trans found)
    rfl
  · exact fun runtime ours issued => absurd issued ours.not_gt
  · exact fun task current found => by cases found
  · rintro operation ⟨task, current, found, _⟩
    cases found

/-- As long as the client does not ask for it, nothing of a toolset that a start
has nothing to restore of is launched, loaded or listed, in whatever order the
tasks run and whatever fails. -/
theorem starts_only_on_request {host serving : World}
    (distinct : host.document.Distinct)
    (started :
      outcome startService { host with writeFaults := [] } =
        (.ok (), serving))
    (unoffered : ∀ record, serving.record ns = some record →
      recoveryScopes record stable false = [])
    {faults : List (Option PyException)}
    (reaches :
      Reaches step (Withholds stable ns)
        { world := { serving with writeFaults := faults } } machine) :
    (∀ runtime, serving.nextRuntime ≤ runtime →
        runtime < machine.world.nextRuntime →
          (machine.world.objects runtime).ns ≠ ns) ∧
      (∀ record, machine.world.record ns = some record →
        record.loadedScopes = []) ∧
      ∀ tool ∈ listAllMountedTools machine.world, tool.ns ≠ ns := by
  obtain ⟨sane, asleep⟩ := asleep_started distinct started unoffered faults
  obtain ⟨_, final⟩ := asleep_of_reaches sane asleep reaches
  refine ⟨final.unlaunched, ?_, ?_⟩
  · exact fun record found => (final.dormant.stored record found).unloaded
  · rintro tool member rfl
    unfold listAllMountedTools at member
    rw [List.mem_insertionSort, List.mem_flatMap] at member
    obtain ⟨home, _, shown⟩ := member
    obtain ⟨runtime, source, running, _, rfl⟩ := mem_mountedToolsOf.mp shown
    have mounted := (World.runtimeFor_eq_some.mp running).1
    cases final.dormant.unmounted.symm.trans mounted

end Steps

section Ascii

open scoped Ascii

/-- The last life has left a toolset with a scope that may be restored. -/
def sessionLeft : World where
  document :=
    { toolsets :=
        [{ fakeToolset {} with
           ns := "files"
           restorableScopes := [.session]
           recoverableScopes := [.session] }] }

def sessionServing : World :=
  (outcome startService { sessionLeft with writeFaults := [] }).2

/-- The host restores at the start, and the client activates the bundled
toolset. -/
def bundledActivated : List Action :=
  [.request (.restoreToolsets none true true), .acquire 0, .enter 0,
   .request (.activateToolsets ["fake_stdio"] "thread" true), .acquire 1,
   .enter 1, .reply 1 (.ok [{ name := "read" }])]

/-- The toolset with the scope to restore requires an explicit request. -/
theorem starts_only_on_request_bundled :
    ∃ machine,
      Reaches step (Withholds true "files") { world := sessionServing }
          machine ∧
        machine.world.nextRuntime = 1 ∧
        (machine.world.objects 0).ns ≠ "files" := by
  obtain ⟨machine, reaches, launched⟩ :=
    exists_reaches_of_execute bundledActivated
      (by decide +kernel :
        (execute step (Withholds true "files") { world := sessionServing }
          bundledActivated).any
            (fun final => final.world.nextRuntime = 1) = true)
  have started :
      outcome startService { sessionLeft with writeFaults := [] } =
        (.ok (), sessionServing) :=
    Prod.ext (by rfl) rfl
  have explicit :
      (sessionServing.record "files").map (recoveryScopes · true false) =
        some [] := by
    decide +kernel
  have distinct : sessionLeft.document.Distinct :=
    ⟨by decide, by decide, by decide⟩
  have unlaunched :=
    (@starts_only_on_request _ true "files" machine sessionLeft
      sessionServing distinct started
      (fun record found => by
        rw [found] at explicit
        exact Option.some.inj explicit)
      [] reaches).1
  refine ⟨machine, reaches, launched, unlaunched 0 ?_ ?_⟩
  · exact Nat.le_of_eq (by rfl)
  · rw [launched]
    exact Nat.one_pos

end Ascii

end Machine

end ToolboxMcp
