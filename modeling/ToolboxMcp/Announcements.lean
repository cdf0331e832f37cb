import ToolboxMcp.Commitments
import ToolboxMcp.Dispatch
import ToolboxMcp.Library.Copies
import ToolboxMcp.Liveness
import ToolboxMcp.Openings
import ToolboxMcp.Service.Announcing
import ToolboxMcp.Service.Reporting
import ToolboxMcp.Visits

/-!
# The client's list of tools

A client lists the tools once and again whenever the server notifies it.  While
no downstream server fails, the last list is the current one, or the request
that changed it has not been answered yet.
-/

namespace ToolboxMcp

open Effect

/-! ## Debts -/

def Block.owes : Block → Bool
  | .operation asked _ entries => entries.any asked.notifies
  | _ => false

/-- The response to the request will notify the client. -/
def Task.owes : Task → Bool
  | .arriving _ block => block.owes
  | .waiting _ _ block => block.owes
  | .entered _ _ block => block.owes
  | .suspended _ _ operation _ entries stage =>
      stage.turned || entries.any operation.notifies
  | _ => false

theorem Task.unanswered_of_owes {task : Task} (owes : task.owes = true) :
    task.unanswered = true := by
  cases task with
  | answered answer =>
      cases owes
  | _ =>
      rfl

/-- The operation the task visits a namespace for. -/
def Task.operation : Task → Option Operation
  | .entered _ _ (.operation operation _ _) => some operation
  | .suspended _ _ operation _ _ _ => some operation
  | _ => none

/-- The request has been answered with something to notify of. -/
def Task.notifies (operation : Operation) : Task → Bool
  | .answered (.response entries) => entries.any operation.notifies
  | _ => false

def Block.served : Block → Bool
  | .operation asked _ _ => asked.served
  | _ => true

def Task.served : Task → Bool
  | .arriving _ block => block.served
  | .waiting _ _ block => block.served
  | .entered _ _ block => block.served
  | .suspended _ _ operation _ _ _ => operation.served
  | _ => true

theorem Aside.sameListing {before after : World}
    (aside : Aside before after) : SameListing before after :=
  sameListing_of_objects aside.runtimes aside.objects

/-- A tool of the server asks for it. -/
def Request.served : Request → Bool
  | .restoreToolsets _ _ startup => !startup
  | _ => true

namespace Machine

def Owes (machine : Machine) : Prop :=
  ∃ task current, machine.tasks task = some current ∧ current.owes = true

/-- `_notify_tool_list_changed`: the step answers a request and tells the
client to list the tools again. -/
def tells (machine : Machine) (action : Action) (after : Machine) : Bool :=
  match action with
  | .enter task =>
      ((machine.tasks task).bind Task.operation).any fun operation =>
        (after.tasks task).any (Task.notifies operation)
  | .reply task _ =>
      ((machine.tasks task).bind Task.operation).any fun operation =>
        (after.tasks task).any (Task.notifies operation)
  | _ => false

/-- No runtime in service dies, no call, probe or close fails, and no request
is cancelled that has something to tell. -/
def undisturbed [Platform] (machine : Machine) : Action → Bool
  | .request request => request.served
  | .reply task reply =>
      match machine.tasks task with
      | some (.suspended ns _ operation _ entries stage) =>
          stage.undisturbed ns reply &&
            !(cancels reply && entries.any operation.notifies)
      | _ => true
  | .callReply task reply =>
      match machine.tasks task, reply with
      | some (.calling _ (.calling _)), .ok _ => true
      | _, _ => false
  | .cancelWaiting task => !(machine.tasks task).any Task.owes
  | .die runtime => !machine.world.runtimes.any fun entry => entry.2 == runtime
  | _ => true

/-- The tools the client sees. -/
def shownTools (signature : String → Json) (machine : Machine) : List Tool :=
  listTools signature machine.world

abbrev Honest (signature : String → Json) (machine : Machine)
    (action : Action) (after : Machine) : Prop :=
  Copies.Honest (shownTools signature) Owes tells machine action after

/-! ## Steps -/

/-- What holds in every state of every process. -/
structure Listable [Platform] (machine : Machine) : Prop where
  sane : machine.Sane
  committed : machine.Committed
  accounted : machine.Accounted []
  inventoried : machine.world.Inventoried

section Steps

variable [Platform] {machine after : Machine}

theorem listable_restart (machine : Machine) : machine.restart.Listable where
  sane := sane_restart machine
  committed := by
    constructor
    · intro task ns lock operation rest entries stage found
      cases found
    · intro task runtime ends
      cases ends
  accounted := by
    refine ⟨by simp, by simp, ?_, ?_⟩
    · intro task runtime lands
      cases lands
    · intro first second runtime lands
      cases lands
  inventoried := by
    have unmounted := unmounted_restart machine
    constructor
    · rw [unmounted]
      exact List.nodup_nil
    · intro ns runtime mounted
      rw [unmounted] at mounted
      cases mounted

theorem inventoried_step (sane : machine.Sane)
    (inventoried : machine.world.Inventoried) {action : Action}
    (taken : step machine action = some after) : after.world.Inventoried := by
  have aside : ∀ {before after : World}, Aside before after →
      before.Inventoried → after.Inventoried := by
    intro before after aside earlier
    constructor
    · rw [aside.runtimes]
      exact earlier.keys
    · rw [aside.runtimes, aside.objects]
      exact earlier.valid
  have turn := turn_of_step taken
  cases turn with
  | aside moves tasks awake world elsewhere =>
      exact aside world inventoried
  | visiting stretch proceeds visits =>
      subst proceeds
      rw [proceed_world]
      exact Relists.inventoried (final_of_wp (stretch.relists sane))
        sane.housed inventoried
  | calling stretch proceeds elsewhere =>
      subst proceeds
      rw [proceedCall_world]
      have counted := stretch.aside
      exact Relists.inventoried (final_of_wp stretch.relists)
        (counted.housed sane.housed) (aside counted inventoried)
  | dying died elsewhere =>
      subst died
      constructor
      · exact inventoried.keys
      · intro ns runtime mounted
        change (validateToolInventory ns
          ((machine.world.markDone _).objects runtime).tools).isOk = true
        rw [sameInventories_markDone _ runtime
          (sane.housed ns runtime mounted).1]
        exact inventoried.valid ns runtime mounted

theorem listable_step (listable : machine.Listable) {action : Action}
    (taken : step machine action = some after) : after.Listable where
  sane := sane_step listable.sane taken
  committed :=
    committed_turn listable.sane listable.committed (turn_of_step taken)
  accounted := accounted_nil_step listable.sane listable.accounted taken
  inventoried :=
    inventoried_step listable.sane listable.inventoried taken

theorem listable_of_lives {start : Machine}
    (reaches : Reaches lifeStep (fun _ _ => True) start.restart machine) :
    machine.Listable := by
  apply reaches.invariant (listable_restart start)
  intro before action next listable _ taken
  cases action with
  | none =>
      cases taken
      exact listable_restart before
  | some action =>
      exact listable_step listable taken

/-! ## Undisturbed steps -/

/-- What holds in a run without disturbances. -/
structure Serving (machine : Machine) : Prop extends machine.Listable where
  reliable : machine.world.Reliable
  served :
    ∀ task current, machine.tasks task = some current →
      current.served = true

variable {signature : String → Json} {action : Action} {task : TaskId}
  {next : Task}

omit [Platform] in
theorem owes_advance
    (tasks : after.tasks = Function.update machine.tasks task (some next))
    (kept : ∀ current, machine.tasks task = some current →
      current.owes = true → next.owes = true) :
    machine.Owes → after.Owes := by
  rintro ⟨other, current, found, owes⟩
  by_cases same : other = task
  · subst same
    exact ⟨other, next, by rw [tasks, Function.update_self],
      kept current found owes⟩
  · exact ⟨other, current, by rw [tasks, Function.update_of_ne same, found],
      owes⟩

omit [Platform] in
theorem owes_of_moved
    (tasks : after.tasks = Function.update machine.tasks task (some next))
    (owes : next.owes = true) : after.Owes :=
  ⟨task, next, by rw [tasks, Function.update_self], owes⟩

omit [Platform] in
theorem served_update
    (served : ∀ other current, machine.tasks other = some current →
      current.served = true)
    (tasks : after.tasks = Function.update machine.tasks task (some next))
    (moved : next.served = true) :
    ∀ other current, after.tasks other = some current →
      current.served = true := by
  intro other current found
  rw [tasks] at found
  by_cases same : other = task
  · subst same
    rw [Function.update_self] at found
    cases found
    exact moved
  · rw [Function.update_of_ne same] at found
    exact served other current found

/-- A task has moved on with its debts, and the tools are the same. -/
theorem honest_moved (inventoried : machine.world.Inventoried)
    (tasks : after.tasks = Function.update machine.tasks task (some next))
    (same : SameListing machine.world after.world)
    (kept : ∀ current, machine.tasks task = some current →
      current.owes = true → next.owes = true) :
    machine.Honest signature action after :=
  .unchanged (same.listTools inventoried signature) (owes_advance tasks kept)

omit [Platform] in
theorem served_nextVisit {operation : Operation} {rest : List Namespace}
    {entries : List Entry} (served : operation.served = true) :
    (nextVisit operation rest entries).served = true := by
  cases rest with
  | nil =>
      rfl
  | cons ns later =>
      exact served

/-- The end of a stretch of a block that notices what it has changed. -/
theorem honest_proceed {ns : Namespace} {lock : LockId}
    {operation : Operation} {rest : List Namespace} {entries : List Entry}
    {turned : Bool} {program : ServiceM Progress}
    (inventoried : machine.world.Inventoried)
    (tells : ∀ after, machine.tells action after =
      (after.tasks task).any (Task.notifies operation))
    (owed : ∀ current, machine.tasks task = some current →
      current.owes = (turned || entries.any operation.notifies))
    (ends :
      wp program
        (fun progress after =>
          progress.Notices operation turned machine.world after)
        (fun _ after => entries.any operation.notifies = false ∧
          turned = false ∧ SameListing machine.world after)
        machine.world) :
    machine.Honest signature action
      (machine.proceed task ns lock operation rest entries
        (outcome program machine.world)) := by
  have unpaid : ∀ {current : Task}, turned = false →
      machine.tasks task = some current → current.owes = true →
        entries.any operation.notifies = true := by
    intro current unturned found owes
    rw [owed current found, unturned, Bool.false_or] at owes
    exact owes
  rcases wp_cases ends with
    ⟨stage | more, world, computed, notices⟩ |
      ⟨raised, world, computed, silent, unturned, same⟩
  · rw [computed]
    rcases notices with later | ⟨unturned, same⟩
    · apply Copies.Honest.indebted
      apply owes_of_moved rfl
      simp [Task.owes, later]
    · apply honest_moved inventoried rfl same
      intro current found owes
      simp [Task.owes, unpaid unturned found owes]
  · rw [computed]
    have quietly : (entries ++ more).any operation.notifies = false →
        SameListing machine.world world ∧
          ∀ current, machine.tasks task = some current →
            current.owes = false := by
      intro nothing
      rw [List.any_append, Bool.or_eq_false_iff] at nothing
      rcases notices with told | ⟨unturned, same⟩
      · rw [nothing.2] at told
        cases told
      · refine ⟨same, ?_⟩
        intro current found
        rw [owed current found, unturned, nothing.1]
        rfl
    cases paid : (entries ++ more).any operation.notifies with
    | true =>
        cases rest with
        | nil =>
            apply Copies.Honest.announced
            rw [tells]
            simp [proceed, leave, changeLock, setTask, nextVisit,
              Task.notifies, paid]
        | cons ns later =>
            exact .indebted (owes_of_moved rfl paid)
    | false =>
        obtain ⟨same, nothing⟩ := quietly paid
        apply honest_moved inventoried rfl same
        intro current found owes
        rw [nothing current found] at owes
        cases owes
  · rw [computed]
    apply honest_moved inventoried rfl same
    intro current found owes
    rw [unpaid unturned found owes] at silent
    cases silent

omit [Platform] in
theorem served_of_asks {request : Request} {operation : Operation}
    (served : request.served = true) (asks : request.Asks operation) :
    operation.served = true := by
  cases request with
  | restoreToolsets namespaces identity startup =>
      cases asks
      exact served
  | registerToolset ns transport registration =>
      obtain ⟨valid, _, rfl⟩ := asks
      rfl
  | clearStaleToolsets namespaces =>
      cases asks
      rfl
  | markToolsetStale ns reason =>
      cases asks
      rfl
  | unregisterToolsets namespaces force =>
      cases asks
      rfl
  | _ =>
      obtain ⟨parsed, _, rfl⟩ := asks
      rfl

/-- A request of a client visits for an operation the server serves. -/
theorem accept_served {request : Request} {world : World}
    (served : request.served = true) :
    wp (accept request)
      (fun admission after => SameListing world after ∧
        ∀ operation namespaces,
          admission = .admitted operation namespaces →
            operation.served = true)
      (fun _ after => SameListing world after) world := by
  apply wp_mono (wp_and (accept_untouched request) (accept_visits request))
  · rintro admission after ⟨untouched, visits⟩
    refine ⟨untouched.toSameTransport.sameListing, ?_⟩
    intro operation namespaces admitted
    exact served_of_asks served (visits operation namespaces admitted).1
  · exact fun _ _ both => both.1.toSameTransport.sameListing

omit [Platform] in
/-- A resolved tool is dispatched to the runtime it was found in. -/
theorem quiet_dispatch {tool : MountedTool} {mountedName : String}
    (resolved : resolveMountedTool machine.world mountedName = some tool) :
    wp (dispatchCall tool)
      (fun progress after =>
        (∃ stage, progress = .inside stage) ∧
          SameListing machine.world after)
      (fun _ _ => False) (machine.world.noteCallStarted tool.ns) := by
  obtain ⟨runtime, running⟩ := resolveMountedTool_running resolved
  apply dispatchCall_rule
  · exact fun runtime _ => ⟨⟨_, rfl⟩, sameListing_of_objects rfl rfl⟩
  · intro unconnected
    have connected :
        (machine.world.noteCallStarted tool.ns).runtimeFor tool.ns =
          some runtime := running
    cases unconnected.symm.trans connected

/-- The step serves the clients as before, and what it changes is told of or
still owed. -/
structure Informs (signature : String → Json) (machine : Machine)
    (action : Action) (after : Machine) : Prop where
  served : ∀ other current, after.tasks other = some current →
    current.served = true
  honest : machine.Honest signature action after

/-- Outside the blocks of requests, tasks only hand their debts on. -/
theorem honest_elsewhere (serving : machine.Serving)
    (tasks : after.tasks = Function.update machine.tasks task (some next))
    (same : SameListing machine.world after.world)
    (kept : ∀ current, machine.tasks task = some current →
      current.owes = true → next.owes = true)
    (moved : next.served = true) :
    machine.Informs signature action after :=
  ⟨served_update serving.served tasks moved,
    honest_moved serving.inventoried tasks same kept⟩

omit [Platform] in
theorem served_proceed {ns : Namespace} {lock : LockId}
    {operation : Operation} {rest : List Namespace} {entries : List Entry}
    (others : ∀ other current, machine.tasks other = some current →
      current.served = true)
    (served : operation.served = true)
    (result : Except Raised Progress × World) :
    ∀ other current,
      (machine.proceed task ns lock operation rest entries result).tasks
          other = some current → current.served = true := by
  rcases result with ⟨raised | stage | more, world⟩
  · exact served_update others rfl rfl
  · exact served_update others rfl served
  · exact served_update others rfl (served_nextVisit served)

/-- A stretch inside a block tells what it has changed, or owes it. -/
theorem honest_stretch (serving : machine.Serving) {ns : Namespace}
    {lock : LockId} {operation : Operation} {rest : List Namespace}
    {entries : List Entry} {program : ServiceM Progress} {turned : Bool}
    (found : (machine.tasks task).bind Task.operation = some operation)
    (acts : action = .enter task ∨ ∃ reply, action = .reply task reply)
    (served : operation.served = true)
    (owed : ∀ current, machine.tasks task = some current →
      current.owes = (turned || entries.any operation.notifies))
    (ends :
      wp program
        (fun progress after =>
          progress.Notices operation turned machine.world after)
        (fun _ after => entries.any operation.notifies = false ∧
          turned = false ∧ SameListing machine.world after)
        machine.world) :
    machine.Informs signature action
      (machine.proceed task ns lock operation rest entries
        (outcome program machine.world)) := by
  refine ⟨served_proceed serving.served served _, ?_⟩
  apply honest_proceed serving.inventoried ?_ owed ends
  intro after
  rcases acts with rfl | ⟨reply, rfl⟩
  · simp [tells, found]
  · simp [tells, found]

/-- The new task owes nothing yet. -/
theorem honest_spawned (serving : machine.Serving) {next : Task}
    {world : World} (same : SameListing machine.world world)
    (served : next.served = true) :
    machine.Informs signature action (machine.spawn next world) := by
  refine honest_elsewhere serving rfl same ?_ served
  intro current found
  rw [serving.sane.fresh _ le_rfl] at found
  cases found

theorem honest_request (serving : machine.Serving) {request : Request}
    (calm : request.served = true) :
    machine.Informs signature action (machine.request request) := by
  unfold Machine.request
  rcases wp_cases (accept_served calm) with
    ⟨error | ⟨operation, namespaces⟩, world, computed, same, served⟩ |
      ⟨raised, world, computed, same⟩
  · rw [computed]
    exact honest_spawned serving same rfl
  · rw [computed]
    exact honest_spawned serving same (served_nextVisit (served _ _ rfl))
  · rw [computed]
    exact honest_spawned serving same rfl

theorem honest_call (serving : machine.Serving) (mountedName : String) :
    machine.Informs signature action (machine.call mountedName) := by
  unfold Machine.call
  rcases locateCall_cases machine.world mountedName with
    ⟨tool, _, computed⟩ | ⟨raised, computed⟩
  · rw [computed]
    exact honest_spawned serving (.refl _) rfl
  · rw [computed]
    exact honest_spawned serving (.refl _) rfl

/-- The block takes its debt along to the lock. -/
theorem honest_acquire (serving : machine.Serving) {ns : Namespace}
    {block : Block} (found : machine.tasks task = some (.arriving ns block)) :
    machine.Informs signature action (machine.acquire task ns block) := by
  have served : block.served = true := serving.served task _ found
  have same : SameListing machine.world
      (machine.acquire task ns block).world := by
    obtain ⟨next, moves⟩ := moves_acquire found
    exact moves.world.sameListing
  obtain ⟨_, tasks, _⟩ := machine.namespaceLock_spec ns
  unfold acquire at same ⊢
  generalize machine.namespaceLock ns = looked at tasks same ⊢
  obtain ⟨lock, middle⟩ := looked
  simp only at tasks same ⊢
  have moved : ∀ next : Task,
      Function.update middle.tasks task (some next) =
        Function.update machine.tasks task (some next) := by
    intro next
    rw [tasks]
  have handed : ∀ current, machine.tasks task = some current →
      current.owes = true → block.owes = true := by
    intro current same owes
    cases found.symm.trans same
    exact owes
  by_cases available : (middle.locks lock).Available
  · rw [if_pos available] at same ⊢
    exact honest_elsewhere serving (moved _) same handed served
  · rw [if_neg available] at same ⊢
    exact honest_elsewhere serving (moved _) same handed served

/-- A request starts its block. -/
theorem honest_start (serving : machine.Serving) {ns : Namespace}
    {lock : LockId} {operation : Operation} {rest : List Namespace}
    {entries : List Entry}
    (found : machine.tasks task =
      some (.entered ns lock (.operation operation rest entries))) :
    machine.Informs signature (.enter task)
      (machine.proceed task ns lock operation rest entries
        (outcome (start operation ns) machine.world)) := by
  have served : operation.served = true := serving.served task _ found
  have owed : ∀ current, machine.tasks task = some current →
      current.owes = (false || entries.any operation.notifies) := by
    intro current same
    cases found.symm.trans same
    rfl
  apply honest_stretch serving (by simp [found, Task.operation]) (.inl rfl)
    served owed
  apply wp_mono (start_notices serving.reliable serving.sane.housed
    serving.inventoried operation)
  · exact fun _ _ notices => notices
  · rintro _ after ⟨silent, same⟩
    refine ⟨?_, rfl, same⟩
    exact List.any_eq_false.mpr fun entry _ => by simp [silent entry]

/-- A mounted call changes no list. -/
theorem honest_startCall (serving : machine.Serving) {ns : Namespace}
    {lock : LockId} {mountedName : String}
    (found : machine.tasks task =
      some (.entered ns lock (.callStart mountedName))) :
    machine.Informs signature action
      (machine.startCall task lock mountedName) := by
  have idle : ∀ {next : Task} current,
      machine.tasks task = some current →
        current.owes = true → next.owes = true := by
    intro next current same owes
    cases found.symm.trans same
    cases owes
  simp only [startCall]
  rcases admitCall_cases machine.world mountedName with
    ⟨tool, resolved, computed⟩ | ⟨raised, computed⟩
  · rw [computed]
    simp only
    rcases wp_cases (quiet_dispatch resolved) with
      ⟨_, world, dispatched, ⟨stage, rfl⟩, same⟩ | ⟨_, _, _, impossible⟩
    · rw [dispatched]
      exact honest_elsewhere serving rfl same idle rfl
    · exact impossible.elim
  · rw [computed]
    exact honest_elsewhere serving rfl (.refl _) idle rfl

theorem honest_enter (serving : machine.Serving) {ns : Namespace}
    {lock : LockId} {block : Block}
    (found : machine.tasks task = some (.entered ns lock block)) :
    machine.Informs signature (.enter task)
      (machine.enter task ns lock block) := by
  cases block with
  | operation operation rest entries =>
      exact honest_start serving found
  | callStart mountedName =>
      exact honest_startCall serving found
  | callFinish result =>
      refine honest_elsewhere serving rfl (sameListing_of_objects rfl rfl)
        ?_ rfl
      intro current same owes
      cases found.symm.trans same
      cases owes

/-- A request goes on after an answer that is no failure of a server. -/
theorem honest_reply (serving : machine.Serving) {reply : Reply}
    {ns : Namespace} {lock : LockId} {operation : Operation}
    {rest : List Namespace} {entries : List Entry} {stage : Stage}
    (calm : machine.undisturbed (.reply task reply) = true)
    (found : machine.tasks task =
      some (.suspended ns lock operation rest entries stage)) :
    machine.Informs signature (.reply task reply)
      (machine.proceed task ns lock operation rest entries
        (outcome (resume ns stage reply) machine.world)) := by
  have served : operation.served = true := serving.served task _ found
  obtain ⟨undisturbed, kept⟩ :
      stage.undisturbed ns reply = true ∧
        (cancels reply = true → entries.any operation.notifies = false) := by
    simp only [undisturbed, found, Bool.and_eq_true] at calm
    refine ⟨calm.1, fun cancelled => ?_⟩
    rw [cancelled, Bool.true_and] at calm
    simpa only [Bool.not_eq_true'] using calm.2
  have unmounted : ∀ runtime, stage.landing = some runtime →
      ∀ home, machine.world.runtimes.get home ≠ some runtime := by
    intro runtime lands
    apply (serving.accounted.opening task runtime ?_).2
    simp [landing, found, Task.landing, lands]
  have owed : ∀ current, machine.tasks task = some current →
      current.owes = (stage.turned || entries.any operation.notifies) := by
    intro current same
    cases found.symm.trans same
    rfl
  apply honest_stretch serving (by simp [found, Task.operation])
    (.inr ⟨reply, rfl⟩) served owed
  apply wp_mono (resume_notices serving.reliable
    (serving.sane.proper task _ found)
    (serving.committed.serves task _ _ _ _ _ _ found) served unmounted
    undisturbed)
  · exact fun _ _ notices => notices
  · rintro _ after ⟨silent | cancelled, unturned, same⟩
    · refine ⟨?_, unturned, same⟩
      exact List.any_eq_false.mpr fun entry _ => by simp [silent entry]
    · refine ⟨kept ?_, unturned, same⟩
      rw [cancelled]
      rfl

/-- Only a call in the downstream session is answered, and not by an error. -/
theorem honest_callReply (serving : machine.Serving)
    {reply : Except Raised CallToolResult} {tool : MountedTool}
    {stage : CallStage}
    (calm : machine.undisturbed (.callReply task reply) = true)
    (found : machine.tasks task = some (.calling tool stage)) :
    machine.Informs signature action
      (machine.proceedCall task tool
        (outcome (resumeCall tool stage reply) machine.world)) := by
  obtain ⟨runtime, result, rfl, rfl⟩ :
      ∃ runtime result, stage = .calling runtime ∧ reply = .ok result := by
    cases stage with
    | calling runtime =>
        cases reply with
        | ok result =>
            exact ⟨runtime, result, rfl, rfl⟩
        | error raised =>
            simp [undisturbed, found] at calm
    | aborting runtime =>
        simp [undisturbed, found] at calm
    | disconnecting closing exception =>
        simp [undisturbed, found] at calm
  refine honest_elsewhere serving rfl (.refl _) ?_ rfl
  intro current same owes
  cases found.symm.trans same
  cases owes

theorem honest_step (serving : machine.Serving)
    (calm : machine.undisturbed action = true)
    (taken : step machine action = some after) :
    machine.Informs signature action after := by
  cases action with
  | request request =>
      obtain ⟨_, rfl⟩ := step_request.mp taken
      exact honest_request serving calm
  | call mountedName =>
      obtain ⟨_, rfl⟩ := step_call.mp taken
      exact honest_call serving mountedName
  | acquire task =>
      obtain ⟨ns, block, found, _, rfl⟩ := step_acquire.mp taken
      exact honest_acquire serving found
  | grant task =>
      obtain ⟨ns, lock, block, found, _, _, rfl⟩ := step_grant.mp taken
      have served : block.served = true := serving.served task _ found
      refine honest_elsewhere serving rfl (.refl _) ?_ served
      intro current same owes
      cases found.symm.trans same
      exact owes
  | enter task =>
      obtain ⟨ns, lock, block, found, _, rfl⟩ := step_enter.mp taken
      exact honest_enter serving found
  | reply task reply =>
      obtain ⟨ns, lock, operation, rest, entries, stage, found, _, rfl⟩ :=
        step_reply.mp taken
      exact honest_reply serving calm found
  | callReply task reply =>
      obtain ⟨tool, stage, found, _, rfl⟩ := step_callReply.mp taken
      exact honest_callReply serving calm found
  | cancelWaiting task =>
      obtain ⟨ns, lock, block, found, _, rfl⟩ := step_cancelWaiting.mp taken
      refine honest_elsewhere serving rfl (.refl _) ?_ rfl
      intro current same owes
      simp [undisturbed, same, owes] at calm
  | die runtime =>
      obtain ⟨_, rfl⟩ := step_die.mp taken
      have same : SameListing machine.world
          (machine.world.markDone runtime) := by
        apply sameListing_markDone
        intro ns mounted
        have member := Dict.mem_of_get mounted
        simp only [undisturbed, Bool.not_eq_true', List.any_eq_false] at calm
        exact absurd (beq_self_eq_true runtime) (calm _ member)
      exact ⟨serving.served,
        .unchanged (same.listTools serving.inventoried signature) id⟩

theorem serving_step (serving : machine.Serving)
    (calm : machine.undisturbed action = true)
    (taken : step machine action = some after) :
    after.Serving ∧ machine.Honest signature action after := by
  obtain ⟨served, honest⟩ := honest_step serving calm taken
  refine ⟨⟨listable_step serving.toListable taken, ?_, served⟩, honest⟩
  exact (store_of_turn serving.sane (turn_of_step taken)).1 serving.reliable

/-! ## Runs -/

/-- Let a client list the tools when nothing is under way, in any life of the
service, and again whenever it is notified.  As long as no downstream server
fails, its last list is the server's whenever every request has been answered. -/
theorem client_list_current (signature : String → Json)
    {host start : Machine} {lists : List (List Tool)}
    (lived : Reaches lifeStep (fun _ _ => True) host.restart start)
    (idle : start.idle = true) (reliable : start.world.Reliable)
    (reaches :
      Reaches
        (monitor step (Copies.fetched (shownTools signature) tells))
        (fun before action => before.1.undisturbed action = true)
        (start, [listTools signature start.world]) (machine, lists))
    (answered : machine.idle = true) :
    lists.getLast? = some (listTools signature machine.world) := by
  have listable := listable_of_lives lived
  have serving : start.Serving := by
    refine ⟨listable, reliable, ?_⟩
    intro task current found
    have ended := answered_of_idle listable.sane idle task
    rw [found] at ended
    cases current with
    | answered answer =>
        rfl
    | _ =>
        cases ended
  obtain ⟨served, current⟩ :=
    @Copies.current_of_reaches _ _ _ (shownTools signature) Owes tells step
      (fun before action => before.undisturbed action = true) Serving _ _ _ _
      reaches serving (.inl rfl)
      (fun before action after holds calm taken =>
        serving_step holds calm taken)
  rcases current with same | ⟨task, current, found, owes⟩
  · exact same
  · have ended := answered_of_idle served.sane answered task
    rw [found] at ended
    cases (Task.unanswered_of_owes owes).symm.trans ended

/-! ## Calling what is listed -/

omit [Platform] in
/-- The server's own names have no dot. -/
theorem undotted_static {name : String}
    (static : name ∈ serverTools.map Prod.fst) : '.' ∉ name.toList := by
  have undotted : ∀ listed ∈ serverTools.map Prod.fst,
      '.' ∉ listed.toList := by
    decide
  exact undotted name static

theorem dotted_mounted {world : World} (listed : world.Listed)
    {tool : MountedTool} (member : tool ∈ listAllMountedTools world) :
    '.' ∈ tool.mountedName.toList := by
  obtain ⟨ns, among⟩ := (mem_listAllMountedTools listed).mp member
  obtain ⟨runtime, source, _, _, rfl⟩ := mem_mountedToolsOf.mp among
  change '.' ∈ (mountedToolName ns source.name).toList
  rw [toList_mountedToolName]
  exact List.mem_append_right _ List.mem_cons_self

omit [Platform] in
theorem names_listTools (signature : String → Json) (world : World) :
    (listTools signature world).map Tool.name =
      serverTools.map Prod.fst ++
        (listAllMountedTools world).map MountedTool.mountedName := by
  simp [listTools, staticTools, listMountedToolDefinitions,
    MountedTool.definition, Function.comp_def]

/-- In every state of every life, the names the client is shown are distinct;
a call by one of them goes to the tool it was shown for, and a call by any
other name is an error. -/
theorem listed_tools_route (signature : String → Json) {host : Machine}
    (admitted : host.world.document.Admitted)
    (reaches : Reaches lifeStep (fun _ _ => True) host.restart machine) :
    ((listTools signature machine.world).map Tool.name).Nodup ∧
      (∀ shown ∈ listTools signature machine.world,
        shown ∈ staticTools signature ∧
            route machine.world shown.name = .static shown.name ∨
          ∃ tool, resolveMountedTool machine.world shown.name = some tool ∧
            shown = tool.definition ∧
            route machine.world shown.name = .mounted shown.name) ∧
      ∀ name, name ∉ (listTools signature machine.world).map Tool.name →
        route machine.world name =
            .toolError ("Unknown tool: " ++ name) ∧
          resolveMountedTool machine.world name = none := by
  have listed := (dispatching_of_lives admitted reaches).2.listed
  have apart : ∀ tool ∈ listAllMountedTools machine.world,
      tool.mountedName ∉ serverTools.map Prod.fst :=
    fun tool member static =>
      undotted_static static (dotted_mounted listed member)
  refine ⟨?_, ?_, ?_⟩
  · rw [names_listTools, List.nodup_append]
    refine ⟨by decide, nodup_listAllMountedTools listed, ?_⟩
    rintro name static _ mounted rfl
    obtain ⟨tool, member, rfl⟩ := List.mem_map.mp mounted
    exact apart tool member static
  · intro shown member
    rcases List.mem_append.mp member with static | mounted
    · left
      refine ⟨static, if_pos ?_⟩
      obtain ⟨tool, registered, rfl⟩ := List.mem_map.mp static
      exact List.mem_map_of_mem registered
    · right
      obtain ⟨tool, among, rfl⟩ := List.mem_map.mp mounted
      have resolves : resolveMountedTool machine.world tool.mountedName =
          some tool :=
        (resolveMountedTool_eq_some listed).mpr ⟨among, rfl⟩
      refine ⟨tool, resolves, rfl, ?_⟩
      have known : isMountedTool machine.world tool.mountedName = true := by
        unfold isMountedTool
        rw [resolves]
        rfl
      change route machine.world tool.mountedName = _
      unfold route
      rw [if_neg (apart tool among), if_pos known]
      rfl
  · intro name unlisted
    rw [names_listTools, List.mem_append, not_or] at unlisted
    have unresolved : resolveMountedTool machine.world name = none := by
      cases resolves : resolveMountedTool machine.world name with
      | none =>
          rfl
      | some tool =>
          obtain ⟨among, rfl⟩ := (resolveMountedTool_eq_some listed).mp resolves
          exact absurd (List.mem_map_of_mem among) unlisted.2
    refine ⟨?_, unresolved⟩
    unfold route isMountedTool
    rw [if_neg unlisted.1, unresolved]
    rfl

end Steps

section Ascii

open scoped Ascii

/-- The bundled toolset is activated; the client lists the tools twice. -/
theorem client_list_current_fake :
    ∃ machine lists,
      Reaches
          (monitor step
            (Copies.fetched (shownTools fun _ => .obj []) tells))
          (fun before action => before.1.undisturbed action = true)
          (firstProcess {},
            [listTools (fun _ => .obj []) (firstProcess {}).world])
          (machine, lists) ∧
        lists.map (fun tools => (tools.map Tool.name).drop 20) =
          [[], ["fake_stdio.ping"]] ∧
        lists.getLast? = some (listTools (fun _ => .obj []) machine.world) := by
  obtain ⟨⟨machine, lists⟩, reaches, names, idle⟩ :=
    exists_reaches_of_execute
      [.request (.activateToolsets ["fake_stdio"] "thread" true),
       .acquire 0, .enter 0, .reply 0 (.ok [Ascii.ping])]
      (by decide +kernel :
        (execute
          (monitor step
            (Copies.fetched (shownTools fun _ => .obj []) tells))
          (fun before action => before.1.undisturbed action = true)
          (firstProcess {},
            [listTools (fun _ => .obj []) (firstProcess {}).world]) _).any
          (fun final =>
            final.2.map (fun tools => (tools.map Tool.name).drop 20) =
                [[], ["fake_stdio.ping"]] ∧
              final.1.idle = true) = true)
  have reliable : (firstProcess {}).world.Reliable := by
    intro fault member
    have faultless : (firstProcess {}).world.writeFaults = [] := by
      decide +kernel
    rw [faultless] at member
    cases member
  exact ⟨machine, lists, reaches, names,
    client_list_current _ Reaches.start (by decide +kernel) reliable reaches
      idle⟩

/-- The bundled toolset is activated in the first process. -/
theorem listed_tools_route_fake :
    ∃ machine,
      Reaches lifeStep (fun _ _ => True) (firstProcess {}) machine ∧
        "fake_stdio.ping" ∈
          (listTools (fun _ => .obj []) machine.world).map Tool.name ∧
        ((listTools (fun _ => .obj []) machine.world).map Tool.name).Nodup ∧
        route machine.world "fake_stdio.pong" =
          .toolError "Unknown tool: fake_stdio.pong" := by
  obtain ⟨machine, reaches, shown, unlisted⟩ :=
    exists_reaches_of_execute
      [some (.request (.activateToolsets ["fake_stdio"] "thread" true)),
       some (.acquire 0), some (.enter 0), some (.reply 0 (.ok [Ascii.ping]))]
      (by decide +kernel :
        (execute lifeStep (fun _ _ => True) (firstProcess {}) _).any
          (fun machine =>
            "fake_stdio.ping" ∈
                (listTools (fun _ => .obj []) machine.world).map Tool.name ∧
              "fake_stdio.pong" ∉
                (listTools (fun _ => .obj []) machine.world).map
                  Tool.name) = true)
  have admitted : (emptyHost {}).world.document.Admitted := by
    intro ns present
    exact absurd rfl present
  obtain ⟨distinct, _, others⟩ :=
    listed_tools_route (fun _ => .obj []) admitted reaches
  exact ⟨machine, reaches, shown, distinct, (others _ unlisted).1⟩

end Ascii

end Machine

end ToolboxMcp
