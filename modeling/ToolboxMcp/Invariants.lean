import ToolboxMcp.Machine
import ToolboxMcp.Service.Confinement

/-!
# Invariants of every run

`Sane` holds in every state the machine can reach, whatever its clients ask
for: the lock table records exactly which task waits for or holds which lock,
a task between two awaits is the one the event loop runs, and the locals of
every suspended task belong to its namespace.
-/

namespace ToolboxMcp

open Effect

def Task.Proper (world : World) : Task → Prop
  | .suspended ns _ _ _ _ stage => stage.Proper world ns
  | .calling tool stage => stage.Proper world tool.ns
  | _ => True

/-- The task is between two awaits. -/
def Task.Running : Task → Prop
  | .arriving .. => True
  | .entered .. => True
  | _ => False

theorem Task.Proper.mono {before after : World} {task : Task}
    (owned : ∀ ns runtime, before.Owned ns runtime → after.Owned ns runtime)
    (proper : task.Proper before) : task.Proper after := by
  cases task with
  | suspended ns lock operation rest entries stage =>
      exact Stage.Proper.mono (owned ns) proper
  | calling tool stage =>
      exact CallStage.Proper.mono (owned tool.ns) proper
  | arriving ns block =>
      trivial
  | waiting ns lock block =>
      trivial
  | entered ns lock block =>
      trivial
  | answered answer =>
      trivial

namespace Machine

structure Sane (machine : Machine) : Prop where
  housed : machine.world.Housed
  fresh : ∀ task, machine.nextTask ≤ task → machine.tasks task = none
  proper :
    ∀ task current,
      machine.tasks task = some current → current.Proper machine.world
  running :
    ∀ task current,
      machine.tasks task = some current → current.Running →
        machine.current = some task
  consistent : Mutex.Consistent machine.locks machine.standing

variable {machine : Machine}

theorem standing_of_tasks {task : TaskId} {current : Task}
    (found : machine.tasks task = some current) :
    machine.standing task = current.standing := by
  simp [standing, found]

theorem standing_eq_update {after : Machine} {task : TaskId} {next : Task}
    (tasks : after.tasks = Function.update machine.tasks task (some next)) :
    after.standing =
      Function.update machine.standing task next.standing := by
  funext other
  by_cases same : other = task
  · subst same
    simp [standing, tasks]
  · simp [standing, tasks, same]

/-- One task has moved on; the others are where they were. -/
theorem Sane.advance (sane : machine.Sane) {after : Machine}
    {task : TaskId} {next : Task}
    (free : machine.current = none ∨ machine.current = some task)
    (present : task < after.nextTask)
    (nextTask : machine.nextTask ≤ after.nextTask)
    (tasks : after.tasks = Function.update machine.tasks task (some next))
    (housed : after.world.Housed)
    (owned : ∀ ns runtime,
      machine.world.Owned ns runtime → after.world.Owned ns runtime)
    (proper : next.Proper after.world)
    (running : next.Running → after.current = some task)
    (consistent :
      Mutex.Consistent after.locks
        (Function.update machine.standing task next.standing)) :
    after.Sane where
  housed := housed
  fresh := by
    intro other later
    have different : other ≠ task := (present.trans_le later).ne'
    rw [tasks, Function.update_of_ne different]
    exact sane.fresh other (nextTask.trans later)
  proper := by
    intro other current found
    rw [tasks] at found
    by_cases same : other = task
    · subst same
      rw [Function.update_self] at found
      cases found
      exact proper
    · rw [Function.update_of_ne same] at found
      exact (sane.proper other current found).mono owned
  running := by
    intro other current found runs
    rw [tasks] at found
    by_cases same : other = task
    · subst same
      rw [Function.update_self] at found
      cases found
      exact running runs
    · rw [Function.update_of_ne same] at found
      have elsewhere := sane.running other current found runs
      rcases free with idle | self
      · rw [idle] at elsewhere
        cases elsewhere
      · rw [self] at elsewhere
        exact absurd (Option.some.inj elsewhere).symm same
  consistent := by
    rw [standing_eq_update tasks]
    exact consistent

theorem Sane.present (sane : machine.Sane) {task : TaskId} {current : Task}
    (found : machine.tasks task = some current) :
    task < machine.nextTask := by
  by_contra late
  have missing := sane.fresh task (Nat.not_lt.mp late)
  rw [found] at missing
  cases missing

/-- Moving on without touching a lock. -/
theorem Sane.consistent_same (sane : machine.Sane) {task : TaskId}
    {place : Mutex.Standing LockId}
    (same : machine.standing task = place) :
    Mutex.Consistent machine.locks
      (Function.update machine.standing task place) := by
  rw [← same, Function.update_eq_self]
  exact sane.consistent

theorem sane_spawn (sane : machine.Sane) (free : machine.current = none)
    {next : Task} {world : World} (housed : world.Housed)
    (owned : ∀ ns runtime,
      machine.world.Owned ns runtime → world.Owned ns runtime)
    (proper : next.Proper world) (away : next.standing = .away)
    (running : next.Running → ∃ ns block, next = .arriving ns block) :
    (machine.spawn next world).Sane := by
  refine sane.advance (.inl free) (Nat.lt_succ_self _) (Nat.le_succ _) rfl
    housed owned proper ?_ ?_
  · intro runs
    obtain ⟨ns, block, rfl⟩ := running runs
    rfl
  · apply sane.consistent_same
    simp [standing, sane.fresh _ le_rfl, away]

theorem sane_leave (sane : machine.Sane)
    {task : TaskId} {current next : Task} {lock : LockId} {world : World}
    (free : machine.current = none ∨ machine.current = some task)
    (found : machine.tasks task = some current)
    (holding : current.standing = .holding lock)
    (housed : world.Housed)
    (owned : ∀ ns runtime,
      machine.world.Owned ns runtime → world.Owned ns runtime)
    (proper : next.Proper world) (away : next.standing = .away)
    (running : next.Running → ∃ ns block, next = .arriving ns block) :
    (machine.leave task lock world next).Sane := by
  refine sane.advance free (sane.present found) le_rfl rfl housed owned
    proper ?_ ?_
  · intro runs
    obtain ⟨ns, block, rfl⟩ := running runs
    rfl
  · rw [away]
    apply sane.consistent.release
    rw [standing_of_tasks found, holding]

theorem standing_nextVisit (operation : Operation) (rest : List Namespace)
    (entries : List Entry) :
    (nextVisit operation rest entries).standing = .away := by
  cases rest <;> rfl

theorem proper_nextVisit (operation : Operation) (rest : List Namespace)
    (entries : List Entry) (world : World) :
    (nextVisit operation rest entries).Proper world := by
  cases rest <;> trivial

theorem running_nextVisit {operation : Operation} {rest : List Namespace}
    {entries : List Entry}
    (runs : (nextVisit operation rest entries).Running) :
    ∃ ns block,
      nextVisit operation rest entries = .arriving ns block := by
  cases rest with
  | nil =>
      cases runs
  | cons first later =>
      exact ⟨first, _, rfl⟩

/-- The end of any stretch of a lifecycle block. -/
theorem sane_proceed (sane : machine.Sane) {task : TaskId} {current : Task}
    {ns : Namespace} {lock : LockId} {operation : Operation}
    {rest : List Namespace} {entries : List Entry}
    {program : ServiceM Progress}
    (free : machine.current = none ∨ machine.current = some task)
    (found : machine.tasks task = some current)
    (holding : current.standing = .holding lock)
    (sound : wp program
      (fun progress after =>
        Sound ns machine.world after ∧ progress.Proper after ns)
      (fun _ after => Sound ns machine.world after) machine.world) :
    (machine.proceed task ns lock operation rest entries
      (outcome program machine.world)).Sane := by
  rcases wp_cases sound with
    ⟨stage | more, after, computed, kept, proper⟩ |
      ⟨raised, after, computed, kept⟩
  · rw [computed]
    refine sane.advance free (sane.present found) le_rfl rfl kept.housed
      (fun _ _ => kept.owned) proper (fun runs => runs.elim) ?_
    apply sane.consistent_same
    rw [standing_of_tasks found, holding]
    rfl
  · rw [computed]
    exact sane_leave sane free found holding kept.housed
      (fun _ _ => kept.owned) (proper_nextVisit _ _ _ _)
      (standing_nextVisit _ _ _) running_nextVisit
  · rw [computed]
    exact sane_leave sane free found holding kept.housed
      (fun _ _ => kept.owned) trivial rfl fun runs => runs.elim

/-- The end of any stretch of a started call; the first one begins by leaving
a lock. -/
theorem sane_proceedCall (sane : machine.Sane) {task : TaskId}
    {locks : LockId → Mutex TaskId}
    {tool : MountedTool} {program : ServiceM CallProgress} {world : World}
    (free : machine.current = none ∨ machine.current = some task)
    (present : task < machine.nextTask)
    (consistent :
      Mutex.Consistent locks (Function.update machine.standing task .away))
    (owned : ∀ ns runtime,
      machine.world.Owned ns runtime → world.Owned ns runtime)
    (sound : wp program
      (fun progress after =>
        Sound tool.ns world after ∧ progress.Proper after tool.ns)
      (fun _ after => Sound tool.ns world after) world) :
    (proceedCall { machine with locks := locks } task tool
      (outcome program world)).Sane := by
  rcases wp_cases sound with
    ⟨stage | result, after, computed, kept, proper⟩ |
      ⟨raised, after, computed, kept⟩
  · rw [computed]
    exact sane.advance free present le_rfl rfl kept.housed
      (fun _ _ held => kept.owned (owned _ _ held)) proper
      (fun runs => runs.elim) consistent
  · rw [computed]
    exact sane.advance free present le_rfl rfl kept.housed
      (fun _ _ held => kept.owned (owned _ _ held)) trivial
      (fun _ => rfl) consistent
  · rw [computed]
    exact sane.advance free present le_rfl rfl kept.housed
      (fun _ _ held => kept.owned (owned _ _ held)) trivial
      (fun _ => rfl) consistent

/-- Looking a lock up changes nothing but the dictionary. -/
theorem namespaceLock_spec (machine : Machine) (ns : Namespace) :
    let found := machine.namespaceLock ns
    found.2.locks = machine.locks ∧ found.2.tasks = machine.tasks ∧
      found.2.current = machine.current ∧
      found.2.nextTask = machine.nextTask ∧
      found.2.world.objects = machine.world.objects ∧
      found.2.world.nextRuntime = machine.world.nextRuntime ∧
      found.2.world.runtimes = machine.world.runtimes ∧
      found.2.world.document = machine.world.document ∧
      found.2.world.inFlight = machine.world.inFlight ∧
      found.2.world.namespaceLocks.get ns = some found.1 ∧
      (∀ other, other ≠ ns →
        found.2.world.namespaceLocks.get other =
          machine.world.namespaceLocks.get other) ∧
      (machine.world.namespaceLocks.get ns = none ∨
        machine.world.namespaceLocks.get ns = some found.1) := by
  simp only [namespaceLock]
  cases entry : machine.world.namespaceLocks.get ns with
  | some lock =>
      simp [entry]
  | none =>
      simp only [World.setLockEntry_objects, World.setLockEntry_nextRuntime,
        World.setLockEntry_runtimes, World.setLockEntry_document,
        World.setLockEntry_inFlight, World.setLockEntry_namespaceLocks,
        Dict.get_set, if_true, true_and, true_or, and_true]
      intro other different
      rw [if_neg different]

/-! ## Requests and admissions -/

section Requests

variable {world : World}

theorem refuse_untouched (operation : AuditOperation) (error : ErrorInfo) :
    wp (refuse operation error) (fun _ after => Untouched world after)
      (fun _ after => Untouched world after) world := by
  unfold refuse
  rw [wp_bind]
  apply appendAuditEvent_rule
  · exact fun after untouched => untouched
  · exact fun _ after untouched _ => untouched

/-- Checking a request writes nothing but an audit event. -/
theorem accept_untouched [Platform] (request : Request) :
    wp (accept request) (fun _ after => Untouched world after)
      (fun _ after => Untouched world after) world := by
  have same := Untouched.refl world
  cases request with
  | registerToolset ns transport registration =>
      simp only [accept, acceptRegister]
      split
      · exact refuse_untouched _ _
      split
      · exact refuse_untouched _ _
      · exact same
  | activateToolsets namespaces scope ifNotLoaded =>
      simp only [accept]
      split
      · exact same
      · exact refuse_untouched _ _
  | refreshToolsets namespaces ifStale scope =>
      simp only [accept]
      split
      · exact same
      · exact refuse_untouched _ _
  | deactivateToolsets namespaces scope force =>
      simp only [accept]
      split
      · exact same
      · exact refuse_untouched _ _
  | restoreToolsets namespaces stableHostIdentity startup =>
      exact same
  | checkToolsetHealth namespaces scope =>
      simp only [accept]
      split
      · exact same
      · exact refuse_untouched _ _
  | clearStaleToolsets namespaces =>
      exact same
  | markToolsetStale ns reason =>
      exact same
  | unregisterToolsets namespaces force =>
      exact same

/-- Locating a call leaves the world alone. -/
theorem locateCall_cases (world : World) (mountedName : String) :
    (∃ tool, resolveMountedTool world mountedName = some tool ∧
        outcome (locateCall mountedName) world = (.ok tool.ns, world)) ∨
      ∃ raised,
        outcome (locateCall mountedName) world = (.error raised, world) := by
  unfold locateCall
  rw [outcome_bind, outcome_get]
  cases resolved : resolveMountedTool world mountedName with
  | some tool =>
      refine .inl ⟨tool, rfl, ?_⟩
      simp only [resolved]
      rfl
  | none =>
      refine .inr ⟨unknownMountedTool mountedName, ?_⟩
      simp only [resolved]
      rfl

/-- Admitting a call counts it and does nothing else. -/
theorem admitCall_cases (world : World) (mountedName : String) :
    (∃ tool, resolveMountedTool world mountedName = some tool ∧
        outcome (admitCall mountedName) world =
          (.ok tool, world.noteCallStarted tool.ns)) ∨
      ∃ raised,
        outcome (admitCall mountedName) world = (.error raised, world) := by
  unfold admitCall
  rw [outcome_bind, outcome_get]
  cases resolved : resolveMountedTool world mountedName with
  | some tool =>
      refine .inl ⟨tool, rfl, ?_⟩
      simp only [resolved]
      rfl
  | none =>
      refine .inr ⟨unknownMountedTool mountedName, ?_⟩
      simp only [resolved]
      rfl

end Requests

/-! ## Every step -/

section Steps

variable {after : Machine} {task : TaskId}

theorem sane_acquire (sane : machine.Sane) {ns : Namespace} {block : Block}
    (found : machine.tasks task = some (.arriving ns block))
    (turn : machine.current = some task) :
    (machine.acquire task ns block).Sane := by
  obtain ⟨locks, tasks, current, nextTask, objects, nextRuntime, runtimes,
    document, inFlight, entry, others, _⟩ := machine.namespaceLock_spec ns
  unfold acquire
  generalize machine.namespaceLock ns = looked at *
  obtain ⟨lock, middle⟩ := looked
  simp only at locks tasks current nextTask objects nextRuntime runtimes ⊢
  have away : machine.standing task = .away := standing_of_tasks found
  have housed : middle.world.Housed := by
    intro home runtime mounted
    rw [runtimes] at mounted
    have owned := sane.housed home runtime mounted
    unfold World.Owned
    rwa [nextRuntime, objects]
  have owned : ∀ home runtime,
      machine.world.Owned home runtime → middle.world.Owned home runtime := by
    intro home runtime owned
    unfold World.Owned
    rwa [nextRuntime, objects]
  have present : task < middle.nextTask := nextTask ▸ sane.present found
  split
  · rename_i available
    have moved :
        Function.update middle.tasks task (some (.entered ns lock block)) =
          Function.update machine.tasks task
            (some (.entered ns lock block)) := by
      rw [tasks]
    refine sane.advance (.inr turn) present nextTask.ge moved housed owned
      trivial (fun _ => rfl) ?_
    rw [locks] at available
    have acquired := sane.consistent.acquire away available
    simp only [setTask, changeLock, locks]
    exact acquired
  · have moved :
        Function.update middle.tasks task (some (.waiting ns lock block)) =
          Function.update machine.tasks task
            (some (.waiting ns lock block)) := by
      rw [tasks]
    refine sane.advance (.inr turn) present nextTask.ge moved housed owned
      trivial (fun runs => runs.elim) ?_
    have queued :
        Mutex.Consistent
          (Function.update machine.locks lock
            ((machine.locks lock).enqueue task))
          (Function.update machine.standing task (.waiting lock)) :=
      sane.consistent.enqueue away
    simp only [setTask, changeLock, locks]
    exact queued

theorem sane_grant (sane : machine.Sane) {ns : Namespace} {lock : LockId}
    {block : Block}
    (found : machine.tasks task = some (.waiting ns lock block))
    (free : machine.current = none)
    (grants : (machine.locks lock).Grants task) :
    (machine.grant task ns lock block).Sane :=
  sane.advance (.inl free) (sane.present found) le_rfl rfl sane.housed
    (fun _ _ => id) trivial (fun _ => rfl) (sane.consistent.grant grants)

theorem sane_cancelWaiting (sane : machine.Sane) {ns : Namespace}
    {lock : LockId} {block : Block}
    (found : machine.tasks task = some (.waiting ns lock block))
    (free : machine.current = none) :
    (machine.cancelWaiting task lock).Sane :=
  sane.advance (.inl free) (sane.present found) le_rfl rfl sane.housed
    (fun _ _ => id) trivial (fun runs => runs.elim)
    (sane.consistent.abandon (standing_of_tasks found))

variable [Platform]

theorem sane_request (sane : machine.Sane) (free : machine.current = none)
    (request : Request) : (machine.request request).Sane := by
  have keeps : ∀ {world : World}, Untouched machine.world world →
      Sound "" machine.world world := fun kept => kept.sound sane.housed
  unfold Machine.request
  rcases wp_cases (accept_untouched request) with
    ⟨error | ⟨operation, namespaces⟩, world, computed, untouched⟩ |
      ⟨raised, world, computed, untouched⟩
  · rw [computed]
    exact sane_spawn sane free (keeps untouched).housed
      (fun _ _ => (keeps untouched).owned) trivial rfl
      fun runs => runs.elim
  · rw [computed]
    exact sane_spawn sane free (keeps untouched).housed
      (fun _ _ => (keeps untouched).owned) (proper_nextVisit _ _ _ _)
      (standing_nextVisit _ _ _) running_nextVisit
  · rw [computed]
    exact sane_spawn sane free (keeps untouched).housed
      (fun _ _ => (keeps untouched).owned) trivial rfl
      fun runs => runs.elim

omit [Platform] in
theorem sane_call (sane : machine.Sane) (free : machine.current = none)
    (mountedName : String) : (machine.call mountedName).Sane := by
  unfold Machine.call
  rcases locateCall_cases machine.world mountedName with
    ⟨tool, _, computed⟩ | ⟨raised, computed⟩
  · rw [computed]
    exact sane_spawn sane free sane.housed (fun _ _ => id) trivial rfl
      fun _ => ⟨_, _, rfl⟩
  · rw [computed]
    exact sane_spawn sane free sane.housed (fun _ _ => id) trivial rfl
      fun runs => runs.elim

omit [Platform] in
theorem sane_startCall (sane : machine.Sane) {ns : Namespace}
    {lock : LockId} {mountedName : String}
    (found :
      machine.tasks task = some (.entered ns lock (.callStart mountedName)))
    (turn : machine.current = some task) :
    (machine.startCall task lock mountedName).Sane := by
  unfold startCall
  rcases admitCall_cases machine.world mountedName with
    ⟨tool, _, computed⟩ | ⟨raised, computed⟩
  · rw [computed]
    have released := sane.consistent.release (standing_of_tasks found)
    exact sane_proceedCall sane (.inr turn) (sane.present found) released
      (fun _ _ => id) (dispatchCall_sound sane.housed)
  · rw [computed]
    exact sane_leave sane (.inr turn) found rfl sane.housed (fun _ _ => id)
      trivial rfl fun runs => runs.elim

theorem sane_enter (sane : machine.Sane) {ns : Namespace} {lock : LockId}
    {block : Block}
    (found : machine.tasks task = some (.entered ns lock block))
    (turn : machine.current = some task) :
    (machine.enter task ns lock block).Sane := by
  cases block with
  | operation operation rest entries =>
      exact sane_proceed sane (.inr turn) found rfl
        (start_sound sane.housed operation)
  | callStart mountedName =>
      exact sane_startCall sane found turn
  | callFinish result =>
      exact sane_leave sane (.inr turn) found rfl sane.housed
        (fun _ _ => id) trivial rfl fun runs => runs.elim

theorem sane_step (sane : machine.Sane) {action : Action}
    (taken : step machine action = some after) : after.Sane := by
  cases action with
  | request request =>
      obtain ⟨free, rfl⟩ := step_request.mp taken
      exact sane_request sane free request
  | call mountedName =>
      obtain ⟨free, rfl⟩ := step_call.mp taken
      exact sane_call sane free mountedName
  | acquire task =>
      obtain ⟨ns, block, found, turn, rfl⟩ := step_acquire.mp taken
      exact sane_acquire sane found turn
  | grant task =>
      obtain ⟨ns, lock, block, found, free, grants, rfl⟩ :=
        step_grant.mp taken
      exact sane_grant sane found free grants
  | enter task =>
      obtain ⟨ns, lock, block, found, turn, rfl⟩ := step_enter.mp taken
      exact sane_enter sane found turn
  | reply task reply =>
      obtain ⟨ns, lock, operation, rest, entries, stage, found, free, rfl⟩ :=
        step_reply.mp taken
      exact sane_proceed sane (.inl free) found rfl
        (resume_sound sane.housed (sane.proper task _ found) reply)
  | callReply task reply =>
      obtain ⟨tool, stage, found, free, rfl⟩ := step_callReply.mp taken
      exact sane_proceedCall sane (.inl free) (sane.present found)
        (sane.consistent_same (standing_of_tasks found)) (fun _ _ => id)
        (resumeCall_sound sane.housed (sane.proper task _ found) reply)
  | cancelWaiting task =>
      obtain ⟨ns, lock, block, found, free, rfl⟩ :=
        step_cancelWaiting.mp taken
      exact sane_cancelWaiting sane found free
  | die runtime =>
      obtain ⟨free, rfl⟩ := step_die.mp taken
      have names : ∀ other,
          ((machine.world.markDone runtime).objects other).ns =
            (machine.world.objects other).ns := by
        intro other
        rw [World.markDone_objects, Function.update_apply]
        split
        · rename_i same
          rw [same]
        · rfl
      have owned : ∀ home other, machine.world.Owned home other →
          (machine.world.markDone runtime).Owned home other :=
        fun home other held => ⟨held.1, (names other).trans held.2⟩
      exact {
        housed := fun home other mounted =>
          owned home other (sane.housed home other mounted)
        fresh := sane.fresh
        proper := fun task current found =>
          (sane.proper task current found).mono owned
        running := sane.running
        consistent := sane.consistent }

/-! ## Every run -/

omit [Platform] in
theorem sane_boot (world : World) : (boot world).Sane where
  housed ns runtime mounted := by
    cases mounted
  fresh _ _ := rfl
  proper task current found := by
    cases found
  running task current found := by
    cases found
  consistent := Mutex.Consistent.initial

theorem sane_of_reaches {world : World}
    {allowed : Machine → Action → Prop}
    (reaches : Reaches step allowed (boot world) machine) : machine.Sane :=
  reaches.invariant (sane_boot world) fun _ _ _ sane _ taken =>
    sane_step sane taken

end Steps

end Machine

end ToolboxMcp
