import ToolboxMcp.Library.Ranking
import ToolboxMcp.Service.Awaits
import ToolboxMcp.Turns

/-!
# What a step does to its task and to the locks

Every step but a runtime's death moves one task.  `Motion` lists the ways: a
task arrives, takes a lock or queues on it, is granted it, pauses inside it,
leaves it, goes on with a started call, or is cancelled while it waits.  `work`
is an upper bound of the steps a task still has to make, and every motion of a
task already there lowers it.
-/

namespace ToolboxMcp

open Effect

/-- The steps a block takes once its lock is held; a lifecycle operation goes
on to its other namespaces, and a call comes back to be counted off. -/
def Block.work : Block → Nat
  | .operation _ rest _ => 4 + 6 * rest.length
  | .callStart _ => 7
  | .callFinish _ => 1

def Task.work : Task → Nat
  | .arriving _ block => block.work + 2
  | .waiting _ _ block => block.work + 1
  | .entered _ _ block => block.work
  | .suspended _ _ _ rest _ stage => stage.remaining + 6 * rest.length
  | .calling _ stage => stage.remaining + 3
  | .answered _ => 0

/-- The steps a task takes before it gives up the lock it holds. -/
def Task.turns : Task → Nat
  | .entered .. => 4
  | .suspended _ _ _ _ _ stage => stage.remaining
  | _ => 0

theorem Block.work_pos (block : Block) : 0 < block.work := by
  cases block with
  | operation operation rest entries =>
      simp only [Block.work]
      omega
  | callStart mountedName =>
      exact Nat.succ_pos _
  | callFinish outcome =>
      exact Nat.succ_pos _

/-- A task has work exactly until it is answered. -/
theorem Task.work_pos_iff (task : Task) :
    0 < task.work ↔ task.unanswered = true := by
  cases task with
  | arriving ns block =>
      simp [Task.work, Task.unanswered]
  | waiting ns lock block =>
      simp [Task.work, Task.unanswered]
  | entered ns lock block =>
      simp [Task.work, Task.unanswered, block.work_pos]
  | suspended ns lock operation rest entries stage =>
      simp [Task.work, Task.unanswered, stage.remaining_pos]
  | calling tool stage =>
      simp [Task.work, Task.unanswered]
  | answered answer =>
      simp [Task.work, Task.unanswered]

theorem Task.turns_le (task : Task) : task.turns ≤ 4 := by
  cases task with
  | suspended ns lock operation rest entries stage =>
      cases stage <;> simp [Task.turns, Stage.remaining]
  | _ =>
      simp [Task.turns]

/-- The action runs code inside a lock of the task. -/
def Action.continues : Action → Option TaskId
  | .enter task => some task
  | .reply task _ => some task
  | _ => none

namespace Machine

inductive Motion (machine : Machine) :
    Action → TaskId → Task → (LockId → Mutex TaskId) → Prop where
  | arrives {action : Action} {next : Task}
      (new : action.arrives = true)
      (away : next.standing = .away) :
      Motion machine action machine.nextTask next machine.locks
  | takes {task : TaskId} {ns : Namespace} {block : Block} {lock : LockId}
      (found : machine.tasks task = some (.arriving ns block))
      (available : (machine.locks lock).Available) :
      Motion machine (.acquire task) task (.entered ns lock block)
        (Function.update machine.locks lock (machine.locks lock).acquire)
  | queues {task : TaskId} {ns : Namespace} {block : Block} {lock : LockId}
      (found : machine.tasks task = some (.arriving ns block)) :
      Motion machine (.acquire task) task (.waiting ns lock block)
        (Function.update machine.locks lock
          ((machine.locks lock).enqueue task))
  | granted {task : TaskId} {ns : Namespace} {block : Block} {lock : LockId}
      (found : machine.tasks task = some (.waiting ns lock block))
      (grants : (machine.locks lock).Grants task) :
      Motion machine (.grant task) task (.entered ns lock block)
        (Function.update machine.locks lock (machine.locks lock).grant)
  | pauses {action : Action} {task : TaskId} {current next : Task}
      {lock : LockId}
      (continues : action.continues = some task)
      (found : machine.tasks task = some current)
      (holding : current.standing = .holding lock)
      (held : next.standing = .holding lock)
      (sooner : next.turns < current.turns)
      (less : next.work < current.work) :
      Motion machine action task next machine.locks
  | leaves {action : Action} {task : TaskId} {current next : Task}
      {lock : LockId}
      (continues : action.continues = some task)
      (found : machine.tasks task = some current)
      (holding : current.standing = .holding lock)
      (away : next.standing = .away)
      (less : next.work < current.work) :
      Motion machine action task next
        (Function.update machine.locks lock (machine.locks lock).release)
  | calls {task : TaskId} {reply : Except Raised CallToolResult}
      {current next : Task}
      (found : machine.tasks task = some current)
      (outside : current.standing = .away)
      (away : next.standing = .away)
      (less : next.work < current.work) :
      Motion machine (.callReply task reply) task next machine.locks
  | cancelled {task : TaskId} {ns : Namespace} {block : Block}
      {lock : LockId}
      (found : machine.tasks task = some (.waiting ns lock block)) :
      Motion machine (.cancelWaiting task) task
        (.answered (.raised .cancelled))
        (Function.update machine.locks lock
          ((machine.locks lock).abandon task))

/-- The machine after a motion of `task`: only this task has moved, and it runs
on exactly if it is between two awaits. -/
structure Moved (machine : Machine) (action : Action) (after : Machine)
    (task : TaskId) (next : Task) : Prop where
  motion : machine.Motion action task next after.locks
  tasks : after.tasks = Function.update machine.tasks task (some next)
  runs : next.Running → after.current = some task
  yields : ¬ next.Running → after.current = none
  nextTask :
    after.nextTask =
      if action.arrives then machine.nextTask + 1 else machine.nextTask

variable {machine after : Machine} {action : Action} {task : TaskId}
  {next : Task}

/-! ## Each action -/

theorem standing_spawned (next : Task)
    (away : next.standing = .away) :
    next.Running → ∃ ns block, next = .arriving ns block := by
  intro runs
  cases next with
  | arriving ns block =>
      exact ⟨ns, block, rfl⟩
  | entered ns lock block =>
      cases away
  | waiting ns lock block =>
      cases runs
  | suspended ns lock operation rest entries stage =>
      cases runs
  | calling tool stage =>
      cases runs
  | answered answer =>
      cases runs

theorem moved_spawn (new : action.arrives = true)
    (away : next.standing = .away) (world : World) :
    machine.Moved action (machine.spawn next world) machine.nextTask
      next where
  motion := .arrives new away
  tasks := rfl
  runs := by
    intro running
    obtain ⟨ns, block, rfl⟩ := standing_spawned next away running
    rfl
  yields := by
    intro still
    cases next with
    | arriving ns block =>
        exact absurd trivial still
    | _ =>
        rfl
  nextTask := by
    rw [new]
    rfl

theorem moved_leave {current : Task} {lock : LockId} (world : World)
    (continues : action.continues = some task)
    (found : machine.tasks task = some current)
    (holding : current.standing = .holding lock)
    (away : next.standing = .away) (less : next.work < current.work) :
    machine.Moved action (machine.leave task lock world next) task
      next where
  motion := .leaves continues found holding away less
  tasks := rfl
  runs := by
    intro running
    obtain ⟨ns, block, rfl⟩ := standing_spawned next away running
    rfl
  yields := by
    intro still
    cases next with
    | arriving ns block =>
        exact absurd trivial still
    | _ =>
        rfl
  nextTask := by
    cases action with
    | request request =>
        cases continues
    | call mountedName =>
        cases continues
    | _ =>
        rfl

theorem work_nextVisit (operation : Operation) (rest : List Namespace)
    (entries : List Entry) :
    (nextVisit operation rest entries).work = 6 * rest.length := by
  cases rest with
  | nil =>
      rfl
  | cons first later =>
      simp only [nextVisit, Task.work, Block.work, List.length_cons]
      omega

/-- A stretch of a lifecycle block moves its task closer to the end. -/
theorem moved_proceed {current : Task} {ns : Namespace} {lock : LockId}
    {operation : Operation} {rest : List Namespace} {entries : List Entry}
    {program : ServiceM Progress} {bound : Nat}
    (continues : action.continues = some task)
    (found : machine.tasks task = some current)
    (holding : current.standing = .holding lock)
    (turns : current.turns = bound)
    (work : current.work = bound + 6 * rest.length)
    (positive : 0 < bound)
    (descends : ReturnsOnly program fun progress => progress.remaining < bound) :
    ∃ next,
      machine.Moved action
        (machine.proceed task ns lock operation rest entries
          (outcome program machine.world)) task next := by
  have ends := descends machine.world
  generalize outcome program machine.world = result at ends ⊢
  rcases result with ⟨raised | stage | more, world⟩
  · refine ⟨_, moved_leave world continues found holding rfl ?_⟩
    rw [work]
    exact Nat.lt_of_lt_of_le positive (Nat.le_add_right _ _)
  · have fewer : stage.remaining < bound := ends _ rfl
    have held :
        (Task.suspended ns lock operation rest entries stage).standing =
          .holding lock := rfl
    have sooner :
        (Task.suspended ns lock operation rest entries stage).turns <
          current.turns := by
      rw [turns]
      exact fewer
    have less :
        (Task.suspended ns lock operation rest entries stage).work <
          current.work := by
      rw [work]
      exact Nat.add_lt_add_right fewer _
    refine ⟨.suspended ns lock operation rest entries stage,
      .pauses continues found holding held sooner less, rfl,
      fun runs => runs.elim, fun _ => rfl, ?_⟩
    cases action with
    | request request =>
        cases continues
    | call mountedName =>
        cases continues
    | _ =>
        rfl
  · refine ⟨_, moved_leave world continues found holding
      (standing_nextVisit _ _ _) ?_⟩
    rw [work, work_nextVisit]
    omega

theorem moved_acquire {ns : Namespace} {block : Block}
    (found : machine.tasks task = some (.arriving ns block)) :
    ∃ next,
      machine.Moved (.acquire task) (machine.acquire task ns block) task
        next := by
  obtain ⟨locks, tasks, _, nextTask, _⟩ := machine.namespaceLock_spec ns
  unfold acquire
  generalize machine.namespaceLock ns = looked at *
  obtain ⟨lock, middle⟩ := looked
  simp only at locks tasks nextTask ⊢
  rw [locks]
  have update : ∀ next : Task,
      Function.update middle.tasks task (some next) =
        Function.update machine.tasks task (some next) := by
    intro next
    rw [tasks]
  have change : ∀ changed : Mutex TaskId,
      Function.update middle.locks lock changed =
        Function.update machine.locks lock changed := by
    intro changed
    rw [locks]
  split
  · rename_i available
    refine ⟨.entered ns lock block, ?_, update _, fun _ => rfl,
      fun still => absurd trivial still, nextTask⟩
    simp only [setTask, changeLock, locks]
    exact .takes found available
  · refine ⟨.waiting ns lock block, ?_, update _, fun runs => runs.elim,
      fun _ => rfl, nextTask⟩
    simp only [setTask, changeLock, locks]
    exact .queues found

/-- The stretch of a started call. -/
theorem proceedCall_moves (machine : Machine) (task : TaskId)
    (tool : MountedTool) (world : World)
    {program : ServiceM CallProgress} {bound : Nat}
    (descends : ReturnsOnly program fun progress => progress.remaining < bound)
    (positive : 0 < bound) :
    ∃ next,
      (machine.proceedCall task tool (outcome program world)).locks =
          machine.locks ∧
        (machine.proceedCall task tool (outcome program world)).tasks =
          Function.update machine.tasks task (some next) ∧
        (next.Running →
          (machine.proceedCall task tool (outcome program world)).current =
            some task) ∧
        (¬ next.Running →
          (machine.proceedCall task tool (outcome program world)).current =
            none) ∧
        (machine.proceedCall task tool (outcome program world)).nextTask =
          machine.nextTask ∧
        next.standing = .away ∧ next.work < bound + 3 := by
  have ends := descends world
  generalize outcome program world = result at ends ⊢
  rcases result with ⟨raised | stage | result, after⟩
  · exact ⟨concluding tool (.error raised), rfl, rfl, fun _ => rfl,
      fun still => absurd trivial still, rfl, rfl,
      Nat.lt_add_of_pos_left positive⟩
  · have fewer : stage.remaining < bound := ends _ rfl
    exact ⟨.calling tool stage, rfl, rfl, fun runs => runs.elim,
      fun _ => rfl, rfl, rfl, Nat.add_lt_add_right fewer 3⟩
  · exact ⟨concluding tool (.ok result), rfl, rfl, fun _ => rfl,
      fun still => absurd trivial still, rfl, rfl,
      Nat.lt_add_of_pos_left positive⟩

theorem moved_startCall {ns : Namespace} {lock : LockId}
    {mountedName : String}
    (found :
      machine.tasks task = some (.entered ns lock (.callStart mountedName))) :
    ∃ next,
      machine.Moved (.enter task) (machine.startCall task lock mountedName)
        task next := by
  unfold startCall
  rcases admitCall_cases machine.world mountedName with
    ⟨tool, _, computed⟩ | ⟨raised, computed⟩
  · rw [computed]
    have dispatches :
        ReturnsOnly (dispatchCall tool) fun progress => progress.remaining < 4 :=
      (dispatchCall_within tool).mono fun _ => Nat.lt_succ_of_le
    obtain ⟨next, locks, tasks, runs, yields, nextTask, away, less⟩ :=
      proceedCall_moves (machine.changeLock lock Mutex.release) task tool
        (machine.world.noteCallStarted tool.ns) dispatches (Nat.succ_pos 3)
    refine ⟨next, ?_, tasks, runs, yields, nextTask⟩
    simp only
    rw [locks]
    exact .leaves rfl found rfl away less
  · rw [computed]
    exact ⟨_, moved_leave machine.world rfl found rfl rfl (Nat.succ_pos 6)⟩

section Steps

variable [Platform]

theorem moved_request (request : Request) :
    ∃ task next,
      machine.Moved (.request request) (machine.request request) task
        next := by
  unfold Machine.request
  rcases outcome (accept request) machine.world with
    ⟨raised | error | ⟨operation, namespaces⟩, world⟩
  · exact ⟨_, _, moved_spawn rfl rfl world⟩
  · exact ⟨_, _, moved_spawn rfl rfl world⟩
  · exact ⟨_, _, moved_spawn rfl (standing_nextVisit _ _ _) world⟩

omit [Platform] in
theorem moved_call (mountedName : String) :
    ∃ task next,
      machine.Moved (.call mountedName) (machine.call mountedName) task
        next := by
  unfold Machine.call
  rcases outcome (locateCall mountedName) machine.world with
    ⟨raised | ns, world⟩
  · exact ⟨_, _, moved_spawn rfl rfl world⟩
  · exact ⟨_, _, moved_spawn rfl rfl world⟩

theorem moved_enter {ns : Namespace} {lock : LockId} {block : Block}
    (found : machine.tasks task = some (.entered ns lock block)) :
    ∃ next,
      machine.Moved (.enter task) (machine.enter task ns lock block) task
        next := by
  cases block with
  | operation operation rest entries =>
      exact moved_proceed rfl found rfl rfl rfl (Nat.succ_pos 3)
        ((start_within operation).mono fun _ => Nat.lt_succ_of_le)
  | callStart mountedName =>
      exact moved_startCall found
  | callFinish outcome =>
      exact ⟨_, moved_leave _ rfl found rfl rfl (Nat.succ_pos 0)⟩

/-- What a step can do. -/
theorem moved_of_step (taken : step machine action = some after) :
    (∃ runtime, action = .die runtime ∧
        after = { machine with world := machine.world.markDone runtime }) ∨
      ∃ task next, machine.Moved action after task next := by
  cases action with
  | request request =>
      obtain ⟨_, rfl⟩ := step_request.mp taken
      exact .inr (moved_request request)
  | call mountedName =>
      obtain ⟨_, rfl⟩ := step_call.mp taken
      exact .inr (moved_call mountedName)
  | acquire task =>
      obtain ⟨ns, block, found, _, rfl⟩ := step_acquire.mp taken
      exact .inr ⟨task, moved_acquire found⟩
  | grant task =>
      obtain ⟨ns, lock, block, found, _, grants, rfl⟩ := step_grant.mp taken
      exact .inr ⟨task, _, .granted found grants, rfl, fun _ => rfl,
        fun still => absurd trivial still, rfl⟩
  | enter task =>
      obtain ⟨ns, lock, block, found, _, rfl⟩ := step_enter.mp taken
      exact .inr ⟨task, moved_enter found⟩
  | reply task reply =>
      obtain ⟨ns, lock, operation, rest, entries, stage, found, _, rfl⟩ :=
        step_reply.mp taken
      exact .inr ⟨task, moved_proceed rfl found rfl rfl rfl
        stage.remaining_pos (resume_descends stage reply)⟩
  | callReply task reply =>
      obtain ⟨tool, stage, found, _, rfl⟩ := step_callReply.mp taken
      obtain ⟨next, locks, tasks, runs, yields, nextTask, away, less⟩ :=
        proceedCall_moves machine task tool machine.world
          (resumeCall_descends tool stage reply) stage.remaining_pos
      refine .inr ⟨task, next, ?_, tasks, runs, yields, nextTask⟩
      rw [locks]
      exact .calls found rfl away less
  | cancelWaiting task =>
      obtain ⟨ns, lock, block, found, _, rfl⟩ :=
        step_cancelWaiting.mp taken
      exact .inr ⟨task, _, .cancelled found, rfl, fun runs => runs.elim,
        fun _ => rfl, rfl⟩
  | die runtime =>
      obtain ⟨_, rfl⟩ := step_die.mp taken
      exact .inl ⟨runtime, rfl, rfl⟩

end Steps

end Machine

end ToolboxMcp
