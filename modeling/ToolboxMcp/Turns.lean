import ToolboxMcp.Serialization

/-!
# The four kinds of steps

A step of the machine runs a stretch of a lifecycle block, runs a stretch of a
started call, lets a runtime die, or does nothing to documents and runtimes.
Invariants about records and runtimes are proved kind by kind.
-/

namespace ToolboxMcp

open Effect

/-- Documents, runtimes and store are as before, apart from the audit log. -/
structure Aside (before after : World) : Prop where
  config : after.config = before.config
  runtimes : after.runtimes = before.runtimes
  objects : after.objects = before.objects
  nextRuntime : after.nextRuntime = before.nextRuntime
  records :
    ∀ ns, after.document.getToolset ns = before.document.getToolset ns
  snapshots :
    ∀ ns,
      after.document.getSchemaSnapshot ns =
        before.document.getSchemaSnapshot ns
  previousSnapshots :
    ∀ ns,
      after.document.getPreviousSchemaSnapshot ns =
        before.document.getPreviousSchemaSnapshot ns
  reliable : before.Reliable → after.Reliable
  distinct : before.document.Distinct → after.document.Distinct

theorem Untouched.aside {before after : World}
    (untouched : Untouched before after) : Aside before after where
  config := untouched.config
  runtimes := untouched.runtimes
  objects := untouched.objects
  nextRuntime := untouched.nextRuntime
  records := untouched.records
  snapshots := untouched.snapshots
  previousSnapshots := untouched.previousSnapshots
  reliable := untouched.reliable
  distinct := untouched.distinct

theorem Aside.refl (world : World) : Aside world world :=
  (Untouched.refl world).aside

theorem Aside.housed {before after : World} (aside : Aside before after)
    (housed : before.Housed) : after.Housed := by
  intro home runtime mounted
  rw [aside.runtimes] at mounted
  have owned := housed home runtime mounted
  unfold World.Owned
  rwa [aside.nextRuntime, aside.objects]

/-- Suspended in a block or in a started call. -/
def Task.atAwait : Task → Bool
  | .suspended .. => true
  | .calling .. => true
  | _ => false

def Task.unanswered : Task → Bool
  | .answered _ => false
  | _ => true

/-- On the way to a block, or about to run it. -/
def Task.approaching : Task → Bool
  | .arriving .. => true
  | .waiting .. => true
  | .entered .. => true
  | _ => false

theorem Task.unanswered_of_approaching {task : Task}
    (approaching : task.approaching = true) : task.unanswered = true := by
  cases task with
  | answered answer =>
      cases approaching
  | _ =>
      rfl

/-- A client sends something new. -/
def Action.arrives : Action → Bool
  | .request _ => true
  | .call _ => true
  | _ => false

namespace Machine

variable [Platform]

/-- The program of the next stretch of a task inside a lifecycle block. -/
inductive Stretch (machine : Machine) (task : TaskId) (ns : Namespace)
    (lock : LockId) (operation : Operation) (rest : List Namespace)
    (entries : List Entry) : ServiceM Progress → Prop where
  | first
      (found :
        machine.tasks task =
          some (.entered ns lock (.operation operation rest entries)))
      (turn : machine.current = some task) :
      Stretch machine task ns lock operation rest entries
        (start operation ns)
  | later {stage : Stage} (reply : Reply)
      (found :
        machine.tasks task =
          some (.suspended ns lock operation rest entries stage))
      (free : machine.current = none) :
      Stretch machine task ns lock operation rest entries
        (resume ns stage reply)

/-- The program of the next stretch of a started call, and the world it starts
from. -/
inductive CallStretch (machine : Machine) (task : TaskId)
    (tool : MountedTool) : World → ServiceM CallProgress → Prop where
  | first {ns : Namespace} {lock : LockId} {mountedName : String}
      (found :
        machine.tasks task = some (.entered ns lock (.callStart mountedName)))
      (turn : machine.current = some task)
      (resolved :
        resolveMountedTool machine.world mountedName = some tool) :
      CallStretch machine task tool (machine.world.noteCallStarted tool.ns)
        (dispatchCall tool)
  | later {stage : CallStage} (reply : Except Raised CallToolResult)
      (found : machine.tasks task = some (.calling tool stage))
      (free : machine.current = none) :
      CallStretch machine task tool machine.world
        (resumeCall tool stage reply)

/-- The entries a stretch adds to its response. -/
def reported : Except Raised Progress → List Entry
  | .ok (.left entries) => entries
  | _ => []

/-- A stretch of a lifecycle block. -/
structure Visit where
  ns : Namespace
  operation : Operation
  program : ServiceM Progress

/-- The stretch the action runs, if it runs one. -/
def visit (machine : Machine) : Action → Option Visit
  | .enter task =>
      match machine.tasks task with
      | some (.entered ns _ (.operation operation _ _)) =>
          some ⟨ns, operation, start operation ns⟩
      | _ => none
  | .reply task reply =>
      match machine.tasks task with
      | some (.suspended ns _ operation _ _ stage) =>
          some ⟨ns, operation, resume ns stage reply⟩
      | _ => none
  | _ => none

/-- The entries the action adds to a response. -/
def reports (machine : Machine) (action : Action) : List Entry :=
  match machine.visit action with
  | some visit => reported (outcome visit.program machine.world).1
  | none => []

inductive Turn (machine : Machine) (action : Action) (after : Machine) :
    Prop where
  | aside {task : TaskId} {next : Task}
      (moves :
        action.arrives = true ∧ task = machine.nextTask ∨
          (machine.tasks task).any Task.approaching = true)
      (tasks : after.tasks = Function.update machine.tasks task (some next))
      (awake : next.atAwait = false)
      (world : Aside machine.world after.world)
      (elsewhere : machine.visit action = none) :
      Turn machine action after
  | visiting {task : TaskId} {ns : Namespace} {lock : LockId}
      {operation : Operation} {rest : List Namespace} {entries : List Entry}
      {program : ServiceM Progress}
      (stretch :
        machine.Stretch task ns lock operation rest entries program)
      (proceeds :
        after =
          machine.proceed task ns lock operation rest entries
            (outcome program machine.world))
      (visits : machine.visit action = some ⟨ns, operation, program⟩) :
      Turn machine action after
  | calling {task : TaskId} {tool : MountedTool} {world : World}
      {program : ServiceM CallProgress} {locks : LockId → Mutex TaskId}
      (stretch : machine.CallStretch task tool world program)
      (proceeds :
        after =
          proceedCall { machine with locks := locks } task tool
            (outcome program world))
      (elsewhere : machine.visit action = none) :
      Turn machine action after
  | dying {runtime : RuntimeId}
      (died :
        after = { machine with world := machine.world.markDone runtime })
      (elsewhere : machine.visit action = none) :
      Turn machine action after

variable {machine after : Machine} {action : Action}

omit [Platform] in
theorem atAwait_nextVisit (operation : Operation) (rest : List Namespace)
    (entries : List Entry) :
    (nextVisit operation rest entries).atAwait = false := by
  cases rest <;> rfl

/-- A task has moved on, and nothing else has happened. -/
structure Moves (machine : Machine) (action : Action) (after : Machine)
    (task : TaskId) (next : Task) : Prop where
  moves :
    action.arrives = true ∧ task = machine.nextTask ∨
      (machine.tasks task).any Task.approaching = true
  tasks : after.tasks = Function.update machine.tasks task (some next)
  awake : next.atAwait = false
  world : Aside machine.world after.world
  elsewhere : machine.visit action = none

theorem Moves.turn {task : TaskId} {next : Task}
    (moves : machine.Moves action after task next) :
    machine.Turn action after :=
  .aside moves.moves moves.tasks moves.awake moves.world moves.elsewhere

theorem moves_request (request : Request) :
    ∃ task next,
      machine.Moves (.request request) (machine.request request) task
        next := by
  unfold Machine.request
  rcases wp_cases (accept_untouched request) with
    ⟨error | ⟨operation, namespaces⟩, world, computed, untouched⟩ |
      ⟨raised, world, computed, untouched⟩
  · rw [computed]
    exact ⟨_, _, .inl ⟨rfl, rfl⟩, rfl, rfl, untouched.aside, rfl⟩
  · rw [computed]
    exact ⟨_, _, .inl ⟨rfl, rfl⟩, rfl, atAwait_nextVisit _ _ _,
      untouched.aside, rfl⟩
  · rw [computed]
    exact ⟨_, _, .inl ⟨rfl, rfl⟩, rfl, rfl, untouched.aside, rfl⟩

theorem moves_call (mountedName : String) :
    ∃ task next,
      machine.Moves (.call mountedName) (machine.call mountedName) task
        next := by
  unfold Machine.call
  rcases locateCall_cases machine.world mountedName with
    ⟨tool, _, computed⟩ | ⟨raised, computed⟩
  · rw [computed]
    exact ⟨_, _, .inl ⟨rfl, rfl⟩, rfl, rfl, .refl machine.world, rfl⟩
  · rw [computed]
    exact ⟨_, _, .inl ⟨rfl, rfl⟩, rfl, rfl, .refl machine.world, rfl⟩

theorem moves_acquire {task : TaskId} {ns : Namespace} {block : Block}
    (found : machine.tasks task = some (.arriving ns block)) :
    ∃ next,
      machine.Moves (.acquire task) (machine.acquire task ns block) task
        next := by
  have moves : (machine.tasks task).any Task.approaching = true := by
    simp [found, Task.approaching]
  obtain ⟨_, tasks, _⟩ := machine.namespaceLock_spec ns
  have looked : Aside machine.world (machine.namespaceLock ns).2.world := by
    obtain ⟨locks, same⟩ := machine.namespaceLock_world ns
    rw [same]
    exact ⟨rfl, rfl, rfl, rfl, fun _ => rfl, fun _ => rfl, fun _ => rfl, id,
      id⟩
  unfold acquire
  generalize machine.namespaceLock ns = lookup at *
  obtain ⟨lock, middle⟩ := lookup
  simp only at tasks looked ⊢
  have moved : ∀ next : Task,
      Function.update middle.tasks task (some next) =
        Function.update machine.tasks task (some next) := by
    intro next
    rw [tasks]
  split
  · exact ⟨.entered ns lock block, .inr moves, moved _, rfl, looked, rfl⟩
  · exact ⟨.waiting ns lock block, .inr moves, moved _, rfl, looked, rfl⟩

theorem moves_grant {task : TaskId} {ns : Namespace} {lock : LockId}
    {block : Block}
    (found : machine.tasks task = some (.waiting ns lock block)) :
    machine.Moves (.grant task) (machine.grant task ns lock block) task
      (.entered ns lock block) where
  moves := by
    right
    simp [found, Task.approaching]
  tasks := rfl
  awake := rfl
  world := .refl machine.world
  elsewhere := rfl

theorem moves_cancelWaiting {task : TaskId} {ns : Namespace} {lock : LockId}
    {block : Block}
    (found : machine.tasks task = some (.waiting ns lock block)) :
    machine.Moves (.cancelWaiting task) (machine.cancelWaiting task lock) task
      (.answered (.raised .cancelled)) where
  moves := by
    right
    simp [found, Task.approaching]
  tasks := rfl
  awake := rfl
  world := .refl machine.world
  elsewhere := rfl

/-- The last block of a call only counts it off. -/
theorem moves_callFinish {task : TaskId} {ns : Namespace} {lock : LockId}
    {result : Except Raised CallToolResult}
    (found :
      machine.tasks task = some (.entered ns lock (.callFinish result))) :
    machine.Moves (.enter task)
      (machine.enter task ns lock (.callFinish result)) task
      (.answered (answerOf result)) where
  moves := by
    right
    simp [found, Task.approaching]
  tasks := rfl
  awake := rfl
  world :=
    ⟨rfl, rfl, rfl, rfl, fun _ => rfl, fun _ => rfl, fun _ => rfl, id, id⟩
  elsewhere := by simp [visit, found]

/-- The first block of a call. -/
theorem callStart_cases {task : TaskId} {ns : Namespace} {lock : LockId}
    {mountedName : String}
    (found :
      machine.tasks task = some (.entered ns lock (.callStart mountedName)))
    (turn : machine.current = some task) :
    (∃ tool locks,
      machine.CallStretch task tool (machine.world.noteCallStarted tool.ns)
          (dispatchCall tool) ∧
        machine.enter task ns lock (.callStart mountedName) =
          proceedCall { machine with locks := locks } task tool
            (outcome (dispatchCall tool)
              (machine.world.noteCallStarted tool.ns))) ∨
      ∃ next,
        machine.Moves (.enter task)
          (machine.enter task ns lock (.callStart mountedName)) task next := by
  have elsewhere : machine.visit (.enter task) = none := by
    simp [visit, found]
  have moves : (machine.tasks task).any Task.approaching = true := by
    simp [found, Task.approaching]
  simp only [enter, startCall]
  rcases admitCall_cases machine.world mountedName with
    ⟨tool, resolved, computed⟩ | ⟨raised, computed⟩
  · rw [computed]
    exact .inl ⟨tool, _, .first found turn resolved, rfl⟩
  · rw [computed]
    exact .inr ⟨_, .inr moves, rfl, rfl, .refl machine.world, elsewhere⟩

theorem turn_enter {task : TaskId} {ns : Namespace} {lock : LockId}
    {block : Block}
    (found : machine.tasks task = some (.entered ns lock block))
    (turn : machine.current = some task) :
    machine.Turn (.enter task) (machine.enter task ns lock block) := by
  cases block with
  | operation operation rest entries =>
      exact .visiting (.first found turn) rfl (by simp [visit, found])
  | callStart mountedName =>
      have elsewhere : machine.visit (.enter task) = none := by
        simp [visit, found]
      rcases callStart_cases found turn with
        ⟨tool, locks, stretch, proceeds⟩ | ⟨next, moves⟩
      · exact .calling stretch proceeds elsewhere
      · exact moves.turn
  | callFinish result =>
      exact (moves_callFinish found).turn

/-- Every step is of one of the four kinds. -/
theorem turn_of_step (taken : step machine action = some after) :
    machine.Turn action after := by
  cases action with
  | request request =>
      obtain ⟨_, rfl⟩ := step_request.mp taken
      obtain ⟨task, next, moves⟩ := moves_request request
      exact moves.turn
  | call mountedName =>
      obtain ⟨_, rfl⟩ := step_call.mp taken
      obtain ⟨task, next, moves⟩ := moves_call mountedName
      exact moves.turn
  | acquire task =>
      obtain ⟨ns, block, found, _, rfl⟩ := step_acquire.mp taken
      obtain ⟨next, moves⟩ := moves_acquire found
      exact moves.turn
  | grant task =>
      obtain ⟨ns, lock, block, found, _, _, rfl⟩ := step_grant.mp taken
      exact (moves_grant found).turn
  | enter task =>
      obtain ⟨ns, lock, block, found, turn, rfl⟩ := step_enter.mp taken
      exact turn_enter found turn
  | reply task reply =>
      obtain ⟨ns, lock, operation, rest, entries, stage, found, free, rfl⟩ :=
        step_reply.mp taken
      exact .visiting (.later reply found free) rfl (by simp [visit, found])
  | callReply task reply =>
      obtain ⟨tool, stage, found, free, rfl⟩ := step_callReply.mp taken
      exact .calling (.later reply found free) rfl rfl
  | cancelWaiting task =>
      obtain ⟨ns, lock, block, found, _, rfl⟩ := step_cancelWaiting.mp taken
      exact (moves_cancelWaiting found).turn
  | die runtime =>
      obtain ⟨_, rfl⟩ := step_die.mp taken
      exact .dying rfl rfl

/-! ## What is known of a stretch -/

section Stretches

variable {task : TaskId} {ns : Namespace} {lock : LockId}
  {operation : Operation} {rest : List Namespace} {entries : List Entry}
  {program : ServiceM Progress}

theorem Stretch.inside
    (stretch : machine.Stretch task ns lock operation rest entries program) :
    machine.Inside ns task := by
  cases stretch with
  | first found turn =>
      simp [Inside, found, Task.occupied]
  | later reply found free =>
      simp [Inside, found, Task.occupied]

theorem Stretch.sound (sane : machine.Sane)
    (stretch : machine.Stretch task ns lock operation rest entries program) :
    wp program
      (fun progress after =>
        Sound ns machine.world after ∧ progress.Proper after ns)
      (fun _ after => Sound ns machine.world after) machine.world := by
  cases stretch with
  | first found turn =>
      exact start_sound sane.housed operation
  | later reply found free =>
      exact resume_sound sane.housed (sane.proper task _ found) reply

/-- Nobody else is suspended in a block of the namespace. -/
theorem Stretch.elsewhere (sane : machine.Sane)
    (serialized : machine.Serialized)
    (stretch : machine.Stretch task ns lock operation rest entries program)
    {other : TaskId} {home : Namespace} {held : LockId} {asked : Operation}
    {later : List Namespace} {earlier : List Entry} {stage : Stage}
    (different : other ≠ task)
    (found : machine.tasks other =
      some (.suspended home held asked later earlier stage)) :
    home ≠ ns := by
  intro same
  subst same
  have inside : machine.Inside home other :=
    inside_iff.mpr ⟨_, found, rfl⟩
  exact different (serialized.exclusive sane inside stretch.inside)

theorem Stretch.unanswered
    (stretch : machine.Stretch task ns lock operation rest entries program) :
    (machine.tasks task).any Task.unanswered = true := by
  cases stretch with
  | first found turn =>
      simp [found, Task.unanswered]
  | later reply found free =>
      simp [found, Task.unanswered]

omit [Platform] in
theorem tasks_proceed (machine : Machine)
    (result : Except Raised Progress × World) :
    ∃ next,
      (machine.proceed task ns lock operation rest entries result).tasks =
        Function.update machine.tasks task (some next) := by
  rcases result with ⟨raised | stage | more, world⟩
  · exact ⟨_, rfl⟩
  · exact ⟨_, rfl⟩
  · exact ⟨_, rfl⟩

end Stretches

section CallStretches

variable {task : TaskId} {tool : MountedTool} {world : World}
  {program : ServiceM CallProgress}

omit [Platform] in
theorem CallStretch.unanswered
    (stretch : machine.CallStretch task tool world program) :
    (machine.tasks task).any Task.unanswered = true := by
  cases stretch with
  | first found turn resolved =>
      simp [found, Task.unanswered]
  | later reply found free =>
      simp [found, Task.unanswered]

omit [Platform] in
/-- Counting the call changes nothing else. -/
theorem CallStretch.aside
    (stretch : machine.CallStretch task tool world program) :
    Aside machine.world world := by
  cases stretch with
  | first found turn resolved =>
      exact ⟨rfl, rfl, rfl, rfl, fun _ => rfl, fun _ => rfl, fun _ => rfl,
        id, id⟩
  | later reply found free =>
      exact .refl machine.world

omit [Platform] in
theorem CallStretch.sound (sane : machine.Sane)
    (stretch : machine.CallStretch task tool world program) :
    wp program
      (fun progress after =>
        Sound tool.ns world after ∧ progress.Proper after tool.ns)
      (fun _ after => Sound tool.ns world after) world := by
  cases stretch with
  | first found turn resolved =>
      exact dispatchCall_sound sane.housed
  | later reply found free =>
      exact resumeCall_sound sane.housed (sane.proper task _ found) reply

omit [Platform] in
theorem tasks_proceedCall (machine : Machine)
    (result : Except Raised CallProgress × World) :
    ∃ next,
      (machine.proceedCall task tool result).tasks =
        Function.update machine.tasks task (some next) := by
  rcases result with ⟨raised | stage | value, world⟩
  · exact ⟨_, rfl⟩
  · exact ⟨_, rfl⟩
  · exact ⟨_, rfl⟩

end CallStretches

/-! ## What every step preserves of the store -/

theorem store_of_turn (sane : machine.Sane)
    (turn : machine.Turn action after) :
    (machine.world.Reliable → after.world.Reliable) ∧
      (machine.world.document.Distinct → after.world.document.Distinct) := by
  cases turn with
  | aside moves tasks awake world elsewhere =>
      exact ⟨world.reliable, world.distinct⟩
  | visiting stretch proceeds visits =>
      subst proceeds
      rw [proceed_world]
      have confined := final_of_wp_left (stretch.sound sane)
      exact ⟨confined.reliable, confined.distinct⟩
  | calling stretch proceeds elsewhere =>
      subst proceeds
      rw [proceedCall_world]
      have confined := final_of_wp_left (stretch.sound sane)
      exact ⟨fun reliable => confined.reliable (stretch.aside.reliable reliable),
        fun distinct => confined.distinct (stretch.aside.distinct distinct)⟩
  | dying died elsewhere =>
      subst died
      exact ⟨id, id⟩

end Machine

end ToolboxMcp
