import ToolboxMcp.Library.Mutex
import ToolboxMcp.Library.Runs
import ToolboxMcp.Service.Calls
import ToolboxMcp.Service.Requests
import ToolboxMcp.Service.Startup

/-!
# The service under concurrency

One task per client request.  The event loop runs one task at a time: `current`
is the task that runs, and it gives way only at an await, that is, when it
queues on a lock, suspends inside a block, waits for its runtime or ends.  The
namespace locks are the mutexes the dictionary entries point to; a task keeps
the lock object it has looked up even if the entry is popped meanwhile.
-/

namespace ToolboxMcp

open Effect

abbrev TaskId := Nat

/-- What a task does inside a namespace lock. -/
inductive Block where
  | operation
      (operation : Operation) (rest : List Namespace)
      (entries : List Entry)
  | callStart (mountedName : String)
  | callFinish (outcome : Except Raised CallToolResult)

inductive Answer where
  | response (entries : List Entry)
  | refused (error : ErrorInfo)
  | result (result : CallToolResult)
  | raised (raised : Raised)

inductive Task where
  /-- About to look the lock up and acquire it. -/
  | arriving (ns : Namespace) (block : Block)
  | waiting (ns : Namespace) (lock : LockId) (block : Block)
  /-- Holding the lock, about to run the block. -/
  | entered (ns : Namespace) (lock : LockId) (block : Block)
  /-- Suspended inside the block of a lifecycle operation. -/
  | suspended
      (ns : Namespace) (lock : LockId) (operation : Operation)
      (rest : List Namespace) (entries : List Entry) (stage : Stage)
  /-- A started call, outside any lock. -/
  | calling (tool : MountedTool) (stage : CallStage)
  | answered (answer : Answer)

structure Machine where
  world : World
  locks : LockId → Mutex TaskId := fun _ => .unlocked
  nextLock : LockId := 0
  tasks : TaskId → Option Task := fun _ => none
  nextTask : TaskId := 0
  current : Option TaskId := none

inductive Action where
  | request (request : Request)
  | call (mountedName : String)
  | acquire (task : TaskId)
  | grant (task : TaskId)
  | enter (task : TaskId)
  | reply (task : TaskId) (reply : Reply)
  | callReply (task : TaskId) (reply : Except Raised CallToolResult)
  | cancelWaiting (task : TaskId)
  | die (runtime : RuntimeId)

def Task.standing : Task → Mutex.Standing LockId
  | .waiting _ lock _ => .waiting lock
  | .entered _ lock _ => .holding lock
  | .suspended _ lock _ _ _ _ => .holding lock
  | _ => .away

namespace Machine

/-- A new process on the document another one has left behind. -/
def boot (world : World) : Machine :=
  { world := world.restarted }

variable (machine : Machine)

def standing (task : TaskId) : Mutex.Standing LockId :=
  ((machine.tasks task).map Task.standing).getD .away

def setTask (task : TaskId) (next : Task) (world : World)
    (current : Option TaskId) : Machine :=
  { machine with
    world := world
    tasks := Function.update machine.tasks task (some next)
    current := current }

def changeLock (lock : LockId) (change : Mutex TaskId → Mutex TaskId) :
    Machine :=
  { machine with
    locks := Function.update machine.locks lock (change (machine.locks lock)) }

/-! ## Locks -/

/-- `_namespace_lock`: the entry of the dictionary, made if missing. -/
def namespaceLock (ns : Namespace) : LockId × Machine :=
  match machine.world.namespaceLocks.get ns with
  | some lock => (lock, machine)
  | none =>
      (machine.nextLock,
        { machine with
          world := machine.world.setLockEntry ns machine.nextLock
          nextLock := machine.nextLock + 1 })

/-- `async with self._namespace_lock(ns)`. -/
def acquire (task : TaskId) (ns : Namespace) (block : Block) : Machine :=
  let (lock, machine) := machine.namespaceLock ns
  if (machine.locks lock).Available then
    (machine.changeLock lock Mutex.acquire).setTask task
      (.entered ns lock block) machine.world (some task)
  else
    (machine.changeLock lock (Mutex.enqueue task)).setTask task
      (.waiting ns lock block) machine.world none

theorem acquire_world (task : TaskId) (ns : Namespace) (block : Block) :
    (machine.acquire task ns block).world =
      (machine.namespaceLock ns).2.world := by
  unfold acquire
  generalize machine.namespaceLock ns = looked
  obtain ⟨lock, middle⟩ := looked
  simp only
  split
  · rfl
  · rfl

/-- Looking a lock up changes nothing but the entries. -/
theorem namespaceLock_world (ns : Namespace) :
    ∃ locks,
      (machine.namespaceLock ns).2.world =
        { machine.world with namespaceLocks := locks } := by
  unfold namespaceLock
  split
  · exact ⟨_, rfl⟩
  · exact ⟨_, rfl⟩

def grant (task : TaskId) (ns : Namespace) (lock : LockId) (block : Block) :
    Machine :=
  (machine.changeLock lock Mutex.grant).setTask task
    (.entered ns lock block) machine.world (some task)

/-- A task cancelled in `acquire` ends without having run its block. -/
def cancelWaiting (task : TaskId) (lock : LockId) : Machine :=
  (machine.changeLock lock (Mutex.abandon task)).setTask task
    (.answered (.raised .cancelled)) machine.world none

/-- Leave the block and continue as `next`, still running if it arrives at
another block. -/
def leave (task : TaskId) (lock : LockId) (world : World) (next : Task) :
    Machine :=
  (machine.changeLock lock Mutex.release).setTask task next world
    (match next with
     | .arriving .. => some task
     | _ => none)

/-! ## Lifecycle operations -/

/-- What a task does once its block is over. -/
def nextVisit
    (operation : Operation) (rest : List Namespace)
    (entries : List Entry) : Task :=
  match rest with
  | ns :: later => .arriving ns (.operation operation later entries)
  | [] => .answered (.response entries)

/-- Record how a stretch of a lifecycle block has ended. -/
def proceed
    (task : TaskId) (ns : Namespace) (lock : LockId)
    (operation : Operation) (rest : List Namespace)
    (entries : List Entry) : Except Raised Progress × World → Machine
  | (.ok (.inside stage), world) =>
      machine.setTask task
        (.suspended ns lock operation rest entries stage) world none
  | (.ok (.left more), world) =>
      machine.leave task lock world
        (nextVisit operation rest (entries ++ more))
  | (.error raised, world) =>
      machine.leave task lock world (.answered (.raised raised))

@[simp]
theorem proceed_world
    (task : TaskId) (ns : Namespace) (lock : LockId) (operation : Operation)
    (rest : List Namespace) (entries : List Entry)
    (result : Except Raised Progress × World) :
    (machine.proceed task ns lock operation rest entries result).world =
      result.2 := by
  rcases result with ⟨raised | stage | more, world⟩ <;> rfl

/-! ## Calls -/

/-- The `finally` clause of a call: count it off inside the lock. -/
def concluding
    (tool : MountedTool) (outcome : Except Raised CallToolResult) : Task :=
  .arriving tool.ns (.callFinish outcome)

/-- Record how a stretch of a started call has ended. -/
def proceedCall (task : TaskId) (tool : MountedTool) :
    Except Raised CallProgress × World → Machine
  | (.ok (.inside stage), world) =>
      machine.setTask task (.calling tool stage) world none
  | (.ok (.returned result), world) =>
      machine.setTask task (concluding tool (.ok result)) world (some task)
  | (.error raised, world) =>
      machine.setTask task (concluding tool (.error raised)) world (some task)

@[simp]
theorem proceedCall_world
    (task : TaskId) (tool : MountedTool)
    (result : Except Raised CallProgress × World) :
    (machine.proceedCall task tool result).world = result.2 := by
  rcases result with ⟨raised | stage | result, world⟩ <;> rfl

def answerOf : Except Raised CallToolResult → Answer
  | .ok result => .result result
  | .error raised => .raised raised

/-- The first block of a call; it leaves the lock before dispatching. -/
def startCall (task : TaskId) (lock : LockId) (mountedName : String) :
    Machine :=
  match outcome (admitCall mountedName) machine.world with
  | (.ok tool, world) =>
      (machine.changeLock lock Mutex.release).proceedCall task tool
        (outcome (dispatchCall tool) world)
  | (.error raised, world) =>
      machine.leave task lock world (.answered (.raised raised))

section Steps

variable [Platform]

/-- Run the block of a task that has just got its lock. -/
def enter (task : TaskId) (ns : Namespace) (lock : LockId) :
    Block → Machine
  | .operation operation rest entries =>
      machine.proceed task ns lock operation rest entries
        (outcome (start operation ns) machine.world)
  | .callStart mountedName => machine.startCall task lock mountedName
  | .callFinish result =>
      machine.leave task lock (machine.world.noteCallFinished ns)
        (.answered (answerOf result))

/-- A new task starts to run. -/
def spawn (next : Task) (world : World) : Machine :=
  { machine with
    nextTask := machine.nextTask + 1 }.setTask machine.nextTask next world
      (match next with
       | .arriving .. => some machine.nextTask
       | _ => none)

def request (request : Request) : Machine :=
  match outcome (accept request) machine.world with
  | (.ok (.refused error), world) =>
      machine.spawn (.answered (.refused error)) world
  | (.ok (.admitted operation namespaces), world) =>
      machine.spawn (nextVisit operation namespaces []) world
  | (.error raised, world) =>
      machine.spawn (.answered (.raised raised)) world

def call (mountedName : String) : Machine :=
  match outcome (locateCall mountedName) machine.world with
  | (.ok ns, world) =>
      machine.spawn (.arriving ns (.callStart mountedName)) world
  | (.error raised, world) =>
      machine.spawn (.answered (.raised raised)) world

theorem request_world (request : Request) :
    (machine.request request).world =
      (outcome (accept request) machine.world).2 := by
  unfold Machine.request
  rcases outcome (accept request) machine.world with
    ⟨raised | error | ⟨operation, namespaces⟩, world⟩ <;> rfl

omit [Platform] in
theorem call_world (mountedName : String) :
    (machine.call mountedName).world =
      (outcome (locateCall mountedName) machine.world).2 := by
  unfold Machine.call
  rcases outcome (locateCall mountedName) machine.world with
    ⟨raised | ns, world⟩ <;> rfl

/-- One step of the event loop or of the environment. -/
def step (machine : Machine) : Action → Option Machine
  | .request request =>
      if machine.current = none then some (machine.request request) else none
  | .call mountedName =>
      if machine.current = none then some (machine.call mountedName) else none
  | .acquire task =>
      match machine.tasks task with
      | some (.arriving ns block) =>
          if machine.current = some task then
            some (machine.acquire task ns block)
          else
            none
      | _ => none
  | .grant task =>
      match machine.tasks task with
      | some (.waiting ns lock block) =>
          if machine.current = none ∧
              (machine.locks lock).locked = false ∧
              (machine.locks lock).waiters.head? = some task then
            some (machine.grant task ns lock block)
          else
            none
      | _ => none
  | .enter task =>
      match machine.tasks task with
      | some (.entered ns lock block) =>
          if machine.current = some task then
            some (machine.enter task ns lock block)
          else
            none
      | _ => none
  | .reply task reply =>
      match machine.tasks task with
      | some (.suspended ns lock operation rest entries stage) =>
          if machine.current = none then
            some (machine.proceed task ns lock operation rest entries
              (outcome (resume ns stage reply) machine.world))
          else
            none
      | _ => none
  | .callReply task reply =>
      match machine.tasks task with
      | some (.calling tool stage) =>
          if machine.current = none then
            some (machine.proceedCall task tool
              (outcome (resumeCall tool stage reply) machine.world))
          else
            none
      | _ => none
  | .cancelWaiting task =>
      match machine.tasks task with
      | some (.waiting _ lock _) =>
          if machine.current = none then
            some (machine.cancelWaiting task lock)
          else
            none
      | _ => none
  | .die runtime =>
      if machine.current = none then
        some { machine with world := machine.world.markDone runtime }
      else
        none

/-! ## Inversion -/

variable {machine next : Machine} {task : TaskId}

theorem step_request {request : Request} :
    step machine (.request request) = some next ↔
      machine.current = none ∧ machine.request request = next := by
  simp [step]

theorem step_call {mountedName : String} :
    step machine (.call mountedName) = some next ↔
      machine.current = none ∧ machine.call mountedName = next := by
  simp [step]

theorem step_acquire :
    step machine (.acquire task) = some next ↔
      ∃ ns block,
        machine.tasks task = some (.arriving ns block) ∧
          machine.current = some task ∧
          machine.acquire task ns block = next := by
  simp only [step]
  split
  · rename_i ns block found
    simp [found]
  · rename_i other
    simp only [reduceCtorEq, false_iff, not_exists]
    rintro ns block ⟨found, _⟩
    exact other ns block found

theorem step_grant :
    step machine (.grant task) = some next ↔
      ∃ ns lock block,
        machine.tasks task = some (.waiting ns lock block) ∧
          machine.current = none ∧ (machine.locks lock).Grants task ∧
          machine.grant task ns lock block = next := by
  simp only [step]
  split
  · rename_i ns lock block found
    simp [found, Mutex.Grants, and_assoc]
  · rename_i other
    simp only [reduceCtorEq, false_iff, not_exists]
    rintro ns lock block ⟨found, _⟩
    exact other ns lock block found

theorem step_enter :
    step machine (.enter task) = some next ↔
      ∃ ns lock block,
        machine.tasks task = some (.entered ns lock block) ∧
          machine.current = some task ∧
          machine.enter task ns lock block = next := by
  simp only [step]
  split
  · rename_i ns lock block found
    simp [found]
  · rename_i other
    simp only [reduceCtorEq, false_iff, not_exists]
    rintro ns lock block ⟨found, _⟩
    exact other ns lock block found

theorem step_reply {reply : Reply} :
    step machine (.reply task reply) = some next ↔
      ∃ ns lock operation rest entries stage,
        machine.tasks task =
            some (.suspended ns lock operation rest entries stage) ∧
          machine.current = none ∧
          machine.proceed task ns lock operation rest entries
            (outcome (resume ns stage reply) machine.world) = next := by
  simp only [step]
  split
  · rename_i ns lock operation rest entries stage found
    simp [found]
  · rename_i other
    simp only [reduceCtorEq, false_iff, not_exists]
    rintro ns lock operation rest entries stage ⟨found, _⟩
    exact other ns lock operation rest entries stage found

theorem step_callReply {reply : Except Raised CallToolResult} :
    step machine (.callReply task reply) = some next ↔
      ∃ tool stage,
        machine.tasks task = some (.calling tool stage) ∧
          machine.current = none ∧
          machine.proceedCall task tool
            (outcome (resumeCall tool stage reply) machine.world) = next := by
  simp only [step]
  split
  · rename_i tool stage found
    simp [found]
  · rename_i other
    simp only [reduceCtorEq, false_iff, not_exists]
    rintro tool stage ⟨found, _⟩
    exact other tool stage found

theorem step_cancelWaiting :
    step machine (.cancelWaiting task) = some next ↔
      ∃ ns lock block,
        machine.tasks task = some (.waiting ns lock block) ∧
          machine.current = none ∧
          machine.cancelWaiting task lock = next := by
  simp only [step]
  split
  · rename_i ns lock block found
    simp [found]
  · rename_i other
    simp only [reduceCtorEq, false_iff, not_exists]
    rintro ns lock block ⟨found, _⟩
    exact other ns lock block found

theorem step_die {runtime : RuntimeId} :
    step machine (.die runtime) = some next ↔
      machine.current = none ∧
        { machine with world := machine.world.markDone runtime } = next := by
  simp [step]

end Steps

end Machine

end ToolboxMcp
