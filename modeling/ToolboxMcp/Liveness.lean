import ToolboxMcp.Lifetime
import ToolboxMcp.Motions

/-!
# Every request ends

The work left in a machine is the work of its tasks.  Only a new arrival raises
it, so once the clients stop sending, a run has a bounded number of steps.  No
state of a run is a deadlock either: the task that runs can go on, and with no
task running every lock is either free, so that the head of its queue can take
it, or held by a task that waits for a runtime and for nothing else.
-/

namespace ToolboxMcp

open Effect

/-- The task whose turn the action is. -/
def Action.mover : Action → Option TaskId
  | .acquire task => some task
  | .grant task => some task
  | .enter task => some task
  | .reply task _ => some task
  | .callReply task _ => some task
  | .cancelWaiting task => some task
  | _ => none

/-- The host gives up a task that is queued. -/
def Action.cancels : Action → Bool
  | .cancelWaiting _ => true
  | _ => false

namespace Machine

/-- The steps all tasks together still have to make. -/
def work (machine : Machine) : Nat :=
  tally Task.work machine.nextTask machine.tasks

/-- The turns of tasks, for a monitored run. -/
def turnTaken (_ : Machine) (action : Action) (_ : Machine) : List TaskId :=
  action.mover.toList

variable {machine after : Machine} {action : Action} {task : TaskId}
  {next : Task}

/-- A motion of a task that has been there before lowers its work. -/
theorem Motion.less {locks : LockId → Mutex TaskId}
    (motion : machine.Motion action task next locks)
    (old : action.arrives = false) :
    ∃ current,
      machine.tasks task = some current ∧ next.work < current.work := by
  cases motion with
  | arrives new away =>
      rw [old] at new
      cases new
  | takes found available =>
      exact ⟨_, found, Nat.lt_add_of_pos_right (Nat.succ_pos 1)⟩
  | queues found =>
      exact ⟨_, found, Nat.lt_succ_self _⟩
  | granted found grants =>
      exact ⟨_, found, Nat.lt_succ_self _⟩
  | pauses continues found holding held sooner less =>
      exact ⟨_, found, less⟩
  | leaves continues found holding away less =>
      exact ⟨_, found, less⟩
  | calls found outside away less =>
      exact ⟨_, found, less⟩
  | cancelled found =>
      exact ⟨_, found, Nat.succ_pos _⟩

/-- Each turn of a task is paid for by its work. -/
theorem work_step [Platform] (sane : machine.Sane)
    (old : action.arrives = false)
    (taken : step machine action = some after) :
    after.work + (machine.turnTaken action after).length ≤ machine.work := by
  rcases moved_of_step taken with
    ⟨runtime, rfl, rfl⟩ | ⟨task, next, moved⟩
  · exact le_rfl
  · obtain ⟨current, found, less⟩ := moved.motion.less old
    have nextTask : after.nextTask = machine.nextTask := by
      rw [moved.nextTask, old]
      rfl
    have changed := tally_update Task.work (sane.present found)
      machine.tasks next
    rw [found, Option.elim_some] at changed
    have counted : (machine.turnTaken action after).length ≤ 1 := by
      cases action <;> simp [turnTaken, Action.mover]
    unfold work
    rw [moved.tasks, nextTask]
    omega

/-! ## Progress -/

/-- The task named by `current` is between two awaits. -/
def Occupied (machine : Machine) : Prop :=
  ∀ task, machine.current = some task →
    ∃ current, machine.tasks task = some current ∧ current.Running

instance : DecidablePred Task.Running
  | .arriving .. => .isTrue trivial
  | .entered .. => .isTrue trivial
  | .waiting .. => .isFalse id
  | .suspended .. => .isFalse id
  | .calling .. => .isFalse id
  | .answered _ => .isFalse id

theorem occupied_step [Platform] (occupied : machine.Occupied)
    (taken : step machine action = some after) : after.Occupied := by
  rcases moved_of_step taken with
    ⟨runtime, rfl, rfl⟩ | ⟨task, next, moved⟩
  · exact occupied
  · intro runner turn
    by_cases running : next.Running
    · rw [moved.runs running] at turn
      cases turn
      refine ⟨next, ?_, running⟩
      rw [moved.tasks, Function.update_self]
    · rw [moved.yields running] at turn
      cases turn

/-- A step that the event loop can take now, or that only waits for a runtime's
answer, whatever it is. -/
inductive Ready [Platform] (machine : Machine) (task : TaskId) : Prop where
  | acquires (taken : (step machine (.acquire task)).isSome = true)
  | isGranted (taken : (step machine (.grant task)).isSome = true)
  | enters (taken : (step machine (.enter task)).isSome = true)
  | awaits
      (taken : ∀ reply, (step machine (.reply task reply)).isSome = true)
  | awaitsCall
      (taken : ∀ reply, (step machine (.callReply task reply)).isSome = true)

section Progress

variable [Platform]

theorem ready_of_running {current : Task}
    (found : machine.tasks task = some current) (running : current.Running)
    (turn : machine.current = some task) : machine.Ready task := by
  cases current with
  | arriving ns block =>
      exact .acquires (by simp [step, found, turn])
  | entered ns lock block =>
      exact .enters (by simp [step, found, turn])
  | waiting ns lock block =>
      cases running
  | suspended ns lock operation rest entries stage =>
      cases running
  | calling tool stage =>
      cases running
  | answered answer =>
      cases running

/-- The holder of a lock waits for a runtime when nobody runs. -/
theorem ready_of_holding (sane : machine.Sane)
    (free : machine.current = none) {lock : LockId}
    (holding : machine.standing task = .holding lock) :
    machine.Ready task := by
  cases found : machine.tasks task with
  | none =>
      simp [standing, found] at holding
  | some current =>
      rw [standing_of_tasks found] at holding
      cases current with
      | entered ns held block =>
          have turn := sane.running task _ found trivial
          rw [free] at turn
          cases turn
      | suspended ns held operation rest entries stage =>
          exact .awaits fun reply => by simp [step, found, free]
      | arriving ns block =>
          cases holding
      | waiting ns held block =>
          cases holding
      | calling tool stage =>
          cases holding
      | answered answer =>
          cases holding

/-- A queue never stands still: its lock is free for its head, or the holder
is ready. -/
theorem ready_of_waiting (sane : machine.Sane)
    (free : machine.current = none) {lock : LockId}
    (waiting : machine.standing task = .waiting lock) :
    ∃ other,
      machine.Ready other ∧
        (machine.standing other = .holding lock ∨
          (machine.locks lock).Grants other) := by
  cases held : (machine.locks lock).locked with
  | true =>
      obtain ⟨holder, holding⟩ := (sane.consistent.locked_iff lock).mp held
      exact ⟨holder, ready_of_holding sane free holding, .inl holding⟩
  | false =>
      have queued := (sane.consistent.queued lock task).mpr waiting
      cases shape : (machine.locks lock).waiters with
      | nil =>
          rw [shape] at queued
          cases queued
      | cons head later =>
          have grants : (machine.locks lock).Grants head :=
            ⟨held, by rw [shape]; rfl⟩
          have standing : machine.standing head = .waiting lock := by
            rw [← sane.consistent.queued, shape]
            exact List.mem_cons_self
          refine ⟨head, ?_, .inr grants⟩
          cases found : machine.tasks head with
          | none =>
              simp [Machine.standing, found] at standing
          | some current =>
              rw [standing_of_tasks found] at standing
              cases current with
              | waiting ns queue block =>
                  cases standing
                  apply Ready.isGranted
                  simp only [step, found]
                  rw [if_pos ⟨free, grants⟩]
                  rfl
              | arriving ns block =>
                  cases standing
              | entered ns queue block =>
                  cases standing
              | suspended ns queue operation rest entries stage =>
                  cases standing
              | calling tool stage =>
                  cases standing
              | answered answer =>
                  cases standing

/-- As long as a task is unanswered, some task can go on. -/
theorem exists_ready (sane : machine.Sane) (occupied : machine.Occupied)
    (unanswered : (machine.tasks task).any Task.unanswered = true) :
    ∃ other, machine.Ready other := by
  cases turn : machine.current with
  | some runner =>
      obtain ⟨current, found, running⟩ := occupied runner turn
      exact ⟨runner, ready_of_running found running turn⟩
  | none =>
      obtain ⟨current, found, open'⟩ :=
        Option.any_eq_true _ _ |>.mp unanswered
      cases current with
      | arriving ns block =>
          have running := sane.running task _ found trivial
          rw [turn] at running
          cases running
      | waiting ns lock block =>
          obtain ⟨other, ready, _⟩ :=
            ready_of_waiting sane turn (standing_of_tasks found)
          exact ⟨other, ready⟩
      | entered ns lock block =>
          exact ⟨task,
            ready_of_holding sane turn (standing_of_tasks found)⟩
      | suspended ns lock operation rest entries stage =>
          exact ⟨task,
            ready_of_holding sane turn (standing_of_tasks found)⟩
      | calling tool stage =>
          exact ⟨task, .awaitsCall fun reply => by simp [step, found, turn]⟩
      | answered answer =>
          cases open'

end Progress

/-! ## Every run -/

section Starts

/-- No runtime outlives its process. -/
def Unmounted (world : World) : Prop :=
  world.runtimes = []

theorem unmounted_upsertToolset (record : ToolsetRecord) :
    Maintains Unmounted (upsertToolset record) fun _ => True := by
  rintro world unmounted
  unfold upsertToolset
  rw [wp_storeWrite]
  split
  · exact unmounted
  · exact ⟨unmounted, trivial⟩

theorem unmounted_bootstrapDefaults :
    Maintains Unmounted bootstrapDefaults fun _ => True := by
  refine maintains_bind maintains_get fun world _ => ?_
  split
  · exact maintains_pure trivial
  · exact unmounted_upsertToolset _

theorem unmounted_reconcileRecords (records : List ToolsetRecord) :
    Maintains Unmounted (reconcileRecords records) fun _ => True := by
  induction records with
  | nil =>
      exact maintains_pure trivial
  | cons record rest inductionHypothesis =>
      rw [reconcileRecords]
      split
      · exact maintains_bind (unmounted_upsertToolset _)
          fun _ _ => inductionHypothesis
      · exact inductionHypothesis

theorem unmounted_restart (machine : Machine) :
    Unmounted machine.restart.world := by
  have continues :
      Maintains Unmounted
        (bootstrapDefaults >>= fun _ => do
          let world ← get
          reconcileRecords world.document.toolsets)
        fun _ => True :=
    maintains_bind unmounted_bootstrapDefaults fun _ _ =>
      maintains_bind maintains_get fun world _ =>
        unmounted_reconcileRecords world.document.toolsets
  have ends := continues machine.world.restarted rfl
  have started :
      wp startService (fun _ after => Unmounted after)
        (fun _ after => Unmounted after) machine.world := by
    unfold startService
    rw [wp_bind, wp_modify]
    exact wp_mono ends (fun _ _ => And.left) fun _ _ => id
  exact final_of_wp started

theorem sane_restart (machine : Machine) : machine.restart.Sane where
  housed := fun ns runtime mounted => by
    rw [unmounted_restart machine] at mounted
    cases mounted
  fresh := fun _ _ => rfl
  proper := fun task current found => by cases found
  running := fun task current found => by cases found
  consistent := Mutex.Consistent.initial

end Starts

section Runs

variable [Platform]

/-- Locks, tasks and the running task agree in every state of every life. -/
theorem sane_of_lives {config : HostConfig}
    {allowed : Machine → Option Action → Prop}
    (reaches : Reaches lifeStep allowed (firstProcess config) machine) :
    machine.Sane ∧ machine.Occupied := by
  have starts : ∀ earlier : Machine,
      earlier.restart.Sane ∧ earlier.restart.Occupied := by
    intro earlier
    exact ⟨sane_restart earlier, fun task turn => by cases turn⟩
  apply reaches.invariant (starts (emptyHost config))
  rintro before action next ⟨sane, occupied⟩ _ taken
  cases action with
  | none =>
      cases taken
      exact starts before
  | some action =>
      exact ⟨sane_step sane taken, occupied_step occupied taken⟩

/-- Once no new requests arrive, the tasks of a machine take a bounded number
of turns, and while one of them is unanswered some task can take its turn. -/
theorem requests_end {config : HostConfig}
    {allowed : Machine → Option Action → Prop}
    (reaches : Reaches lifeStep allowed (firstProcess config) machine)
    {final : Machine × List TaskId}
    (runs :
      Reaches (monitor step turnTaken) (fun _ action => action.arrives = false)
        (machine, []) final) :
    final.2.length + final.1.work ≤ machine.work ∧
      ((∃ task, (final.1.tasks task).any Task.unanswered = true) →
        ∃ task, final.1.Ready task) := by
  obtain ⟨⟨sane, occupied⟩, bounded⟩ := runs.length_seen_le
    (fun machine => machine.Sane ∧ machine.Occupied) work
    (sane_of_lives reaches) fun before action after held old taken =>
      ⟨⟨sane_step held.1 taken, occupied_step held.2 taken⟩,
        work_step held.1 old taken⟩
  refine ⟨by simpa using bounded, ?_⟩
  rintro ⟨task, unanswered⟩
  exact exists_ready sane occupied unanswered

end Runs

section Ascii

open scoped Ascii

/-- An activation waits for its server and another one for the lock. -/
theorem requests_end_activations :
    ∃ machine final,
      Reaches lifeStep (fun _ _ => True) (firstProcess {}) machine ∧
        Reaches (monitor step turnTaken)
          (fun _ action => action.arrives = false) (machine, []) final ∧
        final.2 = [0, 1] ∧
        final.2.length + final.1.work ≤ machine.work ∧
        ∃ task, final.1.Ready task := by
  obtain ⟨machine, reaches, goes⟩ :=
    exists_reaches_of_execute
      [some (.request (.activateToolsets ["fake_stdio"] "thread" true)),
       some (.acquire 0), some (.enter 0),
       some (.request (.activateToolsets ["fake_stdio"] "thread" true)),
       some (.acquire 1)]
      (by decide +kernel :
        (execute lifeStep (fun _ _ => True) (firstProcess {}) _).any
          (fun machine =>
            (execute (monitor step turnTaken)
              (fun _ action => action.arrives = false) (machine, [])
              [.reply 0 (.ok []), .grant 1]).any
              (fun final =>
                final.2 = [0, 1] ∧
                  (final.1.tasks 1).any Task.unanswered = true) = true) = true)
  obtain ⟨final, runs, turns, unanswered⟩ := exists_reaches_of_execute _ goes
  obtain ⟨bounded, progress⟩ := requests_end reaches runs
  exact ⟨machine, final, reaches, runs, turns, bounded,
    progress ⟨1, unanswered⟩⟩

end Ascii

end Machine

end ToolboxMcp
