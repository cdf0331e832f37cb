import ToolboxMcp.Library.Queue
import ToolboxMcp.Liveness

/-!
# Waiting for a namespace lock

A task that waits for a lock waits for the tasks ahead of it in the queue and
for the holder, and for nobody else: whatever the clients send meanwhile, only
these enter the lock before it, in the order in which they queued, and they
take a bounded number of turns in it.
-/

namespace ToolboxMcp

open Effect

/-- The turns a task still takes inside the lock. -/
def Task.turnsAt (lock : LockId) (task : Task) : Nat :=
  if task.standing = .holding lock then task.turns else 0

theorem Task.turnsAt_of_ne {lock : LockId} {task : Task}
    (elsewhere : task.standing ≠ .holding lock) : task.turnsAt lock = 0 :=
  if_neg elsewhere

theorem Task.turnsAt_of_eq {lock : LockId} {task : Task}
    (holding : task.standing = .holding lock) :
    task.turnsAt lock = task.turns :=
  if_pos holding

theorem Task.turns_pos {lock : LockId} {task : Task}
    (holding : task.standing = .holding lock) : 0 < task.turns := by
  cases task with
  | entered ns held block =>
      exact Nat.succ_pos 3
  | suspended ns held operation rest entries stage =>
      exact stage.remaining_pos
  | arriving ns block =>
      cases holding
  | waiting ns held block =>
      cases holding
  | calling tool stage =>
      cases holding
  | answered answer =>
      cases holding

namespace Machine

/-- The turns the holder of the lock still takes inside it. -/
def inside (machine : Machine) (lock : LockId) : Nat :=
  tally (Task.turnsAt lock) machine.nextTask machine.tasks

/-- The task that gets the lock in this step. -/
def admits (lock : LockId) (before : Machine) (action : Action)
    (after : Machine) : List TaskId :=
  (action.mover.filter fun task =>
    before.standing task ≠ .holding lock ∧
      after.standing task = .holding lock).toList

/-- The task that takes its turn in this step to get the lock or holding it. -/
def turnsIn (lock : LockId) (before : Machine) (action : Action)
    (after : Machine) : List TaskId :=
  (action.mover.filter fun task =>
    before.standing task = .holding lock ∨
      after.standing task = .holding lock).toList

variable {machine after : Machine} {action : Action} {task other : TaskId}
  {next current : Task} {lock : LockId}

theorem mover_of_continues (continues : action.continues = some task) :
    action.mover = some task := by
  cases action with
  | enter task =>
      exact continues
  | reply task reply =>
      exact continues
  | _ =>
      cases continues

theorem Moved.nextTask_of_mover {mover : TaskId}
    (moved : machine.Moved action after task next)
    (moves : action.mover = some mover) :
    after.nextTask = machine.nextTask := by
  rw [moved.nextTask]
  cases action with
  | request request =>
      cases moves
  | call mountedName =>
      cases moves
  | _ =>
      rfl

theorem mover_of_arrives (new : action.arrives = true) :
    action.mover = none := by
  cases action with
  | request request =>
      rfl
  | call mountedName =>
      rfl
  | _ =>
      cases new

/-! ## What is seen of a motion -/

/-- A move that neither starts nor ends at the lock. -/
theorem observed_elsewhere (mover : action.mover = some other)
    (before : machine.standing other ≠ .holding lock)
    (later : after.standing other ≠ .holding lock) :
    admits lock machine action after = [] ∧
      turnsIn lock machine action after = [] := by
  simp [admits, turnsIn, mover, Option.filter, before, later]

theorem observed_entering (mover : action.mover = some other)
    (before : machine.standing other ≠ .holding lock)
    (later : after.standing other = .holding lock) :
    admits lock machine action after = [other] ∧
      turnsIn lock machine action after = [other] := by
  simp [admits, turnsIn, mover, Option.filter, before, later]

theorem observed_holding (mover : action.mover = some other)
    (before : machine.standing other = .holding lock) :
    admits lock machine action after = [] ∧
      turnsIn lock machine action after = [other] := by
  simp [admits, turnsIn, mover, Option.filter, before]

/-- What one step does to a queue and to the turns inside its lock. -/
structure Serves (lock : LockId) (machine : Machine) (action : Action)
    (after : Machine) : Prop where
  shift :
    Queue.Shift (admits lock machine action after)
      (machine.locks lock).waiters (after.locks lock).waiters
  paid :
    after.inside lock + (turnsIn lock machine action after).length ≤
      machine.inside lock + 5 * (admits lock machine action after).length

/-- A move elsewhere leaves the turns inside the lock as they are. -/
theorem inside_elsewhere (sane : machine.Sane)
    (found : machine.tasks other = some current)
    (tasks : after.tasks = Function.update machine.tasks other (some next))
    (nextTask : after.nextTask = machine.nextTask)
    (before : current.standing ≠ .holding lock)
    (later : next.standing ≠ .holding lock) :
    after.inside lock = machine.inside lock := by
  have changed := tally_update (Task.turnsAt lock) (sane.present found)
    machine.tasks next
  rw [found, Option.elim_some, Task.turnsAt_of_ne before,
    Task.turnsAt_of_ne later] at changed
  unfold inside
  rw [tasks, nextTask]
  exact changed

theorem serves_elsewhere (sane : machine.Sane)
    (mover : action.mover = some other)
    (found : machine.tasks other = some current)
    (tasks : after.tasks = Function.update machine.tasks other (some next))
    (nextTask : after.nextTask = machine.nextTask)
    (before : current.standing ≠ .holding lock)
    (later : next.standing ≠ .holding lock)
    (shift :
      Queue.Shift [] (machine.locks lock).waiters
        (after.locks lock).waiters) :
    Serves lock machine action after := by
  have standing : after.standing other = next.standing := by
    rw [standing_eq_update tasks, Function.update_self]
  have outside : machine.standing other ≠ .holding lock := by
    rwa [standing_of_tasks found]
  obtain ⟨admitted, turns⟩ := observed_elsewhere mover outside
    (by rwa [standing] : after.standing other ≠ .holding lock)
  refine ⟨by rwa [admitted], ?_⟩
  rw [admitted, turns, inside_elsewhere sane found tasks nextTask before later]
  exact le_rfl

/-- A newcomer does not come to the lock. -/
theorem serves_arriving (sane : machine.Sane) (new : action.arrives = true)
    (tasks :
      after.tasks =
        Function.update machine.tasks machine.nextTask (some next))
    (nextTask : after.nextTask = machine.nextTask + 1)
    (away : next.standing = .away)
    (shift :
      Queue.Shift [] (machine.locks lock).waiters
        (after.locks lock).waiters) :
    Serves lock machine action after := by
  have still := mover_of_arrives new
  have outside : next.standing ≠ .holding lock := by
    rw [away]
    exact nofun
  have extended := tally_succ (Task.turnsAt lock) (sane.fresh _ le_rfl) next
  rw [Task.turnsAt_of_ne outside] at extended
  constructor
  · simpa [admits, still] using shift
  · simp only [admits, turnsIn, still, inside, tasks, nextTask]
    rw [extended]
    exact le_rfl

/-- The head of the queue gets the lock and has four turns in it. -/
theorem serves_granted {ns : Namespace} {block : Block} (sane : machine.Sane)
    (mover : action.mover = some other)
    (found : machine.tasks other = some (.waiting ns lock block))
    (grants : (machine.locks lock).Grants other)
    (tasks :
      after.tasks =
        Function.update machine.tasks other (some (.entered ns lock block)))
    (nextTask : after.nextTask = machine.nextTask)
    (granted : after.locks lock = (machine.locks lock).grant) :
    Serves lock machine action after := by
  have enters : after.standing other = .holding lock := by
    rw [standing_eq_update tasks, Function.update_self]
    rfl
  have waited : machine.standing other ≠ .holding lock := by
    rw [standing_of_tasks found]
    exact nofun
  obtain ⟨admitted, turns⟩ := observed_entering mover waited enters
  have before : (Task.waiting ns lock block).turnsAt lock = 0 :=
    Task.turnsAt_of_ne nofun
  have later : (Task.entered ns lock block).turnsAt lock = 4 :=
    Task.turnsAt_of_eq rfl
  have changed := tally_update (Task.turnsAt lock) (sane.present found)
    machine.tasks (.entered ns lock block)
  rw [found, Option.elim_some, before, later] at changed
  constructor
  · rw [admitted, granted, grants.waiters_eq]
    exact .serves _ _
  · rw [admitted, turns]
    unfold inside
    rw [tasks, nextTask]
    simp only [List.length_singleton]
    omega

/-- The holder takes a turn, and then has fewer of them left. -/
theorem serves_holder (sane : machine.Sane)
    (mover : action.mover = some other)
    (found : machine.tasks other = some current)
    (holding : current.standing = .holding lock)
    (tasks : after.tasks = Function.update machine.tasks other (some next))
    (nextTask : after.nextTask = machine.nextTask)
    (sooner : next.turnsAt lock < current.turns)
    (shift :
      Queue.Shift [] (machine.locks lock).waiters
        (after.locks lock).waiters) :
    Serves lock machine action after := by
  have holds : machine.standing other = .holding lock := by
    rwa [standing_of_tasks found]
  obtain ⟨admitted, turns⟩ :
      admits lock machine action after = [] ∧
        turnsIn lock machine action after = [other] :=
    observed_holding mover holds
  have changed := tally_update (Task.turnsAt lock) (sane.present found)
    machine.tasks next
  rw [found, Option.elim_some, Task.turnsAt_of_eq holding] at changed
  constructor
  · rwa [admitted]
  · rw [admitted, turns]
    unfold inside
    rw [tasks, nextTask, List.length_singleton]
    omega

/-- While a task waits for the lock, a newcomer queues behind it, the head of
the queue is granted the lock, and the holder comes closer to leaving it. -/
theorem serves_step [Platform] (sane : machine.Sane)
    (waiting : machine.standing task = .waiting lock)
    (taken : step machine action = some after) :
    Serves lock machine action after := by
  have queued := (sane.consistent.queued lock task).mpr waiting
  rcases moved_of_step taken with
    ⟨runtime, rfl, rfl⟩ | ⟨other, next, moved⟩
  · exact ⟨.same _, le_rfl⟩
  have tasks := moved.tasks
  have nextTask := moved.nextTask
  have motion := moved.motion
  generalize locks : after.locks = changed at motion
  cases motion with
  | arrives new away =>
      rw [new, if_pos rfl] at nextTask
      refine serves_arriving sane new tasks nextTask away ?_
      rw [locks]
      exact .same _
  | @takes other ns block free found available =>
      have different : free ≠ lock := by
        rintro rfl
        rw [available.2] at queued
        cases queued
      refine serves_elsewhere sane rfl found tasks nextTask nofun ?_ ?_
      · rintro same
        cases same
        exact different rfl
      · rw [locks, Function.update_of_ne different.symm]
        exact .same _
  | @queues other ns block joined found =>
      refine serves_elsewhere sane rfl found tasks nextTask nofun nofun ?_
      by_cases here : lock = joined
      · subst here
        rw [locks, Function.update_self]
        exact .joins _ _
      · rw [locks, Function.update_of_ne here]
        exact .same _
  | @granted other ns block granted found grants =>
      by_cases here : lock = granted
      · subst here
        refine serves_granted sane rfl found grants tasks nextTask ?_
        rw [locks, Function.update_self]
      · refine serves_elsewhere sane rfl found tasks nextTask nofun ?_ ?_
        · rintro same
          cases same
          exact here rfl
        · rw [locks, Function.update_of_ne here]
          exact .same _
  | @pauses _ other current next at' continues found holding held sooner
      less =>
      have mover := mover_of_continues continues
      have sameCount := moved.nextTask_of_mover mover
      have sameQueue :
          Queue.Shift [] (machine.locks lock).waiters
            (after.locks lock).waiters := by
        rw [locks]
        exact .same _
      by_cases here : at' = lock
      · subst here
        refine serves_holder sane mover found holding tasks sameCount ?_
          sameQueue
        rwa [Task.turnsAt_of_eq held]
      · refine serves_elsewhere sane mover found tasks sameCount ?_ ?_
          sameQueue
        · rw [holding]
          simpa using here
        · rw [held]
          simpa using here
  | @leaves _ other current next left continues found holding away less =>
      have mover := mover_of_continues continues
      have sameCount := moved.nextTask_of_mover mover
      have outside : next.standing ≠ .holding lock := by
        rw [away]
        exact nofun
      by_cases here : left = lock
      · subst here
        refine serves_holder sane mover found holding tasks sameCount ?_ ?_
        · rw [Task.turnsAt_of_ne outside]
          exact Task.turns_pos holding
        · rw [locks, Function.update_self]
          exact .same _
      · refine serves_elsewhere sane mover found tasks sameCount ?_ outside ?_
        · rw [holding]
          simpa using here
        · rw [locks, Function.update_of_ne (Ne.symm here)]
          exact .same _
  | @calls other reply current next found outside away less =>
      refine serves_elsewhere sane rfl found tasks nextTask
        (by rw [outside]; exact nofun) (by rw [away]; exact nofun) ?_
      rw [locks]
      exact .same _
  | @cancelled other ns block left found =>
      refine serves_elsewhere sane rfl found tasks nextTask nofun nofun ?_
      by_cases here : lock = left
      · subst here
        rw [locks, Function.update_self]
        exact .quits _ _
      · rw [locks, Function.update_of_ne here]
        exact .same _

/-! ## While a task waits -/

theorem mover_of_motion {locks : LockId → Mutex TaskId}
    (motion : machine.Motion action task next locks) :
    action.mover = some task ∨ task = machine.nextTask := by
  cases motion with
  | arrives new away =>
      exact .inr rfl
  | pauses continues found holding held sooner less =>
      exact .inl (mover_of_continues continues)
  | leaves continues found holding away less =>
      exact .inl (mover_of_continues continues)
  | _ =>
      exact .inl rfl

/-- A task that waits stands still until its own turn. -/
theorem waiting_step [Platform] (sane : machine.Sane)
    (waiting : machine.standing task = .waiting lock)
    (others : action.mover ≠ some task)
    (taken : step machine action = some after) :
    after.standing task = .waiting lock := by
  rcases moved_of_step taken with
    ⟨runtime, rfl, rfl⟩ | ⟨other, next, moved⟩
  · exact waiting
  · have different : task ≠ other := by
      rintro rfl
      rcases mover_of_motion moved.motion with mover | new
      · exact others mover
      · have missing : machine.standing task = .away := by
          rw [new, Machine.standing, sane.fresh _ le_rfl]
          rfl
        rw [missing] at waiting
        cases waiting
    rw [standing_eq_update moved.tasks, Function.update_of_ne different,
      waiting]

/-- A lock has one holder, and no holder needs more than four turns. -/
theorem inside_le (sane : machine.Sane) : machine.inside lock ≤ 4 := by
  by_cases held : ∃ holder, machine.standing holder = .holding lock
  · obtain ⟨holder, holding⟩ := held
    have others : ∀ other, other ≠ holder →
        (machine.tasks other).elim 0 (Task.turnsAt lock) = 0 := by
      intro other different
      cases found : machine.tasks other with
      | none =>
          rfl
      | some current =>
          apply Task.turnsAt_of_ne
          intro second
          rw [← standing_of_tasks found] at second
          exact different
            (sane.consistent.exclusive lock other holder second holding)
    have single := tally_le_of_single (Task.turnsAt lock) machine.nextTask
      machine.tasks others
    refine single.trans ?_
    cases machine.tasks holder with
    | none =>
        exact Nat.zero_le 4
    | some current =>
        rw [Option.elim_some, Task.turnsAt]
        split
        · exact current.turns_le
        · exact Nat.zero_le 4
  · have nobody : machine.inside lock = 0 := by
      by_contra positive
      obtain ⟨place, current, found, heavy⟩ :=
        exists_weight_of_tally_pos (Task.turnsAt lock)
          (Nat.pos_of_ne_zero positive)
      apply held
      refine ⟨place, ?_⟩
      rw [standing_of_tasks found]
      by_contra elsewhere
      rw [Task.turnsAt_of_ne elsewhere] at heavy
      exact absurd heavy (lt_irrefl 0)
    rw [nobody]
    exact Nat.zero_le 4

/-- The tasks queued before `task`, the first to be served first. -/
def queuedBefore (machine : Machine) (lock : LockId) (task : TaskId) :
    List TaskId :=
  Queue.ahead task (machine.locks lock).waiters

/-- `task` still waits, and the tasks `state.2` have got the lock so far. -/
structure WaitsInOrder (machine : Machine) (lock : LockId) (task : TaskId)
    (state : Machine × List TaskId) : Prop where
  sane : state.1.Sane
  waits : state.1.standing task = .waiting lock
  ordered :
    (state.2 ++ state.1.queuedBefore lock task).Sublist
      (machine.queuedBefore lock task)

section Runs

variable [Platform]

theorem queuedBefore_step (sane : machine.Sane)
    (waiting : machine.standing task = .waiting lock)
    (others : action.mover ≠ some task)
    (taken : step machine action = some after) :
    (admits lock machine action after ++
        after.queuedBefore lock task).Sublist
      (machine.queuedBefore lock task) := by
  have queued := (sane.consistent.queued lock task).mpr waiting
  have stays :=
    ((sane_step sane taken).consistent.queued lock task).mpr
      (waiting_step sane waiting others taken)
  exact (serves_step sane waiting taken).shift.ahead_sublist queued stays
    (sane.consistent.nodup lock)

/-- The turns taken inside the lock while `task` waits for it are bounded by
its place in the queue, whatever else the machine does; and unless a task is
running, the holder or the head of the queue can take such a turn now. -/
theorem waiting_bounded {config : HostConfig}
    {allowed : Machine → Option Action → Prop}
    (reaches : Reaches lifeStep allowed (firstProcess config) machine)
    (waiting : machine.standing task = .waiting lock)
    {final : Machine × List TaskId}
    (runs :
      Reaches (monitor step (turnsIn lock))
        (fun _ action => action.mover ≠ some task) (machine, []) final) :
    final.1.standing task = .waiting lock ∧
      final.2.length + 5 * (final.1.queuedBefore lock task).length ≤
        4 + 5 * (machine.queuedBefore lock task).length ∧
      (final.1.current = none →
        ∃ other,
          final.1.Ready other ∧
            (final.1.standing other = .holding lock ∨
              (final.1.locks lock).Grants other)) := by
  have sane := (sane_of_lives reaches).1
  obtain ⟨⟨saneFinal, waits⟩, bounded⟩ := runs.length_seen_le
    (fun machine => machine.Sane ∧ machine.standing task = .waiting lock)
    (fun machine =>
      machine.inside lock + 5 * (machine.queuedBefore lock task).length)
    ⟨sane, waiting⟩ fun before action after held others taken => by
      have stays := waiting_step held.1 held.2 others taken
      have paid := (serves_step held.1 held.2 taken).paid
      have shorter :=
        (queuedBefore_step held.1 held.2 others taken).length_le
      rw [List.length_append] at shorter
      refine ⟨⟨sane_step held.1 taken, stays⟩, ?_⟩
      omega
  have entered : machine.inside lock ≤ 4 := inside_le sane
  refine ⟨waits, ?_, fun free => ready_of_waiting saneFinal free waits⟩
  simp only [List.length_nil, Nat.zero_add] at bounded
  omega

/-- While `task` waits, the tasks that get the lock are those queued before it,
in the order in which they queued; the others among them have given up or are
still ahead. -/
theorem served_in_order {config : HostConfig}
    {allowed : Machine → Option Action → Prop}
    (reaches : Reaches lifeStep allowed (firstProcess config) machine)
    (waiting : machine.standing task = .waiting lock)
    {final : Machine × List TaskId}
    (runs :
      Reaches (monitor step (admits lock))
        (fun _ action => action.mover ≠ some task) (machine, []) final) :
    (final.2 ++ final.1.queuedBefore lock task).Sublist
      (machine.queuedBefore lock task) := by
  have sane := (sane_of_lives reaches).1
  have kept : WaitsInOrder machine lock task final := by
    apply runs.invariant
    · exact ⟨sane, waiting, List.Sublist.refl _⟩
    · rintro before action after ⟨saneBefore, waits, ordered⟩ others taken
      obtain ⟨stepped, seen⟩ := monitor_eq_some.mp taken
      refine ⟨sane_step saneBefore stepped,
        waiting_step saneBefore waits others stepped, ?_⟩
      rw [seen, List.append_assoc]
      exact ((queuedBefore_step saneBefore waits others
        stepped).append_left before.2).trans ordered
  exact kept.ordered

end Runs

section Ascii

open scoped Ascii

/-- Two activations queue behind one that waits for its server. -/
def queueing : List (Option Action) :=
  [some (.request (.activateToolsets ["fake_stdio"] "thread" true)),
   some (.acquire 0), some (.enter 0),
   some (.request (.activateToolsets ["fake_stdio"] "thread" true)),
   some (.acquire 1),
   some (.request (.activateToolsets ["fake_stdio"] "thread" true)),
   some (.acquire 2)]

/-- Task 2 waits for the turns of the holder and of task 1. -/
theorem waiting_bounded_activation :
    ∃ machine final,
      Reaches lifeStep (fun _ _ => True) (firstProcess {}) machine ∧
        machine.standing 2 = .waiting 0 ∧
        Reaches (monitor step (turnsIn 0))
          (fun _ action => action.mover ≠ some 2) (machine, []) final ∧
        final.2 = [0, 1, 1] ∧
        final.1.standing 2 = .waiting 0 ∧
        final.2.length + 5 * (final.1.queuedBefore 0 2).length ≤ 9 := by
  obtain ⟨machine, reaches, waiting, before, goes⟩ :=
    exists_reaches_of_execute queueing
      (by decide +kernel :
        (execute lifeStep (fun _ _ => True) (firstProcess {}) queueing).any
          (fun machine =>
            machine.standing 2 = .waiting 0 ∧
              (machine.queuedBefore 0 2).length = 1 ∧
              (execute (monitor step (turnsIn 0))
                (fun _ action => action.mover ≠ some 2) (machine, [])
                [.reply 0 (.ok []), .grant 1, .enter 1]).any
                (fun final => final.2 = [0, 1, 1]) = true) = true)
  obtain ⟨final, runs, turns⟩ := exists_reaches_of_execute _ goes
  obtain ⟨waits, bounded, _⟩ := waiting_bounded reaches waiting runs
  rw [before] at bounded
  exact ⟨machine, final, reaches, waiting, runs, turns, waits, bounded⟩

/-- Task 1 gets the lock before task 2. -/
theorem served_in_order_activation :
    ∃ machine final,
      Reaches lifeStep (fun _ _ => True) (firstProcess {}) machine ∧
        machine.standing 2 = .waiting 0 ∧
        Reaches (monitor step (admits 0))
          (fun _ action => action.mover ≠ some 2) (machine, []) final ∧
        final.2 = [1] ∧
        (final.2 ++ final.1.queuedBefore 0 2).Sublist [1] := by
  obtain ⟨machine, reaches, waiting, before, goes⟩ :=
    exists_reaches_of_execute queueing
      (by decide +kernel :
        (execute lifeStep (fun _ _ => True) (firstProcess {}) queueing).any
          (fun machine =>
            machine.standing 2 = .waiting 0 ∧
              machine.queuedBefore 0 2 = [1] ∧
              (execute (monitor step (admits 0))
                (fun _ action => action.mover ≠ some 2) (machine, [])
                [.reply 0 (.ok []), .grant 1, .enter 1]).any
                (fun final => final.2 = [1]) = true) = true)
  obtain ⟨final, runs, admitted⟩ := exists_reaches_of_execute _ goes
  have ordered := served_in_order reaches waiting runs
  rw [before] at ordered
  exact ⟨machine, final, reaches, waiting, runs, admitted, ordered⟩

end Ascii

end Machine

end ToolboxMcp
