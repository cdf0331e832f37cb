import ToolboxMcp.LateFailures
import ToolboxMcp.Lifetime
import ToolboxMcp.Service.Handover

/-!
# Orphaned runtimes

Every unfinished actor is mounted for its namespace, is held by an operation in
progress, or was left by an operation that was cancelled while it awaited the
actor's bootstrap.
-/

namespace ToolboxMcp

open Effect

def Task.holds : Task → Option RuntimeId
  | .suspended _ _ _ _ _ stage => stage.holds
  | .calling _ stage => stage.holds
  | _ => none

theorem Task.holds_of_awake {task : Task} (awake : task.atAwait = false) :
    task.holds = none := by
  cases task with
  | suspended ns lock operation rest entries stage =>
      cases awake
  | calling tool stage =>
      cases awake
  | _ =>
      rfl

namespace Machine

section Runs

/-- The actor the action leaves to itself. -/
def abandons (machine : Machine) (action : Action) (_ : Machine) :
    List RuntimeId :=
  match action with
  | .reply task reply =>
      match machine.tasks task with
      | some (.suspended _ _ _ _ _ stage) => (stage.abandons reply).toList
      | _ => []
  | _ => []

/-- Every runtime that strays is held by a task or was left. -/
def Housekept (first : RuntimeId) (left : List RuntimeId)
    (machine : Machine) : Prop :=
  ∀ runtime, machine.world.Strays first runtime →
    (∃ task, (machine.tasks task).bind Task.holds = some runtime) ∨
      runtime ∈ left

variable {machine after : Machine} {action : Action} {first : RuntimeId}
  {left : List RuntimeId}

/-- One task has moved on; what it held is accounted for. -/
theorem Housekept.advance (housekept : machine.Housekept first left)
    {task : TaskId} {next : Task} {mine kept : Option RuntimeId}
    {more : List RuntimeId}
    (tasks : after.tasks = Function.update machine.tasks task (some next))
    (held : (machine.tasks task).bind Task.holds = mine)
    (handsOver : HandsOver first mine kept machine.world after.world)
    (hands : ∀ runtime, kept = some runtime →
      next.holds = some runtime ∨ runtime ∈ more) :
    after.Housekept first (left ++ more) := by
  intro runtime strays
  rcases handsOver runtime strays with handed | ⟨earlier, other⟩
  · rcases hands runtime handed with holds | abandoned
    · left
      refine ⟨task, ?_⟩
      rw [tasks, Function.update_self]
      exact holds
    · exact .inr (List.mem_append_right left abandoned)
  · rcases housekept runtime earlier with ⟨holder, holds⟩ | abandoned
    · left
      refine ⟨holder, ?_⟩
      have different : holder ≠ task := by
        rintro rfl
        exact other (held.symm.trans holds)
      rw [tasks, Function.update_of_ne different]
      exact holds
    · exact .inr (List.mem_append_left more abandoned)

variable [Platform]

omit [Platform] in
/-- The task keeps what is handed on. -/
theorem Housekept.settle (housekept : machine.Housekept first left)
    {task : TaskId} {next : Task} {mine : Option RuntimeId}
    (tasks : after.tasks = Function.update machine.tasks task (some next))
    (held : (machine.tasks task).bind Task.holds = mine)
    (handsOver :
      HandsOver first mine next.holds machine.world after.world) :
    after.Housekept first left := by
  have moved : after.Housekept first (left ++ []) :=
    housekept.advance tasks held handsOver fun _ holds => .inl holds
  simpa using moved

/-- A task without a runtime of its own has moved on. -/
theorem Moves.housekept {task : TaskId} {next : Task} (sane : machine.Sane)
    (housekept : machine.Housekept first left)
    (moves : machine.Moves action after task next) :
    after.Housekept first left := by
  have held : (machine.tasks task).bind Task.holds = none := by
    rcases moves.moves with ⟨_, rfl⟩ | approaching
    · rw [sane.fresh _ le_rfl]
      rfl
    · obtain ⟨current, found, awake⟩ :=
        (Option.any_eq_true _ _).mp approaching
      rw [found]
      cases current <;> first | rfl | cases awake
  have world := moves.world
  apply housekept.settle moves.tasks held
  rw [Task.holds_of_awake moves.awake]
  exact handsOver_of_same world.runtimes world.objects world.nextRuntime

omit [Platform] in
/-- The end of a stretch of a block. -/
theorem housekept_proceed {task : TaskId} {ns : Namespace} {lock : LockId}
    {operation : Operation} {rest : List Namespace} {entries : List Entry}
    {program : ServiceM Progress} {mine lost : Option RuntimeId}
    (housekept : machine.Housekept first left)
    (held : (machine.tasks task).bind Task.holds = mine)
    (ends :
      wp program
        (fun progress world =>
          HandsOver first mine progress.holds machine.world world)
        (fun _ world => HandsOver first mine lost machine.world world)
        machine.world) :
    (machine.proceed task ns lock operation rest entries
      (outcome program machine.world)).Housekept first
        (left ++ lost.toList) := by
  rcases wp_cases ends with
    ⟨stage | more, world, computed, handsOver⟩ |
      ⟨raised, world, computed, handsOver⟩
  · rw [computed]
    exact housekept.advance rfl held handsOver fun _ held => .inl held
  · rw [computed]
    exact housekept.advance rfl held handsOver (by simp [Progress.holds])
  · rw [computed]
    exact housekept.advance rfl held handsOver fun runtime abandoned =>
      .inr (by simpa using abandoned)

omit [Platform] in
/-- The end of a stretch of a started call. -/
theorem housekept_proceedCall {task : TaskId} {tool : MountedTool}
    {world : World} {locks : LockId → Mutex TaskId}
    {program : ServiceM CallProgress} {mine : Option RuntimeId}
    (housekept : machine.Housekept first left)
    (held : (machine.tasks task).bind Task.holds = mine)
    (ends :
      wp program
        (fun progress after =>
          HandsOver first mine progress.holds machine.world after)
        (fun _ after => HandsOver first mine none machine.world after)
        world) :
    (proceedCall { machine with locks := locks } task tool
      (outcome program world)).Housekept first left := by
  rcases wp_cases ends with
    ⟨stage | result, world, computed, handsOver⟩ |
      ⟨raised, world, computed, handsOver⟩
  · rw [computed]
    exact housekept.settle rfl held handsOver
  · rw [computed]
    exact housekept.settle rfl held handsOver
  · rw [computed]
    exact housekept.settle rfl held handsOver

theorem housekept_step (sane : machine.Sane)
    (housekept : machine.Housekept first left)
    (taken : step machine action = some after) :
    after.Housekept first (left ++ machine.abandons action after) := by
  cases action with
  | request request =>
      obtain ⟨_, rfl⟩ := step_request.mp taken
      obtain ⟨task, next, moves⟩ := moves_request request
      simpa [abandons] using moves.housekept sane housekept
  | call mountedName =>
      obtain ⟨_, rfl⟩ := step_call.mp taken
      obtain ⟨task, next, moves⟩ := moves_call mountedName
      simpa [abandons] using moves.housekept sane housekept
  | acquire task =>
      obtain ⟨ns, block, found, _, rfl⟩ := step_acquire.mp taken
      obtain ⟨next, moves⟩ := moves_acquire found
      simpa [abandons] using moves.housekept sane housekept
  | grant task =>
      obtain ⟨ns, lock, block, found, _, _, rfl⟩ := step_grant.mp taken
      simpa [abandons] using (moves_grant found).housekept sane housekept
  | enter task =>
      obtain ⟨ns, lock, block, found, turn, rfl⟩ := step_enter.mp taken
      cases block with
      | operation operation rest entries =>
          exact housekept_proceed housekept (by simp [found, Task.holds])
            (start_handsOver operation)
      | callStart mountedName =>
          rcases callStart_cases found turn with
            ⟨tool, locks, stretch, proceeds⟩ | ⟨next, moves⟩
          · have counted :
                HandsOver first none none machine.world
                  (machine.world.noteCallStarted tool.ns) :=
              handsOver_of_same rfl rfl rfl
            have held : (machine.tasks task).bind Task.holds = none := by
              simp [found, Task.holds]
            have ended :
                (proceedCall { machine with locks := locks } task tool
                  (outcome (dispatchCall tool)
                    (machine.world.noteCallStarted tool.ns))).Housekept
                  first left :=
              housekept_proceedCall housekept held
                (wp_mono dispatchCall_handsOver
                  (fun _ _ later => counted.trans later)
                  fun _ _ later => counted.trans later)
            rw [proceeds]
            simpa [abandons] using ended
          · simpa [abandons] using moves.housekept sane housekept
      | callFinish result =>
          simpa [abandons] using
            (moves_callFinish found).housekept sane housekept
  | reply task reply =>
      obtain ⟨ns, lock, operation, rest, entries, stage, found, _, rfl⟩ :=
        step_reply.mp taken
      have held : (machine.tasks task).bind Task.holds = stage.holds := by
        simp [found, Task.holds]
      simpa [abandons, found] using
        housekept_proceed housekept held
          (resume_handsOver (sane.proper task _ found))
  | callReply task reply =>
      obtain ⟨tool, stage, found, _, rfl⟩ := step_callReply.mp taken
      have held : (machine.tasks task).bind Task.holds = stage.holds := by
        simp [found, Task.holds]
      have ended :
          (machine.proceedCall task tool
            (outcome (resumeCall tool stage reply) machine.world)).Housekept
            first left :=
        housekept_proceedCall housekept held
          (resumeCall_handsOver stage reply)
      simpa [abandons] using ended
  | cancelWaiting task =>
      obtain ⟨ns, lock, block, found, _, rfl⟩ := step_cancelWaiting.mp taken
      simpa [abandons] using
        (moves_cancelWaiting found).housekept sane housekept
  | die runtime =>
      obtain ⟨_, rfl⟩ := step_die.mp taken
      intro other strays
      rcases handsOver_markDone_free runtime other strays with
        handed | ⟨earlier, _⟩
      · cases handed
      · simpa [abandons] using housekept other earlier

omit [Platform] in
/-- Without an operation in progress nobody holds a runtime. -/
theorem holds_of_idle (sane : machine.Sane) (idle : machine.idle = true)
    (task : TaskId) : (machine.tasks task).bind Task.holds = none := by
  by_cases older : task < machine.nextTask
  · have settled := List.all_eq_true.mp idle task (List.mem_range.mpr older)
    cases found : machine.tasks task with
    | none =>
        rfl
    | some current =>
        rw [found] at settled
        cases current with
        | answered answer =>
            rfl
        | _ =>
            cases settled
  · rw [sane.fresh task (Nat.le_of_not_lt older)]
    rfl

/-- An unfinished actor of this process. -/
structure Running (first : RuntimeId) (machine : Machine)
    (runtime : RuntimeId) : Prop where
  ours : first ≤ runtime
  opened : runtime < machine.world.nextRuntime
  unfinished : (machine.world.objects runtime).done = false

/-- What holds in every state of a monitored run. -/
structure Kept (first : RuntimeId) (state : Machine × List RuntimeId) :
    Prop where
  sane : state.1.Sane
  housekept : state.1.Housekept first state.2

theorem kept_of_reaches {world : World} {state : Machine × List RuntimeId}
    (reaches :
      Reaches (monitor step abandons) (fun _ _ => True) (boot world, [])
        state) :
    Kept world.nextRuntime state := by
  apply reaches.invariant
  · refine ⟨sane_boot world, ?_⟩
    intro runtime strays
    exact absurd strays.opened (Nat.not_lt.mpr strays.ours)
  · intro before action next kept _ taken
    obtain ⟨moved, observed⟩ := monitor_eq_some.mp taken
    refine ⟨sane_step kept.sane moved, ?_⟩
    rw [observed]
    exact housekept_step kept.sane kept.housekept moved

/-- Once no operation is in progress, and the actors left by cancelled openings
have finished, every unfinished actor is the one mounted for its namespace. -/
theorem no_orphans {world : World}
    (reaches :
      Reaches (monitor step abandons) (fun _ _ => True) (boot world, [])
        (machine, left))
    (idle : machine.idle = true)
    (finished : ∀ runtime ∈ left,
      (machine.world.objects runtime).done = true) :
    (∀ runtime, machine.Running world.nextRuntime runtime →
      machine.world.mounted (machine.world.objects runtime).ns =
        some runtime) ∧
      ∀ runtime other, machine.Running world.nextRuntime runtime →
        machine.Running world.nextRuntime other →
          (machine.world.objects runtime).ns =
              (machine.world.objects other).ns →
            runtime = other := by
  obtain ⟨sane, housekept⟩ := kept_of_reaches reaches
  have mounted : ∀ runtime, machine.Running world.nextRuntime runtime →
      machine.world.mounted (machine.world.objects runtime).ns =
        some runtime := by
    intro runtime running
    by_contra unmounted
    rcases housekept runtime
        ⟨running.ours, running.opened, running.unfinished, unmounted⟩ with
      ⟨task, holds⟩ | abandoned
    · rw [holds_of_idle sane idle] at holds
      cases holds
    · have done := finished runtime abandoned
      rw [running.unfinished] at done
      cases done
  refine ⟨mounted, ?_⟩
  intro runtime other running also same
  have first := mounted runtime running
  rw [same, mounted other also] at first
  exact (Option.some.inj first).symm

end Runs

section Ascii

open scoped Ascii

/-- A refresh has replaced the runtime. -/
theorem no_orphans_fake :
    ∃ machine left,
      Reaches (monitor step abandons) (fun _ _ => True)
          (boot bundledWorld, []) (machine, left) ∧
        machine.Running 0 1 ∧
        machine.world.mounted "fake_stdio" = some 1 := by
  obtain ⟨⟨machine, left⟩, reaches, idle, rfl, opened, unfinished, named⟩ :=
    exists_reaches_of_execute
      [.request (.activateToolsets ["fake_stdio"] "thread" true),
       .acquire 0, .enter 0, .reply 0 (.ok [Ascii.ping]),
       .request (.refreshToolsets (some ["fake_stdio"]) false none),
       .acquire 1, .enter 1, .reply 1 (.ok []), .reply 1 (.ok [])]
      (by decide +kernel :
        (execute (monitor step abandons) (fun _ _ => True)
          (boot bundledWorld, []) _).any
          (fun state =>
            state.1.idle = true ∧ state.2 = [] ∧
              1 < state.1.world.nextRuntime ∧
              (state.1.world.objects 1).done = false ∧
              (state.1.world.objects 1).ns = "fake_stdio") = true)
  have running : machine.Running 0 1 := ⟨Nat.zero_le 1, opened, unfinished⟩
  have mounted :=
    (no_orphans reaches idle fun _ member => by cases member).1 1 running
  rw [named] at mounted
  exact ⟨machine, [], reaches, running, mounted⟩

/-- An activation is cancelled while its runtime does not answer; another one
succeeds.  Nothing is in progress any more, and two actors run. -/
theorem cancelled_activation_leaves_runtime :
    ∃ machine,
      Reaches step (fun _ _ => True) (boot bundledWorld) machine ∧
        machine.idle = true ∧
        machine.Running bundledWorld.nextRuntime 0 ∧
        machine.Running bundledWorld.nextRuntime 1 ∧
        (machine.world.objects 0).ns = "fake_stdio" ∧
        (machine.world.objects 1).ns = "fake_stdio" ∧
        machine.world.mounted "fake_stdio" = some 1 := by
  obtain ⟨machine, reaches, idle, opened, lost, unfinished, home, same,
      mounted⟩ :=
    exists_reaches_of_execute
      [.request (.activateToolsets ["fake_stdio"] "thread" true),
       .acquire 0, .enter 0, .reply 0 (.error .cancelled),
       .request (.activateToolsets ["fake_stdio"] "thread" true),
       .acquire 1, .enter 1, .reply 1 (.ok [Ascii.ping])]
      (by decide +kernel :
        (execute step (fun _ _ => True) (boot bundledWorld) _).any
          (fun machine =>
            machine.idle = true ∧ 1 < machine.world.nextRuntime ∧
              (machine.world.objects 0).done = false ∧
              (machine.world.objects 1).done = false ∧
              (machine.world.objects 0).ns = "fake_stdio" ∧
              (machine.world.objects 1).ns = "fake_stdio" ∧
              machine.world.mounted "fake_stdio" = some 1) = true)
  exact ⟨machine, reaches, idle,
    ⟨Nat.zero_le 0, Nat.lt_of_succ_lt opened, lost⟩,
    ⟨Nat.zero_le 1, opened, unfinished⟩, home, same, mounted⟩

end Ascii

end Machine

end ToolboxMcp
