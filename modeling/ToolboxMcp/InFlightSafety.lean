import ToolboxMcp.Commitments
import ToolboxMcp.InFlight

/-!
# Closing a runtime spares the started calls

A deactivation that is not forced and an unregistration look at the counter of
their namespace in the same stretch in which they close its runtime.  As the
counter covers every started call, none is open at that moment; afterwards the
runtime is shut, and a call is only ever dispatched to one that is not.
-/

namespace ToolboxMcp

open Effect

/-- The operations that must not close a runtime under a started call. -/
def Operation.sparesCalls : Operation → Bool
  | .deactivate _ force => !force
  | .unregister _ => true
  | _ => false

theorem Opening.sparesCalls_of_serves {operation : Operation}
    {purpose : Opening} (serves : purpose.Serves operation) :
    operation.sparesCalls = false := by
  cases purpose with
  | activate scope =>
      obtain ⟨_, rfl⟩ := serves
      rfl
  | restore candidates startup =>
      obtain ⟨_, rfl⟩ := serves
      rfl
  | refresh scope tools hash =>
      obtain ⟨_, rfl⟩ := serves
      rfl

/-- Whoever closes a runtime sees a counter at zero. -/
def World.ClosesIdle (ns : Namespace) (before after : World) : Prop :=
  before.inFlight ns = 0 ∨ ∀ runtime, after.Shut runtime → before.Shut runtime

section Stretches

variable {ns : Namespace} {world after : World}

theorem World.ClosesIdle.of_objects
    (objects : after.objects = world.objects) :
    World.ClosesIdle ns world after := by
  right
  intro runtime shut
  unfold World.Shut at shut ⊢
  rwa [objects] at shut

theorem World.ClosesIdle.of_markDone {runtime : RuntimeId}
    (objects : after.objects = (world.markDone runtime).objects) :
    World.ClosesIdle ns world after := by
  right
  intro other shut
  unfold World.Shut at shut ⊢
  rw [objects] at shut
  by_cases same : other = runtime
  · subst same
    simpa using shut
  · simpa [same] using shut

theorem startDeactivate_closesIdle (scope : Scope) :
    wp (startDeactivate ns scope false)
      (fun _ after => World.ClosesIdle ns world after)
      (fun _ after => World.ClosesIdle ns world after) world := by
  apply startDeactivate_rule
  · exact fun _ after untouched _ => .of_objects untouched.objects
  · exact fun _ after _ _ _ wrote => .of_objects wrote.objects
  · exact fun _ after _ _ _ _ wrote => .of_objects wrote.objects
  · exact fun _ _ _ _ _ _ quiescent => .inl (quiescent rfl)
  · exact fun _ after quiet _ => .of_objects quiet.objects

theorem startUnregister_closesIdle (force : Bool) :
    wp (startUnregister ns force)
      (fun _ after => World.ClosesIdle ns world after)
      (fun _ after => World.ClosesIdle ns world after) world := by
  apply startUnregister_rule
  · exact fun _ after untouched => .of_objects untouched.objects
  · exact fun _ _ after _ _ removed _ => .of_objects removed.objects
  · exact fun _ _ _ _ quiescent => .inl quiescent
  · rintro _ after _ (quiet | removed)
    · exact .of_objects quiet.objects
    · exact .of_objects removed.objects

/-- What is awaited has been closed before. -/
theorem resumeDeactivating_closesIdle {closing : Closing} {scope : Scope}
    {force : Bool} {record : ToolsetRecord} (reply : Reply)
    (named : record.ns = ns) :
    wp (resumeDeactivating ns closing scope force record reply)
      (fun _ after => World.ClosesIdle ns world after)
      (fun _ after => World.ClosesIdle ns world after) world := by
  apply resumeDeactivating_rule named
  · exact fun after _ wrote => .of_markDone wrote.objects
  · exact fun _ _ => .of_markDone rfl
  · exact fun _ after quiet _ => .of_markDone quiet.objects

theorem resumeUnregistering_closesIdle {closing : Closing} {force : Bool}
    (reply : Reply) :
    wp (resumeUnregistering ns closing force reply)
      (fun _ after => World.ClosesIdle ns world after)
      (fun _ after => World.ClosesIdle ns world after) world := by
  apply resumeUnregistering_rule
  · exact fun _ after removed _ => .of_markDone removed.objects
  · exact fun _ _ => .of_markDone rfl
  · rintro _ after _ (quiet | removed)
    · exact .of_markDone quiet.objects
    · exact .of_markDone removed.objects

end Stretches

namespace Machine

variable {machine after : Machine} {action : Action}

/-- The step sets the flag `_closed` of the runtime. -/
def Closes (machine after : Machine) (runtime : RuntimeId) : Prop :=
  ¬ machine.world.Shut runtime ∧ after.world.Shut runtime

/-- The step counts a call and dispatches it to the runtime. -/
def Dispatches (machine : Machine) (action : Action) (after : Machine)
    (runtime : RuntimeId) : Prop :=
  ∃ task ns lock mountedName tool,
    action = .enter task ∧
      machine.tasks task = some (.entered ns lock (.callStart mountedName)) ∧
      after.tasks task = some (.calling tool (.calling runtime))

section Steps

variable [Platform]

theorem covered_of_reaches {world : World}
    (reaches : Reaches step (fun _ _ => True) (boot world) machine)
    (ns : Namespace) :
    machine.startedCalls ns ≤ machine.world.inFlight ns := by
  have both :
      machine.Sane ∧
        machine.startedCalls ns ≤ machine.world.inFlight ns := by
    apply reaches.invariant
    · exact ⟨sane_boot world, le_rfl⟩
    · rintro before action after ⟨sane, covered⟩ _ taken
      have moves := balances_step sane covered taken
      unfold Balances at moves
      exact ⟨sane_step sane taken, by omega⟩
  exact both.2

/-- A stretch that must spare calls closes a runtime only at a zero
counter. -/
theorem Stretch.closesIdle (sane : machine.Sane)
    (committed : machine.Committed) {task : TaskId} {ns : Namespace}
    {lock : LockId} {operation : Operation} {rest : List Namespace}
    {entries : List Entry} {program : ServiceM Progress}
    (stretch : machine.Stretch task ns lock operation rest entries program)
    (spares : operation.sparesCalls = true) :
    World.ClosesIdle ns machine.world
      (outcome program machine.world).2 := by
  apply final_of_wp
  cases stretch with
  | first found turn =>
      cases operation with
      | deactivate scope force =>
          have unforced : force = false := by
            simpa [Operation.sparesCalls] using spares
          subst unforced
          exact startDeactivate_closesIdle scope
      | unregister force =>
          exact startUnregister_closesIdle force
      | _ =>
          cases spares
  | later reply found free =>
      rename_i stage
      have serves := committed.serves _ _ _ _ _ _ _ found
      have proper := sane.proper task _ found
      cases stage with
      | deactivating closing scope force record =>
          exact resumeDeactivating_closesIdle reply proper.1
      | unregistering closing force =>
          exact resumeUnregistering_closesIdle reply
      | opening purpose record runtime =>
          rw [Opening.sparesCalls_of_serves serves] at spares
          cases spares
      | swapping closing purpose record snapshot =>
          rw [Opening.sparesCalls_of_serves serves] at spares
          cases spares
      | probing scope record runtime =>
          cases serves
          cases spares
      | aborting scope record runtime =>
          cases serves
          cases spares
      | unhealthy closing scope record exception =>
          cases serves
          cases spares

theorem closes_idle {world : World}
    (reaches : Reaches step (fun _ _ => True) (boot world) machine)
    (taken : step machine action = some after) {visit : Visit}
    (visits : machine.visit action = some visit)
    (spares : visit.operation.sparesCalls = true) {runtime : RuntimeId}
    (closes : machine.Closes after runtime) :
    machine.startedCalls visit.ns = 0 := by
  obtain ⟨sane, committed⟩ := committed_of_reaches reaches
  cases turn_of_step taken with
  | aside moves tasks awake aside elsewhere =>
      rw [elsewhere] at visits
      cases visits
  | visiting stretch proceeds here =>
      rw [here] at visits
      cases visits
      subst proceeds
      have shut := closes.2
      rw [proceed_world] at shut
      rcases stretch.closesIdle sane committed spares with
        quiescent | opened
      · have covered := covered_of_reaches reaches
        exact Nat.eq_zero_of_le_zero (quiescent ▸ covered _)
      · exact absurd (opened runtime shut) closes.1
  | calling stretch proceeds elsewhere =>
      rw [elsewhere] at visits
      cases visits
  | dying died elsewhere =>
      rw [elsewhere] at visits
      cases visits

/-- A call starts on a runtime that is running. -/
theorem dispatches_open (taken : step machine action = some after)
    {runtime : RuntimeId}
    (dispatches : machine.Dispatches action after runtime) :
    ¬ machine.world.Shut runtime := by
  obtain ⟨task, ns, lock, mountedName, tool, rfl, found, calling⟩ := dispatches
  obtain ⟨_, _, _, same, _, rfl⟩ := step_enter.mp taken
  rw [found] at same
  cases same
  simp only [enter, startCall] at calling
  rcases admitCall_cases machine.world mountedName with
    ⟨resolved, resolves, computed⟩ | ⟨raised, computed⟩
  · obtain ⟨opened, running⟩ := resolveMountedTool_running resolves
    have dispatched :
        wp (dispatchCall resolved)
          (fun progress _ => progress = .inside (.calling opened))
          (fun _ _ => False)
          (machine.world.noteCallStarted resolved.ns) := by
      apply dispatchCall_rule
      · intro other runs
        have one : some other = some opened := runs.symm.trans running
        rw [Option.some.inj one]
      · intro missing
        have absent : some opened = none := running.symm.trans missing
        cases absent
    rw [computed] at calling
    rcases wp_cases dispatched with
      ⟨progress, final, ran, rfl⟩ | ⟨raised, final, _, impossible⟩
    · simp only [ran, proceedCall, setTask, Function.update_self,
        Option.some.injEq, Task.calling.injEq, CallStage.calling.injEq]
        at calling
      have runs := (World.runtimeFor_eq_some.mp running).2
      rw [calling.2] at runs
      intro shut
      unfold World.Shut at shut
      simp [World.isRunning, ManagedToolsetRuntime.isRunning, shut] at runs
    · cases impossible
  · rw [computed] at calling
    simp [leave, setTask] at calling

/-- Neither operation closes a runtime under a started call, and no call
starts on a runtime that has been closed. -/
theorem inFlight_safe {world : World}
    (reaches : Reaches step (fun _ _ => True) (boot world) machine)
    (taken : step machine action = some after) :
    (∀ visit runtime,
      machine.visit action = some visit →
      visit.operation.sparesCalls = true →
      machine.Closes after runtime →
        machine.startedCalls visit.ns = 0) ∧
    ∀ runtime, machine.world.Shut runtime →
      ¬ machine.Dispatches action after runtime :=
  ⟨fun _ _ visits spares closes =>
      closes_idle reaches taken visits spares closes,
    fun _ shut dispatches => dispatches_open taken dispatches shut⟩

end Steps

section Ascii

open scoped Ascii

/-- A deactivation closes the runtime of its namespace once the call on it has
come to an end. -/
theorem inFlight_safe_closing :
    ∃ machine after,
      Reaches step (fun _ _ => True) (boot bundledWorld) machine ∧
      step machine (.enter 2) = some after ∧
      machine.Closes after 0 ∧ machine.startedCalls "fake_stdio" = 0 := by
  obtain ⟨machine, reaches, visits, open', closed⟩ :=
    exists_reaches_of_execute
      (callStarted ++
        [.callReply 1 (.ok {}), .acquire 1, .enter 1,
         .request (.deactivateToolsets ["fake_stdio"] "thread" false),
         .acquire 2])
      (by decide +kernel :
        (execute step (fun _ _ => True) (boot bundledWorld) _).any
          (fun machine =>
            (machine.visit (.enter 2)).any (fun visit =>
              visit.ns = "fake_stdio" ∧ visit.operation.sparesCalls) = true ∧
              (machine.world.objects 0).closed = false ∧
              (step machine (.enter 2)).any (fun after =>
                (after.world.objects 0).closed) = true) = true)
  obtain ⟨visit, found, here⟩ := (Option.any_eq_true _ _).mp visits
  obtain ⟨after, taken, shut⟩ := (Option.any_eq_true _ _).mp closed
  obtain ⟨named, spares⟩ := of_decide_eq_true here
  have closes : machine.Closes after 0 := by
    refine ⟨?_, shut⟩
    simp [World.Shut, open']
  have safe := (inFlight_safe reaches taken).1 visit 0 found spares closes
  rw [named] at safe
  exact ⟨machine, after, reaches, taken, closes, safe⟩

end Ascii

end Machine

end ToolboxMcp
