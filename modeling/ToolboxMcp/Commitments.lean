import ToolboxMcp.Service.Serving
import ToolboxMcp.Turns

/-!
# Commitments of suspended tasks

In every run a task suspended in a block serves the operation it was sent for,
and every runtime whose end some task awaits has been closed.
-/

namespace ToolboxMcp

open Effect

def Task.ending : Task → Option RuntimeId
  | .suspended _ _ _ _ _ stage => stage.ending
  | .calling _ stage => stage.ending
  | _ => none

namespace Machine

/-- The runtime whose end the task awaits. -/
def ending (machine : Machine) (task : TaskId) : Option RuntimeId :=
  (machine.tasks task).bind Task.ending

structure Committed (machine : Machine) : Prop where
  serves :
    ∀ task ns lock operation rest entries stage,
      machine.tasks task =
          some (.suspended ns lock operation rest entries stage) →
        stage.Serves operation
  shut :
    ∀ task runtime,
      machine.ending task = some runtime → machine.world.Shut runtime

variable {machine after : Machine}

theorem ending_issued (sane : machine.Sane) {task : TaskId}
    {runtime : RuntimeId} (ends : machine.ending task = some runtime) :
    runtime < machine.world.nextRuntime := by
  obtain ⟨current, found, ends⟩ := Option.bind_eq_some_iff.mp ends
  have proper := sane.proper task current found
  cases current with
  | suspended ns lock operation rest entries stage =>
      cases stage with
      | opening opening record opened =>
          cases ends
      | swapping closing opening record snapshot =>
          cases ends
          exact proper.2.2.1
      | deactivating closing scope force record =>
          cases ends
          exact proper.2.1
      | unregistering closing force =>
          cases ends
          exact proper.1
      | probing scope record probed =>
          cases ends
      | aborting scope record probed =>
          cases ends
          exact proper.1
      | unhealthy closing scope record exception =>
          cases ends
          exact proper.1
  | calling tool stage =>
      cases stage with
      | calling called =>
          cases ends
      | aborting called =>
          cases ends
          exact proper.1
      | disconnecting closing exception =>
          cases ends
          exact proper.1
  | arriving ns block =>
      cases ends
  | waiting ns lock block =>
      cases ends
  | entered ns lock block =>
      cases ends
  | answered answer =>
      cases ends

/-- One task has moved on; closed runtimes have stayed closed. -/
theorem Committed.advance (committed : machine.Committed)
    (sane : machine.Sane) {task : TaskId} {next : Task}
    (tasks : after.tasks = Function.update machine.tasks task (some next))
    (closed : ∀ runtime < machine.world.nextRuntime,
      machine.world.Shut runtime → after.world.Shut runtime)
    (serves : ∀ ns lock operation rest entries stage,
      next = .suspended ns lock operation rest entries stage →
        stage.Serves operation)
    (shut : ∀ runtime, next.ending = some runtime →
      after.world.Shut runtime) :
    after.Committed where
  serves := by
    intro other ns lock operation rest entries stage found
    rw [tasks] at found
    by_cases same : other = task
    · subst same
      rw [Function.update_self] at found
      exact serves _ _ _ _ _ _ (Option.some.inj found)
    · rw [Function.update_of_ne same] at found
      exact committed.serves other _ _ _ _ _ _ found
  shut := by
    intro other runtime ends
    by_cases same : other = task
    · subst same
      have nextEnds : next.ending = some runtime := by
        simpa [ending, tasks] using ends
      exact shut runtime nextEnds
    · have before : machine.ending other = some runtime := by
        simpa [ending, tasks, same] using ends
      exact closed runtime (ending_issued sane before)
        (committed.shut other runtime before)

theorem ending_of_awake {next : Task} (awake : next.atAwait = false) :
    next.ending = none := by
  cases next with
  | suspended ns lock operation rest entries stage =>
      cases awake
  | calling tool stage =>
      cases awake
  | arriving ns block =>
      rfl
  | waiting ns lock block =>
      rfl
  | entered ns lock block =>
      rfl
  | answered answer =>
      rfl

section Steps

variable [Platform]

theorem Stretch.committed {task : TaskId} {ns : Namespace} {lock : LockId}
    {operation : Operation} {rest : List Namespace} {entries : List Entry}
    {program : ServiceM Progress} (sane : machine.Sane)
    (committed : machine.Committed)
    (stretch : machine.Stretch task ns lock operation rest entries program) :
    wp program (fun progress after => progress.Committed operation after)
      (fun _ _ => True) machine.world := by
  cases stretch with
  | first found turn =>
      exact start_committed operation
  | later reply found free =>
      exact resume_committed (sane.proper task _ found)
        (committed.serves task _ _ _ _ _ _ found) reply

omit [Platform] in
theorem CallStretch.shuts {task : TaskId} {tool : MountedTool}
    {world : World} {program : ServiceM CallProgress}
    (stretch : machine.CallStretch task tool world program) :
    wp program (fun progress after => progress.Shuts after)
      (fun _ _ => True) world := by
  cases stretch with
  | first found turn resolved =>
      exact dispatchCall_shuts
  | later reply found free =>
      exact resumeCall_shuts _ reply

theorem committed_turn (sane : machine.Sane) (committed : machine.Committed)
    {action : Action} (turn : machine.Turn action after) :
    after.Committed := by
  cases turn with
  | @aside task next moves tasks awake world elsewhere =>
      have same : ∀ runtime, machine.world.Shut runtime →
          after.world.Shut runtime := by
        intro runtime shut
        unfold World.Shut
        rwa [world.objects]
      apply committed.advance sane tasks fun runtime _ => same runtime
      · rintro _ _ _ _ _ _ rfl
        cases awake
      · intro runtime ends
        rw [ending_of_awake awake] at ends
        cases ends
  | @visiting task ns lock operation rest entries program stretch proceeds
      visits =>
      subst proceeds
      have closed : ∀ {final : World}, Sound ns machine.world final →
          ∀ runtime < machine.world.nextRuntime,
            machine.world.Shut runtime → final.Shut runtime :=
        fun sound => sound.closed
      have both := wp_and (stretch.sound sane)
        (stretch.committed sane committed)
      rcases wp_cases both with
        ⟨stage | more, world, computed, ⟨sound, _⟩, kept⟩ |
          ⟨raised, world, computed, sound, _⟩
      · rw [computed]
        apply committed.advance sane rfl (closed sound)
        · rintro _ _ _ _ _ _ ⟨⟩
          exact kept.serves stage rfl
        · exact fun runtime => kept.shut stage runtime rfl
      · rw [computed]
        have idle := atAwait_nextVisit operation rest (entries ++ more)
        apply committed.advance sane rfl (closed sound)
        · intro _ _ _ _ _ _ same
          rw [same] at idle
          cases idle
        · intro runtime ends
          rw [ending_of_awake idle] at ends
          cases ends
      · rw [computed]
        apply committed.advance sane rfl (closed sound)
        · rintro _ _ _ _ _ _ ⟨⟩
        · rintro runtime ⟨⟩
  | @calling task tool world program locks stretch proceeds elsewhere =>
      subst proceeds
      have counted := stretch.aside
      have closed : ∀ {final : World}, Sound tool.ns world final →
          ∀ runtime < machine.world.nextRuntime,
            machine.world.Shut runtime → final.Shut runtime := by
        intro final sound runtime issued shut
        apply sound.closed runtime
        · rw [counted.nextRuntime]
          exact issued
        · rw [counted.objects]
          exact shut
      rcases wp_cases (wp_and (stretch.sound sane) stretch.shuts) with
        ⟨stage | result, final, computed, ⟨sound, _⟩, kept⟩ |
          ⟨raised, final, computed, sound, _⟩
      · rw [computed]
        apply committed.advance sane rfl (closed sound)
        · rintro _ _ _ _ _ _ ⟨⟩
        · exact fun runtime => kept stage runtime rfl
      · rw [computed]
        apply committed.advance sane rfl (closed sound)
        · rintro _ _ _ _ _ _ ⟨⟩
        · rintro runtime ⟨⟩
      · rw [computed]
        apply committed.advance sane rfl (closed sound)
        · rintro _ _ _ _ _ _ ⟨⟩
        · rintro runtime ⟨⟩
  | @dying runtime died elsewhere =>
      subst died
      refine ⟨committed.serves, fun task other ends => ?_⟩
      have shut := committed.shut task other ends
      unfold World.Shut at shut ⊢
      rw [World.markDone_objects, Function.update_apply]
      split
      · rename_i same
        rw [same] at shut
        exact shut
      · exact shut

omit [Platform] in
theorem committed_boot (world : World) : (boot world).Committed where
  serves task ns lock operation rest entries stage found := by
    cases found
  shut task runtime ends := by
    cases ends

theorem committed_of_reaches {world : World}
    {allowed : Machine → Action → Prop}
    (reaches : Reaches step allowed (boot world) machine) :
    machine.Sane ∧ machine.Committed := by
  apply reaches.invariant ⟨sane_boot world, committed_boot world⟩
  rintro before action next ⟨sane, committed⟩ _ taken
  exact ⟨sane_step sane taken,
    committed_turn sane committed (turn_of_step taken)⟩

end Steps

end Machine

end ToolboxMcp
