import ToolboxMcp.Commitments
import ToolboxMcp.LateFailures

/-!
# Runtimes that are being opened

Until it is mounted, a runtime is known to the task that opens it and to nobody
else: in serialized runs no call uses it, and nothing closes it.
-/

namespace ToolboxMcp

open Effect

/-- The runtime the task has sent a call to. -/
def Task.called : Task → Option RuntimeId
  | .calling _ stage => stage.called
  | _ => none

namespace Machine

structure Pristine (machine : Machine) : Prop where
  unshut :
    ∀ task runtime,
      machine.landing task = some runtime → ¬ machine.world.Shut runtime
  uncalled :
    ∀ task runtime,
      machine.landing task = some runtime →
        ∀ other current,
          machine.tasks other = some current →
            current.called ≠ some runtime

variable {machine after : Machine} {task : TaskId} {next : Task}

theorem landing_update
    (tasks : after.tasks = Function.update machine.tasks task (some next))
    (other : TaskId) :
    after.landing other =
      if other = task then next.landing else machine.landing other := by
  unfold landing
  rw [tasks, Function.update_apply]
  split
  · rfl
  · rfl

theorem landing_of_awake (awake : next.atAwait = false) :
    next.landing = none := by
  cases next with
  | suspended ns lock operation rest entries stage =>
      cases awake
  | _ =>
      rfl

theorem called_of_awake (awake : next.atAwait = false) :
    next.called = none := by
  cases next with
  | calling tool stage =>
      cases awake
  | _ =>
      rfl

theorem called_issued (sane : machine.Sane) {current : Task}
    {runtime : RuntimeId} (found : machine.tasks task = some current)
    (calls : current.called = some runtime) :
    runtime < machine.world.nextRuntime := by
  have proper := sane.proper task current found
  cases current with
  | calling tool stage =>
      cases stage with
      | calling called =>
          cases calls
          exact proper.1
      | _ =>
          cases calls
  | _ =>
      cases calls

/-- One task has moved on. -/
theorem Pristine.advance (pristine : machine.Pristine)
    (tasks : after.tasks = Function.update machine.tasks task (some next))
    (unshut : ∀ other runtime, other ≠ task →
      machine.landing other = some runtime → ¬ after.world.Shut runtime)
    (opened : ∀ runtime, next.landing = some runtime →
      ¬ after.world.Shut runtime ∧
        ∀ other current, machine.tasks other = some current →
          current.called ≠ some runtime)
    (uncalled : ∀ other runtime, machine.landing other = some runtime →
      next.called ≠ some runtime)
    (single : next.landing = none ∨ next.called = none) :
    after.Pristine := by
  constructor
  · intro other runtime lands
    rw [landing_update tasks] at lands
    split at lands
    · exact (opened runtime lands).1
    · rename_i different
      exact unshut other runtime different lands
  · intro other runtime lands caller current found
    rw [landing_update tasks] at lands
    rw [tasks, Function.update_apply] at found
    split at lands
    · split at found
      · cases found
        rcases single with idle | silent
        · rw [idle] at lands
          cases lands
        · simp [silent]
      · exact (opened runtime lands).2 caller current found
    · split at found
      · cases found
        exact uncalled other runtime lands
      · exact pristine.uncalled other runtime lands caller current found

section Steps

variable [Platform] {ns : Namespace} {lock : LockId} {operation : Operation}
  {rest : List Namespace} {entries : List Entry}
  {program : ServiceM Progress}

/-- A stretch of a block opens nothing but a new runtime. -/
theorem Stretch.opens (sane : machine.Sane)
    (stretch : machine.Stretch task ns lock operation rest entries program) :
    wp program
      (fun progress _ => ∀ runtime, progress.landing = some runtime →
        runtime = machine.world.nextRuntime)
      (fun _ _ => True) machine.world := by
  cases stretch with
  | first found turn =>
      apply wp_mono (start_mounting operation)
      · exact fun _ _ both => both.2
      · exact fun _ _ _ => trivial
  | later reply found free =>
      apply wp_mono (resume_mounting (sane.proper task _ found) reply)
      · intro progress _ both runtime lands
        rw [both.1] at lands
        cases lands
      · exact fun _ _ _ => trivial

/-- What other tasks are opening belongs to other namespaces. -/
theorem pristine_proceed (sane : machine.Sane)
    (serialized : machine.Serialized) (committed : machine.Committed)
    (pristine : machine.Pristine)
    (stretch : machine.Stretch task ns lock operation rest entries program) :
    (machine.proceed task ns lock operation rest entries
      (outcome program machine.world)).Pristine := by
  have untouched : ∀ {final : World}, Sound ns machine.world final →
      ∀ other runtime, other ≠ task →
        machine.landing other = some runtime → ¬ final.Shut runtime := by
    intro final sound other runtime different lands
    obtain ⟨current, found, landing⟩ := Option.bind_eq_some_iff.mp lands
    cases current with
    | suspended home held asked later earlier stage =>
        cases stage with
        | opening purpose record opened =>
            cases landing
            have away :=
              stretch.elsewhere sane serialized different found
            have owned := (sane.proper other _ found).2
            have foreign : (machine.world.objects runtime).ns ≠ ns := by
              rw [owned.2]
              exact away
            have before := pristine.unshut other runtime lands
            unfold World.Shut at before ⊢
            rwa [sound.foreign runtime owned.1 foreign]
        | _ =>
            cases landing
    | _ =>
        cases landing
  have silent : ∀ next : Task, next.called = none →
      ∀ other runtime, machine.landing other = some runtime →
        next.called ≠ some runtime := by
    intro next called other runtime _
    simp [called]
  rcases wp_cases (wp_and (stretch.sound sane)
      (wp_and (stretch.committed sane committed) (stretch.opens sane))) with
    ⟨stage | more, world, computed, ⟨sound, _⟩, kept, opens⟩ |
      ⟨raised, world, computed, sound, _⟩
  · rw [computed]
    apply pristine.advance rfl (untouched sound)
    · intro runtime lands
      refine ⟨kept.opened stage runtime rfl lands, ?_⟩
      intro other current found calls
      have new := opens runtime lands
      exact absurd (called_issued sane found calls) (by rw [new]; simp)
    · exact silent _ rfl
    · exact .inr rfl
  · rw [computed]
    have idle := atAwait_nextVisit operation rest (entries ++ more)
    apply pristine.advance rfl (untouched sound)
    · intro runtime lands
      rw [landing_of_awake idle] at lands
      cases lands
    · exact silent _ (called_of_awake idle)
    · exact .inr (called_of_awake idle)
  · rw [computed]
    apply pristine.advance rfl (untouched sound)
    · rintro runtime ⟨⟩
    · exact silent _ rfl
    · exact .inr rfl

omit [Platform] in
theorem CallStretch.handles {tool : MountedTool} {world : World}
    {program : ServiceM CallProgress}
    (stretch : machine.CallStretch task tool world program) :
    ∃ called,
      (∀ runtime, called = some runtime →
        ∃ current, machine.tasks task = some current ∧
          current.called = some runtime) ∧
      wp program
        (fun progress after => progress.Handles tool.ns called world after)
        (fun _ after => ClosesOwn tool.ns called world after) world := by
  cases stretch with
  | first found turn resolved =>
      exact ⟨none, by rintro _ ⟨⟩, dispatchCall_handles⟩
  | @later stage reply found free =>
      exact ⟨stage.called, fun runtime calls => ⟨_, found, calls⟩,
        resumeCall_handles stage reply⟩

omit [Platform] in
/-- A call closes and calls what is mounted or what it has called before. -/
theorem pristine_proceedCall (accounted : machine.Accounted [])
    (pristine : machine.Pristine) {tool : MountedTool} {world : World}
    {program : ServiceM CallProgress} {locks : LockId → Mutex TaskId}
    (stretch : machine.CallStretch task tool world program) :
    (proceedCall { machine with locks := locks } task tool
      (outcome program world)).Pristine := by
  have counted := stretch.aside
  obtain ⟨called, known, handles⟩ := stretch.handles
  have untouched : ∀ {final : World}, ClosesOwn tool.ns called world final →
      ∀ other runtime, other ≠ task →
        machine.landing other = some runtime → ¬ final.Shut runtime := by
    intro final closes other runtime _ lands shut
    rcases closes runtime shut with earlier | mounted | calls
    · unfold World.Shut at earlier
      rw [counted.objects] at earlier
      exact pristine.unshut other runtime lands earlier
    · rw [counted.runtimes] at mounted
      exact (accounted.opening other runtime lands).2 tool.ns mounted
    · obtain ⟨current, found, calling⟩ := known runtime calls
      exact pristine.uncalled other runtime lands task current found calling
  rcases wp_cases handles with
    ⟨stage | result, final, computed, handled⟩ |
      ⟨raised, final, computed, closes⟩
  · rw [computed]
    apply pristine.advance rfl (untouched handled.closes)
    · rintro runtime ⟨⟩
    · intro other runtime lands calls
      have mounted := handled.calls runtime calls
      rw [counted.runtimes] at mounted
      exact (accounted.opening other runtime lands).2 tool.ns mounted
    · exact .inl rfl
  · rw [computed]
    apply pristine.advance rfl (untouched handled.closes)
    · rintro runtime ⟨⟩
    · rintro other runtime lands ⟨⟩
    · exact .inl rfl
  · rw [computed]
    apply pristine.advance rfl (untouched closes)
    · rintro runtime ⟨⟩
    · rintro other runtime lands ⟨⟩
    · exact .inl rfl

theorem pristine_turn (sane : machine.Sane)
    (serialized : machine.Serialized) (committed : machine.Committed)
    (accounted : machine.Accounted []) (pristine : machine.Pristine)
    {action : Action} (turn : machine.Turn action after) :
    after.Pristine := by
  cases turn with
  | @aside mover next moves tasks awake world elsewhere =>
      apply pristine.advance tasks
      · intro other runtime _ lands
        have before := pristine.unshut other runtime lands
        unfold World.Shut at before ⊢
        rwa [world.objects]
      · intro runtime lands
        rw [landing_of_awake awake] at lands
        cases lands
      · intro other runtime _
        simp [called_of_awake awake]
      · exact .inr (called_of_awake awake)
  | visiting stretch proceeds visits =>
      subst proceeds
      exact pristine_proceed sane serialized committed pristine stretch
  | calling stretch proceeds elsewhere =>
      subst proceeds
      exact pristine_proceedCall accounted pristine stretch
  | dying died elsewhere =>
      subst died
      refine ⟨?_, pristine.uncalled⟩
      intro other runtime lands shut
      exact pristine.unshut other runtime lands (shut_markDone_iff.mp shut)

theorem accounted_nil_step (sane : machine.Sane)
    (accounted : machine.Accounted []) {action : Action}
    (taken : step machine action = some after) : after.Accounted [] where
  issued := by simp
  unmounted := by simp
  opening other runtime lands :=
    ⟨by simp,
      ((accounted_step sane accounted taken).opening other runtime lands).2⟩
  distinct := (accounted_step sane accounted taken).distinct

end Steps

end Machine

end ToolboxMcp
