import ToolboxMcp.Mounted
import ToolboxMcp.Service.Mirroring

/-!
# Mounted runtimes and cached snapshots in runs

In a serialized run whose store works, an active namespace has a cached
snapshot.  If every replaced runtime closes as it should, the snapshot is the
one of the mounted runtime unless an opening is just swapping it in.
-/

namespace ToolboxMcp

open Effect

theorem Aside.thins {before after : World} (aside : Aside before after)
    (ns : Namespace) : Thins ns before after where
  mounted runtime found := by
    rw [aside.runtimes] at found
    exact ⟨found, by rw [aside.objects]⟩
  snapshot := aside.snapshots ns
  previous := aside.previousSnapshots ns
  scopes record found := by
    rw [aside.records] at found
    exact ⟨record, found, rfl⟩

/-- The stage has mounted a runtime whose snapshot it has not stored yet. -/
def Stage.swaps : Stage → Bool
  | .swapping .. => true
  | _ => false

namespace Machine

section Runs

variable [Platform]

/-- Some task is swapping a runtime of the namespace in. -/
def Swapping (machine : Machine) (ns : Namespace) : Prop :=
  ∃ task lock operation rest entries stage,
    machine.tasks task =
        some (.suspended ns lock operation rest entries stage) ∧
      stage.swaps = true

/-- The reply ends the closing of a replaced runtime in an exception. -/
def interrupts (machine : Machine) : Action → Bool
  | .reply task reply =>
      match machine.tasks task with
      | some (.suspended _ _ _ _ _ stage) => stage.interrupted reply
      | _ => false
  | _ => false

/-- No namespace is registered while tasks are stranded on it, and every
replaced runtime closes. -/
def Undisturbed (machine : Machine) : Option Action → Prop
  | some action =>
      machine.StrandsNobody action ∧ machine.interrupts action = false
  | none => True

instance (machine : Machine) :
    (action : Option Action) → Decidable (machine.Undisturbed action)
  | none => inferInstanceAs (Decidable True)
  | some _ => inferInstanceAs (Decidable (_ ∧ _))

/-- No namespace is registered while tasks are stranded on it. -/
def Unstranded (machine : Machine) : Option Action → Prop
  | some action => machine.StrandsNobody action
  | none => True

instance (machine : Machine) :
    (action : Option Action) → Decidable (machine.Unstranded action)
  | none => inferInstanceAs (Decidable True)
  | some action => inferInstanceAs (Decidable (machine.StrandsNobody action))

/-- What holds in every serialized run. -/
structure Serial (machine : Machine) : Prop where
  sane : machine.Sane
  serialized : machine.Serialized
  coupled : machine.Coupled
  reliable : machine.world.Reliable
  distinct : machine.world.document.Distinct

structure Mirrored (intact : Prop) (machine : Machine) : Prop where
  faithful :
    ∀ ns, ¬ machine.Swapping ns → machine.world.Faithful intact ns
  stages :
    ∀ task ns lock operation rest entries stage,
      machine.tasks task =
          some (.suspended ns lock operation rest entries stage) →
        stage.Faithful intact machine.world ns

variable {intact : Prop} {machine after : Machine}

theorem Serial.step (serial : machine.Serial) {action : Action}
    (strands : machine.StrandsNobody action)
    (taken : Machine.step machine action = some after) : after.Serial := by
  have turn := turn_of_step taken
  have store := store_of_turn serial.sane turn
  exact {
    sane := sane_step serial.sane taken
    serialized := serialized_step serial.sane serial.serialized strands taken
    coupled :=
      coupled_turn serial.sane serial.serialized serial.coupled
        serial.reliable turn
    reliable := store.1 serial.reliable
    distinct := store.2 serial.distinct }

omit [Platform] in
theorem serial_restart (reliable : machine.world.Reliable)
    (distinct : machine.world.document.Distinct) :
    machine.restart.Serial := by
  have orderly := orderly_restart reliable distinct
  exact {
    sane := orderly.sane
    serialized := orderly.serialized
    coupled := coupled_restart reliable distinct
    reliable := orderly.reliable
    distinct := orderly.distinct }

/-- A new process has nothing mounted and nothing active. -/
theorem mirrored_restart (reliable : machine.world.Reliable)
    (distinct : machine.world.document.Distinct) :
    machine.restart.Mirrored intact := by
  obtain ⟨transport, records⟩ := restart_spec reliable distinct
  constructor
  · intro ns _
    apply faithful_of_unmounted
    · rw [transport.runtimes]
      rfl
    · intro record found loaded
      rw [records] at found
      obtain ⟨earlier, _, rfl⟩ := Option.map_eq_some_iff.mp found
      exact absurd rfl loaded
  · intro task ns lock operation rest entries stage found
    cases found

/-- One task has moved on without suspending in a block. -/
theorem Mirrored.advance (mirrored : machine.Mirrored intact) {task : TaskId}
    {next : Task}
    (tasks : after.tasks = Function.update machine.tasks task (some next))
    (thins : ∀ ns, Thins ns machine.world after.world)
    (before : ∀ ns lock operation rest entries stage,
      machine.tasks task ≠
        some (.suspended ns lock operation rest entries stage))
    (awake : ∀ ns lock operation rest entries stage,
      next ≠ .suspended ns lock operation rest entries stage) :
    after.Mirrored intact where
  faithful ns still := by
    apply (thins ns).faithful
    apply mirrored.faithful ns
    rintro ⟨other, lock, operation, rest, entries, stage, found, swaps⟩
    apply still
    refine ⟨other, lock, operation, rest, entries, stage, ?_, swaps⟩
    have different : other ≠ task := by
      rintro rfl
      exact before _ _ _ _ _ _ found
    rw [tasks, Function.update_of_ne different]
    exact found
  stages := by
    intro other ns lock operation rest entries stage found
    rw [tasks] at found
    by_cases same : other = task
    · subst same
      rw [Function.update_self] at found
      exact absurd (Option.some.inj found) (awake _ _ _ _ _ _)
    · rw [Function.update_of_ne same] at found
      exact (thins ns).stage (mirrored.stages other _ _ _ _ _ _ found)

theorem Stage.Faithful.world {world : World} {ns : Namespace} {stage : Stage}
    (faithful : stage.Faithful intact world ns)
    (still : stage.swaps = false) : world.Faithful intact ns := by
  cases stage with
  | opening purpose record runtime =>
      exact faithful.1
  | swapping closing purpose record snapshot =>
      cases still
  | _ =>
      exact faithful

/-- A stretch leaves the namespace as faithful as it ends. -/
theorem visit_faithful (serial : machine.Serial)
    (mirrored : machine.Mirrored intact) {action : Action} {visit : Visit}
    (visits : machine.visit action = some visit)
    (clean : intact → machine.interrupts action = false) :
    wp visit.program
      (fun progress after => progress.Faithful intact after visit.ns)
      (fun _ after => after.Faithful intact visit.ns) machine.world := by
  unfold Machine.visit at visits
  cases action with
  | enter task =>
      simp only at visits
      split at visits
      · rename_i ns lock operation rest entries found
        cases visits
        have inside : machine.Inside ns task :=
          inside_iff.mpr ⟨_, found, rfl⟩
        apply start_faithful serial.reliable serial.sane.housed
          (serial.coupled.active ns)
        apply mirrored.faithful
        rintro ⟨other, _, _, _, _, stage, suspended, _⟩
        have also : machine.Inside ns other :=
          inside_iff.mpr ⟨_, suspended, rfl⟩
        have same := serial.serialized.exclusive serial.sane inside also
        rw [← same, found] at suspended
        cases suspended
      · cases visits
  | reply task reply =>
      simp only at visits
      split at visits
      · rename_i ns lock operation rest entries stage found
        cases visits
        apply resume_faithful serial.reliable
          (serial.sane.proper task _ found)
          (serial.coupled.tracks task _ _ _ _ _ _ found)
          (mirrored.stages task _ _ _ _ _ _ found)
        simpa [interrupts, found] using clean
      · cases visits
  | _ =>
      cases visits

section Stretches

variable {task : TaskId} {ns : Namespace} {lock : LockId}
  {operation : Operation} {rest : List Namespace} {entries : List Entry}
  {program : ServiceM Progress} {action : Action}

/-- The end of a stretch of a block, whose task excludes all others from the
namespace. -/
theorem mirrored_proceed (serial : machine.Serial)
    (mirrored : machine.Mirrored intact)
    (stretch : machine.Stretch task ns lock operation rest entries program)
    (visits : machine.visit action = some ⟨ns, operation, program⟩)
    (clean : intact → machine.interrupts action = false) :
    (machine.proceed task ns lock operation rest entries
      (outcome program machine.world)).Mirrored intact := by
  have advanced : ∀ {next : Task} {world : World} {moved : Machine},
      moved.tasks = Function.update machine.tasks task (some next) →
      moved.world = world → Sound ns machine.world world →
      (¬ moved.Swapping ns → world.Faithful intact ns) →
      (∀ home held asked later earlier stage,
        next = .suspended home held asked later earlier stage →
          home = ns ∧ stage.Faithful intact world ns) →
      moved.Mirrored intact := by
    rintro next world moved tasks rfl sound faithful suspends
    have others : ∀ {home : Namespace}, home ≠ ns →
        Thins home machine.world moved.world :=
      fun different => sound.toConfined.thins serial.sane.housed different
    constructor
    · intro home still
      by_cases same : home = ns
      · subst same
        exact faithful still
      · apply (others same).faithful
        apply mirrored.faithful
        rintro ⟨other, held, asked, later, earlier, stage, found, swaps⟩
        apply still
        refine ⟨other, held, asked, later, earlier, stage, ?_, swaps⟩
        have different : other ≠ task := by
          rintro rfl
          cases stretch with
          | first entered turn =>
              cases entered.symm.trans found
          | later reply suspended free =>
              cases suspended.symm.trans found
              exact same rfl
        rw [tasks, Function.update_of_ne different]
        exact found
    · intro other home held asked later earlier stage found
      rw [tasks] at found
      by_cases same : other = task
      · subst same
        rw [Function.update_self] at found
        obtain ⟨rfl, kept⟩ := suspends _ _ _ _ _ _ (Option.some.inj found)
        exact kept
      · rw [Function.update_of_ne same] at found
        have different :=
          stretch.elsewhere serial.sane serial.serialized same found
        exact (others different).stage
          (mirrored.stages other _ _ _ _ _ _ found)
  have both := wp_and (stretch.sound serial.sane)
    (visit_faithful serial mirrored visits clean)
  rcases wp_cases both with
    ⟨stage | more, world, computed, ⟨sound, _⟩, kept⟩ |
      ⟨raised, world, computed, sound, kept⟩
  · rw [computed]
    refine advanced rfl rfl sound ?_ ?_
    · intro still
      apply Stage.Faithful.world kept
      rw [← Bool.not_eq_true]
      intro swaps
      apply still
      exact ⟨task, lock, operation, rest, entries, stage,
        Function.update_self _ _ _, swaps⟩
    · rintro _ _ _ _ _ _ ⟨⟩
      exact ⟨rfl, kept⟩
  · rw [computed]
    refine advanced rfl rfl sound (fun _ => kept.1) ?_
    intro _ _ _ _ _ _ same
    cases rest <;> cases same
  · rw [computed]
    refine advanced rfl rfl sound (fun _ => kept) ?_
    rintro _ _ _ _ _ _ ⟨⟩

end Stretches

omit [Platform] in
theorem CallStretch.thins {task : TaskId} {tool : MountedTool}
    {world : World} {program : ServiceM CallProgress}
    (serial : machine.Serial)
    (stretch : machine.CallStretch task tool world program)
    (ns : Namespace) :
    wp program (fun _ after => Thins ns machine.world after)
      (fun _ after => Thins ns machine.world after) world := by
  have counted := stretch.aside
  have reliable := counted.reliable serial.reliable
  have housed := counted.housed serial.sane.housed
  by_cases same : ns = tool.ns
  · subst same
    have later :
        wp program (fun _ after => Thins tool.ns world after)
          (fun _ after => Thins tool.ns world after) world := by
      cases stretch with
      | first found turn resolved =>
          exact dispatchCall_thins reliable
      | later reply found free =>
          exact resumeCall_thins reliable _ reply
    apply wp_mono later
    · exact fun _ _ thins => (counted.thins tool.ns).trans thins
    · exact fun _ _ thins => (counted.thins tool.ns).trans thins
  · apply wp_mono (stretch.sound serial.sane)
    · exact fun _ _ both =>
        (counted.thins ns).trans (both.1.toConfined.thins housed same)
    · exact fun _ _ sound =>
        (counted.thins ns).trans (sound.toConfined.thins housed same)

theorem mirrored_turn (serial : machine.Serial)
    (mirrored : machine.Mirrored intact) {action : Action}
    (clean : intact → machine.interrupts action = false)
    (turn : machine.Turn action after) : after.Mirrored intact := by
  cases turn with
  | @aside task next moves tasks awake world elsewhere =>
      refine mirrored.advance tasks (fun ns => world.thins ns) ?_ ?_
      · intro _ _ _ _ _ _ found
        rcases moves with ⟨_, rfl⟩ | approaching
        · rw [serial.sane.fresh _ le_rfl] at found
          cases found
        · rw [found] at approaching
          cases approaching
      · rintro _ _ _ _ _ _ rfl
        cases awake
  | visiting stretch proceeds visits =>
      subst proceeds
      exact mirrored_proceed serial mirrored stretch visits clean
  | @calling task tool world program locks stretch proceeds elsewhere =>
      subst proceeds
      have before : ∀ ns lock operation rest entries stage,
          machine.tasks task ≠
            some (.suspended ns lock operation rest entries stage) := by
        intro _ _ _ _ _ _ suspended
        cases stretch with
        | first found turn resolved =>
            cases found.symm.trans suspended
        | later reply found free =>
            cases found.symm.trans suspended
      have thins := fun ns => final_of_wp (stretch.thins serial ns)
      rcases computed : outcome program world with
        ⟨raised | stage | result, final⟩
      · rw [computed] at thins
        exact mirrored.advance rfl thins before (by simp [concluding])
      · rw [computed] at thins
        exact mirrored.advance rfl thins before (by simp)
      · rw [computed] at thins
        exact mirrored.advance rfl thins before (by simp [concluding])
  | @dying runtime died elsewhere =>
      subst died
      have thins : ∀ ns, Thins ns machine.world
          (machine.world.markDone runtime) :=
        fun _ => thins_markDone runtime
      constructor
      · exact fun ns still => (thins ns).faithful (mirrored.faithful ns still)
      · exact fun task ns lock operation rest entries stage found =>
          (thins ns).stage (mirrored.stages task _ _ _ _ _ _ found)

theorem mirrored_of_lives {allowed : Machine → Option Action → Prop}
    (strands : ∀ before action, allowed before (some action) →
      before.StrandsNobody action)
    (clean : ∀ before action, allowed before (some action) → intact →
      before.interrupts action = false)
    (reliable : machine.world.Reliable)
    (distinct : machine.world.document.Distinct)
    (reaches : Reaches lifeStep allowed machine.restart after) :
    after.Serial ∧ after.Mirrored intact := by
  apply reaches.invariant
    ⟨serial_restart reliable distinct, mirrored_restart reliable distinct⟩
  rintro before action next ⟨serial, mirrored⟩ meets taken
  cases action with
  | none =>
      cases taken
      exact ⟨serial_restart serial.reliable serial.distinct,
        mirrored_restart serial.reliable serial.distinct⟩
  | some action =>
      exact ⟨serial.step (strands before action meets) taken,
        mirrored_turn serial mirrored (clean before action meets)
          (turn_of_step taken)⟩

end Runs

end Machine

end ToolboxMcp
