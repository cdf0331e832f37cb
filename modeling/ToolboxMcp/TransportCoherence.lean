import ToolboxMcp.Mounted
import ToolboxMcp.Openings
import ToolboxMcp.Service.Reporting

/-!
# The reported transport state

A task that is inside a block, or in the handler of a failed call, may owe the
records a last write.  In every life of a host whose steps spoil nothing, the
records agree with the runtimes up to what the tasks in progress owe; with no
task in progress they agree.
-/

namespace ToolboxMcp

open Effect

/-! ## What tasks owe -/

def Task.announcing (ns : Namespace) : Task → Bool
  | .suspended home _ _ _ _ stage => home = ns && stage.announcing
  | _ => false

def Task.exchanging (ns : Namespace) : Task → Bool
  | .suspended home _ _ _ _ stage => home = ns && stage.exchanging
  | _ => false

def Task.attending (ns : Namespace) : Task → Bool
  | .suspended home _ _ _ _ stage => home = ns && stage.attending
  | .calling tool stage => tool.ns = ns && stage.attending
  | _ => false

/-- A task that is inside a block, or in the handler of a failed call. -/
def Task.busy : Task → Bool
  | .suspended .. => true
  | .calling _ stage => stage.attending
  | _ => false

theorem Task.owes_nothing {task : Task} (awake : task.atAwait = false)
    (ns : Namespace) :
    task.announcing ns = false ∧ task.exchanging ns = false ∧
      task.attending ns = false := by
  cases task with
  | suspended home lock operation rest entries stage =>
      cases awake
  | calling tool stage =>
      cases awake
  | _ =>
      exact ⟨rfl, rfl, rfl⟩

theorem Task.awake_of_approaching {task : Task}
    (approaching : task.approaching = true) : task.atAwait = false := by
  cases task with
  | suspended home lock operation rest entries stage =>
      cases approaching
  | calling tool stage =>
      cases approaching
  | _ =>
      rfl

/-- Every runtime the service has not closed is running. -/
def World.noticed (world : World) : Bool :=
  world.runtimes.all fun entry =>
    (world.objects entry.2).closed || world.isRunning entry.2

/-- A runtime that no death went unnoticed of is running unless it was given
up. -/
theorem World.connected_of_noticed {world : World} {ns : Namespace}
    (noticed : world.noticed = true) (attached : world.detached ns = false) :
    world.hasConnection ns = true := by
  obtain ⟨runtime, mounted, unshut⟩ := detached_eq_false.mp attached
  have member := Dict.mem_of_get mounted
  have known := List.all_eq_true.mp noticed _ member
  rcases (Bool.or_eq_true _ _).mp known with closed | running
  · exact absurd closed unshut
  · exact World.hasConnection_iff.mpr ⟨runtime, mounted, running⟩

section Frames

variable {ns home : Namespace} {before after : World}
  {announcing exchanging attended : Prop}

/-- The record and the runtime of the namespace are as before. -/
theorem World.Steady.same
    (steady : before.Steady ns announcing exchanging attended)
    (record : after.document.getToolset ns = before.document.getToolset ns)
    (mounted : after.runtimes.get ns = before.runtimes.get ns)
    (objects : ∀ runtime, before.runtimes.get ns = some runtime →
      after.objects runtime = before.objects runtime) :
    after.Steady ns announcing exchanging attended := by
  have connection : after.hasConnection ns = before.hasConnection ns := by
    unfold World.hasConnection World.mounted World.isRunning
    rw [mounted]
    cases found : before.runtimes.get ns with
    | none =>
        rfl
    | some runtime =>
        simp only [Option.any_some]
        rw [objects runtime found]
  have detached : after.detached ns = before.detached ns := by
    unfold World.detached World.mounted
    rw [mounted]
    cases found : before.runtimes.get ns with
    | none =>
        rfl
    | some runtime =>
        simp only [Option.all_some]
        rw [objects runtime found]
  apply steady.kept record
  · rw [connection]
    exact id
  · intro nobody
    have attached := steady.attached nobody
    unfold World.adrift at attached ⊢
    rwa [reports_congr record, detached]

theorem Aside.steady (aside : Aside before after)
    (steady : before.Steady ns announcing exchanging attended) :
    after.Steady ns announcing exchanging attended :=
  steady.same (aside.records ns) (by rw [aside.runtimes])
    fun runtime _ => by rw [aside.objects]

theorem Confined.steady (confined : Confined home before after)
    (housed : before.Housed) (different : ns ≠ home)
    (steady : before.Steady ns announcing exchanging attended) :
    after.Steady ns announcing exchanging attended := by
  apply steady.same (confined.records ns different)
    (confined.runtimes ns different)
  intro runtime mounted
  obtain ⟨issued, owner⟩ := housed ns runtime mounted
  exact confined.foreign runtime issued (by rwa [owner])

theorem steady_markDone (runtime : RuntimeId)
    (steady : before.Steady ns announcing exchanging attended) :
    (before.markDone runtime).Steady ns announcing exchanging attended where
  candid := steady.candid
  failsIdle nobody :=
    World.FailsIdle.markDone (steady.failsIdle nobody) runtime
  attached nobody := by
    rw [adrift_markDone]
    exact steady.attached nobody

end Frames

namespace Machine

def owes (machine : Machine) (duty : Task → Bool) : Prop :=
  ∃ task, (machine.tasks task).any duty = true

def owesElsewhere (machine : Machine) (task : TaskId) (duty : Task → Bool) :
    Bool :=
  (List.range machine.nextTask).any fun other =>
    other ≠ task && (machine.tasks other).any duty

/-- Records and runtimes agree up to what the tasks owe. -/
def Agrees (machine : Machine) : Prop :=
  ∀ ns,
    machine.world.Steady ns (machine.owes (Task.announcing ns))
      (machine.owes (Task.exchanging ns)) (machine.owes (Task.attending ns))

section Duties

variable {machine after : Machine} {task : TaskId} {duty : Task → Bool}

theorem owesElsewhere_iff (sane : machine.Sane) :
    machine.owesElsewhere task duty = true ↔
      ∃ other, other ≠ task ∧ (machine.tasks other).any duty = true := by
  unfold owesElsewhere
  rw [List.any_eq_true]
  constructor
  · rintro ⟨other, _, both⟩
    obtain ⟨different, owing⟩ := (Bool.and_eq_true _ _).mp both
    exact ⟨other, of_decide_eq_true different, owing⟩
  · intro found
    obtain ⟨other, different, owing⟩ := found
    have issued : other < machine.nextTask := by
      by_contra fresh
      rw [sane.fresh other (Nat.not_lt.mp fresh)] at owing
      cases owing
    refine ⟨other, List.mem_range.mpr issued, ?_⟩
    rw [owing, Bool.and_true]
    exact decide_eq_true different

theorem owes_cases (sane : machine.Sane) (owing : machine.owes duty) :
    (machine.tasks task).any duty = true ∨
      machine.owesElsewhere task duty = true := by
  obtain ⟨other, owing⟩ := owing
  by_cases same : other = task
  · rw [same] at owing
    exact .inl owing
  · exact .inr ((owesElsewhere_iff sane).mpr ⟨other, same, owing⟩)

/-- One task has moved on to `next`. -/
theorem owes_of_update (sane : machine.Sane) {next : Task}
    (tasks : after.tasks = Function.update machine.tasks task (some next))
    (owing : duty next = true ∨ machine.owesElsewhere task duty = true) :
    after.owes duty := by
  rcases owing with own | elsewhere
  · refine ⟨task, ?_⟩
    rw [tasks, Function.update_self]
    exact own
  · obtain ⟨other, different, owing⟩ :=
      (owesElsewhere_iff sane).mp elsewhere
    refine ⟨other, ?_⟩
    rw [tasks, Function.update_of_ne different]
    exact owing

/-- The agreement after a move, given namespace by namespace. -/
theorem agrees_of_update (sane : machine.Sane) {next : Task}
    (tasks : after.tasks = Function.update machine.tasks task (some next))
    (steady : ∀ ns,
      after.world.Steady ns
        (next.announcing ns = true ∨
          machine.owesElsewhere task (Task.announcing ns) = true)
        (next.exchanging ns = true ∨
          machine.owesElsewhere task (Task.exchanging ns) = true)
        (next.attending ns = true ∨
          machine.owesElsewhere task (Task.attending ns) = true)) :
    after.Agrees := by
  intro ns
  exact (steady ns).mono (owes_of_update sane tasks)
    (owes_of_update sane tasks) (owes_of_update sane tasks)

/-- What is owed to a namespace the task owes nothing. -/
theorem Agrees.elsewhere (agrees : machine.Agrees) (sane : machine.Sane)
    {ns : Namespace}
    (free : ∀ current, machine.tasks task = some current →
      current.announcing ns = false ∧ current.exchanging ns = false ∧
        current.attending ns = false) :
    machine.world.Steady ns
      (machine.owesElsewhere task (Task.announcing ns) = true)
      (machine.owesElsewhere task (Task.exchanging ns) = true)
      (machine.owesElsewhere task (Task.attending ns) = true) := by
  have elsewhere : ∀ {duty : Task → Bool},
      (∀ current, machine.tasks task = some current →
        duty current = false) →
      machine.owes duty → machine.owesElsewhere task duty = true := by
    intro duty silent owing
    rcases owes_cases sane owing with own | elsewhere
    · obtain ⟨current, found, own⟩ := (Option.any_eq_true _ _).mp own
      rw [silent current found] at own
      cases own
    · exact elsewhere
  apply (agrees ns).mono
  · exact elsewhere fun current found => (free current found).1
  · exact elsewhere fun current found => (free current found).2.1
  · exact elsewhere fun current found => (free current found).2.2

end Duties

/-! ## Steps -/

section Steps

variable [Platform] {machine after : Machine}

/-- The step ends a body or a handler that leaves the record in disagreement
with the runtime, and nobody else will write the record. -/
def spoils (machine : Machine) : Action → Bool
  | .reply task reply =>
      match machine.tasks task with
      | some (.suspended ns _ _ _ _ stage) =>
          stage.spoils ns machine.world
            (machine.owesElsewhere task (Task.attending ns)) reply
      | _ => false
  | .callReply task reply =>
      match machine.tasks task with
      | some (.calling tool stage) =>
          stage.spoils tool.ns machine.world
            (machine.owesElsewhere task (Task.attending tool.ns)) reply
      | _ => false
  | _ => false

theorem Agrees.moves (agrees : machine.Agrees) (sane : machine.Sane)
    {action : Action} {task : TaskId} {next : Task}
    (moves : machine.Moves action after task next) : after.Agrees := by
  have free : ∀ ns current, machine.tasks task = some current →
      current.announcing ns = false ∧ current.exchanging ns = false ∧
        current.attending ns = false := by
    intro ns current found
    apply Task.owes_nothing
    rcases moves.moves with ⟨_, fresh⟩ | approaching
    · rw [sane.fresh task fresh.ge] at found
      cases found
    · rw [found] at approaching
      exact Task.awake_of_approaching approaching
  apply agrees_of_update sane moves.tasks
  intro ns
  have before := agrees.elsewhere sane (free ns)
  exact (moves.world.steady before).mono .inr .inr .inr

omit [Platform] in
theorem Agrees.dies (agrees : machine.Agrees) (runtime : RuntimeId) :
    Agrees { machine with world := machine.world.markDone runtime } :=
  fun ns => steady_markDone runtime (agrees ns)

section Blocks

variable {task : TaskId} {home : Namespace} {lock : LockId}
  {operation : Operation} {rest : List Namespace} {entries : List Entry}
  {program : ServiceM Progress}

/-- In its own namespace a stretch answers for its own task and for the
handlers of calls. -/
theorem Stretch.alone (sane : machine.Sane)
    (serialized : machine.Serialized)
    (stretch : machine.Stretch task home lock operation rest entries program) :
    machine.owesElsewhere task (Task.announcing home) = false ∧
      machine.owesElsewhere task (Task.exchanging home) = false := by
  have nobody : ∀ {duty : Task → Bool},
      (∀ current, duty current = true →
        ∃ held asked later earlier stage,
          current = .suspended home held asked later earlier stage) →
      machine.owesElsewhere task duty = false := by
    intro duty suspended
    rw [← Bool.not_eq_true, owesElsewhere_iff sane]
    intro found
    obtain ⟨other, different, owing⟩ := found
    obtain ⟨current, found, owing⟩ := (Option.any_eq_true _ _).mp owing
    obtain ⟨held, asked, later, earlier, stage, same⟩ :=
      suspended current owing
    rw [same] at found
    exact stretch.elsewhere sane serialized different found rfl
  constructor
  · apply nobody
    intro current owing
    cases current with
    | suspended elsewhere held asked later earlier stage =>
        have same := of_decide_eq_true ((Bool.and_eq_true _ _).mp owing).1
        subst same
        exact ⟨held, asked, later, earlier, stage, rfl⟩
    | _ =>
        cases owing
  · apply nobody
    intro current owing
    cases current with
    | suspended elsewhere held asked later earlier stage =>
        have same := of_decide_eq_true ((Bool.and_eq_true _ _).mp owing).1
        subst same
        exact ⟨held, asked, later, earlier, stage, rfl⟩
    | _ =>
        cases owing

/-- A task in a block owes nothing to other namespaces. -/
theorem Stretch.owes_home {ns : Namespace}
    (stretch : machine.Stretch task home lock operation rest entries program)
    (different : ns ≠ home) {current : Task}
    (found : machine.tasks task = some current) :
    current.announcing ns = false ∧ current.exchanging ns = false ∧
      current.attending ns = false := by
  cases stretch with
  | first entered turn =>
      cases entered.symm.trans found
      exact Task.owes_nothing rfl ns
  | later reply suspended free =>
      cases suspended.symm.trans found
      have elsewhere : decide (home = ns) = false :=
        decide_eq_false different.symm
      simp [Task.announcing, Task.exchanging, Task.attending, elsewhere]

/-- The end of a stretch that has left its own namespace in order. -/
theorem agrees_proceed (agrees : machine.Agrees) (sane : machine.Sane)
    (stretch : machine.Stretch task home lock operation rest entries program)
    (steady :
      wp program
        (fun progress after =>
          progress.Steady home
            (machine.owesElsewhere task (Task.attending home) = true) after)
        (fun _ after =>
          after.Steady home False False
            (machine.owesElsewhere task (Task.attending home) = true))
        machine.world) :
    (machine.proceed task home lock operation rest entries
      (outcome program machine.world)).Agrees := by
  have others : ∀ {ns : Namespace} {world : World},
      Sound home machine.world world → ns ≠ home →
      world.Steady ns
        (machine.owesElsewhere task (Task.announcing ns) = true)
        (machine.owesElsewhere task (Task.exchanging ns) = true)
        (machine.owesElsewhere task (Task.attending ns) = true) := by
    intro ns world sound different
    apply sound.toConfined.steady sane.housed different
    apply agrees.elsewhere sane
    intro current found
    exact stretch.owes_home different found
  rcases wp_cases (wp_and (stretch.sound sane) steady) with
    ⟨stage | more, world, computed, ⟨sound, _⟩, kept⟩ |
      ⟨raised, world, computed, sound, kept⟩
  · rw [computed]
    apply agrees_of_update sane rfl
    intro ns
    by_cases same : ns = home
    · subst same
      have kept : world.Steady ns (stage.announcing = true)
          (stage.exchanging = true)
          (machine.owesElsewhere task (Task.attending ns) = true ∨
            stage.attending = true) := kept
      apply kept.mono
      · exact fun announcing => .inl (by simp [Task.announcing, announcing])
      · exact fun exchanging => .inl (by simp [Task.exchanging, exchanging])
      · intro attending
        rcases attending with elsewhere | own
        · exact .inr elsewhere
        · exact .inl (by simp [Task.attending, own])
    · exact (others sound same).mono .inr .inr .inr
  · rw [computed]
    apply agrees_of_update sane rfl
    intro ns
    by_cases same : ns = home
    · subst same
      have kept : world.Steady ns False False
          (machine.owesElsewhere task (Task.attending ns) = true) := kept
      exact kept.mono False.elim False.elim .inr
    · exact (others sound same).mono .inr .inr .inr
  · rw [computed]
    apply agrees_of_update sane rfl
    intro ns
    by_cases same : ns = home
    · subst same
      exact kept.mono False.elim False.elim .inr
    · exact (others sound same).mono .inr .inr .inr

/-- What the agreement gives a stretch to start from. -/
theorem Agrees.before (agrees : machine.Agrees) (sane : machine.Sane)
    (serialized : machine.Serialized)
    (stretch : machine.Stretch task home lock operation rest entries program)
    {current : Task} (found : machine.tasks task = some current) :
    machine.world.Steady home (current.announcing home = true)
      (current.exchanging home = true)
      (machine.owesElsewhere task (Task.attending home) = true ∨
        current.attending home = true) := by
  obtain ⟨silent, still⟩ := stretch.alone sane serialized
  have own : ∀ {duty : Task → Bool},
      machine.owes duty →
        duty current = true ∨ machine.owesElsewhere task duty = true := by
    intro duty owing
    rcases owes_cases sane owing with own | elsewhere
    · rw [found] at own
      exact .inl own
    · exact .inr elsewhere
  apply (agrees home).mono
  · intro owing
    rcases own owing with own | elsewhere
    · exact own
    · rw [silent] at elsewhere
      cases elsewhere
  · intro owing
    rcases own owing with own | elsewhere
    · exact own
    · rw [still] at elsewhere
      cases elsewhere
  · exact fun owing => (own owing).symm

theorem agrees_enter (agrees : machine.Agrees) (sane : machine.Sane)
    (serialized : machine.Serialized) (reliable : machine.world.Reliable)
    (entered :
      machine.tasks task =
        some (.entered home lock (.operation operation rest entries)))
    (turn : machine.current = some task) :
    (machine.enter task home lock (.operation operation rest entries)).Agrees := by
  have stretch : machine.Stretch task home lock operation rest entries
      (start operation home) := .first entered turn
  have steady := agrees.before sane serialized stretch entered
  apply agrees_proceed agrees sane stretch
  apply start_steady reliable sane.housed
  apply steady.mono
  · exact fun announcing => absurd announcing Bool.false_ne_true
  · exact fun exchanging => absurd exchanging Bool.false_ne_true
  · intro attending
    exact attending.resolve_right Bool.false_ne_true

theorem agrees_reply (agrees : machine.Agrees) (sane : machine.Sane)
    (serialized : machine.Serialized) (reliable : machine.world.Reliable)
    (coupled : machine.Coupled) (pristine : machine.Pristine) {stage : Stage}
    {reply : Reply}
    (suspended :
      machine.tasks task =
        some (.suspended home lock operation rest entries stage))
    (free : machine.current = none)
    (clean : machine.spoils (.reply task reply) = false) :
    (machine.proceed task home lock operation rest entries
      (outcome (resume home stage reply) machine.world)).Agrees := by
  have stretch : machine.Stretch task home lock operation rest entries
      (resume home stage reply) := .later reply suspended free
  have steady := agrees.before sane serialized stretch suspended
  have landing : machine.landing task = stage.landing := by
    simp [landing, suspended, Task.landing]
  apply agrees_proceed agrees sane stretch
  apply resume_steady reliable
  · exact sane.proper task _ suspended
  · exact coupled.tracks task _ _ _ _ _ _ suspended
  · intro runtime lands
    exact pristine.unshut task runtime (landing.trans lands)
  · simpa [Task.announcing, Task.exchanging, Task.attending] using steady
  · simpa [spoils, suspended] using clean

end Blocks

section Calls

variable {task : TaskId} {tool : MountedTool} {world : World}
  {program : ServiceM CallProgress} {locks : LockId → Mutex TaskId}

omit [Platform] in
/-- A started call owes its last write to the namespace it was mounted in. -/
theorem CallStretch.owes_home
    (stretch : machine.CallStretch task tool world program) {ns : Namespace}
    (different : ns ≠ tool.ns) {current : Task}
    (found : machine.tasks task = some current) :
    current.announcing ns = false ∧ current.exchanging ns = false ∧
      current.attending ns = false := by
  cases stretch with
  | first entered turn resolved =>
      cases entered.symm.trans found
      exact Task.owes_nothing rfl ns
  | later reply calling free =>
      cases calling.symm.trans found
      have elsewhere : decide (tool.ns = ns) = false :=
        decide_eq_false different.symm
      simp [Task.announcing, Task.exchanging, Task.attending, elsewhere]

omit [Platform] in
/-- The end of a stretch of a call that has left its own namespace in order. -/
theorem agrees_proceedCall (agrees : machine.Agrees) (sane : machine.Sane)
    (stretch : machine.CallStretch task tool world program)
    (steady :
      wp program
        (fun progress after =>
          after.Steady tool.ns
            (machine.owesElsewhere task (Task.announcing tool.ns) = true)
            (machine.owesElsewhere task (Task.exchanging tool.ns) = true)
            (machine.owesElsewhere task (Task.attending tool.ns) = true ∨
              progress.attending = true))
        (fun _ after =>
          after.Steady tool.ns
            (machine.owesElsewhere task (Task.announcing tool.ns) = true)
            (machine.owesElsewhere task (Task.exchanging tool.ns) = true)
            (machine.owesElsewhere task (Task.attending tool.ns) = true))
        world) :
    (proceedCall { machine with locks := locks } task tool
      (outcome program world)).Agrees := by
  have counted := stretch.aside
  have housed := counted.housed sane.housed
  have others : ∀ {ns : Namespace} {final : World},
      Sound tool.ns world final → ns ≠ tool.ns →
      final.Steady ns
        (machine.owesElsewhere task (Task.announcing ns) = true)
        (machine.owesElsewhere task (Task.exchanging ns) = true)
        (machine.owesElsewhere task (Task.attending ns) = true) := by
    intro ns final sound different
    apply sound.toConfined.steady housed different
    apply counted.steady
    apply agrees.elsewhere sane
    intro current found
    exact stretch.owes_home different found
  rcases wp_cases (wp_and (stretch.sound sane) steady) with
    ⟨stage | result, final, computed, ⟨sound, _⟩, kept⟩ |
      ⟨raised, final, computed, sound, kept⟩
  · rw [computed]
    apply agrees_of_update sane rfl
    intro ns
    by_cases same : ns = tool.ns
    · subst same
      apply kept.mono .inr .inr
      intro attending
      rcases attending with elsewhere | own
      · exact .inr elsewhere
      · have own : stage.attending = true := own
        exact .inl (by simp [Task.attending, own])
    · exact (others sound same).mono .inr .inr .inr
  · rw [computed]
    apply agrees_of_update sane rfl
    intro ns
    by_cases same : ns = tool.ns
    · subst same
      apply kept.mono .inr .inr
      exact fun attending =>
        .inr (attending.resolve_right Bool.false_ne_true)
    · exact (others sound same).mono .inr .inr .inr
  · rw [computed]
    apply agrees_of_update sane rfl
    intro ns
    by_cases same : ns = tool.ns
    · subst same
      exact kept.mono .inr .inr .inr
    · exact (others sound same).mono .inr .inr .inr

omit [Platform] in
theorem agrees_callStart (agrees : machine.Agrees) (sane : machine.Sane)
    (reliable : machine.world.Reliable) {home : Namespace} {lock : LockId}
    {mountedName : String}
    (entered :
      machine.tasks task = some (.entered home lock (.callStart mountedName)))
    (stretch :
      machine.CallStretch task tool (machine.world.noteCallStarted tool.ns)
        (dispatchCall tool)) :
    (proceedCall { machine with locks := locks } task tool
      (outcome (dispatchCall tool)
        (machine.world.noteCallStarted tool.ns))).Agrees := by
  apply agrees_proceedCall agrees sane stretch
  apply dispatchCall_steady (stretch.aside.reliable reliable)
  apply stretch.aside.steady
  apply agrees.elsewhere sane
  intro current found
  cases entered.symm.trans found
  exact Task.owes_nothing rfl tool.ns

theorem agrees_callReply (agrees : machine.Agrees) (sane : machine.Sane)
    (reliable : machine.world.Reliable) {stage : CallStage}
    {reply : Except Raised CallToolResult}
    (calling : machine.tasks task = some (.calling tool stage))
    (free : machine.current = none)
    (clean : machine.spoils (.callReply task reply) = false) :
    (machine.proceedCall task tool
      (outcome (resumeCall tool stage reply) machine.world)).Agrees := by
  have stretch : machine.CallStretch task tool machine.world
      (resumeCall tool stage reply) := .later reply calling free
  have elsewhere : ∀ {duty : Task → Bool},
      duty (.calling tool stage) = false → machine.owes duty →
        machine.owesElsewhere task duty = true := by
    intro duty silent owing
    rcases owes_cases sane owing with own | elsewhere
    · rw [calling] at own
      rw [show duty (.calling tool stage) = true from own] at silent
      cases silent
    · exact elsewhere
  apply @agrees_proceedCall machine task tool machine.world _ machine.locks
    agrees sane stretch
  apply resumeCall_steady reliable
  · apply (agrees tool.ns).mono (elsewhere rfl) (elsewhere rfl)
    intro owing
    rcases owes_cases sane owing with own | elsewhere
    · rw [calling] at own
      right
      simpa [Task.attending] using own
    · exact .inl elsewhere
  · simpa [spoils, calling] using clean

end Calls

theorem agrees_step (agrees : machine.Agrees) (sane : machine.Sane)
    (serialized : machine.Serialized) (reliable : machine.world.Reliable)
    (coupled : machine.Coupled) (pristine : machine.Pristine)
    {action : Action} (clean : machine.spoils action = false)
    (taken : step machine action = some after) : after.Agrees := by
  cases action with
  | request request =>
      obtain ⟨_, rfl⟩ := step_request.mp taken
      obtain ⟨task, next, moves⟩ := moves_request request
      exact agrees.moves sane moves
  | call mountedName =>
      obtain ⟨_, rfl⟩ := step_call.mp taken
      obtain ⟨task, next, moves⟩ := moves_call mountedName
      exact agrees.moves sane moves
  | acquire task =>
      obtain ⟨ns, block, found, _, rfl⟩ := step_acquire.mp taken
      obtain ⟨next, moves⟩ := moves_acquire found
      exact agrees.moves sane moves
  | grant task =>
      obtain ⟨ns, lock, block, found, _, _, rfl⟩ := step_grant.mp taken
      exact agrees.moves sane (moves_grant found)
  | enter task =>
      obtain ⟨ns, lock, block, found, turn, rfl⟩ := step_enter.mp taken
      cases block with
      | operation operation rest entries =>
          exact agrees_enter agrees sane serialized reliable found turn
      | callStart mountedName =>
          rcases callStart_cases found turn with
            ⟨tool, locks, stretch, proceeds⟩ | ⟨next, moves⟩
          · rw [proceeds]
            exact agrees_callStart agrees sane reliable found stretch
          · exact agrees.moves sane moves
      | callFinish result =>
          exact agrees.moves sane (moves_callFinish found)
  | reply task reply =>
      obtain ⟨ns, lock, operation, rest, entries, stage, found, free, rfl⟩ :=
        step_reply.mp taken
      exact agrees_reply agrees sane serialized reliable coupled pristine
        found free clean
  | callReply task reply =>
      obtain ⟨tool, stage, found, free, rfl⟩ := step_callReply.mp taken
      exact agrees_callReply agrees sane reliable found free clean
  | cancelWaiting task =>
      obtain ⟨ns, lock, block, found, _, rfl⟩ := step_cancelWaiting.mp taken
      exact agrees.moves sane (moves_cancelWaiting found)
  | die runtime =>
      obtain ⟨_, rfl⟩ := step_die.mp taken
      exact agrees.dies runtime

end Steps

/-! ## Lives -/

/-- What a step has to find for the records to keep agreeing. -/
structure Faithful (machine : Machine) : Prop where
  sane : machine.Sane
  serialized : machine.Serialized
  reliable : machine.world.Reliable
  distinct : machine.world.document.Distinct
  committed : machine.Committed
  accounted : machine.Accounted []
  pristine : machine.Pristine
  coupled : machine.Coupled
  agrees : machine.Agrees

section Lives

variable [Platform] {machine after : Machine}

/-- The step strands no task and spoils no record. -/
def Pays (machine : Machine) : Option Action → Prop
  | some action =>
      machine.StrandsNobody action ∧ machine.spoils action = false
  | none => True

instance (machine : Machine) :
    (action : Option Action) → Decidable (machine.Pays action)
  | none => inferInstanceAs (Decidable True)
  | some _ => inferInstanceAs (Decidable (_ ∧ _))

theorem faithful_step (faithful : machine.Faithful) {action : Action}
    (pays : machine.Pays (some action))
    (taken : step machine action = some after) : after.Faithful := by
  have turn := turn_of_step taken
  have store := store_of_turn faithful.sane turn
  exact {
    sane := sane_step faithful.sane taken
    serialized :=
      serialized_step faithful.sane faithful.serialized pays.1 taken
    reliable := store.1 faithful.reliable
    distinct := store.2 faithful.distinct
    committed := committed_turn faithful.sane faithful.committed turn
    accounted := accounted_nil_step faithful.sane faithful.accounted taken
    pristine :=
      pristine_turn faithful.sane faithful.serialized faithful.committed
        faithful.accounted faithful.pristine turn
    coupled :=
      coupled_turn faithful.sane faithful.serialized faithful.coupled
        faithful.reliable turn
    agrees :=
      agrees_step faithful.agrees faithful.sane faithful.serialized
        faithful.reliable faithful.coupled faithful.pristine pays.2 taken }

omit [Platform] in
/-- A new process says inactive of every toolset, and nothing is mounted. -/
theorem agrees_restart (reliable : machine.world.Reliable)
    (distinct : machine.world.document.Distinct) :
    machine.restart.Agrees := by
  obtain ⟨_, records⟩ := restart_spec reliable distinct
  intro ns
  have inactive : ∀ record,
      machine.restart.world.document.getToolset ns = some record →
        record.transportState = .inactive ∧ record.loadedScopes = [] := by
    intro record found
    rw [records ns, Option.map_eq_some_iff] at found
    obtain ⟨stored, _, rfl⟩ := found
    exact ⟨rfl, rfl⟩
  constructor
  · intro _ record found
    obtain ⟨state, unloaded⟩ := inactive record found
    exact ⟨by simp [state], by simp [state], fun _ => unloaded⟩
  · intro _ record found failed
    rw [(inactive record found).1] at failed
    cases failed
  · intro _
    unfold World.adrift World.reports World.record
    rw [Bool.and_eq_false_iff]
    left
    cases found : machine.restart.world.document.getToolset ns with
    | none =>
        rfl
    | some record =>
        simp [(inactive record found).1]

omit [Platform] in
theorem faithful_restart (reliable : machine.world.Reliable)
    (distinct : machine.world.document.Distinct) :
    machine.restart.Faithful := by
  have orderly := orderly_restart reliable distinct
  exact {
    sane := orderly.sane
    serialized := orderly.serialized
    reliable := orderly.reliable
    distinct := orderly.distinct
    committed := {
      serves := fun _ _ _ _ _ _ _ found => by cases found
      shut := fun _ _ ends => by cases ends }
    accounted := {
      issued := by simp
      unmounted := by simp
      opening := fun _ _ lands => by cases lands
      distinct := fun _ _ _ lands => by cases lands }
    pristine := {
      unshut := fun _ _ lands => by cases lands
      uncalled := fun _ _ lands => by cases lands }
    coupled := coupled_restart reliable distinct
    agrees := agrees_restart reliable distinct }

theorem faithful_of_lives {config : HostConfig}
    (reaches : Reaches lifeStep Pays (firstProcess config) machine) :
    machine.Faithful := by
  apply reaches.invariant
  · exact faithful_restart (reliable_emptyHost config)
      StateDocument.distinct_empty
  · intro before action next faithful pays taken
    cases action with
    | none =>
        cases taken
        exact faithful_restart faithful.reliable faithful.distinct
    | some action =>
        exact faithful_step faithful pays taken

end Lives

/-! ## The property -/

section Property

variable {machine : Machine}

/-- Nobody is inside a block or in the handler of a failed call. -/
def settled (machine : Machine) : Bool :=
  (List.range machine.nextTask).all fun task =>
    !(machine.tasks task).any Task.busy

theorem settled_of_idle (idle : machine.idle = true) :
    machine.settled = true := by
  apply List.all_eq_true.mpr
  intro task issued
  have answered := List.all_eq_true.mp idle task issued
  cases found : machine.tasks task with
  | none =>
      rfl
  | some current =>
      cases current with
      | answered answer =>
          rfl
      | _ =>
          simp [found, Task.unanswered] at answered

theorem Agrees.settled (agrees : machine.Agrees) (sane : machine.Sane)
    (settled : machine.settled = true) (ns : Namespace) :
    machine.world.Steady ns False False False := by
  have nobody : ∀ {duty : Task → Bool},
      (∀ current, duty current = true → current.busy = true) →
        machine.owes duty → False := by
    intro duty busy owing
    obtain ⟨task, owing⟩ := owing
    obtain ⟨current, found, owing⟩ := (Option.any_eq_true _ _).mp owing
    by_cases issued : task < machine.nextTask
    · have still := List.all_eq_true.mp settled task (List.mem_range.mpr issued)
      rw [found] at still
      simp [busy current owing] at still
    · rw [sane.fresh task (Nat.not_lt.mp issued)] at found
      cases found
  apply (agrees ns).mono
  · apply nobody
    intro current owing
    cases current with
    | suspended home lock operation rest entries stage =>
        rfl
    | _ =>
        cases owing
  · apply nobody
    intro current owing
    cases current with
    | suspended home lock operation rest entries stage =>
        rfl
    | _ =>
        cases owing
  · apply nobody
    intro current owing
    cases current with
    | suspended home lock operation rest entries stage =>
        rfl
    | calling tool stage =>
        exact ((Bool.and_eq_true _ _).mp owing).2
    | _ =>
        cases owing

section Theorem

variable [Platform] {config : HostConfig}

/-- In every settled state of a life whose steps strand no task and spoil no
record, with no death unnoticed: connected is running and fresh, failed is not
running, inactive is unloaded and not running, and no record says
connecting. -/
theorem transport_coherent
    (reaches : Reaches lifeStep Pays (firstProcess config) machine)
    (settled : machine.settled = true)
    (noticed : machine.world.noticed = true) {ns : Namespace}
    {record : ToolsetRecord} (found : machine.world.record ns = some record) :
    (record.transportState = .connected →
        machine.world.hasConnection ns = true ∧ record.stale = false) ∧
      (record.transportState = .failed →
        machine.world.hasConnection ns = false) ∧
      (record.transportState = .inactive →
        record.loadedScopes = [] ∧
          machine.world.hasConnection ns = false) ∧
      record.transportState ≠ .connecting := by
  have faithful := faithful_of_lives reaches
  have steady := faithful.agrees.settled faithful.sane settled ns
  have candid := steady.candid id record found
  refine ⟨?_, steady.failsIdle id record found, ?_, candid.settled⟩
  · intro connected
    refine ⟨?_, candid.fresh connected⟩
    apply World.connected_of_noticed noticed
    have attached := steady.attached id
    have reported : machine.world.reports ns .connected = true := by
      unfold World.reports
      rw [found]
      exact decide_eq_true connected
    unfold World.adrift at attached
    rwa [reported, Bool.true_and] at attached
  · intro inactive
    have unloaded := candid.unloaded inactive
    refine ⟨unloaded, ?_⟩
    rw [← Bool.not_eq_true]
    intro connected
    obtain ⟨runtime, mounted, _⟩ := World.hasConnection_iff.mp connected
    have mounted : machine.world.runtimes.get ns ≠ none := by
      rw [← World.mounted, mounted]
      exact Option.some_ne_none runtime
    obtain ⟨current, same, loaded⟩ :=
      (faithful.coupled.active ns).loaded_of_mounted mounted
    cases found.symm.trans same
    exact loaded unloaded

end Theorem

end Property

section Ascii

open scoped Ascii

/-- The bundled toolset is activated in the first process. -/
theorem transport_coherent_fake :
    ∃ (machine : Machine) (record : ToolsetRecord),
      Reaches lifeStep Pays (firstProcess {}) machine ∧
        machine.world.record "fake_stdio" = some record ∧
        record.transportState = .connected ∧
        machine.world.hasConnection "fake_stdio" = true ∧
        record.stale = false := by
  obtain ⟨machine, reaches, idle, noticed, reported⟩ :=
    exists_reaches_of_execute
      [some (.request (.activateToolsets ["fake_stdio"] "thread" true)),
       some (.acquire 0), some (.enter 0), some (.reply 0 (.ok []))]
      (by decide +kernel :
        (execute lifeStep Pays (firstProcess {}) _).any
          (fun machine =>
            machine.idle = true ∧ machine.world.noticed = true ∧
              machine.world.reports "fake_stdio" .connected = true) = true)
  obtain ⟨record, found, connected⟩ := (Option.any_eq_true _ _).mp reported
  have connected := of_decide_eq_true connected
  have coherent :=
    transport_coherent reaches (settled_of_idle idle) noticed found
  exact ⟨machine, record, reaches, found, connected, coherent.1 connected⟩

/-- The bundled toolset is activated again without `if_not_loaded`, and the
second server does not start: the record says failed, and the tools of the
first server stay mounted. -/
theorem failed_while_running :
    ∃ machine record,
      Reaches lifeStep OneAtATime (firstProcess {}) machine ∧
        machine.idle = true ∧
        machine.world.noticed = true ∧
        machine.world.record "fake_stdio" = some record ∧
        record.transportState = .failed ∧
        machine.world.hasConnection "fake_stdio" = true := by
  obtain ⟨machine, reaches, idle, noticed, reported, connected⟩ :=
    exists_reaches_of_execute
      [some (.request (.activateToolsets ["fake_stdio"] "thread" true)),
       some (.acquire 0), some (.enter 0), some (.reply 0 (.ok [])),
       some (.request (.activateToolsets ["fake_stdio"] "thread" false)),
       some (.acquire 1), some (.enter 1),
       some (.reply 1 (.error (.exception { message := "no server" })))]
      (by decide +kernel :
        (execute lifeStep OneAtATime (firstProcess {}) _).any
          (fun machine =>
            machine.idle = true ∧ machine.world.noticed = true ∧
              machine.world.reports "fake_stdio" .failed = true ∧
              machine.world.hasConnection "fake_stdio" = true) = true)
  obtain ⟨record, found, failed⟩ := (Option.any_eq_true _ _).mp reported
  exact ⟨machine, record, reaches, idle, noticed, found,
    of_decide_eq_true failed, connected⟩

end Ascii

end Machine

end ToolboxMcp
