import ToolboxMcp.Invariants
import ToolboxMcp.Service.Mounting

/-!
# Failures of replaced runtimes

The handlers of a failed call and of a failed probe disconnect whatever runtime
their namespace has mounted.  A history variable keeps the runtimes that
lifecycle operations have taken out of service.  None of them is ever mounted
again, so the handler of a call they have failed does harm exactly when it
finds a successor, or a record to mark as failed.
-/

namespace ToolboxMcp

open Effect

/-- A failed call or probe whose handler is about to run. -/
structure Failure where
  task : TaskId
  ns : Namespace
  runtime : RuntimeId
  ofCall : Bool
deriving DecidableEq

def Task.landing : Task → Option RuntimeId
  | .suspended _ _ _ _ _ stage => stage.landing
  | _ => none

namespace Machine

def landing (machine : Machine) (task : TaskId) : Option RuntimeId :=
  (machine.tasks task).bind Task.landing

/-- The step is a stretch of a lifecycle operation other than a health
check; starting a health check disconnects nothing. -/
def managing (machine : Machine) : Action → Bool
  | .enter task =>
      match machine.tasks task with
      | some (.entered _ _ (.operation ..)) => true
      | _ => false
  | .reply task _ =>
      match machine.tasks task with
      | some (.suspended _ _ _ _ _ stage) => !stage.checksHealth
      | _ => false
  | _ => false

/-- The runtimes a lifecycle stretch has taken out of service. -/
def retiredBy (machine : Machine) (action : Action) (after : Machine) :
    List RuntimeId :=
  if machine.managing action then
    (machine.world.runtimes.filter fun (ns, runtime) =>
      machine.world.mounted ns = some runtime ∧
        after.world.mounted ns ≠ some runtime).map Prod.snd
  else
    []

theorem mem_retiredBy {machine after : Machine} {action : Action}
    {runtime : RuntimeId}
    (member : runtime ∈ machine.retiredBy action after) :
    ∃ ns,
      machine.world.runtimes.get ns = some runtime ∧
        after.world.runtimes.get ns ≠ some runtime := by
  unfold retiredBy at member
  split at member
  · obtain ⟨⟨ns, mounted⟩, kept, rfl⟩ := List.mem_map.mp member
    have dropped := of_decide_eq_true (List.mem_filter.mp kept).2
    exact ⟨ns, dropped⟩
  · cases member

/-! ## Retired runtimes never return -/

structure Accounted (machine : Machine) (retired : List RuntimeId) :
    Prop where
  issued : ∀ runtime ∈ retired, runtime < machine.world.nextRuntime
  unmounted :
    ∀ runtime ∈ retired, ∀ ns,
      machine.world.runtimes.get ns ≠ some runtime
  /-- A runtime that is being opened is not in service yet. -/
  opening :
    ∀ task runtime,
      machine.landing task = some runtime →
        runtime ∉ retired ∧
          ∀ ns, machine.world.runtimes.get ns ≠ some runtime
  distinct :
    ∀ first second runtime,
      machine.landing first = some runtime →
      machine.landing second = some runtime → first = second

/-- What a step of one task does to the runtimes. -/
structure Advances (machine : Machine) (task : TaskId)
    (after : Machine) : Prop where
  others : ∀ other, other ≠ task → after.tasks other = machine.tasks other
  nextRuntime : machine.world.nextRuntime ≤ after.world.nextRuntime
  mounts :
    ∀ ns runtime,
      after.world.runtimes.get ns = some runtime →
        machine.world.runtimes.get ns = some runtime ∨
          machine.landing task = some runtime
  opens :
    ∀ runtime,
      after.landing task = some runtime →
        runtime = machine.world.nextRuntime ∧
          runtime < after.world.nextRuntime

variable {machine after : Machine} {task : TaskId}

theorem landing_issued (sane : machine.Sane) {runtime : RuntimeId}
    (lands : machine.landing task = some runtime) :
    runtime < machine.world.nextRuntime := by
  obtain ⟨current, found, lands⟩ := Option.bind_eq_some_iff.mp lands
  have proper := sane.proper task current found
  cases current with
  | suspended ns lock operation rest entries stage =>
      cases stage with
      | opening opening record opened =>
          cases lands
          exact proper.2.1
      | swapping closing opening record snapshot =>
          cases lands
      | deactivating closing scope force record =>
          cases lands
      | unregistering closing force =>
          cases lands
      | probing scope record probed =>
          cases lands
      | aborting scope record probed =>
          cases lands
      | unhealthy closing scope record exception =>
          cases lands
  | arriving ns block =>
      cases lands
  | waiting ns lock block =>
      cases lands
  | entered ns lock block =>
      cases lands
  | calling tool stage =>
      cases lands
  | answered answer =>
      cases lands

theorem Accounted.advance (sane : machine.Sane)
    {retired more : List RuntimeId} (accounted : machine.Accounted retired)
    (advances : machine.Advances task after)
    (dropped : ∀ runtime ∈ more, ∃ ns,
      machine.world.runtimes.get ns = some runtime ∧
        after.world.runtimes.get ns ≠ some runtime) :
    after.Accounted (retired ++ more) := by
  have mountedIssued : ∀ ns runtime,
      machine.world.runtimes.get ns = some runtime →
        runtime < machine.world.nextRuntime :=
    fun ns runtime mounted => (sane.housed ns runtime mounted).1
  have otherLanding : ∀ other, other ≠ task →
      after.landing other = machine.landing other := by
    intro other different
    unfold landing
    rw [advances.others other different]
  have fresh : ∀ runtime, after.landing task = some runtime →
      machine.world.nextRuntime ≤ runtime :=
    fun runtime lands => (advances.opens runtime lands).1.ge
  constructor
  · intro runtime member
    rcases List.mem_append.mp member with old | new
    · exact (accounted.issued runtime old).trans_le advances.nextRuntime
    · obtain ⟨ns, mounted, _⟩ := dropped runtime new
      exact (mountedIssued ns runtime mounted).trans_le advances.nextRuntime
  · intro runtime member ns mounted
    rcases List.mem_append.mp member with old | new
    · rcases advances.mounts ns runtime mounted with before | lands
      · exact accounted.unmounted runtime old ns before
      · exact (accounted.opening task runtime lands).1 old
    · obtain ⟨home, before, gone⟩ := dropped runtime new
      rcases advances.mounts ns runtime mounted with same | lands
      · have one := (sane.housed home runtime before).2
        have two := (sane.housed ns runtime same).2
        rw [one] at two
        rw [two] at gone
        exact gone mounted
      · exact (accounted.opening task runtime lands).2 home before
  · intro other runtime lands
    by_cases same : other = task
    · subst same
      have new := fresh runtime lands
      constructor
      · intro member
        rcases List.mem_append.mp member with old | more
        · exact absurd (accounted.issued runtime old) new.not_gt
        · obtain ⟨ns, mounted, _⟩ := dropped runtime more
          exact absurd (mountedIssued ns runtime mounted) new.not_gt
      · intro ns mounted
        rcases advances.mounts ns runtime mounted with before | landed
        · exact absurd (mountedIssued ns runtime before) new.not_gt
        · exact absurd (landing_issued sane landed) new.not_gt
    · rw [otherLanding other same] at lands
      have before := accounted.opening other runtime lands
      constructor
      · intro member
        rcases List.mem_append.mp member with old | more
        · exact before.1 old
        · obtain ⟨ns, mounted, _⟩ := dropped runtime more
          exact before.2 ns mounted
      · intro ns mounted
        rcases advances.mounts ns runtime mounted with earlier | landed
        · exact before.2 ns earlier
        · exact same (accounted.distinct other task runtime lands landed)
  · intro first second runtime firstLands secondLands
    by_cases firstSame : first = task
    · by_cases secondSame : second = task
      · rw [firstSame, secondSame]
      · rw [otherLanding second secondSame] at secondLands
        rw [firstSame] at firstLands
        exact absurd (landing_issued sane secondLands)
          (fresh runtime firstLands).not_gt
    · rw [otherLanding first firstSame] at firstLands
      by_cases secondSame : second = task
      · rw [secondSame] at secondLands
        exact absurd (landing_issued sane firstLands)
          (fresh runtime secondLands).not_gt
      · rw [otherLanding second secondSame] at secondLands
        exact accounted.distinct first second runtime firstLands secondLands

/-- Steps that open and mount nothing. -/
theorem advances_same {next : Task}
    (tasks : after.tasks = Function.update machine.tasks task (some next))
    (nextRuntime : after.world.nextRuntime = machine.world.nextRuntime)
    (runtimes : after.world.runtimes = machine.world.runtimes)
    (idle : next.landing = none) : machine.Advances task after where
  others other different := by
    rw [tasks, Function.update_of_ne different]
  nextRuntime := nextRuntime.ge
  mounts ns runtime mounted := by
    rw [runtimes] at mounted
    exact .inl mounted
  opens runtime lands := by
    simp [landing, tasks, idle] at lands

theorem landing_nextVisit (operation : Operation) (rest : List Namespace)
    (entries : List Entry) :
    (nextVisit operation rest entries).landing = none := by
  cases rest <;> rfl

theorem advances_proceed {ns : Namespace} {lock : LockId}
    {operation : Operation} {rest : List Namespace} {entries : List Entry}
    {program : ServiceM Progress}
    (sound : wp program
      (fun progress after =>
        Sound ns machine.world after ∧ progress.Proper after ns)
      (fun _ after => Sound ns machine.world after) machine.world)
    (mounting : wp program
      (fun progress after =>
        (KeepsOrDrops ns machine.world after ∨
            after.runtimes.get ns = machine.landing task) ∧
          ∀ runtime, progress.landing = some runtime →
            runtime = machine.world.nextRuntime)
      (fun _ after =>
        KeepsOrDrops ns machine.world after ∨
          after.runtimes.get ns = machine.landing task) machine.world) :
    machine.Advances task
      (machine.proceed task ns lock operation rest entries
        (outcome program machine.world)) := by
  have mounts : ∀ {after : World}, Sound ns machine.world after →
      KeepsOrDrops ns machine.world after ∨
        after.runtimes.get ns = machine.landing task →
      ∀ home runtime, after.runtimes.get home = some runtime →
        machine.world.runtimes.get home = some runtime ∨
          machine.landing task = some runtime := by
    intro after kept turned home runtime mounted
    by_cases same : home = ns
    · subst same
      rcases turned with (stays | drops) | lands
      · exact .inl (stays ▸ mounted)
      · rw [drops] at mounted
        cases mounted
      · exact .inr (lands ▸ mounted)
    · rw [kept.runtimes home same] at mounted
      exact .inl mounted
  have left : ∀ {after : World} {next : Task} {current : Option TaskId}
      {locks : LockId → Mutex TaskId},
      next.landing = none → Sound ns machine.world after →
      KeepsOrDrops ns machine.world after ∨
        after.runtimes.get ns = machine.landing task →
      machine.Advances task
        (({ machine with locks := locks }).setTask task next after
          current) := by
    intro after next current locks idle kept turned
    refine ⟨?_, kept.nextRuntime, mounts kept turned, ?_⟩
    · exact fun other different => Function.update_of_ne different _ _
    · intro runtime lands
      simp [landing, setTask, idle] at lands
  rcases wp_cases (wp_and sound mounting) with
    ⟨stage | more, after, computed, ⟨kept, proper⟩, turned, opens⟩ |
      ⟨raised, after, computed, kept, turned⟩
  · rw [computed]
    refine ⟨?_, kept.nextRuntime, mounts kept turned, ?_⟩
    · exact fun other different => Function.update_of_ne different _ _
    · intro runtime lands
      have lands : stage.landing = some runtime := by
        simpa [landing, proceed, setTask, Task.landing] using lands
      refine ⟨opens runtime lands, ?_⟩
      cases stage with
      | opening opening record opened =>
          cases lands
          exact proper.2.1
      | swapping closing opening record snapshot =>
          cases lands
      | deactivating closing scope force record =>
          cases lands
      | unregistering closing force =>
          cases lands
      | probing scope record probed =>
          cases lands
      | aborting scope record probed =>
          cases lands
      | unhealthy closing scope record exception =>
          cases lands
  · rw [computed]
    exact left (landing_nextVisit _ _ _) kept turned
  · rw [computed]
    exact left rfl kept turned

theorem advances_proceedCall {locks : LockId → Mutex TaskId}
    {tool : MountedTool} {program : ServiceM CallProgress} {world : World}
    (runtimes : world.runtimes = machine.world.runtimes)
    (nextRuntime : world.nextRuntime = machine.world.nextRuntime)
    (sound : wp program
      (fun progress after =>
        Sound tool.ns world after ∧ progress.Proper after tool.ns)
      (fun _ after => Sound tool.ns world after) world)
    (mounting : wp program
      (fun _ after => KeepsOrDrops tool.ns world after)
      (fun _ after => KeepsOrDrops tool.ns world after) world) :
    machine.Advances task
      (proceedCall { machine with locks := locks } task tool
        (outcome program world)) := by
  have settled : ∀ {after : World} {next : Task} {current : Option TaskId},
      next.landing = none → Sound tool.ns world after →
      KeepsOrDrops tool.ns world after →
      machine.Advances task
        (({ machine with locks := locks }).setTask task next after
          current) := by
    intro after next current idle kept turned
    refine ⟨?_, nextRuntime ▸ kept.nextRuntime, ?_, ?_⟩
    · exact fun other different => Function.update_of_ne different _ _
    · intro home runtime mounted
      left
      rw [← runtimes]
      by_cases same : home = tool.ns
      · subst same
        rcases turned with stays | drops
        · exact stays ▸ mounted
        · have missing : after.runtimes.get tool.ns = some runtime := mounted
          rw [drops] at missing
          cases missing
      · rw [← kept.runtimes home same]
        exact mounted
    · intro runtime lands
      simp [landing, setTask, idle] at lands
  rcases wp_cases (wp_and sound mounting) with
    ⟨stage | result, after, computed, ⟨kept, _⟩, turned⟩ |
      ⟨raised, after, computed, kept, turned⟩
  · rw [computed]
    exact settled rfl kept turned
  · rw [computed]
    exact settled rfl kept turned
  · rw [computed]
    exact settled rfl kept turned

theorem advances_acquire {ns : Namespace} {block : Block} :
    machine.Advances task (machine.acquire task ns block) := by
  obtain ⟨_, tasks, _, _, _, nextRuntime, runtimes, _⟩ :=
    machine.namespaceLock_spec ns
  unfold acquire
  generalize machine.namespaceLock ns = looked at *
  obtain ⟨lock, middle⟩ := looked
  simp only at tasks nextRuntime runtimes ⊢
  have moved : ∀ next : Task,
      Function.update middle.tasks task (some next) =
        Function.update machine.tasks task (some next) := by
    intro next
    rw [tasks]
  split
  · exact advances_same (moved (.entered ns lock block)) nextRuntime
      runtimes rfl
  · exact advances_same (moved (.waiting ns lock block)) nextRuntime
      runtimes rfl

section Steps

variable [Platform]

theorem advances_request (request : Request) :
    machine.Advances machine.nextTask (machine.request request) := by
  unfold Machine.request
  rcases wp_cases (accept_untouched request) with
    ⟨error | ⟨operation, namespaces⟩, world, computed, untouched⟩ |
      ⟨raised, world, computed, untouched⟩
  · rw [computed]
    exact advances_same rfl untouched.nextRuntime untouched.runtimes rfl
  · rw [computed]
    exact advances_same rfl untouched.nextRuntime untouched.runtimes
      (landing_nextVisit _ _ _)
  · rw [computed]
    exact advances_same rfl untouched.nextRuntime untouched.runtimes rfl

omit [Platform] in
theorem advances_call (mountedName : String) :
    machine.Advances machine.nextTask (machine.call mountedName) := by
  unfold Machine.call
  rcases locateCall_cases machine.world mountedName with
    ⟨tool, _, computed⟩ | ⟨raised, computed⟩
  · rw [computed]
    exact advances_same rfl rfl rfl rfl
  · rw [computed]
    exact advances_same rfl rfl rfl rfl

theorem advances_enter (sane : machine.Sane) {ns : Namespace}
    {lock : LockId} {block : Block} :
    machine.Advances task (machine.enter task ns lock block) := by
  cases block with
  | operation operation rest entries =>
      apply advances_proceed (start_sound sane.housed operation)
      apply wp_mono (start_mounting operation)
      · exact fun _ _ both => ⟨.inl both.1, both.2⟩
      · exact fun _ _ kept => .inl kept
  | callStart mountedName =>
      simp only [enter, startCall]
      rcases admitCall_cases machine.world mountedName with
        ⟨tool, _, computed⟩ | ⟨raised, computed⟩
      · rw [computed]
        exact advances_proceedCall rfl rfl (dispatchCall_sound sane.housed)
          dispatchCall_mounting
      · rw [computed]
        exact advances_same rfl rfl rfl rfl
  | callFinish result =>
      exact advances_same rfl rfl rfl rfl

theorem accounted_step (sane : machine.Sane) {retired : List RuntimeId}
    (accounted : machine.Accounted retired) {action : Action}
    (taken : step machine action = some after) :
    after.Accounted (retired ++ machine.retiredBy action after) := by
  have advanced : ∀ {task : TaskId}, machine.Advances task after →
      after.Accounted (retired ++ machine.retiredBy action after) :=
    fun advances => accounted.advance sane advances fun _ => mem_retiredBy
  cases action with
  | request request =>
      obtain ⟨_, rfl⟩ := step_request.mp taken
      exact advanced (advances_request request)
  | call mountedName =>
      obtain ⟨_, rfl⟩ := step_call.mp taken
      exact advanced (advances_call mountedName)
  | acquire task =>
      obtain ⟨ns, block, _, _, rfl⟩ := step_acquire.mp taken
      exact advanced advances_acquire
  | grant task =>
      obtain ⟨ns, lock, block, _, _, _, rfl⟩ := step_grant.mp taken
      exact advanced (advances_same rfl rfl rfl rfl)
  | enter task =>
      obtain ⟨ns, lock, block, _, _, rfl⟩ := step_enter.mp taken
      exact advanced (advances_enter sane)
  | reply task reply =>
      obtain ⟨ns, lock, operation, rest, entries, stage, found, _, rfl⟩ :=
        step_reply.mp taken
      have proper := sane.proper task _ found
      have lands : machine.landing task = stage.landing := by
        simp [landing, found, Task.landing]
      apply advanced
      apply advances_proceed (resume_sound sane.housed proper reply)
      rw [lands]
      apply wp_mono (resume_mounting proper reply)
      · rintro progress world ⟨idle, turned⟩
        refine ⟨turned, fun runtime opened => ?_⟩
        rw [idle] at opened
        cases opened
      · exact fun _ _ => id
  | callReply task reply =>
      obtain ⟨tool, stage, found, _, rfl⟩ := step_callReply.mp taken
      have proper := sane.proper task _ found
      apply advanced
      exact advances_proceedCall rfl rfl
        (resumeCall_sound sane.housed proper reply)
        (resumeCall_mounting stage reply)
  | cancelWaiting task =>
      obtain ⟨ns, lock, block, _, _, rfl⟩ := step_cancelWaiting.mp taken
      exact advanced (advances_same rfl rfl rfl rfl)
  | die runtime =>
      obtain ⟨_, rfl⟩ := step_die.mp taken
      have nothing :
          machine.retiredBy (.die runtime)
            { machine with world := machine.world.markDone runtime } = [] :=
        rfl
      rw [nothing, List.append_nil]
      exact ⟨accounted.issued, accounted.unmounted, accounted.opening,
        accounted.distinct⟩

/-! ## What a failure may touch -/

/-- The failed call or probe the step is about to handle. -/
def failing (machine : Machine) : Action → Option Failure
  | .callReply task reply =>
      match machine.tasks task with
      | some (.calling tool stage) =>
          (stage.fails reply).map fun runtime =>
            { task := task, ns := tool.ns, runtime := runtime, ofCall := true }
      | _ => none
  | .reply task reply =>
      match machine.tasks task with
      | some (.suspended ns _ _ _ _ stage) =>
          (stage.fails ns reply).map fun runtime =>
            { task := task, ns := ns, runtime := runtime, ofCall := false }
      | _ => none
  | _ => none

/-- A handler finds its own runtime mounted or none at all.  If none, and the
call has outlived its runtime, there is no record left to write to. -/
def HandledInTime (observed : Machine × List RuntimeId) (action : Action) :
    Prop :=
  ∀ failure ∈ observed.1.failing action,
    observed.1.world.mounted failure.ns = some failure.runtime ∨
      observed.1.world.mounted failure.ns = none ∧
        (failure.ofCall = true → failure.runtime ∈ observed.2 →
          (observed.1.world.record failure.ns).isNone = true ∨
            observed.1.world.nextFault ≠ none)

instance (observed : Machine × List RuntimeId) (action : Action) :
    Decidable (HandledInTime observed action) :=
  inferInstanceAs (Decidable (∀ failure ∈ observed.1.failing action, _))

structure FailureContained (machine : Machine) (retired : List RuntimeId)
    (action : Action) (after : Machine) : Prop where
  /-- The handler of a call that outlives its runtime ends at once and changes
  neither the mounted runtime nor the record. -/
  late :
    ∀ failure ∈ machine.failing action,
      failure.ofCall = true → failure.runtime ∈ retired →
        (∃ outcome,
          after.tasks failure.task =
            some (.arriving failure.ns (.callFinish outcome))) ∧
        after.world.mounted failure.ns = machine.world.mounted failure.ns ∧
        after.world.record failure.ns = machine.world.record failure.ns
  /-- Outside the lifecycle operations only a failure of the runtime's own
  calls and probes disconnects it. -/
  own :
    ∀ ns runtime,
      machine.world.mounted ns = some runtime →
      after.world.mounted ns ≠ some runtime →
        machine.managing action = true ∨
          ∃ failure ∈ machine.failing action, failure.runtime = runtime

omit [Platform] in
theorem finishCallFailure_spares {tool : MountedTool} {world : World}
    (spared : (world.record tool.ns).isNone = true ∨ world.nextFault ≠ none)
    (exception : PyException) :
    wp (finishCallFailure tool exception)
      (fun _ _ => False)
      (fun _ after =>
        after.runtimes = world.runtimes ∧
          after.document.getToolset tool.ns =
            world.document.getToolset tool.ns) world := by
  cases found : world.document.getToolset tool.ns with
  | none =>
      apply finishCallFailure_rule
      · exact fun _ after untouched =>
          ⟨untouched.runtimes, (untouched.records _).trans found⟩
      · intro current _ _ _ same
        rw [found] at same
        cases same
      · intro _ after _ untouched _
        exact ⟨(untouched found).runtimes,
          ((untouched found).records _).trans found⟩
  | some record =>
      obtain ⟨fault, refuses⟩ :
          ∃ fault, world.nextFault = some fault := by
        apply Option.ne_none_iff_exists'.mp
        exact spared.resolve_left (by simp [found])
      simp only [finishCallFailure, recordRuntimeFailure, upsertToolset,
        wp_bind, wp_get, World.record, found, wp_storeWrite, refuses]
      exact ⟨rfl, found⟩

omit [Platform] in
/-- The handler of a failed call, when nothing is mounted and there is no
record to spoil. -/
theorem resumeCall_spares {tool : MountedTool} {stage : CallStage}
    {reply : Except Raised CallToolResult} {runtime : RuntimeId}
    {world : World} (fails : stage.fails reply = some runtime)
    (unmounted : world.mounted tool.ns = none)
    (spared :
      (world.record tool.ns).isNone = true ∨ world.nextFault ≠ none) :
    wp (resumeCall tool stage reply)
      (fun _ _ => False)
      (fun _ after =>
        after.runtimes = world.runtimes ∧
          after.document.getToolset tool.ns =
            world.document.getToolset tool.ns) world := by
  apply resumeCall_failing fails
  rintro exception start (rfl | rfl)
  · apply callFailed_rule
    · intro existing mounted
      simp [mounted] at unmounted
    · exact fun _ => finishCallFailure_spares spared exception
  · apply callFailed_rule
    · intro existing mounted
      have mounted : world.runtimes.get tool.ns = some existing := mounted
      simp [mounted] at unmounted
    · intro _
      have still :
          ((world.markDone runtime).record tool.ns).isNone = true ∨
            (world.markDone runtime).nextFault ≠ none := spared
      exact finishCallFailure_spares still exception

/-- A call that outlives its runtime does no harm. -/
theorem late_failure {retired : List RuntimeId}
    (accounted : machine.Accounted retired) {action : Action}
    (inTime : HandledInTime (machine, retired) action)
    (taken : step machine action = some after) :
    ∀ failure ∈ machine.failing action,
      failure.ofCall = true → failure.runtime ∈ retired →
        (∃ outcome,
          after.tasks failure.task =
            some (.arriving failure.ns (.callFinish outcome))) ∧
        after.world.mounted failure.ns = machine.world.mounted failure.ns ∧
        after.world.record failure.ns =
          machine.world.record failure.ns := by
  intro failure member ofCall old
  have unmounted : machine.world.mounted failure.ns = none ∧
      ((machine.world.record failure.ns).isNone = true ∨
        machine.world.nextFault ≠ none) := by
    rcases inTime failure member with own | ⟨none, spared⟩
    · exact absurd own
        (accounted.unmounted failure.runtime old failure.ns)
    · exact ⟨none, spared ofCall old⟩
  cases action with
  | callReply task reply =>
      obtain ⟨tool, stage, found, _, rfl⟩ := step_callReply.mp taken
      simp only [failing, found, Option.mem_def,
        Option.map_eq_some_iff] at member
      obtain ⟨runtime, fails, rfl⟩ := member
      rcases wp_cases (resumeCall_spares fails unmounted.1 unmounted.2) with
        ⟨_, _, _, never⟩ | ⟨raised, world, computed, runtimes, record⟩
      · exact never.elim
      · rw [computed]
        refine ⟨⟨_, Function.update_self _ _ _⟩, ?_, record⟩
        exact congrArg (fun mounted => mounted.get tool.ns) runtimes
  | reply task reply =>
      obtain ⟨ns, lock, operation, rest, entries, stage, found, _, rfl⟩ :=
        step_reply.mp taken
      simp only [failing, found, Option.mem_def,
        Option.map_eq_some_iff] at member
      obtain ⟨runtime, fails, rfl⟩ := member
      cases ofCall
  | request request =>
      cases member
  | call mountedName =>
      cases member
  | acquire task =>
      cases member
  | grant task =>
      cases member
  | enter task =>
      cases member
  | cancelWaiting task =>
      cases member
  | die runtime =>
      cases member

omit [Platform] in
/-- A resolved tool is dispatched to the runtime that was found running. -/
theorem startCall_runtimes {lock : LockId} {mountedName : String} :
    (machine.startCall task lock mountedName).world.runtimes =
      machine.world.runtimes := by
  unfold startCall
  rcases admitCall_cases machine.world mountedName with
    ⟨tool, resolved, computed⟩ | ⟨raised, computed⟩
  · obtain ⟨runtime, running⟩ := resolveMountedTool_running resolved
    have dispatched :
        wp (dispatchCall tool)
          (fun _ after => after.runtimes = machine.world.runtimes)
          (fun _ after => after.runtimes = machine.world.runtimes)
          (machine.world.noteCallStarted tool.ns) := by
      apply dispatchCall_rule
      · exact fun _ _ => rfl
      · intro missing
        have missing : machine.world.runtimeFor tool.ns = none := missing
        rw [running] at missing
        cases missing
    simp only [computed, proceedCall_world]
    exact final_of_wp dispatched
  · rw [computed]
    rfl

omit [Platform] in
/-- What a handler disconnects is what it finds mounted in its namespace. -/
theorem disconnects_own {ns : Namespace} {own : RuntimeId} {world : World}
    (confined : ∀ home, home ≠ ns →
      world.runtimes.get home = machine.world.runtimes.get home)
    (finds : machine.world.runtimes.get ns = some own ∨
      machine.world.runtimes.get ns = none)
    {home : Namespace} {runtime : RuntimeId}
    (mounted : machine.world.runtimes.get home = some runtime)
    (dropped : world.runtimes.get home ≠ some runtime) : own = runtime := by
  by_cases same : home = ns
  · subst same
    rcases finds with found | none
    · exact Option.some.inj (found.symm.trans mounted)
    · rw [none] at mounted
      cases mounted
  · rw [confined home same] at dropped
    exact absurd mounted dropped

/-- Only its own failures and lifecycle operations disconnect a runtime. -/
theorem disconnected_by_own_failure (sane : machine.Sane)
    {retired : List RuntimeId} {action : Action}
    (inTime : HandledInTime (machine, retired) action)
    (taken : step machine action = some after)
    {ns : Namespace} {runtime : RuntimeId}
    (mounted : machine.world.runtimes.get ns = some runtime)
    (dropped : after.world.runtimes.get ns ≠ some runtime) :
    machine.managing action = true ∨
      ∃ failure ∈ machine.failing action, failure.runtime = runtime := by
  have stays : after.world.runtimes ≠ machine.world.runtimes := by
    intro same
    rw [same] at dropped
    exact dropped mounted
  have finds : ∀ failure ∈ machine.failing action,
      machine.world.runtimes.get failure.ns = some failure.runtime ∨
        machine.world.runtimes.get failure.ns = none :=
    fun failure member => (inTime failure member).imp_right And.left
  cases action with
  | request request =>
      obtain ⟨_, rfl⟩ := step_request.mp taken
      have untouched :
          Untouched machine.world
            (outcome (accept request) machine.world).2 :=
        final_of_wp (accept_untouched request)
      rw [← request_world] at untouched
      exact absurd untouched.runtimes stays
  | call mountedName =>
      obtain ⟨_, rfl⟩ := step_call.mp taken
      rw [call_world] at stays
      rcases locateCall_cases machine.world mountedName with
        ⟨tool, _, computed⟩ | ⟨raised, computed⟩
      · rw [computed] at stays
        exact absurd rfl stays
      · rw [computed] at stays
        exact absurd rfl stays
  | acquire task =>
      obtain ⟨home, block, _, _, rfl⟩ := step_acquire.mp taken
      obtain ⟨_, _, _, _, _, _, runtimes, _⟩ :=
        machine.namespaceLock_spec home
      rw [acquire_world] at stays
      exact absurd runtimes stays
  | grant task =>
      obtain ⟨home, lock, block, _, _, _, rfl⟩ := step_grant.mp taken
      exact absurd rfl stays
  | enter task =>
      obtain ⟨home, lock, block, found, _, rfl⟩ := step_enter.mp taken
      cases block with
      | operation operation rest entries =>
          left
          simp [managing, found]
      | callStart mountedName =>
          exact absurd startCall_runtimes stays
      | callFinish result =>
          exact absurd rfl stays
  | reply task reply =>
      obtain ⟨home, lock, operation, rest, entries, stage, found, _, rfl⟩ :=
        step_reply.mp taken
      cases checks : stage.checksHealth with
      | false =>
          left
          simp [managing, found, checks]
      | true =>
          right
          rw [proceed_world] at dropped stays
          cases fails : stage.fails home reply with
          | none =>
              exact absurd (final_of_wp (resume_checksHealth checks fails))
                stays
          | some own =>
              have member : (⟨task, home, own, false⟩ : Failure) ∈
                  machine.failing (.reply task reply) := by
                simp [failing, found, fails]
              have kept := final_of_wp_left
                (resume_sound sane.housed (sane.proper task _ found) reply)
              exact ⟨_, member, disconnects_own kept.runtimes
                (finds _ member) mounted dropped⟩
  | callReply task reply =>
      obtain ⟨tool, stage, found, _, rfl⟩ := step_callReply.mp taken
      right
      rw [proceedCall_world] at dropped stays
      cases fails : stage.fails reply with
      | none =>
          exact absurd (final_of_wp (resumeCall_passes fails)) stays
      | some own =>
          have member : (⟨task, tool.ns, own, true⟩ : Failure) ∈
              machine.failing (.callReply task reply) := by
            simp [failing, found, fails]
          have kept := final_of_wp_left
            (resumeCall_sound sane.housed (sane.proper task _ found) reply)
          exact ⟨_, member, disconnects_own kept.runtimes (finds _ member)
            mounted dropped⟩
  | cancelWaiting task =>
      obtain ⟨home, lock, block, _, _, rfl⟩ := step_cancelWaiting.mp taken
      exact absurd rfl stays
  | die dead =>
      obtain ⟨_, rfl⟩ := step_die.mp taken
      exact absurd rfl stays

omit [Platform] in
theorem accounted_boot (world : World) : (boot world).Accounted [] where
  issued := by simp
  unmounted := by simp
  opening task runtime lands := by
    cases lands
  distinct first second runtime lands := by
    cases lands

/-- In every run whose handlers meet their own runtimes, failures of replaced
runtimes are harmless. -/
theorem failure_contained {world : World} {retired : List RuntimeId}
    {action : Action}
    (reaches :
      Reaches (monitor step retiredBy) HandledInTime (boot world, [])
        (machine, retired))
    (meets : HandledInTime (machine, retired) action)
    (taken : step machine action = some after) :
    machine.FailureContained retired action after := by
  have both : machine.Sane ∧ machine.Accounted retired := by
    have kept : ∀ observed : Machine × List RuntimeId,
        Reaches (monitor step retiredBy) HandledInTime (boot world, [])
          observed →
        observed.1.Sane ∧ observed.1.Accounted observed.2 := by
      intro observed reached
      apply reached.invariant ⟨sane_boot world, accounted_boot world⟩
      rintro before action later ⟨sane, accounted⟩ _ moved
      obtain ⟨moved, observation⟩ := monitor_eq_some.mp moved
      rw [observation]
      exact ⟨sane_step sane moved, accounted_step sane accounted moved⟩
    exact kept _ reaches
  exact {
    late := late_failure both.2 meets taken
    own := fun _ _ => disconnected_by_own_failure both.1 meets taken }

end Steps

section Ascii

open scoped Ascii

/-- The downstream process of a call in task 1 goes away. -/
def lostCall : Action :=
  .callReply 1 (.error (.exception { message := "Connection closed" }))

/-- Task 1 has its call dispatched to the runtime task 0 has opened. -/
def callStarted : List Action :=
  [.request (.activateToolsets ["fake_stdio"] "thread" true),
   .acquire 0, .enter 0, .reply 0 (.ok [Ascii.ping]),
   .call "fake_stdio.ping", .acquire 1, .enter 1]

/-- The call fails after its namespace was deactivated and unregistered. -/
theorem failure_contained_unregistered :
    ∃ machine retired after,
      Reaches (monitor step retiredBy) HandledInTime (boot bundledWorld, [])
        (machine, retired) ∧
      machine.failing lostCall = some ⟨1, "fake_stdio", 0, true⟩ ∧
      0 ∈ retired ∧ step machine lostCall = some after ∧
      after.world.mounted "fake_stdio" =
        machine.world.mounted "fake_stdio" := by
  obtain ⟨⟨machine, retired⟩, reaches, fails, old, meets, moves⟩ :=
    exists_reaches_of_execute
      (callStarted ++
        [.request (.deactivateToolsets ["fake_stdio"] "thread" true),
         .acquire 2, .enter 2, .reply 2 (.ok []),
         .request (.unregisterToolsets ["fake_stdio"] false),
         .acquire 3, .enter 3])
      (by decide +kernel :
        (execute (monitor step retiredBy) HandledInTime
          (boot bundledWorld, []) _).any
          (fun observed =>
            observed.1.failing lostCall = some ⟨1, "fake_stdio", 0, true⟩ ∧
              0 ∈ observed.2 ∧ HandledInTime observed lostCall ∧
              (step observed.1 lostCall).isSome = true) = true)
  obtain ⟨after, taken⟩ := Option.isSome_iff_exists.mp moves
  have contained := failure_contained reaches meets taken
  exact ⟨machine, retired, after, reaches, fails, old, taken,
    (contained.late _ fails rfl old).2.1⟩

/-- A refresh replaces the runtime of the call; when the call fails, the
handler disconnects the new runtime and marks the record as failed. -/
theorem late_failure_disconnects :
    ∃ observed,
      Reaches (monitor step retiredBy) (fun _ _ => True)
        (boot bundledWorld, []) observed ∧
      observed.1.failing lostCall = some ⟨1, "fake_stdio", 0, true⟩ ∧
      0 ∈ observed.2 ∧
      observed.1.world.runtimeFor "fake_stdio" = some 1 ∧
      ((observed.1.world.record "fake_stdio").map
        ToolsetRecord.transportState) = some .connected ∧
      (execute step (fun _ _ => True) observed.1
        [lostCall, .callReply 1 (.ok {})]).any
          (fun after =>
            after.world.mounted "fake_stdio" = none ∧
              (after.world.record "fake_stdio").map
                ToolsetRecord.transportState = some .failed) = true :=
  exists_reaches_of_execute
    (callStarted ++
      [.request (.refreshToolsets (some ["fake_stdio"]) false none),
       .acquire 2, .enter 2, .reply 2 (.ok [Ascii.ping]),
       .reply 2 (.ok [])])
    (by decide +kernel)

end Ascii

end Machine

end ToolboxMcp
