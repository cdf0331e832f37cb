import ToolboxMcp.LateFailures
import ToolboxMcp.Turns

/-!
# Counting started calls

The counter of a namespace is raised in the first block of a call and lowered
in its last one.  A call that is cancelled while it waits for the lock of that
last block ends without being taken off; the history variable `lost` collects
these.  In every state of every run the counter is the number of calls that
have started and not ended, plus those lost.
-/

namespace ToolboxMcp

open Effect

/-! ## Populations of a table -/

section Populations

variable {α : Type} (member : Option α → Bool)

/-- How many of the first `bound` places hold a member. -/
def population (bound : Nat) (table : Nat → Option α) : Nat :=
  (List.range bound).countP fun place => member (table place)

theorem population_succ (bound : Nat) (table : Nat → Option α) :
    population member (bound + 1) table =
      population member bound table + (member (table bound)).toNat := by
  rw [population, List.range_succ, List.countP_append]
  cases held : member (table bound) with
  | true =>
      simp [population, held]
  | false =>
      simp [population, held]

theorem population_update_of_le
    {bound place : Nat} (beyond : bound ≤ place)
    (table : Nat → Option α) (value : Option α) :
    population member bound (Function.update table place value) =
      population member bound table := by
  unfold population
  apply List.countP_congr
  intro other inside
  have different : other ≠ place :=
    ((List.mem_range.mp inside).trans_le beyond).ne
  rw [Function.update_of_ne different]

/-- Changing one place changes the population by what it held and holds. -/
theorem population_update
    {bound place : Nat} (inside : place < bound)
    (table : Nat → Option α) (value : Option α) :
    population member bound (Function.update table place value) +
        (member (table place)).toNat =
      population member bound table + (member value).toNat := by
  induction bound with
  | zero =>
      cases inside
  | succ bound inductionHypothesis =>
      rw [population_succ, population_succ]
      by_cases last : place = bound
      · subst last
        rw [population_update_of_le member le_rfl, Function.update_self]
        omega
      · have earlier : place < bound :=
          Nat.lt_of_le_of_ne (Nat.le_of_lt_succ inside) last
        have below := inductionHypothesis earlier
        rw [Function.update_of_ne (Ne.symm last)]
        omega

end Populations

/-! ## Started calls -/

/-- The task is a call on `ns` past `note_call_started` that has not ended. -/
def Task.counted (ns : Namespace) : Task → Bool
  | .calling tool _ => tool.ns = ns
  | .arriving home (.callFinish _) => home = ns
  | .waiting home _ (.callFinish _) => home = ns
  | .entered home _ (.callFinish _) => home = ns
  | _ => false

/-- The namespace of a call that waits for the lock of its last block. -/
def Task.finishing : Task → Option Namespace
  | .waiting ns _ (.callFinish _) => some ns
  | _ => none

/-- The refusal of a deactivation because of calls in flight. -/
def Entry.refusesInFlight : Entry → Bool
  | .failed error => error.code = "in_flight_calls"
  | _ => false

namespace Machine

/-- The calls on `ns` that have started and not ended. -/
def startedCalls (machine : Machine) (ns : Namespace) : Nat :=
  population (fun task => task.any (Task.counted ns)) machine.nextTask
    machine.tasks

/-- The call the action cancels while it waits to be counted off. -/
def losesCall (machine : Machine) (action : Action) (_ : Machine) :
    List Namespace :=
  match action with
  | .cancelWaiting task =>
      ((machine.tasks task).bind Task.finishing).toList
  | _ => []

variable {machine after : Machine} {task : TaskId} {next : Task}

theorem startedCalls_update (ns : Namespace)
    (present : task < machine.nextTask)
    (nextTask : after.nextTask = machine.nextTask)
    (tasks : after.tasks = Function.update machine.tasks task (some next)) :
    after.startedCalls ns +
        ((machine.tasks task).any (Task.counted ns)).toNat =
      machine.startedCalls ns + (next.counted ns).toNat := by
  unfold startedCalls
  rw [nextTask, tasks]
  exact population_update _ present machine.tasks (some next)

theorem startedCalls_spawn (ns : Namespace) (world : World) :
    (machine.spawn next world).startedCalls ns =
      machine.startedCalls ns + (next.counted ns).toNat := by
  have table :
      (machine.spawn next world).tasks =
        Function.update machine.tasks machine.nextTask (some next) :=
    rfl
  have bound : (machine.spawn next world).nextTask = machine.nextTask + 1 :=
    rfl
  unfold startedCalls
  rw [table, bound, population_succ, population_update_of_le _ le_rfl,
    Function.update_self]
  rfl

theorem counted_nextVisit (ns : Namespace) (operation : Operation)
    (rest : List Namespace) (entries : List Entry) :
    (nextVisit operation rest entries).counted ns = false := by
  cases rest <;> rfl

/-! ## One step -/

/-- The counter and the started calls move together, apart from the calls
lost. -/
def Balances (machine : Machine) (ns : Namespace) (lost : Nat)
    (after : Machine) : Prop :=
  after.world.inFlight ns + machine.startedCalls ns =
    machine.world.inFlight ns + after.startedCalls ns + lost

section Moves

variable {ns : Namespace}

theorem balances_spawn {world : World}
    (inFlight : world.inFlight = machine.world.inFlight)
    (uncounted : next.counted ns = false) :
    machine.Balances ns 0 (machine.spawn next world) := by
  have counter :
      (machine.spawn next world).world.inFlight ns =
        machine.world.inFlight ns :=
    congrFun inFlight ns
  have started :
      (machine.spawn next world).startedCalls ns =
        machine.startedCalls ns + (next.counted ns).toNat :=
    startedCalls_spawn ns world
  rw [uncounted] at started
  unfold Balances
  rw [counter, started]
  rfl

/-- A task moves on and stays counted or uncounted. -/
theorem balances_same {current : Task} (sane : machine.Sane)
    (found : machine.tasks task = some current)
    (nextTask : after.nextTask = machine.nextTask)
    (tasks : after.tasks = Function.update machine.tasks task (some next))
    (inFlight : after.world.inFlight = machine.world.inFlight)
    (same : next.counted ns = current.counted ns) :
    machine.Balances ns 0 after := by
  have started :=
    startedCalls_update ns (sane.present found) nextTask tasks
  have before : (machine.tasks task).any (Task.counted ns) =
      current.counted ns := by
    rw [found]
    rfl
  rw [before, same] at started
  unfold Balances
  rw [inFlight]
  omega

/-- The end of any stretch of a lifecycle block. -/
theorem balances_proceed {current : Task} (sane : machine.Sane)
    {home : Namespace} {lock : LockId} {operation : Operation}
    {rest : List Namespace} {entries : List Entry}
    {program : ServiceM Progress}
    (found : machine.tasks task = some current)
    (uncounted : current.counted ns = false)
    (sound : wp program
      (fun progress after =>
        Sound home machine.world after ∧ progress.Proper after home)
      (fun _ after => Sound home machine.world after) machine.world) :
    machine.Balances ns 0
      (machine.proceed task home lock operation rest entries
        (outcome program machine.world)) := by
  rcases wp_cases sound with
    ⟨stage | more, after, computed, kept, _⟩ | ⟨raised, after, computed, kept⟩
  · rw [computed]
    exact balances_same sane found rfl rfl kept.inFlight uncounted.symm
  · rw [computed]
    have still := counted_nextVisit ns operation rest (entries ++ more)
    exact balances_same sane found rfl rfl kept.inFlight
      (still.trans uncounted.symm)
  · rw [computed]
    exact balances_same sane found rfl rfl kept.inFlight uncounted.symm

/-- However a stretch of a started call ends, the call stays counted. -/
theorem proceedCall_counted (machine : Machine) (task : TaskId)
    (ns : Namespace) (locks : LockId → Mutex TaskId)
    {tool : MountedTool} {program : ServiceM CallProgress} {world : World}
    (sound : wp program
      (fun progress after =>
        Sound tool.ns world after ∧ progress.Proper after tool.ns)
      (fun _ after => Sound tool.ns world after) world) :
    ∃ next,
      (proceedCall { machine with locks := locks } task tool
          (outcome program world)).tasks =
        Function.update machine.tasks task (some next) ∧
      next.counted ns = decide (tool.ns = ns) ∧
      (proceedCall { machine with locks := locks } task tool
          (outcome program world)).nextTask = machine.nextTask ∧
      (proceedCall { machine with locks := locks } task tool
          (outcome program world)).world.inFlight = world.inFlight := by
  rcases wp_cases sound with
    ⟨stage | result, after, computed, kept, _⟩ |
      ⟨raised, after, computed, kept⟩
  · rw [computed]
    exact ⟨_, rfl, rfl, rfl, kept.inFlight⟩
  · rw [computed]
    exact ⟨_, rfl, rfl, rfl, kept.inFlight⟩
  · rw [computed]
    exact ⟨_, rfl, rfl, rfl, kept.inFlight⟩

/-- Admitting a call counts it and starts it. -/
theorem balances_startCall (sane : machine.Sane)
    {home : Namespace} {lock : LockId} {mountedName : String}
    (found :
      machine.tasks task = some (.entered home lock (.callStart mountedName))) :
    machine.Balances ns 0 (machine.startCall task lock mountedName) := by
  unfold startCall
  rcases admitCall_cases machine.world mountedName with
    ⟨tool, _, computed⟩ | ⟨raised, computed⟩
  · rw [computed]
    have housed : (machine.world.noteCallStarted tool.ns).Housed :=
      sane.housed
    have sound :
        wp (dispatchCall tool)
          (fun progress after =>
            Sound tool.ns (machine.world.noteCallStarted tool.ns) after ∧
              progress.Proper after tool.ns)
          (fun _ after =>
            Sound tool.ns (machine.world.noteCallStarted tool.ns) after)
          (machine.world.noteCallStarted tool.ns) :=
      dispatchCall_sound housed
    obtain ⟨next, tasks, counted, nextTask, inFlight⟩ :=
      proceedCall_counted machine task ns
        (Function.update machine.locks lock
          (Mutex.release (machine.locks lock))) sound
    have started :=
      startedCalls_update ns (sane.present found) nextTask tasks
    have before : (machine.tasks task).any (Task.counted ns) = false := by
      rw [found]
      rfl
    rw [before, counted] at started
    change machine.Balances ns 0
      (proceedCall
        { machine with
          locks := Function.update machine.locks lock
            (Mutex.release (machine.locks lock)) } task tool
        (outcome (dispatchCall tool)
          (machine.world.noteCallStarted tool.ns)))
    unfold Balances
    rw [inFlight]
    by_cases same : tool.ns = ns
    · subst same
      simp only [World.noteCallStarted_inFlight, Function.update_self,
        decide_true, Bool.toNat_true, Bool.toNat_false] at started ⊢
      omega
    · simp only [World.noteCallStarted_inFlight,
        Function.update_of_ne (Ne.symm same), same, decide_false,
        Bool.toNat_false] at started ⊢
      omega
  · rw [computed]
    exact balances_same sane found rfl rfl rfl rfl

/-- The last block takes the call off, as long as it is on the counter. -/
theorem balances_callFinish [Platform] (sane : machine.Sane)
    {home : Namespace} {lock : LockId}
    {result : Except Raised CallToolResult}
    (found :
      machine.tasks task = some (.entered home lock (.callFinish result)))
    (covered : machine.startedCalls ns ≤ machine.world.inFlight ns) :
    machine.Balances ns 0
      (machine.enter task home lock (.callFinish result)) := by
  have started :
      (machine.enter task home lock (.callFinish result)).startedCalls ns +
          ((machine.tasks task).any (Task.counted ns)).toNat =
        machine.startedCalls ns +
          ((Task.answered (answerOf result)).counted ns).toNat :=
    startedCalls_update ns (sane.present found) rfl rfl
  have before :
      (machine.tasks task).any (Task.counted ns) = decide (home = ns) := by
    rw [found]
    rfl
  have ended :
      (Task.answered (answerOf result)).counted ns = false := rfl
  have counter :
      (machine.enter task home lock (.callFinish result)).world =
        machine.world.noteCallFinished home := rfl
  rw [before, ended] at started
  unfold Balances
  rw [counter]
  by_cases same : home = ns
  · subst same
    simp only [World.noteCallFinished_inFlight, Function.update_self,
      decide_true, Bool.toNat_true, Bool.toNat_false] at started ⊢
    omega
  · simp only [World.noteCallFinished_inFlight,
      Function.update_of_ne (Ne.symm same), same, decide_false,
      Bool.toNat_false] at started ⊢
    omega

end Moves

section Steps

variable [Platform] {action : Action}

omit [Platform] in
theorem balances_acquire (sane : machine.Sane) {home ns : Namespace}
    {block : Block}
    (found : machine.tasks task = some (.arriving home block)) :
    machine.Balances ns 0 (machine.acquire task home block) := by
  obtain ⟨_, tasks, _, nextTask, _, _, _, _, inFlight, _⟩ :=
    machine.namespaceLock_spec home
  unfold acquire
  generalize machine.namespaceLock home = looked at *
  obtain ⟨lock, middle⟩ := looked
  simp only at tasks nextTask inFlight ⊢
  have table : ∀ next : Task,
      Function.update middle.tasks task (some next) =
        Function.update machine.tasks task (some next) := by
    intro next
    rw [tasks]
  split
  · exact balances_same sane found nextTask
      (table (.entered home lock block)) inFlight
      (by cases block <;> rfl)
  · exact balances_same sane found nextTask
      (table (.waiting home lock block)) inFlight
      (by cases block <;> rfl)

theorem balances_enter (sane : machine.Sane) {home ns : Namespace}
    {lock : LockId} {block : Block}
    (found : machine.tasks task = some (.entered home lock block))
    (covered : machine.startedCalls ns ≤ machine.world.inFlight ns) :
    machine.Balances ns 0 (machine.enter task home lock block) := by
  cases block with
  | operation operation rest entries =>
      exact balances_proceed sane found rfl
        (start_sound sane.housed operation)
  | callStart mountedName =>
      exact balances_startCall sane found
  | callFinish result =>
      exact balances_callFinish sane found covered

omit [Platform] in
theorem balances_callReply (sane : machine.Sane) {ns : Namespace}
    {tool : MountedTool} {stage : CallStage}
    (reply : Except Raised CallToolResult)
    (found : machine.tasks task = some (.calling tool stage)) :
    machine.Balances ns 0
      (machine.proceedCall task tool
        (outcome (resumeCall tool stage reply) machine.world)) := by
  obtain ⟨next, tasks, counted, nextTask, inFlight⟩ :=
    proceedCall_counted machine task ns machine.locks
      (resumeCall_sound sane.housed (sane.proper task _ found) reply)
  exact balances_same sane found nextTask tasks inFlight counted

omit [Platform] in
theorem balances_cancelWaiting (sane : machine.Sane) {home ns : Namespace}
    {lock : LockId} {block : Block}
    (found : machine.tasks task = some (.waiting home lock block)) :
    machine.Balances ns
      ((machine.losesCall (.cancelWaiting task) after).count ns)
      (machine.cancelWaiting task lock) := by
  cases block with
  | callFinish result =>
      have started :
          (machine.cancelWaiting task lock).startedCalls ns +
              ((machine.tasks task).any (Task.counted ns)).toNat =
            machine.startedCalls ns +
              ((Task.answered (.raised .cancelled)).counted ns).toNat :=
        startedCalls_update ns (sane.present found) rfl rfl
      have before :
          (machine.tasks task).any (Task.counted ns) = decide (home = ns) := by
        rw [found]
        rfl
      have ended :
          (Task.answered (.raised .cancelled)).counted ns = false := rfl
      have lost :
          machine.losesCall (.cancelWaiting task) after = [home] := by
        simp [losesCall, found, Task.finishing]
      have counter :
          (machine.cancelWaiting task lock).world = machine.world := rfl
      rw [before, ended] at started
      unfold Balances
      rw [lost, counter]
      by_cases same : home = ns
      · subst same
        simp only [decide_true, Bool.toNat_true, Bool.toNat_false,
          List.count_singleton_self] at started ⊢
        omega
      · simp only [same, decide_false, Bool.toNat_false] at started
        rw [List.count_singleton, beq_false_of_ne same]
        simp only [Bool.false_eq_true, if_false]
        omega
  | _ =>
      have lost : machine.losesCall (.cancelWaiting task) after = [] := by
        simp [losesCall, found, Task.finishing]
      rw [lost]
      exact balances_same sane found rfl rfl rfl rfl

/-- Every step moves the counter with the started calls. -/
theorem balances_step (sane : machine.Sane) {ns : Namespace}
    (covered : machine.startedCalls ns ≤ machine.world.inFlight ns)
    (taken : step machine action = some after) :
    machine.Balances ns ((machine.losesCall action after).count ns)
      after := by
  cases action with
  | request request =>
      obtain ⟨_, rfl⟩ := step_request.mp taken
      unfold Machine.request
      rcases wp_cases (accept_untouched request) with
        ⟨error | ⟨operation, namespaces⟩, world, computed, untouched⟩ |
          ⟨raised, world, computed, untouched⟩
      · rw [computed]
        exact balances_spawn untouched.inFlight rfl
      · rw [computed]
        exact balances_spawn untouched.inFlight (counted_nextVisit _ _ _ _)
      · rw [computed]
        exact balances_spawn untouched.inFlight rfl
  | call mountedName =>
      obtain ⟨_, rfl⟩ := step_call.mp taken
      unfold Machine.call
      rcases locateCall_cases machine.world mountedName with
        ⟨tool, _, computed⟩ | ⟨raised, computed⟩
      · rw [computed]
        exact balances_spawn rfl rfl
      · rw [computed]
        exact balances_spawn rfl rfl
  | acquire task =>
      obtain ⟨home, block, found, _, rfl⟩ := step_acquire.mp taken
      exact balances_acquire sane found
  | grant task =>
      obtain ⟨home, lock, block, found, _, _, rfl⟩ := step_grant.mp taken
      exact balances_same sane found rfl rfl rfl (by cases block <;> rfl)
  | enter task =>
      obtain ⟨home, lock, block, found, _, rfl⟩ := step_enter.mp taken
      exact balances_enter sane found covered
  | reply task reply =>
      obtain ⟨home, lock, operation, rest, entries, stage, found, _, rfl⟩ :=
        step_reply.mp taken
      exact balances_proceed sane found rfl
        (resume_sound sane.housed (sane.proper task _ found) reply)
  | callReply task reply =>
      obtain ⟨tool, stage, found, _, rfl⟩ := step_callReply.mp taken
      exact balances_callReply sane reply found
  | cancelWaiting task =>
      obtain ⟨home, lock, block, found, _, rfl⟩ :=
        step_cancelWaiting.mp taken
      exact balances_cancelWaiting sane found
  | die runtime =>
      obtain ⟨_, rfl⟩ := step_die.mp taken
      rfl

end Steps

/-! ## Whole runs -/

section Runs

variable [Platform]

/-- The counter holds the calls that have started and not ended, and those
lost. -/
theorem inFlight_of_reaches {world : World} {machine : Machine}
    {lost : List Namespace}
    (reaches :
      Reaches (monitor step losesCall) (fun _ _ => True) (boot world, [])
        (machine, lost)) (ns : Namespace) :
    machine.world.inFlight ns = machine.startedCalls ns + lost.count ns := by
  have counts : ∀ observed : Machine × List Namespace,
      Reaches (monitor step losesCall) (fun _ _ => True) (boot world, [])
          observed →
        observed.1.Sane ∧
          observed.1.world.inFlight ns =
            observed.1.startedCalls ns + observed.2.count ns := by
    intro observed reached
    apply reached.invariant
    · exact ⟨sane_boot world, rfl⟩
    · rintro ⟨before, seen⟩ action ⟨after, later⟩ ⟨sane, balance⟩ _ taken
      obtain ⟨moved, collected⟩ := monitor_eq_some.mp taken
      have counter :
          before.world.inFlight ns =
            before.startedCalls ns + seen.count ns := balance
      have covered : before.startedCalls ns ≤ before.world.inFlight ns := by
        omega
      have moves :
          after.world.inFlight ns + before.startedCalls ns =
            before.world.inFlight ns + after.startedCalls ns +
              (before.losesCall action after).count ns :=
        balances_step sane covered moved
      refine ⟨sane_step sane moved, ?_⟩
      rw [collected, List.count_append]
      change after.world.inFlight ns =
        after.startedCalls ns +
          (seen.count ns + (before.losesCall action after).count ns)
      omega
  exact (counts _ reaches).2

/-- Nothing of the calls on `ns` is left over: the counter is exact, and once
no call is open a deactivation is not refused on their account. -/
structure CountsExactly (machine : Machine) (ns : Namespace) : Prop where
  exact : machine.world.inFlight ns = machine.startedCalls ns
  settled : machine.startedCalls ns = 0 → machine.world.inFlight ns = 0
  deactivates :
    machine.startedCalls ns = 0 →
      ∀ scope force,
        ∀ entry ∈ reported
            (outcome (start (.deactivate scope force) ns) machine.world).1,
          entry.refusesInFlight = false

omit [Platform] in
/-- Without a call on the counter a deactivation is never refused for one. -/
theorem startDeactivate_admits {world : World} {ns : Namespace}
    (quiescent : world.inFlight ns = 0) (scope : Scope) (force : Bool) :
    wp (startDeactivate ns scope force)
      (fun progress _ =>
        ∀ entry ∈ reported (.ok progress), entry.refusesInFlight = false)
      (fun _ _ => True) world := by
  unfold startDeactivate
  rw [wp_bind, wp_get]
  cases found : world.document.getToolset ns with
  | none =>
      simp only [World.record, found]
      apply rejected_rule
      · intro after _ entry member
        rw [List.mem_singleton.mp member]
        rfl
      · exact fun _ _ _ _ => trivial
  | some record =>
      have named : (withoutScope record scope).ns = ns := by
        simp [withoutScope, StateDocument.getToolset_ns found]
      have finished : ∀ (reduced : ToolsetRecord) (after : World),
          reduced.ns = ns →
          wp (finishDeactivate ns scope force reduced)
            (fun progress _ =>
              ∀ entry ∈ reported (.ok progress), entry.refusesInFlight = false)
            (fun _ _ => True) after := by
        intro reduced after same
        refine finishDeactivate_rule same ?_ fun _ _ _ _ => trivial
        intro final _ entry member
        rw [List.mem_singleton.mp member]
        rfl
      simp only [World.record, found]
      split
      · intro entry member
        rw [List.mem_singleton.mp member]
        rfl
      rw [if_neg (by simp [quiescent])]
      change wp
        (if (withoutScope record scope).loadedScopes.isEmpty then _ else _)
        _ _ world
      split
      · rw [wp_bind, wp_disconnect]
        cases mounted : world.runtimes.get ns with
        | none =>
            exact finished _ _ named
        | some existing =>
            intro entry member
            cases member
      · exact finished _ _ named

theorem deactivates_of_quiescent {machine : Machine} {ns : Namespace}
    (quiescent : machine.world.inFlight ns = 0)
    (scope : Scope) (force : Bool) :
    ∀ entry ∈ reported
        (outcome (start (.deactivate scope force) ns) machine.world).1,
      entry.refusesInFlight = false := by
  have admits :
      wp (start (.deactivate scope force) ns)
        (fun progress _ =>
          ∀ entry ∈ reported (.ok progress), entry.refusesInFlight = false)
        (fun _ _ => True) machine.world :=
    startDeactivate_admits quiescent scope force
  rcases wp_cases admits with
    ⟨progress, final, computed, admitted⟩ | ⟨raised, final, computed, _⟩
  · rw [computed]
    exact admitted
  · rw [computed]
    intro entry member
    cases member

/-- The counters are exact if and only if no call has been cancelled while it
waited to be taken off. -/
theorem countsExactly_iff {world : World} {machine : Machine}
    {lost : List Namespace}
    (reaches :
      Reaches (monitor step losesCall) (fun _ _ => True) (boot world, [])
        (machine, lost)) :
    (∀ ns, machine.CountsExactly ns) ↔ lost = [] := by
  have balance := inFlight_of_reaches reaches
  constructor
  · intro counts
    apply List.eq_nil_iff_forall_not_mem.mpr
    intro ns member
    have positive : 0 < lost.count ns := List.count_pos_iff.mpr member
    have sum := balance ns
    rw [(counts ns).exact] at sum
    omega
  · intro none ns
    have exact : machine.world.inFlight ns = machine.startedCalls ns := by
      rw [balance ns, none]
      rfl
    refine ⟨exact, exact.trans, ?_⟩
    intro settled scope force
    exact deactivates_of_quiescent (exact.trans settled) scope force

end Runs

section Ascii

open scoped Ascii

/-- One call is open and counted. -/
theorem countsExactly_started :
    ∃ machine lost,
      Reaches (monitor step losesCall) (fun _ _ => True)
        (boot bundledWorld, []) (machine, lost) ∧
      machine.startedCalls "fake_stdio" = 1 ∧
      ∀ ns, machine.CountsExactly ns := by
  obtain ⟨⟨machine, lost⟩, reaches, started, none⟩ :=
    exists_reaches_of_execute callStarted
      (by decide +kernel :
        (execute (monitor step losesCall) (fun _ _ => True)
          (boot bundledWorld, []) _).any
          (fun observed =>
            observed.1.startedCalls "fake_stdio" = 1 ∧ observed.2 = []) =
          true)
  exact ⟨machine, lost, reaches, started,
    (countsExactly_iff reaches).mpr none⟩

/-- The call returns while a health check has the lock and is cancelled before
it gets it: nothing is open any more, and a deactivation is refused. -/
theorem lost_call_blocks :
    ∃ machine,
      Reaches step (fun _ _ => True) (boot bundledWorld) machine ∧
      machine.startedCalls "fake_stdio" = 0 ∧
      machine.world.inFlight "fake_stdio" = 1 ∧
      (reported
        (outcome (start (.deactivate .thread false) "fake_stdio")
          machine.world).1).any Entry.refusesInFlight = true :=
  exists_reaches_of_execute
    (callStarted ++
      [.request (.checkToolsetHealth ["fake_stdio"] none),
       .acquire 2, .enter 2, .callReply 1 (.ok {}), .acquire 1,
       .cancelWaiting 1, .reply 2 (.ok [Ascii.ping])])
    (by decide +kernel)

end Ascii

end Machine

end ToolboxMcp
