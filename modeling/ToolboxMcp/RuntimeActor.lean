import Mathlib.Logic.Function.Basic
import ToolboxMcp.Library.Runs
import ToolboxMcp.Service.Calls

/-!
# The actor behind a runtime

`_runtime_actor` owns the downstream session and executes the commands callers
put on its queue, one at a time.  A command carries a future its caller awaits.
The actor is a partial step function again: callers send and give up, the
session answers, and a cancellation may arrive at any await.
-/

namespace ToolboxMcp

abbrev FutureId := Nat

inductive FutureState (α : Type) where
  | pending
  | result (value : α)
  | exception (exception : PyException)
  | cancelled

def FutureState.done {α : Type} : FutureState α → Bool
  | .pending => false
  | _ => true

/-- `future.set_result` and `future.set_exception`. -/
def FutureState.answer {α : Type} : Except PyException α → FutureState α
  | .ok value => .result value
  | .error raised => .exception raised

/-- `if not future.done(): future.set_…`. -/
def FutureState.settle {α : Type} (outcome state : FutureState α) :
    FutureState α :=
  if state.done then state else outcome

/-- A listed inventory and what it is normalised to. -/
structure RuntimeProbe where
  tools : List Tool
  normalizedTools : List ToolSchema

/-- What the future of a command is completed with. -/
inductive RuntimeReply where
  | result (result : CallToolResult)
  | probe (probe : RuntimeProbe)
  | closed

abbrev Futures :=
  FutureId → FutureState RuntimeReply

def Futures.settle
    (futures : Futures) (future : FutureId)
    (outcome : FutureState RuntimeReply) : Futures :=
  Function.update futures future (outcome.settle (futures future))

/-- What the downstream session returns. -/
inductive SessionReply where
  | called (result : CallToolResult)
  | listed (tools : List Tool)

inductive CommandKind where
  | callTool
  | probe
  | close
  | other (kind : String)
deriving DecidableEq, Repr

structure RuntimeCommand where
  kind : CommandKind
  future : FutureId
deriving DecidableEq, Repr

/-- Where the actor awaits.  While it unwinds it leaves the transport's exit
stack. -/
inductive ActorPhase where
  | bootstrapping
  | receiving
  | executing (command : RuntimeCommand)
  | unwinding
  | done
deriving DecidableEq, Repr

/-- How the `async with` statement is left. -/
inductive Ending where
  | returned
  | failed (exception : PyException)
  | cancelled
deriving DecidableEq, Repr

structure RuntimeActor where
  ns : Namespace
  phase : ActorPhase := .bootstrapping
  bootstrap : FutureState RuntimeProbe := .pending
  queue : List RuntimeCommand := []
  futures : Futures := fun _ => .pending
  /-- How many commands were ever put on the queue. -/
  issued : Nat := 0
  current : Option FutureId := none
  closed : Bool := false

inductive ActorAction where
  | bootstrap (outcome : Except PyException (List Tool))
  /-- `open_runtime` gives the bootstrap up. -/
  | abandonBootstrap
  | send (kind : CommandKind)
  | receive
  | reply (reply : Except PyException SessionReply)
  /-- A caller stops waiting; after a timeout it aborts the runtime. -/
  | abandon (future : FutureId) (timedOut : Bool)
  | cancel
  | unwind (ending : Ending)

namespace RuntimeActor

variable (actor : RuntimeActor)

def isRunning : Bool :=
  actor.phase ≠ .done ∧ !actor.closed

def settleCurrent (outcome : FutureState RuntimeReply) : Futures :=
  match actor.current with
  | some future => actor.futures.settle future outcome
  | none => actor.futures

def failPendingCommands (error : PyException) :
    List RuntimeCommand → Futures → Futures
  | [], futures => futures
  | command :: rest, futures =>
      failPendingCommands error rest
        (futures.settle command.future (.exception error))

def stopError : Ending → PyException
  | .returned =>
      { message := "Managed runtime for " ++ actor.ns ++ " stopped" }
  | .failed exception => exception
  | .cancelled =>
      { message := "Managed runtime for " ++ actor.ns ++ " was cancelled" }

/-- The `except` clauses and the `finally` clause around the session. -/
def stop (ending : Ending) : RuntimeActor :=
  let error := actor.stopError ending
  { actor with
    phase := .done
    bootstrap :=
      if ending = .returned then
        actor.bootstrap
      else
        (FutureState.exception error).settle actor.bootstrap
    queue := []
    futures :=
      failPendingCommands error actor.queue
        (actor.settleCurrent (.exception error)) }

/-- What the loop makes of the command it has taken from the queue. -/
def take (command : RuntimeCommand) (rest : List RuntimeCommand) :
    RuntimeActor :=
  match command.kind with
  | .close =>
      { actor with
        queue := rest
        futures := actor.futures.settle command.future (.result .closed)
        current := none
        phase := .unwinding }
  | .other kind =>
      { actor with
        queue := rest
        futures :=
          actor.futures.settle command.future
            (.exception { message := "Unknown runtime command: " ++ kind })
        current := none }
  | _ =>
      { actor with
        queue := rest
        current := some command.future
        phase := .executing command }

section Session

variable [Platform]

/-- An inventory with duplicate names is an exception. -/
def probeOf (tools : List Tool) : Except PyException RuntimeProbe :=
  (validateToolInventory actor.ns tools).map (RuntimeProbe.mk tools)

/-- What the body of the command makes of what the session does. -/
def outcomeOf (kind : CommandKind) :
    Except PyException SessionReply →
      Option (Except PyException RuntimeReply)
  | .error raised => some (.error raised)
  | .ok (.called result) =>
      if kind = .callTool then some (.ok (.result result)) else none
  | .ok (.listed tools) =>
      if kind = .probe then
        some ((actor.probeOf tools).map .probe)
      else
        none

end Session

/-- An answer of the session reaches the caller that still waits for it. -/
def deliver (outcome : Except PyException RuntimeReply) : RuntimeActor :=
  { actor with
    futures := actor.settleCurrent (.answer outcome)
    current := none
    phase := .receiving }

/-- A cancellation passes the `except Exception` of a command, but its
`finally` clause forgets the future. -/
def cancelled : RuntimeActor :=
  { actor with
    current :=
      match actor.phase with
      | .executing _ => none
      | _ => actor.current
    phase := .unwinding }

def step [Platform] (actor : RuntimeActor) :
    ActorAction → Option RuntimeActor
  | .bootstrap outcome =>
      if actor.phase = .bootstrapping then
        match outcome.bind actor.probeOf with
        | .ok probe =>
            -- `set_result` raises on a bootstrap that was given up.
            if actor.bootstrap.done then
              some { actor with phase := .unwinding }
            else
              some { actor with
                bootstrap := .result probe, phase := .receiving }
        | .error _ => some { actor with phase := .unwinding }
      else
        none
  | .abandonBootstrap =>
      some { actor with
        bootstrap := FutureState.cancelled.settle actor.bootstrap }
  | .send kind =>
      if actor.phase ≠ .bootstrapping ∧ actor.isRunning = true then
        some { actor with
          queue := actor.queue ++ [⟨kind, actor.issued⟩]
          issued := actor.issued + 1
          closed := kind = .close }
      else
        none
  | .receive =>
      match actor.phase, actor.queue with
      | .receiving, command :: rest => some (actor.take command rest)
      | _, _ => none
  | .reply reply =>
      match actor.phase with
      | .executing command =>
          (actor.outcomeOf command.kind reply).map actor.deliver
      | _ => none
  | .abandon future timedOut =>
      if future < actor.issued ∧ (actor.futures future).done = false then
        some { actor with
          futures := Function.update actor.futures future .cancelled
          closed := actor.closed || timedOut }
      else
        none
  | .cancel =>
      if actor.phase = .done then none else some actor.cancelled
  | .unwind ending =>
      if actor.phase = .unwinding then some (actor.stop ending) else none

/-! ## Futures -/

@[simp]
theorem done_settle {futures : Futures} {future tested : FutureId}
    {outcome : FutureState RuntimeReply} :
    (futures.settle future outcome tested).done = true ↔
      (futures tested).done = true ∨
        tested = future ∧ outcome.done = true := by
  by_cases same : tested = future
  · subst same
    cases settled : (futures tested).done with
    | true =>
        simp [Futures.settle, FutureState.settle, settled]
    | false =>
        simp [Futures.settle, FutureState.settle, settled]
  · simp [Futures.settle, same]

/-- Draining the queue completes every command on it. -/
@[simp]
theorem done_failPendingCommands {error : PyException}
    {commands : List RuntimeCommand} {futures : Futures}
    {tested : FutureId} :
    (failPendingCommands error commands futures tested).done = true ↔
      (futures tested).done = true ∨
        ∃ command ∈ commands, command.future = tested := by
  induction commands generalizing futures with
  | nil =>
      simp [failPendingCommands]
  | cons command rest inductionHypothesis =>
      have settled :
          (.exception error : FutureState RuntimeReply).done = true := rfl
      rw [failPendingCommands, inductionHypothesis, done_settle]
      constructor
      · rintro ((done | ⟨same, _⟩) | ⟨other, member, carries⟩)
        · exact .inl done
        · exact .inr ⟨command, List.mem_cons_self, same.symm⟩
        · exact .inr ⟨other, List.mem_cons_of_mem _ member, carries⟩
      · rintro (done | ⟨other, member, carries⟩)
        · exact .inl (.inl done)
        · rcases List.mem_cons.mp member with same | later
          · rw [same] at carries
            exact .inl (.inr ⟨carries.symm, settled⟩)
          · exact .inr ⟨other, later, carries⟩

theorem done_settleCurrent {actor : RuntimeActor}
    {outcome : FutureState RuntimeReply} {tested : FutureId}
    (settles : outcome.done = true) :
    (actor.settleCurrent outcome tested).done = true ↔
      (actor.futures tested).done = true ∨ actor.current = some tested := by
  unfold settleCurrent
  cases actor.current with
  | none =>
      simp
  | some future =>
      rw [done_settle, Option.some.injEq]
      simp only [settles, and_true]
      exact or_congr_right eq_comm

/-! ## Commands in the actor's hands -/

/-- Every command is completed, queued or being executed. -/
structure Accountable (actor : RuntimeActor) : Prop where
  accounted :
    ∀ future < actor.issued,
      (actor.futures future).done = true ∨
        (∃ command ∈ actor.queue, command.future = future) ∨
        actor.current = some future
  current :
    ∀ future, actor.current = some future →
      ∃ command,
        actor.phase = .executing command ∧ command.future = future
  stopped : actor.phase = .done → actor.queue = []

/-- No cancellation arrives while a caller waits for the command being
executed. -/
def sparesCommand (actor : RuntimeActor) (action : ActorAction) : Bool :=
  match actor.phase, action with
  | .executing command, .cancel => (actor.futures command.future).done
  | _, _ => true

variable {actor} {after : RuntimeActor}

theorem accountable_send (accountable : actor.Accountable)
    {kind : CommandKind} (running : actor.isRunning = true)
    {closed : Bool} :
    Accountable { actor with
      queue := actor.queue ++ [⟨kind, actor.issued⟩]
      issued := actor.issued + 1
      closed := closed } where
  accounted := by
    intro future present
    rcases Nat.lt_succ_iff_lt_or_eq.mp present with old | same
    · rcases accountable.accounted future old with
        done | ⟨command, member, carries⟩ | executing
      · exact .inl done
      · exact .inr (.inl
          ⟨command, List.mem_append_left _ member, carries⟩)
      · exact .inr (.inr executing)
    · right
      left
      exact ⟨⟨kind, actor.issued⟩, by simp, same.symm⟩
  current := accountable.current
  stopped := by
    intro done
    have stopped : actor.phase = .done := done
    simp [isRunning, stopped] at running

theorem accountable_take (accountable : actor.Accountable)
    {command : RuntimeCommand} {rest : List RuntimeCommand}
    (receiving : actor.phase = .receiving)
    (head : actor.queue = command :: rest) :
    (actor.take command rest).Accountable := by
  have idle : ∀ future, actor.current ≠ some future := by
    intro future executing
    obtain ⟨other, phase, _⟩ := accountable.current future executing
    rw [receiving] at phase
    cases phase
  have located : ∀ future < actor.issued,
      (actor.futures future).done = true ∨ future = command.future ∨
        ∃ other ∈ rest, other.future = future := by
    intro future present
    rcases accountable.accounted future present with
      done | ⟨other, member, carries⟩ | executing
    · exact .inl done
    · rw [head] at member
      rcases List.mem_cons.mp member with same | later
      · rw [same] at carries
        exact .inr (.inl carries.symm)
      · exact .inr (.inr ⟨other, later, carries⟩)
    · exact absurd executing (idle future)
  unfold take
  split
  · constructor
    · intro future present
      have settled : (FutureState.result RuntimeReply.closed).done = true :=
        rfl
      have place := located future present
      simp only [done_settle, settled, and_true, reduceCtorEq, or_false]
      tauto
    · exact fun future executing => by cases executing
    · exact fun done => by cases done
  · rename_i kind _
    constructor
    · intro future present
      have settled :
          (.exception { message := "Unknown runtime command: " ++ kind } :
            FutureState RuntimeReply).done = true := rfl
      have place := located future present
      simp only [done_settle, settled, and_true, reduceCtorEq, or_false]
      tauto
    · exact fun future executing => by cases executing
    · intro done
      have same : actor.phase = .done := done
      rw [receiving] at same
      cases same
  · constructor
    · intro future present
      rcases located future present with done | same | later
      · exact .inl done
      · exact .inr (.inr (congrArg some same.symm))
      · exact .inr (.inl later)
    · intro future executing
      exact ⟨command, rfl, Option.some.inj executing⟩
    · exact fun done => by cases done

theorem accountable_deliver (accountable : actor.Accountable)
    {outcome : Except PyException RuntimeReply} :
    (actor.deliver outcome).Accountable := by
  have settles : (FutureState.answer outcome).done = true := by
    cases outcome with
    | ok value =>
        rfl
    | error exception =>
        rfl
  constructor
  · intro future present
    rcases accountable.accounted future present with
      done | queued | executing
    · exact .inl ((done_settleCurrent settles).mpr (.inl done))
    · exact .inr (.inl queued)
    · exact .inl ((done_settleCurrent settles).mpr (.inr executing))
  · exact fun future executing => by cases executing
  · exact fun done => by cases done

theorem accountable_cancelled (accountable : actor.Accountable)
    (spares : actor.sparesCommand .cancel = true) :
    actor.cancelled.Accountable := by
  have forgotten : actor.cancelled.current = none := by
    unfold cancelled
    cases holds : actor.current with
    | none =>
        cases actor.phase <;> rfl
    | some future =>
        obtain ⟨command, phase, _⟩ := accountable.current future holds
        simp [phase]
  constructor
  · intro future present
    rcases accountable.accounted future present with
      done | queued | executing
    · exact .inl done
    · exact .inr (.inl queued)
    · obtain ⟨command, phase, carries⟩ :=
        accountable.current future executing
      left
      have answered : (actor.futures command.future).done = true := by
        simpa [sparesCommand, phase] using spares
      rw [carries] at answered
      exact answered
  · intro future executing
    rw [forgotten] at executing
    cases executing
  · exact fun done => by cases done

theorem accountable_stop (accountable : actor.Accountable)
    (unwinding : actor.phase = .unwinding) (ending : Ending) :
    (actor.stop ending).Accountable := by
  have settled : ∀ error : PyException,
      (.exception error : FutureState RuntimeReply).done = true :=
    fun _ => rfl
  have idle : ∀ future, actor.current ≠ some future := by
    intro future executing
    obtain ⟨command, phase, _⟩ := accountable.current future executing
    rw [unwinding] at phase
    cases phase
  constructor
  · intro future present
    left
    rw [stop, done_failPendingCommands, done_settleCurrent (settled _)]
    rcases accountable.accounted future present with
      done | queued | executing
    · exact .inl (.inl done)
    · exact .inr queued
    · exact .inl (.inr executing)
  · exact fun future executing => absurd executing (idle future)
  · exact fun _ => rfl

theorem accountable_abandon (accountable : actor.Accountable)
    {future : FutureId} {closed : Bool} :
    Accountable { actor with
      futures := Function.update actor.futures future .cancelled
      closed := closed } where
  accounted := by
    intro tested present
    rcases accountable.accounted tested present with
      done | queued | executing
    · left
      by_cases same : tested = future
      · subst same
        simp [FutureState.done]
      · simpa [same] using done
    · exact .inr (.inl queued)
    · exact .inr (.inr executing)
  current := accountable.current
  stopped := accountable.stopped

/-- Leaving the bootstrap: nobody could send a command before. -/
theorem accountable_bootstrapped (accountable : actor.Accountable)
    (booting : actor.phase = .bootstrapping)
    {bootstrap : FutureState RuntimeProbe} {phase : ActorPhase}
    (alive : phase ≠ .done) :
    Accountable { actor with bootstrap := bootstrap, phase := phase } where
  accounted := accountable.accounted
  current := by
    intro future executing
    obtain ⟨command, same, _⟩ := accountable.current future executing
    rw [booting] at same
    cases same
  stopped done := absurd done alive

theorem accountable_step [Platform] (accountable : actor.Accountable)
    {action : ActorAction} (spares : actor.sparesCommand action = true)
    (taken : step actor action = some after) : after.Accountable := by
  cases action with
  | bootstrap outcome =>
      simp only [step] at taken
      split at taken
      · rename_i booting
        split at taken
        · split at taken
          · cases taken
            exact accountable_bootstrapped accountable booting (by simp)
          · cases taken
            exact accountable_bootstrapped accountable booting (by simp)
        · cases taken
          exact accountable_bootstrapped accountable booting (by simp)
      · cases taken
  | abandonBootstrap =>
      cases taken
      exact ⟨accountable.accounted, accountable.current,
        accountable.stopped⟩
  | send kind =>
      simp only [step] at taken
      split at taken
      · rename_i running
        cases taken
        exact accountable_send accountable running.2
      · cases taken
  | receive =>
      simp only [step] at taken
      split at taken
      · rename_i command rest receiving head
        cases taken
        exact accountable_take accountable receiving head
      · cases taken
  | reply reply =>
      simp only [step] at taken
      split at taken
      · obtain ⟨outcome, _, rfl⟩ := Option.map_eq_some_iff.mp taken
        exact accountable_deliver accountable
      · cases taken
  | abandon future timedOut =>
      simp only [step] at taken
      split at taken
      · cases taken
        exact accountable_abandon accountable
      · cases taken
  | cancel =>
      simp only [step] at taken
      split at taken
      · cases taken
      · cases taken
        exact accountable_cancelled accountable spares
  | unwind ending =>
      simp only [step] at taken
      split at taken
      · rename_i unwinding
        cases taken
        exact accountable_stop accountable unwinding ending
      · cases taken

/-! ## Runs -/

/-- The actor `open_runtime` creates. -/
def opened (ns : Namespace) : RuntimeActor :=
  { ns := ns }

theorem accountable_opened (ns : Namespace) :
    (opened ns).Accountable where
  accounted future present := by
    cases present
  current future executing := by
    cases executing
  stopped done := by
    cases done

/-- Once the actor is done, every command has been answered. -/
theorem answered_of_done [Platform] {ns : Namespace} {future : FutureId}
    (reaches :
      Reaches step (fun actor action => actor.sparesCommand action = true)
        (opened ns) actor)
    (done : actor.phase = .done) (sent : future < actor.issued) :
    (actor.futures future).done = true := by
  have accountable : actor.Accountable :=
    reaches.invariant (accountable_opened ns)
      fun _ _ _ before spares taken => accountable_step before spares taken
  have drained : actor.queue = [] := accountable.stopped done
  rcases accountable.accounted future sent with
    answered | ⟨command, queued, _⟩ | executing
  · exact answered
  · rw [drained] at queued
    cases queued
  · obtain ⟨command, phase, _⟩ := accountable.current future executing
    rw [done] at phase
    cases phase

section Ascii

open scoped Ascii

/-- A call fails, and a probe times out while it is being executed. -/
theorem answered_of_done_probe :
    ∃ actor,
      Reaches step (fun actor action => actor.sparesCommand action = true)
        (opened "fake_stdio") actor ∧
      actor.phase = .done ∧ actor.issued = 2 ∧
      (actor.futures 1).done = true := by
  obtain ⟨actor, reaches, done, issued⟩ :=
    exists_reaches_of_execute
      [.bootstrap (.ok [Ascii.ping]), .send .callTool, .send .probe, .receive,
       .reply (.error { message := "Invalid arguments" }), .receive,
       .abandon 1 true, .cancel, .unwind .cancelled]
      (by decide +kernel :
        (execute step
          (fun actor action => actor.sparesCommand action = true)
          (opened "fake_stdio") _).any
          (fun actor => actor.phase = .done ∧ actor.issued = 2) = true)
  have sent : 1 < actor.issued := by
    rw [issued]
    decide
  exact ⟨actor, reaches, done, issued, answered_of_done reaches done sent⟩

/-- A probe queued behind a call times out: the abort cancels the actor in the
middle of the call, and nobody answers the call. -/
theorem call_unanswered :
    ∃ actor,
      Reaches step (fun _ _ => True) (opened "fake_stdio") actor ∧
      actor.phase = .done ∧ 0 < actor.issued ∧
      (actor.futures 0).done = false :=
  exists_reaches_of_execute
    [.bootstrap (.ok [Ascii.ping]), .send .callTool, .send .probe, .receive,
     .abandon 1 true, .cancel, .unwind .cancelled]
    (by decide +kernel)

end Ascii

end RuntimeActor

end ToolboxMcp
