import ToolboxMcp.RuntimeActor

/-!
# Commands in order, replies to their callers

The actor takes the commands in the order they were sent, has the session
execute one at a time, and what the session answers reaches the caller of that
command and nobody else.  A caller that has given up gets nothing, and no
caller is told of a success its command has not had.
-/

namespace ToolboxMcp

/-- What an observer sees of the actor. -/
inductive ActorEvent where
  | took (command : RuntimeCommand)
  | answered (future : FutureId) (outcome : Except PyException RuntimeReply)

def ActorEvent.command? : ActorEvent → Option RuntimeCommand
  | took command => some command
  | answered _ _ => none

def ActorEvent.answer? :
    ActorEvent → Option (FutureId × Except PyException RuntimeReply)
  | took _ => none
  | answered future outcome => some (future, outcome)

/-- The commands taken from the queue. -/
def commandsTaken (events : List ActorEvent) : List RuntimeCommand :=
  events.filterMap ActorEvent.command?

/-- The answers of the session, each with the future of its command. -/
def sessionAnswers (events : List ActorEvent) :
    List (FutureId × Except PyException RuntimeReply) :=
  events.filterMap ActorEvent.answer?

namespace RuntimeActor

def observed [Platform] (actor : RuntimeActor) (action : ActorAction)
    (_ : RuntimeActor) : List ActorEvent :=
  match action, actor.phase, actor.queue with
  | .receive, .receiving, command :: _ => [.took command]
  | .reply reply, .executing command, _ =>
      ((actor.outcomeOf command.kind reply).map
        (.answered command.future)).toList
  | _, _, _ => []

/-- Nobody has answered yet. -/
def Unanswered (state : FutureState RuntimeReply) : Prop :=
  state = .pending ∨ state = .cancelled

/-! ## Settling -/

theorem settle_self {futures : Futures} {future : FutureId}
    {outcome : FutureState RuntimeReply} (waits : Unanswered (futures future)) :
    futures.settle future outcome future = outcome ∨
      futures.settle future outcome future = .cancelled := by
  unfold Futures.settle FutureState.settle
  rw [Function.update_self]
  rcases waits with pending | cancelled
  · rw [pending]
    exact .inl rfl
  · rw [cancelled]
    exact .inr rfl

theorem settle_of_ne {futures : Futures} {future other : FutureId}
    {outcome : FutureState RuntimeReply} (different : other ≠ future) :
    futures.settle future outcome other = futures other :=
  Function.update_of_ne different _ _

theorem failPendingCommands_of_notMem {error : PyException}
    {commands : List RuntimeCommand} {futures : Futures} {future : FutureId}
    (absent : future ∉ commands.map RuntimeCommand.future) :
    failPendingCommands error commands futures future = futures future := by
  induction commands generalizing futures with
  | nil =>
      rfl
  | cons command rest inductionHypothesis =>
      rw [List.map_cons, List.mem_cons, not_or] at absent
      rw [failPendingCommands, inductionHypothesis absent.2,
        settle_of_ne absent.1]

/-- Failing the commands makes no success. -/
theorem failPendingCommands_result {error : PyException}
    {commands : List RuntimeCommand} {futures : Futures} {future : FutureId}
    {value : RuntimeReply}
    (succeeded :
      failPendingCommands error commands futures future = .result value) :
    futures future = .result value := by
  induction commands generalizing futures with
  | nil =>
      exact succeeded
  | cons command rest inductionHypothesis =>
      have settled := inductionHypothesis succeeded
      by_cases same : future = command.future
      · subst same
        unfold Futures.settle FutureState.settle at settled
        rw [Function.update_self] at settled
        split at settled
        · exact settled
        · cases settled
      · rwa [settle_of_ne same] at settled

/-! ## The books of an observer -/

structure Answering (actor : RuntimeActor) (events : List ActorEvent) :
    Prop where
  order :
    ∃ dropped,
      (commandsTaken events ++ actor.queue).map RuntimeCommand.future ++
          dropped = List.range actor.issued ∧
        (actor.phase ≠ .done → dropped = [])
  current :
    ∀ future, actor.current = some future →
      ∃ command,
        actor.phase = .executing command ∧ command.future = future
  executing :
    ∀ command, actor.phase = .executing command →
      actor.current = some command.future ∧
        (∃ earlier, commandsTaken events = earlier ++ [command]) ∧
        Unanswered (actor.futures command.future) ∧
        command.future ∉ (sessionAnswers events).map Prod.fst
  queued :
    ∀ command ∈ actor.queue, Unanswered (actor.futures command.future)
  unsent : ∀ future, actor.issued ≤ future → actor.futures future = .pending
  answered :
    ∀ future outcome, (future, outcome) ∈ sessionAnswers events →
      future ∈ (commandsTaken events).map RuntimeCommand.future ∧
        (actor.futures future = .answer outcome ∨
          actor.futures future = .cancelled)
  increasing : ((sessionAnswers events).map Prod.fst).Pairwise (· < ·)
  results :
    ∀ future value, actor.futures future = .result value →
      (future, .ok value) ∈ sessionAnswers events ∨
        value = .closed ∧ ∃ command ∈ commandsTaken events,
          command.kind = .close ∧ command.future = future

variable {actor after : RuntimeActor} {events : List ActorEvent}

theorem answering_opened (ns : Namespace) : (opened ns).Answering [] where
  order := ⟨[], rfl, fun _ => rfl⟩
  current := fun _ executing => by cases executing
  executing := fun _ phase => by cases phase
  queued := fun _ member => absurd member List.not_mem_nil
  unsent := fun _ _ => rfl
  answered := fun _ _ member => absurd member List.not_mem_nil
  increasing := .nil
  results := fun _ _ succeeded => by cases succeeded

/-- The futures of what was taken or waits are all different. -/
theorem Answering.nodup (answering : actor.Answering events) :
    ((commandsTaken events ++ actor.queue).map
      RuntimeCommand.future).Pairwise (· < ·) := by
  obtain ⟨dropped, order, _⟩ := answering.order
  have increasing : (List.range actor.issued).Pairwise (· < ·) :=
    List.pairwise_lt_range
  rw [← order] at increasing
  exact (List.pairwise_append.mp increasing).1

theorem Answering.issued (answering : actor.Answering events)
    {future : FutureId}
    (member : future ∈
      (commandsTaken events ++ actor.queue).map RuntimeCommand.future) :
    future < actor.issued := by
  obtain ⟨dropped, order, _⟩ := answering.order
  rw [← List.mem_range, ← order]
  exact List.mem_append_left _ member

/-- The phase changes, and nothing that commands are waiting for. -/
theorem Answering.relabel (answering : actor.Answering events)
    {phase : ActorPhase} {bootstrap : FutureState RuntimeProbe}
    {current : Option FutureId} (lives : actor.phase ≠ .done)
    (idle : ∀ command, phase ≠ .executing command)
    (forgotten : ∀ future, current = some future →
      actor.current = some future ∧
        ∀ command, actor.phase ≠ .executing command) :
    Answering
      { actor with phase := phase, bootstrap := bootstrap, current := current }
      events where
  order := by
    obtain ⟨dropped, order, none⟩ := answering.order
    exact ⟨dropped, order, fun _ => none lives⟩
  current := by
    intro future present
    obtain ⟨earlier, aside⟩ := forgotten future present
    obtain ⟨command, executing, _⟩ := answering.current future earlier
    exact absurd executing (aside command)
  executing := fun command executing => absurd executing (idle command)
  queued := answering.queued
  unsent := answering.unsent
  answered := answering.answered
  increasing := answering.increasing
  results := answering.results

theorem answering_send (answering : actor.Answering events)
    {kind : CommandKind} (lives : actor.phase ≠ .done) {closed : Bool} :
    Answering
      { actor with
        queue := actor.queue ++ [⟨kind, actor.issued⟩]
        issued := actor.issued + 1
        closed := closed } events where
  order := by
    obtain ⟨dropped, order, none⟩ := answering.order
    refine ⟨[], ?_, fun _ => rfl⟩
    rw [none lives, List.append_nil] at order
    rw [List.append_nil, ← List.append_assoc, List.map_append, order,
      List.range_succ]
    rfl
  current := answering.current
  executing := answering.executing
  queued := by
    intro command member
    rcases List.mem_append.mp member with earlier | last
    · exact answering.queued command earlier
    · rw [List.mem_singleton.mp last]
      exact .inl (answering.unsent _ le_rfl)
  unsent := by
    intro future later
    have earlier : actor.issued + 1 ≤ future := later
    exact answering.unsent future (Nat.le_of_succ_le earlier)
  answered := answering.answered
  increasing := answering.increasing
  results := answering.results

theorem answering_abandon (answering : actor.Answering events)
    {future : FutureId} (sent : future < actor.issued) {closed : Bool} :
    Answering
      { actor with
        futures := Function.update actor.futures future .cancelled
        closed := closed } events where
  order := answering.order
  current := answering.current
  executing := by
    intro command phase
    obtain ⟨current, last, waits, fresh⟩ := answering.executing command phase
    refine ⟨current, last, ?_, fresh⟩
    by_cases same : command.future = future
    · rw [same]
      exact .inr (Function.update_self _ _ _)
    · change Unanswered (Function.update actor.futures _ _ _)
      rw [Function.update_of_ne same]
      exact waits
  queued := by
    intro command member
    by_cases same : command.future = future
    · rw [same]
      exact .inr (Function.update_self _ _ _)
    · change Unanswered (Function.update actor.futures _ _ _)
      rw [Function.update_of_ne same]
      exact answering.queued command member
  unsent := by
    intro other later
    have different : other ≠ future := (sent.trans_le later).ne'
    change Function.update _ _ _ _ = _
    rw [Function.update_of_ne different]
    exact answering.unsent other later
  answered := by
    intro other outcome member
    obtain ⟨taken, settled⟩ := answering.answered other outcome member
    refine ⟨taken, ?_⟩
    by_cases same : other = future
    · rw [same]
      exact .inr (Function.update_self _ _ _)
    · change Function.update _ _ _ _ = _ ∨ Function.update _ _ _ _ = _
      rw [Function.update_of_ne same]
      exact settled
  increasing := answering.increasing
  results := by
    intro other value succeeded
    change Function.update _ _ _ _ = _ at succeeded
    by_cases same : other = future
    · rw [same, Function.update_self] at succeeded
      cases succeeded
    · rw [Function.update_of_ne same] at succeeded
      exact answering.results other value succeeded

/-! ## Taking a command -/

/-- What holds of the head of the queue. -/
theorem Answering.head (answering : actor.Answering events)
    {command : RuntimeCommand} {rest : List RuntimeCommand}
    (head : actor.queue = command :: rest) :
    Unanswered (actor.futures command.future) ∧
      command.future < actor.issued ∧
      (∀ other ∈ rest, other.future ≠ command.future) ∧
      ∀ other ∈ commandsTaken events, other.future < command.future := by
  have increasing := answering.nodup
  rw [head, List.map_append, List.map_cons] at increasing
  obtain ⟨_, waiting, crossing⟩ := List.pairwise_append.mp increasing
  have member : command ∈ actor.queue := by
    rw [head]
    exact List.mem_cons_self
  refine ⟨answering.queued command member, answering.issued ?_, ?_, ?_⟩
  · rw [List.map_append]
    exact List.mem_append_right _ (List.mem_map_of_mem member)
  · intro other later
    exact ((List.pairwise_cons.mp waiting).1 other.future
      (List.mem_map_of_mem later)).ne'
  · intro other taken
    exact crossing other.future (List.mem_map_of_mem taken)
      command.future List.mem_cons_self

/-- The head of the queue is taken, and answered on the spot or executed. -/
theorem answering_taken (answering : actor.Answering events)
    {command : RuntimeCommand} {rest : List RuntimeCommand}
    (receiving : actor.phase = .receiving)
    (head : actor.queue = command :: rest)
    {futures : Futures} {current : Option FutureId} {phase : ActorPhase}
    (others : ∀ future, future ≠ command.future →
      futures future = actor.futures future)
    (executes : ∀ other, phase = .executing other →
      other = command ∧ futures = actor.futures)
    (held : ∀ future, current = some future →
      phase = .executing command ∧ future = command.future)
    (holds : phase = .executing command → current = some command.future)
    (closes : ∀ value, futures command.future = .result value →
      value = .closed ∧ command.kind = .close) :
    Answering
      { actor with
        queue := rest, futures := futures, current := current, phase := phase }
      (events ++ [.took command]) := by
  obtain ⟨waits, sent, later, earlier⟩ := answering.head head
  have taken :
      commandsTaken (events ++ [.took command]) =
        commandsTaken events ++ [command] := by
    rw [commandsTaken, List.filterMap_append]
    rfl
  have answers :
      sessionAnswers (events ++ [.took command]) = sessionAnswers events := by
    rw [sessionAnswers, List.filterMap_append]
    exact List.append_nil _
  have fresh : command.future ∉ (sessionAnswers events).map Prod.fst := by
    intro member
    obtain ⟨⟨future, outcome⟩, answered, same⟩ := List.mem_map.mp member
    obtain ⟨other, before, carries⟩ :=
      List.mem_map.mp (answering.answered future outcome answered).1
    have smaller := earlier other before
    rw [carries, ← same] at smaller
    exact lt_irrefl _ smaller
  constructor
  case order =>
    obtain ⟨dropped, order, none⟩ := answering.order
    refine ⟨dropped, ?_, fun _ => none ?_⟩
    · rw [taken, List.append_assoc, List.singleton_append, ← head]
      exact order
    · rw [receiving]
      exact ActorPhase.noConfusion
  case current =>
    intro future present
    obtain ⟨executing, same⟩ := held future present
    exact ⟨command, executing, same.symm⟩
  case executing =>
    intro other executing
    obtain ⟨same, unchanged⟩ := executes other executing
    subst same
    refine ⟨holds executing, ⟨commandsTaken events, taken⟩, ?_, ?_⟩
    · change Unanswered (futures _)
      rw [unchanged]
      exact waits
    · rw [answers]
      exact fresh
  case queued =>
    intro other member
    change Unanswered (futures _)
    rw [others _ (later other member)]
    apply answering.queued
    rw [head]
    exact List.mem_cons_of_mem _ member
  case unsent =>
    intro future beyond
    change futures future = _
    rw [others _ (sent.trans_le beyond).ne']
    exact answering.unsent future beyond
  case answered =>
    intro future outcome member
    rw [answers] at member
    obtain ⟨before, settled⟩ := answering.answered future outcome member
    have different : future ≠ command.future := by
      intro same
      rw [← same] at fresh
      exact fresh (List.mem_map_of_mem member)
    constructor
    · rw [taken, List.map_append]
      exact List.mem_append_left _ before
    · change futures future = _ ∨ futures future = _
      rw [others _ different]
      exact settled
  case increasing =>
    rw [answers]
    exact answering.increasing
  case results =>
    intro future value succeeded
    rw [answers, taken]
    by_cases same : future = command.future
    · right
      rw [same] at succeeded
      obtain ⟨acknowledged, kind⟩ := closes value succeeded
      exact ⟨acknowledged, command,
        List.mem_append_right _ List.mem_cons_self, kind, same.symm⟩
    · have before : actor.futures future = .result value := by
        rw [← others _ same]
        exact succeeded
      refine (answering.results future value before).imp_right ?_
      intro ⟨acknowledged, other, member, kind, carries⟩
      exact ⟨acknowledged, other, List.mem_append_left _ member, kind,
        carries⟩

theorem answering_take (answering : actor.Answering events)
    {command : RuntimeCommand} {rest : List RuntimeCommand}
    (receiving : actor.phase = .receiving)
    (head : actor.queue = command :: rest) :
    (actor.take command rest).Answering (events ++ [.took command]) := by
  obtain ⟨waits, _⟩ := answering.head head
  unfold take
  split
  · rename_i close
    apply answering_taken answering receiving head
    · exact fun future different => settle_of_ne different
    · intro other executing
      cases executing
    · intro future present
      cases present
    · intro executing
      cases executing
    · intro value succeeded
      rcases settle_self waits with reached | cancelled
      · rw [reached] at succeeded
        cases succeeded
        exact ⟨rfl, close⟩
      · rw [cancelled] at succeeded
        cases succeeded
  · rename_i kind _
    have idle : actor.phase ≠ .executing command := by
      rw [receiving]
      exact ActorPhase.noConfusion
    apply answering_taken answering receiving head
    · exact fun future different => settle_of_ne different
    · intro other executing
      rw [receiving] at executing
      cases executing
    · intro future present
      cases present
    · exact fun executing => absurd executing idle
    · intro value succeeded
      rcases settle_self waits with failed | cancelled
      · rw [failed] at succeeded
        cases succeeded
      · rw [cancelled] at succeeded
        cases succeeded
  · apply answering_taken answering receiving head
    · exact fun _ _ => rfl
    · intro other executing
      cases executing
      exact ⟨rfl, rfl⟩
    · intro future present
      cases present
      exact ⟨rfl, rfl⟩
    · exact fun _ => rfl
    · intro value succeeded
      rcases waits with pending | cancelled
      · rw [pending] at succeeded
        cases succeeded
      · rw [cancelled] at succeeded
        cases succeeded

/-! ## The session answers -/

theorem answering_deliver (answering : actor.Answering events)
    {command : RuntimeCommand} (phase : actor.phase = .executing command)
    (outcome : Except PyException RuntimeReply) :
    (actor.deliver outcome).Answering
      (events ++ [.answered command.future outcome]) := by
  obtain ⟨current, ⟨earlier, last⟩, waits, fresh⟩ :=
    answering.executing command phase
  have taken :
      commandsTaken (events ++ [.answered command.future outcome]) =
        commandsTaken events := by
    rw [commandsTaken, List.filterMap_append]
    exact List.append_nil _
  have answers :
      sessionAnswers (events ++ [.answered command.future outcome]) =
        sessionAnswers events ++ [(command.future, outcome)] := by
    rw [sessionAnswers, List.filterMap_append]
    rfl
  have settled :
      (actor.deliver outcome).futures =
        actor.futures.settle command.future (.answer outcome) := by
    unfold deliver settleCurrent
    rw [current]
  have increasing := answering.nodup
  rw [last, List.append_assoc, List.map_append, List.singleton_append,
    List.map_cons] at increasing
  obtain ⟨_, waiting, crossing⟩ := List.pairwise_append.mp increasing
  have before : ∀ future,
      future ∈ (sessionAnswers events).map Prod.fst →
        future < command.future := by
    intro future member
    obtain ⟨⟨found, other⟩, answered, same⟩ := List.mem_map.mp member
    have mentioned := (answering.answered found other answered).1
    change found = future at same
    rw [same, last, List.map_append] at mentioned
    rcases List.mem_append.mp mentioned with older | here
    · exact crossing future older command.future List.mem_cons_self
    · rw [List.mem_singleton.mp here] at member
      exact absurd member fresh
  have present :
      command.future ∈ (commandsTaken events).map RuntimeCommand.future := by
    rw [last, List.map_append]
    exact List.mem_append_right _ List.mem_cons_self
  constructor
  case order =>
    obtain ⟨dropped, order, none⟩ := answering.order
    refine ⟨dropped, ?_, fun _ => none ?_⟩
    · rw [taken]
      exact order
    · rw [phase]
      exact ActorPhase.noConfusion
  case current =>
    intro future held
    cases held
  case executing =>
    intro other executing
    cases executing
  case queued =>
    intro other member
    have different : other.future ≠ command.future :=
      ((List.pairwise_cons.mp waiting).1 other.future
        (List.mem_map_of_mem member)).ne'
    rw [settled, settle_of_ne different]
    exact answering.queued other member
  case unsent =>
    intro future beyond
    have sent : command.future < actor.issued := by
      apply answering.issued
      rw [List.map_append]
      exact List.mem_append_left _ present
    rw [settled, settle_of_ne (sent.trans_le beyond).ne']
    exact answering.unsent future beyond
  case answered =>
    intro future other member
    rw [answers] at member
    rw [taken, settled]
    rcases List.mem_append.mp member with older | here
    · obtain ⟨mentioned, reached⟩ := answering.answered future other older
      have different : future ≠ command.future :=
        (before future (List.mem_map_of_mem older)).ne
      rw [settle_of_ne different]
      exact ⟨mentioned, reached⟩
    · cases List.mem_singleton.mp here
      exact ⟨present, settle_self waits⟩
  case increasing =>
    rw [answers, List.map_append, List.pairwise_append]
    refine ⟨answering.increasing, List.pairwise_singleton _ _, ?_⟩
    intro future older other here
    rw [List.mem_singleton.mp here]
    exact before future older
  case results =>
    intro future value succeeded
    rw [settled] at succeeded
    rw [answers, taken]
    by_cases same : future = command.future
    · left
      apply List.mem_append_right
      rw [same] at succeeded ⊢
      rcases settle_self waits with reached | cancelled
      · rw [reached] at succeeded
        cases outcome with
        | ok given =>
            cases succeeded
            exact List.mem_cons_self
        | error exception =>
            cases succeeded
      · rw [cancelled] at succeeded
        cases succeeded
    · rw [settle_of_ne same] at succeeded
      exact (answering.results future value succeeded).imp_left
        (List.mem_append_left _)

/-! ## The actor stops -/

theorem answering_stop (answering : actor.Answering events)
    (unwinding : actor.phase = .unwinding) (ending : Ending) :
    (actor.stop ending).Answering events := by
  have idle : actor.current = none := by
    cases held : actor.current with
    | none =>
        rfl
    | some future =>
        obtain ⟨command, executing, _⟩ := answering.current future held
        rw [unwinding] at executing
        cases executing
  have drained :
      (actor.stop ending).futures =
        failPendingCommands (actor.stopError ending) actor.queue
          actor.futures := by
    unfold stop settleCurrent
    rw [idle]
  have increasing := answering.nodup
  rw [List.map_append] at increasing
  obtain ⟨_, _, crossing⟩ := List.pairwise_append.mp increasing
  constructor
  case order =>
    obtain ⟨dropped, order, _⟩ := answering.order
    refine ⟨actor.queue.map RuntimeCommand.future ++ dropped, ?_, ?_⟩
    · change (commandsTaken events ++ []).map _ ++ _ = _
      rw [List.append_nil, ← List.append_assoc, ← List.map_append]
      exact order
    · exact fun lives => absurd rfl lives
  case current =>
    intro future held
    change actor.current = some future at held
    rw [idle] at held
    cases held
  case executing =>
    intro command executing
    cases executing
  case queued =>
    intro command member
    cases member
  case unsent =>
    intro future beyond
    rw [drained, failPendingCommands_of_notMem]
    · exact answering.unsent future beyond
    · intro member
      have sent : future < actor.issued := by
        apply answering.issued
        rw [List.map_append]
        exact List.mem_append_right _ member
      exact absurd (sent.trans_le beyond) (lt_irrefl _)
  case answered =>
    intro future outcome member
    obtain ⟨mentioned, reached⟩ := answering.answered future outcome member
    refine ⟨mentioned, ?_⟩
    rw [drained, failPendingCommands_of_notMem]
    · exact reached
    · intro waiting
      exact lt_irrefl _ (crossing future mentioned future waiting)
  case increasing =>
    exact answering.increasing
  case results =>
    intro future value succeeded
    rw [drained] at succeeded
    exact answering.results future value
      (failPendingCommands_result succeeded)

/-! ## Runs -/

theorem answering_step [Platform] (answering : actor.Answering events)
    {action : ActorAction} (taken : step actor action = some after) :
    after.Answering (events ++ observed actor action after) := by
  have silent : observed actor action after = [] →
      after.Answering events →
        after.Answering (events ++ observed actor action after) := by
    intro nothing unchanged
    rw [nothing, List.append_nil]
    exact unchanged
  have resting : actor.phase = .bootstrapping ∨ actor.phase = .receiving ∨
      actor.phase = .unwinding ∨ actor.phase = .done →
        ∀ future, actor.current = some future →
          actor.current = some future ∧
            ∀ command, actor.phase ≠ .executing command := by
    intro phase future held
    obtain ⟨command, executing, _⟩ := answering.current future held
    rw [executing] at phase
    simp at phase
  cases action with
  | bootstrap outcome =>
      simp only [step] at taken
      split at taken
      · rename_i bootstrapping
        have lives : actor.phase ≠ .done := by
          rw [bootstrapping]
          exact ActorPhase.noConfusion
        apply silent rfl
        have moved : ∀ phase bootstrap,
            (∀ command, phase ≠ ActorPhase.executing command) →
            Answering { actor with phase := phase, bootstrap := bootstrap }
              events := fun phase bootstrap idle =>
          answering.relabel lives idle (resting (.inl bootstrapping))
        split at taken
        · split at taken
          · cases taken
            exact moved _ _ fun _ => ActorPhase.noConfusion
          · cases taken
            exact moved _ _ fun _ => ActorPhase.noConfusion
        · cases taken
          exact moved _ _ fun _ => ActorPhase.noConfusion
      · cases taken
  | abandonBootstrap =>
      simp only [step] at taken
      cases taken
      apply silent rfl
      exact {
        order := answering.order
        current := answering.current
        executing := answering.executing
        queued := answering.queued
        unsent := answering.unsent
        answered := answering.answered
        increasing := answering.increasing
        results := answering.results }
  | send kind =>
      simp only [step] at taken
      split at taken
      · rename_i running
        cases taken
        apply silent rfl
        apply answering_send answering
        have alive := running.2
        unfold isRunning at alive
        simp only [Bool.decide_and, Bool.and_eq_true, decide_eq_true_eq]
          at alive
        exact alive.1
      · cases taken
  | receive =>
      simp only [step] at taken
      split at taken
      · rename_i command rest receiving head
        cases taken
        have seen : observed actor .receive (actor.take command rest) =
            [.took command] := by
          unfold observed
          rw [receiving, head]
        rw [seen]
        exact answering_take answering receiving head
      · cases taken
  | reply reply =>
      simp only [step] at taken
      split at taken
      · rename_i command executing
        obtain ⟨outcome, answers, rfl⟩ := Option.map_eq_some_iff.mp taken
        have seen : observed actor (.reply reply) (actor.deliver outcome) =
            [.answered command.future outcome] := by
          unfold observed
          simp only [executing, answers]
          rfl
        rw [seen]
        exact answering_deliver answering executing outcome
      · cases taken
  | abandon future timedOut =>
      simp only [step] at taken
      split at taken
      · rename_i waiting
        cases taken
        exact silent rfl (answering_abandon answering waiting.1)
      · cases taken
  | cancel =>
      simp only [step] at taken
      split at taken
      · cases taken
      · rename_i lives
        cases taken
        apply silent rfl
        apply answering.relabel lives fun _ => ActorPhase.noConfusion
        intro future held
        split at held
        · cases held
        · rename_i idle
          exact ⟨held, idle⟩
  | unwind ending =>
      simp only [step] at taken
      split at taken
      · rename_i unwinding
        cases taken
        exact silent rfl (answering_stop answering unwinding ending)
      · cases taken

/-- Whatever the callers, the session and the scheduler do, the commands are
taken in the order they were sent, none twice and none passed over; the session
answers them in that order; an answer reaches the caller of its command unless
that caller has given up; and a result is the one the session gave for that
very command, or acknowledges a command that closes the runtime. -/
theorem replies_in_order [Platform] {ns : Namespace}
    (reaches :
      Reaches (monitor step observed) (fun _ _ => True)
        (opened ns, []) (actor, events)) :
    (commandsTaken events).map RuntimeCommand.future <+:
        List.range actor.issued ∧
      ((sessionAnswers events).map Prod.fst).Pairwise (· < ·) ∧
      (∀ future outcome, (future, outcome) ∈ sessionAnswers events →
        future ∈ (commandsTaken events).map RuntimeCommand.future ∧
          (actor.futures future = .answer outcome ∨
            actor.futures future = .cancelled)) ∧
      ∀ future value, actor.futures future = .result value →
        (future, .ok value) ∈ sessionAnswers events ∨
          value = .closed ∧ ∃ command ∈ commandsTaken events,
            command.kind = .close ∧ command.future = future := by
  have answering : actor.Answering events :=
    @Reaches.invariant _ _ _ _ _ _
      (fun state : RuntimeActor × List ActorEvent =>
        state.1.Answering state.2) reaches (answering_opened ns)
      (by
        intro before action next held _ moved
        obtain ⟨stepped, extended⟩ := monitor_eq_some.mp moved
        rw [extended]
        exact answering_step held stepped)
  obtain ⟨dropped, order, _⟩ := answering.order
  refine ⟨?_, answering.increasing, answering.answered, answering.results⟩
  rw [← order, List.map_append, List.append_assoc]
  exact List.prefix_append _ _

section Ascii

open scoped Ascii

/-- What a caller reads of its answer. -/
def content? : FutureState RuntimeReply → Option (List ContentBlock)
  | .result (.result result) => some result.content
  | .result .closed => some []
  | _ => none

/-- A call is answered, the caller of a probe gives up before its answer comes,
and a failed call is followed by the command that closes the runtime. -/
theorem replies_in_order_probe :
    ∃ state : RuntimeActor × List ActorEvent,
      Reaches (monitor step observed) (fun _ _ => True)
        (opened "fake_stdio", []) state ∧
      (state.1.phase = .done ∧ state.1.issued = 4 ∧
        (sessionAnswers state.2).map Prod.fst = [0, 1, 2] ∧
        (List.range 4).map (fun future => content? (state.1.futures future)) =
          [some [.text "pong"], none, none, some []]) ∧
      (commandsTaken state.2).map RuntimeCommand.future <+:
        List.range state.1.issued ∧
      ∀ future value, state.1.futures future = .result value →
        (future, .ok value) ∈ sessionAnswers state.2 ∨
          value = .closed ∧ ∃ command ∈ commandsTaken state.2,
            command.kind = .close ∧ command.future = future := by
  obtain ⟨state, reaches, facts⟩ :=
    exists_reaches_of_execute
      [.bootstrap (.ok [Ascii.ping]), .send .callTool, .send .probe, .receive,
       .reply (.ok (.called { content := [.text "pong"] })), .receive,
       .send .callTool, .abandon 1 false,
       .reply (.ok (.listed [Ascii.ping])), .receive, .send .close,
       .reply (.error { message := "Invalid arguments" }), .receive,
       .unwind .returned]
      (by decide +kernel :
        (execute (monitor step observed) (fun _ _ => True)
          (opened "fake_stdio", []) _).any
          (fun state => state.1.phase = .done ∧ state.1.issued = 4 ∧
            (sessionAnswers state.2).map Prod.fst = [0, 1, 2] ∧
            (List.range 4).map
                (fun future => content? (state.1.futures future)) =
              [some [.text "pong"], none, none, some []]) = true)
  obtain ⟨taken, _, _, results⟩ := replies_in_order reaches
  exact ⟨state, reaches, facts, taken, results⟩

end Ascii

end RuntimeActor

end ToolboxMcp
