import ToolboxMcp.Isolation
import ToolboxMcp.Service.Determined

/-!
# Calls on disjoint namespaces

A call left to itself is a dialogue with the downstream servers: its visits, one
after the other, and their replies.  Dialogues on the same namespaces that hear
the same replies end in worlds that agree on them, so calls on disjoint lists
can be made in either order.
-/

namespace ToolboxMcp

open Effect

/-! ## Dialogues -/

/-- Where the result of a stretch leaves the call. -/
def Standing.ended (ns : Namespace) (operation : Operation)
    (rest : List Namespace) (entries : List Entry) :
    Except Raised Progress → Standing
  | .ok progress => .after ns operation rest entries progress
  | .error raised => .answered (.raised raised)

/-- The call goes from this standing to its answer, hearing the replies. -/
inductive Dialogue [Platform] :
    World → Standing → List (Namespace × Reply) → World → Prop where
  | answered (world : World) (answer : Answer) :
      Dialogue world (.answered answer) [] world
  | visit {world after final : World} {locks : Dict Namespace LockId}
      {ns : Namespace} {operation : Operation} {rest : List Namespace}
      {entries : List Entry} {result : Except Raised Progress}
      {heard : List (Namespace × Reply)}
      (ends :
        outcome (start operation ns) { world with namespaceLocks := locks } =
          (result, after))
      (later :
        Dialogue after (.ended ns operation rest entries result) heard final) :
      Dialogue world (.visiting ns operation rest entries) heard final
  | hear {world after final : World} {ns : Namespace} {operation : Operation}
      {rest : List Namespace} {entries : List Entry} {stage : Stage}
      {reply : Reply} {result : Except Raised Progress}
      {heard : List (Namespace × Reply)}
      (ends : outcome (resume ns stage reply) world = (result, after))
      (later :
        Dialogue after (.ended ns operation rest entries result) heard final) :
      Dialogue world (.suspended ns operation rest entries stage)
        ((ns, reply) :: heard) final

/-- An acquired lock makes no difference to a visit. -/
theorem Dialogue.visiting_of_locked [Platform] {world final : World}
    {locks : Dict Namespace LockId} {ns : Namespace} {operation : Operation}
    {rest : List Namespace} {entries : List Entry}
    {heard : List (Namespace × Reply)}
    (dialogue :
      Dialogue { world with namespaceLocks := locks }
        (.visiting ns operation rest entries) heard final) :
    Dialogue world (.visiting ns operation rest entries) heard final := by
  cases dialogue with
  | visit ends later =>
      exact .visit ends later

theorem Dialogue.of_answered [Platform] {world final : World} {answer : Answer}
    {heard : List (Namespace × Reply)}
    (dialogue : Dialogue world (.answered answer) heard final) :
    heard = [] ∧ final = world := by
  cases dialogue
  exact ⟨rfl, rfl⟩

/-! ## Dialogues side by side -/

inductive StandingAlike (left right : World) : Standing → Standing → Prop where
  | visiting {ns : Namespace} {operation : Operation} {rest : List Namespace}
      {entries entries' : List Entry}
      (maintains : operation.maintains = true) :
      StandingAlike left right (.visiting ns operation rest entries)
        (.visiting ns operation rest entries')
  | suspended {ns : Namespace} {operation : Operation} {rest : List Namespace}
      {entries entries' : List Entry} {stage stage' : Stage}
      (maintains : operation.maintains = true)
      (alike : StageAlike ns left right stage stage')
      (proper : stage.Proper left ns) (proper' : stage'.Proper right ns) :
      StandingAlike left right (.suspended ns operation rest entries stage)
        (.suspended ns operation rest entries' stage')
  | answered (answer answer' : Answer) :
      StandingAlike left right (.answered answer) (.answered answer')

/-- Two dialogues on the namespaces are at the same point. -/
structure Parallel (namespaces : List Namespace) (left right : World)
    (standing standing' : Standing) : Prop where
  agree : ∀ ns ∈ namespaces, Agree ns left right
  housed : left.Housed
  housed' : right.Housed
  within : standing.Within namespaces
  alike : StandingAlike left right standing standing'

section Parallel

variable {ns home : Namespace} {left right left' right' world : World}
  {namespaces rest : List Namespace} {operation : Operation}
  {entries entries' : List Entry}

theorem alike_next (maintains : operation.maintains = true) :
    StandingAlike left right (.next operation rest entries)
      (.next operation rest entries') := by
  cases rest with
  | nil =>
      exact .answered _ _
  | cons ns later =>
      exact .visiting maintains

theorem Agree.relocked (agree : Agree ns left right)
    (locks locks' : Dict Namespace LockId) :
    Agree ns { left with namespaceLocks := locks }
      { right with namespaceLocks := locks' } where
  config := agree.config
  leftReady := ⟨agree.leftReady.reliable, agree.leftReady.below⟩
  rightReady := ⟨agree.rightReady.reliable, agree.rightReady.below⟩
  record := agree.record
  snapshot := agree.snapshot
  previous := agree.previous
  runtime := agree.runtime
  inFlight := agree.inFlight

/-- Both worlds have changed elsewhere. -/
theorem Agree.spared (agree : Agree ns left right)
    (mine : Spares ns left left') (other : Spares ns right right')
    (ready : left'.Ready ns) (ready' : right'.Ready ns) :
    Agree ns left' right' where
  config := by
    rw [mine.config, other.config]
    exact agree.config
  leftReady := ready
  rightReady := ready'
  record := by
    rw [mine.record, other.record]
    exact agree.record
  snapshot := by
    rw [mine.snapshot, other.snapshot]
    exact agree.snapshot
  previous := by
    rw [mine.previousSnapshot, other.previousSnapshot]
    exact agree.previous
  runtime := by
    rw [mine.runtime, other.runtime]
    exact agree.runtime
  inFlight := by
    rw [mine.inFlight, other.inFlight]
    exact agree.inFlight

theorem Agree.refl (ready : world.Ready ns) : Agree ns world world :=
  ⟨rfl, ready, ready, rfl, rfl, rfl, rfl, rfl⟩

theorem World.Housed.ready (housed : world.Housed) (reliable : world.Reliable) :
    world.Ready ns :=
  ⟨reliable, fun runtime mounted => (housed ns runtime mounted).1⟩

variable [Platform]

omit [Platform] in
/-- A stretch of both at the same point. -/
theorem Parallel.stretch {first second : ServiceM Progress}
    {result result' : Except Raised Progress}
    (agree : ∀ ns ∈ namespaces, Agree ns left right)
    (housed : left.Housed) (housed' : right.Housed)
    (within : home :: rest ⊆ namespaces)
    (maintains : operation.maintains = true)
    (matched : Matched home first second left right)
    (sound :
      wp first
        (fun progress after =>
          Sound home left after ∧ progress.Proper after home)
        (fun _ after => Sound home left after) left)
    (sound' :
      wp second
        (fun progress after =>
          Sound home right after ∧ progress.Proper after home)
        (fun _ after => Sound home right after) right)
    (ends : outcome first left = (result, left'))
    (ends' : outcome second right = (result', right')) :
    Parallel namespaces left' right' (.ended home operation rest entries result)
      (.ended home operation rest entries' result') := by
  have agrees : Sound home left left' → Sound home right right' →
      Agree home left' right' → ∀ ns ∈ namespaces, Agree ns left' right' := by
    intro kept kept' here ns member
    by_cases same : ns = home
    · rw [same]
      exact here
    · have reliable := (agree ns member).leftReady.reliable
      have reliable' := (agree ns member).rightReady.reliable
      exact (agree ns member).spared (kept.spares housed same)
        (kept'.spares housed' same)
        (kept.housed.ready (kept.reliable reliable))
        (kept'.housed.ready (kept'.reliable reliable'))
  unfold wp at sound sound'
  unfold Matched wpBoth at matched
  rw [ends] at sound matched
  rw [ends'] at sound' matched
  cases result with
  | error raised =>
      cases result' with
      | error raised' =>
          exact ⟨agrees sound sound' matched.2, sound.housed, sound'.housed,
            trivial, .answered _ _⟩
      | ok progress' => cases matched
  | ok progress =>
      cases result' with
      | error raised' => cases matched
      | ok progress' =>
          cases progress with
          | inside stage =>
              cases progress' with
              | inside stage' =>
                  exact ⟨agrees sound.1 sound'.1 matched.1, sound.1.housed,
                    sound'.1.housed, within,
                    .suspended maintains matched.2 sound.2 sound'.2⟩
              | left more' => cases matched
          | left more =>
              cases progress' with
              | inside stage' => cases matched
              | left more' =>
                  exact ⟨agrees sound.1 sound'.1 matched, sound.1.housed,
                    sound'.1.housed,
                    within_next (List.subset_of_cons_subset within),
                    alike_next maintains⟩

/-- What was heard from one namespace. -/
def heardFrom (ns : Namespace) (heard : List (Namespace × Reply)) :
    List (Namespace × Reply) :=
  heard.filter (·.1 = ns)

omit [Platform] in
theorem heardFrom_cons_self (reply : Reply)
    (heard : List (Namespace × Reply)) :
    heardFrom ns ((ns, reply) :: heard) =
      (ns, reply) :: heardFrom ns heard := by
  simp [heardFrom]

omit [Platform] in
/-- The first reply is the same, and so is what is heard later. -/
theorem heardFrom_cons_eq {reply reply' : Reply}
    {heard heard' : List (Namespace × Reply)}
    (same : ∀ ns, heardFrom ns ((home, reply) :: heard) =
      heardFrom ns ((home, reply') :: heard')) :
    reply = reply' ∧ ∀ ns, heardFrom ns heard = heardFrom ns heard' := by
  have here := same home
  rw [heardFrom_cons_self, heardFrom_cons_self] at here
  injection here with first rest
  refine ⟨congrArg Prod.snd first, fun ns => ?_⟩
  by_cases different : home = ns
  · rw [← different]
    exact rest
  · simpa [heardFrom, different] using same ns

/-- Dialogues at the same point that hear the same end in agreement. -/
theorem Dialogue.agree {standing standing' : Standing} {final final' : World}
    {heard heard' : List (Namespace × Reply)}
    (first : Dialogue left standing heard final)
    (second : Dialogue right standing' heard' final')
    (parallel : Parallel namespaces left right standing standing')
    (same : ∀ ns, heardFrom ns heard = heardFrom ns heard') :
    ∀ ns ∈ namespaces, Agree ns final final' := by
  induction first generalizing right standing' heard' with
  | answered world answer =>
      obtain ⟨agree, _, _, _, alike⟩ := parallel
      cases alike with
      | answered =>
          cases second with
          | answered => exact agree
  | @visit world after final locks home operation rest entries result heard
      ends later inductionHypothesis =>
      obtain ⟨agree, housed, housed', within, alike⟩ := parallel
      cases alike with
      | visiting maintains =>
          cases second with
          | @visit _ _ _ locks' _ _ _ _ _ _ ends' later' =>
              have ready : ∀ ns ∈ namespaces,
                  Agree ns { world with namespaceLocks := locks }
                    { right with namespaceLocks := locks' } :=
                fun ns member => (agree ns member).relocked locks locks'
              have lodged :
                  World.Housed { world with namespaceLocks := locks } := housed
              have lodged' :
                  World.Housed { right with namespaceLocks := locks' } :=
                housed'
              have here := ready home (within List.mem_cons_self)
              exact inductionHypothesis later'
                (Parallel.stretch ready lodged lodged' within maintains
                  (start_alike maintains here) (start_sound lodged operation)
                  (start_sound lodged' operation) ends ends')
                same
  | @hear world after final home operation rest entries stage reply result
      heard ends later inductionHypothesis =>
      obtain ⟨agree, housed, housed', within, alike⟩ := parallel
      cases alike with
      | suspended maintains suspended proper proper' =>
          cases second with
          | hear ends' later' =>
              obtain ⟨rfl, others⟩ := heardFrom_cons_eq same
              have here := agree home (within List.mem_cons_self)
              exact inductionHypothesis later'
                (Parallel.stretch agree housed housed' within maintains
                  (resume_alike reply here suspended)
                  (resume_sound housed proper reply)
                  (resume_sound housed' proper' reply) ends ends')
                others

omit [Platform] in
theorem within_ended {result : Except Raised Progress}
    (within : home :: rest ⊆ namespaces) :
    (Standing.ended home operation rest entries result).Within namespaces := by
  cases result with
  | error raised =>
      trivial
  | ok progress =>
      exact within_after within

/-- Only the namespaces of the call are heard from. -/
theorem Dialogue.heard_within {standing : Standing} {final : World}
    {heard : List (Namespace × Reply)}
    (dialogue : Dialogue left standing heard final)
    (within : standing.Within namespaces) :
    ∀ said ∈ heard, said.1 ∈ namespaces := by
  induction dialogue with
  | answered world answer =>
      intro said member
      cases member
  | visit ends later inductionHypothesis =>
      exact inductionHypothesis (within_ended within)
  | hear ends later inductionHypothesis =>
      intro said member
      rcases List.mem_cons.mp member with rfl | earlier
      · exact within List.mem_cons_self
      · exact inductionHypothesis (within_ended within) said earlier

omit [Platform] in
theorem heardFrom_eq_nil {heard : List (Namespace × Reply)}
    (within : ∀ said ∈ heard, said.1 ∈ namespaces) (outside : ns ∉ namespaces) :
    heardFrom ns heard = [] := by
  apply List.filter_eq_nil_iff.mpr
  intro said member
  have listed := within said member
  simp only [decide_eq_true_eq]
  rintro rfl
  exact outside listed

omit [Platform] in
/-- What is heard in either order is heard by each call. -/
theorem heardFrom_apart {others : List Namespace}
    {heard heard' later later' : List (Namespace × Reply)}
    (disjoint : namespaces.Disjoint others)
    (within : ∀ said ∈ heard, said.1 ∈ namespaces)
    (within' : ∀ said ∈ heard', said.1 ∈ namespaces)
    (laterWithin : ∀ said ∈ later, said.1 ∈ others)
    (laterWithin' : ∀ said ∈ later', said.1 ∈ others)
    (same : ∀ ns, heardFrom ns (heard ++ later) =
      heardFrom ns (later' ++ heard')) :
    (∀ ns, heardFrom ns heard = heardFrom ns heard') ∧
      ∀ ns, heardFrom ns later = heardFrom ns later' := by
  have split : ∀ ns, heardFrom ns heard ++ heardFrom ns later =
      heardFrom ns later' ++ heardFrom ns heard' := by
    intro ns
    have whole := same ns
    unfold heardFrom at whole ⊢
    rwa [List.filter_append, List.filter_append] at whole
  have either : ∀ ns,
      heardFrom ns heard = heardFrom ns heard' ∧
        heardFrom ns later = heardFrom ns later' := by
    intro ns
    have whole := split ns
    by_cases member : ns ∈ namespaces
    · have elsewhere : ns ∉ others := disjoint member
      rw [heardFrom_eq_nil laterWithin elsewhere,
        heardFrom_eq_nil laterWithin' elsewhere] at whole ⊢
      exact ⟨by simpa using whole, rfl⟩
    · rw [heardFrom_eq_nil within member,
        heardFrom_eq_nil within' member] at whole ⊢
      exact ⟨rfl, by simpa using whole⟩
  exact ⟨fun ns => (either ns).1, fun ns => (either ns).2⟩

end Parallel

/-! ## Calls left to themselves -/

/-- A step of the task on its way to an answer. -/
def Action.advances (task : TaskId) : Action → Bool
  | .cancelWaiting _ => false
  | action => action.own task

theorem Action.own_of_advances {task : TaskId} {action : Action}
    (advances : action.advances task = true) : action.own task = true := by
  cases action with
  | cancelWaiting actor =>
      cases advances
  | _ =>
      exact advances

namespace Machine

/-- The reply a lifecycle call gets in this step. -/
def hears (machine : Machine) (action : Action) (_ : Machine) :
    List (Namespace × Reply) :=
  match action with
  | .reply task reply =>
      match machine.tasks task with
      | some (.suspended ns _ _ _ _ _) => [(ns, reply)]
      | _ => []
  | _ => []

section Conversations

variable [Platform] {machine called after : Machine} {task : TaskId}
  {action : Action} {base : World} {first : Standing}
  {heard : List (Namespace × Reply)}

/-- However the call goes on, it has been a dialogue from the start. -/
abbrev Converses (base : World) (first : Standing) (task : TaskId)
    (machine : Machine) (heard : List (Namespace × Reply)) : Prop :=
  machine.Stands
    (fun world standing => ∀ later final,
      Dialogue world standing later final →
        Dialogue base first (heard ++ later) final)
    task

theorem converses_step (converses : machine.Converses base first task heard)
    (advances : action.advances task = true)
    (taken : step machine action = some after) :
    after.Converses base first task (heard ++ machine.hears action after) := by
  obtain ⟨current, standing, present, stood, held⟩ := converses
  cases action with
  | request request => cases advances
  | call mountedName => cases advances
  | acquire actor =>
      cases of_decide_eq_true advances
      obtain ⟨ns, block, found, _, rfl⟩ := step_acquire.mp taken
      cases found.symm.trans present
      rw [show machine.hears _ _ = [] from rfl, List.append_nil]
      cases block with
      | operation operation rest entries =>
          cases stood
          obtain ⟨locks, same⟩ := machine.namespaceLock_world ns
          have looked : ∀ later final,
              Dialogue
                  (machine.acquire task ns
                    (.operation operation rest entries)).world
                  (.visiting ns operation rest entries) later final →
                Dialogue base first (heard ++ later) final := by
            intro later final dialogue
            rw [acquire_world, same] at dialogue
            exact held later final dialogue.visiting_of_locked
          obtain ⟨lock, entered | waiting⟩ :=
            tasks_acquire machine task ns (.operation operation rest entries)
          · exact ⟨_, _, entered, rfl, looked⟩
          · exact ⟨_, _, waiting, rfl, looked⟩
      | callStart mountedName => cases stood
      | callFinish result => cases stood
  | grant actor =>
      cases of_decide_eq_true advances
      obtain ⟨ns, lock, block, found, _, _, rfl⟩ := step_grant.mp taken
      cases found.symm.trans present
      rw [show machine.hears _ _ = [] from rfl, List.append_nil]
      cases block with
      | operation operation rest entries =>
          exact ⟨_, _, Function.update_self _ _ _, stood, held⟩
      | callStart mountedName => cases stood
      | callFinish result => cases stood
  | enter actor =>
      cases of_decide_eq_true advances
      obtain ⟨ns, lock, block, found, _, rfl⟩ := step_enter.mp taken
      cases found.symm.trans present
      rw [show machine.hears _ _ = [] from rfl, List.append_nil]
      cases block with
      | operation operation rest entries =>
          cases stood
          apply stands_of_proceed
          apply wp_mono (wp_self (start operation ns) machine.world)
          · exact fun _ _ ends later final dialogue =>
              held later final (.visit ends dialogue)
          · exact fun _ _ ends later final dialogue =>
              held later final (.visit ends dialogue)
      | callStart mountedName => cases stood
      | callFinish result => cases stood
  | reply actor reply =>
      cases of_decide_eq_true advances
      obtain ⟨ns, lock, operation, rest, entries, stage, found, _, rfl⟩ :=
        step_reply.mp taken
      cases found.symm.trans present
      cases stood
      have hears : machine.hears (.reply task reply)
          (machine.proceed task ns lock operation rest entries
            (outcome (resume ns stage reply) machine.world)) =
              [(ns, reply)] := by
        simp only [Machine.hears, found]
      rw [hears]
      apply stands_of_proceed
      apply wp_mono (wp_self (resume ns stage reply) machine.world)
      · intro progress world ends later final dialogue
        rw [List.append_assoc]
        exact held _ final (.hear ends dialogue)
      · intro raised world ends later final dialogue
        rw [List.append_assoc]
        exact held _ final (.hear ends dialogue)
  | callReply actor reply =>
      cases of_decide_eq_true advances
      obtain ⟨tool, stage, found, _, _⟩ := step_callReply.mp taken
      cases found.symm.trans present
      cases stood
  | cancelWaiting actor => cases advances
  | die runtime => cases advances

/-- A call left to itself is a dialogue. -/
theorem dialogue_of_runs {current : Task} {answer : Answer}
    (begun : called.tasks task = some current)
    (stood : current.stands = some first)
    (runs :
      Reaches (monitor step hears)
        (fun _ action => action.advances task = true)
        (called, []) (after, heard))
    (answered : after.tasks task = some (.answered answer)) :
    Dialogue called.world first heard after.world := by
  have throughout : ∀ state,
      Reaches (monitor step hears)
          (fun _ action => action.advances task = true) (called, []) state →
        state.1.Converses called.world first task state.2 := by
    intro state runs
    induction runs with
    | start =>
        exact ⟨current, first, begun, stood, fun _ _ => id⟩
    | step before advances taken inductionHypothesis =>
        obtain ⟨moved, hears⟩ := monitor_eq_some.mp taken
        rw [hears]
        exact converses_step inductionHypothesis advances moved
  have whole :=
    (throughout (after, heard) runs).answered answered [] after.world
      (.answered _ _)
  rwa [List.append_nil] at whole

/-! ## Commands in either order -/

/-- The command on the namespaces, left to itself, has been answered. -/
def Completes (command : Command) (namespaces : List Namespace)
    (before : Machine) (heard : List (Namespace × Reply)) (after : Machine) :
    Prop :=
  ∃ called answer,
    step before (.request (command.on namespaces)) = some called ∧
      Reaches (monitor step hears)
        (fun _ action => action.advances before.nextTask = true)
        (called, []) (after, heard) ∧
      after.tasks before.nextTask = some (.answered answer)

variable {command : Command} {namespaces : List Namespace}
  {left left' right right' : Machine}
  {heard' : List (Namespace × Reply)} {ns : Namespace}

theorem Completes.runs
    (completes : machine.Completes command namespaces heard after) :
    Reaches step (fun _ _ => True) machine after := by
  obtain ⟨called, answer, asked, runs, _⟩ := completes
  have taken : Reaches step (fun _ _ => True) called after :=
    runs.of_monitor fun _ _ _ => trivial
  have joined : ∀ {state : Machine},
      Reaches step (fun _ _ => True) called state →
        Reaches step (fun _ _ => True) machine state := by
    intro state reaches
    induction reaches with
    | start =>
        exact .step .start trivial asked
    | step before meets taken inductionHypothesis =>
        exact .step inductionHypothesis meets taken
  exact joined taken

theorem Completes.spares
    (completes : machine.Completes command namespaces heard after)
    (sane : machine.Sane) (heeds : command.Heeds namespaces machine.world)
    (outside : ns ∉ namespaces) : Spares ns machine.world after.world := by
  obtain ⟨called, answer, asked, runs, _⟩ := completes
  have own :
      Reaches step (fun _ action => action.own machine.nextTask = true) called
        after :=
    runs.of_monitor fun _ _ => Action.own_of_advances
  exact (spares_request asked).trans
    (spares_of_runs (sane_step sane asked) (ranges_request heeds asked) own
      outside)

/-- Sanity and a working store last. -/
theorem lasting_of_runs (sane : machine.Sane)
    (reliable : machine.world.Reliable)
    (runs : Reaches step (fun _ _ => True) machine after) :
    after.Sane ∧ after.world.Reliable := by
  induction runs with
  | start =>
      exact ⟨sane, reliable⟩
  | step before _ taken inductionHypothesis =>
      obtain ⟨sane, reliable⟩ := inductionHypothesis
      exact ⟨sane_step sane taken,
        (store_of_turn sane (turn_of_step taken)).1 reliable⟩

/-- The call is admitted, and nothing has happened yet. -/
theorem called_of_supported {operation : Operation}
    (heeds : command.Heeds namespaces machine.world)
    (supported : command.operation = some operation)
    (asked : step machine (.request (command.on namespaces)) = some called) :
    called.world = machine.world ∧
      called.tasks machine.nextTask =
        some (nextVisit operation namespaces []) := by
  obtain ⟨_, rfl⟩ := step_request.mp asked
  unfold Machine.request
  rw [Command.accept_on heeds supported]
  exact ⟨rfl, Function.update_self _ _ _⟩

/-- The call is answered at once. -/
theorem called_of_unsupported (unsupported : command.operation = none)
    (asked : step machine (.request (command.on namespaces)) = some called) :
    Untouched machine.world called.world ∧
      ∃ answer, called.tasks machine.nextTask = some (.answered answer) := by
  obtain ⟨_, rfl⟩ := step_request.mp asked
  have refused :=
    wp_and (@accept_untouched machine.world _ (command.on namespaces))
      (Command.accept_unsupported unsupported)
  unfold Machine.request
  rcases wp_cases refused with
    ⟨_, world, computed, untouched, error, rfl⟩ |
      ⟨raised, world, computed, untouched, _⟩
  · rw [computed]
    exact ⟨untouched, _, Function.update_self _ _ _⟩
  · rw [computed]
    exact ⟨untouched, _, Function.update_self _ _ _⟩

omit [Platform] in
theorem maintains_of_operation {operation : Operation}
    (supported : command.operation = some operation) :
    operation.maintains = true := by
  cases command with
  | activateToolsets scope ifNotLoaded =>
      obtain ⟨parsed, _, rfl⟩ := Option.map_eq_some_iff.mp supported
      rfl
  | refreshToolsets ifStale scope =>
      obtain ⟨parsed, _, rfl⟩ := Option.map_eq_some_iff.mp supported
      rfl
  | deactivateToolsets scope force =>
      obtain ⟨parsed, _, rfl⟩ := Option.map_eq_some_iff.mp supported
      rfl
  | checkToolsetHealth scope =>
      obtain ⟨parsed, _, rfl⟩ := Option.map_eq_some_iff.mp supported
      rfl
  | _ =>
      cases supported
      rfl

/-- A refused call hears nothing and changes nothing. -/
theorem Completes.refused (unsupported : command.operation = none)
    (completes : machine.Completes command namespaces heard after) :
    heard = [] ∧ Untouched machine.world after.world := by
  obtain ⟨called, answer, asked, runs, answered⟩ := completes
  obtain ⟨untouched, refusal, refused⟩ :=
    called_of_unsupported unsupported asked
  obtain ⟨silent, same⟩ :=
    (dialogue_of_runs refused rfl runs answered).of_answered
  rw [same]
  exact ⟨silent, untouched⟩

/-- An admitted call is a dialogue on its list. -/
theorem Completes.dialogue {operation : Operation}
    (heeds : command.Heeds namespaces machine.world)
    (supported : command.operation = some operation)
    (completes : machine.Completes command namespaces heard after) :
    Dialogue machine.world (.next operation namespaces []) heard
      after.world := by
  obtain ⟨called, answer, asked, runs, answered⟩ := completes
  obtain ⟨world, begun⟩ := called_of_supported heeds supported asked
  rw [← world]
  exact dialogue_of_runs begun (stands_nextVisit _ _ _) runs answered

theorem Completes.heard_within
    (heeds : command.Heeds namespaces machine.world)
    (completes : machine.Completes command namespaces heard after) :
    ∀ said ∈ heard, said.1 ∈ namespaces := by
  cases supported : command.operation with
  | none =>
      rw [(completes.refused supported).1]
      intro said member
      cases member
  | some operation =>
      exact (completes.dialogue heeds supported).heard_within
        (within_next (List.Subset.refl namespaces))

/-- The same command, hearing the same, from states that agree on its list. -/
theorem agree_of_completes (sane : left.Sane) (sane' : right.Sane)
    (heeds : command.Heeds namespaces left.world)
    (heeds' : command.Heeds namespaces right.world)
    (mine : left.Completes command namespaces heard left')
    (other : right.Completes command namespaces heard' right')
    (same : ∀ ns, heardFrom ns heard = heardFrom ns heard')
    (agree : ∀ ns ∈ namespaces, Agree ns left.world right.world) :
    ∀ ns ∈ namespaces, Agree ns left'.world right'.world := by
  cases supported : command.operation with
  | none =>
      intro ns member
      exact (agree ns member).untouched (mine.refused supported).2
        (other.refused supported).2
  | some operation =>
      have dialogue := mine.dialogue heeds supported
      have dialogue' := other.dialogue heeds' supported
      have within :
          (Standing.next operation namespaces []).Within namespaces :=
        within_next (List.Subset.refl namespaces)
      have alike : StandingAlike left.world right.world
          (.next operation namespaces []) (.next operation namespaces []) :=
        alike_next (maintains_of_operation supported)
      exact dialogue.agree dialogue'
        ⟨agree, sane.housed, sane'.housed, within, alike⟩ same

/-- Commands on disjoint lists commute, up to times and identities. -/
theorem agree_of_orders {other : Command} {others : List Namespace}
    {first both second both' : Machine}
    {later later' : List (Namespace × Reply)}
    (sane : machine.Sane) (reliable : machine.world.Reliable)
    (heeds : command.Heeds namespaces machine.world)
    (otherHeeds : other.Heeds others first.world)
    (otherHeeds' : other.Heeds others machine.world)
    (heeds' : command.Heeds namespaces second.world)
    (disjoint : namespaces.Disjoint others)
    (one : machine.Completes command namespaces heard first)
    (two : first.Completes other others later both)
    (one' : machine.Completes other others later' second)
    (two' : second.Completes command namespaces heard' both')
    (same : ∀ ns, heardFrom ns (heard ++ later) =
      heardFrom ns (later' ++ heard')) (ns : Namespace) :
    Agree ns both.world both'.world := by
  obtain ⟨saneFirst, reliableFirst⟩ :=
    lasting_of_runs sane reliable one.runs
  obtain ⟨saneBoth, reliableBoth⟩ :=
    lasting_of_runs saneFirst reliableFirst two.runs
  obtain ⟨saneSecond, reliableSecond⟩ :=
    lasting_of_runs sane reliable one'.runs
  obtain ⟨saneBoth', reliableBoth'⟩ :=
    lasting_of_runs saneSecond reliableSecond two'.runs
  obtain ⟨mine, theirs⟩ :=
    heardFrom_apart disjoint (one.heard_within heeds)
      (two'.heard_within heeds') (two.heard_within otherHeeds)
      (one'.heard_within otherHeeds') same
  have start : ∀ ns, machine.world.Ready ns :=
    fun _ => sane.housed.ready reliable
  have ready : ∀ ns, both.world.Ready ns :=
    fun _ => saneBoth.housed.ready reliableBoth
  have ready' : ∀ ns, both'.world.Ready ns :=
    fun _ => saneBoth'.housed.ready reliableBoth'
  by_cases member : ns ∈ namespaces
  · have apart : ∀ ns ∈ namespaces,
        Agree ns machine.world second.world := by
      intro ns member
      exact (Agree.refl (start ns)).spared (.refl _)
        (one'.spares sane otherHeeds' (disjoint member)) (start ns)
        (saneSecond.housed.ready reliableSecond)
    have done :=
      agree_of_completes sane saneSecond heeds heeds' one two' mine apart ns
        member
    exact done.spared (two.spares saneFirst otherHeeds (disjoint member))
      (.refl _) (ready ns) (ready' ns)
  · by_cases member' : ns ∈ others
    · have apart : ∀ ns ∈ others, Agree ns first.world machine.world := by
        intro ns member
        exact (Agree.refl (start ns)).spared
          (one.spares sane heeds fun listed => disjoint listed member)
          (.refl _) (saneFirst.housed.ready reliableFirst) (start ns)
      have done :=
        agree_of_completes saneFirst sane otherHeeds otherHeeds' two one'
          theirs apart ns member'
      exact done.spared (.refl _) (two'.spares saneSecond heeds' member)
        (ready ns) (ready' ns)
    · exact (Agree.refl (start ns)).spared
        ((one.spares sane heeds member).trans
          (two.spares saneFirst otherHeeds member'))
        ((one'.spares sane otherHeeds' member').trans
          (two'.spares saneSecond heeds' member))
        (ready ns) (ready' ns)

/-! ## The property -/

/-- In any reachable state, a command that heeds its list changes nothing
outside it, whatever the other clients do meanwhile; and commands on disjoint
lists can be made in either order. -/
theorem namespaces_isolated {world : World}
    (reaches : Reaches step (fun _ _ => True) (boot world) machine) :
    (∀ (command : Command) (namespaces : List Namespace) (called : Machine),
      command.Heeds namespaces machine.world →
      step machine (.request (command.on namespaces)) = some called →
      ∀ ns, ns ∉ namespaces →
        Spares ns machine.world called.world ∧
          (∀ after,
            Reaches step
                (fun _ action => action.own machine.nextTask = true)
                called after →
              Spares ns machine.world after.world) ∧
          ∀ (among : Machine) (action : Action) (after : Machine),
            Reaches step (fun _ _ => True) called among →
            action.own machine.nextTask = true →
            step among action = some after →
              Spares ns among.world after.world) ∧
    ∀ (command other : Command) (namespaces others : List Namespace)
      (first both second both' : Machine)
      (heard later later' heard' : List (Namespace × Reply)),
      command.Heeds namespaces machine.world →
      other.Heeds others first.world → other.Heeds others machine.world →
      command.Heeds namespaces second.world →
      namespaces.Disjoint others → machine.world.Reliable →
      machine.Completes command namespaces heard first →
      first.Completes other others later both →
      machine.Completes other others later' second →
      second.Completes command namespaces heard' both' →
      (∀ ns, heardFrom ns (heard ++ later) =
        heardFrom ns (later' ++ heard')) →
        ∀ ns, Agree ns both.world both'.world := by
  have sane := sane_of_reaches reaches
  constructor
  · intro command namespaces called heeds asked ns outside
    have saneCalled := sane_step sane asked
    have begun := ranges_request heeds asked
    have starts : Spares ns machine.world called.world := spares_request asked
    refine ⟨starts, ?_, ?_⟩
    · intro after runs
      exact starts.trans (spares_of_runs saneCalled begun runs outside)
    · intro among action after runs own taken
      obtain ⟨saneAmong, ranges⟩ := ranges_of_runs saneCalled begun runs
      exact spares_step saneAmong ranges own taken outside
  · intro command other namespaces others first both second both' heard later
      later' heard' heeds otherHeeds otherHeeds' heeds' disjoint reliable one
      two one' two' same
    exact agree_of_orders sane reliable heeds otherHeeds otherHeeds' heeds'
      disjoint one two one' two' same

end Conversations

section Ascii

/-- Execute the command and test the state its answer leaves. -/
def completesInto [Platform] (command : Command) (namespaces : List Namespace)
    (actions : List Action)
    (test : Machine → List (Namespace × Reply) → Bool) (machine : Machine) :
    Bool :=
  (step machine (.request (command.on namespaces))).any fun called =>
    (execute (monitor step hears)
      (fun _ action => action.advances machine.nextTask = true)
      (called, []) actions).any fun state =>
        (state.1.response machine.nextTask).isSome && test state.1 state.2

theorem exists_completes [Platform] {command : Command}
    {namespaces : List Namespace} {actions : List Action}
    {test : Machine → List (Namespace × Reply) → Bool} {machine : Machine}
    (executed :
      machine.completesInto command namespaces actions test = true) :
    ∃ heard after,
      machine.Completes command namespaces heard after ∧
        test after heard = true := by
  obtain ⟨called, asked, found⟩ := (Option.any_eq_true _ _).mp executed
  obtain ⟨⟨after, heard⟩, runs, tested⟩ := (Option.any_eq_true _ _).mp found
  obtain ⟨answered, passes⟩ := Bool.and_eq_true_iff.mp tested
  obtain ⟨entries, answers⟩ := Option.isSome_iff_exists.mp answered
  exact ⟨heard, after,
    ⟨called, _, asked, Reaches.start.of_execute runs,
      tasks_of_response answers⟩, passes⟩

/-- One runtime has closed as it should. -/
def closedOnce (ns : Namespace) : List (Namespace × Reply) → Bool
  | [(home, .ok [])] => home = ns
  | _ => false

theorem eq_of_closedOnce {ns : Namespace} {heard : List (Namespace × Reply)}
    (closed : closedOnce ns heard = true) : heard = [(ns, .ok [])] := by
  unfold closedOnce at closed
  split at closed
  · rw [of_decide_eq_true closed]
  · cases closed

open scoped Ascii

/-- The activation of the bundled toolset. -/
def activated : List Action :=
  [.request (.activateToolsets ["fake_stdio"] "thread" true),
   .acquire 0, .enter 0, .reply 0 (.ok [Ascii.ping])]

/-- The active toolset is deactivated before or after an unknown one is asked
for. -/
theorem namespaces_isolated_fake :
    ∃ machine after both both' : Machine,
      Reaches step (fun _ _ => True) (boot bundledWorld) machine ∧
        machine.Completes (.activateToolsets "thread" false) ["other"] []
          after ∧
        Spares "fake_stdio" machine.world after.world ∧
        after.Completes (.deactivateToolsets "thread" false) ["fake_stdio"]
          [("fake_stdio", .ok [])] both' ∧
        Agree "fake_stdio" both.world both'.world := by
  obtain ⟨machine, reaches, one, one'⟩ :=
    exists_reaches_of_execute activated
      (by decide +kernel :
        (execute step (fun _ _ => True) (boot bundledWorld) activated).any
          (fun machine =>
            machine.completesInto (.deactivateToolsets "thread" false)
                ["fake_stdio"] [.acquire 1, .enter 1, .reply 1 (.ok [])]
                (fun first heard =>
                  closedOnce "fake_stdio" heard &&
                    first.completesInto (.activateToolsets "thread" false)
                      ["other"] [.acquire 2, .enter 2]
                      fun _ heard => heard.isEmpty) = true ∧
              machine.completesInto (.activateToolsets "thread" false)
                ["other"] [.acquire 1, .enter 1]
                (fun second heard =>
                  heard.isEmpty &&
                    second.completesInto (.deactivateToolsets "thread" false)
                      ["fake_stdio"]
                      [.acquire 2, .enter 2, .reply 2 (.ok [])]
                      fun _ heard => closedOnce "fake_stdio" heard) = true) =
            true)
  obtain ⟨heard, first, completes, test⟩ := exists_completes one
  obtain ⟨closed, two⟩ := Bool.and_eq_true_iff.mp test
  obtain ⟨later, both, completesBoth, silent⟩ := exists_completes two
  obtain ⟨later', second, completes', test'⟩ := exists_completes one'
  obtain ⟨silent', two'⟩ := Bool.and_eq_true_iff.mp test'
  obtain ⟨heard', both', completesBoth', closed'⟩ := exists_completes two'
  obtain rfl := eq_of_closedOnce closed
  obtain rfl := eq_of_closedOnce closed'
  obtain rfl := List.isEmpty_iff.mp silent
  obtain rfl := List.isEmpty_iff.mp silent'
  have reliable : machine.world.Reliable :=
    (lasting_of_runs (sane_boot _) (fun _ member => by cases member) reaches).2
  obtain ⟨frame, orders⟩ := namespaces_isolated reaches
  refine ⟨machine, second, both, both', reaches, completes', ?_, completesBoth',
    ?_⟩
  · obtain ⟨called, answer, asked, runs, _⟩ := completes'
    exact (frame (.activateToolsets "thread" false) ["other"] called
      (.inl (by simp)) asked "fake_stdio" (by decide)).2.1 second
        (runs.of_monitor fun _ _ => Action.own_of_advances)
  · exact orders (.deactivateToolsets "thread" false)
      (.activateToolsets "thread" false) ["fake_stdio"] ["other"] first both
      second both' [("fake_stdio", .ok [])] [] [] [("fake_stdio", .ok [])]
      (.inl (by simp)) (.inl (by simp)) (.inl (by simp)) (.inl (by simp))
      (by simp) reliable completes completesBoth completes'
      completesBoth' (fun _ => rfl) "fake_stdio"

/-- A refresh of no toolset at all replaces the runtime of the active one. -/
theorem empty_list_is_all :
    ∃ machine called after,
      Reaches step (fun _ _ => True) (boot bundledWorld) machine ∧
      step machine
          (.request ((Command.refreshToolsets false none).on [])) =
        some called ∧
      Reaches step (fun _ action => action.own machine.nextTask = true) called
          after ∧
        ¬ Spares "fake_stdio" machine.world after.world := by
  obtain ⟨machine, reaches, found⟩ :=
    exists_reaches_of_execute activated
      (by decide +kernel :
        (execute step (fun _ _ => True) (boot bundledWorld) activated).any
          (fun machine =>
            ((step machine
              (.request ((Command.refreshToolsets false none).on []))).any
              fun called =>
                (execute step
                  (fun _ action => action.own machine.nextTask = true) called
                  [.acquire 1, .enter 1, .reply 1 (.ok [Ascii.ping]),
                   .reply 1 (.ok [])]).any
                  fun after =>
                    after.world.runtimes.get "fake_stdio" ≠
                      machine.world.runtimes.get "fake_stdio") = true) = true)
  obtain ⟨called, asked, runs⟩ := (Option.any_eq_true _ _).mp found
  obtain ⟨after, executed, replaced⟩ := (Option.any_eq_true _ _).mp runs
  refine ⟨machine, called, after, reaches, asked,
    Reaches.start.of_execute executed, ?_⟩
  intro spares
  exact of_decide_eq_true replaced spares.mounted

end Ascii

end Machine

end ToolboxMcp
