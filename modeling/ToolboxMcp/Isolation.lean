import ToolboxMcp.AuditAgreement
import ToolboxMcp.Following
import ToolboxMcp.LateFailures
import ToolboxMcp.Service.Agreement
import ToolboxMcp.Turns

/-!
# Isolation of namespaces

A call that is given a list of namespaces touches no other: whatever the other
clients do meanwhile, none of its steps changes a record, a snapshot, a runtime
or a counter outside the list.  Some operations take the empty list for all
toolsets.
-/

namespace ToolboxMcp

open Effect

/-! ## Commands -/

/-- A tool of the service that is given a list of namespaces. -/
inductive Command where
  | activateToolsets (scope : String) (ifNotLoaded : Bool)
  | refreshToolsets (ifStale : Bool) (scope : Option String)
  | deactivateToolsets (scope : String) (force : Bool)
  | restoreToolsets (stableHostIdentity startup : Bool)
  | clearStaleToolsets
  | checkToolsetHealth (scope : Option String)
  | unregisterToolsets (force : Bool)

namespace Command

/-- The request with the list given explicitly. -/
def on (namespaces : List Namespace) : Command → Request
  | activateToolsets scope ifNotLoaded =>
      .activateToolsets namespaces scope ifNotLoaded
  | refreshToolsets ifStale scope =>
      .refreshToolsets (some namespaces) ifStale scope
  | deactivateToolsets scope force =>
      .deactivateToolsets namespaces scope force
  | restoreToolsets stableHostIdentity startup =>
      .restoreToolsets (some namespaces) stableHostIdentity startup
  | clearStaleToolsets => .clearStaleToolsets (some namespaces)
  | checkToolsetHealth scope => .checkToolsetHealth (some namespaces) scope
  | unregisterToolsets force => .unregisterToolsets namespaces force

/-- The command does not replace an empty list. -/
def literal : Command → Bool
  | activateToolsets .. => true
  | deactivateToolsets .. => true
  | unregisterToolsets _ => true
  | _ => false

/-- The list is not empty, or an empty list is not replaced, or there is no
toolset to replace it. -/
def Heeds (command : Command) (namespaces : List Namespace) (world : World) :
    Prop :=
  namespaces ≠ [] ∨ command.literal = true ∨
    (command.on []).subjects world = []

/-- The operation, if the arguments are supported. -/
def operation : Command → Option Operation
  | activateToolsets scope ifNotLoaded =>
      (Scope.parse scope).map (Operation.activate · ifNotLoaded)
  | refreshToolsets ifStale scope =>
      (parseScope scope).toOption.map (Operation.refresh ifStale ·)
  | deactivateToolsets scope force =>
      (Scope.parse scope).map (Operation.deactivate · force)
  | restoreToolsets stableHostIdentity startup =>
      some (.restore stableHostIdentity startup)
  | clearStaleToolsets => some .clearStale
  | checkToolsetHealth scope =>
      (parseScope scope).toOption.map Operation.checkHealth
  | unregisterToolsets force => some (.unregister force)

variable {command : Command} {namespaces : List Namespace} {world : World}

theorem selected_eq {wanted : ToolsetRecord → Bool}
    (heeds : command.Heeds namespaces world)
    (replaces : command.literal = false)
    (subjects :
      (command.on []).subjects world = selected world (some []) wanted) :
    selected world (some namespaces) wanted = namespaces := by
  cases namespaces with
  | nil =>
      rcases heeds with given | literal | nothing
      · exact absurd rfl given
      · rw [replaces] at literal
        cases literal
      · exact subjects.symm.trans nothing
  | cons first rest =>
      rfl

theorem parseScope_eq_ok {scope : Option String} {parsed : Option Scope}
    (parses : (parseScope scope).toOption = some parsed) :
    parseScope scope = .ok parsed := by
  cases result : parseScope scope with
  | error text =>
      rw [result] at parses
      cases parses
  | ok value =>
      rw [result] at parses
      cases parses
      rfl

theorem outcome_admitted {operation : Operation}
    {wanted : ToolsetRecord → Bool}
    (visits : selected world (some namespaces) wanted = namespaces) :
    outcome
        (do
          let world ← get
          return .admitted operation
            (selected world (some namespaces) wanted) : ServiceM Admission)
        world =
      (.ok (.admitted operation namespaces), world) := by
  rw [outcome_bind]
  simp only [outcome_get, visits]
  rfl

/-- A supported command visits the list as it stands. -/
theorem accept_on [Platform] {operation : Operation}
    (heeds : command.Heeds namespaces world)
    (supported : command.operation = some operation) :
    outcome (accept (command.on namespaces)) world =
      (.ok (.admitted operation namespaces), world) := by
  cases command with
  | activateToolsets scope ifNotLoaded =>
      obtain ⟨parsed, parses, rfl⟩ := Option.map_eq_some_iff.mp supported
      simp only [on, accept, parses]
      rfl
  | refreshToolsets ifStale scope =>
      obtain ⟨parsed, parses, rfl⟩ := Option.map_eq_some_iff.mp supported
      simp only [on, accept, parseScope_eq_ok parses]
      exact outcome_admitted (selected_eq heeds rfl rfl)
  | deactivateToolsets scope force =>
      obtain ⟨parsed, parses, rfl⟩ := Option.map_eq_some_iff.mp supported
      simp only [on, accept, parses]
      rfl
  | restoreToolsets stableHostIdentity startup =>
      cases supported
      exact outcome_admitted (selected_eq heeds rfl rfl)
  | clearStaleToolsets =>
      cases supported
      exact outcome_admitted (selected_eq heeds rfl rfl)
  | checkToolsetHealth scope =>
      obtain ⟨parsed, parses, rfl⟩ := Option.map_eq_some_iff.mp supported
      simp only [on, accept, parseScope_eq_ok parses]
      exact outcome_admitted (selected_eq heeds rfl rfl)
  | unregisterToolsets force =>
      cases supported
      rfl

theorem wp_refuse {audited : AuditOperation} {error : ErrorInfo} :
    wp (refuse audited error)
      (fun admission _ => ∃ error, admission = .refused error)
      (fun _ _ => True) world := by
  unfold refuse
  rw [wp_bind]
  apply wp_mono (wp_any _ world)
  · exact fun _ _ _ => ⟨error, rfl⟩
  · exact fun _ _ => id

/-- An unsupported command is refused. -/
theorem accept_unsupported [Platform] (unsupported : command.operation = none) :
    wp (accept (command.on namespaces))
      (fun admission _ => ∃ error, admission = .refused error)
      (fun _ _ => True) world := by
  cases command with
  | activateToolsets scope ifNotLoaded =>
      simp only [on, accept, Option.map_eq_none_iff.mp unsupported]
      exact wp_refuse
  | refreshToolsets ifStale scope =>
      simp only [on, accept]
      cases parses : parseScope scope with
      | error text =>
          exact wp_refuse
      | ok parsed =>
          simp [operation, parses, Except.toOption] at unsupported
  | deactivateToolsets scope force =>
      simp only [on, accept, Option.map_eq_none_iff.mp unsupported]
      exact wp_refuse
  | restoreToolsets stableHostIdentity startup =>
      cases unsupported
  | clearStaleToolsets =>
      cases unsupported
  | checkToolsetHealth scope =>
      simp only [on, accept]
      cases parses : parseScope scope with
      | error text =>
          exact wp_refuse
      | ok parsed =>
          simp [operation, parses, Except.toOption] at unsupported
  | unregisterToolsets force =>
      cases unsupported

end Command

/-! ## Where a call may go -/

/-- The visits left are in the list. -/
def Standing.Within (namespaces : List Namespace) : Standing → Prop
  | .visiting ns _ rest _ => ns :: rest ⊆ namespaces
  | .suspended ns _ rest _ _ => ns :: rest ⊆ namespaces
  | .answered _ => True

section Within

variable {namespaces rest : List Namespace}

theorem within_next {operation : Operation} {entries : List Entry}
    (within : rest ⊆ namespaces) :
    (Standing.next operation rest entries).Within namespaces := by
  cases rest with
  | nil =>
      trivial
  | cons ns later =>
      exact within

theorem within_after {ns : Namespace} {operation : Operation}
    {entries : List Entry} {progress : Progress}
    (within : ns :: rest ⊆ namespaces) :
    (Standing.after ns operation rest entries progress).Within namespaces := by
  cases progress with
  | inside stage =>
      exact within
  | left more =>
      exact within_next (List.subset_of_cons_subset within)

theorem lasts_within [Platform] :
    Lasts fun _ standing => standing.Within namespaces where
  locks _ _ _ _ within := within
  dies _ _ _ within := within
  cancelled _ := trivial
  starts world ns operation rest entries within := by
    apply wp_mono (wp_any _ world)
    · exact fun _ _ _ => within_after within
    · exact fun _ _ _ => trivial
  resumes world ns operation rest entries stage reply within := by
    apply wp_mono (wp_any _ world)
    · exact fun _ _ _ => within_after within
    · exact fun _ _ _ => trivial

end Within

/-! ## The frame -/

/-- Nothing about the namespace has changed. -/
structure Spares (ns : Namespace) (before after : World) : Prop where
  config : after.config = before.config
  record : after.document.getToolset ns = before.document.getToolset ns
  snapshot :
    after.document.getSchemaSnapshot ns = before.document.getSchemaSnapshot ns
  previousSnapshot :
    after.document.getPreviousSchemaSnapshot ns =
      before.document.getPreviousSchemaSnapshot ns
  mounted : after.runtimes.get ns = before.runtimes.get ns
  runtime : after.runtimeAt ns = before.runtimeAt ns
  inFlight : after.inFlight ns = before.inFlight ns

section Frame

variable {ns home : Namespace} {before middle after : World}

theorem Spares.refl (world : World) : Spares ns world world :=
  ⟨rfl, rfl, rfl, rfl, rfl, rfl, rfl⟩

theorem Spares.trans (first : Spares ns before middle)
    (second : Spares ns middle after) : Spares ns before after where
  config := second.config.trans first.config
  record := second.record.trans first.record
  snapshot := second.snapshot.trans first.snapshot
  previousSnapshot := second.previousSnapshot.trans first.previousSnapshot
  mounted := second.mounted.trans first.mounted
  runtime := second.runtime.trans first.runtime
  inFlight := second.inFlight.trans first.inFlight

theorem Untouched.spares (untouched : Untouched before after) :
    Spares ns before after where
  config := untouched.config
  record := untouched.records ns
  snapshot := untouched.snapshots ns
  previousSnapshot := untouched.previousSnapshots ns
  mounted := by rw [untouched.runtimes]
  runtime := untouched.toSameTransport.runtimeAt
  inFlight := by rw [untouched.inFlight]

/-- A stretch in another namespace. -/
theorem Sound.spares (sound : Sound home before after)
    (housed : before.Housed) (different : ns ≠ home) :
    Spares ns before after where
  config := sound.config
  record := sound.records ns different
  snapshot := sound.snapshots ns different
  previousSnapshot := sound.previousSnapshots ns different
  mounted := sound.runtimes ns different
  runtime := by
    unfold World.runtimeAt
    rw [sound.runtimes ns different]
    cases mounted : before.runtimes.get ns with
    | none =>
        rfl
    | some runtime =>
        obtain ⟨present, named⟩ := housed ns runtime mounted
        have stranger : (before.objects runtime).ns ≠ home := by
          rw [named]
          exact different
        rw [Option.map_some, Option.map_some,
          sound.foreign runtime present stranger]
  inFlight := by rw [sound.inFlight]

end Frame

/-- A step of the task itself. -/
def Action.own (task : TaskId) : Action → Bool
  | .die _ => false
  | action => action.concerns task

namespace Machine

section Steps

variable [Platform] {machine called after : Machine} {task : TaskId}
  {action : Action} {namespaces : List Namespace}

/-- The task is where a call on the list can be. -/
abbrev Ranges (namespaces : List Namespace) (task : TaskId)
    (machine : Machine) : Prop :=
  machine.Stands (fun _ standing => standing.Within namespaces) task

/-- The steps of others leave the task where it is. -/
theorem tasks_of_other (sane : machine.Sane)
    (present : task < machine.nextTask)
    (other : action.concerns task = false)
    (taken : step machine action = some after) :
    after.tasks task = machine.tasks task := by
  have apart : ∀ actor : TaskId, decide (actor = task) = false →
      task ≠ actor :=
    fun actor different same => of_decide_eq_false different same.symm
  cases action with
  | request request =>
      obtain ⟨_, rfl⟩ := step_request.mp taken
      exact (advances_request request).others task present.ne
  | call mountedName =>
      obtain ⟨_, rfl⟩ := step_call.mp taken
      exact (advances_call mountedName).others task present.ne
  | acquire actor =>
      obtain ⟨ns, block, _, _, rfl⟩ := step_acquire.mp taken
      exact advances_acquire.others task (apart actor other)
  | grant actor =>
      obtain ⟨ns, lock, block, _, _, _, rfl⟩ := step_grant.mp taken
      exact Function.update_of_ne (apart actor other) _ _
  | enter actor =>
      obtain ⟨ns, lock, block, _, _, rfl⟩ := step_enter.mp taken
      exact (advances_enter sane).others task (apart actor other)
  | reply actor reply =>
      obtain ⟨ns, lock, operation, rest, entries, stage, _, _, rfl⟩ :=
        step_reply.mp taken
      obtain ⟨next, tasks⟩ := tasks_proceed machine
        (outcome (resume ns stage reply) machine.world)
      rw [tasks, Function.update_of_ne (apart actor other)]
  | callReply actor reply =>
      obtain ⟨tool, stage, _, _, rfl⟩ := step_callReply.mp taken
      obtain ⟨next, tasks⟩ := tasks_proceedCall machine
        (outcome (resumeCall tool stage reply) machine.world)
      rw [tasks, Function.update_of_ne (apart actor other)]
  | cancelWaiting actor =>
      obtain ⟨ns, lock, block, _, _, rfl⟩ := step_cancelWaiting.mp taken
      exact Function.update_of_ne (apart actor other) _ _
  | die runtime =>
      cases other

/-- Whoever takes a step, the call stays on its list. -/
theorem ranges_step (sane : machine.Sane)
    (ranges : machine.Ranges namespaces task)
    (taken : step machine action = some after) :
    after.Ranges namespaces task := by
  cases concerns : action.concerns task with
  | true =>
      exact stands_step lasts_within ranges concerns taken
  | false =>
      obtain ⟨current, standing, found, stood, within⟩ := ranges
      have kept := tasks_of_other sane (sane.present found) concerns taken
      exact ⟨current, standing, kept.trans found, stood, within⟩

theorem ranges_of_runs (sane : called.Sane)
    (begun : called.Ranges namespaces task)
    (runs : Reaches step (fun _ _ => True) called after) :
    after.Sane ∧ after.Ranges namespaces task := by
  induction runs with
  | start =>
      exact ⟨sane, begun⟩
  | step before _ taken inductionHypothesis =>
      obtain ⟨sane, ranges⟩ := inductionHypothesis
      exact ⟨sane_step sane taken, ranges_step sane ranges taken⟩

/-- A request that heeds its list begins on it. -/
theorem ranges_request {command : Command}
    (heeds : command.Heeds namespaces machine.world)
    (asked : step machine (.request (command.on namespaces)) = some called) :
    called.Ranges namespaces machine.nextTask := by
  refine stands_request ?_ asked
  cases supported : command.operation with
  | none =>
      apply wp_mono (Command.accept_unsupported supported)
      · rintro _ _ ⟨error, rfl⟩
        trivial
      · exact fun _ _ _ => trivial
  | some operation =>
      unfold wp
      rw [Command.accept_on heeds supported]
      exact within_next (List.Subset.refl namespaces)

/-- A request by itself changes no namespace. -/
theorem spares_request {request : Request} {ns : Namespace}
    (asked : step machine (.request request) = some called) :
    Spares ns machine.world called.world := by
  obtain ⟨_, rfl⟩ := step_request.mp asked
  rw [request_world]
  exact (final_of_wp (accept_untouched request)).spares

/-- No step of the call changes a namespace outside its list. -/
theorem spares_step (sane : machine.Sane)
    (ranges : machine.Ranges namespaces task)
    (own : action.own task = true)
    (taken : step machine action = some after) {ns : Namespace}
    (outside : ns ∉ namespaces) : Spares ns machine.world after.world := by
  obtain ⟨current, standing, present, stood, within⟩ := ranges
  have elsewhere : ∀ {home : Namespace} {rest : List Namespace},
      home :: rest ⊆ namespaces → ns ≠ home := by
    rintro home rest listed rfl
    exact outside (listed List.mem_cons_self)
  cases action with
  | request request => cases own
  | call mountedName => cases own
  | acquire actor =>
      obtain ⟨home, block, _, _, rfl⟩ := step_acquire.mp taken
      obtain ⟨locks, same⟩ := machine.namespaceLock_world home
      rw [acquire_world, same]
      exact ⟨rfl, rfl, rfl, rfl, rfl, rfl, rfl⟩
  | grant actor =>
      obtain ⟨home, lock, block, _, _, _, rfl⟩ := step_grant.mp taken
      exact .refl machine.world
  | enter actor =>
      cases of_decide_eq_true own
      obtain ⟨home, lock, block, found, _, rfl⟩ := step_enter.mp taken
      cases found.symm.trans present
      cases block with
      | operation operation rest entries =>
          cases stood
          have sound : Sound home machine.world
              (outcome (start operation home) machine.world).2 :=
            final_of_wp_left (start_sound sane.housed operation)
          rw [enter, proceed_world]
          exact sound.spares sane.housed (elsewhere within)
      | callStart mountedName => cases stood
      | callFinish result => cases stood
  | reply actor reply =>
      cases of_decide_eq_true own
      obtain ⟨home, lock, operation, rest, entries, stage, found, _, rfl⟩ :=
        step_reply.mp taken
      cases found.symm.trans present
      cases stood
      have sound := final_of_wp_left
        (resume_sound sane.housed (sane.proper task _ found) reply)
      rw [proceed_world]
      exact sound.spares sane.housed (elsewhere within)
  | callReply actor reply =>
      cases of_decide_eq_true own
      obtain ⟨tool, stage, found, _, _⟩ := step_callReply.mp taken
      cases found.symm.trans present
      cases stood
  | cancelWaiting actor =>
      obtain ⟨home, lock, block, _, _, rfl⟩ := step_cancelWaiting.mp taken
      exact .refl machine.world
  | die runtime => cases own

/-- Left to itself, the call changes no other namespace. -/
theorem spares_of_runs (sane : called.Sane)
    (begun : called.Ranges namespaces task)
    (runs : Reaches step (fun _ action => action.own task = true) called after)
    {ns : Namespace} (outside : ns ∉ namespaces) :
    Spares ns called.world after.world := by
  have kept : after.Sane ∧ after.Ranges namespaces task ∧
      Spares ns called.world after.world := by
    induction runs with
    | start =>
        exact ⟨sane, begun, .refl called.world⟩
    | step before own taken inductionHypothesis =>
        obtain ⟨sane, ranges, spares⟩ := inductionHypothesis
        exact ⟨sane_step sane taken, ranges_step sane ranges taken,
          spares.trans (spares_step sane ranges own taken outside)⟩
  exact kept.2.2

end Steps

end Machine

end ToolboxMcp
