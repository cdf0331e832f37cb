import ToolboxMcp.Lifetime
import ToolboxMcp.Following
import ToolboxMcp.Service.Logging

/-!
# Results and audit trail

A call made while no other client acts appends to the audit log exactly the
events its answer stands for: one for every entry that is not skipped, in the
order of the entries, one for a refused request, and one for every mounted call
whose transport call has raised.
-/

namespace ToolboxMcp

open Effect

/-! ## Requests -/

def Request.audited : Request → Option AuditOperation
  | .registerToolset .. => some .register
  | .activateToolsets .. => some .activate
  | .refreshToolsets .. => some .refresh
  | .deactivateToolsets .. => some .deactivate
  | .restoreToolsets .. => some .restore
  | .checkToolsetHealth .. => some .healthCheck
  | .clearStaleToolsets _ => some .clearStale
  | .markToolsetStale .. => none
  | .unregisterToolsets .. => some .unregister

/-- The requested or selected namespaces, with repetitions. -/
def Request.subjects (world : World) : Request → List Namespace
  | .registerToolset ns _ _ => [ns]
  | .activateToolsets namespaces _ _ => namespaces
  | .refreshToolsets namespaces _ _ => selected world namespaces fun _ => true
  | .deactivateToolsets namespaces _ _ => namespaces
  | .restoreToolsets namespaces _ _ =>
      selected world namespaces fun record =>
        !record.recoverableScopes.isEmpty
  | .checkToolsetHealth namespaces _ =>
      selected world namespaces fun record => !record.loadedScopes.isEmpty
  | .clearStaleToolsets namespaces =>
      selected world namespaces fun record =>
        record.stale || failedCheck record
  | .markToolsetStale ns _ => [ns]
  | .unregisterToolsets namespaces _ => namespaces

/-- Every namespace is settled, in order. -/
def Covers (audited : AuditOperation) (namespaces : List Namespace)
    (entries : List Entry) : Prop :=
  ∃ groups : List (List Entry),
    groups.flatten = entries ∧ List.Forall₂ (Settles audited) namespaces groups

theorem Covers.concat {audited : AuditOperation}
    {namespaces : List Namespace} {entries more : List Entry} {ns : Namespace}
    (covers : Covers audited namespaces entries)
    (settles : Settles audited ns more) :
    Covers audited (namespaces ++ [ns]) (entries ++ more) := by
  obtain ⟨groups, rfl, alike⟩ := covers
  refine ⟨groups ++ [more], by simp, ?_⟩
  exact List.rel_append alike (.cons settles .nil)

/-- Only unregistration gives two entries for one namespace. -/
theorem Covers.one {audited : AuditOperation} {namespaces : List Namespace}
    {entries : List Entry} (covers : Covers audited namespaces entries)
    (other : audited ≠ .unregister) :
    entries.map Entry.subject = namespaces.map some ∧
      ∀ entry ∈ entries, entry.listedBy audited := by
  obtain ⟨groups, rfl, alike⟩ := covers
  induction alike with
  | nil => simp
  | @cons ns group namespaces groups settles alike inductionHypothesis =>
      obtain ⟨subjects, listed⟩ := inductionHypothesis
      cases settles with
      | one here subject =>
          refine ⟨?_, ?_⟩
          · rw [List.flatten_cons, List.map_append, List.map_singleton, subject,
              subjects]
            rfl
          · intro entry member
            rcases List.mem_append.mp member with first | later
            · rw [List.mem_singleton.mp first]
              exact here
            · exact listed entry later
      | disconnected unregisters => exact absurd unregisters other

/-- The answer is what the call has appended to the log stands for. -/
def Answer.Accounts (audited : AuditOperation) (namespaces : List Namespace)
    (before after : World) : Answer → Prop
  | .response entries =>
      Covers audited namespaces entries ∧
        Appended (entries.flatMap (Entry.marks audited)) before after
  | .refused error =>
      (audited ≠ .register → error.ns = none) ∧
        Appended [⟨audited, .failure, error.ns⟩] before after
  | .result _ => False
  -- a top-level error
  | .raised _ => True

/-- What a call in progress has answered and appended for. -/
def Standing.Accounts (audited : AuditOperation) (namespaces : List Namespace)
    (base world : World) : Standing → Prop
  | .visiting ns operation rest entries =>
      operation.audited = some audited ∧
        ∃ done, namespaces = done ++ ns :: rest ∧
          Covers audited done entries ∧
          Appended (entries.flatMap (Entry.marks audited)) base world
  | .suspended ns operation rest entries stage =>
      operation.audited = some audited ∧ stage.audited = audited ∧
        ∃ done, namespaces = done ++ ns :: rest ∧
          Covers audited done entries ∧
          Appended (entries.flatMap (Entry.marks audited)) base world
  | .answered answer => answer.Accounts audited namespaces base world

section Requests

variable [Platform] {audited : AuditOperation} {namespaces : List Namespace}
  {base world : World}

/-- Admission appends nothing, refusal one event. -/
theorem accept_accounts {request : Request}
    (serves : request.audited = some audited) (reliable : world.Reliable) :
    wp (accept request)
      (fun admission after =>
        match admission with
        | .refused error =>
            (Answer.refused error).Accounts audited (request.subjects world)
              world after
        | .admitted operation namespaces =>
            operation.audited = some audited ∧
              namespaces = request.subjects world ∧ Appended [] world after)
      (fun _ _ => True) world := by
  have refuses : ∀ {error : ErrorInfo},
      (audited ≠ .register → error.ns = none) →
        wp (refuse audited error)
          (fun admission after =>
            match admission with
            | .refused error =>
                (Answer.refused error).Accounts audited
                  (request.subjects world) world after
            | .admitted operation namespaces =>
                operation.audited = some audited ∧
                  namespaces = request.subjects world ∧
                  Appended [] world after)
          (fun _ _ => True) world := by
    intro error subject
    have logs :
        Logs (refuse audited error)
          (fun admission marks =>
            admission = .refused error ∧
              marks = [⟨audited, .failure, error.ns⟩])
          fun _ => True :=
      logs_appendAuditEvent (logs_pure ⟨rfl, rfl⟩)
    apply wp_mono (logs world reliable)
    · rintro _ after ⟨_, appended, rfl, rfl⟩
      exact ⟨subject, appended⟩
    · exact fun _ _ _ => trivial
  cases request with
  | registerToolset ns transport registration =>
      cases serves
      simp only [accept, acceptRegister]
      split
      · exact refuses fun other => absurd rfl other
      · split
        · exact refuses fun other => absurd rfl other
        · exact ⟨rfl, rfl, .refl world⟩
  | activateToolsets namespaces scope ifNotLoaded =>
      cases serves
      simp only [accept]
      split
      · exact ⟨rfl, rfl, .refl world⟩
      · exact refuses fun _ => rfl
  | refreshToolsets namespaces ifStale scope =>
      cases serves
      simp only [accept]
      split
      · exact ⟨rfl, rfl, .refl world⟩
      · exact refuses fun _ => rfl
  | deactivateToolsets namespaces scope force =>
      cases serves
      simp only [accept]
      split
      · exact ⟨rfl, rfl, .refl world⟩
      · exact refuses fun _ => rfl
  | restoreToolsets namespaces identity startup =>
      cases serves
      exact ⟨rfl, rfl, .refl world⟩
  | checkToolsetHealth namespaces scope =>
      cases serves
      simp only [accept]
      split
      · exact ⟨rfl, rfl, .refl world⟩
      · exact refuses fun _ => rfl
  | clearStaleToolsets namespaces =>
      cases serves
      exact ⟨rfl, rfl, .refl world⟩
  | markToolsetStale ns reason => cases serves
  | unregisterToolsets namespaces force =>
      cases serves
      exact ⟨rfl, rfl, .refl world⟩

/-! ## Lifecycle calls -/

omit [Platform] in
theorem Standing.Accounts.same {standing : Standing} {after : World}
    (accounts : standing.Accounts audited namespaces base world)
    (silent : Appended [] world after) :
    standing.Accounts audited namespaces base after := by
  have later : ∀ {marks : List AuditMark}, Appended marks base world →
      Appended marks base after := by
    intro marks appended
    simpa using appended.trans silent
  cases standing with
  | visiting ns operation rest entries =>
      obtain ⟨serves, done, split, covers, appended⟩ := accounts
      exact ⟨serves, done, split, covers, later appended⟩
  | suspended ns operation rest entries stage =>
      obtain ⟨serves, staged, done, split, covers, appended⟩ := accounts
      exact ⟨serves, staged, done, split, covers, later appended⟩
  | answered answer =>
      cases answer with
      | response entries => exact ⟨accounts.1, later accounts.2⟩
      | refused error => exact ⟨accounts.1, later accounts.2⟩
      | result result => exact accounts
      | raised raised => trivial

omit [Platform] in
theorem accounts_next {operation : Operation} {done rest : List Namespace}
    {entries : List Entry} (serves : operation.audited = some audited)
    (split : namespaces = done ++ rest) (covers : Covers audited done entries)
    (appended : Appended (entries.flatMap (Entry.marks audited)) base world) :
    (Standing.next operation rest entries).Accounts audited namespaces base
      world := by
  cases rest with
  | nil =>
      rw [List.append_nil] at split
      subst split
      exact ⟨covers, appended⟩
  | cons ns later => exact ⟨serves, done, split, covers, appended⟩

omit [Platform] in
/-- A stretch appends what it adds to the entries. -/
theorem accounts_stretch {ns : Namespace} {operation : Operation}
    {rest done : List Namespace} {entries : List Entry}
    {program : ServiceM Progress}
    (serves : operation.audited = some audited)
    (split : namespaces = done ++ ns :: rest)
    (covers : Covers audited done entries)
    (appended : Appended (entries.flatMap (Entry.marks audited)) base world)
    (reliable : base.Reliable) (audits : Audits audited ns program) :
    wp program
      (fun progress after =>
        (Standing.after ns operation rest entries progress).Accounts audited
          namespaces base after)
      (fun raised after =>
        (Standing.answered (.raised raised)).Accounts audited namespaces base
          after) world := by
  apply wp_mono (audits world (appended.reliable reliable))
  · rintro (stage | more) after ⟨marks, further, settled⟩
    · obtain ⟨rfl, staged⟩ := settled
      have same :
          Appended (entries.flatMap (Entry.marks audited)) base after := by
        simpa using appended.trans further
      exact ⟨serves, staged, done, split, covers, same⟩
    · obtain ⟨settles, rfl⟩ := settled
      refine accounts_next serves (by simp [split]) (covers.concat settles) ?_
      rw [List.flatMap_append]
      exact appended.trans further
  · exact fun _ _ _ => trivial

theorem lasts_accounts (reliable : base.Reliable) :
    Lasts fun world standing =>
      standing.Accounts audited namespaces base world where
  locks _ _ _ _ accounts := accounts.same (.of_same rfl rfl)
  dies _ _ _ accounts := accounts.same (.of_same rfl rfl)
  cancelled _ := trivial
  starts world ns operation rest entries accounts := by
    obtain ⟨serves, done, split, covers, appended⟩ := accounts
    exact accounts_stretch serves split covers appended reliable
      (audits_start serves)
  resumes world ns operation rest entries stage reply accounts := by
    obtain ⟨serves, rfl, done, split, covers, appended⟩ := accounts
    exact accounts_stretch serves split covers appended reliable audits_resume

end Requests

namespace Machine

section Calls

variable [Platform] {audited : AuditOperation}
  {machine called after : Machine}

/-- A lifecycle call accounts for what it appends. -/
theorem accounts_of_answered {request : Request} {answer : Answer}
    (serves : request.audited = some audited)
    (reliable : machine.world.Reliable)
    (asked : step machine (.request request) = some called)
    (runs :
      Reaches step (fun _ action => action.concerns machine.nextTask = true)
        called after)
    (answered : after.tasks machine.nextTask = some (.answered answer)) :
    answer.Accounts audited (request.subjects machine.world) machine.world
      after.world := by
  have begun :
      called.Stands
        (fun world standing =>
          standing.Accounts audited (request.subjects machine.world)
            machine.world world)
        machine.nextTask := by
    refine stands_request ?_ asked
    apply wp_mono (accept_accounts serves reliable)
    · rintro (error | ⟨operation, namespaces⟩) world accounts
      · exact accounts
      · obtain ⟨serving, rfl, appended⟩ := accounts
        exact accounts_next serving rfl ⟨[], rfl, .nil⟩ appended
    · exact fun _ _ _ => trivial
  exact (stands_of_runs (lasts_accounts reliable) begun runs).answered answered

end Calls

/-! ## Mounted calls -/

/-- The namespace of the transport call that raises in this step. -/
def transportRaises (machine : Machine) (action : Action) (_ : Machine) :
    List Namespace :=
  match action with
  | .callReply task reply =>
      match machine.tasks task with
      | some (.calling tool (.calling _)) =>
          match reply with
          | .error (.exception exception) =>
              -- a timeout is raised once the runtime is aborted
              if exception.timeout then [] else [tool.ns]
          | _ => []
      | some (.calling tool (.aborting _)) =>
          match reply with
          | .error .cancelled => []
          | _ => [tool.ns]
      | _ => []
  | _ => []

/-- The runtime a failed call disconnects closes as it should. -/
def closesCall (machine : Machine) : Action → Bool
  | .callReply task reply =>
      match machine.tasks task with
      | some (.calling _ (.disconnecting closing _)) =>
          (closing.raises reply).isNone
      | _ => true
  | _ => true

/-- Every transport call that has raised has its event. -/
def Reported (raised : List Namespace) (base world : World) : Prop :=
  raised.length ≤ 1 ∧
    Appended (raised.map fun ns => ⟨.call, .failure, some ns⟩) base world

/-- What a mounted call has appended at each of its places. -/
def Called (raised : List Namespace) (base world : World) : Task → Prop
  | .arriving _ (.callStart _) => raised = [] ∧ Appended [] base world
  | .waiting _ _ (.callStart _) => raised = [] ∧ Appended [] base world
  | .entered _ _ (.callStart _) => raised = [] ∧ Appended [] base world
  | .arriving _ (.callFinish _) => Reported raised base world
  | .waiting _ _ (.callFinish _) => Reported raised base world
  | .entered _ _ (.callFinish _) => Reported raised base world
  | .calling tool stage =>
      Appended [] base world ∧
        raised = match stage with
          | .disconnecting .. => [tool.ns]
          | _ => []
  | .answered _ => Reported raised base world
  | _ => False

theorem Reported.same {raised : List Namespace} {base world after : World}
    (reported : Reported raised base world) (silent : Appended [] world after) :
    Reported raised base after :=
  ⟨reported.1, by simpa using reported.2.trans silent⟩

theorem Called.same {raised : List Namespace} {base world after : World}
    {current : Task} (called : Called raised base world current)
    (silent : Appended [] world after) : Called raised base after current := by
  have later : Appended [] base world → Appended [] base after :=
    fun appended => by simpa using appended.trans silent
  cases current with
  | arriving ns block =>
      cases block with
      | operation operation rest entries => exact called
      | callStart mountedName => exact ⟨called.1, later called.2⟩
      | callFinish result => exact Reported.same called silent
  | waiting ns lock block =>
      cases block with
      | operation operation rest entries => exact called
      | callStart mountedName => exact ⟨called.1, later called.2⟩
      | callFinish result => exact Reported.same called silent
  | entered ns lock block =>
      cases block with
      | operation operation rest entries => exact called
      | callStart mountedName => exact ⟨called.1, later called.2⟩
      | callFinish result => exact Reported.same called silent
  | suspended ns lock operation rest entries stage => exact called
  | calling tool stage => exact ⟨later called.1, called.2⟩
  | answered answer => exact Reported.same called silent

/-- The task of the call is at such a place. -/
def Calls (base : World) (task : TaskId)
    (state : Machine × List Namespace) : Prop :=
  ∃ current, state.1.tasks task = some current ∧
    Called state.2 base state.1.world current

section MountedCalls

variable {base world : World} {machine after : Machine} {task : TaskId}
  {raised : List Namespace} {tool : MountedTool}

/-- The end of a stretch of the started call. -/
theorem calls_of_proceedCall {program : ServiceM CallProgress}
    (ends : wp program
      (fun progress after =>
        match progress with
        | .inside stage => Called raised base after (.calling tool stage)
        | .returned _ => Reported raised base after)
      (fun _ after => Reported raised base after) world) :
    Calls base task
      (machine.proceedCall task tool (outcome program world), raised) := by
  rcases wp_cases ends with
    ⟨stage | result, after, computed, held⟩ | ⟨exception, after, computed, held⟩
  · rw [computed]
    exact ⟨_, Function.update_self _ _ _, held⟩
  · rw [computed]
    exact ⟨_, Function.update_self _ _ _, held⟩
  · rw [computed]
    exact ⟨_, Function.update_self _ _ _, held⟩

/-- A transport call that raises is handled. -/
theorem calls_callFailed {exception : PyException} (reliable : base.Reliable)
    (appended : Appended [] base world) :
    wp (callFailed tool exception)
      (fun progress after =>
        match progress with
        | .inside stage => Called [tool.ns] base after (.calling tool stage)
        | .returned _ => Reported [tool.ns] base after)
      (fun _ after => Reported [tool.ns] base after) world := by
  apply wp_mono (logs_callFailed world (appended.reliable reliable))
  · rintro progress after ⟨_, further, rfl, closing, rfl⟩
    exact ⟨by simpa using appended.trans further, rfl⟩
  · rintro raised after ⟨_, further, rfl⟩
    exact ⟨le_rfl, appended.trans further⟩

theorem reported_nil (appended : Appended [] base world) :
    Reported [] base world :=
  ⟨Nat.zero_le 1, appended⟩

/-- The first block resolves the tool and dispatches the call. -/
theorem calls_startCall {lock : LockId} {mountedName : String}
    (appended : Appended [] base machine.world) :
    Calls base task (machine.startCall task lock mountedName, []) := by
  unfold startCall admitCall
  rw [outcome_bind]
  simp only [outcome_get]
  cases resolved : resolveMountedTool machine.world mountedName with
  | none =>
      exact ⟨_, Function.update_self _ _ _, reported_nil appended⟩
  | some tool =>
      obtain ⟨runtime, running⟩ := resolveMountedTool_running resolved
      have noted :
          Appended [] base (machine.world.noteCallStarted tool.ns) := by
        simpa using appended.trans
          (.of_same rfl rfl :
            Appended [] machine.world (machine.world.noteCallStarted tool.ns))
      refine calls_of_proceedCall ?_
      unfold dispatchCall
      rw [wp_bind, wp_get]
      have still :
          (machine.world.noteCallStarted tool.ns).runtimeFor tool.ns =
            some runtime := running
      rw [still]
      exact ⟨noted, rfl⟩

/-- Each reply either goes on, or raises and is handled. -/
theorem calls_reply {stage : CallStage} {reply : Except Raised CallToolResult}
    (reliable : base.Reliable)
    (found : machine.tasks task = some (.calling tool stage))
    (called : Called raised base machine.world (.calling tool stage))
    (closes : machine.closesCall (.callReply task reply) = true) :
    Calls base task
      (machine.proceedCall task tool
        (outcome (resumeCall tool stage reply) machine.world),
        raised ++ machine.transportRaises (.callReply task reply) after) := by
  obtain ⟨appended, rfl⟩ := called
  have quiet : ∀ {world : World}, Appended [] machine.world world →
      Appended [] base world :=
    fun further => by simpa using appended.trans further
  apply calls_of_proceedCall
  simp only [transportRaises, found]
  cases stage with
  | calling runtime =>
      unfold resumeCall
      rcases reply with (exception | _) | result
      · cases late : exception.timeout with
        | true =>
            simp only [late, if_true, wp_bind, wp_modify]
            exact ⟨quiet (.of_same rfl rfl), rfl⟩
        | false =>
            simp only [late, Bool.false_eq_true, if_false, List.nil_append]
            exact calls_callFailed reliable appended
      · exact reported_nil appended
      · exact reported_nil appended
  | aborting runtime =>
      have done : Appended [] base (machine.world.markDone runtime) :=
        quiet (.of_same rfl rfl)
      unfold resumeCall
      simp only [wp_bind, wp_get, wp_set]
      rcases reply with (exception | _) | result
      · exact calls_callFailed reliable done
      · exact reported_nil done
      · exact calls_callFailed reliable done
  | disconnecting closing exception =>
      have ends : closing.raises reply = none := by
        simpa [closesCall, found] using closes
      have done : Appended [] base (machine.world.markDone closing.runtime) :=
        quiet (.of_same rfl rfl)
      unfold resumeCall
      rw [wp_bind, wp_finishClose, ends, List.append_nil]
      apply wp_mono (logs_finishCallFailure _ (done.reliable reliable))
      · rintro _ _ ⟨_, _, never⟩
        exact never.elim
      · rintro _ after ⟨_, further, rfl⟩
        exact ⟨le_rfl, done.trans further⟩

theorem calls_step [Platform] (reliable : base.Reliable)
    (calls : Calls base task (machine, raised)) {action : Action}
    (concerns : action.concerns task = true)
    (closes : machine.closesCall action = true)
    (taken : step machine action = some after) :
    Calls base task
      (after, raised ++ machine.transportRaises action after) := by
  obtain ⟨current, present, called⟩ := calls
  cases action with
  | request request => cases concerns
  | call mountedName => cases concerns
  | acquire actor =>
      cases of_decide_eq_true concerns
      obtain ⟨ns, block, found, _, rfl⟩ := step_acquire.mp taken
      cases found.symm.trans present
      have looked :
          Appended [] machine.world (machine.acquire task ns block).world := by
        obtain ⟨locks, same⟩ := machine.namespaceLock_world ns
        rw [acquire_world, same]
        exact .of_same rfl rfl
      have moved := called.same looked
      rw [show transportRaises machine _ _ = [] from rfl, List.append_nil]
      obtain ⟨lock, entered | waiting⟩ :=
        tasks_acquire machine task ns block
      · refine ⟨_, entered, ?_⟩
        cases block <;> exact moved
      · refine ⟨_, waiting, ?_⟩
        cases block <;> exact moved
  | grant actor =>
      cases of_decide_eq_true concerns
      obtain ⟨ns, lock, block, found, _, _, rfl⟩ := step_grant.mp taken
      cases found.symm.trans present
      rw [show transportRaises machine _ _ = [] from rfl, List.append_nil]
      refine ⟨_, Function.update_self _ _ _, ?_⟩
      cases block <;> exact called
  | enter actor =>
      cases of_decide_eq_true concerns
      obtain ⟨ns, lock, block, found, _, rfl⟩ := step_enter.mp taken
      cases found.symm.trans present
      rw [show transportRaises machine _ _ = [] from rfl, List.append_nil]
      cases block with
      | operation operation rest entries => exact called.elim
      | callStart mountedName =>
          obtain ⟨rfl, appended⟩ := called
          exact calls_startCall appended
      | callFinish result =>
          exact ⟨_, Function.update_self _ _ _,
            Reported.same called (.of_same rfl rfl)⟩
  | reply actor reply =>
      cases of_decide_eq_true concerns
      obtain ⟨ns, lock, operation, rest, entries, stage, found, _, _⟩ :=
        step_reply.mp taken
      cases found.symm.trans present
      exact called.elim
  | callReply actor reply =>
      cases of_decide_eq_true concerns
      obtain ⟨tool, stage, found, _, rfl⟩ := step_callReply.mp taken
      cases found.symm.trans present
      exact calls_reply reliable found called closes
  | cancelWaiting actor =>
      cases of_decide_eq_true concerns
      obtain ⟨ns, lock, block, found, _, rfl⟩ := step_cancelWaiting.mp taken
      cases found.symm.trans present
      rw [show transportRaises machine _ _ = [] from rfl, List.append_nil]
      refine ⟨_, Function.update_self _ _ _, ?_⟩
      cases block with
      | operation operation rest entries => exact called.elim
      | callStart mountedName =>
          obtain ⟨rfl, appended⟩ := called
          exact reported_nil appended
      | callFinish result => exact called
  | die runtime =>
      obtain ⟨_, rfl⟩ := step_die.mp taken
      rw [show transportRaises machine _ _ = [] from rfl, List.append_nil]
      exact ⟨current, present, called.same (.of_same rfl rfl)⟩

theorem calls_request [Platform] {mountedName : String}
    (asked : step machine (.call mountedName) = some after) :
    Calls machine.world machine.nextTask (after, []) := by
  obtain ⟨_, rfl⟩ := step_call.mp asked
  unfold Machine.call locateCall
  rw [outcome_bind]
  simp only [outcome_get]
  cases resolveMountedTool machine.world mountedName with
  | none =>
      exact ⟨_, Function.update_self _ _ _,
        reported_nil (.refl machine.world)⟩
  | some tool =>
      exact ⟨_, Function.update_self _ _ _, rfl, .refl machine.world⟩

end MountedCalls

/-! ## The property -/

/-- Whatever state a call finds, its answer and what it appends to the audit log
agree. -/
theorem results_audited [Platform] {machine : Machine}
    (reliable : machine.world.Reliable) :
    (∀ request audited called after answer,
      Request.audited request = some audited →
      step machine (.request request) = some called →
      Reaches step (fun _ action => action.concerns machine.nextTask = true)
        called after →
      after.tasks machine.nextTask = some (.answered answer) →
        Answer.Accounts audited (request.subjects machine.world)
            machine.world after.world answer ∧
          (audited ≠ .unregister → ∀ entries, answer = .response entries →
            entries.map Entry.subject =
                (request.subjects machine.world).map some ∧
              ∀ entry ∈ entries, entry.listedBy audited)) ∧
    ∀ mountedName called after raised answer,
      step machine (.call mountedName) = some called →
      Reaches (monitor step transportRaises)
        (fun state action =>
          action.concerns machine.nextTask = true ∧
            state.1.closesCall action = true)
        (called, []) (after, raised) →
      after.tasks machine.nextTask = some (.answered answer) →
        raised.length ≤ 1 ∧
          Appended (raised.map fun ns => ⟨.call, .failure, some ns⟩)
            machine.world after.world := by
  constructor
  · intro request audited called after answer serves asked runs answered
    have accounts :=
      accounts_of_answered serves reliable asked runs answered
    refine ⟨accounts, ?_⟩
    rintro other entries rfl
    exact accounts.1.one other
  · intro mountedName called after raised answer asked runs answered
    have calls : Calls machine.world machine.nextTask (after, raised) := by
      apply runs.invariant (calls_request asked)
      rintro ⟨before, earlier⟩ action ⟨next, later⟩ calls meets taken
      obtain ⟨moved, events⟩ := monitor_eq_some.mp taken
      simp only at events
      rw [events]
      exact calls_step reliable calls meets.1 meets.2 moved
    obtain ⟨current, present, called⟩ := calls
    cases answered.symm.trans present
    exact called

section Ascii

open scoped Ascii

/-- The bundled toolset is activated in the first process, and an unknown one
is not: one event for each. -/
theorem results_audited_fake :
    ∃ (after : Machine) (entries : List Entry),
      after.response 0 = some entries ∧
        entries.map Entry.subject = [some "fake_stdio", some "other"] ∧
        Appended (entries.flatMap (Entry.marks .activate))
          (firstProcess {}).world after.world := by
  obtain ⟨called, asked, found⟩ :=
    (Option.any_eq_true _ _).mp
      (by decide +kernel :
        (step (firstProcess {})
            (.request (.activateToolsets ["fake_stdio", "other"] "thread"
              true))).any
          (fun called =>
            (execute step (fun _ action => action.concerns 0 = true) called
              [.acquire 0, .enter 0, .reply 0 (.ok [Ascii.ping]), .acquire 0,
                .enter 0]).any
              fun after => (after.response 0).isSome) = true)
  obtain ⟨after, executed, answered⟩ := (Option.any_eq_true _ _).mp found
  obtain ⟨entries, answered⟩ := Option.isSome_iff_exists.mp answered
  obtain ⟨accounts, listed⟩ :=
    (results_audited (orderly_firstProcess {}).reliable).1 _ .activate called
      after (.response entries) rfl asked (Reaches.start.of_execute executed)
      (tasks_of_response answered)
  exact ⟨after, entries, answered, (listed (by decide) entries rfl).1,
    accounts.2⟩

end Ascii

end Machine

end ToolboxMcp
