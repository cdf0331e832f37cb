import ToolboxMcp.Lifetime
import ToolboxMcp.Persistence
import ToolboxMcp.Service.Blanking
import ToolboxMcp.Service.Views

/-!
# Two runs with different secrets

Two lives of a host whose clients send the same requests up to the strings in
the arguments and the values in the environment of registered transports are in
the same state up to these, as long as no rejected registration is answered
with the text of a validation error that differs.
-/

namespace ToolboxMcp

open Effect

/-! ## Views do not show what is blanked -/

section Views

variable (world : World) (record : ToolsetRecord)

theorem publicTransport_blank (transport : ToolsetTransport) :
    publicTransport transport.blank = publicTransport transport := by
  have noArgs : transport.blank.args.isEmpty = transport.args.isEmpty :=
    List.isEmpty_map
  have noEnv : transport.blank.env.isEmpty = transport.env.isEmpty :=
    List.isEmpty_map
  have count : transport.blank.args.length = transport.args.length :=
    List.length_map _
  have keys : transport.blank.env.map Prod.fst =
      transport.env.map Prod.fst := List.map_map
  unfold publicTransport
  rw [noArgs, noEnv, count, keys]
  rfl

theorem registrationView_blank :
    registrationView record.blank = registrationView record := by
  unfold registrationView
  have transport := publicTransport_blank record.transport
  have same : record.blank.transport = record.transport.blank := rfl
  rw [same, transport]
  rfl

theorem shown_blank (entry : Entry) : entry.blank.shown = entry.shown := by
  cases entry with
  | registered record =>
      have view := registrationView_blank record
      simp only [Entry.blank, Entry.shown, view]
      rfl
  | _ =>
      rfl

theorem toAuditEvent_blank (document : StateDocument) :
    toAuditEvent document.blank = toAuditEvent document := by
  have names : document.blank.toolsets.map ToolsetRecord.ns =
      document.toolsets.map ToolsetRecord.ns := List.map_map
  funext event
  unfold toAuditEvent
  rw [names]

theorem documentAuditEvents_blank (document : StateDocument)
    (query : AuditQuery) :
    document.blank.listAuditEvents query = document.listAuditEvents query := by
  unfold StateDocument.listAuditEvents
  rw [toAuditEvent_blank]
  rfl

theorem listAuditEvents_blank (query : Except String AuditQuery) :
    listAuditEvents world.blank query = listAuditEvents world query := by
  cases query with
  | error text =>
      rfl
  | ok query =>
      have events := documentAuditEvents_blank world.document
      have document : world.blank.document = world.document.blank := rfl
      unfold listAuditEvents
      simp only [document, events]

theorem listToolsets_blank (scope : Option String) :
    listToolsets world.blank scope = listToolsets world scope := by
  unfold listToolsets
  cases parseScope scope with
  | error text =>
      rfl
  | ok scope =>
      have toolsets : world.blank.document.toolsets =
          world.document.toolsets.map ToolsetRecord.blank := rfl
      simp only [toolsets]
      rw [List.filter_map, List.map_map]
      rfl

theorem toolsetStatus_blank (settings : RestoreSettings) (ns : Namespace) :
    toolsetStatus settings world.blank ns record.blank =
      toolsetStatus settings world ns record := by
  have view := registrationView_blank record
  have failure : recentFailure world.blank.document ns =
      recentFailure world.document ns := by
    have document : world.blank.document = world.document.blank := rfl
    unfold recentFailure
    rw [document, documentAuditEvents_blank]
  unfold toolsetStatus
  rw [view, failure]
  rfl

theorem getToolsetStatus_blank (settings : RestoreSettings)
    (namespaces : Option (List Namespace)) :
    getToolsetStatus settings world.blank namespaces =
      getToolsetStatus settings world namespaces := by
  unfold getToolsetStatus
  rw [selected_blank namespaces fun _ => rfl]
  congr 1
  funext ns
  rw [record_blank]
  cases world.record ns with
  | none =>
      rfl
  | some record =>
      exact congrArg Except.ok
        (toolsetStatus_blank world record settings ns)

end Views

/-! ## Blanked machines -/

def Block.blank : Block → Block
  | .operation asked rest entries =>
      .operation asked.blank rest (entries.map Entry.blank)
  | block => block

def Block.registers : Block → Bool
  | .operation asked _ _ => asked.registers
  | _ => false

def Answer.blank : Answer → Answer
  | .response entries => .response (entries.map Entry.blank)
  | answer => answer

def Task.blank : Task → Task
  | .arriving ns block => .arriving ns block.blank
  | .waiting ns lock block => .waiting ns lock block.blank
  | .entered ns lock block => .entered ns lock block.blank
  | .suspended ns lock operation rest entries stage =>
      .suspended ns lock operation.blank rest (entries.map Entry.blank)
        stage.blank
  | .calling tool stage => .calling tool stage
  | .answered answer => .answered answer.blank

/-- A request without its secrets: those of an accepted transport, and the
text of the error a rejected one is answered with. -/
def Request.blank : Request → Request
  | .registerToolset ns (.ok transport) registration =>
      .registerToolset ns (.ok transport.blank) registration
  | .registerToolset ns (.error _) registration =>
      .registerToolset ns (.error "") registration
  | request => request

def Action.blank : Action → Action
  | .request sent => .request sent.blank
  | action => action

/-- Neither a request nor the start of a block. -/
def Action.plain : Action → Bool
  | .request _ => false
  | .enter _ => false
  | _ => true

theorem Action.eq_of_plain {action other : Action}
    (plain : action.plain = true) (asks : action.blank = other.blank) :
    other = action := by
  have bare : action.blank = action := by
    cases action with
    | request sent =>
        cases plain
    | _ =>
        rfl
  rw [bare] at asks
  cases other with
  | request sent =>
      rw [asks] at plain
      cases plain
  | _ =>
      exact asks.symm

namespace Machine

def blank (machine : Machine) : Machine :=
  { machine with
    world := machine.world.blank
    tasks := fun task => (machine.tasks task).map Task.blank }

variable (machine : Machine) (task : TaskId) (lock : LockId)

theorem blank_setTask (next : Task) (world : World)
    (current : Option TaskId) :
    (machine.setTask task next world current).blank =
      machine.blank.setTask task next.blank world.blank current := by
  have tasks :
      (fun other =>
        (Function.update machine.tasks task (some next) other).map
          Task.blank) =
        Function.update machine.blank.tasks task (some next.blank) := by
    funext other
    by_cases same : other = task
    · subst same
      rw [Function.update_self, Function.update_self]
      rfl
    · rw [Function.update_of_ne same, Function.update_of_ne same]
      rfl
  unfold setTask blank at *
  simp only [tasks]

theorem blank_leave (world : World) (next : Task) :
    (machine.leave task lock world next).blank =
      machine.blank.leave task lock world.blank next.blank := by
  unfold leave
  rw [blank_setTask]
  cases next <;> rfl

theorem blank_nextVisit (operation : Operation) (rest : List Namespace)
    (entries : List Entry) :
    (nextVisit operation rest entries).blank =
      nextVisit operation.blank rest (entries.map Entry.blank) := by
  cases rest <;> rfl

theorem blank_proceed (ns : Namespace) (operation : Operation)
    (rest : List Namespace) (entries : List Entry)
    (result : Except Raised Progress × World) :
    (machine.proceed task ns lock operation rest entries result).blank =
      machine.blank.proceed task ns lock operation.blank rest
        (entries.map Entry.blank)
        (result.1.map Progress.blank, result.2.blank) := by
  rcases result with ⟨raised | stage | more, world⟩
  · exact blank_leave _ _ _ _ _
  · exact blank_setTask _ _ _ _ _
  · have left := blank_leave machine task lock world
      (nextVisit operation rest (entries ++ more))
    rw [blank_nextVisit, List.map_append] at left
    exact left

theorem blank_proceedCall (tool : MountedTool)
    (result : Except Raised CallProgress × World) :
    (machine.proceedCall task tool result).blank =
      machine.blank.proceedCall task tool (result.1, result.2.blank) := by
  rcases result with ⟨raised | stage | value, world⟩
  · exact blank_setTask _ _ _ _ _
  · exact blank_setTask _ _ _ _ _
  · exact blank_setTask _ _ _ _ _

theorem blank_spawn (next : Task) (world : World) :
    (machine.spawn next world).blank =
      machine.blank.spawn next.blank world.blank := by
  unfold spawn
  rw [blank_setTask]
  cases next <;> rfl

theorem blank_acquire (ns : Namespace) (block : Block) :
    (machine.acquire task ns block).blank =
      machine.blank.acquire task ns block.blank := by
  have looked : machine.blank.namespaceLock ns =
      ((machine.namespaceLock ns).1, (machine.namespaceLock ns).2.blank) := by
    have locks : machine.blank.world.namespaceLocks =
        machine.world.namespaceLocks := rfl
    unfold namespaceLock
    rw [locks]
    cases machine.world.namespaceLocks.get ns <;> rfl
  unfold acquire
  rw [looked]
  rcases machine.namespaceLock ns with ⟨lock, middle⟩
  have locks : middle.blank.locks = middle.locks := rfl
  simp only [locks]
  split
  · exact blank_setTask _ _ _ _ _
  · exact blank_setTask _ _ _ _ _

theorem blank_startCall (mountedName : String) :
    (machine.startCall task lock mountedName).blank =
      machine.blank.startCall task lock mountedName := by
  have world : machine.blank.world = machine.world.blank := rfl
  unfold startCall
  rw [world, (blanks_admitCall mountedName).same]
  rcases outcome (admitCall mountedName) machine.world with
    ⟨raised | tool, after⟩
  · exact blank_leave _ _ _ _ _
  · simp only
    rw [blanks_dispatchCall.same, blank_proceedCall]
    rfl

theorem blank_call (mountedName : String) :
    (machine.call mountedName).blank = machine.blank.call mountedName := by
  have world : machine.blank.world = machine.world.blank := rfl
  unfold call
  rw [world, (blanks_locateCall mountedName).same]
  rcases outcome (locateCall mountedName) machine.world with
    ⟨raised | ns, after⟩
  · exact blank_spawn _ _ _
  · exact blank_spawn _ _ _

section Steps

variable [Platform]

theorem blank_enter (ns : Namespace) {block : Block}
    (other : block.registers = false) :
    (machine.enter task ns lock block).blank =
      machine.blank.enter task ns lock block.blank := by
  have world : machine.blank.world = machine.world.blank := rfl
  cases block with
  | operation operation rest entries =>
      simp only [enter, Block.blank]
      rw [blank_proceed, world, blanks_start other]
  | callStart mountedName =>
      exact blank_startCall machine task lock mountedName
  | callFinish result =>
      cases result with
      | ok value =>
          exact blank_leave _ _ _ _ _
      | error raised =>
          exact blank_leave _ _ _ _ _

/-- Registering, with the wording of a validation error kept. -/
theorem blank_enter_register (ns : Namespace) (transport : ToolsetTransport)
    (registration : Registration) (rest : List Namespace)
    (entries : List Entry) :
    (machine.enter task ns lock
        (.operation (.register transport registration) rest entries)).blank =
      machine.blank.proceed task ns lock
        (.register transport.blank registration) rest
        (entries.map Entry.blank)
        (outcome
          (startRegisterWith
            (Platform.validationError (registration.toJson ns transport)) ns
            transport.blank registration)
          machine.blank.world) := by
  have world : machine.blank.world = machine.world.blank := rfl
  have started : start (.register transport registration) ns =
      startRegisterWith
        (Platform.validationError (registration.toJson ns transport)) ns
        transport registration := startRegister_eq transport registration
  simp only [enter]
  rw [blank_proceed, world, started, blanks_startRegisterWith]
  rfl

theorem blank_request (request : Request) :
    (machine.request request).blank =
      machine.blank.request request.masked := by
  have world : machine.blank.world = machine.world.blank := rfl
  unfold Machine.request
  rw [world, blanks_accept]
  rcases outcome (accept request) machine.world with
    ⟨raised | error | ⟨operation, namespaces⟩, after⟩
  · exact blank_spawn _ _ _
  · exact blank_spawn _ _ _
  · have spawned := blank_spawn machine (nextVisit operation namespaces [])
      after
    rw [blank_nextVisit] at spawned
    exact spawned

/-! ## Steps -/

/-- The text of a validation error that the step answers with. -/
def disclosed (machine : Machine) : Action → Option String
  | .request (.registerToolset ns (.error text) _) =>
      if isValidNamespace ns then some text else none
  | .enter task =>
      match machine.tasks task with
      | some (.entered ns _
          (.operation (.register transport registration) _ _)) =>
          match machine.world.record ns,
              registration.toRecord ns transport with
          | none, .error message =>
              some
                (Platform.validationError (registration.toJson ns transport)
                  message)
          | _, _ => none
      | _ => none
  | _ => none

omit [Platform] in
theorem map_guard {condition : Prop} [Decidable condition]
    {before after : Machine} (same : before.blank = after) :
    (if condition then some before else none).map blank =
      if condition then some after else none := by
  subst same
  split
  · rfl
  · rfl

theorem blank_step_enter
    (other : ∀ ns lock block,
      machine.tasks task = some (.entered ns lock block) →
        block.registers = false) :
    (step machine (.enter task)).map blank =
      step machine.blank (.enter task) := by
  have tasks : machine.blank.tasks task =
      (machine.tasks task).map Task.blank := rfl
  simp only [step, tasks]
  cases found : machine.tasks task with
  | none =>
      rfl
  | some current =>
      cases current with
      | entered ns lock block =>
          exact map_guard
            (blank_enter machine task lock ns (other ns lock block found))
      | _ =>
          rfl

theorem blank_step {action : Action} (plain : action.plain = true) :
    (step machine action).map blank = step machine.blank action := by
  have tasks : ∀ task, machine.blank.tasks task =
      (machine.tasks task).map Task.blank := fun _ => rfl
  cases action with
  | request request =>
      cases plain
  | enter task =>
      cases plain
  | call mountedName =>
      exact map_guard (blank_call machine mountedName)
  | acquire task =>
      simp only [step, tasks]
      cases machine.tasks task with
      | none =>
          rfl
      | some current =>
          cases current with
          | arriving ns block =>
              exact map_guard (blank_acquire machine task ns block)
          | _ =>
              rfl
  | grant task =>
      simp only [step, tasks]
      cases machine.tasks task with
      | none =>
          rfl
      | some current =>
          cases current with
          | waiting ns lock block =>
              exact map_guard (blank_setTask _ _ _ _ _)
          | _ =>
              rfl
  | reply task reply =>
      simp only [step, tasks]
      cases machine.tasks task with
      | none =>
          rfl
      | some current =>
          cases current with
          | suspended ns lock operation rest entries stage =>
              apply map_guard
              have world : machine.blank.world = machine.world.blank := rfl
              rw [blank_proceed, world, blanks_resume stage reply]
          | _ =>
              rfl
  | callReply task reply =>
      simp only [step, tasks]
      cases machine.tasks task with
      | none =>
          rfl
      | some current =>
          cases current with
          | calling tool stage =>
              apply map_guard
              have world : machine.blank.world = machine.world.blank := rfl
              rw [blank_proceedCall, world,
                (blanks_resumeCall stage reply).same]
          | _ =>
              rfl
  | cancelWaiting task =>
      simp only [step, tasks]
      cases machine.tasks task with
      | none =>
          rfl
      | some current =>
          cases current with
          | waiting ns lock block =>
              exact map_guard (blank_setTask _ _ _ _ _)
          | _ =>
              rfl
  | die runtime =>
      exact map_guard rfl

/-! ## Two machines in step -/

variable {left right : Machine}

theorem accept_masked {asked other : Request}
    (asks : asked.blank = other.blank)
    (told :
      left.disclosed (.request asked) = right.disclosed (.request other)) :
    accept asked.masked = accept other.masked := by
  cases asked with
  | registerToolset ns transport registration =>
      cases other with
      | registerToolset ns' transport' registration' =>
          cases transport with
          | ok transport =>
              cases transport' with
              | ok transport' =>
                  obtain ⟨rfl, same, rfl⟩ :=
                    Request.registerToolset.inj asks
                  simp only [Request.masked, Except.map]
                  rw [Except.ok.inj same]
              | error text =>
                  cases asks
          | error text =>
              cases transport' with
              | ok transport' =>
                  cases asks
              | error text' =>
                  obtain ⟨rfl, _, rfl⟩ := Request.registerToolset.inj asks
                  by_cases valid : isValidNamespace ns = true
                  · simp only [disclosed, valid, if_true,
                      Option.some.injEq] at told
                    rw [told]
                  · have invalid : isValidNamespace ns = false :=
                      Bool.eq_false_iff.mpr valid
                    simp [accept, acceptRegister, Request.masked, invalid]
      | _ =>
          cases transport <;> cases asks
  | _ =>
      cases other with
      | registerToolset ns transport registration =>
          cases transport <;> cases asks
      | _ =>
          cases asks <;> rfl

theorem alike_request {asked other : Request}
    (same : left.blank = right.blank) (asks : asked.blank = other.blank)
    (told :
      left.disclosed (.request asked) = right.disclosed (.request other)) :
    (step left (.request asked)).map blank =
      (step right (.request other)).map blank := by
  have current : left.current = right.current :=
    congrArg (fun machine => machine.current) same
  have requests : (left.request asked).blank =
      (right.request other).blank := by
    rw [blank_request, blank_request, same]
    unfold Machine.request
    rw [accept_masked asks told]
  simp only [step, current]
  rw [map_guard requests, map_guard rfl]

omit [Platform] in
/-- A task that registers when seen without secrets registers. -/
theorem entered_of_blank {current : Task} {ns : Namespace} {lock : LockId}
    {transport : ToolsetTransport} {registration : Registration}
    {rest : List Namespace} {entries : List Entry}
    (same :
      current.blank =
        .entered ns lock
          (.operation (.register transport registration) rest entries)) :
    ∃ transport' entries',
      current =
          .entered ns lock
            (.operation (.register transport' registration) rest entries') ∧
        transport'.blank = transport ∧
        entries'.map Entry.blank = entries := by
  cases current with
  | entered ns' lock' block =>
      cases block with
      | operation asked rest' entries' =>
          cases asked with
          | register transport' registration' =>
              cases same
              exact ⟨transport', entries', rfl, rfl, rfl⟩
          | _ =>
              cases same
      | _ =>
          cases same
  | _ =>
      cases same

omit [Platform] in
theorem startRegisterWith_congr {world : World} {ns : Namespace}
    {transport : ToolsetTransport} {registration : Registration}
    {first second : String → String}
    (told : ∀ message,
      world.record ns = none →
        registration.toRecord ns transport = .error message →
          first message = second message) :
    outcome (startRegisterWith first ns transport registration) world =
      outcome (startRegisterWith second ns transport registration) world := by
  unfold startRegisterWith
  rw [outcome_bind, outcome_bind, outcome_get]
  simp only
  cases free : world.record ns with
  | some record =>
      rfl
  | none =>
      cases rejects : registration.toRecord ns transport with
      | error message =>
          simp only [told message free rejects]
      | ok record =>
          rfl

omit [Platform] in
theorem toRecord_of_blank {registration : Registration} {ns : Namespace}
    {transport : ToolsetTransport} {message : String}
    (rejects : registration.toRecord ns transport.blank = .error message) :
    registration.toRecord ns transport = .error message := by
  rw [toRecord_blank] at rejects
  cases registered : registration.toRecord ns transport with
  | error said =>
      rw [registered] at rejects
      cases rejects
      rfl
  | ok record =>
      rw [registered] at rejects
      cases rejects

omit [Platform] in
theorem record_of_blank {ns : Namespace}
    (free : machine.blank.world.record ns = none) :
    machine.world.record ns = none := by
  have same : machine.blank.world.record ns =
      (machine.world.record ns).map ToolsetRecord.blank :=
    record_blank machine.world ns
  rw [free] at same
  exact Option.map_eq_none_iff.mp same.symm

theorem alike_enter (same : left.blank = right.blank)
    (told :
      left.disclosed (.enter task) = right.disclosed (.enter task)) :
    (step left (.enter task)).map blank =
      (step right (.enter task)).map blank := by
  have tasks : (left.tasks task).map Task.blank =
      (right.tasks task).map Task.blank :=
    congrArg (fun machine => machine.tasks task) same
  have current : left.current = right.current :=
    congrArg (fun machine => machine.current) same
  by_cases registers :
      ∃ ns lock transport registration rest entries,
        left.tasks task =
          some (.entered ns lock
            (.operation (.register transport registration) rest entries))
  · obtain ⟨ns, lock, transport, registration, rest, entries, found⟩ :=
      registers
    rw [found] at tasks
    obtain ⟨other, foundRight, blanked⟩ :=
      Option.map_eq_some_iff.mp tasks.symm
    obtain ⟨transport', entries', rfl, sameTransport, listed⟩ :=
      entered_of_blank blanked
    have entered :
        (left.enter task ns lock
            (.operation (.register transport registration) rest
              entries)).blank =
          (right.enter task ns lock
            (.operation (.register transport' registration) rest
              entries')).blank := by
      rw [blank_enter_register, blank_enter_register, same, sameTransport,
        listed]
      rw [startRegisterWith_congr]
      intro message free rejects
      have leftFree := record_of_blank left (same ▸ free)
      have rightFree := record_of_blank right free
      have leftRejects := toRecord_of_blank rejects
      rw [← sameTransport] at rejects
      have rightRejects := toRecord_of_blank rejects
      simp only [disclosed, found, foundRight, leftFree, rightFree,
        leftRejects, rightRejects, Option.some.injEq] at told
      exact told
    simp only [step, found, foundRight, current]
    rw [map_guard entered, map_guard rfl]
  · have plain : ∀ {one another : Machine} {ns : Namespace} {lock : LockId}
        {block : Block},
        (one.tasks task).map Task.blank =
            (another.tasks task).map Task.blank →
          (¬ ∃ ns lock transport registration rest entries,
            one.tasks task =
              some (.entered ns lock
                (.operation (.register transport registration) rest
                  entries))) →
          another.tasks task = some (.entered ns lock block) →
            block.registers = false := by
      intro one another ns lock block tasks registers found
      cases block with
      | operation asked rest entries =>
          cases asked with
          | register transport registration =>
              rw [found] at tasks
              obtain ⟨other, foundOther, blanked⟩ :=
                Option.map_eq_some_iff.mp tasks
              obtain ⟨transport', entries', rfl, _, _⟩ :=
                entered_of_blank blanked
              exact absurd ⟨_, _, _, _, _, _, foundOther⟩ registers
          | _ =>
              rfl
      | _ =>
          rfl
    rw [blank_step_enter left task fun _ _ _ => plain rfl registers,
      blank_step_enter right task fun _ _ _ => plain tasks registers, same]

/-- Steps that ask and answer the same up to secrets lead to the same states
up to secrets. -/
theorem alike_step {action other : Action}
    (same : left.blank = right.blank) (asks : action.blank = other.blank)
    (told : left.disclosed action = right.disclosed other) :
    (step left action).map blank = (step right other).map blank := by
  cases action with
  | request asked =>
      cases other with
      | request sent =>
          exact alike_request same (Action.request.inj asks) told
      | _ =>
          cases asks
  | enter task =>
      cases other with
      | enter task' =>
          cases asks
          exact alike_enter task same told
      | _ =>
          cases asks
  | _ =>
      have agreed := Action.eq_of_plain rfl asks
      subst agreed
      rw [blank_step left rfl, blank_step right rfl, same]

/-! ## Lives -/

/-- The clients of two hosts send the same up to secrets, and are told the same
about rejected registrations. -/
structure Alike (states : Machine × Machine)
    (actions : Option Action × Option Action) : Prop where
  asks : actions.1.map Action.blank = actions.2.map Action.blank
  told :
    actions.1.bind states.1.disclosed = actions.2.bind states.2.disclosed

omit [Platform] in
theorem alike_restart (same : left.blank = right.blank) :
    left.restart.blank = right.restart.blank := by
  have worlds : left.world.blank = right.world.blank :=
    congrArg Machine.world same
  have started : ∀ machine : Machine,
      machine.restart.blank =
        { world := (outcome startingBlank machine.world.blank).2 } := by
    intro machine
    rw [blanks_startService.same]
    rfl
  rw [started, started, worlds]

theorem alike_lifeStep {actions : Option Action × Option Action}
    (same : left.blank = right.blank)
    (alike : Alike (left, right) actions) :
    (lifeStep left actions.1).map blank =
      (lifeStep right actions.2).map blank := by
  obtain ⟨action, other⟩ := actions
  obtain ⟨asks, told⟩ := alike
  cases action with
  | none =>
      cases other with
      | none =>
          exact congrArg some (alike_restart same)
      | some other =>
          cases asks
  | some action =>
      cases other with
      | none =>
          cases asks
      | some other =>
          exact alike_step same (Option.some.inj asks) told

theorem alike_of_lives {config : HostConfig} {states : Machine × Machine}
    (reaches :
      Reaches (lockstep lifeStep) Alike
        (firstProcess config, firstProcess config) states) :
    states.1.blank = states.2.blank := by
  apply @Reaches.invariant _ _ _ _ _ _
    (fun states : Machine × Machine => states.1.blank = states.2.blank)
    reaches rfl
  intro before actions after same alike taken
  obtain ⟨first, second⟩ := lockstep_eq_some.mp taken
  have moved := alike_lifeStep same alike
  rw [first, second] at moved
  exact Option.some.inj moved

end Steps

end Machine

/-! ## What is stored -/

section Stored

variable [SecretLibrary]

/-- A stored document without the envelopes of its toolsets. -/
def StoredDocument.outside (payload : StoredDocument) : StoredDocument :=
  { payload with
    toolsets :=
      payload.toolsets.map fun stored => { record := stored.record } }

/-- What of a document is stored outside envelopes. -/
def StateDocument.outside (document : StateDocument) : StoredDocument where
  version := some currentVersion
  toolsets :=
    document.toolsets.map fun record =>
      { record := withSecrets record ⟨[], []⟩ }
  schemaCache := document.schemaCache
  previousSchemaCache := document.previousSchemaCache
  auditLog := document.auditLog
  nextAuditSequence := document.nextAuditSequence

theorem outside_blank (document : StateDocument) :
    document.blank.outside = document.outside := by
  have toolsets : document.blank.toolsets =
      document.toolsets.map ToolsetRecord.blank := rfl
  unfold StateDocument.outside
  rw [toolsets, List.map_map]
  rfl

theorem protectTransport_outside (record : ToolsetRecord)
    (store : StateStore) :
    wp (protectTransport record)
      (fun stored _ => stored.record = withSecrets record ⟨[], []⟩)
      (fun _ _ => True) store := by
  unfold protectTransport
  by_cases secrets : hasSecrets record = true
  · rw [if_pos secrets, wp_bind]
    apply wp_mono (wp_any _ store)
    · intro envelope after _
      rfl
    · exact fun _ _ _ => trivial
  · rw [if_neg secrets, wp_pure]
    simp only [hasSecrets, Bool.or_eq_true, Bool.not_eq_true',
      List.isEmpty_eq_false_iff, not_or, not_not] at secrets
    obtain ⟨noArgs, noEnv⟩ := secrets
    unfold withSecrets
    rw [← noArgs, ← noEnv]

theorem protectAll_outside (records : List ToolsetRecord)
    (store : StateStore) :
    wp (records.mapM protectTransport)
      (fun entries _ =>
        entries.map StoredToolset.record =
          records.map fun record => withSecrets record ⟨[], []⟩)
      (fun _ _ => True) store := by
  induction records generalizing store with
  | nil =>
      rfl
  | cons record rest inductionHypothesis =>
      rw [List.mapM_cons, wp_bind]
      apply wp_mono (protectTransport_outside record store)
      · intro stored middle bare
        rw [wp_bind]
        apply wp_mono (inductionHypothesis middle)
        · intro entries after bareRest
          rw [wp_pure, List.map_cons, List.map_cons, bare, bareRest]
        · exact fun _ _ => id
      · exact fun _ _ => id

/-- Outside the envelopes a stored document is determined by what `outside`
keeps of it. -/
theorem serializeDocument_outside (document : StateDocument)
    (store : StateStore) :
    wp (serializeDocument document)
      (fun payload _ => payload.outside = document.outside)
      (fun _ _ => True) store := by
  unfold serializeDocument
  rw [wp_bind]
  apply wp_mono (protectAll_outside document.toolsets store)
  · intro entries after bare
    have toolsets :
        entries.map (fun stored : StoredToolset =>
            ({ record := stored.record } : StoredToolset)) =
          document.toolsets.map fun record =>
            { record := withSecrets record ⟨[], []⟩ } := by
      have wrapped := congrArg
        (List.map fun record => ({ record := record } : StoredToolset)) bare
      rw [List.map_map, List.map_map] at wrapped
      exact wrapped
    rw [wp_pure]
    unfold StoredDocument.outside StateDocument.outside
    rw [← toolsets]
  · exact fun _ _ => id

end Stored

/-! ## The property -/

/-- An answer as the client has it. -/
inductive Response where
  | items (items : List Shown)
  | other (answer : Answer)

def Answer.shown : Answer → Response
  | .response entries => .items (entries.map Entry.shown)
  | answer => .other answer

namespace Machine

/-- What the client of the task has been answered. -/
def response? (machine : Machine) (task : TaskId) : Option Response :=
  match machine.tasks task with
  | some (.answered answer) => some answer.shown
  | _ => none

theorem response_blank (machine : Machine) (task : TaskId) :
    machine.blank.response? task = machine.response? task := by
  have tasks : machine.blank.tasks task =
      (machine.tasks task).map Task.blank := rfl
  unfold response?
  rw [tasks]
  cases machine.tasks task with
  | none =>
      rfl
  | some current =>
      cases current with
      | answered answer =>
          cases answer with
          | response entries =>
              have items : (entries.map Entry.blank).map Entry.shown =
                  entries.map Entry.shown := by
                rw [List.map_map]
                exact List.map_congr_left fun entry _ => shown_blank entry
              exact congrArg (fun items => some (Response.items items)) items
          | _ =>
              rfl
      | _ =>
          rfl

section Property

variable [Platform] [SecretLibrary] {config : HostConfig}
  {left right : Machine}

/-- After two runs with the same requests up to secrets, whose clients were
told the same about rejected registrations: every response is the same, now and
later; so is what `get_toolset_status`, `list_toolsets` and `list_audit_events`
show; and every document was stored the same outside the envelopes. -/
theorem transport_secrecy
    (reaches :
      Reaches (lockstep lifeStep) Alike
        (firstProcess config, firstProcess config) (left, right)) :
    (∀ task, left.response? task = right.response? task) ∧
      (∀ settings namespaces,
        getToolsetStatus settings left.world namespaces =
          getToolsetStatus settings right.world namespaces) ∧
      (∀ scope,
        listToolsets left.world scope = listToolsets right.world scope) ∧
      (∀ query,
        listAuditEvents left.world query =
          listAuditEvents right.world query) ∧
      List.Forall₂
        (fun written written' : StateDocument =>
          ∀ store store' payload payload',
            (outcome (serializeDocument written) store).1 = .ok payload →
            (outcome (serializeDocument written') store').1 = .ok payload' →
              payload.outside = payload'.outside)
        left.world.written right.world.written ∧
      ∀ actions, Alike (left, right) actions →
        (lifeStep left actions.1).isSome =
          (lifeStep right actions.2).isSome := by
  have same : left.blank = right.blank := alike_of_lives reaches
  have worlds : left.world.blank = right.world.blank :=
    congrArg Machine.world same
  refine ⟨?_, ?_, ?_, ?_, ?_, ?_⟩
  · intro task
    rw [← response_blank left, same, response_blank]
  · intro settings namespaces
    rw [← getToolsetStatus_blank left.world, worlds, getToolsetStatus_blank]
  · intro scope
    rw [← listToolsets_blank left.world, worlds, listToolsets_blank]
  · intro query
    rw [← listAuditEvents_blank left.world, worlds, listAuditEvents_blank]
  · have written :
        left.world.written.map StateDocument.blank =
          right.world.written.map StateDocument.blank :=
      congrArg World.written worlds
    rw [← List.forall₂_eq_eq_eq, List.forall₂_map_left_iff,
      List.forall₂_map_right_iff] at written
    apply written.imp
    intro first second blanked store store' payload payload' stored stored'
    have firstStored := serializeDocument_outside first store
    have secondStored := serializeDocument_outside second store'
    rw [← outside_blank, blanked, outside_blank] at firstStored
    have outside : ∀ {document : StateDocument} {store : StateStore}
        {payload kept : StoredDocument},
        wp (serializeDocument document)
            (fun payload _ => payload.outside = kept) (fun _ _ => True)
            store →
          (outcome (serializeDocument document) store).1 = .ok payload →
            payload.outside = kept := by
      intro document store payload kept holds returned
      rcases wp_cases holds with
        ⟨value, final, computed, bare⟩ | ⟨raised, final, computed, _⟩
      · rw [computed] at returned
        cases returned
        exact bare
      · rw [computed] at returned
        cases returned
    exact (outside firstStored stored).trans
      (outside secondStored stored').symm
  · intro actions alike
    have moved := alike_lifeStep same alike
    have enabled := congrArg Option.isSome moved
    rwa [Option.isSome_map, Option.isSome_map] at enabled

end Property

section Ascii

open scoped Ascii Symbolic

/-- Both hosts take a step if they can. -/
def together (states : Machine × Machine)
    (actions : Option Action × Option Action) : Machine × Machine :=
  (lockstep lifeStep states actions).getD states

theorem reaches_together
    {allowed : Machine × Machine → Option Action × Option Action → Prop}
    {first states : Machine × Machine}
    {actions : Option Action × Option Action}
    (reaches : Reaches (lockstep lifeStep) allowed first states)
    (meets : allowed states actions)
    (enabled : (lockstep lifeStep states actions).isSome = true) :
    Reaches (lockstep lifeStep) allowed first (together states actions) := by
  obtain ⟨after, taken⟩ := Option.isSome_iff_exists.mp enabled
  unfold together
  rw [taken]
  exact .step reaches meets taken

def demo : Registration where
  title := "Demo"
  description := ""

/-- Two hosts register `demo` with different tokens. -/
theorem transport_secrecy_demo :
    ∃ left right : Machine,
      (left.world.record "demo").map (fun record => record.transport.args) =
          some ["--token", "one"] ∧
        (right.world.record "demo").map
            (fun record => record.transport.args) =
          some ["--token", "two"] ∧
        listAuditEvents left.world (.ok {}) =
          listAuditEvents right.world (.ok {}) := by
  have first : Reaches (lockstep lifeStep) Alike
      (firstProcess {}, firstProcess {})
      (firstProcess {}, firstProcess {}) := .start
  have asked := @reaches_together _ _ _
    (some (.request (.registerToolset "demo"
      (.ok { command := "python", args := ["--token", "one"] }) demo)),
     some (.request (.registerToolset "demo"
      (.ok { command := "python", args := ["--token", "two"] }) demo)))
    first ⟨rfl, rfl⟩ (by decide +kernel)
  have acquired := @reaches_together _ _ _
    (some (.acquire 0), some (.acquire 0)) asked ⟨rfl, rfl⟩
    (by decide +kernel)
  have entered := @reaches_together _ _ _
    (some (.enter 0), some (.enter 0)) acquired
    ⟨rfl, by decide +kernel⟩ (by decide +kernel)
  exact ⟨_, _, by decide +kernel, by decide +kernel,
    (transport_secrecy entered).2.2.2.1 (.ok {})⟩

/-- The message of a refusal. -/
def Response.refusal : Response → Option String
  | .other (.refused error) => some error.message
  | _ => none

/-- The error of a rejected registration repeats the rejected input. -/
theorem rejected_registration_discloses :
    ∃ states : Machine × Machine,
      Reaches (lockstep lifeStep)
          (fun _ actions =>
            actions.1.map Action.blank = actions.2.map Action.blank)
          (firstProcess {}, firstProcess {}) states ∧
        states.1.response? 0 ≠ states.2.response? 0 := by
  have first : Reaches (lockstep lifeStep)
      (fun _ actions =>
        actions.1.map Action.blank = actions.2.map Action.blank)
      (firstProcess {}, firstProcess {})
      (firstProcess {}, firstProcess {}) := .start
  have asked := @reaches_together _ _ _
    (some (.request (.registerToolset "demo"
      (.error "command: Field required [input_value=one]") demo)),
     some (.request (.registerToolset "demo"
      (.error "command: Field required [input_value=two]") demo)))
    first rfl (by decide +kernel)
  refine ⟨_, asked, ?_⟩
  intro same
  have messages := congrArg (Option.bind · Response.refusal) same
  exact absurd messages (by decide +kernel)

end Ascii

end Machine

end ToolboxMcp
