import ToolboxMcp.Lifetime
import ToolboxMcp.Service.Writes

/-!
# The state file can be read back

A document the loader rejects would make every later operation and every later
start fail.  Along all runs of all processes, whatever fails and whenever the
process is killed, the store only writes documents whose records the loader
accepts as they are.
-/

namespace ToolboxMcp

open Effect

/-- The part of `StateDocument.model_validate` that can change a record. -/
def StateDocument.validate
    (document : StateDocument) : Except String StateDocument := do
  let toolsets ← document.toolsets.mapM validateScopePolicy
  return { document with toolsets := toolsets }

theorem wellFormed_of_mapM {records validated : List ToolsetRecord}
    (accepted : records.mapM validateScopePolicy = .ok validated) :
    ∀ record ∈ validated, WellFormed record := by
  induction records generalizing validated with
  | nil =>
      cases accepted
      intro record member
      cases member
  | cons record rest inductionHypothesis =>
      rw [List.mapM_cons] at accepted
      cases first : validateScopePolicy record with
      | error message =>
          rw [first] at accepted
          cases accepted
      | ok head =>
          cases later : rest.mapM validateScopePolicy with
          | error message =>
              rw [first, later] at accepted
              cases accepted
          | ok tail =>
              rw [first, later] at accepted
              cases accepted
              intro stored member
              rcases List.mem_cons.mp member with same | earlier
              · rw [same]
                exact wellFormed_of_validated first
              · exact inductionHypothesis later stored earlier

/-- What the loader returns is readable. -/
theorem readable_of_validate {raw document : StateDocument}
    (loaded : raw.validate = .ok document) : document.Readable := by
  unfold StateDocument.validate at loaded
  cases accepted : raw.toolsets.mapM validateScopePolicy with
  | error message =>
      rw [accepted] at loaded
      cases loaded
  | ok records =>
      rw [accepted] at loaded
      cases loaded
      intro record member
      have wellFormed := wellFormed_of_mapM accepted record member
      exact validateScopePolicy_eq_self.mpr wellFormed

/-- The loader returns a readable document as it is. -/
theorem validate_of_readable {document : StateDocument}
    (readable : document.Readable) : document.validate = .ok document := by
  have unchanged : ∀ records : List ToolsetRecord,
      (∀ record ∈ records, validateScopePolicy record = .ok record) →
      records.mapM validateScopePolicy = .ok records := by
    intro records accepted
    induction records with
    | nil =>
        rfl
    | cons record rest inductionHypothesis =>
        have first := accepted record List.mem_cons_self
        have later := inductionHypothesis fun other member =>
          accepted other (List.mem_cons_of_mem _ member)
        rw [List.mapM_cons, first, later]
        rfl
  unfold StateDocument.validate
  rw [unchanged document.toolsets readable]
  rfl

/-! ## Runs -/

/-- A suspended task holds a readable record. -/
def Task.Readable : Task → Prop
  | .suspended _ _ _ _ _ stage => stage.Readable
  | _ => True

namespace Machine

structure Readable (machine : Machine) : Prop where
  world : machine.world.Readable
  tasks :
    ∀ task current,
      machine.tasks task = some current → current.Readable

variable {machine after : Machine}

/-- One task moves on, the others keep what they hold. -/
theorem Readable.advance (readable : machine.Readable) {task : TaskId}
    {next : Task}
    (tasks : after.tasks = Function.update machine.tasks task (some next))
    (world : after.world.Readable) (holds : next.Readable) :
    after.Readable := by
  constructor
  · exact world
  · intro other current found
    rw [tasks] at found
    by_cases same : other = task
    · subst same
      rw [Function.update_self] at found
      cases found
      exact holds
    · rw [Function.update_of_ne same] at found
      exact readable.tasks other current found

theorem readable_nextVisit (operation : Operation)
    (rest : List Namespace) (entries : List Entry) :
    (nextVisit operation rest entries).Readable := by
  cases rest with
  | nil =>
      trivial
  | cons ns later =>
      trivial

theorem readable_proceed (readable : machine.Readable) {task : TaskId}
    {ns : Namespace} {lock : LockId} {operation : Operation}
    {rest : List Namespace} {entries : List Entry}
    {program : ServiceM Progress}
    (keeps : KeepsReadable program Progress.Readable) :
    (machine.proceed task ns lock operation rest entries
      (outcome program machine.world)).Readable := by
  have final := keeps.final readable.world
  cases computed : outcome program machine.world with
  | mk result world =>
      rw [computed] at final
      cases result with
      | error raised =>
          exact readable.advance rfl final trivial
      | ok progress =>
          have holds := keeps.value readable.world computed
          cases progress with
          | inside stage =>
              exact readable.advance rfl final holds
          | left more =>
              exact readable.advance rfl final
                (readable_nextVisit operation rest _)

theorem readable_proceedCall (readable : machine.Readable) {task : TaskId}
    {tool : MountedTool} {world : World} {program : ServiceM CallProgress}
    (keeps : KeepsReadable program fun _ => True)
    (started : world.Readable) :
    (machine.proceedCall task tool (outcome program world)).Readable := by
  have final := keeps.final started
  cases computed : outcome program world with
  | mk result finalWorld =>
      rw [computed] at final
      cases result with
      | error raised =>
          exact readable.advance rfl final trivial
      | ok progress =>
          cases progress with
          | inside stage =>
              exact readable.advance rfl final trivial
          | returned result =>
              exact readable.advance rfl final trivial

theorem readable_namespaceLock (readable : machine.Readable)
    (ns : Namespace) : (machine.namespaceLock ns).2.Readable := by
  unfold namespaceLock
  split
  · exact readable
  · exact ⟨readable.world.of_same rfl rfl, readable.tasks⟩

theorem readable_acquire (readable : machine.Readable) (task : TaskId)
    (ns : Namespace) (block : Block) :
    (machine.acquire task ns block).Readable := by
  have looked := readable_namespaceLock readable ns
  unfold acquire
  generalize machine.namespaceLock ns = found at looked ⊢
  obtain ⟨lock, middle⟩ := found
  simp only
  split
  · exact looked.advance rfl looked.world trivial
  · exact looked.advance rfl looked.world trivial

theorem readable_startCall (readable : machine.Readable) (task : TaskId)
    (lock : LockId) (mountedName : String) :
    (machine.startCall task lock mountedName).Readable := by
  have admitted :=
    (readable_admitCall mountedName).final readable.world
  unfold startCall
  generalize outcome (admitCall mountedName) machine.world = result
    at admitted ⊢
  rcases result with ⟨raised | tool, world⟩
  · exact readable.advance rfl admitted trivial
  · have unlocked :
        (machine.changeLock lock Mutex.release).Readable :=
      ⟨readable.world, readable.tasks⟩
    exact readable_proceedCall unlocked readable_dispatchCall admitted

section Runs

variable [Platform]

theorem readable_enter (readable : machine.Readable) (task : TaskId)
    (ns : Namespace) (lock : LockId) (block : Block) :
    (machine.enter task ns lock block).Readable := by
  cases block with
  | operation operation rest entries =>
      exact readable_proceed readable (readable_start operation)
  | callStart mountedName =>
      exact readable_startCall readable task lock mountedName
  | callFinish result =>
      have counted : (machine.world.noteCallFinished ns).Readable :=
        readable.world.of_same rfl rfl
      exact readable.advance rfl counted trivial

theorem readable_request (readable : machine.Readable)
    (request : Request) : (machine.request request).Readable := by
  have final := (readable_accept request).final readable.world
  unfold Machine.request
  generalize outcome (accept request) machine.world = result at final ⊢
  rcases result with ⟨raised | error | ⟨operation, namespaces⟩, world⟩
  · exact readable.advance rfl final trivial
  · exact readable.advance rfl final trivial
  · exact readable.advance rfl final
      (readable_nextVisit operation namespaces [])

omit [Platform] in
theorem readable_call (readable : machine.Readable)
    (mountedName : String) : (machine.call mountedName).Readable := by
  have final := (readable_locateCall mountedName).final readable.world
  unfold Machine.call
  generalize outcome (locateCall mountedName) machine.world = result
    at final ⊢
  rcases result with ⟨raised | ns, world⟩
  · exact readable.advance rfl final trivial
  · exact readable.advance rfl final trivial

theorem readable_step (readable : machine.Readable) {action : Action}
    (taken : step machine action = some after) : after.Readable := by
  cases action with
  | request request =>
      obtain ⟨_, rfl⟩ := step_request.mp taken
      exact readable_request readable request
  | call mountedName =>
      obtain ⟨_, rfl⟩ := step_call.mp taken
      exact readable_call readable mountedName
  | acquire task =>
      obtain ⟨ns, block, _, _, rfl⟩ := step_acquire.mp taken
      exact readable_acquire readable task ns block
  | grant task =>
      obtain ⟨ns, lock, block, _, _, _, rfl⟩ := step_grant.mp taken
      exact readable.advance rfl readable.world trivial
  | enter task =>
      obtain ⟨ns, lock, block, _, _, rfl⟩ := step_enter.mp taken
      exact readable_enter readable task ns lock block
  | reply task reply =>
      obtain ⟨ns, lock, operation, rest, entries, stage, found, _, rfl⟩ :=
        step_reply.mp taken
      have holds : stage.Readable := readable.tasks task _ found
      exact readable_proceed readable (readable_resume reply holds)
  | callReply task reply =>
      obtain ⟨tool, stage, _, _, rfl⟩ := step_callReply.mp taken
      exact readable_proceedCall readable (readable_resumeCall stage reply)
        readable.world
  | cancelWaiting task =>
      obtain ⟨ns, lock, block, _, _, rfl⟩ := step_cancelWaiting.mp taken
      exact readable.advance rfl readable.world trivial
  | die runtime =>
      obtain ⟨_, rfl⟩ := step_die.mp taken
      exact ⟨readable.world.of_same rfl rfl, readable.tasks⟩

omit [Platform] in
theorem readable_restart (readable : machine.world.Readable) :
    machine.restart.Readable :=
  ⟨readable_startService.final readable, fun _ _ found => by cases found⟩

theorem readable_lifeStep (readable : machine.Readable)
    {action : Option Action}
    (taken : lifeStep machine action = some after) : after.Readable := by
  cases action with
  | none =>
      cases taken
      exact readable_restart readable.world
  | some action =>
      exact readable_step readable taken

/-- Started on any state file that loads, the service only ever writes
documents that load as they are: every record is in the form the validator
returns. -/
theorem written_readable {raw : StateDocument} {host : World}
    (loaded : raw.validate = .ok host.document)
    (fresh : host.written = [])
    (reaches :
      Reaches lifeStep (fun _ _ => True)
        (restart { world := host }) machine) :
    ∀ document ∈ machine.world.written,
      document.validate = .ok document ∧
        ∀ record ∈ document.toolsets,
          validateScopePolicy record = .ok record ∧ WellFormed record := by
  have found : host.Readable := by
    constructor
    · exact readable_of_validate loaded
    · rw [fresh]
      intro document member
      cases member
  have started : (restart { world := host }).Readable :=
    readable_restart found
  have readable : machine.Readable := by
    apply reaches.invariant started
    intro before action next holds _ taken
    exact readable_lifeStep holds taken
  intro document written
  have accepted := readable.world.earlier document written
  refine ⟨validate_of_readable accepted, ?_⟩
  intro record member
  have unchanged := accepted record member
  exact ⟨unchanged, validateScopePolicy_eq_self.mp unchanged⟩

end Runs

section Ascii

open scoped Ascii

/-- The bundled toolset is activated and the process restarted; the second
write of the activation fails. -/
theorem written_readable_fake :
    ∃ machine : Machine,
      Reaches lifeStep (fun _ _ => True)
          (restart
            { world :=
                { writeFaults := [none, none, some ⟨false, "disk"⟩] } })
          machine ∧
        machine.world.written.length = 5 ∧
        ∀ document ∈ machine.world.written,
          document.validate = .ok document ∧
            ∀ record ∈ document.toolsets,
              validateScopePolicy record = .ok record ∧
                WellFormed record := by
  obtain ⟨machine, reaches, wrote⟩ :=
    exists_reaches_of_execute
      [some (.request (.activateToolsets ["fake_stdio"] "thread" true)),
       some (.acquire 0), some (.enter 0), some (.reply 0 (.ok [])), none]
      (by decide +kernel :
        (execute lifeStep (fun _ _ => True)
          (restart
            { world :=
                { writeFaults := [none, none, some ⟨false, "disk"⟩] } })
          _).any
          (fun machine => machine.world.written.length = 5) = true)
  have loaded : StateDocument.validate {} = .ok {} := rfl
  exact ⟨machine, reaches, wrote, written_readable loaded rfl reaches⟩

end Ascii

end Machine

end ToolboxMcp
