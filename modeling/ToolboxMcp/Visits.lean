import ToolboxMcp.AuditAgreement
import ToolboxMcp.Turns

/-!
# What is left to visit

An admitted request becomes a task that visits its namespaces one by one for
its operation.  Along a run a task only uses its visits up: nobody visits a
namespace for an operation that no request has asked for.
-/

namespace ToolboxMcp

open Effect

/-! ## Requests -/

/-- The operations a request stands for. -/
def Request.Asks : Request → Operation → Prop
  | .registerToolset _ transport registration, operation =>
      ∃ valid, transport = .ok valid ∧
        operation = .register valid registration
  | .activateToolsets _ scope ifNotLoaded, operation =>
      ∃ parsed, Scope.parse scope = some parsed ∧
        operation = .activate parsed ifNotLoaded
  | .refreshToolsets _ ifStale scope, operation =>
      ∃ parsed, parseScope scope = .ok parsed ∧
        operation = .refresh ifStale parsed
  | .deactivateToolsets _ scope force, operation =>
      ∃ parsed, Scope.parse scope = some parsed ∧
        operation = .deactivate parsed force
  | .restoreToolsets _ stableHostIdentity startup, operation =>
      operation = .restore stableHostIdentity startup
  | .checkToolsetHealth _ scope, operation =>
      ∃ parsed, parseScope scope = .ok parsed ∧
        operation = .checkHealth parsed
  | .clearStaleToolsets _, operation => operation = .clearStale
  | .markToolsetStale _ reason, operation => operation = .markStale reason
  | .unregisterToolsets _ force, operation => operation = .unregister force

section Requests

variable [Platform] {world : World}

/-- An admitted request visits its subjects for the operation it asks for. -/
theorem accept_visits (request : Request) :
    wp (accept request)
      (fun admission _ => ∀ operation namespaces,
        admission = .admitted operation namespaces →
          request.Asks operation ∧ namespaces = request.subjects world)
      (fun _ _ => True) world := by
  have refuses : ∀ operation error,
      wp (refuse operation error)
        (fun admission _ => ∀ operation namespaces,
          admission = .admitted operation namespaces →
            request.Asks operation ∧ namespaces = request.subjects world)
        (fun _ _ => True) world := by
    intro operation error
    unfold refuse
    rw [wp_bind]
    apply appendAuditEvent_rule
    · rintro _ _ _ _ ⟨⟩
    · exact fun _ _ _ _ => trivial
  cases request with
  | registerToolset ns transport registration =>
      simp only [accept, acceptRegister]
      split
      · exact refuses _ _
      · cases transport with
        | error message =>
            exact refuses _ _
        | ok valid =>
            rintro _ _ ⟨⟩
            exact ⟨⟨valid, rfl, rfl⟩, rfl⟩
  | activateToolsets namespaces scope ifNotLoaded =>
      simp only [accept]
      cases parses : Scope.parse scope with
      | none =>
          exact refuses _ _
      | some parsed =>
          rintro _ _ ⟨⟩
          exact ⟨⟨parsed, parses, rfl⟩, rfl⟩
  | refreshToolsets namespaces ifStale scope =>
      simp only [accept]
      cases parses : parseScope scope with
      | error text =>
          exact refuses _ _
      | ok parsed =>
          rintro _ _ ⟨⟩
          exact ⟨⟨parsed, parses, rfl⟩, rfl⟩
  | deactivateToolsets namespaces scope force =>
      simp only [accept]
      cases parses : Scope.parse scope with
      | none =>
          exact refuses _ _
      | some parsed =>
          rintro _ _ ⟨⟩
          exact ⟨⟨parsed, parses, rfl⟩, rfl⟩
  | restoreToolsets namespaces stableHostIdentity startup =>
      rintro _ _ ⟨⟩
      exact ⟨rfl, rfl⟩
  | checkToolsetHealth namespaces scope =>
      simp only [accept]
      cases parses : parseScope scope with
      | error text =>
          exact refuses _ _
      | ok parsed =>
          rintro _ _ ⟨⟩
          exact ⟨⟨parsed, parses, rfl⟩, rfl⟩
  | clearStaleToolsets namespaces =>
      rintro _ _ ⟨⟩
      exact ⟨rfl, rfl⟩
  | markToolsetStale ns reason =>
      rintro _ _ ⟨⟩
      exact ⟨rfl, rfl⟩
  | unregisterToolsets namespaces force =>
      rintro _ _ ⟨⟩
      exact ⟨rfl, rfl⟩

end Requests

/-! ## Tasks -/

def Block.visits (ns : Namespace) : Block → List (Namespace × Operation)
  | .operation asked rest _ => (ns :: rest).map fun home => (home, asked)
  | _ => []

/-- The visits the task has not finished. -/
def Task.visits : Task → List (Namespace × Operation)
  | .arriving ns block => block.visits ns
  | .waiting ns _ block => block.visits ns
  | .entered ns _ block => block.visits ns
  | .suspended ns _ operation rest _ _ =>
      (ns :: rest).map fun home => (home, operation)
  | _ => []

namespace Machine

@[simp]
theorem visits_nextVisit (operation : Operation) (rest : List Namespace)
    (entries : List Entry) :
    (nextVisit operation rest entries).visits =
      rest.map fun home => (home, operation) := by
  cases rest <;> rfl

/-- Some task has the visit before it. -/
def Awaits (machine : Machine) (visit : Namespace × Operation) : Prop :=
  ∃ task current, machine.tasks task = some current ∧ visit ∈ current.visits

/-- The action brings the visit in. -/
def Brings (machine : Machine) (action : Action)
    (visit : Namespace × Operation) : Prop :=
  ∃ request, action = .request request ∧ request.Asks visit.2 ∧
    visit.1 ∈ request.subjects machine.world

section Steps

variable {machine after : Machine} {action : Action} {task : TaskId}
  {next : Task} {visit : Namespace × Operation}

theorem awaits_update
    (tasks : after.tasks = Function.update machine.tasks task (some next))
    (kept : visit ∈ next.visits →
      machine.Awaits visit ∨ machine.Brings action visit)
    (awaits : after.Awaits visit) :
    machine.Awaits visit ∨ machine.Brings action visit := by
  obtain ⟨other, current, found, member⟩ := awaits
  rw [tasks] at found
  by_cases same : other = task
  · subst same
    rw [Function.update_self] at found
    cases found
    exact kept member
  · rw [Function.update_of_ne same] at found
    exact .inl ⟨other, current, found, member⟩

theorem awaits_proceed {ns : Namespace} {lock : LockId}
    {operation : Operation} {rest : List Namespace} {entries : List Entry}
    {current : Task} (found : machine.tasks task = some current)
    (before :
      ((ns :: rest).map fun home => (home, operation)) ⊆ current.visits)
    (result : Except Raised Progress × World)
    (awaits :
      (machine.proceed task ns lock operation rest entries result).Awaits
        visit) :
    machine.Awaits visit ∨ machine.Brings action visit := by
  have listed : visit ∈ (ns :: rest).map (fun home => (home, operation)) →
      machine.Awaits visit :=
    fun member => ⟨task, current, found, before member⟩
  rcases result with ⟨raised | stage | more, world⟩
  · exact awaits_update rfl (fun member => by cases member) awaits
  · refine awaits_update rfl (fun member => ?_) awaits
    exact .inl (listed member)
  · refine awaits_update rfl (fun member => ?_) awaits
    rw [visits_nextVisit] at member
    exact .inl (listed (List.mem_cons_of_mem _ member))

theorem awaits_proceedCall {locks : LockId → Mutex TaskId}
    {tool : MountedTool} (result : Except Raised CallProgress × World)
    (awaits :
      (proceedCall { machine with locks := locks } task tool result).Awaits
        visit) :
    machine.Awaits visit ∨ machine.Brings action visit := by
  rcases result with ⟨raised | stage | value, world⟩
  · exact awaits_update rfl (fun member => by cases member) awaits
  · exact awaits_update rfl (fun member => by cases member) awaits
  · exact awaits_update rfl (fun member => by cases member) awaits

/-- A visit was there before the step, or the step is the request for it. -/
theorem awaits_step [Platform] (taken : step machine action = some after)
    (awaits : after.Awaits visit) :
    machine.Awaits visit ∨ machine.Brings action visit := by
  cases action with
  | request request =>
      obtain ⟨_, rfl⟩ := step_request.mp taken
      unfold Machine.request at awaits
      rcases wp_cases (@accept_visits _ machine.world request) with
        ⟨error | ⟨operation, namespaces⟩, world, computed, visits⟩ |
          ⟨raised, world, computed, _⟩
      · rw [computed] at awaits
        exact awaits_update rfl (fun member => by cases member) awaits
      · rw [computed] at awaits
        obtain ⟨asks, rfl⟩ := visits operation namespaces rfl
        refine awaits_update rfl (fun member => ?_) awaits
        rw [visits_nextVisit] at member
        obtain ⟨home, subject, rfl⟩ := List.mem_map.mp member
        exact .inr ⟨request, rfl, asks, subject⟩
      · rw [computed] at awaits
        exact awaits_update rfl (fun member => by cases member) awaits
  | call mountedName =>
      obtain ⟨_, rfl⟩ := step_call.mp taken
      unfold Machine.call at awaits
      rcases locateCall_cases machine.world mountedName with
        ⟨tool, _, computed⟩ | ⟨raised, computed⟩
      · rw [computed] at awaits
        exact awaits_update rfl (fun member => by cases member) awaits
      · rw [computed] at awaits
        exact awaits_update rfl (fun member => by cases member) awaits
  | acquire task =>
      obtain ⟨ns, block, found, _, rfl⟩ := step_acquire.mp taken
      obtain ⟨_, tasks, _⟩ := machine.namespaceLock_spec ns
      unfold acquire at awaits
      generalize machine.namespaceLock ns = looked at tasks awaits
      obtain ⟨lock, middle⟩ := looked
      simp only at tasks awaits
      have moved : ∀ next : Task,
          Function.update middle.tasks task (some next) =
            Function.update machine.tasks task (some next) := by
        intro next
        rw [tasks]
      have earlier : visit ∈ block.visits ns → machine.Awaits visit :=
        fun member => ⟨task, _, found, member⟩
      by_cases available : (middle.locks lock).Available
      · rw [if_pos available] at awaits
        refine awaits_update (moved _) (fun member => ?_) awaits
        exact .inl (earlier member)
      · rw [if_neg available] at awaits
        refine awaits_update (moved _) (fun member => ?_) awaits
        exact .inl (earlier member)
  | grant task =>
      obtain ⟨ns, lock, block, found, _, _, rfl⟩ := step_grant.mp taken
      refine awaits_update rfl (fun member => ?_) awaits
      exact .inl ⟨task, _, found, member⟩
  | enter task =>
      obtain ⟨ns, lock, block, found, _, rfl⟩ := step_enter.mp taken
      cases block with
      | operation operation rest entries =>
          exact awaits_proceed found (List.Subset.refl _) _ awaits
      | callStart mountedName =>
          simp only [Machine.enter, startCall] at awaits
          rcases admitCall_cases machine.world mountedName with
            ⟨tool, _, computed⟩ | ⟨raised, computed⟩
          · rw [computed] at awaits
            exact awaits_proceedCall _ awaits
          · rw [computed] at awaits
            exact awaits_update rfl (fun member => by cases member) awaits
      | callFinish result =>
          exact awaits_update rfl (fun member => by cases member) awaits
  | reply task reply =>
      obtain ⟨ns, lock, operation, rest, entries, stage, found, _, rfl⟩ :=
        step_reply.mp taken
      exact awaits_proceed found (List.Subset.refl _) _ awaits
  | callReply task reply =>
      obtain ⟨tool, stage, _, _, rfl⟩ := step_callReply.mp taken
      exact @awaits_proceedCall _ _ _ _ machine.locks tool _ awaits
  | cancelWaiting task =>
      obtain ⟨ns, lock, block, _, _, rfl⟩ := step_cancelWaiting.mp taken
      exact awaits_update rfl (fun member => by cases member) awaits
  | die runtime =>
      obtain ⟨_, rfl⟩ := step_die.mp taken
      exact .inl awaits

/-- The visit that an action goes on with is awaited. -/
theorem awaits_of_visit [Platform] {running : Visit}
    (visits : machine.visit action = some running) :
    machine.Awaits (running.ns, running.operation) := by
  unfold Machine.visit at visits
  split at visits
  · rename_i task
    split at visits
    · rename_i ns lock operation rest entries found
      cases visits
      exact ⟨task, _, found, List.mem_cons_self⟩
    · cases visits
  · rename_i task reply
    split at visits
    · rename_i ns lock operation rest entries stage found
      cases visits
      exact ⟨task, _, found, List.mem_cons_self⟩
    · cases visits
  · cases visits

end Steps

end Machine

end ToolboxMcp
