import ToolboxMcp.Invariants

/-!
# One task followed

While no other client acts, a lifecycle call is the run of its own task.  What
holds of the world and the task when the call is admitted, and is kept by every
stretch of its blocks, holds of the answer.
-/

namespace ToolboxMcp

open Effect

/-- A step of the task itself, or the death of a runtime. -/
def Action.concerns (task : TaskId) : Action → Bool
  | .acquire actor => actor = task
  | .grant actor => actor = task
  | .enter actor => actor = task
  | .reply actor _ => actor = task
  | .callReply actor _ => actor = task
  | .cancelWaiting actor => actor = task
  | .die _ => true
  | .request _ => false
  | .call _ => false

/-- A lifecycle call between two of its stretches. -/
inductive Standing where
  | visiting
      (ns : Namespace) (operation : Operation) (rest : List Namespace)
      (entries : List Entry)
  | suspended
      (ns : Namespace) (operation : Operation) (rest : List Namespace)
      (entries : List Entry) (stage : Stage)
  | answered (answer : Answer)

/-- Where the task stands; a mounted call stands nowhere. -/
def Task.stands : Task → Option Standing
  | .arriving ns (.operation operation rest entries) =>
      some (.visiting ns operation rest entries)
  | .waiting ns _ (.operation operation rest entries) =>
      some (.visiting ns operation rest entries)
  | .entered ns _ (.operation operation rest entries) =>
      some (.visiting ns operation rest entries)
  | .suspended ns _ operation rest entries stage =>
      some (.suspended ns operation rest entries stage)
  | .answered answer => some (.answered answer)
  | _ => none

/-- The next visit, or the answer. -/
def Standing.next (operation : Operation) (rest : List Namespace)
    (entries : List Entry) : Standing :=
  match rest with
  | ns :: later => .visiting ns operation later entries
  | [] => .answered (.response entries)

/-- Where a stretch leaves the call. -/
def Standing.after (ns : Namespace) (operation : Operation)
    (rest : List Namespace) (entries : List Entry) : Progress → Standing
  | .inside stage => .suspended ns operation rest entries stage
  | .left more => .next operation rest (entries ++ more)

@[simp]
theorem stands_nextVisit (operation : Operation) (rest : List Namespace)
    (entries : List Entry) :
    (Machine.nextVisit operation rest entries).stands =
      some (.next operation rest entries) := by
  cases rest <;> rfl

/-- A property of the world and the standing of one call that its own steps
keep. -/
structure Lasts [Platform] (holds : World → Standing → Prop) : Prop where
  locks : ∀ world ns lock standing,
    holds world standing → holds (world.setLockEntry ns lock) standing
  dies : ∀ world runtime standing,
    holds world standing → holds (world.markDone runtime) standing
  cancelled : ∀ world, holds world (.answered (.raised .cancelled))
  starts : ∀ world ns operation rest entries,
    holds world (.visiting ns operation rest entries) →
      wp (start operation ns)
        (fun progress after =>
          holds after (.after ns operation rest entries progress))
        (fun raised after => holds after (.answered (.raised raised))) world
  resumes : ∀ world ns operation rest entries stage reply,
    holds world (.suspended ns operation rest entries stage) →
      wp (resume ns stage reply)
        (fun progress after =>
          holds after (.after ns operation rest entries progress))
        (fun raised after => holds after (.answered (.raised raised))) world

namespace Machine

/-- The task stands where the property holds. -/
def Stands (holds : World → Standing → Prop) (task : TaskId)
    (machine : Machine) : Prop :=
  ∃ current standing,
    machine.tasks task = some current ∧ current.stands = some standing ∧
      holds machine.world standing

def response (machine : Machine) (task : TaskId) : Option (List Entry) :=
  match machine.tasks task with
  | some (.answered (.response entries)) => some entries
  | _ => none

theorem tasks_of_response {machine : Machine} {task : TaskId}
    {entries : List Entry} (answers : machine.response task = some entries) :
    machine.tasks task = some (.answered (.response entries)) := by
  unfold response at answers
  split at answers
  · rename_i found
    cases answers
    exact found
  · cases answers

theorem tasks_acquire (machine : Machine) (task : TaskId)
    (home : Namespace) (block : Block) :
    ∃ lock,
      (machine.acquire task home block).tasks task =
          some (.entered home lock block) ∨
        (machine.acquire task home block).tasks task =
          some (.waiting home lock block) := by
  unfold acquire
  generalize machine.namespaceLock home = looked
  obtain ⟨lock, middle⟩ := looked
  refine ⟨lock, ?_⟩
  simp only
  split
  · left
    simp [setTask]
  · right
    simp [setTask]

section Steps

variable [Platform] {holds : World → Standing → Prop} {task : TaskId}
  {machine called after : Machine}

omit [Platform] in
theorem Stands.answered {answer : Answer}
    (stands : machine.Stands holds task)
    (answered : machine.tasks task = some (.answered answer)) :
    holds machine.world (.answered answer) := by
  obtain ⟨current, standing, found, stood, held⟩ := stands
  cases answered.symm.trans found
  cases stood
  exact held

omit [Platform] in
theorem stands_of_proceed {ns : Namespace} {lock : LockId}
    {operation : Operation} {rest : List Namespace} {entries : List Entry}
    {program : ServiceM Progress} {world : World}
    (ends : wp program
      (fun progress after =>
        holds after (.after ns operation rest entries progress))
      (fun raised after => holds after (.answered (.raised raised))) world) :
    (machine.proceed task ns lock operation rest entries
      (outcome program world)).Stands holds task := by
  rcases wp_cases ends with
    ⟨stage | more, after, computed, held⟩ | ⟨raised, after, computed, held⟩
  · rw [computed]
    exact ⟨_, _, Function.update_self _ _ _, rfl, held⟩
  · rw [computed]
    exact ⟨_, _, Function.update_self _ _ _, stands_nextVisit _ _ _, held⟩
  · rw [computed]
    exact ⟨_, _, Function.update_self _ _ _, rfl, held⟩

theorem stands_step (lasts : Lasts holds)
    (stands : machine.Stands holds task) {action : Action}
    (concerns : action.concerns task = true)
    (taken : step machine action = some after) :
    after.Stands holds task := by
  obtain ⟨current, standing, present, stood, held⟩ := stands
  cases action with
  | request request => cases concerns
  | call mountedName => cases concerns
  | acquire actor =>
      cases of_decide_eq_true concerns
      obtain ⟨ns, block, found, _, rfl⟩ := step_acquire.mp taken
      cases found.symm.trans present
      have looked : holds (machine.namespaceLock ns).2.world standing := by
        unfold namespaceLock
        split
        · exact held
        · exact lasts.locks _ _ _ _ held
      rw [← acquire_world machine task ns block] at looked
      cases block with
      | operation operation rest entries =>
          obtain ⟨lock, entered | waiting⟩ :=
            tasks_acquire machine task ns (.operation operation rest entries)
          · exact ⟨_, _, entered, stood, looked⟩
          · exact ⟨_, _, waiting, stood, looked⟩
      | callStart mountedName => cases stood
      | callFinish result => cases stood
  | grant actor =>
      cases of_decide_eq_true concerns
      obtain ⟨ns, lock, block, found, _, _, rfl⟩ := step_grant.mp taken
      cases found.symm.trans present
      cases block with
      | operation operation rest entries =>
          exact ⟨_, _, Function.update_self _ _ _, stood, held⟩
      | callStart mountedName => cases stood
      | callFinish result => cases stood
  | enter actor =>
      cases of_decide_eq_true concerns
      obtain ⟨ns, lock, block, found, _, rfl⟩ := step_enter.mp taken
      cases found.symm.trans present
      cases block with
      | operation operation rest entries =>
          cases stood
          exact stands_of_proceed (lasts.starts _ _ _ _ _ held)
      | callStart mountedName => cases stood
      | callFinish result => cases stood
  | reply actor reply =>
      cases of_decide_eq_true concerns
      obtain ⟨ns, lock, operation, rest, entries, stage, found, _, rfl⟩ :=
        step_reply.mp taken
      cases found.symm.trans present
      cases stood
      exact stands_of_proceed (lasts.resumes _ _ _ _ _ _ reply held)
  | callReply actor reply =>
      cases of_decide_eq_true concerns
      obtain ⟨tool, stage, found, _, _⟩ := step_callReply.mp taken
      cases found.symm.trans present
      cases stood
  | cancelWaiting actor =>
      cases of_decide_eq_true concerns
      obtain ⟨ns, lock, block, found, _, rfl⟩ := step_cancelWaiting.mp taken
      exact ⟨_, _, Function.update_self _ _ _, rfl, lasts.cancelled _⟩
  | die runtime =>
      obtain ⟨_, rfl⟩ := step_die.mp taken
      exact ⟨current, standing, present, stood, lasts.dies _ _ _ held⟩

/-- The call holds to the property until it is answered. -/
theorem stands_of_runs (lasts : Lasts holds)
    (begun : called.Stands holds task)
    (runs : Reaches step (fun _ action => action.concerns task = true)
      called after) : after.Stands holds task :=
  runs.invariant begun fun _ _ _ stands concerns taken =>
    stands_step lasts stands concerns taken

/-- The request is refused, raises, or begins its visits. -/
theorem stands_request {request : Request}
    (begins : wp (accept request)
      (fun admission after =>
        match admission with
        | .refused error => holds after (.answered (.refused error))
        | .admitted operation namespaces =>
            holds after (.next operation namespaces []))
      (fun raised after => holds after (.answered (.raised raised)))
      machine.world)
    (asked : step machine (.request request) = some called) :
    called.Stands holds machine.nextTask := by
  obtain ⟨_, rfl⟩ := step_request.mp asked
  unfold Machine.request
  rcases wp_cases begins with
    ⟨error | ⟨operation, namespaces⟩, world, computed, held⟩ |
      ⟨raised, world, computed, held⟩
  · rw [computed]
    exact ⟨_, _, Function.update_self _ _ _, rfl, held⟩
  · rw [computed]
    exact ⟨_, _, Function.update_self _ _ _, stands_nextVisit _ _ _, held⟩
  · rw [computed]
    exact ⟨_, _, Function.update_self _ _ _, rfl, held⟩

end Steps

end Machine

end ToolboxMcp
