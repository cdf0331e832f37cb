import ToolboxMcp.Service.Editing
import ToolboxMcp.Turns

/-!
# What all records of a run have in common

A property that no edit spoils holds of every stored record and of every record
in the locals of a suspended block, in every state of every run, however its
tasks are interleaved, if it holds of the new registrations.
-/

namespace ToolboxMcp

open Effect

/-- Under distinct namespaces the stored records are those that are found. -/
theorem retains_iff {world : World} {good : RecordInvariant}
    (distinct : world.document.Distinct) :
    world.Retains good ↔
      ∀ ns record, world.document.getToolset ns = some record →
        good record := by
  constructor
  · intro retains ns record found
    exact retains.found found
  · intro retains record member
    exact retains record.ns record (distinct.getToolset member)

/-- A task holds no record but good ones. -/
def Task.Retains (good : RecordInvariant) : Task → Prop
  | .suspended _ _ _ _ _ stage => stage.Retains good
  | _ => True

namespace Machine

/-- The records in the document and in the locals of suspended blocks are
good. -/
structure Retains (good : RecordInvariant) (machine : Machine) :
    Prop where
  stored : machine.world.Retains good
  held :
    ∀ task current,
      machine.tasks task = some current → current.Retains good

variable {good : RecordInvariant} {machine after : Machine}
  {task : TaskId} {next : Task}

theorem Retains.advance (retains : machine.Retains good)
    (tasks : after.tasks = Function.update machine.tasks task (some next))
    (stored : after.world.Retains good) (held : next.Retains good) :
    after.Retains good where
  stored := stored
  held := by
    intro other current found
    rw [tasks] at found
    by_cases same : other = task
    · subst same
      rw [Function.update_self] at found
      cases found
      exact held
    · rw [Function.update_of_ne same] at found
      exact retains.held other current found

theorem retains_of_awake (awake : next.atAwait = false) :
    next.Retains good := by
  cases next with
  | suspended ns lock operation rest entries stage =>
      cases awake
  | _ =>
      trivial

theorem retains_proceed (retains : machine.Retains good)
    {ns : Namespace} {lock : LockId} {operation : Operation}
    {rest : List Namespace} {entries : List Entry}
    {program : ServiceM Progress}
    (keeps : KeepsGood good program (Progress.Retains good)) :
    (machine.proceed task ns lock operation rest entries
      (outcome program machine.world)).Retains good := by
  have final := keeps.final retains.stored
  cases computed : outcome program machine.world with
  | mk result world =>
      rw [computed] at final
      cases result with
      | error raised =>
          exact retains.advance rfl final trivial
      | ok progress =>
          have held := keeps.value retains.stored computed
          cases progress with
          | inside stage =>
              exact retains.advance rfl final held
          | left more =>
              exact retains.advance rfl final
                (retains_of_awake (atAwait_nextVisit operation rest _))

theorem retains_proceedCall {locks : LockId → Mutex TaskId}
    (retains : machine.Retains good) {tool : MountedTool}
    {world : World} {program : ServiceM CallProgress}
    (stored : world.Retains good)
    (keeps : KeepsGood good program fun _ => True) :
    (proceedCall { machine with locks := locks } task tool
      (outcome program world)).Retains good := by
  have final := keeps.final stored
  cases computed : outcome program world with
  | mk result last =>
      rw [computed] at final
      rcases result with raised | stage | result
      · exact retains.advance rfl final trivial
      · exact retains.advance rfl final trivial
      · exact retains.advance rfl final trivial

section Steps

variable [Platform]

/-- Every step keeps the registrations, if a new one is good. -/
theorem retains_turn (retains : machine.Retains good)
    (distinctAfter : after.world.document.Distinct) {action : Action}
    (brings : ∀ ns operation,
      machine.visit action = some ⟨ns, operation, start operation ns⟩ →
      operation.Brings good ns)
    (turn : machine.Turn action after) : after.Retains good := by
  cases turn with
  | aside moves tasks awake world elsewhere =>
      apply retains.advance tasks _ (retains_of_awake awake)
      rw [retains_iff distinctAfter]
      intro ns record found
      rw [world.records] at found
      exact retains.stored.found found
  | @visiting task ns lock operation rest entries program stretch proceeds
      visits =>
      subst proceeds
      apply retains_proceed retains
      cases stretch with
      | first found turn =>
          exact retains_start operation (brings ns operation visits)
      | later reply found free =>
          exact retains_resume reply (retains.held task _ found)
  | @calling task tool world program locks stretch proceeds elsewhere =>
      subst proceeds
      have counted : world.Retains good := by
        cases stretch with
        | first found turn resolved =>
            exact retains.stored
        | later reply found free =>
            exact retains.stored
      apply retains_proceedCall retains counted
      cases stretch with
      | first found turn resolved =>
          exact retains_dispatchCall
      | later reply found free =>
          exact retains_resumeCall _ reply
  | dying died elsewhere =>
      subst died
      exact ⟨retains.stored, retains.held⟩

end Steps

theorem Retains.mono {better : RecordInvariant}
    (retains : machine.Retains good)
    (weaker : ∀ record, good record → better record) :
    machine.Retains better where
  stored := fun record member => weaker _ (retains.stored record member)
  held := by
    intro task current found
    have held := retains.held task current found
    cases current with
    | suspended ns lock operation rest entries stage =>
        cases stage with
        | opening body record runtime =>
            exact held.imp_left (weaker record)
        | swapping closing body record snapshot =>
            exact held.imp_left (weaker record)
        | deactivating closing scope force record =>
            exact weaker record held
        | _ =>
            trivial
    | _ =>
        trivial

end Machine

end ToolboxMcp
