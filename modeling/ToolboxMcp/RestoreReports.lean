import ToolboxMcp.Lifetime
import ToolboxMcp.Library.History
import ToolboxMcp.Service.Restoring

/-!
# Restores report what was loaded

A restore reads the record when it enters the lock of the namespace and works
with that record until it leaves the block, however long it is suspended.  The
history of a run keeps the document every task has found on entering a block,
so that a report can be compared with the record it was made from.
-/

namespace ToolboxMcp

open Effect

/-- The policy gates let the restore load the scope. -/
structure RestoreAllowed (record : ToolsetRecord) (identity startup : Bool)
    (scope : Scope) : Prop where
  recoverable : scope ∈ record.recoverableScopes
  restorable : scope ∈ record.restorableScopes
  identity : record.restoreRequiresIdentity = true → identity = true
  requested : record.restoreRequiresExplicitRequest = true → startup = false

theorem restoreAllowed_of_mem {record : ToolsetRecord}
    {identity startup : Bool} {scope : Scope}
    (member : scope ∈ recoveryScopes record identity (!startup)) :
    RestoreAllowed record identity startup scope := by
  obtain ⟨recoverable, restorable, _⟩ := mem_recoveryScopes record scope member
  unfold recoveryScopes at member
  split at member
  · cases member
  · rename_i identified
    split at member
    · cases member
    · rename_i requested
      exact ⟨recoverable, restorable, by simpa using identified,
        by simpa using requested⟩

/-- The entry of a restore, and the audit events it has added, list only scopes
that were allowed. -/
structure ReportsOnlyAllowed (record : ToolsetRecord)
    (identity startup : Bool) (result : RestoreResult)
    (before after : World) : Prop where
  entry : ∀ scope ∈ result.restoredScopes,
    RestoreAllowed record identity startup scope
  events : ∀ event ∈ after.document.auditLog,
    event ∉ before.document.auditLog →
      event.operation = .restore → event.outcome = .success →
        event.ns = some result.ns ∧
          ∃ scopes, event.Lists scopes ∧
            ∀ scope ∈ scopes, RestoreAllowed record identity startup scope

/-- Only what was loaded before can be out of place. -/
theorem reportsOnlyAllowed_iff {record : ToolsetRecord}
    {identity startup : Bool} {result : RestoreResult} {before after : World}
    (restores :
      Restores record (recoveryScopes record identity (!startup))
        result.restoredScopes)
    (gains :
      GainsOnly
        (StoredAuditEvent.Tells result.ns record
          (recoveryScopes record identity (!startup)))
        before after) :
    ReportsOnlyAllowed record identity startup result before after ↔
      ∀ scope ∈ record.loadedScopes,
        RestoreAllowed record identity startup scope := by
  constructor
  · intro reports scope loaded
    exact reports.entry scope ((restores scope).mpr (.inr loaded))
  · intro allowed
    have within : ∀ scopes,
        Restores record (recoveryScopes record identity (!startup)) scopes →
          ∀ scope ∈ scopes, RestoreAllowed record identity startup scope := by
      intro scopes lists scope member
      rcases (lists scope).mp member with candidate | loaded
      · exact restoreAllowed_of_mem candidate
      · exact allowed scope loaded
    refine ⟨within _ restores, ?_⟩
    intro event member new restoring succeeded
    rcases gains event member with earlier | tells
    · exact absurd earlier new
    · obtain ⟨subject, scopes, lists, alike⟩ := tells restoring succeeded
      exact ⟨subject, scopes, lists, within scopes alike⟩

namespace Machine

/-! ## What tasks find -/

/-- The document a task finds on entering a block. -/
def entrances (machine : Machine) (action : Option Action) (_ : Machine) :
    List (TaskId × StateDocument) :=
  match action with
  | some (.enter task) => [(task, machine.world.document)]
  | _ => []

def lastFound (history : List (TaskId × StateDocument)) (task : TaskId) :
    Option StateDocument :=
  (History.mostRecent (fun _ => false) (fun found => found.1 = task)
    history).map Prod.snd

theorem lastFound_concat (history : List (TaskId × StateDocument))
    (entered task : TaskId) (document : StateDocument) :
    lastFound (history ++ [(entered, document)]) task =
      if entered = task then some document else lastFound history task := by
  unfold lastFound
  rw [History.mostRecent_concat]
  by_cases same : entered = task
  · simp [same]
  · simp [same]

variable [Platform]

/-- A run that remembers what its tasks have found. -/
abbrev watchedStep :=
  monitor lifeStep entrances

variable {machine before after : Machine} {action : Action}
  {history : List (TaskId × StateDocument)}

/-- A task that is suspended does not enter. -/
theorem lastFound_of_suspended
    (taken : step before action = some after) {task : TaskId}
    {ns : Namespace} {lock : LockId} {operation : Operation}
    {rest : List Namespace} {entries : List Entry} {stage : Stage}
    (suspended :
      before.tasks task =
        some (.suspended ns lock operation rest entries stage)) :
    lastFound (history ++ before.entrances (some action) after) task =
      lastFound history task := by
  cases action with
  | enter entered =>
      obtain ⟨_, _, _, found, _⟩ := step_enter.mp taken
      have different : entered ≠ task := by
        rintro rfl
        rw [found] at suspended
        cases suspended
      unfold entrances
      rw [lastFound_concat, if_neg different]
  | _ => simp [entrances]

/-- A task that goes into its block has just found the document. -/
theorem lastFound_of_entered
    (taken : step before action = some after) {visit : Visit}
    (visits : before.visit action = some visit) {task : TaskId}
    (turn : before.current = some task) :
    action = .enter task ∧
      lastFound (history ++ before.entrances (some action) after) task =
        some before.world.document := by
  cases action with
  | enter entered =>
      obtain ⟨_, _, _, _, now, _⟩ := step_enter.mp taken
      cases turn.symm.trans now
      refine ⟨rfl, ?_⟩
      unfold entrances
      rw [lastFound_concat, if_pos rfl]
  | reply replied reply =>
      obtain ⟨_, _, _, _, _, _, _, free, _⟩ := step_reply.mp taken
      rw [free] at turn
      cases turn
  | _ => cases visits

/-- A suspended restore holds the candidates and the loaded scopes of the
record it has found. -/
def Informed (machine : Machine)
    (history : List (TaskId × StateDocument)) : Prop :=
  ∀ task ns lock identity startup rest entries stage,
    machine.tasks task =
        some (.suspended ns lock (.restore identity startup) rest entries
          stage) →
      ∃ document record,
        lastFound history task = some document ∧
          document.getToolset ns = some record ∧
          stage.Restores record (recoveryScopes record identity (!startup))

/-- What the stretch of a restore leaves, in terms of the record it has
found. -/
theorem Stretch.restores {task : TaskId} {ns : Namespace} {lock : LockId}
    {identity startup : Bool} {rest : List Namespace} {entries : List Entry}
    {program : ServiceM Progress}
    (stretch :
      before.Stretch task ns lock (.restore identity startup) rest entries
        program)
    (informed : before.Informed history)
    (taken : step before action = some after) {visit : Visit}
    (visits : before.visit action = some visit) :
    (∃ error, ∃ world, outcome program before.world =
        (.ok (.left [.failed error]), world)) ∨
      (∃ raised world, outcome program before.world = (.error raised, world)) ∨
      ∃ document record progress world,
        lastFound (history ++ before.entrances (some action) after) task =
            some document ∧
          document.getToolset ns = some record ∧
          outcome program before.world = (.ok progress, world) ∧
          GainsOnly
            (StoredAuditEvent.Tells ns record
              (recoveryScopes record identity (!startup)))
            before.world world ∧
          progress.Restores ns record
            (recoveryScopes record identity (!startup)) := by
  cases stretch with
  | first found turn =>
      have entered := (@lastFound_of_entered _ _ _ _ history taken _ visits _
        turn).2
      cases stored : before.world.record ns with
      | none =>
          rcases wp_cases (@restores_unknown _ ns startup before.world
            identity stored) with
            ⟨_, world, computed, error, rfl⟩ | ⟨raised, world, computed, _⟩
          · exact .inl ⟨error, world, computed⟩
          · exact .inr (.inl ⟨raised, world, computed⟩)
      | some record =>
          rcases wp_cases (@adds_startRestore _ ns record startup before.world
            identity stored) with
            ⟨progress, world, computed, gains, restores⟩ |
              ⟨raised, world, computed, _⟩
          · exact .inr (.inr ⟨_, record, progress, world, entered, stored,
              computed, gains, restores⟩)
          · exact .inr (.inl ⟨raised, world, computed⟩)
  | later reply found free =>
      obtain ⟨document, record, known, stored, holds⟩ :=
        informed task _ _ _ _ _ _ _ found
      have unchanged :
          GainsOnly
            (StoredAuditEvent.Tells ns record
              (recoveryScopes record identity (!startup)))
            before.world before.world :=
        fun _ member => .inl member
      rcases wp_cases (@adds_resume _ before.world ns record _ _ holds reply
        before.world unchanged) with
        ⟨progress, world, computed, gains, restores⟩ |
          ⟨raised, world, computed, _⟩
      · refine .inr (.inr ⟨document, record, progress, world, ?_, stored,
          computed, gains, restores⟩)
        rw [lastFound_of_suspended taken found]
        exact known
      · exact .inr (.inl ⟨raised, world, computed⟩)

theorem informed_step (informed : before.Informed history)
    (taken : step before action = some after) :
    after.Informed
      (history ++ before.entrances (some action) after) := by
  intro other ns lock identity startup rest entries stage suspended
  have keeps : before.tasks other = after.tasks other →
      ∃ document record,
        lastFound (history ++ before.entrances (some action) after) other =
            some document ∧
          document.getToolset ns = some record ∧
          stage.Restores record (recoveryScopes record identity (!startup)) := by
    intro same
    rw [← same] at suspended
    rw [lastFound_of_suspended taken suspended]
    exact informed other _ _ _ _ _ _ _ suspended
  cases turn_of_step taken with
  | @aside task next moves tasks awake world elsewhere =>
      by_cases same : other = task
      · rw [tasks, same, Function.update_self] at suspended
        cases suspended
        cases awake
      · apply keeps
        rw [tasks, Function.update_of_ne same]
  | @visiting task home held operation later done program stretch proceeds
      visits =>
      by_cases same : other = task
      · subst same
        rcases progressed : outcome program before.world with
          ⟨raised | next | more, world⟩
        · rw [proceeds, progressed] at suspended
          cases (Function.update_self _ _ _).symm.trans suspended
        · rw [proceeds, progressed] at suspended
          cases (Function.update_self _ _ _).symm.trans suspended
          rcases stretch.restores informed taken visits with
            ⟨_, _, left⟩ | ⟨_, _, raised⟩ |
              ⟨document, record, progress, _, known, stored, computed, _,
                restores⟩
          · cases progressed.symm.trans left
          · cases progressed.symm.trans raised
          · cases progressed.symm.trans computed
            exact ⟨document, record, known, stored, restores⟩
        · rw [proceeds, progressed] at suspended
          have next := (Function.update_self _ _ _).symm.trans suspended
          cases later <;> cases next
      · apply keeps
        obtain ⟨next, tasks⟩ := tasks_proceed before
          (outcome program before.world)
        rw [proceeds, tasks, Function.update_of_ne same]
  | @calling task tool world program locks stretch proceeds elsewhere =>
      by_cases same : other = task
      · subst same
        rcases progressed : outcome program world with
          ⟨raised | next | result, final⟩
        · rw [proceeds, progressed] at suspended
          cases (Function.update_self _ _ _).symm.trans suspended
        · rw [proceeds, progressed] at suspended
          cases (Function.update_self _ _ _).symm.trans suspended
        · rw [proceeds, progressed] at suspended
          cases (Function.update_self _ _ _).symm.trans suspended
      · apply keeps
        obtain ⟨next, tasks⟩ := tasks_proceedCall
          { before with locks := locks } (outcome program world)
        rw [proceeds, tasks, Function.update_of_ne same]
  | dying died elsewhere =>
      subst died
      exact keeps rfl

theorem informed_of_runs
    (reaches :
      Reaches watchedStep (fun _ _ => True) (machine.restart, [])
        (after, history)) : after.Informed history := by
  have nothing : ∀ (machine : Machine) history,
      machine.restart.Informed history := by
    intro machine history task ns lock identity startup rest entries stage
      found
    cases found
  have invariant : ∀ state : Machine × List (TaskId × StateDocument),
      Reaches watchedStep (fun _ _ => True) (machine.restart, []) state →
        state.1.Informed state.2 := by
    intro state reaches
    apply reaches.invariant
    · exact nothing machine []
    · rintro ⟨before, history⟩ action ⟨after, later⟩ informed _ taken
      obtain ⟨stepped, extended⟩ := monitor_eq_some.mp taken
      have whole : later = history ++ before.entrances action after := extended
      subst whole
      cases action with
      | none =>
          cases stepped
          exact nothing before _
      | some action => exact informed_step informed stepped
  exact invariant (after, history) reaches

/-! ## The reports -/

/-- The task that runs the stretch. -/
theorem stretch_of_visit (taken : step before action = some after)
    {ns : Namespace} {operation : Operation} {program : ServiceM Progress}
    (visits : before.visit action = some ⟨ns, operation, program⟩) :
    ∃ task lock rest entries,
      (action = .enter task ∨ ∃ reply, action = .reply task reply) ∧
        before.Stretch task ns lock operation rest entries program ∧
        after.world = (outcome program before.world).2 := by
  cases action with
  | enter task =>
      obtain ⟨home, lock, block, found, turn, rfl⟩ := step_enter.mp taken
      cases block with
      | operation operation rest entries =>
          simp only [visit, found, Option.some.injEq, Visit.mk.injEq] at visits
          obtain ⟨rfl, rfl, rfl⟩ := visits
          exact ⟨task, lock, rest, entries, .inl rfl, .first found turn,
            proceed_world ..⟩
      | callStart mountedName => simp [visit, found] at visits
      | callFinish result => simp [visit, found] at visits
  | reply task reply =>
      obtain ⟨home, lock, operation, rest, entries, stage, found, free, rfl⟩ :=
        step_reply.mp taken
      simp only [visit, found, Option.some.injEq, Visit.mk.injEq] at visits
      obtain ⟨rfl, rfl, rfl⟩ := visits
      exact ⟨task, lock, rest, entries, .inr ⟨reply, rfl⟩,
        .later reply found free, proceed_world ..⟩
  | _ => cases visits

/-- In every run, whatever else goes on: the entry of a restore and its audit
event list only scopes that were allowed before, if and only if every scope
loaded before was itself allowed. -/
theorem restore_reports_iff
    (reaches :
      Reaches watchedStep (fun _ _ => True) (machine.restart, [])
        (before, history))
    (taken : step before action = some after)
    {ns : Namespace} {identity startup : Bool} {program : ServiceM Progress}
    (visits :
      before.visit action = some ⟨ns, .restore identity startup, program⟩)
    {result : RestoreResult}
    (reports : .restored result ∈ before.reports action) :
    ∃ task document record,
      (action = .enter task ∨ ∃ reply, action = .reply task reply) ∧
        lastFound (history ++ before.entrances (some action) after) task =
          some document ∧
        document.getToolset ns = some record ∧ result.ns = ns ∧
        (ReportsOnlyAllowed record identity startup result before.world
            after.world ↔
          ∀ scope ∈ record.loadedScopes,
            RestoreAllowed record identity startup scope) := by
  obtain ⟨task, lock, rest, entries, acts, stretch, world⟩ :=
    stretch_of_visit taken visits
  simp only [Machine.reports, visits] at reports
  rcases stretch.restores (informed_of_runs reaches) taken visits with
    ⟨_, _, left⟩ | ⟨_, _, raised⟩ |
      ⟨document, record, progress, final, known, stored, computed, gains,
        restores⟩
  · rw [left] at reports
    cases List.mem_singleton.mp reports
  · rw [raised] at reports
    cases reports
  · rw [computed] at reports world
    cases progress with
    | inside stage => cases reports
    | left more =>
        obtain ⟨rfl, scopes⟩ := restores result reports
        refine ⟨task, document, record, acts, known, stored, rfl, ?_⟩
        rw [world]
        exact reportsOnlyAllowed_iff scopes gains

end Machine

namespace Machine

section Ascii

open scoped Ascii

/-- A toolset whose session scope may be restored is activated for a session,
and the process is restarted. -/
def sessionLost : List (Option Action) :=
  [some (.request
     (.registerToolset "restore_stdio" (.ok { command := "python" })
       { title := "Restore"
         description := "Restored"
         restorableScopes := some ["session"]
         restoreRequiresIdentity := false })),
   some (.acquire 0), some (.enter 0),
   some (.request (.activateToolsets ["restore_stdio"] "session" true)),
   some (.acquire 1), some (.enter 1), some (.reply 1 (.ok [])),
   none]

/-- It is restored explicitly. -/
def sessionRestored : List (Option Action) :=
  sessionLost ++
    [some (.request (.restoreToolsets ["restore_stdio"] false false)),
     some (.acquire 0), some (.enter 0)]

/-- It is activated for the thread before it is restored explicitly. -/
def threadRestored : List (Option Action) :=
  sessionLost ++
    [some (.request (.activateToolsets ["restore_stdio"] "thread" true)),
     some (.acquire 0), some (.enter 0), some (.reply 0 (.ok [])),
     some (.request (.restoreToolsets ["restore_stdio"] false false)),
     some (.acquire 1)]

/-- The action runs an explicit restore of the toolset. -/
def restoring (machine : Machine) (action : Action) : Bool :=
  (machine.visit action).any fun visit =>
    match visit.operation with
    | .restore false false => visit.ns == "restore_stdio"
    | _ => false

theorem visit_of_restoring {machine : Machine} {action : Action}
    (restores : machine.restoring action = true) :
    ∃ program,
      machine.visit action =
        some ⟨"restore_stdio", .restore false false, program⟩ := by
  obtain ⟨⟨ns, operation, program⟩, visits, explicit⟩ :=
    (Option.any_eq_true _ _).mp restores
  split at explicit
  · rename_i same
    cases same
    cases eq_of_beq explicit
    exact ⟨program, visits⟩
  · cases explicit

/-- The scopes the stretch reports as restored. -/
def restoredBy (machine : Machine) (action : Action) : List (List Scope) :=
  (machine.reports action).filterMap fun entry =>
    match entry with
    | .restored result => some result.restoredScopes
    | _ => none

theorem reported_of_restoredBy {machine : Machine} {action : Action}
    {scopes : List Scope} (member : scopes ∈ machine.restoredBy action) :
    ∃ result, .restored result ∈ machine.reports action ∧
      result.restoredScopes = scopes := by
  obtain ⟨entry, reported, shape⟩ := List.mem_filterMap.mp member
  split at shape
  · cases shape
    exact ⟨_, reported, rfl⟩
  · cases shape

/-- After the restart nothing is loaded, so the report is right. -/
theorem restore_reports_iff_session :
    ∃ before history after program result,
      Reaches watchedStep (fun _ _ => True) (firstProcess {}, [])
          (before, history) ∧
        step before (.reply 0 (.ok [])) = some after ∧
        before.visit (.reply 0 (.ok [])) =
          some ⟨"restore_stdio", .restore false false, program⟩ ∧
        .restored result ∈ before.reports (.reply 0 (.ok [])) ∧
        result.restoredScopes = [.session] ∧
        ∃ task document record,
          lastFound
              (history ++ before.entrances (some (.reply 0 (.ok []))) after)
              task = some document ∧
            document.getToolset "restore_stdio" = some record ∧
            (ReportsOnlyAllowed record false false result before.world
                after.world ↔
              ∀ scope ∈ record.loadedScopes,
                RestoreAllowed record false false scope) := by
  obtain ⟨⟨before, history⟩, reaches, moves, restores, listed⟩ :=
    exists_reaches_of_execute sessionRestored
      (by decide +kernel :
        (execute watchedStep (fun _ _ => True) (firstProcess {}, []) _).any
          (fun state =>
            (step state.1 (.reply 0 (.ok []))).isSome = true ∧
              state.1.restoring (.reply 0 (.ok [])) = true ∧
              [.session] ∈ state.1.restoredBy (.reply 0 (.ok []))) = true)
  obtain ⟨after, taken⟩ := Option.isSome_iff_exists.mp moves
  obtain ⟨program, visits⟩ := visit_of_restoring restores
  obtain ⟨result, reported, scopes⟩ := reported_of_restoredBy listed
  obtain ⟨task, document, record, _, found, stored, _, reportsIff⟩ :=
    restore_reports_iff reaches taken visits reported
  exact ⟨before, history, after, program, result, reaches, taken, visits,
    reported, scopes, task, document, record, found, stored, reportsIff⟩

/-- The runtime of the thread is reused, and the restore reports the thread,
which may not be restored. -/
theorem thread_reported_restored :
    ∃ before history after program result document record,
      Reaches watchedStep (fun _ _ => True) (firstProcess {}, [])
          (before, history) ∧
        step before (.enter 1) = some after ∧
        before.visit (.enter 1) =
          some ⟨"restore_stdio", .restore false false, program⟩ ∧
        .restored result ∈ before.reports (.enter 1) ∧
        lastFound (history ++ before.entrances (some (.enter 1)) after) 1 =
          some document ∧
        document.getToolset "restore_stdio" = some record ∧
        .thread ∈ result.restoredScopes ∧
        ¬ RestoreAllowed record false false .thread ∧
        ¬ ReportsOnlyAllowed record false false result before.world
            after.world := by
  obtain ⟨⟨before, history⟩, reaches, moves, restores, listed, unrecorded⟩ :=
    exists_reaches_of_execute threadRestored
      (by decide +kernel :
        (execute watchedStep (fun _ _ => True) (firstProcess {}, []) _).any
          (fun state =>
            (step state.1 (.enter 1)).isSome = true ∧
              state.1.restoring (.enter 1) = true ∧
              [.thread, .session] ∈ state.1.restoredBy (.enter 1) ∧
              (state.1.world.record "restore_stdio").any
                (fun record => .thread ∉ record.restorableScopes) = true) =
          true)
  obtain ⟨after, taken⟩ := Option.isSome_iff_exists.mp moves
  obtain ⟨program, visits⟩ := visit_of_restoring restores
  obtain ⟨result, reported, scopes⟩ := reported_of_restoredBy listed
  obtain ⟨record, stored, without⟩ := (Option.any_eq_true _ _).mp unrecorded
  have unrestorable : ¬ RestoreAllowed record false false .thread := by
    intro allowed
    exact (of_decide_eq_true without) allowed.restorable
  have found :
      lastFound (history ++ before.entrances (some (.enter 1)) after) 1 =
        some before.world.document := by
    unfold entrances
    rw [lastFound_concat, if_pos rfl]
  have thread : .thread ∈ result.restoredScopes := by simp [scopes]
  refine ⟨before, history, after, program, result, _, record, reaches, taken,
    visits, reported, found, stored, thread, unrestorable, ?_⟩
  intro reports
  exact unrestorable (reports.entry .thread thread)

end Ascii

end Machine

end ToolboxMcp
