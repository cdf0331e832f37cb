import ToolboxMcp.Service.Agreement

/-!
# What a stretch depends on

Every piece of a lifecycle block, run in two worlds that agree on its namespace,
ends alike in worlds that agree.  The two runs are executed side by side.
-/

namespace ToolboxMcp

open Effect

def SchemaSnapshot.retime (snapshot : SchemaSnapshot) (time : Time) :
    SchemaSnapshot :=
  { snapshot with capturedAt := time }

/-- Two closings of replaced runtimes. -/
structure ClosingAlike (ns : Namespace) (left right : World)
    (closing closing' : Closing) : Prop where
  commanded : closing.commanded = closing'.commanded
  apart : left.runtimes.get ns ≠ some closing.runtime
  apart' : right.runtimes.get ns ≠ some closing'.runtime

/-- Two tasks are suspended at the same point. -/
inductive StageAlike (ns : Namespace) (left right : World) :
    Stage → Stage → Prop where
  | opening (purpose : Opening) {record : ToolsetRecord} {times : Times}
      {runtime other : RuntimeId}
      (named : record.ns = ns)
      (alike : left.objects runtime = right.objects other)
      (below : runtime < left.nextRuntime)
      (below' : other < right.nextRuntime)
      (apart : left.runtimes.get ns ≠ some runtime)
      (apart' : right.runtimes.get ns ≠ some other) :
      StageAlike ns left right (.opening purpose record runtime)
        (.opening purpose (record.retime times) other)
  | swapping (purpose : Opening) {record : ToolsetRecord} {times : Times}
      {snapshot : SchemaSnapshot} {time : Time} {closing closing' : Closing}
      (named : record.ns = ns) (captured : snapshot.ns = ns)
      (closes : ClosingAlike ns left right closing closing') :
      StageAlike ns left right (.swapping closing purpose record snapshot)
        (.swapping closing' purpose (record.retime times)
          (snapshot.retime time))
  | deactivating (scope : Scope) (force : Bool) {record record' : ToolsetRecord}
      {closing closing' : Closing}
      (named : record.ns = ns) (named' : record'.ns = ns)
      (alike : record.untimed = record'.untimed)
      (closes : ClosingAlike ns left right closing closing') :
      StageAlike ns left right (.deactivating closing scope force record)
        (.deactivating closing' scope force record')
  | unregistering (force : Bool) {closing closing' : Closing}
      (closes : ClosingAlike ns left right closing closing') :
      StageAlike ns left right (.unregistering closing force)
        (.unregistering closing' force)
  | probing (scope : Option Scope) {record : ToolsetRecord} {times : Times}
      {runtime other : RuntimeId}
      (mounted : left.runtimes.get ns = some runtime)
      (mounted' : right.runtimes.get ns = some other) :
      StageAlike ns left right (.probing scope record runtime)
        (.probing scope (record.retime times) other)
  | aborting (scope : Option Scope) {record : ToolsetRecord} {times : Times}
      {runtime other : RuntimeId}
      (mounted : left.runtimes.get ns = some runtime)
      (mounted' : right.runtimes.get ns = some other) :
      StageAlike ns left right (.aborting scope record runtime)
        (.aborting scope (record.retime times) other)
  | unhealthy (scope : Option Scope) (exception : PyException)
      {record : ToolsetRecord} {times : Times} {closing closing' : Closing}
      (closes : ClosingAlike ns left right closing closing') :
      StageAlike ns left right (.unhealthy closing scope record exception)
        (.unhealthy closing' scope (record.retime times) exception)

def ProgressAlike (ns : Namespace) :
    Progress → Progress → World → World → Prop
  | .inside stage, .inside stage', left, right =>
      Agree ns left right ∧ StageAlike ns left right stage stage'
  | .left _, .left _, left, right => Agree ns left right
  | _, _, _, _ => False

/-- Both end at the same point, in worlds that agree. -/
abbrev Matched (ns : Namespace) (first second : ServiceM Progress)
    (left right : World) : Prop :=
  wpBoth first second (ProgressAlike ns) (fun _ => Agree ns) left right

/-! ## Transport -/

section Transport

variable {ns : Namespace} {left right : World} {closing closing' : Closing}
  {raised : Raised → World → World → Prop}

theorem ClosingAlike.raises {α : Type}
    (closes : ClosingAlike ns left right closing closing')
    (reply : Except Raised α) :
    closing'.raises reply = closing.raises reply := by
  unfold Closing.raises
  rw [closes.commanded]

theorem finishClose_both {α : Type} {reply : Except Raised α}
    {post : Unit → Unit → World → World → Prop}
    (agree : Agree ns left right)
    (closes : ClosingAlike ns left right closing closing')
    (later : ∀ left right, Agree ns left right → post () () left right)
    (broken : ∀ exception left right, Agree ns left right →
      raised exception left right) :
    wpBoth (finishClose closing reply) (finishClose closing' reply) post raised
      left right := by
  have settled := agree.markDone closes.apart closes.apart'
  unfold finishClose
  apply wpBoth_bind
  rw [wpBoth_modify, closes.raises]
  cases closing.raises reply with
  | some exception =>
      exact (wpBoth_throw _ _ _ _ _).mpr (broken _ _ _ settled)
  | none =>
      exact later _ _ settled

theorem disconnect_both
    {post : Option Closing → Option Closing → World → World → Prop}
    (agree : Agree ns left right)
    (unmounted : post none none left right)
    (later : ∀ closing closing' left right, Agree ns left right →
      ClosingAlike ns left right closing closing' →
      post (some closing) (some closing') left right) :
    wpBoth (disconnect ns) (disconnect ns) post raised left right := by
  unfold disconnect
  apply wpBoth_bind
  rw [wpBoth_get]
  rcases agree.runtime_cases with
    ⟨mine, other⟩ | ⟨mine, other, here, there, alike⟩
  · simp only [World.mounted, mine, other]
    exact unmounted
  · simp only [World.mounted, here, there]
    have running : left.isRunning mine = right.isRunning other := by
      unfold World.isRunning
      rw [alike]
    apply later ⟨mine, left.isRunning mine⟩ ⟨other, right.isRunning other⟩ _ _
      (agree.disconnect mine other)
    refine ⟨running, ?_, ?_⟩
    · simp [Dict.get_pop]
    · simp [Dict.get_pop]

end Transport

/-! ## Records -/

section Records

variable {ns : Namespace} {record : ToolsetRecord} {times : Times}
  {left right : World}

theorem rejected_alike {operation : AuditOperation} {scope : Option Scope}
    {error : ErrorInfo} (agree : Agree ns left right) :
    Matched ns (rejected operation ns scope error)
      (rejected operation ns scope error) left right := by
  unfold rejected
  apply wpBoth_bind
  apply appendAuditEvent_both agree
  exact fun _ _ => id

theorem finishDeactivate_alike {scope : Scope} {force : Bool}
    {record' : ToolsetRecord} (agree : Agree ns left right)
    (named : record.ns = ns) (named' : record'.ns = ns)
    (alike : record.untimed = record'.untimed) :
    Matched ns (finishDeactivate ns scope force record)
      (finishDeactivate ns scope force record') left right := by
  unfold finishDeactivate
  apply wpBoth_bind
  apply upsertToolset_both agree named named' alike
  intro left right agree
  apply wpBoth_bind
  apply appendAuditEvent_both agree
  exact fun _ _ => id

theorem untimed_deactivatedRecord {record' : ToolsetRecord}
    (alike : record.untimed = record'.untimed) :
    (deactivatedRecord record).untimed =
      (deactivatedRecord record').untimed := by
  obtain ⟨times, rfl⟩ := exists_retime alike
  rfl

theorem finishUnregister_alike {force disconnected : Bool}
    (agree : Agree ns left right) :
    Matched ns (finishUnregister ns force disconnected)
      (finishUnregister ns force disconnected) left right := by
  have removes : ∀ {world : World}, world.Reliable →
      wp (finishUnregister ns force disconnected)
        (fun progress after =>
          Removed ns world after ∧ ∃ entries, progress = .left entries)
        (fun _ _ => False) world := by
    intro world reliable
    apply finishUnregister_rule
    · exact fun entries after removed _ => ⟨removed, entries, rfl⟩
    · exact fun _ _ unreliable _ => unreliable reliable
  rcases wp_cases (removes agree.leftReady.reliable) with
    ⟨_, middle, computed, removed, entries, rfl⟩ | ⟨_, _, _, broken⟩
  · rcases wp_cases (removes agree.rightReady.reliable) with
      ⟨_, middle', computed', removed', entries', rfl⟩ | ⟨_, _, _, broken⟩
    · unfold Matched wpBoth
      rw [computed, computed']
      exact agree.removed removed removed'
    · cases broken
  · cases broken

theorem recordRuntimeFailure_both
    {code message staleReason : String} {details : Option Json}
    {post : Option ErrorInfo → Option ErrorInfo → World → World → Prop}
    {raised : Raised → World → World → Prop}
    (agree : Agree ns left right)
    (later : ∀ error left right, Agree ns left right →
      post error error left right) :
    wpBoth (recordRuntimeFailure ns code message staleReason details)
      (recordRuntimeFailure ns code message staleReason details) post raised
      left right := by
  unfold recordRuntimeFailure
  apply wpBoth_bind
  rw [wpBoth_get]
  rcases agree.record_cases with
    ⟨mine, other⟩ | ⟨record, times, named, mine, other⟩
  · simp only [World.record, mine, other]
    exact later none left right agree
  · simp only [World.record, mine, other]
    apply wpBoth_bind
    rw [agree.hasConnection]
    refine upsertToolset_both agree (by exact named) (by exact named) rfl ?_
    exact fun left right agree => later _ left right agree

theorem recordHealthObservation_both
    {status : HealthStatus} {observedSchemaHash : Option String}
    {observedToolCount : Option Nat} {error : Option ErrorInfo}
    {post : HealthCheckResult → HealthCheckResult → World → World → Prop}
    (agree : Agree ns left right)
    (later : ∀ result result' left right, Agree ns left right →
      post result result' left right) :
    wpBoth
      (recordHealthObservation ns status observedSchemaHash observedToolCount
        error)
      (recordHealthObservation ns status observedSchemaHash observedToolCount
        error)
      post (fun _ => Agree ns) left right := by
  unfold recordHealthObservation
  apply wpBoth_bind
  rw [wpBoth_get]
  rcases agree.record_cases with
    ⟨mine, other⟩ | ⟨record, times, named, mine, other⟩
  · simp only [World.record, mine, other]
    exact (wpBoth_throw _ _ _ _ _).mpr agree
  · simp only [World.record, mine, other]
    apply wpBoth_bind
    apply utcNow_both agree
    intro ticked now now'
    apply wpBoth_bind
    rw [agree.hasConnection]
    refine upsertToolset_both ticked (by exact named) (by exact named) rfl ?_
    exact fun left right agree => later _ _ left right agree

theorem reportUnhealthy_alike {scope : Option Scope} {status : HealthStatus}
    {code message staleReason : String} {drift : List (String × Json)}
    {observed : Option (String × Nat)} (agree : Agree ns left right) :
    Matched ns
      (reportUnhealthy ns scope record status code message staleReason drift
        observed)
      (reportUnhealthy ns scope (record.retime times) status code message
        staleReason drift observed)
      left right := by
  unfold reportUnhealthy
  apply wpBoth_bind
  apply recordRuntimeFailure_both agree
  intro error left right agree
  apply wpBoth_bind
  apply recordHealthObservation_both agree
  intro result result' left right agree
  apply wpBoth_bind
  apply appendAuditEvent_both agree
  exact fun _ _ => id

end Records

/-! ## Openings -/

section Openings

variable [Platform] {ns : Namespace} {record : ToolsetRecord} {times : Times}
  {left right : World}

omit [Platform] in
theorem announce_both {purpose : Opening}
    {post : Unit → Unit → World → World → Prop}
    {raised : Raised → World → World → Prop}
    (agree : Agree ns left right) (named : record.ns = ns)
    (later : ∀ left right, Agree ns left right → post () () left right) :
    wpBoth (purpose.announce record) (purpose.announce (record.retime times))
      post raised left right := by
  cases purpose with
  | refresh scope previousTools oldHash =>
      exact later left right agree
  | activate scope =>
      exact upsertToolset_both agree named named rfl later
  | restore candidates startup =>
      exact upsertToolset_both agree named named rfl later

omit [Platform] in
theorem retime_announced (purpose : Opening) :
    purpose.announced (record.retime times) =
      (purpose.announced record).retime times := by
  cases purpose <;> rfl

omit [Platform] in
theorem begin_alike (purpose : Opening) (agree : Agree ns left right)
    (named : record.ns = ns) :
    Matched ns (purpose.begin ns record)
      (purpose.begin ns (record.retime times)) left right := by
  unfold Opening.begin
  apply wpBoth_bind
  apply wpBoth_attempt
  apply announce_both agree named
  intro left right agree
  apply wpBoth_bind
  rw [wpBoth_get]
  apply wpBoth_bind
  rw [wpBoth_set, retime_announced]
  have fresh : ∀ {world : World}, world.Ready ns →
      world.runtimes.get ns ≠ some world.nextRuntime := by
    intro world ready mounted
    exact absurd (ready.below _ mounted) (Nat.lt_irrefl _)
  refine ⟨agree.spawnRuntime ns, .opening purpose ?_ ?_ ?_ ?_ ?_ ?_⟩
  · simpa using named
  · simp
  · exact Nat.lt_succ_self _
  · exact Nat.lt_succ_self _
  · exact fresh agree.leftReady
  · exact fresh agree.rightReady

omit [Platform] in
theorem auditFailure_both {purpose : Opening} {error : ErrorInfo}
    {record' : ToolsetRecord} {post : Unit → Unit → World → World → Prop}
    {raised : Raised → World → World → Prop}
    (agree : Agree ns left right)
    (later : ∀ left right, Agree ns left right → post () () left right) :
    wpBoth (purpose.auditFailure ns record error)
      (purpose.auditFailure ns record' error) post raised left right := by
  cases purpose <;> exact appendAuditEvent_both agree later

theorem auditSuccess_both {purpose : Opening}
    {snapshot snapshot' : SchemaSnapshot} {record' : ToolsetRecord}
    {post : Unit → Unit → World → World → Prop}
    {raised : Raised → World → World → Prop}
    (agree : Agree ns left right)
    (later : ∀ left right, Agree ns left right → post () () left right) :
    wpBoth (purpose.auditSuccess ns record snapshot)
      (purpose.auditSuccess ns record' snapshot') post raised left right := by
  cases purpose <;> exact appendAuditEvent_both agree later

omit [Platform] in
theorem untimed_failedRecord (purpose : Opening) (error : ErrorInfo)
    (connected : Bool) :
    (purpose.failedRecord (record.retime times) error connected).untimed =
      (purpose.failedRecord record error connected).untimed := by
  cases purpose <;> rfl

omit [Platform] in
theorem failed_both {purpose : Opening} {exception : PyException}
    {post : List Entry → List Entry → World → World → Prop}
    {raised : Raised → World → World → Prop}
    (agree : Agree ns left right) (named : record.ns = ns)
    (later : ∀ entries left right, Agree ns left right →
      post entries entries left right) :
    wpBoth (purpose.failed ns record exception)
      (purpose.failed ns (record.retime times) exception) post raised left
      right := by
  unfold Opening.failed
  apply wpBoth_bind
  rw [wpBoth_get]
  apply wpBoth_bind
  rw [agree.hasConnection]
  apply upsertToolset_both agree (by simpa using named) (by simpa using named)
    (untimed_failedRecord purpose _ _).symm
  intro left right agree
  apply wpBoth_bind
  apply auditFailure_both agree
  exact fun left right agree => later _ left right agree

omit [Platform] in
theorem untimed_completedRecord (purpose : Opening)
    (snapshot : SchemaSnapshot) (time now now' : Time) :
    (purpose.completedRecord record snapshot now).untimed =
      (purpose.completedRecord (record.retime times) (snapshot.retime time)
        now').untimed := by
  cases purpose with
  | activate scope =>
      simp only [Opening.completedRecord, untimed_addRecoverableScope,
        untimed_addScope]
      rfl
  | restore candidates startup =>
      simp only [Opening.completedRecord, untimed_addScopes]
      rfl
  | refresh scope previousTools oldHash =>
      rfl

theorem complete_alike (purpose : Opening) {snapshot : SchemaSnapshot}
    {time : Time} (agree : Agree ns left right) (named : record.ns = ns)
    (captured : snapshot.ns = ns) :
    Matched ns (purpose.complete ns record snapshot)
      (purpose.complete ns (record.retime times) (snapshot.retime time)) left
      right := by
  unfold Opening.complete
  apply wpBoth_bind
  apply utcNow_both agree
  intro ticked now now'
  apply wpBoth_bind
  apply wpBoth_attempt
  apply wpBoth_bind
  apply upsertToolset_both ticked (by simpa using named)
    (by simpa using named)
    (untimed_completedRecord purpose snapshot time now now')
  intro left right agree
  have captured' : (snapshot.retime time).ns = ns := captured
  apply replaceSchemaSnapshot_both agree captured captured' rfl
  intro left right agree
  apply wpBoth_bind
  apply wpBoth_attempt
  apply auditSuccess_both agree
  exact fun _ _ => id

theorem buildSnapshot_both {tools : List ToolSchema}
    {post : SchemaSnapshot → SchemaSnapshot → World → World → Prop}
    {raised : Raised → World → World → Prop}
    (later : ∀ snapshot time, snapshot.ns = ns →
      post snapshot (snapshot.retime time) left.tick right.tick) :
    wpBoth (buildSnapshot ns tools) (buildSnapshot ns tools) post raised left
      right :=
  later
    { ns := ns
      schemaHash := inventoryHash tools
      toolCount := tools.length
      tools := tools
      capturedAt := left.clock }
    right.clock rfl

/-- Runtimes that are alike take the namespace over. -/
theorem swapRuntime_both {runtime other : RuntimeId} {tools : List Tool}
    {post : Option Closing → Option Closing → World → World → Prop}
    {raised : Raised → World → World → Prop}
    (agree : Agree ns left right)
    (alike : left.objects runtime = right.objects other)
    (below : runtime < left.nextRuntime)
    (below' : other < right.nextRuntime)
    (apart : left.runtimes.get ns ≠ some runtime)
    (apart' : right.runtimes.get ns ≠ some other)
    (fresh : ∀ left right, Agree ns left right → post none none left right)
    (replaced : ∀ closing closing' left right, Agree ns left right →
      ClosingAlike ns left right closing closing' →
      post (some closing) (some closing') left right) :
    wpBoth (swapRuntime ns runtime) (swapRuntime ns other) post raised
      (left.setTools runtime tools).tick
      (right.setTools other tools).tick := by
  have landed := agree.landed tools below below' alike
  unfold swapRuntime
  apply wpBoth_bind
  rw [wpBoth_get]
  apply wpBoth_bind
  rw [wpBoth_set]
  rcases agree.runtime_cases with
    ⟨mine, there⟩ | ⟨mine, existing, here, there, same⟩
  · simp only [World.mounted, World.tick_runtimes, World.setTools_runtimes,
      mine, there]
    exact fresh _ _ landed
  · simp only [World.mounted, World.tick_runtimes, World.setTools_runtimes,
      here, there]
    have mounted : ∀ {world : World} {opened : RuntimeId},
        (ToolboxMcp.landed world ns opened tools).runtimes.get ns =
          some opened := by
      intro world opened
      simp [ToolboxMcp.landed, Dict.get_set]
    have left' : (ToolboxMcp.landed left ns runtime tools).runtimes.get ns ≠
        some mine := by
      rw [mounted]
      exact fun also => apart (here.trans also.symm)
    have right' : (ToolboxMcp.landed right ns other tools).runtimes.get ns ≠
        some existing := by
      rw [mounted]
      exact fun also => apart' (there.trans also.symm)
    have running :
        (ToolboxMcp.landed left ns runtime tools).isRunning mine =
          (ToolboxMcp.landed right ns other tools).isRunning existing := by
      have kept : ∀ {world : World} {opened current : RuntimeId},
          (ToolboxMcp.landed world ns opened tools).isRunning current =
            world.isRunning current :=
        isRunning_setTools _ _ tools
      rw [kept, kept]
      unfold World.isRunning
      rw [same]
    exact replaced ⟨mine, _⟩ ⟨existing, _⟩ _ _
      (landed.markClosed left' right') ⟨running, left', right'⟩

theorem landRuntime_both {runtime other : RuntimeId} {reply : Reply}
    {post : SchemaSnapshot × Option Closing → SchemaSnapshot × Option Closing →
      World → World → Prop}
    {raised : Raised → World → World → Prop}
    (agree : Agree ns left right)
    (alike : left.objects runtime = right.objects other)
    (below : runtime < left.nextRuntime)
    (below' : other < right.nextRuntime)
    (apart : left.runtimes.get ns ≠ some runtime)
    (apart' : right.runtimes.get ns ≠ some other)
    (broken : ∀ exception left right, Agree ns left right →
      raised exception left right)
    (fresh : ∀ snapshot time left right, snapshot.ns = ns →
      Agree ns left right →
      post (snapshot, none) (snapshot.retime time, none) left right)
    (replaced : ∀ snapshot time closing closing' left right,
      snapshot.ns = ns → Agree ns left right →
      ClosingAlike ns left right closing closing' →
      post (snapshot, some closing) (snapshot.retime time, some closing') left
        right) :
    wpBoth (landRuntime ns runtime reply) (landRuntime ns other reply) post
      raised left right := by
  unfold landRuntime
  apply wpBoth_bind
  rw [wpBoth_get, agree.config]
  cases bootstrapped ns right.config.budget.bootstrapTimeout reply with
  | error exception =>
      cases exception with
      | cancelled =>
          exact (wpBoth_throw _ _ _ _ _).mpr (broken _ _ _ agree)
      | exception exception =>
          apply wpBoth_bind
          rw [wpBoth_set]
          exact (wpBoth_throw _ _ _ _ _).mpr
            (broken _ _ _ (agree.markDone apart apart'))
  | ok listed =>
      apply wpBoth_bind
      rw [wpBoth_set]
      apply wpBoth_bind
      apply buildSnapshot_both
      intro snapshot time captured
      apply wpBoth_bind
      apply swapRuntime_both agree alike below below' apart apart'
      · exact fun left right agree =>
          fresh snapshot time left right captured agree
      · exact fun closing closing' left right agree closes =>
          replaced snapshot time closing closing' left right captured agree
            closes

theorem resumeOpening_alike {purpose : Opening} {runtime other : RuntimeId}
    {reply : Reply} (agree : Agree ns left right) (named : record.ns = ns)
    (alike : left.objects runtime = right.objects other)
    (below : runtime < left.nextRuntime)
    (below' : other < right.nextRuntime)
    (apart : left.runtimes.get ns ≠ some runtime)
    (apart' : right.runtimes.get ns ≠ some other) :
    Matched ns (resumeOpening ns purpose record runtime reply)
      (resumeOpening ns purpose (record.retime times) other reply) left
      right := by
  unfold resumeOpening
  apply wpBoth_bind
  apply wpBoth_attempt
  apply landRuntime_both agree alike below below' apart apart'
  · intro exception left right agree
    cases exception with
    | cancelled =>
        exact agree
    | exception exception =>
        apply wpBoth_bind
        apply failed_both agree named
        exact fun _ _ _ => id
  · intro snapshot time left right captured agree
    exact complete_alike purpose agree named captured
  · intro snapshot time closing closing' left right captured agree closes
    exact ⟨agree, .swapping purpose named captured closes⟩

theorem resumeSwapping_alike {purpose : Opening} {snapshot : SchemaSnapshot}
    {time : Time} {closing closing' : Closing} {reply : Reply}
    (agree : Agree ns left right) (named : record.ns = ns)
    (captured : snapshot.ns = ns)
    (closes : ClosingAlike ns left right closing closing') :
    Matched ns (resumeSwapping ns closing purpose record snapshot reply)
      (resumeSwapping ns closing' purpose (record.retime times)
        (snapshot.retime time) reply)
      left right := by
  unfold resumeSwapping
  apply wpBoth_bind
  apply wpBoth_attempt
  apply finishClose_both agree closes
  · intro left right agree
    exact complete_alike purpose agree named captured
  · intro exception left right agree
    cases exception with
    | cancelled =>
        exact agree
    | exception exception =>
        apply wpBoth_bind
        apply failed_both agree named
        exact fun _ _ _ => id

end Openings

/-! ## The operations -/

section Operations

variable [Platform] {ns : Namespace} {record : ToolsetRecord} {times : Times}
  {left right : World}

theorem knownSchemaHash_both {tools : List Tool}
    {post : String → String → World → World → Prop}
    (agree : Agree ns left right)
    (later : ∀ hash, post hash hash left right) :
    wpBoth (knownSchemaHash ns record tools)
      (knownSchemaHash ns (record.retime times) tools) post
      (fun _ => Agree ns) left right := by
  have same : (record.retime times).schemaHash = record.schemaHash := rfl
  unfold knownSchemaHash
  rw [same]
  cases record.schemaHash with
  | some hash =>
      exact later hash
  | none =>
      simp only
      cases validateToolInventory ns tools with
      | ok normalized =>
          exact later _
      | error exception =>
          exact (wpBoth_throw _ _ _ _ _).mpr agree

omit [Platform] in
theorem untimed_activateReused (scope : Scope) (now now' : Time) :
    (activateReused record scope now).untimed =
      (activateReused (record.retime times) scope now').untimed := by
  have split : ∀ (record : ToolsetRecord) now,
      (activateReused record scope now).untimed =
        { addRecoverableScope (addScope record.untimed scope) scope with
          transportState := reusedState record } := by
    intro record now
    rw [← untimed_addScope, ← untimed_addRecoverableScope]
    rfl
  rw [split, split]
  rfl

omit [Platform] in
theorem untimed_restoreReused (missing : List Scope) (now now' : Time) :
    (restoreReused record missing now).untimed =
      (restoreReused (record.retime times) missing now').untimed := by
  have split : ∀ (record : ToolsetRecord) now,
      (restoreReused record missing now).untimed =
        { addScopes record.untimed missing with
          transportState := reusedState record } := by
    intro record now
    rw [← untimed_addScopes]
    rfl
  rw [split, split]
  rfl

theorem activateReusing_alike {scope : Scope} {tools : List Tool}
    (agree : Agree ns left right) (named : record.ns = ns) :
    Matched ns (activateReusing ns scope record tools)
      (activateReusing ns scope (record.retime times) tools) left right := by
  unfold activateReusing
  apply wpBoth_bind
  apply utcNow_both agree
  intro ticked now now'
  obtain ⟨later, same⟩ :=
    exists_retime (untimed_activateReused scope now now')
  have reused : (activateReused record scope now).ns = ns := by
    simpa using named
  rw [same]
  apply wpBoth_bind
  apply upsertToolset_both ticked reused (by simpa using reused)
    untimed_retime.symm
  intro left right agree
  apply wpBoth_bind
  apply appendAuditEvent_both agree
  intro left right agree
  apply wpBoth_bind
  apply knownSchemaHash_both agree
  exact fun _ => agree

theorem startActivate_alike {scope : Scope} {ifNotLoaded : Bool}
    (agree : Agree ns left right) :
    Matched ns (startActivate ns scope ifNotLoaded)
      (startActivate ns scope ifNotLoaded) left right := by
  unfold startActivate
  apply wpBoth_bind
  rw [wpBoth_get]
  rcases agree.record_cases with
    ⟨mine, other⟩ | ⟨record, times, named, mine, other⟩
  · simp only [World.record, mine, other]
    exact rejected_alike agree
  · simp only [World.record, mine, other]
    refine wpBoth_ite (fun _ => rejected_alike agree) fun _ => ?_
    have opens : ∀ {runs : Bool},
        Matched ns
          (if runs then
            return .left
              [.skipped ns "already_active" [("scope", .str scope.value)]]
          else (Opening.activate scope).begin ns record)
          (if runs then
            return .left
              [.skipped ns "already_active" [("scope", .str scope.value)]]
          else (Opening.activate scope).begin ns (record.retime times))
          left right :=
      wpBoth_ite (fun _ => agree) fun _ => begin_alike _ agree named
    rcases agree.runtimeFor_cases with
      ⟨idle, idle'⟩ | ⟨runtime, runtime', _, _, runs, runs', alike⟩
    · simp only [reusableRuntime, idle, idle', Option.filter_none]
      exact opens
    · by_cases reuses :
          record.loadedScopes ≠ [] ∧ scope ∉ record.loadedScopes
      · have mine : reusableRuntime left ns record scope = some runtime := by
          simp [reusableRuntime, runs, reuses]
        have other : reusableRuntime right ns (record.retime times) scope =
            some runtime' := by
          simp [reusableRuntime, runs', ToolsetRecord.retime, reuses]
        simp only [mine, other, alike]
        exact activateReusing_alike agree named
      · have mine : reusableRuntime left ns record scope = none := by
          simp only [reusableRuntime, runs, Option.filter]
          exact if_neg fun holds => reuses (of_decide_eq_true holds)
        have other : reusableRuntime right ns (record.retime times) scope =
            none := by
          simp only [reusableRuntime, runs', ToolsetRecord.retime,
            Option.filter]
          exact if_neg fun holds => reuses (of_decide_eq_true holds)
        simp only [mine, other]
        exact opens

omit [Platform] in
theorem startRefresh_alike {ifStale : Bool} {scope : Option Scope}
    (agree : Agree ns left right) :
    Matched ns (startRefresh ns ifStale scope) (startRefresh ns ifStale scope)
      left right := by
  unfold startRefresh
  apply wpBoth_bind
  rw [wpBoth_get]
  rcases agree.record_cases with
    ⟨mine, other⟩ | ⟨record, times, named, mine, other⟩
  · simp only [World.record, mine, other]
    exact rejected_alike agree
  · simp only [World.record, mine, other]
    refine wpBoth_ite (fun _ => agree) fun _ => ?_
    have wanted :
        scope.filter (· ∉ (record.retime times).loadedScopes) =
          scope.filter (· ∉ record.loadedScopes) := rfl
    simp only [wanted]
    cases scope.filter (· ∉ record.loadedScopes) with
    | some wanted =>
        exact agree
    | none =>
        refine wpBoth_ite (fun _ => agree) fun _ => ?_
        have remembered :
            Opening.refresh scope
                (((left.snapshot ns).map SchemaSnapshot.tools).getD [])
                ((left.snapshot ns).map SchemaSnapshot.schemaHash) =
              Opening.refresh scope
                (((right.snapshot ns).map SchemaSnapshot.tools).getD [])
                ((right.snapshot ns).map SchemaSnapshot.schemaHash) := by
          have same := agree.snapshot
          have tools := congrArg (Option.map SchemaSnapshot.tools) same
          have hashes := congrArg (Option.map SchemaSnapshot.schemaHash) same
          simp only [Option.map_map] at tools hashes
          exact congrArg₂ (fun tools hash =>
            Opening.refresh scope (tools.getD []) hash) tools hashes
        rw [remembered]
        exact begin_alike _ agree named

theorem restoreReusing_alike {missing : List Scope} {startup : Bool}
    {tools : List Tool} (agree : Agree ns left right)
    (named : record.ns = ns) :
    Matched ns (restoreReusing ns missing startup record tools)
      (restoreReusing ns missing startup (record.retime times) tools) left
      right := by
  unfold restoreReusing
  apply wpBoth_bind
  apply utcNow_both agree
  intro ticked now now'
  obtain ⟨later, same⟩ :=
    exists_retime (untimed_restoreReused missing now now')
  have reused : (restoreReused record missing now).ns = ns := by
    simpa using named
  rw [same]
  apply wpBoth_bind
  apply upsertToolset_both ticked reused (by simpa using reused)
    untimed_retime.symm
  intro left right agree
  apply wpBoth_bind
  apply knownSchemaHash_both agree
  intro hash
  apply wpBoth_bind
  apply appendAuditEvent_both agree
  exact fun _ _ => id

theorem startRestore_alike {stableHostIdentity startup : Bool}
    (agree : Agree ns left right) :
    Matched ns (startRestore ns stableHostIdentity startup)
      (startRestore ns stableHostIdentity startup) left right := by
  unfold startRestore
  apply wpBoth_bind
  rw [wpBoth_get]
  rcases agree.record_cases with
    ⟨mine, other⟩ | ⟨record, times, named, mine, other⟩
  · simp only [World.record, mine, other]
    exact rejected_alike agree
  · simp only [World.record, mine, other]
    refine wpBoth_ite (fun _ => agree) fun _ => ?_
    rcases agree.runtimeFor_cases with
      ⟨idle, idle'⟩ | ⟨runtime, runtime', _, _, runs, runs', alike⟩
    · simp only [idle, idle']
      exact begin_alike _ agree named
    · simp only [runs, runs', alike]
      exact wpBoth_ite (fun _ => agree) fun _ =>
        restoreReusing_alike agree named

omit [Platform] in
theorem startDeactivate_alike {scope : Scope} {force : Bool}
    (agree : Agree ns left right) :
    Matched ns (startDeactivate ns scope force) (startDeactivate ns scope force)
      left right := by
  unfold startDeactivate
  apply wpBoth_bind
  rw [wpBoth_get]
  rcases agree.record_cases with
    ⟨mine, other⟩ | ⟨record, times, named, mine, other⟩
  · simp only [World.record, mine, other]
    exact rejected_alike agree
  · simp only [World.record, mine, other]
    refine wpBoth_ite (fun _ => agree) fun _ => ?_
    rw [agree.inFlight]
    refine wpBoth_ite (fun _ => rejected_alike agree) fun _ => ?_
    have alike : (withoutScope record scope).untimed =
        (withoutScope (record.retime times) scope).untimed :=
      (untimed_withoutScope scope).symm
    have loaded : (withoutScope record scope).loadedScopes =
        (withoutScope (record.retime times) scope).loadedScopes := by
      have same := congrArg ToolsetRecord.loadedScopes alike
      exact same
    have named' : (withoutScope record scope).ns = ns := by
      simpa [withoutScope] using named
    have named'' : (withoutScope (record.retime times) scope).ns = ns := by
      simpa [withoutScope] using named
    change Matched ns
      (if (withoutScope record scope).loadedScopes.isEmpty then _ else _)
      (if (withoutScope (record.retime times) scope).loadedScopes.isEmpty then
        _ else _) left right
    rw [← loaded]
    refine wpBoth_ite (fun _ => ?_) fun _ =>
      finishDeactivate_alike agree named' named'' alike
    apply wpBoth_bind
    apply disconnect_both agree
    · exact finishDeactivate_alike agree named' named''
        (untimed_deactivatedRecord alike)
    · exact fun closing closing' left right agree closes =>
        ⟨agree, .deactivating scope force named' named'' alike closes⟩

omit [Platform] in
theorem startUnregister_alike {force : Bool} (agree : Agree ns left right) :
    Matched ns (startUnregister ns force) (startUnregister ns force) left
      right := by
  unfold startUnregister
  apply wpBoth_bind
  rw [wpBoth_get]
  rcases agree.record_cases with
    ⟨mine, other⟩ | ⟨record, times, named, mine, other⟩
  · simp only [World.record, mine, other]
    exact rejected_alike agree
  · simp only [World.record, mine, other]
    refine wpBoth_ite (fun _ => finishUnregister_alike agree) fun _ => ?_
    refine wpBoth_ite (fun _ => rejected_alike agree) fun _ => ?_
    rw [agree.inFlight]
    refine wpBoth_ite (fun _ => rejected_alike agree) fun _ => ?_
    apply wpBoth_bind
    apply disconnect_both agree
    · exact finishUnregister_alike agree
    · exact fun closing closing' left right agree closes =>
        ⟨agree, .unregistering force closes⟩

omit [Platform] in
theorem startClearStale_alike (agree : Agree ns left right) :
    Matched ns (startClearStale ns) (startClearStale ns) left right := by
  unfold startClearStale
  apply wpBoth_bind
  rw [wpBoth_get]
  rcases agree.record_cases with
    ⟨mine, other⟩ | ⟨record, times, named, mine, other⟩
  · simp only [World.record, mine, other]
    exact rejected_alike agree
  · simp only [World.record, mine, other]
    refine wpBoth_ite (fun _ => agree) fun _ => ?_
    apply wpBoth_bind
    rw [agree.hasConnection]
    refine upsertToolset_both agree (by exact named) (by exact named) rfl ?_
    intro left right agree
    apply wpBoth_bind
    apply appendAuditEvent_both agree
    exact fun _ _ => id

omit [Platform] in
theorem startCheckHealth_alike {scope : Option Scope}
    (agree : Agree ns left right) :
    Matched ns (startCheckHealth ns scope) (startCheckHealth ns scope) left
      right := by
  unfold startCheckHealth
  apply wpBoth_bind
  rw [wpBoth_get]
  rcases agree.record_cases with
    ⟨mine, other⟩ | ⟨record, times, named, mine, other⟩
  · simp only [World.record, mine, other]
    exact rejected_alike agree
  · simp only [World.record, mine, other]
    refine wpBoth_ite (fun _ => agree) fun _ => ?_
    have wanted :
        scope.filter (· ∉ (record.retime times).loadedScopes) =
          scope.filter (· ∉ record.loadedScopes) := rfl
    simp only [wanted]
    cases scope.filter (· ∉ record.loadedScopes) with
    | some wanted =>
        exact agree
    | none =>
        rcases agree.runtimeFor_cases with
          ⟨idle, idle'⟩ | ⟨runtime, runtime', here, there, runs, runs', _⟩
        · simp only [idle, idle']
          exact reportUnhealthy_alike agree
        · simp only [runs, runs']
          exact ⟨agree, .probing scope here there⟩

omit [Platform] in
theorem finishUnhealthy_alike {scope : Option Scope} {exception : PyException}
    (agree : Agree ns left right) :
    Matched ns (finishUnhealthy ns scope record exception)
      (finishUnhealthy ns scope (record.retime times) exception) left right :=
  reportUnhealthy_alike agree

omit [Platform] in
theorem probeFailed_alike {scope : Option Scope} {exception : PyException}
    (agree : Agree ns left right) :
    Matched ns (probeFailed ns scope record exception)
      (probeFailed ns scope (record.retime times) exception) left right := by
  unfold probeFailed
  apply wpBoth_bind
  apply disconnect_both agree
  · exact finishUnhealthy_alike agree
  · exact fun closing closing' left right agree closes =>
      ⟨agree, .unhealthy scope exception closes⟩

theorem probeAnswered_alike {scope : Option Scope}
    {normalized : List ToolSchema} (agree : Agree ns left right) :
    Matched ns (probeAnswered ns scope record normalized)
      (probeAnswered ns scope (record.retime times) normalized) left right := by
  have same : (record.retime times).schemaHash = record.schemaHash := rfl
  unfold probeAnswered
  simp only [same]
  cases record.schemaHash.filter (· ≠ inventoryHash normalized) with
  | some cachedHash =>
      exact reportUnhealthy_alike agree
  | none =>
      apply wpBoth_bind
      apply recordHealthObservation_both agree
      intro result result' left right agree
      apply wpBoth_bind
      apply appendAuditEvent_both agree
      exact fun _ _ => id

theorem resumeProbing_alike {scope : Option Scope}
    {runtime other : RuntimeId} {reply : Reply} (agree : Agree ns left right)
    (mounted : left.runtimes.get ns = some runtime)
    (mounted' : right.runtimes.get ns = some other) :
    Matched ns (resumeProbing ns scope record runtime reply)
      (resumeProbing ns scope (record.retime times) other reply) left
      right := by
  unfold resumeProbing
  rcases reply with (exception | _) | tools
  · simp only
    refine wpBoth_ite (fun _ => ?_) fun _ => probeFailed_alike agree
    exact ⟨agree.markClosed_mounted mounted mounted',
      .aborting scope mounted mounted'⟩
  · exact (wpBoth_throw _ _ _ _ _).mpr agree
  · simp only
    cases validateToolInventory ns tools with
    | ok normalized =>
        exact probeAnswered_alike agree
    | error exception =>
        exact probeFailed_alike agree

omit [Platform] in
theorem resumeAborting_alike {scope : Option Scope}
    {runtime other : RuntimeId} {reply : Reply} (agree : Agree ns left right)
    (mounted : left.runtimes.get ns = some runtime)
    (mounted' : right.runtimes.get ns = some other) :
    Matched ns (resumeAborting ns scope record runtime reply)
      (resumeAborting ns scope (record.retime times) other reply) left
      right := by
  have settled := agree.markDone_mounted mounted mounted'
  unfold resumeAborting
  apply wpBoth_bind
  rw [wpBoth_get]
  apply wpBoth_bind
  rw [wpBoth_set, agree.config]
  rcases reply with (exception | _) | tools
  · exact probeFailed_alike settled
  · exact (wpBoth_throw _ _ _ _ _).mpr settled
  · exact probeFailed_alike settled

/-- Operations on registered toolsets that wait for no client. -/
def Operation.maintains : Operation → Bool
  | .register .. => false
  | .markStale _ => false
  | _ => true

theorem start_alike {operation : Operation}
    (maintains : operation.maintains = true) (agree : Agree ns left right) :
    Matched ns (start operation ns) (start operation ns) left right := by
  cases operation with
  | register transport registration =>
      cases maintains
  | activate scope ifNotLoaded =>
      exact startActivate_alike agree
  | refresh ifStale scope =>
      exact startRefresh_alike agree
  | deactivate scope force =>
      exact startDeactivate_alike agree
  | restore stableHostIdentity startup =>
      exact startRestore_alike agree
  | checkHealth scope =>
      exact startCheckHealth_alike agree
  | clearStale =>
      exact startClearStale_alike agree
  | markStale reason =>
      cases maintains
  | unregister force =>
      exact startUnregister_alike agree

/-- Two tasks suspended at the same point get the same reply. -/
theorem resume_alike {stage stage' : Stage} (reply : Reply)
    (agree : Agree ns left right)
    (suspended : StageAlike ns left right stage stage') :
    Matched ns (resume ns stage reply) (resume ns stage' reply) left right := by
  cases suspended with
  | opening purpose named alike below below' apart apart' =>
      exact resumeOpening_alike agree named alike below below' apart apart'
  | swapping purpose named captured closes =>
      exact resumeSwapping_alike agree named captured closes
  | deactivating scope force named named' alike closes =>
      refine wpBoth_bind (finishClose_both agree closes ?_ fun _ _ _ => id)
      intro left right agree
      exact finishDeactivate_alike agree named named'
        (untimed_deactivatedRecord alike)
  | unregistering force closes =>
      refine wpBoth_bind (finishClose_both agree closes ?_ fun _ _ _ => id)
      exact fun left right agree => finishUnregister_alike agree
  | probing scope mounted mounted' =>
      exact resumeProbing_alike agree mounted mounted'
  | aborting scope mounted mounted' =>
      exact resumeAborting_alike agree mounted mounted'
  | unhealthy scope exception closes =>
      refine wpBoth_bind (finishClose_both agree closes ?_ fun _ _ _ => id)
      exact fun left right agree => finishUnhealthy_alike agree

end Operations

end ToolboxMcp
