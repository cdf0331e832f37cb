import ToolboxMcp.RecordForms
import ToolboxMcp.Service.Calls
import ToolboxMcp.Service.Frames
import ToolboxMcp.Service.Requests
import ToolboxMcp.Service.Startup

/-!
# What the service writes

The validator runs when the state file is loaded.  Records are edited in place
afterwards and saved as they are, so that every edit has to leave a record the
next load accepts.  This file goes through the programs of the service: each
keeps the file readable and suspends only with a readable record in hand.
-/

namespace ToolboxMcp

open Effect

/-- The validator accepts every record and returns it as it is. -/
def StateDocument.Readable (document : StateDocument) : Prop :=
  ∀ record ∈ document.toolsets, validateScopePolicy record = .ok record

namespace World

/-- So are the document of now and all documents written before. -/
structure Readable (world : World) : Prop where
  current : world.document.Readable
  earlier : ∀ document ∈ world.written, document.Readable

theorem Readable.wellFormed {world : World} (readable : world.Readable)
    {ns : Namespace} {record : ToolsetRecord}
    (found : world.record ns = some record) : WellFormed record := by
  have member : record ∈ world.document.toolsets :=
    KeyedList.mem_of_lookup _ found
  exact validateScopePolicy_eq_self.mp (readable.current record member)

theorem Readable.of_same {before after : World}
    (readable : before.Readable)
    (document : after.document = before.document)
    (written : after.written = before.written) : after.Readable := by
  constructor
  · rw [document]
    exact readable.current
  · rw [written]
    exact readable.earlier

end World

/-- The scopes an opening will add are supported. -/
def Opening.Permits (record : ToolsetRecord) : Opening → Prop
  | .activate scope => scope ∈ record.supportedScopes
  | .restore candidates _ =>
      ∀ scope ∈ candidates, scope ∈ record.supportedScopes
  | .refresh .. => True

/-- A record the block will write is well formed. -/
def Stage.Readable : Stage → Prop
  | .opening body record _ => WellFormed record ∧ body.Permits record
  | .swapping _ body record _ => WellFormed record ∧ body.Permits record
  | .deactivating _ _ _ record => WellFormed record
  | .unregistering .. => True
  | .probing .. => True
  | .aborting .. => True
  | .unhealthy .. => True

def Progress.Readable : Progress → Prop
  | .inside stage => stage.Readable
  | .left _ => True

/-- The program keeps the file readable. -/
abbrev KeepsReadable {α : Type} (program : ServiceM α) (good : α → Prop) :
    Prop :=
  Maintains World.Readable program good

/-! ## Store effects -/

section Store

theorem readable_storeWrite {change : StateDocument → StateDocument}
    (preserved : ∀ document : StateDocument,
      document.Readable → (change document).Readable) :
    KeepsReadable (storeWrite change) fun _ => True := by
  intro world readable
  rw [wp_storeWrite]
  cases world.nextFault with
  | some exception =>
      exact readable.of_same rfl rfl
  | none =>
      have changed := preserved world.document readable.current
      refine ⟨⟨changed, ?_⟩, trivial⟩
      intro document member
      rcases List.mem_cons.mp member with same | earlier
      · rw [same]
        exact changed
      · exact readable.earlier document earlier

theorem readable_utcNow : KeepsReadable utcNow fun _ => True := by
  intro world readable
  rw [wp_utcNow]
  exact ⟨readable.of_same rfl rfl, trivial⟩

theorem readable_upsertToolset {record : ToolsetRecord}
    (wellFormed : WellFormed record) :
    KeepsReadable (upsertToolset record) fun _ => True := by
  apply readable_storeWrite
  intro document readable stored member
  rcases KeyedList.mem_upsert _ member with same | earlier
  · rw [same]
    exact validateScopePolicy_eq_self.mpr wellFormed
  · exact readable stored earlier

theorem readable_replaceSchemaSnapshot (snapshot : SchemaSnapshot) :
    KeepsReadable (replaceSchemaSnapshot snapshot) fun _ => True :=
  readable_storeWrite fun _ readable => readable

theorem readable_appendAuditEvent
    (operation : AuditOperation) (outcome : AuditOutcome)
    (ns : Option Namespace) (scope : Option Scope)
    (details : List (String × Json)) (error : Option ErrorInfo) :
    KeepsReadable
      (appendAuditEvent operation outcome ns scope details error)
      fun _ => True := by
  refine maintains_bind readable_utcNow fun timestamp _ => ?_
  exact readable_storeWrite fun _ readable => readable

theorem readable_tryExcept {α : Type} {program : ServiceM α}
    {good : α → Prop} (readable : KeepsReadable program good) :
    KeepsReadable (tryExcept program) fun result =>
      ∀ value, result = .ok value → good value :=
  maintains_attempt readable

theorem readable_rejected
    (operation : AuditOperation) (ns : Namespace) (scope : Option Scope)
    (error : ErrorInfo) :
    KeepsReadable (rejected operation ns scope error) Progress.Readable :=
  maintains_bind (readable_appendAuditEvent _ _ _ _ _ _) fun _ _ =>
    maintains_pure trivial

theorem readable_left (entries : List Entry) :
    KeepsReadable (pure (.left entries)) Progress.Readable :=
  maintains_pure trivial

end Store

/-! ## The transport manager -/

section Transport

theorem readable_finishClose {α : Type}
    (closing : Closing) (reply : Except Raised α) :
    KeepsReadable (finishClose closing reply) fun _ => True := by
  intro world readable
  have closed : (world.markDone closing.runtime).Readable :=
    readable.of_same rfl rfl
  rw [wp_finishClose]
  cases closing.raises reply with
  | some raised =>
      exact closed
  | none =>
      exact ⟨closed, trivial⟩

theorem readable_swapRuntime (ns : Namespace) (runtime : RuntimeId) :
    KeepsReadable (swapRuntime ns runtime) fun _ => True := by
  intro world readable
  rw [wp_swapRuntime]
  cases world.runtimes.get ns with
  | some existing =>
      exact ⟨readable.of_same rfl rfl, trivial⟩
  | none =>
      exact ⟨readable.of_same rfl rfl, trivial⟩

theorem readable_disconnect (ns : Namespace) :
    KeepsReadable (disconnect ns) fun _ => True := by
  intro world readable
  rw [wp_disconnect]
  cases world.runtimes.get ns with
  | some existing =>
      exact ⟨readable.of_same rfl rfl, trivial⟩
  | none =>
      exact ⟨readable, trivial⟩

end Transport

/-! ## Record updates -/

section Records

variable {ns : Namespace} {record : ToolsetRecord}

theorem readable_recordRuntimeFailure
    (code message staleReason : String) (details : Option Json) :
    KeepsReadable
      (recordRuntimeFailure ns code message staleReason details)
      fun _ => True := by
  refine maintains_bind maintains_get fun world readable => ?_
  cases found : world.record ns with
  | none =>
      exact maintains_pure trivial
  | some record =>
      have failed : ∀ error,
          WellFormed
            (failedRuntimeRecord record (world.hasConnection ns)
              staleReason error) :=
        fun _ => (readable.wellFormed found).congr rfl
      exact maintains_bind (readable_upsertToolset (failed _)) fun _ _ =>
        maintains_pure trivial

theorem readable_recordHealthObservation
    (status : HealthStatus) (observedSchemaHash : Option String)
    (observedToolCount : Option Nat) (error : Option ErrorInfo) :
    KeepsReadable
      (recordHealthObservation ns status observedSchemaHash
        observedToolCount error)
      fun _ => True := by
  refine maintains_bind maintains_get fun world readable => ?_
  cases found : world.record ns with
  | none =>
      exact maintains_throw _
  | some record =>
      refine maintains_bind readable_utcNow fun now _ => ?_
      have wellFormed :
          WellFormed
            (observedRecord record (world.hasConnection ns) status
              observedSchemaHash observedToolCount error now) :=
        (readable.wellFormed found).congr rfl
      exact maintains_bind (readable_upsertToolset wellFormed) fun _ _ =>
        maintains_pure trivial

theorem readable_finishDeactivate (scope : Scope) (force : Bool)
    (wellFormed : WellFormed record) :
    KeepsReadable (finishDeactivate ns scope force record)
      Progress.Readable := by
  refine maintains_bind (readable_upsertToolset wellFormed) fun _ _ => ?_
  refine maintains_bind (readable_appendAuditEvent _ _ _ _ _ _)
    fun _ _ => ?_
  exact readable_left _

theorem readable_finishUnregister (force disconnected : Bool) :
    KeepsReadable (finishUnregister ns force disconnected)
      Progress.Readable := by
  refine maintains_bind (readable_storeWrite fun _ readable => readable)
    fun _ _ => ?_
  refine maintains_bind (readable_storeWrite fun _ readable => readable)
    fun _ _ => ?_
  have deleted : ∀ document : StateDocument,
      document.Readable → (document.deleteToolset ns).Readable := by
    intro document readable record member
    exact readable record (KeyedList.mem_of_mem_erase _ member)
  refine maintains_bind (readable_storeWrite deleted) fun _ _ => ?_
  refine maintains_bind
    (maintains_modify fun world readable => readable.of_same rfl rfl)
    fun _ _ => ?_
  refine maintains_bind (readable_appendAuditEvent _ _ _ _ _ _)
    fun _ _ => ?_
  cases disconnected with
  | true =>
      exact readable_left _
  | false =>
      exact readable_left _

end Records

/-! ## Openings -/

section Openings

variable [Platform] {ns : Namespace} {record : ToolsetRecord}

omit [Platform] in
theorem wellFormed_announced (opening : Opening)
    (wellFormed : WellFormed record) :
    WellFormed (opening.announced record) := by
  cases opening with
  | activate scope =>
      exact wellFormed.congr rfl
  | restore candidates startup =>
      exact wellFormed.congr rfl
  | refresh scope previousTools oldHash =>
      exact wellFormed

omit [Platform] in
theorem wellFormed_failedRecord (opening : Opening) (error : ErrorInfo)
    (connected : Bool) (wellFormed : WellFormed record) :
    WellFormed (opening.failedRecord record error connected) := by
  cases opening with
  | activate scope =>
      exact wellFormed.congr rfl
  | restore candidates startup =>
      exact wellFormed.congr rfl
  | refresh scope previousTools oldHash =>
      exact wellFormed.congr rfl

omit [Platform] in
theorem wellFormed_completedRecord {opening : Opening}
    (snapshot : SchemaSnapshot) (now : Time)
    (wellFormed : WellFormed record) (permits : opening.Permits record) :
    WellFormed (opening.completedRecord record snapshot now) := by
  cases opening with
  | activate scope =>
      have started : WellFormed
          { installed record snapshot record.schemaHash now with
            lastActivatedAt := some now } := wellFormed.congr rfl
      exact started.activated permits
  | restore candidates startup =>
      have started : WellFormed
          { installed record snapshot record.schemaHash now with
            lastRestoredAt := some now } := wellFormed.congr rfl
      exact started.addScopes permits
  | refresh scope previousTools oldHash =>
      exact wellFormed.congr rfl

omit [Platform] in
theorem permits_announced {opening : Opening}
    (permits : opening.Permits record) :
    opening.Permits (opening.announced record) := by
  cases opening with
  | activate scope =>
      exact permits
  | restore candidates startup =>
      exact permits
  | refresh scope previousTools oldHash =>
      trivial

omit [Platform] in
theorem readable_announce (opening : Opening)
    (wellFormed : WellFormed record) :
    KeepsReadable (opening.announce record) fun _ => True := by
  have announced : WellFormed
      { record with transportState := .connecting } := wellFormed.congr rfl
  cases opening with
  | activate scope =>
      exact readable_upsertToolset announced
  | restore candidates startup =>
      exact readable_upsertToolset announced
  | refresh scope previousTools oldHash =>
      exact maintains_pure trivial

omit [Platform] in
theorem readable_failed (opening : Opening) (exception : PyException)
    (wellFormed : WellFormed record) :
    KeepsReadable (opening.failed ns record exception) fun _ => True := by
  refine maintains_bind maintains_get fun world _ => ?_
  have failed := wellFormed_failedRecord opening
    (opening.failure ns exception) (world.hasConnection ns) wellFormed
  refine maintains_bind (readable_upsertToolset failed) fun _ _ => ?_
  have audited :
      KeepsReadable
        (opening.auditFailure ns record (opening.failure ns exception))
        fun _ => True := by
    cases opening with
    | activate scope =>
        exact readable_appendAuditEvent _ _ _ _ _ _
    | restore candidates startup =>
        exact readable_appendAuditEvent _ _ _ _ _ _
    | refresh scope previousTools oldHash =>
        exact readable_appendAuditEvent _ _ _ _ _ _
  exact maintains_bind audited fun _ _ => maintains_pure trivial

omit [Platform] in
theorem readable_leftFailed (opening : Opening) (exception : PyException)
    (wellFormed : WellFormed record) (report : List Entry → List Entry) :
    KeepsReadable
      (do
        let failed ← opening.failed ns record exception
        return .left (report failed))
      Progress.Readable :=
  maintains_bind (readable_failed opening exception wellFormed)
    fun _ _ => readable_left _

theorem readable_knownSchemaHash (ns : Namespace) (record : ToolsetRecord)
    (tools : List Tool) :
    KeepsReadable (knownSchemaHash ns record tools) fun _ => True := by
  unfold knownSchemaHash
  split
  · exact maintains_pure trivial
  · split
    · exact maintains_pure trivial
    · exact maintains_throw _

theorem readable_complete (opening : Opening) (snapshot : SchemaSnapshot)
    (wellFormed : WellFormed record) (permits : opening.Permits record) :
    KeepsReadable (opening.complete ns record snapshot)
      Progress.Readable := by
  refine maintains_bind readable_utcNow fun now _ => ?_
  have completed := wellFormed_completedRecord snapshot now wellFormed
    permits
  have stored := readable_tryExcept <|
    maintains_bind (readable_upsertToolset completed) fun _ _ =>
      readable_replaceSchemaSnapshot snapshot
  refine maintains_bind stored fun result _ => ?_
  cases result with
  | error exception =>
      exact readable_leftFailed opening exception completed id
  | ok value =>
      have audited :
          KeepsReadable
            (opening.auditSuccess ns
              (opening.completedRecord record snapshot now) snapshot)
            fun _ => True := by
        cases opening with
        | activate scope =>
            exact readable_appendAuditEvent _ _ _ _ _ _
        | restore candidates startup =>
            exact readable_appendAuditEvent _ _ _ _ _ _
        | refresh scope previousTools oldHash =>
            exact readable_appendAuditEvent _ _ _ _ _ _
      refine maintains_bind (readable_tryExcept audited) fun result _ => ?_
      cases result with
      | error exception =>
          exact readable_leftFailed opening exception completed _
      | ok value =>
          exact readable_left _

omit [Platform] in
theorem readable_begin (opening : Opening)
    (wellFormed : WellFormed record) (permits : opening.Permits record) :
    KeepsReadable (opening.begin ns record) Progress.Readable := by
  have announced := wellFormed_announced opening wellFormed
  refine maintains_bind
    (readable_tryExcept (readable_announce opening wellFormed))
    fun result _ => ?_
  cases result with
  | error exception =>
      exact readable_leftFailed opening exception announced id
  | ok value =>
      refine maintains_bind maintains_get fun world readable => ?_
      have spawned : (world.spawnRuntime ns).Readable :=
        readable.of_same rfl rfl
      refine maintains_bind (maintains_set spawned) fun _ _ => ?_
      exact maintains_pure ⟨announced, permits_announced permits⟩

theorem readable_landRuntime (runtime : RuntimeId) (reply : Reply) :
    KeepsReadable (landRuntime ns runtime reply) fun _ => True := by
  refine maintains_bind maintains_get fun world readable => ?_
  split
  · exact maintains_throw _
  · have ended : (world.markDone runtime).Readable :=
      readable.of_same rfl rfl
    exact maintains_bind (maintains_set ended) fun _ _ => maintains_throw _
  · rename_i tools normalized landed
    have listed : (world.setTools runtime tools).Readable :=
      readable.of_same rfl rfl
    refine maintains_bind (maintains_set listed) fun _ _ => ?_
    have built : KeepsReadable (buildSnapshot ns normalized)
        fun _ => True :=
      maintains_bind readable_utcNow fun _ _ => maintains_pure trivial
    refine maintains_bind built fun snapshot _ => ?_
    exact maintains_bind (readable_swapRuntime ns runtime)
      fun _ _ => maintains_pure trivial

theorem readable_resumeOpening (opening : Opening) (runtime : RuntimeId)
    (reply : Reply) (wellFormed : WellFormed record)
    (permits : opening.Permits record) :
    KeepsReadable (resumeOpening ns opening record runtime reply)
      Progress.Readable := by
  refine maintains_bind
    (readable_tryExcept (readable_landRuntime runtime reply))
    fun result _ => ?_
  split
  · exact readable_leftFailed opening _ wellFormed id
  · exact maintains_pure ⟨wellFormed, permits⟩
  · exact readable_complete opening _ wellFormed permits

theorem readable_resumeSwapping (closing : Closing) (opening : Opening)
    (snapshot : SchemaSnapshot) (reply : Reply)
    (wellFormed : WellFormed record) (permits : opening.Permits record) :
    KeepsReadable
      (resumeSwapping ns closing opening record snapshot reply)
      Progress.Readable := by
  refine maintains_bind
    (readable_tryExcept (readable_finishClose closing reply))
    fun result _ => ?_
  cases result with
  | error exception =>
      exact readable_leftFailed opening exception wellFormed id
  | ok value =>
      exact readable_complete opening snapshot wellFormed permits

end Openings

/-! ## The operations -/

section Operations

variable [Platform] {ns : Namespace}

theorem readable_activateReusing {record : ToolsetRecord} {scope : Scope}
    (tools : List Tool) (wellFormed : WellFormed record)
    (supported : scope ∈ record.supportedScopes) :
    KeepsReadable (activateReusing ns scope record tools)
      Progress.Readable := by
  refine maintains_bind readable_utcNow fun now _ => ?_
  have reused : WellFormed (activateReused record scope now) :=
    (wellFormed.activated supported).congr rfl
  refine maintains_bind (readable_upsertToolset reused) fun _ _ => ?_
  refine maintains_bind (readable_appendAuditEvent _ _ _ _ _ _)
    fun _ _ => ?_
  have hashed := readable_knownSchemaHash ns
    (activateReused record scope now) tools
  exact maintains_bind hashed fun _ _ => readable_left _

theorem readable_restoreReusing {record : ToolsetRecord}
    {missing : List Scope} (startup : Bool) (tools : List Tool)
    (wellFormed : WellFormed record)
    (supported : ∀ scope ∈ missing, scope ∈ record.supportedScopes) :
    KeepsReadable (restoreReusing ns missing startup record tools)
      Progress.Readable := by
  refine maintains_bind readable_utcNow fun now _ => ?_
  have reused : WellFormed (restoreReused record missing now) :=
    (wellFormed.addScopes supported).congr rfl
  refine maintains_bind (readable_upsertToolset reused) fun _ _ => ?_
  have hashed := readable_knownSchemaHash ns
    (restoreReused record missing now) tools
  refine maintains_bind hashed fun _ _ => ?_
  exact maintains_bind (readable_appendAuditEvent _ _ _ _ _ _)
    fun _ _ => readable_left _

theorem readable_startActivate (scope : Scope) (ifNotLoaded : Bool) :
    KeepsReadable (startActivate ns scope ifNotLoaded)
      Progress.Readable := by
  refine maintains_bind maintains_get fun world readable => ?_
  cases found : world.record ns with
  | none =>
      exact readable_rejected _ _ _ _
  | some record =>
      have wellFormed := readable.wellFormed found
      by_cases supports : supportsScope record scope = true
      · have supported : scope ∈ record.supportedScopes :=
          of_decide_eq_true supports
        simp only [supports, Bool.not_true, Bool.false_eq_true, if_false]
        cases reusableRuntime world ns record scope with
        | some runtime =>
            exact readable_activateReusing _ wellFormed supported
        | none =>
            simp only
            split
            · exact readable_left _
            · exact readable_begin (.activate scope) wellFormed supported
      · simp only [supports, Bool.not_false, if_true]
        exact readable_rejected _ _ _ _

omit [Platform] in
theorem readable_startRefresh (ifStale : Bool) (scope : Option Scope) :
    KeepsReadable (startRefresh ns ifStale scope) Progress.Readable := by
  refine maintains_bind maintains_get fun world readable => ?_
  cases found : world.record ns with
  | none =>
      exact readable_rejected _ _ _ _
  | some record =>
      have wellFormed := readable.wellFormed found
      simp only
      split
      · exact readable_left _
      · split
        · exact readable_left _
        · split
          · exact readable_left _
          · exact readable_begin (.refresh _ _ _) wellFormed trivial

theorem readable_startRestore (stableHostIdentity startup : Bool) :
    KeepsReadable (startRestore ns stableHostIdentity startup)
      Progress.Readable := by
  refine maintains_bind maintains_get fun world readable => ?_
  cases found : world.record ns with
  | none =>
      exact readable_rejected _ _ _ _
  | some record =>
      have wellFormed := readable.wellFormed found
      have offered : ∀ scope ∈
          recoveryScopes record stableHostIdentity (!startup),
          scope ∈ record.supportedScopes :=
        fun scope member => (mem_recoveryScopes record scope member).2.2
      simp only
      split
      · exact readable_left _
      · cases world.runtimeFor ns with
        | some runtime =>
            simp only
            split
            · exact readable_left _
            · apply readable_restoreReusing _ _ wellFormed
              intro scope missing
              exact offered scope (List.mem_of_mem_filter missing)
        | none =>
            exact readable_begin (.restore _ _) wellFormed offered

omit [Platform] in
theorem wellFormed_toRecord {registration : Registration}
    {transport : ToolsetTransport} {record : ToolsetRecord}
    (accepted : registration.toRecord ns transport = .ok record) :
    WellFormed record := by
  obtain ⟨_, draft, validated⟩ := validated_of_toRecord accepted
  exact wellFormed_of_validated validated

theorem readable_startRegister (transport : ToolsetTransport)
    (registration : Registration) :
    KeepsReadable (startRegister ns transport registration)
      Progress.Readable := by
  refine maintains_bind maintains_get fun world _ => ?_
  cases world.record ns with
  | some record =>
      exact readable_rejected _ _ _ _
  | none =>
      cases accepted : registration.toRecord ns transport with
      | error message =>
          exact readable_rejected _ _ _ _
      | ok record =>
          have wellFormed := wellFormed_toRecord accepted
          refine maintains_bind (readable_upsertToolset wellFormed)
            fun _ _ => ?_
          exact maintains_bind (readable_appendAuditEvent _ _ _ _ _ _)
            fun _ _ => readable_left _

omit [Platform] in
theorem readable_startDeactivate (scope : Scope) (force : Bool) :
    KeepsReadable (startDeactivate ns scope force) Progress.Readable := by
  refine maintains_bind maintains_get fun world readable => ?_
  cases found : world.record ns with
  | none =>
      exact readable_rejected _ _ _ _
  | some record =>
      have reduced : WellFormed
          (removeRecoverableScope (removeScope record scope) scope) :=
        (readable.wellFormed found).withoutScope scope
      have deactivated : WellFormed
          (deactivatedRecord
            (removeRecoverableScope (removeScope record scope) scope)) :=
        reduced.congr rfl
      simp only
      split
      · exact readable_left _
      · split
        · exact readable_rejected _ _ _ _
        · split
          · refine maintains_bind (readable_disconnect ns)
              fun closing _ => ?_
            cases closing with
            | some closing =>
                exact maintains_pure reduced
            | none =>
                exact readable_finishDeactivate _ _ deactivated
          · exact readable_finishDeactivate _ _ reduced

omit [Platform] in
theorem readable_startUnregister (force : Bool) :
    KeepsReadable (startUnregister ns force) Progress.Readable := by
  refine maintains_bind maintains_get fun world _ => ?_
  cases world.record ns with
  | none =>
      exact readable_rejected _ _ _ _
  | some record =>
      simp only
      split
      · exact readable_finishUnregister _ _
      · split
        · exact readable_rejected _ _ _ _
        · split
          · exact readable_rejected _ _ _ _
          · refine maintains_bind (readable_disconnect ns)
              fun closing _ => ?_
            cases closing with
            | some closing =>
                exact maintains_pure trivial
            | none =>
                exact readable_finishUnregister _ _

omit [Platform] in
theorem readable_startClearStale :
    KeepsReadable (startClearStale ns) Progress.Readable := by
  refine maintains_bind maintains_get fun world readable => ?_
  cases found : world.record ns with
  | none =>
      exact readable_rejected _ _ _ _
  | some record =>
      have cleared : WellFormed
          (clearedRecord record (world.hasConnection ns)) :=
        (readable.wellFormed found).congr rfl
      simp only
      split
      · exact readable_left _
      · refine maintains_bind (readable_upsertToolset cleared)
          fun _ _ => ?_
        exact maintains_bind (readable_appendAuditEvent _ _ _ _ _ _)
          fun _ _ => readable_left _

omit [Platform] in
theorem readable_startMarkStale (reason : String) :
    KeepsReadable (startMarkStale ns reason) Progress.Readable := by
  refine maintains_bind maintains_get fun world readable => ?_
  cases found : world.record ns with
  | none =>
      exact readable_left _
  | some record =>
      have marked : WellFormed (markedRecord record reason) :=
        (readable.wellFormed found).congr rfl
      exact maintains_bind (readable_upsertToolset marked)
        fun _ _ => readable_left _

/-! ## Health checks -/

omit [Platform] in
theorem readable_reportUnhealthy (scope : Option Scope)
    (record : ToolsetRecord) (status : HealthStatus)
    (code message staleReason : String) (drift : List (String × Json))
    (observed : Option (String × Nat)) :
    KeepsReadable
      (reportUnhealthy ns scope record status code message staleReason drift
        observed)
      Progress.Readable := by
  refine maintains_bind (readable_recordRuntimeFailure _ _ _ _)
    fun error _ => ?_
  refine maintains_bind (readable_recordHealthObservation _ _ _ _)
    fun result _ => ?_
  exact maintains_bind (readable_appendAuditEvent _ _ _ _ _ _)
    fun _ _ => readable_left _

omit [Platform] in
theorem readable_startCheckHealth (scope : Option Scope) :
    KeepsReadable (startCheckHealth ns scope) Progress.Readable := by
  refine maintains_bind maintains_get fun world _ => ?_
  cases world.record ns with
  | none =>
      exact readable_rejected _ _ _ _
  | some record =>
      simp only
      split
      · exact readable_left _
      · split
        · exact readable_left _
        · cases world.runtimeFor ns with
          | some runtime =>
              exact maintains_pure trivial
          | none =>
              exact readable_reportUnhealthy _ _ _ _ _ _ _ _

omit [Platform] in
theorem readable_probeFailed (scope : Option Scope)
    (record : ToolsetRecord) (exception : PyException) :
    KeepsReadable (probeFailed ns scope record exception)
      Progress.Readable := by
  refine maintains_bind (readable_disconnect ns) fun closing _ => ?_
  cases closing with
  | some closing =>
      exact maintains_pure trivial
  | none =>
      exact readable_reportUnhealthy _ _ _ _ _ _ _ _

theorem readable_probeAnswered (scope : Option Scope)
    (record : ToolsetRecord) (normalized : List ToolSchema) :
    KeepsReadable (probeAnswered ns scope record normalized)
      Progress.Readable := by
  unfold probeAnswered
  simp only
  split
  · exact readable_reportUnhealthy _ _ _ _ _ _ _ _
  · refine maintains_bind (readable_recordHealthObservation _ _ _ _)
      fun result _ => ?_
    exact maintains_bind (readable_appendAuditEvent _ _ _ _ _ _)
      fun _ _ => readable_left _

theorem readable_resumeProbing (scope : Option Scope)
    (record : ToolsetRecord) (runtime : RuntimeId) (reply : Reply) :
    KeepsReadable (resumeProbing ns scope record runtime reply)
      Progress.Readable := by
  unfold resumeProbing
  split
  · split
    · exact readable_probeAnswered _ _ _
    · exact readable_probeFailed _ _ _
  · split
    · exact maintains_bind
        (maintains_modify fun world readable => readable.of_same rfl rfl)
        fun _ _ => maintains_pure trivial
    · exact readable_probeFailed _ _ _
  · exact maintains_throw _

omit [Platform] in
theorem readable_resumeAborting (scope : Option Scope)
    (record : ToolsetRecord) (runtime : RuntimeId) (reply : Reply) :
    KeepsReadable (resumeAborting ns scope record runtime reply)
      Progress.Readable := by
  refine maintains_bind maintains_get fun world readable => ?_
  have ended : (world.markDone runtime).Readable := readable.of_same rfl rfl
  refine maintains_bind (maintains_set ended) fun _ _ => ?_
  split
  · exact maintains_throw _
  · exact readable_probeFailed _ _ _

theorem readable_start (operation : Operation) :
    KeepsReadable (start operation ns) Progress.Readable := by
  cases operation with
  | register transport registration =>
      exact readable_startRegister transport registration
  | activate scope ifNotLoaded =>
      exact readable_startActivate scope ifNotLoaded
  | refresh ifStale scope =>
      exact readable_startRefresh ifStale scope
  | deactivate scope force =>
      exact readable_startDeactivate scope force
  | restore stableHostIdentity startup =>
      exact readable_startRestore stableHostIdentity startup
  | checkHealth scope =>
      exact readable_startCheckHealth scope
  | clearStale =>
      exact readable_startClearStale
  | markStale reason =>
      exact readable_startMarkStale reason
  | unregister force =>
      exact readable_startUnregister force

theorem readable_resume {stage : Stage} (reply : Reply)
    (readable : stage.Readable) :
    KeepsReadable (resume ns stage reply) Progress.Readable := by
  cases stage with
  | opening opening record runtime =>
      exact readable_resumeOpening opening runtime reply readable.1 readable.2
  | swapping closing opening record snapshot =>
      exact readable_resumeSwapping closing opening snapshot reply readable.1
        readable.2
  | deactivating closing scope force record =>
      have deactivated : WellFormed (deactivatedRecord record) :=
        WellFormed.congr readable rfl
      exact maintains_bind (readable_finishClose closing reply)
        fun _ _ => readable_finishDeactivate _ _ deactivated
  | unregistering closing force =>
      exact maintains_bind (readable_finishClose closing reply)
        fun _ _ => readable_finishUnregister _ _
  | probing scope record runtime =>
      exact readable_resumeProbing scope record runtime reply
  | aborting scope record runtime =>
      exact readable_resumeAborting scope record runtime reply
  | unhealthy closing scope record exception =>
      exact maintains_bind (readable_finishClose closing reply)
        fun _ _ => readable_reportUnhealthy _ _ _ _ _ _ _ _

end Operations

/-! ## Requests and calls -/

section Requests

variable [Platform]

omit [Platform] in
theorem readable_refuse (operation : AuditOperation) (error : ErrorInfo) :
    KeepsReadable (refuse operation error) fun _ => True :=
  maintains_bind (readable_appendAuditEvent _ _ _ _ _ _)
    fun _ _ => maintains_pure trivial

theorem readable_accept (request : Request) :
    KeepsReadable (accept request) fun _ => True := by
  have admits : ∀ (operation : Operation)
      (namespaces : World → List Namespace),
      KeepsReadable
        (do
          let world ← get
          return Admission.admitted operation (namespaces world))
        fun _ => True :=
    fun _ _ => maintains_bind maintains_get fun _ _ => maintains_pure trivial
  cases request with
  | registerToolset ns transport registration =>
      simp only [accept, acceptRegister]
      split
      · exact readable_refuse _ _
      · split
        · exact readable_refuse _ _
        · exact maintains_pure trivial
  | activateToolsets namespaces scope ifNotLoaded =>
      simp only [accept]
      split
      · exact maintains_pure trivial
      · exact readable_refuse _ _
  | refreshToolsets namespaces ifStale scope =>
      simp only [accept]
      split
      · exact admits _ _
      · exact readable_refuse _ _
  | deactivateToolsets namespaces scope force =>
      simp only [accept]
      split
      · exact maintains_pure trivial
      · exact readable_refuse _ _
  | restoreToolsets namespaces stableHostIdentity startup =>
      exact admits _ _
  | checkToolsetHealth namespaces scope =>
      simp only [accept]
      split
      · exact admits _ _
      · exact readable_refuse _ _
  | clearStaleToolsets namespaces =>
      exact admits _ _
  | markToolsetStale ns reason =>
      exact maintains_pure trivial
  | unregisterToolsets namespaces force =>
      exact maintains_pure trivial

end Requests

section Calls

variable {tool : MountedTool}

theorem readable_locateCall (mountedName : String) :
    KeepsReadable (locateCall mountedName) fun _ => True := by
  refine maintains_bind maintains_get fun world _ => ?_
  split
  · exact maintains_pure trivial
  · exact maintains_throw _

theorem readable_admitCall (mountedName : String) :
    KeepsReadable (admitCall mountedName) fun _ => True := by
  refine maintains_bind maintains_get fun world readable => ?_
  split
  · rename_i tool resolved
    have counted : (world.noteCallStarted tool.ns).Readable :=
      readable.of_same rfl rfl
    exact maintains_bind (maintains_set counted)
      fun _ _ => maintains_pure trivial
  · exact maintains_throw _

theorem readable_finishCallFailure (exception : PyException) :
    KeepsReadable (finishCallFailure tool exception) fun _ => True := by
  refine maintains_bind (readable_recordRuntimeFailure _ _ _ _)
    fun error _ => ?_
  refine maintains_bind maintains_get fun world _ => ?_
  exact maintains_bind (readable_appendAuditEvent _ _ _ _ _ _)
    fun _ _ => maintains_throw _

theorem readable_callFailed (exception : PyException) :
    KeepsReadable (callFailed tool exception) fun _ => True := by
  refine maintains_bind (readable_disconnect tool.ns) fun closing _ => ?_
  cases closing with
  | some closing =>
      exact maintains_pure trivial
  | none =>
      exact readable_finishCallFailure exception

theorem readable_dispatchCall :
    KeepsReadable (dispatchCall tool) fun _ => True := by
  refine maintains_bind maintains_get fun world _ => ?_
  split
  · exact maintains_pure trivial
  · exact readable_callFailed _

theorem readable_resumeCall (stage : CallStage)
    (reply : Except Raised CallToolResult) :
    KeepsReadable (resumeCall tool stage reply) fun _ => True := by
  cases stage with
  | calling runtime =>
      simp only [resumeCall]
      split
      · exact maintains_pure trivial
      · split
        · exact maintains_bind
            (maintains_modify
              fun world readable => readable.of_same rfl rfl)
            fun _ _ => maintains_pure trivial
        · exact readable_callFailed _
      · exact maintains_throw _
  | aborting runtime =>
      refine maintains_bind maintains_get fun world readable => ?_
      have ended : (world.markDone runtime).Readable :=
        readable.of_same rfl rfl
      refine maintains_bind (maintains_set ended) fun _ _ => ?_
      split
      · exact maintains_throw _
      · exact readable_callFailed _
  | disconnecting closing exception =>
      exact maintains_bind (readable_finishClose closing reply)
        fun _ _ => readable_finishCallFailure exception

end Calls

/-! ## Process start -/

section Start

theorem wellFormed_fakeToolset (config : HostConfig) :
    WellFormed (fakeToolset config) where
  default_supported := List.mem_cons_self
  loaded_supported := fun _ member => by cases member
  restorable_supported := fun _ member => by cases member
  thread_not_restorable := List.not_mem_nil
  recoverable_restorable := fun _ member => by cases member
  supported := canonicalScopes_all
  restorable := CanonicalScopes.nil
  recoverable := CanonicalScopes.nil
  loaded := CanonicalScopes.nil

theorem wellFormed_reconciledRecord {record : ToolsetRecord}
    (wellFormed : WellFormed record) :
    WellFormed (reconciledRecord record) where
  default_supported := wellFormed.default_supported
  loaded_supported := fun _ member => by cases member
  restorable_supported := wellFormed.restorable_supported
  thread_not_restorable := wellFormed.thread_not_restorable
  recoverable_restorable := by
    intro scope member
    simp only [reconciledRecord] at member ⊢
    split at member
    · simpa using (List.mem_filter.mp member).2
    · exact wellFormed.recoverable_restorable scope member
  supported := wellFormed.supported
  restorable := wellFormed.restorable
  recoverable := by
    simp only [reconciledRecord]
    split
    · exact wellFormed.loaded.filter _
    · exact wellFormed.recoverable
  loaded := CanonicalScopes.nil

theorem readable_bootstrapDefaults :
    KeepsReadable bootstrapDefaults fun _ => True := by
  refine maintains_bind maintains_get fun world _ => ?_
  split
  · exact maintains_pure trivial
  · exact readable_upsertToolset (wellFormed_fakeToolset world.config)

theorem readable_reconcileRecords {records : List ToolsetRecord}
    (wellFormed : ∀ record ∈ records, WellFormed record) :
    KeepsReadable (reconcileRecords records) fun _ => True := by
  induction records with
  | nil =>
      exact maintains_pure trivial
  | cons record rest inductionHypothesis =>
      have first := wellFormed record List.mem_cons_self
      have later := inductionHypothesis fun other member =>
        wellFormed other (List.mem_cons_of_mem _ member)
      unfold reconcileRecords
      split
      · have reconciled := wellFormed_reconciledRecord first
        exact maintains_bind (readable_upsertToolset reconciled)
          fun _ _ => later
      · exact later

theorem readable_startService :
    KeepsReadable startService fun _ => True := by
  refine maintains_bind
    (maintains_modify fun world readable => readable.of_same rfl rfl)
    fun _ _ => ?_
  refine maintains_bind readable_bootstrapDefaults fun _ _ => ?_
  refine maintains_bind maintains_get fun world readable => ?_
  apply readable_reconcileRecords
  intro record member
  exact validateScopePolicy_eq_self.mp (readable.current record member)

end Start

end ToolboxMcp
