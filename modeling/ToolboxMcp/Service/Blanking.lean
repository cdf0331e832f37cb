import ToolboxMcp.Service.Calls
import ToolboxMcp.Service.Requests
import ToolboxMcp.Service.Startup

/-!
# Programs on blanked transports

`blank` empties the strings among the arguments of a transport and the values
of its environment, and keeps how many there are and the names.  No program
looks at what is emptied: on blanked documents each does what it does on the
documents themselves.  The registration of a toolset shows the rejected input
to the validation library, so that its counterpart is given the text.
-/

namespace ToolboxMcp

open Effect

/-! ## Blanked documents -/

def ToolsetTransport.blank (transport : ToolsetTransport) :
    ToolsetTransport :=
  { transport with
    args := transport.args.map fun _ => ""
    env := transport.env.map fun entry => (entry.1, "") }

def ToolsetRecord.blank (record : ToolsetRecord) : ToolsetRecord :=
  { record with transport := record.transport.blank }

def StateDocument.blank (document : StateDocument) : StateDocument :=
  { document with toolsets := document.toolsets.map ToolsetRecord.blank }

def World.blank (world : World) : World :=
  { world with
    document := world.document.blank
    written := world.written.map StateDocument.blank }

def Stage.blank : Stage → Stage
  | .opening purpose record runtime =>
      .opening purpose record.blank runtime
  | .swapping closing purpose record snapshot =>
      .swapping closing purpose record.blank snapshot
  | .deactivating closing scope force record =>
      .deactivating closing scope force record.blank
  | .unregistering closing force => .unregistering closing force
  | .probing scope record runtime => .probing scope record.blank runtime
  | .aborting scope record runtime => .aborting scope record.blank runtime
  | .unhealthy closing scope record exception =>
      .unhealthy closing scope record.blank exception

def Entry.blank : Entry → Entry
  | .registered record => .registered record.blank
  | entry => entry

def Progress.blank : Progress → Progress
  | .inside stage => .inside stage.blank
  | .left entries => .left (entries.map Entry.blank)

def Operation.blank : Operation → Operation
  | .register transport registration =>
      .register transport.blank registration
  | operation => operation

abbrev Blanks {α α' : Type} (view : α → α') (first : ServiceM α)
    (second : ServiceM α') : Prop :=
  Projects World.blank view first second

theorem ns_blank (record : ToolsetRecord) : record.blank.ns = record.ns :=
  rfl

section Documents

variable (document : StateDocument)

theorem getToolset_blank (ns : Namespace) :
    document.blank.getToolset ns =
      (document.getToolset ns).map ToolsetRecord.blank :=
  KeyedList.lookup_map ns_blank ns document.toolsets

theorem blank_upsertToolset (record : ToolsetRecord) :
    (document.upsertToolset record).blank =
      document.blank.upsertToolset record.blank :=
  congrArg (fun toolsets => { document with toolsets := toolsets })
    (KeyedList.map_upsert ns_blank record document.toolsets)

theorem blank_deleteToolset (ns : Namespace) :
    (document.deleteToolset ns).blank = document.blank.deleteToolset ns :=
  congrArg (fun toolsets => { document with toolsets := toolsets })
    (KeyedList.map_erase ns_blank ns document.toolsets)

end Documents

theorem record_blank (world : World) (ns : Namespace) :
    world.blank.record ns = (world.record ns).map ToolsetRecord.blank :=
  getToolset_blank world.document ns

/-! ## Store and transport -/

section Effects

variable {α : Type} {ns : Namespace}

theorem blanks_storeWrite {change change' : StateDocument → StateDocument}
    (commutes : ∀ document, (change document).blank = change' document.blank) :
    Blanks id (storeWrite change) (storeWrite change') := by
  refine projects_bind projects_get fun world => ?_
  have written : (world.write change).blank =
      world.blank.write change' := by
    unfold World.write World.blank
    rw [← commutes, List.map_cons]
  have faults : world.blank.nextFault = world.nextFault := rfl
  rw [faults]
  cases world.nextFault with
  | some exception =>
      exact projects_bind (projects_set _) fun _ => projects_throw _
  | none =>
      simp only
      rw [← written]
      exact projects_set _

theorem blanks_utcNow : Blanks id utcNow utcNow :=
  projects_bind projects_get fun _ =>
    projects_bind (projects_set _) fun _ => projects_pure _

theorem blanks_upsertToolset (record : ToolsetRecord) :
    Blanks id (upsertToolset record) (upsertToolset record.blank) :=
  blanks_storeWrite fun document => blank_upsertToolset document record

theorem blanks_replaceSchemaSnapshot (snapshot : SchemaSnapshot) :
    Blanks id (replaceSchemaSnapshot snapshot)
      (replaceSchemaSnapshot snapshot) :=
  blanks_storeWrite fun _ => rfl

theorem blanks_appendAuditEvent
    (operation : AuditOperation) (outcome : AuditOutcome)
    (subject : Option Namespace) (scope : Option Scope)
    (details : List (String × Json)) (error : Option ErrorInfo) :
    Blanks id
      (appendAuditEvent operation outcome subject scope details error)
      (appendAuditEvent operation outcome subject scope details error) :=
  projects_bind blanks_utcNow fun _ => blanks_storeWrite fun _ => rfl

theorem blanks_rejected
    (operation : AuditOperation) (scope : Option Scope) (error : ErrorInfo) :
    Blanks Progress.blank (rejected operation ns scope error)
      (rejected operation ns scope error) :=
  projects_bind (blanks_appendAuditEvent _ _ _ _ _ _) fun _ =>
    projects_pure _

theorem blanks_beginClose (runtime : RuntimeId) :
    Blanks id (beginClose runtime) (beginClose runtime) :=
  projects_bind projects_get fun _ =>
    projects_bind (projects_set _) fun _ => projects_pure _

theorem blanks_finishClose (closing : Closing) (reply : Except Raised α) :
    Blanks id (finishClose closing reply) (finishClose closing reply) := by
  refine projects_bind (projects_modify fun _ => rfl) fun _ => ?_
  cases closing.raises reply with
  | some raised =>
      exact projects_throw raised
  | none =>
      exact projects_pure _

theorem blanks_swapRuntime (runtime : RuntimeId) :
    Blanks id (swapRuntime ns runtime) (swapRuntime ns runtime) := by
  refine projects_bind projects_get fun world => ?_
  refine projects_bind (projects_set _) fun _ => ?_
  have mounted : world.blank.mounted ns = world.mounted ns := rfl
  rw [mounted]
  cases world.mounted ns with
  | some existing =>
      exact projects_bind (blanks_beginClose existing) fun _ =>
        projects_pure _
  | none =>
      exact projects_pure _

theorem blanks_disconnect :
    Blanks id (disconnect ns) (disconnect ns) := by
  refine projects_bind projects_get fun world => ?_
  have mounted : world.blank.mounted ns = world.mounted ns := rfl
  rw [mounted]
  cases world.mounted ns with
  | some existing =>
      refine projects_bind (projects_set _) fun _ => ?_
      exact projects_bind (blanks_beginClose existing) fun _ =>
        projects_pure _
  | none =>
      exact projects_pure _

end Effects

/-! ## Records -/

section Records

variable {ns : Namespace} {record : ToolsetRecord}

theorem blank_addScope (scope : Scope) :
    (addScope record scope).blank = addScope record.blank scope := by
  unfold addScope
  exact apply_ite ToolsetRecord.blank _ _ _

theorem blank_addRecoverableScope (scope : Scope) :
    (addRecoverableScope record scope).blank =
      addRecoverableScope record.blank scope := by
  unfold addRecoverableScope
  exact apply_ite ToolsetRecord.blank _ _ _

theorem blank_removeScope (scope : Scope) :
    (removeScope record scope).blank = removeScope record.blank scope := by
  unfold removeScope
  exact apply_ite ToolsetRecord.blank _ _ _

theorem blank_removeRecoverableScope (scope : Scope) :
    (removeRecoverableScope record scope).blank =
      removeRecoverableScope record.blank scope := by
  unfold removeRecoverableScope
  exact apply_ite ToolsetRecord.blank _ _ _

theorem blank_addScopes (scopes : List Scope) :
    (addScopes record scopes).blank = addScopes record.blank scopes := by
  induction scopes generalizing record with
  | nil =>
      rfl
  | cons scope rest inductionHypothesis =>
      have later := @inductionHypothesis (addScope record scope)
      rw [blank_addScope] at later
      exact later

theorem auditScope_blank (preferred : Option Scope) :
    auditScope (some record.blank) preferred =
      auditScope (some record) preferred := by
  cases preferred <;> rfl

theorem blanks_recordRuntimeFailure
    (code message staleReason : String) (details : Option Json) :
    Blanks id (recordRuntimeFailure ns code message staleReason details)
      (recordRuntimeFailure ns code message staleReason details) := by
  refine projects_bind projects_get fun world => ?_
  rw [record_blank]
  cases world.record ns with
  | none =>
      exact projects_pure _
  | some record =>
      exact projects_bind (blanks_upsertToolset _) fun _ => projects_pure _

theorem blanks_recordHealthObservation
    (status : HealthStatus) (observedSchemaHash : Option String)
    (observedToolCount : Option Nat) (error : Option ErrorInfo) :
    Blanks id
      (recordHealthObservation ns status observedSchemaHash
        observedToolCount error)
      (recordHealthObservation ns status observedSchemaHash
        observedToolCount error) := by
  refine projects_bind projects_get fun world => ?_
  rw [record_blank]
  cases world.record ns with
  | none =>
      exact projects_throw _
  | some record =>
      refine projects_bind blanks_utcNow fun now => ?_
      exact projects_bind (blanks_upsertToolset _) fun _ => projects_pure _

theorem blanks_finishDeactivate (scope : Scope) (force : Bool) :
    Blanks Progress.blank (finishDeactivate ns scope force record)
      (finishDeactivate ns scope force record.blank) := by
  refine projects_bind (blanks_upsertToolset _) fun _ => ?_
  refine projects_bind (blanks_appendAuditEvent _ _ _ _ _ _) fun _ => ?_
  exact projects_pure _

theorem blanks_finishUnregister (force disconnected : Bool) :
    Blanks Progress.blank (finishUnregister ns force disconnected)
      (finishUnregister ns force disconnected) := by
  refine projects_bind (blanks_storeWrite fun _ => rfl) fun _ => ?_
  refine projects_bind (blanks_storeWrite fun _ => rfl) fun _ => ?_
  refine projects_bind
    (blanks_storeWrite fun document => blank_deleteToolset document ns)
    fun _ => ?_
  refine projects_bind (projects_modify fun _ => rfl) fun _ => ?_
  refine projects_bind (blanks_appendAuditEvent _ _ _ _ _ _) fun _ => ?_
  cases disconnected with
  | true =>
      exact projects_pure _
  | false =>
      exact projects_pure _

end Records

/-! ## Openings -/

section Openings

variable [Platform] {ns : Namespace} {record : ToolsetRecord}

omit [Platform] in
theorem blank_announced (purpose : Opening) :
    (purpose.announced record).blank = purpose.announced record.blank := by
  cases purpose <;> rfl

omit [Platform] in
theorem blank_failedRecord (purpose : Opening) (error : ErrorInfo)
    (connected : Bool) :
    (purpose.failedRecord record error connected).blank =
      purpose.failedRecord record.blank error connected := by
  cases purpose <;> rfl

omit [Platform] in
theorem blank_completedRecord (purpose : Opening) (snapshot : SchemaSnapshot)
    (now : Time) :
    (purpose.completedRecord record snapshot now).blank =
      purpose.completedRecord record.blank snapshot now := by
  cases purpose with
  | activate scope =>
      unfold Opening.completedRecord
      simp only [blank_addRecoverableScope, blank_addScope]
      rfl
  | restore candidates startup =>
      unfold Opening.completedRecord
      simp only [blank_addScopes]
      rfl
  | refresh scope previousTools oldHash =>
      rfl

omit [Platform] in
theorem blank_activateReused (scope : Scope) (now : Time) :
    (activateReused record scope now).blank =
      activateReused record.blank scope now := by
  have added :=
    (blank_addRecoverableScope scope).trans
      (congrArg (addRecoverableScope · scope)
        (@blank_addScope record scope))
  unfold activateReused
  rw [← added]
  rfl

omit [Platform] in
theorem blank_restoreReused (missing : List Scope) (now : Time) :
    (restoreReused record missing now).blank =
      restoreReused record.blank missing now := by
  unfold restoreReused
  rw [← blank_addScopes]
  rfl

omit [Platform] in
theorem blanks_announce (purpose : Opening) :
    Blanks id (purpose.announce record) (purpose.announce record.blank) := by
  cases purpose with
  | activate scope =>
      exact blanks_upsertToolset _
  | restore candidates startup =>
      exact blanks_upsertToolset _
  | refresh scope previousTools oldHash =>
      exact projects_pure _

omit [Platform] in
theorem blanks_auditFailure (purpose : Opening) (error : ErrorInfo) :
    Blanks id (purpose.auditFailure ns record error)
      (purpose.auditFailure ns record.blank error) := by
  cases purpose with
  | activate scope =>
      exact blanks_appendAuditEvent _ _ _ _ _ _
  | restore candidates startup =>
      exact blanks_appendAuditEvent _ _ _ _ _ _
  | refresh scope previousTools oldHash =>
      simp only [Opening.auditFailure, auditScope_blank]
      exact blanks_appendAuditEvent _ _ _ _ _ _

theorem blanks_auditSuccess (purpose : Opening) (snapshot : SchemaSnapshot) :
    Blanks id (purpose.auditSuccess ns record snapshot)
      (purpose.auditSuccess ns record.blank snapshot) := by
  cases purpose with
  | activate scope =>
      exact blanks_appendAuditEvent _ _ _ _ _ _
  | restore candidates startup =>
      simp only [Opening.auditSuccess, auditScope_blank]
      exact blanks_appendAuditEvent _ _ _ _ _ _
  | refresh scope previousTools oldHash =>
      simp only [Opening.auditSuccess, auditScope_blank]
      exact blanks_appendAuditEvent _ _ _ _ _ _

omit [Platform] in
theorem blanks_failed (purpose : Opening) (exception : PyException) :
    Blanks (List.map Entry.blank) (purpose.failed ns record exception)
      (purpose.failed ns record.blank exception) := by
  refine projects_bind projects_get fun world => ?_
  have written := blanks_upsertToolset
    (purpose.failedRecord record (purpose.failure ns exception)
      (world.hasConnection ns))
  rw [blank_failedRecord] at written
  refine projects_bind written fun _ => ?_
  refine projects_bind (blanks_auditFailure purpose _) fun _ => ?_
  exact projects_pure _

theorem blank_completedEntry (purpose : Opening) (snapshot : SchemaSnapshot) :
    (purpose.completedEntry ns record snapshot).blank =
      purpose.completedEntry ns record.blank snapshot := by
  cases purpose <;> rfl

theorem blanks_complete (purpose : Opening) (snapshot : SchemaSnapshot) :
    Blanks Progress.blank (purpose.complete ns record snapshot)
      (purpose.complete ns record.blank snapshot) := by
  refine projects_bind blanks_utcNow fun now => ?_
  have completed := @blank_completedRecord record purpose snapshot now
  have written :
      Blanks id
        (do
          upsertToolset (purpose.completedRecord record snapshot now)
          replaceSchemaSnapshot snapshot)
        (do
          upsertToolset (purpose.completedRecord record snapshot now).blank
          replaceSchemaSnapshot snapshot) :=
    projects_bind (blanks_upsertToolset _) fun _ =>
      blanks_replaceSchemaSnapshot snapshot
  simp only [id, ← completed, ← blank_completedEntry]
  refine projects_bind (projects_attempt written) fun result => ?_
  cases result with
  | error exception =>
      exact projects_bind (blanks_failed purpose exception) fun _ =>
        projects_pure _
  | ok value =>
      refine projects_bind
        (projects_attempt (blanks_auditSuccess purpose snapshot))
        fun audited => ?_
      cases audited with
      | ok value =>
          exact projects_pure _
      | error exception =>
          refine projects_bind (blanks_failed purpose exception)
            fun failed => ?_
          cases purpose <;> exact projects_pure _

omit [Platform] in
theorem blanks_begin (purpose : Opening) :
    Blanks Progress.blank (purpose.begin ns record)
      (purpose.begin ns record.blank) := by
  unfold Opening.begin
  rw [← blank_announced]
  refine projects_bind (projects_attempt (blanks_announce purpose))
    fun result => ?_
  cases result with
  | error exception =>
      exact projects_bind (blanks_failed purpose exception) fun _ =>
        projects_pure _
  | ok value =>
      refine projects_bind projects_get fun world => ?_
      exact projects_bind (projects_set _) fun _ => projects_pure _

theorem blanks_landRuntime (runtime : RuntimeId) (reply : Reply) :
    Blanks id (landRuntime ns runtime reply)
      (landRuntime ns runtime reply) := by
  refine projects_bind projects_get fun world => ?_
  have config : world.blank.config = world.config := rfl
  rw [config]
  cases bootstrapped ns world.config.budget.bootstrapTimeout reply with
  | error raised =>
      cases raised with
      | cancelled =>
          exact projects_throw _
      | exception exception =>
          exact projects_bind (projects_set _) fun _ => projects_throw _
  | ok listed =>
      refine projects_bind (projects_set _) fun _ => ?_
      have snapshot : Blanks id (buildSnapshot ns listed.2)
          (buildSnapshot ns listed.2) :=
        projects_bind blanks_utcNow fun _ => projects_pure _
      refine projects_bind snapshot fun _ => ?_
      exact projects_bind (blanks_swapRuntime runtime) fun _ =>
        projects_pure _

theorem blanks_resumeOpening (purpose : Opening) (runtime : RuntimeId)
    (reply : Reply) :
    Blanks Progress.blank (resumeOpening ns purpose record runtime reply)
      (resumeOpening ns purpose record.blank runtime reply) := by
  refine projects_bind (projects_attempt (blanks_landRuntime runtime reply))
    fun result => ?_
  cases result with
  | error exception =>
      exact projects_bind (blanks_failed purpose exception) fun _ =>
        projects_pure _
  | ok landed =>
      obtain ⟨snapshot, replaced⟩ := landed
      cases replaced with
      | some closing =>
          exact projects_pure _
      | none =>
          exact blanks_complete purpose snapshot

theorem blanks_resumeSwapping (purpose : Opening) (closing : Closing)
    (snapshot : SchemaSnapshot) (reply : Reply) :
    Blanks Progress.blank
      (resumeSwapping ns closing purpose record snapshot reply)
      (resumeSwapping ns closing purpose record.blank snapshot reply) := by
  refine projects_bind (projects_attempt (blanks_finishClose closing reply))
    fun result => ?_
  cases result with
  | error exception =>
      exact projects_bind (blanks_failed purpose exception) fun _ =>
        projects_pure _
  | ok value =>
      exact blanks_complete purpose snapshot

theorem blanks_knownSchemaHash (tools : List Tool) :
    Blanks id (knownSchemaHash ns record tools)
      (knownSchemaHash ns record.blank tools) := by
  have hash : record.blank.schemaHash = record.schemaHash := rfl
  unfold knownSchemaHash
  rw [hash]
  cases record.schemaHash with
  | some hash =>
      exact projects_pure _
  | none =>
      simp only
      cases validateToolInventory ns tools with
      | ok normalized =>
          exact projects_pure _
      | error exception =>
          exact projects_throw _

theorem blanks_activateReusing (scope : Scope) (tools : List Tool) :
    Blanks Progress.blank (activateReusing ns scope record tools)
      (activateReusing ns scope record.blank tools) := by
  refine projects_bind blanks_utcNow fun now => ?_
  simp only [id, ← blank_activateReused]
  refine projects_bind (blanks_upsertToolset _) fun _ => ?_
  refine projects_bind (blanks_appendAuditEvent _ _ _ _ _ _) fun _ => ?_
  refine projects_bind (blanks_knownSchemaHash tools) fun _ => ?_
  exact projects_pure _

theorem blanks_restoreReusing (missing : List Scope) (startup : Bool)
    (tools : List Tool) :
    Blanks Progress.blank (restoreReusing ns missing startup record tools)
      (restoreReusing ns missing startup record.blank tools) := by
  refine projects_bind blanks_utcNow fun now => ?_
  simp only [id, ← blank_restoreReused, auditScope_blank]
  refine projects_bind (blanks_upsertToolset _) fun _ => ?_
  refine projects_bind (blanks_knownSchemaHash tools) fun _ => ?_
  refine projects_bind (blanks_appendAuditEvent _ _ _ _ _ _) fun _ => ?_
  exact projects_pure _

theorem blanks_startActivate (scope : Scope) (ifNotLoaded : Bool) :
    Blanks Progress.blank (startActivate ns scope ifNotLoaded)
      (startActivate ns scope ifNotLoaded) := by
  refine projects_bind projects_get fun world => ?_
  rw [record_blank]
  cases world.record ns with
  | none =>
      exact blanks_rejected _ _ _
  | some record =>
      have reusable : reusableRuntime world.blank ns record.blank scope =
          reusableRuntime world ns record scope := rfl
      refine projects_ite (blanks_rejected _ _ _) ?_
      rw [reusable]
      cases reusableRuntime world ns record scope with
      | some runtime =>
          exact blanks_activateReusing scope (world.objects runtime).tools
      | none =>
          exact projects_ite (projects_pure _) (blanks_begin _)

omit [Platform] in
theorem blanks_startRefresh (ifStale : Bool) (scope : Option Scope) :
    Blanks Progress.blank (startRefresh ns ifStale scope)
      (startRefresh ns ifStale scope) := by
  refine projects_bind projects_get fun world => ?_
  rw [record_blank]
  cases world.record ns with
  | none =>
      exact blanks_rejected _ _ _
  | some record =>
      refine projects_ite (projects_pure _) ?_
      have wanted :
          (scope.filter (· ∉ record.blank.loadedScopes)) =
            scope.filter (· ∉ record.loadedScopes) := rfl
      simp only [wanted]
      cases scope.filter (· ∉ record.loadedScopes) with
      | some wanted =>
          exact projects_pure _
      | none =>
          exact projects_ite (projects_pure _) (blanks_begin _)

theorem blanks_startRestore (stableHostIdentity startup : Bool) :
    Blanks Progress.blank (startRestore ns stableHostIdentity startup)
      (startRestore ns stableHostIdentity startup) := by
  refine projects_bind projects_get fun world => ?_
  rw [record_blank]
  cases world.record ns with
  | none =>
      exact blanks_rejected _ _ _
  | some record =>
      refine projects_ite (projects_pure _) ?_
      have running : world.blank.runtimeFor ns = world.runtimeFor ns := rfl
      rw [running]
      cases world.runtimeFor ns with
      | some runtime =>
          exact projects_ite (projects_pure _)
            (blanks_restoreReusing _ startup (world.objects runtime).tools)
      | none =>
          exact blanks_begin _

end Openings

/-! ## Registration -/

section Registration

variable {ns : Namespace}

/-- `startRegister`, given how a validation error is worded. -/
def startRegisterWith (validationError : String → String) (ns : Namespace)
    (transport : ToolsetTransport) (registration : Registration) :
    ServiceM Progress := do
  let world ← get
  match world.record ns with
  | some _ =>
      rejected .register ns none
        { code := "toolset_exists"
          message := "Toolset already exists: " ++ ns
          ns := some ns }
  | none =>
      match registration.toRecord ns transport with
      | .error message =>
          rejected .register ns none
            { code := "invalid_scope_policy"
              message := "The requested scope policy is invalid."
              ns := some ns
              details := some <| .obj
                [("validation_error", .str (validationError message))] }
      | .ok record =>
          upsertToolset record
          appendAuditEvent .register .success (some record.ns)
            (some record.defaultScope)
            [("transport_kind", .str record.transport.kind.value),
             ("auth_required", .bool record.authRequired),
             ("supported_scopes", scopeValues record.supportedScopes),
             ("restorable_scopes", scopeValues record.restorableScopes)]
            none
          return .left [.registered record]

theorem startRegister_eq [Platform] (transport : ToolsetTransport)
    (registration : Registration) :
    startRegister ns transport registration =
      startRegisterWith
        (Platform.validationError (registration.toJson ns transport)) ns
        transport registration :=
  rfl

theorem validateScopePolicy_blank (record : ToolsetRecord) :
    validateScopePolicy record.blank =
      (validateScopePolicy record).map ToolsetRecord.blank := by
  have checked : checkScopePolicy (normalizeScopes record.blank) =
      checkScopePolicy (normalizeScopes record) := rfl
  unfold validateScopePolicy
  rw [checked]
  cases checkScopePolicy (normalizeScopes record) <;> rfl

theorem toRecord_blank (registration : Registration)
    (transport : ToolsetTransport) :
    registration.toRecord ns transport.blank =
      (registration.toRecord ns transport).map ToolsetRecord.blank := by
  unfold Registration.toRecord
  cases parseScopes [registration.defaultScope] with
  | error message =>
      rfl
  | ok defaultScope =>
      cases parseScopes
          (registration.supportedScopes.getD
            (Scope.all.map Scope.value)) with
      | error message =>
          rfl
      | ok supported =>
          cases parseScopes (registration.restorableScopes.getD []) with
          | error message =>
              rfl
          | ok restorable =>
              exact validateScopePolicy_blank
                { ns := ns
                  title := registration.title
                  description := registration.description
                  tags := sortNames registration.tags.dedup
                  transport := transport
                  defaultScope := defaultScope.headD .thread
                  supportedScopes := supported
                  restorableScopes := restorable
                  restoreRequiresIdentity :=
                    registration.restoreRequiresIdentity
                  restoreRequiresExplicitRequest :=
                    registration.restoreRequiresExplicitRequest
                  authRequired := registration.authRequired }

theorem blanks_startRegisterWith (validationError : String → String)
    (transport : ToolsetTransport) (registration : Registration) :
    Blanks Progress.blank
      (startRegisterWith validationError ns transport registration)
      (startRegisterWith validationError ns transport.blank
        registration) := by
  refine projects_bind projects_get fun world => ?_
  rw [record_blank, toRecord_blank]
  cases world.record ns with
  | some record =>
      exact blanks_rejected _ _ _
  | none =>
      simp only [Option.map_none]
      cases registration.toRecord ns transport with
      | error message =>
          exact blanks_rejected _ _ _
      | ok record =>
          refine projects_bind (blanks_upsertToolset _) fun _ => ?_
          refine projects_bind (blanks_appendAuditEvent _ _ _ _ _ _)
            fun _ => ?_
          exact projects_pure _

end Registration

/-! ## The other operations -/

section Deactivation

variable {ns : Namespace} {record : ToolsetRecord}

theorem blanks_startDeactivate (scope : Scope) (force : Bool) :
    Blanks Progress.blank (startDeactivate ns scope force)
      (startDeactivate ns scope force) := by
  refine projects_bind projects_get fun world => ?_
  rw [record_blank]
  cases world.record ns with
  | none =>
      exact blanks_rejected _ _ _
  | some record =>
      refine projects_ite (projects_pure _) ?_
      refine projects_ite (blanks_rejected _ _ _) ?_
      simp only [← blank_removeScope, ← blank_removeRecoverableScope]
      refine projects_ite ?_ (blanks_finishDeactivate scope force)
      refine projects_bind blanks_disconnect fun closing => ?_
      cases closing with
      | some closing =>
          exact projects_pure _
      | none =>
          exact blanks_finishDeactivate scope force

theorem blanks_resumeDeactivating (closing : Closing) (scope : Scope)
    (force : Bool) (reply : Reply) :
    Blanks Progress.blank
      (resumeDeactivating ns closing scope force record reply)
      (resumeDeactivating ns closing scope force record.blank reply) :=
  projects_bind (blanks_finishClose closing reply) fun _ =>
    blanks_finishDeactivate scope force

theorem blanks_startUnregister (force : Bool) :
    Blanks Progress.blank (startUnregister ns force)
      (startUnregister ns force) := by
  refine projects_bind projects_get fun world => ?_
  rw [record_blank]
  cases world.record ns with
  | none =>
      exact blanks_rejected _ _ _
  | some record =>
      refine projects_ite (blanks_finishUnregister force false) ?_
      refine projects_ite (blanks_rejected _ _ _) ?_
      refine projects_ite (blanks_rejected _ _ _) ?_
      refine projects_bind blanks_disconnect fun closing => ?_
      cases closing with
      | some closing =>
          exact projects_pure _
      | none =>
          exact blanks_finishUnregister force true

theorem blanks_resumeUnregistering (closing : Closing) (force : Bool)
    (reply : Reply) :
    Blanks Progress.blank (resumeUnregistering ns closing force reply)
      (resumeUnregistering ns closing force reply) :=
  projects_bind (blanks_finishClose closing reply) fun _ =>
    blanks_finishUnregister force true

theorem blanks_startClearStale :
    Blanks Progress.blank (startClearStale ns) (startClearStale ns) := by
  refine projects_bind projects_get fun world => ?_
  rw [record_blank]
  cases world.record ns with
  | none =>
      exact blanks_rejected _ _ _
  | some record =>
      refine projects_ite (projects_pure _) ?_
      refine projects_bind
        (blanks_upsertToolset
          (clearedRecord record (world.hasConnection ns))) fun _ => ?_
      refine projects_bind (blanks_appendAuditEvent _ _ _ _ _ _)
        fun _ => ?_
      exact projects_pure _

theorem blanks_startMarkStale (reason : String) :
    Blanks Progress.blank (startMarkStale ns reason)
      (startMarkStale ns reason) := by
  refine projects_bind projects_get fun world => ?_
  rw [record_blank]
  cases world.record ns with
  | none =>
      exact projects_pure _
  | some record =>
      exact projects_bind (blanks_upsertToolset (markedRecord record reason))
        fun _ => projects_pure _

end Deactivation

section Health

variable [Platform] {ns : Namespace} {record : ToolsetRecord}
  {scope : Option Scope}

omit [Platform] in
theorem blanks_reportUnhealthy
    (status : HealthStatus) (code message staleReason : String)
    (drift : List (String × Json)) (observed : Option (String × Nat)) :
    Blanks Progress.blank
      (reportUnhealthy ns scope record status code message staleReason drift
        observed)
      (reportUnhealthy ns scope record.blank status code message staleReason
        drift observed) := by
  unfold reportUnhealthy
  rw [auditScope_blank]
  refine projects_bind (blanks_recordRuntimeFailure _ _ _ _) fun _ => ?_
  refine projects_bind (blanks_recordHealthObservation _ _ _ _) fun _ => ?_
  refine projects_bind (blanks_appendAuditEvent _ _ _ _ _ _) fun _ => ?_
  exact projects_pure _

omit [Platform] in
theorem blanks_startCheckHealth :
    Blanks Progress.blank (startCheckHealth ns scope)
      (startCheckHealth ns scope) := by
  refine projects_bind projects_get fun world => ?_
  rw [record_blank]
  cases world.record ns with
  | none =>
      exact blanks_rejected _ _ _
  | some record =>
      refine projects_ite (projects_pure _) ?_
      have wanted :
          (scope.filter (· ∉ record.blank.loadedScopes)) =
            scope.filter (· ∉ record.loadedScopes) := rfl
      have running : world.blank.runtimeFor ns = world.runtimeFor ns := rfl
      simp only [wanted, running]
      cases scope.filter (· ∉ record.loadedScopes) with
      | some wanted =>
          exact projects_pure _
      | none =>
          cases world.runtimeFor ns with
          | some runtime =>
              exact projects_pure _
          | none =>
              exact blanks_reportUnhealthy _ _ _ _ _ _

omit [Platform] in
theorem blanks_finishUnhealthy (exception : PyException) :
    Blanks Progress.blank (finishUnhealthy ns scope record exception)
      (finishUnhealthy ns scope record.blank exception) :=
  blanks_reportUnhealthy _ _ _ _ _ _

omit [Platform] in
theorem blanks_probeFailed (exception : PyException) :
    Blanks Progress.blank (probeFailed ns scope record exception)
      (probeFailed ns scope record.blank exception) := by
  refine projects_bind blanks_disconnect fun closing => ?_
  cases closing with
  | some closing =>
      exact projects_pure _
  | none =>
      exact blanks_finishUnhealthy exception

theorem blanks_probeAnswered (normalized : List ToolSchema) :
    Blanks Progress.blank (probeAnswered ns scope record normalized)
      (probeAnswered ns scope record.blank normalized) := by
  have hash : record.blank.schemaHash = record.schemaHash := rfl
  unfold probeAnswered
  rw [hash, auditScope_blank]
  simp only
  cases record.schemaHash.filter (· ≠ inventoryHash normalized) with
  | some cachedHash =>
      exact blanks_reportUnhealthy _ _ _ _ _ _
  | none =>
      refine projects_bind (blanks_recordHealthObservation _ _ _ _)
        fun _ => ?_
      refine projects_bind (blanks_appendAuditEvent _ _ _ _ _ _)
        fun _ => ?_
      exact projects_pure _

theorem blanks_resumeProbing (runtime : RuntimeId) (reply : Reply) :
    Blanks Progress.blank (resumeProbing ns scope record runtime reply)
      (resumeProbing ns scope record.blank runtime reply) := by
  unfold resumeProbing
  cases reply with
  | ok tools =>
      simp only
      cases validateToolInventory ns tools with
      | ok normalized =>
          exact blanks_probeAnswered normalized
      | error exception =>
          exact blanks_probeFailed exception
  | error raised =>
      cases raised with
      | cancelled =>
          exact projects_throw _
      | exception exception =>
          refine projects_ite ?_ (blanks_probeFailed exception)
          exact projects_bind (projects_modify fun _ => rfl) fun _ =>
            projects_pure _

omit [Platform] in
theorem blanks_resumeAborting (runtime : RuntimeId) (reply : Reply) :
    Blanks Progress.blank (resumeAborting ns scope record runtime reply)
      (resumeAborting ns scope record.blank runtime reply) := by
  refine projects_bind projects_get fun world => ?_
  refine projects_bind (projects_set _) fun _ => ?_
  cases reply with
  | ok tools =>
      exact blanks_probeFailed _
  | error raised =>
      cases raised with
      | cancelled =>
          exact projects_throw _
      | exception exception =>
          exact blanks_probeFailed _

omit [Platform] in
theorem blanks_resumeUnhealthy (closing : Closing) (exception : PyException)
    (reply : Reply) :
    Blanks Progress.blank
      (resumeUnhealthy ns closing scope record exception reply)
      (resumeUnhealthy ns closing scope record.blank exception reply) :=
  projects_bind (blanks_finishClose closing reply) fun _ =>
    blanks_finishUnhealthy exception

end Health

section Dispatch

variable [Platform] {ns : Namespace}

theorem blanks_start {operation : Operation}
    (other : operation.registers = false) :
    Blanks Progress.blank (start operation ns)
      (start operation.blank ns) := by
  cases operation with
  | register transport registration =>
      cases other
  | activate scope ifNotLoaded =>
      exact blanks_startActivate scope ifNotLoaded
  | refresh ifStale scope =>
      exact blanks_startRefresh ifStale scope
  | deactivate scope force =>
      exact blanks_startDeactivate scope force
  | restore stableHostIdentity startup =>
      exact blanks_startRestore stableHostIdentity startup
  | checkHealth scope =>
      exact blanks_startCheckHealth
  | clearStale =>
      exact blanks_startClearStale
  | markStale reason =>
      exact blanks_startMarkStale reason
  | unregister force =>
      exact blanks_startUnregister force

theorem blanks_resume (stage : Stage) (reply : Reply) :
    Blanks Progress.blank (resume ns stage reply)
      (resume ns stage.blank reply) := by
  cases stage with
  | opening purpose record runtime =>
      exact blanks_resumeOpening purpose runtime reply
  | swapping closing purpose record snapshot =>
      exact blanks_resumeSwapping purpose closing snapshot reply
  | deactivating closing scope force record =>
      exact blanks_resumeDeactivating closing scope force reply
  | unregistering closing force =>
      exact blanks_resumeUnregistering closing force reply
  | probing scope record runtime =>
      exact blanks_resumeProbing runtime reply
  | aborting scope record runtime =>
      exact blanks_resumeAborting runtime reply
  | unhealthy closing scope record exception =>
      exact blanks_resumeUnhealthy closing exception reply

end Dispatch

/-! ## Requests, calls and the start of a process -/

def Admission.blank : Admission → Admission
  | .refused error => .refused error
  | .admitted operation namespaces => .admitted operation.blank namespaces

/-- The request with an accepted transport blanked. -/
def Request.masked : Request → Request
  | .registerToolset ns transport registration =>
      .registerToolset ns (transport.map ToolsetTransport.blank) registration
  | request => request

section Requests

variable {world : World}

theorem selected_blank (namespaces : Option (List Namespace))
    {wanted : ToolsetRecord → Bool}
    (blind : ∀ record, wanted record.blank = wanted record) :
    selected world.blank namespaces wanted =
      selected world namespaces wanted := by
  have same :
      (world.blank.document.toolsets.filter wanted).map ToolsetRecord.ns =
        (world.document.toolsets.filter wanted).map ToolsetRecord.ns := by
    have toolsets : world.blank.document.toolsets =
        world.document.toolsets.map ToolsetRecord.blank := rfl
    have blind : wanted ∘ ToolsetRecord.blank = wanted := funext blind
    rw [toolsets, List.filter_map, blind, List.map_map]
    rfl
  unfold selected
  rw [same]

theorem blanks_refuse (operation : AuditOperation) (error : ErrorInfo) :
    Blanks Admission.blank (refuse operation error)
      (refuse operation error) :=
  projects_bind (blanks_appendAuditEvent _ _ _ _ _ _) fun _ =>
    projects_pure _

theorem blanks_accept [Platform] (request : Request) :
    Blanks Admission.blank (accept request) (accept request.masked) := by
  -- Requests without namespaces ask which records are concerned.
  have choosing : ∀ {operation : Operation}
      {namespaces : Option (List Namespace)} {wanted : ToolsetRecord → Bool},
      (∀ record, wanted record.blank = wanted record) →
      Blanks Admission.blank
        (do
          let world ← get
          return .admitted operation (selected world namespaces wanted))
        (do
          let world ← get
          return .admitted operation.blank
            (selected world namespaces wanted)) := by
    intro operation namespaces wanted blind
    refine projects_bind projects_get fun world => ?_
    rw [selected_blank namespaces blind]
    exact projects_pure _
  cases request with
  | registerToolset ns transport registration =>
      refine projects_ite (blanks_refuse _ _) ?_
      cases transport with
      | error message =>
          exact blanks_refuse _ _
      | ok transport =>
          exact projects_pure _
  | activateToolsets namespaces scope ifNotLoaded =>
      simp only [Request.masked, accept]
      cases Scope.parse scope with
      | some scope =>
          exact projects_pure _
      | none =>
          exact blanks_refuse _ _
  | refreshToolsets namespaces ifStale scope =>
      simp only [Request.masked, accept]
      cases parseScope scope with
      | ok scope =>
          exact choosing fun _ => rfl
      | error text =>
          exact blanks_refuse _ _
  | deactivateToolsets namespaces scope force =>
      simp only [Request.masked, accept]
      cases Scope.parse scope with
      | some scope =>
          exact projects_pure _
      | none =>
          exact blanks_refuse _ _
  | restoreToolsets namespaces stableHostIdentity startup =>
      exact choosing fun _ => rfl
  | checkToolsetHealth namespaces scope =>
      simp only [Request.masked, accept]
      cases parseScope scope with
      | ok scope =>
          exact choosing fun _ => rfl
      | error text =>
          exact blanks_refuse _ _
  | clearStaleToolsets namespaces =>
      exact choosing fun _ => rfl
  | markToolsetStale ns reason =>
      exact projects_pure _
  | unregisterToolsets namespaces force =>
      exact projects_pure _

end Requests

section Calls

variable {tool : MountedTool}

theorem blanks_locateCall (mountedName : String) :
    Blanks id (locateCall mountedName) (locateCall mountedName) := by
  refine projects_bind projects_get fun world => ?_
  have resolved : resolveMountedTool world.blank mountedName =
      resolveMountedTool world mountedName := rfl
  rw [resolved]
  cases resolveMountedTool world mountedName with
  | some tool =>
      exact projects_pure _
  | none =>
      exact projects_throw _

theorem blanks_admitCall (mountedName : String) :
    Blanks id (admitCall mountedName) (admitCall mountedName) := by
  refine projects_bind projects_get fun world => ?_
  have resolved : resolveMountedTool world.blank mountedName =
      resolveMountedTool world mountedName := rfl
  rw [resolved]
  cases resolveMountedTool world mountedName with
  | some tool =>
      exact projects_bind (projects_set _) fun _ => projects_pure _
  | none =>
      exact projects_throw _

theorem blanks_finishCallFailure (exception : PyException) :
    Blanks id (finishCallFailure tool exception)
      (finishCallFailure tool exception) := by
  refine projects_bind (blanks_recordRuntimeFailure _ _ _ _) fun error => ?_
  refine projects_bind projects_get fun world => ?_
  have scope : auditScope (world.blank.record tool.ns) none =
      auditScope (world.record tool.ns) none := by
    rw [record_blank]
    cases world.record tool.ns <;> rfl
  rw [scope]
  exact projects_bind (blanks_appendAuditEvent _ _ _ _ _ _) fun _ =>
    projects_throw _

theorem blanks_callFailed (exception : PyException) :
    Blanks id (callFailed tool exception) (callFailed tool exception) := by
  refine projects_bind blanks_disconnect fun closing => ?_
  cases closing with
  | some closing =>
      exact projects_pure _
  | none =>
      exact blanks_finishCallFailure exception

theorem blanks_dispatchCall :
    Blanks id (dispatchCall tool) (dispatchCall tool) := by
  refine projects_bind projects_get fun world => ?_
  have running : world.blank.runtimeFor tool.ns =
      world.runtimeFor tool.ns := rfl
  rw [running]
  cases world.runtimeFor tool.ns with
  | some runtime =>
      exact projects_pure _
  | none =>
      exact blanks_callFailed _

theorem blanks_resumeCall (stage : CallStage)
    (reply : Except Raised CallToolResult) :
    Blanks id (resumeCall tool stage reply) (resumeCall tool stage reply) := by
  cases stage with
  | calling runtime =>
      cases reply with
      | ok result =>
          exact projects_pure _
      | error raised =>
          cases raised with
          | cancelled =>
              exact projects_throw _
          | exception exception =>
              refine projects_ite ?_ (blanks_callFailed exception)
              exact projects_bind (projects_modify fun _ => rfl) fun _ =>
                projects_pure _
  | aborting runtime =>
      refine projects_bind projects_get fun world => ?_
      refine projects_bind (projects_set _) fun _ => ?_
      cases reply with
      | ok result =>
          exact blanks_callFailed _
      | error raised =>
          cases raised with
          | cancelled =>
              exact projects_throw _
          | exception exception =>
              exact blanks_callFailed _
  | disconnecting closing exception =>
      exact projects_bind (blanks_finishClose closing reply) fun _ =>
        blanks_finishCallFailure exception

end Calls

section Startup

/-- `bootstrapDefaults` with the bundled toolset blanked. -/
def bundlingBlank : ServiceM Unit := do
  let world ← get
  match world.record "fake_stdio" with
  | some _ => return
  | none => upsertToolset (fakeToolset world.config).blank

def startingBlank : ServiceM Unit := do
  modify World.restarted
  bundlingBlank
  let world ← get
  reconcileRecords world.document.toolsets

theorem blanks_reconcileRecords (records : List ToolsetRecord) :
    Blanks id (reconcileRecords records)
      (reconcileRecords (records.map ToolsetRecord.blank)) := by
  induction records with
  | nil =>
      exact projects_pure _
  | cons record rest inductionHypothesis =>
      have needed : needsReconciling record.blank =
          needsReconciling record := rfl
      unfold reconcileRecords
      simp only [List.map_cons, needed]
      refine projects_ite ?_ inductionHypothesis
      exact projects_bind (blanks_upsertToolset (reconciledRecord record))
        fun _ => inductionHypothesis

theorem blanks_startService : Blanks id startService startingBlank := by
  refine projects_bind (projects_modify fun _ => rfl) fun _ => ?_
  have bundling : Blanks id bootstrapDefaults bundlingBlank := by
    refine projects_bind projects_get fun world => ?_
    rw [record_blank]
    cases world.record "fake_stdio" with
    | some record =>
        exact projects_pure _
    | none =>
        exact blanks_upsertToolset _
  refine projects_bind bundling fun _ => ?_
  exact projects_bind projects_get fun world =>
    blanks_reconcileRecords world.document.toolsets

end Startup

end ToolboxMcp
