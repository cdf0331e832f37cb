import ToolboxMcp.Service.Core

/-!
# The lifecycle operations, one namespace at a time

Each operation runs its body once per namespace inside the namespace's lock.
A body is cut at its awaits: `start` is the stretch from the acquired lock to
the first await, `resume` the stretch from an await to the next one.  A stretch
stays inside the block at a `Stage`, which keeps the body's local variables, or
leaves it with the entries it has added to the response.
-/

namespace ToolboxMcp

open Effect

/-- One item of the lists a response is made of. -/
inductive Entry where
  | registered (record : ToolsetRecord)
  | activated (result : ActivationResult)
  | refreshed (result : RefreshResult)
  | deactivated (ns : Namespace) (scope : Scope) (remaining : List Scope)
  | restored (result : RestoreResult)
  | cleared (result : ClearStaleResult)
  | checked (result : HealthCheckResult)
  | marked (ns : Namespace) (known : Bool)
  | unregistered (ns : Namespace)
  | skipped
      (ns : Namespace) (reason : String) (details : List (String × Json))
  | failed (error : ErrorInfo)

/-- The arguments of `register_toolset` besides namespace and transport. -/
structure Registration where
  title : String
  description : String
  tags : List String := []
  defaultScope : String := "thread"
  supportedScopes : Option (List String) := none
  restorableScopes : Option (List String) := none
  restoreRequiresIdentity : Bool := true
  restoreRequiresExplicitRequest : Bool := true
  authRequired : Bool := false

inductive Operation where
  | register (transport : ToolsetTransport) (registration : Registration)
  | activate (scope : Scope) (ifNotLoaded : Bool)
  | refresh (ifStale : Bool) (scope : Option Scope)
  | deactivate (scope : Scope) (force : Bool)
  | restore (stableHostIdentity startup : Bool)
  | checkHealth (scope : Option Scope)
  | clearStale
  | markStale (reason : String)
  | unregister (force : Bool)

def Operation.registers : Operation → Bool
  | .register .. => true
  | _ => false

/-- The operations that open a runtime, with their locals. -/
inductive Opening where
  | activate (scope : Scope)
  | restore (candidates : List Scope) (startup : Bool)
  | refresh
      (scope : Option Scope) (previousTools : List ToolSchema)
      (oldHash : Option String)

inductive Stage where
  | opening
      (opening : Opening) (record : ToolsetRecord) (runtime : RuntimeId)
  | swapping
      (closing : Closing) (opening : Opening) (record : ToolsetRecord)
      (snapshot : SchemaSnapshot)
  | deactivating
      (closing : Closing) (scope : Scope) (force : Bool)
      (record : ToolsetRecord)
  | unregistering (closing : Closing) (force : Bool)
  | probing
      (scope : Option Scope) (record : ToolsetRecord) (runtime : RuntimeId)
  | aborting
      (scope : Option Scope) (record : ToolsetRecord) (runtime : RuntimeId)
  | unhealthy
      (closing : Closing) (scope : Option Scope) (record : ToolsetRecord)
      (exception : PyException)

inductive Progress where
  | inside (stage : Stage)
  | left (entries : List Entry)

/-- What an await yields; only a bootstrap and a probe list tools. -/
abbrev Reply :=
  Except Raised (List Tool)

/-- Report an error under `failed` after auditing it. -/
def rejected
    (operation : AuditOperation) (ns : Namespace) (scope : Option Scope)
    (error : ErrorInfo) : ServiceM Progress := do
  appendAuditEvent operation .failure (some ns) scope [] (some error)
  return .left [.failed error]

def inFlightError
    (attempted : String) (ns : Namespace) (inFlight : Nat) : ErrorInfo where
  code := "in_flight_calls"
  message :=
    "Cannot " ++ attempted ++ " " ++ ns ++ " while " ++ toString inFlight ++
      " calls are in flight."
  ns := some ns
  retryable := true
  details := some (.obj [("in_flight_calls", .num inFlight)])

section Opening

variable [Platform]

/-! ## Opening a runtime -/

/-- The record the operation opens the runtime with. -/
def Opening.announced (record : ToolsetRecord) : Opening → ToolsetRecord
  | .refresh .. => record
  | _ => { record with transportState := .connecting }

/-- Activation and restore persist the record before opening. -/
def Opening.announce (record : ToolsetRecord) : Opening → ServiceM Unit
  | .refresh .. => return
  | _ => upsertToolset { record with transportState := .connecting }

/-- The error a failed opening is reported with. -/
def Opening.failure
    (ns : Namespace) (exception : PyException) : Opening → ErrorInfo
  | .activate _ =>
      { code := "transport_failed"
        message := exception.message
        ns := some ns
        retryable := true }
  | .restore _ startup =>
      { code := "restore_failed"
        message := exception.message
        ns := some ns
        retryable := true
        details := some (.obj [("startup", .bool startup)]) }
  | .refresh .. =>
      { code := "refresh_failed"
        message := exception.message
        ns := some ns
        retryable := true
        details := some (.obj [("stale_reason", .str "refresh_failed")]) }

/-- What the handler makes of the record, in whatever state it has reached. -/
def Opening.failedRecord
    (record : ToolsetRecord) (error : ErrorInfo) (connected : Bool) :
    Opening → ToolsetRecord
  | .activate _ =>
      { record with transportState := .failed, lastError := some error }
  | .restore .. =>
      { record with
        transportState := .failed
        stale := true
        staleReason := some "restore_failed"
        lastError := some error }
  | .refresh .. =>
      { record with
        transportState := failureState connected
        stale := true
        staleReason := some "refresh_failed"
        lastError := some error }

def Opening.auditFailure
    (ns : Namespace) (record : ToolsetRecord) (error : ErrorInfo) :
    Opening → ServiceM Unit
  | .activate scope =>
      appendAuditEvent .activate .failure (some ns) (some scope) []
        (some error)
  | .restore _ startup =>
      appendAuditEvent .restore .failure (some ns) none
        [("startup", .bool startup),
         ("recoverable_scopes", scopeValues record.recoverableScopes),
         ("stale_reason", .str "restore_failed")]
        (some error)
  | .refresh scope _ oldHash =>
      appendAuditEvent .refresh .failure (some ns)
        (auditScope (some record) scope)
        [("old_schema_hash", .ofStr? oldHash),
         ("stale_reason", .str "refresh_failed")]
        (some error)

/-- The handler around the `try` block. -/
def Opening.failed
    (opening : Opening) (ns : Namespace) (record : ToolsetRecord)
    (exception : PyException) : ServiceM (List Entry) := do
  let world ← get
  let error := opening.failure ns exception
  upsertToolset
    (opening.failedRecord record error (world.hasConnection ns))
  opening.auditFailure ns record error
  return [.failed error]

/-- The fields every successful opening sets. -/
def installed
    (record : ToolsetRecord) (snapshot : SchemaSnapshot)
    (previousHash : Option String) (now : Time) : ToolsetRecord :=
  clearHealthState
    { record with
      previousSchemaHash := previousHash
      schemaHash := some snapshot.schemaHash
      toolCount := snapshot.toolCount
      transportState := .connected
      stale := false
      staleReason := none
      lastError := none
      lastRefreshedAt := some now
      lastKnownGoodAt := some now }

def Opening.completedRecord
    (record : ToolsetRecord) (snapshot : SchemaSnapshot) (now : Time) :
    Opening → ToolsetRecord
  | .activate scope =>
      addRecoverableScope
        (addScope
          { installed record snapshot record.schemaHash now with
            lastActivatedAt := some now }
          scope)
        scope
  | .restore candidates _ =>
      addScopes
        { installed record snapshot record.schemaHash now with
          lastRestoredAt := some now }
        candidates
  | .refresh _ _ oldHash => installed record snapshot oldHash now

def refreshResult
    (ns : Namespace) (previousTools : List ToolSchema)
    (oldHash : Option String) (snapshot : SchemaSnapshot) : RefreshResult :=
  { diffToolsets ns previousTools snapshot.tools with
    oldSchemaHash := oldHash
    newSchemaHash := snapshot.schemaHash }

def Opening.auditSuccess
    (ns : Namespace) (record : ToolsetRecord) (snapshot : SchemaSnapshot) :
    Opening → ServiceM Unit
  | .activate scope =>
      appendAuditEvent .activate .success (some ns) (some scope)
        [("tool_count", .num snapshot.toolCount),
         ("schema_hash", .str snapshot.schemaHash)]
        none
  | .restore _ startup =>
      appendAuditEvent .restore .success (some ns)
        (auditScope (some record) none)
        [("startup", .bool startup),
         ("reused_runtime", .bool false),
         ("restored_scopes", scopeValues record.loadedScopes),
         ("schema_hash", .str snapshot.schemaHash)]
        none
  | .refresh scope previousTools oldHash =>
      let diff := refreshResult ns previousTools oldHash snapshot
      appendAuditEvent .refresh .success (some ns)
        (auditScope (some record) scope)
        [("old_schema_hash", .ofStr? oldHash),
         ("new_schema_hash", .str snapshot.schemaHash),
         ("added_tools", .strs diff.addedTools),
         ("removed_tools", .strs diff.removedTools),
         ("changed_tools", .strs diff.changedTools)]
        none

def Opening.completedEntry
    (ns : Namespace) (record : ToolsetRecord) (snapshot : SchemaSnapshot) :
    Opening → Entry
  | .activate scope =>
      .activated
        { ns := ns
          scope := scope
          toolCount := snapshot.toolCount
          schemaHash := snapshot.schemaHash }
  | .restore .. =>
      .restored
        { ns := ns
          restoredScopes := record.loadedScopes
          toolCount := snapshot.toolCount
          schemaHash := snapshot.schemaHash }
  | .refresh _ previousTools oldHash =>
      .refreshed (refreshResult ns previousTools oldHash snapshot)

/-- Restore appends its entry before the audit write, the others after it. -/
def Opening.reportedEarly : Opening → Bool
  | .restore .. => true
  | _ => false

/-- The end of the `try` block, after the runtimes were swapped. -/
def Opening.complete
    (opening : Opening) (ns : Namespace) (record : ToolsetRecord)
    (snapshot : SchemaSnapshot) : ServiceM Progress := do
  let now ← utcNow
  let completed := opening.completedRecord record snapshot now
  let entry := opening.completedEntry ns completed snapshot
  match ← tryExcept do
    upsertToolset completed
    replaceSchemaSnapshot snapshot with
  | .error exception =>
      return .left (← opening.failed ns completed exception)
  | .ok () =>
      match ← tryExcept (opening.auditSuccess ns completed snapshot) with
      | .ok () => return .left [entry]
      | .error exception =>
          let failed ← opening.failed ns completed exception
          return .left
            (if opening.reportedEarly then entry :: failed else failed)

/-- The `try` block up to the bootstrap. -/
def Opening.begin
    (opening : Opening) (ns : Namespace) (record : ToolsetRecord) :
    ServiceM Progress := do
  match ← tryExcept (opening.announce record) with
  | .error exception =>
      return .left
        (← opening.failed ns (opening.announced record) exception)
  | .ok () =>
      let world ← get
      set (world.spawnRuntime ns)
      return .inside
        (.opening opening (opening.announced record) world.nextRuntime)

/-- From the bootstrap's outcome to the swap. -/
def landRuntime (ns : Namespace) (runtime : RuntimeId) (reply : Reply) :
    ServiceM (SchemaSnapshot × Option Closing) := do
  let world ← get
  match bootstrapped ns world.config.budget.bootstrapTimeout reply with
  | .error .cancelled => throw .cancelled
  | .error (.exception exception) =>
      set (world.markDone runtime)
      throw (.exception exception)
  | .ok (tools, normalized) =>
      set (world.setTools runtime tools)
      let snapshot ← buildSnapshot ns normalized
      return (snapshot, ← swapRuntime ns runtime)

def resumeOpening
    (ns : Namespace) (opening : Opening) (record : ToolsetRecord)
    (runtime : RuntimeId) (reply : Reply) : ServiceM Progress := do
  match ← tryExcept (landRuntime ns runtime reply) with
  | .error exception =>
      return .left (← opening.failed ns record exception)
  | .ok (snapshot, some closing) =>
      return .inside (.swapping closing opening record snapshot)
  | .ok (snapshot, none) => opening.complete ns record snapshot

def resumeSwapping
    (ns : Namespace) (closing : Closing) (opening : Opening)
    (record : ToolsetRecord) (snapshot : SchemaSnapshot) (reply : Reply) :
    ServiceM Progress := do
  match ← tryExcept (finishClose closing reply) with
  | .error exception =>
      return .left (← opening.failed ns record exception)
  | .ok () => opening.complete ns record snapshot

/-! ## Activation -/

/-- The runtime another scope is added to without opening a new one. -/
def reusableRuntime
    (world : World) (ns : Namespace) (record : ToolsetRecord)
    (scope : Scope) : Option RuntimeId :=
  (world.runtimeFor ns).filter fun _ =>
    record.loadedScopes ≠ [] ∧ scope ∉ record.loadedScopes

/-- `record.tool_count or len(runtime.tools)`. -/
def knownToolCount (record : ToolsetRecord) (tools : List Tool) : Nat :=
  if record.toolCount = 0 then tools.length else record.toolCount

/-- `record.schema_hash or inventory_hash(...)`. -/
def knownSchemaHash
    (ns : Namespace) (record : ToolsetRecord) (tools : List Tool) :
    ServiceM String :=
  match record.schemaHash with
  | some hash => return hash
  | none =>
      match validateToolInventory ns tools with
      | .ok normalized => return inventoryHash normalized
      | .error exception => throw (.exception exception)

def reusedState (record : ToolsetRecord) : TransportState :=
  if record.stale then .stale else .connected

/-- The record after a scope was added to a running runtime. -/
def activateReused
    (record : ToolsetRecord) (scope : Scope) (now : Time) : ToolsetRecord :=
  { addRecoverableScope (addScope record scope) scope with
    transportState := reusedState record
    lastActivatedAt := some now }

def activateReusing
    (ns : Namespace) (scope : Scope) (record : ToolsetRecord)
    (tools : List Tool) : ServiceM Progress := do
  let now ← utcNow
  let reused := activateReused record scope now
  upsertToolset reused
  appendAuditEvent .activate .success (some ns) (some scope)
    [("tool_count", .num (knownToolCount reused tools)),
     ("schema_hash", .ofStr? reused.schemaHash),
     ("reused_runtime", .bool true),
     ("loaded_scopes", scopeValues reused.loadedScopes)]
    none
  return .left
    [.activated
      { ns := ns
        scope := scope
        toolCount := knownToolCount reused tools
        schemaHash := ← knownSchemaHash ns reused tools }]

def startActivate
    (ns : Namespace) (scope : Scope) (ifNotLoaded : Bool) :
    ServiceM Progress := do
  let world ← get
  match world.record ns with
  | none => rejected .activate ns (some scope) (unknownToolset ns)
  | some record =>
      if !supportsScope record scope then
        rejected .activate ns (some scope)
          { code := "unsupported_scope"
            message :=
              "Toolset " ++ ns ++ " does not support scope: " ++ scope.value
            ns := some ns
            details := some <|
              .obj [("supported_scopes", scopeValues record.supportedScopes)] }
      else
        match reusableRuntime world ns record scope with
        | some runtime =>
            activateReusing ns scope record (world.objects runtime).tools
        | none =>
            if ifNotLoaded && scope ∈ record.loadedScopes then
              return .left
                [.skipped ns "already_active" [("scope", .str scope.value)]]
            else
              (Opening.activate scope).begin ns record

/-! ## Refresh -/

def startRefresh
    (ns : Namespace) (ifStale : Bool) (scope : Option Scope) :
    ServiceM Progress := do
  let world ← get
  match world.record ns with
  | none => rejected .refresh ns scope (unknownToolset ns)
  | some record =>
      if record.loadedScopes.isEmpty then
        return .left [.skipped ns "not_active" []]
      else if let some wanted := scope.filter (· ∉ record.loadedScopes) then
        return .left
          [.skipped ns "scope_not_active" [("scope", .str wanted.value)]]
      else if ifStale && !record.stale && record.schemaHash.isSome then
        return .left [.skipped ns "not_stale" []]
      else
        let previous := world.snapshot ns
        Opening.begin
          (.refresh scope ((previous.map SchemaSnapshot.tools).getD [])
            (previous.map SchemaSnapshot.schemaHash))
          ns record

/-! ## Restore -/

def restoreRefusal
    (record : ToolsetRecord) (stableHostIdentity startup : Bool) : String :=
  if record.recoverableScopes ≠ [] ∧
      record.restoreRequiresIdentity ∧ !stableHostIdentity then
    "identity_required"
  else if record.recoverableScopes ≠ [] ∧
      record.restoreRequiresExplicitRequest ∧ startup then
    "explicit_request_required"
  else
    "no_recoverable_scopes"

def restoreReused
    (record : ToolsetRecord) (missing : List Scope) (now : Time) :
    ToolsetRecord :=
  { addScopes record missing with
    transportState := reusedState record
    lastRestoredAt := some now }

def restoreReusing
    (ns : Namespace) (missing : List Scope) (startup : Bool)
    (record : ToolsetRecord) (tools : List Tool) : ServiceM Progress := do
  let now ← utcNow
  let reused := restoreReused record missing now
  upsertToolset reused
  let entry : Entry :=
    .restored
      { ns := ns
        restoredScopes := reused.loadedScopes
        toolCount := knownToolCount reused tools
        schemaHash := ← knownSchemaHash ns reused tools
        reusedRuntime := true }
  appendAuditEvent .restore .success (some ns)
    (auditScope (some reused) none)
    [("startup", .bool startup),
     ("reused_runtime", .bool true),
     ("restored_scopes", scopeValues reused.loadedScopes)]
    none
  return .left [entry]

def startRestore
    (ns : Namespace) (stableHostIdentity startup : Bool) :
    ServiceM Progress := do
  let world ← get
  match world.record ns with
  | none => rejected .restore ns none (unknownToolset ns)
  | some record =>
      let candidates := recoveryScopes record stableHostIdentity (!startup)
      if candidates.isEmpty then
        return .left
          [.skipped ns (restoreRefusal record stableHostIdentity startup)
            [("recoverable_scopes", scopeValues record.recoverableScopes)]]
      else
        match world.runtimeFor ns with
        | some runtime =>
            let missing :=
              candidates.filter fun scope => scope ∉ record.loadedScopes
            if missing.isEmpty then
              return .left
                [.skipped ns "already_restored"
                  [("restored_scopes", scopeValues candidates)]]
            else
              restoreReusing ns missing startup record
                (world.objects runtime).tools
        | none => (Opening.restore candidates startup).begin ns record

end Opening

/-! ## Registration -/

section Registration

variable [Platform]

def parseScopes (texts : List String) : Except String (List Scope) :=
  texts.mapM fun text =>
    match Scope.parse text with
    | some scope => .ok scope
    | none => .error "Input should be 'thread', 'session' or 'global'"

/-- `transport.model_dump(mode="python")`. -/
def ToolsetTransport.toJson (transport : ToolsetTransport) : Json :=
  .obj
    [("kind", .str transport.kind.value),
     ("command", .str transport.command),
     ("args", .strs transport.args),
     ("env", .obj (transport.env.map fun entry => (entry.1, .str entry.2))),
     ("cwd", .ofStr? transport.cwd)]

/-- The dict a record is validated from. -/
def Registration.toJson
    (registration : Registration) (ns : Namespace)
    (transport : ToolsetTransport) : Json :=
  .obj
    [("namespace", .str ns),
     ("title", .str registration.title),
     ("description", .str registration.description),
     ("tags", .strs (sortNames registration.tags.dedup)),
     ("transport", transport.toJson),
     ("default_scope", .str registration.defaultScope),
     ("supported_scopes",
      .strs (registration.supportedScopes.getD (Scope.all.map Scope.value))),
     ("restorable_scopes", .strs (registration.restorableScopes.getD [])),
     ("restore_requires_identity",
      .bool registration.restoreRequiresIdentity),
     ("restore_requires_explicit_request",
      .bool registration.restoreRequiresExplicitRequest),
     ("auth_required", .bool registration.authRequired)]

/-- `ToolsetRecord.model_validate` on the registration's arguments. -/
def Registration.toRecord
    (registration : Registration) (ns : Namespace)
    (transport : ToolsetTransport) : Except String ToolsetRecord := do
  let defaultScope ← parseScopes [registration.defaultScope]
  let supported ←
    parseScopes
      (registration.supportedScopes.getD (Scope.all.map Scope.value))
  let restorable ← parseScopes (registration.restorableScopes.getD [])
  validateScopePolicy
    { ns := ns
      title := registration.title
      description := registration.description
      tags := sortNames registration.tags.dedup
      transport := transport
      defaultScope := defaultScope.headD .thread
      supportedScopes := supported
      restorableScopes := restorable
      restoreRequiresIdentity := registration.restoreRequiresIdentity
      restoreRequiresExplicitRequest :=
        registration.restoreRequiresExplicitRequest
      authRequired := registration.authRequired }

def startRegister
    (ns : Namespace) (transport : ToolsetTransport)
    (registration : Registration) : ServiceM Progress := do
  let world ← get
  match world.record ns with
  | some _ =>
      rejected .register ns none
        { code := "toolset_exists"
          message := "Toolset already exists: " ++ ns
          ns := some ns }
  | none =>
      match registration.toRecord ns transport with
      | .error message =>
          rejected .register ns none
            { code := "invalid_scope_policy"
              message := "The requested scope policy is invalid."
              ns := some ns
              details := some <| .obj
                [("validation_error",
                  .str
                    (Platform.validationError
                      (registration.toJson ns transport) message))] }
      | .ok record =>
          upsertToolset record
          appendAuditEvent .register .success (some record.ns)
            (some record.defaultScope)
            [("transport_kind", .str record.transport.kind.value),
             ("auth_required", .bool record.authRequired),
             ("supported_scopes", scopeValues record.supportedScopes),
             ("restorable_scopes", scopeValues record.restorableScopes)]
            none
          return .left [.registered record]

end Registration

/-! ## Deactivation -/

def finishDeactivate
    (ns : Namespace) (scope : Scope) (force : Bool)
    (record : ToolsetRecord) : ServiceM Progress := do
  upsertToolset record
  appendAuditEvent .deactivate .success (some ns) (some scope)
    [("force", .bool force),
     ("remaining_scopes", scopeValues record.loadedScopes)]
    none
  return .left [.deactivated ns scope record.loadedScopes]

/-- The record once its last scope is gone and the runtime is closed. -/
def deactivatedRecord (record : ToolsetRecord) : ToolsetRecord :=
  { record with
    transportState := .inactive
    stale := false
    staleReason := none
    lastError := none }

def startDeactivate
    (ns : Namespace) (scope : Scope) (force : Bool) :
    ServiceM Progress := do
  let world ← get
  match world.record ns with
  | none => rejected .deactivate ns (some scope) (unknownToolset ns)
  | some record =>
      if scope ∉ record.loadedScopes then
        return .left [.skipped ns "not_active" [("scope", .str scope.value)]]
      else if world.inFlight ns ≠ 0 ∧ !force then
        rejected .deactivate ns (some scope)
          (inFlightError "deactivate" ns (world.inFlight ns))
      else
        let reduced := removeRecoverableScope (removeScope record scope) scope
        if reduced.loadedScopes.isEmpty then
          match ← disconnect ns with
          | some closing =>
              return .inside (.deactivating closing scope force reduced)
          | none =>
              finishDeactivate ns scope force (deactivatedRecord reduced)
        else
          finishDeactivate ns scope force reduced

def resumeDeactivating
    (ns : Namespace) (closing : Closing) (scope : Scope) (force : Bool)
    (record : ToolsetRecord) (reply : Reply) : ServiceM Progress := do
  finishClose closing reply
  finishDeactivate ns scope force (deactivatedRecord record)

/-! ## Unregistration -/

def finishUnregister
    (ns : Namespace) (force disconnected : Bool) : ServiceM Progress := do
  storeWrite fun document => document.deleteSchemaSnapshot ns
  storeWrite fun document => document.deletePreviousSchemaSnapshot ns
  storeWrite fun document => document.deleteToolset ns
  modify fun world => world.popLockEntry ns
  appendAuditEvent .unregister .success (some ns) none
    [("force", .bool force), ("disconnected_runtime", .bool disconnected)]
    none
  if disconnected then
    return .left
      [.skipped ns "disconnected_before_unregistration" [],
       .unregistered ns]
  else
    return .left [.unregistered ns]

def startUnregister (ns : Namespace) (force : Bool) : ServiceM Progress := do
  let world ← get
  match world.record ns with
  | none => rejected .unregister ns none (unknownToolset ns)
  | some record =>
      if record.loadedScopes.isEmpty then
        finishUnregister ns force false
      else if !force then
        rejected .unregister ns none
          { code := "toolset_active"
            message := "Cannot unregister active toolset: " ++ ns
            ns := some ns
            retryable := true
            details := some <|
              .obj [("loaded_scopes", scopeValues record.loadedScopes)] }
      else if world.inFlight ns ≠ 0 then
        rejected .unregister ns none
          (inFlightError "force-unregister" ns (world.inFlight ns))
      else
        match ← disconnect ns with
        | some closing => return .inside (.unregistering closing force)
        | none => finishUnregister ns force true

def resumeUnregistering
    (ns : Namespace) (closing : Closing) (force : Bool) (reply : Reply) :
    ServiceM Progress := do
  finishClose closing reply
  finishUnregister ns force true

/-! ## Health checks -/

section Health

variable [Platform]

/-- A failed or stale check: record the failure, the observation and the audit
event.  Only a drift has `drift` details and an observed inventory. -/
def reportUnhealthy
    (ns : Namespace) (scope : Option Scope) (record : ToolsetRecord)
    (status : HealthStatus) (code message staleReason : String)
    (drift : List (String × Json)) (observed : Option (String × Nat)) :
    ServiceM Progress := do
  let error ←
    recordRuntimeFailure ns code message staleReason
      (if drift.isEmpty then none else some (.obj drift))
  let result ←
    recordHealthObservation ns status (observed.map Prod.fst)
      (observed.map Prod.snd) error
  appendAuditEvent .healthCheck .failure (some ns)
    (auditScope (some record) scope)
    (("stale_reason", .str staleReason) :: drift) error
  return .left [.checked result]

def startCheckHealth (ns : Namespace) (scope : Option Scope) :
    ServiceM Progress := do
  let world ← get
  match world.record ns with
  | none => rejected .healthCheck ns scope (unknownToolset ns)
  | some record =>
      if record.loadedScopes.isEmpty then
        return .left [.skipped ns "not_active" []]
      else if let some wanted := scope.filter (· ∉ record.loadedScopes) then
        return .left
          [.skipped ns "scope_not_active" [("scope", .str wanted.value)]]
      else
        match world.runtimeFor ns with
        | some runtime => return .inside (.probing scope record runtime)
        | none =>
            reportUnhealthy ns scope record .failed "runtime_not_connected"
              ("Toolset " ++ ns ++
                " has active scopes but no connected runtime.")
              "healthcheck_runtime_missing" [] none

def finishUnhealthy
    (ns : Namespace) (scope : Option Scope) (record : ToolsetRecord)
    (exception : PyException) : ServiceM Progress :=
  let code :=
    if exception.timeout then "healthcheck_timeout" else "healthcheck_failed"
  reportUnhealthy ns scope record .failed code exception.message code [] none

/-- The handler of a failed probe. -/
def probeFailed
    (ns : Namespace) (scope : Option Scope) (record : ToolsetRecord)
    (exception : PyException) : ServiceM Progress := do
  match ← disconnect ns with
  | some closing =>
      return .inside (.unhealthy closing scope record exception)
  | none => finishUnhealthy ns scope record exception

def probeAnswered
    (ns : Namespace) (scope : Option Scope) (record : ToolsetRecord)
    (normalized : List ToolSchema) : ServiceM Progress := do
  let observedHash := inventoryHash normalized
  let observed := some (observedHash, normalized.length)
  match record.schemaHash.filter (· ≠ observedHash) with
  | some cachedHash =>
      reportUnhealthy ns scope record .stale "healthcheck_schema_changed"
        ("Toolset " ++ ns ++
          " reported a schema hash that differs from the cached contract.")
        "healthcheck_schema_changed"
        [("cached_schema_hash", .str cachedHash),
         ("observed_schema_hash", .str observedHash)]
        observed
  | none =>
      let result ←
        recordHealthObservation ns .healthy (observed.map Prod.fst)
          (observed.map Prod.snd) none
      appendAuditEvent .healthCheck .success (some ns)
        (auditScope (some record) scope)
        [("observed_schema_hash", .str observedHash),
         ("observed_tool_count", .num normalized.length)]
        none
      return .left [.checked result]

/-- A probe that times out aborts its runtime before it raises. -/
def resumeProbing
    (ns : Namespace) (scope : Option Scope) (record : ToolsetRecord)
    (runtime : RuntimeId) (reply : Reply) : ServiceM Progress := do
  match reply with
  | .ok tools =>
      match validateToolInventory ns tools with
      | .ok normalized => probeAnswered ns scope record normalized
      | .error exception => probeFailed ns scope record exception
  | .error (.exception exception) =>
      if exception.timeout then
        modify fun world => world.markClosed runtime
        return .inside (.aborting scope record runtime)
      else
        probeFailed ns scope record exception
  | .error .cancelled => throw .cancelled

def resumeAborting
    (ns : Namespace) (scope : Option Scope) (record : ToolsetRecord)
    (runtime : RuntimeId) (reply : Reply) : ServiceM Progress := do
  let world ← get
  set (world.markDone runtime)
  match reply with
  | .error .cancelled => throw .cancelled
  | _ =>
      probeFailed ns scope record
        { timeout := true
          message :=
            "Health check timed out for " ++ ns ++ " after " ++
              renderSeconds world.config.budget.healthTimeout }

def resumeUnhealthy
    (ns : Namespace) (closing : Closing) (scope : Option Scope)
    (record : ToolsetRecord) (exception : PyException) (reply : Reply) :
    ServiceM Progress := do
  finishClose closing reply
  finishUnhealthy ns scope record exception

end Health

/-! ## Stale marks -/

/-- A failed or stale last check. -/
def failedCheck (record : ToolsetRecord) : Bool :=
  record.lastHealthStatus = some .stale ∨
    record.lastHealthStatus = some .failed

def clearedRecord (record : ToolsetRecord) (connected : Bool) :
    ToolsetRecord :=
  { clearHealthState record with
    stale := false
    staleReason := none
    lastError := none
    transportState :=
      if record.loadedScopes.isEmpty then .inactive
      else if connected then .connected
      else .failed }

def startClearStale (ns : Namespace) : ServiceM Progress := do
  let world ← get
  match world.record ns with
  | none => rejected .clearStale ns none (unknownToolset ns)
  | some record =>
      if !record.stale && !failedCheck record && record.lastError.isNone &&
          record.lastHealthError.isNone then
        return .left [.skipped ns "not_stale" []]
      else
        let cleared := clearedRecord record (world.hasConnection ns)
        upsertToolset cleared
        appendAuditEvent .clearStale .success (some ns) none
          [("cleared_stale_reason", .ofStr? record.staleReason)] none
        return .left
          [.cleared
            { ns := ns
              transportState := cleared.transportState
              clearedStaleReason := record.staleReason }]

def markedRecord (record : ToolsetRecord) (reason : String) :
    ToolsetRecord :=
  { record with
    stale := true
    staleReason := some reason
    transportState := .stale }

def startMarkStale (ns : Namespace) (reason : String) :
    ServiceM Progress := do
  let world ← get
  match world.record ns with
  | none => return .left [.marked ns false]
  | some record =>
      upsertToolset (markedRecord record reason)
      return .left [.marked ns true]

/-! ## All operations -/

section Dispatch

variable [Platform]

/-- The body of the operation, from the acquired lock to its first await. -/
def start (operation : Operation) (ns : Namespace) : ServiceM Progress :=
  match operation with
  | .register transport registration =>
      startRegister ns transport registration
  | .activate scope ifNotLoaded => startActivate ns scope ifNotLoaded
  | .refresh ifStale scope => startRefresh ns ifStale scope
  | .deactivate scope force => startDeactivate ns scope force
  | .restore stableHostIdentity startup =>
      startRestore ns stableHostIdentity startup
  | .checkHealth scope => startCheckHealth ns scope
  | .clearStale => startClearStale ns
  | .markStale reason => startMarkStale ns reason
  | .unregister force => startUnregister ns force

/-- The body, from the await it is suspended at to the next one. -/
def resume (ns : Namespace) (stage : Stage) (reply : Reply) :
    ServiceM Progress :=
  match stage with
  | .opening opening record runtime =>
      resumeOpening ns opening record runtime reply
  | .swapping closing opening record snapshot =>
      resumeSwapping ns closing opening record snapshot reply
  | .deactivating closing scope force record =>
      resumeDeactivating ns closing scope force record reply
  | .unregistering closing force =>
      resumeUnregistering ns closing force reply
  | .probing scope record runtime =>
      resumeProbing ns scope record runtime reply
  | .aborting scope record runtime =>
      resumeAborting ns scope record runtime reply
  | .unhealthy closing scope record exception =>
      resumeUnhealthy ns closing scope record exception reply

end Dispatch

end ToolboxMcp
