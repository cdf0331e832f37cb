import ToolboxMcp.Service.Calls
import ToolboxMcp.Service.Requests

/-!
# What clients are shown

The responses in which a record shows: the item of an accepted registration,
`list_toolsets`, `get_toolset_status` and `list_audit_events`.
-/

namespace ToolboxMcp

/-! ## Registrations -/

/-- `_public_transport`. -/
structure PublicTransport where
  kind : TransportKind
  command : String
  cwd : Option String
  hasArgs : Bool
  argCount : Nat
  argsValuesRedacted : Bool
  hasEnv : Bool
  envKeys : List String
  envValuesRedacted : Bool

def publicTransport (transport : ToolsetTransport) : PublicTransport where
  kind := transport.kind
  command := transport.command
  cwd := transport.cwd
  hasArgs := !transport.args.isEmpty
  argCount := transport.args.length
  argsValuesRedacted := !transport.args.isEmpty
  hasEnv := !transport.env.isEmpty
  envKeys := sortNames (transport.env.map Prod.fst)
  envValuesRedacted := !transport.env.isEmpty

structure RegistrationView where
  ns : Namespace
  title : String
  description : String
  tags : List String
  transport : PublicTransport
  defaultScope : Scope
  scopePolicy : ScopePolicy

def registrationView (record : ToolsetRecord) : RegistrationView where
  ns := record.ns
  title := record.title
  description := record.description
  tags := record.tags
  transport := publicTransport record.transport
  defaultScope := record.defaultScope
  scopePolicy := scopePolicy record

/-- An item as the response has it. -/
inductive Shown where
  | registered (registration : RegistrationView) (authRequired : Bool)
  | item (entry : Entry)

def Entry.shown : Entry → Shown
  | .registered record =>
      .registered (registrationView record) record.authRequired
  | entry => .item entry

/-! ## The audit log -/

structure AuditEvent where
  event : StoredAuditEvent
  registrationPresent : Option Bool

/-- `_to_audit_event`. -/
def toAuditEvent (document : StateDocument) (event : StoredAuditEvent) :
    AuditEvent where
  event := event
  registrationPresent :=
    event.ns.map fun ns =>
      decide (ns ∈ document.toolsets.map ToolsetRecord.ns)

structure AuditQuery where
  ns : Option Namespace := none
  operation : Option AuditOperation := none
  outcome : Option AuditOutcome := none
  registrationPresent : Option Bool := none
  limit : Int := 50

def AuditQuery.admits (query : AuditQuery) (found : AuditEvent) : Bool :=
  query.ns.all (found.event.ns = some ·) &&
    query.operation.all (found.event.operation = ·) &&
    query.outcome.all (found.event.outcome = ·) &&
    query.registrationPresent.all (found.registrationPresent = some ·)

/-- `JsonStateStore.list_audit_events`. -/
def StateDocument.listAuditEvents (document : StateDocument)
    (query : AuditQuery) : List AuditEvent :=
  let selected :=
    (document.auditLog.map (toAuditEvent document)).filter query.admits
  if query.limit ≤ 0 then [] else sliceFromEnd query.limit.toNat selected

/-- `list_audit_events`; an invalid query is given by the text of its
validation error. -/
def listAuditEvents (world : World) :
    Except String AuditQuery → Except ErrorInfo (List AuditEvent)
  | .error text =>
      .error
        { code := "invalid_audit_query"
          message := "Audit query filters are invalid."
          details := some (.obj [("validation_error", .str text)]) }
  | .ok query =>
      if query.limit < 0 then
        .error
          { code := "invalid_audit_query"
            message := "Audit query limit must be zero or greater."
            details := some (.obj [("limit", .num query.limit)]) }
      else
        .ok <| world.document.listAuditEvents
          { query with
            limit := min query.limit defaultAuditRetentionLimit }

/-! ## Toolsets -/

def listMountedTools (world : World) (ns : Namespace) : List MountedTool :=
  match world.runtimeFor ns with
  | some runtime =>
      ((world.objects runtime).tools.map fun tool =>
        mountedToolOf ns (mountedToolName ns tool.name) tool).insertionSort
          fun left right => left.mountedName ≤ right.mountedName
  | none => []

structure ToolsetSummary where
  ns : Namespace
  loaded : Bool
  scope : List Scope
  recoverableScopes : List Scope
  scopePolicy : ScopePolicy
  healthStatus : Option HealthStatus
  lastHealthCheckedAt : Option Time
  lastRestoredAt : Option Time
  stale : Bool
  transportState : TransportState
  schemaHash : Option String
  toolCount : Nat
  mountedTools : List String
  lastRefreshAt : Option Time
  lastError : Option ErrorInfo

def toolsetSummary (world : World) (record : ToolsetRecord) :
    ToolsetSummary where
  ns := record.ns
  loaded := !record.loadedScopes.isEmpty
  scope := record.loadedScopes
  recoverableScopes := record.recoverableScopes
  scopePolicy := scopePolicy record
  healthStatus := record.lastHealthStatus
  lastHealthCheckedAt := record.lastHealthCheckedAt
  lastRestoredAt := record.lastRestoredAt
  stale := record.stale
  transportState := record.transportState
  schemaHash := record.schemaHash
  toolCount := record.toolCount
  mountedTools :=
    (listMountedTools world record.ns).map MountedTool.mountedName
  lastRefreshAt := record.lastRefreshedAt
  lastError := record.lastError

def listToolsets (world : World) (scope : Option String) :
    Except ErrorInfo (List ToolsetSummary) :=
  match parseScope scope with
  | .error text => .error (invalidScope text)
  | .ok scope =>
      .ok <|
        (world.document.toolsets.filter fun record =>
          scope.all (· ∈ record.loadedScopes)).map (toolsetSummary world)

structure RecentFailure where
  count : Nat
  latest : AuditEvent

/-- `_recent_failure_summary`. -/
def recentFailure (document : StateDocument) (ns : Namespace) :
    Option RecentFailure :=
  let failures :=
    document.listAuditEvents
      { ns := some ns
        outcome := some .failure
        limit := defaultAuditRetentionLimit }
  failures.getLast?.map fun latest =>
    { count := failures.length
      latest := latest }

structure ToolsetStatus where
  registration : RegistrationView
  loadedScopes : List Scope
  transportState : TransportState
  stale : Bool
  staleReason : Option String
  inFlightCalls : Nat
  recoverableScopes : List Scope
  lastRestoredAt : Option Time
  startupRestoreEnabled : Bool
  startupRestoreEligible : Bool
  explicitRestoreEligible : Bool
  lastCheckedAt : Option Time
  lastStatus : Option HealthStatus
  lastObservedSchemaHash : Option String
  lastObservedToolCount : Option Nat
  lastHealthError : Option ErrorInfo
  schemaHash : Option String
  previousSchemaHash : Option String
  lastKnownGoodAt : Option Time
  toolCount : Nat
  cachedTools : List ToolSchema
  mountedTools : List MountedTool
  lastError : Option ErrorInfo
  recentFailure : Option RecentFailure

/-- The settings `get_toolset_status` reports on. -/
structure RestoreSettings where
  restoreOnStartup : Bool
  stableHostIdentity : Bool

def toolsetStatus (settings : RestoreSettings) (world : World)
    (ns : Namespace) (record : ToolsetRecord) : ToolsetStatus where
  registration := registrationView record
  loadedScopes := record.loadedScopes
  transportState := record.transportState
  stale := record.stale
  staleReason := record.staleReason
  inFlightCalls := world.inFlight ns
  recoverableScopes := record.recoverableScopes
  lastRestoredAt := record.lastRestoredAt
  startupRestoreEnabled := settings.restoreOnStartup
  startupRestoreEligible :=
    !(recoveryScopes record settings.stableHostIdentity false).isEmpty
  explicitRestoreEligible :=
    !(recoveryScopes record settings.stableHostIdentity true).isEmpty
  lastCheckedAt := record.lastHealthCheckedAt
  lastStatus := record.lastHealthStatus
  lastObservedSchemaHash := record.lastHealthObservedSchemaHash
  lastObservedToolCount := record.lastHealthObservedToolCount
  lastHealthError := record.lastHealthError
  schemaHash := record.schemaHash
  previousSchemaHash := record.previousSchemaHash
  lastKnownGoodAt := record.lastKnownGoodAt
  toolCount := record.toolCount
  cachedTools :=
    ((world.snapshot ns).map SchemaSnapshot.tools).getD []
  mountedTools := listMountedTools world ns
  lastError := record.lastError
  recentFailure := recentFailure world.document ns

/-- `get_toolset_status`: a status, or an error, for each namespace. -/
def getToolsetStatus (settings : RestoreSettings) (world : World)
    (namespaces : Option (List Namespace)) :
    List (Except ErrorInfo ToolsetStatus) :=
  (selected world namespaces fun _ => true).map fun ns =>
    match world.record ns with
    | none => .error (unknownToolset ns)
    | some record => .ok (toolsetStatus settings world ns record)

end ToolboxMcp
