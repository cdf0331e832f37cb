import ToolboxMcp.Library.Effect
import ToolboxMcp.ScopeManager
import ToolboxMcp.TransportManager

/-!
# What a service coroutine does between two awaits

`ServiceM` programs run without interruption on the shared `World`.  This file
has the effects all operations are made of: store writes, the clock, the audit
log, the transport manager's synchronous parts, and the two record updates
shared by calls and health checks.
-/

namespace ToolboxMcp

open Effect

/-- What may propagate out of an await or a statement. -/
inductive Raised where
  | exception (exception : PyException)
  | cancelled
deriving DecidableEq, Repr

abbrev ServiceM :=
  Effect World Raised

/-- `except Exception`: a cancellation passes. -/
def Raised.caught : Raised → Option PyException
  | .exception raised => some raised
  | .cancelled => none

def tryExcept {α : Type} (program : ServiceM α) :
    ServiceM (Except PyException α) :=
  attempt Raised.caught program

/-! ## The store and the clock -/

def storeWrite (change : StateDocument → StateDocument) : ServiceM Unit := do
  let world ← get
  match world.nextFault with
  | some exception =>
      set world.fault
      throw (.exception exception)
  | none =>
      set (world.write change)

def utcNow : ServiceM Time := do
  let world ← get
  set world.tick
  return world.clock

def upsertToolset (record : ToolsetRecord) : ServiceM Unit :=
  storeWrite fun document => document.upsertToolset record

def replaceSchemaSnapshot (snapshot : SchemaSnapshot) : ServiceM Unit :=
  storeWrite fun document => document.replaceSchemaSnapshot snapshot

def appendAuditEvent
    (operation : AuditOperation) (outcome : AuditOutcome)
    (ns : Option Namespace) (scope : Option Scope)
    (details : List (String × Json)) (error : Option ErrorInfo) :
    ServiceM Unit := do
  let timestamp ← utcNow
  storeWrite fun document =>
    document.appendAuditEvent defaultAuditRetentionLimit
      { timestamp := timestamp
        operation := operation
        outcome := outcome
        ns := ns
        scope := scope
        details := .obj details
        error := error }

def auditScope
    (record : Option ToolsetRecord) (preferred : Option Scope) :
    Option Scope :=
  match preferred, record with
  | some scope, _ => some scope
  | none, some record =>
      match record.loadedScopes with
      | [scope] => some scope
      | _ => none
  | none, none => none

def scopeValues (scopes : List Scope) : Json :=
  .strs (scopes.map Scope.value)

/-! ## Transport -/

/-- A `close()` in progress; `commanded` when a close command was queued, so
that its reply may still be an exception. -/
structure Closing where
  runtime : RuntimeId
  commanded : Bool
deriving Repr

/-- `ManagedToolsetRuntime.close` up to its first await: the flag is set, and a
runtime that was running is sent a close command. -/
def beginClose (runtime : RuntimeId) : ServiceM Closing := do
  let world ← get
  set (world.markClosed runtime)
  return ⟨runtime, world.isRunning runtime⟩

/-- How `close()` ends.  Its timeout is handled inside, and without a command
there is no reply that could be an exception. -/
def Closing.raises {α : Type} (closing : Closing) :
    Except Raised α → Option Raised
  | .ok _ => none
  | .error .cancelled => some .cancelled
  | .error (.exception exception) =>
      if closing.commanded && !exception.timeout then
        some (.exception exception)
      else
        none

/-- The rest of `close()`: by the time it is left, the actor is done. -/
def finishClose {α : Type}
    (closing : Closing) (reply : Except Raised α) : ServiceM Unit := do
  modify fun world => world.markDone closing.runtime
  match closing.raises reply with
  | some raised => throw raised
  | none => return

/-- Install the new runtime; the replaced one is left to close. -/
def swapRuntime (ns : Namespace) (runtime : RuntimeId) :
    ServiceM (Option Closing) := do
  let world ← get
  set (world.mount ns runtime)
  match world.mounted ns with
  | some existing => return some (← beginClose existing)
  | none => return none

def disconnect (ns : Namespace) : ServiceM (Option Closing) := do
  let world ← get
  match world.mounted ns with
  | some existing =>
      set (world.unmount ns)
      return some (← beginClose existing)
  | none => return none

section Inventories

variable [Platform]

/-- How awaiting the bootstrap future ends in `open_runtime`. -/
def bootstrapped
    (ns : Namespace) (timeout : Nat) :
    Except Raised (List Tool) → Except Raised (List Tool × List ToolSchema)
  | .ok tools =>
      match validateToolInventory ns tools with
      | .ok normalized => .ok (tools, normalized)
      | .error exception => .error (.exception exception)
  | .error (.exception exception) =>
      if exception.timeout then
        .error <| .exception
          { timeout := true
            message :=
              "Timed out bootstrapping managed runtime for " ++ ns ++
                " after " ++ renderSeconds timeout }
      else
        .error (.exception exception)
  | .error .cancelled => .error .cancelled

def buildSnapshot (ns : Namespace) (tools : List ToolSchema) :
    ServiceM SchemaSnapshot := do
  let now ← utcNow
  return {
    ns := ns
    schemaHash := inventoryHash tools
    toolCount := tools.length
    tools := tools
    capturedAt := now }

end Inventories

/-! ## Record updates -/

def unknownToolset (ns : Namespace) : ErrorInfo where
  code := "unknown_toolset"
  message := "Unknown toolset: " ++ ns
  ns := some ns

def clearHealthState (record : ToolsetRecord) : ToolsetRecord :=
  { record with
    lastHealthStatus := none
    lastHealthCheckedAt := none
    lastHealthObservedSchemaHash := none
    lastHealthObservedToolCount := none
    lastHealthError := none }

/-- `STALE if has_connection else FAILED`. -/
def failureState (connected : Bool) : TransportState :=
  if connected then .stale else .failed

def failedRuntimeRecord
    (record : ToolsetRecord) (connected : Bool) (staleReason : String)
    (error : ErrorInfo) : ToolsetRecord :=
  { record with
    transportState := failureState connected
    stale := true
    staleReason := some staleReason
    lastError := some error }

def recordRuntimeFailure
    (ns : Namespace) (code message staleReason : String)
    (details : Option Json) : ServiceM (Option ErrorInfo) := do
  let world ← get
  match world.record ns with
  | none => return none
  | some record =>
      let error : ErrorInfo :=
        { code := code
          message := message
          ns := some ns
          retryable := true
          details := details }
      upsertToolset
        (failedRuntimeRecord record (world.hasConnection ns) staleReason
          error)
      return some error

/-- Only a healthy check looks at the transport state. -/
def observedRecord
    (record : ToolsetRecord) (connected : Bool) (status : HealthStatus)
    (observedSchemaHash : Option String) (observedToolCount : Option Nat)
    (error : Option ErrorInfo) (now : Time) : ToolsetRecord :=
  { record with
    lastHealthCheckedAt := some now
    lastHealthStatus := some status
    lastHealthObservedSchemaHash := observedSchemaHash
    lastHealthObservedToolCount := observedToolCount
    lastHealthError := error
    transportState :=
      if status = .healthy ∧ connected then .connected
      else record.transportState }

def recordHealthObservation
    (ns : Namespace) (status : HealthStatus)
    (observedSchemaHash : Option String) (observedToolCount : Option Nat)
    (error : Option ErrorInfo) : ServiceM HealthCheckResult := do
  let world ← get
  match world.record ns with
  | none =>
      throw (.exception { message := "Unknown toolset: " ++ ns })
  | some record =>
      let now ← utcNow
      let observed :=
        observedRecord record (world.hasConnection ns) status
          observedSchemaHash observedToolCount error now
      upsertToolset observed
      return {
        ns := ns
        status := status
        transportState := observed.transportState
        loadedScopes := observed.loadedScopes
        stale := observed.stale
        staleReason := observed.staleReason
        cachedSchemaHash := observed.schemaHash
        observedSchemaHash := observedSchemaHash
        observedToolCount := observedToolCount
        lastCheckedAt := some now
        error := error }

end ToolboxMcp
