import Mathlib.Data.List.Sort
import Mathlib.Data.List.Dedup

/-!
# The data of the supervisor

Records, snapshots, audit events and the state document, with the scope-policy
check every record passes when it is built.  The source's field `namespace` is
a keyword here and is called `ns`; timestamps are ticks of a logical clock.
-/

namespace ToolboxMcp

abbrev Namespace := String

abbrev Time := Nat

/-- JSON values, as they appear in schemas, error details and arguments. -/
inductive Json where
  | null
  | bool (value : Bool)
  | num (value : Int)
  | str (value : String)
  | arr (items : List Json)
  | obj (fields : List (String × Json))
deriving Repr, Inhabited

namespace Json

def ofStr? : Option String → Json
  | some text => .str text
  | none => .null

def strs (items : List String) : Json :=
  .arr (items.map .str)

/-- `value or {}` for an object value. -/
def orEmpty : Json → Json
  | .null => .obj []
  | value => value

def str? : Json → Option String
  | .str text => some text
  | _ => none

def bool? : Json → Option Bool
  | .bool value => some value
  | _ => none

def arr? : Json → Option (List Json)
  | .arr items => some items
  | _ => none

def obj? : Json → Option (List (String × Json))
  | .obj fields => some fields
  | _ => none

end Json

inductive Scope where
  | thread
  | session
  | global
deriving DecidableEq, Repr, Inhabited

namespace Scope

def value : Scope → String
  | .thread => "thread"
  | .session => "session"
  | .global => "global"

/-- `Scope(text)`; `none` stands for the `ValueError`. -/
def parse (text : String) : Option Scope :=
  if text = "thread" then some .thread
  else if text = "session" then some .session
  else if text = "global" then some .global
  else none

def all : List Scope :=
  [.thread, .session, .global]

end Scope

/-- The table `_SCOPE_ORDER`. -/
def scopeOrder : Scope → Nat
  | .thread => 0
  | .session => 1
  | .global => 2

/-- `list.sort(key=_SCOPE_ORDER)`. -/
def sortScopes (scopes : List Scope) : List Scope :=
  scopes.insertionSort fun left right => scopeOrder left ≤ scopeOrder right

def orderedUniqueScopes (scopes : List Scope) : List Scope :=
  sortScopes scopes.dedup

@[simp]
theorem mem_sortScopes {scope : Scope} {scopes : List Scope} :
    scope ∈ sortScopes scopes ↔ scope ∈ scopes := by
  simp [sortScopes]

@[simp]
theorem mem_orderedUniqueScopes {scope : Scope} {scopes : List Scope} :
    scope ∈ orderedUniqueScopes scopes ↔ scope ∈ scopes := by
  simp [orderedUniqueScopes]

inductive TransportState where
  | inactive
  | connecting
  | connected
  | degraded
  | stale
  | failed
deriving DecidableEq, Repr, Inhabited

inductive AuditOperation where
  | register
  | activate
  | refresh
  | deactivate
  | unregister
  | restore
  | clearStale
  | call
  | healthCheck
deriving DecidableEq, Repr

inductive AuditOutcome where
  | success
  | failure
  | skipped
deriving DecidableEq, Repr

inductive HealthStatus where
  | healthy
  | stale
  | failed
deriving DecidableEq, Repr

structure ErrorInfo where
  code : String
  message : String
  ns : Option Namespace := none
  retryable : Bool := false
  details : Option Json := none
deriving Repr

/-- The only transport kind is `stdio`. -/
inductive TransportKind where
  | stdio
deriving DecidableEq, Repr, Inhabited

def TransportKind.value : TransportKind → String
  | .stdio => "stdio"

structure ToolsetTransport where
  kind : TransportKind := .stdio
  command : String
  args : List String := []
  env : List (String × String) := []
  cwd : Option String := none
deriving Repr

structure ToolSchema where
  name : String
  title : Option String := none
  description : Option String := none
  inputSchema : Json := .obj []
  outputSchema : Option Json := none
  toolHash : String
deriving Repr

structure ToolsetRecord where
  ns : Namespace
  title : String
  description : String
  tags : List String := []
  transport : ToolsetTransport
  defaultScope : Scope := .thread
  supportedScopes : List Scope := Scope.all
  restorableScopes : List Scope := []
  recoverableScopes : List Scope := []
  restoreRequiresIdentity : Bool := true
  restoreRequiresExplicitRequest : Bool := true
  loadedScopes : List Scope := []
  transportState : TransportState := .inactive
  stale : Bool := false
  staleReason : Option String := none
  schemaHash : Option String := none
  previousSchemaHash : Option String := none
  toolCount : Nat := 0
  lastActivatedAt : Option Time := none
  lastRefreshedAt : Option Time := none
  lastKnownGoodAt : Option Time := none
  lastRestoredAt : Option Time := none
  lastHealthCheckedAt : Option Time := none
  lastHealthStatus : Option HealthStatus := none
  lastHealthObservedSchemaHash : Option String := none
  lastHealthObservedToolCount : Option Nat := none
  lastHealthError : Option ErrorInfo := none
  lastError : Option ErrorInfo := none
  authRequired : Bool := false
deriving Repr

/-- The message of the first scope-list check that fails. -/
def scopesOutside
    (message : String) (kind : String)
    (scopes permitted : List Scope) : Except String Unit :=
  let outside := scopes.filter fun scope => scope ∉ permitted
  if outside.isEmpty then
    .ok ()
  else
    .error
      (message ++ " (" ++ kind ++ ": " ++
        ", ".intercalate (outside.map Scope.value) ++ ")")

/-- The four scope lists in canonical form. -/
def normalizeScopes (record : ToolsetRecord) : ToolsetRecord :=
  { record with
    supportedScopes := orderedUniqueScopes record.supportedScopes
    restorableScopes := orderedUniqueScopes record.restorableScopes
    recoverableScopes := orderedUniqueScopes record.recoverableScopes
    loadedScopes := orderedUniqueScopes record.loadedScopes }

/-- The checks of `ToolsetRecord.validate_scope_policy`, in order. -/
def checkScopePolicy (record : ToolsetRecord) : Except String Unit := do
  if record.defaultScope ∉ record.supportedScopes then
    throw ("default_scope '" ++ record.defaultScope.value ++
      "' must be included in supported_scopes")
  scopesOutside "loaded_scopes must stay within supported_scopes"
    "unsupported" record.loadedScopes record.supportedScopes
  scopesOutside "restorable_scopes must stay within supported_scopes"
    "unsupported" record.restorableScopes record.supportedScopes
  if .thread ∈ record.restorableScopes then
    throw "thread scope cannot be marked restorable"
  scopesOutside "recoverable_scopes must stay within supported_scopes"
    "unsupported" record.recoverableScopes record.supportedScopes
  scopesOutside "recoverable_scopes must stay within restorable_scopes"
    "non-restorable" record.recoverableScopes record.restorableScopes

def validateScopePolicy
    (record : ToolsetRecord) : Except String ToolsetRecord := do
  checkScopePolicy (normalizeScopes record)
  return normalizeScopes record

/-- What the validator establishes of a record. -/
structure ScopePolicyValid (record : ToolsetRecord) : Prop where
  default_supported : record.defaultScope ∈ record.supportedScopes
  loaded_supported :
    ∀ scope ∈ record.loadedScopes, scope ∈ record.supportedScopes
  restorable_supported :
    ∀ scope ∈ record.restorableScopes, scope ∈ record.supportedScopes
  thread_not_restorable : .thread ∉ record.restorableScopes
  recoverable_restorable :
    ∀ scope ∈ record.recoverableScopes, scope ∈ record.restorableScopes

theorem scopesOutside_eq_ok
    {message kind : String} {scopes permitted : List Scope} :
    scopesOutside message kind scopes permitted = .ok () ↔
      ∀ scope ∈ scopes, scope ∈ permitted := by
  unfold scopesOutside
  simp only [List.isEmpty_iff, List.filter_eq_nil_iff, decide_not,
    Bool.not_eq_true', decide_eq_false_iff_not, not_not]
  split <;> simp_all

private theorem sequence_eq_ok {first second : Except String Unit} :
    (first >>= fun _ => second) = .ok () ↔
      first = .ok () ∧ second = .ok () := by
  cases first with
  | error message =>
      simp [bind, Except.bind]
  | ok value =>
      simp [bind, Except.bind]

private theorem throw_ne_ok {message : String} :
    (throw message : Except String Unit) ≠ .ok () := by
  intro equal
  cases equal

theorem checkScopePolicy_eq_ok {record : ToolsetRecord} :
    checkScopePolicy record = .ok () ↔ ScopePolicyValid record := by
  unfold checkScopePolicy
  by_cases defaults : record.defaultScope ∈ record.supportedScopes
  · by_cases thread : .thread ∈ record.restorableScopes
    · simp only [defaults, thread, not_true_eq_false, if_false, if_true,
        sequence_eq_ok, throw_ne_ok, false_and, and_false, false_iff]
      exact fun valid => valid.thread_not_restorable thread
    · simp only [defaults, thread, not_true_eq_false, if_false,
        sequence_eq_ok, scopesOutside_eq_ok]
      constructor
      · rintro ⟨loaded, restorable, _, recoverable⟩
        exact ⟨defaults, loaded, restorable, thread, recoverable⟩
      · intro valid
        exact ⟨valid.loaded_supported, valid.restorable_supported,
          fun scope member =>
            valid.restorable_supported scope
              (valid.recoverable_restorable scope member),
          valid.recoverable_restorable⟩
  · simp only [defaults, not_false_eq_true, if_true, sequence_eq_ok,
      throw_ne_ok, false_and, false_iff]
    exact fun valid => defaults valid.default_supported

theorem validateScopePolicy_eq_ok {record valid : ToolsetRecord} :
    validateScopePolicy record = .ok valid ↔
      valid = normalizeScopes record ∧ ScopePolicyValid valid := by
  unfold validateScopePolicy
  cases checked : checkScopePolicy (normalizeScopes record) with
  | error message =>
      have invalid : ¬ ScopePolicyValid (normalizeScopes record) := by
        rw [← checkScopePolicy_eq_ok, checked]
        simp
      simp only [bind, Except.bind, reduceCtorEq, false_iff, not_and]
      rintro rfl
      exact invalid
  | ok value =>
      have holds := checkScopePolicy_eq_ok.mp checked
      simp only [bind, Except.bind, pure, Except.pure, Except.ok.injEq]
      constructor
      · rintro rfl
        exact ⟨rfl, holds⟩
      · rintro ⟨rfl, _⟩
        rfl

structure SchemaSnapshot where
  ns : Namespace
  schemaHash : String
  toolCount : Nat
  tools : List ToolSchema
  capturedAt : Time
deriving Repr

structure StoredAuditEvent where
  sequence : Nat := 0
  timestamp : Time
  operation : AuditOperation
  outcome : AuditOutcome
  ns : Option Namespace := none
  scope : Option Scope := none
  details : Json := .obj []
  error : Option ErrorInfo := none
deriving Repr

structure StateDocument where
  version : Nat := 2
  toolsets : List ToolsetRecord := []
  schemaCache : List SchemaSnapshot := []
  previousSchemaCache : List SchemaSnapshot := []
  auditLog : List StoredAuditEvent := []
  nextAuditSequence : Nat := 1
deriving Repr

structure ActivationResult where
  ns : Namespace
  scope : Scope
  toolCount : Nat
  schemaHash : String
deriving Repr

structure HealthCheckResult where
  ns : Namespace
  status : HealthStatus
  transportState : TransportState
  loadedScopes : List Scope := []
  stale : Bool := false
  staleReason : Option String := none
  cachedSchemaHash : Option String := none
  observedSchemaHash : Option String := none
  observedToolCount : Option Nat := none
  lastCheckedAt : Option Time := none
  error : Option ErrorInfo := none
deriving Repr

structure RestoreResult where
  ns : Namespace
  restoredScopes : List Scope := []
  toolCount : Nat
  schemaHash : String
  reusedRuntime : Bool := false
deriving Repr

structure ClearStaleResult where
  ns : Namespace
  transportState : TransportState
  clearedStaleReason : Option String := none
deriving Repr

structure RefreshResult where
  ns : Namespace
  oldSchemaHash : Option String := none
  newSchemaHash : String
  addedTools : List String := []
  removedTools : List String := []
  changedTools : List String := []
deriving Repr

structure MountedTool where
  ns : Namespace
  mountedName : String
  sourceName : String
  title : Option String := none
  description : Option String := none
  inputSchema : Json := .obj []
  outputSchema : Option Json := none
deriving Repr

end ToolboxMcp
