import ToolboxMcp.Service.Lifecycle

/-!
# Requests

What a client asks for, before any lock is taken: the checks on raw arguments
and the choice of the namespaces to visit.
-/

namespace ToolboxMcp

inductive Request where
  | registerToolset
      (ns : Namespace) (transport : Except String ToolsetTransport)
      (registration : Registration)
  | activateToolsets
      (namespaces : List Namespace) (scope : String) (ifNotLoaded : Bool)
  | refreshToolsets
      (namespaces : Option (List Namespace)) (ifStale : Bool)
      (scope : Option String)
  | deactivateToolsets
      (namespaces : List Namespace) (scope : String) (force : Bool)
  | restoreToolsets
      (namespaces : Option (List Namespace))
      (stableHostIdentity startup : Bool)
  | checkToolsetHealth
      (namespaces : Option (List Namespace)) (scope : Option String)
  | clearStaleToolsets (namespaces : Option (List Namespace))
  | markToolsetStale (ns : Namespace) (reason : String)
  | unregisterToolsets (namespaces : List Namespace) (force : Bool)

/-- A request is answered at once or becomes visits to namespaces. -/
inductive Admission where
  | refused (error : ErrorInfo)
  | admitted (operation : Operation) (namespaces : List Namespace)

/-- `namespaces or [...]`: an empty list selects by the predicate. -/
def selected
    (world : World) (namespaces : Option (List Namespace))
    (wanted : ToolsetRecord → Bool) : List Namespace :=
  match namespaces with
  | some (first :: rest) => first :: rest
  | _ => (world.document.toolsets.filter wanted).map ToolsetRecord.ns

def invalidScope (text : String) : ErrorInfo where
  code := "invalid_scope"
  message := "Unsupported scope: " ++ text

def refuse
    (operation : AuditOperation) (error : ErrorInfo) :
    ServiceM Admission := do
  appendAuditEvent operation .failure error.ns none [] (some error)
  return .refused error

/-- Parse an optional scope argument; `error` holds an unsupported text. -/
def parseScope : Option String → Except String (Option Scope)
  | none => .ok none
  | some text =>
      match Scope.parse text with
      | some scope => .ok (some scope)
      | none => .error text

section Registration

variable [Platform]

/-- `_is_valid_namespace`. -/
def isValidNamespace (ns : Namespace) : Bool :=
  ns ≠ "" &&
    ns.toList.all fun character =>
      Platform.isalnum character || character = '_' || character = '-'

def acceptRegister
    (ns : Namespace) (transport : Except String ToolsetTransport)
    (registration : Registration) : ServiceM Admission :=
  if !isValidNamespace ns then
    refuse .register
      { code := "invalid_namespace"
        message :=
          "Namespaces may only contain letters, numbers, underscores, " ++
            "and hyphens."
        ns := if ns = "" then none else some ns }
  else
    match transport with
    | .error message =>
        refuse .register
          { code := "invalid_transport", message := message, ns := some ns }
    | .ok transport =>
        return .admitted (.register transport registration) [ns]

def accept : Request → ServiceM Admission
  | .registerToolset ns transport registration =>
      acceptRegister ns transport registration
  | .activateToolsets namespaces scope ifNotLoaded =>
      match Scope.parse scope with
      | some scope => return .admitted (.activate scope ifNotLoaded) namespaces
      | none => refuse .activate (invalidScope scope)
  | .refreshToolsets namespaces ifStale scope => do
      match parseScope scope with
      | .ok scope =>
          let world ← get
          return .admitted (.refresh ifStale scope)
            (selected world namespaces fun _ => true)
      | .error text => refuse .refresh (invalidScope text)
  | .deactivateToolsets namespaces scope force =>
      match Scope.parse scope with
      | some scope => return .admitted (.deactivate scope force) namespaces
      | none => refuse .deactivate (invalidScope scope)
  | .restoreToolsets namespaces stableHostIdentity startup => do
      let world ← get
      return .admitted (.restore stableHostIdentity startup)
        (selected world namespaces fun record =>
          !record.recoverableScopes.isEmpty)
  | .checkToolsetHealth namespaces scope => do
      match parseScope scope with
      | .ok scope =>
          let world ← get
          return .admitted (.checkHealth scope)
            (selected world namespaces fun record =>
              !record.loadedScopes.isEmpty)
      | .error text => refuse .healthCheck (invalidScope text)
  | .clearStaleToolsets namespaces => do
      let world ← get
      return .admitted .clearStale
        (selected world namespaces fun record =>
          record.stale || failedCheck record)
  | .markToolsetStale ns reason => return .admitted (.markStale reason) [ns]
  | .unregisterToolsets namespaces force =>
      return .admitted (.unregister force) namespaces

end Registration

end ToolboxMcp
