import ToolboxMcp.Service.Core

/-!
# Mounted calls

`call_mounted_tool` resolves the mounted name, enters the namespace's lock to
resolve it again and count the call, and dispatches it after leaving the lock.
The call then waits outside the lock; so does its failure handler.  A second
visit to the lock takes the call off the count, whatever happened.
-/

namespace ToolboxMcp

open Effect

def mountedToolName (ns : Namespace) (sourceName : String) : String :=
  ns ++ "." ++ sourceName

/-- `text[len(head):]` when `text.startswith(head)`. -/
def afterPrefix (head text : String) : Option String :=
  if head.toList.isPrefixOf text.toList then
    some (String.ofList (text.toList.drop head.toList.length))
  else
    none

def mountedToolOf
    (ns : Namespace) (mountedName : String) (tool : Tool) : MountedTool where
  ns := ns
  mountedName := mountedName
  sourceName := tool.name
  title := tool.title
  description := tool.description
  inputSchema := tool.inputSchema.orEmpty
  outputSchema := tool.outputSchema

/-- The tool of `ns` the mounted name refers to. -/
def resolveIn (world : World) (mountedName : String) (ns : Namespace) :
    Option MountedTool := do
  let sourceName ← afterPrefix (ns ++ ".") mountedName
  let runtime ← world.runtimeFor ns
  let tool ←
    (world.objects runtime).tools.find? fun tool => tool.name = sourceName
  return mountedToolOf ns mountedName tool

/-- Longer namespaces are tried first. -/
def resolveMountedTool (world : World) (mountedName : String) :
    Option MountedTool :=
  let byLength :=
    world.mountedNamespaces.insertionSort fun left right =>
      right.length ≤ left.length
  byLength.findSome? (resolveIn world mountedName)

/-- A resolved tool belongs to a running runtime. -/
theorem resolveMountedTool_running {world : World} {mountedName : String}
    {tool : MountedTool}
    (resolved : resolveMountedTool world mountedName = some tool) :
    ∃ runtime, world.runtimeFor tool.ns = some runtime := by
  obtain ⟨ns, _, found⟩ := List.exists_of_findSome?_eq_some resolved
  simp only [resolveIn, bind, Option.bind_eq_some_iff, pure,
    Option.some.injEq] at found
  obtain ⟨_, _, runtime, running, _, _, rfl⟩ := found
  exact ⟨runtime, running⟩

inductive ContentBlock where
  | text (text : String)
  | other
deriving Repr, DecidableEq

structure CallToolResult where
  content : List ContentBlock := []
  structuredContent : Option Json := none
  isError : Bool := false

/-- Where a started call is suspended. -/
inductive CallStage where
  | calling (runtime : RuntimeId)
  | aborting (runtime : RuntimeId)
  | disconnecting (closing : Closing) (exception : PyException)

inductive CallProgress where
  | inside (stage : CallStage)
  | returned (result : CallToolResult)

def unknownMountedTool (mountedName : String) : Raised :=
  .exception { message := "Unknown mounted tool: " ++ mountedName }

/-- Before the lock: the namespace whose lock the call enters. -/
def locateCall (mountedName : String) : ServiceM Namespace := do
  let world ← get
  match resolveMountedTool world mountedName with
  | some tool => return tool.ns
  | none => throw (unknownMountedTool mountedName)

/-- Inside the lock: resolve again and count the call. -/
def admitCall (mountedName : String) : ServiceM MountedTool := do
  let world ← get
  match resolveMountedTool world mountedName with
  | some tool =>
      set (world.noteCallStarted tool.ns)
      return tool
  | none => throw (unknownMountedTool mountedName)

/-- The failure handler after its disconnect; it re-raises. -/
def finishCallFailure
    (tool : MountedTool) (exception : PyException) :
    ServiceM CallProgress := do
  let code := if exception.timeout then "call_timeout" else "transport_failed"
  let staleReason :=
    if exception.timeout then "call_timeout" else "call_failed"
  let error ←
    recordRuntimeFailure tool.ns code exception.message staleReason
      (some (.obj [("mounted_tool", .str tool.mountedName)]))
  let world ← get
  appendAuditEvent .call .failure (some tool.ns)
    (auditScope (world.record tool.ns) none)
    [("mounted_tool", .str tool.mountedName),
     ("stale_reason", .str staleReason)]
    error
  throw (.exception exception)

/-- The failure handler: it disconnects whatever runtime the namespace has. -/
def callFailed (tool : MountedTool) (exception : PyException) :
    ServiceM CallProgress := do
  match ← disconnect tool.ns with
  | some closing => return .inside (.disconnecting closing exception)
  | none => finishCallFailure tool exception

/-- Outside the lock: hand the call to the runtime mounted now. -/
def dispatchCall (tool : MountedTool) : ServiceM CallProgress := do
  let world ← get
  match world.runtimeFor tool.ns with
  | some runtime => return .inside (.calling runtime)
  | none =>
      callFailed tool
        { message := "Toolset " ++ tool.ns ++ " is not connected" }

def resumeCall
    (tool : MountedTool) (stage : CallStage)
    (reply : Except Raised CallToolResult) : ServiceM CallProgress := do
  match stage with
  | .calling runtime =>
      match reply with
      | .ok result => return .returned result
      | .error (.exception exception) =>
          if exception.timeout then
            modify fun world => world.markClosed runtime
            return .inside (.aborting runtime)
          else
            callFailed tool exception
      | .error .cancelled => throw .cancelled
  | .aborting runtime =>
      let world ← get
      set (world.markDone runtime)
      match reply with
      | .error .cancelled => throw .cancelled
      | _ =>
          callFailed tool
            { timeout := true
              message :=
                "Mounted tool call timed out for " ++ tool.ns ++ "." ++
                  tool.sourceName ++ " after " ++
                  renderSeconds world.config.budget.callTimeout }
  | .disconnecting closing exception =>
      finishClose closing reply
      finishCallFailure tool exception

end ToolboxMcp
