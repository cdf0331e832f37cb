import ToolboxMcp.Service.Core

/-!
# Process start

A new process has no runtimes, no locks and no calls in flight; only the
document survives.  Startup re-creates the bundled toolset if it is missing and
turns loaded scopes into recoverable ones.
-/

namespace ToolboxMcp

/-- What a new process starts from. -/
def World.restarted (world : World) : World :=
  { world with
    namespaceLocks := []
    runtimes := []
    inFlight := fun _ => 0 }

def mergedPythonpath (config : HostConfig) : String :=
  match config.pythonPath with
  | some existing =>
      if existing = "" then
        config.workspace
      else
        config.workspace ++ config.pathSeparator ++ existing
  | none => config.workspace

/-- The toolset registered by `_bootstrap_defaults`. -/
def fakeToolset (config : HostConfig) : ToolsetRecord where
  ns := "fake_stdio"
  title := "Fake Managed Stdio Toolset"
  description :=
    "A fake managed MCP server used to prove activation, refresh, and " ++
      "deactivation flows."
  tags := ["fake", "test", "stdio", "managed"]
  transport :=
    { command := config.executable
      args :=
        ["-m", "toolbox.fake_managed_server", "--manifest",
         config.manifestPath]
      env := [("PYTHONPATH", mergedPythonpath config)]
      cwd := some config.workspace }
  defaultScope := .thread

def bootstrapDefaults : ServiceM Unit := do
  let world ← get
  match world.record "fake_stdio" with
  | some _ => return
  | none => upsertToolset (fakeToolset world.config)

def reconciledRecord (record : ToolsetRecord) : ToolsetRecord :=
  { record with
    recoverableScopes :=
      if record.recoverableScopes.isEmpty then
        record.loadedScopes.filter fun scope =>
          scope ∈ record.restorableScopes
      else
        record.recoverableScopes
    loadedScopes := []
    transportState := .inactive }

/-- The flag `changed`. -/
def needsReconciling (record : ToolsetRecord) : Bool :=
  record.recoverableScopes ≠ (reconciledRecord record).recoverableScopes ∨
    record.loadedScopes ≠ [] ∨ record.transportState ≠ .inactive

def reconcileRecords : List ToolsetRecord → ServiceM Unit
  | [] => return
  | record :: rest => do
      if needsReconciling record then
        upsertToolset (reconciledRecord record)
      reconcileRecords rest

/-- `ToolboxService.__init__` in a new process. -/
def startService : ServiceM Unit := do
  modify World.restarted
  bootstrapDefaults
  let world ← get
  reconcileRecords world.document.toolsets

/-- A host that has the bundled toolset and nothing else. -/
def bundledWorld : World where
  document := { toolsets := [fakeToolset {}] }

end ToolboxMcp
