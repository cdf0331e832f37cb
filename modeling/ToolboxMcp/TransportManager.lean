import Mathlib.Tactic.Simps.Basic
import ToolboxMcp.Registry
import ToolboxMcp.Validation

/-!
# Live runtimes and the state of the service process

`World` is everything the service's coroutines share: the persisted document,
the dictionary of namespace locks, the runtimes mounted by the transport
manager with the in-flight counters, and the runtime objects themselves.  A
runtime is known by its identity, since a namespace may change runtimes while
somebody still holds the old one.

`writeFaults` is the environment's choice of which coming store writes fail;
it is consumed write by write and an exhausted list means success.  `written`
keeps every document a write has put in the state file; no program reads it.
-/

namespace ToolboxMcp

abbrev RuntimeId := Nat

abbrev LockId := Nat

structure ManagedToolsetRuntime where
  ns : Namespace
  tools : List Tool := []
  /-- The flag `_closed`. -/
  closed : Bool := false
  /-- `_task.done()`. -/
  done : Bool := false

def ManagedToolsetRuntime.isRunning (runtime : ManagedToolsetRuntime) : Bool :=
  !runtime.done && !runtime.closed

/-- Timeouts of the transport manager, in hundredths of a second. -/
structure TransportRuntimeBudget where
  bootstrapTimeout : Nat := 1000
  callTimeout : Nat := 3000
  healthTimeout : Nat := 500
  shutdownTimeout : Nat := 500

/-- `f"{seconds:.2f}s"`. -/
def renderSeconds (hundredths : Nat) : String :=
  toString (hundredths / 100) ++ "." ++
    (if hundredths % 100 < 10 then "0" else "") ++
    toString (hundredths % 100) ++ "s"

/-- What the service is started with. -/
structure HostConfig where
  executable : String := "python"
  workspace : String := "/workspace"
  manifestPath : String := "/workspace/.toolbox/fake_toolset_manifest.json"
  pythonPath : Option String := none
  pathSeparator : String := ":"
  budget : TransportRuntimeBudget := {}

structure World where
  config : HostConfig := {}
  document : StateDocument := {}
  writeFaults : List (Option PyException) := []
  clock : Time := 0
  namespaceLocks : Dict Namespace LockId := []
  runtimes : Dict Namespace RuntimeId := []
  objects : RuntimeId → ManagedToolsetRuntime :=
    fun _ => { ns := "", done := true }
  nextRuntime : RuntimeId := 0
  inFlight : Namespace → Nat := fun _ => 0
  /-- The documents written so far, the last one first. -/
  written : List StateDocument := []

namespace World

variable (world : World)

@[simp]
def record (ns : Namespace) : Option ToolsetRecord :=
  world.document.getToolset ns

@[simp]
def snapshot (ns : Namespace) : Option SchemaSnapshot :=
  world.document.getSchemaSnapshot ns

@[simp]
def previousSnapshot (ns : Namespace) : Option SchemaSnapshot :=
  world.document.getPreviousSchemaSnapshot ns

/-- `_runtimes.get(namespace)`. -/
@[simp]
def mounted (ns : Namespace) : Option RuntimeId :=
  world.runtimes.get ns

def isRunning (runtime : RuntimeId) : Bool :=
  (world.objects runtime).isRunning

def hasConnection (ns : Namespace) : Bool :=
  (world.mounted ns).any world.isRunning

def runtimeFor (ns : Namespace) : Option RuntimeId :=
  (world.mounted ns).filter world.isRunning

def mountedNamespaces : List Namespace :=
  sortNames <|
    (world.runtimes.filter fun entry => world.isRunning entry.2).map Prod.fst

/-! ## Changes -/

@[simps -fullyApplied]
def setLockEntry (ns : Namespace) (lock : LockId) : World :=
  { world with namespaceLocks := world.namespaceLocks.set ns lock }

@[simps -fullyApplied]
def popLockEntry (ns : Namespace) : World :=
  { world with namespaceLocks := world.namespaceLocks.pop ns }

@[simps -fullyApplied]
def mount (ns : Namespace) (runtime : RuntimeId) : World :=
  { world with runtimes := world.runtimes.set ns runtime }

@[simps -fullyApplied]
def unmount (ns : Namespace) : World :=
  { world with runtimes := world.runtimes.pop ns }

/-- A new actor task, not yet bootstrapped. -/
@[simps -fullyApplied]
def spawnRuntime (ns : Namespace) : World :=
  { world with
    objects := Function.update world.objects world.nextRuntime { ns := ns }
    nextRuntime := world.nextRuntime + 1 }

@[simps -fullyApplied]
def setTools (runtime : RuntimeId) (tools : List Tool) : World :=
  { world with
    objects :=
      Function.update world.objects runtime
        { world.objects runtime with tools := tools } }

@[simps -fullyApplied]
def markClosed (runtime : RuntimeId) : World :=
  { world with
    objects :=
      Function.update world.objects runtime
        { world.objects runtime with closed := true } }

@[simps -fullyApplied]
def markDone (runtime : RuntimeId) : World :=
  { world with
    objects :=
      Function.update world.objects runtime
        { world.objects runtime with done := true } }

@[simps -fullyApplied]
def noteCallStarted (ns : Namespace) : World :=
  { world with
    inFlight := Function.update world.inFlight ns (world.inFlight ns + 1) }

/-- `max(0, count - 1)`, which is truncated subtraction. -/
@[simps -fullyApplied]
def noteCallFinished (ns : Namespace) : World :=
  { world with
    inFlight := Function.update world.inFlight ns (world.inFlight ns - 1) }

/-- The failure the environment has in store for the next write. -/
def nextFault : Option PyException :=
  world.writeFaults.head?.join

/-- A store write that succeeds. -/
@[simps -fullyApplied]
def write (change : StateDocument → StateDocument) : World :=
  { world with
    document := change world.document
    writeFaults := world.writeFaults.tail
    written := change world.document :: world.written }

/-- A store write that fails before the file is replaced. -/
@[simps -fullyApplied]
def fault : World :=
  { world with writeFaults := world.writeFaults.tail }

@[simps -fullyApplied]
def tick : World :=
  { world with clock := world.clock + 1 }

/-! ## Observations -/

variable {world}

@[simp]
theorem isRunning_iff {runtime : RuntimeId} :
    world.isRunning runtime = true ↔
      (world.objects runtime).done = false ∧
        (world.objects runtime).closed = false := by
  simp [isRunning, ManagedToolsetRuntime.isRunning]

theorem runtimeFor_eq_some {ns : Namespace} {runtime : RuntimeId} :
    world.runtimeFor ns = some runtime ↔
      world.mounted ns = some runtime ∧ world.isRunning runtime = true := by
  simp [runtimeFor, Option.filter_eq_some_iff]

theorem hasConnection_iff {ns : Namespace} :
    world.hasConnection ns = true ↔
      ∃ runtime,
        world.mounted ns = some runtime ∧
          world.isRunning runtime = true := by
  simp [hasConnection, Option.any_eq_true]

theorem runtimeFor_eq_none {ns : Namespace} :
    world.runtimeFor ns = none ↔ world.hasConnection ns = false := by
  rw [← Bool.not_eq_true, hasConnection_iff]
  cases found : world.runtimeFor ns with
  | none =>
      simp only [true_iff]
      rintro ⟨runtime, running⟩
      rw [← runtimeFor_eq_some, found] at running
      cases running
  | some runtime =>
      have running := runtimeFor_eq_some.mp found
      simp only [reduceCtorEq, false_iff, not_not]
      exact ⟨runtime, running⟩

/-! ## Faultless stores -/

/-- No coming store write fails. -/
def Reliable (world : World) : Prop :=
  ∀ fault ∈ world.writeFaults, fault = none

theorem Reliable.nextFault
    (reliable : world.Reliable) : world.nextFault = none := by
  unfold World.nextFault
  cases faults : world.writeFaults with
  | nil =>
      rfl
  | cons first rest =>
      have passes : first = none :=
        reliable first (by simp [faults])
      simp [passes]

theorem Reliable.write
    (reliable : world.Reliable)
    (change : StateDocument → StateDocument) :
    (world.write change).Reliable :=
  fun fault member => reliable fault (List.mem_of_mem_tail member)

end World

end ToolboxMcp
