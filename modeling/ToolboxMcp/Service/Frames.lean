import ToolboxMcp.Service.Calls
import ToolboxMcp.Service.Lifecycle

/-!
# What the operations leave alone

Most of a body only touches the document.  `Quiet ns` says that a program has
left the transport side alone, and in the document everything that belongs to
other namespaces; registered namespaces stay registered.  The synchronous parts
of the transport manager get execution rules instead.
-/

namespace ToolboxMcp

open Effect

/-- Everything outside the document is as before, the store has not become less
reliable, and distinct records have stayed distinct. -/
structure SameTransport (before after : World) : Prop where
  config : after.config = before.config
  namespaceLocks : after.namespaceLocks = before.namespaceLocks
  runtimes : after.runtimes = before.runtimes
  objects : after.objects = before.objects
  nextRuntime : after.nextRuntime = before.nextRuntime
  inFlight : after.inFlight = before.inFlight
  reliable : before.Reliable → after.Reliable
  distinct : before.document.Distinct → after.document.Distinct

structure Quiet (ns : Namespace) (before after : World) : Prop
    extends SameTransport before after where
  records :
    ∀ other, other ≠ ns →
      after.document.getToolset other = before.document.getToolset other
  snapshots :
    ∀ other, other ≠ ns →
      after.document.getSchemaSnapshot other =
        before.document.getSchemaSnapshot other
  previousSnapshots :
    ∀ other, other ≠ ns →
      after.document.getPreviousSchemaSnapshot other =
        before.document.getPreviousSchemaSnapshot other
  registered :
    (before.document.getToolset ns).isSome →
      (after.document.getToolset ns).isSome

theorem SameTransport.refl (world : World) : SameTransport world world :=
  ⟨rfl, rfl, rfl, rfl, rfl, rfl, id, id⟩

theorem SameTransport.write
    (world : World) (change : StateDocument → StateDocument)
    (distinct : ∀ document : StateDocument,
      document.Distinct → (change document).Distinct) :
    SameTransport world (world.write change) :=
  ⟨rfl, rfl, rfl, rfl, rfl, rfl, fun reliable => reliable.write change,
    distinct world.document⟩

theorem SameTransport.fault (world : World) :
    SameTransport world world.fault :=
  ⟨rfl, rfl, rfl, rfl, rfl, rfl, fun reliable => reliable.write id, id⟩

theorem SameTransport.tick (world : World) :
    SameTransport world world.tick :=
  ⟨rfl, rfl, rfl, rfl, rfl, rfl, id, id⟩

theorem SameTransport.trans {first second third : World}
    (left : SameTransport first second)
    (right : SameTransport second third) : SameTransport first third :=
  ⟨right.config.trans left.config,
    right.namespaceLocks.trans left.namespaceLocks,
    right.runtimes.trans left.runtimes,
    right.objects.trans left.objects,
    right.nextRuntime.trans left.nextRuntime,
    right.inFlight.trans left.inFlight,
    fun reliable => right.reliable (left.reliable reliable),
    fun distinct => right.distinct (left.distinct distinct)⟩

theorem SameTransport.hasConnection {before after : World}
    (same : SameTransport before after) (ns : Namespace) :
    after.hasConnection ns = before.hasConnection ns := by
  unfold World.hasConnection World.mounted World.isRunning
  rw [same.runtimes, same.objects]

theorem SameTransport.runtimeFor {before after : World}
    (same : SameTransport before after) (ns : Namespace) :
    after.runtimeFor ns = before.runtimeFor ns := by
  unfold World.runtimeFor World.mounted World.isRunning
  rw [same.runtimes, same.objects]

namespace Quiet

variable {ns : Namespace}

theorem refl (world : World) : Quiet ns world world :=
  ⟨.refl world, fun _ _ => rfl, fun _ _ => rfl, fun _ _ => rfl, id⟩

theorem trans {first second third : World}
    (left : Quiet ns first second) (right : Quiet ns second third) :
    Quiet ns first third where
  toSameTransport := left.toSameTransport.trans right.toSameTransport
  records other different :=
    (right.records other different).trans (left.records other different)
  snapshots other different :=
    (right.snapshots other different).trans (left.snapshots other different)
  previousSnapshots other different :=
    (right.previousSnapshots other different).trans
      (left.previousSnapshots other different)
  registered present := right.registered (left.registered present)

end Quiet

/-! ## Execution rules -/

section Rules

variable {post : Unit → World → Prop} {raised : Raised → World → Prop}
  {world : World}

@[simp]
theorem wp_storeWrite (change : StateDocument → StateDocument) :
    wp (storeWrite change) post raised world ↔
      match world.nextFault with
      | some exception => raised (.exception exception) world.fault
      | none => post () (world.write change) := by
  simp only [storeWrite, wp_bind, wp_get]
  cases world.nextFault <;> simp

@[simp]
theorem wp_utcNow {post : Time → World → Prop} :
    wp utcNow post raised world ↔ post world.clock world.tick := by
  simp [utcNow]

@[simp]
theorem wp_tryExcept {α : Type} {program : ServiceM α}
    {post : Except PyException α → World → Prop} :
    wp (tryExcept program) post raised world ↔
      wp program (fun value final => post (.ok value) final)
        (fun exception final =>
          match exception.caught with
          | some caught => post (.error caught) final
          | none => raised exception final) world := by
  unfold tryExcept
  rw [wp_attempt]
  constructor <;>
    exact fun holds => wp_mono holds (fun _ _ => id) fun exception _ => by
      cases exception <;> exact id

@[simp]
theorem wp_beginClose {post : Closing → World → Prop}
    (runtime : RuntimeId) :
    wp (beginClose runtime) post raised world ↔
      post ⟨runtime, world.isRunning runtime⟩ (world.markClosed runtime) := by
  simp [beginClose]

@[simp]
theorem wp_finishClose {α : Type} (closing : Closing)
    (reply : Except Raised α) :
    wp (finishClose closing reply) post raised world ↔
      match closing.raises reply with
      | some exception => raised exception (world.markDone closing.runtime)
      | none => post () (world.markDone closing.runtime) := by
  simp only [finishClose, wp_bind, wp_modify]
  cases closing.raises reply <;> simp

@[simp]
theorem wp_swapRuntime {post : Option Closing → World → Prop}
    (ns : Namespace) (runtime : RuntimeId) :
    wp (swapRuntime ns runtime) post raised world ↔
      match world.runtimes.get ns with
      | some existing =>
          post (some ⟨existing, world.isRunning existing⟩)
            ((world.mount ns runtime).markClosed existing)
      | none => post none (world.mount ns runtime) := by
  simp only [swapRuntime, wp_bind, wp_get, wp_set, World.mounted]
  cases world.runtimes.get ns with
  | none =>
      simp
  | some existing =>
      simp [World.isRunning]

@[simp]
theorem wp_disconnect {post : Option Closing → World → Prop}
    (ns : Namespace) :
    wp (disconnect ns) post raised world ↔
      match world.runtimes.get ns with
      | some existing =>
          post (some ⟨existing, world.isRunning existing⟩)
            ((world.unmount ns).markClosed existing)
      | none => post none world := by
  simp only [disconnect, wp_bind, wp_get, World.mounted]
  cases world.runtimes.get ns with
  | none =>
      simp
  | some existing =>
      simp [World.isRunning]

end Rules

/-! ## Bodies on a registered record -/

section Bodies

variable {ns : Namespace} {record : ToolsetRecord}

@[simp]
theorem ns_addScope (scope : Scope) :
    (addScope record scope).ns = record.ns := by
  rw [addScope_eq]

@[simp]
theorem ns_addScopes (scopes : List Scope) :
    (addScopes record scopes).ns = record.ns := by
  rw [addScopes_eq]

@[simp]
theorem ns_addRecoverableScope (scope : Scope) :
    (addRecoverableScope record scope).ns = record.ns := by
  rw [addRecoverableScope_eq]

@[simp]
theorem ns_removeScope (scope : Scope) :
    (removeScope record scope).ns = record.ns := by
  rw [removeScope_eq]

@[simp]
theorem ns_removeRecoverableScope (scope : Scope) :
    (removeRecoverableScope record scope).ns = record.ns := by
  rw [removeRecoverableScope_eq]

@[simp]
theorem ns_activateReused (scope : Scope) (now : Time) :
    (activateReused record scope now).ns = record.ns := by
  simp [activateReused]

@[simp]
theorem ns_restoreReused (missing : List Scope) (now : Time) :
    (restoreReused record missing now).ns = record.ns := by
  simp [restoreReused]

@[simp]
theorem ns_installed
    (snapshot : SchemaSnapshot) (previousHash : Option String)
    (now : Time) :
    (installed record snapshot previousHash now).ns = record.ns :=
  rfl

@[simp]
theorem ns_announced (opening : Opening) :
    (opening.announced record).ns = record.ns := by
  cases opening <;> rfl

@[simp]
theorem ns_completedRecord
    (opening : Opening) (snapshot : SchemaSnapshot) (now : Time) :
    (opening.completedRecord record snapshot now).ns = record.ns := by
  cases opening <;> simp [Opening.completedRecord]

@[simp]
theorem ns_failedRecord
    (opening : Opening) (error : ErrorInfo) (connected : Bool) :
    (opening.failedRecord record error connected).ns = record.ns := by
  cases opening <;> rfl

/-- What a completed opening writes into the record. -/
def Opening.previousHash (record : ToolsetRecord) :
    Opening → Option String
  | .refresh _ _ oldHash => oldHash
  | _ => record.schemaHash

/-- A completed opening records the inventory it has found. -/
structure Opening.Records (opening : Opening) (record : ToolsetRecord)
    (snapshot : SchemaSnapshot) (completed : ToolsetRecord) : Prop where
  transportState : completed.transportState = .connected
  stale : completed.stale = false
  schemaHash : completed.schemaHash = some snapshot.schemaHash
  previousSchemaHash :
    completed.previousSchemaHash = opening.previousHash record
  toolCount : completed.toolCount = snapshot.toolCount

theorem records_completedRecord
    (opening : Opening) (snapshot : SchemaSnapshot) (now : Time) :
    opening.Records record snapshot
      (opening.completedRecord record snapshot now) := by
  cases opening with
  | activate scope =>
      simp only [Opening.completedRecord]
      rw [addRecoverableScope_eq, addScope_eq]
      exact ⟨rfl, rfl, rfl, rfl, rfl⟩
  | restore candidates startup =>
      simp only [Opening.completedRecord]
      rw [addScopes_eq]
      exact ⟨rfl, rfl, rfl, rfl, rfl⟩
  | refresh scope previousTools oldHash =>
      exact ⟨rfl, rfl, rfl, rfl, rfl⟩

/-- No operation has touched the record since its registration. -/
structure ToolsetRecord.Unused (ns : Namespace) (record : ToolsetRecord) :
    Prop where
  ns : record.ns = ns
  loadedScopes : record.loadedScopes = []
  recoverableScopes : record.recoverableScopes = []
  transportState : record.transportState = .inactive
  stale : record.stale = false
  schemaHash : record.schemaHash = none
  previousSchemaHash : record.previousSchemaHash = none
  toolCount : record.toolCount = 0

/-- A registration that is accepted has passed the validator. -/
theorem validated_of_toRecord {registration : Registration}
    {transport : ToolsetTransport}
    (accepted : registration.toRecord ns transport = .ok record) :
    record.Unused ns ∧ ∃ draft, validateScopePolicy draft = .ok record := by
  unfold Registration.toRecord at accepted
  obtain ⟨defaultScope, _, accepted⟩ := bind_eq_ok.mp accepted
  obtain ⟨supported, _, accepted⟩ := bind_eq_ok.mp accepted
  obtain ⟨restorable, _, accepted⟩ := bind_eq_ok.mp accepted
  refine ⟨?_, _, accepted⟩
  obtain ⟨rfl, _⟩ := validateScopePolicy_eq_ok.mp accepted
  exact ⟨rfl, rfl, rfl, rfl, rfl, rfl, rfl, rfl⟩

end Bodies

end ToolboxMcp
