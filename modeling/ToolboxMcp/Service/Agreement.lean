import ToolboxMcp.Service.Confinement
import ToolboxMcp.Service.Stretches

/-!
# Worlds that agree on a namespace

Two worlds agree on a namespace if they have the same record and snapshots of
it, up to times, and the same runtime mounted, whatever its identity.  A stretch
of a block started in both of them ends at the same point with worlds that
agree: what an operation does to its namespace depends on nothing else.
-/

namespace ToolboxMcp

open Effect

/-! ## Up to times -/

structure Times where
  activated : Option Time := none
  refreshed : Option Time := none
  knownGood : Option Time := none
  restored : Option Time := none
  healthChecked : Option Time := none

def ToolsetRecord.retime (record : ToolsetRecord) (times : Times) :
    ToolsetRecord :=
  { record with
    lastActivatedAt := times.activated
    lastRefreshedAt := times.refreshed
    lastKnownGoodAt := times.knownGood
    lastRestoredAt := times.restored
    lastHealthCheckedAt := times.healthChecked }

def ToolsetRecord.untimed (record : ToolsetRecord) : ToolsetRecord :=
  record.retime {}

def SchemaSnapshot.untimed (snapshot : SchemaSnapshot) : SchemaSnapshot :=
  { snapshot with capturedAt := 0 }

theorem exists_retime {record other : ToolsetRecord}
    (same : record.untimed = other.untimed) :
    ∃ times, other = record.retime times := by
  refine ⟨⟨other.lastActivatedAt, other.lastRefreshedAt,
    other.lastKnownGoodAt, other.lastRestoredAt,
    other.lastHealthCheckedAt⟩, ?_⟩
  obtain ⟨⟩ := record
  obtain ⟨⟩ := other
  simp only [ToolsetRecord.untimed, ToolsetRecord.retime,
    ToolsetRecord.mk.injEq] at same ⊢
  grind

section Records

variable {record : ToolsetRecord} {times : Times}

@[simp]
theorem ns_retime : (record.retime times).ns = record.ns :=
  rfl

@[simp]
theorem untimed_retime : (record.retime times).untimed = record.untimed :=
  rfl

theorem untimed_addScope (scope : Scope) :
    (addScope record scope).untimed = addScope record.untimed scope := by
  unfold addScope
  exact apply_ite ToolsetRecord.untimed _ _ _

theorem untimed_addRecoverableScope (scope : Scope) :
    (addRecoverableScope record scope).untimed =
      addRecoverableScope record.untimed scope := by
  unfold addRecoverableScope
  exact apply_ite ToolsetRecord.untimed _ _ _

theorem untimed_removeScope (scope : Scope) :
    (removeScope record scope).untimed = removeScope record.untimed scope := by
  unfold removeScope
  exact apply_ite ToolsetRecord.untimed _ _ _

theorem untimed_removeRecoverableScope (scope : Scope) :
    (removeRecoverableScope record scope).untimed =
      removeRecoverableScope record.untimed scope := by
  unfold removeRecoverableScope
  exact apply_ite ToolsetRecord.untimed _ _ _

theorem untimed_addScopes (scopes : List Scope) :
    (addScopes record scopes).untimed = addScopes record.untimed scopes := by
  induction scopes generalizing record with
  | nil =>
      rfl
  | cons scope rest inductionHypothesis =>
      have later := @inductionHypothesis (addScope record scope)
      rw [untimed_addScope] at later
      exact later

theorem untimed_withoutScope (scope : Scope) :
    (withoutScope (record.retime times) scope).untimed =
      (withoutScope record scope).untimed := by
  unfold withoutScope
  simp only [untimed_removeRecoverableScope, untimed_removeScope,
    untimed_retime]

end Records

/-! ## Agreement -/

/-- The mounted runtime without its identity. -/
def World.runtimeAt (world : World) (ns : Namespace) :
    Option ManagedToolsetRuntime :=
  (world.runtimes.get ns).map world.objects

/-- The store works, and new runtimes are new. -/
structure World.Ready (world : World) (ns : Namespace) : Prop where
  reliable : world.Reliable
  below :
    ∀ runtime, world.runtimes.get ns = some runtime →
      runtime < world.nextRuntime

structure Agree (ns : Namespace) (left right : World) : Prop where
  config : left.config = right.config
  leftReady : left.Ready ns
  rightReady : right.Ready ns
  record :
    (left.document.getToolset ns).map ToolsetRecord.untimed =
      (right.document.getToolset ns).map ToolsetRecord.untimed
  snapshot :
    (left.document.getSchemaSnapshot ns).map SchemaSnapshot.untimed =
      (right.document.getSchemaSnapshot ns).map SchemaSnapshot.untimed
  previous :
    (left.document.getPreviousSchemaSnapshot ns).map SchemaSnapshot.untimed =
      (right.document.getPreviousSchemaSnapshot ns).map
        SchemaSnapshot.untimed
  runtime : left.runtimeAt ns = right.runtimeAt ns
  inFlight : left.inFlight ns = right.inFlight ns

section Agreement

variable {ns : Namespace} {left right left' right' : World}

theorem Agree.record_cases (agree : Agree ns left right) :
    (left.document.getToolset ns = none ∧
        right.document.getToolset ns = none) ∨
      ∃ record times,
        record.ns = ns ∧ left.document.getToolset ns = some record ∧
          right.document.getToolset ns = some (record.retime times) := by
  have same := agree.record
  cases found : left.document.getToolset ns with
  | none =>
      rw [found] at same
      exact .inl ⟨rfl, Option.map_eq_none_iff.mp same.symm⟩
  | some record =>
      rw [found] at same
      obtain ⟨other, stored, alike⟩ := Option.map_eq_some_iff.mp same.symm
      obtain ⟨times, rfl⟩ := exists_retime alike.symm
      exact .inr ⟨record, times, StateDocument.getToolset_ns found, rfl,
        stored⟩

theorem Agree.runtime_cases (agree : Agree ns left right) :
    (left.runtimes.get ns = none ∧ right.runtimes.get ns = none) ∨
      ∃ mine other,
        left.runtimes.get ns = some mine ∧
          right.runtimes.get ns = some other ∧
          left.objects mine = right.objects other := by
  have same := agree.runtime
  unfold World.runtimeAt at same
  cases mounted : left.runtimes.get ns with
  | none =>
      rw [mounted] at same
      exact .inl ⟨rfl, Option.map_eq_none_iff.mp same.symm⟩
  | some mine =>
      rw [mounted] at same
      obtain ⟨other, also, alike⟩ := Option.map_eq_some_iff.mp same.symm
      exact .inr ⟨mine, other, rfl, also, alike.symm⟩

theorem Agree.hasConnection (agree : Agree ns left right) :
    left.hasConnection ns = right.hasConnection ns := by
  unfold World.hasConnection World.mounted
  rcases agree.runtime_cases with
    ⟨mine, other⟩ | ⟨mine, other, here, there, alike⟩
  · rw [mine, other]
    rfl
  · rw [here, there]
    simp only [Option.any_some, World.isRunning, alike]

theorem Agree.runtimeFor_cases (agree : Agree ns left right) :
    (left.runtimeFor ns = none ∧ right.runtimeFor ns = none) ∨
      ∃ mine other,
        left.runtimes.get ns = some mine ∧
          right.runtimes.get ns = some other ∧
          left.runtimeFor ns = some mine ∧
          right.runtimeFor ns = some other ∧
          left.objects mine = right.objects other := by
  unfold World.runtimeFor World.mounted
  rcases agree.runtime_cases with
    ⟨mine, other⟩ | ⟨mine, other, here, there, alike⟩
  · left
    rw [mine, other]
    exact ⟨rfl, rfl⟩
  · rw [here, there]
    have running : left.isRunning mine = right.isRunning other := by
      unfold World.isRunning
      rw [alike]
    cases runs : left.isRunning mine with
    | false =>
        left
        rw [runs] at running
        simp [Option.filter, runs, ← running]
    | true =>
        right
        rw [runs] at running
        exact ⟨mine, other, rfl, rfl, by simp [Option.filter, runs],
          by simp [Option.filter, ← running], alike⟩

theorem World.Ready.same (ready : left.Ready ns)
    (same : SameTransport left left') : left'.Ready ns where
  reliable := same.reliable ready.reliable
  below runtime mounted := by
    rw [same.runtimes] at mounted
    rw [same.nextRuntime]
    exact ready.below runtime mounted

theorem SameTransport.runtimeAt (same : SameTransport left left') :
    left'.runtimeAt ns = left.runtimeAt ns := by
  unfold World.runtimeAt
  rw [same.runtimes, same.objects]

/-- Only the documents have changed. -/
theorem Agree.written (agree : Agree ns left right)
    (mine : SameTransport left left') (other : SameTransport right right')
    (record :
      (left'.document.getToolset ns).map ToolsetRecord.untimed =
        (right'.document.getToolset ns).map ToolsetRecord.untimed)
    (snapshot :
      (left'.document.getSchemaSnapshot ns).map SchemaSnapshot.untimed =
        (right'.document.getSchemaSnapshot ns).map SchemaSnapshot.untimed)
    (previous :
      (left'.document.getPreviousSchemaSnapshot ns).map
          SchemaSnapshot.untimed =
        (right'.document.getPreviousSchemaSnapshot ns).map
          SchemaSnapshot.untimed) :
    Agree ns left' right' where
  config := by
    rw [mine.config, other.config]
    exact agree.config
  leftReady := agree.leftReady.same mine
  rightReady := agree.rightReady.same other
  record := record
  snapshot := snapshot
  previous := previous
  runtime := by
    rw [mine.runtimeAt, other.runtimeAt]
    exact agree.runtime
  inFlight := by
    rw [mine.inFlight, other.inFlight]
    exact agree.inFlight

theorem Agree.untouched (agree : Agree ns left right)
    (mine : Untouched left left') (other : Untouched right right') :
    Agree ns left' right' := by
  apply agree.written mine.toSameTransport other.toSameTransport
  · rw [mine.records, other.records]
    exact agree.record
  · rw [mine.snapshots, other.snapshots]
    exact agree.snapshot
  · rw [mine.previousSnapshots, other.previousSnapshots]
    exact agree.previous

end Agreement

/-! ## Changes of runtimes -/

/-- Everything about the namespace but its runtime is as before. -/
structure Carries (ns : Namespace) (before after : World) : Prop where
  config : after.config = before.config
  document : after.document = before.document
  inFlight : after.inFlight = before.inFlight
  ready : before.Ready ns → after.Ready ns

section Runtimes

variable {ns : Namespace} {left right left' right' world : World}

theorem Agree.moved (agree : Agree ns left right)
    (mine : Carries ns left left') (other : Carries ns right right')
    (runtime : left'.runtimeAt ns = right'.runtimeAt ns) :
    Agree ns left' right' where
  config := by
    rw [mine.config, other.config]
    exact agree.config
  leftReady := mine.ready agree.leftReady
  rightReady := other.ready agree.rightReady
  record := by
    rw [mine.document, other.document]
    exact agree.record
  snapshot := by
    rw [mine.document, other.document]
    exact agree.snapshot
  previous := by
    rw [mine.document, other.document]
    exact agree.previous
  runtime := runtime
  inFlight := by
    rw [mine.inFlight, other.inFlight]
    exact agree.inFlight

theorem carries_markDone (runtime : RuntimeId) :
    Carries ns world (world.markDone runtime) :=
  ⟨rfl, rfl, rfl, fun ready => ⟨ready.reliable, ready.below⟩⟩

theorem carries_markClosed (runtime : RuntimeId) :
    Carries ns world (world.markClosed runtime) :=
  ⟨rfl, rfl, rfl, fun ready => ⟨ready.reliable, ready.below⟩⟩

theorem carries_disconnect (runtime : RuntimeId) :
    Carries ns world ((world.unmount ns).markClosed runtime) := by
  refine ⟨rfl, rfl, rfl, fun ready => ⟨ready.reliable, ?_⟩⟩
  intro other mounted
  simp [Dict.get_pop] at mounted

theorem carries_spawnRuntime (home : Namespace) :
    Carries ns world (world.spawnRuntime home) :=
  ⟨rfl, rfl, rfl, fun ready => ⟨ready.reliable, fun runtime mounted =>
    Nat.lt_succ_of_lt (ready.below runtime mounted)⟩⟩

theorem runtimeAt_markDone {runtime : RuntimeId}
    (apart : world.runtimes.get ns ≠ some runtime) :
    (world.markDone runtime).runtimeAt ns = world.runtimeAt ns := by
  unfold World.runtimeAt
  cases mounted : world.runtimes.get ns with
  | none =>
      simp [mounted]
  | some other =>
      have different : other ≠ runtime := by
        rintro rfl
        exact apart mounted
      simp [mounted, Function.update_of_ne different]

theorem runtimeAt_markClosed {runtime : RuntimeId}
    (apart : world.runtimes.get ns ≠ some runtime) :
    (world.markClosed runtime).runtimeAt ns = world.runtimeAt ns := by
  unfold World.runtimeAt
  cases mounted : world.runtimes.get ns with
  | none =>
      simp [mounted]
  | some other =>
      have different : other ≠ runtime := by
        rintro rfl
        exact apart mounted
      simp [mounted, Function.update_of_ne different]

/-- A runtime that is mounted nowhere in the namespace finishes. -/
theorem Agree.markDone (agree : Agree ns left right)
    {runtime other : RuntimeId}
    (apart : left.runtimes.get ns ≠ some runtime)
    (apart' : right.runtimes.get ns ≠ some other) :
    Agree ns (left.markDone runtime) (right.markDone other) := by
  apply agree.moved (carries_markDone runtime) (carries_markDone other)
  rw [runtimeAt_markDone apart, runtimeAt_markDone apart']
  exact agree.runtime

/-- The mounted runtime finishes. -/
theorem Agree.markDone_mounted (agree : Agree ns left right)
    {runtime other : RuntimeId}
    (mounted : left.runtimes.get ns = some runtime)
    (mounted' : right.runtimes.get ns = some other) :
    Agree ns (left.markDone runtime) (right.markDone other) := by
  apply agree.moved (carries_markDone runtime) (carries_markDone other)
  have same := agree.runtime
  simp only [World.runtimeAt, mounted, mounted', Option.map_some,
    Option.some.injEq] at same
  simp [World.runtimeAt, mounted, mounted', same]

theorem Agree.markClosed_mounted (agree : Agree ns left right)
    {runtime other : RuntimeId}
    (mounted : left.runtimes.get ns = some runtime)
    (mounted' : right.runtimes.get ns = some other) :
    Agree ns (left.markClosed runtime) (right.markClosed other) := by
  apply agree.moved (carries_markClosed runtime) (carries_markClosed other)
  have same := agree.runtime
  simp only [World.runtimeAt, mounted, mounted', Option.map_some,
    Option.some.injEq] at same
  simp [World.runtimeAt, mounted, mounted', same]

theorem Agree.disconnect (agree : Agree ns left right)
    (runtime other : RuntimeId) :
    Agree ns ((left.unmount ns).markClosed runtime)
      ((right.unmount ns).markClosed other) := by
  apply agree.moved (carries_disconnect runtime) (carries_disconnect other)
  simp [World.runtimeAt, Dict.get_pop]

theorem Agree.spawnRuntime (agree : Agree ns left right) (home : Namespace) :
    Agree ns (left.spawnRuntime home) (right.spawnRuntime home) := by
  have kept : ∀ {world : World}, world.Ready ns →
      (world.spawnRuntime home).runtimeAt ns = world.runtimeAt ns := by
    intro world ready
    unfold World.runtimeAt
    cases mounted : world.runtimes.get ns with
    | none =>
        simp [mounted]
    | some runtime =>
        have different := (ready.below runtime mounted).ne
        simp [mounted, Function.update_of_ne different]
  apply agree.moved (carries_spawnRuntime home) (carries_spawnRuntime home)
  rw [kept agree.leftReady, kept agree.rightReady]
  exact agree.runtime

theorem Agree.markClosed (agree : Agree ns left right)
    {runtime other : RuntimeId}
    (apart : left.runtimes.get ns ≠ some runtime)
    (apart' : right.runtimes.get ns ≠ some other) :
    Agree ns (left.markClosed runtime) (right.markClosed other) := by
  apply agree.moved (carries_markClosed runtime) (carries_markClosed other)
  rw [runtimeAt_markClosed apart, runtimeAt_markClosed apart']
  exact agree.runtime

/-- Runtimes that are alike take the namespace over. -/
theorem Agree.landed [Platform] (agree : Agree ns left right)
    {runtime other : RuntimeId} (tools : List Tool)
    (below : runtime < left.nextRuntime) (below' : other < right.nextRuntime)
    (alike : left.objects runtime = right.objects other) :
    Agree ns (landed left ns runtime tools) (landed right ns other tools) := by
  have carries : ∀ {world : World} {opened : RuntimeId},
      opened < world.nextRuntime →
      Carries ns world (ToolboxMcp.landed world ns opened tools) := by
    intro world opened new
    refine ⟨rfl, rfl, rfl, fun ready => ⟨ready.reliable, ?_⟩⟩
    intro mounted found
    have same : mounted = opened := by
      simpa [ToolboxMcp.landed, Dict.get_set, eq_comm] using found
    subst same
    exact new
  apply agree.moved (carries below) (carries below')
  simp [World.runtimeAt, ToolboxMcp.landed, Dict.get_set, alike]

end Runtimes

/-! ## Writes -/

section Writes

variable {ns : Namespace} {left right : World}
  {post : Unit → Unit → World → World → Prop}
  {raised : Raised → World → World → Prop}

theorem storeWrite_both {change change' : StateDocument → StateDocument}
    (agree : Agree ns left right)
    (later : post () () (left.write change) (right.write change')) :
    wpBoth (storeWrite change) (storeWrite change') post raised left right := by
  have mine := agree.leftReady.reliable.nextFault
  have other := agree.rightReady.reliable.nextFault
  unfold storeWrite
  apply wpBoth_bind
  rw [wpBoth_get, mine, other]
  exact later

theorem Agree.tick (agree : Agree ns left right) :
    Agree ns left.tick right.tick :=
  agree.untouched (.tick left) (.tick right)

theorem utcNow_both {post : Time → Time → World → World → Prop}
    (agree : Agree ns left right)
    (later : Agree ns left.tick right.tick → ∀ now now',
      post now now' left.tick right.tick) :
    wpBoth utcNow utcNow post raised left right :=
  later agree.tick left.clock right.clock

/-- What is logged makes no difference. -/
theorem appendAuditEvent_both
    {operation operation' : AuditOperation} {outcome outcome' : AuditOutcome}
    {subject subject' : Option Namespace} {scope scope' : Option Scope}
    {details details' : List (String × Json)}
    {error error' : Option ErrorInfo}
    (agree : Agree ns left right)
    (later : ∀ left right, Agree ns left right → post () () left right) :
    wpBoth (appendAuditEvent operation outcome subject scope details error)
      (appendAuditEvent operation' outcome' subject' scope' details' error')
      post raised left right := by
  unfold appendAuditEvent
  apply wpBoth_bind
  apply utcNow_both agree
  intro ticked now now'
  apply storeWrite_both ticked
  apply later
  apply ticked.written
      (.write _ _ fun _ distinct => distinct.appendAuditEvent _ _)
      (.write _ _ fun _ distinct => distinct.appendAuditEvent _ _)
  · simpa using ticked.record
  · simpa using ticked.snapshot
  · simpa using ticked.previous

theorem upsertToolset_both {record record' : ToolsetRecord}
    (agree : Agree ns left right)
    (named : record.ns = ns) (named' : record'.ns = ns)
    (alike : record.untimed = record'.untimed)
    (later : ∀ left right, Agree ns left right → post () () left right) :
    wpBoth (upsertToolset record) (upsertToolset record') post raised left
      right := by
  apply storeWrite_both agree
  apply later
  apply agree.written
      (.write _ _ fun _ distinct => distinct.upsertToolset record)
      (.write _ _ fun _ distinct => distinct.upsertToolset record')
  · simp [StateDocument.getToolset_upsertToolset, named, named', alike]
  · exact agree.snapshot
  · exact agree.previous

theorem replaceSchemaSnapshot_both {snapshot snapshot' : SchemaSnapshot}
    (agree : Agree ns left right)
    (named : snapshot.ns = ns) (named' : snapshot'.ns = ns)
    (alike : snapshot.untimed = snapshot'.untimed)
    (later : ∀ left right, Agree ns left right → post () () left right) :
    wpBoth (replaceSchemaSnapshot snapshot) (replaceSchemaSnapshot snapshot')
      post raised left right := by
  apply storeWrite_both agree
  apply later
  apply agree.written
      (.write _ _ fun _ distinct => distinct.replaceSchemaSnapshot snapshot)
      (.write _ _ fun _ distinct => distinct.replaceSchemaSnapshot snapshot')
  · exact agree.record
  · simp [StateDocument.getSchemaSnapshot_replaceSchemaSnapshot, named, named',
      alike]
  · simp only [World.write_document,
      StateDocument.getPreviousSchemaSnapshot_replaceSchemaSnapshot, named,
      named', if_true]
    have snapshots := agree.snapshot
    have previous := agree.previous
    revert snapshots previous
    cases left.document.getSchemaSnapshot ns <;>
      cases right.document.getSchemaSnapshot ns <;> simp +contextual

/-- Both have forgotten the namespace. -/
theorem Agree.removed {left' right' : World} (agree : Agree ns left right)
    (mine : Removed ns left left') (other : Removed ns right right') :
    Agree ns left' right' where
  config := by
    rw [mine.config, other.config]
    exact agree.config
  leftReady := by
    refine ⟨mine.reliable agree.leftReady.reliable, ?_⟩
    rw [mine.runtimes, mine.nextRuntime]
    exact agree.leftReady.below
  rightReady := by
    refine ⟨other.reliable agree.rightReady.reliable, ?_⟩
    rw [other.runtimes, other.nextRuntime]
    exact agree.rightReady.below
  record := by simp [mine.records, other.records]
  snapshot := by rw [mine.snapshot, other.snapshot]
  previous := by rw [mine.previousSnapshot, other.previousSnapshot]
  runtime := by
    unfold World.runtimeAt
    rw [mine.runtimes, mine.objects, other.runtimes, other.objects]
    exact agree.runtime
  inFlight := by
    rw [mine.inFlight, other.inFlight]
    exact agree.inFlight

end Writes

end ToolboxMcp
