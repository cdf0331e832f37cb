import ToolboxMcp.Service.Frames
import ToolboxMcp.Service.Lifecycle

/-!
# What a restore reports

The response and the audit event of a restore list the record's loaded scopes
after the candidates have been added to them.  So they list the candidates and
whatever was loaded before.  This file follows the programs of a restore from
the record they read to the entries and events they leave.
-/

namespace ToolboxMcp

open Effect

/-- The scopes listed are the candidates and those loaded in the record. -/
def Restores (record : ToolsetRecord) (candidates scopes : List Scope) :
    Prop :=
  ∀ scope, scope ∈ scopes ↔ scope ∈ candidates ∨ scope ∈ record.loadedScopes

/-- The scopes a restore's audit event lists. -/
def StoredAuditEvent.Lists (event : StoredAuditEvent) (scopes : List Scope) :
    Prop :=
  ∃ fields, event.details = .obj fields ∧
    Dict.get "restored_scopes" fields = some (scopeValues scopes)

/-- A successful restore is told of the namespace, with these scopes. -/
def StoredAuditEvent.Tells (ns : Namespace) (record : ToolsetRecord)
    (candidates : List Scope) (event : StoredAuditEvent) : Prop :=
  event.operation = .restore → event.outcome = .success →
    event.ns = some ns ∧
      ∃ scopes, event.Lists scopes ∧ Restores record candidates scopes

/-- The block holds the candidates and a record with the same loaded scopes. -/
def Stage.Restores (record : ToolsetRecord) (candidates : List Scope) :
    Stage → Prop
  | .opening (.restore scopes _) held _ =>
      scopes = candidates ∧ held.loadedScopes = record.loadedScopes
  | .swapping _ (.restore scopes _) held _ =>
      scopes = candidates ∧ held.loadedScopes = record.loadedScopes
  | _ => False

def Progress.Restores (ns : Namespace) (record : ToolsetRecord)
    (candidates : List Scope) : Progress → Prop
  | .inside stage => stage.Restores record candidates
  | .left entries =>
      ∀ result, .restored result ∈ entries →
        result.ns = ns ∧
          ToolboxMcp.Restores record candidates result.restoredScopes

/-- Every event the world's log has gained tells so. -/
def GainsOnly (tells : StoredAuditEvent → Prop) (base world : World) :
    Prop :=
  ∀ event ∈ world.document.auditLog,
    event ∈ base.document.auditLog ∨ tells event

/-- The program adds to the log only events that tell so. -/
abbrev AddsOnly {α : Type} (tells : StoredAuditEvent → Prop) (base : World)
    (program : ServiceM α) (good : α → Prop) : Prop :=
  Maintains (GainsOnly tells base) program good

theorem GainsOnly.of_same {tells : StoredAuditEvent → Prop}
    {base world after : World} (gains : GainsOnly tells base world)
    (document : after.document = world.document) :
    GainsOnly tells base after := by
  unfold GainsOnly
  rw [document]
  exact gains

/-! ## The store -/

section Store

variable {tells : StoredAuditEvent → Prop} {base : World}

theorem adds_storeWrite {change : StateDocument → StateDocument}
    (log : ∀ document : StateDocument, ∀ event ∈ (change document).auditLog,
      event ∈ document.auditLog ∨ tells event) :
    AddsOnly tells base (storeWrite change) fun _ => True := by
  intro world gains
  rw [wp_storeWrite]
  cases world.nextFault with
  | some exception => exact gains.of_same rfl
  | none =>
      refine ⟨?_, trivial⟩
      intro event member
      rcases log world.document event member with earlier | told
      · exact gains event earlier
      · exact .inr told

theorem adds_upsertToolset (record : ToolsetRecord) :
    AddsOnly tells base (upsertToolset record) fun _ => True :=
  adds_storeWrite fun _ _ member => .inl member

theorem adds_replaceSchemaSnapshot (snapshot : SchemaSnapshot) :
    AddsOnly tells base (replaceSchemaSnapshot snapshot) fun _ => True :=
  adds_storeWrite fun _ _ member => .inl member

theorem adds_utcNow : AddsOnly tells base utcNow fun _ => True := by
  intro world gains
  rw [wp_utcNow]
  exact ⟨gains.of_same rfl, trivial⟩

theorem adds_tryExcept {α : Type} {program : ServiceM α} {good : α → Prop}
    (adds : AddsOnly tells base program good) :
    AddsOnly tells base (tryExcept program) fun result =>
      ∀ value, result = .ok value → good value :=
  maintains_attempt adds

theorem mem_sliceFromEnd {α : Type} {count : Nat} {items : List α} {item : α}
    (member : item ∈ sliceFromEnd count items) : item ∈ items := by
  unfold sliceFromEnd at member
  split at member
  · exact member
  · exact List.mem_of_mem_drop member

theorem adds_appendAuditEvent {operation : AuditOperation}
    {outcome : AuditOutcome} {ns : Option Namespace} {scope : Option Scope}
    {details : List (String × Json)} {error : Option ErrorInfo}
    (told : ∀ sequence timestamp,
      tells
        { sequence := sequence
          timestamp := timestamp
          operation := operation
          outcome := outcome
          ns := ns
          scope := scope
          details := .obj details
          error := error }) :
    AddsOnly tells base
      (appendAuditEvent operation outcome ns scope details error)
      fun _ => True := by
  refine maintains_bind adds_utcNow fun timestamp _ => ?_
  refine adds_storeWrite fun document event member => ?_
  simp only [StateDocument.appendAuditEvent] at member
  have among :
      event ∈ document.auditLog ++
        [{ sequence := document.nextAuditSequence
           timestamp := timestamp
           operation := operation
           outcome := outcome
           ns := ns
           scope := scope
           details := .obj details
           error := error }] := by
    split at member
    · exact mem_sliceFromEnd member
    · exact member
  rcases List.mem_append.mp among with earlier | appended
  · exact .inl earlier
  · rw [List.mem_singleton.mp appended]
    exact .inr (told _ _)

end Store

/-! ## The programs of a restore -/

section Programs

variable [Platform] {base : World} {ns : Namespace}
  {record held : ToolsetRecord} {candidates : List Scope} {startup : Bool}

omit [Platform] in
/-- Nothing but a successful restore is held to anything. -/
theorem tells_failure {event : StoredAuditEvent}
    (failed : event.outcome = .failure) :
    event.Tells ns record candidates := by
  intro _ succeeded
  rw [failed] at succeeded
  cases succeeded

omit [Platform] in
theorem restores_left_failed (error : ErrorInfo) :
    (Progress.left [.failed error]).Restores ns record candidates := by
  intro result member
  cases List.mem_singleton.mp member

omit [Platform] in
theorem adds_failed (exception : PyException) :
    AddsOnly (StoredAuditEvent.Tells ns record candidates) base
      ((Opening.restore candidates startup).failed ns held exception)
      fun entries =>
        (Progress.left entries).Restores ns record candidates := by
  refine maintains_bind maintains_get fun world _ => ?_
  refine maintains_bind (adds_upsertToolset _) fun _ _ => ?_
  have audited := @adds_appendAuditEvent
    (StoredAuditEvent.Tells ns record candidates) base .restore .failure
    (some ns) none
    [("startup", .bool startup),
     ("recoverable_scopes", scopeValues held.recoverableScopes),
     ("stale_reason", .str "restore_failed")]
    (some ((Opening.restore candidates startup).failure ns exception))
    fun _ _ => tells_failure rfl
  exact maintains_bind audited fun _ _ =>
    maintains_pure (restores_left_failed _)

omit [Platform] in
theorem loadedScopes_completedRecord (snapshot : SchemaSnapshot)
    (now : Time) (same : held.loadedScopes = record.loadedScopes) :
    Restores record candidates
      ((Opening.restore candidates startup).completedRecord held snapshot
        now).loadedScopes := by
  intro scope
  unfold Opening.completedRecord
  rw [mem_addScopes, ← same]
  rfl

theorem adds_complete (snapshot : SchemaSnapshot)
    (same : held.loadedScopes = record.loadedScopes) :
    AddsOnly (StoredAuditEvent.Tells ns record candidates) base
      ((Opening.restore candidates startup).complete ns held snapshot)
      (Progress.Restores ns record candidates) := by
  refine maintains_bind adds_utcNow fun now _ => ?_
  have restores :=
    @loadedScopes_completedRecord record held candidates startup snapshot now
      same
  have stored := adds_tryExcept <|
    maintains_bind
      (@adds_upsertToolset (StoredAuditEvent.Tells ns record candidates) base
        ((Opening.restore candidates startup).completedRecord held snapshot
          now))
      fun _ _ => adds_replaceSchemaSnapshot snapshot
  refine maintains_bind stored fun result _ => ?_
  cases result with
  | error exception =>
      exact maintains_bind (adds_failed exception) fun _ failed =>
        maintains_pure failed
  | ok value =>
      have audited := adds_tryExcept <|
        @adds_appendAuditEvent
          (StoredAuditEvent.Tells ns record candidates) base .restore
          .success (some ns)
          (auditScope
            (some ((Opening.restore candidates startup).completedRecord held
              snapshot now)) none)
          [("startup", .bool startup),
           ("reused_runtime", .bool false),
           ("restored_scopes", scopeValues
             ((Opening.restore candidates startup).completedRecord held
               snapshot now).loadedScopes),
           ("schema_hash", .str snapshot.schemaHash)]
          none fun _ _ _ _ => ⟨rfl, _, ⟨_, rfl, rfl⟩, restores⟩
      have entry : (Progress.left
          [(Opening.restore candidates startup).completedEntry ns
            ((Opening.restore candidates startup).completedRecord held
              snapshot now) snapshot]).Restores ns record candidates := by
        intro result member
        cases List.mem_singleton.mp member
        exact ⟨rfl, restores⟩
      refine maintains_bind audited fun result _ => ?_
      cases result with
      | ok value => exact maintains_pure entry
      | error exception =>
          refine maintains_bind (adds_failed exception) fun more failed =>
            maintains_pure ?_
          intro result member
          rcases List.mem_cons.mp member with first | later
          · exact entry result (List.mem_singleton.mpr first)
          · exact failed result later

omit [Platform] in
theorem adds_begin :
    AddsOnly (StoredAuditEvent.Tells ns record candidates) base
      ((Opening.restore candidates startup).begin ns record)
      (Progress.Restores ns record candidates) := by
  have announced := adds_tryExcept <|
    @adds_upsertToolset (StoredAuditEvent.Tells ns record candidates) base
      { record with transportState := .connecting }
  refine maintains_bind announced fun result _ => ?_
  cases result with
  | error exception =>
      exact maintains_bind (adds_failed exception) fun _ failed =>
        maintains_pure failed
  | ok value =>
      refine maintains_bind maintains_get fun world gains => ?_
      have spawned := gains.of_same
        (show (world.spawnRuntime ns).document = world.document from rfl)
      exact maintains_bind (maintains_set spawned) fun _ _ =>
        maintains_pure ⟨rfl, rfl⟩

theorem adds_restoreReusing (tools : List Tool) :
    AddsOnly (StoredAuditEvent.Tells ns record candidates) base
      (restoreReusing ns
        (candidates.filter fun scope => scope ∉ record.loadedScopes) startup
        record tools)
      (Progress.Restores ns record candidates) := by
  refine maintains_bind adds_utcNow fun now _ => ?_
  have restores :
      Restores record candidates
        (restoreReused record
          (candidates.filter fun scope => scope ∉ record.loadedScopes)
          now).loadedScopes := by
    intro scope
    unfold restoreReused
    rw [mem_addScopes, List.mem_filter, decide_eq_true_iff]
    tauto
  refine maintains_bind (adds_upsertToolset _) fun _ _ => ?_
  have hashed :
      AddsOnly (StoredAuditEvent.Tells ns record candidates) base
        (knownSchemaHash ns
          (restoreReused record
            (candidates.filter fun scope => scope ∉ record.loadedScopes) now)
          tools) fun _ => True := by
    unfold knownSchemaHash
    split
    · exact maintains_pure trivial
    · split
      · exact maintains_pure trivial
      · exact maintains_throw _
  refine maintains_bind hashed fun _ _ => ?_
  refine maintains_bind
    (adds_appendAuditEvent fun _ _ _ _ =>
      ⟨rfl, _, ⟨_, rfl, rfl⟩, restores⟩) fun _ _ => ?_
  refine maintains_pure ?_
  intro result member
  cases List.mem_singleton.mp member
  exact ⟨rfl, restores⟩

/-- The candidates are those of the record the block finds. -/
theorem adds_startRestore {world : World} {identity : Bool}
    (found : world.record ns = some record) :
    wp (startRestore ns identity startup)
      (fun progress after =>
        GainsOnly
            (StoredAuditEvent.Tells ns record
              (recoveryScopes record identity (!startup))) world after ∧
          progress.Restores ns record
            (recoveryScopes record identity (!startup)))
      (fun _ after =>
        GainsOnly
          (StoredAuditEvent.Tells ns record
            (recoveryScopes record identity (!startup))) world after)
      world := by
  have unchanged :
      GainsOnly
        (StoredAuditEvent.Tells ns record
          (recoveryScopes record identity (!startup))) world world :=
    fun _ member => .inl member
  unfold startRestore
  rw [wp_bind, wp_get]
  simp only [found]
  split
  · refine ⟨unchanged, ?_⟩
    intro result member
    cases List.mem_singleton.mp member
  · split
    · split
      · refine ⟨unchanged, ?_⟩
        intro result member
        cases List.mem_singleton.mp member
      · exact adds_restoreReusing _ world unchanged
    · exact adds_begin world unchanged

/-- Without a record nothing is restored. -/
theorem restores_unknown {world : World} {identity : Bool}
    (unknown : world.record ns = none) :
    wp (startRestore ns identity startup)
      (fun progress _ => ∃ error, progress = .left [.failed error])
      (fun _ _ => True) world := by
  unfold startRestore
  rw [wp_bind, wp_get]
  simp only [unknown, rejected, wp_bind]
  exact wp_mono
    (@adds_appendAuditEvent (fun _ => True) world _ _ _ _ _ _
      (fun _ _ => trivial) world fun _ _ => .inr trivial)
    (fun _ _ _ => ⟨_, rfl⟩) fun _ _ _ => trivial

theorem adds_landRuntime (runtime : RuntimeId) (reply : Reply)
    {tells : StoredAuditEvent → Prop} :
    AddsOnly tells base (landRuntime ns runtime reply) fun _ => True := by
  refine maintains_bind maintains_get fun world gains => ?_
  split
  · exact maintains_throw _
  · have ended := gains.of_same
      (show (world.markDone runtime).document = world.document from rfl)
    exact maintains_bind (maintains_set ended) fun _ _ => maintains_throw _
  · rename_i tools normalized landed
    have listed := gains.of_same
      (show (world.setTools runtime tools).document = world.document from rfl)
    refine maintains_bind (maintains_set listed) fun _ _ => ?_
    have built : AddsOnly tells base (buildSnapshot ns normalized)
        fun _ => True :=
      maintains_bind adds_utcNow fun _ _ => maintains_pure trivial
    refine maintains_bind built fun snapshot _ => ?_
    have swapped : AddsOnly tells base (swapRuntime ns runtime)
        fun _ => True := by
      intro world gains
      rw [wp_swapRuntime]
      cases world.runtimes.get ns with
      | some existing => exact ⟨gains.of_same rfl, trivial⟩
      | none => exact ⟨gains.of_same rfl, trivial⟩
    exact maintains_bind swapped fun _ _ => maintains_pure trivial

omit [Platform] in
theorem adds_finishClose {α : Type} (closing : Closing)
    (reply : Except Raised α) {tells : StoredAuditEvent → Prop} :
    AddsOnly tells base (finishClose closing reply) fun _ => True := by
  intro world gains
  rw [wp_finishClose]
  cases closing.raises reply with
  | some raised => exact gains.of_same rfl
  | none => exact ⟨gains.of_same rfl, trivial⟩

/-- A suspended restore goes on with what it holds. -/
theorem adds_resume {stage : Stage}
    (restores : stage.Restores record candidates) (reply : Reply) :
    AddsOnly (StoredAuditEvent.Tells ns record candidates) base
      (resume ns stage reply) (Progress.Restores ns record candidates) := by
  cases stage with
  | opening purpose held runtime =>
      cases purpose with
      | restore scopes startup =>
          obtain ⟨rfl, same⟩ := restores
          refine maintains_bind
            (adds_tryExcept (adds_landRuntime runtime reply))
            fun result _ => ?_
          split
          · exact maintains_bind (adds_failed _) fun _ failed =>
              maintains_pure failed
          · exact maintains_pure ⟨rfl, same⟩
          · exact adds_complete _ same
      | activate scope => exact restores.elim
      | refresh scope previousTools oldHash => exact restores.elim
  | swapping closing purpose held snapshot =>
      cases purpose with
      | restore scopes startup =>
          obtain ⟨rfl, same⟩ := restores
          refine maintains_bind
            (adds_tryExcept (adds_finishClose closing reply))
            fun result _ => ?_
          cases result with
          | error exception =>
              exact maintains_bind (adds_failed exception) fun _ failed =>
                maintains_pure failed
          | ok value => exact adds_complete snapshot same
      | activate scope => exact restores.elim
      | refresh scope previousTools oldHash => exact restores.elim
  | _ => exact restores.elim

end Programs

end ToolboxMcp
