import ToolboxMcp.Service.Calls
import ToolboxMcp.Service.Frames
import ToolboxMcp.Service.Startup

/-!
# What no edit spoils

Every record the service writes is a new registration, or an edit of a record
it has read, perhaps before an await.  Of the fields that say what the toolset
is and which scopes it has, an edit changes only the two scope lists, and those
in three ways.  A property of records that these edits keep holds of the
document and of the locals of the suspended blocks forever.
-/

namespace ToolboxMcp

open Effect

/-- The record as `register_toolset` has made it. -/
def ToolsetRecord.registered (record : ToolsetRecord) : ToolsetRecord where
  ns := record.ns
  title := record.title
  description := record.description
  tags := record.tags
  transport := record.transport
  defaultScope := record.defaultScope
  supportedScopes := record.supportedScopes
  restorableScopes := record.restorableScopes
  restoreRequiresIdentity := record.restoreRequiresIdentity
  restoreRequiresExplicitRequest := record.restoreRequiresExplicitRequest
  authRequired := record.authRequired

/-- A property of records that the edits of the service keep. -/
structure RecordInvariant where
  holds : ToolsetRecord → Prop
  relabelled :
    ∀ {record edited : ToolsetRecord}, holds record →
      edited.registered = record.registered →
      edited.loadedScopes = record.loadedScopes →
      edited.recoverableScopes = record.recoverableScopes → holds edited
  activated :
    ∀ {record : ToolsetRecord} {scope : Scope}, holds record →
      scope ∈ record.supportedScopes → holds (activated record scope)
  restored :
    ∀ {record : ToolsetRecord} {scopes : List Scope}, holds record →
      (∀ scope ∈ scopes, scope ∈ record.recoverableScopes) →
      holds (addScopes record scopes)
  reduced :
    ∀ {record : ToolsetRecord} {scope : Scope}, holds record →
      holds (withoutScope record scope)
  reconciled :
    ∀ {record : ToolsetRecord}, holds record →
      holds (reconciledRecord record)

instance : CoeFun RecordInvariant fun _ => ToolsetRecord → Prop where
  coe good := good.holds

/-! ## Registrations -/

section Registrations

variable (record : ToolsetRecord)

theorem registered_addScope (scope : Scope) :
    (addScope record scope).registered = record.registered := by
  unfold addScope
  split <;> rfl

theorem registered_addScopes (scopes : List Scope) :
    (addScopes record scopes).registered = record.registered := by
  induction scopes generalizing record with
  | nil =>
      rfl
  | cons scope rest inductionHypothesis =>
      exact (inductionHypothesis (addScope record scope)).trans
        (registered_addScope record scope)

theorem registered_activated (scope : Scope) :
    (activated record scope).registered = record.registered := by
  rw [activated_eq]
  rfl

theorem registered_withoutScope (scope : Scope) :
    (withoutScope record scope).registered = record.registered := by
  rw [withoutScope_eq]
  rfl

theorem registered_toRecord {ns : Namespace} {registration : Registration}
    {transport : ToolsetTransport} {record : ToolsetRecord}
    (accepted : registration.toRecord ns transport = .ok record) :
    record.registered = record := by
  unfold Registration.toRecord at accepted
  obtain ⟨defaultScope, _, accepted⟩ := bind_eq_ok.mp accepted
  obtain ⟨supported, _, accepted⟩ := bind_eq_ok.mp accepted
  obtain ⟨restorable, _, accepted⟩ := bind_eq_ok.mp accepted
  obtain ⟨rfl, _⟩ := validateScopePolicy_eq_ok.mp accepted
  rfl

/-- No edit touches the registration. -/
def RecordInvariant.ofRegistered (fixed : ToolsetRecord → Prop) :
    RecordInvariant where
  holds record := fixed record.registered
  relabelled := by
    intro record edited holds same _ _
    rw [same]
    exact holds
  activated := by
    intro record scope holds _
    rw [registered_activated]
    exact holds
  restored := by
    intro record scopes holds _
    rw [registered_addScopes]
    exact holds
  reduced := by
    intro record scope holds
    rw [registered_withoutScope]
    exact holds
  reconciled := id

end Registrations

/-! ## Locals and documents -/

/-- The scopes an opening will add may be added to the record. -/
def Opening.Offers (record : ToolsetRecord) : Opening → Prop
  | .activate scope => scope ∈ record.supportedScopes
  | .restore candidates _ =>
      ∀ scope ∈ candidates, scope ∈ record.recoverableScopes
  | .refresh .. => True

section Good

variable (good : RecordInvariant)

/-- Every stored record is good. -/
def World.Retains (world : World) : Prop :=
  ∀ record ∈ world.document.toolsets, good record

/-- The record the block will write, if it will write one, is good. -/
def Stage.Retains : Stage → Prop
  | .opening body record _ => good record ∧ body.Offers record
  | .swapping _ body record _ => good record ∧ body.Offers record
  | .deactivating _ _ _ record => good record
  | _ => True

def Progress.Retains : Progress → Prop
  | .inside stage => stage.Retains good
  | .left _ => True

/-- An operation that registers brings a good record. -/
def Operation.Brings (ns : Namespace) (operation : Operation) : Prop :=
  ∀ transport registration record,
    operation = .register transport registration →
    registration.toRecord ns transport = .ok record → good record

abbrev KeepsGood {α : Type} (program : ServiceM α)
    (result : α → Prop) : Prop :=
  Maintains (World.Retains good) program result

variable {good}

theorem World.Retains.found {world : World}
    (retains : world.Retains good) {ns : Namespace}
    {record : ToolsetRecord} (found : world.record ns = some record) :
    good record :=
  retains record (KeyedList.mem_of_lookup _ found)

theorem World.Retains.of_same {before after : World}
    (retains : before.Retains good)
    (document : after.document = before.document) :
    after.Retains good := by
  unfold World.Retains
  rw [document]
  exact retains

/-! ## Effects -/

theorem retains_storeWrite {change : StateDocument → StateDocument}
    (preserved : ∀ document : StateDocument,
      (∀ record ∈ document.toolsets, good record) →
      ∀ record ∈ (change document).toolsets, good record) :
    KeepsGood good (storeWrite change) fun _ => True := by
  intro world retains
  rw [wp_storeWrite]
  cases world.nextFault with
  | some exception =>
      exact retains
  | none =>
      exact ⟨preserved world.document retains, trivial⟩

theorem retains_upsertToolset {record : ToolsetRecord}
    (fixed : good record) :
    KeepsGood good (upsertToolset record) fun _ => True := by
  apply retains_storeWrite
  intro document retains stored member
  rcases KeyedList.mem_upsert _ member with same | earlier
  · rw [same]
    exact fixed
  · exact retains stored earlier

theorem retains_utcNow :
    KeepsGood good utcNow fun _ => True := by
  intro world retains
  rw [wp_utcNow]
  exact ⟨retains, trivial⟩

theorem retains_appendAuditEvent
    (operation : AuditOperation) (outcome : AuditOutcome)
    (ns : Option Namespace) (scope : Option Scope)
    (details : List (String × Json)) (error : Option ErrorInfo) :
    KeepsGood good
      (appendAuditEvent operation outcome ns scope details error)
      fun _ => True :=
  maintains_bind retains_utcNow fun _ _ =>
    retains_storeWrite fun _ retains => retains

theorem retains_left (entries : List Entry) :
    KeepsGood good (pure (.left entries)) (Progress.Retains good) :=
  maintains_pure trivial

theorem retains_rejected (operation : AuditOperation) (ns : Namespace)
    (scope : Option Scope) (error : ErrorInfo) :
    KeepsGood good (rejected operation ns scope error)
      (Progress.Retains good) :=
  maintains_bind (retains_appendAuditEvent _ _ _ _ _ _)
    fun _ _ => retains_left _

theorem retains_inside {stage : Stage} (retains : stage.Retains good) :
    KeepsGood good (pure (.inside stage)) (Progress.Retains good) :=
  maintains_pure retains

theorem retains_finishClose {α : Type} (closing : Closing)
    (reply : Except Raised α) :
    KeepsGood good (finishClose closing reply) fun _ => True := by
  intro world retains
  rw [wp_finishClose]
  cases closing.raises reply with
  | some raised =>
      exact retains
  | none =>
      exact ⟨retains, trivial⟩

theorem retains_swapRuntime (ns : Namespace) (runtime : RuntimeId) :
    KeepsGood good (swapRuntime ns runtime) fun _ => True := by
  intro world retains
  rw [wp_swapRuntime]
  cases world.runtimes.get ns with
  | some existing =>
      exact ⟨retains, trivial⟩
  | none =>
      exact ⟨retains, trivial⟩

theorem retains_disconnect (ns : Namespace) :
    KeepsGood good (disconnect ns) fun _ => True := by
  intro world retains
  rw [wp_disconnect]
  cases world.runtimes.get ns with
  | some existing =>
      exact ⟨retains, trivial⟩
  | none =>
      exact ⟨retains, trivial⟩

/-! ## Record updates -/

section Bodies

variable {ns : Namespace} {record : ToolsetRecord}

theorem failedRecord_good (opening : Opening) (error : ErrorInfo)
    (connected : Bool) (fixed : good record) :
    good (opening.failedRecord record error connected) := by
  cases opening <;> exact good.relabelled fixed rfl rfl rfl

theorem announced_good (opening : Opening) (fixed : good record) :
    good (opening.announced record) := by
  cases opening <;> exact good.relabelled fixed rfl rfl rfl

/-- The record an opening ends with. -/
theorem completedRecord_good {opening : Opening} (snapshot : SchemaSnapshot)
    (now : Time) (offers : opening.Offers record) (fixed : good record) :
    good (opening.completedRecord record snapshot now) := by
  have installs : ∀ previousHash,
      good (installed record snapshot previousHash now) :=
    fun _ => good.relabelled fixed rfl rfl rfl
  cases opening with
  | activate scope =>
      refine good.activated ?_ offers
      exact good.relabelled (installs record.schemaHash) rfl rfl rfl
  | restore candidates startup =>
      refine good.restored ?_ offers
      exact good.relabelled (installs record.schemaHash) rfl rfl rfl
  | refresh scope previousTools oldHash =>
      exact installs oldHash

omit good in
theorem offers_announced {opening : Opening} (offers : opening.Offers record) :
    opening.Offers (opening.announced record) := by
  cases opening <;> exact offers

theorem retains_recordRuntimeFailure
    (code message staleReason : String) (details : Option Json) :
    KeepsGood good
      (recordRuntimeFailure ns code message staleReason details)
      fun _ => True := by
  refine maintains_bind maintains_get fun world retains => ?_
  cases found : world.record ns with
  | none =>
      exact maintains_pure trivial
  | some record =>
      have stored := retains.found found
      have fixed : ∀ error,
          good
            (failedRuntimeRecord record (world.hasConnection ns)
              staleReason error) :=
        fun _ => good.relabelled stored rfl rfl rfl
      exact maintains_bind (retains_upsertToolset (fixed _)) fun _ _ =>
        maintains_pure trivial

theorem retains_recordHealthObservation
    (status : HealthStatus) (observedSchemaHash : Option String)
    (observedToolCount : Option Nat) (error : Option ErrorInfo) :
    KeepsGood good
      (recordHealthObservation ns status observedSchemaHash
        observedToolCount error)
      fun _ => True := by
  refine maintains_bind maintains_get fun world retains => ?_
  cases found : world.record ns with
  | none =>
      exact maintains_throw _
  | some record =>
      refine maintains_bind retains_utcNow fun now _ => ?_
      have stored := retains.found found
      have fixed :
          good
            (observedRecord record (world.hasConnection ns) status
              observedSchemaHash observedToolCount error now) :=
        good.relabelled stored rfl rfl rfl
      exact maintains_bind (retains_upsertToolset fixed) fun _ _ =>
        maintains_pure trivial

theorem retains_finishDeactivate (scope : Scope) (force : Bool)
    (fixed : good record) :
    KeepsGood good (finishDeactivate ns scope force record)
      (Progress.Retains good) :=
  maintains_bind (retains_upsertToolset fixed) fun _ _ =>
    maintains_bind (retains_appendAuditEvent _ _ _ _ _ _)
      fun _ _ => retains_left _

theorem retains_finishUnregister (force disconnected : Bool) :
    KeepsGood good (finishUnregister ns force disconnected)
      (Progress.Retains good) := by
  refine maintains_bind (retains_storeWrite fun _ retains => retains)
    fun _ _ => ?_
  refine maintains_bind (retains_storeWrite fun _ retains => retains)
    fun _ _ => ?_
  have deleted : ∀ document : StateDocument,
      (∀ record ∈ document.toolsets, good record) →
      ∀ record ∈ (document.deleteToolset ns).toolsets,
        good record := by
    intro document retains record member
    exact retains record (KeyedList.mem_of_mem_erase _ member)
  refine maintains_bind (retains_storeWrite deleted) fun _ _ => ?_
  refine maintains_bind (maintains_modify fun _ retains => retains)
    fun _ _ => ?_
  refine maintains_bind (retains_appendAuditEvent _ _ _ _ _ _)
    fun _ _ => ?_
  cases disconnected with
  | true =>
      exact retains_left _
  | false =>
      exact retains_left _

theorem retains_reportUnhealthy [Platform] (scope : Option Scope)
    (record : ToolsetRecord) (status : HealthStatus)
    (code message staleReason : String) (drift : List (String × Json))
    (observed : Option (String × Nat)) :
    KeepsGood good
      (reportUnhealthy ns scope record status code message staleReason drift
        observed)
      (Progress.Retains good) :=
  maintains_bind (retains_recordRuntimeFailure _ _ _ _) fun _ _ =>
    maintains_bind (retains_recordHealthObservation _ _ _ _) fun _ _ =>
      maintains_bind (retains_appendAuditEvent _ _ _ _ _ _)
        fun _ _ => retains_left _

theorem retains_probeFailed [Platform] (scope : Option Scope)
    (record : ToolsetRecord) (exception : PyException) :
    KeepsGood good (probeFailed ns scope record exception)
      (Progress.Retains good) := by
  refine maintains_bind (retains_disconnect ns) fun closing _ => ?_
  cases closing with
  | some closing =>
      exact retains_inside trivial
  | none =>
      exact retains_reportUnhealthy _ _ _ _ _ _ _ _

/-! ## Openings -/

theorem retains_failed (opening : Opening) (exception : PyException)
    (fixed : good record) :
    KeepsGood good (opening.failed ns record exception)
      fun _ => True := by
  refine maintains_bind maintains_get fun world _ => ?_
  have failed :
      good
        (opening.failedRecord record (opening.failure ns exception)
          (world.hasConnection ns)) :=
    failedRecord_good opening _ _ fixed
  refine maintains_bind (retains_upsertToolset failed) fun _ _ => ?_
  have audited :
      KeepsGood good
        (opening.auditFailure ns record (opening.failure ns exception))
        fun _ => True := by
    cases opening <;> exact retains_appendAuditEvent _ _ _ _ _ _
  exact maintains_bind audited fun _ _ => maintains_pure trivial

theorem retains_leftFailed (opening : Opening) (exception : PyException)
    (report : List Entry → List Entry) (fixed : good record) :
    KeepsGood good
      (do
        let failed ← opening.failed ns record exception
        return .left (report failed))
      (Progress.Retains good) :=
  maintains_bind (retains_failed opening exception fixed)
    fun _ _ => retains_left _

theorem retains_begin {opening : Opening} (fixed : good record)
    (offers : opening.Offers record) :
    KeepsGood good (opening.begin ns record)
      (Progress.Retains good) := by
  have announced : good (opening.announced record) :=
    announced_good opening fixed
  have announces :
      KeepsGood good (opening.announce record) fun _ => True := by
    cases opening with
    | refresh scope previousTools oldHash =>
        exact maintains_pure trivial
    | _ =>
        exact retains_upsertToolset announced
  refine maintains_bind (maintains_attempt announces) fun result _ => ?_
  cases result with
  | error exception =>
      exact retains_leftFailed opening exception id announced
  | ok value =>
      refine maintains_bind maintains_get fun world retains => ?_
      have spawned : (world.spawnRuntime ns).Retains good :=
        retains.of_same rfl
      refine maintains_bind (maintains_set spawned) fun _ _ => ?_
      exact retains_inside ⟨announced, offers_announced offers⟩

section Platform

variable [Platform]

theorem retains_complete {opening : Opening} (snapshot : SchemaSnapshot)
    (fixed : good record) (offers : opening.Offers record) :
    KeepsGood good (opening.complete ns record snapshot)
      (Progress.Retains good) := by
  refine maintains_bind retains_utcNow fun now _ => ?_
  have completed : good (opening.completedRecord record snapshot now) :=
    completedRecord_good snapshot now offers fixed
  have stored :
      KeepsGood good
        (do
          upsertToolset (opening.completedRecord record snapshot now)
          replaceSchemaSnapshot snapshot)
        fun _ => True :=
    maintains_bind (retains_upsertToolset completed) fun _ _ =>
      retains_storeWrite fun _ retains => retains
  refine maintains_bind (maintains_attempt stored) fun result _ => ?_
  cases result with
  | error exception =>
      exact retains_leftFailed opening exception id completed
  | ok value =>
      have audited :
          KeepsGood good
            (opening.auditSuccess ns
              (opening.completedRecord record snapshot now) snapshot)
            fun _ => True := by
        cases opening <;> exact retains_appendAuditEvent _ _ _ _ _ _
      refine maintains_bind (maintains_attempt audited) fun result _ => ?_
      cases result with
      | error exception =>
          exact retains_leftFailed opening exception _ completed
      | ok value =>
          exact retains_left _

theorem retains_landRuntime (runtime : RuntimeId) (reply : Reply) :
    KeepsGood good (landRuntime ns runtime reply) fun _ => True := by
  refine maintains_bind maintains_get fun world retains => ?_
  split
  · exact maintains_throw _
  · have ended : (world.markDone runtime).Retains good :=
      retains.of_same rfl
    exact maintains_bind (maintains_set ended) fun _ _ => maintains_throw _
  · rename_i tools normalized landed
    have listed : (world.setTools runtime tools).Retains good :=
      retains.of_same rfl
    refine maintains_bind (maintains_set listed) fun _ _ => ?_
    have built : KeepsGood good (buildSnapshot ns normalized)
        fun _ => True :=
      maintains_bind retains_utcNow fun _ _ => maintains_pure trivial
    exact maintains_bind built fun snapshot _ =>
      maintains_bind (retains_swapRuntime ns runtime)
        fun _ _ => maintains_pure trivial

theorem retains_knownSchemaHash (tools : List Tool) :
    KeepsGood good (knownSchemaHash ns record tools)
      fun _ => True := by
  unfold knownSchemaHash
  split
  · exact maintains_pure trivial
  · split
    · exact maintains_pure trivial
    · exact maintains_throw _

/-! ## The operations -/

theorem retains_startActivate (scope : Scope) (ifNotLoaded : Bool) :
    KeepsGood good (startActivate ns scope ifNotLoaded)
      (Progress.Retains good) := by
  refine maintains_bind maintains_get fun world retains => ?_
  cases found : world.record ns with
  | none =>
      exact retains_rejected _ _ _ _
  | some record =>
      have fixed := retains.found found
      dsimp only
      split
      · exact retains_rejected _ _ _ _
      rename_i supports
      have offers : scope ∈ record.supportedScopes := by
        simpa [supportsScope] using supports
      split
      · refine maintains_bind retains_utcNow fun now _ => ?_
        have reused : good (activateReused record scope now) :=
          good.relabelled (good.activated fixed offers) rfl rfl rfl
        exact maintains_bind (retains_upsertToolset reused) fun _ _ =>
          maintains_bind (retains_appendAuditEvent _ _ _ _ _ _)
            fun _ _ => maintains_bind (retains_knownSchemaHash _)
              fun _ _ => retains_left _
      split
      · exact retains_left _
      · exact retains_begin fixed offers

omit [Platform] in
theorem retains_startRefresh (ifStale : Bool) (scope : Option Scope) :
    KeepsGood good (startRefresh ns ifStale scope)
      (Progress.Retains good) := by
  refine maintains_bind maintains_get fun world retains => ?_
  cases found : world.record ns with
  | none =>
      exact retains_rejected _ _ _ _
  | some record =>
      dsimp only
      split
      · exact retains_left _
      split
      · exact retains_left _
      split
      · exact retains_left _
      · exact retains_begin (retains.found found) trivial

theorem retains_startRestore (stableHostIdentity startup : Bool) :
    KeepsGood good (startRestore ns stableHostIdentity startup)
      (Progress.Retains good) := by
  refine maintains_bind maintains_get fun world retains => ?_
  cases found : world.record ns with
  | none =>
      exact retains_rejected _ _ _ _
  | some record =>
      have fixed := retains.found found
      have offers : ∀ scope ∈
          recoveryScopes record stableHostIdentity (!startup),
          scope ∈ record.recoverableScopes :=
        fun scope member => (mem_recoveryScopes record scope member).1
      dsimp only
      split
      · exact retains_left _
      cases world.runtimeFor ns with
      | none =>
          exact retains_begin fixed offers
      | some runtime =>
          dsimp only
          split
          · exact retains_left _
          · refine maintains_bind retains_utcNow fun now _ => ?_
            have reused : ∀ missing,
                (∀ scope ∈ missing, scope ∈ record.recoverableScopes) →
                good (restoreReused record missing now) :=
              fun missing lost =>
                good.relabelled (good.restored fixed lost) rfl rfl rfl
            exact maintains_bind (retains_upsertToolset (reused _
                fun scope member => offers scope (List.mem_filter.mp member).1))
              fun _ _ => maintains_bind (retains_knownSchemaHash _)
                fun _ _ =>
                  maintains_bind (retains_appendAuditEvent _ _ _ _ _ _)
                    fun _ _ => retains_left _

theorem retains_startRegister {transport : ToolsetTransport}
    {registration : Registration}
    (brings :
      (Operation.register transport registration).Brings good ns) :
    KeepsGood good (startRegister ns transport registration)
      (Progress.Retains good) := by
  refine maintains_bind maintains_get fun world _ => ?_
  cases world.record ns with
  | some record =>
      exact retains_rejected _ _ _ _
  | none =>
      cases accepted : registration.toRecord ns transport with
      | error message =>
          exact retains_rejected _ _ _ _
      | ok record =>
          have fixed := brings transport registration record rfl accepted
          exact maintains_bind (retains_upsertToolset fixed)
            fun _ _ => maintains_bind
              (retains_appendAuditEvent _ _ _ _ _ _)
              fun _ _ => retains_left _

omit [Platform] in
theorem retains_startDeactivate (scope : Scope) (force : Bool) :
    KeepsGood good (startDeactivate ns scope force)
      (Progress.Retains good) := by
  refine maintains_bind maintains_get fun world retains => ?_
  cases found : world.record ns with
  | none =>
      exact retains_rejected _ _ _ _
  | some record =>
      have reduced : good (withoutScope record scope) :=
        good.reduced (retains.found found)
      dsimp only
      split
      · exact retains_left _
      split
      · exact retains_rejected _ _ _ _
      split
      · refine maintains_bind (retains_disconnect ns) fun closing _ => ?_
        cases closing with
        | some closing =>
            exact retains_inside reduced
        | none =>
            exact retains_finishDeactivate _ _
              (good.relabelled reduced rfl rfl rfl)
      · exact retains_finishDeactivate _ _ reduced

omit [Platform] in
theorem retains_startUnregister (force : Bool) :
    KeepsGood good (startUnregister ns force)
      (Progress.Retains good) := by
  refine maintains_bind maintains_get fun world _ => ?_
  cases world.record ns with
  | none =>
      exact retains_rejected _ _ _ _
  | some record =>
      dsimp only
      split
      · exact retains_finishUnregister _ _
      split
      · exact retains_rejected _ _ _ _
      split
      · exact retains_rejected _ _ _ _
      refine maintains_bind (retains_disconnect ns) fun closing _ => ?_
      cases closing with
      | some closing =>
          exact retains_inside trivial
      | none =>
          exact retains_finishUnregister _ _

omit [Platform] in
theorem retains_startClearStale :
    KeepsGood good (startClearStale ns) (Progress.Retains good) := by
  refine maintains_bind maintains_get fun world retains => ?_
  cases found : world.record ns with
  | none =>
      exact retains_rejected _ _ _ _
  | some record =>
      have stored := retains.found found
      have cleared :
          good (clearedRecord record (world.hasConnection ns)) :=
        good.relabelled stored rfl rfl rfl
      dsimp only
      split
      · exact retains_left _
      · exact maintains_bind (retains_upsertToolset cleared) fun _ _ =>
          maintains_bind (retains_appendAuditEvent _ _ _ _ _ _)
            fun _ _ => retains_left _

omit [Platform] in
theorem retains_startMarkStale (reason : String) :
    KeepsGood good (startMarkStale ns reason)
      (Progress.Retains good) := by
  refine maintains_bind maintains_get fun world retains => ?_
  cases found : world.record ns with
  | none =>
      exact retains_left _
  | some record =>
      have stored := retains.found found
      have marked : good (markedRecord record reason) :=
        good.relabelled stored rfl rfl rfl
      exact maintains_bind (retains_upsertToolset marked)
        fun _ _ => retains_left _

theorem retains_startCheckHealth (scope : Option Scope) :
    KeepsGood good (startCheckHealth ns scope)
      (Progress.Retains good) := by
  refine maintains_bind maintains_get fun world _ => ?_
  cases world.record ns with
  | none =>
      exact retains_rejected _ _ _ _
  | some record =>
      dsimp only
      split
      · exact retains_left _
      split
      · exact retains_left _
      split
      · exact retains_inside trivial
      · exact retains_reportUnhealthy _ _ _ _ _ _ _ _

/-- Up to its first await. -/
theorem retains_start (operation : Operation)
    (brings : operation.Brings good ns) :
    KeepsGood good (start operation ns) (Progress.Retains good) := by
  cases operation with
  | register transport registration =>
      exact retains_startRegister brings
  | activate scope ifNotLoaded =>
      exact retains_startActivate scope ifNotLoaded
  | refresh ifStale scope =>
      exact retains_startRefresh ifStale scope
  | deactivate scope force =>
      exact retains_startDeactivate scope force
  | restore stableHostIdentity startup =>
      exact retains_startRestore stableHostIdentity startup
  | checkHealth scope =>
      exact retains_startCheckHealth scope
  | clearStale =>
      exact retains_startClearStale
  | markStale reason =>
      exact retains_startMarkStale reason
  | unregister force =>
      exact retains_startUnregister force

theorem retains_resumeProbing (scope : Option Scope)
    (record : ToolsetRecord) (runtime : RuntimeId) (reply : Reply) :
    KeepsGood good (resumeProbing ns scope record runtime reply)
      (Progress.Retains good) := by
  unfold resumeProbing
  split
  · split
    · unfold probeAnswered
      dsimp only
      split
      · exact retains_reportUnhealthy _ _ _ _ _ _ _ _
      · exact maintains_bind (retains_recordHealthObservation _ _ _ _)
          fun _ _ => maintains_bind
            (retains_appendAuditEvent _ _ _ _ _ _)
            fun _ _ => retains_left _
    · exact retains_probeFailed _ _ _
  · split
    · exact maintains_bind (maintains_modify fun _ retains => retains)
        fun _ _ => retains_inside trivial
    · exact retains_probeFailed _ _ _
  · exact maintains_throw _

/-- From one await to the next. -/
theorem retains_resume {stage : Stage} (reply : Reply)
    (retains : stage.Retains good) :
    KeepsGood good (resume ns stage reply)
      (Progress.Retains good) := by
  cases stage with
  | opening opening record runtime =>
      obtain ⟨fixed, offers⟩ := retains
      refine maintains_bind
        (maintains_attempt (retains_landRuntime runtime reply))
        fun result _ => ?_
      split
      · exact retains_leftFailed opening _ id fixed
      · exact retains_inside ⟨fixed, offers⟩
      · exact retains_complete _ fixed offers
  | swapping closing opening record snapshot =>
      obtain ⟨fixed, offers⟩ := retains
      refine maintains_bind
        (maintains_attempt (retains_finishClose closing reply))
        fun result _ => ?_
      cases result with
      | error exception =>
          exact retains_leftFailed opening exception id fixed
      | ok value =>
          exact retains_complete snapshot fixed offers
  | deactivating closing scope force record =>
      have fixed : good (deactivatedRecord record) :=
        good.relabelled retains rfl rfl rfl
      exact maintains_bind (retains_finishClose closing reply)
        fun _ _ => retains_finishDeactivate _ _ fixed
  | unregistering closing force =>
      exact maintains_bind (retains_finishClose closing reply)
        fun _ _ => retains_finishUnregister _ _
  | probing scope record runtime =>
      exact retains_resumeProbing scope record runtime reply
  | aborting scope record runtime =>
      refine maintains_bind maintains_get fun world stored => ?_
      have ended : (world.markDone runtime).Retains good :=
        stored.of_same rfl
      refine maintains_bind (maintains_set ended) fun _ _ => ?_
      split
      · exact maintains_throw _
      · exact retains_probeFailed _ _ _
  | unhealthy closing scope record exception =>
      exact maintains_bind (retains_finishClose closing reply)
        fun _ _ => retains_reportUnhealthy _ _ _ _ _ _ _ _

end Platform

end Bodies

/-! ## Calls -/

section Calls

variable {tool : MountedTool}

theorem retains_finishCallFailure (exception : PyException) :
    KeepsGood good (finishCallFailure tool exception)
      fun _ => True :=
  maintains_bind (retains_recordRuntimeFailure _ _ _ _) fun _ _ =>
    maintains_bind maintains_get fun _ _ =>
      maintains_bind (retains_appendAuditEvent _ _ _ _ _ _)
        fun _ _ => maintains_throw _

theorem retains_callFailed (exception : PyException) :
    KeepsGood good (callFailed tool exception) fun _ => True := by
  refine maintains_bind (retains_disconnect tool.ns) fun closing _ => ?_
  cases closing with
  | some closing =>
      exact maintains_pure trivial
  | none =>
      exact retains_finishCallFailure exception

theorem retains_dispatchCall :
    KeepsGood good (dispatchCall tool) fun _ => True := by
  refine maintains_bind maintains_get fun world _ => ?_
  split
  · exact maintains_pure trivial
  · exact retains_callFailed _

theorem retains_resumeCall (stage : CallStage)
    (reply : Except Raised CallToolResult) :
    KeepsGood good (resumeCall tool stage reply) fun _ => True := by
  cases stage with
  | calling runtime =>
      simp only [resumeCall]
      split
      · exact maintains_pure trivial
      · split
        · exact maintains_bind
            (maintains_modify fun _ retains => retains)
            fun _ _ => maintains_pure trivial
        · exact retains_callFailed _
      · exact maintains_throw _
  | aborting runtime =>
      refine maintains_bind maintains_get fun world retains => ?_
      have ended : (world.markDone runtime).Retains good :=
        retains.of_same rfl
      refine maintains_bind (maintains_set ended) fun _ _ => ?_
      split
      · exact maintains_throw _
      · exact retains_callFailed _
  | disconnecting closing exception =>
      exact maintains_bind (retains_finishClose closing reply)
        fun _ _ => retains_finishCallFailure exception

end Calls

/-! ## The start of a process -/

section Start

theorem retains_bootstrapDefaults {config : HostConfig}
    (bundled : good (fakeToolset config)) {world : World}
    (retains : world.Retains good) (host : world.config = config) :
    wp bootstrapDefaults (fun _ after => after.Retains good)
      (fun _ after => after.Retains good) world := by
  unfold bootstrapDefaults
  rw [wp_bind, wp_get]
  cases world.record "fake_stdio" with
  | some record =>
      exact retains
  | none =>
      subst host
      exact wp_mono (retains_upsertToolset bundled world retains)
        (fun _ _ kept => kept.1) fun _ _ kept => kept

theorem retains_reconcileRecords {records : List ToolsetRecord}
    (all : ∀ record ∈ records, good record) :
    KeepsGood good (reconcileRecords records) fun _ => True := by
  induction records with
  | nil =>
      exact maintains_pure trivial
  | cons record rest inductionHypothesis =>
      have first := all record List.mem_cons_self
      have later := inductionHypothesis fun other member =>
        all other (List.mem_cons_of_mem _ member)
      unfold reconcileRecords
      split
      · exact maintains_bind (retains_upsertToolset (good.reconciled first))
          fun _ _ => later
      · exact later

theorem retains_startService {world : World}
    (bundled : good (fakeToolset world.config))
    (retains : world.Retains good) :
    wp startService (fun _ after => after.Retains good)
      (fun _ after => after.Retains good) world := by
  unfold startService
  rw [wp_bind, wp_modify, wp_bind]
  have fresh : world.restarted.Retains good := retains.of_same rfl
  apply wp_mono (retains_bootstrapDefaults bundled fresh rfl)
  · intro _ middle kept
    rw [wp_bind, wp_get]
    exact wp_mono (retains_reconcileRecords kept middle kept)
      (fun _ _ kept => kept.1) fun _ _ kept => kept
  · exact fun _ _ kept => kept

end Start

end Good

end ToolboxMcp
