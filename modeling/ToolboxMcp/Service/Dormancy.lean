import ToolboxMcp.Service.Confinement
import ToolboxMcp.Service.Editing
import ToolboxMcp.Service.Stretches

/-!
# Toolsets nobody has asked for

A runtime is launched by the first stretch of an operation, for the namespace it
visits.  A toolset without loaded scopes that a start of the server restores
nothing of stays as it is under every operation but an activation and a restore
on other terms, even if the store fails.
-/

namespace ToolboxMcp

open Effect

/-! ## Launches -/

/-- All runtimes launched in between are the namespace's. -/
def Launches (ns : Namespace) (before after : World) : Prop :=
  ∀ runtime, before.nextRuntime ≤ runtime → runtime < after.nextRuntime →
    (after.objects runtime).ns = ns

section Launching

variable {ns : Namespace} {before after world : World}

theorem launches_of_same (same : after.nextRuntime = before.nextRuntime) :
    Launches ns before after := by
  intro runtime issued unissued
  rw [same] at unissued
  exact absurd unissued issued.not_gt

theorem SameTransport.launches (same : SameTransport before after) :
    Launches ns before after :=
  launches_of_same same.nextRuntime

theorem SameTransport.launches_spawnRuntime
    (same : SameTransport before after) :
    Launches ns before (after.spawnRuntime ns) := by
  intro runtime issued unissued
  rw [← same.nextRuntime] at issued
  have only : runtime = after.nextRuntime :=
    Nat.le_antisymm (Nat.lt_succ_iff.mp unissued) issued
  rw [only]
  exact owned_spawnRuntime.2

variable [Platform]

theorem start_launches (operation : Operation) :
    wp (start operation ns) (fun _ after => Launches ns world after)
      (fun _ after => Launches ns world after) world := by
  cases operation with
  | register transport registration =>
      apply startRegister_rule
      · exact fun _ _ untouched => untouched.launches
      · exact fun _ _ _ _ _ wrote => wrote.launches
      · exact fun _ _ _ _ _ _ _ wrote => wrote.launches
      · exact fun _ _ _ untouched => untouched.launches
  | activate scope ifNotLoaded =>
      apply startActivate_rule
      · exact fun _ _ untouched => untouched.launches
      · exact fun _ _ _ _ _ => launches_of_same rfl
      · exact fun _ _ _ _ _ _ _ _ _ _ wrote => wrote.launches
      · exact fun _ _ _ _ _ _ _ wrote => wrote.launches
      · exact fun _ _ _ _ _ _ wrote =>
          wrote.toSameTransport.launches_spawnRuntime
      · exact fun _ _ _ _ _ wrote => wrote.launches
      · exact fun _ _ quiet _ => quiet.launches
  | refresh ifStale scope =>
      apply startRefresh_rule
      · exact fun _ _ untouched _ => untouched.launches
      · exact fun _ _ _ => (SameTransport.refl world).launches_spawnRuntime
      · exact fun _ _ quiet _ => quiet.launches
  | deactivate scope force =>
      apply startDeactivate_rule
      · exact fun _ _ untouched _ => untouched.launches
      · exact fun _ _ _ _ _ wrote => wrote.launches
      · exact fun _ _ _ _ _ _ wrote => wrote.launches
      · exact fun _ _ _ _ _ _ _ => launches_of_same rfl
      · exact fun _ _ quiet _ => quiet.launches
  | restore stableHostIdentity startup =>
      apply startRestore_rule
      · exact fun _ _ untouched _ => untouched.launches
      · exact fun _ _ _ _ _ _ _ _ _ _ _ wrote => wrote.launches
      · exact fun _ _ _ _ _ _ _ _ _ wrote => wrote.launches
      · exact fun _ _ _ _ _ _ _ wrote =>
          wrote.toSameTransport.launches_spawnRuntime
      · exact fun _ _ _ _ _ _ wrote => wrote.launches
      · exact fun _ _ quiet _ => quiet.launches
  | checkHealth scope =>
      apply startCheckHealth_rule
      · exact fun _ _ untouched _ => untouched.launches
      · exact fun _ _ _ _ => launches_of_same rfl
      · exact fun _ _ _ _ _ _ _ _ wrote => wrote.launches
      · exact fun _ _ quiet _ => quiet.launches
  | clearStale =>
      apply startClearStale_rule
      · exact fun _ _ untouched _ => untouched.launches
      · exact fun _ _ _ _ _ wrote => wrote.launches
      · exact fun _ _ quiet _ => quiet.launches
  | markStale reason =>
      apply startMarkStale_rule
      · exact fun _ => launches_of_same rfl
      · exact fun _ _ _ wrote => wrote.launches
      · exact fun _ _ quiet _ => quiet.launches
  | unregister force =>
      apply startUnregister_rule
      · exact fun _ _ untouched => untouched.launches
      · exact fun _ _ _ _ _ removed _ => launches_of_same removed.nextRuntime
      · exact fun _ _ _ _ _ => launches_of_same rfl
      · rintro _ _ _ (quiet | removed)
        · exact quiet.launches
        · exact launches_of_same removed.nextRuntime

theorem resume_launches {stage : Stage} (proper : stage.Proper world ns)
    (reply : Reply) :
    wp (resume ns stage reply) (fun _ after => Launches ns world after)
      (fun _ after => Launches ns world after) world := by
  cases stage with
  | opening purpose record runtime =>
      apply resumeOpening_rule proper.1
      · exact fun _ => launches_of_same rfl
      · exact fun _ _ _ wrote => launches_of_same wrote.nextRuntime
      · exact fun _ _ _ _ _ _ _ => launches_of_same rfl
      · exact fun _ _ _ _ _ _ _ _ installed =>
          launches_of_same installed.nextRuntime
      · exact fun _ _ _ _ _ _ _ _ _ _ quiet _ _ _ =>
          launches_of_same quiet.nextRuntime
      · rintro _ _ _ (quiet | ⟨_, _, _, _, quiet⟩)
        · exact launches_of_same quiet.nextRuntime
        · exact launches_of_same quiet.nextRuntime
  | swapping closing purpose record snapshot =>
      apply resumeSwapping_rule proper.1 proper.2.1
      · exact fun _ => launches_of_same rfl
      · exact fun _ _ _ wrote => launches_of_same wrote.nextRuntime
      · exact fun _ _ _ installed => launches_of_same installed.nextRuntime
      · exact fun _ _ _ _ _ quiet _ _ _ => launches_of_same quiet.nextRuntime
      · exact fun _ _ quiet _ => launches_of_same quiet.nextRuntime
  | deactivating closing scope force record =>
      apply resumeDeactivating_rule proper.1
      · exact fun _ _ wrote => launches_of_same wrote.nextRuntime
      · exact fun _ _ => launches_of_same rfl
      · exact fun _ _ quiet _ => launches_of_same quiet.nextRuntime
  | unregistering closing force =>
      apply resumeUnregistering_rule
      · exact fun _ _ removed _ => launches_of_same removed.nextRuntime
      · exact fun _ _ => launches_of_same rfl
      · rintro _ _ _ (quiet | removed)
        · exact launches_of_same quiet.nextRuntime
        · exact launches_of_same removed.nextRuntime
  | probing scope record runtime =>
      apply resumeProbing_rule
      · exact fun _ _ _ _ _ _ _ _ _ _ wrote => wrote.launches
      · exact fun _ => launches_of_same rfl
      · exact fun _ _ _ _ => launches_of_same rfl
      · exact fun _ _ => launches_of_same rfl
      · exact fun _ _ _ _ _ _ _ _ wrote => wrote.launches
      · exact fun _ => launches_of_same rfl
      · exact fun _ _ quiet _ => quiet.launches
  | aborting scope record runtime =>
      apply resumeAborting_rule
      · exact fun _ _ _ => launches_of_same rfl
      · exact fun _ _ => launches_of_same rfl
      · exact fun _ _ _ _ _ _ _ _ wrote =>
          launches_of_same wrote.nextRuntime
      · exact fun _ => launches_of_same rfl
      · exact fun _ _ quiet _ => launches_of_same quiet.nextRuntime
  | unhealthy closing scope record exception =>
      apply resumeUnhealthy_rule
      · exact fun _ _ _ => launches_of_same rfl
      · exact fun _ _ _ _ _ _ _ _ wrote =>
          launches_of_same wrote.nextRuntime
      · exact fun _ _ => launches_of_same rfl
      · exact fun _ _ quiet _ => launches_of_same quiet.nextRuntime

end Launching

section Calling

variable {world : World} {tool : MountedTool}

theorem finishCallFailure_launches (exception : PyException) :
    wp (finishCallFailure tool exception)
      (fun _ after => Launches tool.ns world after)
      (fun _ after => Launches tool.ns world after) world := by
  apply finishCallFailure_rule
  · exact fun _ _ untouched => untouched.launches
  · exact fun _ _ _ _ _ wrote => wrote.launches
  · exact fun _ _ quiet _ _ => quiet.launches

theorem callFailed_launches (exception : PyException) :
    wp (callFailed tool exception)
      (fun _ after => Launches tool.ns world after)
      (fun _ after => Launches tool.ns world after) world := by
  apply callFailed_rule
  · exact fun _ _ => launches_of_same rfl
  · exact fun _ => finishCallFailure_launches exception

theorem dispatchCall_launches :
    wp (dispatchCall tool) (fun _ after => Launches tool.ns world after)
      (fun _ after => Launches tool.ns world after) world := by
  apply dispatchCall_rule
  · exact fun _ _ => launches_of_same rfl
  · exact fun _ exception => callFailed_launches exception

theorem resumeCall_launches (stage : CallStage)
    (reply : Except Raised CallToolResult) :
    wp (resumeCall tool stage reply)
      (fun _ after => Launches tool.ns world after)
      (fun _ after => Launches tool.ns world after) world := by
  cases stage with
  | calling runtime =>
      apply resumeCalling_rule
      · exact fun _ _ => launches_of_same rfl
      · exact fun _ _ _ => launches_of_same rfl
      · exact fun exception _ _ => callFailed_launches exception
      · exact fun _ => launches_of_same rfl
  | aborting runtime =>
      apply resumeCallAborting_rule
      · exact fun exception _ => callFailed_launches exception
      · exact fun _ => launches_of_same rfl
  | disconnecting closing exception =>
      apply resumeCallDisconnecting_rule
      · exact fun _ => finishCallFailure_launches exception
      · exact fun _ _ => launches_of_same rfl

end Calling

/-! ## Dormant toolsets -/

/-- Nothing is loaded, and a start of the server has nothing to restore. -/
structure Dozes (stable : Bool) (record : ToolsetRecord) : Prop where
  unloaded : record.loadedScopes = []
  unoffered : recoveryScopes record stable false = []

/-- Neither an activation nor a restore but that of the start. -/
def Operation.refrains (stable : Bool) : Operation → Bool
  | .activate .. => false
  | .restore stableHostIdentity startup =>
      startup && stableHostIdentity == stable
  | _ => true

structure World.Dormant (stable : Bool) (ns : Namespace) (world : World) :
    Prop where
  unmounted : world.runtimes.get ns = none
  stored :
    ∀ record, world.document.getToolset ns = some record →
      Dozes stable record

section Dozing

variable {stable : Bool} {ns : Namespace} {record later : ToolsetRecord}

theorem Dozes.edited (dozes : Dozes stable record)
    (registered : later.registered = record.registered)
    (loaded : later.loadedScopes = record.loadedScopes)
    (recoverable : later.recoverableScopes = record.recoverableScopes) :
    Dozes stable later where
  unloaded := loaded.trans dozes.unloaded
  unoffered := by
    have shape : ∀ other : ToolsetRecord,
        recoveryScopes other stable false =
          recoveryScopes
            { other.registered with
              recoverableScopes := other.recoverableScopes }
            stable false :=
      fun _ => rfl
    rw [shape, registered, recoverable, ← shape]
    exact dozes.unoffered

/-- There is nothing to restore of a new registration. -/
theorem dozes_toRecord {registration : Registration}
    {transport : ToolsetTransport}
    (accepted : registration.toRecord ns transport = .ok record) :
    Dozes stable record where
  unloaded := (toRecord_valid accepted).2.1
  unoffered := by
    unfold recoveryScopes
    rw [(toRecord_valid accepted).2.2.1]
    simp

end Dozing

/-! ## What leaves them dormant -/

section Resting

variable {stable : Bool} {ns : Namespace} {bound : RuntimeId}

/-- The toolset is dormant, and nothing has been launched. -/
def World.Rests (stable : Bool) (ns : Namespace) (bound : RuntimeId)
    (world : World) : Prop :=
  world.Dormant stable ns ∧ world.nextRuntime = bound

abbrev KeepsResting {α : Type} (stable : Bool) (ns : Namespace)
    (bound : RuntimeId) (program : ServiceM α) (result : α → Prop) : Prop :=
  Maintains (World.Rests stable ns bound) program result

theorem World.Rests.of_same {before after : World}
    (rests : before.Rests stable ns bound)
    (document : after.document = before.document)
    (runtimes : after.runtimes = before.runtimes)
    (next : after.nextRuntime = before.nextRuntime) :
    after.Rests stable ns bound := by
  refine ⟨⟨?_, ?_⟩, next.trans rests.2⟩
  · rw [runtimes]
    exact rests.1.unmounted
  · rw [document]
    exact rests.1.stored

/-- The block is left at once. -/
def Progress.Leaves : Progress → Prop
  | .left _ => True
  | .inside _ => False

theorem rests_storeWrite {change : StateDocument → StateDocument}
    (preserved : ∀ document : StateDocument,
      (∀ record, document.getToolset ns = some record →
        Dozes stable record) →
      ∀ record, (change document).getToolset ns = some record →
        Dozes stable record) :
    KeepsResting stable ns bound (storeWrite change) fun _ => True := by
  intro world rests
  rw [wp_storeWrite]
  cases world.nextFault with
  | some exception =>
      exact rests.of_same rfl rfl rfl
  | none =>
      exact ⟨⟨⟨rests.1.unmounted, preserved _ rests.1.stored⟩, rests.2⟩,
        trivial⟩

theorem rests_upsertToolset {record : ToolsetRecord}
    (dozes : Dozes stable record) :
    KeepsResting stable ns bound (upsertToolset record) fun _ => True := by
  apply rests_storeWrite
  intro document stored other found
  rw [StateDocument.getToolset_upsertToolset] at found
  split at found
  · cases found
    exact dozes
  · exact stored other found

theorem rests_appendAuditEvent
    (operation : AuditOperation) (outcome : AuditOutcome)
    (subject : Option Namespace) (scope : Option Scope)
    (details : List (String × Json)) (error : Option ErrorInfo) :
    KeepsResting stable ns bound
      (appendAuditEvent operation outcome subject scope details error)
      fun _ => True := by
  have ticks : KeepsResting stable ns bound utcNow fun _ => True := by
    intro world rests
    rw [wp_utcNow]
    exact ⟨rests.of_same rfl rfl rfl, trivial⟩
  exact maintains_bind ticks fun _ _ =>
    rests_storeWrite fun _ stored => stored

theorem rests_left (entries : List Entry) :
    KeepsResting stable ns bound (pure (.left entries)) Progress.Leaves :=
  maintains_pure trivial

theorem rests_rejected (operation : AuditOperation) (subject : Namespace)
    (scope : Option Scope) (error : ErrorInfo) :
    KeepsResting stable ns bound (rejected operation subject scope error)
      Progress.Leaves :=
  maintains_bind (rests_appendAuditEvent _ _ _ _ _ _)
    fun _ _ => rests_left _

theorem rests_finishUnregister (force disconnected : Bool) :
    KeepsResting stable ns bound (finishUnregister ns force disconnected)
      Progress.Leaves := by
  refine maintains_bind (rests_storeWrite fun _ stored => stored)
    fun _ _ => ?_
  refine maintains_bind (rests_storeWrite fun _ stored => stored)
    fun _ _ => ?_
  have deleted : ∀ document : StateDocument,
      (∀ record, document.getToolset ns = some record →
        Dozes stable record) →
      ∀ record, (document.deleteToolset ns).getToolset ns = some record →
        Dozes stable record := by
    intro document stored record found
    rw [StateDocument.getToolset_deleteToolset] at found
    split at found
    · cases found
    · exact stored record found
  refine maintains_bind (rests_storeWrite deleted) fun _ _ => ?_
  have popped : KeepsResting stable ns bound
      (modify (World.popLockEntry · ns)) fun _ => True :=
    maintains_modify fun _ rests => rests.of_same rfl rfl rfl
  refine maintains_bind popped fun _ _ => ?_
  refine maintains_bind (rests_appendAuditEvent _ _ _ _ _ _)
    fun _ _ => ?_
  cases disconnected with
  | true =>
      exact rests_left _
  | false =>
      exact rests_left _

variable [Platform]

/-- The toolset stays dormant under every operation that refrains. -/
theorem start_rests {operation : Operation}
    (refrains : operation.refrains stable = true) :
    KeepsResting stable ns bound (start operation ns) Progress.Leaves := by
  cases operation with
  | register transport registration =>
      refine maintains_bind maintains_get fun world _ => ?_
      cases world.record ns with
      | some record =>
          exact rests_rejected _ _ _ _
      | none =>
          cases accepted : registration.toRecord ns transport with
          | error message =>
              exact rests_rejected _ _ _ _
          | ok record =>
              exact maintains_bind
                (rests_upsertToolset (dozes_toRecord accepted))
                fun _ _ => maintains_bind
                  (rests_appendAuditEvent _ _ _ _ _ _)
                  fun _ _ => rests_left _
  | activate scope ifNotLoaded =>
      cases refrains
  | refresh ifStale scope =>
      refine maintains_bind maintains_get fun world rests => ?_
      cases found : world.record ns with
      | none =>
          exact rests_rejected _ _ _ _
      | some record =>
          have unloaded := (rests.1.stored record found).unloaded
          simp only [unloaded]
          exact rests_left _
  | deactivate scope force =>
      refine maintains_bind maintains_get fun world rests => ?_
      cases found : world.record ns with
      | none =>
          exact rests_rejected _ _ _ _
      | some record =>
          have unloaded := (rests.1.stored record found).unloaded
          simp only [unloaded]
          exact rests_left _
  | restore stableHostIdentity startup =>
      refine maintains_bind maintains_get fun world rests => ?_
      cases found : world.record ns with
      | none =>
          exact rests_rejected _ _ _ _
      | some record =>
          have unoffered := (rests.1.stored record found).unoffered
          simp only [Operation.refrains, Bool.and_eq_true,
            beq_iff_eq] at refrains
          obtain ⟨rfl, rfl⟩ := refrains
          simp only [Bool.not_true, unoffered]
          exact rests_left _
  | checkHealth scope =>
      refine maintains_bind maintains_get fun world rests => ?_
      cases found : world.record ns with
      | none =>
          exact rests_rejected _ _ _ _
      | some record =>
          have unloaded := (rests.1.stored record found).unloaded
          simp only [unloaded]
          exact rests_left _
  | clearStale =>
      refine maintains_bind maintains_get fun world rests => ?_
      cases found : world.record ns with
      | none =>
          exact rests_rejected _ _ _ _
      | some record =>
          have cleared :
              Dozes stable (clearedRecord record (world.hasConnection ns)) :=
            (rests.1.stored record found).edited rfl rfl rfl
          dsimp only
          split
          · exact rests_left _
          · exact maintains_bind (rests_upsertToolset cleared) fun _ _ =>
              maintains_bind (rests_appendAuditEvent _ _ _ _ _ _)
                fun _ _ => rests_left _
  | markStale reason =>
      refine maintains_bind maintains_get fun world rests => ?_
      cases found : world.record ns with
      | none =>
          exact rests_left _
      | some record =>
          have marked : Dozes stable (markedRecord record reason) :=
            (rests.1.stored record found).edited rfl rfl rfl
          exact maintains_bind (rests_upsertToolset marked)
            fun _ _ => rests_left _
  | unregister force =>
      refine maintains_bind maintains_get fun world rests => ?_
      cases found : world.record ns with
      | none =>
          exact rests_rejected _ _ _ _
      | some record =>
          have unloaded := (rests.1.stored record found).unloaded
          simp only [unloaded]
          exact rests_finishUnregister _ _

end Resting

end ToolboxMcp
