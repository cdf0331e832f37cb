import ToolboxMcp.Library.Returns
import ToolboxMcp.Service.Calls
import ToolboxMcp.Service.Lifecycle

/-!
# The awaits a block has left

A lifecycle block passes at most three awaits: a failed probe is aborted, then
its runtime is disconnected.  The same holds of a started call.  `remaining`
counts the awaits a stage still has before it, the one it is suspended at
included, and every stretch that suspends again has fewer.
-/

namespace ToolboxMcp

open Effect

def Stage.remaining : Stage → Nat
  | .opening .. => 2
  | .swapping .. => 1
  | .deactivating .. => 1
  | .unregistering .. => 1
  | .probing .. => 3
  | .aborting .. => 2
  | .unhealthy .. => 1

def Progress.remaining : Progress → Nat
  | .inside stage => stage.remaining
  | .left _ => 0

def CallStage.remaining : CallStage → Nat
  | .calling _ => 3
  | .aborting _ => 2
  | .disconnecting .. => 1

def CallProgress.remaining : CallProgress → Nat
  | .inside stage => stage.remaining
  | .returned _ => 0

theorem Stage.remaining_pos (stage : Stage) : 0 < stage.remaining := by
  cases stage <;> exact Nat.succ_pos _

theorem CallStage.remaining_pos (stage : CallStage) :
    0 < stage.remaining := by
  cases stage <;> exact Nat.succ_pos _

/-- The program leaves the block or suspends with at most `bound` awaits. -/
abbrev EndsWithin (bound : Nat) (program : ServiceM Progress) : Prop :=
  ReturnsOnly program fun progress => progress.remaining ≤ bound

variable {ns : Namespace} {bound : Nat}

theorem within_left (entries : List Entry) :
    EndsWithin bound (pure (.left entries)) :=
  returnsOnly_pure (Nat.zero_le bound)

theorem within_inside {stage : Stage} (few : stage.remaining ≤ bound) :
    EndsWithin bound (pure (.inside stage)) :=
  returnsOnly_pure few

theorem rejected_within (operation : AuditOperation)
    (scope : Option Scope) (error : ErrorInfo) :
    EndsWithin bound (rejected operation ns scope error) :=
  .after fun _ => within_left _

theorem finishDeactivate_within (scope : Scope) (force : Bool)
    (record : ToolsetRecord) :
    EndsWithin bound (finishDeactivate ns scope force record) :=
  .after fun _ => .after fun _ => within_left _

theorem finishUnregister_within (force disconnected : Bool) :
    EndsWithin bound (finishUnregister ns force disconnected) := by
  refine .after fun _ => .after fun _ => .after fun _ => .after fun _ =>
    .after fun _ => ?_
  split
  · exact within_left _
  · exact within_left _

theorem startDeactivate_within (scope : Scope) (force : Bool) :
    EndsWithin 3 (startDeactivate ns scope force) := by
  refine .after fun world => ?_
  split
  · exact rejected_within _ _ _
  split
  · exact within_left _
  split
  · exact rejected_within _ _ _
  dsimp only
  split
  · refine .after fun closing => ?_
    cases closing with
    | none =>
        exact finishDeactivate_within _ _ _
    | some closing =>
        exact within_inside (by simp [Stage.remaining])
  · exact finishDeactivate_within _ _ _

theorem startUnregister_within (force : Bool) :
    EndsWithin 3 (startUnregister ns force) := by
  refine .after fun world => ?_
  split
  · exact rejected_within _ _ _
  split
  · exact finishUnregister_within _ _
  split
  · exact rejected_within _ _ _
  split
  · exact rejected_within _ _ _
  refine .after fun closing => ?_
  cases closing with
  | none =>
      exact finishUnregister_within _ _
  | some closing =>
      exact within_inside (by simp [Stage.remaining])

theorem startClearStale_within : EndsWithin bound (startClearStale ns) := by
  refine .after fun world => ?_
  split
  · exact rejected_within _ _ _
  split
  · exact within_left _
  · exact .after fun _ => .after fun _ => within_left _

theorem startMarkStale_within (reason : String) :
    EndsWithin bound (startMarkStale ns reason) := by
  refine .after fun world => ?_
  split
  · exact within_left _
  · exact .after fun _ => within_left _

section Opening

variable [Platform]

theorem complete_within (opening : Opening) (record : ToolsetRecord)
    (snapshot : SchemaSnapshot) :
    EndsWithin bound (opening.complete ns record snapshot) := by
  refine .after fun now => ?_
  refine .after fun stored => ?_
  cases stored with
  | error exception =>
      exact .after fun _ => within_left _
  | ok _ =>
      refine .after fun audited => ?_
      cases audited with
      | error exception =>
          exact .after fun _ => within_left _
      | ok _ =>
          exact within_left _

omit [Platform] in
theorem begin_within (opening : Opening) (record : ToolsetRecord) :
    EndsWithin 3 (opening.begin ns record) := by
  refine .after fun announced => ?_
  cases announced with
  | error exception =>
      exact .after fun _ => within_left _
  | ok _ =>
      exact .after fun _ => .after fun _ =>
        within_inside (by simp [Stage.remaining])

theorem activateReusing_within (scope : Scope) (record : ToolsetRecord)
    (tools : List Tool) :
    EndsWithin bound (activateReusing ns scope record tools) :=
  .after fun _ => .after fun _ => .after fun _ => .after fun _ =>
    within_left _

theorem restoreReusing_within (missing : List Scope) (startup : Bool)
    (record : ToolsetRecord) (tools : List Tool) :
    EndsWithin bound (restoreReusing ns missing startup record tools) :=
  .after fun _ => .after fun _ => .after fun _ => .after fun _ =>
    within_left _

theorem startActivate_within (scope : Scope) (ifNotLoaded : Bool) :
    EndsWithin 3 (startActivate ns scope ifNotLoaded) := by
  refine .after fun world => ?_
  split
  · exact rejected_within _ _ _
  split
  · exact rejected_within _ _ _
  split
  · exact activateReusing_within _ _ _
  split
  · exact within_left _
  · exact begin_within _ _

omit [Platform] in
theorem startRefresh_within (ifStale : Bool) (scope : Option Scope) :
    EndsWithin 3 (startRefresh ns ifStale scope) := by
  refine .after fun world => ?_
  split
  · exact rejected_within _ _ _
  split
  · exact within_left _
  split
  · exact within_left _
  split
  · exact within_left _
  · exact begin_within _ _

theorem startRestore_within (stableHostIdentity startup : Bool) :
    EndsWithin 3 (startRestore ns stableHostIdentity startup) := by
  refine .after fun world => ?_
  split
  · exact rejected_within _ _ _
  dsimp only
  split
  · exact within_left _
  split
  · split
    · exact within_left _
    · exact restoreReusing_within _ _ _ _
  · exact begin_within _ _

theorem startRegister_within (transport : ToolsetTransport)
    (registration : Registration) :
    EndsWithin bound (startRegister ns transport registration) := by
  refine .after fun world => ?_
  split
  · exact rejected_within _ _ _
  split
  · exact rejected_within _ _ _
  · exact .after fun _ => .after fun _ => within_left _

/-! ## Health checks -/

omit [Platform] in
theorem reportUnhealthy_within (scope : Option Scope)
    (record : ToolsetRecord) (status : HealthStatus)
    (code message staleReason : String) (drift : List (String × Json))
    (observed : Option (String × Nat)) :
    EndsWithin bound
      (reportUnhealthy ns scope record status code message staleReason drift
        observed) :=
  .after fun _ => .after fun _ => .after fun _ => within_left _

omit [Platform] in
theorem startCheckHealth_within (scope : Option Scope) :
    EndsWithin 3 (startCheckHealth ns scope) := by
  refine .after fun world => ?_
  split
  · exact rejected_within _ _ _
  split
  · exact within_left _
  split
  · exact within_left _
  split
  · exact within_inside (by simp [Stage.remaining])
  · exact reportUnhealthy_within _ _ _ _ _ _ _ _

omit [Platform] in
theorem probeFailed_within (scope : Option Scope) (record : ToolsetRecord)
    (exception : PyException) :
    EndsWithin 1 (probeFailed ns scope record exception) := by
  refine .after fun closing => ?_
  cases closing with
  | none =>
      exact reportUnhealthy_within _ _ _ _ _ _ _ _
  | some closing =>
      exact within_inside (by simp [Stage.remaining])

theorem probeAnswered_within (scope : Option Scope) (record : ToolsetRecord)
    (normalized : List ToolSchema) :
    EndsWithin bound (probeAnswered ns scope record normalized) := by
  unfold probeAnswered
  dsimp only
  split
  · exact reportUnhealthy_within _ _ _ _ _ _ _ _
  · exact .after fun _ => .after fun _ => within_left _

/-! ## All operations -/

/-- A body passes at most three awaits. -/
theorem start_within (operation : Operation) :
    EndsWithin 3 (start operation ns) := by
  cases operation with
  | register transport registration =>
      exact startRegister_within transport registration
  | activate scope ifNotLoaded =>
      exact startActivate_within scope ifNotLoaded
  | refresh ifStale scope =>
      exact startRefresh_within ifStale scope
  | deactivate scope force =>
      exact startDeactivate_within scope force
  | restore stableHostIdentity startup =>
      exact startRestore_within stableHostIdentity startup
  | checkHealth scope =>
      exact startCheckHealth_within scope
  | clearStale =>
      exact startClearStale_within
  | markStale reason =>
      exact startMarkStale_within reason
  | unregister force =>
      exact startUnregister_within force

theorem resumeOpening_within (opening : Opening) (record : ToolsetRecord)
    (runtime : RuntimeId) (reply : Reply) :
    EndsWithin 1 (resumeOpening ns opening record runtime reply) := by
  refine .after fun landed => ?_
  rcases landed with exception | ⟨snapshot, closing⟩
  · exact .after fun _ => within_left _
  · cases closing with
    | none =>
        exact complete_within _ _ _
    | some closing =>
        exact within_inside (by simp [Stage.remaining])

theorem resumeSwapping_within (closing : Closing) (opening : Opening)
    (record : ToolsetRecord) (snapshot : SchemaSnapshot) (reply : Reply) :
    EndsWithin bound
      (resumeSwapping ns closing opening record snapshot reply) := by
  refine .after fun closed => ?_
  cases closed with
  | error exception =>
      exact .after fun _ => within_left _
  | ok _ =>
      exact complete_within _ _ _

theorem resumeProbing_within (scope : Option Scope) (record : ToolsetRecord)
    (runtime : RuntimeId) (reply : Reply) :
    EndsWithin 2 (resumeProbing ns scope record runtime reply) := by
  have failed : ∀ exception,
      EndsWithin 2 (probeFailed ns scope record exception) := by
    intro exception
    exact (probeFailed_within scope record exception).mono fun _ few =>
      few.trans (by decide)
  rcases reply with (exception | _) | tools
  · simp only [resumeProbing]
    split
    · exact .after fun _ => within_inside (by simp [Stage.remaining])
    · exact failed _
  · exact returnsOnly_throw _
  · simp only [resumeProbing]
    split
    · exact probeAnswered_within _ _ _
    · exact failed _

omit [Platform] in
theorem resumeAborting_within (scope : Option Scope) (record : ToolsetRecord)
    (runtime : RuntimeId) (reply : Reply) :
    EndsWithin 1 (resumeAborting ns scope record runtime reply) := by
  refine .after fun world => .after fun _ => ?_
  split
  · exact returnsOnly_throw _
  · exact probeFailed_within _ _ _

/-- Every stretch that suspends again is closer to the end. -/
theorem resume_descends (stage : Stage) (reply : Reply) :
    ReturnsOnly (resume ns stage reply) fun progress =>
      progress.remaining < stage.remaining := by
  cases stage with
  | opening opening record runtime =>
      exact (resumeOpening_within opening record runtime reply).mono
        fun _ => Nat.lt_succ_of_le
  | swapping closing opening record snapshot =>
      exact (resumeSwapping_within closing opening record snapshot reply).mono
        fun _ => Nat.lt_succ_of_le
  | deactivating closing scope force record =>
      exact ReturnsOnly.after fun _ =>
        (finishDeactivate_within scope force _).mono
          fun _ => Nat.lt_succ_of_le
  | unregistering closing force =>
      exact ReturnsOnly.after fun _ =>
        (finishUnregister_within force true).mono fun _ => Nat.lt_succ_of_le
  | probing scope record runtime =>
      exact (resumeProbing_within scope record runtime reply).mono
        fun _ => Nat.lt_succ_of_le
  | aborting scope record runtime =>
      exact (resumeAborting_within scope record runtime reply).mono
        fun _ => Nat.lt_succ_of_le
  | unhealthy closing scope record exception =>
      exact ReturnsOnly.after fun _ =>
        (reportUnhealthy_within _ _ _ _ _ _ _ _).mono
          fun _ => Nat.lt_succ_of_le

end Opening

/-! ## Calls -/

theorem callFailed_within (tool : MountedTool) (exception : PyException) :
    ReturnsOnly (callFailed tool exception) fun progress =>
      progress.remaining ≤ 1 := by
  refine .after fun closing => ?_
  cases closing with
  | none =>
      exact .after fun _ => .after fun _ => .after fun _ => returnsOnly_throw _
  | some closing =>
      exact returnsOnly_pure le_rfl

theorem dispatchCall_within (tool : MountedTool) :
    ReturnsOnly (dispatchCall tool) fun progress => progress.remaining ≤ 3 := by
  refine .after fun world => ?_
  split
  · exact returnsOnly_pure le_rfl
  · exact (callFailed_within _ _).mono fun _ few => few.trans (by decide)

theorem resumeCall_descends (tool : MountedTool) (stage : CallStage)
    (reply : Except Raised CallToolResult) :
    ReturnsOnly (resumeCall tool stage reply) fun progress =>
      progress.remaining < stage.remaining := by
  have failed : ∀ exception bound, 1 ≤ bound →
      ReturnsOnly (callFailed tool exception) fun progress =>
        progress.remaining < bound + 1 := by
    intro exception bound few
    exact (callFailed_within tool exception).mono fun _ least =>
      Nat.lt_succ_of_le (least.trans few)
  cases stage with
  | calling runtime =>
      rcases reply with (exception | _) | result
      · simp only [resumeCall]
        split
        · exact .after fun _ => returnsOnly_pure (Nat.lt_succ_self 2)
        · exact failed _ 2 (by decide)
      · exact returnsOnly_throw _
      · exact returnsOnly_pure (Nat.succ_pos 2)
  | aborting runtime =>
      refine .after fun world => .after fun _ => ?_
      split
      · exact returnsOnly_throw _
      · exact failed _ 1 le_rfl
  | disconnecting closing exception =>
      exact .after fun _ => .after fun _ => .after fun _ => .after fun _ =>
        returnsOnly_throw _

end ToolboxMcp
