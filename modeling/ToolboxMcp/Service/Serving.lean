import ToolboxMcp.Service.Mounting

/-!
# What a suspended body is doing

A stage keeps to the operation it was started for.  The runtime it waits to see
ended has been closed before, so nobody can call it any more; the runtime it is
opening has not been closed.
-/

namespace ToolboxMcp

open Effect

def Opening.Serves (operation : Operation) : Opening → Prop
  | .activate scope => ∃ ifNotLoaded, operation = .activate scope ifNotLoaded
  | .restore _ startup => ∃ identity, operation = .restore identity startup
  | .refresh scope _ _ => ∃ ifStale, operation = .refresh ifStale scope

/-- The operation the stage belongs to. -/
def Stage.Serves (operation : Operation) : Stage → Prop
  | .opening purpose _ _ => purpose.Serves operation
  | .swapping _ purpose _ _ => purpose.Serves operation
  | .deactivating _ scope force _ => operation = .deactivate scope force
  | .unregistering _ force => operation = .unregister force
  | .probing scope _ _ => operation = .checkHealth scope
  | .aborting scope _ _ => operation = .checkHealth scope
  | .unhealthy _ scope _ _ => operation = .checkHealth scope

/-- The runtime whose end the stage awaits. -/
def Stage.ending : Stage → Option RuntimeId
  | .swapping closing _ _ _ => some closing.runtime
  | .deactivating closing _ _ _ => some closing.runtime
  | .unregistering closing _ => some closing.runtime
  | .aborting _ _ runtime => some runtime
  | .unhealthy closing _ _ _ => some closing.runtime
  | _ => none

def CallStage.ending : CallStage → Option RuntimeId
  | .calling _ => none
  | .aborting runtime => some runtime
  | .disconnecting closing _ => some closing.runtime

/-- The flag `_closed` of the runtime is set. -/
def World.Shut (world : World) (runtime : RuntimeId) : Prop :=
  (world.objects runtime).closed = true

/-- The stage serves the operation, awaits the end of a closed runtime, or opens
one that is not closed. -/
structure Progress.Committed (operation : Operation) (world : World)
    (progress : Progress) : Prop where
  serves : ∀ stage, progress = .inside stage → stage.Serves operation
  shut : ∀ stage runtime, progress = .inside stage →
    stage.ending = some runtime → world.Shut runtime
  opened : ∀ stage runtime, progress = .inside stage →
    stage.landing = some runtime → ¬ world.Shut runtime

def CallProgress.Shuts (world : World) (progress : CallProgress) : Prop :=
  ∀ stage runtime, progress = .inside stage →
    stage.ending = some runtime → world.Shut runtime

section Stretches

variable {ns : Namespace} {operation : Operation} {world : World}

theorem committed_left (entries : List Entry) :
    (Progress.left entries).Committed operation world :=
  ⟨by simp, by simp, by simp⟩

theorem not_shut_spawnRuntime {after : World}
    (same : after.nextRuntime = world.nextRuntime) :
    ¬ (after.spawnRuntime ns).Shut world.nextRuntime := by
  simp [World.Shut, same]

/-- Whatever opens a runtime starts a new one. -/
theorem committed_opening {purpose : Opening} {record : ToolsetRecord}
    {after : World} (serves : purpose.Serves operation)
    (same : after.nextRuntime = world.nextRuntime) :
    (Progress.inside (.opening purpose record world.nextRuntime)).Committed
      operation (after.spawnRuntime ns) := by
  constructor
  · rintro _ ⟨⟩
    exact serves
  · rintro _ runtime ⟨⟩ ⟨⟩
  · rintro _ runtime ⟨⟩ ⟨⟩
    exact not_shut_spawnRuntime same

theorem committed_probing {scope : Option Scope} {record : ToolsetRecord}
    {runtime : RuntimeId} (serves : operation = .checkHealth scope) :
    (Progress.inside (.probing scope record runtime)).Committed operation
      world := by
  constructor
  · rintro _ ⟨⟩
    exact serves
  · rintro _ _ ⟨⟩ ⟨⟩
  · rintro _ _ ⟨⟩ ⟨⟩

theorem shut_markClosed (world : World) (runtime : RuntimeId) :
    (world.markClosed runtime).Shut runtime := by
  simp [World.Shut]

/-- Whatever closes the runtime it goes on to await. -/
theorem committed_closing {stage : Stage} {runtime : RuntimeId}
    (serves : stage.Serves operation) (ending : stage.ending = some runtime) :
    (Progress.inside stage).Committed operation
      (world.markClosed runtime) := by
  constructor
  · rintro _ ⟨⟩
    exact serves
  · rintro _ other ⟨⟩ same
    rw [ending] at same
    cases same
    exact shut_markClosed world runtime
  · rintro _ other ⟨⟩ lands
    cases stage with
    | opening purpose record opened =>
        cases ending
    | _ =>
        cases lands

variable [Platform]

theorem start_committed (operation : Operation) :
    wp (start operation ns)
      (fun progress after => progress.Committed operation after)
      (fun _ _ => True) world := by
  cases operation with
  | register transport registration =>
      apply startRegister_rule
      · exact fun _ _ _ => committed_left _
      · exact fun _ _ _ _ _ _ => committed_left _
      · exact fun _ _ _ _ _ _ _ _ => trivial
      · exact fun _ _ _ _ => trivial
  | activate scope ifNotLoaded =>
      apply startActivate_rule
      · exact fun _ _ _ => committed_left _
      · exact fun _ _ _ _ _ => committed_left _
      · exact fun _ _ _ _ _ _ _ _ _ _ _ => committed_left _
      · exact fun _ _ _ _ _ _ _ _ => trivial
      · exact fun _ _ _ _ _ _ wrote =>
          committed_opening ⟨ifNotLoaded, rfl⟩ wrote.nextRuntime
      · exact fun _ _ _ _ _ _ => committed_left _
      · exact fun _ _ _ _ => trivial
  | refresh ifStale scope =>
      apply startRefresh_rule
      · exact fun _ _ _ _ => committed_left _
      · exact fun _ _ _ =>
          committed_opening ⟨ifStale, rfl⟩ rfl
      · exact fun _ _ _ _ => trivial
  | deactivate scope force =>
      apply startDeactivate_rule
      · exact fun _ _ _ _ => committed_left _
      · exact fun _ _ _ _ _ _ => committed_left _
      · exact fun _ _ _ _ _ _ _ => committed_left _
      · exact fun _ _ _ _ _ _ _ => committed_closing rfl rfl
      · exact fun _ _ _ _ => trivial
  | restore stableHostIdentity startup =>
      apply startRestore_rule
      · exact fun _ _ _ _ => committed_left _
      · exact fun _ _ _ _ _ _ _ _ _ _ _ _ => committed_left _
      · exact fun _ _ _ _ _ _ _ _ _ _ => trivial
      · exact fun _ _ _ _ _ _ _ wrote =>
          committed_opening ⟨stableHostIdentity, rfl⟩ wrote.nextRuntime
      · exact fun _ _ _ _ _ _ _ => committed_left _
      · exact fun _ _ _ _ => trivial
  | checkHealth scope =>
      apply startCheckHealth_rule
      · exact fun _ _ _ _ => committed_left _
      · exact fun _ _ _ _ => committed_probing rfl
      · exact fun _ _ _ _ _ _ _ _ _ => committed_left _
      · exact fun _ _ _ _ => trivial
  | clearStale =>
      apply startClearStale_rule
      · exact fun _ _ _ _ => committed_left _
      · exact fun _ _ _ _ _ _ => committed_left _
      · exact fun _ _ _ _ => trivial
  | markStale reason =>
      apply startMarkStale_rule
      · exact fun _ => committed_left _
      · exact fun _ _ _ _ => committed_left _
      · exact fun _ _ _ _ => trivial
  | unregister force =>
      apply startUnregister_rule
      · exact fun _ _ _ => committed_left _
      · exact fun _ _ _ _ _ _ _ => committed_left _
      · exact fun _ _ _ _ _ => committed_closing rfl rfl
      · exact fun _ _ _ _ => trivial

theorem resume_committed {stage : Stage} (proper : stage.Proper world ns)
    (serves : stage.Serves operation) (reply : Reply) :
    wp (resume ns stage reply)
      (fun progress after => progress.Committed operation after)
      (fun _ _ => True) world := by
  cases stage with
  | opening opening record runtime =>
      apply resumeOpening_rule proper.1
      · exact fun _ => trivial
      · exact fun _ _ _ _ => committed_left _
      · exact fun _ _ _ _ _ _ _ => committed_closing serves rfl
      · exact fun _ _ _ _ _ _ _ _ _ => committed_left _
      · exact fun _ _ _ _ _ _ _ _ _ _ _ _ _ _ => committed_left _
      · exact fun _ _ _ _ => trivial
  | swapping closing opening record snapshot =>
      apply resumeSwapping_rule proper.1 proper.2.1
      · exact fun _ => trivial
      · exact fun _ _ _ _ => committed_left _
      · exact fun _ _ _ _ => committed_left _
      · exact fun _ _ _ _ _ _ _ _ _ => committed_left _
      · exact fun _ _ _ _ => trivial
  | deactivating closing scope force record =>
      apply resumeDeactivating_rule proper.1
      · exact fun _ _ _ => committed_left _
      · exact fun _ _ => trivial
      · exact fun _ _ _ _ => trivial
  | unregistering closing force =>
      apply resumeUnregistering_rule
      · exact fun _ _ _ _ => committed_left _
      · exact fun _ _ => trivial
      · exact fun _ _ _ _ => trivial
  | probing scope record runtime =>
      apply resumeProbing_rule
      · exact fun _ _ _ _ _ _ _ _ _ _ _ => committed_left _
      · exact fun _ => committed_closing serves rfl
      · exact fun _ _ _ _ => committed_closing serves rfl
      · exact fun _ _ => trivial
      · exact fun _ _ _ _ _ _ _ _ _ => committed_left _
      · exact fun _ => trivial
      · exact fun _ _ _ _ => trivial
  | aborting scope record runtime =>
      apply resumeAborting_rule
      · exact fun _ _ _ => committed_closing serves rfl
      · exact fun _ _ => trivial
      · exact fun _ _ _ _ _ _ _ _ _ => committed_left _
      · exact fun _ => trivial
      · exact fun _ _ _ _ => trivial
  | unhealthy closing scope record exception =>
      apply resumeUnhealthy_rule
      · exact fun _ _ _ => trivial
      · exact fun _ _ _ _ _ _ _ _ _ => committed_left _
      · exact fun _ _ => trivial
      · exact fun _ _ _ _ => trivial

end Stretches

section Calls

variable {tool : MountedTool} {world : World}

theorem shuts_closing {stage : CallStage} {runtime : RuntimeId}
    (ending : stage.ending = some runtime) :
    (CallProgress.inside stage).Shuts (world.markClosed runtime) := by
  rintro _ other ⟨⟩ same
  rw [ending] at same
  cases same
  exact shut_markClosed world runtime

/-- The handler ends with an exception or awaits what it has closed. -/
theorem finishCallFailure_shuts (exception : PyException) :
    wp (finishCallFailure tool exception)
      (fun progress after => progress.Shuts after)
      (fun _ _ => True) world := by
  apply finishCallFailure_rule
  · exact fun _ _ _ => trivial
  · exact fun _ _ _ _ _ _ => trivial
  · exact fun _ _ _ _ _ => trivial

theorem callFailed_shuts (exception : PyException) :
    wp (callFailed tool exception)
      (fun progress after => progress.Shuts after)
      (fun _ _ => True) world := by
  apply callFailed_rule
  · exact fun _ _ => shuts_closing rfl
  · exact fun _ => finishCallFailure_shuts exception

theorem dispatchCall_shuts :
    wp (dispatchCall tool) (fun progress after => progress.Shuts after)
      (fun _ _ => True) world := by
  apply dispatchCall_rule
  · rintro runtime _ _ _ ⟨⟩ ending
    cases ending
  · exact fun _ exception => callFailed_shuts exception

theorem resumeCall_shuts (stage : CallStage)
    (reply : Except Raised CallToolResult) :
    wp (resumeCall tool stage reply)
      (fun progress after => progress.Shuts after)
      (fun _ _ => True) world := by
  cases stage with
  | calling runtime =>
      apply resumeCalling_rule
      · rintro _ _ _ _ ⟨⟩
      · exact fun _ _ _ => shuts_closing rfl
      · exact fun exception _ _ => callFailed_shuts exception
      · exact fun _ => trivial
  | aborting runtime =>
      apply resumeCallAborting_rule
      · exact fun exception _ => callFailed_shuts exception
      · exact fun _ => trivial
  | disconnecting closing exception =>
      apply resumeCallDisconnecting_rule
      · exact fun _ => finishCallFailure_shuts exception
      · exact fun _ _ => trivial

/-! ## What a call closes -/

def CallStage.called : CallStage → Option RuntimeId
  | .calling runtime => some runtime
  | _ => none

def CallProgress.called : CallProgress → Option RuntimeId
  | .inside stage => stage.called
  | .returned _ => none

/-- Nothing was closed but the mounted runtime and the called one. -/
def ClosesOwn (ns : Namespace) (called : Option RuntimeId)
    (before after : World) : Prop :=
  ∀ runtime, after.Shut runtime →
    before.Shut runtime ∨ before.runtimes.get ns = some runtime ∨
      called = some runtime

section Closing

variable {ns : Namespace} {called : Option RuntimeId} {before after : World}

theorem closesOwn_of_objects (same : after.objects = before.objects) :
    ClosesOwn ns called before after := by
  intro runtime shut
  unfold World.Shut at shut ⊢
  rw [same] at shut
  exact .inl shut

theorem shut_markClosed_iff {closed runtime : RuntimeId} :
    (before.markClosed closed).Shut runtime ↔
      runtime = closed ∨ before.Shut runtime := by
  unfold World.Shut
  rw [World.markClosed_objects, Function.update_apply]
  split
  · simp [*]
  · simp [*]

theorem shut_markDone_iff {ended runtime : RuntimeId} :
    (before.markDone ended).Shut runtime ↔ before.Shut runtime := by
  unfold World.Shut
  rw [World.markDone_objects, Function.update_apply]
  split
  · rename_i same
    rw [same]
  · rfl

end Closing

/-- What a stretch of a call closes, and the runtime it goes on to call. -/
structure CallProgress.Handles (ns : Namespace) (called : Option RuntimeId)
    (before after : World) (progress : CallProgress) : Prop where
  closes : ClosesOwn ns called before after
  calls : ∀ runtime, progress.called = some runtime →
    before.runtimes.get ns = some runtime

section Handling

variable {tool : MountedTool} {world start : World}
  {called : Option RuntimeId}

theorem finishCallFailure_handles (exception : PyException)
    (same : ∀ runtime, start.Shut runtime → world.Shut runtime) :
    wp (finishCallFailure tool exception)
      (fun progress after => progress.Handles tool.ns called world after)
      (fun _ after => ClosesOwn tool.ns called world after) start := by
  have kept : ∀ {after : World}, after.objects = start.objects →
      ClosesOwn tool.ns called world after := by
    intro after objects runtime shut
    unfold World.Shut at shut
    rw [objects] at shut
    exact .inl (same runtime shut)
  apply finishCallFailure_rule
  · exact fun _ _ untouched => kept untouched.objects
  · exact fun _ _ _ _ _ wrote => kept wrote.objects
  · exact fun _ _ quiet _ _ => kept quiet.objects

theorem callFailed_handles (exception : PyException)
    (runtimes : start.runtimes = world.runtimes)
    (same : ∀ runtime, start.Shut runtime → world.Shut runtime) :
    wp (callFailed tool exception)
      (fun progress after => progress.Handles tool.ns called world after)
      (fun _ after => ClosesOwn tool.ns called world after) start := by
  apply callFailed_rule
  · intro existing mounted
    constructor
    · intro runtime shut
      rcases shut_markClosed_iff.mp shut with rfl | earlier
      · rw [runtimes] at mounted
        exact .inr (.inl mounted)
      · exact .inl (same runtime earlier)
    · rintro runtime ⟨⟩
  · exact fun _ => finishCallFailure_handles exception same

theorem dispatchCall_handles :
    wp (dispatchCall tool)
      (fun progress after => progress.Handles tool.ns none world after)
      (fun _ after => ClosesOwn tool.ns none world after) world := by
  apply dispatchCall_rule
  · intro runtime running
    refine ⟨closesOwn_of_objects rfl, ?_⟩
    rintro _ ⟨⟩
    exact (World.runtimeFor_eq_some.mp running).1
  · exact fun _ exception => callFailed_handles exception rfl fun _ => id

theorem resumeCall_handles (stage : CallStage)
    (reply : Except Raised CallToolResult) :
    wp (resumeCall tool stage reply)
      (fun progress after =>
        progress.Handles tool.ns stage.called world after)
      (fun _ after => ClosesOwn tool.ns stage.called world after) world := by
  have ended : ∀ {ending runtime : RuntimeId},
      (world.markDone ending).Shut runtime → world.Shut runtime :=
    shut_markDone_iff.mp
  cases stage with
  | calling runtime =>
      apply resumeCalling_rule
      · exact fun _ _ => ⟨closesOwn_of_objects rfl, by rintro _ ⟨⟩⟩
      · intro _ _ _
        refine ⟨?_, by rintro _ ⟨⟩⟩
        intro other shut
        rcases shut_markClosed_iff.mp shut with rfl | earlier
        · exact .inr (.inr rfl)
        · exact .inl earlier
      · exact fun exception _ _ => callFailed_handles exception rfl fun _ => id
      · exact fun _ => closesOwn_of_objects rfl
  | aborting runtime =>
      apply resumeCallAborting_rule
      · exact fun exception _ => callFailed_handles exception rfl fun _ => ended
      · exact fun _ _ shut => .inl (ended shut)
  | disconnecting closing exception =>
      apply resumeCallDisconnecting_rule
      · exact fun _ => finishCallFailure_handles exception fun _ => ended
      · exact fun _ _ _ shut => .inl (ended shut)

end Handling

end Calls

end ToolboxMcp
