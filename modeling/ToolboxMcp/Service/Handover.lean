import ToolboxMcp.Service.Confinement
import ToolboxMcp.Service.Stretches

/-!
# Who answers for a runtime

An actor that is not mounted for its namespace is in the hands of the operation
that is opening or closing it.  A stretch takes over the runtime its stage has
held and hands on the one its next stage holds; it leaves no other behind.
-/

namespace ToolboxMcp

open Effect

/-- A runtime of this process whose actor has not finished and that is not the
one mounted for its namespace. -/
structure World.Strays (first : RuntimeId) (world : World)
    (runtime : RuntimeId) : Prop where
  ours : first ≤ runtime
  opened : runtime < world.nextRuntime
  unfinished : (world.objects runtime).done = false
  unmounted : world.runtimes.get (world.objects runtime).ns ≠ some runtime

/-- Of the runtimes that stray, the stretch was given `mine` and hands on
`kept`. -/
def HandsOver (first : RuntimeId) (mine kept : Option RuntimeId)
    (before after : World) : Prop :=
  ∀ runtime, after.Strays first runtime →
    kept = some runtime ∨
      before.Strays first runtime ∧ mine ≠ some runtime

/-- The runtime the stage opens or closes. -/
def Stage.holds : Stage → Option RuntimeId
  | .opening _ _ runtime => some runtime
  | .swapping closing _ _ _ => some closing.runtime
  | .deactivating closing _ _ _ => some closing.runtime
  | .unregistering closing _ => some closing.runtime
  | .unhealthy closing _ _ _ => some closing.runtime
  | .probing .. => none
  | .aborting .. => none

def CallStage.holds : CallStage → Option RuntimeId
  | .disconnecting closing _ => some closing.runtime
  | _ => none

def Progress.holds : Progress → Option RuntimeId
  | .inside stage => stage.holds
  | .left _ => none

def CallProgress.holds : CallProgress → Option RuntimeId
  | .inside stage => stage.holds
  | .returned _ => none

/-- Cancelled while it awaits the bootstrap, an operation leaves the actor it
has started. -/
def Stage.abandons (stage : Stage) (reply : Reply) : Option RuntimeId :=
  match stage, reply with
  | .opening _ _ runtime, .error .cancelled => some runtime
  | _, _ => none

section Accounts

variable {first : RuntimeId} {mine kept given : Option RuntimeId}
  {before after world : World} {ns : Namespace}

theorem HandsOver.trans {middle : World}
    (left : HandsOver first mine given before middle)
    (right : HandsOver first given kept middle after) :
    HandsOver first mine kept before after := by
  intro runtime strays
  rcases right runtime strays with handed | ⟨earlier, other⟩
  · exact .inl handed
  · rcases left runtime earlier with same | stayed
    · exact absurd same other
    · exact .inr stayed

theorem HandsOver.keep (handsOver : HandsOver first mine none before after) :
    HandsOver first mine kept before after := by
  intro runtime strays
  rcases handsOver runtime strays with handed | stayed
  · cases handed
  · exact .inr stayed

/-- Runtimes and their dictionary are as before. -/
theorem handsOver_of_same (runtimes : after.runtimes = before.runtimes)
    (objects : after.objects = before.objects)
    (next : after.nextRuntime = before.nextRuntime) :
    HandsOver first mine mine before after := by
  intro runtime strays
  by_cases same : mine = some runtime
  · exact .inl same
  · refine .inr ⟨⟨strays.ours, ?_, ?_, ?_⟩, same⟩
    · rw [← next]
      exact strays.opened
    · rw [← objects]
      exact strays.unfinished
    · rw [← objects, ← runtimes]
      exact strays.unmounted

theorem SameTransport.handsOver (same : SameTransport before after) :
    HandsOver first mine mine before after :=
  handsOver_of_same same.runtimes same.objects same.nextRuntime

theorem Removed.handsOver (removed : Removed ns before after) :
    HandsOver first mine mine before after :=
  handsOver_of_same removed.runtimes removed.objects removed.nextRuntime

theorem handsOver_markDone (runtime : RuntimeId) :
    HandsOver first (some runtime) none world (world.markDone runtime) := by
  intro other strays
  have different : other ≠ runtime := by
    rintro rfl
    have finished := strays.unfinished
    simp at finished
  have same : (world.markDone runtime).objects other = world.objects other :=
    Function.update_of_ne different _ _
  refine .inr ⟨⟨strays.ours, strays.opened, ?_, ?_⟩, ?_⟩
  · rw [← same]
    exact strays.unfinished
  · rw [← same]
    exact strays.unmounted
  · simpa using Ne.symm different

/-- Whoever watches an actor finish has nothing to hand on. -/
theorem handsOver_markDone_free (runtime : RuntimeId) :
    HandsOver first none none world (world.markDone runtime) := by
  intro other strays
  rcases handsOver_markDone runtime other strays with handed | ⟨stayed, _⟩
  · cases handed
  · exact .inr ⟨stayed, by simp⟩

theorem World.markClosed_done (runtime other : RuntimeId) :
    ((world.markClosed runtime).objects other).done =
      (world.objects other).done := by
  rw [World.markClosed_objects, Function.update_apply]
  split
  · rename_i same
    rw [same]
  · rfl

theorem World.markClosed_ns (runtime other : RuntimeId) :
    ((world.markClosed runtime).objects other).ns =
      (world.objects other).ns := by
  rw [World.markClosed_objects, Function.update_apply]
  split
  · rename_i same
    rw [same]
  · rfl

theorem handsOver_markClosed (runtime : RuntimeId) :
    HandsOver first mine mine world (world.markClosed runtime) := by
  intro other strays
  by_cases same : mine = some other
  · exact .inl same
  · refine .inr ⟨⟨strays.ours, strays.opened, ?_, ?_⟩, same⟩
    · rw [← World.markClosed_done runtime]
      exact strays.unfinished
    · rw [← World.markClosed_ns runtime]
      exact strays.unmounted

/-- Disconnecting takes the mounted runtime over. -/
theorem handsOver_disconnect {existing : RuntimeId}
    (mounted : world.runtimes.get ns = some existing) :
    HandsOver first none (some existing) world
      ((world.unmount ns).markClosed existing) := by
  refine HandsOver.trans ?_ (handsOver_markClosed existing)
  intro runtime strays
  by_cases same : existing = runtime
  · exact .inl (congrArg some same)
  · refine .inr ⟨⟨strays.ours, strays.opened, strays.unfinished, ?_⟩,
      by simp⟩
    have unmounted := strays.unmounted
    simp only [World.unmount_objects, World.unmount_runtimes,
      Dict.get_pop] at unmounted
    split at unmounted
    · rename_i here
      rw [here, mounted]
      exact fun found => same (Option.some.inj found)
    · exact unmounted

/-- A new actor is in the hands of the operation that opens it. -/
theorem handsOver_spawnRuntime (ns : Namespace) :
    HandsOver first none (some world.nextRuntime) world
      (world.spawnRuntime ns) := by
  intro runtime strays
  by_cases same : world.nextRuntime = runtime
  · exact .inl (congrArg some same)
  · have older : runtime < world.nextRuntime :=
      Nat.lt_of_le_of_ne (Nat.le_of_lt_succ strays.opened) (Ne.symm same)
    have kept : (world.spawnRuntime ns).objects runtime =
        world.objects runtime :=
      Function.update_of_ne (Ne.symm same) _ _
    refine .inr ⟨⟨strays.ours, older, ?_, ?_⟩, by simp⟩
    · rw [← kept]
      exact strays.unfinished
    · rw [← kept]
      exact strays.unmounted

/-- A bootstrapped runtime takes the namespace over; the one it replaces is
left to the operation. -/
theorem handsOver_landed [Platform] {runtime : RuntimeId} {tools : List Tool}
    (owned : (world.objects runtime).ns = ns) :
    HandsOver first (some runtime) (world.runtimes.get ns) world
      (landed world ns runtime tools) := by
  intro other strays
  have named : ((landed world ns runtime tools).objects other).ns =
      (world.objects other).ns := by
    simp only [landed, World.mount_objects, World.tick_objects,
      World.setTools_objects, Function.update_apply]
    split
    · rename_i same
      rw [same]
    · rfl
  have finished : ((landed world ns runtime tools).objects other).done =
      (world.objects other).done := by
    simp only [landed, World.mount_objects, World.tick_objects,
      World.setTools_objects, Function.update_apply]
    split
    · rename_i same
      rw [same]
    · rfl
  have unmounted := strays.unmounted
  rw [named] at unmounted
  have different : runtime ≠ other := by
    rintro rfl
    rw [owned] at unmounted
    simp [landed, Dict.get_set] at unmounted
  by_cases replaced : world.runtimes.get ns = some other
  · exact .inl replaced
  · refine .inr ⟨⟨strays.ours, strays.opened, finished ▸ strays.unfinished,
      ?_⟩, by simpa using different⟩
    by_cases here : (world.objects other).ns = ns
    · rw [here]
      exact replaced
    · simpa [landed, Dict.get_set, here] using unmounted

end Accounts

/-! ## Stretches -/

section Stretches

variable [Platform] {first : RuntimeId} {ns : Namespace} {world : World}

theorem start_handsOver (operation : Operation) :
    wp (start operation ns)
      (fun progress after => HandsOver first none progress.holds world after)
      (fun _ after => HandsOver first none none world after) world := by
  have opened : ∀ {record : ToolsetRecord} {after : World},
      Wrote ns record world after →
      HandsOver first none (some world.nextRuntime) world
        (after.spawnRuntime ns) := by
    intro record after wrote
    rw [← wrote.nextRuntime]
    exact wrote.toSameTransport.handsOver.trans (handsOver_spawnRuntime ns)
  cases operation with
  | register transport registration =>
      apply startRegister_rule
      · exact fun _ _ untouched => untouched.handsOver
      · exact fun _ _ _ _ _ wrote => wrote.handsOver
      · exact fun _ _ _ _ _ _ _ wrote => wrote.handsOver
      · exact fun _ _ _ untouched => untouched.handsOver
  | activate scope ifNotLoaded =>
      apply startActivate_rule
      · exact fun _ _ untouched => untouched.handsOver
      · exact fun _ _ _ _ _ => handsOver_of_same rfl rfl rfl
      · exact fun _ _ _ _ _ _ _ _ _ _ wrote => wrote.handsOver
      · exact fun _ _ _ _ _ _ _ wrote => wrote.handsOver
      · exact fun _ _ _ _ _ _ wrote => opened wrote
      · exact fun _ _ _ _ _ wrote => wrote.handsOver
      · exact fun _ _ quiet _ => quiet.handsOver
  | refresh ifStale scope =>
      apply startRefresh_rule
      · exact fun _ _ untouched _ => untouched.handsOver
      · exact fun _ _ _ => handsOver_spawnRuntime ns
      · exact fun _ _ quiet _ => quiet.handsOver
  | deactivate scope force =>
      apply startDeactivate_rule
      · exact fun _ _ untouched _ => untouched.handsOver
      · exact fun _ _ _ _ _ wrote => wrote.handsOver
      · exact fun _ _ _ _ _ _ wrote => wrote.handsOver
      · exact fun _ _ _ _ _ mounted _ => handsOver_disconnect mounted
      · exact fun _ _ quiet _ => quiet.handsOver
  | restore stableHostIdentity startup =>
      apply startRestore_rule
      · exact fun _ _ untouched _ => untouched.handsOver
      · exact fun _ _ _ _ _ _ _ _ _ _ _ wrote => wrote.handsOver
      · exact fun _ _ _ _ _ _ _ _ _ wrote => wrote.handsOver
      · exact fun _ _ _ _ _ _ _ wrote => opened wrote
      · exact fun _ _ _ _ _ _ wrote => wrote.handsOver
      · exact fun _ _ quiet _ => quiet.handsOver
  | checkHealth scope =>
      apply startCheckHealth_rule
      · exact fun _ _ untouched _ => untouched.handsOver
      · exact fun _ _ _ _ => handsOver_of_same rfl rfl rfl
      · exact fun _ _ _ _ _ _ _ _ wrote => wrote.handsOver
      · exact fun _ _ quiet _ => quiet.handsOver
  | clearStale =>
      apply startClearStale_rule
      · exact fun _ _ untouched _ => untouched.handsOver
      · exact fun _ _ _ _ _ wrote => wrote.handsOver
      · exact fun _ _ quiet _ => quiet.handsOver
  | markStale reason =>
      apply startMarkStale_rule
      · exact fun _ => handsOver_of_same rfl rfl rfl
      · exact fun _ _ _ wrote => wrote.handsOver
      · exact fun _ _ quiet _ => quiet.handsOver
  | unregister force =>
      apply startUnregister_rule
      · exact fun _ _ untouched => untouched.handsOver
      · exact fun _ _ _ _ _ removed _ => removed.handsOver
      · exact fun _ _ _ mounted _ => handsOver_disconnect mounted
      · rintro _ _ _ (quiet | removed)
        · exact quiet.handsOver
        · exact removed.handsOver

omit [Platform] in
/-- A runtime that is over is held no longer. -/
theorem handsOver_closed {closing : Closing} {kept : Option RuntimeId} :
    HandsOver first (some closing.runtime) kept world
      (world.markDone closing.runtime) :=
  (handsOver_markDone closing.runtime).keep

theorem resume_handsOver {stage : Stage} {reply : Reply}
    (proper : stage.Proper world ns) :
    wp (resume ns stage reply)
      (fun progress after =>
        HandsOver first stage.holds progress.holds world after)
      (fun _ after =>
        HandsOver first stage.holds (stage.abandons reply) world after)
      world := by
  cases stage with
  | opening purpose record runtime =>
      have taken : ∀ tools,
          HandsOver first (some runtime) (world.runtimes.get ns) world
            (landed world ns runtime tools) :=
        fun _ => handsOver_landed proper.2.2
      have landing : ∀ {tools}, world.runtimes.get ns = none →
          HandsOver first (some runtime) none world
            (landed world ns runtime tools) := by
        intro tools unmounted
        rw [← unmounted]
        exact taken tools
      apply resumeOpening_rule proper.1
      · rintro rfl
        exact handsOver_of_same rfl rfl rfl
      · exact fun _ _ _ wrote =>
          (handsOver_markDone runtime).trans wrote.handsOver
      · intro tools snapshot existing _ _ _ mounted
        rw [mounted] at taken
        exact (taken tools).trans (handsOver_markClosed existing)
      · exact fun _ _ _ _ _ _ _ unmounted installed =>
          (landing unmounted).trans installed.handsOver
      · exact fun _ _ _ _ _ _ _ _ unmounted _ quiet _ _ _ =>
          (landing unmounted).trans quiet.handsOver
      · rintro _ _ _ (quiet | ⟨unmounted, _, _, _, quiet⟩)
        · exact ((handsOver_markDone runtime).trans quiet.handsOver).keep
        · exact ((landing unmounted).trans quiet.handsOver).keep
  | swapping closing purpose record snapshot =>
      apply resumeSwapping_rule proper.1 proper.2.1
      · exact fun _ => handsOver_closed
      · exact fun _ _ _ wrote => handsOver_closed.trans wrote.handsOver
      · exact fun _ _ _ installed => handsOver_closed.trans installed.handsOver
      · exact fun _ _ _ _ _ quiet _ _ _ => handsOver_closed.trans quiet.handsOver
      · exact fun _ _ quiet _ => handsOver_closed.trans quiet.handsOver
  | deactivating closing scope force record =>
      apply resumeDeactivating_rule proper.1
      · exact fun _ _ wrote => handsOver_closed.trans wrote.handsOver
      · exact fun _ _ => handsOver_closed
      · exact fun _ _ quiet _ => handsOver_closed.trans quiet.handsOver
  | unregistering closing force =>
      apply resumeUnregistering_rule
      · exact fun _ _ removed _ => handsOver_closed.trans removed.handsOver
      · exact fun _ _ => handsOver_closed
      · rintro _ _ _ (quiet | removed)
        · exact handsOver_closed.trans quiet.handsOver
        · exact handsOver_closed.trans removed.handsOver
  | probing scope record runtime =>
      apply resumeProbing_rule
      · exact fun _ _ _ _ _ _ _ _ _ _ wrote => wrote.handsOver
      · exact fun _ => handsOver_markClosed runtime
      · exact fun _ _ _ mounted => handsOver_disconnect mounted
      · exact fun _ _ => handsOver_of_same rfl rfl rfl
      · exact fun _ _ _ _ _ _ _ _ wrote => wrote.handsOver
      · exact fun _ => HandsOver.keep (handsOver_of_same rfl rfl rfl)
      · exact fun _ _ quiet _ => quiet.handsOver
  | aborting scope record runtime =>
      have finished : HandsOver first none none world
          (world.markDone runtime) :=
        handsOver_markDone_free runtime
      apply resumeAborting_rule
      · exact fun _ _ mounted =>
          finished.trans (handsOver_disconnect mounted)
      · exact fun _ _ => finished
      · exact fun _ _ _ _ _ _ _ _ wrote => finished.trans wrote.handsOver
      · exact fun _ => finished.keep
      · exact fun _ _ quiet _ => finished.trans quiet.handsOver
  | unhealthy closing scope record exception =>
      apply resumeUnhealthy_rule
      · exact fun _ _ _ => handsOver_closed
      · exact fun _ _ _ _ _ _ _ _ wrote => handsOver_closed.trans wrote.handsOver
      · exact fun _ _ => handsOver_closed
      · exact fun _ _ quiet _ => handsOver_closed.trans quiet.handsOver

end Stretches

/-! ## Calls -/

section Calls

variable {first : RuntimeId} {world : World} {tool : MountedTool}

theorem finishCallFailure_handsOver (exception : PyException) :
    wp (finishCallFailure tool exception)
      (fun progress after => HandsOver first none progress.holds world after)
      (fun _ after => HandsOver first none none world after) world := by
  apply finishCallFailure_rule
  · exact fun _ _ untouched => untouched.handsOver
  · exact fun _ _ _ _ _ wrote => wrote.handsOver
  · exact fun _ _ quiet _ _ => quiet.handsOver

theorem callFailed_handsOver (exception : PyException) :
    wp (callFailed tool exception)
      (fun progress after => HandsOver first none progress.holds world after)
      (fun _ after => HandsOver first none none world after) world := by
  apply callFailed_rule
  · exact fun _ mounted => handsOver_disconnect mounted
  · exact fun _ => finishCallFailure_handsOver exception

theorem dispatchCall_handsOver :
    wp (dispatchCall tool)
      (fun progress after => HandsOver first none progress.holds world after)
      (fun _ after => HandsOver first none none world after) world := by
  apply dispatchCall_rule
  · exact fun _ _ => handsOver_of_same rfl rfl rfl
  · exact fun _ exception => callFailed_handsOver exception

theorem resumeCall_handsOver (stage : CallStage)
    (reply : Except Raised CallToolResult) :
    wp (resumeCall tool stage reply)
      (fun progress after =>
        HandsOver first stage.holds progress.holds world after)
      (fun _ after => HandsOver first stage.holds none world after) world := by
  cases stage with
  | calling runtime =>
      apply resumeCalling_rule
      · exact fun _ _ => handsOver_of_same rfl rfl rfl
      · exact fun _ _ _ => handsOver_markClosed runtime
      · exact fun exception _ _ => callFailed_handsOver exception
      · exact fun _ => handsOver_of_same rfl rfl rfl
  | aborting runtime =>
      have finished : HandsOver first none none world
          (world.markDone runtime) :=
        handsOver_markDone_free runtime
      apply resumeCallAborting_rule
      · exact fun exception _ => wp_mono (callFailed_handsOver exception)
          (fun _ _ later => finished.trans later)
          fun _ _ later => finished.trans later
      · exact fun _ => finished
  | disconnecting closing exception =>
      have closed : HandsOver first (some closing.runtime) none world
          (world.markDone closing.runtime) :=
        handsOver_markDone closing.runtime
      apply resumeCallDisconnecting_rule
      · exact fun _ => wp_mono (finishCallFailure_handsOver exception)
          (fun _ _ later => closed.trans later)
          fun _ _ later => closed.trans later
      · exact fun _ _ => closed

end Calls

end ToolboxMcp
