import ToolboxMcp.Service.Confinement

/-!
# Which runtime a stretch leaves mounted

A stretch keeps the mounted runtime of its namespace, drops it, or mounts the
one it has been opening.  Runtimes that are being opened are new.
-/

namespace ToolboxMcp

open Effect

/-- The runtime the stage is about to mount. -/
def Stage.landing : Stage → Option RuntimeId
  | .opening _ _ runtime => some runtime
  | _ => none

def Progress.landing : Progress → Option RuntimeId
  | .inside stage => stage.landing
  | .left _ => none

/-- The namespace keeps its runtime or loses it. -/
def KeepsOrDrops (ns : Namespace) (before after : World) : Prop :=
  after.runtimes.get ns = before.runtimes.get ns ∨
    after.runtimes.get ns = none

section Mounting

variable {ns : Namespace} {world : World}

theorem Quiet.keepsOrDrops {after : World} (quiet : Quiet ns world after) :
    KeepsOrDrops ns world after :=
  .inl (by rw [quiet.runtimes])

theorem Removed.keepsOrDrops {after : World}
    (removed : Removed ns world after) : KeepsOrDrops ns world after :=
  .inl (by rw [removed.runtimes])

theorem keepsOrDrops_disconnected (existing : RuntimeId) :
    KeepsOrDrops ns world ((world.unmount ns).markClosed existing) :=
  .inr (by simp [Dict.get_pop])

variable [Platform]

theorem start_mounting (operation : Operation) :
    wp (start operation ns)
      (fun progress after =>
        KeepsOrDrops ns world after ∧
          ∀ runtime, progress.landing = some runtime →
            runtime = world.nextRuntime)
      (fun _ after => KeepsOrDrops ns world after) world := by
  have quietly : ∀ {after : World} {entries : List Entry},
      Quiet ns world after →
      KeepsOrDrops ns world after ∧
        ∀ runtime, (Progress.left entries).landing = some runtime →
          runtime = world.nextRuntime :=
    fun quiet => ⟨quiet.keepsOrDrops, by simp [Progress.landing]⟩
  have opened : ∀ {after : World} {opening : Opening}
      {record : ToolsetRecord},
      Quiet ns world after →
      KeepsOrDrops ns world (after.spawnRuntime ns) ∧
        ∀ runtime,
          (Progress.inside
              (.opening opening record world.nextRuntime)).landing =
            some runtime →
          runtime = world.nextRuntime :=
    fun quiet => ⟨quiet.keepsOrDrops, fun _ same =>
      (Option.some.inj same).symm⟩
  cases operation with
  | register transport registration =>
      apply startRegister_rule
      · exact fun _ after untouched => quietly (untouched.quiet ns)
      · exact fun _ after _ _ _ wrote => quietly wrote.toQuiet
      · exact fun _ _ after _ _ _ _ wrote => wrote.toQuiet.keepsOrDrops
      · exact fun _ after _ untouched => (untouched.quiet ns).keepsOrDrops
  | activate scope ifNotLoaded =>
      apply startActivate_rule
      · exact fun _ after untouched => quietly (untouched.quiet ns)
      · exact fun _ _ _ _ _ => quietly (.refl world)
      · exact fun _ _ _ _ after _ _ _ _ _ wrote => quietly wrote.toQuiet
      · exact fun _ _ _ after _ _ _ wrote => wrote.toQuiet.keepsOrDrops
      · exact fun _ after _ _ _ _ wrote => opened wrote.toQuiet
      · exact fun _ _ after _ _ wrote => quietly wrote.toQuiet
      · exact fun _ after quiet _ => quiet.keepsOrDrops
  | refresh ifStale scope =>
      apply startRefresh_rule
      · exact fun _ after untouched _ => quietly (untouched.quiet ns)
      · exact fun _ _ _ => opened (.refl world)
      · exact fun _ after quiet _ => quiet.keepsOrDrops
  | deactivate scope force =>
      apply startDeactivate_rule
      · exact fun _ after untouched _ => quietly (untouched.quiet ns)
      · exact fun _ after _ _ _ wrote => quietly wrote.toQuiet
      · exact fun _ after _ _ _ _ wrote => quietly wrote.toQuiet
      · exact fun _ existing _ _ _ _ _ =>
          ⟨keepsOrDrops_disconnected existing, by
            simp [Progress.landing, Stage.landing]⟩
      · exact fun _ after quiet _ => quiet.keepsOrDrops
  | restore stableHostIdentity startup =>
      apply startRestore_rule
      · exact fun _ after untouched _ => quietly (untouched.quiet ns)
      · exact fun _ _ _ _ _ after _ _ _ _ _ wrote => quietly wrote.toQuiet
      · exact fun _ _ _ _ after _ _ _ _ wrote => wrote.toQuiet.keepsOrDrops
      · exact fun _ _ after _ _ _ _ wrote => opened wrote.toQuiet
      · exact fun _ _ _ after _ _ wrote => quietly wrote.toQuiet
      · exact fun _ after quiet _ => quiet.keepsOrDrops
  | checkHealth scope =>
      apply startCheckHealth_rule
      · exact fun _ after untouched _ => quietly (untouched.quiet ns)
      · exact fun _ _ _ _ => ⟨.inl rfl, by
          simp [Progress.landing, Stage.landing]⟩
      · exact fun _ _ _ after _ _ _ _ wrote => quietly wrote.toQuiet
      · exact fun _ after quiet _ => quiet.keepsOrDrops
  | clearStale =>
      apply startClearStale_rule
      · exact fun _ after untouched _ => quietly (untouched.quiet ns)
      · exact fun _ _ after _ _ wrote => quietly wrote.toQuiet
      · exact fun _ after quiet _ => quiet.keepsOrDrops
  | markStale reason =>
      apply startMarkStale_rule
      · exact fun _ => quietly (.refl world)
      · exact fun _ after _ wrote => quietly wrote.toQuiet
      · exact fun _ after quiet _ => quiet.keepsOrDrops
  | unregister force =>
      apply startUnregister_rule
      · exact fun _ after untouched => quietly (untouched.quiet ns)
      · exact fun _ _ after _ _ removed _ =>
          ⟨removed.keepsOrDrops, by simp [Progress.landing]⟩
      · exact fun _ existing _ _ _ =>
          ⟨keepsOrDrops_disconnected existing, by
            simp [Progress.landing, Stage.landing]⟩
      · rintro _ after _ (quiet | removed)
        · exact quiet.keepsOrDrops
        · exact removed.keepsOrDrops

/-- A resumed body mounts nothing but the runtime it has been opening. -/
theorem resume_mounting {stage : Stage} (proper : stage.Proper world ns)
    (reply : Reply) :
    wp (resume ns stage reply)
      (fun progress after =>
        progress.landing = none ∧
          (KeepsOrDrops ns world after ∨
            after.runtimes.get ns = stage.landing))
      (fun _ after =>
        KeepsOrDrops ns world after ∨
          after.runtimes.get ns = stage.landing) world := by
  have left : ∀ {after : World} {entries : List Entry},
      KeepsOrDrops ns world after →
      (Progress.left entries).landing = none ∧
        (KeepsOrDrops ns world after ∨
          after.runtimes.get ns = stage.landing) :=
    fun kept => ⟨rfl, .inl kept⟩
  have quietly : ∀ {runtime : RuntimeId} {after : World},
      Quiet ns (world.markDone runtime) after →
      KeepsOrDrops ns world after := fun quiet => quiet.keepsOrDrops
  cases stage with
  | opening opening record runtime =>
      have lands : ∀ {tools : List Tool} {after : World},
          Quiet ns (landed world ns runtime tools) after →
          after.runtimes.get ns = some runtime := by
        intro tools after quiet
        rw [quiet.runtimes]
        simp [landed, Dict.get_set]
      apply resumeOpening_rule proper.1
      · exact fun _ => .inl (.inl rfl)
      · exact fun _ after _ wrote => left (quietly wrote.toQuiet)
      · intro tools snapshot existing _ _ _ _
        refine ⟨rfl, .inr ?_⟩
        simp [landed, Dict.get_set, Stage.landing]
      · exact fun _ _ _ after _ _ _ _ installed =>
          ⟨rfl, .inr (lands installed.toQuiet)⟩
      · exact fun _ _ _ _ _ after _ _ _ _ quiet _ _ _ =>
          ⟨rfl, .inr (lands quiet)⟩
      · rintro _ after _ (quiet | ⟨_, _, _, _, quiet⟩)
        · exact .inl (quietly quiet)
        · exact .inr (lands quiet)
  | swapping closing opening record snapshot =>
      apply resumeSwapping_rule proper.1 proper.2.1
      · exact fun _ => .inl (.inl rfl)
      · exact fun _ after _ wrote => left (quietly wrote.toQuiet)
      · exact fun _ after _ installed => left (quietly installed.toQuiet)
      · exact fun _ _ _ after _ quiet _ _ _ => left (quietly quiet)
      · exact fun _ after quiet _ => .inl (quietly quiet)
  | deactivating closing scope force record =>
      apply resumeDeactivating_rule proper.1
      · exact fun after _ wrote => left (quietly wrote.toQuiet)
      · exact fun _ _ => .inl (.inl rfl)
      · exact fun _ after quiet _ => .inl (quietly quiet)
  | unregistering closing force =>
      have gone : ∀ {after : World},
          Removed ns (world.markDone closing.runtime) after →
          KeepsOrDrops ns world after := fun removed => removed.keepsOrDrops
      apply resumeUnregistering_rule
      · exact fun _ after removed _ => left (gone removed)
      · exact fun _ _ => .inl (.inl rfl)
      · rintro _ after _ (quiet | removed)
        · exact .inl (quietly quiet)
        · exact .inl (gone removed)
  | probing scope record runtime =>
      apply resumeProbing_rule
      · exact fun _ _ _ _ _ after _ _ _ _ wrote =>
          left wrote.toQuiet.keepsOrDrops
      · exact fun _ => ⟨rfl, .inl (.inl rfl)⟩
      · exact fun _ existing _ _ =>
          ⟨rfl, .inl (keepsOrDrops_disconnected existing)⟩
      · exact fun _ _ => .inl (.inl rfl)
      · exact fun _ _ _ after _ _ _ _ wrote =>
          left wrote.toQuiet.keepsOrDrops
      · exact fun _ => .inl (.inl rfl)
      · exact fun _ after quiet _ => .inl quiet.keepsOrDrops
  | aborting scope record runtime =>
      apply resumeAborting_rule
      · intro _ existing _
        have dropped :
            KeepsOrDrops ns (world.markDone runtime)
              (((world.markDone runtime).unmount ns).markClosed existing) :=
          keepsOrDrops_disconnected existing
        exact ⟨rfl, .inl dropped⟩
      · exact fun _ _ => .inl (.inl rfl)
      · exact fun _ _ _ after _ _ _ _ wrote => left (quietly wrote.toQuiet)
      · exact fun _ => .inl (.inl rfl)
      · exact fun _ after quiet _ => .inl (quietly quiet)
  | unhealthy closing scope record exception =>
      apply resumeUnhealthy_rule
      · exact fun _ _ _ => .inl (.inl rfl)
      · exact fun _ _ _ after _ _ _ _ wrote => left (quietly wrote.toQuiet)
      · exact fun _ _ => .inl (.inl rfl)
      · exact fun _ after quiet _ => .inl (quietly quiet)

/-- The stages of a health check. -/
def Stage.checksHealth : Stage → Bool
  | .probing .. => true
  | .aborting .. => true
  | .unhealthy .. => true
  | _ => false

/-- A health check keeps the mounted runtime unless its probe has failed. -/
theorem resume_checksHealth {stage : Stage} {reply : Reply}
    (checks : stage.checksHealth = true)
    (passes : stage.fails ns reply = none) :
    wp (resume ns stage reply)
      (fun _ after => after.runtimes = world.runtimes)
      (fun _ after => after.runtimes = world.runtimes) world := by
  have quietly : ∀ {runtime : RuntimeId} {after : World},
      Quiet ns (world.markDone runtime) after →
      after.runtimes = world.runtimes := fun quiet => quiet.runtimes
  cases stage with
  | opening opening record runtime =>
      cases checks
  | swapping closing opening record snapshot =>
      cases checks
  | deactivating closing scope force record =>
      cases checks
  | unregistering closing force =>
      cases checks
  | probing scope record runtime =>
      apply resumeProbing_rule
      · exact fun _ _ _ _ _ after _ _ _ _ wrote => wrote.runtimes
      · exact fun _ => rfl
      · intro _ existing fails _
        rw [passes] at fails
        cases fails
      · exact fun _ _ => rfl
      · exact fun _ _ _ after _ _ _ _ wrote => wrote.runtimes
      · exact fun _ => rfl
      · exact fun _ after quiet _ => quiet.runtimes
  | aborting scope record runtime =>
      rcases reply with raised | tools
      · cases raised with
        | cancelled =>
            rfl
        | exception exception =>
            cases passes
      · cases passes
  | unhealthy closing scope record exception =>
      apply resumeUnhealthy_rule
      · exact fun _ _ _ => rfl
      · exact fun _ _ _ after _ _ _ _ wrote => quietly wrote.toQuiet
      · exact fun _ _ => rfl
      · exact fun _ after quiet _ => quietly quiet

end Mounting

section Calls

variable {tool : MountedTool} {world : World}

/-- The runtime whose failed call the handler is about to deal with. -/
def CallStage.fails (stage : CallStage)
    (reply : Except Raised CallToolResult) : Option RuntimeId :=
  match stage, reply with
  | .calling runtime, .error (.exception exception) =>
      if exception.timeout then none else some runtime
  | .aborting _, .error .cancelled => none
  | .aborting runtime, _ => some runtime
  | _, _ => none

theorem finishCallFailure_runtimes (exception : PyException) :
    wp (finishCallFailure tool exception)
      (fun _ after => after.runtimes = world.runtimes)
      (fun _ after => after.runtimes = world.runtimes) world := by
  apply finishCallFailure_rule
  · exact fun _ after untouched => untouched.runtimes
  · exact fun _ _ _ after _ wrote => wrote.runtimes
  · exact fun _ after quiet _ _ => quiet.runtimes

theorem callFailed_mounting (exception : PyException) :
    wp (callFailed tool exception)
      (fun _ after => KeepsOrDrops tool.ns world after)
      (fun _ after => KeepsOrDrops tool.ns world after) world := by
  apply callFailed_rule
  · exact fun existing _ => keepsOrDrops_disconnected existing
  · intro _
    apply wp_mono (finishCallFailure_runtimes exception)
    · exact fun _ _ same => .inl (by rw [same])
    · exact fun _ _ same => .inl (by rw [same])

theorem dispatchCall_mounting :
    wp (dispatchCall tool)
      (fun _ after => KeepsOrDrops tool.ns world after)
      (fun _ after => KeepsOrDrops tool.ns world after) world := by
  apply dispatchCall_rule
  · exact fun _ _ => .inl rfl
  · exact fun _ exception => callFailed_mounting exception

theorem resumeCall_mounting (stage : CallStage)
    (reply : Except Raised CallToolResult) :
    wp (resumeCall tool stage reply)
      (fun _ after => KeepsOrDrops tool.ns world after)
      (fun _ after => KeepsOrDrops tool.ns world after) world := by
  cases stage with
  | calling runtime =>
      apply resumeCalling_rule
      · exact fun _ _ => .inl rfl
      · exact fun _ _ _ => .inl rfl
      · exact fun exception _ _ => callFailed_mounting exception
      · exact fun _ => .inl rfl
  | aborting runtime =>
      apply resumeCallAborting_rule
      · intro exception _
        have later :
            wp (callFailed tool exception)
              (fun _ after =>
                KeepsOrDrops tool.ns (world.markDone runtime) after)
              (fun _ after =>
                KeepsOrDrops tool.ns (world.markDone runtime) after)
              (world.markDone runtime) :=
          callFailed_mounting exception
        exact later
      · exact fun _ => .inl rfl
  | disconnecting closing exception =>
      apply resumeCallDisconnecting_rule
      · intro _
        have later :
            wp (finishCallFailure tool exception)
              (fun _ after =>
                after.runtimes = (world.markDone closing.runtime).runtimes)
              (fun _ after =>
                after.runtimes = (world.markDone closing.runtime).runtimes)
              (world.markDone closing.runtime) :=
          finishCallFailure_runtimes exception
        apply wp_mono later
        · exact fun _ _ same => .inl (by rw [same]; rfl)
        · exact fun _ _ same => .inl (by rw [same]; rfl)
      · exact fun _ _ => .inl rfl

/-- A failed call runs the handler, after a timeout with its runtime
aborted. -/
theorem resumeCall_failing {stage : CallStage}
    {reply : Except Raised CallToolResult} {runtime : RuntimeId}
    {post : CallProgress → World → Prop} {raised : Raised → World → Prop}
    (fails : stage.fails reply = some runtime)
    (handled : ∀ exception start,
      start = world ∨ start = world.markDone runtime →
      wp (callFailed tool exception) post raised start) :
    wp (resumeCall tool stage reply) post raised world := by
  cases stage with
  | calling called =>
      apply resumeCalling_rule
      · rintro result rfl
        cases fails
      · rintro exception rfl timedOut
        simp [CallStage.fails, timedOut] at fails
      · exact fun exception _ _ => handled exception world (.inl rfl)
      · rintro rfl
        cases fails
  | aborting called =>
      have same : reply ≠ .error .cancelled → called = runtime := by
        intro answered
        rcases reply with raised' | result
        · cases raised' with
          | cancelled =>
              exact absurd rfl answered
          | exception exception =>
              exact Option.some.inj fails
        · exact Option.some.inj fails
      apply resumeCallAborting_rule
      · intro exception answered
        rw [same answered]
        exact handled exception _ (.inr rfl)
      · rintro rfl
        cases fails
  | disconnecting closing exception =>
      cases fails

/-- A call keeps the mounted runtime unless it has failed. -/
theorem resumeCall_passes {stage : CallStage}
    {reply : Except Raised CallToolResult}
    (passes : stage.fails reply = none) :
    wp (resumeCall tool stage reply)
      (fun _ after => after.runtimes = world.runtimes)
      (fun _ after => after.runtimes = world.runtimes) world := by
  cases stage with
  | calling runtime =>
      apply resumeCalling_rule
      · exact fun _ _ => rfl
      · exact fun _ _ _ => rfl
      · rintro exception rfl prompt
        simp [CallStage.fails, prompt] at passes
      · exact fun _ => rfl
  | aborting runtime =>
      rcases reply with raised | result
      · cases raised with
        | cancelled =>
            rfl
        | exception exception =>
            cases passes
      · cases passes
  | disconnecting closing exception =>
      apply resumeCallDisconnecting_rule
      · intro _
        have later :
            wp (finishCallFailure tool exception)
              (fun _ after =>
                after.runtimes = (world.markDone closing.runtime).runtimes)
              (fun _ after =>
                after.runtimes = (world.markDone closing.runtime).runtimes)
              (world.markDone closing.runtime) :=
          finishCallFailure_runtimes exception
        exact later
      · exact fun _ _ => rfl

end Calls

end ToolboxMcp
