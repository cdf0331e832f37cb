import ToolboxMcp.Service.Stretches

/-!
# Every stretch keeps to its own namespace

`Confined ns` is the frame of a whole stretch: other namespaces keep their
records, snapshots, lock entries, mounted runtimes and runtime objects, no call
is counted, and the flags `_closed` and `done` only ever rise.  It needs the
runtimes a stretch holds to belong to its namespace, which `Housed` and
`Stage.Proper` say and every stretch preserves.
-/

namespace ToolboxMcp

open Effect

/-- The runtime exists and was opened for the namespace. -/
def World.Owned (world : World) (ns : Namespace) (runtime : RuntimeId) :
    Prop :=
  runtime < world.nextRuntime ∧ (world.objects runtime).ns = ns

/-- Mounted runtimes are mounted where they belong. -/
def World.Housed (world : World) : Prop :=
  ∀ ns runtime,
    world.runtimes.get ns = some runtime → world.Owned ns runtime

structure Confined (ns : Namespace) (before after : World) : Prop where
  config : after.config = before.config
  inFlight : after.inFlight = before.inFlight
  namespaceLocks :
    ∀ other, other ≠ ns →
      after.namespaceLocks.get other = before.namespaceLocks.get other
  runtimes :
    ∀ other, other ≠ ns →
      after.runtimes.get other = before.runtimes.get other
  records :
    ∀ other, other ≠ ns →
      after.document.getToolset other = before.document.getToolset other
  snapshots :
    ∀ other, other ≠ ns →
      after.document.getSchemaSnapshot other =
        before.document.getSchemaSnapshot other
  previousSnapshots :
    ∀ other, other ≠ ns →
      after.document.getPreviousSchemaSnapshot other =
        before.document.getPreviousSchemaSnapshot other
  nextRuntime : before.nextRuntime ≤ after.nextRuntime
  owners :
    ∀ runtime < before.nextRuntime,
      (after.objects runtime).ns = (before.objects runtime).ns
  foreign :
    ∀ runtime < before.nextRuntime,
      (before.objects runtime).ns ≠ ns →
        after.objects runtime = before.objects runtime
  closed :
    ∀ runtime < before.nextRuntime,
      (before.objects runtime).closed = true →
        (after.objects runtime).closed = true
  done :
    ∀ runtime < before.nextRuntime,
      (before.objects runtime).done = true →
        (after.objects runtime).done = true
  reliable : before.Reliable → after.Reliable
  distinct : before.document.Distinct → after.document.Distinct

namespace Confined

variable {ns : Namespace}

theorem refl (world : World) : Confined ns world world where
  config := rfl
  inFlight := rfl
  namespaceLocks _ _ := rfl
  runtimes _ _ := rfl
  records _ _ := rfl
  snapshots _ _ := rfl
  previousSnapshots _ _ := rfl
  nextRuntime := le_rfl
  owners _ _ := rfl
  foreign _ _ _ := rfl
  closed _ _ := id
  done _ _ := id
  reliable := id
  distinct := id

theorem trans {first second third : World}
    (left : Confined ns first second)
    (right : Confined ns second third) : Confined ns first third where
  config := right.config.trans left.config
  inFlight := right.inFlight.trans left.inFlight
  namespaceLocks other different :=
    (right.namespaceLocks other different).trans
      (left.namespaceLocks other different)
  runtimes other different :=
    (right.runtimes other different).trans (left.runtimes other different)
  records other different :=
    (right.records other different).trans (left.records other different)
  snapshots other different :=
    (right.snapshots other different).trans (left.snapshots other different)
  previousSnapshots other different :=
    (right.previousSnapshots other different).trans
      (left.previousSnapshots other different)
  nextRuntime := left.nextRuntime.trans right.nextRuntime
  owners runtime exists' :=
    (right.owners runtime (exists'.trans_le left.nextRuntime)).trans
      (left.owners runtime exists')
  foreign runtime exists' stranger := by
    have later := exists'.trans_le left.nextRuntime
    have same := left.foreign runtime exists' stranger
    rw [right.foreign runtime later (by rwa [same]), same]
  closed runtime exists' flag :=
    right.closed runtime (exists'.trans_le left.nextRuntime)
      (left.closed runtime exists' flag)
  done runtime exists' flag :=
    right.done runtime (exists'.trans_le left.nextRuntime)
      (left.done runtime exists' flag)
  reliable start := right.reliable (left.reliable start)
  distinct start := right.distinct (left.distinct start)

theorem owned {before after : World} (confined : Confined ns before after)
    {home : Namespace} {runtime : RuntimeId}
    (owned : before.Owned home runtime) : after.Owned home runtime :=
  ⟨owned.1.trans_le confined.nextRuntime,
    (confined.owners runtime owned.1).trans owned.2⟩

end Confined

/-- Confined, and every mounted runtime still in its place. -/
structure Sound (ns : Namespace) (before after : World) : Prop
    extends Confined ns before after where
  housed : after.Housed

theorem Sound.trans {ns : Namespace} {first second third : World}
    (left : Sound ns first second) (right : Sound ns second third) :
    Sound ns first third where
  toConfined := left.toConfined.trans right.toConfined
  housed := right.housed

section Heads

variable {ns : Namespace} {world : World}

/-- A stretch that leaves the transport alone is confined. -/
theorem SameTransport.sound {after : World} (housed : world.Housed)
    (same : SameTransport world after)
    (records : ∀ other, other ≠ ns →
      after.document.getToolset other = world.document.getToolset other)
    (snapshots : ∀ other, other ≠ ns →
      after.document.getSchemaSnapshot other =
        world.document.getSchemaSnapshot other)
    (previousSnapshots : ∀ other, other ≠ ns →
      after.document.getPreviousSchemaSnapshot other =
        world.document.getPreviousSchemaSnapshot other) :
    Sound ns world after where
  config := same.config
  inFlight := same.inFlight
  namespaceLocks other _ := by rw [same.namespaceLocks]
  runtimes other _ := by rw [same.runtimes]
  records := records
  snapshots := snapshots
  previousSnapshots := previousSnapshots
  nextRuntime := same.nextRuntime.ge
  owners runtime _ := by rw [same.objects]
  foreign runtime _ _ := by rw [same.objects]
  closed runtime _ flag := by rwa [same.objects]
  done runtime _ flag := by rwa [same.objects]
  reliable := same.reliable
  distinct := same.distinct
  housed home runtime mounted := by
    rw [same.runtimes] at mounted
    have owned := housed home runtime mounted
    unfold World.Owned
    rwa [same.nextRuntime, same.objects]

theorem Quiet.sound {after : World} (quiet : Quiet ns world after)
    (housed : world.Housed) : Sound ns world after :=
  quiet.toSameTransport.sound housed quiet.records quiet.snapshots
    quiet.previousSnapshots

theorem Untouched.sound {after : World} (untouched : Untouched world after)
    (housed : world.Housed) : Sound ns world after :=
  (untouched.quiet ns).sound housed

theorem Removed.sound {after : World} (removed : Removed ns world after)
    (housed : world.Housed) : Sound ns world after where
  config := removed.config
  inFlight := removed.inFlight
  namespaceLocks other different := by
    rw [removed.namespaceLocks, Dict.get_pop, if_neg different]
  runtimes other _ := by rw [removed.runtimes]
  records other different := by
    rw [removed.records, if_neg different]
  snapshots := removed.snapshots
  previousSnapshots := removed.previousSnapshots
  nextRuntime := removed.nextRuntime.ge
  owners runtime _ := by rw [removed.objects]
  foreign runtime _ _ := by rw [removed.objects]
  closed runtime _ flag := by rwa [removed.objects]
  done runtime _ flag := by rwa [removed.objects]
  reliable := removed.reliable
  distinct := removed.distinct
  housed home runtime mounted := by
    rw [removed.runtimes] at mounted
    have owned := housed home runtime mounted
    unfold World.Owned
    rwa [removed.nextRuntime, removed.objects]

/-- Editing the object of one of the namespace's own runtimes. -/
theorem sound_of_edit {after : World} {runtime : RuntimeId}
    {edited : ManagedToolsetRuntime} (housed : world.Housed)
    (owned : world.Owned ns runtime)
    (shape : after = { world with
      objects := Function.update world.objects runtime edited })
    (home : edited.ns = ns)
    (closed : (world.objects runtime).closed = true → edited.closed = true)
    (done : (world.objects runtime).done = true → edited.done = true) :
    Sound ns world after := by
  subst shape
  have names : ∀ other,
      (Function.update world.objects runtime edited other).ns =
        (world.objects other).ns := by
    intro other
    by_cases same : other = runtime
    · rw [same, Function.update_self, home, owned.2]
    · rw [Function.update_of_ne same]
  exact {
    config := rfl
    inFlight := rfl
    namespaceLocks := fun _ _ => rfl
    runtimes := fun _ _ => rfl
    records := fun _ _ => rfl
    snapshots := fun _ _ => rfl
    previousSnapshots := fun _ _ => rfl
    nextRuntime := le_rfl
    owners := fun other _ => names other
    foreign := by
      intro other _ stranger
      have different : other ≠ runtime := by
        rintro rfl
        exact stranger owned.2
      exact Function.update_of_ne different _ _
    closed := by
      intro other _ flag
      by_cases same : other = runtime
      · subst same
        simpa using closed flag
      · simpa [same] using flag
    done := by
      intro other _ flag
      by_cases same : other = runtime
      · subst same
        simpa using done flag
      · simpa [same] using flag
    reliable := id
    distinct := id
    housed := by
      intro other mounted found
      obtain ⟨present, named⟩ := housed other mounted found
      exact ⟨present, (names mounted).trans named⟩ }

theorem sound_markClosed {runtime : RuntimeId} (housed : world.Housed)
    (owned : world.Owned ns runtime) :
    Sound ns world (world.markClosed runtime) :=
  sound_of_edit housed owned rfl owned.2 (fun _ => rfl) id

theorem sound_markDone {runtime : RuntimeId} (housed : world.Housed)
    (owned : world.Owned ns runtime) :
    Sound ns world (world.markDone runtime) :=
  sound_of_edit housed owned rfl owned.2 id fun _ => rfl

theorem sound_setTools {runtime : RuntimeId} (tools : List Tool)
    (housed : world.Housed) (owned : world.Owned ns runtime) :
    Sound ns world (world.setTools runtime tools) :=
  sound_of_edit housed owned rfl owned.2 id id

theorem sound_unmount (housed : world.Housed) :
    Sound ns world (world.unmount ns) where
  toConfined := {
    Confined.refl world with
    runtimes := by
      intro other different
      simp [Dict.get_pop, different] }
  housed home runtime mounted := by
    rw [World.unmount_runtimes, Dict.get_pop] at mounted
    split at mounted
    · cases mounted
    · exact housed home runtime mounted

theorem sound_mount {runtime : RuntimeId} (housed : world.Housed)
    (owned : world.Owned ns runtime) :
    Sound ns world (world.mount ns runtime) where
  toConfined := {
    Confined.refl world with
    runtimes := by
      intro other different
      simp [Dict.get_set, different] }
  housed home mounted found := by
    rw [World.mount_runtimes, Dict.get_set] at found
    split at found
    · rename_i same
      cases found
      subst same
      exact owned
    · exact housed home mounted found

theorem sound_spawnRuntime (housed : world.Housed) :
    Sound ns world (world.spawnRuntime ns) := by
  have old : ∀ runtime < world.nextRuntime,
      (world.spawnRuntime ns).objects runtime = world.objects runtime := by
    intro runtime present
    simp [Function.update_of_ne present.ne]
  exact {
    config := rfl
    inFlight := rfl
    namespaceLocks := fun _ _ => rfl
    runtimes := fun _ _ => rfl
    records := fun _ _ => rfl
    snapshots := fun _ _ => rfl
    previousSnapshots := fun _ _ => rfl
    nextRuntime := Nat.le_succ _
    owners := fun runtime present => by rw [old runtime present]
    foreign := fun runtime present _ => old runtime present
    closed := fun runtime present flag => by rwa [old runtime present]
    done := fun runtime present flag => by rwa [old runtime present]
    reliable := id
    distinct := id
    housed := by
      intro home mounted found
      obtain ⟨present, named⟩ := housed home mounted found
      refine ⟨present.trans (Nat.lt_succ_self _), ?_⟩
      rw [old mounted present, named] }

theorem owned_spawnRuntime :
    (world.spawnRuntime ns).Owned ns world.nextRuntime := by
  simp [World.Owned]

theorem sound_landed {runtime : RuntimeId} (tools : List Tool)
    (housed : world.Housed) (owned : world.Owned ns runtime) :
    Sound ns world (landed world ns runtime tools) := by
  have listed := sound_setTools tools housed owned
  have ticked : Sound ns (world.setTools runtime tools)
      (world.setTools runtime tools).tick :=
    (Untouched.tick _).sound listed.housed
  have mounted := sound_mount ticked.housed
    (ticked.toConfined.owned (listed.toConfined.owned owned))
  exact (listed.trans ticked).trans mounted

end Heads

/-! ## Suspended bodies -/

/-- The locals of a suspended body belong to its namespace. -/
def Stage.Proper (world : World) (ns : Namespace) : Stage → Prop
  | .opening _ record runtime => record.ns = ns ∧ world.Owned ns runtime
  | .swapping closing _ record snapshot =>
      record.ns = ns ∧ snapshot.ns = ns ∧ world.Owned ns closing.runtime
  | .deactivating closing _ _ record =>
      record.ns = ns ∧ world.Owned ns closing.runtime
  | .unregistering closing _ => world.Owned ns closing.runtime
  | .probing _ _ runtime => world.Owned ns runtime
  | .aborting _ _ runtime => world.Owned ns runtime
  | .unhealthy closing _ _ _ => world.Owned ns closing.runtime

def Progress.Proper (world : World) (ns : Namespace) : Progress → Prop
  | .inside stage => stage.Proper world ns
  | .left _ => True

def CallStage.Proper (world : World) (ns : Namespace) : CallStage → Prop
  | .calling runtime => world.Owned ns runtime
  | .aborting runtime => world.Owned ns runtime
  | .disconnecting closing _ => world.Owned ns closing.runtime

def CallProgress.Proper (world : World) (ns : Namespace) :
    CallProgress → Prop
  | .inside stage => stage.Proper world ns
  | .returned _ => True

/-- Runtimes that belong to a namespace keep belonging to it. -/
theorem Stage.Proper.mono {before after : World} {ns : Namespace}
    {stage : Stage}
    (owned : ∀ runtime, before.Owned ns runtime → after.Owned ns runtime)
    (proper : stage.Proper before ns) : stage.Proper after ns := by
  cases stage with
  | opening opening record runtime =>
      exact ⟨proper.1, owned _ proper.2⟩
  | swapping closing opening record snapshot =>
      exact ⟨proper.1, proper.2.1, owned _ proper.2.2⟩
  | deactivating closing scope force record =>
      exact ⟨proper.1, owned _ proper.2⟩
  | unregistering closing force =>
      exact owned _ proper
  | probing scope record runtime =>
      exact owned _ proper
  | aborting scope record runtime =>
      exact owned _ proper
  | unhealthy closing scope record exception =>
      exact owned _ proper

theorem CallStage.Proper.mono {before after : World} {ns : Namespace}
    {stage : CallStage}
    (owned : ∀ runtime, before.Owned ns runtime → after.Owned ns runtime)
    (proper : stage.Proper before ns) : stage.Proper after ns := by
  cases stage <;> exact owned _ proper

section Stretches

variable {ns : Namespace} {world : World}

/-- Popping the mounted runtime and marking it closed. -/
theorem sound_disconnected {existing : RuntimeId} (housed : world.Housed)
    (mounted : world.runtimes.get ns = some existing) :
    Sound ns world ((world.unmount ns).markClosed existing) ∧
      ((world.unmount ns).markClosed existing).Owned ns existing := by
  have owned := housed ns existing mounted
  have popped : Sound ns world (world.unmount ns) := sound_unmount housed
  have stillOwned := popped.toConfined.owned owned
  have closed := sound_markClosed popped.housed stillOwned
  exact ⟨popped.trans closed, closed.toConfined.owned stillOwned⟩

variable [Platform]

theorem start_sound (housed : world.Housed) (operation : Operation) :
    wp (start operation ns)
      (fun progress after => Sound ns world after ∧ progress.Proper after ns)
      (fun _ after => Sound ns world after) world := by
  have quietly : ∀ {after : World}, Quiet ns world after →
      Sound ns world after := fun quiet => quiet.sound housed
  have opened : ∀ {record : ToolsetRecord} {after : World},
      record.ns = ns → Wrote ns record world after →
      Sound ns world (after.spawnRuntime ns) ∧
        record.ns = ns ∧
        (after.spawnRuntime ns).Owned ns world.nextRuntime := by
    intro record after named wrote
    have before := quietly wrote.toQuiet
    have owned : (after.spawnRuntime ns).Owned ns after.nextRuntime :=
      owned_spawnRuntime
    rw [wrote.nextRuntime] at owned
    exact ⟨before.trans (sound_spawnRuntime before.housed), named, owned⟩
  cases operation with
  | register transport registration =>
      apply startRegister_rule
      · exact fun _ after untouched => ⟨untouched.sound housed, trivial⟩
      · exact fun _ after _ _ _ wrote => ⟨quietly wrote.toQuiet, trivial⟩
      · exact fun _ _ after _ _ _ _ wrote => quietly wrote.toQuiet
      · exact fun _ after _ untouched => untouched.sound housed
  | activate scope ifNotLoaded =>
      apply startActivate_rule
      · exact fun _ after untouched => ⟨untouched.sound housed, trivial⟩
      · exact fun _ _ _ _ _ => ⟨quietly (.refl world), trivial⟩
      · exact fun _ _ _ _ after _ _ _ _ _ wrote =>
          ⟨quietly wrote.toQuiet, trivial⟩
      · exact fun _ _ _ after _ _ _ wrote => quietly wrote.toQuiet
      · intro record after found _ _ _ wrote
        exact opened (by simpa using StateDocument.getToolset_ns found) wrote
      · exact fun _ _ after _ _ wrote => ⟨quietly wrote.toQuiet, trivial⟩
      · exact fun _ after quiet _ => quietly quiet
  | refresh ifStale scope =>
      apply startRefresh_rule
      · exact fun _ after untouched _ => ⟨untouched.sound housed, trivial⟩
      · intro record found _
        exact ⟨sound_spawnRuntime housed, StateDocument.getToolset_ns found,
          owned_spawnRuntime⟩
      · exact fun _ after quiet _ => quietly quiet
  | deactivate scope force =>
      apply startDeactivate_rule
      · exact fun _ after untouched _ => ⟨untouched.sound housed, trivial⟩
      · exact fun _ after _ _ _ wrote => ⟨quietly wrote.toQuiet, trivial⟩
      · exact fun _ after _ _ _ _ wrote => ⟨quietly wrote.toQuiet, trivial⟩
      · intro record existing found _ _ mounted _
        have popped := sound_disconnected housed mounted
        refine ⟨popped.1, ?_, popped.2⟩
        simp [withoutScope, StateDocument.getToolset_ns found]
      · exact fun _ after quiet _ => quietly quiet
  | restore stableHostIdentity startup =>
      apply startRestore_rule
      · exact fun _ after untouched _ => ⟨untouched.sound housed, trivial⟩
      · exact fun _ _ _ _ _ after _ _ _ _ _ wrote =>
          ⟨quietly wrote.toQuiet, trivial⟩
      · exact fun _ _ _ _ after _ _ _ _ wrote => quietly wrote.toQuiet
      · intro record candidates after found _ _ _ wrote
        exact opened (by simpa using StateDocument.getToolset_ns found) wrote
      · exact fun _ _ _ after _ _ wrote => ⟨quietly wrote.toQuiet, trivial⟩
      · exact fun _ after quiet _ => quietly quiet
  | checkHealth scope =>
      apply startCheckHealth_rule
      · exact fun _ after untouched _ => ⟨untouched.sound housed, trivial⟩
      · intro record runtime _ running
        exact ⟨quietly (.refl world),
          housed ns runtime (World.runtimeFor_eq_some.mp running).1⟩
      · exact fun _ _ _ after _ _ _ _ wrote =>
          ⟨quietly wrote.toQuiet, trivial⟩
      · exact fun _ after quiet _ => quietly quiet
  | clearStale =>
      apply startClearStale_rule
      · exact fun _ after untouched _ => ⟨untouched.sound housed, trivial⟩
      · exact fun _ _ after _ _ wrote => ⟨quietly wrote.toQuiet, trivial⟩
      · exact fun _ after quiet _ => quietly quiet
  | markStale reason =>
      apply startMarkStale_rule
      · exact fun _ => ⟨quietly (.refl world), trivial⟩
      · exact fun _ after _ wrote => ⟨quietly wrote.toQuiet, trivial⟩
      · exact fun _ after quiet _ => quietly quiet
  | unregister force =>
      apply startUnregister_rule
      · exact fun _ after untouched => ⟨untouched.sound housed, trivial⟩
      · exact fun _ _ after _ _ removed _ => ⟨removed.sound housed, trivial⟩
      · intro record existing _ mounted _
        exact sound_disconnected housed mounted
      · rintro _ after _ (quiet | removed)
        · exact quietly quiet
        · exact removed.sound housed

theorem resume_sound (housed : world.Housed) {stage : Stage}
    (proper : stage.Proper world ns) (reply : Reply) :
    wp (resume ns stage reply)
      (fun progress after => Sound ns world after ∧ progress.Proper after ns)
      (fun _ after => Sound ns world after) world := by
  cases stage with
  | opening opening record runtime =>
      obtain ⟨named, owned⟩ := proper
      have done := sound_markDone housed owned
      have lands := fun tools => sound_landed tools housed owned
      apply resumeOpening_rule named
      · exact fun _ => (Untouched.refl world).sound housed
      · exact fun _ after _ wrote =>
          ⟨done.trans (wrote.toQuiet.sound done.housed), trivial⟩
      · intro tools snapshot existing _ _ captured mounted
        have before := (lands tools).toConfined.owned
          (housed ns existing mounted)
        have closed := sound_markClosed (lands tools).housed before
        exact ⟨(lands tools).trans closed, named, captured.subject,
          closed.toConfined.owned before⟩
      · exact fun tools _ _ after _ _ _ _ installed =>
          ⟨(lands tools).trans
            (installed.toQuiet.sound (lands tools).housed), trivial⟩
      · exact fun tools _ _ _ _ after _ _ _ _ quiet _ _ _ =>
          ⟨(lands tools).trans (quiet.sound (lands tools).housed), trivial⟩
      · rintro _ after _ (quiet | ⟨_, _, tools, _, quiet⟩)
        · exact done.trans (quiet.sound done.housed)
        · exact (lands tools).trans (quiet.sound (lands tools).housed)
  | swapping closing opening record snapshot =>
      obtain ⟨named, captured, owned⟩ := proper
      have done := sound_markDone housed owned
      have quietly : ∀ {after : World},
          Quiet ns (world.markDone closing.runtime) after →
          Sound ns world after :=
        fun quiet => done.trans (quiet.sound done.housed)
      apply resumeSwapping_rule named captured
      · exact fun _ => done
      · exact fun _ after _ wrote => ⟨quietly wrote.toQuiet, trivial⟩
      · exact fun _ after _ installed => ⟨quietly installed.toQuiet, trivial⟩
      · exact fun _ _ _ after _ quiet _ _ _ => ⟨quietly quiet, trivial⟩
      · exact fun _ after quiet _ => quietly quiet
  | deactivating closing scope force record =>
      obtain ⟨named, owned⟩ := proper
      have done := sound_markDone housed owned
      apply resumeDeactivating_rule named
      · exact fun after _ wrote =>
          ⟨done.trans (wrote.toQuiet.sound done.housed), trivial⟩
      · exact fun _ _ => done
      · exact fun _ after quiet _ => done.trans (quiet.sound done.housed)
  | unregistering closing force =>
      have done := sound_markDone housed proper
      apply resumeUnregistering_rule
      · exact fun _ after removed _ =>
          ⟨done.trans (removed.sound done.housed), trivial⟩
      · exact fun _ _ => done
      · rintro _ after _ (quiet | removed)
        · exact done.trans (quiet.sound done.housed)
        · exact done.trans (removed.sound done.housed)
  | probing scope record runtime =>
      have same : Sound ns world world := (Untouched.refl world).sound housed
      apply resumeProbing_rule
      · exact fun _ _ _ _ _ after _ _ _ _ wrote =>
          ⟨wrote.toQuiet.sound housed, trivial⟩
      · intro _
        have closed := sound_markClosed housed proper
        exact ⟨closed, closed.toConfined.owned proper⟩
      · exact fun _ existing _ mounted => sound_disconnected housed mounted
      · exact fun _ _ => same
      · exact fun _ _ _ after _ _ _ _ wrote =>
          ⟨wrote.toQuiet.sound housed, trivial⟩
      · exact fun _ => same
      · exact fun _ after quiet _ => quiet.sound housed
  | aborting scope record runtime =>
      have done := sound_markDone housed proper
      apply resumeAborting_rule
      · intro exception existing mounted
        have popped := sound_disconnected done.housed mounted
        exact ⟨done.trans popped.1, popped.2⟩
      · exact fun _ _ => done
      · exact fun _ _ _ after _ _ _ _ wrote =>
          ⟨done.trans (wrote.toQuiet.sound done.housed), trivial⟩
      · exact fun _ => done
      · exact fun _ after quiet _ => done.trans (quiet.sound done.housed)
  | unhealthy closing scope record exception =>
      have done := sound_markDone housed proper
      apply resumeUnhealthy_rule
      · exact fun _ _ _ => done
      · exact fun _ _ _ after _ _ _ _ wrote =>
          ⟨done.trans (wrote.toQuiet.sound done.housed), trivial⟩
      · exact fun _ _ => done
      · exact fun _ after quiet _ => done.trans (quiet.sound done.housed)

end Stretches

section Calls

variable {tool : MountedTool} {world : World}

theorem finishCallFailure_sound (housed : world.Housed)
    (exception : PyException) :
    wp (finishCallFailure tool exception)
      (fun progress after =>
        Sound tool.ns world after ∧ progress.Proper after tool.ns)
      (fun _ after => Sound tool.ns world after) world := by
  apply finishCallFailure_rule
  · exact fun _ after untouched => untouched.sound housed
  · exact fun _ _ _ after _ wrote => wrote.toQuiet.sound housed
  · exact fun _ after quiet _ _ => quiet.sound housed

theorem callFailed_sound (housed : world.Housed) (exception : PyException) :
    wp (callFailed tool exception)
      (fun progress after =>
        Sound tool.ns world after ∧ progress.Proper after tool.ns)
      (fun _ after => Sound tool.ns world after) world := by
  apply callFailed_rule
  · exact fun existing mounted => sound_disconnected housed mounted
  · exact fun _ => finishCallFailure_sound housed exception

theorem dispatchCall_sound (housed : world.Housed) :
    wp (dispatchCall tool)
      (fun progress after =>
        Sound tool.ns world after ∧ progress.Proper after tool.ns)
      (fun _ after => Sound tool.ns world after) world := by
  apply dispatchCall_rule
  · intro runtime running
    exact ⟨(Untouched.refl world).sound housed,
      housed tool.ns runtime (World.runtimeFor_eq_some.mp running).1⟩
  · exact fun _ exception => callFailed_sound housed exception

theorem resumeCall_sound (housed : world.Housed) {stage : CallStage}
    (proper : stage.Proper world tool.ns)
    (reply : Except Raised CallToolResult) :
    wp (resumeCall tool stage reply)
      (fun progress after =>
        Sound tool.ns world after ∧ progress.Proper after tool.ns)
      (fun _ after => Sound tool.ns world after) world := by
  have same : Sound tool.ns world world :=
    (Untouched.refl world).sound housed
  cases stage with
  | calling runtime =>
      apply resumeCalling_rule
      · exact fun _ _ => ⟨same, trivial⟩
      · intro _ _ _
        have closed := sound_markClosed housed proper
        exact ⟨closed, closed.toConfined.owned proper⟩
      · exact fun exception _ _ => callFailed_sound housed exception
      · exact fun _ => same
  | aborting runtime =>
      have done := sound_markDone housed proper
      apply resumeCallAborting_rule
      · intro exception _
        apply wp_mono (callFailed_sound done.housed exception)
        · exact fun _ _ later => ⟨done.trans later.1, later.2⟩
        · exact fun _ _ later => done.trans later
      · exact fun _ => done
  | disconnecting closing exception =>
      have done := sound_markDone housed proper
      apply resumeCallDisconnecting_rule
      · intro _
        apply wp_mono (finishCallFailure_sound done.housed exception)
        · exact fun _ _ later => ⟨done.trans later.1, later.2⟩
        · exact fun _ _ later => done.trans later
      · exact fun _ _ => done

end Calls

end ToolboxMcp
