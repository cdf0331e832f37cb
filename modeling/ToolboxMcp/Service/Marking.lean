import ToolboxMcp.Service.Confinement
import ToolboxMcp.Service.Stretches

/-!
# What becomes of a stale mark

A failed call or health check marks the record of its namespace as stale.  A
stretch keeps the mark or reports what has reset it, unless it is the handler
of a failed activation: that one writes back the record the activation has read
before it was suspended.
-/

namespace ToolboxMcp

open Effect

def World.Stale (world : World) (ns : Namespace) : Prop :=
  ∃ record, world.document.getToolset ns = some record ∧ record.stale = true

instance (world : World) (ns : Namespace) : Decidable (world.Stale ns) :=
  decidable_of_iff
    ((world.document.getToolset ns).any ToolsetRecord.stale = true)
    (by simp [World.Stale, Option.any_eq_true])

/-- The entry tells of something that resets the mark; `opened` if the block has
awaited a runtime of its own. -/
def Entry.resets (opened : Bool) : Entry → Bool
  | .activated _ => opened
  | .refreshed _ => opened
  | .restored _ => opened
  | .deactivated _ _ remaining => remaining.isEmpty
  | .cleared _ => true
  | .unregistered _ => true
  | _ => false

/-- The handler of a failed activation writes back a record read before the
mark. -/
def Stage.forgets [Platform] (ns : Namespace) (stage : Stage)
    (reply : Reply) : Bool :=
  match stage with
  | .opening (.activate _) record _ =>
      match reply with
      | .error .cancelled => false
      | _ => !bootstraps ns reply && !record.stale
  | .swapping closing (.activate _) record _ =>
      match closing.raises reply with
      | some (.exception _) => !record.stale
      | _ => false
  | _ => false

/-- A deactivation waits only for the last scope's runtime. -/
def Stage.Drained : Stage → Prop
  | .deactivating _ _ _ record => record.loadedScopes = []
  | _ => True

/-- The mark is there or has been reset by what the entries report. -/
def Progress.Keeps (ns : Namespace) (opened : Bool) (marked : Prop)
    (after : World) : Progress → Prop
  | .inside stage => stage.Drained ∧ (marked → after.Stale ns)
  | .left entries =>
      marked → after.Stale ns ∨ entries.any (Entry.resets opened) = true

section Marks

variable {ns : Namespace} {before after world : World}
  {record current : ToolsetRecord}

theorem World.Stale.same (stale : before.Stale ns)
    (records : after.document.getToolset ns = before.document.getToolset ns) :
    after.Stale ns := by
  obtain ⟨record, found, marked⟩ := stale
  exact ⟨record, records.trans found, marked⟩

theorem Wrote.stale (wrote : Wrote ns record before after)
    (marked : record.stale = true) : after.Stale ns :=
  ⟨record, wrote.written, marked⟩

/-- The stored record is replaced by one with the same mark. -/
theorem Wrote.staleOf (wrote : Wrote ns record before after)
    (found : before.document.getToolset ns = some current)
    (same : record.stale = current.stale) (stale : before.Stale ns) :
    after.Stale ns := by
  obtain ⟨stored, present, marked⟩ := stale
  cases found.symm.trans present
  exact wrote.stale (same.trans marked)

@[simp]
theorem stale_withoutScope (scope : Scope) :
    (withoutScope record scope).stale = record.stale := by
  unfold withoutScope
  rw [removeRecoverableScope_eq, removeScope_eq]

end Marks

section Stretches

variable [Platform] {ns : Namespace} {world : World}

theorem start_keeps (reliable : world.Reliable) (operation : Operation) :
    wp (start operation ns)
      (fun progress after => progress.Keeps ns false (world.Stale ns) after)
      (fun _ after => world.Stale ns → after.Stale ns) world := by
  have idle : ∀ {entry : Entry} {after : World}, Untouched world after →
      (Progress.left [entry]).Keeps ns false (world.Stale ns) after :=
    fun untouched stale => .inl (stale.same (untouched.records ns))
  have kept : ∀ {entry : Entry} {record current : ToolsetRecord}
      {after : World},
      world.document.getToolset ns = some current →
      Wrote ns record world after → record.stale = current.stale →
      (Progress.left [entry]).Keeps ns false (world.Stale ns) after :=
    fun found wrote same stale => .inl (wrote.staleOf found same stale)
  cases operation with
  | register transport registration =>
      apply startRegister_rule
      · exact fun _ _ untouched => idle untouched
      · rintro record after missing _ _ wrote ⟨current, found, _⟩
        cases missing.symm.trans found
      · exact fun _ _ _ _ _ _ unreliable _ => absurd reliable unreliable
      · exact fun _ _ unreliable _ => absurd reliable unreliable
  | activate scope ifNotLoaded =>
      apply startActivate_rule
      · exact fun _ _ untouched => idle untouched
      · exact fun _ _ _ _ _ stale => .inl stale
      · exact fun _ _ _ _ _ found _ _ _ _ wrote => kept found wrote (by simp)
      · exact fun _ _ _ _ found _ _ wrote stale =>
          wrote.staleOf found (by simp) stale
      · exact fun _ _ found _ _ _ wrote =>
          ⟨trivial, fun stale => wrote.staleOf found rfl stale⟩
      · exact fun _ _ _ unreliable => absurd reliable unreliable
      · exact fun _ _ _ unreliable => absurd reliable unreliable
  | refresh ifStale scope =>
      apply startRefresh_rule
      · exact fun _ _ untouched _ => idle untouched
      · exact fun _ _ _ => ⟨trivial, id⟩
      · exact fun _ _ _ unreliable => absurd reliable unreliable
  | deactivate scope force =>
      apply startDeactivate_rule
      · exact fun _ _ untouched _ => idle untouched
      · exact fun _ _ found _ _ wrote => kept found wrote (by simp)
      · exact fun _ _ _ _ _ _ _ _ => .inr rfl
      · exact fun _ _ _ _ empty _ _ => ⟨empty, id⟩
      · exact fun _ _ _ unreliable => absurd reliable unreliable
  | restore stableHostIdentity startup =>
      apply startRestore_rule
      · exact fun _ _ untouched _ => idle untouched
      · exact fun _ _ _ _ _ _ found _ _ _ _ wrote =>
          kept found wrote (by simp)
      · exact fun _ _ _ _ _ found _ _ _ wrote stale =>
          wrote.staleOf found (by simp) stale
      · exact fun _ _ _ found _ _ _ wrote =>
          ⟨trivial, fun stale => wrote.staleOf found rfl stale⟩
      · exact fun _ _ _ _ unreliable => absurd reliable unreliable
      · exact fun _ _ _ unreliable => absurd reliable unreliable
  | checkHealth scope =>
      apply startCheckHealth_rule
      · exact fun _ _ untouched _ => idle untouched
      · exact fun _ _ _ _ => ⟨trivial, id⟩
      · exact fun _ _ _ _ _ _ _ unhealthy wrote _ =>
          .inl (wrote.stale unhealthy.stale)
      · exact fun _ _ _ unreliable => absurd reliable unreliable
  | clearStale =>
      apply startClearStale_rule
      · exact fun _ _ untouched _ => idle untouched
      · exact fun _ _ _ _ _ _ _ => .inr rfl
      · exact fun _ _ _ unreliable => absurd reliable unreliable
  | markStale reason =>
      apply startMarkStale_rule
      · exact fun _ stale => .inl stale
      · exact fun _ _ _ wrote _ => .inl (wrote.stale rfl)
      · exact fun _ _ _ unreliable => absurd reliable unreliable
  | unregister force =>
      apply startUnregister_rule
      · exact fun _ _ untouched => idle untouched
      · rintro record entries after found unloaded removed
          (rfl | rfl) stale
        · exact .inr rfl
        · exact .inr rfl
      · exact fun _ _ _ _ _ => ⟨trivial, id⟩
      · exact fun _ _ unreliable => absurd reliable unreliable

omit [Platform] in
/-- Only the handler of an activation keeps the mark of its own record. -/
theorem stale_failedRecord {purpose : Opening} {record : ToolsetRecord}
    {error : ErrorInfo} {connected : Bool}
    (copied : ∀ scope, purpose = .activate scope → record.stale = true) :
    (purpose.failedRecord record error connected).stale = true := by
  cases purpose with
  | activate scope => exact copied scope rfl
  | restore candidates startup => rfl
  | refresh scope previousTools oldHash => rfl

theorem resets_completedEntry {purpose : Opening} {record : ToolsetRecord}
    {snapshot : SchemaSnapshot} :
    [purpose.completedEntry ns record snapshot].any (Entry.resets true) =
      true := by
  cases purpose <;> rfl

theorem resume_keeps {stage : Stage} {reply : Reply}
    (reliable : world.Reliable) (proper : stage.Proper world ns)
    (drained : stage.Drained) :
    wp (resume ns stage reply)
      (fun progress after =>
        progress.Keeps ns true
          (world.Stale ns ∧ stage.forgets ns reply = false) after)
      (fun _ after => world.Stale ns → after.Stale ns) world := by
  have unhealthily : ∀ {entry : Entry} {current final : ToolsetRecord}
      {connected : Bool} {before after : World},
      Unhealthy current final connected → Wrote ns final before after →
      (Progress.left [entry]).Keeps ns true
        (world.Stale ns ∧ stage.forgets ns reply = false) after :=
    fun unhealthy wrote _ => .inl (wrote.stale unhealthy.stale)
  cases stage with
  | opening purpose record runtime =>
      by_cases cancelled : reply = .error .cancelled
      · subst cancelled
        simp only [resume, resumeOpening, landRuntime, bootstrapped, wp_bind,
          wp_tryExcept, wp_get]
        exact id
      · apply resumeOpening_rule proper.1
        · exact fun _ => id
        · rintro exception after fails wrote ⟨_, remembers⟩
          refine .inl (wrote.stale (stale_failedRecord ?_))
          rintro scope rfl
          simpa [Stage.forgets, cancelled, fails] using remembers
        · exact fun _ _ _ _ _ _ _ => ⟨trivial, And.left⟩
        · exact fun _ _ _ _ _ _ _ _ _ _ => .inr resets_completedEntry
        · exact fun _ _ _ _ _ _ _ _ _ unreliable =>
            absurd reliable unreliable
        · exact fun _ _ unreliable => absurd reliable unreliable
  | swapping closing purpose record snapshot =>
      apply resumeSwapping_rule proper.1 proper.2.1
      · exact fun _ => id
      · rintro exception after raises wrote ⟨_, remembers⟩
        refine .inl (wrote.stale (stale_failedRecord ?_))
        rintro scope rfl
        simpa [Stage.forgets, raises, Raised.caught] using remembers
      · exact fun _ _ _ _ _ => .inr resets_completedEntry
      · exact fun _ _ _ _ unreliable => absurd reliable unreliable
      · exact fun _ _ _ unreliable => absurd reliable unreliable
  | deactivating closing scope force record =>
      apply resumeDeactivating_rule proper.1
      · intro after _ wrote _
        right
        simp [Entry.resets, show record.loadedScopes = [] from drained]
      · exact fun _ _ => id
      · exact fun _ _ _ unreliable => absurd reliable unreliable
  | unregistering closing force =>
      apply resumeUnregistering_rule
      · rintro entries after removed (rfl | rfl) _
        · exact .inr rfl
        · exact .inr rfl
      · exact fun _ _ => id
      · exact fun _ _ unreliable => absurd reliable unreliable
  | probing scope record runtime =>
      apply resumeProbing_rule
      · exact fun _ _ _ _ _ _ found _ _ _ wrote marked =>
          .inl (wrote.staleOf found rfl marked.1)
      · exact fun _ => ⟨trivial, And.left⟩
      · exact fun _ _ _ _ => ⟨trivial, And.left⟩
      · exact fun _ _ => id
      · exact fun _ _ _ _ _ _ _ unhealthy wrote => unhealthily unhealthy wrote
      · exact fun _ => id
      · exact fun _ _ _ unreliable => absurd reliable unreliable
  | aborting scope record runtime =>
      apply resumeAborting_rule
      · exact fun _ _ _ => ⟨trivial, And.left⟩
      · exact fun _ _ => id
      · exact fun _ _ _ _ _ _ _ unhealthy wrote => unhealthily unhealthy wrote
      · exact fun _ => id
      · exact fun _ _ _ unreliable => absurd reliable unreliable
  | unhealthy closing scope record exception =>
      apply resumeUnhealthy_rule
      · exact fun _ _ _ => id
      · exact fun _ _ _ _ _ _ _ unhealthy wrote => unhealthily unhealthy wrote
      · exact fun _ _ => id
      · exact fun _ _ _ unreliable => absurd reliable unreliable

end Stretches

section Calls

variable {world : World} {tool : MountedTool}

theorem finishCallFailure_stale (reliable : world.Reliable)
    (exception : PyException) :
    wp (finishCallFailure tool exception)
      (fun _ after => world.Stale tool.ns → after.Stale tool.ns)
      (fun _ after => world.Stale tool.ns → after.Stale tool.ns) world := by
  apply finishCallFailure_rule
  · exact fun _ _ untouched stale => stale.same (untouched.records tool.ns)
  · exact fun _ _ _ _ _ wrote _ => wrote.stale rfl
  · exact fun _ _ _ _ unreliable => absurd reliable unreliable

theorem callFailed_stale (reliable : world.Reliable)
    (exception : PyException) :
    wp (callFailed tool exception)
      (fun _ after => world.Stale tool.ns → after.Stale tool.ns)
      (fun _ after => world.Stale tool.ns → after.Stale tool.ns) world := by
  apply callFailed_rule
  · exact fun _ _ => id
  · exact fun _ => finishCallFailure_stale reliable exception

theorem dispatchCall_stale (reliable : world.Reliable) :
    wp (dispatchCall tool)
      (fun _ after => world.Stale tool.ns → after.Stale tool.ns)
      (fun _ after => world.Stale tool.ns → after.Stale tool.ns) world := by
  apply dispatchCall_rule
  · exact fun _ _ => id
  · exact fun _ exception => callFailed_stale reliable exception

theorem resumeCall_stale (reliable : world.Reliable) (stage : CallStage)
    (reply : Except Raised CallToolResult) :
    wp (resumeCall tool stage reply)
      (fun _ after => world.Stale tool.ns → after.Stale tool.ns)
      (fun _ after => world.Stale tool.ns → after.Stale tool.ns) world := by
  have done : ∀ runtime, (world.markDone runtime).Reliable :=
    fun _ => reliable
  cases stage with
  | calling runtime =>
      apply resumeCalling_rule
      · exact fun _ _ => id
      · exact fun _ _ _ => id
      · exact fun exception _ _ => callFailed_stale reliable exception
      · exact fun _ => id
  | aborting runtime =>
      apply resumeCallAborting_rule
      · exact fun exception _ => callFailed_stale (done runtime) exception
      · exact fun _ => id
  | disconnecting closing exception =>
      apply resumeCallDisconnecting_rule
      · exact fun _ =>
          finishCallFailure_stale (done closing.runtime) exception
      · exact fun _ _ => id

end Calls

end ToolboxMcp
