import ToolboxMcp.Service.Scoping
import ToolboxMcp.Service.Serving

/-!
# What records report about the transport

Every write of a record computes a transport state.  `Steady` is the part of
the agreement between records and runtimes that is owed at any moment: a body
that has announced an opening, a body that is swapping runtimes and a handler
that is closing one owe some of it until they end.  The stretches that end
without paying are those that `spoils` names.
-/

namespace ToolboxMcp

open Effect

/-- What a record says about itself is consistent. -/
structure ToolsetRecord.Candid (record : ToolsetRecord) : Prop where
  settled : record.transportState ≠ .connecting
  fresh : record.transportState = .connected → record.stale = false
  unloaded : record.transportState = .inactive → record.loadedScopes = []

namespace World

variable (world : World) (ns : Namespace)

def Candid : Prop :=
  ∀ record, world.document.getToolset ns = some record → record.Candid

/-- Nothing runs behind a record that says failed. -/
def FailsIdle : Prop :=
  ∀ record,
    world.document.getToolset ns = some record →
      record.transportState = .failed → world.hasConnection ns = false

/-- Nothing is mounted, or the service itself has closed what is. -/
def detached : Bool :=
  (world.mounted ns).all fun runtime => (world.objects runtime).closed

def reports (state : TransportState) : Bool :=
  (world.record ns).any fun record => record.transportState = state

/-- The record says connected, but the service has given its runtime up. -/
def adrift : Bool :=
  world.reports ns .connected && world.detached ns

/-- The agreement between record and runtime, as far as nobody owes it. -/
structure Steady (announcing exchanging attended : Prop) : Prop where
  candid : ¬ announcing → world.Candid ns
  failsIdle : ¬ exchanging → world.FailsIdle ns
  attached : ¬ attended → world.adrift ns = false

end World

/-! ## Who owes what -/

/-- The record says connecting until the opening ends. -/
def Opening.announces : Opening → Bool
  | .refresh .. => false
  | _ => true

def Stage.announcing : Stage → Bool
  | .opening purpose _ _ => purpose.announces
  | .swapping _ purpose _ _ => purpose.announces
  | _ => false

def Stage.exchanging : Stage → Bool
  | .opening purpose _ _ => purpose.announces
  | .swapping .. => true
  | _ => false

/-- The body will write the record once more. -/
def Stage.attending : Stage → Bool
  | .opening purpose _ _ => purpose.announces
  | .probing .. => false
  | _ => true

def CallStage.attending : CallStage → Bool
  | .calling _ => false
  | _ => true

/-- What is owed after the stretch. -/
def Progress.Steady (ns : Namespace) (attended : Prop) (after : World) :
    Progress → Prop
  | .inside stage =>
      after.Steady ns (stage.announcing = true) (stage.exchanging = true)
        (attended ∨ stage.attending = true)
  | .left _ => after.Steady ns False False attended

def CallProgress.attending : CallProgress → Bool
  | .inside stage => stage.attending
  | .returned _ => false

/-! ## Stretches that end without paying -/

def cancels {α : Type} : Except Raised α → Bool
  | .error .cancelled => true
  | _ => false

/-- The stretch ends the body and leaves the record in disagreement with the
runtime; `attended` says that somebody else will write the record. -/
def Stage.spoils (ns : Namespace) (world : World) (attended : Bool)
    [Platform] (reply : Reply) : Stage → Bool
  -- A cancelled activation leaves `connecting` behind; a failed one says
  -- `failed` whatever runs.
  | .opening purpose _ runtime =>
      purpose.announces && !bootstraps ns reply &&
        (cancels reply || (world.markDone runtime).hasConnection ns)
  | .swapping closing purpose _ _ =>
      match closing.raises reply with
      | some .cancelled =>
          purpose.announces ||
            (world.reports ns .failed &&
              (world.markDone closing.runtime).hasConnection ns) ||
            (world.adrift ns && !attended)
      | some (.exception _) =>
          purpose.announces &&
            (world.markDone closing.runtime).hasConnection ns
      | none => world.detached ns && !attended
  | .deactivating closing _ _ _ =>
      (closing.raises reply).isSome && world.adrift ns && !attended
  | .unregistering closing _ =>
      (closing.raises reply).isSome && world.adrift ns && !attended
  -- A healthy check sets `connected` and leaves the stale mark.
  | .probing _ record _ =>
      bootstraps ns reply && !drifts ns record reply &&
        (world.record ns).any ToolsetRecord.stale && world.hasConnection ns
  | .aborting .. => cancels reply && world.adrift ns && !attended
  | .unhealthy closing _ _ _ =>
      (closing.raises reply).isSome && world.adrift ns && !attended

def CallStage.spoils (ns : Namespace) (world : World) (attended : Bool)
    (reply : Except Raised CallToolResult) : CallStage → Bool
  | .calling _ => false
  | .aborting _ => cancels reply && world.adrift ns && !attended
  | .disconnecting closing _ =>
      (closing.raises reply).isSome && world.adrift ns && !attended

/-! ## Records as they are written -/

section Records

variable {record : ToolsetRecord} {purpose : Opening}

theorem candid_of_state {state : TransportState}
    (written : record.transportState = state)
    (settled : state ≠ .connecting) (loose : state ≠ .connected)
    (active : state ≠ .inactive) : record.Candid := by
  subst written
  exact ⟨settled, fun same => absurd same loose,
    fun same => absurd same active⟩

theorem candid_connected (connected : record.transportState = .connected)
    (fresh : record.stale = false) : record.Candid :=
  ⟨by simp [connected], fun _ => fresh, by simp [connected]⟩

/-- Adding a scope to a running runtime. -/
theorem candid_reused {reused : ToolsetRecord}
    (state : reused.transportState = reusedState record)
    (stale : reused.stale = record.stale) : reused.Candid := by
  unfold reusedState at state
  split at state
  · exact candid_of_state state (by simp) (by simp) (by simp)
  · rename_i fresh
    exact candid_connected state (by simpa [stale] using fresh)

theorem candid_failureState {connected : Bool}
    (state : record.transportState = failureState connected) :
    record.Candid := by
  unfold failureState at state
  split at state
  · exact candid_of_state state (by simp) (by simp) (by simp)
  · exact candid_of_state state (by simp) (by simp) (by simp)

theorem candid_clearedRecord (connected : Bool) :
    (clearedRecord record connected).Candid := by
  have loaded : (clearedRecord record connected).loadedScopes =
      record.loadedScopes := rfl
  have stale : (clearedRecord record connected).stale = false := rfl
  have state : (clearedRecord record connected).transportState =
      if record.loadedScopes.isEmpty then .inactive
      else if connected then .connected else .failed := rfl
  by_cases empty : record.loadedScopes = []
  · have inactive :
        (clearedRecord record connected).transportState = .inactive := by
      simp [state, empty]
    exact ⟨by simp [inactive], by simp [inactive],
      fun _ => loaded.trans empty⟩
  · cases connected with
    | true =>
        exact candid_connected (by simp [state, empty]) stale
    | false =>
        have failed :
            (clearedRecord record false).transportState = .failed := by
          simp [state, empty]
        exact candid_of_state failed (by simp) (by simp) (by simp)

end Records

/-! ## Keeping the agreement -/

section Worlds

variable {ns : Namespace} {before after : World} {record : ToolsetRecord}
  {announcing exchanging attended : Prop}

theorem detached_eq_false :
    before.detached ns = false ↔
      ∃ runtime, before.runtimes.get ns = some runtime ∧
        ¬ before.Shut runtime := by
  unfold World.detached World.Shut
  cases mounted : before.runtimes.get ns <;> simp [mounted]

theorem not_detached_of_connected
    (connected : before.hasConnection ns = true) :
    before.detached ns = false := by
  obtain ⟨runtime, mounted, running⟩ := World.hasConnection_iff.mp connected
  have flags := World.isRunning_iff.mp running
  exact detached_eq_false.mpr ⟨runtime, mounted, by simp [World.Shut, flags.2]⟩

theorem SameTransport.detached (same : SameTransport before after) :
    after.detached ns = before.detached ns := by
  unfold World.detached World.mounted
  rw [same.runtimes, same.objects]

theorem reports_congr {state : TransportState}
    (same : after.document.getToolset ns = before.document.getToolset ns) :
    after.reports ns state = before.reports ns state := by
  unfold World.reports World.record
  rw [same]

namespace World.Steady

theorem mono {announcing' exchanging' attended' : Prop}
    (steady : before.Steady ns announcing exchanging attended)
    (announces : announcing → announcing')
    (exchanges : exchanging → exchanging')
    (attends : attended → attended') :
    before.Steady ns announcing' exchanging' attended' where
  candid nobody := steady.candid fun holds => nobody (announces holds)
  failsIdle nobody := steady.failsIdle fun holds => nobody (exchanges holds)
  attached nobody := steady.attached fun holds => nobody (attends holds)

/-- Somebody else will write the record. -/
theorem owed (candid : ¬ announcing → before.Candid ns)
    (failsIdle : ¬ exchanging → before.FailsIdle ns) (attends : attended) :
    before.Steady ns announcing exchanging attended :=
  ⟨candid, failsIdle, fun nobody => absurd attends nobody⟩

/-- A record is written that agrees with the transport as it is. -/
theorem written (quiet : Quiet ns before after)
    (found : after.document.getToolset ns = some record)
    (candid : record.Candid)
    (failed : record.transportState = .failed →
      before.hasConnection ns = false)
    (connected : record.transportState = .connected →
      attended ∨ before.detached ns = false) :
    after.Steady ns announcing exchanging attended where
  candid _ other same := by
    rw [found] at same
    cases same
    exact candid
  failsIdle _ other same state := by
    rw [found] at same
    cases same
    rw [quiet.hasConnection]
    exact failed state
  attached nobody := by
    unfold World.adrift
    rw [quiet.detached, Bool.and_eq_false_iff]
    by_cases state : record.transportState = .connected
    · exact .inr ((connected state).resolve_left nobody)
    · left
      simp [World.reports, found, state]

/-- The record is as before, and at most connections were lost. -/
theorem kept {attended' : Prop}
    (steady : before.Steady ns announcing exchanging attended)
    (same : after.document.getToolset ns = before.document.getToolset ns)
    (shrinks : after.hasConnection ns = true →
      before.hasConnection ns = true)
    (attached : ¬ attended' → after.adrift ns = false) :
    after.Steady ns announcing exchanging attended' where
  candid nobody record found := by
    rw [same] at found
    exact steady.candid nobody record found
  failsIdle nobody record found state := by
    rw [same] at found
    have idle := steady.failsIdle nobody record found state
    rw [← Bool.not_eq_true] at idle ⊢
    exact fun connected => idle (shrinks connected)
  attached := attached

theorem untouched (steady : before.Steady ns announcing exchanging attended)
    (untouched : Untouched before after) :
    after.Steady ns announcing exchanging attended := by
  apply steady.kept (untouched.records ns)
  · rw [untouched.hasConnection]
    exact id
  · intro nobody
    have before := steady.attached nobody
    unfold World.adrift at before ⊢
    rwa [reports_congr (untouched.records ns), untouched.detached]

/-- Nothing is owed to a namespace without a record. -/
theorem removed (missing : after.document.getToolset ns = none) :
    after.Steady ns announcing exchanging attended where
  candid _ record found := by
    rw [missing] at found
    cases found
  failsIdle _ record found := by
    rw [missing] at found
    cases found
  attached _ := by
    simp [World.adrift, World.reports, missing]

end World.Steady

theorem hasConnection_disconnected (existing : RuntimeId) :
    ((before.unmount ns).markClosed existing).hasConnection ns = false := by
  simp [World.hasConnection, Dict.get_pop]

theorem hasConnection_of_markClosed {runtime : RuntimeId}
    (connected : (before.markClosed runtime).hasConnection ns = true) :
    before.hasConnection ns = true := by
  obtain ⟨mounted, found, running⟩ := World.hasConnection_iff.mp connected
  refine World.hasConnection_iff.mpr ⟨mounted, found, ?_⟩
  unfold World.isRunning ManagedToolsetRuntime.isRunning at running ⊢
  rw [World.markClosed_objects, Function.update_apply] at running
  split at running
  · simp at running
  · exact running

theorem hasConnection_of_markDone {runtime : RuntimeId}
    (connected : (before.markDone runtime).hasConnection ns = true) :
    before.hasConnection ns = true := by
  obtain ⟨mounted, found, running⟩ := World.hasConnection_iff.mp connected
  refine World.hasConnection_iff.mpr ⟨mounted, found, ?_⟩
  unfold World.isRunning ManagedToolsetRuntime.isRunning at running ⊢
  rw [World.markDone_objects, Function.update_apply] at running
  split at running
  · simp at running
  · exact running

@[simp]
theorem detached_markDone (runtime : RuntimeId) :
    (before.markDone runtime).detached ns = before.detached ns := by
  have same : ∀ other,
      ((before.markDone runtime).objects other).closed =
        (before.objects other).closed := by
    intro other
    rw [Bool.eq_iff_iff]
    exact shut_markDone_iff
  unfold World.detached
  simp only [same]
  rfl

theorem adrift_markDone (runtime : RuntimeId) :
    (before.markDone runtime).adrift ns = before.adrift ns := by
  unfold World.adrift
  rw [detached_markDone]
  rfl

/-- A new actor changes no old runtime. -/
theorem objects_spawnRuntime {runtime : RuntimeId}
    (issued : runtime < before.nextRuntime) :
    (before.spawnRuntime ns).objects runtime = before.objects runtime := by
  rw [World.spawnRuntime_objects, Function.update_of_ne issued.ne]

theorem World.Steady.spawned (housed : before.Housed)
    (steady : before.Steady ns announcing exchanging attended) :
    (before.spawnRuntime ns).Steady ns announcing exchanging attended := by
  have connection : (before.spawnRuntime ns).hasConnection ns =
      before.hasConnection ns := by
    unfold World.hasConnection World.mounted World.isRunning
    rw [World.spawnRuntime_runtimes]
    cases mounted : before.runtimes.get ns with
    | none =>
        rfl
    | some runtime =>
        simp only [Option.any_some]
        rw [objects_spawnRuntime (housed ns runtime mounted).1]
  have detached : (before.spawnRuntime ns).detached ns =
      before.detached ns := by
    unfold World.detached World.mounted
    rw [World.spawnRuntime_runtimes]
    cases mounted : before.runtimes.get ns with
    | none =>
        rfl
    | some runtime =>
        simp only [Option.all_some]
        rw [objects_spawnRuntime (housed ns runtime mounted).1]
  have same : (before.spawnRuntime ns).document.getToolset ns =
      before.document.getToolset ns := rfl
  apply steady.kept same
  · rw [connection]
    exact id
  · intro nobody
    have before := steady.attached nobody
    unfold World.adrift at before ⊢
    rw [detached]
    exact before

end Worlds

/-! ## How bodies end -/

section Endings

variable {ns : Namespace} {record : ToolsetRecord} {purpose : Opening}
  {error : ErrorInfo} {before after : World} {attended : Prop}

/-- `STALE if has_connection else FAILED` agrees with the transport. -/
theorem steady_failureState
    (state : record.transportState = failureState (before.hasConnection ns))
    (wrote : Wrote ns record before after) :
    after.Steady ns False False attended := by
  apply World.Steady.written wrote.toQuiet wrote.written
    (candid_failureState state)
  · intro failed
    rw [failed] at state
    cases connected : before.hasConnection ns with
    | false =>
        rfl
    | true =>
        rw [connected] at state
        cases state
  · intro connected
    rw [connected] at state
    unfold failureState at state
    split at state <;> cases state

theorem steady_failed (state : record.transportState = .failed)
    (idle : before.hasConnection ns = false)
    (wrote : Wrote ns record before after) :
    after.Steady ns False False attended := by
  apply World.Steady.written wrote.toQuiet wrote.written
  · exact candid_of_state state (by simp) (by simp) (by simp)
  · exact fun _ => idle
  · simp [state]

/-- What the handler of a failed opening writes. -/
theorem steady_failedRecord
    (wrote :
      Wrote ns (purpose.failedRecord record error (before.hasConnection ns))
        before after)
    (idle : purpose.announces = true → before.hasConnection ns = false) :
    after.Steady ns False False attended := by
  cases purpose with
  | refresh scope previousTools oldHash =>
      exact steady_failureState rfl wrote
  | activate scope =>
      exact steady_failed rfl (idle rfl) wrote
  | restore candidates startup =>
      exact steady_failed rfl (idle rfl) wrote

theorem steady_completedRecord {snapshot : SchemaSnapshot} {now : Time}
    (installed :
      Installed ns (purpose.completedRecord record snapshot now) snapshot
        before after)
    (mounted : attended ∨ before.detached ns = false) :
    after.Steady ns False False attended := by
  have records := @records_completedRecord record purpose snapshot now
  have state := records.transportState
  apply World.Steady.written installed.toQuiet installed.written
    (candid_connected state records.stale)
  · simp [state]
  · exact fun _ => mounted

/-- A body that ends with an exception after an await leaves the record to
whoever else attends to it. -/
theorem steady_abandoned {announcing exchanging : Prop} {attends : Bool}
    (ended : RuntimeId) (candid : ¬ announcing → before.Candid ns)
    (failsIdle : ¬ exchanging → ∀ record,
      before.document.getToolset ns = some record →
      record.transportState = .failed →
        (before.markDone ended).hasConnection ns = false)
    (attached : (before.adrift ns && !attends) = false) :
    (before.markDone ended).Steady ns announcing exchanging
      (attends = true) where
  candid := candid
  failsIdle := failsIdle
  attached nobody := by
    rw [adrift_markDone]
    simpa [nobody] using attached

theorem World.FailsIdle.markDone (failsIdle : before.FailsIdle ns)
    (ended : RuntimeId) :
    ∀ record,
      before.document.getToolset ns = some record →
      record.transportState = .failed →
        (before.markDone ended).hasConnection ns = false := by
  intro record found state
  have idle := failsIdle record found state
  rw [← Bool.not_eq_true] at idle ⊢
  exact fun connected => idle (hasConnection_of_markDone connected)

end Endings

/-! ## First stretches -/

section Stretches

variable {ns : Namespace} {world : World} {attended : Prop} [Platform]

omit [Platform] in
/-- An activation or a restore has announced its opening. -/
theorem steady_announced {purpose : Opening} {record : ToolsetRecord}
    {runtime : RuntimeId} (announces : purpose.announces = true) :
    (Progress.inside (.opening purpose record runtime)).Steady ns attended
      world :=
  .owed (absurd announces) (absurd announces) (.inr announces)

omit [Platform] in
/-- A scope is added to a running runtime. -/
theorem steady_reused {runtime : RuntimeId} {record stored : ToolsetRecord}
    {after : World} (running : world.runtimeFor ns = some runtime)
    (state : stored.transportState = reusedState record)
    (stale : stored.stale = record.stale)
    (wrote : Wrote ns stored world after) :
    after.Steady ns False False attended := by
  have connected : world.hasConnection ns = true :=
    World.hasConnection_iff.mpr
      ⟨runtime, World.runtimeFor_eq_some.mp running⟩
  apply World.Steady.written wrote.toQuiet wrote.written
    (candid_reused state stale)
  · intro failed
    rw [failed] at state
    unfold reusedState at state
    split at state <;> cases state
  · exact fun _ => .inr (not_detached_of_connected connected)

omit [Platform] in
theorem startDeactivate_steady (reliable : world.Reliable)
    (steady : world.Steady ns False False attended) (scope : Scope)
    (force : Bool) :
    wp (startDeactivate ns scope force)
      (fun progress after => progress.Steady ns attended after)
      (fun _ after => after.Steady ns False False attended) world := by
  apply startDeactivate_rule
  · exact fun _ _ untouched _ => steady.untouched untouched
  · intro record after found loaded remaining wrote
    have state : (withoutScope record scope).transportState =
        record.transportState := by
      rw [withoutScope_eq]
    have stale : (withoutScope record scope).stale = record.stale := by
      rw [withoutScope_eq]
    have candid := steady.candid id record found
    apply World.Steady.written wrote.toQuiet wrote.written
    · refine ⟨state ▸ candid.settled, ?_, ?_⟩
      · rw [state, stale]
        exact candid.fresh
      · intro inactive
        rw [state] at inactive
        rw [candid.unloaded inactive] at loaded
        cases loaded
    · rw [state]
      exact steady.failsIdle id record found
    · intro connected
      rw [state] at connected
      by_cases nobody : attended
      · exact .inl nobody
      · right
        have attached := steady.attached nobody
        simpa [World.adrift, World.reports, found, connected]
          using attached
  · intro record after _ _ empty _ wrote
    apply World.Steady.written wrote.toQuiet wrote.written
    · exact ⟨by simp [deactivatedRecord], fun _ => rfl, fun _ => empty⟩
    · simp [deactivatedRecord]
    · simp [deactivatedRecord]
  · intro record existing _ _ _ _ _
    refine .owed (fun _ => steady.candid id) ?_ (.inr rfl)
    exact fun _ _ _ _ => hasConnection_disconnected existing
  · exact fun _ _ _ unreliable => absurd reliable unreliable

omit [Platform] in
theorem startClearStale_steady (reliable : world.Reliable)
    (steady : world.Steady ns False False attended) :
    wp (startClearStale ns)
      (fun progress after => progress.Steady ns attended after)
      (fun _ after => after.Steady ns False False attended) world := by
  apply startClearStale_rule
  · exact fun _ _ untouched _ => steady.untouched untouched
  · intro record result after _ _ wrote
    apply World.Steady.written wrote.toQuiet wrote.written
      (candid_clearedRecord _)
    · intro failed
      cases connected : world.hasConnection ns with
      | false =>
          rfl
      | true =>
          simp only [clearedRecord, connected, if_true] at failed
          split at failed <;> cases failed
    · intro connected
      right
      cases connection : world.hasConnection ns with
      | true =>
          exact not_detached_of_connected connection
      | false =>
          simp only [clearedRecord, connection, Bool.false_eq_true,
            if_false] at connected
          split at connected <;> cases connected
  · exact fun _ _ _ unreliable => absurd reliable unreliable

theorem start_steady (reliable : world.Reliable) (housed : world.Housed)
    (steady : world.Steady ns False False attended) (operation : Operation) :
    wp (start operation ns)
      (fun progress after => progress.Steady ns attended after)
      (fun _ after => after.Steady ns False False attended) world := by
  have idle : ∀ {after : World}, Untouched world after →
      after.Steady ns False False attended := steady.untouched
  have attends : ∀ {stage : Stage}, stage.attending = true →
      attended ∨ stage.attending = true := .inr
  have absurdly : ∀ {after : World}, ¬ world.Reliable →
      after.Steady ns False False attended :=
    fun unreliable => absurd reliable unreliable
  cases operation with
  | register transport registration =>
      apply startRegister_rule
      · exact fun _ _ untouched => idle untouched
      · intro record after _ accepted _ wrote
        obtain ⟨_, unloaded, _, inactive, _⟩ := toRecord_valid accepted
        apply World.Steady.written wrote.toQuiet wrote.written
        · exact ⟨by simp [inactive], by simp [inactive], fun _ => unloaded⟩
        · simp [inactive]
        · simp [inactive]
      · exact fun _ _ _ _ _ _ unreliable _ => absurdly unreliable
      · exact fun _ _ unreliable _ => absurdly unreliable
  | activate scope ifNotLoaded =>
      apply startActivate_rule
      · exact fun _ _ untouched => idle untouched
      · exact fun _ _ _ _ _ => steady
      · intro record runtime now result after _ _ reusable _ _ wrote
        have running := (Option.filter_eq_some_iff.mp reusable).1
        exact steady_reused running rfl (stale_activateReused scope now) wrote
      · intro record now exception after _ reusable _ wrote
        obtain ⟨runtime, reusable⟩ := Option.ne_none_iff_exists'.mp reusable
        have running := (Option.filter_eq_some_iff.mp reusable).1
        exact steady_reused running rfl (stale_activateReused scope now) wrote
      · exact fun _ _ _ _ _ _ _ => steady_announced rfl
      · exact fun _ _ _ unreliable _ _ => absurdly unreliable
      · exact fun _ _ _ unreliable => absurdly unreliable
  | refresh ifStale scope =>
      apply startRefresh_rule
      · exact fun _ _ untouched _ => idle untouched
      · intro record _ _
        exact (steady.spawned housed).mono False.elim False.elim .inl
      · exact fun _ _ _ unreliable => absurdly unreliable
  | deactivate scope force =>
      exact startDeactivate_steady reliable steady scope force
  | restore stableHostIdentity startup =>
      apply startRestore_rule
      · exact fun _ _ untouched _ => idle untouched
      · intro record runtime now missing result after _ running _ _ _ wrote
        exact steady_reused running rfl (stale_restoreReused missing now) wrote
      · intro record now missing exception after _ running _ _ wrote
        obtain ⟨runtime, running⟩ := Option.ne_none_iff_exists'.mp running
        exact steady_reused running rfl (stale_restoreReused missing now) wrote
      · exact fun _ _ _ _ _ _ _ _ => steady_announced rfl
      · exact fun _ _ _ _ unreliable _ _ => absurdly unreliable
      · exact fun _ _ _ unreliable => absurdly unreliable
  | checkHealth scope =>
      apply startCheckHealth_rule
      · exact fun _ _ untouched _ => idle untouched
      · exact fun _ _ _ _ => steady.mono False.elim False.elim .inl
      · exact fun _ _ _ _ _ _ _ unhealthy wrote =>
          steady_failureState unhealthy.transportState wrote
      · exact fun _ _ _ unreliable => absurdly unreliable
  | clearStale =>
      exact startClearStale_steady reliable steady
  | markStale reason =>
      apply startMarkStale_rule
      · exact fun _ => steady
      · intro record after _ wrote
        have state : (markedRecord record reason).transportState = .stale :=
          rfl
        apply World.Steady.written wrote.toQuiet wrote.written
        · exact candid_of_state state (by simp) (by simp) (by simp)
        · simp [state]
        · simp [state]
      · exact fun _ _ _ unreliable => absurdly unreliable
  | unregister force =>
      apply startUnregister_rule
      · exact fun _ _ untouched => idle untouched
      · intro record entries after _ _ removed _
        exact .removed (by rw [removed.records, if_pos rfl])
      · intro record existing _ _ _
        refine .owed (fun _ => steady.candid id) ?_ (attends rfl)
        exact fun _ _ _ _ => hasConnection_disconnected existing
      · exact fun _ _ unreliable _ => absurdly unreliable

/-! ## Resumed stretches -/

omit [Platform] in
/-- A runtime that is not closed is attached once it has landed. -/
theorem detached_landed {runtime : RuntimeId} (tools : List Tool)
    (unshut : ¬ world.Shut runtime) :
    (landed world ns runtime tools).detached ns = false := by
  refine detached_eq_false.mpr ⟨runtime, ?_, ?_⟩
  · simp [landed, Dict.get_set]
  · have same :
        ((landed world ns runtime tools).objects runtime).closed =
          (world.objects runtime).closed := by
      simp [landed]
    unfold World.Shut at unshut ⊢
    rw [same]
    exact unshut

theorem resumeOpening_steady {purpose : Opening} {record : ToolsetRecord}
    {runtime : RuntimeId} {reply : Reply} {attends : Bool}
    (reliable : world.Reliable) (named : record.ns = ns)
    (unshut : ¬ world.Shut runtime)
    (steady :
      world.Steady ns (purpose.announces = true) (purpose.announces = true)
        (attends = true ∨ purpose.announces = true))
    (clean :
      (Stage.opening purpose record runtime).spoils ns world attends reply =
        false) :
    wp (resumeOpening ns purpose record runtime reply)
      (fun progress after => progress.Steady ns (attends = true) after)
      (fun _ after => after.Steady ns False False (attends = true))
      world := by
  have settled : bootstraps ns reply = false → purpose.announces = true →
      cancels reply = false ∧
        (world.markDone runtime).hasConnection ns = false := by
    intro fails announces
    simpa [Stage.spoils, fails, announces] using clean
  apply resumeOpening_rule named
  · intro cancelled
    have fails : bootstraps ns reply = false := by
      rw [cancelled]
      rfl
    have silent : purpose.announces = false := by
      rw [← Bool.not_eq_true]
      intro announces
      have kept := (settled fails announces).1
      rw [cancelled] at kept
      cases kept
    rw [silent] at steady
    exact steady.mono (by simp) (by simp) (by simp)
  · intro exception after fails wrote
    exact steady_failedRecord wrote fun announces =>
      (settled fails announces).2
  · intro tools snapshot existing _ _ _ _
    exact .owed (fun nobody => steady.candid nobody)
      (fun nobody => absurd rfl nobody) (.inr rfl)
  · intro tools snapshot now after _ _ _ _ installed
    exact steady_completedRecord installed (.inr (detached_landed tools unshut))
  · exact fun _ _ _ _ _ _ _ _ _ unreliable => absurd reliable unreliable
  · exact fun _ _ unreliable => absurd reliable unreliable

theorem resumeSwapping_steady {closing : Closing} {purpose : Opening}
    {record : ToolsetRecord} {snapshot : SchemaSnapshot} {reply : Reply}
    {attends : Bool} (reliable : world.Reliable) (named : record.ns = ns)
    (captured : snapshot.ns = ns)
    (candid : purpose.announces = false → world.Candid ns)
    (clean :
      (Stage.swapping closing purpose record snapshot).spoils ns world attends
        reply = false) :
    wp (resumeSwapping ns closing purpose record snapshot reply)
      (fun progress after => progress.Steady ns (attends = true) after)
      (fun _ after => after.Steady ns False False (attends = true))
      world := by
  apply resumeSwapping_rule named captured
  · intro ending
    simp only [Stage.spoils, ending, Bool.or_eq_false_iff,
      Bool.and_eq_false_iff] at clean
    obtain ⟨⟨silent, idle⟩, attached⟩ := clean
    apply steady_abandoned closing.runtime fun _ => candid silent
    · intro _ stored found failed
      rcases idle with elsewhere | idle
      · simp [World.reports, World.record, found, failed] at elsewhere
      · exact idle
    · exact Bool.and_eq_false_iff.mpr attached
  · intro exception after ending wrote
    simp only [Stage.spoils, ending, Bool.and_eq_false_iff] at clean
    apply steady_failedRecord wrote
    intro announces
    rcases clean with silent | idle
    · rw [announces] at silent
      cases silent
    · exact idle
  · intro now after ending installed
    simp only [Stage.spoils, ending, Bool.and_eq_false_iff] at clean
    apply steady_completedRecord installed
    rcases clean with attached | attends
    · right
      rw [detached_markDone]
      exact attached
    · left
      simpa using attends
  · exact fun _ _ _ _ unreliable => absurd reliable unreliable
  · exact fun _ _ _ unreliable => absurd reliable unreliable

theorem resumeProbing_steady {scope : Option Scope} {record : ToolsetRecord}
    {runtime : RuntimeId} {reply : Reply} {attends : Bool}
    (reliable : world.Reliable)
    (steady : world.Steady ns False False (attends = true))
    (clean :
      (Stage.probing scope record runtime).spoils ns world attends reply =
        false) :
    wp (resumeProbing ns scope record runtime reply)
      (fun progress after => progress.Steady ns (attends = true) after)
      (fun _ after => after.Steady ns False False (attends = true))
      world := by
  apply resumeProbing_rule
  · intro current hash count now result after found boots faithful _ wrote
    have candid := steady.candid id current found
    apply World.Steady.written wrote.toQuiet wrote.written
    · cases connected : world.hasConnection ns with
      | true =>
          have fresh : current.stale = false := by
            simpa [Stage.spoils, boots, faithful, World.record, found,
              connected] using clean
          exact candid_connected (by simp [observedRecord]) fresh
      | false =>
          exact ⟨by simpa [observedRecord] using candid.settled,
            by simpa [observedRecord] using candid.fresh,
            by simpa [observedRecord] using candid.unloaded⟩
    · intro failed
      cases connected : world.hasConnection ns with
      | true =>
          simp [observedRecord, connected] at failed
      | false =>
          rfl
    · intro state
      cases connected : world.hasConnection ns with
      | true =>
          exact .inr (not_detached_of_connected connected)
      | false =>
          have before : current.transportState = .connected := by
            simpa [observedRecord, connected] using state
          by_cases nobody : attends = true
          · exact .inl nobody
          · right
            have attached := steady.attached nobody
            simpa [World.adrift, World.reports, World.record, found, before]
              using attached
  · intro _
    refine .owed (fun _ => steady.candid id) ?_ (.inr rfl)
    intro _ stored found failed
    have idle := steady.failsIdle id stored found failed
    rw [← Bool.not_eq_true] at idle ⊢
    exact fun connected => idle (hasConnection_of_markClosed connected)
  · intro exception existing _ _
    refine .owed (fun _ => steady.candid id) ?_ (.inr rfl)
    exact fun _ _ _ _ => hasConnection_disconnected existing
  · exact fun _ _ => steady
  · intro current result final after _ _ _ unhealthy wrote
    exact steady_failureState unhealthy.transportState wrote
  · exact fun _ => steady
  · exact fun _ _ _ unreliable => absurd reliable unreliable

/-- The stretch that follows an await leaves records and runtimes in
agreement, unless it spoils it. -/
theorem resume_steady {operation : Operation} {stage : Stage} {reply : Reply}
    {attends : Bool} (reliable : world.Reliable)
    (proper : stage.Proper world ns)
    (tracks : stage.Tracks operation world ns)
    (unshut : ∀ runtime, stage.landing = some runtime →
      ¬ world.Shut runtime)
    (steady :
      world.Steady ns (stage.announcing = true) (stage.exchanging = true)
        (attends = true ∨ stage.attending = true))
    (clean : stage.spoils ns world attends reply = false) :
    wp (resume ns stage reply)
      (fun progress after => progress.Steady ns (attends = true) after)
      (fun _ after => after.Steady ns False False (attends = true))
      world := by
  have absurdly : ∀ {fact : Prop}, ¬ world.Reliable → fact :=
    fun unreliable => absurd reliable unreliable
  -- A handler that ends with an exception while a runtime is closing.
  have abandoned : ∀ {closing : Closing} {second : Raised},
      world.Candid ns → world.FailsIdle ns →
      ((closing.raises reply).isSome && world.adrift ns && !attends) =
        false →
      closing.raises reply = some second →
      (world.markDone closing.runtime).Steady ns False False
        (attends = true) := by
    intro closing second candid failsIdle clean ending
    apply steady_abandoned closing.runtime (fun _ => candid)
      fun _ => failsIdle.markDone closing.runtime
    simpa [ending] using clean
  cases stage with
  | opening purpose record runtime =>
      exact resumeOpening_steady reliable proper.1 (unshut runtime rfl) steady
        clean
  | swapping closing purpose record snapshot =>
      apply resumeSwapping_steady reliable proper.1 proper.2.1 _ clean
      intro silent
      apply steady.candid
      simp [Stage.announcing, silent]
  | deactivating closing scope force record =>
      have candid := steady.candid (by simp [Stage.announcing])
      have failsIdle := steady.failsIdle (by simp [Stage.exchanging])
      apply resumeDeactivating_rule proper.1
      · intro after _ wrote
        apply World.Steady.written wrote.toQuiet wrote.written
        · exact ⟨by simp [deactivatedRecord], fun _ => rfl,
            fun _ => tracks.2.1⟩
        · simp [deactivatedRecord]
        · simp [deactivatedRecord]
      · exact fun second ending =>
          abandoned candid failsIdle clean ending
      · exact fun _ _ _ => absurdly
  | unregistering closing force =>
      have candid := steady.candid (by simp [Stage.announcing])
      have failsIdle := steady.failsIdle (by simp [Stage.exchanging])
      apply resumeUnregistering_rule
      · intro entries after removed _
        exact .removed (by rw [removed.records, if_pos rfl])
      · exact fun second ending =>
          abandoned candid failsIdle clean ending
      · exact fun _ _ => absurdly
  | probing scope record runtime =>
      apply resumeProbing_steady reliable _ clean
      exact steady.mono (by simp [Stage.announcing])
        (by simp [Stage.exchanging]) (by simp [Stage.attending])
  | aborting scope record runtime =>
      have candid := steady.candid (by simp [Stage.announcing])
      have failsIdle := steady.failsIdle (by simp [Stage.exchanging])
      apply resumeAborting_rule
      · intro exception existing _
        refine .owed (fun _ => candid) ?_ (.inr rfl)
        exact fun _ _ _ _ => hasConnection_disconnected existing
      · exact fun missing _ => .removed missing
      · intro current result final after _ _ _ unhealthy wrote
        exact steady_failureState unhealthy.transportState wrote
      · intro cancelled
        apply steady_abandoned runtime (fun _ => candid)
          fun _ => failsIdle.markDone runtime
        subst cancelled
        simpa [Stage.spoils, cancels] using clean
      · exact fun _ _ _ => absurdly
  | unhealthy closing scope record exception =>
      have candid := steady.candid (by simp [Stage.announcing])
      have failsIdle := steady.failsIdle (by simp [Stage.exchanging])
      apply resumeUnhealthy_rule
      · exact fun _ missing _ => .removed missing
      · intro current result final after _ _ _ unhealthy wrote
        exact steady_failureState unhealthy.transportState wrote
      · exact fun second ending =>
          abandoned candid failsIdle clean ending
      · exact fun _ _ _ => absurdly

end Stretches

/-! ## Calls -/

section Calls

variable {tool : MountedTool} {world : World} {announcing exchanging : Prop}
  {attends : Bool}

theorem finishCallFailure_steady (reliable : world.Reliable)
    (exception : PyException) :
    wp (finishCallFailure tool exception)
      (fun _ after =>
        after.Steady tool.ns announcing exchanging (attends = true))
      (fun _ after =>
        after.Steady tool.ns announcing exchanging (attends = true))
      world := by
  apply finishCallFailure_rule
  · intro missing after untouched
    exact .removed ((untouched.records tool.ns).trans missing)
  · intro current reason error after _ wrote
    have written : after.Steady tool.ns False False (attends = true) :=
      steady_failureState rfl wrote
    exact written.mono False.elim False.elim id
  · exact fun _ _ _ _ unreliable => absurd reliable unreliable

theorem callFailed_steady (reliable : world.Reliable)
    (candid : ¬ announcing → world.Candid tool.ns)
    (exception : PyException) :
    wp (callFailed tool exception)
      (fun progress after =>
        after.Steady tool.ns announcing exchanging
          (attends = true ∨ progress.attending = true))
      (fun _ after =>
        after.Steady tool.ns announcing exchanging (attends = true))
      world := by
  apply callFailed_rule
  · intro existing _
    refine .owed candid ?_ (.inr rfl)
    exact fun _ _ _ _ => hasConnection_disconnected existing
  · intro _
    apply wp_mono (finishCallFailure_steady reliable exception)
    · exact fun _ _ steady => steady.mono id id .inl
    · exact fun _ _ => id

theorem dispatchCall_steady (reliable : world.Reliable)
    (steady :
      world.Steady tool.ns announcing exchanging (attends = true)) :
    wp (dispatchCall tool)
      (fun progress after =>
        after.Steady tool.ns announcing exchanging
          (attends = true ∨ progress.attending = true))
      (fun _ after =>
        after.Steady tool.ns announcing exchanging (attends = true))
      world := by
  apply dispatchCall_rule
  · exact fun _ _ => steady.mono id id .inl
  · exact fun _ exception =>
      callFailed_steady reliable steady.candid exception

theorem resumeCall_steady (reliable : world.Reliable) {stage : CallStage}
    {reply : Except Raised CallToolResult}
    (steady :
      world.Steady tool.ns announcing exchanging
        (attends = true ∨ stage.attending = true))
    (clean : stage.spoils tool.ns world attends reply = false) :
    wp (resumeCall tool stage reply)
      (fun progress after =>
        after.Steady tool.ns announcing exchanging
          (attends = true ∨ progress.attending = true))
      (fun _ after =>
        after.Steady tool.ns announcing exchanging (attends = true))
      world := by
  have stillReliable : ∀ {runtime : RuntimeId},
      (world.markDone runtime).Reliable := reliable
  have markedCandid : ∀ {runtime : RuntimeId}, ¬ announcing →
      (world.markDone runtime).Candid tool.ns := steady.candid
  have markedIdle : ∀ {runtime : RuntimeId}, ¬ exchanging → ∀ record,
      world.document.getToolset tool.ns = some record →
      record.transportState = .failed →
        (world.markDone runtime).hasConnection tool.ns = false :=
    fun nobody =>
      World.FailsIdle.markDone (steady.failsIdle nobody) _
  cases stage with
  | calling runtime =>
      have still :
          world.Steady tool.ns announcing exchanging (attends = true) :=
        steady.mono id id (by simp [CallStage.attending])
      apply resumeCalling_rule
      · exact fun _ _ => still.mono id id .inl
      · intro exception _ _
        refine .owed steady.candid ?_ (.inr rfl)
        intro nobody stored found failed
        have idle := steady.failsIdle nobody stored found failed
        rw [← Bool.not_eq_true] at idle ⊢
        exact fun connected => idle (hasConnection_of_markClosed connected)
      · exact fun exception _ _ =>
          callFailed_steady reliable steady.candid exception
      · exact fun _ => still
  | aborting runtime =>
      apply resumeCallAborting_rule
      · exact fun exception _ =>
          callFailed_steady stillReliable markedCandid exception
      · intro cancelled
        apply steady_abandoned runtime steady.candid markedIdle
        rw [cancelled] at clean
        simpa [CallStage.spoils, cancels] using clean
  | disconnecting closing exception =>
      apply resumeCallDisconnecting_rule
      · intro _
        apply wp_mono (finishCallFailure_steady stillReliable exception)
        · exact fun _ _ steady => steady.mono id id .inl
        · exact fun _ _ => id
      · intro second ending
        apply steady_abandoned closing.runtime steady.candid markedIdle
        simpa [CallStage.spoils, ending] using clean

end Calls

end ToolboxMcp
