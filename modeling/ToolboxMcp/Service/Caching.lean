import ToolboxMcp.Service.Scoping

/-!
# What a stretch does to the contract of its namespace

The contract of a namespace is kept twice: as two hashes and a tool count in
its record, and as a current and a previous snapshot in the caches.  Every
stretch leaves both alone or changes both, in one of the ways `CacheStep`
lists, provided that the locals of suspended stages still mirror them.
-/

namespace ToolboxMcp

open Effect

/-- Both hashes and the tool count. -/
def ToolsetRecord.contract (record : ToolsetRecord) :
    Option String × Option String × Nat :=
  (record.schemaHash, record.previousSchemaHash, record.toolCount)

namespace World

def contract (world : World) (ns : Namespace) :
    Option (Option String × Option String × Nat) :=
  (world.document.getToolset ns).map ToolsetRecord.contract

theorem contract_of_found {world : World} {ns : Namespace}
    {record : ToolsetRecord}
    (found : world.document.getToolset ns = some record) :
    world.contract ns = some record.contract := by
  simp [contract, found]

end World

/-- The record and the caches say the same of the contract as before. -/
structure SameContract (ns : Namespace) (before after : World) : Prop where
  contract : after.contract ns = before.contract ns
  snapshot :
    after.document.getSchemaSnapshot ns =
      before.document.getSchemaSnapshot ns
  previous :
    after.document.getPreviousSchemaSnapshot ns =
      before.document.getPreviousSchemaSnapshot ns

namespace SameContract

variable {ns : Namespace} {before after : World}

theorem refl (world : World) : SameContract ns world world :=
  ⟨rfl, rfl, rfl⟩

theorem trans {third : World} (left : SameContract ns before after)
    (right : SameContract ns after third) : SameContract ns before third :=
  ⟨right.contract.trans left.contract, right.snapshot.trans left.snapshot,
    right.previous.trans left.previous⟩

end SameContract

section Writes

variable {ns : Namespace} {record current : ToolsetRecord}
  {before after : World}

theorem Untouched.sameContract (untouched : Untouched before after) :
    SameContract ns before after := by
  refine ⟨?_, untouched.snapshots ns, untouched.previousSnapshots ns⟩
  unfold World.contract
  rw [untouched.records]

/-- Storing a record with the contract the stored one has. -/
theorem Wrote.sameContract (wrote : Wrote ns record before after)
    (stored : before.contract ns = some current.contract)
    (same : record.contract = current.contract) :
    SameContract ns before after := by
  refine ⟨?_, wrote.sameSnapshot, wrote.samePrevious⟩
  rw [World.contract_of_found wrote.written, same, stored]

/-- Other namespaces notice nothing. -/
theorem Confined.sameContract {other : Namespace}
    (confined : Confined ns before after) (different : other ≠ ns) :
    SameContract other before after := by
  refine ⟨?_, confined.snapshots other different,
    confined.previousSnapshots other different⟩
  unfold World.contract
  rw [confined.records other different]

end Writes

/-! ## Changes of the contract -/

/-- What a response says of the caches; an opening retires the snapshot that
was current. -/
inductive CacheEvent where
  | opened (ns : Namespace) (retired : Option SchemaSnapshot)
  | unregistered (ns : Namespace)

/-- The entry's event; an activation or a restore that has `opened` no runtime
is none. -/
def Entry.cacheEvent (before : World) (ns : Namespace) (opened : Bool) :
    Entry → Option CacheEvent
  | .activated _ =>
      if opened then some (.opened ns (before.snapshot ns)) else none
  | .restored _ =>
      if opened then some (.opened ns (before.snapshot ns)) else none
  | .refreshed _ =>
      if opened then some (.opened ns (before.snapshot ns)) else none
  | .unregistered _ => some (.unregistered ns)
  | _ => none

def cacheEvents (before : World) (ns : Namespace) (opened : Bool)
    (entries : List Entry) : List CacheEvent :=
  entries.filterMap (Entry.cacheEvent before ns opened)

section Steps

variable [Platform]

/-- What a stretch makes of the contract, by the events it reports. -/
inductive CacheStep (ns : Namespace) (before after : World) :
    List CacheEvent → Prop where
  | kept (same : SameContract ns before after) :
      CacheStep ns before after []
  | registered
      (missing : before.contract ns = none)
      (written : after.contract ns = some (none, none, 0))
      (snapshot :
        after.document.getSchemaSnapshot ns =
          before.document.getSchemaSnapshot ns)
      (previous :
        after.document.getPreviousSchemaSnapshot ns =
          before.document.getPreviousSchemaSnapshot ns) :
      CacheStep ns before after []
  | opened {record : ToolsetRecord} {snapshot : SchemaSnapshot}
      {previousHash : Option String}
      (captured : Captured ns snapshot)
      (stored : before.contract ns = some record.contract)
      (remembered :
        previousHash = record.schemaHash ∨
          previousHash =
            (before.document.getSchemaSnapshot ns).map
              SchemaSnapshot.schemaHash)
      (written :
        after.contract ns =
          some (some snapshot.schemaHash, previousHash, snapshot.toolCount))
      (replaced : after.document.getSchemaSnapshot ns = some snapshot)
      (retired :
        after.document.getPreviousSchemaSnapshot ns =
          (before.document.getSchemaSnapshot ns).or
            (before.document.getPreviousSchemaSnapshot ns)) :
      CacheStep ns before after
        [.opened ns (before.document.getSchemaSnapshot ns)]
  | unregistered
      (gone : after.contract ns = none)
      (snapshot : after.document.getSchemaSnapshot ns = none)
      (previous : after.document.getPreviousSchemaSnapshot ns = none) :
      CacheStep ns before after [.unregistered ns]

/-! ## Suspended stages -/

/-- A refresh remembers the hash of the cached snapshot. -/
def Opening.Recalls (world : World) (ns : Namespace) : Opening → Prop
  | .refresh _ _ oldHash =>
      oldHash =
        (world.document.getSchemaSnapshot ns).map SchemaSnapshot.schemaHash
  | _ => True

/-- The contract in the locals of the stage is the one of the document. -/
def Stage.Recalls (world : World) (ns : Namespace) : Stage → Prop
  | .opening purpose record _ =>
      world.contract ns = some record.contract ∧ purpose.Recalls world ns
  | .swapping _ purpose record snapshot =>
      world.contract ns = some record.contract ∧
        purpose.Recalls world ns ∧ Captured ns snapshot
  | .deactivating _ _ _ record => world.contract ns = some record.contract
  | _ => True

def Progress.Recalls (world : World) (ns : Namespace) : Progress → Prop
  | .inside stage => stage.Recalls world ns
  | .left _ => True

omit [Platform] in
theorem Opening.Recalls.same {ns : Namespace} {before after : World}
    {opening : Opening} (recalls : opening.Recalls before ns)
    (same : SameContract ns before after) : opening.Recalls after ns := by
  cases opening with
  | activate scope =>
      trivial
  | restore candidates startup =>
      trivial
  | refresh scope previousTools oldHash =>
      unfold Opening.Recalls
      rw [same.snapshot]
      exact recalls

theorem Stage.Recalls.same {ns : Namespace} {before after : World}
    {stage : Stage} (recalls : stage.Recalls before ns)
    (same : SameContract ns before after) : stage.Recalls after ns := by
  cases stage with
  | opening opening record runtime =>
      exact ⟨same.contract.trans recalls.1, recalls.2.same same⟩
  | swapping closing opening record snapshot =>
      exact ⟨same.contract.trans recalls.1, recalls.2.1.same same,
        recalls.2.2⟩
  | deactivating closing scope force record =>
      exact same.contract.trans recalls
  | unregistering closing force =>
      trivial
  | probing scope record runtime =>
      trivial
  | aborting scope record runtime =>
      trivial
  | unhealthy closing scope record exception =>
      trivial

/-- How a stretch ends; `opened` tells whether it was opening a runtime. -/
structure Progress.Caches (ns : Namespace) (opened : Bool)
    (before after : World) (progress : Progress) : Prop where
  recalls : progress.Recalls after ns
  cached :
    CacheStep ns before after (cacheEvents before ns opened progress.entries)

section Records

variable {ns : Namespace} {record : ToolsetRecord} {opening : Opening}

omit [Platform] in
theorem contract_announced :
    (opening.announced record).contract = record.contract := by
  cases opening <;> rfl

omit [Platform] in
theorem contract_failedRecord (error : ErrorInfo) (connected : Bool) :
    (opening.failedRecord record error connected).contract =
      record.contract := by
  cases opening <;> rfl

omit [Platform] in
theorem contract_activateReused (scope : Scope) (now : Time) :
    (activateReused record scope now).contract = record.contract := by
  simp only [activateReused, ToolsetRecord.contract]
  rw [addRecoverableScope_eq, addScope_eq]

omit [Platform] in
theorem contract_restoreReused (scopes : List Scope) (now : Time) :
    (restoreReused record scopes now).contract = record.contract := by
  simp only [restoreReused, ToolsetRecord.contract]
  rw [addScopes_eq]

omit [Platform] in
theorem contract_withoutScope (scope : Scope) :
    (withoutScope record scope).contract = record.contract := by
  rw [withoutScope_eq]
  rfl

omit [Platform] in
theorem contract_unhealthy {current : ToolsetRecord} {connected : Bool}
    (unhealthy : Unhealthy current record connected) :
    record.contract = current.contract := by
  unfold ToolsetRecord.contract
  rw [unhealthy.schemaHash, unhealthy.previousSchemaHash,
    unhealthy.toolCount]

omit [Platform] in
theorem contract_toRecord {registration : Registration}
    {transport : ToolsetTransport}
    (accepted : registration.toRecord ns transport = .ok record) :
    record.contract = (none, none, 0) := by
  obtain ⟨unused, _⟩ := validated_of_toRecord accepted
  unfold ToolsetRecord.contract
  rw [unused.schemaHash, unused.previousSchemaHash, unused.toolCount]

omit [Platform] in
theorem contract_completedRecord (snapshot : SchemaSnapshot) (now : Time) :
    (opening.completedRecord record snapshot now).contract =
      (some snapshot.schemaHash, opening.previousHash record,
        snapshot.toolCount) := by
  have records := @records_completedRecord record opening snapshot now
  unfold ToolsetRecord.contract
  rw [records.schemaHash, records.previousSchemaHash, records.toolCount]

theorem cacheEvent_completedEntry (before : World)
    (snapshot : SchemaSnapshot) :
    (opening.completedEntry ns record snapshot).cacheEvent before ns true =
      some (.opened ns (before.document.getSchemaSnapshot ns)) := by
  cases opening <;> rfl

/-- The end of an opening that succeeds. -/
theorem caches_completed {before middle after : World}
    {snapshot : SchemaSnapshot} {now : Time}
    (same : SameContract ns before middle)
    (stored : before.contract ns = some record.contract)
    (recalls : opening.Recalls before ns)
    (captured : Captured ns snapshot)
    (installed :
      Installed ns (opening.completedRecord record snapshot now) snapshot
        middle after) :
    (Progress.left
      [opening.completedEntry ns
        (opening.completedRecord record snapshot now)
        snapshot]).Caches ns true before after := by
  refine ⟨trivial, ?_⟩
  have written := World.contract_of_found installed.written
  rw [contract_completedRecord] at written
  have retired := installed.retired
  rw [same.snapshot, same.previous] at retired
  have remembered :
      opening.previousHash record = record.schemaHash ∨
        opening.previousHash record =
          (before.document.getSchemaSnapshot ns).map
            SchemaSnapshot.schemaHash := by
    cases opening with
    | activate scope =>
        exact .inl rfl
    | restore candidates startup =>
        exact .inl rfl
    | refresh scope previousTools oldHash =>
        exact .inr recalls
  have events : cacheEvents before ns true
      (Progress.left
        [opening.completedEntry ns
          (opening.completedRecord record snapshot now)
          snapshot]).entries =
      [.opened ns (before.document.getSchemaSnapshot ns)] := by
    simp [cacheEvents, Progress.entries, cacheEvent_completedEntry]
  rw [events]
  exact .opened captured stored remembered written installed.replaced retired

end Records

/-! ## Every stretch -/

section Stretches

variable {ns : Namespace} {operation : Operation} {world after : World}

theorem SameContract.caches {opened : Bool} {entries : List Entry}
    (same : SameContract ns world after)
    (silent : cacheEvents world ns opened entries = []) :
    (Progress.left entries).Caches ns opened world after := by
  refine ⟨trivial, ?_⟩
  have events :
      cacheEvents world ns opened (Progress.left entries).entries = [] :=
    silent
  rw [events]
  exact .kept same

theorem SameContract.cachesInside {opened : Bool} {stage : Stage}
    (same : SameContract ns world after) (recalls : stage.Recalls after ns) :
    (Progress.inside stage).Caches ns opened world after :=
  ⟨recalls, .kept same⟩

theorem Removed.caches {middle : World} {opened : Bool}
    {entries : List Entry} (removed : Removed ns middle after)
    (reported : Unregisters ns entries) :
    (Progress.left entries).Caches ns opened world after := by
  refine ⟨trivial, ?_⟩
  have gone : after.contract ns = none := by
    unfold World.contract
    rw [removed.records, if_pos rfl]
    rfl
  have events :
      cacheEvents world ns opened (Progress.left entries).entries =
        [.unregistered ns] := by
    rcases reported with same | same
    · rw [same]
      rfl
    · rw [same]
      rfl
  rw [events]
  exact .unregistered gone removed.snapshot removed.previousSnapshot

theorem start_caches (reliable : world.Reliable) (operation : Operation) :
    wp (start operation ns)
      (fun progress after => progress.Caches ns false world after)
      (fun _ after => SameContract ns world after) world := by
  have untouchedCaches : ∀ {after : World} {entry : Entry},
      Untouched world after →
      entry.cacheEvent world ns false = none →
      (Progress.left [entry]).Caches ns false world after := by
    intro after entry untouched silent
    exact untouched.sameContract.caches (by simp [cacheEvents, silent])
  cases operation with
  | register transport registration =>
      apply startRegister_rule
      · exact fun _ after untouched => untouchedCaches untouched rfl
      · intro record after missing accepted _ wrote
        have unregistered : world.contract ns = none := by
          simp [World.contract, missing]
        have written := World.contract_of_found wrote.written
        rw [contract_toRecord accepted] at written
        exact ⟨trivial,
          .registered unregistered written wrote.sameSnapshot
            wrote.samePrevious⟩
      · exact fun _ _ _ _ _ _ unreliable => absurd reliable unreliable
      · exact fun _ _ unreliable => absurd reliable unreliable
  | activate scope ifNotLoaded =>
      apply startActivate_rule
      · exact fun _ after untouched => untouchedCaches untouched rfl
      · intro record _ _ _ _
        exact (SameContract.refl world).caches rfl
      · intro record runtime now result after found _ _ _ _ wrote
        have stored := World.contract_of_found found
        exact (wrote.sameContract stored
          (contract_activateReused scope now)).caches rfl
      · intro record now exception after found _ _ wrote
        have stored := World.contract_of_found found
        exact wrote.sameContract stored (contract_activateReused scope now)
      · intro record after found _ _ _ wrote
        have stored := World.contract_of_found found
        have same := wrote.sameContract stored contract_announced
        have recalled := World.contract_of_found wrote.written
        exact SameContract.cachesInside ⟨same.contract, same.snapshot,
          same.previous⟩ ⟨recalled, trivial⟩
      · exact fun _ _ _ unreliable => absurd reliable unreliable
      · exact fun _ _ _ unreliable => absurd reliable unreliable
  | refresh ifStale scope =>
      apply startRefresh_rule
      · rintro _ after untouched (⟨_, rfl⟩ | ⟨_, _, rfl⟩)
        · exact untouchedCaches untouched rfl
        · exact untouchedCaches untouched rfl
      · intro record found _
        have stored := World.contract_of_found found
        have same : SameContract ns world (world.spawnRuntime ns) :=
          ⟨rfl, rfl, rfl⟩
        exact same.cachesInside ⟨stored, rfl⟩
      · exact fun _ _ _ unreliable => absurd reliable unreliable
  | deactivate scope force =>
      apply startDeactivate_rule
      · rintro _ after untouched (⟨_, rfl⟩ | rfl)
        · exact untouchedCaches untouched rfl
        · exact untouchedCaches untouched rfl
      · intro record after found _ _ wrote
        have stored := World.contract_of_found found
        exact (wrote.sameContract stored
          (contract_withoutScope scope)).caches rfl
      · intro record after found _ _ _ wrote
        have stored := World.contract_of_found found
        exact (wrote.sameContract stored
          (contract_withoutScope scope)).caches rfl
      · intro record existing found _ _ _ _
        have stored := World.contract_of_found found
        rw [← contract_withoutScope scope] at stored
        have same : SameContract ns world
            ((world.unmount ns).markClosed existing) := ⟨rfl, rfl, rfl⟩
        exact same.cachesInside stored
      · exact fun _ _ _ unreliable => absurd reliable unreliable
  | restore stableHostIdentity startup =>
      apply startRestore_rule
      · rintro _ after untouched (⟨_, rfl⟩ | ⟨_, _, rfl⟩)
        · exact untouchedCaches untouched rfl
        · exact untouchedCaches untouched rfl
      · intro record runtime now missing result after found _ _ _ _ wrote
        have stored := World.contract_of_found found
        exact (wrote.sameContract stored
          (contract_restoreReused missing now)).caches rfl
      · intro record now missing exception after found _ _ _ wrote
        have stored := World.contract_of_found found
        exact wrote.sameContract stored (contract_restoreReused missing now)
      · intro record candidates after found _ _ _ wrote
        have stored := World.contract_of_found found
        have same := wrote.sameContract stored contract_announced
        have recalled := World.contract_of_found wrote.written
        exact SameContract.cachesInside ⟨same.contract, same.snapshot,
          same.previous⟩ ⟨recalled, trivial⟩
      · exact fun _ _ _ _ unreliable => absurd reliable unreliable
      · exact fun _ _ _ unreliable => absurd reliable unreliable
  | checkHealth scope =>
      apply startCheckHealth_rule
      · rintro _ after untouched (⟨_, rfl⟩ | ⟨_, _, rfl⟩)
        · exact untouchedCaches untouched rfl
        · exact untouchedCaches untouched rfl
      · exact fun _ _ _ _ => (SameContract.refl world).cachesInside trivial
      · intro record result final after found _ _ unhealthy wrote
        have stored := World.contract_of_found found
        exact (wrote.sameContract stored
          (contract_unhealthy unhealthy)).caches rfl
      · exact fun _ _ _ unreliable => absurd reliable unreliable
  | clearStale =>
      apply startClearStale_rule
      · rintro _ after untouched (⟨_, rfl⟩ | rfl)
        · exact untouchedCaches untouched rfl
        · exact untouchedCaches untouched rfl
      · intro record result after found _ wrote
        have stored := World.contract_of_found found
        exact (wrote.sameContract stored rfl).caches rfl
      · exact fun _ _ _ unreliable => absurd reliable unreliable
  | markStale reason =>
      apply startMarkStale_rule
      · exact fun _ => (SameContract.refl world).caches rfl
      · intro record after found wrote
        have stored := World.contract_of_found found
        exact (wrote.sameContract stored rfl).caches rfl
      · exact fun _ _ _ unreliable => absurd reliable unreliable
  | unregister force =>
      apply startUnregister_rule
      · exact fun _ after untouched => untouchedCaches untouched rfl
      · exact fun record entries after _ _ removed reported =>
          removed.caches reported
      · intro record existing _ _ _
        have same : SameContract ns world
            ((world.unmount ns).markClosed existing) := ⟨rfl, rfl, rfl⟩
        exact same.cachesInside trivial
      · exact fun _ _ unreliable => absurd reliable unreliable

/-- The stages in which a runtime is being opened. -/
def Stage.opens : Stage → Bool
  | .opening .. => true
  | .swapping .. => true
  | _ => false

theorem resume_caches (reliable : world.Reliable) {stage : Stage}
    (recalls : stage.Recalls world ns) (proper : stage.Proper world ns)
    (reply : Reply) :
    wp (resume ns stage reply)
      (fun progress after => progress.Caches ns stage.opens world after)
      (fun _ after => SameContract ns world after) world := by
  have asBefore : ∀ {runtime : RuntimeId},
      SameContract ns world (world.markDone runtime) := ⟨rfl, rfl, rfl⟩
  have disconnected : ∀ {existing : RuntimeId},
      SameContract ns world ((world.unmount ns).markClosed existing) :=
    ⟨rfl, rfl, rfl⟩
  cases stage with
  | opening opening record runtime =>
      obtain ⟨stored, purpose⟩ := recalls
      apply resumeOpening_rule proper.1
      · exact fun _ => .refl world
      · intro exception after _ wrote
        have same := asBefore.trans
          (wrote.sameContract stored (contract_failedRecord _ _))
        exact same.caches rfl
      · intro tools snapshot existing _ _ captured _
        have same : SameContract ns world
            ((landed world ns runtime tools).markClosed existing) :=
          ⟨rfl, rfl, rfl⟩
        exact same.cachesInside
          ⟨stored, purpose.same same, captured.toCaptured⟩
      · intro tools snapshot now after _ _ captured _ installed
        have same : SameContract ns world (landed world ns runtime tools) :=
          ⟨rfl, rfl, rfl⟩
        exact caches_completed same stored purpose captured.toCaptured
          installed
      · exact fun _ _ _ _ _ _ _ _ _ unreliable => absurd reliable unreliable
      · exact fun _ _ unreliable => absurd reliable unreliable
  | swapping closing opening record snapshot =>
      obtain ⟨stored, purpose, captured⟩ := recalls
      apply resumeSwapping_rule proper.1 proper.2.1
      · exact fun _ => asBefore
      · intro exception after _ wrote
        have same := asBefore.trans
          (wrote.sameContract stored (contract_failedRecord _ _))
        exact same.caches rfl
      · intro now after _ installed
        exact caches_completed asBefore stored purpose captured installed
      · exact fun _ _ _ _ unreliable => absurd reliable unreliable
      · exact fun _ _ _ unreliable => absurd reliable unreliable
  | deactivating closing scope force record =>
      apply resumeDeactivating_rule proper.1
      · intro after _ wrote
        have same := asBefore.trans (wrote.sameContract recalls rfl)
        exact same.caches rfl
      · exact fun _ _ => asBefore
      · exact fun _ _ _ unreliable => absurd reliable unreliable
  | unregistering closing force =>
      apply resumeUnregistering_rule
      · exact fun entries after removed reported =>
          removed.caches reported
      · exact fun _ _ => asBefore
      · exact fun _ _ unreliable => absurd reliable unreliable
  | probing scope record runtime =>
      apply resumeProbing_rule
      · intro current hash count now result after found _ _ _ wrote
        have stored := World.contract_of_found found
        exact (wrote.sameContract stored rfl).caches rfl
      · intro _
        have same : SameContract ns world (world.markClosed runtime) :=
          ⟨rfl, rfl, rfl⟩
        exact same.cachesInside trivial
      · exact fun _ _ _ _ => disconnected.cachesInside trivial
      · exact fun _ _ => .refl world
      · intro current result final after found _ _ unhealthy wrote
        have stored := World.contract_of_found found
        exact (wrote.sameContract stored
          (contract_unhealthy unhealthy)).caches rfl
      · exact fun _ => .refl world
      · exact fun _ _ _ unreliable => absurd reliable unreliable
  | aborting scope record runtime =>
      apply resumeAborting_rule
      · intro exception existing _
        have same : SameContract ns world
            (((world.markDone runtime).unmount ns).markClosed existing) :=
          ⟨rfl, rfl, rfl⟩
        exact same.cachesInside trivial
      · exact fun _ _ => asBefore
      · intro current result final after found _ _ unhealthy wrote
        have stored := World.contract_of_found found
        have same := asBefore.trans
          (wrote.sameContract stored (contract_unhealthy unhealthy))
        exact same.caches rfl
      · exact fun _ => asBefore
      · exact fun _ _ _ unreliable => absurd reliable unreliable
  | unhealthy closing scope record exception =>
      apply resumeUnhealthy_rule
      · exact fun _ _ _ => asBefore
      · intro current result final after found _ _ unhealthy wrote
        have stored := World.contract_of_found found
        have same := asBefore.trans
          (wrote.sameContract stored (contract_unhealthy unhealthy))
        exact same.caches rfl
      · exact fun _ _ => asBefore
      · exact fun _ _ _ unreliable => absurd reliable unreliable

end Stretches

end Steps

/-! ## Calls -/

section Calls

variable {tool : MountedTool} {world : World}

/-- No namespace has its contract changed. -/
def SameContracts (before after : World) : Prop :=
  ∀ ns, SameContract ns before after

theorem SameContracts.trans {first second third : World}
    (left : SameContracts first second)
    (right : SameContracts second third) : SameContracts first third :=
  fun ns => (left ns).trans (right ns)

theorem finishCallFailure_contracts (reliable : world.Reliable)
    (exception : PyException) :
    wp (finishCallFailure tool exception)
      (fun _ after => SameContracts world after)
      (fun _ after => SameContracts world after) world := by
  apply finishCallFailure_rule
  · exact fun _ after untouched ns => untouched.sameContract
  · intro current reason error after found wrote ns
    by_cases same : ns = tool.ns
    · subst same
      exact wrote.sameContract (World.contract_of_found found) rfl
    · refine ⟨?_, wrote.snapshots ns same, wrote.previousSnapshots ns same⟩
      unfold World.contract
      rw [wrote.records ns same]
  · exact fun _ _ _ _ unreliable => absurd reliable unreliable

theorem callFailed_contracts (reliable : world.Reliable)
    (exception : PyException) :
    wp (callFailed tool exception)
      (fun _ after => SameContracts world after)
      (fun _ after => SameContracts world after) world := by
  apply callFailed_rule
  · exact fun existing _ ns => ⟨rfl, rfl, rfl⟩
  · exact fun _ => finishCallFailure_contracts reliable exception

theorem dispatchCall_contracts (reliable : world.Reliable) :
    wp (dispatchCall tool)
      (fun _ after => SameContracts world after)
      (fun _ after => SameContracts world after) world := by
  apply dispatchCall_rule
  · exact fun _ _ ns => .refl world
  · exact fun _ exception => callFailed_contracts reliable exception

theorem resumeCall_contracts (reliable : world.Reliable)
    (stage : CallStage) (reply : Except Raised CallToolResult) :
    wp (resumeCall tool stage reply)
      (fun _ after => SameContracts world after)
      (fun _ after => SameContracts world after) world := by
  have asBefore : ∀ {runtime : RuntimeId},
      SameContracts world (world.markDone runtime) :=
    fun _ => ⟨rfl, rfl, rfl⟩
  cases stage with
  | calling runtime =>
      apply resumeCalling_rule
      · exact fun _ _ ns => .refl world
      · exact fun _ _ _ ns => ⟨rfl, rfl, rfl⟩
      · exact fun exception _ _ => callFailed_contracts reliable exception
      · exact fun _ ns => .refl world
  | aborting runtime =>
      apply resumeCallAborting_rule
      · intro exception _
        have stillReliable : (world.markDone runtime).Reliable := reliable
        apply wp_mono (callFailed_contracts stillReliable exception)
        · exact fun _ _ same => asBefore.trans same
        · exact fun _ _ same => asBefore.trans same
      · exact fun _ => asBefore
  | disconnecting closing exception =>
      apply resumeCallDisconnecting_rule
      · intro _
        have stillReliable : (world.markDone closing.runtime).Reliable :=
          reliable
        apply wp_mono (finishCallFailure_contracts stillReliable exception)
        · exact fun _ _ same => asBefore.trans same
        · exact fun _ _ same => asBefore.trans same
      · exact fun _ _ => asBefore

end Calls

end ToolboxMcp
