import ToolboxMcp.Service.Confinement

/-!
# What a stretch does to the scope lists

The terms of a namespace are the scope policy of its record and the hash of its
contract.  Every stretch either leaves them alone or makes one of five changes,
and reports it; `ScopeStep` lists them.  A namespace with a mounted runtime has
loaded scopes and a contract, which needs the locals of suspended stages to
mirror the document.
-/

namespace ToolboxMcp

open Effect

/-- The scope policy and the contract the record stands for. -/
def ToolsetRecord.terms (record : ToolsetRecord) :
    ScopePolicy × Option String :=
  (scopePolicy record, record.schemaHash)

theorem ToolsetRecord.terms_eq {left right : ToolsetRecord} :
    left.terms = right.terms ↔
      scopePolicy left = scopePolicy right ∧
        left.schemaHash = right.schemaHash := by
  simp [ToolsetRecord.terms]

namespace World

def terms (world : World) (ns : Namespace) :
    Option (ScopePolicy × Option String) :=
  (world.document.getToolset ns).map ToolsetRecord.terms

def policy (world : World) (ns : Namespace) : Option ScopePolicy :=
  (world.document.getToolset ns).map scopePolicy

/-- The record has the terms of the stored one. -/
def Mirrors (world : World) (ns : Namespace) (record : ToolsetRecord) :
    Prop :=
  world.terms ns = some record.terms

/-- If a runtime is mounted, dead or alive, the namespace has a record with
loaded scopes and a contract. -/
def Active (world : World) (ns : Namespace) : Prop :=
  world.runtimes.get ns ≠ none →
    ∃ record,
      world.Mirrors ns record ∧ record.loadedScopes ≠ [] ∧
        record.schemaHash ≠ none

theorem mirrors_of_found {world : World} {ns : Namespace}
    {record : ToolsetRecord}
    (found : world.document.getToolset ns = some record) :
    world.Mirrors ns record := by
  simp [Mirrors, terms, found]

theorem policy_of_terms {before after : World} {ns : Namespace}
    (same : after.terms ns = before.terms ns) :
    after.policy ns = before.policy ns := by
  have projected : ∀ world : World,
      world.policy ns = (world.terms ns).map Prod.fst := by
    intro world
    simp [policy, terms, ToolsetRecord.terms, Function.comp_def]
  rw [projected, projected, same]

theorem Mirrors.policy {world : World} {ns : Namespace}
    {record : ToolsetRecord} (mirrors : world.Mirrors ns record) :
    world.policy ns = some (scopePolicy record) := by
  obtain ⟨current, found, same⟩ := Option.map_eq_some_iff.mp mirrors
  simp [World.policy, found, (ToolsetRecord.terms_eq.mp same).1]

theorem Mirrors.found {world : World} {ns : Namespace}
    {record : ToolsetRecord} (mirrors : world.Mirrors ns record) :
    ∃ current,
      world.document.getToolset ns = some current ∧
        scopePolicy current = scopePolicy record ∧
        current.schemaHash = record.schemaHash := by
  obtain ⟨current, found, same⟩ := Option.map_eq_some_iff.mp mirrors
  exact ⟨current, found, ToolsetRecord.terms_eq.mp same⟩

theorem Active.loaded {world : World} {ns : Namespace}
    {record : ToolsetRecord} (active : world.Active ns)
    (mounted : world.runtimes.get ns ≠ none)
    (mirrors : world.Mirrors ns record) :
    record.loadedScopes ≠ [] ∧ record.schemaHash ≠ none := by
  obtain ⟨other, same, loaded, hashed⟩ := active mounted
  have equal : other.terms = record.terms :=
    Option.some.inj (same.symm.trans mirrors)
  obtain ⟨policy, hash⟩ := ToolsetRecord.terms_eq.mp equal
  rw [(scopePolicy_eq.mp policy).2.1] at loaded
  rw [hash] at hashed
  exact ⟨loaded, hashed⟩

end World

/-! ## Changes of the scope lists -/

/-- The entries that report a change of scope lists. -/
def Entry.movesScopes : Entry → Bool
  | .registered _ => true
  | .activated _ => true
  | .deactivated .. => true
  | .restored _ => true
  | .unregistered _ => true
  | _ => false

def Progress.entries : Progress → List Entry
  | .inside _ => []
  | .left entries => entries

/-- What a stretch of the operation makes of the scope policy of its namespace,
and the entries it reports. -/
inductive ScopeStep (ns : Namespace) (operation : Operation)
    (before after : World) : List Entry → Prop where
  | kept {entries : List Entry}
      (silent : ∀ entry ∈ entries, entry.movesScopes = false)
      (same : after.policy ns = before.policy ns) :
      ScopeStep ns operation before after entries
  | registered {record : ToolsetRecord} {transport : ToolsetTransport}
      {registration : Registration}
      (asked : operation = .register transport registration)
      (missing : before.policy ns = none)
      (accepted : registration.toRecord ns transport = .ok record)
      (written : after.policy ns = some (scopePolicy record)) :
      ScopeStep ns operation before after [.registered record]
  | activated {record : ToolsetRecord} {result : ActivationResult}
      {ifNotLoaded : Bool}
      (asked : operation = .activate result.scope ifNotLoaded)
      (subject : result.ns = ns)
      (stored : before.policy ns = some (scopePolicy record))
      (supported : result.scope ∈ record.supportedScopes)
      (written :
        after.policy ns =
          some (scopePolicy (activated record result.scope))) :
      ScopeStep ns operation before after [.activated result]
  | restored {record : ToolsetRecord} {result : RestoreResult}
      {identity startup : Bool}
      (asked : operation = .restore identity startup)
      (subject : result.ns = ns)
      (stored : before.policy ns = some (scopePolicy record))
      (offered : recoveryScopes record identity (!startup) ≠ [])
      (written :
        after.policy ns =
          some (scopePolicy
            (addScopes record
              (recoveryScopes record identity (!startup))))) :
      ScopeStep ns operation before after [.restored result]
  | deactivated {record : ToolsetRecord} {scope : Scope} {force : Bool}
      {remaining : List Scope}
      (asked : operation = .deactivate scope force)
      (stored : before.policy ns = some (scopePolicy record))
      (loaded : scope ∈ record.loadedScopes)
      (written :
        after.policy ns = some (scopePolicy (withoutScope record scope))) :
      ScopeStep ns operation before after [.deactivated ns scope remaining]
  | unregistered {entries : List Entry} {force : Bool}
      (asked : operation = .unregister force)
      (reported : Unregisters ns entries)
      (gone : after.policy ns = none) :
      ScopeStep ns operation before after entries

/-! ## Suspended stages -/

/-- The opening is the operation's, and it has passed the operation's checks on
the record. -/
def Opening.Follows (operation : Operation) (record : ToolsetRecord) :
    Opening → Prop
  | .activate scope =>
      scope ∈ record.supportedScopes ∧
        ∃ ifNotLoaded, operation = .activate scope ifNotLoaded
  | .restore candidates startup =>
      candidates ≠ [] ∧
        ∃ identity,
          operation = .restore identity startup ∧
            candidates = recoveryScopes record identity (!startup)
  | .refresh scope _ _ =>
      record.loadedScopes ≠ [] ∧
        ∃ ifStale, operation = .refresh ifStale scope

/-- The locals of the stage agree with the document and the runtimes. -/
def Stage.Tracks (operation : Operation) (world : World) (ns : Namespace) :
    Stage → Prop
  | .opening purpose record _ =>
      world.Mirrors ns record ∧ purpose.Follows operation record
  | .swapping _ purpose record _ =>
      world.Mirrors ns record ∧ purpose.Follows operation record
  | .deactivating _ scope force record =>
      operation = .deactivate scope force ∧ record.loadedScopes = [] ∧
        world.runtimes.get ns = none ∧
        ∃ current,
          world.Mirrors ns current ∧ scope ∈ current.loadedScopes ∧
            record = withoutScope current scope
  | .unregistering _ force =>
      operation = .unregister force ∧ world.runtimes.get ns = none
  | _ => True

def Progress.Tracks (operation : Operation) (world : World)
    (ns : Namespace) : Progress → Prop
  | .inside stage => stage.Tracks operation world ns
  | .left _ => True

/-- The terms of the namespace are as before, and nothing is mounted that was
not mounted. -/
structure Gentle (ns : Namespace) (before after : World) : Prop where
  terms : after.terms ns = before.terms ns
  unmounted :
    before.runtimes.get ns = none → after.runtimes.get ns = none

namespace Gentle

variable {ns : Namespace} {before after : World}

theorem refl (world : World) : Gentle ns world world :=
  ⟨rfl, id⟩

theorem trans {third : World} (left : Gentle ns before after)
    (right : Gentle ns after third) : Gentle ns before third :=
  ⟨right.terms.trans left.terms,
    fun missing => right.unmounted (left.unmounted missing)⟩

theorem active (gentle : Gentle ns before after)
    (active : before.Active ns) : after.Active ns := by
  intro mounted
  have earlier : before.runtimes.get ns ≠ none :=
    fun missing => mounted (gentle.unmounted missing)
  obtain ⟨record, mirrors, holds⟩ := active earlier
  exact ⟨record, gentle.terms.trans mirrors, holds⟩

theorem tracks {operation : Operation} {stage : Stage}
    (gentle : Gentle ns before after)
    (tracks : stage.Tracks operation before ns) :
    stage.Tracks operation after ns := by
  cases stage with
  | opening opening record runtime =>
      exact ⟨gentle.terms.trans tracks.1, tracks.2⟩
  | swapping closing opening record snapshot =>
      exact ⟨gentle.terms.trans tracks.1, tracks.2⟩
  | deactivating closing scope force record =>
      obtain ⟨asked, empty, unmounted, current, mirrors, rest⟩ := tracks
      exact ⟨asked, empty, gentle.unmounted unmounted, current,
        gentle.terms.trans mirrors, rest⟩
  | unregistering closing force =>
      exact ⟨tracks.1, gentle.unmounted tracks.2⟩
  | probing scope record runtime =>
      trivial
  | aborting scope record runtime =>
      trivial
  | unhealthy closing scope record exception =>
      trivial

end Gentle

section Writes

variable {ns : Namespace} {record current : ToolsetRecord}
  {before after : World}

theorem Untouched.gentle (untouched : Untouched before after) :
    Gentle ns before after := by
  constructor
  · unfold World.terms
    rw [untouched.records]
  · rw [untouched.runtimes]
    exact id

theorem Wrote.mirrors (wrote : Wrote ns record before after) :
    after.Mirrors ns record :=
  World.mirrors_of_found wrote.written

/-- Storing a record with the terms the stored one has. -/
theorem Wrote.gentle (wrote : Wrote ns record before after)
    (mirrors : before.Mirrors ns current)
    (same : record.terms = current.terms) : Gentle ns before after := by
  constructor
  · have stored : after.terms ns = some record.terms := wrote.mirrors
    rw [stored, same]
    exact mirrors.symm
  · rw [wrote.runtimes]
    exact id

theorem Removed.policy (removed : Removed ns before after) :
    after.policy ns = none := by
  unfold World.policy
  rw [removed.records, if_pos rfl]
  rfl

/-- Other namespaces notice nothing. -/
theorem Confined.gentle {other : Namespace}
    (confined : Confined ns before after) (different : other ≠ ns) :
    Gentle other before after := by
  constructor
  · unfold World.terms
    rw [confined.records other different]
  · rw [confined.runtimes other different]
    exact id

end Writes

/-- How a stretch ends: the locals of the stage it is suspended at, the
namespace, and the change it has reported. -/
structure Progress.Settles (ns : Namespace) (operation : Operation)
    (before after : World) (progress : Progress) : Prop where
  tracks : progress.Tracks operation after ns
  active : after.Active ns
  scopes : ScopeStep ns operation before after progress.entries

/-- An exception leaves the terms alone. -/
structure SettlesRaised (ns : Namespace) (operation : Operation)
    (before after : World) : Prop where
  active : after.Active ns
  scopes : ScopeStep ns operation before after []

section Records

variable {ns : Namespace} {record : ToolsetRecord} {operation : Operation}
  {opening : Opening}

theorem terms_announced :
    (opening.announced record).terms = record.terms := by
  cases opening <;> rfl

theorem terms_failedRecord (error : ErrorInfo) (connected : Bool) :
    (opening.failedRecord record error connected).terms = record.terms := by
  cases opening <;> rfl

theorem Unhealthy.terms {current : ToolsetRecord} {connected : Bool}
    (unhealthy : Unhealthy current record connected) :
    record.terms = current.terms :=
  ToolsetRecord.terms_eq.mpr ⟨unhealthy.policy, unhealthy.schemaHash⟩

theorem policy_restoreReused (scopes : List Scope) (now : Time) :
    scopePolicy (restoreReused record scopes now) =
      scopePolicy (addScopes record scopes) :=
  rfl

/-- Every completed opening leaves loaded scopes behind. -/
theorem Opening.Follows.loaded (follows : opening.Follows operation record)
    (snapshot : SchemaSnapshot) (now : Time) :
    (opening.completedRecord record snapshot now).loadedScopes ≠ [] := by
  cases opening with
  | activate scope =>
      have present :
          scope ∈ (activated
            { installed record snapshot record.schemaHash now with
              lastActivatedAt := some now } scope).loadedScopes :=
        (mem_activated_loaded _ _ _).mpr (.inl rfl)
      exact List.ne_nil_of_mem present
  | restore candidates startup =>
      obtain ⟨scope, offered⟩ := List.exists_mem_of_ne_nil _ follows.1
      have present :
          scope ∈ (addScopes
            { installed record snapshot record.schemaHash now with
              lastRestoredAt := some now } candidates).loadedScopes :=
        (mem_addScopes _ _ _).mpr (.inl offered)
      exact List.ne_nil_of_mem present
  | refresh scope previousTools oldHash =>
      exact follows.1

/-- The change a completed opening makes. -/
theorem Opening.Follows.scopeStep [Platform] {before after : World}
    {snapshot : SchemaSnapshot} {now : Time}
    (follows : opening.Follows operation record)
    (mirrors : before.Mirrors ns record)
    (written :
      after.Mirrors ns (opening.completedRecord record snapshot now)) :
    ScopeStep ns operation before after
      [opening.completedEntry ns
        (opening.completedRecord record snapshot now) snapshot] := by
  have stored := mirrors.policy
  have result := written.policy
  cases opening with
  | activate scope =>
      obtain ⟨supported, ifNotLoaded, asked⟩ := follows
      refine .activated asked rfl stored supported (result.trans ?_)
      exact congrArg some (activated_congr scope rfl)
  | restore candidates startup =>
      obtain ⟨offered, identity, asked, rfl⟩ := follows
      refine .restored asked rfl stored offered (result.trans ?_)
      have sameScopes :
          scopePolicy
              { installed record snapshot record.schemaHash now with
                lastRestoredAt := some now } = scopePolicy record :=
        rfl
      exact congrArg some (addScopes_congr sameScopes _)
  | refresh scope previousTools oldHash =>
      refine .kept ?_ (result.trans stored.symm)
      simp [Opening.completedEntry, Entry.movesScopes]

end Records

/-! ## Every stretch -/

section Stretches

variable {ns : Namespace} {operation : Operation} {world after : World}

theorem Gentle.settles {entries : List Entry} (gentle : Gentle ns world after)
    (active : world.Active ns)
    (silent : ∀ entry ∈ entries, entry.movesScopes = false) :
    (Progress.left entries).Settles ns operation world after :=
  ⟨trivial, gentle.active active,
    .kept silent (World.policy_of_terms gentle.terms)⟩

theorem Untouched.settles {entry : Entry} (untouched : Untouched world after)
    (active : world.Active ns) (silent : entry.movesScopes = false) :
    (Progress.left [entry]).Settles ns operation world after :=
  untouched.gentle.settles active (by simpa using silent)

theorem Gentle.settlesInside {stage : Stage} (gentle : Gentle ns world after)
    (active : world.Active ns)
    (tracks : stage.Tracks operation after ns) :
    (Progress.inside stage).Settles ns operation world after :=
  ⟨tracks, gentle.active active,
    .kept (by simp [Progress.entries]) (World.policy_of_terms gentle.terms)⟩

theorem Gentle.settlesRaised (gentle : Gentle ns world after)
    (active : world.Active ns) : SettlesRaised ns operation world after :=
  ⟨gentle.active active,
    .kept (by simp) (World.policy_of_terms gentle.terms)⟩

theorem World.active_of_unmounted (unmounted : world.runtimes.get ns = none) :
    world.Active ns :=
  fun mounted => absurd unmounted mounted

/-- Nothing is mounted on an unregistered namespace. -/
theorem World.Active.unmounted (active : world.Active ns)
    (missing : world.document.getToolset ns = none) :
    world.runtimes.get ns = none := by
  by_contra mounted
  obtain ⟨record, mirrors, _⟩ := active mounted
  obtain ⟨current, found, _⟩ := mirrors.found
  rw [missing] at found
  cases found

theorem Gentle.spawned (gentle : Gentle ns world after) :
    Gentle ns world (after.spawnRuntime ns) :=
  ⟨gentle.terms, gentle.unmounted⟩

theorem gentle_disconnected (existing : RuntimeId) :
    Gentle ns world ((world.unmount ns).markClosed existing) :=
  ⟨rfl, fun _ => by simp [Dict.get_pop]⟩

theorem unmounted_disconnected (existing : RuntimeId) :
    ((world.unmount ns).markClosed existing).runtimes.get ns = none := by
  simp [Dict.get_pop]

variable [Platform]

theorem startRegister_settles (reliable : world.Reliable)
    (active : world.Active ns) (transport : ToolsetTransport)
    (registration : Registration) :
    wp (startRegister ns transport registration)
      (fun progress after =>
        progress.Settles ns (.register transport registration) world after)
      (fun _ after =>
        SettlesRaised ns (.register transport registration) world
          after) world := by
  apply startRegister_rule
  · exact fun _ after untouched => untouched.settles active rfl
  · intro record after missing accepted _ wrote
    have unmounted := active.unmounted missing
    have stillUnmounted : after.runtimes.get ns = none := by
      rw [wrote.runtimes]
      exact unmounted
    have unregistered : world.policy ns = none := by
      simp [World.policy, missing]
    exact ⟨trivial, World.active_of_unmounted stillUnmounted,
      .registered rfl unregistered accepted wrote.mirrors.policy⟩
  · exact fun _ _ _ _ _ _ unreliable => absurd reliable unreliable
  · exact fun _ _ unreliable => absurd reliable unreliable

theorem startActivate_settles (reliable : world.Reliable)
    (active : world.Active ns) (scope : Scope)
    (ifNotLoaded : Bool) :
    wp (startActivate ns scope ifNotLoaded)
      (fun progress after =>
        progress.Settles ns (.activate scope ifNotLoaded) world after)
      (fun _ after =>
        SettlesRaised ns (.activate scope ifNotLoaded) world after) world := by
  have running : ∀ {record : ToolsetRecord},
      reusableRuntime world ns record scope ≠ none →
      world.runtimes.get ns ≠ none := by
    intro record reusable unmounted
    have absent : world.runtimeFor ns = none := by
      simp [World.runtimeFor, unmounted]
    exact reusable (by simp [reusableRuntime, absent])
  apply startActivate_rule
  · exact fun _ after untouched => untouched.settles active rfl
  · intro record _ _ _ _
    exact (Gentle.refl world).settles active
      (by simp [Entry.movesScopes])
  · intro record runtime now result after found supported reusable
      subject sameScope wrote
    subst sameScope
    have mirrors := World.mirrors_of_found found
    have mounted := running (reusable ▸ Option.some_ne_none runtime)
    have hashed := (active.loaded mounted mirrors).2
    have loaded :
        result.scope ∈
          (activateReused record result.scope now).loadedScopes :=
      (mem_activated_loaded record result.scope _).mpr (.inl rfl)
    refine ⟨trivial, ?_, ?_⟩
    · intro _
      refine ⟨_, wrote.mirrors, List.ne_nil_of_mem loaded, ?_⟩
      rw [schemaHash_activateReused]
      exact hashed
    · exact .activated rfl subject mirrors.policy supported
        wrote.mirrors.policy
  · intro record now exception after found reusable unhashed _
    have mirrors := World.mirrors_of_found found
    exact absurd unhashed (active.loaded (running reusable) mirrors).2
  · intro record after found supported _ _ wrote
    have mirrors := World.mirrors_of_found found
    have gentle := wrote.gentle mirrors terms_announced
    exact gentle.spawned.settlesInside active
      ⟨wrote.mirrors, supported, ifNotLoaded, rfl⟩
  · exact fun _ _ _ unreliable => absurd reliable unreliable
  · exact fun _ _ _ unreliable => absurd reliable unreliable

omit [Platform] in
theorem startDeactivate_settles (reliable : world.Reliable)
    (active : world.Active ns) (scope : Scope)
    (force : Bool) :
    wp (startDeactivate ns scope force)
      (fun progress after =>
        progress.Settles ns (.deactivate scope force) world after)
      (fun _ after =>
        SettlesRaised ns (.deactivate scope force) world after) world := by
  apply startDeactivate_rule
  · rintro _ after untouched (⟨_, rfl⟩ | rfl)
    · exact untouched.settles active rfl
    · exact untouched.settles active rfl
  · intro record after found loaded remaining wrote
    have mirrors := World.mirrors_of_found found
    refine ⟨trivial, ?_, ?_⟩
    · intro mounted
      rw [wrote.runtimes] at mounted
      refine ⟨_, wrote.mirrors, remaining, ?_⟩
      rw [withoutScope_eq]
      exact (active.loaded mounted mirrors).2
    · exact .deactivated rfl mirrors.policy loaded wrote.mirrors.policy
  · intro record after found loaded empty unmounted wrote
    have stillUnmounted : after.runtimes.get ns = none := by
      rw [wrote.runtimes]
      exact unmounted
    exact ⟨trivial, World.active_of_unmounted stillUnmounted,
      .deactivated rfl (World.mirrors_of_found found).policy loaded
        wrote.mirrors.policy⟩
  · intro record existing found loaded empty _ _
    exact (gentle_disconnected existing).settlesInside active
      ⟨rfl, empty, unmounted_disconnected existing, record,
        World.mirrors_of_found found, loaded, rfl⟩
  · exact fun _ _ _ unreliable => absurd reliable unreliable

theorem startRestore_settles (reliable : world.Reliable)
    (active : world.Active ns)
    (stableHostIdentity startup : Bool) :
    wp (startRestore ns stableHostIdentity startup)
      (fun progress after =>
        progress.Settles ns (.restore stableHostIdentity startup) world after)
      (fun _ after =>
        SettlesRaised ns (.restore stableHostIdentity startup) world
          after) world := by
  have running : ∀ {runtime : RuntimeId},
      world.runtimeFor ns = some runtime →
      world.runtimes.get ns ≠ none := by
    intro runtime found unmounted
    simp [World.runtimeFor, unmounted] at found
  apply startRestore_rule
  · rintro _ after untouched (⟨_, rfl⟩ | ⟨_, _, rfl⟩)
    · exact untouched.settles active rfl
    · exact untouched.settles active rfl
  · intro record runtime now missing result after found connected
      missingEq wanting subject wrote
    have mirrors := World.mirrors_of_found found
    have hashed := (active.loaded (running connected) mirrors).2
    have everything :
        addScopes record missing =
          addScopes record
            (recoveryScopes record stableHostIdentity (!startup)) := by
      rw [missingEq]
      exact addScopes_missing record _ _ fun _ => id
    have offered :
        recoveryScopes record stableHostIdentity (!startup) ≠ [] := by
      intro nothing
      rw [nothing] at missingEq
      exact wanting missingEq
    obtain ⟨scope, wanted⟩ := List.exists_mem_of_ne_nil _ wanting
    have loaded :
        scope ∈ (restoreReused record missing now).loadedScopes :=
      (mem_addScopes record scope missing).mpr (.inl wanted)
    refine ⟨trivial, ?_, ?_⟩
    · intro _
      refine ⟨_, wrote.mirrors, List.ne_nil_of_mem loaded, ?_⟩
      rw [schemaHash_restoreReused]
      exact hashed
    · have policy := wrote.mirrors.policy
      rw [policy_restoreReused, everything] at policy
      exact .restored rfl subject mirrors.policy offered policy
  · intro record now missing exception after found connected _ unhashed _
    obtain ⟨runtime, connected⟩ := Option.ne_none_iff_exists'.mp connected
    exact absurd unhashed
      (active.loaded (running connected)
        (World.mirrors_of_found found)).2
  · intro record candidates after found _ candidatesEq offered wrote
    have mirrors := World.mirrors_of_found found
    have gentle := wrote.gentle mirrors terms_announced
    exact gentle.spawned.settlesInside active
      ⟨wrote.mirrors, offered, stableHostIdentity, rfl, candidatesEq⟩
  · exact fun _ _ _ _ unreliable => absurd reliable unreliable
  · exact fun _ _ _ unreliable => absurd reliable unreliable

omit [Platform] in
theorem startUnregister_settles (reliable : world.Reliable)
    (active : world.Active ns) (force : Bool) :
    wp (startUnregister ns force)
      (fun progress after =>
        progress.Settles ns (.unregister force) world after)
      (fun _ after =>
        SettlesRaised ns (.unregister force) world after) world := by
  apply startUnregister_rule
  · exact fun _ after untouched => untouched.settles active rfl
  · intro record entries after found idle removed reported
    have mirrors := World.mirrors_of_found found
    have unmounted : world.runtimes.get ns = none := by
      by_contra mounted
      rcases idle with empty | unmounted
      · exact (active.loaded mounted mirrors).1 empty
      · exact mounted unmounted
    have stillUnmounted : after.runtimes.get ns = none := by
      rw [removed.runtimes]
      exact unmounted
    exact ⟨trivial, World.active_of_unmounted stillUnmounted,
      .unregistered rfl reported removed.policy⟩
  · intro record existing _ _ _
    exact (gentle_disconnected existing).settlesInside active
      ⟨rfl, unmounted_disconnected existing⟩
  · exact fun _ _ unreliable => absurd reliable unreliable

theorem start_settles (reliable : world.Reliable)
    (active : world.Active ns) (operation : Operation) :
    wp (start operation ns)
      (fun progress after => progress.Settles ns operation world after)
      (fun _ after => SettlesRaised ns operation world after) world := by
  cases operation with
  | register transport registration =>
      exact startRegister_settles reliable active transport registration
  | activate scope ifNotLoaded =>
      exact startActivate_settles reliable active scope ifNotLoaded
  | refresh ifStale scope =>
      apply startRefresh_rule
      · rintro _ after untouched (⟨_, rfl⟩ | ⟨_, _, rfl⟩)
        · exact untouched.settles active rfl
        · exact untouched.settles active rfl
      · intro record found loaded
        exact (Gentle.refl world).spawned.settlesInside active
          ⟨World.mirrors_of_found found, loaded, ifStale, rfl⟩
      · exact fun _ _ _ unreliable => absurd reliable unreliable
  | deactivate scope force =>
      exact startDeactivate_settles reliable active scope force
  | restore stableHostIdentity startup =>
      exact startRestore_settles reliable active stableHostIdentity startup
  | checkHealth scope =>
      apply startCheckHealth_rule
      · rintro _ after untouched (⟨_, rfl⟩ | ⟨_, _, rfl⟩)
        · exact untouched.settles active rfl
        · exact untouched.settles active rfl
      · exact fun _ _ _ _ => (Gentle.refl world).settlesInside active trivial
      · intro record result final after found _ _ unhealthy wrote
        have gentle := wrote.gentle (World.mirrors_of_found found)
          unhealthy.terms
        exact gentle.settles active (by simp [Entry.movesScopes])
      · exact fun _ _ _ unreliable => absurd reliable unreliable
  | clearStale =>
      apply startClearStale_rule
      · rintro _ after untouched (⟨_, rfl⟩ | rfl)
        · exact untouched.settles active rfl
        · exact untouched.settles active rfl
      · intro record result after found _ wrote
        have gentle := wrote.gentle (World.mirrors_of_found found) rfl
        exact gentle.settles active (by simp [Entry.movesScopes])
      · exact fun _ _ _ unreliable => absurd reliable unreliable
  | markStale reason =>
      apply startMarkStale_rule
      · intro _
        exact (Gentle.refl world).settles active
          (by simp [Entry.movesScopes])
      · intro record after found wrote
        have gentle := wrote.gentle (World.mirrors_of_found found) rfl
        exact gentle.settles active (by simp [Entry.movesScopes])
      · exact fun _ _ _ unreliable => absurd reliable unreliable
  | unregister force =>
      exact startUnregister_settles reliable active force

theorem resume_settles (reliable : world.Reliable)
    (active : world.Active ns) {stage : Stage}
    (tracks : stage.Tracks operation world ns)
    (proper : stage.Proper world ns) (reply : Reply) :
    wp (resume ns stage reply)
      (fun progress after => progress.Settles ns operation world after)
      (fun _ after => SettlesRaised ns operation world after) world := by
  have asBefore : ∀ {runtime : RuntimeId},
      Gentle ns world (world.markDone runtime) := ⟨rfl, id⟩
  cases stage with
  | opening opening record runtime =>
      obtain ⟨mirrors, follows⟩ := tracks
      have landedMirrors : ∀ tools,
          (landed world ns runtime tools).Mirrors ns record :=
        fun _ => mirrors
      apply resumeOpening_rule proper.1
      · exact fun _ => (Gentle.refl world).settlesRaised active
      · intro exception after _ wrote
        have gentle : Gentle ns world after :=
          asBefore.trans
            (wrote.gentle mirrors (terms_failedRecord _ _))
        exact gentle.settles active (by simp [Entry.movesScopes])
      · intro tools snapshot existing _ _ _ mounted
        have present : world.runtimes.get ns ≠ none := by
          rw [mounted]
          exact Option.some_ne_none existing
        refine ⟨⟨mirrors, follows⟩, ?_, .kept (by simp [Progress.entries]) rfl⟩
        intro _
        exact active present
      · intro tools snapshot now after _ _ _ _ installed
        have written := World.mirrors_of_found installed.written
        refine ⟨trivial, ?_, follows.scopeStep mirrors written⟩
        intro _
        refine ⟨_, written, follows.loaded snapshot now, ?_⟩
        rw [(records_completedRecord _ _ _).schemaHash]
        exact Option.some_ne_none _
      · exact fun _ _ _ _ _ _ _ _ _ unreliable => absurd reliable unreliable
      · exact fun _ _ unreliable => absurd reliable unreliable
  | swapping closing opening record snapshot =>
      obtain ⟨mirrors, follows⟩ := tracks
      apply resumeSwapping_rule proper.1 proper.2.1
      · exact fun _ => asBefore.settlesRaised active
      · intro exception after _ wrote
        have gentle : Gentle ns world after :=
          asBefore.trans
            (wrote.gentle mirrors (terms_failedRecord _ _))
        exact gentle.settles active (by simp [Entry.movesScopes])
      · intro now after _ installed
        have written := World.mirrors_of_found installed.written
        refine ⟨trivial, ?_, follows.scopeStep mirrors written⟩
        intro _
        refine ⟨_, written, follows.loaded snapshot now, ?_⟩
        rw [(records_completedRecord _ _ _).schemaHash]
        exact Option.some_ne_none _
      · exact fun _ _ _ _ unreliable => absurd reliable unreliable
      · exact fun _ _ _ unreliable => absurd reliable unreliable
  | deactivating closing scope force record =>
      obtain ⟨asked, empty, unmounted, current, mirrors, loaded, rfl⟩ :=
        tracks
      apply resumeDeactivating_rule proper.1
      · intro after _ wrote
        have stillUnmounted : after.runtimes.get ns = none := by
          rw [wrote.runtimes]
          exact unmounted
        exact ⟨trivial, World.active_of_unmounted stillUnmounted,
          .deactivated asked mirrors.policy loaded wrote.mirrors.policy⟩
      · exact fun _ _ => asBefore.settlesRaised active
      · exact fun _ _ _ unreliable => absurd reliable unreliable
  | unregistering closing force =>
      obtain ⟨asked, unmounted⟩ := tracks
      apply resumeUnregistering_rule
      · intro entries after removed reported
        have stillUnmounted : after.runtimes.get ns = none := by
          rw [removed.runtimes]
          exact unmounted
        exact ⟨trivial, World.active_of_unmounted stillUnmounted,
          .unregistered asked reported removed.policy⟩
      · exact fun _ _ => asBefore.settlesRaised active
      · exact fun _ _ unreliable => absurd reliable unreliable
  | probing scope record runtime =>
      apply resumeProbing_rule
      · intro current hash count now result after found _ _ _ wrote
        have gentle := wrote.gentle (World.mirrors_of_found found) rfl
        exact gentle.settles active (by simp [Entry.movesScopes])
      · intro _
        have gentle : Gentle ns world (world.markClosed runtime) := ⟨rfl, id⟩
        exact gentle.settlesInside active trivial
      · intro exception existing _ _
        exact (gentle_disconnected existing).settlesInside active trivial
      · exact fun _ _ => (Gentle.refl world).settlesRaised active
      · intro current result final after found _ _ unhealthy wrote
        have gentle := wrote.gentle (World.mirrors_of_found found)
          unhealthy.terms
        exact gentle.settles active (by simp [Entry.movesScopes])
      · exact fun _ => (Gentle.refl world).settlesRaised active
      · exact fun _ _ _ unreliable => absurd reliable unreliable
  | aborting scope record runtime =>
      apply resumeAborting_rule
      · intro exception existing _
        have gentle : Gentle ns world
            (((world.markDone runtime).unmount ns).markClosed existing) :=
          asBefore.trans (gentle_disconnected existing)
        exact gentle.settlesInside active trivial
      · exact fun _ _ => asBefore.settlesRaised active
      · intro current result final after found _ _ unhealthy wrote
        have mirrors := World.mirrors_of_found found
        have gentle : Gentle ns world after :=
          asBefore.trans (wrote.gentle mirrors unhealthy.terms)
        exact gentle.settles active (by simp [Entry.movesScopes])
      · exact fun _ => asBefore.settlesRaised active
      · exact fun _ _ _ unreliable => absurd reliable unreliable
  | unhealthy closing scope record exception =>
      apply resumeUnhealthy_rule
      · exact fun _ _ _ => asBefore.settlesRaised active
      · intro current result final after found _ _ unhealthy wrote
        have mirrors := World.mirrors_of_found found
        have gentle : Gentle ns world after :=
          asBefore.trans (wrote.gentle mirrors unhealthy.terms)
        exact gentle.settles active (by simp [Entry.movesScopes])
      · exact fun _ _ => asBefore.settlesRaised active
      · exact fun _ _ _ unreliable => absurd reliable unreliable

end Stretches

/-! ## Calls -/

section Calls

variable {tool : MountedTool} {world : World}

/-- No namespace has its terms changed or a runtime mounted. -/
def GentleEverywhere (before after : World) : Prop :=
  ∀ ns, Gentle ns before after

theorem GentleEverywhere.trans {first second third : World}
    (left : GentleEverywhere first second)
    (right : GentleEverywhere second third) : GentleEverywhere first third :=
  fun ns => (left ns).trans (right ns)

theorem Untouched.gentleEverywhere {before after : World}
    (untouched : Untouched before after) : GentleEverywhere before after :=
  fun _ => untouched.gentle

theorem finishCallFailure_gentle (reliable : world.Reliable)
    (exception : PyException) :
    wp (finishCallFailure tool exception)
      (fun _ after => GentleEverywhere world after)
      (fun _ after => GentleEverywhere world after) world := by
  apply finishCallFailure_rule
  · exact fun _ after untouched => untouched.gentleEverywhere
  · intro current reason error after found wrote ns
    by_cases same : ns = tool.ns
    · subst same
      exact wrote.gentle (World.mirrors_of_found found) rfl
    · constructor
      · unfold World.terms
        rw [wrote.records ns same]
      · rw [wrote.runtimes]
        exact id
  · exact fun _ _ _ _ unreliable => absurd reliable unreliable

theorem callFailed_gentle (reliable : world.Reliable)
    (exception : PyException) :
    wp (callFailed tool exception)
      (fun _ after => GentleEverywhere world after)
      (fun _ after => GentleEverywhere world after) world := by
  apply callFailed_rule
  · intro existing _ ns
    by_cases same : ns = tool.ns
    · subst same
      exact gentle_disconnected existing
    · refine ⟨rfl, fun unmounted => ?_⟩
      simpa [Dict.get_pop, same] using unmounted
  · exact fun _ => finishCallFailure_gentle reliable exception

theorem dispatchCall_gentle (reliable : world.Reliable) :
    wp (dispatchCall tool)
      (fun _ after => GentleEverywhere world after)
      (fun _ after => GentleEverywhere world after) world := by
  apply dispatchCall_rule
  · exact fun _ _ ns => .refl world
  · exact fun _ exception => callFailed_gentle reliable exception

theorem resumeCall_gentle (reliable : world.Reliable) (stage : CallStage)
    (reply : Except Raised CallToolResult) :
    wp (resumeCall tool stage reply)
      (fun _ after => GentleEverywhere world after)
      (fun _ after => GentleEverywhere world after) world := by
  have asBefore : ∀ {runtime : RuntimeId},
      GentleEverywhere world (world.markDone runtime) :=
    fun _ => ⟨rfl, id⟩
  cases stage with
  | calling runtime =>
      apply resumeCalling_rule
      · exact fun _ _ ns => .refl world
      · exact fun _ _ _ ns => ⟨rfl, id⟩
      · exact fun exception _ _ => callFailed_gentle reliable exception
      · exact fun _ ns => .refl world
  | aborting runtime =>
      apply resumeCallAborting_rule
      · intro exception _
        have stillReliable : (world.markDone runtime).Reliable := reliable
        apply wp_mono (callFailed_gentle stillReliable exception)
        · exact fun _ _ gentle => asBefore.trans gentle
        · exact fun _ _ gentle => asBefore.trans gentle
      · exact fun _ => asBefore
  | disconnecting closing exception =>
      apply resumeCallDisconnecting_rule
      · intro _
        have stillReliable : (world.markDone closing.runtime).Reliable :=
          reliable
        apply wp_mono (finishCallFailure_gentle stillReliable exception)
        · exact fun _ _ gentle => asBefore.trans gentle
        · exact fun _ _ gentle => asBefore.trans gentle
      · exact fun _ _ => asBefore

end Calls

end ToolboxMcp
