import ToolboxMcp.Mounted
import ToolboxMcp.ScopeLedger

/-!
# Scope lists as a function of the history

What the service reports is posted to a ledger, restarts included.  The records
refine the ledger: every record shows the account its toolset has there.  With
the law of the ledger this says what the two mutable scope lists of a record
contain, whatever has happened to it.
-/

namespace ToolboxMcp

open Effect

/-! ## Accounts of records -/

def ScopePolicy.account (policy : ScopePolicy) : ScopeAccount Scope where
  restorable := {scope | scope ∈ policy.restorableScopes}
  recoverable := {scope | scope ∈ policy.recoverableScopes}
  loaded := {scope | scope ∈ policy.loadedScopes}

def World.ledger (world : World) : ScopeLedger Namespace Scope :=
  fun ns => (world.policy ns).map ScopePolicy.account

/-- The policy is valid, and what is loaded and may be restored is
recoverable. -/
structure WellKept (record : ToolsetRecord) : Prop
    extends ScopePolicyValid record where
  backed :
    ∀ scope ∈ record.loadedScopes, scope ∈ record.restorableScopes →
      scope ∈ record.recoverableScopes

/-- Whatever record has the stored policy is well kept. -/
def World.WellKept (world : World) (ns : Namespace) : Prop :=
  ∀ record, world.policy ns = some (scopePolicy record) →
    ToolboxMcp.WellKept record

section Records

variable {record : ToolsetRecord} {scope : Scope}

theorem WellKept.congr {left right : ToolsetRecord}
    (kept : WellKept left) (same : scopePolicy left = scopePolicy right) :
    WellKept right where
  toScopePolicyValid := ScopePolicyValid.congr same kept.toScopePolicyValid
  backed := by
    obtain ⟨_, loaded, _, restorable, recoverable, _⟩ :=
      scopePolicy_eq.mp same
    rw [← loaded, ← restorable, ← recoverable]
    exact kept.backed

theorem WellKept.activated (kept : WellKept record)
    (supported : scope ∈ record.supportedScopes) :
    WellKept (activated record scope) where
  toScopePolicyValid := kept.toScopePolicyValid.activated supported
  backed := by
    intro tested loaded restorable
    have restorableBefore : tested ∈ record.restorableScopes := by
      rw [activated_eq] at restorable
      exact restorable
    rw [mem_activated_recoverable]
    rcases (mem_activated_loaded record scope tested).mp loaded with
      rfl | earlier
    · exact .inl ⟨rfl, restorableBefore⟩
    · exact .inr (kept.backed tested earlier restorableBefore)

theorem WellKept.addScopes (kept : WellKept record)
    (identity explicit : Bool) :
    WellKept (addScopes record (recoveryScopes record identity explicit)) where
  toScopePolicyValid :=
    kept.toScopePolicyValid.addScopes fun tested offered =>
      (mem_recoveryScopes record tested offered).2.2
  backed := by
    intro tested loaded restorable
    rw [addScopes_eq] at restorable ⊢
    rcases (mem_addScopes record tested _).mp loaded with offered | earlier
    · exact (mem_recoveryScopes record tested offered).1
    · exact kept.backed tested earlier restorable

theorem WellKept.withoutScope (kept : WellKept record) :
    WellKept (withoutScope record scope) where
  toScopePolicyValid := kept.toScopePolicyValid.withoutScope
  backed := by
    intro tested loaded restorable
    have restorableBefore : tested ∈ record.restorableScopes := by
      rw [withoutScope_eq] at restorable
      exact restorable
    have remaining := (mem_withoutScope_loaded record scope tested).mp loaded
    rw [mem_withoutScope_recoverable]
    exact ⟨remaining.1, kept.backed tested remaining.2 restorableBefore⟩

theorem WellKept.reconciled (kept : WellKept record) :
    WellKept (reconciledRecord record) where
  default_supported := kept.default_supported
  loaded_supported := by
    intro tested loaded
    cases loaded
  restorable_supported := kept.restorable_supported
  thread_not_restorable := kept.thread_not_restorable
  recoverable_restorable := by
    intro tested recoverable
    simp only [reconciledRecord] at recoverable ⊢
    split at recoverable
    · exact of_decide_eq_true (List.mem_filter.mp recoverable).2
    · exact kept.recoverable_restorable tested recoverable
  backed := by
    intro tested loaded
    cases loaded

/-- A restore that passes the gates is offered everything recoverable. -/
theorem WellKept.recoveryScopes (kept : WellKept record)
    {identity explicit : Bool}
    (offered : recoveryScopes record identity explicit ≠ []) :
    scope ∈ recoveryScopes record identity explicit ↔
      scope ∈ record.recoverableScopes := by
  unfold ToolboxMcp.recoveryScopes at offered ⊢
  split at offered
  · exact absurd rfl offered
  · split at offered
    · exact absurd rfl offered
    · rename_i identified requested
      rw [if_neg identified, if_neg requested, List.mem_filter]
      constructor
      · exact And.left
      · intro recoverable
        have restorable := kept.recoverable_restorable scope recoverable
        have supported := kept.restorable_supported scope restorable
        simp [recoverable, restorable, supported]

/-! ## Accounts follow the records -/

theorem account_activated :
    (scopePolicy (activated record scope)).account =
      (scopePolicy record).account.activate scope := by
  have restorable :
      (activated record scope).restorableScopes =
        record.restorableScopes := by
    rw [activated_eq]
  apply ScopeAccount.ext
  · simp [ScopePolicy.account, scopePolicy, ScopeAccount.activate, restorable]
  · ext tested
    simp only [ScopePolicy.account, scopePolicy, ScopeAccount.activate,
      Set.mem_ofPred_eq, mem_activated_recoverable, Set.mem_union,
      Set.mem_inter_iff, Set.mem_singleton_iff]
    constructor
    · rintro (⟨rfl, member⟩ | member)
      · exact .inr ⟨rfl, member⟩
      · exact .inl member
    · rintro (member | ⟨rfl, member⟩)
      · exact .inr member
      · exact .inl ⟨rfl, member⟩
  · ext tested
    simp [ScopePolicy.account, scopePolicy, ScopeAccount.activate]

theorem account_withoutScope :
    (scopePolicy (withoutScope record scope)).account =
      (scopePolicy record).account.deactivate scope := by
  have restorable :
      (withoutScope record scope).restorableScopes =
        record.restorableScopes := by
    rw [withoutScope_eq]
  apply ScopeAccount.ext
  · simp [ScopePolicy.account, scopePolicy, ScopeAccount.deactivate,
      restorable]
  · ext tested
    simp [ScopePolicy.account, scopePolicy, ScopeAccount.deactivate, and_comm]
  · ext tested
    simp [ScopePolicy.account, scopePolicy, ScopeAccount.deactivate, and_comm]

/-- Restoring whatever is offered is restoring whatever is recoverable. -/
theorem account_restored (kept : WellKept record) {identity explicit : Bool}
    (offered : recoveryScopes record identity explicit ≠ []) :
    (scopePolicy
        (addScopes record
          (recoveryScopes record identity explicit))).account =
      (scopePolicy record).account.restore
        {scope | scope ∈ record.recoverableScopes} := by
  apply ScopeAccount.ext
  · rw [addScopes_eq]
    rfl
  · rw [addScopes_eq]
    rfl
  · ext tested
    simp [ScopePolicy.account, scopePolicy, ScopeAccount.restore,
      kept.recoveryScopes offered, or_comm]

theorem account_reconciled (kept : WellKept record) :
    (scopePolicy (reconciledRecord record)).account =
      (scopePolicy record).account.restart := by
  apply ScopeAccount.ext
  · rfl
  · ext tested
    simp only [ScopePolicy.account, scopePolicy, reconciledRecord,
      ScopeAccount.restart, Set.mem_ofPred_eq]
    split
    · rename_i empty
      have nothing : record.recoverableScopes = [] := by simpa using empty
      rw [nothing]
      simp only [List.mem_filter, List.not_mem_nil, iff_false, not_and]
      intro loaded restorable
      have recoverable :=
        kept.backed tested loaded (of_decide_eq_true restorable)
      rw [nothing] at recoverable
      cases recoverable
    · rfl
  · ext tested
    simp [ScopePolicy.account, scopePolicy, reconciledRecord,
      ScopeAccount.restart]

end Records

/-! ## Events -/

/-- The event an entry reports.  A restore is posted with the scopes that were
recoverable in the world it has found. -/
def Entry.scopeEvents (world : World) :
    Entry → List (ScopeEvent Namespace Scope)
  | .registered record => [.registered record.ns record.restorableScopes]
  | .activated result => [.activated result.ns result.scope]
  | .deactivated ns scope _ => [.deactivated ns scope]
  | .restored result =>
      [.restored result.ns
        (((world.record result.ns).map
          ToolsetRecord.recoverableScopes).getD [])]
  | .unregistered ns => [.unregistered ns]
  | _ => []

/-- A restart, and the registration of the bundled toolset if it is missing. -/
def World.startEvents (world : World) :
    List (ScopeEvent Namespace Scope) :=
  .restarted ::
    match world.record "fake_stdio" with
    | some _ => []
    | none => [.registered "fake_stdio" []]

theorem scopeEvents_silent {entries : List Entry} (world : World)
    (silent : ∀ entry ∈ entries, entry.movesScopes = false) :
    entries.flatMap (Entry.scopeEvents world) = [] := by
  rw [List.flatMap_eq_nil_iff]
  intro entry member
  have still := silent entry member
  cases entry with
  | registered record => cases still
  | activated result => cases still
  | deactivated ns scope remaining => cases still
  | restored result => cases still
  | unregistered ns => cases still
  | refreshed result => rfl
  | cleared result => rfl
  | checked result => rfl
  | marked ns known => rfl
  | skipped ns reason details => rfl
  | failed error => rfl

theorem scopeEvents_unregisters {ns : Namespace} {entries : List Entry}
    (world : World) (reported : Unregisters ns entries) :
    entries.flatMap (Entry.scopeEvents world) = [.unregistered ns] := by
  rcases reported with rfl | rfl
  · rfl
  · rfl

theorem recoverable_of_policy {world : World} {ns : Namespace}
    {record : ToolsetRecord}
    (stored : world.policy ns = some (scopePolicy record)) :
    ((world.record ns).map ToolsetRecord.recoverableScopes).getD [] =
      record.recoverableScopes := by
  obtain ⟨current, found, same⟩ := Option.map_eq_some_iff.mp stored
  have present : world.record ns = some current := found
  rw [present]
  exact (scopePolicy_eq.mp same).2.2.2.2.1

section Steps

variable {ns : Namespace} {operation : Operation} {before after : World}
  {entries : List Entry}

/-- A stretch only posts to the account of its own namespace. -/
theorem ScopeStep.concernsOnly
    (scopes : ScopeStep ns operation before after entries) :
    ∀ event ∈ entries.flatMap (Entry.scopeEvents before),
      ScopeLedger.concernsOnly ns event := by
  cases scopes with
  | kept silent same =>
      rw [scopeEvents_silent before silent]
      simp
  | registered asked missing accepted written =>
      have named := (toRecord_valid accepted).1
      simpa [Entry.scopeEvents, ScopeLedger.concernsOnly] using named
  | activated asked subject stored supported written =>
      simpa [Entry.scopeEvents, ScopeLedger.concernsOnly] using subject
  | restored asked subject stored offered written =>
      simpa [Entry.scopeEvents, ScopeLedger.concernsOnly] using subject
  | deactivated asked stored loaded written =>
      simp [Entry.scopeEvents, ScopeLedger.concernsOnly]
  | unregistered asked reported gone =>
      rw [scopeEvents_unregisters before reported]
      simp [ScopeLedger.concernsOnly]

theorem ledger_of_policy {world : World} {record : ToolsetRecord}
    (stored : world.policy ns = some (scopePolicy record)) :
    world.ledger ns = some (scopePolicy record).account := by
  simp [World.ledger, stored]

/-- What a stretch does to its record is what its entries post. -/
theorem ScopeStep.refines
    (scopes : ScopeStep ns operation before after entries)
    (kept : before.WellKept ns) :
    after.ledger ns =
      before.ledger.postAll
        (entries.flatMap (Entry.scopeEvents before)) ns := by
  cases scopes with
  | kept silent same =>
      rw [scopeEvents_silent before silent]
      simp [World.ledger, same]
  | @registered record transport registration asked missing accepted written =>
      obtain ⟨rfl, loaded, recoverable, _⟩ := toRecord_valid accepted
      rw [ledger_of_policy written]
      simp [Entry.scopeEvents, ScopeLedger.post, ScopePolicy.account,
        scopePolicy, loaded, recoverable, ScopeAccount.opened]
  | @activated record result ifNotLoaded asked subject stored supported
      written =>
      subst subject
      rw [ledger_of_policy written, account_activated]
      simp [Entry.scopeEvents, ScopeLedger.post, ScopeLedger.change,
        ledger_of_policy stored]
  | @restored record result identity startup asked subject stored offered
      written =>
      subst subject
      have wellKept := kept record stored
      rw [ledger_of_policy written, account_restored wellKept offered]
      have recoverable := recoverable_of_policy stored
      simp only [World.record] at recoverable
      simp [Entry.scopeEvents, ScopeLedger.post, ScopeLedger.change,
        ledger_of_policy stored, recoverable]
  | @deactivated record scope force remaining asked stored loaded written =>
      rw [ledger_of_policy written, account_withoutScope]
      simp [Entry.scopeEvents, ScopeLedger.post, ScopeLedger.change,
        ledger_of_policy stored]
  | unregistered asked reported gone =>
      rw [scopeEvents_unregisters before reported]
      simp [World.ledger, gone, ScopeLedger.post]

theorem ScopeStep.wellKept
    (scopes : ScopeStep ns operation before after entries)
    (kept : before.WellKept ns) : after.WellKept ns := by
  -- One record with the new policy is enough.
  have spread : ∀ {record : ToolsetRecord},
      after.policy ns = some (scopePolicy record) → WellKept record →
      after.WellKept ns := by
    intro record written wellKept other same
    have equal := Option.some.inj (written.symm.trans same)
    exact wellKept.congr equal
  cases scopes with
  | kept silent same =>
      intro record stored
      exact kept record (same.symm.trans stored)
  | @registered record transport registration asked missing accepted written =>
      obtain ⟨_, loaded, _, _, _, valid⟩ := toRecord_valid accepted
      exact spread written ⟨valid, by simp [loaded]⟩
  | @activated record result ifNotLoaded asked subject stored supported
      written =>
      exact spread written ((kept record stored).activated supported)
  | @restored record result identity startup asked subject stored offered
      written =>
      exact spread written ((kept record stored).addScopes _ _)
  | @deactivated record scope force remaining asked stored loaded written =>
      exact spread written (kept record stored).withoutScope
  | unregistered asked reported gone =>
      intro record stored
      rw [gone] at stored
      cases stored

end Steps

/-! ## Starts -/

section Starts

variable {world after : World}

theorem wellKept_fakeToolset (config : HostConfig) :
    WellKept (fakeToolset config) where
  default_supported := List.mem_cons_self
  loaded_supported _ loaded := by cases loaded
  restorable_supported _ restorable := by cases restorable
  thread_not_restorable restorable := by cases restorable
  recoverable_restorable _ recoverable := by cases recoverable
  backed _ loaded := by cases loaded

theorem wellKept_bundled (kept : ∀ ns, world.WellKept ns) {ns : Namespace}
    {record : ToolsetRecord} (found : bundled world ns = some record) :
    WellKept record := by
  unfold bundled at found
  cases stored : world.document.getToolset ns with
  | some current =>
      rw [stored] at found
      cases found
      exact kept ns record (by simp [World.policy, stored])
  | none =>
      rw [stored, Option.none_or] at found
      split at found
      · cases found
        exact wellKept_fakeToolset world.config
      · cases found

/-- The ledger after a start is the old one, restarted, with the bundled
toolset registered if it was missing. -/
theorem ledger_start (kept : ∀ ns, world.WellKept ns)
    (records : ∀ ns, after.document.getToolset ns =
      (bundled world ns).map reconciledRecord) :
    after.ledger = world.ledger.postAll world.startEvents := by
  funext ns
  have reconciled : after.ledger ns =
      (bundled world ns).map fun record =>
        (scopePolicy record).account.restart := by
    unfold World.ledger World.policy
    rw [records ns]
    cases found : bundled world ns with
    | none =>
        rfl
    | some record =>
        have account := account_reconciled (wellKept_bundled kept found)
        simpa using account
  rw [reconciled]
  have plain : ∀ found, bundled world ns = found →
      found = world.document.getToolset ns →
      ((bundled world ns).map fun record =>
          (scopePolicy record).account.restart) =
        (world.ledger ns).map ScopeAccount.restart := by
    rintro found same rfl
    rw [same]
    simp [World.ledger, World.policy, Function.comp_def]
  unfold World.startEvents
  cases stored : world.document.getToolset "fake_stdio" with
  | some current =>
      simp only [World.record, stored, ScopeLedger.postAll_cons,
        ScopeLedger.postAll_nil, ScopeLedger.post]
      apply plain _ rfl
      unfold bundled
      by_cases same : ns = "fake_stdio"
      · subst same
        simp [stored]
      · simp [same]
  | none =>
      simp only [World.record, stored, ScopeLedger.postAll_cons,
        ScopeLedger.postAll_nil, ScopeLedger.post]
      by_cases same : ns = "fake_stdio"
      · subst same
        simp [bundled, stored, fakeToolset, scopePolicy, ScopePolicy.account,
          ScopeAccount.restart, ScopeAccount.opened]
      · rw [Function.update_of_ne same]
        apply plain _ rfl
        simp [bundled, same]

theorem wellKept_start (kept : ∀ ns, world.WellKept ns)
    (records : ∀ ns, after.document.getToolset ns =
      (bundled world ns).map reconciledRecord) (ns : Namespace) :
    after.WellKept ns := by
  intro record stored
  unfold World.policy at stored
  rw [records ns] at stored
  obtain ⟨current, found, same⟩ := Option.map_eq_some_iff.mp stored
  obtain ⟨original, foundOriginal, rfl⟩ := Option.map_eq_some_iff.mp found
  exact (wellKept_bundled kept foundOriginal).reconciled.congr same

end Starts

/-! ## Runs -/

namespace Machine

section Runs

variable [Platform]

/-- The events an observer of the responses and restarts records. -/
def scopeEvents (machine : Machine) (action : Option Action)
    (_ : Machine) : List (ScopeEvent Namespace Scope) :=
  match action with
  | some action =>
      (machine.reports action).flatMap (Entry.scopeEvents machine.world)
  | none => machine.world.startEvents

/-- The ledger of the responses is the ledger of the records. -/
structure Documented (machine : Machine)
    (history : List (ScopeEvent Namespace Scope)) : Prop where
  kept : ∀ ns, machine.world.WellKept ns
  ledger :
    machine.world.ledger = ScopeLedger.blank.postAll history

variable {machine after : Machine}
  {history : List (ScopeEvent Namespace Scope)}

omit [Platform] in
theorem Documented.gentle (documented : machine.Documented history)
    (gentle : GentleEverywhere machine.world after.world) :
    after.Documented history := by
  have same : ∀ ns, after.world.policy ns = machine.world.policy ns :=
    fun ns => World.policy_of_terms (gentle ns).terms
  constructor
  · intro ns record stored
    exact documented.kept ns record ((same ns).symm.trans stored)
  · rw [← documented.ledger]
    funext ns
    simp [World.ledger, same]

theorem documented_turn (orderly : machine.Orderly)
    (coupled : machine.Coupled) (documented : machine.Documented history)
    {action : Action} (turn : machine.Turn action after) :
    after.Documented
      (history ++ machine.scopeEvents (some action) after) := by
  have nothing : ∀ {events}, events = [] →
      after.Documented history → after.Documented (history ++ events) := by
    rintro events rfl holds
    rwa [List.append_nil]
  have silent : machine.visit action = none →
      machine.scopeEvents (some action) after = [] := by
    intro elsewhere
    simp [scopeEvents, reports, elsewhere]
  cases turn with
  | aside moves tasks awake world elsewhere =>
      exact nothing (silent elsewhere) (documented.gentle world.gentle)
  | @visiting task ns lock operation rest entries program stretch proceeds
      visits =>
      subst proceeds
      have scopes := stretch.scopeStep orderly.sane coupled orderly.reliable
      have sound := final_of_wp_left (stretch.sound orderly.sane)
      have events :
          machine.scopeEvents (some action)
              (machine.proceed task ns lock operation rest entries
                (outcome program machine.world)) =
            (reported (outcome program machine.world).1).flatMap
              (Entry.scopeEvents machine.world) := by
        simp [scopeEvents, reports, visits]
      rw [events]
      have elsewhere : ∀ other, other ≠ ns →
          (outcome program machine.world).2.policy other =
            machine.world.policy other := fun other different =>
        World.policy_of_terms (sound.toConfined.gentle different).terms
      constructor
      · intro other
        rw [proceed_world]
        by_cases same : other = ns
        · subst same
          exact scopes.wellKept (documented.kept other)
        · intro record stored
          rw [elsewhere other same] at stored
          exact documented.kept other record stored
      · rw [proceed_world, ScopeLedger.postAll_append, ← documented.ledger]
        funext other
        by_cases same : other = ns
        · subst same
          exact scopes.refines (documented.kept other)
        · rw [ScopeLedger.postAll_of_ne scopes.concernsOnly same]
          simp [World.ledger, elsewhere other same]
  | calling stretch proceeds elsewhere =>
      apply nothing (silent elsewhere)
      apply documented.gentle
      subst proceeds
      rw [proceedCall_world]
      exact final_of_wp (stretch.gentle orderly.reliable)
  | dying died elsewhere =>
      apply nothing (silent elsewhere)
      apply documented.gentle
      subst died
      exact fun _ => ⟨rfl, id⟩

omit [Platform] in
theorem documented_restart (orderly : machine.Orderly)
    (documented : machine.Documented history) :
    machine.restart.Documented (history ++ machine.world.startEvents) := by
  obtain ⟨_, records⟩ := restart_spec orderly.reliable orderly.distinct
  constructor
  · exact wellKept_start documented.kept records
  · rw [ScopeLedger.postAll_append, ← documented.ledger]
    exact ledger_start documented.kept records

theorem documented_lifeStep (orderly : machine.Orderly)
    (coupled : machine.Coupled) (documented : machine.Documented history)
    {action : Option Action}
    (taken : lifeStep machine action = some after) :
    after.Documented (history ++ machine.scopeEvents action after) := by
  cases action with
  | none =>
      cases taken
      exact documented_restart orderly documented
  | some action =>
      exact documented_turn orderly coupled documented (turn_of_step taken)

/-- The events of the first start. -/
def firstEvents (config : HostConfig) :
    List (ScopeEvent Namespace Scope) :=
  (emptyHost config).world.startEvents

omit [Platform] in
theorem documented_firstProcess (config : HostConfig) :
    (firstProcess config).Documented (firstEvents config) := by
  obtain ⟨_, records⟩ :=
    restart_spec (reliable_emptyHost config) StateDocument.distinct_empty
  have kept : ∀ ns, (emptyHost config).world.WellKept ns := by
    intro ns record stored
    cases stored
  constructor
  · exact wellKept_start kept records
  · exact ledger_start kept records

/-- A life of a host, with the events recorded so far. -/
abbrev recordedStep :=
  monitor lifeStep scopeEvents

theorem documented_of_lives {config : HostConfig}
    {recorded : Machine × List (ScopeEvent Namespace Scope)}
    (reaches :
      Reaches recordedStep (fun state => state.1.OneAtATime)
        (firstProcess config, firstEvents config) recorded) :
    recorded.1.Orderly ∧ recorded.1.Coupled ∧
      recorded.1.Documented recorded.2 := by
  have initial := documented_firstProcess config
  have started := coupled_of_lives
    (.start : Reaches lifeStep OneAtATime (firstProcess config) _)
  apply reaches.invariant ⟨started.1, started.2, initial⟩
  rintro before action next ⟨orderly, coupled, documented⟩ meets taken
  obtain ⟨moved, events⟩ := monitor_eq_some.mp taken
  refine ⟨orderly_lifeStep orderly meets moved,
    coupled_lifeStep orderly coupled moved, ?_⟩
  rw [events]
  exact documented_lifeStep orderly coupled documented moved

end Runs

end Machine

/-! ## What adds a scope -/

/-- The operation may load the scope: an activation of a supported scope, or a
restore that passes the gates of the record for a recoverable one. -/
inductive AddsScope (record : ToolsetRecord) (scope : Scope) :
    Operation → Prop where
  | activate {ifNotLoaded : Bool}
      (supported : scope ∈ record.supportedScopes) :
      AddsScope record scope (.activate scope ifNotLoaded)
  | restore {identity startup : Bool}
      (identified :
        record.restoreRequiresIdentity = true → identity = true)
      (requested :
        record.restoreRequiresExplicitRequest = true → startup = false)
      (recoverable : scope ∈ record.recoverableScopes)
      (lasting : scope ≠ .thread) :
      AddsScope record scope (.restore identity startup)

theorem gates_of_offered {record : ToolsetRecord} {scope : Scope}
    {identity startup : Bool}
    (offered : scope ∈ recoveryScopes record identity (!startup)) :
    (record.restoreRequiresIdentity = true → identity = true) ∧
      (record.restoreRequiresExplicitRequest = true → startup = false) := by
  unfold recoveryScopes at offered
  split at offered
  · cases offered
  · split at offered
    · cases offered
    · rename_i identified requested
      simp only [Bool.and_eq_true, Bool.not_eq_true', not_and,
        Bool.not_eq_false] at identified requested
      exact ⟨identified, by simpa using requested⟩

theorem ScopeStep.addsScope {ns : Namespace} {operation : Operation}
    {before after : World} {entries : List Entry} {scope : Scope}
    {final : ToolsetRecord}
    (scopes : ScopeStep ns operation before after entries)
    (kept : before.WellKept ns)
    (found : after.record ns = some final)
    (loaded : scope ∈ final.loadedScopes)
    (missing : ∀ record, before.record ns = some record →
      scope ∉ record.loadedScopes) :
    ∃ record,
      before.record ns = some record ∧ AddsScope record scope operation := by
  have finalPolicy : after.policy ns = some (scopePolicy final) := by
    have stored : after.document.getToolset ns = some final := found
    simp [World.policy, stored]
  have lists : ∀ {record : ToolsetRecord},
      after.policy ns = some (scopePolicy record) →
      scope ∈ record.loadedScopes := by
    intro record written
    have same := Option.some.inj (finalPolicy.symm.trans written)
    rw [(scopePolicy_eq.mp same).2.1] at loaded
    exact loaded
  have stale : ∀ {record : ToolsetRecord},
      before.policy ns = some (scopePolicy record) →
      ∃ current, before.record ns = some current ∧
        scopePolicy current = scopePolicy record ∧
        scope ∉ record.loadedScopes := by
    intro record stored
    obtain ⟨current, present, same⟩ := Option.map_eq_some_iff.mp stored
    refine ⟨current, present, same, ?_⟩
    rw [← (scopePolicy_eq.mp same).2.1]
    exact missing current present
  cases scopes with
  | kept silent same =>
      obtain ⟨_, _, _, absent⟩ := stale (same.symm.trans finalPolicy)
      exact absurd loaded absent
  | @registered record transport registration asked unregistered accepted
      written =>
      have empty := (toRecord_valid accepted).2.1
      have present := lists written
      rw [empty] at present
      cases present
  | @activated record result ifNotLoaded asked subject stored supported
      written =>
      obtain ⟨current, present, same, absent⟩ := stale stored
      subst asked
      have added : scope = result.scope :=
        ((mem_activated_loaded record result.scope scope).mp
          (lists written)).resolve_right absent
      subst added
      refine ⟨current, present, .activate ?_⟩
      rw [(scopePolicy_eq.mp same).2.2.1]
      exact supported
  | @restored record result identity startup asked subject stored offered
      written =>
      obtain ⟨current, present, same, absent⟩ := stale stored
      subst asked
      have added : scope ∈ recoveryScopes record identity (!startup) :=
        ((mem_addScopes record scope _).mp
          (lists written)).resolve_right absent
      rw [← recoveryScopes_congr same] at added
      have wellKept := (kept record stored).congr same.symm
      have members := mem_recoveryScopes current scope added
      have gates := gates_of_offered added
      refine ⟨current, present, .restore gates.1 gates.2 members.1 ?_⟩
      rintro rfl
      exact wellKept.thread_not_restorable members.2.1
  | @deactivated record removed force remaining asked stored present written =>
      obtain ⟨_, _, _, absent⟩ := stale stored
      have remains := (mem_withoutScope_loaded record removed scope).mp
        (lists written)
      exact absurd remains.2 absent
  | unregistered asked reported gone =>
      rw [gone] at finalPolicy
      cases finalPolicy

namespace Machine

section Property

variable [Platform]

/-- The step has loaded the scope. -/
def Loads (machine after : Machine) (ns : Namespace) (scope : Scope) :
    Prop :=
  (∃ record, after.world.record ns = some record ∧
    scope ∈ record.loadedScopes) ∧
    ∀ record, machine.world.record ns = some record →
      scope ∉ record.loadedScopes

theorem addsScope_of_loads {machine after : Machine} {ns : Namespace}
    {scope : Scope} {action : Option Action} (orderly : machine.Orderly)
    (coupled : machine.Coupled) (kept : ∀ ns, machine.world.WellKept ns)
    (taken : lifeStep machine action = some after)
    (loads : machine.Loads after ns scope) :
    ∃ step visit record,
      action = some step ∧ machine.visit step = some visit ∧
        visit.ns = ns ∧ machine.world.record ns = some record ∧
        AddsScope record scope visit.operation := by
  obtain ⟨⟨final, found, loaded⟩, missing⟩ := loads
  -- A namespace whose policy is unchanged has nothing loaded.
  have unchanged : after.world.policy ns ≠ machine.world.policy ns := by
    intro same
    have written : after.world.policy ns = some (scopePolicy final) := by
      have stored : after.world.document.getToolset ns = some final := found
      simp [World.policy, stored]
    rw [same] at written
    obtain ⟨current, present, equal⟩ := Option.map_eq_some_iff.mp written
    apply missing current present
    rw [(scopePolicy_eq.mp equal).2.1]
    exact loaded
  have gently : ∀ {world : World}, after.world = world →
      GentleEverywhere machine.world world → False := by
    rintro world rfl gentle
    exact unchanged (World.policy_of_terms (gentle ns).terms)
  cases action with
  | none =>
      cases taken
      obtain ⟨_, records⟩ := restart_spec orderly.reliable orderly.distinct
      have stored : machine.restart.world.document.getToolset ns =
          some final := found
      rw [records ns] at stored
      obtain ⟨original, _, rfl⟩ := Option.map_eq_some_iff.mp stored
      cases loaded
  | some action =>
      have turn := turn_of_step taken
      cases turn with
      | aside moves tasks awake world elsewhere =>
          exact (gently rfl world.gentle).elim
      | @visiting task home lock operation rest entries program stretch
          proceeds visits =>
          subst proceeds
          rw [proceed_world] at found unchanged
          have scopes :=
            stretch.scopeStep orderly.sane coupled orderly.reliable
          have sound := final_of_wp_left (stretch.sound orderly.sane)
          by_cases same : ns = home
          · subst same
            obtain ⟨record, present, adds⟩ :=
              scopes.addsScope (kept ns) found loaded missing
            exact ⟨action, _, record, rfl, visits, rfl, present, adds⟩
          · exact absurd
              (World.policy_of_terms (sound.toConfined.gentle same).terms)
              unchanged
      | calling stretch proceeds elsewhere =>
          subst proceeds
          have gentle := final_of_wp (stretch.gentle orderly.reliable)
          exact (gently (proceedCall_world _ _ _ _) gentle).elim
      | dying died elsewhere =>
          subst died
          exact (gently rfl fun _ => ⟨rfl, id⟩).elim

/-- In every state of every life of a host the two scope lists of a record are
the ones its history gives, and nothing but a permitted activation or restore
ever loads a scope. -/
theorem scopes_of_history {config : HostConfig} {machine : Machine}
    {history : List (ScopeEvent Namespace Scope)}
    (reaches :
      Reaches recordedStep (fun state => state.1.OneAtATime)
        (firstProcess config, firstEvents config) (machine, history)) :
    (∀ ns record, machine.world.record ns = some record → ∀ scope,
      (scope ∈ record.recoverableScopes ↔
        scope ∈ record.restorableScopes ∧
          ScopeLedger.ActivatedLast history ns scope) ∧
      (scope ∈ record.loadedScopes ↔
        ScopeLedger.LoadedLast history ns scope)) ∧
      ∀ action after ns scope,
        lifeStep machine action = some after →
        machine.Loads after ns scope →
          ∃ step visit record,
            action = some step ∧ machine.visit step = some visit ∧
              visit.ns = ns ∧ machine.world.record ns = some record ∧
              AddsScope record scope visit.operation := by
  obtain ⟨orderly, coupled, documented⟩ := documented_of_lives reaches
  constructor
  · intro ns record found scope
    have stored : machine.world.policy ns = some (scopePolicy record) := by
      have present : machine.world.document.getToolset ns = some record :=
        found
      simp [World.policy, present]
    have posted := ledger_of_policy stored
    rw [documented.ledger] at posted
    have reflects := ScopeLedger.reflects_of_postAll posted
    exact ⟨reflects.recoverable scope, reflects.loaded scope⟩
  · intro action after ns scope taken loads
    exact addsScope_of_loads orderly coupled documented.kept taken loads

end Property

section Ascii

open scoped Ascii

/-- The bundled toolset is activated in the first process. -/
theorem scopes_of_history_fake :
    ∃ machine history,
      Reaches recordedStep (fun state => state.1.OneAtATime)
          (firstProcess {}, firstEvents {}) (machine, history) ∧
        ∃ record,
          machine.world.record "fake_stdio" = some record ∧
            .thread ∈ record.loadedScopes ∧
            ScopeLedger.LoadedLast history "fake_stdio" Scope.thread := by
  obtain ⟨⟨machine, history⟩, reaches, loaded⟩ :=
    exists_reaches_of_execute
      [some (.request (.activateToolsets ["fake_stdio"] "thread" true)),
       some (.acquire 0), some (.enter 0), some (.reply 0 (.ok []))]
      (by decide +kernel :
        (execute recordedStep (fun state => state.1.OneAtATime)
            (firstProcess {}, firstEvents {}) _).any
          (fun final =>
            (final.1.world.record "fake_stdio").any
              (fun record => .thread ∈ record.loadedScopes) = true) = true)
  obtain ⟨record, found, member⟩ := (Option.any_eq_true _ _).mp loaded
  have present := of_decide_eq_true member
  exact ⟨machine, history, reaches, record, found, present,
    ((scopes_of_history reaches).1 "fake_stdio" record found .thread).2.mp
      present⟩

/-- As `LoadedLast`, except that a registration does not begin a new
history. -/
def LoadedSinceStart (history : List (ScopeEvent Namespace Scope))
    (toolset : Namespace) (scope : Scope) : Prop :=
  ∃ event,
    History.mostRecent
        (fun event => event = ScopeEvent.restarted)
        (ScopeLedger.touches toolset scope) history = some event ∧
      event ≠ .deactivated toolset scope

/-- The bundled toolset is activated, unregistered by force and registered
again: it has no loaded scopes, though no deactivation has followed the
activation in this process. -/
theorem unloaded_since_registration :
    ∃ machine history,
      Reaches recordedStep (fun state => state.1.OneAtATime)
          (firstProcess {}, firstEvents {}) (machine, history) ∧
        ∃ record,
          machine.world.record "fake_stdio" = some record ∧
            ¬ (.thread ∈ record.loadedScopes ↔
              LoadedSinceStart history "fake_stdio" .thread) := by
  obtain ⟨⟨machine, history⟩, reaches, unloaded, recent⟩ :=
    exists_reaches_of_execute
      [some (.request (.activateToolsets ["fake_stdio"] "thread" true)),
       some (.acquire 0), some (.enter 0), some (.reply 0 (.ok [])),
       some (.request (.unregisterToolsets ["fake_stdio"] true)),
       some (.acquire 1), some (.enter 1), some (.reply 1 (.ok [])),
       some (.request
         (.registerToolset "fake_stdio" (.ok { command := "python" })
           { title := "Fake", description := "Registered again" })),
       some (.acquire 2), some (.enter 2)]
      (by decide +kernel :
        (execute recordedStep (fun state => state.1.OneAtATime)
            (firstProcess {}, firstEvents {}) _).any
          (fun final =>
            (final.1.world.record "fake_stdio").any
                (fun record => .thread ∉ record.loadedScopes) = true ∧
              (History.mostRecent
                (fun event => event = ScopeEvent.restarted)
                (ScopeLedger.touches "fake_stdio" Scope.thread)
                final.2).any
                (fun event =>
                  event ≠ .deactivated "fake_stdio" Scope.thread) = true) =
          true)
  obtain ⟨record, found, absent⟩ := (Option.any_eq_true _ _).mp unloaded
  obtain ⟨event, last, other⟩ := (Option.any_eq_true _ _).mp recent
  refine ⟨machine, history, reaches, record, found, ?_⟩
  intro same
  exact of_decide_eq_true absent
    (same.mpr ⟨event, last, of_decide_eq_true other⟩)

end Ascii

end Machine

end ToolboxMcp
