import ToolboxMcp.Service.Rules

/-!
# Rules for the stretches

One rule for every body of `start` and every continuation of `resume`: the
branches with the condition under which they are taken, what has been written
when the block is left or suspended, and what is known when it raises.
-/

namespace ToolboxMcp

open Effect

section Stretches

variable {ns : Namespace} {record : ToolsetRecord} {world : World}
  {raised : Raised → World → Prop} {post : Progress → World → Prop}

/-! ## Stale marks -/

theorem startClearStale_rule
    (idle : ∀ entry after, Untouched world after →
      (∃ error, entry = .failed error) ∨
        entry = .skipped ns "not_stale" [] →
      post (.left [entry]) after)
    (cleared : ∀ record result after,
      world.document.getToolset ns = some record →
      result.ns = ns →
      Wrote ns (clearedRecord record (world.hasConnection ns)) world after →
      post (.left [.cleared result]) after)
    (refused : ∀ exception after, Quiet ns world after →
      ¬ world.Reliable → raised (.exception exception) after) :
    wp (startClearStale ns) post raised world := by
  unfold startClearStale
  rw [wp_bind, wp_get]
  cases found : world.document.getToolset ns with
  | none =>
      simp only [World.record, found]
      apply rejected_rule
      · exact fun after untouched => idle _ after untouched (.inl ⟨_, rfl⟩)
      · exact fun exception after untouched =>
          refused exception after (untouched.quiet ns)
  | some record =>
      have named := StateDocument.getToolset_ns found
      simp only [World.record, found]
      split
      · exact idle _ world (.refl world) (.inr rfl)
      · rw [wp_bind]
        refine upsertToolset_rule (by exact named) ?_ ?_
        · intro middle wrote
          rw [wp_bind]
          apply appendAuditEvent_rule
          · intro after untouched
            exact cleared record _ after found rfl
              (wrote.untouched untouched)
          · intro exception after untouched unreliable
            exact refused exception after (wrote.untouched untouched).toQuiet
              fun reliable => unreliable (wrote.reliable reliable)
        · intro exception after untouched unreliable
          exact refused exception after (untouched.quiet ns) unreliable

theorem startMarkStale_rule {reason : String}
    (unknown : world.document.getToolset ns = none →
      post (.left [.marked ns false]) world)
    (marked : ∀ record after,
      world.document.getToolset ns = some record →
      Wrote ns (markedRecord record reason) world after →
      post (.left [.marked ns true]) after)
    (refused : ∀ exception after, Quiet ns world after →
      ¬ world.Reliable → raised (.exception exception) after) :
    wp (startMarkStale ns reason) post raised world := by
  unfold startMarkStale
  rw [wp_bind, wp_get]
  cases found : world.document.getToolset ns with
  | none =>
      simp only [World.record, found]
      exact unknown found
  | some record =>
      have named := StateDocument.getToolset_ns found
      simp only [World.record, found]
      rw [wp_bind]
      refine upsertToolset_rule (by exact named) ?_ ?_
      · intro after wrote
        exact marked record after found wrote
      · intro exception after untouched unreliable
        exact refused exception after (untouched.quiet ns) unreliable

/-! ## Deactivation -/

theorem startDeactivate_rule {scope : Scope} {force : Bool}
    (idle : ∀ entry after, Untouched world after →
      (∃ error, entry = .failed error) ∨
        entry = .skipped ns "not_active" [("scope", .str scope.value)] →
      post (.left [entry]) after)
    (reduced : ∀ record after,
      world.document.getToolset ns = some record →
      scope ∈ record.loadedScopes →
      (withoutScope record scope).loadedScopes ≠ [] →
      Wrote ns (withoutScope record scope) world after →
      post
        (.left
          [.deactivated ns scope (withoutScope record scope).loadedScopes])
        after)
    (emptied : ∀ record after,
      world.document.getToolset ns = some record →
      scope ∈ record.loadedScopes →
      (withoutScope record scope).loadedScopes = [] →
      world.runtimes.get ns = none →
      Wrote ns (deactivatedRecord (withoutScope record scope)) world after →
      post (.left [.deactivated ns scope []]) after)
    (disconnecting : ∀ record existing,
      world.document.getToolset ns = some record →
      scope ∈ record.loadedScopes →
      (withoutScope record scope).loadedScopes = [] →
      world.runtimes.get ns = some existing →
      (force = false → world.inFlight ns = 0) →
      post
        (.inside
          (.deactivating ⟨existing, world.isRunning existing⟩ scope force
            (withoutScope record scope)))
        ((world.unmount ns).markClosed existing))
    (refused : ∀ exception after, Quiet ns world after →
      ¬ world.Reliable → raised (.exception exception) after) :
    wp (startDeactivate ns scope force) post raised world := by
  unfold startDeactivate
  rw [wp_bind, wp_get]
  cases found : world.document.getToolset ns with
  | none =>
      simp only [World.record, found]
      apply rejected_rule
      · exact fun after untouched => idle _ after untouched (.inl ⟨_, rfl⟩)
      · exact fun exception after untouched =>
          refused exception after (untouched.quiet ns)
  | some record =>
      have named : (withoutScope record scope).ns = ns := by
        simp [withoutScope, StateDocument.getToolset_ns found]
      simp only [World.record, found]
      split
      · exact idle _ world (.refl world) (.inr rfl)
      rename_i loaded
      split
      · apply rejected_rule
        · exact fun after untouched =>
            idle _ after untouched (.inl ⟨_, rfl⟩)
        · exact fun exception after untouched =>
            refused exception after (untouched.quiet ns)
      rename_i admitted
      replace loaded := not_not.mp loaded
      change wp
        (if (withoutScope record scope).loadedScopes.isEmpty then _ else _)
        post raised world
      split
      · rename_i empty
        have none : (withoutScope record scope).loadedScopes = [] := by
          simpa using empty
        rw [wp_bind, wp_disconnect]
        cases mounted : world.runtimes.get ns with
        | none =>
            refine finishDeactivate_rule (by exact named) ?_ ?_
            · intro after wrote
              have entry :
                  (deactivatedRecord (withoutScope record scope)).loadedScopes
                    = [] := none
              have final :=
                emptied record after found loaded none mounted wrote
              rw [← entry] at final
              exact final
            · exact refused
        | some existing =>
            refine disconnecting record existing found loaded none mounted ?_
            intro unforced
            simpa [unforced] using admitted
      · rename_i remaining
        refine finishDeactivate_rule named ?_ refused
        intro after wrote
        exact reduced record after found loaded (by simpa using remaining)
          wrote

theorem resumeDeactivating_rule {closing : Closing} {scope : Scope}
    {force : Bool} {reply : Reply}
    (named : record.ns = ns)
    (deactivated : ∀ after,
      closing.raises reply = none →
      Wrote ns (deactivatedRecord record) (world.markDone closing.runtime)
        after →
      post (.left [.deactivated ns scope record.loadedScopes]) after)
    (broken : ∀ exception,
      closing.raises reply = some exception →
      raised exception (world.markDone closing.runtime))
    (refused : ∀ exception after,
      Quiet ns (world.markDone closing.runtime) after →
      ¬ world.Reliable → raised (.exception exception) after) :
    wp (resumeDeactivating ns closing scope force record reply) post raised
      world := by
  unfold resumeDeactivating
  rw [wp_bind, wp_finishClose]
  cases ending : closing.raises reply with
  | some exception =>
      exact broken exception ending
  | none =>
      refine finishDeactivate_rule (by exact named) ?_ refused
      intro after wrote
      exact deactivated after ending wrote

/-! ## Unregistration -/

theorem startUnregister_rule {force : Bool}
    (idle : ∀ error after, Untouched world after →
      post (.left [.failed error]) after)
    (removed : ∀ record entries after,
      world.document.getToolset ns = some record →
      record.loadedScopes = [] ∨ world.runtimes.get ns = none →
      Removed ns world after → Unregisters ns entries →
      post (.left entries) after)
    (disconnecting : ∀ record existing,
      world.document.getToolset ns = some record →
      world.runtimes.get ns = some existing →
      world.inFlight ns = 0 →
      post
        (.inside
          (.unregistering ⟨existing, world.isRunning existing⟩ force))
        ((world.unmount ns).markClosed existing))
    (refused : ∀ exception after, ¬ world.Reliable →
      Quiet ns world after ∨ Removed ns world after →
      raised (.exception exception) after) :
    wp (startUnregister ns force) post raised world := by
  unfold startUnregister
  rw [wp_bind, wp_get]
  cases found : world.document.getToolset ns with
  | none =>
      simp only [World.record, found]
      apply rejected_rule
      · exact fun after untouched => idle _ after untouched
      · exact fun exception after untouched unreliable =>
          refused exception after unreliable (.inl (untouched.quiet ns))
  | some record =>
      simp only [World.record, found]
      split
      · rename_i empty
        apply finishUnregister_rule
        · intro entries after gone member
          exact removed record entries after found
            (.inl (by simpa using empty)) gone member
        · exact refused
      split
      · apply rejected_rule
        · exact fun after untouched => idle _ after untouched
        · exact fun exception after untouched unreliable =>
            refused exception after unreliable (.inl (untouched.quiet ns))
      split
      · apply rejected_rule
        · exact fun after untouched => idle _ after untouched
        · exact fun exception after untouched unreliable =>
            refused exception after unreliable (.inl (untouched.quiet ns))
      rename_i quiescent
      rw [wp_bind, wp_disconnect]
      cases mounted : world.runtimes.get ns with
      | none =>
          apply finishUnregister_rule
          · intro entries after gone member
            exact removed record entries after found (.inr mounted) gone
              member
          · exact refused
      | some existing =>
          exact disconnecting record existing found mounted
            (not_not.mp quiescent)

theorem resumeUnregistering_rule {closing : Closing} {force : Bool}
    {reply : Reply}
    (removed : ∀ entries after,
      Removed ns (world.markDone closing.runtime) after →
      Unregisters ns entries → post (.left entries) after)
    (broken : ∀ exception,
      closing.raises reply = some exception →
      raised exception (world.markDone closing.runtime))
    (refused : ∀ exception after, ¬ world.Reliable →
      Quiet ns (world.markDone closing.runtime) after ∨
        Removed ns (world.markDone closing.runtime) after →
      raised (.exception exception) after) :
    wp (resumeUnregistering ns closing force reply) post raised world := by
  unfold resumeUnregistering
  rw [wp_bind, wp_finishClose]
  cases ending : closing.raises reply with
  | some exception =>
      exact broken exception ending
  | none =>
      exact finishUnregister_rule removed refused

end Stretches

section Inventories

variable [Platform] {ns : Namespace} {record : ToolsetRecord}
  {world : World} {raised : Raised → World → Prop}
  {post : Progress → World → Prop}

/-! ## Registration -/

omit [Platform] in
/-- A newly registered record is inactive, and its scope policy is valid. -/
theorem toRecord_valid {registration : Registration}
    {transport : ToolsetTransport}
    (accepted : registration.toRecord ns transport = .ok record) :
    record.ns = ns ∧ record.loadedScopes = [] ∧
      record.recoverableScopes = [] ∧ record.transportState = .inactive ∧
      record.stale = false ∧ ScopePolicyValid record := by
  obtain ⟨unused, draft, validated⟩ := validated_of_toRecord accepted
  have valid := (validateScopePolicy_eq_ok.mp validated).2
  exact ⟨unused.ns, unused.loadedScopes, unused.recoverableScopes,
    unused.transportState, unused.stale, valid⟩

theorem startRegister_rule {transport : ToolsetTransport}
    {registration : Registration}
    (idle : ∀ error after, Untouched world after →
      post (.left [.failed error]) after)
    (registered : ∀ record after,
      world.document.getToolset ns = none →
      registration.toRecord ns transport = .ok record →
      world.nextFault = none →
      Wrote ns record world after →
      post (.left [.registered record]) after)
    (unaudited : ∀ record exception after,
      world.document.getToolset ns = none →
      registration.toRecord ns transport = .ok record →
      world.nextFault = none → ¬ world.Reliable →
      Wrote ns record world after →
      raised (.exception exception) after)
    (refused : ∀ exception after, ¬ world.Reliable →
      Untouched world after → raised (.exception exception) after) :
    wp (startRegister ns transport registration) post raised world := by
  unfold startRegister
  rw [wp_bind, wp_get]
  cases found : world.document.getToolset ns with
  | some record =>
      simp only [World.record, found]
      apply rejected_rule
      · exact fun after untouched => idle _ after untouched
      · exact fun exception after untouched unreliable =>
          refused exception after unreliable untouched
  | none =>
      simp only [World.record, found]
      cases valid : registration.toRecord ns transport with
      | error message =>
          simp only
          apply rejected_rule
          · exact fun after untouched => idle _ after untouched
          · exact fun exception after untouched unreliable =>
              refused exception after unreliable untouched
      | ok record =>
          simp only [wp_bind]
          cases fault : world.nextFault with
          | some exception =>
              simp only [upsertToolset, wp_storeWrite, fault]
              refine refused exception _ ?_ (.fault world)
              intro reliable
              rw [reliable.nextFault] at fault
              cases fault
          | none =>
              apply upsertToolset_rule (toRecord_valid valid).1
              · intro middle wrote
                apply appendAuditEvent_rule
                · intro after untouched
                  exact registered record after found valid fault
                    (wrote.untouched untouched)
                · intro exception after untouched unreliable
                  exact unaudited record exception after found valid fault
                    (fun reliable => unreliable (wrote.reliable reliable))
                    (wrote.untouched untouched)
              · intro exception after untouched unreliable
                exact refused exception after unreliable untouched

/-! ## Openings -/

omit [Platform] in
@[simp]
theorem stale_activateReused (scope : Scope) (now : Time) :
    (activateReused record scope now).stale = record.stale := by
  simp only [activateReused]
  rw [addRecoverableScope_eq, addScope_eq]

omit [Platform] in
@[simp]
theorem stale_restoreReused (missing : List Scope) (now : Time) :
    (restoreReused record missing now).stale = record.stale := by
  simp only [restoreReused]
  rw [addScopes_eq]

omit [Platform] in
@[simp]
theorem schemaHash_activateReused (scope : Scope) (now : Time) :
    (activateReused record scope now).schemaHash = record.schemaHash := by
  simp only [activateReused]
  rw [addRecoverableScope_eq, addScope_eq]

omit [Platform] in
@[simp]
theorem schemaHash_restoreReused (missing : List Scope) (now : Time) :
    (restoreReused record missing now).schemaHash = record.schemaHash := by
  simp only [restoreReused]
  rw [addScopes_eq]

theorem knownSchemaHash_rule {tools : List Tool}
    {post : String → World → Prop}
    (known : ∀ hash, post hash world)
    (unhashed : record.schemaHash = none → ∀ exception,
      raised (.exception exception) world) :
    wp (knownSchemaHash ns record tools) post raised world := by
  unfold knownSchemaHash
  cases hash : record.schemaHash with
  | some value =>
      exact known value
  | none =>
      simp only
      split
      · exact known _
      · exact unhashed hash _

theorem startActivate_rule {scope : Scope} {ifNotLoaded : Bool}
    (idle : ∀ error after, Untouched world after →
      post (.left [.failed error]) after)
    (skipped : ∀ record,
      world.document.getToolset ns = some record →
      reusableRuntime world ns record scope = none →
      ifNotLoaded = true → scope ∈ record.loadedScopes →
      post
        (.left [.skipped ns "already_active" [("scope", .str scope.value)]])
        world)
    (reused : ∀ record runtime now result after,
      world.document.getToolset ns = some record →
      scope ∈ record.supportedScopes →
      reusableRuntime world ns record scope = some runtime →
      result.ns = ns → result.scope = scope →
      Wrote ns (activateReused record scope now) world after →
      post (.left [.activated result]) after)
    (unhashed : ∀ record now exception after,
      world.document.getToolset ns = some record →
      reusableRuntime world ns record scope ≠ none →
      record.schemaHash = none →
      Wrote ns (activateReused record scope now) world after →
      raised (.exception exception) after)
    (opened : ∀ record after,
      world.document.getToolset ns = some record →
      scope ∈ record.supportedScopes →
      reusableRuntime world ns record scope = none →
      ¬ (ifNotLoaded = true ∧ scope ∈ record.loadedScopes) →
      Wrote ns ((Opening.activate scope).announced record) world after →
      post
        (.inside
          (.opening (.activate scope)
            ((Opening.activate scope).announced record) world.nextRuntime))
        (after.spawnRuntime ns))
    (failed : ∀ record exception after, ¬ world.Reliable →
      world.document.getToolset ns = some record →
      Wrote ns
        ((Opening.activate scope).failedRecord
          ((Opening.activate scope).announced record)
          ((Opening.activate scope).failure ns exception)
          (world.hasConnection ns))
        world after →
      post
        (.left [.failed ((Opening.activate scope).failure ns exception)])
        after)
    (refused : ∀ exception after, Quiet ns world after →
      ¬ world.Reliable → raised (.exception exception) after) :
    wp (startActivate ns scope ifNotLoaded) post raised world := by
  unfold startActivate
  rw [wp_bind, wp_get]
  cases found : world.document.getToolset ns with
  | none =>
      simp only [World.record, found]
      apply rejected_rule
      · exact fun after untouched => idle _ after untouched
      · exact fun exception after untouched =>
          refused exception after (untouched.quiet ns)
  | some record =>
      have named := StateDocument.getToolset_ns found
      simp only [World.record, found]
      split
      · apply rejected_rule
        · exact fun after untouched => idle _ after untouched
        · exact fun exception after untouched =>
            refused exception after (untouched.quiet ns)
      rename_i supports
      replace supports : scope ∈ record.supportedScopes := by
        simpa [supportsScope] using supports
      cases reusable : reusableRuntime world ns record scope with
      | some runtime =>
          simp only
          unfold activateReusing
          rw [wp_bind, wp_utcNow, wp_bind]
          refine upsertToolset_rule (by simpa using named) ?_ ?_
          · intro first wrote
            replace wrote := (Untouched.tick world).wrote wrote
            rw [wp_bind]
            apply appendAuditEvent_rule
            · intro after untouched
              have final := wrote.untouched untouched
              rw [wp_bind]
              apply knownSchemaHash_rule
              · intro hash
                exact reused record runtime _ _ after found supports reusable
                  rfl rfl final
              · intro missing exception
                exact unhashed record _ exception after found
                  (by simp [reusable]) (by simpa using missing) final
            · intro exception after untouched unreliable
              exact refused exception after
                (wrote.untouched untouched).toQuiet
                fun reliable => unreliable (wrote.reliable reliable)
          · intro exception after untouched unreliable
            exact refused exception after
              (((Untouched.tick world).trans untouched).quiet ns) unreliable
      | none =>
          simp only
          split
          · rename_i skips
            simp only [Bool.and_eq_true, decide_eq_true_eq] at skips
            exact skipped record found reusable skips.1 skips.2
          · rename_i opens
            simp only [Bool.and_eq_true, decide_eq_true_eq] at opens
            apply begin_rule found
            · exact fun after =>
                opened record after found supports reusable opens
            · exact fun exception after unreliable =>
                failed record exception after unreliable found
            · exact refused

omit [Platform] in
theorem startRefresh_rule {ifStale : Bool} {scope : Option Scope}
    (idle : ∀ entry after, Untouched world after →
      (∃ error, entry = .failed error) ∨
        (∃ reason details, entry = .skipped ns reason details) →
      post (.left [entry]) after)
    (opened : ∀ record,
      world.document.getToolset ns = some record →
      record.loadedScopes ≠ [] →
      post
        (.inside
          (.opening
            (.refresh scope
              (((world.document.getSchemaSnapshot ns).map
                SchemaSnapshot.tools).getD [])
              ((world.document.getSchemaSnapshot ns).map
                SchemaSnapshot.schemaHash))
            record world.nextRuntime))
        (world.spawnRuntime ns))
    (refused : ∀ exception after, Quiet ns world after →
      ¬ world.Reliable → raised (.exception exception) after) :
    wp (startRefresh ns ifStale scope) post raised world := by
  unfold startRefresh
  rw [wp_bind, wp_get]
  cases found : world.document.getToolset ns with
  | none =>
      simp only [World.record, found]
      apply rejected_rule
      · exact fun after untouched => idle _ after untouched (.inl ⟨_, rfl⟩)
      · exact fun exception after untouched =>
          refused exception after (untouched.quiet ns)
  | some record =>
      simp only [World.record, found]
      split
      · exact idle _ world (.refl world) (.inr ⟨_, _, rfl⟩)
      rename_i active
      split
      · exact idle _ world (.refl world) (.inr ⟨_, _, rfl⟩)
      split
      · exact idle _ world (.refl world) (.inr ⟨_, _, rfl⟩)
      simp only [Opening.begin, Opening.announce, Opening.announced, wp_bind,
        wp_tryExcept, wp_pure, wp_get, wp_set]
      exact opened record found (by simpa using active)

theorem startRestore_rule {stableHostIdentity startup : Bool}
    (idle : ∀ entry after, Untouched world after →
      (∃ error, entry = .failed error) ∨
        (∃ reason details, entry = .skipped ns reason details) →
      post (.left [entry]) after)
    (reused : ∀ record runtime now missing result after,
      world.document.getToolset ns = some record →
      world.runtimeFor ns = some runtime →
      missing =
        (recoveryScopes record stableHostIdentity (!startup)).filter
          (fun scope => scope ∉ record.loadedScopes) →
      missing ≠ [] →
      result.ns = ns →
      Wrote ns (restoreReused record missing now) world after →
      post (.left [.restored result]) after)
    (unhashed : ∀ record now missing exception after,
      world.document.getToolset ns = some record →
      world.runtimeFor ns ≠ none →
      missing =
        (recoveryScopes record stableHostIdentity (!startup)).filter
          (fun scope => scope ∉ record.loadedScopes) →
      record.schemaHash = none →
      Wrote ns (restoreReused record missing now) world after →
      raised (.exception exception) after)
    (opened : ∀ record candidates after,
      world.document.getToolset ns = some record →
      world.runtimeFor ns = none →
      candidates = recoveryScopes record stableHostIdentity (!startup) →
      candidates ≠ [] →
      Wrote ns ((Opening.restore candidates startup).announced record) world
        after →
      post
        (.inside
          (.opening (.restore candidates startup)
            ((Opening.restore candidates startup).announced record)
            world.nextRuntime))
        (after.spawnRuntime ns))
    (failed : ∀ record candidates exception after, ¬ world.Reliable →
      world.document.getToolset ns = some record →
      Wrote ns
        ((Opening.restore candidates startup).failedRecord
          ((Opening.restore candidates startup).announced record)
          ((Opening.restore candidates startup).failure ns exception)
          (world.hasConnection ns))
        world after →
      post
        (.left
          [.failed
            ((Opening.restore candidates startup).failure ns exception)])
        after)
    (refused : ∀ exception after, Quiet ns world after →
      ¬ world.Reliable → raised (.exception exception) after) :
    wp (startRestore ns stableHostIdentity startup) post raised world := by
  unfold startRestore
  rw [wp_bind, wp_get]
  cases found : world.document.getToolset ns with
  | none =>
      simp only [World.record, found]
      apply rejected_rule
      · exact fun after untouched => idle _ after untouched (.inl ⟨_, rfl⟩)
      · exact fun exception after untouched =>
          refused exception after (untouched.quiet ns)
  | some record =>
      have named := StateDocument.getToolset_ns found
      simp only [World.record, found]
      generalize candidatesEq :
        recoveryScopes record stableHostIdentity (!startup) = candidates
      split
      · exact idle _ world (.refl world) (.inr ⟨_, _, rfl⟩)
      rename_i offered
      cases running : world.runtimeFor ns with
      | some runtime =>
          simp only
          split
          · exact idle _ world (.refl world) (.inr ⟨_, _, rfl⟩)
          rename_i wanting
          unfold restoreReusing
          rw [wp_bind, wp_utcNow, wp_bind]
          refine upsertToolset_rule (by simpa using named) ?_ ?_
          · intro first wrote
            replace wrote := (Untouched.tick world).wrote wrote
            rw [wp_bind]
            apply knownSchemaHash_rule
            · intro hash
              rw [wp_bind]
              apply appendAuditEvent_rule
              · intro after untouched
                exact reused record runtime _ _ _ after found running
                  (by rw [candidatesEq]) (by simpa using wanting) rfl
                  (wrote.untouched untouched)
              · intro exception after untouched unreliable
                exact refused exception after
                  (wrote.untouched untouched).toQuiet
                  fun reliable => unreliable (wrote.reliable reliable)
            · intro missing exception
              exact unhashed record _ _ exception first found
                (by simp [running]) (by rw [candidatesEq])
                (by simpa using missing) wrote
          · intro exception after untouched unreliable
            exact refused exception after
              (((Untouched.tick world).trans untouched).quiet ns) unreliable
      | none =>
          simp only
          apply begin_rule found
          · exact fun after =>
              opened record candidates after found running candidatesEq.symm
                (by simpa using offered)
          · exact fun exception after unreliable =>
              failed record candidates exception after unreliable found
          · exact refused

/-- The downstream server came up and listed a valid inventory. -/
def bootstraps (ns : Namespace) (reply : Reply) : Bool :=
  match reply with
  | .ok tools => (validateToolInventory ns tools).isOk
  | .error _ => false

/-- The world once the opened runtime has taken the namespace over. -/
def landed (world : World) (ns : Namespace) (runtime : RuntimeId)
    (tools : List Tool) : World :=
  (world.setTools runtime tools).tick.mount ns runtime

omit [Platform] in
@[simp]
theorem isRunning_setTools (runtime other : RuntimeId)
    (tools : List Tool) :
    (world.setTools runtime tools).isRunning other =
      world.isRunning other := by
  unfold World.isRunning
  rw [World.setTools_objects, Function.update_apply]
  split
  · rename_i same
    rw [same]
    rfl
  · rfl

/-- The snapshot describes the inventory it lists. -/
structure Captured (ns : Namespace) (snapshot : SchemaSnapshot) : Prop where
  subject : snapshot.ns = ns
  schemaHash : snapshot.schemaHash = inventoryHash snapshot.tools
  toolCount : snapshot.toolCount = snapshot.tools.length

/-- The snapshot was taken of the listed tools. -/
structure CapturedFrom (ns : Namespace) (tools : List Tool)
    (snapshot : SchemaSnapshot) : Prop extends Captured ns snapshot where
  listed : validateToolInventory ns tools = .ok snapshot.tools

theorem resumeOpening_rule {opening : Opening} {runtime : RuntimeId}
    {reply : Reply}
    (named : record.ns = ns)
    (cancelled : reply = .error .cancelled → raised .cancelled world)
    (failed : ∀ exception after,
      bootstraps ns reply = false →
      Wrote ns
        (opening.failedRecord record (opening.failure ns exception)
          ((world.markDone runtime).hasConnection ns))
        (world.markDone runtime) after →
      post (.left [.failed (opening.failure ns exception)]) after)
    (swapping : ∀ tools snapshot existing,
      reply = .ok tools → bootstraps ns reply = true →
      CapturedFrom ns tools snapshot →
      world.runtimes.get ns = some existing →
      post
        (.inside
          (.swapping ⟨existing, world.isRunning existing⟩ opening record
            snapshot))
        ((landed world ns runtime tools).markClosed existing))
    (completed : ∀ tools snapshot now after,
      reply = .ok tools → bootstraps ns reply = true →
      CapturedFrom ns tools snapshot →
      world.runtimes.get ns = none →
      Installed ns (opening.completedRecord record snapshot now) snapshot
        (landed world ns runtime tools) after →
      post
        (.left
          [opening.completedEntry ns
            (opening.completedRecord record snapshot now) snapshot])
        after)
    (late : ∀ tools snapshot now exception entries after,
      reply = .ok tools → bootstraps ns reply = true →
      world.runtimes.get ns = none →
      ¬ world.Reliable → Quiet ns (landed world ns runtime tools) after →
      after.document.getToolset ns =
        some
          (opening.failedRecord
            (opening.completedRecord record snapshot now)
            (opening.failure ns exception)
            ((landed world ns runtime tools).hasConnection ns)) →
      .failed (opening.failure ns exception) ∈ entries →
      (∀ entry ∈ entries,
        entry = .failed (opening.failure ns exception) ∨
          opening.reportedEarly = true ∧
            entry = opening.completedEntry ns
              (opening.completedRecord record snapshot now) snapshot) →
      post (.left entries) after)
    (refused : ∀ exception after, ¬ world.Reliable →
      Quiet ns (world.markDone runtime) after ∨
        (world.runtimes.get ns = none ∧ bootstraps ns reply = true ∧
          ∃ tools, reply = .ok tools ∧
            Quiet ns (landed world ns runtime tools) after) →
      raised (.exception exception) after) :
    wp (resumeOpening ns opening record runtime reply) post raised world := by
  unfold resumeOpening landRuntime
  simp only [wp_bind, wp_tryExcept, wp_get]
  rcases reply with exception | tools
  · cases exception with
    | cancelled =>
        exact cancelled rfl
    | exception exception =>
        have handled : ∀ exception : PyException,
            wp (opening.failed ns record exception)
              (fun entries after => post (.left entries) after) raised
              (world.markDone runtime) := by
          intro exception
          apply failed_rule named
          · exact fun after wrote => failed exception after rfl wrote
          · exact fun second after quiet unreliable =>
              refused second after unreliable (.inl quiet)
        cases timedOut : exception.timeout with
        | true =>
            simp only [bootstrapped, timedOut, if_true]
            exact handled _
        | false =>
            simp only [bootstrapped, timedOut, Bool.false_eq_true, if_false]
            exact handled _
  · simp only [bootstrapped]
    cases inventory : validateToolInventory ns tools with
    | error exception =>
        simp only [wp_bind, wp_set, wp_throw, Raised.caught]
        apply failed_rule named
        · intro after wrote
          refine failed exception after ?_ wrote
          simp [bootstraps, inventory, Except.isOk, Except.toBool]
        · exact fun second after quiet unreliable =>
            refused second after unreliable (.inl quiet)
    | ok normalized =>
        have boots : bootstraps ns (.ok tools) = true := by
          simp [bootstraps, inventory, Except.isOk, Except.toBool]
        simp only [wp_bind, wp_set, buildSnapshot, wp_utcNow, wp_pure,
          wp_swapRuntime, World.tick_runtimes, World.setTools_runtimes]
        cases mounted : world.runtimes.get ns with
        | some existing =>
            simp only
            have swapped :=
              swapping tools
                { ns := ns
                  schemaHash := inventoryHash normalized
                  toolCount := normalized.length
                  tools := normalized
                  capturedAt := world.clock }
                existing rfl boots ⟨⟨rfl, rfl, rfl⟩, inventory⟩ mounted
            rw [← isRunning_setTools runtime existing tools] at swapped
            exact swapped
        | none =>
            apply complete_rule named rfl
            · intro now after installed
              exact completed tools _ now after rfl boots
                ⟨⟨rfl, rfl, rfl⟩, inventory⟩ mounted installed
            · intro now exception entries after unreliable quiet
              exact late tools _ now exception entries after rfl boots
                mounted unreliable quiet
            · intro exception after quiet unreliable
              exact refused exception after unreliable
                (.inr ⟨mounted, boots, tools, rfl, quiet⟩)

theorem resumeSwapping_rule {closing : Closing} {opening : Opening}
    {snapshot : SchemaSnapshot} {reply : Reply}
    (named : record.ns = ns) (captured : snapshot.ns = ns)
    (cancelled : closing.raises reply = some .cancelled →
      raised .cancelled (world.markDone closing.runtime))
    (failed : ∀ exception after,
      closing.raises reply = some (.exception exception) →
      Wrote ns
        (opening.failedRecord record (opening.failure ns exception)
          ((world.markDone closing.runtime).hasConnection ns))
        (world.markDone closing.runtime) after →
      post (.left [.failed (opening.failure ns exception)]) after)
    (completed : ∀ now after,
      closing.raises reply = none →
      Installed ns (opening.completedRecord record snapshot now) snapshot
        (world.markDone closing.runtime) after →
      post
        (.left
          [opening.completedEntry ns
            (opening.completedRecord record snapshot now) snapshot])
        after)
    (late : ∀ now exception entries after,
      ¬ world.Reliable →
      Quiet ns (world.markDone closing.runtime) after →
      after.document.getToolset ns =
        some
          (opening.failedRecord
            (opening.completedRecord record snapshot now)
            (opening.failure ns exception)
            ((world.markDone closing.runtime).hasConnection ns)) →
      .failed (opening.failure ns exception) ∈ entries →
      (∀ entry ∈ entries,
        entry = .failed (opening.failure ns exception) ∨
          opening.reportedEarly = true ∧
            entry = opening.completedEntry ns
              (opening.completedRecord record snapshot now) snapshot) →
      post (.left entries) after)
    (refused : ∀ exception after,
      Quiet ns (world.markDone closing.runtime) after →
      ¬ world.Reliable → raised (.exception exception) after) :
    wp (resumeSwapping ns closing opening record snapshot reply) post raised
      world := by
  unfold resumeSwapping
  rw [wp_bind, wp_tryExcept, wp_finishClose]
  cases ending : closing.raises reply with
  | none =>
      apply complete_rule named captured
      · exact fun now after installed => completed now after ending installed
      · exact late
      · exact refused
  | some exception =>
      cases exception with
      | cancelled =>
          exact cancelled ending
      | exception exception =>
          simp only [Raised.caught, wp_bind]
          apply failed_rule named
          · exact fun after wrote => failed exception after ending wrote
          · exact refused

/-! ## Health checks -/

omit [Platform] in
theorem startCheckHealth_rule {scope : Option Scope}
    (idle : ∀ entry after, Untouched world after →
      (∃ error, entry = .failed error) ∨
        (∃ reason details, entry = .skipped ns reason details) →
      post (.left [entry]) after)
    (probing : ∀ record runtime,
      world.document.getToolset ns = some record →
      world.runtimeFor ns = some runtime →
      post (.inside (.probing scope record runtime)) world)
    (unhealthy : ∀ record result final after,
      world.document.getToolset ns = some record →
      world.runtimeFor ns = none →
      result.ns = ns → Unhealthy record final (world.hasConnection ns) →
      Wrote ns final world after →
      post (.left [.checked result]) after)
    (refused : ∀ exception after, Quiet ns world after →
      ¬ world.Reliable → raised (.exception exception) after) :
    wp (startCheckHealth ns scope) post raised world := by
  unfold startCheckHealth
  rw [wp_bind, wp_get]
  cases found : world.document.getToolset ns with
  | none =>
      simp only [World.record, found]
      apply rejected_rule
      · exact fun after untouched => idle _ after untouched (.inl ⟨_, rfl⟩)
      · exact fun exception after untouched =>
          refused exception after (untouched.quiet ns)
  | some record =>
      simp only [World.record, found]
      split
      · exact idle _ world (.refl world) (.inr ⟨_, _, rfl⟩)
      split
      · exact idle _ world (.refl world) (.inr ⟨_, _, rfl⟩)
      cases running : world.runtimeFor ns with
      | some runtime =>
          exact probing record runtime found running
      | none =>
          apply reportUnhealthy_rule (by decide)
          · intro missing
            rw [found] at missing
            cases missing
          · intro current result final after same named marked wrote
            cases found.symm.trans same
            exact unhealthy record result final after found running named
              marked wrote
          · exact refused

omit [Platform] in
theorem finishUnhealthy_rule {scope : Option Scope}
    {exception : PyException}
    (unknown : world.document.getToolset ns = none → ∀ second,
      raised (.exception second) world)
    (reported : ∀ current result final after,
      world.document.getToolset ns = some current →
      result.ns = ns → Unhealthy current final (world.hasConnection ns) →
      Wrote ns final world after →
      post (.left [.checked result]) after)
    (refused : ∀ second after, Quiet ns world after →
      ¬ world.Reliable → raised (.exception second) after) :
    wp (finishUnhealthy ns scope record exception) post raised world :=
  reportUnhealthy_rule (by decide) unknown reported refused

omit [Platform] in
theorem probeFailed_rule {scope : Option Scope} {exception : PyException}
    (disconnecting : ∀ existing,
      world.runtimes.get ns = some existing →
      post
        (.inside
          (.unhealthy ⟨existing, world.isRunning existing⟩ scope record
            exception))
        ((world.unmount ns).markClosed existing))
    (unknown : world.document.getToolset ns = none → ∀ second,
      raised (.exception second) world)
    (reported : ∀ current result final after,
      world.document.getToolset ns = some current →
      world.runtimes.get ns = none →
      result.ns = ns → Unhealthy current final (world.hasConnection ns) →
      Wrote ns final world after →
      post (.left [.checked result]) after)
    (refused : ∀ second after, Quiet ns world after →
      ¬ world.Reliable → raised (.exception second) after) :
    wp (probeFailed ns scope record exception) post raised world := by
  unfold probeFailed
  rw [wp_bind, wp_disconnect]
  cases mounted : world.runtimes.get ns with
  | some existing =>
      exact disconnecting existing mounted
  | none =>
      apply finishUnhealthy_rule unknown
      · exact fun current result final after found =>
          reported current result final after found mounted
      · exact refused

/-- The runtime whose failed probe the handler is about to deal with. -/
def Stage.fails (ns : Namespace) (stage : Stage) (reply : Reply) :
    Option RuntimeId :=
  match stage, reply with
  | .probing _ _ runtime, .error (.exception exception) =>
      if exception.timeout then none else some runtime
  | .probing _ _ runtime, .ok tools =>
      if (validateToolInventory ns tools).isOk then none else some runtime
  | .aborting .., .error .cancelled => none
  | .aborting _ _ runtime, _ => some runtime
  | _, _ => none

/-- The probe lists an inventory that differs from the cached contract. -/
def drifts (ns : Namespace) (record : ToolsetRecord) (reply : Reply) : Bool :=
  match reply with
  | .ok tools =>
      match validateToolInventory ns tools with
      | .ok normalized =>
          record.schemaHash.any fun hash => hash ≠ inventoryHash normalized
      | .error _ => false
  | .error _ => false

theorem resumeProbing_rule {scope : Option Scope} {runtime : RuntimeId}
    {reply : Reply}
    (healthy : ∀ current hash count now result after,
      world.document.getToolset ns = some current →
      bootstraps ns reply = true → drifts ns record reply = false →
      result.ns = ns →
      Wrote ns
        (observedRecord current (world.hasConnection ns) .healthy hash count
          none now)
        world after →
      post (.left [.checked result]) after)
    (aborting : bootstraps ns reply = false →
      post (.inside (.aborting scope record runtime))
        (world.markClosed runtime))
    (disconnecting : ∀ exception existing,
      (Stage.probing scope record runtime).fails ns reply = some runtime →
      world.runtimes.get ns = some existing →
      post
        (.inside
          (.unhealthy ⟨existing, world.isRunning existing⟩ scope record
            exception))
        ((world.unmount ns).markClosed existing))
    (unknown : world.document.getToolset ns = none → ∀ second,
      raised (.exception second) world)
    (reported : ∀ current result final after,
      world.document.getToolset ns = some current →
      bootstraps ns reply = true ∨ world.runtimes.get ns = none →
      result.ns = ns → Unhealthy current final (world.hasConnection ns) →
      Wrote ns final world after →
      post (.left [.checked result]) after)
    (cancelled : reply = .error .cancelled → raised .cancelled world)
    (refused : ∀ second after, Quiet ns world after →
      ¬ world.Reliable → raised (.exception second) after) :
    wp (resumeProbing ns scope record runtime reply) post raised world := by
  have broken : ∀ exception,
      (Stage.probing scope record runtime).fails ns reply = some runtime →
      wp (probeFailed ns scope record exception) post raised world := by
    intro exception fails
    apply probeFailed_rule
    · exact fun existing => disconnecting exception existing fails
    · exact unknown
    · exact fun current result final after found mounted =>
        reported current result final after found (.inr mounted)
    · exact refused
  unfold resumeProbing
  rcases reply with exception | tools
  · cases exception with
    | cancelled =>
        exact cancelled rfl
    | exception exception =>
        simp only
        split
        · exact aborting rfl
        · rename_i prompt
          exact broken exception (if_neg prompt)
  · simp only
    cases inventory : validateToolInventory ns tools with
    | error exception =>
        apply broken exception
        simp [Stage.fails, inventory, Except.isOk, Except.toBool]
    | ok normalized =>
        have boots : bootstraps ns (.ok tools) = true := by
          simp [bootstraps, inventory, Except.isOk, Except.toBool]
        simp only [probeAnswered]
        split
        · apply reportUnhealthy_rule (by decide) unknown
          · exact fun current result final after found =>
              reported current result final after found (.inl boots)
          · exact refused
        · rename_i same
          have faithful : drifts ns record (.ok tools) = false := by
            cases hash : record.schemaHash with
            | none =>
                simp [drifts, inventory, hash]
            | some cached =>
                rw [hash] at same
                simpa [drifts, inventory, hash] using same
          rw [wp_bind]
          cases found : world.document.getToolset ns with
          | none =>
              simp only [recordHealthObservation, wp_bind, wp_get,
                World.record, found, wp_throw]
              exact unknown found _
          | some current =>
              apply recordHealthObservation_rule found
              · intro result now middle named wrote
                rw [wp_bind]
                apply appendAuditEvent_rule
                · intro after untouched
                  exact healthy current _ _ now result after found boots
                    faithful named (wrote.untouched untouched)
                · intro second after untouched unreliable
                  exact refused second after
                    (wrote.untouched untouched).toQuiet
                    fun reliable => unreliable (wrote.reliable reliable)
              · intro second after untouched unreliable
                exact refused second after (untouched.quiet ns) unreliable

omit [Platform] in
theorem resumeAborting_rule {scope : Option Scope} {runtime : RuntimeId}
    {reply : Reply}
    (disconnecting : ∀ exception existing,
      world.runtimes.get ns = some existing →
      post
        (.inside
          (.unhealthy
            ⟨existing, (world.markDone runtime).isRunning existing⟩ scope
            record exception))
        (((world.markDone runtime).unmount ns).markClosed existing))
    (unknown : world.document.getToolset ns = none → ∀ second,
      raised (.exception second) (world.markDone runtime))
    (reported : ∀ current result final after,
      world.document.getToolset ns = some current →
      world.runtimes.get ns = none →
      result.ns = ns →
      Unhealthy current final ((world.markDone runtime).hasConnection ns) →
      Wrote ns final (world.markDone runtime) after →
      post (.left [.checked result]) after)
    (cancelled : reply = .error .cancelled →
      raised .cancelled (world.markDone runtime))
    (refused : ∀ second after, Quiet ns (world.markDone runtime) after →
      ¬ world.Reliable → raised (.exception second) after) :
    wp (resumeAborting ns scope record runtime reply) post raised world := by
  have aborted : ∀ exception,
      wp (probeFailed ns scope record exception) post raised
        (world.markDone runtime) :=
    fun exception =>
      probeFailed_rule (disconnecting exception) unknown reported refused
  unfold resumeAborting
  simp only [wp_bind, wp_get, wp_set]
  rcases reply with exception | tools
  · cases exception with
    | cancelled =>
        exact cancelled rfl
    | exception exception =>
        exact aborted _
  · exact aborted _

omit [Platform] in
theorem resumeUnhealthy_rule {closing : Closing} {scope : Option Scope}
    {exception : PyException} {reply : Reply}
    (unknown : closing.raises reply = none →
      world.document.getToolset ns = none → ∀ second,
      raised (.exception second) (world.markDone closing.runtime))
    (reported : ∀ current result final after,
      world.document.getToolset ns = some current →
      closing.raises reply = none →
      result.ns = ns →
      Unhealthy current final
        ((world.markDone closing.runtime).hasConnection ns) →
      Wrote ns final (world.markDone closing.runtime) after →
      post (.left [.checked result]) after)
    (broken : ∀ second,
      closing.raises reply = some second →
      raised second (world.markDone closing.runtime))
    (refused : ∀ second after,
      Quiet ns (world.markDone closing.runtime) after →
      ¬ world.Reliable → raised (.exception second) after) :
    wp (resumeUnhealthy ns closing scope record exception reply) post raised
      world := by
  unfold resumeUnhealthy
  rw [wp_bind, wp_finishClose]
  cases ending : closing.raises reply with
  | some second =>
      exact broken second ending
  | none =>
      apply finishUnhealthy_rule
      · exact unknown ending
      · exact fun current result final after found =>
          reported current result final after found ending
      · exact refused

/-! ## Unregistered namespaces -/

/-- Only a registration does anything to an unregistered namespace. -/
theorem start_unknown_rule {operation : Operation}
    (missing : world.document.getToolset ns = none)
    (other : ∀ transport registration,
      operation ≠ .register transport registration)
    (idle : ∀ entry after, Untouched world after →
      post (.left [entry]) after)
    (refused : ∀ exception after, Untouched world after →
      raised (.exception exception) after) :
    wp (start operation ns) post raised world := by
  have rejects : ∀ operation scope error,
      wp (rejected operation ns scope error) post raised world :=
    fun operation scope error =>
      rejected_rule (fun after untouched => idle _ after untouched)
        fun exception after untouched _ => refused exception after untouched
  cases operation with
  | register transport registration =>
      exact absurd rfl (other transport registration)
  | activate scope ifNotLoaded =>
      simp only [start, startActivate, wp_bind, wp_get, World.record, missing]
      exact rejects _ _ _
  | refresh ifStale scope =>
      simp only [start, startRefresh, wp_bind, wp_get, World.record, missing]
      exact rejects _ _ _
  | deactivate scope force =>
      simp only [start, startDeactivate, wp_bind, wp_get, World.record,
        missing]
      exact rejects _ _ _
  | restore stableHostIdentity startup =>
      simp only [start, startRestore, wp_bind, wp_get, World.record, missing]
      exact rejects _ _ _
  | checkHealth scope =>
      simp only [start, startCheckHealth, wp_bind, wp_get, World.record,
        missing]
      exact rejects _ _ _
  | clearStale =>
      simp only [start, startClearStale, wp_bind, wp_get, World.record,
        missing]
      exact rejects _ _ _
  | markStale reason =>
      simp only [start, startMarkStale, wp_bind, wp_get, World.record,
        missing]
      exact idle _ world (.refl world)
  | unregister force =>
      simp only [start, startUnregister, wp_bind, wp_get, World.record,
        missing]
      exact rejects _ _ _

/-! ## Calls -/

omit [Platform] in
theorem callFailed_rule {tool : MountedTool} {exception : PyException}
    {post : CallProgress → World → Prop}
    (disconnecting : ∀ existing,
      world.runtimes.get tool.ns = some existing →
      post
        (.inside
          (.disconnecting ⟨existing, world.isRunning existing⟩ exception))
        ((world.unmount tool.ns).markClosed existing))
    (unmounted : world.runtimes.get tool.ns = none →
      wp (finishCallFailure tool exception) post raised world) :
    wp (callFailed tool exception) post raised world := by
  unfold callFailed
  rw [wp_bind, wp_disconnect]
  cases mounted : world.runtimes.get tool.ns with
  | some existing =>
      exact disconnecting existing mounted
  | none =>
      exact unmounted mounted

omit [Platform] in
theorem dispatchCall_rule {tool : MountedTool}
    {post : CallProgress → World → Prop}
    (calling : ∀ runtime, world.runtimeFor tool.ns = some runtime →
      post (.inside (.calling runtime)) world)
    (unconnected : world.runtimeFor tool.ns = none → ∀ exception,
      wp (callFailed tool exception) post raised world) :
    wp (dispatchCall tool) post raised world := by
  unfold dispatchCall
  rw [wp_bind, wp_get]
  cases running : world.runtimeFor tool.ns with
  | some runtime =>
      exact calling runtime running
  | none =>
      exact unconnected running _

omit [Platform] in
theorem resumeCalling_rule {tool : MountedTool} {runtime : RuntimeId}
    {reply : Except Raised CallToolResult}
    {post : CallProgress → World → Prop}
    (returned : ∀ result, reply = .ok result → post (.returned result) world)
    (aborting : ∀ exception, reply = .error (.exception exception) →
      exception.timeout = true →
      post (.inside (.aborting runtime)) (world.markClosed runtime))
    (failed : ∀ exception, reply = .error (.exception exception) →
      exception.timeout = false →
      wp (callFailed tool exception) post raised world)
    (cancelled : reply = .error .cancelled → raised .cancelled world) :
    wp (resumeCall tool (.calling runtime) reply) post raised world := by
  unfold resumeCall
  rcases reply with exception | result
  · cases exception with
    | cancelled =>
        exact cancelled rfl
    | exception exception =>
        cases timedOut : exception.timeout with
        | true =>
            simp only [timedOut, if_true]
            exact aborting exception rfl timedOut
        | false =>
            simp only [timedOut, Bool.false_eq_true, if_false]
            exact failed exception rfl timedOut
  · exact returned result rfl

omit [Platform] in
theorem resumeCallAborting_rule {tool : MountedTool} {runtime : RuntimeId}
    {reply : Except Raised CallToolResult}
    {post : CallProgress → World → Prop}
    (failed : ∀ exception, reply ≠ .error .cancelled →
      wp (callFailed tool exception) post raised (world.markDone runtime))
    (cancelled : reply = .error .cancelled →
      raised .cancelled (world.markDone runtime)) :
    wp (resumeCall tool (.aborting runtime) reply) post raised world := by
  unfold resumeCall
  simp only [wp_bind, wp_get, wp_set]
  rcases reply with exception | result
  · cases exception with
    | cancelled =>
        exact cancelled rfl
    | exception exception =>
        exact failed _ (by simp)
  · exact failed _ (by simp)

omit [Platform] in
theorem resumeCallDisconnecting_rule {tool : MountedTool}
    {closing : Closing} {exception : PyException}
    {reply : Except Raised CallToolResult}
    {post : CallProgress → World → Prop}
    (finished : closing.raises reply = none →
      wp (finishCallFailure tool exception) post raised
        (world.markDone closing.runtime))
    (broken : ∀ second, closing.raises reply = some second →
      raised second (world.markDone closing.runtime)) :
    wp (resumeCall tool (.disconnecting closing exception) reply) post raised
      world := by
  unfold resumeCall
  rw [wp_bind, wp_finishClose]
  cases ending : closing.raises reply with
  | some second =>
      exact broken second ending
  | none =>
      exact finished ending

end Inventories

end ToolboxMcp
