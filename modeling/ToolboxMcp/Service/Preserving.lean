import ToolboxMcp.Service.Scoping

/-!
# What an opening puts at risk

An activation, a refresh or a restore that opens a runtime keeps the last known
good state of its namespace until the new runtime lands: up to then it changes
only what the record says about its transport.  Adding a scope to a running
runtime is reported at once.
-/

namespace ToolboxMcp

open Effect

/-- The record apart from what it says about its transport. -/
def ToolsetRecord.unreported (record : ToolsetRecord) : ToolsetRecord :=
  { record with
    transportState := .inactive
    stale := false
    staleReason := none
    lastError := none }

/-- The runtime with its tools, the snapshots and the record are as before,
apart from what the record says about its transport. -/
structure KnownGood (ns : Namespace) (before after : World) : Prop where
  mounted : after.mounted ns = before.mounted ns
  tools :
    ∀ runtime, before.mounted ns = some runtime →
      (after.objects runtime).tools = (before.objects runtime).tools
  record :
    (after.document.getToolset ns).map ToolsetRecord.unreported =
      (before.document.getToolset ns).map ToolsetRecord.unreported
  snapshot :
    after.document.getSchemaSnapshot ns =
      before.document.getSchemaSnapshot ns
  previousSnapshot :
    after.document.getPreviousSchemaSnapshot ns =
      before.document.getPreviousSchemaSnapshot ns

/-- The namespace has one of the runtimes opened from `first` on. -/
def World.Renewed (world : World) (first : RuntimeId) (ns : Namespace) :
    Prop :=
  ∃ runtime, world.mounted ns = some runtime ∧ first ≤ runtime

namespace KnownGood

variable {ns : Namespace} {before after : World}

theorem refl (world : World) : KnownGood ns world world :=
  ⟨rfl, fun _ _ => rfl, rfl, rfl, rfl⟩

theorem trans {third : World} (left : KnownGood ns before after)
    (right : KnownGood ns after third) : KnownGood ns before third where
  mounted := right.mounted.trans left.mounted
  tools := by
    intro runtime mounted
    have later : after.mounted ns = some runtime :=
      left.mounted.trans mounted
    exact (right.tools runtime later).trans (left.tools runtime mounted)
  record := right.record.trans left.record
  snapshot := right.snapshot.trans left.snapshot
  previousSnapshot := right.previousSnapshot.trans left.previousSnapshot

theorem renewed {first : RuntimeId} (good : KnownGood ns before after)
    (renewed : before.Renewed first ns) : after.Renewed first ns := by
  obtain ⟨runtime, mounted, later⟩ := renewed
  exact ⟨runtime, good.mounted.trans mounted, later⟩

end KnownGood

section Writes

variable {ns : Namespace} {record : ToolsetRecord} {before after : World}

theorem Untouched.knownGood (untouched : Untouched before after) :
    KnownGood ns before after where
  mounted := by
    unfold World.mounted
    rw [untouched.runtimes]
  tools _ _ := by rw [untouched.objects]
  record := by rw [untouched.records]
  snapshot := untouched.snapshots ns
  previousSnapshot := untouched.previousSnapshots ns

/-- Storing a record that differs only in what it says about its transport. -/
theorem Wrote.knownGood (wrote : Wrote ns record before after)
    (stored :
      (before.document.getToolset ns).map ToolsetRecord.unreported =
        some record.unreported) :
    KnownGood ns before after where
  mounted := by
    unfold World.mounted
    rw [wrote.runtimes]
  tools _ _ := by rw [wrote.objects]
  record := by
    rw [wrote.written, stored]
    rfl
  snapshot := wrote.sameSnapshot
  previousSnapshot := wrote.samePrevious

theorem knownGood_markDone (runtime : RuntimeId) :
    KnownGood ns before (before.markDone runtime) where
  mounted := rfl
  tools other _ := by
    rw [World.markDone_objects, Function.update_apply]
    split
    · rename_i same
      rw [same]
    · rfl
  record := rfl
  snapshot := rfl
  previousSnapshot := rfl

theorem knownGood_spawnRuntime (housed : before.Housed) (home : Namespace) :
    KnownGood ns before (before.spawnRuntime home) where
  mounted := rfl
  tools runtime mounted := by
    have issued := (housed ns runtime mounted).1
    rw [World.spawnRuntime_objects, Function.update_of_ne issued.ne]
  record := rfl
  snapshot := rfl
  previousSnapshot := rfl

/-- A stretch of another namespace. -/
theorem Confined.knownGood {home : Namespace}
    (confined : Confined home before after) (housed : before.Housed)
    (different : ns ≠ home) : KnownGood ns before after where
  mounted := confined.runtimes ns different
  tools runtime mounted := by
    obtain ⟨issued, owner⟩ := housed ns runtime mounted
    rw [confined.foreign runtime issued (by rwa [owner])]
  record := by rw [confined.records ns different]
  snapshot := confined.snapshots ns different
  previousSnapshot := confined.previousSnapshots ns different

theorem Quiet.renewed {first : RuntimeId} {home : Namespace}
    (quiet : Quiet home before after) (renewed : before.Renewed first ns) :
    after.Renewed first ns := by
  unfold World.Renewed World.mounted at renewed ⊢
  rw [quiet.runtimes]
  exact renewed

end Writes

/-! ## Stretches of an opening -/

/-- The operations that open runtimes. -/
def Operation.opens : Operation → Bool
  | .activate .. => true
  | .refresh .. => true
  | .restore .. => true
  | _ => false

/-- The entry reports new scopes of the namespace. -/
def Entry.serves (ns : Namespace) : Entry → Bool
  | .activated result => result.ns = ns
  | .restored result => result.ns = ns
  | _ => false

/-- The stages of an opening; its runtime is one opened from `first` on. -/
def Stage.Openings (first : RuntimeId) : Stage → Prop
  | .opening _ _ runtime => first ≤ runtime
  | .swapping .. => True
  | _ => False

/-- The runtime has not landed, and the record in the locals differs from the
stored one at most in what it says about its transport. -/
def Stage.Unlanded (world : World) (ns : Namespace) : Stage → Prop
  | .opening _ record _ =>
      (world.document.getToolset ns).map ToolsetRecord.unreported =
        some record.unreported
  | _ => False

theorem Stage.Openings.mono {first earlier : RuntimeId} {stage : Stage}
    (openings : stage.Openings first) (sooner : earlier ≤ first) :
    stage.Openings earlier := by
  cases stage with
  | opening purpose record runtime =>
      exact sooner.trans openings
  | swapping closing purpose record snapshot =>
      trivial
  | _ =>
      cases openings

theorem Stage.Unlanded.same {ns : Namespace} {before after : World}
    {stage : Stage} (unlanded : stage.Unlanded before ns)
    (good : KnownGood ns before after) : stage.Unlanded after ns := by
  cases stage with
  | opening purpose record runtime =>
      exact good.record.trans unlanded
  | _ =>
      cases unlanded

/-- The operation adds scopes to a running runtime. -/
def World.reuses (world : World) (ns : Namespace) : Operation → Bool
  | .activate scope _ =>
      (world.record ns).any fun record =>
        supportsScope record scope &&
          (reusableRuntime world ns record scope).isSome
  | .restore identity startup =>
      (world.record ns).any fun record =>
        (world.runtimeFor ns).isSome &&
          !((recoveryScopes record identity (!startup)).filter fun scope =>
            scope ∉ record.loadedScopes).isEmpty
  | _ => false

/-- The reply to the stage lands a runtime. -/
def Stage.lands [Platform] (ns : Namespace) (reply : Reply) : Stage → Bool
  | .opening .. => bootstraps ns reply
  | _ => false

/-- What a stretch of an opening does; `unlanded` says that no runtime has
landed before it, and `exposes` that it lands one or reuses one. -/
structure Progress.Opens (first : RuntimeId) (ns : Namespace)
    (unlanded : Prop) (exposes : Bool) (before after : World)
    (progress : Progress) : Prop where
  openings : ∀ stage, progress = .inside stage → stage.Openings first
  good : unlanded → exposes = false → KnownGood ns before after
  pending :
    unlanded → exposes = false →
      ∀ stage, progress = .inside stage → stage.Unlanded after ns
  silent :
    unlanded → exposes = false →
      ∀ entry ∈ progress.entries, entry.serves ns = false
  own :
    ∀ entry ∈ progress.entries, ∀ other, entry.serves other = true →
      other = ns
  renewed :
    ∀ earlier ≤ first, before.Renewed earlier ns →
      after.Renewed earlier ns

section Endings

variable {first : RuntimeId} {ns : Namespace} {unlanded : Prop}
  {exposes : Bool} {before after : World}

theorem Progress.Opens.mono {sooner : RuntimeId} {progress : Progress}
    (opens : progress.Opens first ns unlanded exposes before after)
    (earlier : sooner ≤ first) :
    progress.Opens sooner ns unlanded exposes before after :=
  { opens with
    openings := fun stage inside =>
      (opens.openings stage inside).mono earlier
    renewed := fun other before => opens.renewed other (before.trans earlier) }

/-- The block is left with nothing changed, as far as it matters here. -/
theorem KnownGood.opens {entries : List Entry}
    (good : KnownGood ns before after)
    (silent : ∀ entry ∈ entries, ∀ other, entry.serves other = false) :
    (Progress.left entries).Opens first ns unlanded exposes before after where
  openings := by
    intro stage inside
    cases inside
  good _ _ := good
  pending := by
    intro _ _ stage inside
    cases inside
  silent _ _ entry member := silent entry member ns
  own := by
    intro entry member other serves
    rw [silent entry member other] at serves
    cases serves
  renewed _ _ renewed := good.renewed renewed

theorem silent_failed (error : ErrorInfo) :
    ∀ entry ∈ [Entry.failed error], ∀ other, entry.serves other = false := by
  intro entry member other
  rw [List.mem_singleton.mp member]
  rfl

theorem silent_skipped (reason : String) (details : List (String × Json)) :
    ∀ entry ∈ [Entry.skipped ns reason details], ∀ other,
      entry.serves other = false := by
  intro entry member other
  rw [List.mem_singleton.mp member]
  rfl

theorem silent_idle {entry : Entry}
    (idle : (∃ error, entry = .failed error) ∨
      (∃ reason details, entry = .skipped ns reason details)) :
    ∀ reported ∈ [entry], ∀ other, reported.serves other = false := by
  rcases idle with ⟨error, same⟩ | ⟨reason, details, same⟩
  · rw [same]
    exact silent_failed error
  · rw [same]
    exact silent_skipped reason details

/-- The block is left after a runtime has landed or was reused. -/
theorem opens_exposed {entries : List Entry}
    (exposed : unlanded → exposes = true)
    (own : ∀ entry ∈ entries, ∀ other, entry.serves other = true →
      other = ns)
    (renewed : ∀ earlier ≤ first, before.Renewed earlier ns →
      after.Renewed earlier ns) :
    (Progress.left entries).Opens first ns unlanded exposes before after where
  openings := by
    intro stage inside
    cases inside
  good holds hidden := by
    rw [exposed holds] at hidden
    cases hidden
  pending := by
    intro _ _ stage inside
    cases inside
  silent holds hidden := by
    rw [exposed holds] at hidden
    cases hidden
  own := own
  renewed := renewed

end Endings

section Records

variable {ns : Namespace} {record : ToolsetRecord} {purpose : Opening}

theorem unreported_announced :
    (purpose.announced record).unreported = record.unreported := by
  cases purpose <;> rfl

theorem unreported_failedRecord (error : ErrorInfo) (connected : Bool) :
    (purpose.failedRecord record error connected).unreported =
      record.unreported := by
  cases purpose <;> rfl

theorem own_completedEntry [Platform] {snapshot : SchemaSnapshot}
    {other : Namespace}
    (serves :
      (purpose.completedEntry ns record snapshot).serves other = true) :
    other = ns := by
  cases purpose with
  | activate scope =>
      exact (of_decide_eq_true serves).symm
  | restore candidates startup =>
      exact (of_decide_eq_true serves).symm
  | refresh scope previousTools oldHash =>
      cases serves

theorem own_failed (error : ErrorInfo) :
    ∀ entry ∈ [Entry.failed error], ∀ other,
      entry.serves other = true → other = ns := by
  intro entry member other serves
  rw [List.mem_singleton.mp member] at serves
  cases serves

theorem own_completed [Platform] (snapshot : SchemaSnapshot) :
    ∀ entry ∈ [purpose.completedEntry ns record snapshot], ∀ other,
      entry.serves other = true → other = ns := by
  intro entry member other serves
  rw [List.mem_singleton.mp member] at serves
  exact own_completedEntry serves

/-- The entries of an opening that failed after it had succeeded. -/
theorem own_late [Platform] {snapshot : SchemaSnapshot} {error : ErrorInfo}
    {entries : List Entry} {early : Prop}
    (reported : ∀ entry ∈ entries,
      entry = .failed error ∨
        early ∧ entry = purpose.completedEntry ns record snapshot) :
    ∀ entry ∈ entries, ∀ other, entry.serves other = true → other = ns := by
  intro entry member other serves
  rcases reported entry member with same | ⟨_, same⟩
  · rw [same] at serves
    cases serves
  · rw [same] at serves
    exact own_completedEntry serves

end Records

section Stretches

variable [Platform] {ns : Namespace} {world : World} {purpose : Opening}
  {record : ToolsetRecord}

omit [Platform] in
/-- A body has announced its opening. -/
theorem opens_begun {exposes : Bool} {after : World}
    (housed : world.Housed)
    (found : world.document.getToolset ns = some record)
    (wrote : Wrote ns (purpose.announced record) world after) :
    (Progress.inside
      (.opening purpose (purpose.announced record)
        world.nextRuntime)).Opens world.nextRuntime ns True exposes world
      (after.spawnRuntime ns) := by
  have stored :
      (world.document.getToolset ns).map ToolsetRecord.unreported =
        some (purpose.announced record).unreported := by
    rw [found, unreported_announced]
    rfl
  have announced := wrote.knownGood stored
  have stillHoused : after.Housed := by
    intro home runtime mounted
    unfold World.Owned
    rw [wrote.runtimes] at mounted
    rw [wrote.nextRuntime, wrote.objects]
    exact housed home runtime mounted
  have good := announced.trans (knownGood_spawnRuntime stillHoused ns)
  have written :
      ((after.spawnRuntime ns).document.getToolset ns).map
          ToolsetRecord.unreported =
        some (purpose.announced record).unreported :=
    good.record.trans stored
  constructor
  · intro stage inside
    cases inside
    exact le_rfl
  · exact fun _ _ => good
  · intro _ _ stage inside
    cases inside
    exact written
  · intro _ _ entry member
    cases member
  · intro entry member
    cases member
  · exact fun _ _ => good.renewed

omit [Platform] in
theorem opens_failed {exposes : Bool} {error : ErrorInfo}
    {connected : Bool} {after : World}
    (found : world.document.getToolset ns = some record)
    (wrote :
      Wrote ns
        (purpose.failedRecord (purpose.announced record) error connected)
        world after) :
    (Progress.left [.failed error]).Opens world.nextRuntime ns True exposes
      world after := by
  have stored :
      (world.document.getToolset ns).map ToolsetRecord.unreported =
        some (purpose.failedRecord (purpose.announced record) error
          connected).unreported := by
    rw [found, unreported_failedRecord, unreported_announced]
    rfl
  exact (wrote.knownGood stored).opens (silent_failed error)

theorem start_opens (housed : world.Housed) {operation : Operation}
    (opens : operation.opens = true) :
    wp (start operation ns)
      (fun progress after =>
        progress.Opens world.nextRuntime ns True (world.reuses ns operation)
          world after)
      (fun _ _ => True) world := by
  cases operation with
  | activate scope ifNotLoaded =>
      apply startActivate_rule
      · exact fun error after untouched =>
          untouched.knownGood.opens (silent_failed error)
      · exact fun _ _ _ _ _ =>
          (KnownGood.refl world).opens (silent_skipped _ _)
      · intro record runtime now result after found supported reusable
          subject _ wrote
        have exposed :
            world.reuses ns (.activate scope ifNotLoaded) = true := by
          simp [World.reuses, World.record, found, supportsScope, supported,
            reusable]
        have own : ∀ entry ∈ [Entry.activated result], ∀ other,
            entry.serves other = true → other = ns := by
          intro entry member other serves
          rw [List.mem_singleton.mp member] at serves
          exact (of_decide_eq_true serves).symm.trans subject
        exact opens_exposed (fun _ => exposed) own
          fun _ _ => wrote.toQuiet.renewed
      · exact fun _ _ _ _ _ _ _ _ => trivial
      · exact fun _ _ found _ _ _ wrote => opens_begun housed found wrote
      · exact fun _ _ _ _ found wrote => opens_failed found wrote
      · exact fun _ _ _ _ => trivial
  | refresh ifStale scope =>
      apply startRefresh_rule
      · exact fun entry after untouched idle =>
          untouched.knownGood.opens (silent_idle idle)
      · intro record found _
        have announced :
            Wrote ns
              ((Opening.refresh scope
                (((world.document.getSchemaSnapshot ns).map
                  SchemaSnapshot.tools).getD [])
                ((world.document.getSchemaSnapshot ns).map
                  SchemaSnapshot.schemaHash)).announced record)
              world world := ⟨.refl world, found, rfl, rfl⟩
        exact opens_begun housed found announced
      · exact fun _ _ _ _ => trivial
  | restore identity startup =>
      apply startRestore_rule
      · exact fun entry after untouched idle =>
          untouched.knownGood.opens (silent_idle idle)
      · intro record runtime now missing result after found running lacking
          wanted subject wrote
        have exposed :
            world.reuses ns (.restore identity startup) = true := by
          rw [lacking] at wanted
          simpa [World.reuses, World.record, found, running] using wanted
        have own : ∀ entry ∈ [Entry.restored result], ∀ other,
            entry.serves other = true → other = ns := by
          intro entry member other serves
          rw [List.mem_singleton.mp member] at serves
          exact (of_decide_eq_true serves).symm.trans subject
        exact opens_exposed (fun _ => exposed) own
          fun _ _ => wrote.toQuiet.renewed
      · exact fun _ _ _ _ _ _ _ _ _ _ => trivial
      · exact fun _ _ _ found _ _ _ wrote => opens_begun housed found wrote
      · exact fun _ _ _ _ _ found wrote => opens_failed found wrote
      · exact fun _ _ _ _ => trivial
  | _ =>
      cases opens

theorem activateReusing_serves (named : record.ns = ns) (scope : Scope)
    (tools : List Tool) :
    wp (activateReusing ns scope record tools)
      (fun progress _ =>
        ∃ entry ∈ progress.entries, entry.serves ns = true)
      (fun _ _ => True) world := by
  unfold activateReusing
  rw [wp_bind, wp_utcNow, wp_bind]
  refine upsertToolset_rule (by simpa using named) ?_
    fun _ _ _ _ => trivial
  intro first wrote
  rw [wp_bind]
  refine appendAuditEvent_rule ?_ fun _ _ _ _ => trivial
  intro after untouched
  rw [wp_bind]
  apply knownSchemaHash_rule
  · intro hash
    exact ⟨_, List.mem_cons_self, decide_eq_true rfl⟩
  · exact fun _ _ => trivial

theorem restoreReusing_serves (named : record.ns = ns)
    (missing : List Scope) (startup : Bool) (tools : List Tool) :
    wp (restoreReusing ns missing startup record tools)
      (fun progress _ =>
        ∃ entry ∈ progress.entries, entry.serves ns = true)
      (fun _ _ => True) world := by
  unfold restoreReusing
  rw [wp_bind, wp_utcNow, wp_bind]
  refine upsertToolset_rule (by simpa using named) ?_
    fun _ _ _ _ => trivial
  intro first wrote
  rw [wp_bind]
  apply knownSchemaHash_rule
  · intro hash
    rw [wp_bind]
    refine appendAuditEvent_rule ?_ fun _ _ _ _ => trivial
    intro after untouched
    exact ⟨_, List.mem_cons_self, decide_eq_true rfl⟩
  · exact fun _ _ => trivial

/-- Scopes added to a running runtime are reported. -/
theorem start_serves {operation : Operation}
    (reuses : world.reuses ns operation = true) :
    wp (start operation ns)
      (fun progress _ =>
        ∃ entry ∈ progress.entries, entry.serves ns = true)
      (fun _ _ => True) world := by
  cases operation with
  | activate scope ifNotLoaded =>
      obtain ⟨record, found, wanted⟩ :=
        (Option.any_eq_true _ _).mp reuses
      obtain ⟨supported, reusable⟩ := (Bool.and_eq_true _ _).mp wanted
      obtain ⟨runtime, reusable⟩ := Option.isSome_iff_exists.mp reusable
      have named := StateDocument.getToolset_ns found
      change wp (startActivate ns scope ifNotLoaded) _ _ world
      unfold startActivate
      rw [wp_bind, wp_get]
      simp only [found, supported, Bool.not_true, Bool.false_eq_true,
        if_false, reusable]
      exact activateReusing_serves named scope _
  | restore identity startup =>
      obtain ⟨record, found, wanted⟩ :=
        (Option.any_eq_true _ _).mp reuses
      obtain ⟨running, lacking⟩ := (Bool.and_eq_true _ _).mp wanted
      obtain ⟨runtime, running⟩ := Option.isSome_iff_exists.mp running
      have named := StateDocument.getToolset_ns found
      have missing := Bool.eq_false_of_not_eq_true' lacking
      have offered :
          (recoveryScopes record identity (!startup)).isEmpty = false := by
        rw [List.isEmpty_eq_false_iff] at missing ⊢
        intro nothing
        rw [nothing] at missing
        exact missing rfl
      change wp (startRestore ns identity startup) _ _ world
      unfold startRestore
      rw [wp_bind, wp_get]
      simp only [found, offered, Bool.false_eq_true, if_false, running,
        missing]
      exact restoreReusing_serves named _ startup _
  | _ =>
      cases reuses

/-- A bootstrap with a valid inventory lands its runtime. -/
theorem resumeOpening_lands {runtime : RuntimeId} {reply : Reply}
    (named : record.ns = ns) (boots : bootstraps ns reply = true) :
    wp (resumeOpening ns purpose record runtime reply)
      (fun _ after => after.mounted ns = some runtime)
      (fun _ _ => True) world := by
  have landedMounted : ∀ tools,
      (landed world ns runtime tools).mounted ns = some runtime := by
    intro tools
    simp [landed, World.mounted, Dict.get_set]
  have quietly : ∀ {after : World} {tools : List Tool},
      Quiet ns (landed world ns runtime tools) after →
      after.mounted ns = some runtime := by
    intro after tools quiet
    rw [← landedMounted tools]
    unfold World.mounted
    rw [quiet.runtimes]
  apply resumeOpening_rule named
  · exact fun _ => trivial
  · intro exception after fails
    rw [boots] at fails
    cases fails
  · exact fun tools _ _ _ _ _ _ => landedMounted tools
  · exact fun _ _ _ _ _ _ _ _ installed => quietly installed.toQuiet
  · exact fun _ _ _ _ _ _ _ _ _ _ quiet _ _ _ => quietly quiet
  · exact fun _ _ _ _ => trivial

theorem resume_opens {first : RuntimeId} {stage : Stage} {reply : Reply}
    (openings : stage.Openings first) (proper : stage.Proper world ns) :
    wp (resume ns stage reply)
      (fun progress after =>
        progress.Opens first ns (stage.Unlanded world ns)
          (stage.lands ns reply) world after)
      (fun _ _ => True) world := by
  cases stage with
  | opening purpose record runtime =>
      have exposed : ∀ {unlanded : Prop}, bootstraps ns reply = true →
          unlanded →
            (Stage.opening purpose record runtime).lands ns reply = true :=
        fun boots _ => boots
      have arrived : ∀ {after : World} {tools : List Tool},
          Quiet ns (landed world ns runtime tools) after →
          ∀ earlier ≤ first, world.Renewed earlier ns →
            after.Renewed earlier ns := by
        intro after tools quiet earlier sooner _
        apply quiet.renewed
        have mounted : (landed world ns runtime tools).mounted ns =
            some runtime := by
          simp [landed, World.mounted, Dict.get_set]
        exact ⟨runtime, mounted, sooner.trans openings⟩
      apply resumeOpening_rule proper.1
      · exact fun _ => trivial
      · intro exception after fails wrote
        have marked : KnownGood ns world (world.markDone runtime) :=
          knownGood_markDone runtime
        have good : (Stage.opening purpose record runtime).Unlanded world ns →
            KnownGood ns world after := by
          intro stored
          apply marked.trans
          apply wrote.knownGood
          rw [unreported_failedRecord]
          exact stored
        constructor
        · intro stage inside
          cases inside
        · exact fun stored _ => good stored
        · intro _ _ stage inside
          cases inside
        · exact fun _ _ entry member =>
            silent_failed _ entry member ns
        · exact own_failed _
        · exact fun _ _ renewed =>
            wrote.toQuiet.renewed (marked.renewed renewed)
      · intro tools snapshot existing _ boots _ _
        have hidden : ∀ {fact : Prop},
            (Stage.opening purpose record runtime).lands ns reply = false →
              fact := by
          intro fact hidden
          cases hidden.symm.trans boots
        constructor
        · intro stage inside
          cases inside
          trivial
        · exact fun _ => hidden
        · exact fun _ => hidden
        · exact fun _ => hidden
        · intro entry member
          cases member
        · intro earlier sooner renewed
          have reached : (landed world ns runtime tools).Renewed earlier ns :=
            arrived (.refl _) earlier sooner renewed
          exact reached
      · intro tools snapshot now after _ boots _ _ installed
        exact opens_exposed (exposed boots) (own_completed snapshot)
          (arrived installed.toQuiet)
      · intro tools snapshot now exception entries after _ boots _ _ quiet _ _
          reported
        exact opens_exposed (exposed boots) (own_late reported)
          (arrived quiet)
      · exact fun _ _ _ _ => trivial
  | swapping closing purpose record snapshot =>
      have renewed : ∀ {after : World},
          Quiet ns (world.markDone closing.runtime) after →
          ∀ earlier ≤ first, world.Renewed earlier ns →
            after.Renewed earlier ns :=
        fun quiet _ _ before => quiet.renewed before
      have landed : ∀ {exposes : Bool},
          (Stage.swapping closing purpose record snapshot).Unlanded world ns →
            exposes = true := False.elim
      apply resumeSwapping_rule proper.1 proper.2.1
      · exact fun _ => trivial
      · intro exception after _ wrote
        exact opens_exposed landed (own_failed _) (renewed wrote.toQuiet)
      · intro now after _ installed
        exact opens_exposed landed (own_completed snapshot)
          (renewed installed.toQuiet)
      · intro now exception entries after _ quiet _ _ reported
        exact opens_exposed landed (own_late reported) (renewed quiet)
      · exact fun _ _ _ _ => trivial
  | _ =>
      cases openings

/-- The runtime a reply lands is one opened from `first` on. -/
theorem resume_lands {first : RuntimeId} {stage : Stage} {reply : Reply}
    (openings : stage.Openings first) (proper : stage.Proper world ns)
    (lands : stage.lands ns reply = true) :
    wp (resume ns stage reply)
      (fun _ after => after.Renewed first ns)
      (fun _ _ => True) world := by
  cases stage with
  | opening purpose record runtime =>
      apply wp_mono (resumeOpening_lands proper.1 lands)
      · exact fun _ _ mounted => ⟨runtime, mounted, openings⟩
      · exact fun _ _ => id
  | _ =>
      cases lands

end Stretches

end ToolboxMcp
