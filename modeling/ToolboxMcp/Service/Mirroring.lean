import ToolboxMcp.Service.Listing
import ToolboxMcp.Service.Scoping

/-!
# What the cache shows of mounted runtimes

The cached snapshot of a namespace was taken of the runtime mounted there,
except while an opening waits for the runtime it has replaced to close.  An
active namespace has a cached snapshot, and a refresh reports the differences
from the one it retires.
-/

namespace ToolboxMcp

open Effect

/-! ## What leaves a namespace as it is -/

/-- The runtime of the namespace is kept or lost; its snapshots and its loaded
scopes are the same. -/
structure Thins (ns : Namespace) (before after : World) : Prop where
  mounted :
    ∀ runtime, after.runtimes.get ns = some runtime →
      before.runtimes.get ns = some runtime ∧
        (after.objects runtime).tools = (before.objects runtime).tools
  snapshot :
    after.document.getSchemaSnapshot ns =
      before.document.getSchemaSnapshot ns
  previous :
    after.document.getPreviousSchemaSnapshot ns =
      before.document.getPreviousSchemaSnapshot ns
  scopes :
    ∀ record, after.document.getToolset ns = some record →
      ∃ current, before.document.getToolset ns = some current ∧
        current.loadedScopes = record.loadedScopes

section Thinning

variable {ns : Namespace} {before after world : World}

theorem Thins.refl (world : World) : Thins ns world world :=
  ⟨fun _ found => ⟨found, rfl⟩, rfl, rfl, fun record found =>
    ⟨record, found, rfl⟩⟩

theorem Thins.trans {third : World} (left : Thins ns before after)
    (right : Thins ns after third) : Thins ns before third where
  mounted runtime found := by
    obtain ⟨middle, later⟩ := right.mounted runtime found
    obtain ⟨first, earlier⟩ := left.mounted runtime middle
    exact ⟨first, later.trans earlier⟩
  snapshot := right.snapshot.trans left.snapshot
  previous := right.previous.trans left.previous
  scopes record found := by
    obtain ⟨middle, among, later⟩ := right.scopes record found
    obtain ⟨current, stored, earlier⟩ := left.scopes middle among
    exact ⟨current, stored, earlier.trans later⟩

theorem Untouched.thins (untouched : Untouched before after) :
    Thins ns before after where
  mounted runtime found := by
    rw [untouched.runtimes] at found
    exact ⟨found, by rw [untouched.objects]⟩
  snapshot := untouched.snapshots ns
  previous := untouched.previousSnapshots ns
  scopes record found := by
    rw [untouched.records] at found
    exact ⟨record, found, rfl⟩

theorem Wrote.thins {record current : ToolsetRecord}
    (wrote : Wrote ns record before after)
    (found : before.document.getToolset ns = some current)
    (same : record.loadedScopes = current.loadedScopes) :
    Thins ns before after where
  mounted runtime mounted := by
    rw [wrote.runtimes] at mounted
    exact ⟨mounted, by rw [wrote.objects]⟩
  snapshot := wrote.sameSnapshot
  previous := wrote.samePrevious
  scopes other stored := by
    cases wrote.written.symm.trans stored
    exact ⟨current, found, same.symm⟩

theorem Confined.thins {home : Namespace}
    (confined : Confined home before after)
    (housed : before.Housed) (different : ns ≠ home) :
    Thins ns before after where
  mounted runtime found := by
    rw [confined.runtimes ns different] at found
    obtain ⟨present, named⟩ := housed ns runtime found
    have stranger : (before.objects runtime).ns ≠ home := by
      rw [named]
      exact different
    exact ⟨found, by rw [confined.foreign runtime present stranger]⟩
  snapshot := confined.snapshots ns different
  previous := confined.previousSnapshots ns different
  scopes record found := by
    rw [confined.records ns different] at found
    exact ⟨record, found, rfl⟩

theorem thins_markDone (runtime : RuntimeId) :
    Thins ns world (world.markDone runtime) where
  mounted other found := by
    refine ⟨found, ?_⟩
    rw [World.markDone_objects, Function.update_apply]
    split
    · rename_i same
      rw [same]
    · rfl
  snapshot := rfl
  previous := rfl
  scopes record found := ⟨record, found, rfl⟩

theorem thins_markClosed (runtime : RuntimeId) :
    Thins ns world (world.markClosed runtime) where
  mounted other found := by
    refine ⟨found, ?_⟩
    rw [World.markClosed_objects, Function.update_apply]
    split
    · rename_i same
      rw [same]
    · rfl
  snapshot := rfl
  previous := rfl
  scopes record found := ⟨record, found, rfl⟩

theorem thins_unmount : Thins ns world (world.unmount ns) where
  mounted other found := by
    simp [Dict.get_pop] at found
  snapshot := rfl
  previous := rfl
  scopes record found := ⟨record, found, rfl⟩

theorem thins_spawnRuntime (housed : world.Housed) (home : Namespace) :
    Thins ns world (world.spawnRuntime home) where
  mounted other found := by
    have present := (housed ns other found).1
    exact ⟨found, by simp [Function.update_of_ne present.ne]⟩
  snapshot := rfl
  previous := rfl
  scopes record found := ⟨record, found, rfl⟩

end Thinning

/-! ## Faithful snapshots -/

section Worlds

variable [Platform]

/-- A registered namespace with loaded scopes has a snapshot. -/
def World.ActiveCached (world : World) (ns : Namespace) : Prop :=
  ∀ record, world.document.getToolset ns = some record →
    record.loadedScopes ≠ [] → world.document.getSchemaSnapshot ns ≠ none

/-- The snapshot was taken of the mounted runtime, dead or alive, if every
replaced runtime has closed as it should. -/
structure World.Faithful (intact : Prop) (world : World) (ns : Namespace) :
    Prop where
  mounted :
    intact → ∀ runtime, world.runtimes.get ns = some runtime →
      ∃ snapshot,
        world.document.getSchemaSnapshot ns = some snapshot ∧
          CapturedFrom ns (world.objects runtime).tools snapshot
  active : world.ActiveCached ns

/-- A refresh remembers the cached snapshot. -/
def Opening.Remembers (world : World) (ns : Namespace) : Opening → Prop
  | .refresh _ previousTools oldHash =>
      ∃ previous,
        world.document.getSchemaSnapshot ns = some previous ∧
          previousTools = previous.tools ∧
          oldHash = some previous.schemaHash
  | _ => True

/-- While the replaced runtime closes, the snapshot is still in the locals. -/
def Stage.Faithful (intact : Prop) (world : World) (ns : Namespace) :
    Stage → Prop
  | .opening purpose _ _ =>
      world.Faithful intact ns ∧ purpose.Remembers world ns
  | .swapping _ purpose _ snapshot =>
      (∀ runtime, world.runtimes.get ns = some runtime →
        CapturedFrom ns (world.objects runtime).tools snapshot) ∧
        world.ActiveCached ns ∧ purpose.Remembers world ns
  | _ => world.Faithful intact ns

/-- The result compares the current snapshot with the previous one. -/
def World.Refreshed (world : World) (ns : Namespace)
    (result : RefreshResult) : Prop :=
  ∃ previous current,
    world.document.getPreviousSchemaSnapshot ns = some previous ∧
      world.document.getSchemaSnapshot ns = some current ∧
      result =
        refreshResult ns previous.tools (some previous.schemaHash) current

/-- A reported refresh makes up for what was wrong before. -/
def Progress.Faithful (intact : Prop) (world : World) (ns : Namespace) :
    Progress → Prop
  | .inside stage => stage.Faithful intact world ns
  | .left entries =>
      world.Faithful intact ns ∧
        ∀ result, .refreshed result ∈ entries →
          world.Refreshed ns result ∧ world.Faithful True ns

/-- The replaced runtime does not close as it should. -/
def Stage.interrupted (stage : Stage) (reply : Reply) : Bool :=
  match stage with
  | .swapping closing _ _ _ => (closing.raises reply).isSome
  | _ => false

variable {intact : Prop} {ns : Namespace} {before after world : World}

omit [Platform] in
theorem Opening.Remembers.same {purpose : Opening}
    (remembers : purpose.Remembers before ns)
    (same : after.document.getSchemaSnapshot ns =
      before.document.getSchemaSnapshot ns) :
    purpose.Remembers after ns := by
  cases purpose with
  | activate scope =>
      trivial
  | restore candidates startup =>
      trivial
  | refresh scope previousTools oldHash =>
      unfold Opening.Remembers
      rw [same]
      exact remembers

omit [Platform] in
theorem Wrote.activeCached {record : ToolsetRecord}
    (wrote : Wrote ns record before after)
    (cached : record.loadedScopes ≠ [] →
      before.document.getSchemaSnapshot ns ≠ none) :
    after.ActiveCached ns := by
  intro found stored loaded
  cases wrote.written.symm.trans stored
  rw [wrote.sameSnapshot]
  exact cached loaded

/-- Nothing was mounted that was not mounted, and the snapshot is the same. -/
theorem World.Faithful.transfer (faithful : before.Faithful intact ns)
    (runtimes : ∀ runtime, after.runtimes.get ns = some runtime →
      before.runtimes.get ns = some runtime ∧
        (after.objects runtime).tools = (before.objects runtime).tools)
    (snapshot : after.document.getSchemaSnapshot ns =
      before.document.getSchemaSnapshot ns)
    (active : after.ActiveCached ns) : after.Faithful intact ns where
  mounted closed runtime found := by
    obtain ⟨earlier, tools⟩ := runtimes runtime found
    rw [snapshot, tools]
    exact faithful.mounted closed runtime earlier
  active := active

omit [Platform] in
theorem Thins.activeCached (thins : Thins ns before after)
    (active : before.ActiveCached ns) : after.ActiveCached ns := by
  intro record found loaded
  obtain ⟨current, stored, same⟩ := thins.scopes record found
  rw [thins.snapshot]
  exact active current stored (same ▸ loaded)

theorem Thins.faithful (thins : Thins ns before after)
    (faithful : before.Faithful intact ns) : after.Faithful intact ns :=
  faithful.transfer thins.mounted thins.snapshot
    (thins.activeCached faithful.active)

theorem Thins.stage {stage : Stage} (thins : Thins ns before after)
    (faithful : stage.Faithful intact before ns) :
    stage.Faithful intact after ns := by
  cases stage with
  | opening purpose record runtime =>
      exact ⟨thins.faithful faithful.1, faithful.2.same thins.snapshot⟩
  | swapping closing purpose record snapshot =>
      obtain ⟨captured, active, remembers⟩ := faithful
      refine ⟨?_, thins.activeCached active, remembers.same thins.snapshot⟩
      intro runtime found
      obtain ⟨earlier, tools⟩ := thins.mounted runtime found
      rw [tools]
      exact captured runtime earlier
  | _ =>
      exact thins.faithful faithful

theorem World.Faithful.untouched (faithful : before.Faithful intact ns)
    (untouched : Untouched before after) : after.Faithful intact ns :=
  untouched.thins.faithful faithful

theorem World.Faithful.wrote {record : ToolsetRecord}
    (faithful : before.Faithful intact ns)
    (wrote : Wrote ns record before after)
    (cached : record.loadedScopes ≠ [] →
      before.document.getSchemaSnapshot ns ≠ none) :
    after.Faithful intact ns := by
  apply faithful.transfer
  · intro runtime found
    rw [wrote.runtimes] at found
    exact ⟨found, by rw [wrote.objects]⟩
  · exact wrote.sameSnapshot
  · exact wrote.activeCached cached

/-- The stored record is replaced by one with the same loaded scopes. -/
theorem World.Faithful.rewrote {record current : ToolsetRecord}
    (faithful : before.Faithful intact ns)
    (wrote : Wrote ns record before after)
    (found : before.document.getToolset ns = some current)
    (same : record.loadedScopes = current.loadedScopes) :
    after.Faithful intact ns :=
  (wrote.thins found same).faithful faithful

theorem World.Faithful.markDone (faithful : world.Faithful intact ns)
    (runtime : RuntimeId) : (world.markDone runtime).Faithful intact ns :=
  (thins_markDone runtime).faithful faithful

theorem World.Faithful.markClosed (faithful : world.Faithful intact ns)
    (runtime : RuntimeId) : (world.markClosed runtime).Faithful intact ns :=
  (thins_markClosed runtime).faithful faithful

theorem World.Faithful.unmount (faithful : world.Faithful intact ns) :
    (world.unmount ns).Faithful intact ns :=
  thins_unmount.faithful faithful

theorem World.Faithful.spawnRuntime (faithful : world.Faithful intact ns)
    (housed : world.Housed) (home : Namespace) :
    (world.spawnRuntime home).Faithful intact ns :=
  (thins_spawnRuntime housed home).faithful faithful

theorem faithful_of_unmounted
    (unmounted : world.runtimes.get ns = none)
    (active : world.ActiveCached ns) : world.Faithful intact ns where
  mounted _ runtime found := by
    cases unmounted.symm.trans found
  active := active

/-- The namespace is no longer registered. -/
theorem Removed.faithful (removed : Removed ns before after)
    (unmounted : before.runtimes.get ns = none) :
    after.Faithful intact ns := by
  apply faithful_of_unmounted
  · rw [removed.runtimes]
    exact unmounted
  · intro record found
    rw [removed.records, if_pos rfl] at found
    cases found

/-- A completed opening stores the snapshot of the runtime it has mounted. -/
theorem Installed.faithful {record : ToolsetRecord}
    {snapshot : SchemaSnapshot}
    (installed : Installed ns record snapshot before after)
    (mounted : ∀ runtime, before.runtimes.get ns = some runtime →
      CapturedFrom ns (before.objects runtime).tools snapshot) :
    after.Faithful intact ns where
  mounted _ runtime found := by
    rw [installed.runtimes] at found
    refine ⟨snapshot, installed.replaced, ?_⟩
    rw [installed.objects]
    exact mounted runtime found
  active _ _ _ := by
    rw [installed.replaced]
    exact Option.some_ne_none snapshot

/-- The result of a completed refresh compares the two snapshots. -/
theorem Installed.refreshed {purpose : Opening} {record : ToolsetRecord}
    {snapshot : SchemaSnapshot} {now : Time} {result : RefreshResult}
    (remembers : purpose.Remembers before ns)
    (installed :
      Installed ns (purpose.completedRecord record snapshot now) snapshot
        before after)
    (reported :
      .refreshed result ∈
        [purpose.completedEntry ns
          (purpose.completedRecord record snapshot now) snapshot]) :
    after.Refreshed ns result := by
  rw [List.mem_singleton] at reported
  cases purpose with
  | activate scope =>
      cases reported
  | restore candidates startup =>
      cases reported
  | refresh scope previousTools oldHash =>
      obtain ⟨previous, cached, rfl, rfl⟩ := remembers
      cases reported
      refine ⟨previous, snapshot, ?_, installed.replaced, rfl⟩
      rw [installed.retired, cached]
      rfl

theorem faithful_landed {tools : List Tool} {runtime : RuntimeId}
    {snapshot : SchemaSnapshot} (captured : CapturedFrom ns tools snapshot) :
    ∀ other, (landed world ns runtime tools).runtimes.get ns = some other →
      CapturedFrom ns ((landed world ns runtime tools).objects other).tools
        snapshot := by
  intro other found
  have same : other = runtime := by
    simpa [landed, Dict.get_set, eq_comm] using found
  subst same
  simpa [landed] using captured

end Worlds

section Records

variable {record : ToolsetRecord} {opening : Opening}

theorem loadedScopes_of_terms {left right : ToolsetRecord}
    (same : left.terms = right.terms) :
    left.loadedScopes = right.loadedScopes :=
  (scopePolicy_eq.mp (ToolsetRecord.terms_eq.mp same).1).2.1

/-- The local record of a suspended stage has the loaded scopes of the stored
one. -/
theorem World.Mirrors.loadedScopes {world : World} {ns : Namespace}
    (mirrors : world.Mirrors ns record) :
    ∃ current, world.document.getToolset ns = some current ∧
      current.loadedScopes = record.loadedScopes := by
  obtain ⟨current, found, same⟩ := Option.map_eq_some_iff.mp mirrors
  exact ⟨current, found, loadedScopes_of_terms same⟩

theorem loaded_of_withoutScope {scope : Scope}
    (loaded : scope ∈ record.loadedScopes) : record.loadedScopes ≠ [] :=
  List.ne_nil_of_mem loaded

end Records

section Stretches

variable [Platform] {intact : Prop} {ns : Namespace} {world : World}

/-- What is left behind is faithful if nothing is reported as refreshed. -/
theorem World.Faithful.left {entry : Entry}
    (kept : world.Faithful intact ns)
    (other : ∀ result, entry ≠ .refreshed result) :
    (Progress.left [entry]).Faithful intact world ns := by
  refine ⟨kept, ?_⟩
  intro result member
  exact absurd (List.mem_singleton.mp member).symm (other result)

/-- Scopes are added only where a runtime is mounted. -/
theorem World.Faithful.cached_of_running
    (faithful : world.Faithful intact ns) (active : world.Active ns)
    {record : ToolsetRecord} {runtime : RuntimeId}
    (found : world.document.getToolset ns = some record)
    (running : world.runtimeFor ns = some runtime) :
    world.document.getSchemaSnapshot ns ≠ none := by
  have mounted := (World.runtimeFor_eq_some.mp running).1
  have loaded :=
    (active.loaded (Option.ne_none_iff_exists'.mpr ⟨runtime, mounted⟩)
      (World.mirrors_of_found found)).1
  exact faithful.active record found loaded

/-- An activation or a restore has announced its opening. -/
theorem World.Faithful.announced
    (faithful : world.Faithful intact ns) (housed : world.Housed)
    {purpose : Opening} {record : ToolsetRecord} {after : World}
    (found : world.document.getToolset ns = some record)
    (other : ∀ scope previousTools oldHash,
      purpose ≠ .refresh scope previousTools oldHash)
    (wrote : Wrote ns (purpose.announced record) world after) :
    (Progress.inside
      (.opening purpose (purpose.announced record)
        world.nextRuntime)).Faithful intact (after.spawnRuntime ns) ns := by
  have kept := faithful.rewrote wrote found
    (loadedScopes_of_terms terms_announced)
  have stillHoused := (wrote.toQuiet.sound housed).housed
  refine ⟨kept.spawnRuntime stillHoused ns, ?_⟩
  cases purpose with
  | activate scope =>
      trivial
  | restore candidates startup =>
      trivial
  | refresh scope previousTools oldHash =>
      exact absurd rfl (other scope previousTools oldHash)

theorem start_faithful (reliable : world.Reliable)
    (housed : world.Housed) (active : world.Active ns)
    (faithful : world.Faithful intact ns) (operation : Operation) :
    wp (start operation ns)
      (fun progress after => progress.Faithful intact after ns)
      (fun _ after => after.Faithful intact ns) world := by
  have idle : ∀ {entry : Entry} {after : World}, Untouched world after →
      (∀ result, entry ≠ .refreshed result) →
      (Progress.left [entry]).Faithful intact after ns :=
    fun untouched other => (faithful.untouched untouched).left other
  have drops : ∀ existing,
      ((world.unmount ns).markClosed existing).Faithful intact ns :=
    fun existing => faithful.unmount.markClosed existing
  have cachedOf : ∀ {record : ToolsetRecord} {runtime : RuntimeId},
      world.document.getToolset ns = some record →
      world.runtimeFor ns = some runtime →
        world.document.getSchemaSnapshot ns ≠ none :=
    faithful.cached_of_running active
  cases operation with
  | register transport registration =>
      apply startRegister_rule
      · exact fun _ _ untouched => idle untouched (by simp)
      · intro record after missing accepted _ wrote
        have kept := faithful.wrote wrote fun loaded =>
          absurd (toRecord_valid accepted).2.1 loaded
        exact kept.left (by simp)
      · exact fun _ _ _ _ _ _ unreliable _ => absurd reliable unreliable
      · exact fun _ _ unreliable _ => absurd reliable unreliable
  | activate scope ifNotLoaded =>
      apply startActivate_rule
      · exact fun _ _ untouched => idle untouched (by simp)
      · exact fun _ _ _ _ _ => faithful.left (by simp)
      · intro record runtime now result after found _ reusable _ _ wrote
        obtain ⟨running, _⟩ := Option.filter_eq_some_iff.mp reusable
        have kept := faithful.wrote wrote fun _ => cachedOf found running
        exact kept.left (by simp)
      · intro record now exception after found reusable _ wrote
        obtain ⟨runtime, reuses⟩ := Option.ne_none_iff_exists'.mp reusable
        obtain ⟨running, _⟩ := Option.filter_eq_some_iff.mp reuses
        exact faithful.wrote wrote fun _ => cachedOf found running
      · intro record after found _ _ _ wrote
        exact faithful.announced housed found (by simp) wrote
      · exact fun _ _ _ unreliable => absurd reliable unreliable
      · exact fun _ _ _ unreliable => absurd reliable unreliable
  | refresh ifStale scope =>
      apply startRefresh_rule
      · rintro entry after untouched (⟨_, rfl⟩ | ⟨_, _, rfl⟩)
        · exact idle untouched (by simp)
        · exact idle untouched (by simp)
      · intro record found loaded
        refine ⟨faithful.spawnRuntime housed ns, ?_⟩
        obtain ⟨previous, cached⟩ := Option.ne_none_iff_exists'.mp
          (faithful.active record found loaded)
        refine ⟨previous, cached, ?_, ?_⟩
        · rw [cached]
          rfl
        · rw [cached]
          rfl
      · exact fun _ _ _ unreliable => absurd reliable unreliable
  | deactivate scope force =>
      apply startDeactivate_rule
      · rintro entry after untouched (⟨_, rfl⟩ | rfl)
        · exact idle untouched (by simp)
        · exact idle untouched (by simp)
      · intro record after found loaded _ wrote
        have kept := faithful.wrote wrote fun _ =>
          faithful.active record found (loaded_of_withoutScope loaded)
        exact kept.left (by simp)
      · intro record after found loaded _ _ wrote
        have kept := faithful.wrote wrote fun _ =>
          faithful.active record found (loaded_of_withoutScope loaded)
        exact kept.left (by simp)
      · exact fun _ existing _ _ _ _ _ => drops existing
      · exact fun _ _ _ unreliable => absurd reliable unreliable
  | restore stableHostIdentity startup =>
      apply startRestore_rule
      · rintro entry after untouched (⟨_, rfl⟩ | ⟨_, _, rfl⟩)
        · exact idle untouched (by simp)
        · exact idle untouched (by simp)
      · intro record runtime now missing result after found running _ _ _ wrote
        have kept := faithful.wrote wrote fun _ => cachedOf found running
        exact kept.left (by simp)
      · intro record now missing exception after found running _ _ wrote
        obtain ⟨runtime, running⟩ := Option.ne_none_iff_exists'.mp running
        exact faithful.wrote wrote fun _ => cachedOf found running
      · intro record candidates after found _ _ _ wrote
        exact faithful.announced housed found (by simp) wrote
      · exact fun _ _ _ _ unreliable => absurd reliable unreliable
      · exact fun _ _ _ unreliable => absurd reliable unreliable
  | checkHealth scope =>
      apply startCheckHealth_rule
      · rintro entry after untouched (⟨_, rfl⟩ | ⟨_, _, rfl⟩)
        · exact idle untouched (by simp)
        · exact idle untouched (by simp)
      · exact fun _ _ _ _ => faithful
      · intro record result final after found _ _ unhealthy wrote
        have kept := faithful.rewrote wrote found
          (loadedScopes_of_terms unhealthy.terms)
        exact kept.left (by simp)
      · exact fun _ _ _ unreliable => absurd reliable unreliable
  | clearStale =>
      apply startClearStale_rule
      · rintro entry after untouched (⟨_, rfl⟩ | rfl)
        · exact idle untouched (by simp)
        · exact idle untouched (by simp)
      · intro record result after found _ wrote
        have kept := faithful.rewrote wrote found rfl
        exact kept.left (by simp)
      · exact fun _ _ _ unreliable => absurd reliable unreliable
  | markStale reason =>
      apply startMarkStale_rule
      · exact fun _ => faithful.left (by simp)
      · intro record after found wrote
        have kept := faithful.rewrote wrote found rfl
        exact kept.left (by simp)
      · exact fun _ _ _ unreliable => absurd reliable unreliable
  | unregister force =>
      apply startUnregister_rule
      · exact fun _ _ untouched => idle untouched (by simp)
      · intro record entries after found unloaded removed unregisters
        have unmounted : world.runtimes.get ns = none := by
          rcases unloaded with empty | unmounted
          · by_contra mounted
            have loaded :=
              (active.loaded mounted (World.mirrors_of_found found)).1
            exact loaded empty
          · exact unmounted
        refine ⟨removed.faithful unmounted, ?_⟩
        intro result member
        rcases unregisters with rfl | rfl <;> simp at member
      · exact fun _ existing _ _ _ => drops existing
      · exact fun _ _ unreliable => absurd reliable unreliable

theorem resume_faithful {operation : Operation} {stage : Stage}
    {reply : Reply} (reliable : world.Reliable)
    (proper : stage.Proper world ns)
    (tracks : stage.Tracks operation world ns)
    (faithful : stage.Faithful intact world ns)
    (clean : intact → stage.interrupted reply = false) :
    wp (resume ns stage reply)
      (fun progress after => progress.Faithful intact after ns)
      (fun _ after => after.Faithful intact ns) world := by
  have left : ∀ {entry : Entry} {after : World}, after.Faithful intact ns →
      (∀ result, entry ≠ .refreshed result) →
      (Progress.left [entry]).Faithful intact after ns := by
    intro entry after kept other
    refine ⟨kept, ?_⟩
    intro result member
    exact absurd (List.mem_singleton.mp member).symm (other result)
  cases stage with
  | opening purpose record runtime =>
      obtain ⟨kept, remembers⟩ := faithful
      obtain ⟨current, found, same⟩ := tracks.1.loadedScopes
      apply resumeOpening_rule proper.1
      · exact fun _ => kept
      · intro exception after _ wrote
        refine left ((kept.markDone runtime).rewrote wrote found ?_) (by simp)
        exact (loadedScopes_of_terms (terms_failedRecord _ _)).trans same.symm
      · intro tools snapshot existing _ _ captured _
        refine ⟨?_, kept.active, remembers⟩
        intro other mounted
        have earlier := faithful_landed captured other mounted
        simp only [World.markClosed_objects, Function.update_apply]
        split
        · rename_i here
          rw [← here]
          exact earlier
        · exact earlier
      · intro tools snapshot now after _ _ captured _ installed
        refine ⟨installed.faithful (faithful_landed captured), ?_⟩
        intro result reported
        have remembered :
            purpose.Remembers (landed world ns runtime tools) ns :=
          remembers.same rfl
        exact ⟨installed.refreshed remembered reported,
          installed.faithful (faithful_landed captured)⟩
      · exact fun _ _ _ _ _ _ _ _ _ unreliable => absurd reliable unreliable
      · exact fun _ _ unreliable => absurd reliable unreliable
  | swapping closing purpose record snapshot =>
      obtain ⟨captured, cached, remembers⟩ := faithful
      obtain ⟨current, found, same⟩ := tracks.1.loadedScopes
      have closed : ∀ other,
          (world.markDone closing.runtime).runtimes.get ns = some other →
            CapturedFrom ns
              ((world.markDone closing.runtime).objects other).tools
              snapshot := by
        intro other mounted
        rw [((thins_markDone closing.runtime).mounted other mounted).2]
        exact captured other mounted
      have interrupts : ∀ {raised : Raised}, intact →
          closing.raises reply ≠ some raised := by
        intro raised whole raises
        have ends := clean whole
        simp [Stage.interrupted, raises] at ends
      apply resumeSwapping_rule proper.1 proper.2.1
      · intro cancelled
        exact ⟨fun whole => absurd cancelled (interrupts whole), cached⟩
      · intro exception after failed wrote
        refine left ⟨fun whole => absurd failed (interrupts whole), ?_⟩
          (by simp)
        refine (wrote.thins found ?_).activeCached cached
        exact (loadedScopes_of_terms (terms_failedRecord _ _)).trans same.symm
      · intro now after _ installed
        refine ⟨installed.faithful closed, ?_⟩
        intro result reported
        have remembered :
            purpose.Remembers (world.markDone closing.runtime) ns :=
          remembers.same rfl
        exact ⟨installed.refreshed remembered reported,
          installed.faithful closed⟩
      · exact fun _ _ _ _ unreliable => absurd reliable unreliable
      · exact fun _ _ _ unreliable => absurd reliable unreliable
  | deactivating closing scope force record =>
      apply resumeDeactivating_rule proper.1
      · intro after _ wrote
        refine left ((faithful.markDone _).wrote wrote fun loaded => ?_)
          (by simp)
        exact absurd tracks.2.1 loaded
      · exact fun _ _ => faithful.markDone _
      · exact fun _ _ _ unreliable => absurd reliable unreliable
  | unregistering closing force =>
      apply resumeUnregistering_rule
      · intro entries after removed unregisters
        refine ⟨removed.faithful tracks.2, ?_⟩
        intro result member
        rcases unregisters with rfl | rfl <;> simp at member
      · exact fun _ _ => faithful.markDone _
      · exact fun _ _ unreliable => absurd reliable unreliable
  | probing scope record runtime =>
      apply resumeProbing_rule
      · intro current hash count now result after found _ _ _ wrote
        exact left (faithful.rewrote wrote found rfl) (by simp)
      · exact fun _ => faithful.markClosed runtime
      · exact fun _ existing _ _ => faithful.unmount.markClosed existing
      · exact fun _ _ => faithful
      · intro current result final after found _ _ unhealthy wrote
        exact left (faithful.rewrote wrote found
          (loadedScopes_of_terms unhealthy.terms)) (by simp)
      · exact fun _ => faithful
      · exact fun _ _ _ unreliable => absurd reliable unreliable
  | aborting scope record runtime =>
      apply resumeAborting_rule
      · exact fun _ existing _ =>
          (faithful.markDone runtime).unmount.markClosed existing
      · exact fun _ _ => faithful.markDone runtime
      · intro current result final after found _ _ unhealthy wrote
        exact left ((faithful.markDone runtime).rewrote wrote found
          (loadedScopes_of_terms unhealthy.terms)) (by simp)
      · exact fun _ => faithful.markDone runtime
      · exact fun _ _ _ unreliable => absurd reliable unreliable
  | unhealthy closing scope record exception =>
      apply resumeUnhealthy_rule
      · exact fun _ _ _ => faithful.markDone _
      · intro current result final after found _ _ unhealthy wrote
        exact left ((faithful.markDone _).rewrote wrote found
          (loadedScopes_of_terms unhealthy.terms)) (by simp)
      · exact fun _ _ => faithful.markDone _
      · exact fun _ _ _ unreliable => absurd reliable unreliable

end Stretches

/-! ## Calls -/

section Calls

variable {ns : Namespace} {world : World} {tool : MountedTool}

theorem finishCallFailure_thins (reliable : world.Reliable)
    (exception : PyException) :
    wp (finishCallFailure tool exception)
      (fun _ after => Thins tool.ns world after)
      (fun _ after => Thins tool.ns world after) world := by
  apply finishCallFailure_rule
  · exact fun _ _ untouched => untouched.thins
  · exact fun _ _ _ _ found wrote => wrote.thins found rfl
  · exact fun _ _ _ _ unreliable => absurd reliable unreliable

theorem callFailed_thins (reliable : world.Reliable)
    (exception : PyException) :
    wp (callFailed tool exception)
      (fun _ after => Thins tool.ns world after)
      (fun _ after => Thins tool.ns world after) world := by
  apply callFailed_rule
  · exact fun existing _ => thins_unmount.trans (thins_markClosed existing)
  · exact fun _ => finishCallFailure_thins reliable exception

theorem dispatchCall_thins (reliable : world.Reliable) :
    wp (dispatchCall tool) (fun _ after => Thins tool.ns world after)
      (fun _ after => Thins tool.ns world after) world := by
  apply dispatchCall_rule
  · exact fun _ _ => .refl world
  · exact fun _ exception => callFailed_thins reliable exception

theorem resumeCall_thins (reliable : world.Reliable) (stage : CallStage)
    (reply : Except Raised CallToolResult) :
    wp (resumeCall tool stage reply)
      (fun _ after => Thins tool.ns world after)
      (fun _ after => Thins tool.ns world after) world := by
  have done : ∀ runtime, (world.markDone runtime).Reliable :=
    fun _ => reliable
  cases stage with
  | calling runtime =>
      apply resumeCalling_rule
      · exact fun _ _ => .refl world
      · exact fun _ _ _ => thins_markClosed runtime
      · exact fun exception _ _ => callFailed_thins reliable exception
      · exact fun _ => .refl world
  | aborting runtime =>
      apply resumeCallAborting_rule
      · intro exception _
        exact wp_mono (callFailed_thins (done runtime) exception)
          (fun _ _ later => (thins_markDone runtime).trans later)
          fun _ _ later => (thins_markDone runtime).trans later
      · exact fun _ => thins_markDone runtime
  | disconnecting closing exception =>
      apply resumeCallDisconnecting_rule
      · intro _
        exact wp_mono (finishCallFailure_thins (done closing.runtime) exception)
          (fun _ _ later => (thins_markDone closing.runtime).trans later)
          fun _ _ later => (thins_markDone closing.runtime).trans later
      · exact fun _ _ => thins_markDone closing.runtime

end Calls

end ToolboxMcp
