import ToolboxMcp.Service.Frames

/-!
# Rules for the pieces of the bodies

One rule for each piece that ends a body: what it has written when it returns,
and what is known when it raises.  `Untouched` keeps the document apart from
the audit log, `Wrote ns record` has replaced the record of `ns` and nothing
else.
-/

namespace ToolboxMcp

open Effect

structure Untouched (before after : World) : Prop
    extends SameTransport before after where
  records :
    ∀ ns, after.document.getToolset ns = before.document.getToolset ns
  snapshots :
    ∀ ns,
      after.document.getSchemaSnapshot ns =
        before.document.getSchemaSnapshot ns
  previousSnapshots :
    ∀ ns,
      after.document.getPreviousSchemaSnapshot ns =
        before.document.getPreviousSchemaSnapshot ns

structure Wrote (ns : Namespace) (record : ToolsetRecord)
    (before after : World) : Prop extends Quiet ns before after where
  written : after.document.getToolset ns = some record
  sameSnapshot :
    after.document.getSchemaSnapshot ns =
      before.document.getSchemaSnapshot ns
  samePrevious :
    after.document.getPreviousSchemaSnapshot ns =
      before.document.getPreviousSchemaSnapshot ns

/-- The record and the new snapshot are both in place. -/
structure Installed (ns : Namespace) (record : ToolsetRecord)
    (snapshot : SchemaSnapshot) (before after : World) : Prop
    extends Quiet ns before after where
  written : after.document.getToolset ns = some record
  replaced : after.document.getSchemaSnapshot ns = some snapshot
  retired :
    after.document.getPreviousSchemaSnapshot ns =
      (before.document.getSchemaSnapshot ns).or
        (before.document.getPreviousSchemaSnapshot ns)

/-- The namespace is gone from the document and from the lock table. -/
structure Removed (ns : Namespace) (before after : World) : Prop where
  config : after.config = before.config
  namespaceLocks : after.namespaceLocks = before.namespaceLocks.pop ns
  runtimes : after.runtimes = before.runtimes
  objects : after.objects = before.objects
  nextRuntime : after.nextRuntime = before.nextRuntime
  inFlight : after.inFlight = before.inFlight
  reliable : before.Reliable → after.Reliable
  distinct : before.document.Distinct → after.document.Distinct
  records :
    ∀ other,
      after.document.getToolset other =
        if other = ns then none else before.document.getToolset other
  snapshot : after.document.getSchemaSnapshot ns = none
  previousSnapshot : after.document.getPreviousSchemaSnapshot ns = none
  snapshots :
    ∀ other, other ≠ ns →
      after.document.getSchemaSnapshot other =
        before.document.getSchemaSnapshot other
  previousSnapshots :
    ∀ other, other ≠ ns →
      after.document.getPreviousSchemaSnapshot other =
        before.document.getPreviousSchemaSnapshot other

namespace Untouched

theorem refl (world : World) : Untouched world world :=
  ⟨.refl world, fun _ => rfl, fun _ => rfl, fun _ => rfl⟩

theorem fault (world : World) : Untouched world world.fault :=
  ⟨.fault world, fun _ => rfl, fun _ => rfl, fun _ => rfl⟩

theorem tick (world : World) : Untouched world world.tick :=
  ⟨.tick world, fun _ => rfl, fun _ => rfl, fun _ => rfl⟩

theorem trans {first second third : World}
    (left : Untouched first second) (right : Untouched second third) :
    Untouched first third where
  toSameTransport := left.toSameTransport.trans right.toSameTransport
  records ns := (right.records ns).trans (left.records ns)
  snapshots ns := (right.snapshots ns).trans (left.snapshots ns)
  previousSnapshots ns :=
    (right.previousSnapshots ns).trans (left.previousSnapshots ns)

theorem quiet {before after : World} (untouched : Untouched before after)
    (ns : Namespace) : Quiet ns before after where
  toSameTransport := untouched.toSameTransport
  records other _ := untouched.records other
  snapshots other _ := untouched.snapshots other
  previousSnapshots other _ := untouched.previousSnapshots other
  registered present := by rwa [untouched.records ns]

end Untouched

theorem Wrote.untouched {ns : Namespace} {record : ToolsetRecord}
    {first second third : World}
    (wrote : Wrote ns record first second)
    (untouched : Untouched second third) : Wrote ns record first third where
  toQuiet := wrote.toQuiet.trans (untouched.quiet ns)
  written := (untouched.records ns).trans wrote.written
  sameSnapshot := (untouched.snapshots ns).trans wrote.sameSnapshot
  samePrevious := (untouched.previousSnapshots ns).trans wrote.samePrevious

theorem Wrote.after {ns : Namespace} {earlier record : ToolsetRecord}
    {first second third : World}
    (before : Wrote ns earlier first second)
    (wrote : Wrote ns record second third) : Wrote ns record first third where
  toQuiet := before.toQuiet.trans wrote.toQuiet
  written := wrote.written
  sameSnapshot := wrote.sameSnapshot.trans before.sameSnapshot
  samePrevious := wrote.samePrevious.trans before.samePrevious

theorem Untouched.wrote {ns : Namespace} {record : ToolsetRecord}
    {first second third : World}
    (untouched : Untouched first second)
    (wrote : Wrote ns record second third) : Wrote ns record first third where
  toQuiet := (untouched.quiet ns).trans wrote.toQuiet
  written := wrote.written
  sameSnapshot := wrote.sameSnapshot.trans (untouched.snapshots ns)
  samePrevious := wrote.samePrevious.trans (untouched.previousSnapshots ns)

theorem Installed.untouched {ns : Namespace} {record : ToolsetRecord}
    {snapshot : SchemaSnapshot} {first second third : World}
    (installed : Installed ns record snapshot first second)
    (untouched : Untouched second third) :
    Installed ns record snapshot first third where
  toQuiet := installed.toQuiet.trans (untouched.quiet ns)
  written := (untouched.records ns).trans installed.written
  replaced := (untouched.snapshots ns).trans installed.replaced
  retired := (untouched.previousSnapshots ns).trans installed.retired

theorem Untouched.installed {ns : Namespace} {record : ToolsetRecord}
    {snapshot : SchemaSnapshot} {first second third : World}
    (untouched : Untouched first second)
    (installed : Installed ns record snapshot second third) :
    Installed ns record snapshot first third where
  toQuiet := (untouched.quiet ns).trans installed.toQuiet
  written := installed.written
  replaced := installed.replaced
  retired := by
    rw [installed.retired, untouched.snapshots, untouched.previousSnapshots]

theorem Removed.untouched {ns : Namespace} {first second third : World}
    (removed : Removed ns first second)
    (untouched : Untouched second third) : Removed ns first third where
  config := untouched.config.trans removed.config
  namespaceLocks := untouched.namespaceLocks.trans removed.namespaceLocks
  runtimes := untouched.runtimes.trans removed.runtimes
  objects := untouched.objects.trans removed.objects
  nextRuntime := untouched.nextRuntime.trans removed.nextRuntime
  inFlight := untouched.inFlight.trans removed.inFlight
  reliable reliable := untouched.reliable (removed.reliable reliable)
  distinct distinct := untouched.distinct (removed.distinct distinct)
  records other := (untouched.records other).trans (removed.records other)
  snapshot := (untouched.snapshots ns).trans removed.snapshot
  previousSnapshot :=
    (untouched.previousSnapshots ns).trans removed.previousSnapshot
  snapshots other different :=
    (untouched.snapshots other).trans (removed.snapshots other different)
  previousSnapshots other different :=
    (untouched.previousSnapshots other).trans
      (removed.previousSnapshots other different)

/-! ## Single effects -/

section Effects

variable {ns : Namespace} {world : World}

theorem storeWrite_rule {change : StateDocument → StateDocument}
    {post : Unit → World → Prop} {raised : Raised → World → Prop}
    (written : post () (world.write change))
    (refused : ∀ exception, ¬ world.Reliable →
      raised (.exception exception) world.fault) :
    wp (storeWrite change) post raised world := by
  rw [wp_storeWrite]
  split
  · rename_i exception fails
    apply refused
    intro reliable
    rw [reliable.nextFault] at fails
    cases fails
  · exact written

theorem appendAuditEvent_rule
    {operation : AuditOperation} {outcome : AuditOutcome}
    {subject : Option Namespace} {scope : Option Scope}
    {details : List (String × Json)} {error : Option ErrorInfo}
    {post : Unit → World → Prop} {raised : Raised → World → Prop}
    (logged : ∀ after, Untouched world after → post () after)
    (refused : ∀ exception after, Untouched world after →
      ¬ world.Reliable → raised (.exception exception) after) :
    wp (appendAuditEvent operation outcome subject scope details error)
      post raised world := by
  unfold appendAuditEvent
  rw [wp_bind, wp_utcNow]
  apply storeWrite_rule
  · apply logged
    refine (Untouched.tick world).trans
      ⟨.write _ _ fun _ distinct => distinct.appendAuditEvent _ _,
        ?_, ?_, ?_⟩ <;> simp
  · intro exception unreliable
    exact refused exception _
      ((Untouched.tick world).trans (.fault _)) unreliable

theorem upsertToolset_rule {record : ToolsetRecord}
    {post : Unit → World → Prop} {raised : Raised → World → Prop}
    (named : record.ns = ns)
    (written : ∀ after, Wrote ns record world after → post () after)
    (refused : ∀ exception after, Untouched world after →
      ¬ world.Reliable → raised (.exception exception) after) :
    wp (upsertToolset record) post raised world := by
  apply storeWrite_rule
  · apply written
    refine ⟨⟨.write _ _ fun _ distinct => distinct.upsertToolset record, ?_,
      fun _ _ => rfl, fun _ _ => rfl, ?_⟩, ?_, rfl, rfl⟩
    · intro other different
      simp [StateDocument.getToolset_upsertToolset, named, different]
    · simp [StateDocument.getToolset_upsertToolset, named]
    · simp [StateDocument.getToolset_upsertToolset, named]
  · intro exception unreliable
    exact refused exception _ (.fault world) unreliable

theorem replaceSchemaSnapshot_rule {snapshot : SchemaSnapshot}
    {record : ToolsetRecord} {middle : World}
    {post : Unit → World → Prop} {raised : Raised → World → Prop}
    (captured : snapshot.ns = ns)
    (wrote : Wrote ns record world middle)
    (installed : ∀ after, Installed ns record snapshot world after →
      post () after)
    (refused : ∀ exception after, Wrote ns record world after →
      ¬ middle.Reliable → raised (.exception exception) after) :
    wp (replaceSchemaSnapshot snapshot) post raised middle := by
  apply storeWrite_rule
  · apply installed
    have quiet : Quiet ns middle
        (middle.write fun document =>
          document.replaceSchemaSnapshot snapshot) := by
      refine ⟨.write _ _ fun _ distinct =>
          distinct.replaceSchemaSnapshot snapshot, fun _ _ => rfl, ?_, ?_, id⟩
      · intro other different
        simp [StateDocument.getSchemaSnapshot_replaceSchemaSnapshot,
          captured, different]
      · intro other different
        simp [StateDocument.getPreviousSchemaSnapshot_replaceSchemaSnapshot,
          captured, different]
    refine ⟨wrote.toQuiet.trans quiet, wrote.written, ?_, ?_⟩
    · simp [StateDocument.getSchemaSnapshot_replaceSchemaSnapshot, captured]
    · simp [StateDocument.getPreviousSchemaSnapshot_replaceSchemaSnapshot,
        captured, wrote.sameSnapshot, wrote.samePrevious]
  · intro exception unreliable
    exact refused exception _ (wrote.untouched (.fault middle)) unreliable

end Effects

/-! ## Pieces of the bodies -/

section Pieces

variable {ns : Namespace} {record : ToolsetRecord} {world : World}
  {raised : Raised → World → Prop}

theorem rejected_rule
    {operation : AuditOperation} {scope : Option Scope} {error : ErrorInfo}
    {post : Progress → World → Prop}
    (reported : ∀ after, Untouched world after →
      post (.left [.failed error]) after)
    (refused : ∀ exception after, Untouched world after →
      ¬ world.Reliable → raised (.exception exception) after) :
    wp (rejected operation ns scope error) post raised world := by
  unfold rejected
  rw [wp_bind]
  apply appendAuditEvent_rule
  · intro after untouched
    exact reported after untouched
  · exact refused

theorem auditFailure_rule {opening : Opening} {error : ErrorInfo}
    {post : Unit → World → Prop}
    (logged : ∀ after, Untouched world after → post () after)
    (refused : ∀ exception after, Untouched world after →
      ¬ world.Reliable → raised (.exception exception) after) :
    wp (opening.auditFailure ns record error) post raised world := by
  cases opening <;> exact appendAuditEvent_rule logged refused

theorem failed_rule {opening : Opening} {exception : PyException}
    {post : List Entry → World → Prop}
    (named : record.ns = ns)
    (reported : ∀ after,
      Wrote ns
        (opening.failedRecord record (opening.failure ns exception)
          (world.hasConnection ns))
        world after →
      post [.failed (opening.failure ns exception)] after)
    (refused : ∀ second after, Quiet ns world after →
      ¬ world.Reliable → raised (.exception second) after) :
    wp (opening.failed ns record exception) post raised world := by
  unfold Opening.failed
  rw [wp_bind, wp_get, wp_bind]
  apply upsertToolset_rule (by simpa using named)
  · intro middle wrote
    rw [wp_bind]
    apply auditFailure_rule
    · intro after untouched
      exact reported after (wrote.untouched untouched)
    · intro second after untouched unreliable
      exact refused second after (wrote.untouched untouched).toQuiet
        fun reliable => unreliable (wrote.reliable reliable)
  · intro second after untouched unreliable
    exact refused second after (untouched.quiet ns) unreliable

theorem finishDeactivate_rule {scope : Scope} {force : Bool}
    {post : Progress → World → Prop}
    (named : record.ns = ns)
    (deactivated : ∀ after, Wrote ns record world after →
      post (.left [.deactivated ns scope record.loadedScopes]) after)
    (refused : ∀ exception after, Quiet ns world after →
      ¬ world.Reliable → raised (.exception exception) after) :
    wp (finishDeactivate ns scope force record) post raised world := by
  unfold finishDeactivate
  rw [wp_bind]
  apply upsertToolset_rule named
  · intro middle wrote
    rw [wp_bind]
    apply appendAuditEvent_rule
    · intro after untouched
      exact deactivated after (wrote.untouched untouched)
    · intro exception after untouched unreliable
      exact refused exception after (wrote.untouched untouched).toQuiet
        fun reliable => unreliable (wrote.reliable reliable)
  · intro exception after untouched unreliable
    exact refused exception after (untouched.quiet ns) unreliable

/-- A write of an opened or failed record may come after the runtimes were
swapped; the connection is the one the handler sees. -/
theorem begin_rule {opening : Opening} {post : Progress → World → Prop}
    (found : world.document.getToolset ns = some record)
    (opened : ∀ after, Wrote ns (opening.announced record) world after →
      post
        (.inside
          (.opening opening (opening.announced record) world.nextRuntime))
        (after.spawnRuntime ns))
    (failed : ∀ exception after, ¬ world.Reliable →
      Wrote ns
        (opening.failedRecord (opening.announced record)
          (opening.failure ns exception) (world.hasConnection ns))
        world after →
      post (.left [.failed (opening.failure ns exception)]) after)
    (refused : ∀ exception after, Quiet ns world after →
      ¬ world.Reliable → raised (.exception exception) after) :
    wp (opening.begin ns record) post raised world := by
  have named := StateDocument.getToolset_ns found
  have announced :
      wp (opening.announce record)
        (fun _ after => Wrote ns (opening.announced record) world after)
        (fun exception after =>
          Untouched world after ∧ ¬ world.Reliable ∧
            ∃ caught, exception = .exception caught)
        world := by
    cases opening with
    | refresh scope previousTools oldHash =>
        exact ⟨.refl world, found, rfl, rfl⟩
    | activate scope =>
        refine upsertToolset_rule ?_ (fun after wrote => wrote) ?_
        · exact named
        · exact fun caught after untouched unreliable =>
            ⟨untouched, unreliable, caught, rfl⟩
    | restore candidates startup =>
        refine upsertToolset_rule ?_ (fun after wrote => wrote) ?_
        · exact named
        · exact fun caught after untouched unreliable =>
            ⟨untouched, unreliable, caught, rfl⟩
  unfold Opening.begin
  rw [wp_bind, wp_tryExcept]
  apply wp_mono announced
  · intro value after wrote
    have same : after.nextRuntime = world.nextRuntime := wrote.nextRuntime
    simp only [wp_bind, wp_get, wp_set, wp_pure, same]
    exact opened after wrote
  · rintro _ middle ⟨untouched, unreliable, caught, rfl⟩
    simp only [Raised.caught, wp_bind]
    apply failed_rule (by simpa using named)
    · intro after wrote
      rw [untouched.hasConnection] at wrote
      exact failed caught after unreliable (untouched.wrote wrote)
    · intro second after quiet _
      exact refused second after ((untouched.quiet ns).trans quiet)
        unreliable

theorem recordRuntimeFailure_rule {current : ToolsetRecord}
    {code message staleReason : String} {details : Option Json}
    {post : Option ErrorInfo → World → Prop}
    (found : world.document.getToolset ns = some current)
    (recorded : ∀ error after,
      Wrote ns
        (failedRuntimeRecord current (world.hasConnection ns) staleReason
          error)
        world after →
      post (some error) after)
    (refused : ∀ second after, Untouched world after →
      ¬ world.Reliable → raised (.exception second) after) :
    wp (recordRuntimeFailure ns code message staleReason details) post raised
      world := by
  have named := StateDocument.getToolset_ns found
  unfold recordRuntimeFailure
  simp only [wp_bind, wp_get, World.record, found]
  refine upsertToolset_rule (by exact named) ?_ refused
  intro after wrote
  exact recorded _ after wrote

theorem recordHealthObservation_rule {current : ToolsetRecord}
    {status : HealthStatus} {observedSchemaHash : Option String}
    {observedToolCount : Option Nat} {error : Option ErrorInfo}
    {post : HealthCheckResult → World → Prop}
    (found : world.document.getToolset ns = some current)
    (observed : ∀ result now after,
      result.ns = ns →
      Wrote ns
        (observedRecord current (world.hasConnection ns) status
          observedSchemaHash observedToolCount error now)
        world after →
      post result after)
    (refused : ∀ second after, Untouched world after →
      ¬ world.Reliable → raised (.exception second) after) :
    wp
      (recordHealthObservation ns status observedSchemaHash
        observedToolCount error)
      post raised world := by
  have named := StateDocument.getToolset_ns found
  unfold recordHealthObservation
  simp only [wp_bind, wp_get, World.record, found, wp_utcNow]
  refine upsertToolset_rule (by exact named) ?_ ?_
  · intro after wrote
    exact observed _ _ after rfl ((Untouched.tick world).wrote wrote)
  · intro second after untouched unreliable
    exact refused second after ((Untouched.tick world).trans untouched)
      unreliable

/-- What an unhealthy check makes of the current record. -/
structure Unhealthy (current final : ToolsetRecord) (connected : Bool) :
    Prop where
  transportState : final.transportState = failureState connected
  stale : final.stale = true
  policy : scopePolicy final = scopePolicy current
  schemaHash : final.schemaHash = current.schemaHash
  previousSchemaHash : final.previousSchemaHash = current.previousSchemaHash
  toolCount : final.toolCount = current.toolCount

/-- A failed or stale check. -/
theorem reportUnhealthy_rule
    {scope : Option Scope} {status : HealthStatus}
    {code message staleReason : String} {drift : List (String × Json)}
    {observed : Option (String × Nat)} {post : Progress → World → Prop}
    (unhealthy : status ≠ .healthy)
    (unknown : world.document.getToolset ns = none → ∀ second,
      raised (.exception second) world)
    (reported : ∀ current result final after,
      world.document.getToolset ns = some current →
      result.ns = ns →
      Unhealthy current final (world.hasConnection ns) →
      Wrote ns final world after →
      post (.left [.checked result]) after)
    (refused : ∀ second after, Quiet ns world after →
      ¬ world.Reliable → raised (.exception second) after) :
    wp
      (reportUnhealthy ns scope record status code message staleReason drift
        observed)
      post raised world := by
  unfold reportUnhealthy
  rw [wp_bind]
  cases found : world.document.getToolset ns with
  | none =>
      simp only [recordRuntimeFailure, recordHealthObservation, wp_bind,
        wp_get, World.record, found, wp_pure, wp_throw]
      exact unknown found _
  | some current =>
      apply recordRuntimeFailure_rule found
      · intro error middle failed
        rw [wp_bind]
        apply recordHealthObservation_rule failed.written
        · intro result now later sameName observedWrote
          rw [wp_bind]
          apply appendAuditEvent_rule
          · intro after untouched
            have wrote := (failed.after observedWrote).untouched untouched
            refine reported current result _ after found sameName ?_ wrote
            refine ⟨?_, rfl, rfl, rfl, rfl, rfl⟩
            simp [observedRecord, unhealthy, failedRuntimeRecord]
          · intro second after untouched unreliable
            exact refused second after
              ((failed.after observedWrote).untouched untouched).toQuiet
              fun reliable =>
                unreliable (observedWrote.reliable (failed.reliable reliable))
        · intro second after untouched unreliable
          exact refused second after (failed.untouched untouched).toQuiet
            fun reliable => unreliable (failed.reliable reliable)
      · intro second after untouched unreliable
        exact refused second after (untouched.quiet ns) unreliable

theorem finishCallFailure_rule {tool : MountedTool}
    {exception : PyException} {post : CallProgress → World → Prop}
    (unknown : world.document.getToolset tool.ns = none →
      ∀ after, Untouched world after → raised (.exception exception) after)
    (recorded : ∀ current reason error after,
      world.document.getToolset tool.ns = some current →
      Wrote tool.ns
        (failedRuntimeRecord current (world.hasConnection tool.ns) reason
          error)
        world after →
      raised (.exception exception) after)
    (refused : ∀ second after, Quiet tool.ns world after →
      (world.document.getToolset tool.ns = none →
        Untouched world after) →
      ¬ world.Reliable → raised (.exception second) after) :
    wp (finishCallFailure tool exception) post raised world := by
  unfold finishCallFailure
  rw [wp_bind]
  cases found : world.document.getToolset tool.ns with
  | none =>
      unfold recordRuntimeFailure
      simp only [wp_bind, wp_get, World.record, found, wp_pure]
      apply appendAuditEvent_rule
      · intro after untouched
        exact unknown found after untouched
      · intro second after untouched unreliable
        exact refused second after (untouched.quiet tool.ns)
          (fun _ => untouched) unreliable
  | some current =>
      apply recordRuntimeFailure_rule found
      · intro error middle wrote
        simp only [wp_bind, wp_get]
        apply appendAuditEvent_rule
        · intro after untouched
          exact recorded current _ _ after found
            (wrote.untouched untouched)
        · intro second after untouched unreliable
          exact refused second after (wrote.untouched untouched).toQuiet
            (fun missing => by simp [found] at missing)
            fun reliable => unreliable (wrote.reliable reliable)
      · intro second after untouched unreliable
        exact refused second after (untouched.quiet tool.ns)
          (fun missing => by simp [found] at missing) unreliable

/-- The entries an unregistration ends with. -/
def Unregisters (ns : Namespace) (entries : List Entry) : Prop :=
  entries = [.unregistered ns] ∨
    entries =
      [.skipped ns "disconnected_before_unregistration" [],
       .unregistered ns]

theorem finishUnregister_rule {force disconnected : Bool}
    {post : Progress → World → Prop}
    (removed : ∀ entries after, Removed ns world after →
      Unregisters ns entries → post (.left entries) after)
    (refused : ∀ exception after, ¬ world.Reliable →
      Quiet ns world after ∨ Removed ns world after →
      raised (.exception exception) after) :
    wp (finishUnregister ns force disconnected) post raised world := by
  unfold finishUnregister
  rw [wp_bind]
  apply storeWrite_rule
  · have first : Quiet ns world
        (world.write fun document => document.deleteSchemaSnapshot ns) := by
      refine ⟨.write _ _ fun _ distinct => distinct.deleteSchemaSnapshot ns,
        fun _ _ => rfl, ?_, fun _ _ => rfl, id⟩
      intro other different
      simp [StateDocument.getSchemaSnapshot_deleteSchemaSnapshot, different]
    have dropped : (world.write fun document =>
        document.deleteSchemaSnapshot ns).document.getSchemaSnapshot ns =
          none := by
      simp [StateDocument.getSchemaSnapshot_deleteSchemaSnapshot]
    generalize world.write (fun document =>
      document.deleteSchemaSnapshot ns) = middle at first dropped
    rw [wp_bind]
    apply storeWrite_rule
    · have second : Quiet ns middle
          (middle.write fun document =>
            document.deletePreviousSchemaSnapshot ns) := by
        refine ⟨.write _ _ fun _ distinct =>
            distinct.deletePreviousSchemaSnapshot ns, fun _ _ => rfl,
          fun _ _ => rfl, ?_, id⟩
        intro other different
        simp [StateDocument.getPreviousSchemaSnapshot_deletePreviousSchemaSnapshot,
          different]
      replace second := first.trans second
      replace dropped : (middle.write fun document =>
          document.deletePreviousSchemaSnapshot
            ns).document.getSchemaSnapshot ns = none := dropped
      have previousDropped : (middle.write fun document =>
          document.deletePreviousSchemaSnapshot
            ns).document.getPreviousSchemaSnapshot ns = none := by
        simp [StateDocument.getPreviousSchemaSnapshot_deletePreviousSchemaSnapshot]
      generalize middle.write (fun document =>
        document.deletePreviousSchemaSnapshot ns) = later
        at second dropped previousDropped
      rw [wp_bind]
      apply storeWrite_rule
      · have gone : Removed ns world
            ((later.write fun document =>
              document.deleteToolset ns).popLockEntry ns) := by
          refine ⟨second.config, ?_, second.runtimes, second.objects,
            second.nextRuntime, second.inFlight, ?_, ?_, ?_, dropped,
            previousDropped, second.snapshots, second.previousSnapshots⟩
          · simp [second.namespaceLocks]
          · exact fun reliable =>
              (second.reliable reliable).write fun document =>
                document.deleteToolset ns
          · exact fun distinct => (second.distinct distinct).deleteToolset ns
          · intro other
            by_cases same : other = ns
            · simp [StateDocument.getToolset_deleteToolset, same]
            · simp [StateDocument.getToolset_deleteToolset, same,
                second.records other same]
        rw [wp_bind, wp_modify, wp_bind]
        apply appendAuditEvent_rule
        · intro after untouched
          have final := gone.untouched untouched
          split
          · exact removed _ after final (.inr rfl)
          · exact removed _ after final (.inl rfl)
        · intro exception after untouched unreliable
          exact refused exception after
            (fun reliable => unreliable (gone.reliable reliable))
            (.inr (gone.untouched untouched))
      · intro exception unreliable
        exact refused exception _
          (fun reliable => unreliable (second.reliable reliable))
          (.inl (second.trans ((Untouched.fault later).quiet ns)))
    · intro exception unreliable
      exact refused exception _
        (fun reliable => unreliable (first.reliable reliable))
        (.inl (first.trans ((Untouched.fault middle).quiet ns)))
  · intro exception unreliable
    exact refused exception _ unreliable
      (.inl ((Untouched.fault world).quiet ns))

end Pieces

section Inventories

variable [Platform] {ns : Namespace} {record : ToolsetRecord}
  {world : World} {raised : Raised → World → Prop}
  {post : Progress → World → Prop}

theorem auditSuccess_rule {opening : Opening} {snapshot : SchemaSnapshot}
    {post : Unit → World → Prop}
    (logged : ∀ after, Untouched world after → post () after)
    (refused : ∀ exception after, Untouched world after →
      ¬ world.Reliable → raised (.exception exception) after) :
    wp (opening.auditSuccess ns record snapshot) post raised world := by
  cases opening <;> exact appendAuditEvent_rule logged refused

/-- The handler works on the record as it was completed, even when the failed
write was the one that should have stored it. -/
theorem complete_rule {opening : Opening} {snapshot : SchemaSnapshot}
    (named : record.ns = ns) (captured : snapshot.ns = ns)
    (completed : ∀ now after,
      Installed ns (opening.completedRecord record snapshot now) snapshot
        world after →
      post
        (.left
          [opening.completedEntry ns
            (opening.completedRecord record snapshot now) snapshot])
        after)
    (failed : ∀ now exception entries after,
      ¬ world.Reliable → Quiet ns world after →
      after.document.getToolset ns =
        some
          (opening.failedRecord
            (opening.completedRecord record snapshot now)
            (opening.failure ns exception) (world.hasConnection ns)) →
      .failed (opening.failure ns exception) ∈ entries →
      (∀ entry ∈ entries,
        entry = .failed (opening.failure ns exception) ∨
          opening.reportedEarly = true ∧
            entry = opening.completedEntry ns
              (opening.completedRecord record snapshot now) snapshot) →
      post (.left entries) after)
    (refused : ∀ exception after, Quiet ns world after →
      ¬ world.Reliable → raised (.exception exception) after) :
    wp (opening.complete ns record snapshot) post raised world := by
  unfold Opening.complete
  rw [wp_bind, wp_utcNow]
  generalize stamped : world.clock = now
  have ticked := Untouched.tick world
  generalize world.tick = ready at ticked
  have completedName :
      (opening.completedRecord record snapshot now).ns = ns := by
    simpa using named
  simp only [wp_bind, wp_tryExcept]
  -- Whatever fails from here on, the handler stores the completed record.
  have handled : ∀ exception middle (already : List Entry),
      ¬ world.Reliable → Quiet ns world middle →
      (∀ entry ∈ already, opening.reportedEarly = true ∧
        entry = opening.completedEntry ns
          (opening.completedRecord record snapshot now) snapshot) →
      wp
        (opening.failed ns (opening.completedRecord record snapshot now)
          exception)
        (fun entries after => post (.left (already ++ entries)) after)
        raised middle := by
    intro exception middle already unreliable quiet early
    apply failed_rule completedName
    · intro after wrote
      rw [quiet.hasConnection] at wrote
      apply failed now exception _ after unreliable
        (quiet.trans wrote.toQuiet) wrote.written
      · simp
      · intro entry member
        rcases List.mem_append.mp member with earlier | last
        · exact .inr (early entry earlier)
        · exact .inl (List.mem_singleton.mp last)
    · intro second after later _
      exact refused second after (quiet.trans later) unreliable
  have unreliableAt : ∀ {middle : World}, Quiet ns ready middle →
      ¬ middle.Reliable → ¬ world.Reliable :=
    fun quiet unreliable reliable =>
      unreliable (quiet.reliable (ticked.reliable reliable))
  have fromStart : ∀ {middle : World}, Quiet ns ready middle →
      Quiet ns world middle :=
    fun quiet => (ticked.quiet ns).trans quiet
  apply upsertToolset_rule completedName
  · intro first wrote
    apply replaceSchemaSnapshot_rule captured wrote
    · intro second installed
      apply auditSuccess_rule
      · intro after untouched
        exact completed now after
          (ticked.installed (installed.untouched untouched))
      · intro exception third untouched unreliable
        have quiet := installed.toQuiet.trans (untouched.quiet ns)
        apply wp_mono
          (handled exception third
            (if opening.reportedEarly then
              [opening.completedEntry ns
                (opening.completedRecord record snapshot now) snapshot]
            else
              [])
            (unreliableAt installed.toQuiet unreliable) (fromStart quiet)
            (by split <;> simp_all))
        · intro entries after reported
          cases early : opening.reportedEarly <;> simpa [early] using reported
        · exact fun _ _ => id
    · intro exception second rewrote unreliable
      exact handled exception second []
        (unreliableAt wrote.toQuiet unreliable) (fromStart rewrote.toQuiet)
        (by simp)
  · intro exception first untouched unreliable
    exact handled exception first []
      (unreliableAt (.refl ready) unreliable)
      (fromStart (untouched.quiet ns)) (by simp)

end Inventories

end ToolboxMcp
