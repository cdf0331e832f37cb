import ToolboxMcp.Lifetime

/-!
# A start that fails is repeated

The start writes the bundled toolset and then one record after the other, each
with a write of its own.  It may be interrupted between any two of them, or
any write may fail.  A start that comes through in the end leaves the document
that an undisturbed first one would have left.
-/

namespace ToolboxMcp

open Effect

theorem reconciledRecord_idem (record : ToolsetRecord) :
    reconciledRecord (reconciledRecord record) = reconciledRecord record := by
  have recoverable :
      (reconciledRecord (reconciledRecord record)).recoverableScopes =
        (reconciledRecord record).recoverableScopes := by
    change
      (if (reconciledRecord record).recoverableScopes.isEmpty then
        List.filter _ [] else (reconciledRecord record).recoverableScopes) = _
    split
    · rename_i empty
      rw [List.isEmpty_iff.mp empty]
      rfl
    · rfl
  calc
    reconciledRecord (reconciledRecord record)
      = { reconciledRecord record with
          recoverableScopes :=
            (reconciledRecord (reconciledRecord record)).recoverableScopes } :=
        rfl
    _ = reconciledRecord record := by rw [recoverable]

namespace StateDocument

/-- With the bundled toolset. -/
def bundledWith (document : StateDocument) (config : HostConfig) :
    StateDocument :=
  match document.getToolset "fake_stdio" with
  | some _ => document
  | none => document.upsertToolset (fakeToolset config)

/-- What a start makes of the document. -/
def started (document : StateDocument) (config : HostConfig) :
    StateDocument :=
  { document with
    toolsets := (document.bundledWith config).toolsets.map reconciledRecord }

variable {document : StateDocument} {config : HostConfig}

/-- A record reconciled early is not missed later. -/
theorem map_reconciled_upsert {record : ToolsetRecord}
    {records : List ToolsetRecord}
    (found : KeyedList.lookup ToolsetRecord.ns record.ns records =
      some record) :
    (KeyedList.upsert ToolsetRecord.ns (reconciledRecord record)
      records).map reconciledRecord = records.map reconciledRecord := by
  induction records with
  | nil =>
      cases found
  | cons head tail inductionHypothesis =>
      have kept : (reconciledRecord record).ns = record.ns := rfl
      unfold KeyedList.upsert
      rw [kept]
      by_cases same : head.ns = record.ns
      · have first : head = record := by
          simpa [KeyedList.lookup, same] using found
        rw [if_pos same, List.map_cons, List.map_cons, reconciledRecord_idem,
          first]
      · have later : KeyedList.lookup ToolsetRecord.ns record.ns tail =
            some record := by
          simpa [KeyedList.lookup, same] using found
        rw [if_neg same, List.map_cons, List.map_cons,
          inductionHypothesis later]

theorem bundledWith_of_present
    (present : (document.getToolset "fake_stdio").isSome) :
    document.bundledWith config = document := by
  obtain ⟨record, found⟩ := Option.isSome_iff_exists.mp present
  unfold bundledWith
  rw [found]

theorem started_of_present
    (present : (document.getToolset "fake_stdio").isSome) :
    document.started config =
      { document with
        toolsets := document.toolsets.map reconciledRecord } := by
  unfold started
  rw [bundledWith_of_present present]

/-- The bundled toolset may be written first. -/
theorem started_bundled (missing : document.getToolset "fake_stdio" = none) :
    (document.upsertToolset (fakeToolset config)).started config =
      document.started config := by
  have present :
      ((document.upsertToolset (fakeToolset config)).getToolset
        "fake_stdio").isSome := by
    rw [getToolset_upsertToolset]
    rfl
  rw [started_of_present present]
  unfold started bundledWith
  rw [missing]
  rfl

/-- A record may be reconciled first. -/
theorem started_reconciled {record : ToolsetRecord}
    (present : (document.getToolset "fake_stdio").isSome)
    (found : document.getToolset record.ns = some record) :
    (document.upsertToolset (reconciledRecord record)).started config =
        document.started config ∧
      ((document.upsertToolset (reconciledRecord record)).getToolset
        "fake_stdio").isSome := by
  have still :
      ((document.upsertToolset (reconciledRecord record)).getToolset
        "fake_stdio").isSome := by
    rw [getToolset_upsertToolset]
    split
    · rfl
    · exact present
  have same : (document.upsertToolset
      (reconciledRecord record)).toolsets.map reconciledRecord =
        document.toolsets.map reconciledRecord :=
    map_reconciled_upsert found
  rw [started_of_present still, started_of_present present, same]
  exact ⟨rfl, still⟩

end StateDocument

/-! ## Interrupted starts -/

/-- A start from the second world leads where one from the first leads. -/
structure Restartable (before after : World) : Prop where
  config : after.config = before.config
  distinct : after.document.Distinct
  started :
    after.document.started after.config =
      before.document.started before.config

variable {world : World}

theorem Restartable.refl (distinct : world.document.Distinct) :
    Restartable world world :=
  ⟨rfl, distinct, rfl⟩

theorem Restartable.trans {first second third : World}
    (left : Restartable first second) (right : Restartable second third) :
    Restartable first third :=
  ⟨right.config.trans left.config, right.distinct,
    right.started.trans left.started⟩

theorem bootstrapDefaults_restartable (distinct : world.document.Distinct) :
    wp bootstrapDefaults
      (fun _ after => Restartable world after ∧
        (after.document.getToolset "fake_stdio").isSome)
      (fun _ after => Restartable world after) world := by
  unfold bootstrapDefaults
  rw [wp_bind, wp_get]
  cases found : world.document.getToolset "fake_stdio" with
  | some record =>
      simp only [World.record, found]
      exact ⟨.refl distinct, by rw [found]; rfl⟩
  | none =>
      simp only [World.record, found, upsertToolset, wp_storeWrite]
      split
      · exact ⟨rfl, distinct, rfl⟩
      · refine ⟨⟨rfl, distinct.upsertToolset _, ?_⟩, ?_⟩
        · exact StateDocument.started_bundled found
        · change ((world.document.upsertToolset _).getToolset _).isSome
          rw [StateDocument.getToolset_upsertToolset]
          rfl

/-- Wherever it stops, what is left to reconcile is left for the next start. -/
theorem reconcileRecords_restartable {records : List ToolsetRecord}
    (distinct : world.document.Distinct)
    (present : (world.document.getToolset "fake_stdio").isSome)
    (separate : (records.map ToolsetRecord.ns).Nodup)
    (stored : ∀ record ∈ records,
      world.document.getToolset record.ns = some record) :
    wp (reconcileRecords records)
      (fun _ after => Restartable world after)
      (fun _ after => Restartable world after) world := by
  induction records generalizing world with
  | nil =>
      exact .refl distinct
  | cons record rest inductionHypothesis =>
      rw [List.map_cons, List.nodup_cons] at separate
      have others : ∀ other ∈ rest, other.ns ≠ record.ns := by
        intro other member same
        apply separate.1
        rw [← same]
        exact List.mem_map_of_mem member
      unfold reconcileRecords
      cases needed : needsReconciling record with
      | true =>
          simp only [if_true, upsertToolset, wp_bind, wp_storeWrite]
          split
          · exact ⟨rfl, distinct, rfl⟩
          · obtain ⟨same, still⟩ :=
              @StateDocument.started_reconciled _ world.config _ present
                (stored record List.mem_cons_self)
            have wrote : Restartable world (world.write fun document =>
                document.upsertToolset (reconciledRecord record)) :=
              ⟨rfl, distinct.upsertToolset _, same⟩
            apply wp_mono (inductionHypothesis wrote.distinct still separate.2 ?_)
            · exact fun _ _ later => wrote.trans later
            · exact fun _ _ later => wrote.trans later
            · intro other member
              have different : other.ns ≠ (reconciledRecord record).ns :=
                others other member
              change (world.document.upsertToolset _).getToolset _ = _
              rw [StateDocument.getToolset_upsertToolset, if_neg different]
              exact stored other (List.mem_cons_of_mem _ member)
      | false =>
          simp only [Bool.false_eq_true, if_false]
          exact inductionHypothesis distinct present separate.2
            fun other member => stored other (List.mem_cons_of_mem _ member)

theorem startService_restartable (distinct : world.document.Distinct) :
    wp startService (fun _ after => Restartable world after)
      (fun _ after => Restartable world after) world := by
  have fresh : Restartable world world.restarted := ⟨rfl, distinct, rfl⟩
  unfold startService
  rw [wp_bind, wp_modify, wp_bind]
  apply wp_mono (bootstrapDefaults_restartable fresh.distinct)
  · rintro _ middle ⟨begun, present⟩
    rw [wp_bind, wp_get]
    apply wp_mono
      (reconcileRecords_restartable begun.distinct present
        begun.distinct.records fun record member =>
          begun.distinct.getToolset member)
    · exact fun _ _ later => fresh.trans (begun.trans later)
    · exact fun _ _ later => fresh.trans (begun.trans later)
  · exact fun _ _ begun => fresh.trans begun

/-! ## The start that comes through -/

/-- A start whose writes succeed. -/
theorem startService_completes (reliable : world.Reliable)
    (distinct : world.document.Distinct) :
    ∃ after,
      outcome startService world = (.ok (), after) ∧
      after.document = world.document.started world.config ∧
      SameTransport world.restarted after := by
  have settles :
      wp startService
        (fun _ after =>
          SameTransport world.restarted after ∧
          ∀ ns, after.document.getToolset ns =
            (bundled world ns).map reconciledRecord)
        (fun _ _ => False) world :=
    startService_rule reliable distinct fun after transport records =>
      ⟨transport, records⟩
  rcases wp_cases (wp_and settles (startService_restartable distinct)) with
    ⟨_, after, computed, ⟨transport, records⟩, kept⟩ |
      ⟨_, _, _, impossible, _⟩
  · refine ⟨after, computed, ?_, transport⟩
    have present : (after.document.getToolset "fake_stdio").isSome := by
      rw [records]
      unfold bundled
      cases world.document.getToolset "fake_stdio" <;> rfl
    have settled :
        after.document.toolsets.map reconciledRecord =
          after.document.toolsets := by
      rw [List.map_congr_left, List.map_id]
      intro record member
      have found := kept.distinct.getToolset member
      rw [records] at found
      obtain ⟨earlier, _, same⟩ := Option.map_eq_some_iff.mp found
      rw [← same]
      exact reconciledRecord_idem earlier
    calc
      after.document = after.document.started after.config := by
        rw [StateDocument.started_of_present present, settled]
      _ = world.document.started world.config := kept.started
  · exact impossible.elim

/-- A start whose writes end as listed; beyond the list they succeed. -/
def World.attemptStart (world : World) (faults : List (Option PyException)) :
    World :=
  (outcome startService { world with writeFaults := faults }).2

theorem restartable_attempts (distinct : world.document.Distinct)
    (attempts : List (List (Option PyException))) :
    Restartable world (attempts.foldl World.attemptStart world) := by
  induction attempts generalizing world with
  | nil =>
      exact .refl distinct
  | cons faults rest inductionHypothesis =>
      have begun : Restartable { world with writeFaults := faults }
          (world.attemptStart faults) :=
        final_of_wp (startService_restartable distinct)
      have again : Restartable world (world.attemptStart faults) :=
        ⟨begun.config, begun.distinct, begun.started⟩
      exact again.trans (inductionHypothesis begun.distinct)

/-- After any starts that were interrupted, failed or came through, one whose
writes succeed ends with the document of an undisturbed first start. -/
theorem start_after_attempts (distinct : world.document.Distinct)
    (attempts : List (List (Option PyException))) :
    ∃ after,
      outcome startService
          { attempts.foldl World.attemptStart world with writeFaults := [] } =
        (.ok (), after) ∧
      after.document = world.document.started world.config ∧
      after.runtimes = [] := by
  have again := restartable_attempts distinct attempts
  generalize attempts.foldl World.attemptStart world = begun at again ⊢
  have reliable : World.Reliable { begun with writeFaults := [] } := by
    simp [World.Reliable]
  obtain ⟨after, computed, document, transport⟩ :=
    startService_completes reliable again.distinct
  exact ⟨after, computed, document.trans again.started, transport.runtimes⟩

/-- One toolset is left loaded and the bundled one is missing. -/
def crashedWorld : World where
  document :=
    { toolsets :=
        [{ fakeToolset {} with
           ns := "files"
           loadedScopes := [.thread]
           transportState := .connected }] }

/-- The first start fails at its first write and the second one at its
second. -/
theorem start_after_attempts_failing :
    ∃ after,
      outcome startService
          { [[some ⟨false, "disk"⟩], [none, some ⟨false, "disk"⟩]].foldl
              World.attemptStart crashedWorld with
            writeFaults := [] } =
        (.ok (), after) ∧
      after.document = crashedWorld.document.started crashedWorld.config ∧
      after.runtimes = [] :=
  start_after_attempts ⟨by decide, by decide, by decide⟩ _

end ToolboxMcp
