import ToolboxMcp.AuditLog
import ToolboxMcp.Library.OrderedMap
import ToolboxMcp.Persistence
import ToolboxMcp.Service.Views

/-!
# The registry as a map

Every mutation of the store loads the file, scans the lists of the document and
writes the whole of it back.  Seen from outside, the store is three
insertion-ordered maps from namespaces and a log: what is read after any
sequence of mutations and reloads is what these maps hold, up to the order of
the keys in its dicts.
-/

namespace ToolboxMcp

open Effect

/-! ## The store's operations -/

/-- What a mutation returns. -/
inductive MutationResult where
  | record (record : ToolsetRecord)
  | snapshot (snapshot : SchemaSnapshot)
  | removed (removed : Bool)
  | event (event : AuditEvent)

def StoreMutation.result (before after : StateDocument) :
    StoreMutation → MutationResult
  | .upsertToolset record => .record record
  | .deleteToolset _ =>
      .removed (after.toolsets.length ≠ before.toolsets.length)
  | .upsertSchemaSnapshot snapshot => .snapshot snapshot
  | .replaceSchemaSnapshot snapshot => .snapshot snapshot
  | .deleteSchemaSnapshot _ =>
      .removed (after.schemaCache.length ≠ before.schemaCache.length)
  | .deletePreviousSchemaSnapshot _ =>
      .removed
        (after.previousSchemaCache.length ≠ before.previousSchemaCache.length)
  | .appendAuditEvent event =>
      .event <| toAuditEvent after
        { event with sequence := before.nextAuditSequence }

namespace Store

section Operations

variable [SecretLibrary] (limit : Nat)

/-- `_mutate`. -/
def mutate (mutation : StoreMutation) : StoreM MutationResult := do
  let document ← load
  let changed := mutation.apply limit document
  writeUnlocked changed
  return mutation.result document changed

def listToolsets : StoreM (List ToolsetRecord) := do
  let document ← load
  return document.toolsets

def getToolset (ns : Namespace) : StoreM (Option ToolsetRecord) := do
  let document ← load
  return document.getToolset ns

def getSchemaSnapshot (ns : Namespace) : StoreM (Option SchemaSnapshot) := do
  let document ← load
  return document.getSchemaSnapshot ns

def getPreviousSchemaSnapshot (ns : Namespace) :
    StoreM (Option SchemaSnapshot) := do
  let document ← load
  return document.getPreviousSchemaSnapshot ns

/-- A mutation, or the document read again, by this process or the next. -/
inductive Action where
  | mutate (mutation : StoreMutation)
  | reload

def perform : Action → StoreM Unit
  | .mutate mutation => do
      let _ ← mutate limit mutation
      return
  | .reload => do
      let _ ← load
      return

def performAll : List Action → StoreM Unit
  | [] => return
  | action :: rest => do
      perform limit action
      performAll rest

end Operations

end Store

/-! ## The maps -/

structure RegistryMap where
  toolsets : OrderedMap Namespace ToolsetRecord
  snapshots : OrderedMap Namespace SchemaSnapshot
  previous : OrderedMap Namespace SchemaSnapshot
  auditLog : List StoredAuditEvent
  nextAuditSequence : Nat

namespace RegistryMap

/-- What each mutation means: writing and removing, and a rotation of the
current snapshot. -/
def apply (limit : Nat) (map : RegistryMap) : StoreMutation → RegistryMap
  | .upsertToolset record =>
      { map with toolsets := map.toolsets.write record.ns record }
  | .deleteToolset ns => { map with toolsets := map.toolsets.remove ns }
  | .upsertSchemaSnapshot snapshot =>
      { map with snapshots := map.snapshots.write snapshot.ns snapshot }
  | .replaceSchemaSnapshot snapshot =>
      { map with
        snapshots := map.snapshots.write snapshot.ns snapshot
        previous :=
          match map.snapshots.value snapshot.ns with
          | some retired => map.previous.write snapshot.ns retired
          | none => map.previous }
  | .deleteSchemaSnapshot ns =>
      { map with snapshots := map.snapshots.remove ns }
  | .deletePreviousSchemaSnapshot ns =>
      { map with previous := map.previous.remove ns }
  | .appendAuditEvent event =>
      let log :=
        map.auditLog ++ [{ event with sequence := map.nextAuditSequence }]
      { map with
        auditLog :=
          if limit < log.length then sliceFromEnd limit log else log
        nextAuditSequence := map.nextAuditSequence + 1 }

def perform (limit : Nat) (map : RegistryMap) : Store.Action → RegistryMap
  | .mutate mutation => map.apply limit mutation
  | .reload => map

def ofDocument (document : StateDocument) (distinct : document.Distinct) :
    RegistryMap where
  toolsets := .ofList ToolsetRecord.ns document.toolsets distinct.records
  snapshots :=
    .ofList SchemaSnapshot.ns document.schemaCache distinct.snapshots
  previous :=
    .ofList SchemaSnapshot.ns document.previousSchemaCache
      distinct.previousSnapshots
  auditLog := document.auditLog
  nextAuditSequence := document.nextAuditSequence

structure Represents (map : RegistryMap) (document : StateDocument) :
    Prop where
  toolsets :
    OrderedMap.Represents ToolsetRecord.ns document.toolsets map.toolsets
  snapshots :
    OrderedMap.Represents SchemaSnapshot.ns document.schemaCache map.snapshots
  previous :
    OrderedMap.Represents SchemaSnapshot.ns document.previousSchemaCache
      map.previous
  auditLog : document.auditLog = map.auditLog
  nextAuditSequence : document.nextAuditSequence = map.nextAuditSequence

theorem represents_ofDocument {document : StateDocument}
    (distinct : document.Distinct) :
    (ofDocument document distinct).Represents document where
  toolsets := .ofList distinct.records
  snapshots := .ofList distinct.snapshots
  previous := .ofList distinct.previousSnapshots
  auditLog := rfl
  nextAuditSequence := rfl

variable {document : StateDocument} {map : RegistryMap}

/-- No namespace has two records or two snapshots of a kind. -/
theorem Represents.distinct (represents : map.Represents document) :
    document.Distinct where
  records := represents.toolsets.nodup
  snapshots := represents.snapshots.nodup
  previousSnapshots := represents.previous.nodup

/-- Each scan of the lists does to the document what its meaning does to the
maps. -/
theorem Represents.apply (represents : map.Represents document)
    (limit : Nat) (mutation : StoreMutation) :
    (map.apply limit mutation).Represents (mutation.apply limit document) := by
  cases mutation with
  | upsertToolset record =>
      exact { represents with
        toolsets := represents.toolsets.upsert record }
  | deleteToolset ns =>
      exact { represents with toolsets := represents.toolsets.erase ns }
  | upsertSchemaSnapshot snapshot =>
      exact { represents with
        snapshots := represents.snapshots.upsert snapshot }
  | replaceSchemaSnapshot snapshot =>
      have current :
          document.getSchemaSnapshot snapshot.ns =
            map.snapshots.value snapshot.ns :=
        represents.snapshots.lookup snapshot.ns
      refine { represents with
        snapshots := represents.snapshots.upsert snapshot
        previous := ?_ }
      simp only [RegistryMap.apply, StoreMutation.apply,
        StateDocument.replaceSchemaSnapshot, ← current]
      cases found : document.getSchemaSnapshot snapshot.ns with
      | none => exact represents.previous
      | some retired =>
          have sameKey : retired.ns = snapshot.ns :=
            StateDocument.getSchemaSnapshot_ns found
          rw [← sameKey]
          exact represents.previous.upsert retired
  | deleteSchemaSnapshot ns =>
      exact { represents with snapshots := represents.snapshots.erase ns }
  | deletePreviousSchemaSnapshot ns =>
      exact { represents with previous := represents.previous.erase ns }
  | appendAuditEvent event =>
      refine { represents with auditLog := ?_, nextAuditSequence := ?_ }
      · simp only [RegistryMap.apply, StoreMutation.apply,
          StateDocument.appendAuditEvent, represents.auditLog,
          represents.nextAuditSequence]
      · simp only [RegistryMap.apply, StoreMutation.apply,
          StateDocument.appendAuditEvent, represents.nextAuditSequence]

end RegistryMap

/-! ## What a mutation leaves alone -/

/-- The namespace a toolset or snapshot mutation is for. -/
def StoreMutation.ns? : StoreMutation → Option Namespace
  | .upsertToolset record => some record.ns
  | .deleteToolset ns => some ns
  | .upsertSchemaSnapshot snapshot => some snapshot.ns
  | .replaceSchemaSnapshot snapshot => some snapshot.ns
  | .deleteSchemaSnapshot ns => some ns
  | .deletePreviousSchemaSnapshot ns => some ns
  | .appendAuditEvent _ => none

/-- The lists of a document. -/
inductive RegistryList where
  | toolsets
  | schemaCache
  | previousSchemaCache
deriving DecidableEq

/-- The lists a mutation is for; `replace` also rotates into the previous
cache. -/
def StoreMutation.lists : StoreMutation → List RegistryList
  | .upsertToolset _ => [.toolsets]
  | .deleteToolset _ => [.toolsets]
  | .upsertSchemaSnapshot _ => [.schemaCache]
  | .replaceSchemaSnapshot _ => [.schemaCache, .previousSchemaCache]
  | .deleteSchemaSnapshot _ => [.schemaCache]
  | .deletePreviousSchemaSnapshot _ => [.previousSchemaCache]
  | .appendAuditEvent _ => []

theorem StoreMutation.ns?_canonical (mutation : StoreMutation) :
    mutation.canonical.ns? = mutation.ns? := by
  cases mutation <;> rfl

theorem StoreMutation.lists_canonical (mutation : StoreMutation) :
    mutation.canonical.lists = mutation.lists := by
  cases mutation <;> rfl

/-- The entries of other namespaces, the other lists and the audit log are as
before. -/
structure LeavesRest (ns : Namespace) (lists : List RegistryList)
    (before after : StateDocument) : Prop where
  toolsetsElsewhere :
    (after.toolsets.filter fun record => record.ns ≠ ns) =
      before.toolsets.filter fun record => record.ns ≠ ns
  snapshotsElsewhere :
    (after.schemaCache.filter fun snapshot => snapshot.ns ≠ ns) =
      before.schemaCache.filter fun snapshot => snapshot.ns ≠ ns
  previousElsewhere :
    (after.previousSchemaCache.filter fun snapshot => snapshot.ns ≠ ns) =
      before.previousSchemaCache.filter fun snapshot => snapshot.ns ≠ ns
  toolsets : .toolsets ∉ lists → after.toolsets = before.toolsets
  schemaCache : .schemaCache ∉ lists → after.schemaCache = before.schemaCache
  previousSchemaCache : .previousSchemaCache ∉ lists →
    after.previousSchemaCache = before.previousSchemaCache
  auditLog : after.auditLog = before.auditLog
  nextAuditSequence : after.nextAuditSequence = before.nextAuditSequence

theorem LeavesRest.refl (ns : Namespace) (lists : List RegistryList)
    (document : StateDocument) : LeavesRest ns lists document document :=
  ⟨rfl, rfl, rfl, fun _ => rfl, fun _ => rfl, fun _ => rfl, rfl, rfl⟩

theorem leavesRest_apply (limit : Nat) (document : StateDocument)
    {mutation : StoreMutation} {ns : Namespace}
    (about : mutation.ns? = some ns) :
    LeavesRest ns mutation.lists document (mutation.apply limit document) := by
  have rest := LeavesRest.refl ns mutation.lists document
  cases mutation with
  | upsertToolset record =>
      cases about
      exact { rest with
        toolsetsElsewhere :=
          KeyedList.filter_upsert ToolsetRecord.ns record document.toolsets
        toolsets := fun other => absurd List.mem_cons_self other }
  | deleteToolset removed =>
      cases about
      exact { rest with
        toolsetsElsewhere :=
          KeyedList.filter_erase ToolsetRecord.ns ns document.toolsets
        toolsets := fun other => absurd List.mem_cons_self other }
  | upsertSchemaSnapshot snapshot =>
      cases about
      exact { rest with
        snapshotsElsewhere :=
          KeyedList.filter_upsert SchemaSnapshot.ns snapshot
            document.schemaCache
        schemaCache := fun other => absurd List.mem_cons_self other }
  | replaceSchemaSnapshot snapshot =>
      cases about
      refine { rest with
        snapshotsElsewhere :=
          KeyedList.filter_upsert SchemaSnapshot.ns snapshot
            document.schemaCache
        previousElsewhere := ?_
        schemaCache := fun other => absurd List.mem_cons_self other
        previousSchemaCache := fun other =>
          absurd (List.mem_cons_of_mem _ List.mem_cons_self) other }
      simp only [StoreMutation.apply, StateDocument.replaceSchemaSnapshot]
      cases found : document.getSchemaSnapshot snapshot.ns with
      | none => rfl
      | some retired =>
          have sameKey : retired.ns = snapshot.ns :=
            StateDocument.getSchemaSnapshot_ns found
          rw [← sameKey]
          exact KeyedList.filter_upsert SchemaSnapshot.ns retired
            document.previousSchemaCache
  | deleteSchemaSnapshot removed =>
      cases about
      exact { rest with
        snapshotsElsewhere :=
          KeyedList.filter_erase SchemaSnapshot.ns ns document.schemaCache
        schemaCache := fun other => absurd List.mem_cons_self other }
  | deletePreviousSchemaSnapshot removed =>
      cases about
      exact { rest with
        previousElsewhere :=
          KeyedList.filter_erase SchemaSnapshot.ns ns
            document.previousSchemaCache
        previousSchemaCache := fun other =>
          absurd List.mem_cons_self other }
  | appendAuditEvent event =>
      cases about

/-! ## Through the file -/

/-- A record is given as its model validates it. -/
def StoreMutation.Valid (mutation : StoreMutation) : Prop :=
  ∀ record, mutation = .upsertToolset record →
    validateScopePolicy record = .ok record

theorem readable_apply {document : StateDocument} {mutation : StoreMutation}
    (readable : document.Readable) (valid : mutation.Valid) (limit : Nat) :
    (mutation.apply limit document).Readable := by
  cases mutation with
  | upsertToolset record =>
      intro stored member
      rcases KeyedList.mem_upsert _ member with same | earlier
      · rw [same]
        exact valid record rfl
      · exact readable stored earlier
  | deleteToolset ns =>
      intro stored member
      exact readable stored (KeyedList.mem_of_mem_erase _ member)
  | _ => exact readable

theorem version_apply (limit : Nat) (document : StateDocument)
    (mutation : StoreMutation) :
    (mutation.apply limit document).version = document.version := by
  cases mutation <;> rfl

section Store

variable [SecretLibrary] {limit : Nat} {store : StateStore}
  {document : StateDocument}

/-- The next load returns the document, up to the order of keys: it is in the
file, or there is no file and it is the first one. -/
structure StateStore.Ready (store : StateStore) (document : StateDocument) :
    Prop where
  usable : store.Usable
  readable : document.Readable
  version : document.version = currentVersion
  held :
    store.file = none ∧ document.canonical = {} ∨
      ∃ read, Settled store read ∧ read.canonical = document.canonical

theorem ready_empty : StateStore.Ready {} {} where
  usable := fun _ held => by cases held
  readable := fun _ member => by cases member
  version := rfl
  held := .inl ⟨rfl, rfl⟩

omit [SecretLibrary] in
theorem version_of_canonical {document other : StateDocument}
    (same : other.canonical = document.canonical) :
    other.version = document.version := by
  show other.canonical.version = document.canonical.version
  rw [same]

theorem StateStore.Ready.congr (ready : store.Ready document)
    {other : StateDocument} (same : other.canonical = document.canonical) :
    store.Ready other where
  usable := ready.usable
  readable := readable_of_canonical same ready.readable
  version := (version_of_canonical same).trans ready.version
  held := by
    rw [same]
    exact ready.held

/-- A document that is written is what the next load returns. -/
theorem writeUnlocked_ready (inverts : SecretLibrary.Inverts)
    (usable : store.Usable) (readable : document.Readable)
    (version : document.version = currentVersion) :
    wp (writeUnlocked document)
      (fun _ after => after.Ready document ∧
        ∃ read, Settled after read ∧ read.canonical = document.canonical)
      (fun _ _ => False) store := by
  have settles :
      wp (writeUnlocked document)
        (fun _ after =>
          ∃ read, Settled after read ∧ read.canonical = document.canonical)
        (fun _ _ => False) store := by
    apply writeUnlocked_rule inverts readable
    · intro after read _ same settled
      rw [← version] at same
      exact ⟨read, settled, same⟩
    · exact fun _ _ unusable => unusable usable
  have keeps :
      wp (writeUnlocked document)
        (fun _ after => after.Usable) (fun _ _ => False) store := by
    unfold writeUnlocked serializeDocument
    simp only [wp_bind, wp_pure, wp_modify]
    apply protectAll_rule inverts
    · intro entries after prepared _ _ _ _
      exact prepared.usable usable
    · exact fun _ _ unusable => unusable usable
  apply wp_mono (wp_and settles keeps)
  · intro _ after both
    exact ⟨⟨both.2, readable, version, .inr both.1⟩, both.1⟩
  · exact fun _ _ both => both.1

theorem load_ready (inverts : SecretLibrary.Inverts)
    (ready : store.Ready document) :
    wp load
      (fun loaded after =>
        loaded.canonical = document.canonical ∧ after.Ready document)
      (fun _ _ => False) store := by
  rcases ready.held with ⟨missing, first⟩ | ⟨read, settled, same⟩
  · have empty : store.Ready {} := ready.congr first.symm
    unfold load ensure
    simp only [wp_bind, wp_get, missing]
    unfold save
    apply wp_mono
      (writeUnlocked_ready inverts empty.usable empty.readable empty.version)
    · rintro _ after ⟨written, read, settled, same⟩
      have reads := settled.load
      obtain ⟨payload, _, held, _⟩ := settled
      unfold load ensure at reads
      simp only [outcome_bind, outcome_get, held, outcome_pure] at reads
      unfold wp
      rw [reads]
      exact ⟨same.trans first.symm, written.congr first⟩
    · exact fun _ _ => id
  · have reads := settled.load
    unfold wp
    rw [reads]
    exact ⟨same, ready⟩

namespace Store

theorem mutate_ready (inverts : SecretLibrary.Inverts)
    (ready : store.Ready document) {mutation : StoreMutation}
    (valid : mutation.Valid) :
    wp (mutate limit mutation)
      (fun result after =>
        (∃ loaded, loaded.canonical = document.canonical ∧
          result = mutation.result loaded (mutation.apply limit loaded)) ∧
          after.Ready (mutation.apply limit document))
      (fun _ _ => False) store := by
  unfold mutate
  rw [wp_bind]
  apply wp_mono (load_ready inverts ready)
  · rintro loaded middle ⟨same, still⟩
    have there := still.congr same
    rw [wp_bind]
    apply wp_mono (writeUnlocked_ready inverts there.usable
      (readable_apply there.readable valid limit)
      ((version_apply limit loaded mutation).trans there.version))
    · rintro _ after ⟨written, _⟩
      exact ⟨⟨loaded, same, rfl⟩,
        written.congr (canonical_apply_congr same.symm limit mutation)⟩
    · exact fun _ _ => id
  · exact fun _ _ => id

/-- The records of the mutations are given as their model validates them. -/
def Valid (actions : List Action) : Prop :=
  ∀ mutation, .mutate mutation ∈ actions → mutation.Valid

/-- Along a run the file follows the maps. -/
theorem performAll_ready (inverts : SecretLibrary.Inverts)
    {actions : List Action} (valid : Valid actions)
    (ready : store.Ready document) {map : RegistryMap}
    (represents : map.Represents document) :
    wp (performAll limit actions)
      (fun _ after => ∃ final,
        after.Ready final ∧
          (actions.foldl (RegistryMap.perform limit) map).Represents final)
      (fun _ _ => False) store := by
  induction actions generalizing store document map with
  | nil => exact ⟨document, ready, represents⟩
  | cons action rest inductionHypothesis =>
      have later : Valid rest := fun mutation member =>
        valid mutation (List.mem_cons_of_mem _ member)
      unfold performAll
      rw [wp_bind]
      cases action with
      | mutate mutation =>
          simp only [perform, wp_bind, wp_pure]
          apply wp_mono (mutate_ready inverts ready
            (valid mutation List.mem_cons_self))
          · rintro result middle ⟨_, written⟩
            exact inductionHypothesis later written
              (represents.apply limit mutation)
          · exact fun _ _ => id
      | reload =>
          simp only [perform, wp_bind, wp_pure]
          apply wp_mono (load_ready inverts ready)
          · rintro loaded middle ⟨_, still⟩
            exact inductionHypothesis later still represents
          · exact fun _ _ => id

/-- The reading operations return what the maps hold, up to the order of keys,
and no namespace has two records or two snapshots of a kind in the document
they read. -/
structure Shows (store : StateStore) (map : RegistryMap) : Prop where
  listToolsets :
    (outcome listToolsets store).1.map (List.map ToolsetRecord.canonical) =
      .ok (map.toolsets.entries.map ToolsetRecord.canonical)
  getToolset : ∀ ns,
    (outcome (getToolset ns) store).1.map
        (Option.map ToolsetRecord.canonical) =
      .ok ((map.toolsets.value ns).map ToolsetRecord.canonical)
  getSchemaSnapshot : ∀ ns,
    (outcome (getSchemaSnapshot ns) store).1.map
        (Option.map SchemaSnapshot.canonical) =
      .ok ((map.snapshots.value ns).map SchemaSnapshot.canonical)
  getPreviousSchemaSnapshot : ∀ ns,
    (outcome (getPreviousSchemaSnapshot ns) store).1.map
        (Option.map SchemaSnapshot.canonical) =
      .ok ((map.previous.value ns).map SchemaSnapshot.canonical)
  document : ∃ document,
    (outcome load store).1 = .ok document ∧ document.Distinct ∧
      document.auditLog.map StoredAuditEvent.canonical =
        map.auditLog.map StoredAuditEvent.canonical

theorem outcome_load (inverts : SecretLibrary.Inverts)
    (ready : store.Ready document) :
    ∃ loaded after,
      outcome load store = (.ok loaded, after) ∧
        loaded.canonical = document.canonical := by
  rcases wp_cases (load_ready inverts ready) with
    ⟨loaded, after, returned, same, _⟩ | ⟨_, _, _, impossible⟩
  · exact ⟨loaded, after, returned, same⟩
  · exact impossible.elim

/-- What a reading operation picks from the document. -/
theorem outcome_read {α β : Type} (inverts : SecretLibrary.Inverts)
    (ready : store.Ready document) (pick : StateDocument → α)
    (sorts : α → β) (sorted : StateDocument → β)
    (sees : ∀ document, sorts (pick document) = sorted document.canonical) :
    (outcome (do let loaded ← load; return pick loaded) store).1.map sorts =
      .ok (sorts (pick document)) := by
  obtain ⟨loaded, after, returned, same⟩ := outcome_load inverts ready
  rw [outcome_bind, returned, sees document, ← same, ← sees loaded]
  rfl

theorem shows_of_ready (inverts : SecretLibrary.Inverts)
    (ready : store.Ready document) {map : RegistryMap}
    (represents : map.Represents document) : Shows store map where
  listToolsets := by
    rw [represents.toolsets.entries_eq]
    exact outcome_read inverts ready StateDocument.toolsets _
      StateDocument.toolsets fun _ => rfl
  getToolset ns := by
    rw [← represents.toolsets.lookup]
    exact outcome_read inverts ready (·.getToolset ns) _ (·.getToolset ns)
      fun document => (document.getToolset_canonical ns).symm
  getSchemaSnapshot ns := by
    rw [← represents.snapshots.lookup]
    exact outcome_read inverts ready (·.getSchemaSnapshot ns) _ (·.getSchemaSnapshot ns)
      fun document => (document.getSchemaSnapshot_canonical ns).symm
  getPreviousSchemaSnapshot ns := by
    rw [← represents.previous.lookup]
    exact outcome_read inverts ready (·.getPreviousSchemaSnapshot ns) _ (·.getPreviousSchemaSnapshot ns)
      fun document => (document.getPreviousSchemaSnapshot_canonical ns).symm
  document := by
    obtain ⟨loaded, after, returned, same⟩ := outcome_load inverts ready
    refine ⟨loaded, by rw [returned], ?_, ?_⟩
    · exact StateDocument.Distinct.of_canonical same represents.distinct
    · rw [← represents.auditLog]
      exact congrArg StateDocument.auditLog same

/-- A toolset or snapshot mutation of the store changes, in the document read
from it, only entries of its namespace, and these only in its lists; the order
of keys does not count. -/
def Framed (limit : Nat) (store : StateStore) : Prop :=
  ∀ mutation ns, mutation.Valid → mutation.ns? = some ns →
    ∃ before result later after,
      (outcome load store).1 = .ok before ∧
        outcome (mutate limit mutation) store = (.ok result, later) ∧
        (outcome load later).1 = .ok after ∧
        LeavesRest ns mutation.lists before.canonical after.canonical

theorem framed_of_ready (inverts : SecretLibrary.Inverts)
    (ready : store.Ready document) : Framed limit store := by
  intro mutation ns valid about
  obtain ⟨before, _, loaded, same⟩ := outcome_load inverts ready
  rcases wp_cases (mutate_ready inverts ready valid) with
    ⟨result, later, mutated, _, written⟩ | ⟨_, _, _, impossible⟩
  · obtain ⟨after, _, reloaded, sameAfter⟩ := outcome_load inverts written
    refine ⟨before, result, later, after, by rw [loaded], mutated,
      by rw [reloaded], ?_⟩
    rw [same, sameAfter, canonical_apply, ← mutation.lists_canonical]
    exact leavesRest_apply limit document.canonical
      (mutation.ns?_canonical.trans about)
  · exact impossible.elim

/-- After any sequence of mutations and reloads the store reads as the maps
these mutations mean, and the next mutation touches nothing else. -/
theorem registry_refines_maps (inverts : SecretLibrary.Inverts)
    (ready : store.Ready document) (distinct : document.Distinct)
    {actions : List Action} (valid : Valid actions) :
    ∃ after,
      outcome (performAll limit actions) store = (.ok (), after) ∧
        Shows after
          (actions.foldl (RegistryMap.perform limit)
            (RegistryMap.ofDocument document distinct)) ∧
        Framed limit after := by
  have follows :=
    @performAll_ready _ limit _ _ inverts _ valid ready _
      (RegistryMap.represents_ofDocument distinct)
  rcases wp_cases follows with
    ⟨_, after, performed, final, written, represents⟩ |
      ⟨_, _, _, impossible⟩
  · exact ⟨after, performed, shows_of_ready inverts written represents,
      framed_of_ready inverts written⟩
  · exact impossible.elim

end Store

end Store

/-! ## A run on a new store -/

namespace Symbolic

open scoped Symbolic

/-- One toolset is added, another one with its snapshots, and the first is
removed and added again. -/
def registrations : List Store.Action :=
  [.mutate (.upsertToolset secretToolset),
   .mutate (.upsertToolset { secretToolset with ns := "other" }),
   .mutate (.replaceSchemaSnapshot
     { ns := "other"
       schemaHash := "first"
       toolCount := 0
       tools := []
       capturedAt := 0 }),
   .reload,
   .mutate (.replaceSchemaSnapshot
     { ns := "other"
       schemaHash := "second"
       toolCount := 0
       tools := []
       capturedAt := 1 }),
   .mutate (.deleteToolset "secret_stdio"),
   .mutate (.upsertToolset secretToolset)]

theorem registry_refines_maps_secret :
    ∃ after,
      outcome (Store.performAll 250 registrations) {} = (.ok (), after) ∧
        (outcome Store.listToolsets after).1.map
            (List.map ToolsetRecord.canonical) =
          .ok ([{ secretToolset with ns := "other" }, secretToolset].map
            ToolsetRecord.canonical) := by
  have valid : Store.Valid registrations := by
    intro mutation member record upserts
    subst upserts
    simp only [registrations, List.mem_cons, Store.Action.mutate.injEq,
      StoreMutation.upsertToolset.injEq, reduceCtorEq, List.not_mem_nil,
      or_false, false_or] at member
    rcases member with rfl | rfl | rfl <;> rfl
  obtain ⟨after, performed, reads, _⟩ :=
    @Store.registry_refines_maps _ 250 _ _ inverts ready_empty
      StateDocument.distinct_empty _ valid
  exact ⟨after, performed, reads.listToolsets⟩

end Symbolic

end ToolboxMcp
