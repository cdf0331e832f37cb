import Mathlib.Data.String.Basic
import ToolboxMcp.AuditLog
import ToolboxMcp.RecordForms

/-!
# Up to the order of keys

A dict has an order, but no two dicts differ by it.  `canonical` sorts the keys
wherever there are some in a value or a document, so that two of them are the
same dicts if their canonical forms are equal.
-/

namespace ToolboxMcp

/-! ## Values -/

mutual

def Json.canonical : Json → Json
  | .null => .null
  | .bool value => .bool value
  | .num value => .num value
  | .str value => .str value
  | .arr items => .arr (canonicalItems items)
  | .obj fields =>
      .obj ((canonicalFields fields).insertionSort
        fun left right => left.1 ≤ right.1)

def canonicalItems : List Json → List Json
  | [] => []
  | item :: rest => item.canonical :: canonicalItems rest

def canonicalFields : List (String × Json) → List (String × Json)
  | [] => []
  | (name, value) :: rest => (name, value.canonical) :: canonicalFields rest

end

theorem canonicalItems_eq_map (items : List Json) :
    canonicalItems items = items.map Json.canonical := by
  induction items with
  | nil => rfl
  | cons item items inductionHypothesis =>
      rw [canonicalItems, inductionHypothesis, List.map_cons]

theorem canonicalFields_eq_map (fields : List (String × Json)) :
    canonicalFields fields =
      fields.map fun field => (field.1, field.2.canonical) := by
  induction fields with
  | nil => rfl
  | cons field fields inductionHypothesis =>
      rw [canonicalFields, inductionHypothesis, List.map_cons]

/-- Equal objects have equal fields. -/
theorem mem_of_canonical_eq {fields other : List (String × Json)}
    (same : (Json.obj fields).canonical = (Json.obj other).canonical)
    {name : String} {value : Json} (member : (name, value) ∈ fields) :
    ∃ found, (name, found) ∈ other ∧ found.canonical = value.canonical := by
  simp only [Json.canonical, Json.obj.injEq] at same
  have here : (name, value.canonical) ∈ canonicalFields fields := by
    rw [canonicalFields_eq_map]
    exact List.mem_map_of_mem member
  rw [← List.mem_insertionSort fun left right : String × Json =>
      left.1 ≤ right.1, same, List.mem_insertionSort,
    canonicalFields_eq_map] at here
  obtain ⟨⟨name', found⟩, among, fieldSame⟩ := List.mem_map.mp here
  obtain ⟨rfl, valueSame⟩ := Prod.mk.inj fieldSame
  exact ⟨found, among, valueSame⟩

/-- The entries of a dict by their keys. -/
def sortKeys {α : Type} (entries : List (String × α)) :
    List (String × α) :=
  entries.insertionSort fun left right => left.1 ≤ right.1

theorem sortKeys_perm {α : Type} (entries : List (String × α)) :
    (sortKeys entries).Perm entries :=
  List.perm_insertionSort _ entries

/-- Sorting looks at the keys only. -/
theorem map_sortKeys {α β : Type} {change : String × α → String × β}
    (kept : ∀ entry, (change entry).1 = entry.1)
    (entries : List (String × α)) :
    (sortKeys entries).map change = sortKeys (entries.map change) := by
  apply List.map_insertionSort
  intro first _ second _
  rw [kept, kept]

/-! ## Models -/

def ToolsetTransport.canonical (transport : ToolsetTransport) :
    ToolsetTransport :=
  { transport with env := sortKeys transport.env }

def ErrorInfo.canonical (error : ErrorInfo) : ErrorInfo :=
  { error with details := error.details.map Json.canonical }

def ToolsetRecord.canonical (record : ToolsetRecord) : ToolsetRecord :=
  { record with
    transport := record.transport.canonical
    lastHealthError := record.lastHealthError.map ErrorInfo.canonical
    lastError := record.lastError.map ErrorInfo.canonical }

def ToolSchema.canonical (tool : ToolSchema) : ToolSchema :=
  { tool with
    inputSchema := tool.inputSchema.canonical
    outputSchema := tool.outputSchema.map Json.canonical }

def SchemaSnapshot.canonical (snapshot : SchemaSnapshot) : SchemaSnapshot :=
  { snapshot with tools := snapshot.tools.map ToolSchema.canonical }

def StoredAuditEvent.canonical (event : StoredAuditEvent) :
    StoredAuditEvent :=
  { event with
    details := event.details.canonical
    error := event.error.map ErrorInfo.canonical }

def StateDocument.canonical (document : StateDocument) : StateDocument :=
  { document with
    toolsets := document.toolsets.map ToolsetRecord.canonical
    schemaCache := document.schemaCache.map SchemaSnapshot.canonical
    previousSchemaCache :=
      document.previousSchemaCache.map SchemaSnapshot.canonical
    auditLog := document.auditLog.map StoredAuditEvent.canonical }

@[simp]
theorem ToolsetRecord.canonical_ns (record : ToolsetRecord) :
    record.canonical.ns = record.ns :=
  rfl

@[simp]
theorem SchemaSnapshot.canonical_ns (snapshot : SchemaSnapshot) :
    snapshot.canonical.ns = snapshot.ns :=
  rfl

/-- The validator does not look into dicts. -/
theorem wellFormed_canonical {record : ToolsetRecord} :
    WellFormed record.canonical ↔ WellFormed record := by
  constructor
  · intro wellFormed
    exact {
      default_supported := wellFormed.default_supported
      loaded_supported := wellFormed.loaded_supported
      restorable_supported := wellFormed.restorable_supported
      thread_not_restorable := wellFormed.thread_not_restorable
      recoverable_restorable := wellFormed.recoverable_restorable
      supported := wellFormed.supported
      restorable := wellFormed.restorable
      recoverable := wellFormed.recoverable
      loaded := wellFormed.loaded }
  · intro wellFormed
    exact {
      default_supported := wellFormed.default_supported
      loaded_supported := wellFormed.loaded_supported
      restorable_supported := wellFormed.restorable_supported
      thread_not_restorable := wellFormed.thread_not_restorable
      recoverable_restorable := wellFormed.recoverable_restorable
      supported := wellFormed.supported
      restorable := wellFormed.restorable
      recoverable := wellFormed.recoverable
      loaded := wellFormed.loaded }

/-! ## Documents -/

namespace StateDocument

variable {document other : StateDocument}

theorem getToolset_canonical (ns : Namespace) :
    document.canonical.getToolset ns =
      (document.getToolset ns).map ToolsetRecord.canonical :=
  KeyedList.lookup_map ToolsetRecord.canonical_ns ns document.toolsets

theorem getSchemaSnapshot_canonical (ns : Namespace) :
    document.canonical.getSchemaSnapshot ns =
      (document.getSchemaSnapshot ns).map SchemaSnapshot.canonical :=
  KeyedList.lookup_map SchemaSnapshot.canonical_ns ns document.schemaCache

theorem getPreviousSchemaSnapshot_canonical (ns : Namespace) :
    document.canonical.getPreviousSchemaSnapshot ns =
      (document.getPreviousSchemaSnapshot ns).map SchemaSnapshot.canonical :=
  KeyedList.lookup_map SchemaSnapshot.canonical_ns ns
    document.previousSchemaCache

/-- The keys of the lists do not depend on the order of keys in the dicts. -/
theorem distinct_canonical : document.canonical.Distinct ↔ document.Distinct := by
  have records : document.canonical.toolsets.map ToolsetRecord.ns =
      document.toolsets.map ToolsetRecord.ns := by
    simp [canonical, Function.comp_def]
  have snapshots : document.canonical.schemaCache.map SchemaSnapshot.ns =
      document.schemaCache.map SchemaSnapshot.ns := by
    simp [canonical, Function.comp_def]
  have previous :
      document.canonical.previousSchemaCache.map SchemaSnapshot.ns =
        document.previousSchemaCache.map SchemaSnapshot.ns := by
    simp [canonical, Function.comp_def]
  constructor
  · intro distinct
    exact ⟨records ▸ distinct.records, snapshots ▸ distinct.snapshots,
      previous ▸ distinct.previousSnapshots⟩
  · intro distinct
    exact ⟨records ▸ distinct.records, snapshots ▸ distinct.snapshots,
      previous ▸ distinct.previousSnapshots⟩

theorem Distinct.of_canonical (same : other.canonical = document.canonical)
    (distinct : document.Distinct) : other.Distinct := by
  rw [← distinct_canonical, same, distinct_canonical]
  exact distinct

end StateDocument

def StoreMutation.canonical : StoreMutation → StoreMutation
  | .upsertToolset record => .upsertToolset record.canonical
  | .deleteToolset ns => .deleteToolset ns
  | .upsertSchemaSnapshot snapshot => .upsertSchemaSnapshot snapshot.canonical
  | .replaceSchemaSnapshot snapshot =>
      .replaceSchemaSnapshot snapshot.canonical
  | .deleteSchemaSnapshot ns => .deleteSchemaSnapshot ns
  | .deletePreviousSchemaSnapshot ns => .deletePreviousSchemaSnapshot ns
  | .appendAuditEvent event => .appendAuditEvent event.canonical

theorem map_sliceFromEnd {α β : Type} (change : α → β) (count : Nat)
    (items : List α) :
    (sliceFromEnd count items).map change =
      sliceFromEnd count (items.map change) := by
  unfold sliceFromEnd
  rw [apply_ite (List.map change), List.map_drop, List.length_map]

/-- A mutation treats the dicts of the document as they are. -/
theorem canonical_apply (limit : Nat) (document : StateDocument)
    (mutation : StoreMutation) :
    (mutation.apply limit document).canonical =
      mutation.canonical.apply limit document.canonical := by
  cases mutation with
  | upsertToolset record =>
      simp only [StoreMutation.canonical, StoreMutation.apply,
        StateDocument.upsertToolset, StateDocument.canonical,
        KeyedList.map_upsert ToolsetRecord.canonical_ns]
  | deleteToolset ns =>
      simp only [StoreMutation.canonical, StoreMutation.apply,
        StateDocument.deleteToolset, StateDocument.canonical,
        KeyedList.map_erase ToolsetRecord.canonical_ns]
  | upsertSchemaSnapshot snapshot =>
      simp only [StoreMutation.canonical, StoreMutation.apply,
        StateDocument.upsertSchemaSnapshot, StateDocument.canonical,
        KeyedList.map_upsert SchemaSnapshot.canonical_ns]
  | replaceSchemaSnapshot snapshot =>
      have current :=
        @StateDocument.getSchemaSnapshot_canonical document snapshot.ns
      simp only [StoreMutation.canonical, StoreMutation.apply,
        StateDocument.replaceSchemaSnapshot, SchemaSnapshot.canonical_ns,
        current]
      cases document.getSchemaSnapshot snapshot.ns with
      | none =>
          simp only [Option.map_none, StateDocument.canonical,
            KeyedList.map_upsert SchemaSnapshot.canonical_ns]
      | some retired =>
          simp only [Option.map_some, StateDocument.canonical,
            KeyedList.map_upsert SchemaSnapshot.canonical_ns]
  | deleteSchemaSnapshot ns =>
      simp only [StoreMutation.canonical, StoreMutation.apply,
        StateDocument.deleteSchemaSnapshot, StateDocument.canonical,
        KeyedList.map_erase SchemaSnapshot.canonical_ns]
  | deletePreviousSchemaSnapshot ns =>
      simp only [StoreMutation.canonical, StoreMutation.apply,
        StateDocument.deletePreviousSchemaSnapshot, StateDocument.canonical,
        KeyedList.map_erase SchemaSnapshot.canonical_ns]
  | appendAuditEvent event =>
      simp only [StoreMutation.canonical, StoreMutation.apply,
        StateDocument.appendAuditEvent, StateDocument.canonical,
        apply_ite (List.map StoredAuditEvent.canonical), map_sliceFromEnd,
        List.map_append, List.map_cons, List.map_nil, List.length_append,
        List.length_map]
      rfl

/-- The same dicts before a mutation are the same after it. -/
theorem canonical_apply_congr {document other : StateDocument}
    (same : other.canonical = document.canonical) (limit : Nat)
    (mutation : StoreMutation) :
    (mutation.apply limit other).canonical =
      (mutation.apply limit document).canonical := by
  rw [canonical_apply, same, ← canonical_apply]

end ToolboxMcp
