import ToolboxMcp.Library.KeyedList
import ToolboxMcp.Models

/-!
# The state document and its mutations

`JsonStateStore` loads the document, applies one of these functions and writes
the result back as a whole.  Records and snapshots are kept in lists searched
by namespace; the laws needed later are those of keyed lists, read off through
`getToolset`, `getSchemaSnapshot` and `getPreviousSchemaSnapshot`.
-/

namespace ToolboxMcp

def defaultAuditRetentionLimit : Nat := 250

/-- `items[-count:]`, where `-0` is the first position. -/
def sliceFromEnd {α : Type} (count : Nat) (items : List α) : List α :=
  if count = 0 then items else items.drop (items.length - count)

namespace StateDocument

variable (document : StateDocument)

def getToolset (ns : Namespace) : Option ToolsetRecord :=
  KeyedList.lookup ToolsetRecord.ns ns document.toolsets

def upsertToolset (record : ToolsetRecord) : StateDocument :=
  { document with
    toolsets := KeyedList.upsert ToolsetRecord.ns record document.toolsets }

def deleteToolset (ns : Namespace) : StateDocument :=
  { document with
    toolsets := KeyedList.erase ToolsetRecord.ns ns document.toolsets }

def getSchemaSnapshot (ns : Namespace) : Option SchemaSnapshot :=
  KeyedList.lookup SchemaSnapshot.ns ns document.schemaCache

def getPreviousSchemaSnapshot (ns : Namespace) : Option SchemaSnapshot :=
  KeyedList.lookup SchemaSnapshot.ns ns document.previousSchemaCache

def upsertSchemaSnapshot (snapshot : SchemaSnapshot) : StateDocument :=
  { document with
    schemaCache :=
      KeyedList.upsert SchemaSnapshot.ns snapshot document.schemaCache }

/-- The replaced current snapshot becomes the previous one. -/
def replaceSchemaSnapshot (snapshot : SchemaSnapshot) : StateDocument :=
  { document with
    previousSchemaCache :=
      match document.getSchemaSnapshot snapshot.ns with
      | some existing =>
          KeyedList.upsert SchemaSnapshot.ns existing
            document.previousSchemaCache
      | none => document.previousSchemaCache
    schemaCache :=
      KeyedList.upsert SchemaSnapshot.ns snapshot document.schemaCache }

def deleteSchemaSnapshot (ns : Namespace) : StateDocument :=
  { document with
    schemaCache := KeyedList.erase SchemaSnapshot.ns ns document.schemaCache }

def deletePreviousSchemaSnapshot (ns : Namespace) : StateDocument :=
  { document with
    previousSchemaCache :=
      KeyedList.erase SchemaSnapshot.ns ns document.previousSchemaCache }

/-- Number the event, append it and, once the log is longer than `limit`, keep
its slice from `-limit`. -/
def appendAuditEvent
    (limit : Nat) (event : StoredAuditEvent) : StateDocument :=
  let stored := { event with sequence := document.nextAuditSequence }
  let log := document.auditLog ++ [stored]
  { document with
    nextAuditSequence := document.nextAuditSequence + 1
    auditLog :=
      if limit < log.length then sliceFromEnd limit log else log }

/-- No two records share a namespace, and no two snapshots of a cache do. -/
structure Distinct : Prop where
  records : (document.toolsets.map ToolsetRecord.ns).Nodup
  snapshots : (document.schemaCache.map SchemaSnapshot.ns).Nodup
  previousSnapshots :
    (document.previousSchemaCache.map SchemaSnapshot.ns).Nodup

theorem distinct_empty : Distinct {} :=
  ⟨List.nodup_nil, List.nodup_nil, List.nodup_nil⟩

variable {document}

theorem Distinct.upsertToolset
    (distinct : document.Distinct) (record : ToolsetRecord) :
    (document.upsertToolset record).Distinct where
  records := KeyedList.nodup_keys_upsert _ distinct.records record
  snapshots := distinct.snapshots
  previousSnapshots := distinct.previousSnapshots

theorem Distinct.deleteToolset
    (distinct : document.Distinct) (ns : Namespace) :
    (document.deleteToolset ns).Distinct where
  records := KeyedList.nodup_keys_erase _ distinct.records ns
  snapshots := distinct.snapshots
  previousSnapshots := distinct.previousSnapshots

theorem Distinct.replaceSchemaSnapshot
    (distinct : document.Distinct) (snapshot : SchemaSnapshot) :
    (document.replaceSchemaSnapshot snapshot).Distinct where
  records := distinct.records
  snapshots := KeyedList.nodup_keys_upsert _ distinct.snapshots snapshot
  previousSnapshots := by
    simp only [StateDocument.replaceSchemaSnapshot]
    split
    · exact KeyedList.nodup_keys_upsert _ distinct.previousSnapshots _
    · exact distinct.previousSnapshots

theorem Distinct.deleteSchemaSnapshot
    (distinct : document.Distinct) (ns : Namespace) :
    (document.deleteSchemaSnapshot ns).Distinct where
  records := distinct.records
  snapshots := KeyedList.nodup_keys_erase _ distinct.snapshots ns
  previousSnapshots := distinct.previousSnapshots

theorem Distinct.deletePreviousSchemaSnapshot
    (distinct : document.Distinct) (ns : Namespace) :
    (document.deletePreviousSchemaSnapshot ns).Distinct where
  records := distinct.records
  snapshots := distinct.snapshots
  previousSnapshots :=
    KeyedList.nodup_keys_erase _ distinct.previousSnapshots ns

theorem Distinct.appendAuditEvent
    (distinct : document.Distinct) (limit : Nat)
    (event : StoredAuditEvent) :
    (document.appendAuditEvent limit event).Distinct where
  records := distinct.records
  snapshots := distinct.snapshots
  previousSnapshots := distinct.previousSnapshots

theorem getToolset_ns {ns : Namespace} {record : ToolsetRecord}
    (found : document.getToolset ns = some record) : record.ns = ns :=
  KeyedList.key_of_lookup _ found

theorem Distinct.getToolset (distinct : document.Distinct)
    {record : ToolsetRecord} (member : record ∈ document.toolsets) :
    document.getToolset record.ns = some record :=
  KeyedList.lookup_of_mem _ distinct.records member

theorem getToolset_eq_none {ns : Namespace} :
    document.getToolset ns = none ↔
      ns ∉ document.toolsets.map ToolsetRecord.ns := by
  rw [← KeyedList.lookup_isSome_iff]
  simp [getToolset]

theorem getSchemaSnapshot_ns {ns : Namespace} {snapshot : SchemaSnapshot}
    (found : document.getSchemaSnapshot ns = some snapshot) :
    snapshot.ns = ns :=
  KeyedList.key_of_lookup _ found

theorem getToolset_upsertToolset
    (record : ToolsetRecord) (ns : Namespace) :
    (document.upsertToolset record).getToolset ns =
      if ns = record.ns then some record else document.getToolset ns := by
  split
  · rename_i same
    rw [same]
    exact KeyedList.lookup_upsert_self _ _ _
  · rename_i different
    exact KeyedList.lookup_upsert_of_ne _ different _

theorem getToolset_deleteToolset (removed ns : Namespace) :
    (document.deleteToolset removed).getToolset ns =
      if ns = removed then none else document.getToolset ns := by
  split
  · rename_i same
    rw [same]
    exact KeyedList.lookup_erase_self _ _ _
  · rename_i different
    exact KeyedList.lookup_erase_of_ne _ different _

theorem getSchemaSnapshot_replaceSchemaSnapshot
    (snapshot : SchemaSnapshot) (ns : Namespace) :
    (document.replaceSchemaSnapshot snapshot).getSchemaSnapshot ns =
      if ns = snapshot.ns then
        some snapshot
      else
        document.getSchemaSnapshot ns := by
  split
  · rename_i same
    rw [same]
    exact KeyedList.lookup_upsert_self _ _ _
  · rename_i different
    exact KeyedList.lookup_upsert_of_ne _ different _

theorem getPreviousSchemaSnapshot_replaceSchemaSnapshot
    (snapshot : SchemaSnapshot) (ns : Namespace) :
    (document.replaceSchemaSnapshot snapshot).getPreviousSchemaSnapshot ns =
      if ns = snapshot.ns then
        (document.getSchemaSnapshot ns).or
          (document.getPreviousSchemaSnapshot ns)
      else
        document.getPreviousSchemaSnapshot ns := by
  simp only [replaceSchemaSnapshot, getPreviousSchemaSnapshot]
  cases current : document.getSchemaSnapshot snapshot.ns with
  | none =>
      by_cases same : ns = snapshot.ns
      · simp [same, current]
      · simp [same]
  | some existing =>
      have sameKey : existing.ns = snapshot.ns :=
        getSchemaSnapshot_ns current
      by_cases same : ns = snapshot.ns
      · rw [if_pos same, same, current, ← sameKey]
        exact KeyedList.lookup_upsert_self _ _ _
      · rw [if_neg same]
        rw [← sameKey] at same
        exact KeyedList.lookup_upsert_of_ne _ same _

/-- The audit log is separate from the records and snapshots. -/
@[simp]
theorem getToolset_appendAuditEvent
    (limit : Nat) (event : StoredAuditEvent) (ns : Namespace) :
    (document.appendAuditEvent limit event).getToolset ns =
      document.getToolset ns :=
  rfl

@[simp]
theorem getSchemaSnapshot_appendAuditEvent
    (limit : Nat) (event : StoredAuditEvent) (ns : Namespace) :
    (document.appendAuditEvent limit event).getSchemaSnapshot ns =
      document.getSchemaSnapshot ns :=
  rfl

@[simp]
theorem getPreviousSchemaSnapshot_appendAuditEvent
    (limit : Nat) (event : StoredAuditEvent) (ns : Namespace) :
    (document.appendAuditEvent limit event).getPreviousSchemaSnapshot ns =
      document.getPreviousSchemaSnapshot ns :=
  rfl

@[simp]
theorem getSchemaSnapshot_upsertToolset
    (record : ToolsetRecord) (ns : Namespace) :
    (document.upsertToolset record).getSchemaSnapshot ns =
      document.getSchemaSnapshot ns :=
  rfl

@[simp]
theorem getPreviousSchemaSnapshot_upsertToolset
    (record : ToolsetRecord) (ns : Namespace) :
    (document.upsertToolset record).getPreviousSchemaSnapshot ns =
      document.getPreviousSchemaSnapshot ns :=
  rfl

@[simp]
theorem getToolset_replaceSchemaSnapshot
    (snapshot : SchemaSnapshot) (ns : Namespace) :
    (document.replaceSchemaSnapshot snapshot).getToolset ns =
      document.getToolset ns :=
  rfl

@[simp]
theorem getToolset_deleteSchemaSnapshot (removed ns : Namespace) :
    (document.deleteSchemaSnapshot removed).getToolset ns =
      document.getToolset ns :=
  rfl

@[simp]
theorem getToolset_deletePreviousSchemaSnapshot
    (removed ns : Namespace) :
    (document.deletePreviousSchemaSnapshot removed).getToolset ns =
      document.getToolset ns :=
  rfl

theorem getSchemaSnapshot_deleteSchemaSnapshot (removed ns : Namespace) :
    (document.deleteSchemaSnapshot removed).getSchemaSnapshot ns =
      if ns = removed then none else document.getSchemaSnapshot ns := by
  split
  · rename_i same
    rw [same]
    exact KeyedList.lookup_erase_self _ _ _
  · rename_i different
    exact KeyedList.lookup_erase_of_ne _ different _

theorem getPreviousSchemaSnapshot_deletePreviousSchemaSnapshot
    (removed ns : Namespace) :
    (document.deletePreviousSchemaSnapshot
        removed).getPreviousSchemaSnapshot ns =
      if ns = removed then
        none
      else
        document.getPreviousSchemaSnapshot ns := by
  split
  · rename_i same
    rw [same]
    exact KeyedList.lookup_erase_self _ _ _
  · rename_i different
    exact KeyedList.lookup_erase_of_ne _ different _

end StateDocument

end ToolboxMcp
