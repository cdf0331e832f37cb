import ToolboxMcp.StateFile
import ToolboxMcp.TransportSecrets

/-!
# Saving and loading

`JsonStateStore` protects every transport when it writes the document and
restores it when it reads the file.  A file of another version, or one with a
plaintext transport, is migrated: the load rewrites it.  The state file is
given by the JSON value it holds.
-/

namespace ToolboxMcp

open Effect

section Store

variable [SecretLibrary]

def currentVersion : Nat := ({} : StateDocument).version

def serializeDocument (document : StateDocument) : StoreM StoredDocument := do
  let toolsets ← document.toolsets.mapM protectTransport
  return {
    version := some currentVersion
    toolsets := toolsets
    schemaCache := document.schemaCache
    previousSchemaCache := document.previousSchemaCache
    auditLog := document.auditLog
    nextAuditSequence := document.nextAuditSequence }

def writeUnlocked (document : StateDocument) : StoreM Unit := do
  let payload ← serializeDocument document
  modify fun store =>
    { store with
      file := some payload
      writes := store.writes + 1 }

/-- The restored payload, and whether the file has to be migrated. -/
def restorePayload (payload : StoredDocument) :
    StoreM (StateDocument × Bool) := do
  let records ← payload.toolsets.mapM restoreTransport
  return (
    { version := currentVersion
      toolsets := records
      schemaCache := payload.schemaCache
      previousSchemaCache := payload.previousSchemaCache
      auditLog := payload.auditLog
      nextAuditSequence := payload.nextAuditSequence },
    payload.version ≠ some currentVersion ||
      payload.toolsets.any needsMigration)

/-- `StateDocument.model_validate`. -/
def validated (document : StateDocument) :
    Except PyException StateDocument :=
  document.validate.mapError fun message => { message := message }

def loadUnlocked : StoreM StateDocument := do
  let store ← get
  match store.file with
  | none => throw { message := "No such file or directory" }
  | some payload =>
      let (restored, migrated) ← restorePayload payload
      let document ← fromExcept (validated restored)
      if migrated then
        writeUnlocked document
      return document

def save (document : StateDocument) : StoreM Unit :=
  writeUnlocked document

/-- Make the file if it does not exist. -/
def ensure : StoreM Unit := do
  let store ← get
  match store.file with
  | some _ => return
  | none => save {}

def load : StoreM StateDocument := do
  ensure
  loadUnlocked

/-! ## Toolset by toolset -/

variable {store : StateStore} {raised : PyException → StateStore → Prop}

/-- The entries of a file open to the records, in their order. -/
def OpenAll (store : StateStore) (entries : List StoredToolset)
    (records : List ToolsetRecord) : Prop :=
  List.Forall₂ (Opens store) entries records

theorem OpenAll.prepared {before after : StateStore}
    {entries : List StoredToolset} {records : List ToolsetRecord}
    (opens : OpenAll before entries records)
    (prepared : Prepared before after) : OpenAll after entries records :=
  List.Forall₂.imp (fun _ _ open' => open'.prepared prepared) opens

/-- Lists of entries that are alike open to records that are alike. -/
theorem OpenAll.alike {entries others : List StoredToolset}
    {records : List ToolsetRecord} (opens : OpenAll store entries records)
    (same : others.map StoredToolset.canonical =
      entries.map StoredToolset.canonical) :
    ∃ read : List ToolsetRecord,
      OpenAll store others read ∧
        read.map ToolsetRecord.canonical =
          records.map ToolsetRecord.canonical := by
  induction opens generalizing others with
  | nil =>
      rw [List.map_nil, List.map_eq_nil_iff] at same
      rw [same]
      exact ⟨[], .nil, rfl⟩
  | cons first later inductionHypothesis =>
      obtain ⟨other, rest, rfl, firstSame, restSame⟩ :=
        List.map_eq_cons_iff.mp same
      obtain ⟨read, opened, alike⟩ := first.alike firstSame
      obtain ⟨reads, openedRest, alikeRest⟩ := inductionHypothesis restSame
      refine ⟨read :: reads, .cons opened openedRest, ?_⟩
      rw [List.map_cons, List.map_cons, alike, alikeRest]

theorem protectAll_rule (inverts : SecretLibrary.Inverts)
    {records : List ToolsetRecord}
    {post : List StoredToolset → StateStore → Prop}
    (enclosed : ∀ entries after, Prepared store after →
      (∀ stored ∈ entries, hasSecrets stored.record = false) →
      ∀ read : List ToolsetRecord,
        read.map ToolsetRecord.canonical =
          records.map ToolsetRecord.canonical →
        OpenAll after entries read → post entries after)
    (refused : ∀ exception after, ¬ store.Usable → raised exception after) :
    wp (records.mapM protectTransport) post raised store := by
  induction records generalizing store post with
  | nil =>
      rw [List.mapM_nil, wp_pure]
      exact enclosed [] store (.refl store) (by simp) [] rfl .nil
  | cons record rest inductionHypothesis =>
      rw [List.mapM_cons, wp_bind]
      apply protectTransport_rule inverts
      · intro stored middle prepared empty first alike opens
        rw [wp_bind]
        apply inductionHypothesis
        · intro entries after later emptyRest read alikeRest opensRest
          rw [wp_pure]
          refine enclosed _ _ (prepared.trans later) ?_ (first :: read) ?_
            (.cons (opens.prepared later) opensRest)
          · intro other member
            rcases List.mem_cons.mp member with same | earlier
            · rw [same]
              exact empty
            · exact emptyRest other earlier
          · rw [List.map_cons, List.map_cons, alike, alikeRest]
        · intro exception after unusable
          exact refused exception after fun usable =>
            unusable (prepared.usable usable)
      · exact fun exception => refused exception store

theorem restoreAll_rule (inverts : SecretLibrary.Inverts)
    {entries : List StoredToolset}
    {post : List ToolsetRecord → StateStore → Prop}
    (restored : ∀ records after, Prepared store after →
      OpenAll after entries records → post records after)
    (refused : ∀ exception after, raised exception after) :
    wp (entries.mapM restoreTransport) post raised store := by
  induction entries generalizing store post with
  | nil =>
      rw [List.mapM_nil, wp_pure]
      exact restored [] store (.refl store) .nil
  | cons stored rest inductionHypothesis =>
      rw [List.mapM_cons, wp_bind]
      apply restoreTransport_rule inverts
      · intro record middle prepared opens
        rw [wp_bind]
        apply inductionHypothesis
        · intro records after later opensRest
          rw [wp_pure]
          exact restored _ _ (prepared.trans later)
            (.cons (opens.prepared later) opensRest)
      · exact refused

/-- Entries that open are restored without a trace. -/
theorem outcome_restoreAll {entries : List StoredToolset}
    {records : List ToolsetRecord} (opens : OpenAll store entries records) :
    outcome (entries.mapM restoreTransport) store =
      (.ok records, store) := by
  induction opens with
  | nil =>
      rfl
  | cons first rest inductionHypothesis =>
      have opened := first store fun _ => id
      rw [List.mapM_cons]
      simp only [outcome_bind, opened, inductionHypothesis]
      rfl

/-! ## Documents -/

/-- What the loader makes of a payload with these restored records. -/
def StoredDocument.restoredWith (payload : StoredDocument)
    (records : List ToolsetRecord) : StateDocument where
  version := currentVersion
  toolsets := records
  schemaCache := payload.schemaCache
  previousSchemaCache := payload.previousSchemaCache
  auditLog := payload.auditLog
  nextAuditSequence := payload.nextAuditSequence

def StoredDocument.canonical (payload : StoredDocument) : StoredDocument :=
  { payload with
    toolsets := payload.toolsets.map StoredToolset.canonical
    schemaCache := payload.schemaCache.map SchemaSnapshot.canonical
    previousSchemaCache :=
      payload.previousSchemaCache.map SchemaSnapshot.canonical
    auditLog := payload.auditLog.map StoredAuditEvent.canonical }

theorem StoredDocument.canonical_restoredWith {payload other : StoredDocument}
    (same : other.canonical = payload.canonical)
    {records read : List ToolsetRecord}
    (alike : read.map ToolsetRecord.canonical =
      records.map ToolsetRecord.canonical) :
    (other.restoredWith read).canonical =
      (payload.restoredWith records).canonical := by
  obtain ⟨_, _, snapshots, previous, events, sequence⟩ :=
    StoredDocument.mk.inj same
  simp only [StoredDocument.restoredWith, StateDocument.canonical, alike,
    snapshots, previous, events]
  rw [show other.nextAuditSequence = payload.nextAuditSequence from sequence]

/-- The file is of the current version and without plaintext secrets. -/
def StateStore.Migrated (store : StateStore) : Prop :=
  ∃ payload,
    store.file = some payload ∧
      payload.version = some (currentVersion : Int) ∧
      ∀ stored ∈ payload.toolsets, hasSecrets stored.record = false

/-- A migrated file that opens to the document. -/
def Settled (store : StateStore) (document : StateDocument) : Prop :=
  ∃ payload records,
    store.file = some payload ∧
      payload.version = some (currentVersion : Int) ∧
      payload.toolsets.any needsMigration = false ∧
      OpenAll store payload.toolsets records ∧
      (payload.restoredWith records).validate = .ok document

/-- A settled file is read without being rewritten. -/
theorem Settled.load {document : StateDocument}
    (settled : Settled store document) :
    outcome load store = (.ok document, store) := by
  obtain ⟨payload, records, held, version, unmigrated, opens, valid⟩ :=
    settled
  have restored := outcome_restoreAll opens
  have accepted :
      validated (payload.restoredWith records) = .ok document := by
    unfold validated
    rw [valid]
    rfl
  have ensured : outcome ensure store = (.ok (), store) := by
    unfold ensure
    rw [outcome_bind, outcome_get]
    simp only [held]
    rfl
  have reads : outcome (restorePayload payload) store =
      (.ok (payload.restoredWith records, false), store) := by
    unfold restorePayload
    rw [outcome_bind, restored]
    simp only [version, unmigrated, ne_eq, Bool.or_false]
    rfl
  unfold ToolboxMcp.load loadUnlocked
  rw [outcome_bind, ensured]
  simp only [outcome_bind, outcome_get, held, reads, outcome_fromExcept,
    accepted, Bool.false_eq_true, if_false, outcome_pure]

omit [SecretLibrary] in
theorem validate_version {raw document : StateDocument}
    (accepted : raw.validate = .ok document) :
    document.version = raw.version := by
  unfold StateDocument.validate at accepted
  cases checked : raw.toolsets.mapM validateScopePolicy with
  | error message =>
      rw [checked] at accepted
      cases accepted
  | ok records =>
      rw [checked] at accepted
      cases accepted
      rfl

omit [SecretLibrary] in
/-- A document with its keys in another order is readable as well. -/
theorem readable_of_canonical {document other : StateDocument}
    (same : other.canonical = document.canonical)
    (readable : document.Readable) : other.Readable := by
  intro record member
  have there : record.canonical ∈ other.canonical.toolsets :=
    List.mem_map_of_mem member
  rw [same] at there
  obtain ⟨stored, among, alike⟩ := List.mem_map.mp there
  have accepted := validateScopePolicy_eq_self.mp (readable stored among)
  rw [validateScopePolicy_eq_self, ← wellFormed_canonical, ← alike,
    wellFormed_canonical]
  exact accepted

/-- What is written is migrated, and settled as a document of the current
version. -/
theorem writeUnlocked_rule (inverts : SecretLibrary.Inverts)
    {document : StateDocument} {post : Unit → StateStore → Prop}
    (readable : document.Readable)
    (written : ∀ after (read : StateDocument),
      after.Migrated →
      read.canonical =
        { document.canonical with version := currentVersion } →
      Settled after read → post () after)
    (refused : ∀ exception after, ¬ store.Usable → raised exception after) :
    wp (writeUnlocked document) post raised store := by
  unfold writeUnlocked serializeDocument
  simp only [wp_bind, wp_pure, wp_modify]
  apply protectAll_rule inverts
  · intro entries after prepared empty read alike opens
    have same :
        StateDocument.canonical
            { document with toolsets := read, version := currentVersion } =
          { document.canonical with version := currentVersion } := by
      simp only [StateDocument.canonical, alike]
    have there : StateDocument.Readable
        { document with version := currentVersion } := readable
    have valid := validate_of_readable (readable_of_canonical same there)
    apply written _ _ ?_ same
    · refine ⟨_, read, rfl, rfl, ?_, ?_, valid⟩
      · rw [List.any_eq_false]
        intro stored member
        simp [needsMigration, empty stored member]
      · exact List.Forall₂.imp
          (fun _ _ opened later kept => opened later kept) opens
    · exact ⟨_, rfl, rfl, empty⟩
  · exact refused

/-- Enveloped or plaintext, but not both. -/
def StoredToolset.Separate (stored : StoredToolset) : Prop :=
  stored.envelope.isSome → hasSecrets stored.record = false

/-- A load that succeeds leaves a settled file behind. -/
theorem load_rule (inverts : SecretLibrary.Inverts)
    {payload : StoredDocument} (held : store.file = some payload)
    (separate : ∀ stored ∈ payload.toolsets, stored.Separate) :
    wp load
      (fun document after => after.Migrated ∧
        ∃ read : StateDocument,
          read.canonical = document.canonical ∧ Settled after read)
      (fun _ _ => True) store := by
  unfold load ensure loadUnlocked restorePayload
  simp only [wp_bind, wp_get, held, wp_pure]
  apply restoreAll_rule inverts
  · intro records middle prepared opens
    have heldStill : middle.file = some payload := prepared.file.trans held
    rw [wp_fromExcept]
    cases accepted : validated (payload.restoredWith records) with
    | error exception =>
        unfold StoredDocument.restoredWith at accepted
        simp only [accepted]
    | ok document =>
        have valid :
            (payload.restoredWith records).validate = .ok document := by
          unfold validated at accepted
          cases checked : (payload.restoredWith records).validate with
          | error message =>
              rw [checked] at accepted
              cases accepted
          | ok result =>
              rw [checked] at accepted
              cases accepted
              rfl
        have readable := readable_of_validate valid
        have current : document.version = currentVersion := by
          have kept := validate_version valid
          exact kept
        unfold StoredDocument.restoredWith at accepted
        simp only [accepted]
        split
        · rw [wp_bind]
          apply writeUnlocked_rule inverts readable
          · intro after read migrated same settled
            refine ⟨migrated, read, ?_, settled⟩
            rw [same, ← current]
            rfl
          · exact fun _ _ _ => trivial
        · rename_i unmigrated
          simp only [Bool.or_eq_true, decide_eq_true_eq, not_or, not_not,
            Bool.not_eq_true] at unmigrated
          obtain ⟨version, entries⟩ := unmigrated
          refine ⟨⟨payload, heldStill, version, ?_⟩, document, rfl,
            payload, records, heldStill, version, entries, opens, valid⟩
          intro stored member
          cases enveloped : stored.envelope with
          | some envelope =>
              exact separate stored member (by simp [enveloped])
          | none =>
              have plain := List.any_eq_false.mp entries stored member
              simpa [needsMigration, enveloped] using plain
  · exact fun _ _ => trivial

/-- Saving and loading a valid document gives it back; loading a file of any
version, with any mix of plaintext and enveloped transports, migrates it, and
the next load returns the same document and leaves the store alone.  Documents
are the same up to the order of the keys in their dicts, which the file
sorts. -/
theorem persistence (inverts : SecretLibrary.Inverts) :
    (∀ (store : StateStore) (document : StateDocument),
      document.validate = .ok document → store.Usable →
      ∃ saved loaded,
        outcome (save document) store = (.ok (), saved) ∧
          outcome load saved = (.ok loaded, saved) ∧
          loaded.canonical =
            { document.canonical with version := currentVersion }) ∧
    ∀ (store after : StateStore) (payload : StoredDocument)
      (document : StateDocument),
      store.file = some payload →
      (∀ stored ∈ payload.toolsets, stored.Separate) →
      outcome load store = (.ok document, after) →
      after.Migrated ∧
        ∃ again,
          outcome load after = (.ok again, after) ∧
            again.canonical = document.canonical := by
  constructor
  · intro store document valid usable
    have readable := readable_of_validate valid
    have wrote :
        wp (save document)
          (fun _ after =>
            ∃ loaded : StateDocument,
              loaded.canonical =
                  { document.canonical with version := currentVersion } ∧
                Settled after loaded)
          (fun _ _ => False) store := by
      apply writeUnlocked_rule inverts readable
      · exact fun _ loaded _ same settled => ⟨loaded, same, settled⟩
      · exact fun _ _ unusable => unusable usable
    rcases wp_cases wrote with
      ⟨value, saved, returned, loaded, same, settled⟩ |
        ⟨_, _, _, impossible⟩
    · exact ⟨saved, loaded, returned, settled.load, same⟩
    · exact impossible.elim
  · intro store after payload document held separate loaded
    have result := load_rule inverts held separate
    unfold wp at result
    rw [loaded] at result
    obtain ⟨migrated, again, same, settled⟩ := result
    exact ⟨migrated, again, settled.load, same⟩

end Store

/-! ## A symbolic library -/

namespace Symbolic

/-- Texts, nonces and ciphertexts as terms. -/
inductive Bytes where
  | text (value : Json)
  | nonce (draw : Nat)
  | sealed (key : List UInt8) (plaintext : Bytes)

/-- Only the right key opens a ciphertext. -/
def decrypt (key : List UInt8) :
    Bytes → Except PyException Bytes
  | .sealed used plaintext =>
      if used = key then .ok plaintext else .error { message := "InvalidTag" }
  | _ => .error { message := "InvalidTag" }

scoped instance library : SecretLibrary where
  Bytes := Bytes
  win32 := false
  dumps := .text
  loads := fun
    | .text value => .ok value
    | _ => .error { message := "Expecting value: line 1 column 1 (char 0)" }
  generateKey := fun draw => List.replicate 32 (UInt8.ofNat draw)
  urandom := .nonce
  encrypt := fun key _ plaintext => .sealed key plaintext
  decrypt := fun key _ ciphertext => decrypt key ciphertext
  cryptProtect := .sealed []
  cryptUnprotect := decrypt []

theorem inverts : SecretLibrary.Inverts where
  loads_dumps := fun value => ⟨value, rfl, rfl⟩
  decrypt_encrypt := fun _ _ _ => if_pos rfl
  unprotect_protect := fun _ => rfl
  key_length := fun _ => List.length_replicate

/-- A toolset with a secret in its arguments and one in its environment. -/
def secretToolset : ToolsetRecord where
  ns := "secret_stdio"
  title := "Secret Toolset"
  description := ""
  transport :=
    { command := "python"
      args := ["--token", "secret"]
      env := [("API_KEY", "secret")] }

/-- A state file of the first version, in plaintext. -/
def plaintextStore : StateStore where
  file := some
    { version := some 1
      toolsets := [{ record := secretToolset }] }

/-- Save and load a document, and load an old plaintext file twice. -/
theorem persistence_secret :
    (∃ saved loaded,
      outcome (save { toolsets := [secretToolset] }) {} = (.ok (), saved) ∧
        outcome load saved = (.ok loaded, saved) ∧
        loaded.canonical =
          StateDocument.canonical { toolsets := [secretToolset] }) ∧
    ∃ after again,
      outcome load plaintextStore =
        (.ok { toolsets := [secretToolset] }, after) ∧
      after.writes = 1 ∧ after.Migrated ∧
      outcome load after = (.ok again, after) ∧
      again.canonical =
        StateDocument.canonical { toolsets := [secretToolset] } := by
  obtain ⟨saves, migrates⟩ := persistence inverts
  have fresh : StateStore.Usable {} := fun _ held => by cases held
  have separate : ∀ stored ∈ [{ record := secretToolset : StoredToolset }],
      stored.Separate := by
    intro stored member enveloped
    rw [List.mem_singleton.mp member] at enveloped
    cases enveloped
  obtain ⟨migrated, again, loads, same⟩ :=
    migrates plaintextStore _ _ { toolsets := [secretToolset] } rfl separate
      rfl
  exact ⟨saves {} { toolsets := [secretToolset] } rfl fresh,
    _, again, rfl, rfl, migrated, loads, same⟩

end Symbolic

end ToolboxMcp
