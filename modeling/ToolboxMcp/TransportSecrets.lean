import ToolboxMcp.KeyOrder
import ToolboxMcp.Library.Effect
import ToolboxMcp.Validation

/-!
# Transport secrets

The arguments and the environment of a transport do not go to the state file as
they are.  They are bundled, encoded and encrypted into an envelope, and the
plaintext fields are left empty.  Encryption, randomness and the JSON encoder
come from outside the repository and are collected in `SecretLibrary`;
`SecretLibrary.Inverts` says that reading undoes writing; the encoder sorts the
keys of dicts.  The nonce and the ciphertext of an envelope are given decoded.
-/

namespace ToolboxMcp

open Effect

class SecretLibrary where
  Bytes : Type
  /-- `sys.platform == "win32"`. -/
  win32 : Bool
  dumps : Json → Bytes
  loads : Bytes → Except PyException Json
  generateKey : Nat → List UInt8
  urandom : Nat → Bytes
  /-- AES-GCM, by key, nonce and text. -/
  encrypt : List UInt8 → Bytes → Bytes → Bytes
  decrypt : List UInt8 → Bytes → Bytes → Except PyException Bytes
  cryptProtect : Bytes → Bytes
  cryptUnprotect : Bytes → Except PyException Bytes

section Library

variable [SecretLibrary]

open SecretLibrary

structure SecretLibrary.Inverts : Prop where
  loads_dumps :
    ∀ value, ∃ read,
      loads (dumps value) = .ok read ∧ read.canonical = value.canonical
  decrypt_encrypt :
    ∀ key nonce plaintext,
      decrypt key nonce (encrypt key nonce plaintext) = .ok plaintext
  unprotect_protect :
    ∀ plaintext, cryptUnprotect (cryptProtect plaintext) = .ok plaintext
  /-- `AESGCM.generate_key(bit_length=256)`. -/
  key_length : ∀ draw, (generateKey draw).length = 32

/-! ## Bundles -/

structure TransportBundle where
  args : List String
  env : List (String × String)

def TransportBundle.toJson (bundle : TransportBundle) : Json :=
  .obj
    [("args", .strs bundle.args),
     ("env", .obj (bundle.env.map fun entry => (entry.1, .str entry.2)))]

/-- The value of a key of a dict, or the default. -/
def Json.field (name : String) (default : Json)
    (fields : List (String × Json)) : Json :=
  ((fields.find? fun entry => entry.1 = name).map Prod.snd).getD default

/-- A list of strings. -/
def Json.strs? : Json → Option (List String)
  | .arr items => items.mapM Json.str?
  | _ => none

/-- A dict from strings to strings. -/
def Json.strFields? : Json → Option (List (String × String))
  | .obj fields =>
      fields.mapM fun entry => entry.2.str?.map fun text => (entry.1, text)
  | _ => none

/-- `_normalize_bundle` on a decoded value. -/
def normalizeBundle : Json → Except PyException TransportBundle
  | .obj fields =>
      match (Json.field "args" (.arr []) fields).strs? with
      | none =>
          .error
            { message :=
                "Transport secret bundle args must be a list of strings" }
      | some args =>
          match (Json.field "env" (.obj []) fields).strFields? with
          | none =>
              .error
                { message :=
                    "Transport secret bundle env must be a " ++
                      "string-to-string mapping" }
          | some env => .ok ⟨args, env⟩
  | _ => .error { message := "object has no attribute 'get'" }

def encodeBundle (bundle : TransportBundle) : Bytes :=
  dumps bundle.toJson

def decodeBundle (payload : Bytes) : Except PyException TransportBundle := do
  normalizeBundle (← loads payload)

omit [SecretLibrary] in
theorem strs?_strs (texts : List String) :
    (Json.strs texts).strs? = some texts := by
  unfold Json.strs Json.strs?
  induction texts with
  | nil =>
      rfl
  | cons text rest inductionHypothesis =>
      simp only [List.map_cons, List.mapM_cons] at inductionHypothesis ⊢
      rw [inductionHypothesis]
      rfl

omit [SecretLibrary] in
theorem strFields?_obj (entries : List (String × String)) :
    (Json.obj
      (entries.map fun entry => (entry.1, .str entry.2))).strFields? =
      some entries := by
  unfold Json.strFields?
  induction entries with
  | nil =>
      rfl
  | cons entry rest inductionHypothesis =>
      simp only [List.map_cons, List.mapM_cons] at inductionHypothesis ⊢
      rw [inductionHypothesis]
      rfl

/-- The bundle with its environment by names. -/
def TransportBundle.canonical (bundle : TransportBundle) : TransportBundle :=
  { bundle with env := sortKeys bundle.env }

omit [SecretLibrary] in
theorem eq_str_of_canonical {value : Json} {text : String}
    (same : value.canonical = .str text) : value = .str text := by
  cases value with
  | str other =>
      exact same
  | _ =>
      simp [Json.canonical] at same

omit [SecretLibrary] in
theorem eq_map_str_of_canonical {items : List Json} {texts : List String}
    (same : items.map Json.canonical = texts.map Json.str) :
    items = texts.map Json.str := by
  induction items generalizing texts with
  | nil =>
      exact same
  | cons item rest inductionHypothesis =>
      cases texts with
      | nil =>
          cases same
      | cons text more =>
          obtain ⟨first, later⟩ := List.cons.inj same
          rw [eq_str_of_canonical first, inductionHypothesis later,
            List.map_cons]

omit [SecretLibrary] in
/-- A list of strings has no keys. -/
theorem eq_strs_of_canonical {value : Json} {texts : List String}
    (same : value.canonical = (Json.strs texts).canonical) :
    value = .strs texts := by
  have plain : (texts.map Json.str).map Json.canonical =
      texts.map Json.str := by
    simp [Json.canonical, Function.comp_def]
  cases value with
  | arr items =>
      simp only [Json.canonical, Json.strs, Json.arr.injEq,
        canonicalItems_eq_map, plain] at same
      exact congrArg Json.arr (eq_map_str_of_canonical same)
  | _ =>
      simp [Json.canonical, Json.strs] at same

/-- The field of an environment. -/
def envField (entry : String × String) : String × Json :=
  (entry.1, .str entry.2)

omit [SecretLibrary] in
theorem envField_injective : Function.Injective envField := by
  intro first second same
  simp only [envField, Prod.mk.injEq, Json.str.injEq] at same
  exact Prod.ext same.1 same.2

omit [SecretLibrary] in
theorem canonicalFields_env (env : List (String × String)) :
    canonicalFields (env.map envField) = env.map envField := by
  simp [canonicalFields_eq_map, envField, Function.comp_def, Json.canonical]

omit [SecretLibrary] in
/-- What has the fields of an environment is one. -/
theorem exists_env_of_canonical {value : Json} {env : List (String × String)}
    (same : value.canonical = (Json.obj (env.map envField)).canonical) :
    ∃ read : List (String × String),
      value = .obj (read.map envField) ∧ sortKeys read = sortKeys env := by
  cases value with
  | obj fields =>
      have texts : ∀ field ∈ fields, ∃ text, field.2 = .str text := by
        rintro ⟨name, found⟩ member
        obtain ⟨given, among, sameValue⟩ := mem_of_canonical_eq same member
        obtain ⟨entry, _, equal⟩ := List.mem_map.mp among
        cases equal
        exact ⟨entry.2, eq_str_of_canonical sameValue.symm⟩
      obtain ⟨read, rfl⟩ : ∃ read : List (String × String),
          fields = read.map envField := by
        clear same
        induction fields with
        | nil =>
            exact ⟨[], rfl⟩
        | cons field rest inductionHypothesis =>
            obtain ⟨text, holds⟩ := texts field List.mem_cons_self
            obtain ⟨read, rfl⟩ := inductionHypothesis fun other member =>
              texts other (List.mem_cons_of_mem _ member)
            exact ⟨(field.1, text) :: read,
              congrArg (· :: _) (Prod.ext rfl holds)⟩
      refine ⟨read, rfl, ?_⟩
      simp only [Json.canonical, Json.obj.injEq, canonicalFields_env] at same
      have sorted :
          (sortKeys read).map envField = (sortKeys env).map envField := by
        rw [@map_sortKeys _ _ envField fun _ => rfl,
          @map_sortKeys _ _ envField fun _ => rfl]
        exact same
      exact (List.map_injective_iff.mpr envField_injective) sorted
  | _ =>
      simp [Json.canonical] at same

omit [SecretLibrary] in
/-- A field that is there once keeps its value up to the order of keys. -/
theorem canonical_field {fields other : List (String × Json)}
    (same : (Json.obj fields).canonical = (Json.obj other).canonical)
    {name : String} {value default : Json} (member : (name, value) ∈ other)
    (only : ∀ found, (name, found) ∈ other → found = value) :
    (Json.field name default fields).canonical = value.canonical := by
  obtain ⟨given, among, _⟩ := mem_of_canonical_eq same.symm member
  have present : (fields.find? fun entry => entry.1 = name).isSome := by
    rw [List.find?_isSome]
    exact ⟨(name, given), among, by simp⟩
  obtain ⟨⟨key, found⟩, first⟩ := Option.isSome_iff_exists.mp present
  have named : key = name := by simpa using List.find?_some first
  obtain ⟨back, there, sameValue⟩ :=
    mem_of_canonical_eq same (List.mem_of_find?_eq_some first)
  rw [named] at there
  rw [Json.field, first, ← only back there, sameValue]
  rfl

omit [SecretLibrary] in
/-- A bundle read with its keys in another order is the bundle. -/
theorem normalizeBundle_of_canonical {read : Json} {bundle : TransportBundle}
    (same : read.canonical = bundle.toJson.canonical) :
    ∃ decoded,
      normalizeBundle read = .ok decoded ∧
        decoded.canonical = bundle.canonical := by
  cases read with
  | obj fields =>
      have args : Json.field "args" (.arr []) fields = .strs bundle.args :=
        eq_strs_of_canonical (canonical_field same (by simp) (by simp))
      obtain ⟨env, envelope, sorted⟩ :=
        exists_env_of_canonical
          (canonical_field same (by simp [envField]) (by simp [envField]) :
            (Json.field "env" (.obj []) fields).canonical =
              (Json.obj (bundle.env.map envField)).canonical)
      refine ⟨⟨bundle.args, env⟩, ?_, ?_⟩
      · have texts := strs?_strs bundle.args
        have entries := strFields?_obj env
        simp only [normalizeBundle, args, envelope, texts]
        unfold envField
        rw [entries]
      · unfold TransportBundle.canonical
        rw [sorted]
  | _ =>
      simp [TransportBundle.toJson, Json.canonical] at same

theorem decodeBundle_encodeBundle (inverts : Inverts)
    (bundle : TransportBundle) :
    ∃ decoded,
      decodeBundle (encodeBundle bundle) = .ok decoded ∧
        decoded.canonical = bundle.canonical := by
  obtain ⟨read, loaded, same⟩ := inverts.loads_dumps bundle.toJson
  obtain ⟨decoded, normalized, alike⟩ := normalizeBundle_of_canonical same
  refine ⟨decoded, ?_, alike⟩
  unfold decodeBundle encodeBundle
  rw [loaded]
  exact normalized

/-! ## Envelopes -/

/-- A `secret_envelope` dict; a missing field is `none`. -/
structure SecretEnvelope where
  version : Int := 1
  provider : Option String := none
  nonce : Option Bytes := none
  ciphertext : Option Bytes := none

/-- A toolset as the state file has it.  The arguments and the environment of
the record are the plaintext fields; a `secret_envelope` that is not a dict
counts as missing. -/
structure StoredToolset where
  record : ToolsetRecord
  envelope : Option SecretEnvelope := none

structure StoredDocument where
  version : Option Int := none
  toolsets : List StoredToolset := []
  schemaCache : List SchemaSnapshot := []
  previousSchemaCache : List SchemaSnapshot := []
  auditLog : List StoredAuditEvent := []
  nextAuditSequence : Nat := 1

/-- The files of a store.  `draws` counts what was taken from the source of
randomness, `writes` how often the state file was replaced. -/
structure StateStore where
  file : Option StoredDocument := none
  keyFile : Option (List UInt8) := none
  draws : Nat := 0
  writes : Nat := 0

abbrev StoreM :=
  Effect StateStore PyException

inductive SecretProvider where
  | windowsDpapi
  | localAesgcm

def SecretProvider.name : SecretProvider → String
  | .windowsDpapi => "windows-dpapi"
  | .localAesgcm => "local-aesgcm-keyfile"

def currentProvider : SecretProvider :=
  if win32 then .windowsDpapi else .localAesgcm

def providerForEnvelope
    (envelope : SecretEnvelope) : Except PyException SecretProvider :=
  if envelope.provider = some SecretProvider.windowsDpapi.name then
    if win32 then
      .ok .windowsDpapi
    else
      .error
        { message :=
            "State file uses Windows DPAPI transport protection and cannot " ++
              "be opened on this platform" }
  else if envelope.provider = some SecretProvider.localAesgcm.name then
    .ok .localAesgcm
  else
    .error
      { message :=
          "Unsupported transport secret provider: " ++
            envelope.provider.getD "None" }

def loadOrCreateKey : StoreM (List UInt8) := do
  let store ← get
  match store.keyFile with
  | some key =>
      if key.length = 32 then
        return key
      else
        throw { message := "Invalid Toolbox transport secret key length" }
  | none =>
      let key := generateKey store.draws
      set
        { store with
          keyFile := some key
          draws := store.draws + 1 }
      return key

def drawNonce : StoreM Bytes := do
  let store ← get
  set { store with draws := store.draws + 1 }
  return urandom store.draws

def protectBundle (bundle : TransportBundle) :
    SecretProvider → StoreM SecretEnvelope
  | .windowsDpapi =>
      return {
        provider := some SecretProvider.windowsDpapi.name
        ciphertext := some (cryptProtect (encodeBundle bundle)) }
  | .localAesgcm => do
      let key ← loadOrCreateKey
      let nonce ← drawNonce
      return {
        provider := some SecretProvider.localAesgcm.name
        nonce := some nonce
        ciphertext := some (encrypt key nonce (encodeBundle bundle)) }

/-- `_base64_field`. -/
def bytesField (name : String) : Option Bytes → Except PyException Bytes
  | some bytes => .ok bytes
  | none =>
      .error
        { message := "Transport secret envelope missing field: " ++ name }

def revealBundle (envelope : SecretEnvelope) :
    SecretProvider → StoreM TransportBundle
  | .windowsDpapi => do
      let ciphertext ← fromExcept (bytesField "ciphertext" envelope.ciphertext)
      let plaintext ← fromExcept (cryptUnprotect ciphertext)
      fromExcept (decodeBundle plaintext)
  | .localAesgcm => do
      let key ← loadOrCreateKey
      let nonce ← fromExcept (bytesField "nonce" envelope.nonce)
      let ciphertext ← fromExcept (bytesField "ciphertext" envelope.ciphertext)
      let plaintext ← fromExcept (decrypt key nonce ciphertext)
      fromExcept (decodeBundle plaintext)

/-! ## Transports -/

/-- The record with these arguments and this environment. -/
def withSecrets (record : ToolsetRecord) (bundle : TransportBundle) :
    ToolsetRecord :=
  { record with
    transport :=
      { record.transport with
        args := bundle.args
        env := bundle.env } }

def secretsOf (record : ToolsetRecord) : TransportBundle :=
  ⟨record.transport.args, record.transport.env⟩

def hasSecrets (record : ToolsetRecord) : Bool :=
  !record.transport.args.isEmpty || !record.transport.env.isEmpty

def protectTransport (record : ToolsetRecord) : StoreM StoredToolset := do
  if hasSecrets record then
    let envelope ← protectBundle (secretsOf record) currentProvider
    return {
      record := withSecrets record ⟨[], []⟩
      envelope := some envelope }
  else
    return { record := record }

def restoreTransport (stored : StoredToolset) : StoreM ToolsetRecord := do
  match stored.envelope with
  | none => return stored.record
  | some envelope =>
      let provider ← fromExcept (providerForEnvelope envelope)
      let bundle ← revealBundle envelope provider
      return withSecrets stored.record bundle

def needsMigration (stored : StoredToolset) : Bool :=
  stored.envelope.isNone && hasSecrets stored.record

/-! ## What reading and writing do to the store -/

/-- A stored key remains. -/
def KeyKept (before after : StateStore) : Prop :=
  ∀ key, before.keyFile = some key → after.keyFile = some key

/-- A key file that exists holds a key. -/
def StateStore.Usable (store : StateStore) : Prop :=
  ∀ key, store.keyFile = some key → key.length = 32

/-- The state file is as before; a key may have been added. -/
structure Prepared (before after : StateStore) : Prop where
  file : after.file = before.file
  writes : after.writes = before.writes
  key : KeyKept before after
  usable : before.Usable → after.Usable

theorem Prepared.refl (store : StateStore) : Prepared store store :=
  ⟨rfl, rfl, fun _ => id, id⟩

theorem Prepared.trans {first second third : StateStore}
    (left : Prepared first second) (right : Prepared second third) :
    Prepared first third :=
  ⟨right.file.trans left.file, right.writes.trans left.writes,
    fun key stored => right.key key (left.key key stored),
    fun usable => right.usable (left.usable usable)⟩

/-- Wherever the key has been kept, restoring gives the record and changes
nothing. -/
def Opens (store : StateStore) (stored : StoredToolset)
    (record : ToolsetRecord) : Prop :=
  ∀ later, KeyKept store later →
    outcome (restoreTransport stored) later = (.ok record, later)

theorem Opens.prepared {before after : StateStore} {stored : StoredToolset}
    {record : ToolsetRecord} (opens : Opens before stored record)
    (prepared : Prepared before after) : Opens after stored record :=
  fun later kept => opens later fun key held => kept key (prepared.key key held)

theorem loadOrCreateKey_rule (inverts : Inverts)
    {store : StateStore} {post : List UInt8 → StateStore → Prop}
    {raised : PyException → StateStore → Prop}
    (loaded : ∀ key after, Prepared store after → key.length = 32 →
      after.keyFile = some key → post key after)
    (refused : ∀ exception, ¬ store.Usable → raised exception store) :
    wp loadOrCreateKey post raised store := by
  unfold loadOrCreateKey
  rw [wp_bind, wp_get]
  cases held : store.keyFile with
  | some key =>
      by_cases length : key.length = 32
      · simp only [length, if_true, wp_pure]
        exact loaded key store (.refl store) length held
      · simp only [length, if_false, wp_throw]
        exact refused _ fun usable => length (usable key held)
  | none =>
      have length := inverts.key_length store.draws
      simp only [wp_bind, wp_set, wp_pure]
      refine loaded _ _ ⟨rfl, rfl, ?_, ?_⟩ length rfl
      · intro key stored
        rw [held] at stored
        cases stored
      · intro _ key stored
        cases stored
        exact length

/-- With a stored key nothing is created. -/
theorem outcome_loadOrCreateKey {store : StateStore} {key : List UInt8}
    (held : store.keyFile = some key) (length : key.length = 32) :
    outcome loadOrCreateKey store = (.ok key, store) := by
  unfold loadOrCreateKey
  rw [outcome_bind, outcome_get]
  simp only [held, length, if_true]
  rfl

theorem restoreTransport_plain {stored : StoredToolset}
    (plain : stored.envelope = none) (store : StateStore) :
    outcome (restoreTransport stored) store =
      (.ok stored.record, store) := by
  unfold restoreTransport
  rw [plain]
  rfl

theorem restoreTransport_sealed {stored : StoredToolset}
    {envelope : SecretEnvelope} {provider : SecretProvider}
    {bundle : TransportBundle} {store : StateStore}
    (found : stored.envelope = some envelope)
    (named : providerForEnvelope envelope = .ok provider)
    (revealed :
      outcome (revealBundle envelope provider) store =
        (.ok bundle, store)) :
    outcome (restoreTransport stored) store =
      (.ok (withSecrets stored.record bundle), store) := by
  unfold restoreTransport
  rw [found]
  simp only [outcome_bind, outcome_fromExcept, named, revealed]
  rfl

/-- What an entry opens to, if one with the same envelope opens to the
record. -/
def StoredToolset.openedAs (stored : StoredToolset)
    (record : ToolsetRecord) : ToolsetRecord :=
  match stored.envelope with
  | none => stored.record
  | some _ => withSecrets stored.record (secretsOf record)

/-- The envelope alone decides whether and with what an entry opens. -/
theorem restoreTransport_alike {stored other : StoredToolset}
    (same : other.envelope = stored.envelope) {record : ToolsetRecord}
    {store after : StateStore}
    (restored : outcome (restoreTransport stored) store =
      (.ok record, after)) :
    outcome (restoreTransport other) store =
        (.ok (other.openedAs record), after) ∧
      record = stored.openedAs record := by
  unfold restoreTransport StoredToolset.openedAs at *
  rw [same]
  cases found : stored.envelope with
  | none =>
      rw [found] at restored
      cases restored
      exact ⟨rfl, rfl⟩
  | some envelope =>
      rw [found] at restored
      simp only [outcome_bind, outcome_fromExcept] at restored ⊢
      cases named : providerForEnvelope envelope with
      | error exception =>
          rw [named] at restored
          cases restored
      | ok provider =>
          rw [named] at restored
          simp only at restored ⊢
          rcases revealed : outcome (revealBundle envelope provider) store
            with ⟨_ | bundle, middle⟩
          · rw [revealed] at restored
            cases restored
          · rw [revealed] at restored
            cases restored
            exact ⟨rfl, rfl⟩

/-- What the current provider protects, it reveals. -/
theorem protectBundle_rule (inverts : Inverts) (bundle : TransportBundle)
    {store : StateStore} {post : SecretEnvelope → StateStore → Prop}
    {raised : PyException → StateStore → Prop}
    (enclosed : ∀ envelope after, Prepared store after →
      providerForEnvelope envelope = .ok currentProvider →
      ∀ revealed : TransportBundle, revealed.canonical = bundle.canonical →
      (∀ later, KeyKept after later →
        outcome (revealBundle envelope currentProvider) later =
          (.ok revealed, later)) →
      post envelope after)
    (refused : ∀ exception, ¬ store.Usable → raised exception store) :
    wp (protectBundle bundle currentProvider) post raised store := by
  obtain ⟨revealed, decoded, alike⟩ :=
    decodeBundle_encodeBundle inverts bundle
  unfold currentProvider at enclosed ⊢
  by_cases windows : win32 = true
  · simp only [windows, if_true] at enclosed ⊢
    refine enclosed _ _ (.refl store) ?_ revealed alike ?_
    · simp [providerForEnvelope, windows]
    · intro later _
      have unprotected := inverts.unprotect_protect (encodeBundle bundle)
      simp only [revealBundle, bytesField, outcome_bind,
        outcome_fromExcept, unprotected, decoded]
  · simp only [windows, Bool.false_eq_true, if_false] at enclosed ⊢
    unfold protectBundle
    rw [wp_bind]
    apply loadOrCreateKey_rule inverts
    · intro key after prepared length held
      simp only [drawNonce, wp_bind, wp_get, wp_set, wp_pure]
      have drawn : Prepared after { after with draws := after.draws + 1 } :=
        ⟨rfl, rfl, fun _ => id, id⟩
      refine enclosed _ _ (prepared.trans drawn) ?_ revealed alike ?_
      · simp [providerForEnvelope, SecretProvider.name]
      · intro later kept
        have loaded := outcome_loadOrCreateKey (kept key held) length
        have decrypted := inverts.decrypt_encrypt key
          (urandom after.draws) (encodeBundle bundle)
        simp only [revealBundle, bytesField, outcome_bind,
          outcome_fromExcept, loaded, decrypted, decoded]
    · exact refused

omit [SecretLibrary] in
theorem canonical_withSecrets (record : ToolsetRecord)
    {bundle other : TransportBundle}
    (alike : other.canonical = bundle.canonical) :
    (withSecrets record other).canonical =
      (withSecrets record bundle).canonical := by
  obtain ⟨args, env⟩ := TransportBundle.mk.inj alike
  simp only [withSecrets, ToolsetRecord.canonical,
    ToolsetTransport.canonical, args, env]

def StoredToolset.canonical (stored : StoredToolset) : StoredToolset :=
  { stored with record := stored.record.canonical }

/-- Entries that are alike open to records that are alike. -/
theorem Opens.alike {store : StateStore} {stored other : StoredToolset}
    {record : ToolsetRecord} (opens : Opens store stored record)
    (same : other.canonical = stored.canonical) :
    ∃ read : ToolsetRecord,
      Opens store other read ∧ read.canonical = record.canonical := by
  obtain ⟨recordSame, envelopeSame⟩ := StoredToolset.mk.inj same
  refine ⟨other.openedAs record, ?_, ?_⟩
  · intro later kept
    exact (restoreTransport_alike envelopeSame (opens later kept)).1
  · have opened := restoreTransport_alike envelopeSame
      (opens store fun _ => id)
    rw [opened.2]
    unfold StoredToolset.openedAs
    rw [envelopeSame]
    cases stored.envelope with
    | none => exact recordSame
    | some envelope =>
        exact congrArg
          (fun shown => withSecrets shown
            ⟨record.transport.args, sortKeys record.transport.env⟩)
          recordSame

/-- A protected transport holds no plaintext and opens to its record, with the
environment in the order in which it was read. -/
theorem protectTransport_rule (inverts : Inverts) (record : ToolsetRecord)
    {store : StateStore} {post : StoredToolset → StateStore → Prop}
    {raised : PyException → StateStore → Prop}
    (enclosed : ∀ stored after, Prepared store after →
      hasSecrets stored.record = false →
      ∀ read : ToolsetRecord, read.canonical = record.canonical →
      Opens after stored read → post stored after)
    (refused : ∀ exception, ¬ store.Usable → raised exception store) :
    wp (protectTransport record) post raised store := by
  unfold protectTransport
  cases secret : hasSecrets record with
  | true =>
      simp only [if_true, wp_bind]
      apply protectBundle_rule inverts
      · intro envelope after prepared named revealed alike reveals
        rw [wp_pure]
        refine enclosed _ _ prepared rfl
          (withSecrets (withSecrets record ⟨[], []⟩) revealed)
          (canonical_withSecrets _ alike) ?_
        intro later kept
        exact restoreTransport_sealed rfl named (reveals later kept)
      · exact refused
  | false =>
      simp only [Bool.false_eq_true, if_false, wp_pure]
      refine enclosed _ _ (.refl store) secret record rfl ?_
      exact fun later _ => restoreTransport_plain rfl later

/-- A transport that could be restored can be restored again. -/
theorem restoreTransport_rule (inverts : Inverts) (stored : StoredToolset)
    {store : StateStore} {post : ToolsetRecord → StateStore → Prop}
    {raised : PyException → StateStore → Prop}
    (restored : ∀ record after, Prepared store after →
      Opens after stored record → post record after)
    (refused : ∀ exception after, raised exception after) :
    wp (restoreTransport stored) post raised store := by
  cases found : stored.envelope with
  | none =>
      unfold restoreTransport
      rw [found]
      simp only [wp_pure]
      apply restored _ _ (.refl store)
      exact fun later _ => restoreTransport_plain found later
  | some envelope =>
      unfold restoreTransport
      rw [found]
      simp only [wp_bind, wp_fromExcept]
      cases named : providerForEnvelope envelope with
      | error exception =>
          exact refused _ _
      | ok provider =>
          simp only
          cases provider with
          | windowsDpapi =>
              simp only [revealBundle, wp_bind, wp_fromExcept]
              split
              · rename_i ciphertext hasCiphertext
                split
                · rename_i plaintext unprotected
                  split
                  · rename_i bundle decoded
                    rw [wp_pure]
                    apply restored _ _ (.refl store)
                    intro later _
                    apply restoreTransport_sealed found named
                    simp only [revealBundle, outcome_bind,
                      outcome_fromExcept, hasCiphertext, unprotected,
                      decoded]
                  · exact refused _ _
                · exact refused _ _
              · exact refused _ _
          | localAesgcm =>
              simp only [revealBundle, wp_bind, wp_fromExcept]
              apply loadOrCreateKey_rule inverts
              · intro key after prepared length held
                split
                · rename_i nonce hasNonce
                  split
                  · rename_i ciphertext hasCiphertext
                    split
                    · rename_i plaintext decrypted
                      split
                      · rename_i bundle decoded
                        rw [wp_pure]
                        apply restored _ _ prepared
                        intro later kept
                        have loaded :=
                          outcome_loadOrCreateKey (kept key held) length
                        apply restoreTransport_sealed found named
                        simp only [revealBundle, outcome_bind,
                          outcome_fromExcept, loaded, hasNonce,
                          hasCiphertext, decrypted, decoded]
                      · exact refused _ _
                    · exact refused _ _
                  · exact refused _ _
                · exact refused _ _
              · exact fun exception _ => refused exception store

end Library

end ToolboxMcp
