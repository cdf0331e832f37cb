import ToolboxMcp.Library.Journal
import ToolboxMcp.RegistryMap

/-!
# The files of the store

The state file is a text; it is written beside, to a file of its own name with
the suffix `.tmp`, and moved into place.  A file that is written is made empty
and then grows, so a process that is killed can leave a beginning of it.  Only
`os.replace` is one change.  Text encoding comes from outside the repository.
-/

namespace ToolboxMcp

open Effect Stoppable

/-- `json.dumps` and `json.loads` on the payload of the state file. -/
class StateText [SecretLibrary] where
  Character : Type
  dumps : StoredDocument → List Character
  loads : List Character → Except PyException StoredDocument

section Files

variable [SecretLibrary] [StateText]

open SecretLibrary StateText

/-- What is written reads back, up to the order of keys: `json.dumps` sorts
them. -/
def StateText.Inverts : Prop :=
  ∀ payload : StoredDocument, ∃ read,
    StateText.loads (dumps payload) = .ok read ∧
      read.canonical = payload.canonical

/-- The files beside each other: `state.json`, `state.json.tmp` and
`state.key`. -/
structure Disk where
  state : Option (List Character) := none
  temp : Option (List Character) := none
  key : Option (List UInt8) := none
  draws : Nat := 0

abbrev DiskM :=
  Stoppable Disk PyException

namespace Disk

/-! ## The code of the store, change by change -/

/-- `key_path.write_bytes`. -/
def writeKey (key : List UInt8) : DiskM Unit :=
  pass fun disk => key.inits.map fun written =>
    { disk with key := some written }

/-- `temp_path.write_text`. -/
def writeTemp (text : List Character) : DiskM Unit :=
  pass fun disk => text.inits.map fun written =>
    { disk with temp := some written }

/-- `os.replace(temp_path, self.path)`. -/
def replaceState : DiskM Unit := do
  let disk ← look
  match disk.temp with
  | none => throw { message := "No such file or directory" }
  | some text =>
      pass fun disk => [{ disk with state := some text, temp := none }]

/-- The source of randomness goes on. -/
def draw : DiskM Nat := do
  let disk ← look
  pass fun disk => [{ disk with draws := disk.draws + 1 }]
  return disk.draws

def drawNonce : DiskM Bytes := do
  return urandom (← draw)

def loadOrCreateKey : DiskM (List UInt8) := do
  let disk ← look
  match disk.key with
  | some key =>
      if key.length = 32 then
        return key
      else
        throw { message := "Invalid Toolbox transport secret key length" }
  | none =>
      let key := generateKey (← draw)
      writeKey key
      return key

def protectBundle (bundle : TransportBundle) :
    SecretProvider → DiskM SecretEnvelope
  | .windowsDpapi =>
      return {
        provider := some SecretProvider.windowsDpapi.name
        ciphertext := some (cryptProtect (encodeBundle bundle)) }
  | .localAesgcm => do
      let key ← loadOrCreateKey
      let nonce ← drawNonce
      return {
        provider := some SecretProvider.localAesgcm.name
        nonce := some nonce
        ciphertext := some (encrypt key nonce (encodeBundle bundle)) }

def revealBundle (envelope : SecretEnvelope) :
    SecretProvider → DiskM TransportBundle
  | .windowsDpapi => do
      let ciphertext ← fromExcept (bytesField "ciphertext" envelope.ciphertext)
      let plaintext ← fromExcept (cryptUnprotect ciphertext)
      fromExcept (decodeBundle plaintext)
  | .localAesgcm => do
      let key ← loadOrCreateKey
      let nonce ← fromExcept (bytesField "nonce" envelope.nonce)
      let ciphertext ← fromExcept (bytesField "ciphertext" envelope.ciphertext)
      let plaintext ← fromExcept (decrypt key nonce ciphertext)
      fromExcept (decodeBundle plaintext)

def protectTransport (record : ToolsetRecord) : DiskM StoredToolset := do
  if hasSecrets record then
    let envelope ← protectBundle (secretsOf record) currentProvider
    return {
      record := withSecrets record ⟨[], []⟩
      envelope := some envelope }
  else
    return { record := record }

def restoreTransport (stored : StoredToolset) : DiskM ToolsetRecord := do
  match stored.envelope with
  | none => return stored.record
  | some envelope =>
      let provider ← fromExcept (providerForEnvelope envelope)
      let bundle ← revealBundle envelope provider
      return withSecrets stored.record bundle

def serializeDocument (document : StateDocument) : DiskM StoredDocument := do
  let toolsets ← document.toolsets.mapM protectTransport
  return {
    version := some currentVersion
    toolsets := toolsets
    schemaCache := document.schemaCache
    previousSchemaCache := document.previousSchemaCache
    auditLog := document.auditLog
    nextAuditSequence := document.nextAuditSequence }

def writeUnlocked (document : StateDocument) : DiskM Unit := do
  let payload ← serializeDocument document
  writeTemp (dumps payload)
  replaceState

def restorePayload (payload : StoredDocument) :
    DiskM (StateDocument × Bool) := do
  let records ← payload.toolsets.mapM restoreTransport
  return (payload.restoredWith records,
    payload.version ≠ some currentVersion ||
      payload.toolsets.any needsMigration)

def loadUnlocked : DiskM StateDocument := do
  let disk ← look
  match disk.state with
  | none => throw { message := "No such file or directory" }
  | some text =>
      let payload ← fromExcept (loads text)
      let (restored, migrated) ← restorePayload payload
      let document ← fromExcept (validated restored)
      if migrated then
        writeUnlocked document
      return document

def save (document : StateDocument) : DiskM Unit :=
  writeUnlocked document

def ensure : DiskM Unit := do
  let disk ← look
  match disk.state with
  | some _ => return
  | none => save {}

def load : DiskM StateDocument := do
  ensure
  loadUnlocked

/-- `_mutate`. -/
def mutate (limit : Nat) (mutation : StoreMutation) :
    DiskM MutationResult := do
  let document ← load
  let changed := mutation.apply limit document
  writeUnlocked changed
  return mutation.result document changed

def perform (limit : Nat) : Store.Action → DiskM Unit
  | .mutate mutation => do
      let _ ← mutate limit mutation
      return
  | .reload => do
      let _ ← load
      return

end Disk

end Files

end ToolboxMcp
