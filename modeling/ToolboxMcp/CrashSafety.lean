import Mathlib.Data.List.Infix
import ToolboxMcp.Disk

/-!
# A killed process leaves a whole document

Whatever the store is doing when the process is killed, the state file holds
the document from before or the one from after.  The exception is the moment
in which the key file is created: what is left of it then is not a key.
-/

namespace ToolboxMcp

open Effect Stoppable

/-- What a finished operation does to the document. -/
def StateDocument.perform (limit : Nat) (document : StateDocument) :
    Store.Action → StateDocument
  | .mutate mutation => mutation.apply limit document
  | .reload => document

def Store.Action.Valid : Store.Action → Prop
  | .mutate mutation => mutation.Valid
  | .reload => True

section Files

variable [SecretLibrary] [StateText]

open SecretLibrary StateText

namespace Disk

variable {disk left middle start : Disk} {store : StateStore}
  {journal : Journal Disk} {crash : Disk → Prop}

/-- The store that is in these files. -/
structure Holds (disk : Disk) (store : StateStore) : Prop where
  key : store.keyFile = disk.key
  draws : store.draws = disk.draws
  file : disk.state.map StateText.loads = store.file.map .ok

theorem Holds.missing (holds : disk.Holds store) :
    disk.state = none ↔ store.file = none := by
  have file := holds.file
  cases present : disk.state with
  | none =>
      rw [present] at file
      simpa [eq_comm] using file
  | some text =>
      rw [present] at file
      cases held : store.file with
      | none =>
          rw [held] at file
          cases file
      | some payload =>
          simp

/-- The state file is as it was, and so is the key file, unless there was none:
then a beginning of a new key may be there. -/
structure Aside (disk left : Disk) : Prop where
  state : left.state = disk.state
  key :
    left.key = disk.key ∨
      disk.key = none ∧
        ∃ draw written,
          left.key = some written ∧ written <+: generateKey draw

theorem Aside.of_same (state : left.state = disk.state)
    (key : left.key = disk.key) : Aside disk left :=
  ⟨state, .inl key⟩

theorem Aside.trans (first : Aside disk middle) (second : Aside middle left) :
    Aside disk left where
  state := second.state.trans first.state
  key := by
    rcases first.key with same | ⟨missing, draw, written, begun, initial⟩
    · rw [← same]
      exact second.key
    · rcases second.key with same | ⟨none, _⟩
      · exact .inr ⟨missing, draw, written, same.trans begun, initial⟩
      · rw [begun] at none
        cases none

omit [SecretLibrary] [StateText] in
theorem getLast?_map_inits {α β : Type} (written : List α → β)
    (whole : List α) :
    (whole.inits.map written).getLast? = some (written whole) := by
  have last : whole.inits.getLast? = some whole := by
    rw [List.getLast?_eq_getElem?, List.length_inits]
    simp [List.getElem_inits]
  rw [List.getLast?_map, last]
  rfl

/-! ## Beside the state file -/

/-- The journal has come from `start` without a change of the state file, and
now is where the store is. -/
structure Beside (crash : Disk → Prop) (start : Disk)
    (journal : Journal Disk) (store : StateStore) : Prop where
  holds : journal.now.Holds store
  aside : Aside start journal.now
  within : journal.Within crash

/-- The journal goes on beside the state file. -/
theorem Beside.moves (beside : Beside crash start journal store)
    (allowed : ∀ left, Aside start left → crash left)
    {path : List Disk} {last : Disk} {after : StateStore}
    (ends : path.getLast? = some last) (holds : last.Holds after)
    (passes : ∀ left ∈ path, Aside journal.now left) :
    Beside crash start (journal.moves path) after where
  holds := by
    rw [Journal.now_moves, ends]
    exact holds
  aside := by
    rw [Journal.now_moves, ends]
    exact beside.aside.trans (passes last (List.mem_of_getLast? ends))
  within :=
    beside.within.moves fun left member =>
      allowed left (beside.aside.trans (passes left member))

theorem simulates_look {α : Type} {related : Journal Disk → StateStore → Prop}
    {next : Disk → DiskM α} {next' : StateStore → StoreM α}
    (goesOn : Simulates related (next journal.now) (next' store) journal
      store) :
    Simulates related (look >>= next) (get >>= next') journal store :=
  goesOn

section Beside

variable (allowed : ∀ left, Aside start left → crash left)
include allowed

theorem simulates_loadOrCreateKey (beside : Beside crash start journal store) :
    Simulates (Beside crash start) Disk.loadOrCreateKey
      ToolboxMcp.loadOrCreateKey journal store := by
  apply simulates_look
  rw [beside.holds.key]
  cases stored : journal.now.key with
  | some key =>
      simp only
      split
      · exact simulates_pure beside key
      · exact simulates_throw beside _
  | none =>
      have drawn : Beside crash start
          (journal.moves [{ journal.now with draws := journal.now.draws + 1 }])
          { store with draws := store.draws + 1 } := by
        apply beside.moves allowed rfl
        · exact ⟨beside.holds.key, congrArg (· + 1) beside.holds.draws,
            beside.holds.file⟩
        · intro left member
          rw [List.mem_singleton.mp member]
          exact .of_same rfl rfl
      have written : Beside crash start
          ((journal.moves
            [{ journal.now with draws := journal.now.draws + 1 }]).moves
            ((generateKey journal.now.draws).inits.map fun written =>
              { journal.now with
                key := some written
                draws := journal.now.draws + 1 }))
          { store with
            keyFile := some (generateKey store.draws)
            draws := store.draws + 1 } := by
        apply drawn.moves allowed (getLast?_map_inits _ _)
        · exact ⟨congrArg (some ∘ generateKey) beside.holds.draws,
            congrArg (· + 1) beside.holds.draws, beside.holds.file⟩
        · intro left member
          obtain ⟨written, begun, rfl⟩ := List.mem_map.mp member
          exact ⟨rfl, .inr ⟨stored, _, written, rfl,
            (List.mem_inits _ _).mp begun⟩⟩
      refine ⟨?_, written⟩
      exact congrArg (Except.ok ∘ generateKey) beside.holds.draws.symm

theorem simulates_drawNonce (beside : Beside crash start journal store) :
    Simulates (Beside crash start) Disk.drawNonce ToolboxMcp.drawNonce journal
      store := by
  refine ⟨congrArg (Except.ok ∘ urandom) beside.holds.draws.symm, ?_⟩
  apply beside.moves allowed rfl
  · exact ⟨beside.holds.key, congrArg (· + 1) beside.holds.draws,
      beside.holds.file⟩
  · intro left member
    rw [List.mem_singleton.mp member]
    exact .of_same rfl rfl

theorem simulates_protectBundle (bundle : TransportBundle)
    (provider : SecretProvider) (beside : Beside crash start journal store) :
    Simulates (Beside crash start) (Disk.protectBundle bundle provider)
      (ToolboxMcp.protectBundle bundle provider) journal store := by
  cases provider with
  | windowsDpapi =>
      exact simulates_pure beside _
  | localAesgcm =>
      apply simulates_bind (simulates_loadOrCreateKey allowed beside)
      intro key middle middle' still
      apply simulates_bind (simulates_drawNonce allowed still)
      intro nonce last last' ends
      exact simulates_pure ends _

theorem simulates_revealBundle (envelope : SecretEnvelope)
    (provider : SecretProvider) (beside : Beside crash start journal store) :
    Simulates (Beside crash start) (Disk.revealBundle envelope provider)
      (ToolboxMcp.revealBundle envelope provider) journal store := by
  cases provider with
  | windowsDpapi =>
      apply simulates_bind (simulates_fromExcept beside _)
      intro ciphertext middle middle' still
      apply simulates_bind (simulates_fromExcept still _)
      intro plaintext last last' ends
      exact simulates_fromExcept ends _
  | localAesgcm =>
      apply simulates_bind (simulates_loadOrCreateKey allowed beside)
      intro key opened opened' first
      apply simulates_bind (simulates_fromExcept first _)
      intro nonce read read' second
      apply simulates_bind (simulates_fromExcept second _)
      intro ciphertext middle middle' still
      apply simulates_bind (simulates_fromExcept still _)
      intro plaintext last last' ends
      exact simulates_fromExcept ends _

theorem simulates_protectTransport (record : ToolsetRecord)
    (beside : Beside crash start journal store) :
    Simulates (Beside crash start) (Disk.protectTransport record)
      (ToolboxMcp.protectTransport record) journal store := by
  unfold Disk.protectTransport ToolboxMcp.protectTransport
  split
  · apply simulates_bind (simulates_protectBundle allowed _ _ beside)
    intro envelope middle middle' still
    exact simulates_pure still _
  · exact simulates_pure beside _

theorem simulates_restoreTransport (stored : StoredToolset)
    (beside : Beside crash start journal store) :
    Simulates (Beside crash start) (Disk.restoreTransport stored)
      (ToolboxMcp.restoreTransport stored) journal store := by
  unfold Disk.restoreTransport ToolboxMcp.restoreTransport
  cases stored.envelope with
  | none =>
      exact simulates_pure beside _
  | some envelope =>
      apply simulates_bind (simulates_fromExcept beside _)
      intro provider middle middle' still
      apply simulates_bind (simulates_revealBundle allowed _ _ still)
      intro bundle last last' ends
      exact simulates_pure ends _

theorem simulates_serializeDocument (document : StateDocument)
    (beside : Beside crash start journal store) :
    Simulates (Beside crash start) (Disk.serializeDocument document)
      (ToolboxMcp.serializeDocument document) journal store := by
  apply simulates_bind
  · apply simulates_mapM beside
    intro record middle middle' still
    exact simulates_protectTransport allowed record still
  · intro toolsets last last' ends
    exact simulates_pure ends _

theorem simulates_restorePayload (payload : StoredDocument)
    (beside : Beside crash start journal store) :
    Simulates (Beside crash start) (Disk.restorePayload payload)
      (ToolboxMcp.restorePayload payload) journal store := by
  apply simulates_bind
  · apply simulates_mapM beside
    intro stored middle middle' still
    exact simulates_restoreTransport allowed stored still
  · intro records last last' ends
    exact simulates_pure ends _

end Beside

/-! ## The document of the next load -/

/-- The store is such that a load returns the document, up to the order of
keys. -/
structure Loadable (store : StateStore) (document : StateDocument) :
    Prop where
  usable : store.Usable
  held :
    store.file = none ∧ document.canonical = {} ∨
      ∃ payload records read,
        store.file = some payload ∧
          OpenAll store payload.toolsets records ∧
          (payload.restoredWith records).validate = .ok read ∧
          read.canonical = document.canonical

omit [StateText] in
theorem loadable_of_ready {document : StateDocument}
    (ready : store.Ready document) : Loadable store document where
  usable := ready.usable
  held := by
    rcases ready.held with missing | ⟨read, settled, same⟩
    · exact .inl missing
    · obtain ⟨payload, records, held, _, _, opens, valid⟩ := settled
      exact .inr ⟨payload, records, read, held, opens, valid, same⟩

omit [StateText] in
theorem Loadable.readable {document : StateDocument}
    (loadable : Loadable store document) :
    document.Readable ∧ document.version = currentVersion := by
  rcases loadable.held with
    ⟨_, first⟩ | ⟨payload, records, read, _, _, valid, same⟩
  · have empty : StateDocument.Readable {} :=
      fun record member => absurd member List.not_mem_nil
    have same : document.canonical = StateDocument.canonical {} := first
    exact ⟨readable_of_canonical same empty, version_of_canonical same⟩
  · have version := validate_version valid
    exact ⟨readable_of_canonical same.symm (readable_of_validate valid),
      (version_of_canonical same.symm).trans version⟩

omit [StateText] in
theorem Loadable.congr {document other : StateDocument}
    (loadable : Loadable store document)
    (same : other.canonical = document.canonical) :
    Loadable store other where
  usable := loadable.usable
  held := by
    rw [same]
    exact loadable.held

omit [StateText] in
theorem Loadable.kept {document : StateDocument} {after : StateStore}
    (loadable : Loadable store document) (file : after.file = store.file)
    (kept : KeyKept store after) (usable : after.Usable) :
    Loadable after document where
  usable := usable
  held := by
    rw [file]
    rcases loadable.held with
      missing | ⟨payload, records, read, held, opens, valid⟩
    · exact .inl missing
    · refine .inr ⟨payload, records, read, held, ?_, valid⟩
      apply List.Forall₂.imp _ opens
      intro stored record opened later keeps
      exact opened later fun key present => keeps key (kept key present)

/-- The files are such that a load returns the document, up to the order of
keys. -/
def Stores (document : StateDocument) (disk : Disk) : Prop :=
  ∃ store, disk.Holds store ∧ Loadable store document

theorem Stores.congr {document other : StateDocument}
    (stores : Stores document disk)
    (same : other.canonical = document.canonical) : Stores other disk := by
  obtain ⟨store, holds, loadable⟩ := stores
  exact ⟨store, holds, loadable.congr same⟩

/-- A key file that is there holds a key. -/
def Intact (disk : Disk) : Prop :=
  ∀ key, disk.key = some key → key.length = 32

/-- A state file that was not touched still has its document. -/
theorem Stores.aside {document : StateDocument}
    (stores : Stores document disk) (aside : Aside disk left)
    (intact : left.Intact) : Stores document left := by
  obtain ⟨store, holds, loadable⟩ := stores
  refine ⟨{ store with keyFile := left.key, draws := left.draws }, ?_, ?_⟩
  · exact ⟨rfl, rfl, by rw [aside.state]; exact holds.file⟩
  · refine loadable.kept rfl ?_ intact
    intro key present
    rw [holds.key] at present
    rcases aside.key with same | ⟨missing, _⟩
    · exact same.trans present
    · rw [missing] at present
      cases present

/-! ## The operations -/

variable {document changed : StateDocument}
  {raised : PyException → Journal Disk → Prop}

theorem writeTemp_rule {text : List Character}
    {post : Unit → Journal Disk → Prop} (within : journal.Within crash)
    (allowed : ∀ left, Aside journal.now left → crash left)
    (written : ∀ after : Journal Disk,
      after.now = { journal.now with temp := some text } →
      after.Within crash → post () after) :
    wp (writeTemp text) post raised journal := by
  unfold writeTemp
  rw [wp_pass]
  apply written
  · rw [Journal.now_moves, getLast?_map_inits]
    rfl
  · apply within.moves
    intro left member
    obtain ⟨begun, _, rfl⟩ := List.mem_map.mp member
    exact allowed _ (.of_same rfl rfl)

theorem replaceState_rule {text : List Character}
    {post : Unit → Journal Disk → Prop} (within : journal.Within crash)
    (temp : journal.now.temp = some text)
    (allowed : crash { journal.now with state := some text, temp := none })
    (replaced : ∀ after : Journal Disk,
      after.now = { journal.now with state := some text, temp := none } →
      after.Within crash → post () after) :
    wp replaceState post raised journal := by
  unfold replaceState
  rw [wp_bind, wp_look]
  simp only [temp, wp_pass]
  apply replaced _ rfl
  apply within.moves
  intro left member
  rw [List.mem_singleton.mp member]
  exact allowed

omit [StateText] in
/-- What serializing a document gives opens to the document, and so does what
is read of it. -/
theorem serializeDocument_rule (inverts : SecretLibrary.Inverts)
    (usable : store.Usable) (readable : document.Readable)
    (version : document.version = currentVersion) :
    ∃ payload after,
      outcome (ToolboxMcp.serializeDocument document) store =
          (.ok payload, after) ∧
        ∀ read : StoredDocument, read.canonical = payload.canonical →
          Loadable { after with file := some read } document := by
  have serialized :
      wp (ToolboxMcp.serializeDocument document)
        (fun payload after =>
          ∀ read : StoredDocument, read.canonical = payload.canonical →
            Loadable { after with file := some read } document)
        (fun _ _ => False) store := by
    unfold ToolboxMcp.serializeDocument
    rw [wp_bind]
    apply protectAll_rule inverts
    · intro entries after prepared _ records alike opens
      rw [wp_pure]
      intro read same
      obtain ⟨opened, opensRead, alikeRead⟩ :=
        opens.alike (congrArg StoredDocument.toolsets same)
      have restored :
          (read.restoredWith opened).canonical = document.canonical := by
        rw [StoredDocument.canonical_restoredWith same alikeRead]
        simp only [StoredDocument.restoredWith, StateDocument.canonical,
          alike, version]
      have valid := validate_of_readable
        (readable_of_canonical restored readable)
      refine ⟨prepared.usable usable,
        .inr ⟨read, opened, _, rfl, ?_, valid, restored⟩⟩
      exact List.Forall₂.imp (fun _ _ opened later kept =>
        opened later kept) opensRead
    · exact fun _ _ unusable => unusable usable
  rcases wp_cases serialized with
    ⟨payload, after, computed, loadable⟩ | ⟨_, _, _, impossible⟩
  · exact ⟨payload, after, computed, loadable⟩
  · exact impossible.elim

/-- Until the file is replaced it has the old document, and then the new
one. -/
theorem writeUnlocked_keeps (inverts : SecretLibrary.Inverts)
    (reads : StateText.Inverts) (stores : Stores document journal.now)
    (readable : changed.Readable)
    (version : changed.version = currentVersion)
    (within : journal.Within crash)
    (allows : ∀ left : Disk,
      (left.Intact → Stores document left ∨ Stores changed left) →
      crash left) :
    wp (Disk.writeUnlocked changed)
      (fun _ after =>
        Stores changed after.now ∧ after.now.state.isSome ∧
          after.Within crash)
      (fun _ _ => False) journal := by
  have allowed : ∀ left, Aside journal.now left → crash left :=
    fun left aside => allows left fun intact =>
      .inl (stores.aside aside intact)
  obtain ⟨store, holds, loadable⟩ := stores
  have beside : Beside crash journal.now journal store :=
    ⟨holds, .of_same rfl rfl, within⟩
  obtain ⟨payload, after, serialized, written⟩ :=
    serializeDocument_rule inverts loadable.usable readable version
  obtain ⟨middle, protected', still⟩ :=
    (simulates_serializeDocument allowed changed beside).returns serialized
  unfold Disk.writeUnlocked
  rw [wp_bind]
  apply wp_of_returns protected'
  rw [wp_bind]
  have further : ∀ left, Aside middle.now left → crash left :=
    fun left aside => allowed left (still.aside.trans aside)
  apply writeTemp_rule still.within further
  intro begun now withinBegun
  have temp : begun.now.temp = some (dumps payload) := by rw [now]
  obtain ⟨read, parsed, same⟩ := reads payload
  have stored : Stores changed
      { begun.now with state := some (dumps payload), temp := none } := by
    refine ⟨{ after with file := some read }, ?_, written read same⟩
    rw [now]
    exact ⟨still.holds.key, still.holds.draws, congrArg some parsed⟩
  apply replaceState_rule withinBegun temp (allows _ fun _ => .inr stored)
  intro last replaced withinLast
  rw [replaced]
  exact ⟨stored, rfl, withinLast⟩

/-- A load leaves files with the same document, on its way too. -/
theorem loadUnlocked_keeps (inverts : SecretLibrary.Inverts)
    (reads : StateText.Inverts) (stores : Stores document journal.now)
    (present : journal.now.state.isSome) (within : journal.Within crash)
    (allows : ∀ left : Disk,
      (left.Intact → Stores document left) → crash left) :
    wp Disk.loadUnlocked
      (fun loaded after =>
        loaded.canonical = document.canonical ∧
          Stores document after.now ∧ after.Within crash)
      (fun _ _ => False) journal := by
  have allowed : ∀ left, Aside journal.now left → crash left :=
    fun left aside => allows left fun intact => stores.aside aside intact
  obtain ⟨store, holds, loadable⟩ := stores
  obtain ⟨text, shown⟩ := Option.isSome_iff_exists.mp present
  rcases loadable.held with
    ⟨missing, _⟩ | ⟨payload, records, read, held, opens, valid, same⟩
  · rw [holds.missing.mpr missing] at shown
    cases shown
  · have parsed : StateText.loads text = .ok payload := by
      have file := holds.file
      rw [shown, held] at file
      exact Option.some.inj file
    have accepted :
        validated (payload.restoredWith records) = .ok read := by
      unfold validated
      rw [valid]
      rfl
    have restored :
        outcome (ToolboxMcp.restorePayload payload) store =
          (.ok (payload.restoredWith records,
            payload.version ≠ some currentVersion ||
              payload.toolsets.any needsMigration), store) := by
      unfold ToolboxMcp.restorePayload
      rw [outcome_bind, outcome_restoreAll opens]
      rfl
    have beside : Beside crash journal.now journal store :=
      ⟨holds, .of_same rfl rfl, within⟩
    obtain ⟨middle, opened, still⟩ :=
      (simulates_restorePayload allowed payload beside).returns restored
    have remains : Stores document middle.now := ⟨store, still.holds, loadable⟩
    unfold Disk.loadUnlocked
    rw [wp_bind, wp_look]
    simp only [shown, wp_bind, wp_fromExcept, parsed]
    apply wp_of_returns opened
    simp only [accepted]
    split
    · rw [wp_bind]
      obtain ⟨readable, version⟩ := (loadable.congr same).readable
      apply wp_mono
        (writeUnlocked_keeps inverts reads remains readable version
          still.within fun left settled => allows left fun intact =>
            (settled intact).elim id fun stored => stored.congr same.symm)
      · rintro _ after ⟨stored, _, withinAfter⟩
        exact ⟨same, stored.congr same.symm, withinAfter⟩
      · exact fun _ _ => id
    · exact ⟨same, remains, still.within⟩

theorem load_keeps (inverts : SecretLibrary.Inverts)
    (reads : StateText.Inverts) (stores : Stores document journal.now)
    (within : journal.Within crash)
    (allows : ∀ left : Disk,
      (left.Intact → Stores document left) → crash left) :
    wp Disk.load
      (fun loaded after =>
        loaded.canonical = document.canonical ∧
          Stores document after.now ∧ after.Within crash)
      (fun _ _ => False) journal := by
  unfold Disk.load Disk.ensure
  rw [wp_bind, wp_bind, wp_look]
  cases shown : journal.now.state with
  | some text =>
      simp only [wp_pure]
      apply loadUnlocked_keeps inverts reads stores _ within allows
      rw [shown]
      rfl
  | none =>
      have first : document.canonical = {} := by
        obtain ⟨store, holds, loadable⟩ := stores
        rcases loadable.held with ⟨_, same⟩ | ⟨_, _, _, held, _⟩
        · exact same
        · rw [holds.missing.mp shown] at held
          cases held
      simp only
      have empty : StateDocument.Readable {} :=
        fun record member => absurd member List.not_mem_nil
      apply wp_mono
        (writeUnlocked_keeps inverts reads stores empty rfl within
          fun left settled => allows left fun intact =>
            (settled intact).elim id fun stored => stored.congr first)
      · rintro _ after ⟨stored, present, withinAfter⟩
        exact loadUnlocked_keeps inverts reads (stored.congr first) present
          withinAfter allows
      · exact fun _ _ => id

theorem mutate_keeps (inverts : SecretLibrary.Inverts)
    (reads : StateText.Inverts) (stores : Stores document journal.now)
    {limit : Nat} {mutation : StoreMutation} (valid : mutation.Valid)
    (within : journal.Within crash)
    (allows : ∀ left : Disk,
      (left.Intact → Stores document left ∨
        Stores (mutation.apply limit document) left) → crash left) :
    wp (Disk.mutate limit mutation)
      (fun _ after =>
        Stores (mutation.apply limit document) after.now ∧
          after.Within crash)
      (fun _ _ => False) journal := by
  unfold Disk.mutate
  rw [wp_bind]
  apply wp_mono
    (load_keeps inverts reads stores within fun left settled =>
      allows left fun intact => .inl (settled intact))
  · rintro loaded middle ⟨same, still, withinMiddle⟩
    rw [wp_bind]
    obtain ⟨readable, version⟩ : loaded.Readable ∧
        loaded.version = currentVersion := by
      obtain ⟨store, _, loadable⟩ := still.congr same
      exact loadable.readable
    have changes := canonical_apply_congr same.symm limit mutation
    apply wp_mono
      (writeUnlocked_keeps inverts reads still
        (readable_apply readable valid limit)
        ((version_apply limit loaded mutation).trans version) withinMiddle
        fun left settled => allows left fun intact =>
          (settled intact).imp id fun stored => stored.congr changes)
    · rintro _ after ⟨stored, _, withinAfter⟩
      exact ⟨stored.congr changes, withinAfter⟩
    · exact fun _ _ => id
  · exact fun _ _ => id

/-! ## Runs -/

theorem perform_keeps (inverts : SecretLibrary.Inverts)
    (reads : StateText.Inverts) {limit : Nat} {action : Store.Action}
    (valid : action.Valid) (stores : Stores document disk) :
    Stores (document.perform limit action)
        (record (Disk.perform limit action) disk).now ∧
      (record (Disk.perform limit action) disk).Within fun left =>
        left.Intact → Stores document left ∨
          Stores (document.perform limit action) left := by
  apply record_of_wp
  cases action with
  | mutate mutation =>
      unfold Disk.perform
      rw [wp_bind]
      apply wp_mono
        (mutate_keeps inverts reads stores valid
          (Journal.within_start fun _ => .inl stores) fun left settled =>
            settled)
      · exact fun _ _ ends => ends
      · exact fun _ _ => id
  | reload =>
      have started : (Journal.mk disk []).Within fun left =>
          left.Intact → Stores document left :=
        Journal.within_start fun _ => stores
      unfold Disk.perform
      rw [wp_bind]
      apply wp_mono
        (load_keeps inverts reads stores started fun left settled => settled)
      · rintro _ after ⟨_, stored, within⟩
        exact ⟨stored, within.mono fun left settled intact =>
          .inl (settled intact)⟩
      · exact fun _ _ => id

/-- However often the process is killed, at whatever changes of the files but
within the creation of the key: the next load returns the document that the
finished operations and some of the killed ones have made, in their order, up
to the order of keys in its dicts. -/
theorem survives_kills (inverts : SecretLibrary.Inverts)
    (reads : StateText.Inverts) {limit : Nat} {final : Disk}
    {attempts : List (Attempt Store.Action)} (stores : Stores document disk)
    (reaches :
      Reaches (attempting (Disk.perform limit))
        (fun before attempt => attempt.action.Valid ∧
          ∀ left ∈ attempt.leaves (Disk.perform limit) before.1, left.Intact)
        (disk, []) (final, attempts)) :
    ∃ taken, Attempt.Taken attempts taken ∧
      ∃ loaded after,
        outcome Disk.load ⟨final, []⟩ = (.ok loaded, after) ∧
          loaded.canonical =
            (taken.foldl (StateDocument.perform limit) document).canonical ∧
          Stores (taken.foldl (StateDocument.perform limit) document)
            after.now := by
  obtain ⟨taken, counted, holds⟩ :=
    taken_of_attempts
      (fun value action state valid stores =>
        perform_keeps inverts reads valid stores) stores reaches
  refine ⟨taken, counted, ?_⟩
  have loads :
      wp Disk.load
        (fun loaded after =>
          loaded.canonical =
              (taken.foldl (StateDocument.perform limit) document).canonical ∧
            Stores (taken.foldl (StateDocument.perform limit) document)
              after.now ∧
            after.Within fun _ => True)
        (fun _ _ => False) ⟨final, []⟩ :=
    load_keeps inverts reads holds (Journal.within_start trivial)
      fun _ _ => trivial
  rcases wp_cases loads with
    ⟨loaded, after, returned, same, stored, _⟩ | ⟨_, _, _, impossible⟩
  · exact ⟨loaded, after, returned, same, stored⟩
  · exact impossible.elim

end Disk

end Files

namespace Symbolic

open scoped Symbolic

/-- A text of two characters that stand for the whole payload. -/
scoped instance text : StateText where
  Character := Option StoredDocument
  dumps := fun payload => [some payload, none]
  loads := fun
    | [some payload, none] => .ok payload
    | _ => .error { message := "Expecting value: line 1 column 1 (char 0)" }

theorem text_inverts : StateText.Inverts :=
  fun payload => ⟨payload, rfl, rfl⟩

/-- A toolset is added; while another one is added the process is killed in the
middle of the text, and while the first is deleted, right at the end. -/
def killed : List (Attempt Store.Action) :=
  [.finished (.mutate (.upsertToolset secretToolset)),
   .stopped
     (.mutate (.upsertToolset { secretToolset with ns := "other" })) 4,
   .stopped (.mutate (.deleteToolset "secret_stdio")) 4]

theorem stores_empty : Disk.Stores {} {} :=
  ⟨{}, ⟨rfl, rfl, rfl⟩, Disk.loadable_of_ready ready_empty⟩

/-- An attempt that leaves a whole key. -/
theorem intact_of_leaves {state left : Disk} {attempt : Attempt Store.Action}
    (leaves : attempt.leaves (Disk.perform 250) state = some left)
    (key : left.key = some (List.replicate 32 0)) :
    ∀ left ∈ attempt.leaves (Disk.perform 250) state, left.Intact := by
  intro other member held present
  rw [leaves] at member
  cases member
  rw [key] at present
  cases present
  rfl

theorem survives_kills_secret :
    ∃ final loaded after taken,
      Reaches (attempting (Disk.perform 250))
          (fun before attempt => attempt.action.Valid ∧
            ∀ left ∈ attempt.leaves (Disk.perform 250) before.1, left.Intact)
          ({}, []) (final, killed) ∧
        Attempt.Taken killed taken ∧
        outcome Disk.load ⟨final, []⟩ = (.ok loaded, after) ∧
        loaded.canonical =
          (taken.foldl (StateDocument.perform 250) {}).canonical := by
  have upserts : ∀ ns, Store.Action.Valid
      (.mutate (.upsertToolset { secretToolset with ns := ns })) := by
    intro ns record same
    cases same
    rfl
  have deletes : Store.Action.Valid
      (.mutate (.deleteToolset "secret_stdio")) := by
    intro record same
    cases same
  have started :
      Reaches (attempting (Disk.perform 250))
        (fun before attempt => attempt.action.Valid ∧
          ∀ left ∈ attempt.leaves (Disk.perform 250) before.1, left.Intact)
        ({}, []) ({}, []) :=
    .start
  have first := reaches_attempt started
    (.finished (.mutate (.upsertToolset secretToolset)))
    ⟨upserts "secret_stdio", intact_of_leaves rfl rfl⟩ rfl
  have second := reaches_attempt first
    (.stopped
      (.mutate (.upsertToolset { secretToolset with ns := "other" })) 4)
    ⟨upserts "other", intact_of_leaves rfl rfl⟩ rfl
  have reaches := reaches_attempt second
    (.stopped (.mutate (.deleteToolset "secret_stdio")) 4)
    ⟨deletes, intact_of_leaves rfl rfl⟩ rfl
  obtain ⟨taken, counted, loaded, after, loads, same, _⟩ :=
    Disk.survives_kills inverts text_inverts stores_empty reaches
  exact ⟨_, loaded, after, taken, reaches, counted, loads, same⟩

end Symbolic

end ToolboxMcp
