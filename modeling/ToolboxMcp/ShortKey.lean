import ToolboxMcp.CrashSafety

/-!
# A key file that is no key

A process killed while it creates the key file leaves a beginning of the key.
Nothing repairs it: from then on, whatever is attempted and wherever it is
killed, a state file with secrets is neither read nor replaced, and one without
never gets any.
-/

namespace ToolboxMcp

open Effect Stoppable

section Files

variable [SecretLibrary] [StateText]

open SecretLibrary StateText

omit [SecretLibrary] [StateText] in
theorem hasSecrets_canonical (record : ToolsetRecord) :
    hasSecrets record.canonical = hasSecrets record := by
  have sorted : (sortKeys record.transport.env).isEmpty =
      record.transport.env.isEmpty :=
    (sortKeys_perm record.transport.env).isEmpty_eq
  exact congrArg (!record.transport.args.isEmpty || !·) sorted

/-- In an envelope or in plaintext. -/
def StoredToolset.Secret (stored : StoredToolset) : Prop :=
  stored.envelope.isSome ∨ hasSecrets stored.record = true

omit [StateText] in
/-- Sorting keys neither adds secrets nor removes them. -/
theorem StoredToolset.Secret.of_alike {stored other : StoredToolset}
    (secret : stored.Secret) (alike : other.canonical = stored.canonical) :
    other.Secret := by
  obtain ⟨recordSame, envelopeSame⟩ := StoredToolset.mk.inj alike
  rcases secret with enveloped | plaintext
  · exact .inl (envelopeSame ▸ enveloped)
  · refine .inr ?_
    rw [← hasSecrets_canonical, recordSame, hasSecrets_canonical]
    exact plaintext

omit [StateText] in
/-- An entry that is read was written, up to the order of keys. -/
theorem exists_written {payload read : StoredDocument}
    (same : read.canonical = payload.canonical) {stored : StoredToolset}
    (member : stored ∈ read.toolsets) :
    ∃ written ∈ payload.toolsets, written.canonical = stored.canonical := by
  have toolsets : read.toolsets.map StoredToolset.canonical =
      payload.toolsets.map StoredToolset.canonical :=
    congrArg StoredDocument.toolsets same
  have there : stored.canonical ∈
      read.toolsets.map StoredToolset.canonical :=
    List.mem_map_of_mem member
  rw [toolsets] at there
  exact List.mem_map.mp there

namespace Disk

/-- The state file has a transport with secrets. -/
def Secret (disk : Disk) : Prop :=
  ∃ text payload,
    disk.state = some text ∧ StateText.loads text = .ok payload ∧
      ∃ stored ∈ payload.toolsets, stored.Secret

/-- The key file has another length than a key. -/
def Broken (disk : Disk) : Prop :=
  ∃ key, disk.key = some key ∧ key.length ≠ 32

variable {disk : Disk} {journal : Journal Disk} {document : StateDocument}
  {post : Journal Disk → Prop}

theorem loadOrCreateKey_broken (broken : journal.now.Broken) {α : Type}
    {next : List UInt8 → DiskM α} {returned : α → Journal Disk → Prop} :
    wp (Disk.loadOrCreateKey >>= next) returned
      (fun _ after => after = journal) journal := by
  obtain ⟨key, held, short⟩ := broken
  unfold Disk.loadOrCreateKey
  simp only [wp_bind, wp_look, held, if_neg short, wp_throw]

/-- Without Windows every envelope needs the key. -/
theorem restoreTransport_broken (unix : win32 = false)
    (broken : journal.now.Broken) (stored : StoredToolset) :
    wp (Disk.restoreTransport stored)
      (fun record after =>
        after = journal ∧ stored.envelope = none ∧ record = stored.record)
      (fun _ after => after = journal) journal := by
  unfold Disk.restoreTransport
  cases stored.envelope with
  | none =>
      exact ⟨rfl, rfl, rfl⟩
  | some envelope =>
      simp only
      rw [wp_bind, wp_fromExcept]
      cases named : providerForEnvelope envelope with
      | error exception =>
          rfl
      | ok provider =>
          cases provider with
          | windowsDpapi =>
              unfold providerForEnvelope at named
              simp only [unix, Bool.false_eq_true, if_false] at named
              split at named
              · cases named
              · split at named <;> cases named
          | localAesgcm =>
              simp only
              rw [wp_bind]
              unfold Disk.revealBundle
              apply wp_mono (loadOrCreateKey_broken broken)
                (fun _ _ ends => ends) fun _ _ => id

theorem restoreAll_broken (unix : win32 = false)
    (broken : journal.now.Broken) (entries : List StoredToolset) :
    wp (entries.mapM Disk.restoreTransport)
      (fun records after =>
        after = journal ∧ (∀ stored ∈ entries, stored.envelope = none) ∧
          records = entries.map StoredToolset.record)
      (fun _ after => after = journal) journal := by
  induction entries with
  | nil =>
      exact ⟨rfl, fun stored member => absurd member List.not_mem_nil, rfl⟩
  | cons stored rest inductionHypothesis =>
      rw [List.mapM_cons, wp_bind]
      apply wp_mono (restoreTransport_broken unix broken stored)
      · rintro record _ ⟨rfl, plain, rfl⟩
        rw [wp_bind]
        apply wp_mono inductionHypothesis
        · rintro records _ ⟨rfl, plainRest, rfl⟩
          refine ⟨rfl, ?_, rfl⟩
          intro other member
          rcases List.mem_cons.mp member with same | later
          · rw [same]
            exact plain
          · exact plainRest other later
        · exact fun _ _ => id
      · exact fun _ _ => id

theorem protectAll_broken (unix : win32 = false)
    (broken : journal.now.Broken) (records : List ToolsetRecord) :
    wp (records.mapM Disk.protectTransport)
      (fun entries after =>
        after = journal ∧ (∀ record ∈ records, hasSecrets record = false) ∧
          entries = records.map fun record => { record := record })
      (fun _ after => after = journal) journal := by
  induction records with
  | nil =>
      exact ⟨rfl, fun record member => absurd member List.not_mem_nil, rfl⟩
  | cons record rest inductionHypothesis =>
      rw [List.mapM_cons, wp_bind]
      unfold Disk.protectTransport
      split
      · rw [wp_bind]
        unfold Disk.protectBundle currentProvider
        simp only [unix, Bool.false_eq_true, if_false]
        exact loadOrCreateKey_broken broken
      · rename_i bare
        rw [wp_pure, wp_bind]
        apply wp_mono inductionHypothesis
        · rintro entries _ ⟨rfl, bareRest, rfl⟩
          refine ⟨rfl, ?_, rfl⟩
          intro other member
          rcases List.mem_cons.mp member with same | later
          · rw [same]
            exact Bool.not_eq_true _ ▸ bare
          · exact bareRest other later
        · exact fun _ _ => id

/-! ## A file with secrets -/

omit [SecretLibrary] [StateText] in
/-- The validator keeps the transports. -/
theorem hasSecrets_of_mapM {records validated : List ToolsetRecord}
    (accepted : records.mapM validateScopePolicy = .ok validated)
    (bare : ∀ record ∈ validated, hasSecrets record = false) :
    ∀ record ∈ records, hasSecrets record = false := by
  induction records generalizing validated with
  | nil =>
      exact fun record member => absurd member List.not_mem_nil
  | cons record rest inductionHypothesis =>
      rw [List.mapM_cons, bind_eq_ok] at accepted
      obtain ⟨head, first, accepted⟩ := accepted
      obtain ⟨tail, later, returned⟩ := bind_eq_ok.mp accepted
      cases returned
      intro other member
      rcases List.mem_cons.mp member with same | earlier
      · obtain ⟨normalized, _⟩ := validateScopePolicy_eq_ok.mp first
        have headBare := bare head List.mem_cons_self
        rw [normalized] at headBare
        rw [same]
        exact headBare
      · exact inductionHypothesis later
          (fun stored member => bare stored (List.mem_cons_of_mem _ member))
          other earlier

omit [SecretLibrary] [StateText] in
theorem toolsets_of_validated {raw : StateDocument}
    (accepted : validated raw = .ok document) :
    raw.toolsets.mapM validateScopePolicy = .ok document.toolsets := by
  unfold validated StateDocument.validate at accepted
  cases checked : raw.toolsets.mapM validateScopePolicy with
  | error message =>
      rw [checked] at accepted
      cases accepted
  | ok records =>
      rw [checked] at accepted
      cases accepted
      rfl

/-- A document with secrets is not written. -/
theorem writeUnlocked_secret (unix : win32 = false)
    (broken : journal.now.Broken)
    (secret : ∃ record ∈ document.toolsets, hasSecrets record = true) :
    wp (Disk.writeUnlocked document) (fun _ _ => False)
      (fun _ after => after = journal) journal := by
  unfold Disk.writeUnlocked Disk.serializeDocument
  rw [wp_bind, wp_bind]
  apply wp_mono (protectAll_broken unix broken document.toolsets)
  · rintro entries _ ⟨rfl, bare, _⟩
    obtain ⟨record, member, has⟩ := secret
    rw [bare record member] at has
    cases has
  · exact fun _ _ => id

theorem load_secret (unix : win32 = false) (broken : journal.now.Broken)
    (secret : journal.now.Secret) :
    wp Disk.load (fun _ _ => False) (fun _ after => after = journal)
      journal := by
  obtain ⟨text, payload, shown, parsed, stored, member, has⟩ := secret
  unfold Disk.load Disk.ensure Disk.loadUnlocked Disk.restorePayload
  simp only [wp_bind, wp_look, shown, wp_pure, wp_fromExcept, parsed]
  apply wp_mono (restoreAll_broken unix broken payload.toolsets)
  · rintro records _ ⟨rfl, plain, rfl⟩
    have missing := plain stored member
    have plaintext : hasSecrets stored.record = true := by
      rcases has with enveloped | plaintext
      · rw [missing] at enveloped
        cases enveloped
      · exact plaintext
    have migrates : payload.toolsets.any needsMigration = true := by
      rw [List.any_eq_true]
      exact ⟨stored, member, by simp [needsMigration, missing, plaintext]⟩
    simp only [migrates, Bool.or_true, if_true, wp_bind]
    split
    · rename_i document accepted
      have kept : ∃ record ∈ document.toolsets, hasSecrets record = true := by
        by_contra none
        have bare : ∀ record ∈ document.toolsets,
            hasSecrets record = false := by
          intro record inside
          cases shown : hasSecrets record with
          | false => rfl
          | true => exact absurd ⟨record, inside, shown⟩ none
        have closed := hasSecrets_of_mapM (toolsets_of_validated accepted) bare
          stored.record (List.mem_map_of_mem member)
        rw [plaintext] at closed
        cases closed
      apply wp_mono (writeUnlocked_secret unix broken kept)
      · exact fun _ _ => False.elim
      · exact fun _ _ => id
    · trivial
  · exact fun _ _ => id

/-- With secrets in the state file nothing is done at all. -/
theorem perform_secret (unix : win32 = false) (broken : disk.Broken)
    (secret : disk.Secret) (limit : Nat) (action : Store.Action) :
    wp (Disk.perform limit action) (fun _ _ => False)
      (fun _ after => after = ⟨disk, []⟩) ⟨disk, []⟩ := by
  have refused : wp Disk.load (fun _ _ => False)
      (fun _ after => after = ⟨disk, []⟩) ⟨disk, []⟩ :=
    load_secret unix broken secret
  cases action with
  | mutate mutation =>
      unfold Disk.perform Disk.mutate
      rw [wp_bind, wp_bind]
      exact wp_mono refused (fun _ _ => False.elim) fun _ _ => id
  | reload =>
      unfold Disk.perform
      rw [wp_bind]
      exact wp_mono refused (fun _ _ => False.elim) fun _ _ => id

/-! ## A file without secrets -/

/-- The key file is this one, and the state file has no secrets. -/
structure Shut (key : List UInt8) (disk : Disk) : Prop where
  held : disk.key = some key
  bare : ¬ disk.Secret

variable {key : List UInt8} {left : Disk}

theorem Shut.broken (shut : disk.Shut key) (short : key.length ≠ 32) :
    disk.Broken :=
  ⟨key, shut.held, short⟩

theorem Shut.aside (shut : disk.Shut key) (aside : Aside disk left) :
    left.Shut key where
  held := by
    rcases aside.key with same | ⟨missing, _⟩
    · exact same.trans shut.held
    · rw [shut.held] at missing
      cases missing
  bare := by
    rintro ⟨text, payload, shown, secret⟩
    rw [aside.state] at shown
    exact shut.bare ⟨text, payload, shown, secret⟩

theorem writeUnlocked_shut (unix : win32 = false) (short : key.length ≠ 32)
    (reads : StateText.Inverts) (within : journal.Within (Shut key)) :
    wp (Disk.writeUnlocked document)
      (fun _ after => after.Within (Shut key))
      (fun _ after => after.Within (Shut key)) journal := by
  unfold Disk.writeUnlocked Disk.serializeDocument
  rw [wp_bind, wp_bind]
  apply wp_mono
    (protectAll_broken unix (within.now.broken short) document.toolsets)
  · rintro entries _ ⟨rfl, bare, rfl⟩
    rw [wp_pure, wp_bind]
    apply writeTemp_rule within fun _ aside => within.now.aside aside
    intro begun now withinBegun
    apply replaceState_rule withinBegun (by rw [now])
    · refine ⟨withinBegun.now.held, ?_⟩
      rintro ⟨text, payload, shown, parsed, stored, member, secret⟩
      cases shown
      obtain ⟨read, held, same⟩ := reads _
      rw [held] at parsed
      cases parsed
      obtain ⟨written, among, alike⟩ := exists_written same member
      obtain ⟨record, inside, rfl⟩ := List.mem_map.mp among
      rcases secret.of_alike alike with enveloped | plaintext
      · cases enveloped
      · rw [bare record inside] at plaintext
        cases plaintext
    · exact fun _ _ ends => ends
  · rintro _ _ rfl
    exact within

theorem load_shut (unix : win32 = false) (short : key.length ≠ 32)
    (reads : StateText.Inverts) (within : journal.Within (Shut key)) :
    wp Disk.load (fun _ after => after.Within (Shut key))
      (fun _ after => after.Within (Shut key)) journal := by
  unfold Disk.load
  rw [wp_bind]
  have ensures : wp Disk.ensure (fun _ after => after.Within (Shut key))
      (fun _ after => after.Within (Shut key)) journal := by
    unfold Disk.ensure
    rw [wp_bind, wp_look]
    split
    · exact within
    · exact writeUnlocked_shut unix short reads within
  apply wp_mono ensures
  · intro _ ensured there
    unfold Disk.loadUnlocked
    rw [wp_bind, wp_look]
    split
    · exact there
    · rw [wp_bind, wp_fromExcept]
      split
      · unfold Disk.restorePayload
        rw [wp_bind, wp_bind]
        apply wp_mono (restoreAll_broken unix (there.now.broken short) _)
        · rintro records _ ⟨rfl, _, _⟩
          rw [wp_pure]
          simp only
          rw [wp_bind, wp_fromExcept]
          split
          · split
            · rw [wp_bind]
              exact writeUnlocked_shut unix short reads there
            · exact there
          · exact there
        · rintro _ _ rfl
          exact there
      · exact there
  · exact fun _ _ => id

theorem perform_shut (unix : win32 = false) (short : key.length ≠ 32)
    (reads : StateText.Inverts) (limit : Nat) (action : Store.Action)
    (shut : disk.Shut key) :
    (record (Disk.perform limit action) disk).Within (Shut key) := by
  have loads : wp Disk.load (fun _ after => after.Within (Shut key))
      (fun _ after => after.Within (Shut key)) ⟨disk, []⟩ :=
    load_shut unix short reads (Journal.within_start shut)
  apply final_of_wp
  cases action with
  | mutate mutation =>
      unfold Disk.perform Disk.mutate
      rw [wp_bind, wp_bind]
      apply wp_mono loads
      · intro document middle there
        rw [wp_bind]
        exact writeUnlocked_shut unix short reads there
      · exact fun _ _ => id
  | reload =>
      unfold Disk.perform
      rw [wp_bind]
      exact loads

/-! ## Runs -/

/-- A broken key file stays.  With secrets in the state file every operation
raises and the files stay as they are, and without secrets in it none get
there. -/
theorem broken_key_lasts (unix : win32 = false) (reads : StateText.Inverts)
    {limit : Nat} {final : Disk} {attempts : List (Attempt Store.Action)}
    (broken : disk.Broken)
    (reaches :
      Reaches (attempting (Disk.perform limit)) (fun _ _ => True)
        (disk, []) (final, attempts)) :
    final.key = disk.key ∧
      (disk.Secret →
        final = disk ∧
          ∀ action, ∃ exception,
            (outcome (Disk.perform limit action) ⟨final, []⟩).1 =
              .error exception) ∧
      (¬ disk.Secret → ¬ final.Secret) := by
  by_cases secret : disk.Secret
  · have refused := perform_secret unix broken secret limit
    have passes : ∀ action state, state = disk →
        (record (Disk.perform limit action) state).Within
          fun left => left = disk := by
      rintro action state rfl
      rcases wp_cases (refused action) with
        ⟨_, _, _, impossible⟩ | ⟨exception, after, computed, rfl⟩
      · exact impossible.elim
      · unfold record
        rw [computed]
        exact Journal.within_start rfl
    have stays := holds_of_attempts passes rfl reaches
    refine ⟨congrArg Disk.key stays, fun _ => ⟨stays, ?_⟩, absurd secret⟩
    intro action
    rw [stays]
    rcases wp_cases (refused action) with
      ⟨_, _, _, impossible⟩ | ⟨exception, after, computed, _⟩
    · exact impossible.elim
    · exact ⟨exception, by rw [computed]⟩
  · obtain ⟨key, held, short⟩ := broken
    have shut : final.Shut key :=
      holds_of_attempts
        (fun action state holds =>
          perform_shut unix short reads limit action holds)
        ⟨held, secret⟩ reaches
    exact ⟨shut.held.trans held.symm, fun has => absurd has secret,
      fun _ => shut.bare⟩

end Disk

end Files

namespace Symbolic

open scoped Symbolic

/-- What is left when the process is killed while it creates the key for its
first secret. -/
def keyBegun : Disk where
  state := some [some { version := some 2 }, none]
  key := some [0]
  draws := 1

theorem broken_key_lasts_killed :
    keyBegun ∈ Attempt.leaves (Disk.perform 250) {}
        (.stopped (.mutate (.upsertToolset secretToolset)) 7) ∧
      ∃ final,
        Reaches (attempting (Disk.perform 250)) (fun _ _ => True)
          (keyBegun, [])
          (final, [.finished (.mutate (.upsertToolset secretToolset))]) ∧
        final.key = keyBegun.key ∧ ¬ final.Secret := by
  have reaches := reaches_attempt
    (.start :
      Reaches (attempting (Disk.perform 250)) (fun _ _ => True)
        (keyBegun, []) (keyBegun, []))
    (.finished (.mutate (.upsertToolset secretToolset))) trivial rfl
  have broken : keyBegun.Broken := ⟨_, rfl, by decide⟩
  have bare : ¬ keyBegun.Secret := by
    rintro ⟨text, payload, shown, parsed, stored, member, _⟩
    cases shown
    cases parsed
    cases member
  obtain ⟨key, _, without⟩ :=
    Disk.broken_key_lasts rfl text_inverts broken reaches
  exact ⟨rfl, _, reaches, key, without bare⟩

end Symbolic

end ToolboxMcp
