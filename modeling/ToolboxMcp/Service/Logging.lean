import ToolboxMcp.Service.Stretches

/-!
# What the operations append to the audit log

`Logs` says of a program which events it appends while the store works; it
composes along the appends.  No stretch that ends at an await has appended
anything, and one that ends a block has appended what its entries stand for.
-/

namespace ToolboxMcp

open Effect

/-! ## Appended events -/

/-- An event without its time, number and details. -/
structure AuditMark where
  operation : AuditOperation
  outcome : AuditOutcome
  ns : Option Namespace
deriving DecidableEq, Repr

def StoredAuditEvent.mark (event : StoredAuditEvent) : AuditMark :=
  ⟨event.operation, event.outcome, event.ns⟩

/-- The log and the number of the next event. -/
def StateDocument.trail (document : StateDocument) :
    List StoredAuditEvent × Nat :=
  (document.auditLog, document.nextAuditSequence)

def appendTrail (limit : Nat) (trail : List StoredAuditEvent × Nat)
    (event : StoredAuditEvent) : List StoredAuditEvent × Nat :=
  let log := trail.1 ++ [{ event with sequence := trail.2 }]
  (if limit < log.length then sliceFromEnd limit log else log, trail.2 + 1)

@[simp]
theorem trail_appendAuditEvent (limit : Nat) (document : StateDocument)
    (event : StoredAuditEvent) :
    (document.appendAuditEvent limit event).trail =
      appendTrail limit document.trail event :=
  rfl

/-- Events with these marks were appended in this order, and nothing else has
happened to the log. -/
structure Appended (marks : List AuditMark) (before after : World) : Prop where
  reliable : before.Reliable → after.Reliable
  trail :
    ∃ events : List StoredAuditEvent,
      events.map StoredAuditEvent.mark = marks ∧
        after.document.trail =
          events.foldl (appendTrail defaultAuditRetentionLimit)
            before.document.trail

section Appending

variable {marks more : List AuditMark} {before middle after world : World}

theorem Appended.of_same (faults : after.writeFaults = before.writeFaults)
    (document : after.document = before.document) :
    Appended [] before after where
  reliable reliable := by
    unfold World.Reliable
    rw [faults]
    exact reliable
  trail := ⟨[], rfl, by rw [document]; rfl⟩

theorem Appended.refl (world : World) : Appended [] world world :=
  .of_same rfl rfl

theorem Appended.trans (first : Appended marks before middle)
    (second : Appended more middle after) :
    Appended (marks ++ more) before after where
  reliable := second.reliable ∘ first.reliable
  trail := by
    obtain ⟨events, named, same⟩ := first.trail
    obtain ⟨others, alike, later⟩ := second.trail
    refine ⟨events ++ others, ?_, ?_⟩
    · rw [List.map_append, named, alike]
    · rw [List.foldl_append, ← same, later]

/-- Every appended event takes a number. -/
theorem Appended.length (appended : Appended marks before after) :
    after.document.nextAuditSequence =
      before.document.nextAuditSequence + marks.length := by
  obtain ⟨events, rfl, same⟩ := appended.trail
  have counts : ∀ (events : List StoredAuditEvent) trail,
      (events.foldl (appendTrail defaultAuditRetentionLimit) trail).2 =
        trail.2 + events.length := by
    intro events
    induction events with
    | nil => exact fun _ => rfl
    | cons event events inductionHypothesis =>
        intro trail
        rw [List.foldl_cons, inductionHypothesis, List.length_cons]
        simp only [appendTrail]
        omega
  have sequence := congrArg Prod.snd same
  rw [counts] at sequence
  rw [List.length_map]
  exact sequence

end Appending

/-! ## Programs -/

variable {α β : Type}

/-- With a working store, the program returns or raises having appended such
events. -/
def Logs (program : ServiceM α) (post : α → List AuditMark → Prop)
    (raised : List AuditMark → Prop) : Prop :=
  ∀ world : World, world.Reliable →
    wp program
      (fun value after =>
        ∃ marks, Appended marks world after ∧ post value marks)
      (fun _ after => ∃ marks, Appended marks world after ∧ raised marks) world

/-- It returns and appends nothing. -/
def Unlogged (program : ServiceM α) : Prop :=
  Logs program (fun _ marks => marks = []) fun _ => False

section Rules

variable {first : ServiceM α} {next : α → ServiceM β}
  {post : β → List AuditMark → Prop} {raised : List AuditMark → Prop}

theorem logs_bind {middle : α → List AuditMark → Prop}
    {early : List AuditMark → Prop}
    (begins : Logs first middle early)
    (raises : ∀ marks, early marks → raised marks)
    (continues : ∀ value marks, middle value marks →
      Logs (next value) (fun result more => post result (marks ++ more))
        fun more => raised (marks ++ more)) :
    Logs (first >>= next) post raised := by
  intro world reliable
  rw [wp_bind]
  apply wp_mono (begins world reliable)
  · rintro value between ⟨marks, appended, holds⟩
    apply wp_mono (continues value marks holds between
      (appended.reliable reliable))
    · rintro result after ⟨more, further, ends⟩
      exact ⟨marks ++ more, appended.trans further, ends⟩
    · rintro exception after ⟨more, further, ends⟩
      exact ⟨marks ++ more, appended.trans further, ends⟩
  · rintro exception after ⟨marks, appended, ends⟩
    exact ⟨marks, appended, raises marks ends⟩

theorem logs_pure {value : β} (holds : post value []) :
    Logs (pure value) post raised :=
  fun world _ => ⟨[], .refl world, holds⟩

theorem logs_throw {exception : Raised} (holds : raised []) :
    Logs (throw exception) post raised :=
  fun world _ => ⟨[], .refl world, holds⟩

/-- A silent step changes nothing for the rest. -/
theorem Unlogged.bind (silent : Unlogged first)
    (continues : ∀ value, Logs (next value) post raised) :
    Logs (first >>= next) post raised := by
  apply logs_bind silent
  · exact fun _ never => never.elim
  · rintro value _ rfl
    exact continues value

theorem logs_get {next : World → ServiceM β}
    (continues : ∀ world, Logs (next world) post raised) :
    Logs (get >>= next) post raised := by
  have silent : Unlogged (get : ServiceM World) :=
    fun world _ => ⟨[], .refl world, rfl⟩
  exact silent.bind continues

/-- An update of the state that is not one of the document. -/
theorem logs_update {change : World → World}
    {next : World → PUnit → ServiceM β}
    (faults : ∀ world, (change world).writeFaults = world.writeFaults)
    (document : ∀ world, (change world).document = world.document)
    (continues : ∀ world, Logs (next world ()) post raised) :
    Logs (get >>= fun world => set (change world) >>= next world)
      post raised := by
  intro world reliable
  rw [wp_bind, wp_get, wp_bind, wp_set]
  have updated : Appended [] world (change world) :=
    .of_same (faults world) (document world)
  apply wp_mono (continues world _ (updated.reliable reliable))
  · rintro result after ⟨marks, appended, ends⟩
    exact ⟨marks, updated.trans appended, ends⟩
  · rintro exception after ⟨marks, appended, ends⟩
    exact ⟨marks, updated.trans appended, ends⟩

theorem Logs.mono {program : ServiceM β}
    {post' : β → List AuditMark → Prop} {raised' : List AuditMark → Prop}
    (logs : Logs program post raised)
    (normal : ∀ value marks, post value marks → post' value marks)
    (exceptional : ∀ marks, raised marks → raised' marks) :
    Logs program post' raised' := by
  intro world reliable
  apply wp_mono (logs world reliable)
  · rintro value after ⟨marks, appended, ends⟩
    exact ⟨marks, appended, normal value marks ends⟩
  · rintro exception after ⟨marks, appended, ends⟩
    exact ⟨marks, appended, exceptional marks ends⟩

theorem logs_tryExcept {program : ServiceM α}
    {post : α → List AuditMark → Prop} {early : List AuditMark → Prop}
    (logs : Logs program post early) :
    Logs (tryExcept program)
      (fun result marks =>
        match result with
        | .ok value => post value marks
        | .error _ => early marks)
      early := by
  intro world reliable
  rw [wp_tryExcept]
  apply wp_mono (logs world reliable)
  · exact fun _ _ => id
  · intro exception after ends
    cases exception with
    | exception caught => exact ends
    | cancelled => exact ends

end Rules

/-! ## Effects -/

section Effects

theorem unlogged_storeWrite {change : StateDocument → StateDocument}
    (keeps : ∀ document, (change document).trail = document.trail) :
    Unlogged (storeWrite change) := by
  intro world reliable
  rw [wp_storeWrite, reliable.nextFault]
  exact ⟨[], ⟨fun faultless => faultless.write change, [], rfl,
    keeps world.document⟩, rfl⟩

theorem unlogged_upsertToolset (record : ToolsetRecord) :
    Unlogged (upsertToolset record) :=
  unlogged_storeWrite fun _ => rfl

theorem unlogged_replaceSchemaSnapshot (snapshot : SchemaSnapshot) :
    Unlogged (replaceSchemaSnapshot snapshot) :=
  unlogged_storeWrite fun _ => rfl

theorem unlogged_utcNow : Unlogged utcNow := by
  intro world reliable
  rw [wp_utcNow]
  exact ⟨[], .of_same rfl rfl, rfl⟩

theorem unlogged_modify {change : World → World}
    (faults : ∀ world, (change world).writeFaults = world.writeFaults)
    (document : ∀ world, (change world).document = world.document) :
    Unlogged (modify change : ServiceM PUnit) :=
  fun world _ => ⟨[], .of_same (faults world) (document world), rfl⟩

theorem unlogged_disconnect (ns : Namespace) : Unlogged (disconnect ns) := by
  intro world reliable
  rw [wp_disconnect]
  split
  · exact ⟨[], .of_same rfl rfl, rfl⟩
  · exact ⟨[], .refl world, rfl⟩

theorem unlogged_swapRuntime (ns : Namespace) (runtime : RuntimeId) :
    Unlogged (swapRuntime ns runtime) := by
  intro world reliable
  rw [wp_swapRuntime]
  split
  · exact ⟨[], .of_same rfl rfl, rfl⟩
  · exact ⟨[], .of_same rfl rfl, rfl⟩

/-- A close may raise. -/
theorem logs_finishClose {reply : Except Raised α} (closing : Closing) :
    Logs (finishClose closing reply) (fun _ marks => marks = [])
      fun marks => marks = [] := by
  intro world reliable
  rw [wp_finishClose]
  split
  · exact ⟨[], .of_same rfl rfl, rfl⟩
  · exact ⟨[], .of_same rfl rfl, rfl⟩

theorem logs_appendAuditEvent_self {operation : AuditOperation}
    {result : AuditOutcome} {ns : Option Namespace} {scope : Option Scope}
    {details : List (String × Json)} {error : Option ErrorInfo} :
    Logs (appendAuditEvent operation result ns scope details error)
      (fun _ marks => marks = [⟨operation, result, ns⟩])
      fun _ => False := by
  apply unlogged_utcNow.bind
  intro now world reliable
  rw [wp_storeWrite, reliable.nextFault]
  exact ⟨_, ⟨fun faultless => faultless.write _, [_], rfl, rfl⟩, rfl⟩

theorem logs_appendAuditEvent {operation : AuditOperation}
    {result : AuditOutcome} {ns : Option Namespace} {scope : Option Scope}
    {details : List (String × Json)} {error : Option ErrorInfo}
    {next : Unit → ServiceM β} {post : β → List AuditMark → Prop}
    {raised : List AuditMark → Prop}
    (continues :
      Logs (next ())
        (fun value more => post value (⟨operation, result, ns⟩ :: more))
        fun more => raised (⟨operation, result, ns⟩ :: more)) :
    Logs (appendAuditEvent operation result ns scope details error >>= next)
      post raised := by
  apply logs_bind logs_appendAuditEvent_self
  · exact fun _ never => never.elim
  · rintro _ _ rfl
    exact continues

end Effects

/-! ## What entries stand for -/

def Entry.subject : Entry → Option Namespace
  | .registered record => some record.ns
  | .activated result => some result.ns
  | .refreshed result => some result.ns
  | .deactivated ns _ _ => some ns
  | .restored result => some result.ns
  | .cleared result => some result.ns
  | .checked result => some result.ns
  | .marked ns _ => some ns
  | .unregistered ns => some ns
  | .skipped ns _ _ => some ns
  | .failed error => error.ns

/-- The operation whose success or check the entry reports. -/
def Entry.reports : Entry → Option AuditOperation
  | .registered _ => some .register
  | .activated _ => some .activate
  | .refreshed _ => some .refresh
  | .deactivated .. => some .deactivate
  | .restored _ => some .restore
  | .cleared _ => some .clearStale
  | .checked _ => some .healthCheck
  | .unregistered _ => some .unregister
  | .marked .. => none
  | .skipped .. => none
  | .failed _ => none

/-- The entry is in one of the lists of the operation's response. -/
def Entry.listedBy (audited : AuditOperation) : Entry → Prop
  | .skipped .. => True
  | .failed _ => True
  | entry => entry.reports = some audited

/-- The events that go with the entry. -/
def Entry.marks (audited : AuditOperation) : Entry → List AuditMark
  | .checked result =>
      [⟨audited, if result.status = .healthy then .success else .failure,
        some result.ns⟩]
  | .failed error => [⟨audited, .failure, error.ns⟩]
  | .skipped .. => []
  | .marked .. => []
  | entry => [⟨audited, .success, entry.subject⟩]

def Operation.audited : Operation → Option AuditOperation
  | .register .. => some .register
  | .activate .. => some .activate
  | .refresh .. => some .refresh
  | .deactivate .. => some .deactivate
  | .restore .. => some .restore
  | .checkHealth _ => some .healthCheck
  | .clearStale => some .clearStale
  | .markStale _ => none
  | .unregister _ => some .unregister

def Opening.audited : Opening → AuditOperation
  | .activate _ => .activate
  | .restore .. => .restore
  | .refresh .. => .refresh

def Stage.audited : Stage → AuditOperation
  | .opening purpose _ _ => purpose.audited
  | .swapping _ purpose _ _ => purpose.audited
  | .deactivating .. => .deactivate
  | .unregistering .. => .unregister
  | .probing .. => .healthCheck
  | .aborting .. => .healthCheck
  | .unhealthy .. => .healthCheck

/-- One entry for the namespace; unregistration also notes that it has
disconnected a runtime. -/
inductive Settles (audited : AuditOperation) (ns : Namespace) :
    List Entry → Prop where
  | one {entry : Entry} (listed : entry.listedBy audited)
      (subject : entry.subject = some ns) : Settles audited ns [entry]
  | disconnected {reason : String} {details : List (String × Json)}
      (unregisters : audited = .unregister) :
      Settles audited ns [.skipped ns reason details, .unregistered ns]

def Progress.Audited (audited : AuditOperation) (ns : Namespace)
    (marks : List AuditMark) : Progress → Prop
  | .inside stage => marks = [] ∧ stage.audited = audited
  | .left entries =>
      Settles audited ns entries ∧
        marks = entries.flatMap (Entry.marks audited)

/-- The body of an operation appends what its entries stand for. -/
abbrev Audits (audited : AuditOperation) (ns : Namespace)
    (program : ServiceM Progress) : Prop :=
  Logs program (fun progress marks => progress.Audited audited ns marks)
    fun _ => True

section Bodies

variable {ns : Namespace} {audited : AuditOperation}

theorem audits_one {entry : Entry} (listed : entry.listedBy audited)
    (subject : entry.subject = some ns)
    (silent : entry.marks audited = []) :
    Audits audited ns (pure (.left [entry])) :=
  logs_pure ⟨.one listed subject, by simp [silent]⟩

theorem audits_inside {stage : Stage} (serves : stage.audited = audited) :
    Audits audited ns (pure (.inside stage)) :=
  logs_pure ⟨rfl, serves⟩

theorem audits_rejected {scope : Option Scope} {error : ErrorInfo}
    (subject : error.ns = some ns) :
    Audits audited ns (rejected audited ns scope error) := by
  apply logs_appendAuditEvent
  refine logs_pure ⟨.one trivial subject, ?_⟩
  simp [Entry.marks, subject]

theorem audits_finishDeactivate {scope : Scope} {force : Bool}
    {record : ToolsetRecord} :
    Audits .deactivate ns (finishDeactivate ns scope force record) := by
  apply (unlogged_upsertToolset record).bind
  intro _
  apply logs_appendAuditEvent
  exact logs_pure ⟨.one rfl rfl, rfl⟩

theorem audits_startDeactivate {scope : Scope} {force : Bool} :
    Audits .deactivate ns (startDeactivate ns scope force) := by
  apply logs_get
  intro world
  split
  · exact audits_rejected rfl
  · split
    · exact audits_one trivial rfl rfl
    · split
      · exact audits_rejected rfl
      · dsimp only
        split
        · apply (unlogged_disconnect ns).bind
          intro closing
          split
          · exact audits_inside rfl
          · exact audits_finishDeactivate
        · exact audits_finishDeactivate

theorem audits_finishUnregister {force disconnected : Bool} :
    Audits .unregister ns (finishUnregister ns force disconnected) := by
  refine Unlogged.bind (unlogged_storeWrite fun _ => rfl) fun _ => ?_
  refine Unlogged.bind (unlogged_storeWrite fun _ => rfl) fun _ => ?_
  refine Unlogged.bind (unlogged_storeWrite fun _ => rfl) fun _ => ?_
  refine Unlogged.bind (unlogged_modify (fun _ => rfl) fun _ => rfl) fun _ => ?_
  apply logs_appendAuditEvent
  split
  · exact logs_pure ⟨.disconnected rfl, rfl⟩
  · exact logs_pure ⟨.one rfl rfl, rfl⟩

theorem audits_startUnregister {force : Bool} :
    Audits .unregister ns (startUnregister ns force) := by
  apply logs_get
  intro world
  split
  · exact audits_rejected rfl
  · split
    · exact audits_finishUnregister
    · split
      · exact audits_rejected rfl
      · split
        · exact audits_rejected rfl
        · apply (unlogged_disconnect ns).bind
          intro closing
          split
          · exact audits_inside rfl
          · exact audits_finishUnregister

theorem audits_startClearStale :
    Audits .clearStale ns (startClearStale ns) := by
  apply logs_get
  intro world
  split
  · exact audits_rejected rfl
  · split
    · exact audits_one trivial rfl rfl
    · apply (unlogged_upsertToolset _).bind
      intro _
      apply logs_appendAuditEvent
      exact logs_pure ⟨.one rfl rfl, rfl⟩

theorem audits_resumeDeactivating {closing : Closing} {scope : Scope}
    {force : Bool} {record : ToolsetRecord} {reply : Reply} :
    Audits .deactivate ns
      (resumeDeactivating ns closing scope force record reply) := by
  apply logs_bind (logs_finishClose closing)
  · exact fun _ _ => trivial
  · rintro _ _ rfl
    exact audits_finishDeactivate

theorem audits_resumeUnregistering {closing : Closing} {force : Bool}
    {reply : Reply} :
    Audits .unregister ns (resumeUnregistering ns closing force reply) := by
  apply logs_bind (logs_finishClose closing)
  · exact fun _ _ => trivial
  · rintro _ _ rfl
    exact audits_finishUnregister

/-! ## Health checks -/

theorem unlogged_recordRuntimeFailure {code message staleReason : String}
    {details : Option Json} :
    Unlogged (recordRuntimeFailure ns code message staleReason details) := by
  apply logs_get
  intro world
  split
  · exact logs_pure rfl
  · apply (unlogged_upsertToolset _).bind
    exact fun _ => logs_pure rfl

theorem logs_recordHealthObservation {status : HealthStatus}
    {hash : Option String} {count : Option Nat} {error : Option ErrorInfo} :
    Logs (recordHealthObservation ns status hash count error)
      (fun result marks =>
        marks = [] ∧ result.ns = ns ∧ result.status = status)
      fun marks => marks = [] := by
  apply logs_get
  intro world
  split
  · exact logs_throw rfl
  · apply unlogged_utcNow.bind
    intro now
    apply (unlogged_upsertToolset _).bind
    exact fun _ => logs_pure ⟨rfl, rfl, rfl⟩

/-- An observation, its event and its entry. -/
theorem audits_checked {result : HealthCheckResult}
    (subject : result.ns = ns) {status : AuditOutcome}
    (same :
      status = if result.status = .healthy then .success else .failure)
    {scope : Option Scope} {details : List (String × Json)}
    {error : Option ErrorInfo} :
    Audits .healthCheck ns (do
      appendAuditEvent .healthCheck status (some ns) scope details error
      return .left [.checked result]) := by
  apply logs_appendAuditEvent
  refine logs_pure ⟨.one rfl (congrArg some subject), ?_⟩
  simp [Entry.marks, subject, same]

variable {scope : Option Scope} {record : ToolsetRecord}

theorem audits_reportUnhealthy {status : HealthStatus}
    {code message staleReason : String} {drift : List (String × Json)}
    {observed : Option (String × Nat)} (unhealthy : status ≠ .healthy) :
    Audits .healthCheck ns
      (reportUnhealthy ns scope record status code message staleReason drift
        observed) := by
  apply unlogged_recordRuntimeFailure.bind
  intro error
  apply logs_bind logs_recordHealthObservation
  · exact fun _ _ => trivial
  · rintro result _ ⟨rfl, subject, rfl⟩
    exact audits_checked subject (by rw [if_neg unhealthy])

theorem audits_startCheckHealth :
    Audits .healthCheck ns (startCheckHealth ns scope) := by
  apply logs_get
  intro world
  split
  · exact audits_rejected rfl
  · split
    · exact audits_one trivial rfl rfl
    · split
      · exact audits_one trivial rfl rfl
      · split
        · exact audits_inside rfl
        · exact audits_reportUnhealthy (by simp)

theorem audits_probeFailed {exception : PyException} :
    Audits .healthCheck ns (probeFailed ns scope record exception) := by
  apply (unlogged_disconnect ns).bind
  intro closing
  split
  · exact audits_inside rfl
  · exact audits_reportUnhealthy (by simp)

theorem audits_resumeUnhealthy {closing : Closing} {exception : PyException}
    {reply : Reply} :
    Audits .healthCheck ns
      (resumeUnhealthy ns closing scope record exception reply) := by
  apply logs_bind (logs_finishClose closing)
  · exact fun _ _ => trivial
  · rintro _ _ rfl
    exact audits_reportUnhealthy (by simp)

variable [Platform]

theorem audits_probeAnswered {normalized : List ToolSchema} :
    Audits .healthCheck ns (probeAnswered ns scope record normalized) := by
  unfold probeAnswered
  dsimp only
  split
  · exact audits_reportUnhealthy (by simp)
  · apply logs_bind logs_recordHealthObservation
    · exact fun _ _ => trivial
    · rintro result _ ⟨rfl, subject, healthy⟩
      exact audits_checked subject (by rw [if_pos healthy])

theorem audits_resumeProbing {runtime : RuntimeId} {reply : Reply} :
    Audits .healthCheck ns
      (resumeProbing ns scope record runtime reply) := by
  unfold resumeProbing
  split
  · split
    · exact audits_probeAnswered
    · exact audits_probeFailed
  · split
    · refine Unlogged.bind (unlogged_modify (fun _ => rfl) fun _ => rfl) ?_
      exact fun _ => audits_inside rfl
    · exact audits_probeFailed
  · exact logs_throw trivial

omit [Platform] in
theorem audits_resumeAborting {runtime : RuntimeId} {reply : Reply} :
    Audits .healthCheck ns
      (resumeAborting ns scope record runtime reply) := by
  refine logs_update (fun _ => rfl) (fun _ => rfl) fun world => ?_
  split
  · exact logs_throw trivial
  · exact audits_probeFailed

/-! ## Openings -/

variable {opening : Opening} {snapshot : SchemaSnapshot}

theorem listedBy_completedEntry :
    (opening.completedEntry ns record snapshot).listedBy opening.audited ∧
      (opening.completedEntry ns record snapshot).subject = some ns ∧
      (opening.completedEntry ns record snapshot).marks opening.audited =
        [⟨opening.audited, .success, some ns⟩] := by
  cases opening <;> exact ⟨rfl, rfl, rfl⟩

omit [Platform] in
theorem unlogged_announce : Unlogged (opening.announce record) := by
  cases opening with
  | refresh scope previousTools oldHash => exact logs_pure rfl
  | activate scope => exact unlogged_upsertToolset _
  | restore candidates startup => exact unlogged_upsertToolset _

omit [Platform] in
theorem logs_auditFailure {error : ErrorInfo} :
    Logs (opening.auditFailure ns record error)
      (fun _ marks => marks = [⟨opening.audited, .failure, some ns⟩])
      fun _ => False := by
  cases opening <;>
    exact logs_appendAuditEvent_self

theorem logs_auditSuccess :
    Logs (opening.auditSuccess ns record snapshot)
      (fun _ marks => marks = [⟨opening.audited, .success, some ns⟩])
      fun _ => False := by
  cases opening <;>
    exact logs_appendAuditEvent_self

omit [Platform] in
theorem logs_failed {exception : PyException} :
    Logs (opening.failed ns record exception)
      (fun entries marks =>
        Settles opening.audited ns entries ∧
          marks = entries.flatMap (Entry.marks opening.audited))
      fun _ => False := by
  have subject : (opening.failure ns exception).ns = some ns := by
    cases opening <;> rfl
  apply logs_get
  intro world
  apply (unlogged_upsertToolset _).bind
  intro _
  apply logs_bind logs_auditFailure
  · exact fun _ => id
  · rintro _ _ rfl
    refine logs_pure ⟨.one trivial subject, ?_⟩
    simp [Entry.marks, subject]

omit [Platform] in
/-- What the handler reports ends the block. -/
theorem audits_failed {exception : PyException} :
    Audits opening.audited ns (do
      return .left (← opening.failed ns record exception)) := by
  apply logs_bind logs_failed
  · exact fun _ => False.elim
  · rintro entries marks ⟨settles, rfl⟩
    exact logs_pure ⟨settles, List.append_nil _⟩

theorem audits_complete :
    Audits opening.audited ns (opening.complete ns record snapshot) := by
  unfold Opening.complete
  apply unlogged_utcNow.bind
  intro now
  have stores :
      Unlogged (do
        upsertToolset (opening.completedRecord record snapshot now)
        replaceSchemaSnapshot snapshot) :=
    (unlogged_upsertToolset _).bind fun _ => unlogged_replaceSchemaSnapshot _
  apply logs_bind (logs_tryExcept stores)
  · exact fun _ => False.elim
  · rintro (exception | _) marks ends
    · exact ends.elim
    · cases ends
      apply logs_bind (logs_tryExcept logs_auditSuccess)
      · exact fun _ => False.elim
      · rintro (exception | _) marks ends
        · exact ends.elim
        · cases ends
          obtain ⟨listed, subject, marks⟩ := listedBy_completedEntry
          refine logs_pure ⟨.one listed subject, ?_⟩
          rw [List.flatMap_singleton, marks]
          rfl

omit [Platform] in
theorem audits_begin :
    Audits opening.audited ns (opening.begin ns record) := by
  unfold Opening.begin
  apply logs_bind (logs_tryExcept unlogged_announce)
  · exact fun _ => False.elim
  · rintro (exception | _) marks ends
    · exact ends.elim
    · cases ends
      refine logs_update (fun _ => rfl) (fun _ => rfl) fun world => ?_
      exact audits_inside rfl

theorem logs_landRuntime {runtime : RuntimeId} {reply : Reply} :
    Logs (landRuntime ns runtime reply) (fun _ marks => marks = [])
      fun marks => marks = [] := by
  intro world reliable
  unfold landRuntime
  rw [wp_bind, wp_get]
  split
  · exact ⟨[], .refl world, rfl⟩
  · exact ⟨[], .of_same rfl rfl, rfl⟩
  · rename_i tools normalized bootstrapped
    have landed : Appended [] world (world.setTools runtime tools) :=
      .of_same rfl rfl
    have lands :
        Unlogged (do
          let snapshot ← buildSnapshot ns normalized
          return (snapshot, ← swapRuntime ns runtime)) := by
      refine Unlogged.bind (unlogged_utcNow.bind fun _ => logs_pure rfl) ?_
      intro snapshot
      exact (unlogged_swapRuntime ns runtime).bind fun _ => logs_pure rfl
    rw [wp_bind, wp_set]
    apply wp_mono (lands _ (landed.reliable reliable))
    · rintro result after ⟨marks, appended, rfl⟩
      exact ⟨[], landed.trans appended, rfl⟩
    · rintro exception after ⟨marks, appended, never⟩
      exact never.elim

theorem audits_resumeOpening {runtime : RuntimeId} {reply : Reply} :
    Audits opening.audited ns
      (resumeOpening ns opening record runtime reply) := by
  unfold resumeOpening
  apply logs_bind (logs_tryExcept logs_landRuntime)
  · exact fun _ _ => trivial
  · rintro (exception | ⟨snapshot, closing | _⟩) marks ends
    · cases ends
      exact audits_failed
    · cases ends
      exact audits_complete
    · cases ends
      exact audits_inside rfl

theorem audits_resumeSwapping {closing : Closing} {reply : Reply} :
    Audits opening.audited ns
      (resumeSwapping ns closing opening record snapshot reply) := by
  unfold resumeSwapping
  apply logs_bind (logs_tryExcept (logs_finishClose closing))
  · exact fun _ _ => trivial
  · rintro (exception | _) marks ends
    · cases ends
      exact audits_failed
    · cases ends
      exact audits_complete

/-! ## The other openings -/

/-- The schema hash of a reused runtime may be missing. -/
theorem logs_knownSchemaHash {tools : List Tool} :
    Logs (knownSchemaHash ns record tools) (fun _ marks => marks = [])
      fun marks => marks = [] := by
  unfold knownSchemaHash
  split
  · exact logs_pure rfl
  · split
    · exact logs_pure rfl
    · exact logs_throw rfl

theorem audits_activateReusing {scope : Scope} {tools : List Tool} :
    Audits .activate ns (activateReusing ns scope record tools) := by
  apply unlogged_utcNow.bind
  intro now
  apply (unlogged_upsertToolset _).bind
  intro _
  apply logs_appendAuditEvent
  apply logs_bind logs_knownSchemaHash
  · exact fun _ _ => trivial
  · rintro hash _ rfl
    exact logs_pure ⟨.one rfl rfl, rfl⟩

theorem audits_startActivate {scope : Scope} {ifNotLoaded : Bool} :
    Audits .activate ns (startActivate ns scope ifNotLoaded) := by
  apply logs_get
  intro world
  split
  · exact audits_rejected rfl
  · split
    · exact audits_rejected rfl
    · split
      · exact audits_activateReusing
      · split
        · exact audits_one trivial rfl rfl
        · exact audits_begin

omit [Platform] in
theorem audits_startRefresh {ifStale : Bool} :
    Audits .refresh ns (startRefresh ns ifStale scope) := by
  apply logs_get
  intro world
  split
  · exact audits_rejected rfl
  · split
    · exact audits_one trivial rfl rfl
    · split
      · exact audits_one trivial rfl rfl
      · split
        · exact audits_one trivial rfl rfl
        · exact audits_begin

theorem audits_restoreReusing {missing : List Scope} {startup : Bool}
    {tools : List Tool} :
    Audits .restore ns (restoreReusing ns missing startup record tools) := by
  apply unlogged_utcNow.bind
  intro now
  apply (unlogged_upsertToolset _).bind
  intro _
  apply logs_bind logs_knownSchemaHash
  · exact fun _ _ => trivial
  · rintro hash _ rfl
    apply logs_appendAuditEvent
    exact logs_pure ⟨.one rfl rfl, rfl⟩

theorem audits_startRestore {stableHostIdentity startup : Bool} :
    Audits .restore ns (startRestore ns stableHostIdentity startup) := by
  apply logs_get
  intro world
  split
  · exact audits_rejected rfl
  · dsimp only
    split
    · exact audits_one trivial rfl rfl
    · split
      · split
        · exact audits_one trivial rfl rfl
        · exact audits_restoreReusing
      · exact audits_begin

theorem audits_startRegister {transport : ToolsetTransport}
    {registration : Registration} :
    Audits .register ns (startRegister ns transport registration) := by
  apply logs_get
  intro world
  split
  · exact audits_rejected rfl
  · split
    · exact audits_rejected rfl
    · rename_i record accepted
      have named := (toRecord_valid accepted).1
      apply (unlogged_upsertToolset _).bind
      intro _
      apply logs_appendAuditEvent
      refine logs_pure ⟨.one rfl (congrArg some named), ?_⟩
      rfl

/-! ## All operations -/

theorem audits_start {operation : Operation}
    (serves : operation.audited = some audited) :
    Audits audited ns (start operation ns) := by
  cases operation with
  | register transport registration =>
      cases serves
      exact audits_startRegister
  | activate scope ifNotLoaded =>
      cases serves
      exact audits_startActivate
  | refresh ifStale scope =>
      cases serves
      exact audits_startRefresh
  | deactivate scope force =>
      cases serves
      exact audits_startDeactivate
  | restore stableHostIdentity startup =>
      cases serves
      exact audits_startRestore
  | checkHealth scope =>
      cases serves
      exact audits_startCheckHealth
  | clearStale =>
      cases serves
      exact audits_startClearStale
  | markStale reason =>
      cases serves
  | unregister force =>
      cases serves
      exact audits_startUnregister

theorem audits_resume {stage : Stage} {reply : Reply} :
    Audits stage.audited ns (resume ns stage reply) := by
  cases stage with
  | opening purpose record runtime => exact audits_resumeOpening
  | swapping closing purpose record snapshot => exact audits_resumeSwapping
  | deactivating closing scope force record => exact audits_resumeDeactivating
  | unregistering closing force => exact audits_resumeUnregistering
  | probing scope record runtime => exact audits_resumeProbing
  | aborting scope record runtime => exact audits_resumeAborting
  | unhealthy closing scope record exception => exact audits_resumeUnhealthy

/-! ## Mounted calls -/

def callFailure (tool : MountedTool) : AuditMark :=
  ⟨.call, .failure, some tool.ns⟩

variable {tool : MountedTool} {exception : PyException}

omit [Platform] in
theorem logs_finishCallFailure :
    Logs (finishCallFailure tool exception) (fun _ _ => False)
      fun marks => marks = [callFailure tool] := by
  apply unlogged_recordRuntimeFailure.bind
  intro error
  apply logs_get
  intro world
  apply logs_appendAuditEvent
  exact logs_throw rfl

omit [Platform] in
/-- The handler has appended its event by the time it raises. -/
theorem logs_callFailed :
    Logs (callFailed tool exception)
      (fun progress marks =>
        marks = [] ∧
          ∃ closing, progress = .inside (.disconnecting closing exception))
      fun marks => marks = [callFailure tool] := by
  apply (unlogged_disconnect tool.ns).bind
  intro closing
  split
  · exact logs_pure ⟨rfl, _, rfl⟩
  · exact logs_finishCallFailure.mono (fun _ _ never => never.elim)
      fun _ => id

end Bodies

end ToolboxMcp
