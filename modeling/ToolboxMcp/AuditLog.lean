import Mathlib.Data.List.DropRight
import Mathlib.Data.List.Range
import ToolboxMcp.Registry

/-!
# The audit log over whole runs of the store

A store is its document on disk and the retention limit it was created with.
Its runs interleave the mutations with mutations that raise before the file is
replaced, with reads and with restarts of the process.  The history variable
`assigned` collects every event the run has numbered, also those the log has
dropped since.
-/

namespace ToolboxMcp

/-- The functions the store passes to `_mutate`. -/
inductive StoreMutation where
  | upsertToolset (record : ToolsetRecord)
  | deleteToolset (ns : Namespace)
  | upsertSchemaSnapshot (snapshot : SchemaSnapshot)
  | replaceSchemaSnapshot (snapshot : SchemaSnapshot)
  | deleteSchemaSnapshot (ns : Namespace)
  | deletePreviousSchemaSnapshot (ns : Namespace)
  | appendAuditEvent (event : StoredAuditEvent)

/-- One thing that happens to a store; `refused` is a mutation that raises,
and neither a read nor a restart of the process changes the file. -/
inductive StoreAction where
  | mutate (mutation : StoreMutation)
  | refused (mutation : StoreMutation)
  | load
  | restart

structure JsonStateStore where
  auditRetentionLimit : Nat
  document : StateDocument := {}
  assigned : List StoredAuditEvent := []

namespace StoreMutation

def apply (limit : Nat) (document : StateDocument) :
    StoreMutation → StateDocument
  | .upsertToolset record => document.upsertToolset record
  | .deleteToolset ns => document.deleteToolset ns
  | .upsertSchemaSnapshot snapshot => document.upsertSchemaSnapshot snapshot
  | .replaceSchemaSnapshot snapshot =>
      document.replaceSchemaSnapshot snapshot
  | .deleteSchemaSnapshot ns => document.deleteSchemaSnapshot ns
  | .deletePreviousSchemaSnapshot ns =>
      document.deletePreviousSchemaSnapshot ns
  | .appendAuditEvent event => document.appendAuditEvent limit event

/-- The event an append is about. -/
def event? : StoreMutation → Option StoredAuditEvent
  | .appendAuditEvent event => some event
  | _ => none

/-- The event with the number the document gives it. -/
def numbered? (document : StateDocument) (mutation : StoreMutation) :
    Option StoredAuditEvent :=
  mutation.event?.map fun event =>
    { event with sequence := document.nextAuditSequence }

end StoreMutation

/-- The events appended by the mutations that went through, in order. -/
def appendedEvents (actions : List StoreAction) : List StoredAuditEvent :=
  actions.filterMap fun
    | .mutate mutation => mutation.event?
    | _ => none

namespace JsonStateStore

def perform (store : JsonStateStore) : StoreAction → JsonStateStore
  | .mutate mutation =>
      { store with
        document := mutation.apply store.auditRetentionLimit store.document
        assigned :=
          store.assigned ++ (mutation.numbered? store.document).toList }
  | .refused _ => store
  | .load => store
  | .restart => store

def run (limit : Nat) (actions : List StoreAction) : JsonStateStore :=
  actions.foldl perform { auditRetentionLimit := limit }

/-- The events numbered from one in the order they were appended. -/
def numbered (events : List StoredAuditEvent) : List StoredAuditEvent :=
  events.mapIdx fun index event => { event with sequence := index + 1 }

/-- What is asked of the log once `events` have been appended. -/
structure KeepsLast
    (store : JsonStateStore) (events : List StoredAuditEvent) : Prop where
  retained :
    store.document.auditLog =
      (numbered events).rtake
        (min events.length store.auditRetentionLimit)
  consecutive :
    ∃ first,
      store.document.auditLog.map StoredAuditEvent.sequence =
        List.range' first store.document.auditLog.length ∧
      first + store.document.auditLog.length =
        store.document.nextAuditSequence
  newest : store.document.nextAuditSequence - 1 = events.length
  once : (store.assigned.map StoredAuditEvent.sequence).Nodup

/-! ## Numbering -/

@[simp]
theorem length_numbered (events : List StoredAuditEvent) :
    (numbered events).length = events.length := by
  simp [numbered]

theorem numbered_concat
    (events : List StoredAuditEvent) (event : StoredAuditEvent) :
    numbered (events ++ [event]) =
      numbered events ++ [{ event with sequence := events.length + 1 }] := by
  simp [numbered, List.mapIdx_append]

theorem sequence_numbered (events : List StoredAuditEvent) :
    (numbered events).map StoredAuditEvent.sequence =
      List.range' 1 events.length := by
  induction events using List.reverseRecOn with
  | nil =>
      rfl
  | append_singleton events event inductionHypothesis =>
      have last : [events.length + 1] = [1 + events.length] := by
        rw [Nat.add_comm]
      rw [numbered_concat, List.map_append, inductionHypothesis]
      simp only [List.map_cons, List.map_nil, List.length_append,
        List.length_singleton]
      rw [last, List.range'_concat]
      simp

/-! ## Windows at the end of a list -/

section Windows

variable {α : Type}

theorem sliceFromEnd_of_pos
    {count : Nat} (positive : 0 < count) (items : List α) :
    sliceFromEnd count items = items.rtake count := by
  rw [sliceFromEnd, if_neg (Nat.ne_of_gt positive)]
  rfl

theorem rtake_of_length_le
    {count : Nat} {items : List α} (short : items.length ≤ count) :
    items.rtake count = items := by
  have none : items.length - count = 0 := Nat.sub_eq_zero_of_le short
  rw [List.rtake, none, List.drop_zero]

theorem rtake_min_length (count : Nat) (items : List α) :
    items.rtake (min items.length count) = items.rtake count := by
  have same :
      items.length - min items.length count = items.length - count := by
    omega
  rw [List.rtake, List.rtake, same]

/-- Dropping what an append pushes out of the window gives the window of the
longer list. -/
theorem rtake_concat_rtake (count : Nat) (items : List α) (item : α) :
    (items.rtake count ++ [item]).rtake count =
      (items ++ [item]).rtake count := by
  cases count with
  | zero =>
      simp
  | succ count =>
      have shorter :
          (items.rtake (count + 1)).rtake count = items.rtake count := by
        have length :
            (items.rtake (count + 1)).length =
              min (count + 1) items.length := by
          simp only [List.rtake, List.length_drop]
          omega
        have sum :
            items.length - (count + 1) +
                ((items.rtake (count + 1)).length - count) =
              items.length - count := by
          omega
        rw [List.rtake, List.rtake, List.drop_drop, ← List.rtake, sum]
        rfl
      rw [List.rtake_concat_succ, List.rtake_concat_succ, shorter]

end Windows

/-! ## One mutation -/

section Mutations

variable (limit : Nat) (document : StateDocument)

/-- Only an append touches the log and the next number. -/
theorem apply_of_event?_eq_none
    {mutation : StoreMutation} (other : mutation.event? = none) :
    (mutation.apply limit document).auditLog = document.auditLog ∧
      (mutation.apply limit document).nextAuditSequence =
        document.nextAuditSequence := by
  cases mutation with
  | appendAuditEvent event =>
      cases other
  | _ =>
      exact ⟨rfl, rfl⟩

theorem apply_of_event?_eq_some
    {mutation : StoreMutation} {event : StoredAuditEvent}
    (appends : mutation.event? = some event) :
    mutation.apply limit document =
      document.appendAuditEvent limit event := by
  cases mutation with
  | appendAuditEvent appended =>
      have same : appended = event := Option.some.inj appends
      rw [same]
      rfl
  | _ =>
      cases appends

theorem auditLog_appendAuditEvent
    {limit : Nat} (positive : 0 < limit) (event : StoredAuditEvent) :
    (document.appendAuditEvent limit event).auditLog =
      (document.auditLog ++
        [{ event with sequence := document.nextAuditSequence }]).rtake
          limit := by
  simp only [StateDocument.appendAuditEvent]
  split
  · exact sliceFromEnd_of_pos positive _
  · rename_i short
    exact (rtake_of_length_le (Nat.le_of_not_lt short)).symm

/-- Without a limit to count from, the slice is the whole log. -/
theorem auditLog_appendAuditEvent_zero (event : StoredAuditEvent) :
    (document.appendAuditEvent 0 event).auditLog =
      document.auditLog ++
        [{ event with sequence := document.nextAuditSequence }] := by
  simp [StateDocument.appendAuditEvent, sliceFromEnd]

end Mutations

/-! ## Whole runs -/

theorem run_concat
    (limit : Nat) (actions : List StoreAction) (action : StoreAction) :
    run limit (actions ++ [action]) = (run limit actions).perform action := by
  simp [run]

theorem appendedEvents_concat
    (actions : List StoreAction) (action : StoreAction) :
    appendedEvents (actions ++ [action]) =
      appendedEvents actions ++ appendedEvents [action] := by
  simp [appendedEvents]

@[simp]
theorem auditRetentionLimit_perform
    (store : JsonStateStore) (action : StoreAction) :
    (store.perform action).auditRetentionLimit =
      store.auditRetentionLimit := by
  cases action <;> rfl

@[simp]
theorem auditRetentionLimit_run (limit : Nat) (actions : List StoreAction) :
    (run limit actions).auditRetentionLimit = limit := by
  induction actions using List.reverseRecOn with
  | nil =>
      rfl
  | append_singleton actions action inductionHypothesis =>
      rw [run_concat, auditRetentionLimit_perform, inductionHypothesis]

/-- How a run's store relates to the events appended so far. -/
structure Numbers
    (store : JsonStateStore) (events : List StoredAuditEvent) : Prop where
  next : store.document.nextAuditSequence = events.length + 1
  assigned : store.assigned = numbered events
  log :
    store.document.auditLog =
      if 0 < store.auditRetentionLimit then
        (numbered events).rtake store.auditRetentionLimit
      else
        numbered events

theorem Numbers.mutate
    {store : JsonStateStore} {events : List StoredAuditEvent}
    (numbers : store.Numbers events) (mutation : StoreMutation) :
    (store.perform (.mutate mutation)).Numbers
      (events ++ mutation.event?.toList) := by
  cases appends : mutation.event? with
  | none =>
      obtain ⟨sameLog, sameNext⟩ :=
        apply_of_event?_eq_none store.auditRetentionLimit store.document
          appends
      have same : events ++ (none : Option StoredAuditEvent).toList = events :=
        List.append_nil events
      rw [same]
      refine ⟨?_, ?_, ?_⟩
      · exact sameNext.trans numbers.next
      · simp only [perform, StoreMutation.numbered?, appends, Option.map_none,
          Option.toList_none, List.append_nil]
        exact numbers.assigned
      · exact sameLog.trans numbers.log
  | some event =>
      have applied :=
        apply_of_event?_eq_some store.auditRetentionLimit store.document
          appends
      have appended :
          numbered (events ++ [event]) =
            numbered events ++
              [{ event with
                  sequence := store.document.nextAuditSequence }] := by
        rw [numbered_concat, numbers.next]
      simp only [Option.toList_some]
      refine ⟨?_, ?_, ?_⟩
      · simp only [perform, applied, StateDocument.appendAuditEvent,
          numbers.next, List.length_append, List.length_singleton]
      · simp only [perform, StoreMutation.numbered?, appends, Option.map_some,
          Option.toList_some, numbers.assigned]
        exact appended.symm
      · simp only [perform, applied]
        have log := numbers.log
        by_cases positive : 0 < store.auditRetentionLimit
        · rw [if_pos positive] at log
          rw [if_pos positive, appended,
            auditLog_appendAuditEvent store.document positive, log]
          exact rtake_concat_rtake _ _ _
        · rw [if_neg positive] at log
          have zero : store.auditRetentionLimit = 0 :=
            Nat.eq_zero_of_not_pos positive
          rw [if_neg positive, appended, zero,
            auditLog_appendAuditEvent_zero, log]

theorem numbers_run (limit : Nat) (actions : List StoreAction) :
    (run limit actions).Numbers (appendedEvents actions) := by
  induction actions using List.reverseRecOn with
  | nil =>
      refine ⟨rfl, rfl, ?_⟩
      have empty : ([] : List StoredAuditEvent).rtake limit = [] := by
        simp
      by_cases positive : 0 < limit
      · simp [run, appendedEvents, numbered, positive]
      · simp [run, appendedEvents, numbered, positive]
  | append_singleton actions action inductionHypothesis =>
      rw [run_concat, appendedEvents_concat]
      cases action with
      | mutate mutation =>
          have one :
              appendedEvents [.mutate mutation] = mutation.event?.toList := by
            cases appends : mutation.event? with
            | none =>
                simp [appendedEvents, appends]
            | some event =>
                simp [appendedEvents, appends]
          rw [one]
          exact inductionHypothesis.mutate mutation
      | _ =>
          have same : appendedEvents actions ++ [] = appendedEvents actions :=
            List.append_nil _
          simpa [appendedEvents, perform] using inductionHypothesis

theorem Numbers.once
    {store : JsonStateStore} {events : List StoredAuditEvent}
    (numbers : store.Numbers events) :
    (store.assigned.map StoredAuditEvent.sequence).Nodup := by
  rw [numbers.assigned, sequence_numbered]
  exact List.nodup_range'

/-- A log that is a window on the numbered events has consecutive numbers up to
the last one assigned. -/
theorem Numbers.consecutive
    {store : JsonStateStore} {events : List StoredAuditEvent}
    (numbers : store.Numbers events) {count : Nat}
    (window : store.document.auditLog = (numbered events).rtake count) :
    ∃ first,
      store.document.auditLog.map StoredAuditEvent.sequence =
        List.range' first store.document.auditLog.length ∧
      first + store.document.auditLog.length =
        store.document.nextAuditSequence := by
  have length :
      store.document.auditLog.length =
        events.length - (events.length - count) := by
    rw [window]
    simp [List.rtake]
  refine ⟨1 + (events.length - count), ?_, ?_⟩
  · rw [length, window, List.rtake, length_numbered, List.map_drop,
      sequence_numbered, List.drop_range']
    simp
  · rw [length, numbers.next]
    omega

/-- The log is the window on the last `limit` events if and only if there is a
limit to count from or nothing was ever appended. -/
theorem keepsLast_iff (limit : Nat) (actions : List StoreAction) :
    (run limit actions).KeepsLast (appendedEvents actions) ↔
      0 < limit ∨ appendedEvents actions = [] := by
  have numbers := numbers_run limit actions
  have log := numbers.log
  rw [auditRetentionLimit_run] at log
  constructor
  · intro keeps
    by_cases positive : 0 < limit
    · exact Or.inl positive
    · right
      have zero : limit = 0 := Nat.eq_zero_of_not_pos positive
      have retained := keeps.retained
      rw [auditRetentionLimit_run, log, if_neg positive, zero, Nat.min_zero,
        List.rtake_zero] at retained
      have none : (numbered (appendedEvents actions)).length = 0 := by
        rw [retained]
        rfl
      rw [length_numbered] at none
      exact List.eq_nil_of_length_eq_zero none
  · intro condition
    have window :
        (run limit actions).document.auditLog =
          (numbered (appendedEvents actions)).rtake
            (min (appendedEvents actions).length
              (run limit actions).auditRetentionLimit) := by
      have same :=
        rtake_min_length limit (numbered (appendedEvents actions))
      rw [length_numbered] at same
      rw [auditRetentionLimit_run, same, log]
      rcases condition with positive | none
      · rw [if_pos positive]
      · rw [none]
        simp [numbered]
    refine ⟨window, numbers.consecutive window, ?_, numbers.once⟩
    rw [numbers.next]
    rfl

/-- With a limit of zero the first event stays in the log. -/
theorem not_keepsLast_zero :
    ¬ (run 0 [.mutate (.appendAuditEvent
          { timestamp := 0, operation := .register,
            outcome := .success })]).KeepsLast
        (appendedEvents [.mutate (.appendAuditEvent
          { timestamp := 0, operation := .register,
            outcome := .success })]) := by
  intro keeps
  have retained := congrArg List.length keeps.retained
  revert retained
  decide

end JsonStateStore

end ToolboxMcp
