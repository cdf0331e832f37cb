import Mathlib.Logic.Function.Basic
import Mathlib.Data.List.Nodup

/-!
# Fair mutual-exclusion locks

A `Mutex` is the lock of a cooperative scheduler: a flag and the queue of the
clients suspended in `acquire`, served in order of arrival.  A released lock
goes to the head of the queue, and a newcomer passes only an empty queue.

The locks of a program are a table indexed by `ι`; `Standing` says where each
client is.  `Consistent` ties the two together.  Each operation on the table
keeps it, and it contains mutual exclusion: a lock has at most one holder.
-/

/-- A lock and the clients queued on it. -/
structure Mutex (τ : Type*) where
  locked : Bool
  waiters : List τ
deriving Repr, DecidableEq

namespace Mutex

variable {ι τ : Type*}

/-- A lock nobody holds and nobody waits for. -/
def unlocked : Mutex τ :=
  ⟨false, []⟩

/-- `acquire` may return at once. -/
def Available (lock : Mutex τ) : Prop :=
  lock.locked = false ∧ lock.waiters = []

instance (lock : Mutex τ) : Decidable lock.Available :=
  decidable_of_iff (lock.locked = false ∧ lock.waiters.isEmpty = true) <| by
    simp [Available]

/-- `client` is the one a release has woken. -/
def Grants (lock : Mutex τ) (client : τ) : Prop :=
  lock.locked = false ∧ lock.waiters.head? = some client

def acquire (lock : Mutex τ) : Mutex τ :=
  { lock with locked := true }

def enqueue (client : τ) (lock : Mutex τ) : Mutex τ :=
  { lock with waiters := lock.waiters ++ [client] }

/-- The woken head of the queue resumes and takes the lock. -/
def grant (lock : Mutex τ) : Mutex τ :=
  ⟨true, lock.waiters.tail⟩

def release (lock : Mutex τ) : Mutex τ :=
  { lock with locked := false }

/-- A cancelled waiter leaves the queue. -/
def abandon [DecidableEq τ] (client : τ) (lock : Mutex τ) : Mutex τ :=
  { lock with waiters := lock.waiters.erase client }

/-- Where a client is with respect to the locks of a table. -/
inductive Standing (ι : Type*) where
  | away
  | waiting (lock : ι)
  | holding (lock : ι)
deriving Repr, DecidableEq

/-- The table records exactly what the clients are doing. -/
structure Consistent
    (locks : ι → Mutex τ) (standing : τ → Standing ι) : Prop where
  locked_iff :
    ∀ lock,
      (locks lock).locked = true ↔
        ∃ client, standing client = .holding lock
  exclusive :
    ∀ lock first second,
      standing first = .holding lock →
      standing second = .holding lock → first = second
  queued :
    ∀ lock client,
      client ∈ (locks lock).waiters ↔ standing client = .waiting lock
  nodup : ∀ lock, (locks lock).waiters.Nodup

/-- The queue of a granting lock starts with the granted client. -/
theorem Grants.waiters_eq {lock : Mutex τ} {client : τ}
    (grants : lock.Grants client) :
    lock.waiters = client :: lock.waiters.tail := by
  obtain ⟨_, head⟩ := grants
  cases shape : lock.waiters with
  | nil =>
      simp [shape] at head
  | cons first rest =>
      simp only [shape, List.head?_cons, Option.some.injEq] at head
      simp [head]

namespace Consistent

theorem initial :
    Consistent (fun _ : ι => (unlocked : Mutex τ))
      (fun _ => Standing.away) where
  locked_iff := by simp [unlocked]
  exclusive := by simp
  queued := by simp [unlocked]
  nodup := by simp [unlocked]

variable {locks : ι → Mutex τ} {standing : τ → Standing ι}

theorem not_holding_of_unlocked
    (consistent : Consistent locks standing) {lock : ι}
    (unlocked : (locks lock).locked = false) (client : τ) :
    standing client ≠ .holding lock := by
  intro holding
  have locked := (consistent.locked_iff lock).mpr ⟨client, holding⟩
  rw [unlocked] at locked
  cases locked

variable [DecidableEq ι] [DecidableEq τ]

/-- One client moves between standings at one lock.  Every operation below is
an instance: what remains is to compare the lock's new fields with the other
clients' standings. -/
theorem move
    (consistent : Consistent locks standing)
    {client : τ} {lock : ι} {next : Mutex τ} {place : Standing ι}
    (here : ∀ other, other ≠ lock →
      standing client ≠ .holding other ∧ standing client ≠ .waiting other ∧
        place ≠ .holding other ∧ place ≠ .waiting other)
    (locked : next.locked = true ↔
      place = .holding lock ∨
        ∃ other, other ≠ client ∧ standing other = .holding lock)
    (exclusive : place = .holding lock →
      ∀ other, other ≠ client → standing other ≠ .holding lock)
    (queued : ∀ other, other ∈ next.waiters ↔
      (other = client ∧ place = .waiting lock) ∨
        (other ≠ client ∧ standing other = .waiting lock))
    (nodup : next.waiters.Nodup) :
    Consistent
      (Function.update locks lock next)
      (Function.update standing client place) := by
  constructor
  · intro tested
    by_cases same : tested = lock
    · subst same
      rw [Function.update_self, locked]
      constructor
      · rintro (holding | ⟨other, different, holding⟩)
        · exact ⟨client, by simpa using holding⟩
        · exact ⟨other, by simpa [different] using holding⟩
      · rintro ⟨other, holding⟩
        by_cases self : other = client
        · subst self
          exact Or.inl (by simpa using holding)
        · exact Or.inr ⟨other, self, by simpa [self] using holding⟩
    · rw [Function.update_of_ne same, consistent.locked_iff]
      obtain ⟨notHolding, _, placeNot, _⟩ := here tested same
      constructor
      · rintro ⟨other, holding⟩
        have different : other ≠ client := by
          rintro rfl
          exact notHolding holding
        exact ⟨other, by simpa [different] using holding⟩
      · rintro ⟨other, holding⟩
        have different : other ≠ client := by
          rintro rfl
          exact placeNot (by simpa using holding)
        exact ⟨other, by simpa [different] using holding⟩
  · intro tested first second firstHolds secondHolds
    have old := consistent.exclusive tested first second
    by_cases same : tested = lock
    · subst same
      simp only [Function.update_apply] at firstHolds secondHolds
      split at firstHolds <;> split at secondHolds
      · rename_i firstSame secondSame
        rw [firstSame, secondSame]
      · rename_i secondOther
        exact absurd secondHolds (exclusive firstHolds second secondOther)
      · rename_i firstOther _
        exact absurd firstHolds (exclusive secondHolds first firstOther)
      · exact old firstHolds secondHolds
    · obtain ⟨_, _, placeNot, _⟩ := here tested same
      simp only [Function.update_apply] at firstHolds secondHolds
      split at firstHolds
      · exact absurd firstHolds placeNot
      · split at secondHolds
        · exact absurd secondHolds placeNot
        · exact old firstHolds secondHolds
  · intro tested other
    by_cases same : tested = lock
    · subst same
      rw [Function.update_self, queued]
      by_cases self : other = client
      · subst self
        simp
      · simp [self]
    · rw [Function.update_of_ne same, consistent.queued]
      obtain ⟨_, notWaiting, _, placeNot⟩ := here tested same
      by_cases self : other = client
      · subst self
        simp [notWaiting, placeNot]
      · simp [self]
  · intro tested
    by_cases same : tested = lock
    · subst same
      simpa using nodup
    · simpa [same] using consistent.nodup tested

theorem acquire
    (consistent : Consistent locks standing) {client : τ} {lock : ι}
    (away : standing client = .away)
    (available : (locks lock).Available) :
    Consistent
      (Function.update locks lock (locks lock).acquire)
      (Function.update standing client (.holding lock)) := by
  have nobody := consistent.not_holding_of_unlocked available.1
  have notQueued : ∀ other, standing other ≠ .waiting lock := by
    intro other
    rw [Ne, ← consistent.queued, available.2]
    exact List.not_mem_nil
  apply consistent.move
  · intro other different
    simp [away, Ne.symm different]
  · simp [Mutex.acquire]
  · intro _ other _
    exact nobody other
  · simp [Mutex.acquire, available.2, notQueued]
  · exact consistent.nodup lock

theorem enqueue
    (consistent : Consistent locks standing) {client : τ} {lock : ι}
    (away : standing client = .away) :
    Consistent
      (Function.update locks lock ((locks lock).enqueue client))
      (Function.update standing client (.waiting lock)) := by
  have absent : client ∉ (locks lock).waiters := by
    simp [consistent.queued, away]
  apply consistent.move
  · intro other different
    simp [away, Ne.symm different]
  · simp only [Mutex.enqueue, consistent.locked_iff, reduceCtorEq, false_or]
    constructor
    · rintro ⟨other, holding⟩
      refine ⟨other, ?_, holding⟩
      rintro rfl
      rw [away] at holding
      cases holding
    · rintro ⟨other, _, holding⟩
      exact ⟨other, holding⟩
  · simp
  · intro other
    simp only [Mutex.enqueue, List.mem_append, consistent.queued,
      List.mem_singleton]
    by_cases self : other = client
    · simp [self]
    · simp [self]
  · exact (consistent.nodup lock).append (List.nodup_singleton client)
      (by simpa using absent)

theorem grant
    (consistent : Consistent locks standing) {client : τ} {lock : ι}
    (grants : (locks lock).Grants client) :
    Consistent
      (Function.update locks lock (locks lock).grant)
      (Function.update standing client (.holding lock)) := by
  have shape := grants.waiters_eq
  have waiting : standing client = .waiting lock := by
    rw [← consistent.queued, shape]
    exact List.mem_cons_self
  have nodup := consistent.nodup lock
  rw [shape] at nodup
  have parts := List.nodup_cons.mp nodup
  have nobody := consistent.not_holding_of_unlocked grants.1
  apply consistent.move
  · intro other different
    simp [waiting, Ne.symm different]
  · simp [Mutex.grant]
  · intro _ other _
    exact nobody other
  · intro other
    have member : other ∈ (locks lock).waiters ↔
        other = client ∨ other ∈ (locks lock).waiters.tail := by
      conv_lhs => rw [shape]
      exact List.mem_cons
    rw [consistent.queued] at member
    by_cases self : other = client
    · subst self
      simpa [Mutex.grant] using parts.1
    · simp [Mutex.grant, member, self]
  · exact parts.2

theorem release
    (consistent : Consistent locks standing) {client : τ} {lock : ι}
    (holding : standing client = .holding lock) :
    Consistent
      (Function.update locks lock (locks lock).release)
      (Function.update standing client .away) := by
  apply consistent.move
  · intro other different
    simp [holding, Ne.symm different]
  · simp only [Mutex.release, Bool.false_eq_true, reduceCtorEq, false_or,
      false_iff]
    rintro ⟨other, different, otherHolding⟩
    exact different
      (consistent.exclusive lock other client otherHolding holding)
  · simp
  · intro other
    rw [show (locks lock).release.waiters = (locks lock).waiters from rfl,
      consistent.queued]
    by_cases self : other = client
    · simp [self, holding]
    · simp [self]
  · exact consistent.nodup lock

theorem abandon
    (consistent : Consistent locks standing) {client : τ} {lock : ι}
    (waiting : standing client = .waiting lock) :
    Consistent
      (Function.update locks lock ((locks lock).abandon client))
      (Function.update standing client .away) := by
  apply consistent.move
  · intro other different
    simp [waiting, Ne.symm different]
  · simp only [Mutex.abandon, consistent.locked_iff, reduceCtorEq, false_or]
    constructor
    · rintro ⟨other, holding⟩
      refine ⟨other, ?_, holding⟩
      rintro rfl
      rw [waiting] at holding
      cases holding
    · rintro ⟨other, _, holding⟩
      exact ⟨other, holding⟩
  · simp
  · intro other
    rw [show ((locks lock).abandon client).waiters =
      (locks lock).waiters.erase client from rfl,
      (consistent.nodup lock).mem_erase_iff, consistent.queued]
    simp
  · exact (consistent.nodup lock).erase client

end Consistent

end Mutex
