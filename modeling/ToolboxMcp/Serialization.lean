import ToolboxMcp.Invariants
import ToolboxMcp.Service.Startup

/-!
# Namespace serialization

Blocks of one namespace exclude each other as long as they use one lock.  The
dictionary entry is that lock while the namespace is registered; unregistering
pops it, and tasks still queued on it are stranded.  They do no harm unless the
namespace is registered again before they have run: from then on two locks are
in use.
-/

namespace ToolboxMcp

open Effect

/-- The namespace has a record. -/
def World.Registered (world : World) (ns : Namespace) : Prop :=
  (world.document.getToolset ns).isSome = true

theorem World.registered_iff {world : World} {ns : Namespace} :
    world.Registered ns ↔
      ∃ record, world.document.getToolset ns = some record :=
  Option.isSome_iff_exists

/-- Where the task waits for or holds a lock. -/
def Task.place : Task → Option (Namespace × LockId)
  | .waiting ns lock _ => some (ns, lock)
  | .entered ns lock _ => some (ns, lock)
  | .suspended ns lock _ _ _ _ => some (ns, lock)
  | _ => none

/-- The namespace inside one of whose blocks the task is executing. -/
def Task.occupied : Task → Option Namespace
  | .entered ns _ _ => some ns
  | .suspended ns _ _ _ _ _ => some ns
  | _ => none

def Task.Inside (ns : Namespace) (task : Task) : Prop :=
  task.occupied = some ns

/-! ## What a stretch does to the lock table -/

section Stretches

variable {ns : Namespace} {world : World}

/-- A namespace that is registered afterwards was registered before, and its
lock is the same. -/
def KeepsEntry (ns : Namespace) (before after : World) : Prop :=
  after.Registered ns →
    before.Registered ns ∧
      after.namespaceLocks.get ns = before.namespaceLocks.get ns

/-- The block may only suspend while the namespace is registered. -/
def Progress.KeepsEntry (ns : Namespace) (before after : World)
    (progress : Progress) : Prop :=
  ToolboxMcp.KeepsEntry ns before after ∧
    ∀ stage, progress = .inside stage → after.Registered ns

theorem Quiet.keepsEntry {after : World} (quiet : Quiet ns world after)
    (registered : world.Registered ns) : KeepsEntry ns world after :=
  fun _ => ⟨registered, by rw [quiet.namespaceLocks]⟩

theorem Untouched.keepsEntry {after : World}
    (untouched : Untouched world after) : KeepsEntry ns world after := by
  intro registered
  refine ⟨?_, by rw [untouched.namespaceLocks]⟩
  unfold World.Registered at registered ⊢
  rwa [untouched.records] at registered

theorem Removed.keepsEntry {after : World} (removed : Removed ns world after) :
    KeepsEntry ns world after := by
  intro registered
  unfold World.Registered at registered
  rw [removed.records, if_pos rfl] at registered
  cases registered

theorem keepsEntry_left {entries : List Entry} {after : World}
    (keeps : KeepsEntry ns world after) :
    (Progress.left entries).KeepsEntry ns world after :=
  ⟨keeps, by simp⟩

variable [Platform]

theorem start_keepsEntry {operation : Operation}
    (other : ∀ transport registration,
      operation ≠ .register transport registration) :
    wp (start operation ns)
      (fun progress after => progress.KeepsEntry ns world after)
      (fun _ after => KeepsEntry ns world after) world := by
  cases found : world.document.getToolset ns with
  | none =>
      apply start_unknown_rule found other
      · exact fun _ after untouched => keepsEntry_left untouched.keepsEntry
      · exact fun _ after untouched => untouched.keepsEntry
  | some record =>
      have registered : world.Registered ns :=
        World.registered_iff.mpr ⟨record, found⟩
      have quietly : ∀ {after : World}, Quiet ns world after →
          KeepsEntry ns world after := fun quiet => quiet.keepsEntry registered
      have inside : ∀ {stage : Stage} {after : World},
          after.namespaceLocks = world.namespaceLocks →
          after.Registered ns →
          (Progress.inside stage).KeepsEntry ns world after :=
        fun same still => ⟨fun _ => ⟨registered, by rw [same]⟩,
          fun _ _ => still⟩
      have wroteRegistered : ∀ {record : ToolsetRecord} {after : World},
          Wrote ns record world after → after.Registered ns :=
        fun wrote => World.registered_iff.mpr ⟨_, wrote.written⟩
      cases operation with
      | register transport registration =>
          exact absurd rfl (other transport registration)
      | activate scope ifNotLoaded =>
          apply startActivate_rule
          · exact fun _ after untouched =>
              keepsEntry_left untouched.keepsEntry
          · exact fun _ _ _ _ _ => keepsEntry_left (quietly (.refl world))
          · exact fun _ _ _ _ after _ _ _ _ _ wrote =>
              keepsEntry_left (quietly wrote.toQuiet)
          · exact fun _ _ _ after _ _ _ wrote => quietly wrote.toQuiet
          · intro _ after _ _ _ _ wrote
            have still : after.Registered ns := wroteRegistered wrote
            exact inside wrote.namespaceLocks still
          · exact fun _ _ after _ _ wrote =>
              keepsEntry_left (quietly wrote.toQuiet)
          · exact fun _ after quiet _ => quietly quiet
      | refresh ifStale scope =>
          apply startRefresh_rule
          · exact fun _ after untouched _ =>
              keepsEntry_left untouched.keepsEntry
          · exact fun _ _ _ => inside rfl registered
          · exact fun _ after quiet _ => quietly quiet
      | deactivate scope force =>
          apply startDeactivate_rule
          · exact fun _ after untouched _ =>
              keepsEntry_left untouched.keepsEntry
          · exact fun _ after _ _ _ wrote =>
              keepsEntry_left (quietly wrote.toQuiet)
          · exact fun _ after _ _ _ _ wrote =>
              keepsEntry_left (quietly wrote.toQuiet)
          · exact fun _ _ _ _ _ _ _ => inside rfl registered
          · exact fun _ after quiet _ => quietly quiet
      | restore stableHostIdentity startup =>
          apply startRestore_rule
          · exact fun _ after untouched _ =>
              keepsEntry_left untouched.keepsEntry
          · exact fun _ _ _ _ _ after _ _ _ _ _ wrote =>
              keepsEntry_left (quietly wrote.toQuiet)
          · exact fun _ _ _ _ after _ _ _ _ wrote => quietly wrote.toQuiet
          · intro _ _ after _ _ _ _ wrote
            have still : after.Registered ns := wroteRegistered wrote
            exact inside wrote.namespaceLocks still
          · exact fun _ _ _ after _ _ wrote =>
              keepsEntry_left (quietly wrote.toQuiet)
          · exact fun _ after quiet _ => quietly quiet
      | checkHealth scope =>
          apply startCheckHealth_rule
          · exact fun _ after untouched _ =>
              keepsEntry_left untouched.keepsEntry
          · exact fun _ _ _ _ => inside rfl registered
          · exact fun _ _ _ after _ _ _ _ wrote =>
              keepsEntry_left (quietly wrote.toQuiet)
          · exact fun _ after quiet _ => quietly quiet
      | clearStale =>
          apply startClearStale_rule
          · exact fun _ after untouched _ =>
              keepsEntry_left untouched.keepsEntry
          · exact fun _ _ after _ _ wrote =>
              keepsEntry_left (quietly wrote.toQuiet)
          · exact fun _ after quiet _ => quietly quiet
      | markStale reason =>
          apply startMarkStale_rule
          · exact fun _ => keepsEntry_left (quietly (.refl world))
          · exact fun _ after _ wrote =>
              keepsEntry_left (quietly wrote.toQuiet)
          · exact fun _ after quiet _ => quietly quiet
      | unregister force =>
          apply startUnregister_rule
          · exact fun _ after untouched =>
              keepsEntry_left untouched.keepsEntry
          · exact fun _ _ after _ _ removed _ =>
              keepsEntry_left removed.keepsEntry
          · exact fun _ _ _ _ _ => inside rfl registered
          · rintro _ after _ (quiet | removed)
            · exact quietly quiet
            · exact removed.keepsEntry

theorem resume_keepsEntry (registered : world.Registered ns)
    {stage : Stage} (proper : stage.Proper world ns) (reply : Reply) :
    wp (resume ns stage reply)
      (fun progress after => progress.KeepsEntry ns world after)
      (fun _ after => KeepsEntry ns world after) world := by
  have same : ∀ {after : World},
      after.namespaceLocks = world.namespaceLocks →
      KeepsEntry ns world after :=
    fun equal _ => ⟨registered, by rw [equal]⟩
  have inside : ∀ {stage : Stage} {after : World},
      after.namespaceLocks = world.namespaceLocks →
      after.document = world.document →
      (Progress.inside stage).KeepsEntry ns world after := by
    intro stage after equal document
    refine ⟨same equal, fun _ _ => ?_⟩
    unfold World.Registered
    rwa [document]
  cases stage with
  | opening opening record runtime =>
      apply resumeOpening_rule proper.1
      · exact fun _ => same rfl
      · exact fun _ after _ wrote => keepsEntry_left (same wrote.namespaceLocks)
      · exact fun _ _ _ _ _ _ _ => inside rfl rfl
      · exact fun _ _ _ after _ _ _ _ installed =>
          keepsEntry_left (same installed.namespaceLocks)
      · exact fun _ _ _ _ _ after _ _ _ _ quiet _ _ _ =>
          keepsEntry_left (same quiet.namespaceLocks)
      · rintro _ after _ (quiet | ⟨_, _, _, _, quiet⟩)
        · exact same quiet.namespaceLocks
        · exact same quiet.namespaceLocks
  | swapping closing opening record snapshot =>
      apply resumeSwapping_rule proper.1 proper.2.1
      · exact fun _ => same rfl
      · exact fun _ after _ wrote => keepsEntry_left (same wrote.namespaceLocks)
      · exact fun _ after _ installed =>
          keepsEntry_left (same installed.namespaceLocks)
      · exact fun _ _ _ after _ quiet _ _ _ =>
          keepsEntry_left (same quiet.namespaceLocks)
      · exact fun _ after quiet _ => same quiet.namespaceLocks
  | deactivating closing scope force record =>
      apply resumeDeactivating_rule proper.1
      · exact fun after _ wrote => keepsEntry_left (same wrote.namespaceLocks)
      · exact fun _ _ => same rfl
      · exact fun _ after quiet _ => same quiet.namespaceLocks
  | unregistering closing force =>
      have gone : ∀ {after : World},
          Removed ns (world.markDone closing.runtime) after →
          KeepsEntry ns world after := fun removed => removed.keepsEntry
      apply resumeUnregistering_rule
      · exact fun _ after removed _ => keepsEntry_left (gone removed)
      · exact fun _ _ => same rfl
      · rintro _ after _ (quiet | removed)
        · exact same quiet.namespaceLocks
        · exact gone removed
  | probing scope record runtime =>
      apply resumeProbing_rule
      · exact fun _ _ _ _ _ after _ _ _ _ wrote =>
          keepsEntry_left (same wrote.namespaceLocks)
      · exact fun _ => inside rfl rfl
      · exact fun _ _ _ _ => inside rfl rfl
      · exact fun _ _ => same rfl
      · exact fun _ _ _ after _ _ _ _ wrote =>
          keepsEntry_left (same wrote.namespaceLocks)
      · exact fun _ => same rfl
      · exact fun _ after quiet _ => same quiet.namespaceLocks
  | aborting scope record runtime =>
      apply resumeAborting_rule
      · exact fun _ _ _ => inside rfl rfl
      · exact fun _ _ => same rfl
      · exact fun _ _ _ after _ _ _ _ wrote =>
          keepsEntry_left (same wrote.namespaceLocks)
      · exact fun _ => same rfl
      · exact fun _ after quiet _ => same quiet.namespaceLocks
  | unhealthy closing scope record exception =>
      apply resumeUnhealthy_rule
      · exact fun _ _ _ => same rfl
      · exact fun _ _ _ after _ _ _ _ wrote =>
          keepsEntry_left (same wrote.namespaceLocks)
      · exact fun _ _ => same rfl
      · exact fun _ after quiet _ => same quiet.namespaceLocks

end Stretches

section Calls

variable {tool : MountedTool} {world : World}

/-- A call never adds or removes a record. -/
def KeepsRegistrations (before after : World) : Prop :=
  after.namespaceLocks = before.namespaceLocks ∧
    ∀ ns, after.Registered ns ↔ before.Registered ns

theorem Untouched.keepsRegistrations {after : World}
    (untouched : Untouched world after) : KeepsRegistrations world after := by
  refine ⟨untouched.namespaceLocks, fun ns => ?_⟩
  unfold World.Registered
  rw [untouched.records]

theorem Quiet.keepsRegistrations {ns : Namespace} {after : World}
    (quiet : Quiet ns world after) (registered : world.Registered ns) :
    KeepsRegistrations world after := by
  refine ⟨quiet.namespaceLocks, fun other => ?_⟩
  by_cases same : other = ns
  · rw [same]
    exact ⟨fun _ => registered, quiet.registered⟩
  · unfold World.Registered
    rw [quiet.records other same]

theorem finishCallFailure_keepsRegistrations (exception : PyException) :
    wp (finishCallFailure tool exception)
      (fun _ after => KeepsRegistrations world after)
      (fun _ after => KeepsRegistrations world after) world := by
  apply finishCallFailure_rule
  · exact fun _ after untouched => untouched.keepsRegistrations
  · exact fun current _ _ after found wrote =>
      wrote.toQuiet.keepsRegistrations
        (World.registered_iff.mpr ⟨current, found⟩)
  · intro second after quiet untouched _
    cases found : world.document.getToolset tool.ns with
    | none =>
        exact (untouched found).keepsRegistrations
    | some current =>
        exact quiet.keepsRegistrations
          (World.registered_iff.mpr ⟨current, found⟩)

theorem callFailed_keepsRegistrations (exception : PyException) :
    wp (callFailed tool exception)
      (fun _ after => KeepsRegistrations world after)
      (fun _ after => KeepsRegistrations world after) world := by
  apply callFailed_rule
  · exact fun _ _ => ⟨rfl, fun _ => Iff.rfl⟩
  · exact fun _ => finishCallFailure_keepsRegistrations exception

theorem dispatchCall_keepsRegistrations :
    wp (dispatchCall tool)
      (fun _ after => KeepsRegistrations world after)
      (fun _ after => KeepsRegistrations world after) world := by
  apply dispatchCall_rule
  · exact fun _ _ => ⟨rfl, fun _ => Iff.rfl⟩
  · exact fun _ exception => callFailed_keepsRegistrations exception

theorem resumeCall_keepsRegistrations (stage : CallStage)
    (reply : Except Raised CallToolResult) :
    wp (resumeCall tool stage reply)
      (fun _ after => KeepsRegistrations world after)
      (fun _ after => KeepsRegistrations world after) world := by
  have same : KeepsRegistrations world world := ⟨rfl, fun _ => Iff.rfl⟩
  cases stage with
  | calling runtime =>
      apply resumeCalling_rule
      · exact fun _ _ => same
      · exact fun _ _ _ => same
      · exact fun exception _ _ => callFailed_keepsRegistrations exception
      · exact fun _ => same
  | aborting runtime =>
      apply resumeCallAborting_rule
      · intro exception _
        have later :
            wp (callFailed tool exception)
              (fun _ after =>
                KeepsRegistrations (world.markDone runtime) after)
              (fun _ after =>
                KeepsRegistrations (world.markDone runtime) after)
              (world.markDone runtime) :=
          callFailed_keepsRegistrations exception
        exact later
      · exact fun _ => same
  | disconnecting closing exception =>
      apply resumeCallDisconnecting_rule
      · intro _
        have later :
            wp (finishCallFailure tool exception)
              (fun _ after =>
                KeepsRegistrations (world.markDone closing.runtime) after)
              (fun _ after =>
                KeepsRegistrations (world.markDone closing.runtime) after)
              (world.markDone closing.runtime) :=
          finishCallFailure_keepsRegistrations exception
        exact later
      · exact fun _ _ => same

end Calls

/-! ## Serialization as an invariant -/

namespace Machine

structure Serialized (machine : Machine) : Prop where
  /-- Nobody is suspended inside a block of an unregistered namespace. -/
  registered :
    ∀ task ns lock operation rest entries stage,
      machine.tasks task =
          some (.suspended ns lock operation rest entries stage) →
        machine.world.Registered ns
  /-- All tasks of a registered namespace use the lock of the dictionary. -/
  entry :
    ∀ task current ns lock,
      machine.tasks task = some current →
      current.place = some (ns, lock) → machine.world.Registered ns →
        machine.world.namespaceLocks.get ns = some lock

/-- `task` is executing inside a block of the namespace. -/
def Inside (machine : Machine) (ns : Namespace) (task : TaskId) : Prop :=
  (machine.tasks task).bind Task.occupied = some ns

instance (machine : Machine) (ns : Namespace) (task : TaskId) :
    Decidable (machine.Inside ns task) :=
  inferInstanceAs (Decidable (_ = _))

variable {machine : Machine}

theorem inside_iff {ns : Namespace} {task : TaskId} :
    machine.Inside ns task ↔
      ∃ current, machine.tasks task = some current ∧ current.Inside ns :=
  Option.bind_eq_some_iff

theorem standing_of_inside {ns : Namespace} {current : Task}
    (inside : current.Inside ns) :
    ∃ lock, current.standing = .holding lock ∧
      current.place = some (ns, lock) := by
  cases current with
  | entered home lock block =>
      cases inside
      exact ⟨lock, rfl, rfl⟩
  | suspended home lock operation rest entries stage =>
      cases inside
      exact ⟨lock, rfl, rfl⟩
  | arriving home block =>
      cases inside
  | waiting home lock block =>
      cases inside
  | calling tool stage =>
      cases inside
  | answered answer =>
      cases inside

/-- At most one task at a time is inside a block of the namespace. -/
theorem Serialized.exclusive (sane : machine.Sane)
    (serialized : machine.Serialized) {ns : Namespace}
    {first second : TaskId}
    (firstInside : machine.Inside ns first)
    (secondInside : machine.Inside ns second) : first = second := by
  obtain ⟨firstTask, firstFound, firstIn⟩ := inside_iff.mp firstInside
  obtain ⟨secondTask, secondFound, secondIn⟩ := inside_iff.mp secondInside
  obtain ⟨firstLock, firstHolds, firstPlace⟩ := standing_of_inside firstIn
  obtain ⟨secondLock, secondHolds, secondPlace⟩ :=
    standing_of_inside secondIn
  by_cases registered : machine.world.Registered ns
  · have firstEntry :=
      serialized.entry first _ ns firstLock firstFound firstPlace registered
    have secondEntry :=
      serialized.entry second _ ns secondLock secondFound secondPlace
        registered
    have sameLock : firstLock = secondLock :=
      Option.some.inj (firstEntry.symm.trans secondEntry)
    subst sameLock
    exact sane.consistent.exclusive firstLock first second
      ((standing_of_tasks firstFound).trans firstHolds)
      ((standing_of_tasks secondFound).trans secondHolds)
  · have running : ∀ task current, machine.tasks task = some current →
        current.Inside ns → machine.current = some task := by
      intro task current found inside
      cases current with
      | entered home lock block =>
          exact sane.running task _ found trivial
      | suspended home lock operation rest entries stage =>
          cases inside
          exact absurd
            (serialized.registered task _ _ _ _ _ _ found) registered
      | arriving home block =>
          cases inside
      | waiting home lock block =>
          cases inside
      | calling tool stage =>
          cases inside
      | answered answer =>
          cases inside
    exact Option.some.inj
      ((running first _ firstFound firstIn).symm.trans
        (running second _ secondFound secondIn))

/-- One task has moved on, and no entry in use was replaced. -/
theorem serialized_of_advance {after : Machine} {task : TaskId} {next : Task}
    (tasks : after.tasks = Function.update machine.tasks task (some next))
    (remains : ∀ other ns lock operation rest entries stage,
      other ≠ task →
      machine.tasks other =
          some (.suspended ns lock operation rest entries stage) →
        after.world.Registered ns)
    (suspends : ∀ ns lock operation rest entries stage,
      next = .suspended ns lock operation rest entries stage →
        after.world.Registered ns)
    (entries : ∀ other current ns lock,
      other ≠ task → machine.tasks other = some current →
      current.place = some (ns, lock) → after.world.Registered ns →
        after.world.namespaceLocks.get ns = some lock)
    (enters : ∀ ns lock,
      next.place = some (ns, lock) → after.world.Registered ns →
        after.world.namespaceLocks.get ns = some lock) :
    after.Serialized where
  registered := by
    intro other ns lock operation rest more stage found
    rw [tasks] at found
    by_cases same : other = task
    · subst same
      rw [Function.update_self] at found
      exact suspends _ _ _ _ _ _ (Option.some.inj found)
    · rw [Function.update_of_ne same] at found
      exact remains other _ _ _ _ _ _ same found
  entry := by
    intro other current ns lock found place registered
    rw [tasks] at found
    by_cases same : other = task
    · subst same
      rw [Function.update_self] at found
      cases found
      exact enters ns lock place registered
    · rw [Function.update_of_ne same] at found
      exact entries other current ns lock same found place registered

/-- Steps that leave registrations and lock entries alone. -/
theorem Serialized.advance_same (serialized : machine.Serialized)
    {after : Machine} {task : TaskId} {next : Task}
    (tasks : after.tasks = Function.update machine.tasks task (some next))
    (keeps : KeepsRegistrations machine.world after.world)
    (enters : ∀ ns lock,
      next.place = some (ns, lock) →
        ∃ current, machine.tasks task = some current ∧
          current.place = some (ns, lock))
    (suspends : ∀ ns lock operation rest entries stage,
      next ≠ .suspended ns lock operation rest entries stage) :
    after.Serialized := by
  have entries : ∀ other current ns lock,
      machine.tasks other = some current →
      current.place = some (ns, lock) → after.world.Registered ns →
        after.world.namespaceLocks.get ns = some lock := by
    intro other current ns lock found place registered
    rw [keeps.1]
    exact serialized.entry other current ns lock found place
      ((keeps.2 ns).mp registered)
  apply serialized_of_advance tasks
  · exact fun other ns lock operation rest more stage _ found =>
      (keeps.2 ns).mpr (serialized.registered other _ _ _ _ _ _ found)
  · exact fun ns lock operation rest more stage same =>
      absurd same (suspends ns lock operation rest more stage)
  · exact fun other current ns lock _ => entries other current ns lock
  · intro ns lock place registered
    obtain ⟨current, found, samePlace⟩ := enters ns lock place
    exact entries task current ns lock found samePlace registered

/-- The lock entry of every other task of the namespace survives. -/
def KeepsOthers (machine : Machine) (ns : Namespace) (task : TaskId)
    (after : World) : Prop :=
  ∀ other current lock,
    other ≠ task → machine.tasks other = some current →
      current.place = some (ns, lock) → after.Registered ns →
        after.namespaceLocks.get ns = some lock

/-- The end of any stretch of a lifecycle block. -/
theorem serialized_proceed (sane : machine.Sane)
    (serialized : machine.Serialized) {task : TaskId} {current : Task}
    {ns : Namespace} {lock : LockId} {operation : Operation}
    {rest : List Namespace} {entries : List Entry}
    {program : ServiceM Progress}
    (found : machine.tasks task = some current)
    (inside : current.Inside ns)
    (sound : wp program
      (fun _ after => Sound ns machine.world after)
      (fun _ after => Sound ns machine.world after) machine.world)
    (keeps : wp program
      (fun progress after =>
        machine.KeepsOthers ns task after ∧
          ∀ stage, progress = .inside stage →
            after.Registered ns ∧ after.namespaceLocks.get ns = some lock)
      (fun _ after => machine.KeepsOthers ns task after) machine.world) :
    (machine.proceed task ns lock operation rest entries
      (outcome program machine.world)).Serialized := by
  have remains : ∀ {after : World}, Sound ns machine.world after →
      ∀ other home otherLock operation rest entries stage,
        other ≠ task →
        machine.tasks other =
            some (.suspended home otherLock operation rest entries stage) →
          after.Registered home := by
    intro after kept other home otherLock operation rest entries stage
      different suspended
    by_cases same : home = ns
    · subst same
      exact absurd
        (serialized.exclusive sane (inside_iff.mpr ⟨_, suspended, rfl⟩)
          (inside_iff.mpr ⟨current, found, inside⟩))
        different
    · unfold World.Registered
      rw [kept.records home same]
      exact serialized.registered other _ _ _ _ _ _ suspended
  have others : ∀ {after : World}, Sound ns machine.world after →
      machine.KeepsOthers ns task after →
      ∀ other current home otherLock,
        other ≠ task → machine.tasks other = some current →
        current.place = some (home, otherLock) → after.Registered home →
          after.namespaceLocks.get home = some otherLock := by
    intro after kept own other current home otherLock different found place
      registered
    by_cases same : home = ns
    · subst same
      exact own other current otherLock different found place registered
    · rw [kept.namespaceLocks home same]
      apply serialized.entry other current home otherLock found place
      unfold World.Registered at registered ⊢
      rwa [kept.records home same] at registered
  rcases wp_cases (wp_and sound keeps) with
    ⟨stage | more, after, computed, kept, own, suspended⟩ |
      ⟨raised, after, computed, kept, own⟩
  · rw [computed]
    obtain ⟨registered, same⟩ := suspended stage rfl
    apply serialized_of_advance rfl
    · exact remains kept
    · rintro _ _ _ _ _ _ ⟨⟩
      exact registered
    · exact others kept own
    · rintro _ _ ⟨⟩ _
      exact same
  · rw [computed]
    apply serialized_of_advance rfl
    · exact remains kept
    · intro home _ _ _ _ _ same
      cases rest <;> cases same
    · exact others kept own
    · intro home _ place
      cases rest <;> cases place
  · rw [computed]
    apply serialized_of_advance rfl
    · exact remains kept
    · rintro _ _ _ _ _ _ ⟨⟩
    · exact others kept own
    · rintro _ _ ⟨⟩

/-- A stretch that keeps the entry of its namespace keeps it for everybody. -/
theorem Serialized.keepsOthers (serialized : machine.Serialized)
    {ns : Namespace} {after : World}
    (keeps : KeepsEntry ns machine.world after) (task : TaskId) :
    machine.KeepsOthers ns task after := by
  intro other current lock _ found place registered
  obtain ⟨before, same⟩ := keeps registered
  rw [same]
  exact serialized.entry other current ns lock found place before

theorem serialized_proceed_of_keepsEntry (sane : machine.Sane)
    (serialized : machine.Serialized) {task : TaskId} {current : Task}
    {ns : Namespace} {lock : LockId} {operation : Operation}
    {rest : List Namespace} {entries : List Entry}
    {program : ServiceM Progress}
    (found : machine.tasks task = some current)
    (inside : current.Inside ns)
    (place : current.place = some (ns, lock))
    (sound : wp program
      (fun progress after =>
        Sound ns machine.world after ∧ progress.Proper after ns)
      (fun _ after => Sound ns machine.world after) machine.world)
    (keeps : wp program
      (fun progress after => progress.KeepsEntry ns machine.world after)
      (fun _ after => KeepsEntry ns machine.world after) machine.world) :
    (machine.proceed task ns lock operation rest entries
      (outcome program machine.world)).Serialized := by
  apply serialized_proceed sane serialized found inside
  · exact wp_left sound
  · apply wp_mono keeps
    · rintro progress after ⟨entry, registers⟩
      refine ⟨serialized.keepsOthers entry task, fun stage suspended => ?_⟩
      have registered := registers stage suspended
      obtain ⟨before, same⟩ := entry registered
      rw [same]
      exact ⟨registered,
        serialized.entry task current ns lock found place before⟩
    · exact fun _ after entry => serialized.keepsOthers entry task

/-! ## The condition on registrations -/

/-- The task is queued on a lock the dictionary no longer points to. -/
def queuedAside (machine : Machine) (ns : Namespace) (task : TaskId) : Bool :=
  match machine.tasks task with
  | some (.waiting home lock _) =>
      home = ns ∧ machine.world.namespaceLocks.get ns ≠ some lock
  | _ => false

/-- Somebody is stranded on the namespace. -/
def stranded (machine : Machine) (ns : Namespace) : Bool :=
  (List.range machine.nextTask).any (machine.queuedAside ns)

section Steps

variable [Platform]

/-- The namespace the step is about to add a record for. -/
def registering (machine : Machine) : Action → Option Namespace
  | .enter task =>
      match machine.tasks task with
      | some (.entered ns _
          (.operation (.register transport registration) _ _)) =>
          if (machine.world.document.getToolset ns).isNone ∧
              (registration.toRecord ns transport).isOk ∧
              machine.world.nextFault = none then
            some ns
          else
            none
      | _ => none
  | _ => none

/-- No namespace is registered while tasks are stranded on it. -/
def StrandsNobody (machine : Machine) (action : Action) : Prop :=
  ∀ ns ∈ machine.registering action, machine.stranded ns = false

instance (machine : Machine) (action : Action) :
    Decidable (machine.StrandsNobody action) :=
  inferInstanceAs (Decidable (∀ ns ∈ machine.registering action, _))

omit [Platform] in
theorem not_queued_of_stranded (sane : machine.Sane) {ns : Namespace}
    (nobody : machine.stranded ns = false) {task : TaskId} {lock : LockId}
    {block : Block}
    (found : machine.tasks task = some (.waiting ns lock block)) :
    machine.world.namespaceLocks.get ns = some lock := by
  have present := List.mem_range.mpr (sane.present found)
  have current := List.any_eq_false.mp nobody task present
  simpa [queuedAside, found] using current

theorem serialized_register (sane : machine.Sane)
    (serialized : machine.Serialized) {task : TaskId} {ns : Namespace}
    {lock : LockId} {transport : ToolsetTransport}
    {registration : Registration} {rest : List Namespace}
    {entries : List Entry}
    (found :
      machine.tasks task =
        some (.entered ns lock
          (.operation (.register transport registration) rest entries)))
    (meets : machine.StrandsNobody (.enter task)) :
    (machine.proceed task ns lock (.register transport registration) rest
      entries
      (outcome (start (.register transport registration) ns)
        machine.world)).Serialized := by
  have turn := sane.running task _ found trivial
  have idle : ∀ {after : World}, Untouched machine.world after →
      machine.KeepsOthers ns task after :=
    fun untouched => serialized.keepsOthers untouched.keepsEntry task
  -- Registering makes the queued tasks count again: none of them is stranded.
  have registering : ∀ {record : ToolsetRecord} {after : World},
      machine.world.document.getToolset ns = none →
      registration.toRecord ns transport = .ok record →
      machine.world.nextFault = none →
      Wrote ns record machine.world after →
      machine.KeepsOthers ns task after := by
    intro record after missing valid fault wrote other current otherLock
      different otherFound place _
    have registering : machine.registering (.enter task) = some ns := by
      simp [registering, found, missing, valid, fault, Except.isOk,
        Except.toBool]
    have nobody : machine.stranded ns = false := meets ns registering
    rw [wrote.namespaceLocks]
    cases current with
    | waiting home waitLock block =>
        cases place
        exact not_queued_of_stranded sane nobody otherFound
    | entered home enterLock block =>
        have otherTurn := sane.running other _ otherFound trivial
        rw [turn] at otherTurn
        exact absurd (Option.some.inj otherTurn).symm different
    | suspended home holdLock operation more others stage =>
        cases place
        have registered :=
          serialized.registered other _ _ _ _ _ _ otherFound
        unfold World.Registered at registered
        rw [missing] at registered
        cases registered
    | arriving home block =>
        cases place
    | calling tool stage =>
        cases place
    | answered answer =>
        cases place
  apply serialized_proceed sane serialized found rfl
  · exact wp_left (start_sound sane.housed _)
  · apply startRegister_rule
    · exact fun _ after untouched => ⟨idle untouched, by simp⟩
    · exact fun _ after missing valid fault wrote =>
        ⟨registering missing valid fault wrote, by simp⟩
    · exact fun _ _ after missing valid fault _ wrote =>
        registering missing valid fault wrote
    · exact fun _ after _ untouched => idle untouched

theorem serialized_request (serialized : machine.Serialized)
    (request : Request) : (machine.request request).Serialized := by
  unfold Machine.request
  rcases wp_cases (accept_untouched request) with
    ⟨error | ⟨operation, namespaces⟩, world, computed, untouched⟩ |
      ⟨raised, world, computed, untouched⟩
  · rw [computed]
    refine serialized.advance_same rfl untouched.keepsRegistrations ?_ ?_
    · rintro _ _ ⟨⟩
    · rintro _ _ _ _ _ _ ⟨⟩
  · rw [computed]
    refine serialized.advance_same rfl untouched.keepsRegistrations ?_ ?_
    · intro _ _ place
      cases namespaces <;> cases place
    · intro _ _ _ _ _ _ same
      cases namespaces <;> cases same
  · rw [computed]
    refine serialized.advance_same rfl untouched.keepsRegistrations ?_ ?_
    · rintro _ _ ⟨⟩
    · rintro _ _ _ _ _ _ ⟨⟩

omit [Platform] in
theorem serialized_call (serialized : machine.Serialized)
    (mountedName : String) : (machine.call mountedName).Serialized := by
  have same : KeepsRegistrations machine.world machine.world :=
    ⟨rfl, fun _ => Iff.rfl⟩
  unfold Machine.call
  rcases locateCall_cases machine.world mountedName with
    ⟨tool, _, computed⟩ | ⟨raised, computed⟩
  · rw [computed]
    refine serialized.advance_same rfl same ?_ ?_
    · rintro _ _ ⟨⟩
    · rintro _ _ _ _ _ _ ⟨⟩
  · rw [computed]
    refine serialized.advance_same rfl same ?_ ?_
    · rintro _ _ ⟨⟩
    · rintro _ _ _ _ _ _ ⟨⟩

omit [Platform] in
theorem serialized_acquire (serialized : machine.Serialized)
    {task : TaskId} {ns : Namespace} {block : Block} :
    (machine.acquire task ns block).Serialized := by
  obtain ⟨locks, tasks, current, nextTask, objects, nextRuntime, runtimes,
    document, inFlight, entry, others, before⟩ :=
    machine.namespaceLock_spec ns
  unfold acquire
  generalize machine.namespaceLock ns = looked at *
  obtain ⟨lock, middle⟩ := looked
  simp only at tasks document entry others before ⊢
  have registered : ∀ home,
      middle.world.Registered home ↔ machine.world.Registered home := by
    intro home
    unfold World.Registered
    rw [document]
  have advanced : ∀ {after : Machine} {next : Task},
      after.world = middle.world →
      after.tasks = Function.update middle.tasks task (some next) →
      next.place = some (ns, lock) →
      (∀ home held operation rest entries stage,
        next ≠ .suspended home held operation rest entries stage) →
      after.Serialized := by
    intro after next world moved arrived awake
    rw [tasks] at moved
    apply serialized_of_advance moved
    · intro other home held operation rest entries stage _ found
      rw [world, registered]
      exact serialized.registered other _ _ _ _ _ _ found
    · exact fun home held operation rest entries stage same =>
        absurd same (awake home held operation rest entries stage)
    · intro other current home held _ found place enrolled
      rw [world] at enrolled ⊢
      have old := serialized.entry other current home held found place
        ((registered home).mp enrolled)
      by_cases same : home = ns
      · subst same
        rcases before with missing | present
        · rw [missing] at old
          cases old
        · rw [present] at old
          rw [entry, old]
      · rw [others home same, old]
    · intro home held place _
      rw [arrived] at place
      cases place
      rw [world, entry]
  split
  · exact advanced rfl rfl rfl (by simp)
  · exact advanced rfl rfl rfl (by simp)

omit [Platform] in
/-- A stretch of a started call. -/
theorem serialized_proceedCall (serialized : machine.Serialized)
    {task : TaskId} {locks : LockId → Mutex TaskId} {tool : MountedTool}
    {program : ServiceM CallProgress} {world : World}
    (start : KeepsRegistrations machine.world world)
    (keeps : wp program (fun _ after => KeepsRegistrations world after)
      (fun _ after => KeepsRegistrations world after) world) :
    (proceedCall { machine with locks := locks } task tool
      (outcome program world)).Serialized := by
  have through : ∀ {after : World}, KeepsRegistrations world after →
      KeepsRegistrations machine.world after :=
    fun later => ⟨later.1.trans start.1,
      fun ns => (later.2 ns).trans (start.2 ns)⟩
  rcases wp_cases keeps with
    ⟨stage | result, after, computed, kept⟩ | ⟨raised, after, computed, kept⟩
  · rw [computed]
    refine serialized.advance_same rfl (through kept) ?_ ?_
    · rintro _ _ ⟨⟩
    · rintro _ _ _ _ _ _ ⟨⟩
  · rw [computed]
    refine serialized.advance_same rfl (through kept) ?_ ?_
    · rintro _ _ ⟨⟩
    · rintro _ _ _ _ _ _ ⟨⟩
  · rw [computed]
    refine serialized.advance_same rfl (through kept) ?_ ?_
    · rintro _ _ ⟨⟩
    · rintro _ _ _ _ _ _ ⟨⟩

theorem serialized_enter (sane : machine.Sane)
    (serialized : machine.Serialized) {task : TaskId} {ns : Namespace}
    {lock : LockId} {block : Block}
    (found : machine.tasks task = some (.entered ns lock block))
    (meets : machine.StrandsNobody (.enter task)) :
    (machine.enter task ns lock block).Serialized := by
  have same : KeepsRegistrations machine.world machine.world :=
    ⟨rfl, fun _ => Iff.rfl⟩
  cases block with
  | operation operation rest entries =>
      by_cases registers :
          ∃ transport registration,
            operation = .register transport registration
      · obtain ⟨transport, registration, rfl⟩ := registers
        exact serialized_register sane serialized found meets
      · push Not at registers
        exact serialized_proceed_of_keepsEntry sane serialized found rfl rfl
          (start_sound sane.housed operation) (start_keepsEntry registers)
  | callStart mountedName =>
      simp only [enter, startCall]
      rcases admitCall_cases machine.world mountedName with
        ⟨tool, _, computed⟩ | ⟨raised, computed⟩
      · rw [computed]
        exact serialized_proceedCall serialized same
          dispatchCall_keepsRegistrations
      · rw [computed]
        refine serialized.advance_same rfl same ?_ ?_
        · rintro _ _ ⟨⟩
        · rintro _ _ _ _ _ _ ⟨⟩
  | callFinish result =>
      refine serialized.advance_same rfl same ?_ ?_
      · rintro _ _ ⟨⟩
      · rintro _ _ _ _ _ _ ⟨⟩

theorem serialized_step (sane : machine.Sane)
    (serialized : machine.Serialized) {action : Action} {after : Machine}
    (meets : machine.StrandsNobody action)
    (taken : step machine action = some after) : after.Serialized := by
  have same : KeepsRegistrations machine.world machine.world :=
    ⟨rfl, fun _ => Iff.rfl⟩
  cases action with
  | request request =>
      obtain ⟨_, rfl⟩ := step_request.mp taken
      exact serialized_request serialized request
  | call mountedName =>
      obtain ⟨_, rfl⟩ := step_call.mp taken
      exact serialized_call serialized mountedName
  | acquire task =>
      obtain ⟨ns, block, _, _, rfl⟩ := step_acquire.mp taken
      exact serialized_acquire serialized
  | grant task =>
      obtain ⟨ns, lock, block, found, _, _, rfl⟩ := step_grant.mp taken
      refine serialized.advance_same rfl same ?_ ?_
      · rintro _ _ ⟨⟩
        exact ⟨_, found, rfl⟩
      · rintro _ _ _ _ _ _ ⟨⟩
  | enter task =>
      obtain ⟨ns, lock, block, found, _, rfl⟩ := step_enter.mp taken
      exact serialized_enter sane serialized found meets
  | reply task reply =>
      obtain ⟨ns, lock, operation, rest, entries, stage, found, _, rfl⟩ :=
        step_reply.mp taken
      have proper := sane.proper task _ found
      exact serialized_proceed_of_keepsEntry sane serialized found rfl rfl
        (resume_sound sane.housed proper reply)
        (resume_keepsEntry
          (serialized.registered task _ _ _ _ _ _ found) proper reply)
  | callReply task reply =>
      obtain ⟨tool, stage, _, _, rfl⟩ := step_callReply.mp taken
      exact serialized_proceedCall serialized same
        (resumeCall_keepsRegistrations stage reply)
  | cancelWaiting task =>
      obtain ⟨ns, lock, block, _, _, rfl⟩ := step_cancelWaiting.mp taken
      refine serialized.advance_same rfl same ?_ ?_
      · rintro _ _ ⟨⟩
      · rintro _ _ _ _ _ _ ⟨⟩
  | die runtime =>
      obtain ⟨_, rfl⟩ := step_die.mp taken
      exact ⟨serialized.registered, serialized.entry⟩

omit [Platform] in
theorem serialized_boot (world : World) : (boot world).Serialized where
  registered task ns lock operation rest entries stage found := by
    cases found
  entry task current ns lock found := by
    cases found

theorem serialized_of_reaches {world : World}
    {allowed : Machine → Action → Prop}
    (reaches : Reaches step allowed (boot world) machine)
    (meets : ∀ before action,
      allowed before action → before.StrandsNobody action) :
    machine.Serialized := by
  have both : machine.Sane ∧ machine.Serialized := by
    apply reaches.invariant ⟨sane_boot world, serialized_boot world⟩
    rintro before action after ⟨sane, serialized⟩ permitted taken
    exact ⟨sane_step sane taken,
      serialized_step sane serialized (meets before action permitted) taken⟩
  exact both.2

/-- Blocks of a namespace exclude each other in every run that registers no
namespace while tasks are stranded on it. -/
theorem inside_unique {world : World} {ns : Namespace}
    {first second : TaskId}
    (reaches : Reaches step StrandsNobody (boot world) machine)
    (firstInside : machine.Inside ns first)
    (secondInside : machine.Inside ns second) : first = second :=
  (serialized_of_reaches reaches fun _ _ => id).exclusive
    (sane_of_reaches reaches) firstInside secondInside

end Steps

section Ascii

open scoped Ascii

/-- The namespace is unregistered and, with nobody stranded on it, registered
again.  One activation is suspended while the server starts, and another one
is queued on its lock. -/
theorem inside_unique_activation :
    ∃ machine,
      Reaches step StrandsNobody (boot bundledWorld) machine ∧
        (machine.world.record "fake_stdio").map (·.title) = some "Fake" ∧
        machine.Inside "fake_stdio" 2 ∧ machine.standing 3 = .waiting 1 ∧
        ∀ second, machine.Inside "fake_stdio" second → second = 2 := by
  obtain ⟨machine, reaches, registered, inside, queued⟩ :=
    exists_reaches_of_execute
      [.request (.unregisterToolsets ["fake_stdio"] true),
       .acquire 0, .enter 0,
       .request
         (.registerToolset "fake_stdio" (.ok { command := "python" })
           { title := "Fake", description := "Registered again" }),
       .acquire 1, .enter 1,
       .request (.activateToolsets ["fake_stdio"] "thread" true),
       .acquire 2, .enter 2,
       .request (.activateToolsets ["fake_stdio"] "session" true),
       .acquire 3]
      (by decide +kernel :
        (execute step StrandsNobody (boot bundledWorld) _).any
          (fun machine =>
            (machine.world.record "fake_stdio").map (·.title) =
                some "Fake" ∧
              machine.Inside "fake_stdio" 2 ∧
              machine.standing 3 = .waiting 1) = true)
  exact ⟨machine, reaches, registered, inside, queued,
    fun second secondInside => inside_unique reaches secondInside inside⟩

/-- Tasks 2 and 3 are queued while task 1 unregisters.  They keep the popped
lock: task 2 registers the namespace again, task 3 opens a runtime under that
lock, and task 4 enters under a new one. -/
theorem two_inside :
    ∃ machine,
      Reaches step (fun _ _ => True) (boot bundledWorld) machine ∧
        machine.Inside "fake_stdio" 3 ∧ machine.Inside "fake_stdio" 4 :=
  exists_reaches_of_execute
    [.request (.activateToolsets ["fake_stdio"] "thread" true),
     .acquire 0, .enter 0, .reply 0 (.ok []),
     .request (.unregisterToolsets ["fake_stdio"] true),
     .acquire 1, .enter 1,
     .request
       (.registerToolset "fake_stdio" (.ok { command := "python" })
         { title := "Fake", description := "Registered again" }),
     .acquire 2,
     .request (.activateToolsets ["fake_stdio"] "thread" true),
     .acquire 3,
     .reply 1 (.ok []),
     .grant 2, .enter 2, .grant 3, .enter 3,
     .request (.activateToolsets ["fake_stdio"] "thread" true),
     .acquire 4]
    (by decide +kernel)

end Ascii

end Machine

end ToolboxMcp
