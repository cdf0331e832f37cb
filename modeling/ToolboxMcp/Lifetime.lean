import ToolboxMcp.Service.Startup
import ToolboxMcp.Turns

/-!
# The life of a host

A host runs the service, is shut down or crashes at any moment, and starts it
again on the document the last process has left.  Between two starts the
machine takes its steps; here its clients send one request at a time.
-/

namespace ToolboxMcp

open Effect

/-! ## Process start -/

section Start

variable {world : World}

/-- The records a process finds once the bundled toolset is in place. -/
def bundled (world : World) (ns : Namespace) : Option ToolsetRecord :=
  (world.document.getToolset ns).or
    (if ns = "fake_stdio" then some (fakeToolset world.config) else none)

theorem bootstrapDefaults_rule {post : Unit → World → Prop}
    {raised : Raised → World → Prop} (reliable : world.Reliable)
    (settled : ∀ after,
      SameTransport world after →
      (∀ ns, after.document.getToolset ns = bundled world ns) →
      post () after) :
    wp bootstrapDefaults post raised world := by
  unfold bootstrapDefaults
  rw [wp_bind, wp_get]
  cases found : world.document.getToolset "fake_stdio" with
  | some record =>
      simp only [World.record, found]
      apply settled world (.refl world)
      intro ns
      by_cases same : ns = "fake_stdio"
      · subst same
        simp [bundled, found]
      · simp [bundled, same]
  | none =>
      simp only [World.record, found]
      have named : (fakeToolset world.config).ns = "fake_stdio" := rfl
      refine upsertToolset_rule named ?_ ?_
      · intro after wrote
        apply settled after wrote.toSameTransport
        intro ns
        by_cases same : ns = "fake_stdio"
        · subst same
          simp [bundled, found, wrote.written]
        · have other : after.document.getToolset ns =
              world.document.getToolset ns := wrote.records ns same
          simp [bundled, same, other]
      · exact fun _ _ _ unreliable => absurd reliable unreliable

theorem reconciledRecord_eq {record : ToolsetRecord}
    (settled : needsReconciling record = false) :
    reconciledRecord record = record := by
  simp only [needsReconciling, decide_eq_false_iff_not, not_or, not_not]
    at settled
  obtain ⟨recoverable, loaded, inactive⟩ := settled
  calc
    reconciledRecord record
      = { record with
          recoverableScopes := (reconciledRecord record).recoverableScopes
          loadedScopes := []
          transportState := .inactive } := rfl
    _ = record := by
        rw [← recoverable, ← loaded, ← inactive]

/-- Every record of the list is reconciled once. -/
theorem reconcileRecords_rule {records : List ToolsetRecord}
    {post : Unit → World → Prop} {raised : Raised → World → Prop}
    (reliable : world.Reliable)
    (distinct : (records.map ToolsetRecord.ns).Nodup)
    (stored : ∀ record ∈ records,
      world.document.getToolset record.ns = some record)
    (reconciled : ∀ after,
      SameTransport world after →
      (∀ ns, after.document.getToolset ns =
        if ns ∈ records.map ToolsetRecord.ns then
          (world.document.getToolset ns).map reconciledRecord
        else
          world.document.getToolset ns) →
      post () after) :
    wp (reconcileRecords records) post raised world := by
  induction records generalizing world with
  | nil =>
      exact reconciled world (.refl world) (by simp)
  | cons record rest inductionHypothesis =>
      have found := stored record List.mem_cons_self
      rw [List.map_cons, List.nodup_cons] at distinct
      have others : ∀ other ∈ rest, other.ns ≠ record.ns := by
        intro other member same
        apply distinct.1
        rw [← same]
        exact List.mem_map_of_mem member
      unfold reconcileRecords
      -- What the rest does to a world in which this record is reconciled.
      have continued : ∀ {middle : World},
          SameTransport world middle →
          middle.document.getToolset record.ns =
            some (reconciledRecord record) →
          (∀ ns, ns ≠ record.ns →
            middle.document.getToolset ns = world.document.getToolset ns) →
          wp (reconcileRecords rest) post raised middle := by
        intro middle transport written kept
        apply inductionHypothesis (transport.reliable reliable) distinct.2
        · intro other member
          rw [kept other.ns (others other member)]
          exact stored other (List.mem_cons_of_mem _ member)
        · intro after later result
          apply reconciled after (transport.trans later)
          intro ns
          rw [result ns]
          by_cases same : ns = record.ns
          · subst same
            simp [distinct.1, written, found]
          · simp [same, kept ns same]
      cases needed : needsReconciling record with
      | true =>
          simp only [if_true, wp_bind]
          refine upsertToolset_rule rfl ?_ ?_
          · intro middle wrote
            exact continued wrote.toSameTransport wrote.written wrote.records
          · exact fun _ _ _ unreliable => absurd reliable unreliable
      | false =>
          simp only [Bool.false_eq_true, if_false]
          apply continued (.refl world)
          · rw [reconciledRecord_eq needed]
            exact found
          · exact fun _ _ => rfl

/-- A process starts with no runtimes and with every record reconciled. -/
theorem startService_rule {post : Unit → World → Prop}
    {raised : Raised → World → Prop} (reliable : world.Reliable)
    (distinct : world.document.Distinct)
    (started : ∀ after,
      SameTransport world.restarted after →
      (∀ ns, after.document.getToolset ns =
        (bundled world ns).map reconciledRecord) →
      post () after) :
    wp startService post raised world := by
  unfold startService
  rw [wp_bind, wp_modify, wp_bind]
  have stillReliable : world.restarted.Reliable := reliable
  apply bootstrapDefaults_rule stillReliable
  intro middle transport records
  rw [wp_bind, wp_get]
  have middleDistinct : middle.document.Distinct :=
    transport.distinct distinct
  apply reconcileRecords_rule (transport.reliable stillReliable)
    middleDistinct.records
  · exact fun record => middleDistinct.getToolset
  · intro after later reconciled
    apply started after (transport.trans later)
    intro ns
    rw [reconciled ns]
    split
    · rw [records ns]
      rfl
    · rename_i absent
      have missing := StateDocument.getToolset_eq_none.mpr absent
      have unbundled : bundled world ns = none := (records ns).symm.trans missing
      rw [missing, unbundled]
      rfl

end Start

/-! ## Runs with restarts -/

namespace Machine

/-- A new process on the document of the old one. -/
def restart (machine : Machine) : Machine :=
  { world := (outcome startService machine.world).2 }

/-- Neither a document nor a process. -/
def emptyHost (config : HostConfig) : Machine :=
  { world := { config := config } }

def firstProcess (config : HostConfig) : Machine :=
  (emptyHost config).restart

/-- Every task has been answered. -/
def idle (machine : Machine) : Bool :=
  (List.range machine.nextTask).all fun task =>
    !(machine.tasks task).any Task.unanswered

/-- Clients wait for the answer before they send something new. -/
def OneAtATime (machine : Machine) : Option Action → Prop
  | some action => action.arrives = true → machine.idle = true
  | none => True

instance (machine : Machine) :
    (action : Option Action) → Decidable (machine.OneAtATime action)
  | none => inferInstanceAs (Decidable True)
  | some _ => inferInstanceAs (Decidable (_ → _))

/-- No two tasks are in progress. -/
def Alone (machine : Machine) : Prop :=
  ∀ first second,
    (machine.tasks first).any Task.unanswered = true →
    (machine.tasks second).any Task.unanswered = true → first = second

structure Orderly (machine : Machine) : Prop where
  sane : machine.Sane
  serialized : machine.Serialized
  alone : machine.Alone
  reliable : machine.world.Reliable
  distinct : machine.world.document.Distinct

variable {machine after : Machine}

theorem alone_of_advance {task : TaskId} {next : Task}
    (tasks : after.tasks = Function.update machine.tasks task (some next))
    (others : ∀ other, other ≠ task →
      (machine.tasks other).any Task.unanswered = false) :
    after.Alone := by
  have only : ∀ other,
      (after.tasks other).any Task.unanswered = true → other = task := by
    intro other unanswered
    by_contra different
    rw [tasks, Function.update_of_ne different, others other different]
      at unanswered
    cases unanswered
  intro first second firstUnanswered secondUnanswered
  rw [only first firstUnanswered, only second secondUnanswered]

theorem Alone.others (alone : machine.Alone) {task : TaskId}
    (unanswered : (machine.tasks task).any Task.unanswered = true) :
    ∀ other, other ≠ task →
      (machine.tasks other).any Task.unanswered = false := by
  intro other different
  rw [← Bool.not_eq_true]
  intro otherUnanswered
  exact different (alone other task otherUnanswered unanswered)

theorem answered_of_idle (sane : machine.Sane) (idle : machine.idle = true)
    (task : TaskId) : (machine.tasks task).any Task.unanswered = false := by
  by_cases present : task < machine.nextTask
  · have answered :=
      List.all_eq_true.mp idle task (List.mem_range.mpr present)
    simpa using answered
  · rw [sane.fresh task (Nat.not_lt.mp present)]
    rfl

/-- With one task in progress, nobody is queued while it registers. -/
theorem Alone.strandsNobody (alone : machine.Alone) (action : Action) :
    machine.StrandsNobody action := by
  intro ns registering
  rw [← Bool.not_eq_true]
  intro stranded
  obtain ⟨queued, _, aside⟩ := List.any_eq_true.mp stranded
  cases action with
  | enter task =>
      cases found : machine.tasks task with
      | none =>
          simp [Machine.registering, found] at registering
      | some current =>
          have waits : ∃ lock block,
              machine.tasks queued = some (.waiting ns lock block) := by
            unfold queuedAside at aside
            split at aside
            · rename_i home lock block queuedFound
              have same := (of_decide_eq_true aside).1
              subst same
              exact ⟨lock, block, queuedFound⟩
            · cases aside
          obtain ⟨lock, block, queuedFound⟩ := waits
          have queuedUnanswered :
              (machine.tasks queued).any Task.unanswered = true := by
            simp [queuedFound, Task.unanswered]
          have unanswered : (machine.tasks task).any Task.unanswered = true := by
            rw [found]
            cases current with
            | answered answer =>
                simp [Machine.registering, found] at registering
            | arriving home block =>
                rfl
            | waiting home lock block =>
                rfl
            | entered home lock block =>
                rfl
            | suspended home lock operation rest entries stage =>
                rfl
            | calling tool stage =>
                rfl
          have same := alone queued task queuedUnanswered unanswered
          subst same
          rw [queuedFound] at found
          cases found
          simp [Machine.registering, queuedFound] at registering
  | request request =>
      cases registering
  | call mountedName =>
      cases registering
  | acquire task =>
      cases registering
  | grant task =>
      cases registering
  | reply task reply =>
      cases registering
  | callReply task reply =>
      cases registering
  | cancelWaiting task =>
      cases registering
  | die runtime =>
      cases registering

/-- What a new process starts with. -/
theorem restart_spec (reliable : machine.world.Reliable)
    (distinct : machine.world.document.Distinct) :
    SameTransport machine.world.restarted machine.restart.world ∧
      ∀ ns, machine.restart.world.document.getToolset ns =
        (bundled machine.world ns).map reconciledRecord := by
  have started :
      wp startService
        (fun _ after =>
          SameTransport machine.world.restarted after ∧
            ∀ ns, after.document.getToolset ns =
              (bundled machine.world ns).map reconciledRecord)
        (fun _ after =>
          SameTransport machine.world.restarted after ∧
            ∀ ns, after.document.getToolset ns =
              (bundled machine.world ns).map reconciledRecord)
        machine.world :=
    startService_rule reliable distinct fun after transport records =>
      ⟨transport, records⟩
  exact final_of_wp started

theorem orderly_restart (reliable : machine.world.Reliable)
    (distinct : machine.world.document.Distinct) :
    machine.restart.Orderly := by
  obtain ⟨transport, _⟩ := restart_spec reliable distinct
  have unmounted : machine.restart.world.runtimes = [] := transport.runtimes
  exact {
    sane := {
      housed := fun ns runtime mounted => by
        rw [unmounted] at mounted
        cases mounted
      fresh := fun _ _ => rfl
      proper := fun task current found => by cases found
      running := fun task current found => by cases found
      consistent := Mutex.Consistent.initial }
    serialized := {
      registered := fun _ _ _ _ _ _ _ found => by cases found
      entry := fun _ _ _ _ found => by cases found }
    alone := fun first second unanswered => by cases unanswered
    reliable := transport.reliable reliable
    distinct := transport.distinct distinct }

theorem reliable_emptyHost (config : HostConfig) :
    (emptyHost config).world.Reliable := by
  simp [emptyHost, World.Reliable]

theorem orderly_firstProcess (config : HostConfig) :
    (firstProcess config).Orderly :=
  orderly_restart (reliable_emptyHost config) StateDocument.distinct_empty

section Runs

variable [Platform]

/-- A step of the machine, or a restart of the process. -/
def lifeStep (machine : Machine) : Option Action → Option Machine
  | some action => step machine action
  | none => some machine.restart

theorem alone_step (orderly : machine.Orderly) {action : Action}
    (meets : machine.OneAtATime (some action))
    (turn : machine.Turn action after) : after.Alone := by
  cases turn with
  | @aside task next moves tasks awake world elsewhere =>
      apply alone_of_advance tasks
      intro other different
      rcases moves with ⟨arrives, rfl⟩ | approaching
      · exact answered_of_idle orderly.sane (meets arrives) other
      · have unanswered :
            (machine.tasks task).any Task.unanswered = true := by
          obtain ⟨current, found, approaches⟩ :=
            Option.any_eq_true _ _ |>.mp approaching
          simp [found, Task.unanswered_of_approaching approaches]
        exact orderly.alone.others unanswered other different
  | @visiting task ns lock operation rest entries program stretch proceeds =>
      subst proceeds
      obtain ⟨next, tasks⟩ := tasks_proceed machine
        (outcome program machine.world)
      exact alone_of_advance tasks (orderly.alone.others stretch.unanswered)
  | @calling task tool world program locks stretch proceeds elsewhere =>
      subst proceeds
      obtain ⟨next, tasks⟩ := tasks_proceedCall
        { machine with locks := locks } (outcome program world)
      exact alone_of_advance tasks (orderly.alone.others stretch.unanswered)
  | dying died elsewhere =>
      subst died
      exact orderly.alone

theorem orderly_step (orderly : machine.Orderly) {action : Action}
    (meets : machine.OneAtATime (some action))
    (taken : step machine action = some after) : after.Orderly := by
  have turn := turn_of_step taken
  have store := store_of_turn orderly.sane turn
  exact {
    sane := sane_step orderly.sane taken
    serialized :=
      serialized_step orderly.sane orderly.serialized
        (orderly.alone.strandsNobody action) taken
    alone := alone_step orderly meets turn
    reliable := store.1 orderly.reliable
    distinct := store.2 orderly.distinct }

theorem orderly_lifeStep (orderly : machine.Orderly)
    {action : Option Action} (meets : machine.OneAtATime action)
    (taken : lifeStep machine action = some after) : after.Orderly := by
  cases action with
  | none =>
      cases taken
      exact orderly_restart orderly.reliable orderly.distinct
  | some action =>
      exact orderly_step orderly meets taken

end Runs

end Machine

end ToolboxMcp
