import ToolboxMcp.Commitments
import ToolboxMcp.LateFailures

/-!
# What an activation answers

An activation may answer that a scope is active on three paths: it has opened a
runtime, it has added the scope to a running one, or it has found the scope
loaded already.  Only the second path looks at the runtime when it answers, so
the answer is true exactly when the runtime is alive on the other two.
-/

namespace ToolboxMcp

open Effect

/-- The entry tells the client that the scope is active. -/
def Entry.affirms (ns : Namespace) (scope : Scope) : Entry → Bool
  | .activated result => result.ns = ns && result.scope = scope
  | .skipped other reason _ => other = ns && reason = "already_active"
  | _ => false

namespace World

variable (world : World)

/-- The scope is loaded, and the namespace has its tools mounted. -/
structure Callable (ns : Namespace) (scope : Scope) : Prop where
  loaded :
    ∃ record, world.record ns = some record ∧ scope ∈ record.loadedScopes
  running : ∃ runtime, world.runtimeFor ns = some runtime

/-- An activation of the scope is skipped although nothing runs. -/
def skipsDead (ns : Namespace) (scope : Scope) (ifNotLoaded : Bool) : Bool :=
  ifNotLoaded && !world.hasConnection ns &&
    (world.record ns).any fun record => scope ∈ record.loadedScopes

variable {world} {ns : Namespace} {scope : Scope} {record : ToolsetRecord}

theorem callable_iff
    (found : world.document.getToolset ns = some record)
    (loaded : scope ∈ record.loadedScopes) :
    world.Callable ns scope ↔ world.hasConnection ns = true := by
  constructor
  · intro callable
    obtain ⟨runtime, running⟩ := callable.running
    exact hasConnection_iff.mpr ⟨runtime, runtimeFor_eq_some.mp running⟩
  · intro connected
    obtain ⟨runtime, running⟩ := hasConnection_iff.mp connected
    exact ⟨⟨record, found, loaded⟩, runtime, runtimeFor_eq_some.mpr running⟩

/-- The actor of a closed runtime may end at any time. -/
theorem hasConnection_markDone_shut {runtime : RuntimeId}
    (shut : world.Shut runtime) :
    (world.markDone runtime).hasConnection ns = world.hasConnection ns := by
  have same : (world.markDone runtime).isRunning = world.isRunning := by
    funext other
    unfold isRunning ManagedToolsetRuntime.isRunning
    rw [markDone_objects, Function.update_apply]
    split
    · rename_i here
      unfold Shut at shut
      simp [here, shut]
    · rfl
  unfold hasConnection
  rw [same]
  rfl

theorem hasConnection_landed (runtime : RuntimeId) (tools : List Tool) :
    (landed world ns runtime tools).hasConnection ns =
      world.isRunning runtime := by
  have mounted : (landed world ns runtime tools).mounted ns = some runtime := by
    simp [landed, Dict.get_set]
  unfold hasConnection
  rw [mounted]
  exact isRunning_setTools runtime runtime tools

end World

/-! ## The stretches of an activation -/

/-- Whatever the stretch answers is true unless it is `dead`. -/
def Progress.Answers (ns : Namespace) (scope : Scope) (dead : Bool)
    (after : World) (progress : Progress) : Prop :=
  ∀ entries entry,
    progress = .left entries → entry ∈ entries →
      entry.affirms ns scope = true →
        (after.Callable ns scope ↔ dead = false)

def Stage.answersDead (world : World) (ns : Namespace) : Stage → Bool
  | .opening _ _ runtime => !world.isRunning runtime
  | .swapping .. => !world.hasConnection ns
  | _ => false

section Stretches

variable {ns : Namespace} {scope : Scope} {dead : Bool} {after world : World}

theorem answers_inside (stage : Stage) :
    (Progress.inside stage).Answers ns scope dead after := by
  intro entries entry left
  cases left

theorem answers_failed (error : ErrorInfo) :
    (Progress.left [.failed error]).Answers ns scope dead after := by
  intro entries entry left member affirmed
  cases left
  rw [List.mem_singleton.mp member] at affirmed
  cases affirmed

theorem answers_loaded {entries : List Entry} {record : ToolsetRecord}
    (found : after.document.getToolset ns = some record)
    (loaded : scope ∈ record.loadedScopes)
    (connected : after.hasConnection ns = !dead) :
    (Progress.left entries).Answers ns scope dead after := by
  intro others entry left member affirmed
  rw [World.callable_iff found loaded, connected, Bool.not_eq_true']

variable [Platform]

theorem startActivate_answers {ifNotLoaded : Bool} :
    wp (startActivate ns scope ifNotLoaded)
      (fun progress after =>
        progress.Answers ns scope (world.skipsDead ns scope ifNotLoaded)
          after)
      (fun _ _ => True) world := by
  apply startActivate_rule
  · exact fun error after _ => answers_failed error
  · intro record found reusable wanted loaded
    have skips :
        world.skipsDead ns scope ifNotLoaded = !world.hasConnection ns := by
      simp [World.skipsDead, wanted, found, loaded]
    apply answers_loaded found loaded
    rw [skips, Bool.not_not]
  · intro record runtime now result after found supported reusable subject
      added wrote
    have running : world.runtimeFor ns = some runtime :=
      (Option.filter_eq_some_iff.mp reusable).1
    have connected : world.hasConnection ns = true :=
      World.hasConnection_iff.mpr
        ⟨runtime, World.runtimeFor_eq_some.mp running⟩
    have loaded : scope ∈ (activateReused record scope now).loadedScopes := by
      change scope ∈ (activated record scope).loadedScopes
      simp
    apply answers_loaded wrote.written loaded
    rw [wrote.hasConnection, connected]
    simp [World.skipsDead, connected]
  · exact fun _ _ _ _ _ _ _ _ => trivial
  · exact fun _ _ _ _ _ _ _ => answers_inside _
  · exact fun _ _ _ _ _ _ => answers_failed _
  · exact fun _ _ _ _ => trivial

omit [Platform] in
/-- A completed activation has loaded its scope. -/
theorem answers_completed {record : ToolsetRecord}
    {snapshot : SchemaSnapshot} {entries : List Entry} {now : Time}
    {before : World}
    (installed :
      Installed ns ((Opening.activate scope).completedRecord record snapshot now)
        snapshot before after)
    (connected : before.hasConnection ns = !dead) :
    (Progress.left entries).Answers ns scope dead after := by
  apply answers_loaded installed.written
  · simp only [Opening.completedRecord]
    exact mem_activated_loaded _ _ _ |>.mpr (.inl rfl)
  · rw [installed.hasConnection, connected]

omit [Platform] in
/-- A failed activation does not affirm anything. -/
theorem answers_late {entries : List Entry} {error : ErrorInfo}
    {completed : Entry}
    (reported : ∀ entry ∈ entries,
      entry = .failed error ∨
        (Opening.activate scope).reportedEarly = true ∧ entry = completed) :
    (Progress.left entries).Answers ns scope dead after := by
  intro others entry left member affirmed
  cases left
  rcases reported entry member with rfl | ⟨early, _⟩
  · cases affirmed
  · cases early

theorem resume_answers {stage : Stage} {ifNotLoaded : Bool}
    (proper : stage.Proper world ns)
    (serves : stage.Serves (.activate scope ifNotLoaded))
    (shut : ∀ runtime, stage.ending = some runtime → world.Shut runtime)
    (reply : Reply) :
    wp (resume ns stage reply)
      (fun progress after =>
        progress.Answers ns scope (stage.answersDead world ns) after)
      (fun _ _ => True) world := by
  cases stage with
  | opening purpose record runtime =>
      cases purpose with
      | restore candidates startup =>
          obtain ⟨_, ⟨⟩⟩ := serves
      | refresh wanted previousTools oldHash =>
          obtain ⟨_, ⟨⟩⟩ := serves
      | activate wanted =>
          obtain ⟨_, ⟨⟩⟩ := serves
          apply resumeOpening_rule proper.1
          · exact fun _ => trivial
          · exact fun _ _ _ _ => answers_failed _
          · exact fun _ _ _ _ _ _ _ => answers_inside _
          · intro tools snapshot now after _ _ _ _ installed
            apply answers_completed installed
            rw [World.hasConnection_landed]
            simp [Stage.answersDead]
          · exact fun _ _ _ _ _ _ _ _ _ _ _ _ _ reported =>
              answers_late reported
          · exact fun _ _ _ _ => trivial
  | swapping closing purpose record snapshot =>
      cases purpose with
      | restore candidates startup =>
          obtain ⟨_, ⟨⟩⟩ := serves
      | refresh wanted previousTools oldHash =>
          obtain ⟨_, ⟨⟩⟩ := serves
      | activate wanted =>
          obtain ⟨_, ⟨⟩⟩ := serves
          have closed : world.Shut closing.runtime := shut _ rfl
          apply resumeSwapping_rule proper.1 proper.2.1
          · exact fun _ => trivial
          · exact fun _ _ _ _ => answers_failed _
          · intro now after _ installed
            apply answers_completed installed
            rw [World.hasConnection_markDone_shut closed]
            simp [Stage.answersDead]
          · exact fun _ _ _ _ _ _ _ _ reported => answers_late reported
          · exact fun _ _ _ _ => trivial
  | deactivating closing scope force record =>
      cases serves
  | unregistering closing force =>
      cases serves
  | probing scope record runtime =>
      cases serves
  | aborting scope record runtime =>
      cases serves
  | unhealthy closing scope record exception =>
      cases serves

end Stretches

namespace Machine

/-- The namespace and the scope of a stretch of an activation. -/
def Visit.activation (visit : Visit) : Option (Namespace × Scope) :=
  match visit.operation with
  | .activate scope _ => some (visit.ns, scope)
  | _ => none

/-- What the action activates, if it runs a stretch of an activation. -/
def activating [Platform] (machine : Machine) (action : Action) :
    Option (Namespace × Scope) :=
  (machine.visit action).bind Visit.activation

/-- The stretch the action runs does not have the runtime its answer is about:
it finds the scope loaded while nothing runs, or the runtime it has opened, or
has swapped in, has died before the answer. -/
def answersDead (machine : Machine) : Action → Bool
  | .enter task =>
      match machine.tasks task with
      | some (.entered ns _ (.operation (.activate scope ifNotLoaded) _ _)) =>
          machine.world.skipsDead ns scope ifNotLoaded
      | _ => false
  | .reply task _ =>
      match machine.tasks task with
      | some (.suspended ns _ _ _ _ stage) =>
          stage.answersDead machine.world ns
      | _ => false
  | _ => false

section Runs

variable [Platform] {machine after : Machine} {action : Action}

theorem visit_answers_activate (sane : machine.Sane)
    (committed : machine.Committed) {ns : Namespace} {scope : Scope}
    {ifNotLoaded : Bool} {program : ServiceM Progress}
    (visits :
      machine.visit action =
        some ⟨ns, .activate scope ifNotLoaded, program⟩) :
    wp program
      (fun progress after =>
        progress.Answers ns scope (machine.answersDead action) after)
      (fun _ _ => True) machine.world := by
  cases action with
  | enter task =>
      simp only [Machine.visit] at visits
      split at visits
      · rename_i ns lock operation rest entries found
        cases visits
        simp only [answersDead, found]
        exact startActivate_answers
      · cases visits
  | reply task reply =>
      simp only [Machine.visit] at visits
      split at visits
      · rename_i ns lock operation rest entries stage found
        cases visits
        simp only [answersDead, found]
        apply resume_answers (sane.proper task _ found)
          (committed.serves task _ _ _ _ _ _ found)
        intro runtime ends
        apply committed.shut task runtime
        simpa [ending, found, Task.ending] using ends
      · cases visits
  | request request =>
      cases visits
  | call mountedName =>
      cases visits
  | acquire task =>
      cases visits
  | grant task =>
      cases visits
  | callReply task reply =>
      cases visits
  | cancelWaiting task =>
      cases visits
  | die runtime =>
      cases visits

/-- The answers of any stretch of an activation. -/
theorem visit_answers (sane : machine.Sane) (committed : machine.Committed)
    {visit : Visit} {ns : Namespace} {scope : Scope}
    (visits : machine.visit action = some visit)
    (activates : visit.activation = some (ns, scope)) :
    wp visit.program
      (fun progress after =>
        progress.Answers ns scope (machine.answersDead action) after)
      (fun _ _ => True) machine.world := by
  obtain ⟨subject, operation, program⟩ := visit
  cases operation with
  | activate wanted ifNotLoaded =>
      cases activates
      exact visit_answers_activate sane committed visits
  | _ =>
      cases activates

/-- In every state of every run: where an activation answers that the scope is
active, the toolset can be called exactly if its runtime has not died. -/
theorem active_answer {world : World}
    (reaches : Reaches step (fun _ _ => True) (boot world) machine)
    (taken : step machine action = some after)
    {ns : Namespace} {scope : Scope} {entry : Entry}
    (activates : machine.activating action = some (ns, scope))
    (reported : entry ∈ machine.reports action)
    (affirmed : entry.affirms ns scope = true) :
    after.world.Callable ns scope ↔ machine.answersDead action = false := by
  obtain ⟨sane, committed⟩ := committed_of_reaches reaches
  obtain ⟨visit, visits, activates⟩ := Option.bind_eq_some_iff.mp activates
  have answers := visit_answers sane committed visits activates
  have turn := turn_of_step taken
  cases turn with
  | aside moves tasks awake world elsewhere =>
      rw [elsewhere] at visits
      cases visits
  | visiting stretch proceeds same =>
      rw [same] at visits
      cases visits
      subst proceeds
      rw [proceed_world]
      simp only [reports, same] at reported
      rcases wp_cases answers with
        ⟨stage | entries, final, computed, holds⟩ |
          ⟨raised, final, computed, _⟩
      · rw [computed] at reported
        cases reported
      · rw [computed] at reported ⊢
        exact holds entries entry rfl reported affirmed
      · rw [computed] at reported
        cases reported
  | calling stretch proceeds elsewhere =>
      rw [elsewhere] at visits
      cases visits
  | dying died elsewhere =>
      rw [elsewhere] at visits
      cases visits

end Runs

section Ascii

open scoped Ascii

/-- The activation opens a runtime and answers when it has come up. -/
theorem active_answer_fake :
    ∃ machine after,
      step machine (.reply 0 (.ok [Ascii.ping])) = some after ∧
        (∃ entry ∈ machine.reports (.reply 0 (.ok [Ascii.ping])),
          entry.affirms "fake_stdio" .thread = true) ∧
        after.world.Callable "fake_stdio" .thread := by
  obtain ⟨machine, reaches, moves, activates, affirmed, alive⟩ :=
    exists_reaches_of_execute
      [.request (.activateToolsets ["fake_stdio"] "thread" true),
       .acquire 0, .enter 0]
      (by decide +kernel :
        (execute step (fun _ _ => True) (boot bundledWorld) _).any
          (fun machine =>
            (step machine (.reply 0 (.ok [Ascii.ping]))).isSome = true ∧
              machine.activating (.reply 0 (.ok [Ascii.ping])) =
                some ("fake_stdio", .thread) ∧
              (machine.reports (.reply 0 (.ok [Ascii.ping]))).any
                (Entry.affirms "fake_stdio" .thread) = true ∧
              machine.answersDead (.reply 0 (.ok [Ascii.ping])) = false) =
          true)
  obtain ⟨after, taken⟩ := Option.isSome_iff_exists.mp moves
  obtain ⟨entry, reported, affirms⟩ := List.any_eq_true.mp affirmed
  exact ⟨machine, after, taken, ⟨entry, reported, affirms⟩,
    (active_answer reaches taken activates reported affirms).mpr alive⟩

/-- After a call has lost its runtime, the next activation is skipped as
already active. -/
theorem dead_answer :
    ∃ machine after,
      Reaches step (fun _ _ => True) (boot bundledWorld) machine ∧
        step machine (.enter 2) = some after ∧
        machine.activating (.enter 2) = some ("fake_stdio", .thread) ∧
        (∃ entry ∈ machine.reports (.enter 2),
          entry.affirms "fake_stdio" .thread = true) ∧
        (after.tasks 2).any Task.unanswered = false ∧
        ¬ after.world.Callable "fake_stdio" .thread := by
  obtain ⟨machine, reaches, moves, activates, affirmed⟩ :=
    exists_reaches_of_execute
      (callStarted ++
        [lostCall, .callReply 1 (.ok {}), .acquire 1, .enter 1,
         .request (.activateToolsets ["fake_stdio"] "thread" true),
         .acquire 2])
      (by decide +kernel :
        (execute step (fun _ _ => True) (boot bundledWorld) _).any
          (fun machine =>
            (step machine (.enter 2)).any
                (fun after =>
                  !after.world.hasConnection "fake_stdio" &&
                    !(after.tasks 2).any Task.unanswered) = true ∧
              machine.activating (.enter 2) = some ("fake_stdio", .thread) ∧
              (machine.reports (.enter 2)).any
                (Entry.affirms "fake_stdio" .thread) = true) = true)
  obtain ⟨after, taken, ended⟩ := (Option.any_eq_true _ _).mp moves
  obtain ⟨unconnected, answered⟩ :
      after.world.hasConnection "fake_stdio" = false ∧
        (after.tasks 2).any Task.unanswered = false := by
    simpa using ended
  obtain ⟨entry, reported, affirms⟩ := List.any_eq_true.mp affirmed
  refine ⟨machine, after, reaches, taken, activates,
    ⟨entry, reported, affirms⟩, answered, ?_⟩
  intro callable
  obtain ⟨runtime, running⟩ := callable.running
  rw [World.runtimeFor_eq_none.mpr unconnected] at running
  cases running

end Ascii

end Machine

end ToolboxMcp
