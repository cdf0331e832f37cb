import ToolboxMcp.Following
import ToolboxMcp.LateFailures
import ToolboxMcp.Service.Marking
import ToolboxMcp.Turns

/-!
# Stale marks in a run

Once a namespace is marked as stale, it stays so until the machine reports what
has reset the mark, as long as no failed activation writes back a record that
it read before the mark was set.
-/

namespace ToolboxMcp

open Effect

/-- The stretch follows an await. -/
def Action.replies : Action → Bool
  | .reply _ _ => true
  | _ => false

namespace Machine

section Runs

variable [Platform]

/-- The handler of a failed activation of the namespace forgets the mark. -/
def forgets (machine : Machine) (ns : Namespace) : Action → Bool
  | .reply task reply =>
      match machine.tasks task with
      | some (.suspended home _ _ _ _ stage) =>
          home = ns && stage.forgets ns reply
      | _ => false
  | _ => false

/-- What is reported of the namespace that resets its mark. -/
def resets (ns : Namespace) (machine : Machine) (action : Action)
    (_ : Machine) : List Entry :=
  match machine.visit action with
  | some visit =>
      if visit.ns = ns then
        (machine.reports action).filter (Entry.resets action.replies)
      else
        []
  | none => []

omit [Platform] in
/-- No suspended deactivation has a scope left. -/
def Drained (machine : Machine) : Prop :=
  ∀ task ns lock operation rest entries stage,
    machine.tasks task =
        some (.suspended ns lock operation rest entries stage) →
      stage.Drained

variable {machine after : Machine} {action : Action} {ns : Namespace}

/-- What a stretch reports of its namespace. -/
theorem resets_visit {visit : Visit}
    (visits : machine.visit action = some visit) (here : visit.ns = ns) :
    machine.resets ns action after =
      (reported (outcome visit.program machine.world).1).filter
        (Entry.resets action.replies) := by
  simp [resets, reports, visits, here]

/-- A stretch keeps the mark of its own namespace or reports the reset. -/
theorem visit_keeps (sane : machine.Sane) (drained : machine.Drained)
    (reliable : machine.world.Reliable) {visit : Visit}
    (visits : machine.visit action = some visit) :
    wp visit.program
      (fun progress after =>
        progress.Keeps visit.ns action.replies
          (machine.world.Stale visit.ns ∧
            machine.forgets visit.ns action = false) after)
      (fun _ after =>
        machine.world.Stale visit.ns → after.Stale visit.ns)
      machine.world := by
  unfold Machine.visit at visits
  cases action with
  | enter task =>
      simp only at visits
      split at visits
      · rename_i home lock operation rest entries found
        cases visits
        simpa [Action.replies, forgets] using start_keeps reliable operation
      · cases visits
  | reply task reply =>
      simp only at visits
      split at visits
      · rename_i home lock operation rest entries stage found
        cases visits
        simpa [Action.replies, forgets, found] using
          resume_keeps reliable (sane.proper task _ found)
            (drained task _ _ _ _ _ _ found)
      · cases visits
  | _ =>
      cases visits

omit [Platform] in
/-- One task has moved on without suspending in a deactivation. -/
theorem Drained.advance (drained : machine.Drained) {task : TaskId}
    {next : Task}
    (tasks : after.tasks = Function.update machine.tasks task (some next))
    (suspends : ∀ ns lock operation rest entries stage,
      next = .suspended ns lock operation rest entries stage →
        stage.Drained) :
    after.Drained := by
  intro other home lock operation rest entries stage found
  rw [tasks] at found
  by_cases same : other = task
  · subst same
    rw [Function.update_self] at found
    exact suspends _ _ _ _ _ _ (Option.some.inj found)
  · rw [Function.update_of_ne same] at found
    exact drained other _ _ _ _ _ _ found

theorem drained_turn (sane : machine.Sane) (drained : machine.Drained)
    (reliable : machine.world.Reliable)
    (turn : machine.Turn action after) : after.Drained := by
  cases turn with
  | @aside task next moves tasks awake world elsewhere =>
      refine drained.advance tasks ?_
      rintro _ _ _ _ _ _ rfl
      cases awake
  | visiting stretch proceeds visits =>
      subst proceeds
      rcases wp_cases (visit_keeps sane drained reliable visits) with
        ⟨stage | more, world, computed, keeps⟩ | ⟨raised, world, computed, _⟩
      · rw [computed]
        refine drained.advance rfl ?_
        rintro _ _ _ _ _ _ ⟨⟩
        exact keeps.1
      · rw [computed]
        refine drained.advance rfl ?_
        intro _ _ _ _ _ _ same
        unfold nextVisit at same
        split at same <;> cases same
      · rw [computed]
        refine drained.advance rfl ?_
        rintro _ _ _ _ _ _ ⟨⟩
  | calling stretch proceeds elsewhere =>
      subst proceeds
      rename_i task tool world program locks
      rcases outcome program world with ⟨raised | stage | result, final⟩
      · exact drained.advance rfl (by simp [concluding])
      · exact drained.advance rfl (by simp)
      · exact drained.advance rfl (by simp [concluding])
  | dying died elsewhere =>
      subst died
      exact drained

/-- A step keeps the mark or reports the reset. -/
theorem stale_turn (sane : machine.Sane) (drained : machine.Drained)
    (reliable : machine.world.Reliable) (stale : machine.world.Stale ns)
    (remembers : machine.forgets ns action = false)
    (turn : machine.Turn action after) :
    after.world.Stale ns ∨ machine.resets ns action after ≠ [] := by
  cases turn with
  | aside moves tasks awake world elsewhere =>
      exact .inl (stale.same (world.records ns))
  | @visiting task home lock operation rest entries program stretch proceeds
      visits =>
      subst proceeds
      rw [proceed_world]
      by_cases here : home = ns
      · subst here
        rw [resets_visit visits rfl]
        rcases wp_cases (visit_keeps sane drained reliable visits) with
          ⟨stage | more, world, computed, keeps⟩ |
            ⟨raised, world, computed, keeps⟩
        · rw [computed]
          exact .inl (keeps.2 ⟨stale, remembers⟩)
        · rw [computed]
          rcases keeps ⟨stale, remembers⟩ with kept | reset
          · exact .inl kept
          · right
            obtain ⟨entry, member, resetting⟩ := List.any_eq_true.mp reset
            exact List.ne_nil_of_mem
              (List.mem_filter.mpr ⟨member, resetting⟩)
        · rw [computed]
          exact .inl (keeps stale)
      · left
        have sound := final_of_wp_left (stretch.sound sane)
        exact stale.same (sound.records ns (Ne.symm here))
  | @calling task tool world program locks stretch proceeds elsewhere =>
      subst proceeds
      rw [proceedCall_world]
      left
      have counted := stretch.aside
      have before : world.Stale ns := stale.same (counted.records ns)
      by_cases here : tool.ns = ns
      · subst here
        have keeps :
            wp program
              (fun _ after => world.Stale tool.ns → after.Stale tool.ns)
              (fun _ after => world.Stale tool.ns → after.Stale tool.ns)
              world := by
          cases stretch with
          | first found turn resolved =>
              exact dispatchCall_stale (counted.reliable reliable)
          | later reply found free =>
              exact resumeCall_stale reliable _ reply
        exact final_of_wp keeps before
      · have sound := final_of_wp_left (stretch.sound sane)
        exact before.same (sound.records ns (Ne.symm here))
  | dying died elsewhere =>
      subst died
      exact .inl stale

/-- What the run theorem needs of every state. -/
structure Marking (machine : Machine) : Prop where
  sane : machine.Sane
  drained : machine.Drained
  reliable : machine.world.Reliable

/-- The mark is there or has been reset. -/
structure Marked (ns : Namespace) (state : Machine × List Entry) : Prop
    extends Marking state.1 where
  kept : state.1.world.Stale ns ∨ state.2 ≠ []

theorem Marking.step (marking : machine.Marking)
    (taken : Machine.step machine action = some after) : after.Marking where
  sane := sane_step marking.sane taken
  drained :=
    drained_turn marking.sane marking.drained marking.reliable
      (turn_of_step taken)
  reliable :=
    (store_of_turn marking.sane (turn_of_step taken)).1 marking.reliable

/-- While nothing that resets it is reported and no failed activation forgets
it, a stale mark stays. -/
theorem stale_of_reaches {world : World} {seen : List Entry}
    (reliable : world.Reliable)
    (reaches : Reaches step (fun _ _ => True) (boot world) machine)
    (stale : machine.world.Stale ns)
    (runs :
      Reaches (monitor step (resets ns))
        (fun state action => state.1.forgets ns action = false)
        (machine, []) (after, seen)) :
    after.world.Stale ns ∨ seen ≠ [] := by
  have marking : machine.Marking := by
    apply reaches.invariant
    · refine ⟨sane_boot world, ?_, reliable⟩
      intro _ _ _ _ _ _ _ found
      cases found
    · exact fun _ _ _ marking _ taken => marking.step taken
  have marked : Marked ns (after, seen) := by
    apply runs.invariant ⟨marking, .inl stale⟩
    rintro before action next marked remembers taken
    obtain ⟨moved, observed⟩ := monitor_eq_some.mp taken
    refine ⟨marked.step moved, ?_⟩
    rw [observed]
    rcases marked.kept with stays | reset
    · rcases stale_turn marked.sane marked.drained marked.reliable stays
        remembers (turn_of_step moved) with later | reports
      · exact .inl later
      · exact .inr (List.append_ne_nil_of_right_ne_nil _ reports)
    · exact .inr (List.append_ne_nil_of_left_ne_nil reset _)
  exact marked.kept

end Runs

section Ascii

open scoped Ascii

/-- The host activates the toolset again while task 1 calls a tool. -/
def activatedAgain : List Action :=
  callStarted ++
    [.request (.activateToolsets ["fake_stdio"] "thread" false),
     .acquire 2, .enter 2]

/-- The call of task 1 fails, its runtime is disconnected, and the record is
marked. -/
def markedByCall : List Action :=
  [lostCall, .callReply 1 (.ok {})]

/-- The mark outlives the health check that finds no runtime. -/
theorem stale_of_reaches_fake :
    ∃ machine after,
      Reaches step (fun _ _ => True) (boot bundledWorld) machine ∧
        machine.world.Stale "fake_stdio" ∧
        (Reaches (monitor step (resets "fake_stdio")) (fun _ _ => True)
            (machine, []) (after, [])) ∧
          (after.response 2).isSome ∧ after.world.Stale "fake_stdio" := by
  obtain ⟨machine, reaches, stale, moves⟩ :=
    exists_reaches_of_execute (callStarted ++ markedByCall)
      (by decide +kernel :
        (execute step (fun _ _ => True) (boot bundledWorld) _).any
          (fun machine =>
            machine.world.Stale "fake_stdio" ∧
              (execute (monitor step (resets "fake_stdio"))
                (fun state action =>
                  state.1.forgets "fake_stdio" action = false)
                (machine, [])
                [.acquire 1, .enter 1,
                 .request (.checkToolsetHealth (some ["fake_stdio"]) none),
                 .acquire 2, .enter 2]).any
                (fun state =>
                  (state.1.response 2).isSome ∧ state.2 = []) = true) = true)
  obtain ⟨⟨after, seen⟩, runs, answered, rfl⟩ :=
    exists_reaches_of_execute _ moves
  have lasts :=
    stale_of_reaches (fun _ member => by cases member) reaches stale runs
  rcases lasts with stays | reset
  · exact ⟨machine, after, reaches, stale,
      runs.mono fun _ _ _ => trivial, answered, stays⟩
  · exact absurd rfl reset

def failedAlone : List Entry → Bool
  | [.failed _] => true
  | _ => false

theorem eq_of_failedAlone {entries : List Entry}
    (alone : failedAlone entries = true) :
    ∃ error, entries = [.failed error] := by
  unfold failedAlone at alone
  split at alone
  · exact ⟨_, rfl⟩
  · cases alone

/-- The call fails and marks the record while the activation is bootstrapping;
the bootstrap fails too, and its handler writes back the unmarked record. -/
theorem failed_activation_forgets :
    ∃ machine after error,
      Reaches step (fun _ _ => True) (boot bundledWorld) machine ∧
        machine.world.Stale "fake_stdio" ∧
        (Reaches (monitor step (resets "fake_stdio")) (fun _ _ => True)
            (machine, []) (after, [])) ∧
          after.response 2 = some [.failed error] ∧
          ¬ after.world.Stale "fake_stdio" := by
  obtain ⟨machine, reaches, stale, moves⟩ :=
    exists_reaches_of_execute (activatedAgain ++ markedByCall)
      (by decide +kernel :
        (execute step (fun _ _ => True) (boot bundledWorld) _).any
          (fun machine =>
            machine.world.Stale "fake_stdio" ∧
              (execute (monitor step (resets "fake_stdio"))
                (fun _ _ => True) (machine, [])
                [.acquire 1,
                 .reply 2
                  (.error (.exception { message := "Connection refused" }))]
                ).any
                (fun state =>
                  (state.1.response 2).any failedAlone = true ∧
                    state.2 = [] ∧
                    ¬ state.1.world.Stale "fake_stdio") = true) = true)
  obtain ⟨⟨after, seen⟩, runs, failed, rfl, unmarked⟩ :=
    exists_reaches_of_execute _ moves
  obtain ⟨entries, answered, alone⟩ := (Option.any_eq_true _ _).mp failed
  obtain ⟨error, rfl⟩ := eq_of_failedAlone alone
  exact ⟨machine, after, error, reaches, stale, runs, answered, unmarked⟩

end Ascii

end Machine

end ToolboxMcp
