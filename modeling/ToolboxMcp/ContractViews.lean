import ToolboxMcp.KnownGood
import ToolboxMcp.Mirrored
import ToolboxMcp.Service.Inspection

/-!
# Contract views in runs

The cached and the mounted view of a namespace show the same contracts as long
as its snapshot is the one of its runtime.  What a refresh reports is what both
diffs show until something else is done to the namespace.
-/

namespace ToolboxMcp

open Effect

namespace Machine

section Runs

variable [Platform] {machine before reported after later : Machine}
  {action : Action} {ns : Namespace} {runtime : RuntimeId}

/-! ## Agreement -/

/-- In undisturbed runs, only an empty inventory makes a difference. -/
theorem viewsAgree_of_lives (reliable : machine.world.Reliable)
    (distinct : machine.world.document.Distinct)
    (reaches : Reaches lifeStep Undisturbed machine.restart after)
    (running : after.world.runtimeFor ns = some runtime)
    (still : ¬ after.Swapping ns) :
    ViewsAgree after.world ns ↔
      (after.world.objects runtime).tools ≠ [] := by
  have both : after.Serial ∧ after.Mirrored True :=
    mirrored_of_lives (fun _ _ meets => meets.1) (fun _ _ meets _ => meets.2)
      reliable distinct reaches
  have mounted := (World.runtimeFor_eq_some.mp running).1
  obtain ⟨snapshot, cached, captured⟩ :=
    (both.2.faithful ns still).mounted trivial runtime mounted
  exact viewsAgree_iff running cached captured

/-! ## Refreshes -/

/-- The step does nothing inside the lock of the namespace. -/
def Leaves (ns : Namespace) (machine : Machine) : Option Action → Prop
  | some action =>
      (machine.visit action).all (fun visit => visit.ns ≠ ns) = true
  | none => True

instance (ns : Namespace) (machine : Machine) :
    (action : Option Action) → Decidable (machine.Leaves ns action)
  | none => inferInstanceAs (Decidable True)
  | some _ => inferInstanceAs (Decidable (_ = true))

/-- A step elsewhere keeps the runtime and the snapshots, or loses the
runtime. -/
theorem thins_turn (serial : machine.Serial)
    (turn : machine.Turn action after)
    (leaves : machine.Leaves ns (some action)) :
    Thins ns machine.world after.world := by
  cases turn with
  | aside moves tasks awake world elsewhere =>
      exact world.thins ns
  | visiting stretch proceeds visits =>
      subst proceeds
      have different := leaves
      rw [Leaves, visits, Option.all_some, decide_eq_true_iff] at different
      rw [proceed_world]
      have sound := final_of_wp_left (stretch.sound serial.sane)
      exact sound.toConfined.thins serial.sane.housed different.symm
  | calling stretch proceeds elsewhere =>
      subst proceeds
      rw [proceedCall_world]
      exact final_of_wp (stretch.thins serial ns)
  | dying died elsewhere =>
      subst died
      exact thins_markDone _

/-- The result is still the comparison of the snapshots, unless the runtime is
lost. -/
structure Shown (ns : Namespace) (result : RefreshResult)
    (machine : Machine) : Prop where
  serial : machine.Serial
  shows : machine.world.runtimes.get ns ≠ none →
    machine.world.Refreshed ns result ∧ machine.world.Faithful True ns

theorem Shown.thins {result : RefreshResult}
    (shown : machine.Shown ns result) (serial : after.Serial)
    (thins : Thins ns machine.world after.world) : after.Shown ns result where
  serial := serial
  shows mounted := by
    obtain ⟨runtime, present⟩ := Option.ne_none_iff_exists'.mp mounted
    have earlier := (thins.mounted runtime present).1
    obtain ⟨refreshed, faithful⟩ :=
      shown.shows (Option.ne_none_iff_exists'.mpr ⟨runtime, earlier⟩)
    refine ⟨?_, thins.faithful faithful⟩
    obtain ⟨previous, current, retired, cached, same⟩ := refreshed
    exact ⟨previous, current, thins.previous.trans retired,
      thins.snapshot.trans cached, same⟩

theorem shown_of_reports {result : RefreshResult} (serial : before.Serial)
    (mirrored : before.Mirrored False)
    (reports : .refreshed result ∈ before.reports action)
    (strands : before.StrandsNobody action)
    (taken : step before action = some reported) :
    reported.Shown result.ns result := by
  have later := serial.step strands taken
  unfold Machine.reports at reports
  cases turn_of_step taken with
  | aside moves tasks awake world elsewhere =>
      rw [elsewhere] at reports
      cases reports
  | calling stretch proceeds elsewhere =>
      rw [elsewhere] at reports
      cases reports
  | dying died elsewhere =>
      rw [elsewhere] at reports
      cases reports
  | @visiting task ns lock operation rest entries program stretch proceeds
      visits =>
      simp only [visits] at reports
      have kept :
          wp program
            (fun progress after => progress.Faithful False after ns)
            (fun _ after => after.Faithful False ns) before.world :=
        visit_faithful serial mirrored visits False.elim
      rcases wp_cases kept with
        ⟨progress, world, computed, faithful⟩ |
          ⟨raised, world, computed, faithful⟩
      · have same : reported.world = world := by
          rw [proceeds, proceed_world, computed]
        rw [computed] at reports
        cases progress with
        | inside stage =>
            cases reports
        | left entries =>
            obtain ⟨refreshed, whole⟩ := faithful.2 result reports
            have named : result.ns = ns := by
              obtain ⟨_, _, _, _, rfl⟩ := refreshed
              rfl
            rw [named]
            refine ⟨later, fun _ => ?_⟩
            rw [same]
            exact ⟨refreshed, whole⟩
      · rw [computed] at reports
        cases reports

theorem shown_step {result : RefreshResult} {action : Option Action}
    (shown : machine.Shown ns result) (strands : machine.Unstranded action)
    (leaves : machine.Leaves ns action)
    (taken : lifeStep machine action = some after) :
    after.Shown ns result := by
  have serial := shown.serial
  cases action with
  | none =>
      cases taken
      have unmounted :=
        (restart_spec serial.reliable serial.distinct).1.runtimes
      refine ⟨serial_restart serial.reliable serial.distinct, ?_⟩
      intro mounted
      rw [unmounted] at mounted
      exact absurd rfl mounted
  | some action =>
      exact shown.thins (serial.step strands taken)
        (thins_turn serial (turn_of_step taken) leaves)

/-- In serialized runs with a working store, both diffs show what a refresh has
reported until the namespace is visited again or loses its runtime. -/
theorem refresh_shown {result : RefreshResult}
    (reliable : machine.world.Reliable)
    (distinct : machine.world.document.Distinct)
    (reaches : Reaches lifeStep Unstranded machine.restart before)
    (strands : before.StrandsNobody action)
    (reports : .refreshed result ∈ before.reports action)
    (taken : step before action = some reported)
    (onwards :
      Reaches lifeStep
        (fun machine action =>
          machine.Unstranded action ∧ machine.Leaves result.ns action)
        reported later)
    (running : later.world.runtimeFor result.ns = some runtime) :
    ∃ previous current,
      later.world.document.getPreviousSchemaSnapshot result.ns =
          some previous ∧
        later.world.document.getSchemaSnapshot result.ns = some current ∧
        (∀ cached, Diffs later.world .cached result.ns cached →
          cached.Shows result none previous.tools current.tools ∧
            result.oldSchemaHash = cached.previousSchemaHash ∧
            some result.newSchemaHash = cached.currentSchemaHash) ∧
        ∀ mounted, Diffs later.world .mounted result.ns mounted →
          mounted.Shows result (some result.ns) previous.tools
            ((later.world.objects runtime).tools.map normalizeTool) := by
  have both : before.Serial ∧ before.Mirrored False :=
    mirrored_of_lives (fun _ _ meets => meets)
      (fun _ _ _ disturbed => disturbed.elim) reliable distinct reaches
  have shown : later.Shown result.ns result :=
    onwards.invariant (shown_of_reports both.1 both.2 reports strands taken)
      fun _ _ _ shown meets taken => shown_step shown meets.1 meets.2 taken
  have mounted := (World.runtimeFor_eq_some.mp running).1
  obtain ⟨refreshed, faithful⟩ :=
    shown.shows (Option.ne_none_iff_exists'.mpr ⟨runtime, mounted⟩)
  obtain ⟨previous, current, retired, cached, same⟩ := refreshed
  obtain ⟨snapshot, stored, captured⟩ :=
    faithful.mounted trivial runtime mounted
  cases cached.symm.trans stored
  obtain ⟨unique, listed⟩ := validateToolInventory_eq_ok captured.listed
  obtain ⟨available, tools, _⟩ := mountedDetails running
  obtain ⟨present, currentTools, currentHash⟩ := cachedDetails cached
  have lists :
      result.addedTools =
          (diffToolsets result.ns previous.tools current.tools).addedTools ∧
        result.removedTools =
          (diffToolsets result.ns previous.tools
            current.tools).removedTools ∧
        result.changedTools =
          (diffToolsets result.ns previous.tools
            current.tools).changedTools ∧
        result.oldSchemaHash = some previous.schemaHash ∧
        result.newSchemaHash = current.schemaHash := by
    rw [same]
    exact ⟨rfl, rfl, rfl, rfl, rfl⟩
  obtain ⟨added, removed, changed, old, new⟩ := lists
  have sorted :
      diffToolsets result.ns previous.tools
          ((later.world.objects runtime).tools.map normalizeTool) =
        diffToolsets result.ns previous.tools current.tools := by
    rw [listed, diffToolsets_sortTools unique]
  refine ⟨previous, current, retired, cached, ?_, ?_⟩
  · intro entry answered
    rw [diffs_iff.mp answered]
    have shows := @shows_of_available _ result.ns .cached later.world
      previous result present retired
    rw [currentTools] at shows
    refine ⟨shows added.symm removed.symm changed.symm, ?_, ?_⟩
    · rw [old]
      simp [buildContractDiff, retired]
    · rw [new]
      simp [buildContractDiff, buildContractInspection, currentHash]
  · intro entry answered
    rw [diffs_iff.mp answered]
    have shows := @shows_of_available _ result.ns .mounted later.world
      previous result available retired
    rw [tools, sorted] at shows
    exact shows added.symm removed.symm changed.symm

end Runs

/-- When every task has its answer, no runtime is being swapped in. -/
theorem not_swapping {machine : Machine} (sane : machine.Sane)
    (idle : machine.idle = true) (ns : Namespace) : ¬ machine.Swapping ns := by
  rintro ⟨task, lock, operation, rest, entries, stage, found, _⟩
  have answered := answered_of_idle sane idle task
  rw [found] at answered
  cases answered

/-- The results of the refreshes the step ends. -/
def refreshes [Platform] (machine : Machine) (action : Action) :
    List RefreshResult :=
  (machine.reports action).filterMap fun entry =>
    match entry with
    | .refreshed result => some result
    | _ => none

theorem mem_refreshes [Platform] {machine : Machine} {action : Action}
    {result : RefreshResult} :
    result ∈ machine.refreshes action ↔
      .refreshed result ∈ machine.reports action := by
  unfold refreshes
  rw [List.mem_filterMap]
  constructor
  · rintro ⟨entry, member, same⟩
    cases entry with
    | refreshed other =>
        cases same
        exact member
    | _ => cases same
  · exact fun member => ⟨_, member, rfl⟩

section Ascii

open scoped Ascii

/-- The bundled toolset is activated; its server lists one tool. -/
theorem viewsAgree_fake :
    ∃ machine,
      Reaches lifeStep Undisturbed (firstProcess {}) machine ∧
        ViewsAgree machine.world "fake_stdio" := by
  obtain ⟨machine, reaches, idle, running, listing⟩ :=
    exists_reaches_of_execute
      [some (.request (.activateToolsets ["fake_stdio"] "thread" true)),
       some (.acquire 0), some (.enter 0), some (.reply 0 (.ok [Ascii.ping]))]
      (by decide +kernel :
        (execute lifeStep Undisturbed (firstProcess {}) _).any
          (fun machine =>
            machine.idle = true ∧
              machine.world.runtimeFor "fake_stdio" = some 0 ∧
              (machine.world.objects 0).tools.isEmpty = false) = true)
  have both : machine.Serial ∧ machine.Mirrored True :=
    mirrored_of_lives (fun _ _ meets => meets.1) (fun _ _ meets _ => meets.2)
      (reliable_emptyHost {}) StateDocument.distinct_empty reaches
  have agrees :=
    viewsAgree_of_lives (reliable_emptyHost {}) StateDocument.distinct_empty
      reaches running (not_swapping both.1.sane idle _)
  exact ⟨machine, reaches, agrees.mpr (by simpa using listing)⟩

def activatedAlone : List Entry → Bool
  | [.activated _] => true
  | _ => false

theorem eq_of_activatedAlone {entries : List Entry}
    (alone : activatedAlone entries = true) :
    ∃ result, entries = [.activated result] := by
  unfold activatedAlone at alone
  split at alone
  · exact ⟨_, rfl⟩
  · cases alone

/-- Its server lists no tools: only the cached view has a hash. -/
theorem empty_views_disagree :
    ∃ machine,
      Reaches lifeStep Undisturbed (firstProcess {}) machine ∧
        (∃ result, machine.response 0 = some [.activated result]) ∧
        (∃ runtime, machine.world.runtimeFor "fake_stdio" = some runtime) ∧
        ¬ ViewsAgree machine.world "fake_stdio" := by
  obtain ⟨machine, reaches, activated, running, differs⟩ :=
    exists_reaches_of_execute
      [some (.request (.activateToolsets ["fake_stdio"] "thread" true)),
       some (.acquire 0), some (.enter 0), some (.reply 0 (.ok []))]
      (by decide +kernel :
        (execute lifeStep Undisturbed (firstProcess {}) _).any
          (fun machine =>
            (machine.response 0).any activatedAlone = true ∧
              machine.world.runtimeFor "fake_stdio" = some 0 ∧
              (buildContractInspection machine.world "fake_stdio"
                  .cached).schemaHash ≠
                (buildContractInspection machine.world "fake_stdio"
                  .mounted).schemaHash) = true)
  have apart : ¬ ViewsAgree machine.world "fake_stdio" := by
    intro agree
    exact differs
      (agree _ _ _ _ (inspects_iff.mpr rfl) (inspects_iff.mpr rfl)
        (diffs_iff.mpr rfl) (diffs_iff.mpr rfl)).schemaHash
  refine ⟨machine, reaches, ?_, ⟨0, running⟩, apart⟩
  obtain ⟨entries, answered, alone⟩ := (Option.any_eq_true _ _).mp activated
  obtain ⟨result, rfl⟩ := eq_of_activatedAlone alone
  exact ⟨result, answered⟩

/-- The server lists a tool when it is refreshed, and the mounted diff shows
it as added. -/
theorem refresh_shown_fake :
    ∃ machine result previous current mounted,
      Reaches lifeStep (fun _ _ => True) (firstProcess {}) machine ∧
        result.addedTools = ["ping"] ∧
        Diffs machine.world .mounted result.ns mounted ∧
        mounted.Shows result (some result.ns) previous current := by
  obtain ⟨before, reaches, executed⟩ :=
    exists_reaches_of_execute
      [some (.request (.activateToolsets ["fake_stdio"] "thread" true)),
       some (.acquire 0), some (.enter 0), some (.reply 0 (.ok [])),
       some (.request (.refreshToolsets ["fake_stdio"] false none)),
       some (.acquire 1), some (.enter 1), some (.reply 1 (.ok [Ascii.ping]))]
      (by decide +kernel :
        (execute lifeStep Unstranded (firstProcess {}) _).any
          (fun before =>
            before.StrandsNobody (.reply 1 (.ok [])) ∧
              (step before (.reply 1 (.ok []))).any (fun reported =>
                (before.refreshes (.reply 1 (.ok []))).any fun result =>
                  (reported.world.runtimeFor result.ns).isSome ∧
                    result.addedTools = ["ping"]) = true) = true)
  obtain ⟨strands, found⟩ := executed
  obtain ⟨reported, taken, found⟩ := (Option.any_eq_true _ _).mp found
  obtain ⟨result, reports, facts⟩ := List.any_eq_true.mp found
  obtain ⟨running, added⟩ := of_decide_eq_true facts
  obtain ⟨runtime, running⟩ := Option.isSome_iff_exists.mp running
  obtain ⟨previous, current, _, _, _, shows⟩ :=
    refresh_shown (reliable_emptyHost {}) StateDocument.distinct_empty reaches
      strands (mem_refreshes.mp reports) taken .start running
  exact ⟨reported, result, _, _, _,
    .step (reaches.mono fun _ _ _ => trivial) trivial
      (show lifeStep before (some (.reply 1 (.ok []))) = some reported
        from taken), added, diffs_iff.mpr rfl,
    shows _ (diffs_iff.mpr rfl)⟩

/-- Task 1 unregisters while three tasks wait for its lock.  They register,
activate and refresh the toolset under that lock, and task 5 refreshes it under
a new one meanwhile: task 4 reports no change, but its diff shows that a tool
has been removed. -/
theorem overlapping_refreshes :
    ∃ before reported result,
      Reaches lifeStep (fun _ _ => True) (firstProcess {}) before ∧
        step before (.reply 4 (.ok [])) = some reported ∧
        .refreshed result ∈ before.reports (.reply 4 (.ok [])) ∧
        result.ns = "fake_stdio" ∧
        (reported.world.runtimeFor "fake_stdio").isSome ∧
        result.removedTools = [] ∧
        (diffContracts reported.world .cached (some ["fake_stdio"])).map
            ToolsetContractDiff.removedTools = [["ping"]] := by
  obtain ⟨before, reaches, found⟩ :=
    exists_reaches_of_execute
      [some (.request (.activateToolsets ["fake_stdio"] "thread" true)),
       some (.acquire 0), some (.enter 0), some (.reply 0 (.ok [])),
       some (.request (.unregisterToolsets ["fake_stdio"] true)),
       some (.acquire 1), some (.enter 1),
       some (.request
         (.registerToolset "fake_stdio" (.ok { command := "python" })
           { title := "Fake", description := "Registered again" })),
       some (.acquire 2),
       some (.request (.activateToolsets ["fake_stdio"] "thread" true)),
       some (.acquire 3),
       some (.request (.refreshToolsets ["fake_stdio"] false none)),
       some (.acquire 4),
       some (.reply 1 (.ok [])),
       some (.grant 2), some (.enter 2),
       some (.grant 3), some (.enter 3), some (.reply 3 (.ok [])),
       some (.grant 4), some (.enter 4),
       some (.request (.refreshToolsets ["fake_stdio"] false none)),
       some (.acquire 5), some (.enter 5),
       some (.reply 5 (.ok [Ascii.ping])), some (.reply 5 (.ok [])),
       some (.reply 4 (.ok []))]
      (by decide +kernel :
        (execute lifeStep (fun _ _ => True) (firstProcess {}) _).any
          (fun before =>
            (step before (.reply 4 (.ok []))).any (fun reported =>
              (before.refreshes (.reply 4 (.ok []))).any fun result =>
                result.ns = "fake_stdio" ∧
                  (reported.world.runtimeFor "fake_stdio").isSome ∧
                  result.removedTools = [] ∧
                  (diffContracts reported.world .cached
                      (some ["fake_stdio"])).map
                    ToolsetContractDiff.removedTools = [["ping"]]) = true) =
            true)
  obtain ⟨reported, taken, found⟩ := (Option.any_eq_true _ _).mp found
  obtain ⟨result, reports, differs⟩ := List.any_eq_true.mp found
  exact ⟨before, reported, result, reaches, taken, mem_refreshes.mp reports,
    of_decide_eq_true differs⟩

end Ascii

end Machine

end ToolboxMcp
