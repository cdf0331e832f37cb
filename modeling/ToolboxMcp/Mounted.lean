import ToolboxMcp.Lifetime
import ToolboxMcp.Service.Scoping

/-!
# Mounted implies active

In a serialized run the locals of every task suspended in a block agree with
the record they were read from, and a namespace has a runtime mounted, dead or
alive, only while it is registered with loaded scopes.
-/

namespace ToolboxMcp

open Effect

theorem Aside.gentle {before after : World} (aside : Aside before after) :
    GentleEverywhere before after := by
  intro ns
  constructor
  · unfold World.terms
    rw [aside.records]
  · rw [aside.runtimes]
    exact id

namespace Machine

structure Coupled (machine : Machine) : Prop where
  active : ∀ ns, machine.world.Active ns
  tracks :
    ∀ task ns lock operation rest entries stage,
      machine.tasks task =
          some (.suspended ns lock operation rest entries stage) →
        stage.Tracks operation machine.world ns

variable {machine after : Machine}

/-- One task has moved on without suspending in a block. -/
theorem Coupled.advance (coupled : machine.Coupled) {task : TaskId} {next : Task}
    (tasks : after.tasks = Function.update machine.tasks task (some next))
    (gentle : GentleEverywhere machine.world after.world)
    (awake : ∀ ns lock operation rest entries stage,
      next ≠ .suspended ns lock operation rest entries stage) :
    after.Coupled where
  active ns := (gentle ns).active (coupled.active ns)
  tracks := by
    intro other ns lock operation rest entries stage found
    rw [tasks] at found
    by_cases same : other = task
    · subst same
      rw [Function.update_self] at found
      exact absurd (Option.some.inj found) (awake _ _ _ _ _ _)
    · rw [Function.update_of_ne same] at found
      exact (gentle ns).tracks (coupled.tracks other _ _ _ _ _ _ found)

section Steps

variable [Platform] {task : TaskId} {ns : Namespace} {lock : LockId}
  {operation : Operation} {rest : List Namespace} {entries : List Entry}
  {program : ServiceM Progress}

theorem Stretch.settles (sane : machine.Sane) (coupled : machine.Coupled)
    (reliable : machine.world.Reliable)
    (stretch : machine.Stretch task ns lock operation rest entries program) :
    wp program
      (fun progress after =>
        progress.Settles ns operation machine.world after)
      (fun _ after => SettlesRaised ns operation machine.world after)
      machine.world := by
  cases stretch with
  | first found turn =>
      exact start_settles reliable (coupled.active ns) operation
  | later reply found free =>
      exact resume_settles reliable (coupled.active ns)
        (coupled.tracks task _ _ _ _ _ _ found) (sane.proper task _ found)
        reply

omit [Platform] in
theorem CallStretch.gentle {tool : MountedTool} {world : World}
    {program : ServiceM CallProgress} (reliable : machine.world.Reliable)
    (stretch : machine.CallStretch task tool world program) :
    wp program (fun _ after => GentleEverywhere machine.world after)
      (fun _ after => GentleEverywhere machine.world after) world := by
  have counted := stretch.aside
  have later :
      wp program (fun _ after => GentleEverywhere world after)
        (fun _ after => GentleEverywhere world after) world := by
    cases stretch with
    | first found turn resolved =>
        exact dispatchCall_gentle (counted.reliable reliable)
    | later reply found free =>
        exact resumeCall_gentle reliable _ reply
  apply wp_mono later
  · exact fun _ _ gentle => counted.gentle.trans gentle
  · exact fun _ _ gentle => counted.gentle.trans gentle

/-- The end of a stretch of a block, whose task excludes all others from the
namespace. -/
theorem coupled_proceed (sane : machine.Sane)
    (serialized : machine.Serialized) (coupled : machine.Coupled)
    (reliable : machine.world.Reliable)
    (stretch : machine.Stretch task ns lock operation rest entries program) :
    (machine.proceed task ns lock operation rest entries
      (outcome program machine.world)).Coupled := by
  have advanced : ∀ {next : Task} {world : World} {moved : Machine},
      moved.tasks = Function.update machine.tasks task (some next) →
      moved.world = world → Sound ns machine.world world →
      world.Active ns →
      (∀ home held asked later earlier stage,
        next = .suspended home held asked later earlier stage →
          stage.Tracks asked world home) →
      moved.Coupled := by
    rintro next world moved tasks rfl sound active suspends
    constructor
    · intro home
      by_cases same : home = ns
      · subst same
        exact active
      · exact (sound.toConfined.gentle same).active (coupled.active home)
    · intro other home held asked later earlier stage found
      rw [tasks] at found
      by_cases same : other = task
      · subst same
        rw [Function.update_self] at found
        exact suspends _ _ _ _ _ _ (Option.some.inj found)
      · rw [Function.update_of_ne same] at found
        have different := stretch.elsewhere sane serialized same found
        exact (sound.toConfined.gentle different).tracks
          (coupled.tracks other _ _ _ _ _ _ found)
  have settled := stretch.settles sane coupled reliable
  rcases wp_cases (wp_and (stretch.sound sane) settled) with
    ⟨stage | more, world, computed, ⟨sound, _⟩, settles⟩ |
      ⟨raised, world, computed, sound, settles⟩
  · rw [computed]
    refine advanced rfl rfl sound settles.active ?_
    rintro _ _ _ _ _ _ ⟨⟩
    exact settles.tracks
  · rw [computed]
    refine advanced rfl rfl sound settles.active ?_
    intro _ _ _ _ _ _ same
    cases rest <;> cases same
  · rw [computed]
    refine advanced rfl rfl sound settles.active ?_
    rintro _ _ _ _ _ _ ⟨⟩

/-- Mounted namespaces stay active, whatever tasks run concurrently. -/
theorem coupled_turn (sane : machine.Sane)
    (serialized : machine.Serialized) (coupled : machine.Coupled)
    (reliable : machine.world.Reliable) {action : Action}
    (turn : machine.Turn action after) : after.Coupled := by
  cases turn with
  | aside moves tasks awake world elsewhere =>
      apply coupled.advance tasks world.gentle
      rintro _ _ _ _ _ _ rfl
      cases awake
  | visiting stretch proceeds visits =>
      subst proceeds
      exact coupled_proceed sane serialized coupled reliable stretch
  | calling stretch proceeds elsewhere =>
      subst proceeds
      rcases wp_cases (stretch.gentle reliable) with
        ⟨stage | result, world, computed, gentle⟩ |
          ⟨raised, world, computed, gentle⟩
      · rw [computed]
        exact coupled.advance rfl gentle (by simp)
      · rw [computed]
        exact coupled.advance rfl gentle (by simp [concluding])
      · rw [computed]
        exact coupled.advance rfl gentle (by simp [concluding])
  | @dying runtime died elsewhere =>
      subst died
      have gentle : GentleEverywhere machine.world
          (machine.world.markDone runtime) := fun _ => ⟨rfl, id⟩
      constructor
      · exact fun ns => (gentle ns).active (coupled.active ns)
      · intro task ns lock operation rest entries stage found
        exact (gentle ns).tracks (coupled.tracks task _ _ _ _ _ _ found)

omit [Platform] in
/-- A new process has nothing mounted and nobody suspended. -/
theorem coupled_restart (reliable : machine.world.Reliable)
    (distinct : machine.world.document.Distinct) :
    machine.restart.Coupled := by
  obtain ⟨transport, _⟩ := restart_spec reliable distinct
  constructor
  · intro ns
    apply World.active_of_unmounted
    rw [transport.runtimes]
    rfl
  · intro task ns lock operation rest entries stage found
    cases found

theorem coupled_lifeStep (orderly : machine.Orderly)
    (coupled : machine.Coupled) {action : Option Action}
    (taken : lifeStep machine action = some after) : after.Coupled := by
  cases action with
  | none =>
      cases taken
      exact coupled_restart orderly.reliable orderly.distinct
  | some action =>
      exact coupled_turn orderly.sane orderly.serialized coupled
        orderly.reliable (turn_of_step taken)

theorem coupled_of_lives {config : HostConfig}
    (reaches : Reaches lifeStep OneAtATime (firstProcess config) machine) :
    machine.Orderly ∧ machine.Coupled := by
  have initial : (firstProcess config).Orderly ∧
      (firstProcess config).Coupled :=
    ⟨orderly_firstProcess config,
      coupled_restart (reliable_emptyHost config) StateDocument.distinct_empty⟩
  apply reaches.invariant initial
  rintro before action next ⟨orderly, coupled⟩ meets taken
  exact ⟨orderly_lifeStep orderly meets taken,
    coupled_lifeStep orderly coupled taken⟩

/-- What a stretch reports is what it has done to the scope lists. -/
theorem Stretch.scopeStep (sane : machine.Sane) (coupled : machine.Coupled)
    (reliable : machine.world.Reliable)
    (stretch : machine.Stretch task ns lock operation rest entries program) :
    ScopeStep ns operation machine.world
      (outcome program machine.world).2
      (reported (outcome program machine.world).1) := by
  rcases wp_cases (stretch.settles sane coupled reliable) with
    ⟨stage | more, world, computed, settles⟩ |
      ⟨raised, world, computed, settles⟩
  · rw [computed]
    exact settles.scopes
  · rw [computed]
    exact settles.scopes
  · rw [computed]
    exact settles.scopes

end Steps

end Machine

/-! ## The property -/

/-- The namespace is registered and some scope is loaded. -/
def World.Loaded (world : World) (ns : Namespace) : Prop :=
  ∃ record, world.record ns = some record ∧ record.loadedScopes ≠ []

/-- Refresh, health check and clear-stale. -/
def Operation.upkeep : Operation → Bool
  | .refresh .. => true
  | .checkHealth _ => true
  | .clearStale => true
  | _ => false

theorem World.Active.loaded_of_mounted {world : World} {ns : Namespace}
    (active : world.Active ns) (mounted : world.runtimes.get ns ≠ none) :
    world.Loaded ns := by
  obtain ⟨record, mirrors, loaded, _⟩ := active mounted
  obtain ⟨current, found, policy, _⟩ := mirrors.found
  refine ⟨current, found, ?_⟩
  rw [(scopePolicy_eq.mp policy).2.1]
  exact loaded

theorem World.loaded_iff {world : World} {ns : Namespace} :
    world.Loaded ns ↔
      ∃ policy, world.policy ns = some policy ∧ policy.loadedScopes ≠ [] := by
  unfold World.Loaded World.policy
  constructor
  · rintro ⟨record, found, loaded⟩
    have stored : world.document.getToolset ns = some record := found
    exact ⟨scopePolicy record, by rw [stored]; rfl, loaded⟩
  · rintro ⟨policy, found, loaded⟩
    obtain ⟨record, stored, rfl⟩ := Option.map_eq_some_iff.mp found
    exact ⟨record, stored, loaded⟩

/-- Upkeep loads nothing. -/
theorem ScopeStep.loaded_of_upkeep {ns : Namespace} {operation : Operation}
    {before after : World} {entries : List Entry}
    (scopes : ScopeStep ns operation before after entries)
    (upkeep : operation.upkeep = true) (loaded : after.Loaded ns) :
    before.Loaded ns := by
  cases scopes with
  | kept silent same =>
      rw [World.loaded_iff, same] at loaded
      exact World.loaded_iff.mpr loaded
  | registered asked missing accepted written =>
      subst asked
      cases upkeep
  | activated asked subject stored supported written =>
      subst asked
      cases upkeep
  | restored asked subject stored offered written =>
      subst asked
      cases upkeep
  | deactivated asked stored loaded written =>
      subst asked
      cases upkeep
  | unregistered asked reported gone =>
      subst asked
      cases upkeep

namespace Machine

section Property

variable [Platform] {machine : Machine} {config : HostConfig}

/-- In every state of every life of a host: a namespace with a running runtime
is registered with loaded scopes, otherwise none of its tools is mounted; and
upkeep leaves an inactive toolset unmounted. -/
theorem mounted_active
    (reaches : Reaches lifeStep OneAtATime (firstProcess config) machine) :
    (∀ ns, machine.world.hasConnection ns = true →
        machine.world.Loaded ns) ∧
      (∀ ns, ¬ machine.world.Loaded ns →
        ∀ mountedName tool,
          resolveMountedTool machine.world mountedName = some tool →
            tool.ns ≠ ns) ∧
      ∀ action after visit,
        step machine action = some after →
        machine.visit action = some visit →
        visit.operation.upkeep = true →
        ¬ machine.world.Loaded visit.ns →
          after.world.hasConnection visit.ns = false := by
  obtain ⟨orderly, coupled⟩ := coupled_of_lives reaches
  have connectedLoaded : ∀ {world : World},
      (∀ ns, world.Active ns) → ∀ ns, world.hasConnection ns = true →
        world.Loaded ns := by
    intro world active ns connected
    obtain ⟨runtime, mounted, _⟩ := World.hasConnection_iff.mp connected
    apply (active ns).loaded_of_mounted
    rw [← World.mounted, mounted]
    exact Option.some_ne_none runtime
  refine ⟨connectedLoaded coupled.active, ?_, ?_⟩
  · rintro ns unloaded mountedName tool resolved rfl
    obtain ⟨runtime, running⟩ := resolveMountedTool_running resolved
    apply unloaded
    apply connectedLoaded coupled.active
    exact World.hasConnection_iff.mpr
      ⟨runtime, World.runtimeFor_eq_some.mp running⟩
  · intro action after visit taken visits upkeep unloaded
    have turn := turn_of_step taken
    have later := coupled_turn orderly.sane orderly.serialized coupled
      orderly.reliable turn
    rw [← Bool.not_eq_true]
    intro connected
    have loaded := connectedLoaded later.active visit.ns connected
    cases turn with
    | aside moves tasks awake world elsewhere =>
        rw [elsewhere] at visits
        cases visits
    | visiting stretch proceeds same =>
        rw [same] at visits
        cases visits
        subst proceeds
        rw [proceed_world] at loaded
        have scopes :=
          stretch.scopeStep orderly.sane coupled orderly.reliable
        exact unloaded (scopes.loaded_of_upkeep upkeep loaded)
    | calling stretch proceeds elsewhere =>
        rw [elsewhere] at visits
        cases visits
    | dying died elsewhere =>
        rw [elsewhere] at visits
        cases visits

end Property

section Ascii

open scoped Ascii

/-- The bundled toolset is activated in the first process. -/
theorem mounted_active_fake :
    ∃ machine,
      Reaches lifeStep OneAtATime (firstProcess {}) machine ∧
        machine.world.hasConnection "fake_stdio" = true ∧
        machine.world.Loaded "fake_stdio" := by
  obtain ⟨machine, reaches, connected⟩ :=
    exists_reaches_of_execute
      [some (.request (.activateToolsets ["fake_stdio"] "thread" true)),
       some (.acquire 0), some (.enter 0), some (.reply 0 (.ok []))]
      (by decide +kernel :
        (execute lifeStep OneAtATime (firstProcess {}) _).any
          (fun machine =>
            machine.world.hasConnection "fake_stdio" = true) = true)
  exact ⟨machine, reaches, connected,
    (mounted_active reaches).1 "fake_stdio" connected⟩

end Ascii

end Machine

end ToolboxMcp
