import ToolboxMcp.Following
import ToolboxMcp.Service.Preserving

/-!
# Failed openings

A call that opens runtimes is followed from its request to its response, while
no other client acts.  It keeps the last known good state of a namespace as
long as no runtime of it lands and no running one is given new scopes; once a
runtime has landed, no handler puts the old one back.
-/

namespace ToolboxMcp

open Effect

/-- Activation and restore report scopes as loaded. -/
def Operation.addsScopes : Operation → Bool
  | .activate .. => true
  | .restore .. => true
  | _ => false

def Request.addsScopes : Request → Bool
  | .activateToolsets .. => true
  | .restoreToolsets .. => true
  | _ => false

/-- The requests for operations that open runtimes. -/
def Request.openings : Request → Bool
  | .activateToolsets .. => true
  | .refreshToolsets .. => true
  | .restoreToolsets .. => true
  | _ => false

namespace Machine

section Calls

variable [Platform]

/-- The namespaces a step exposes: a bootstrap has listed a valid inventory, or
scopes are about to be added to a running runtime. -/
def exposures (machine : Machine) (action : Action) (_ : Machine) :
    List Namespace :=
  match action with
  | .enter task =>
      match machine.tasks task with
      | some (.entered ns _ (.operation operation _ _)) =>
          if machine.world.reuses ns operation then [ns] else []
      | _ => []
  | .reply task reply =>
      match machine.tasks task with
      | some (.suspended ns _ _ _ _ stage) =>
          if stage.lands ns reply then [ns] else []
      | _ => []
  | _ => []

end Calls

/-- What a call has done to the namespace and reported of it so far. -/
structure Tally (operation : Operation) (ns : Namespace)
    (base world : World) (exposed : List Namespace) (entries : List Entry) :
    Prop where
  good : ns ∉ exposed → KnownGood ns base world
  silent : ns ∉ exposed → ∀ entry ∈ entries, entry.serves ns = false
  shown :
    ns ∈ exposed →
      world.Renewed base.nextRuntime ns ∨
        operation.addsScopes = true ∧
          ∃ entry ∈ entries, entry.serves ns = true

/-- The task serves the call; a call that has raised is not followed. -/
inductive Pursues (operation : Operation) (ns : Namespace)
    (base world : World) (exposed : List Namespace) : Task → Prop where
  | arriving {home : Namespace} {rest : List Namespace}
      {entries : List Entry} (tally : Tally operation ns base world exposed entries) :
      Pursues operation ns base world exposed
        (.arriving home (.operation operation rest entries))
  | waiting {home : Namespace} {lock : LockId} {rest : List Namespace}
      {entries : List Entry} (tally : Tally operation ns base world exposed entries) :
      Pursues operation ns base world exposed
        (.waiting home lock (.operation operation rest entries))
  | entered {home : Namespace} {lock : LockId} {rest : List Namespace}
      {entries : List Entry} (tally : Tally operation ns base world exposed entries) :
      Pursues operation ns base world exposed
        (.entered home lock (.operation operation rest entries))
  | suspended {home : Namespace} {lock : LockId} {rest : List Namespace}
      {entries : List Entry} {stage : Stage}
      (tally : Tally operation ns base world exposed entries)
      (openings : stage.Openings base.nextRuntime)
      (pending : home = ns → ns ∉ exposed → stage.Unlanded world ns) :
      Pursues operation ns base world exposed
        (.suspended home lock operation rest entries stage)
  | answered {entries : List Entry}
      (tally : Tally operation ns base world exposed entries) :
      Pursues operation ns base world exposed
        (.answered (.response entries))
  | refused {error : ErrorInfo} :
      Pursues operation ns base world exposed (.answered (.refused error))
  | raised {raised : Raised} :
      Pursues operation ns base world exposed (.answered (.raised raised))

structure Calling (task : TaskId) (operation : Operation) (ns : Namespace)
    (base : World) (machine : Machine) (exposed : List Namespace) :
    Prop where
  sane : machine.Sane
  issued : base.nextRuntime ≤ machine.world.nextRuntime
  pursues :
    ∀ current, machine.tasks task = some current →
      Pursues operation ns base machine.world exposed current

section Tallies

variable {operation : Operation} {ns : Namespace}
  {base world after : World} {exposed : List Namespace}
  {entries : List Entry}

theorem Tally.same (tally : Tally operation ns base world exposed entries)
    (good : KnownGood ns world after) :
    Tally operation ns base after exposed entries where
  good hidden := (tally.good hidden).trans good
  silent := tally.silent
  shown member := by
    rcases tally.shown member with renewed | reported
    · exact .inl (good.renewed renewed)
    · exact .inr reported

theorem Pursues.same {current : Task}
    (pursues : Pursues operation ns base world exposed current)
    (good : KnownGood ns world after) :
    Pursues operation ns base after exposed current := by
  cases pursues with
  | arriving tally =>
      exact .arriving (tally.same good)
  | waiting tally =>
      exact .waiting (tally.same good)
  | entered tally =>
      exact .entered (tally.same good)
  | suspended tally openings pending =>
      exact .suspended (tally.same good) openings
        fun same hidden => (pending same hidden).same good
  | answered tally =>
      exact .answered (tally.same good)
  | refused =>
      exact .refused
  | raised =>
      exact .raised

/-- The tally after a stretch in the namespace `home`. -/
theorem Tally.stretch {home : Namespace} {unlanded : Prop} {exposes : Bool}
    {progress : Progress} (tally : Tally operation ns base world exposed entries)
    (housed : world.Housed) (sound : Sound home world after)
    (opens :
      progress.Opens base.nextRuntime home unlanded exposes world after)
    (shows : exposes = true →
      after.Renewed base.nextRuntime home ∨
        operation.addsScopes = true ∧
          ∃ entry ∈ progress.entries, entry.serves home = true)
    (pending : home = ns → ns ∉ exposed → unlanded) :
    Tally operation ns base after (exposed ++ if exposes then [home] else [])
      (entries ++ progress.entries) := by
  by_cases same : home = ns
  · subst same
    cases exposes with
    | true =>
        have member : home ∈ exposed ++ if true then [home] else [] := by
          simp
        constructor
        · exact fun hidden => absurd member hidden
        · exact fun hidden => absurd member hidden
        · intro _
          rcases shows rfl with renewed | ⟨adds, entry, reported, serves⟩
          · exact .inl renewed
          · exact .inr
              ⟨adds, entry, List.mem_append_right _ reported, serves⟩
    | false =>
        simp only [Bool.false_eq_true, if_false, List.append_nil]
        constructor
        · intro hidden
          exact (tally.good hidden).trans
            (opens.good (pending rfl hidden) rfl)
        · intro hidden entry member
          rcases List.mem_append.mp member with earlier | later
          · exact tally.silent hidden entry earlier
          · exact opens.silent (pending rfl hidden) rfl entry later
        · intro member
          rcases tally.shown member with
            renewed | ⟨adds, entry, earlier, serves⟩
          · exact .inl (opens.renewed _ le_rfl renewed)
          · exact .inr
              ⟨adds, entry, List.mem_append_left _ earlier, serves⟩
  · have good : KnownGood ns world after :=
      sound.toConfined.knownGood housed (Ne.symm same)
    have unaffected :
        ns ∈ (exposed ++ if exposes then [home] else []) ↔
          ns ∈ exposed := by
      cases exposes
      · simp
      · simp [Ne.symm same]
    have kept := tally.same good
    constructor
    · exact fun hidden => kept.good (unaffected.not.mp hidden)
    · intro hidden entry member
      rcases List.mem_append.mp member with earlier | later
      · exact kept.silent (unaffected.not.mp hidden) entry earlier
      · rw [← Bool.not_eq_true]
        intro serves
        exact same (opens.own entry later ns serves).symm
    · intro member
      rcases kept.shown (unaffected.mp member) with
        renewed | ⟨adds, entry, earlier, serves⟩
      · exact .inl renewed
      · exact .inr ⟨adds, entry, List.mem_append_left _ earlier, serves⟩

end Tallies

section Steps

variable [Platform] {task : TaskId} {operation : Operation} {ns : Namespace}
  {base : World} {machine after : Machine} {exposed : List Namespace}

omit [Platform] in
theorem pursues_nextVisit {world : World} {rest : List Namespace}
    {entries : List Entry} (tally : Tally operation ns base world exposed entries) :
    Pursues operation ns base world exposed
      (nextVisit operation rest entries) := by
  cases rest with
  | nil =>
      exact .answered tally
  | cons home later =>
      exact .arriving tally

omit [Platform] in
/-- The end of a stretch of the call. -/
theorem pursues_proceed {home : Namespace} {lock : LockId}
    {rest : List Namespace} {entries : List Entry} {unlanded : Prop}
    {exposes : Bool} {program : ServiceM Progress} {current : Task}
    (tally : Tally operation ns base machine.world exposed entries)
    (housed : machine.world.Housed)
    (sound :
      wp program (fun _ after => Sound home machine.world after)
        (fun _ after => Sound home machine.world after) machine.world)
    (opens :
      wp program
        (fun progress after =>
          progress.Opens base.nextRuntime home unlanded exposes machine.world
            after)
        (fun _ _ => True) machine.world)
    (shows :
      exposes = true →
        wp program
          (fun progress after =>
            after.Renewed base.nextRuntime home ∨
              operation.addsScopes = true ∧
                ∃ entry ∈ progress.entries, entry.serves home = true)
          (fun _ _ => True) machine.world)
    (pending : home = ns → ns ∉ exposed → unlanded)
    (found :
      (machine.proceed task home lock operation rest entries
        (outcome program machine.world)).tasks task = some current) :
    Pursues operation ns base (outcome program machine.world).2
      (exposed ++ if exposes then [home] else []) current := by
  have shown :
      wp program
        (fun progress after =>
          exposes = true →
            after.Renewed base.nextRuntime home ∨
              operation.addsScopes = true ∧
                ∃ entry ∈ progress.entries, entry.serves home = true)
        (fun _ _ => True) machine.world := by
    cases exposes with
    | true =>
        exact wp_mono (shows rfl) (fun _ _ shown _ => shown) fun _ _ => id
    | false =>
        apply wp_mono opens
        · intro _ _ _ exposes
          cases exposes
        · exact fun _ _ => id
  rcases wp_cases (wp_and sound (wp_and opens shown)) with
    ⟨stage | more, world, computed, sound, opened, shown⟩ |
      ⟨raised, world, computed, _⟩
  · rw [computed] at found ⊢
    simp only [proceed, setTask, Function.update_self] at found
    cases found
    have later := tally.stretch housed sound opened shown pending
    have silent : entries ++ (Progress.inside stage).entries = entries :=
      List.append_nil entries
    rw [silent] at later
    refine .suspended later (opened.openings stage rfl) ?_
    intro same hidden
    subst same
    have hiddenBefore : home ∉ exposed :=
      fun member => hidden (List.mem_append_left _ member)
    have idle : exposes = false := by
      rw [← Bool.not_eq_true]
      intro exposing
      apply hidden
      rw [exposing]
      simp
    exact opened.pending (pending rfl hiddenBefore) idle stage rfl
  · rw [computed] at found ⊢
    simp only [proceed, leave, setTask, Function.update_self] at found
    cases found
    exact pursues_nextVisit
      (tally.stretch housed sound opened shown pending)
  · rw [computed] at found ⊢
    simp only [proceed, leave, setTask, Function.update_self] at found
    cases found
    exact .raised

/-- The first stretch of a visit. -/
theorem pursues_enter {home : Namespace} {lock : LockId}
    {rest : List Namespace} {entries : List Entry} {current : Task}
    (calling : Calling task operation ns base machine exposed)
    (opens : operation.opens = true)
    (tally : Tally operation ns base machine.world exposed entries)
    (found :
      (machine.proceed task home lock operation rest entries
        (outcome (start operation home) machine.world)).tasks task =
        some current) :
    Pursues operation ns base
      (outcome (start operation home) machine.world).2
      (exposed ++ if machine.world.reuses home operation then [home] else [])
      current := by
  have housed := calling.sane.housed
  apply pursues_proceed tally housed _ _ _ (fun _ _ => trivial) found
  · exact wp_left (start_sound housed operation)
  · exact wp_mono (start_opens housed opens)
      (fun _ _ opened => opened.mono calling.issued) fun _ _ => id
  · intro reuses
    have adds : operation.addsScopes = true := by
      cases operation with
      | activate scope ifNotLoaded =>
          rfl
      | restore identity startup =>
          rfl
      | _ =>
          cases reuses
    exact wp_mono (start_serves reuses) (fun _ _ serves => .inr ⟨adds, serves⟩)
      fun _ _ => id

/-- A later stretch of a visit. -/
theorem pursues_reply {home : Namespace} {lock : LockId}
    {rest : List Namespace} {entries : List Entry} {stage : Stage}
    {reply : Reply} {current : Task}
    (calling : Calling task operation ns base machine exposed)
    (proper : stage.Proper machine.world home)
    (tally : Tally operation ns base machine.world exposed entries)
    (openings : stage.Openings base.nextRuntime)
    (pending : home = ns → ns ∉ exposed → stage.Unlanded machine.world ns)
    (found :
      (machine.proceed task home lock operation rest entries
        (outcome (resume home stage reply) machine.world)).tasks task =
        some current) :
    Pursues operation ns base
      (outcome (resume home stage reply) machine.world).2
      (exposed ++ if stage.lands home reply then [home] else []) current := by
  have housed := calling.sane.housed
  have unlanded : home = ns → ns ∉ exposed →
      stage.Unlanded machine.world home := by
    intro same
    subst same
    exact pending rfl
  apply pursues_proceed tally housed _ _ _ unlanded found
  · exact wp_left (resume_sound housed proper reply)
  · exact resume_opens openings proper
  · intro lands
    exact wp_mono (resume_lands openings proper lands) (fun _ _ => .inl)
      fun _ _ => id

omit [Platform] in
theorem knownGood_namespaceLock (home : Namespace) :
    KnownGood ns machine.world (machine.namespaceLock home).2.world := by
  obtain ⟨_, _, _, _, objects, _, runtimes, document, _⟩ :=
    machine.namespaceLock_spec home
  constructor
  · unfold World.mounted
    rw [runtimes]
  · intro runtime _
    rw [objects]
  · rw [document]
  · rw [document]
  · rw [document]

theorem calling_acquire
    (calling : Calling task operation ns base machine exposed)
    (sane : after.Sane) (taken : step machine (.acquire task) = some after) :
    Calling task operation ns base after
      (exposed ++ machine.exposures (.acquire task) after) := by
  obtain ⟨home, block, found, _, reached⟩ := step_acquire.mp taken
  subst reached
  have silent :
      machine.exposures (.acquire task)
        (machine.acquire task home block) = [] := rfl
  rw [silent, List.append_nil]
  obtain ⟨_, _, _, _, _, issued, _⟩ := machine.namespaceLock_spec home
  refine ⟨sane, ?_, ?_⟩
  · rw [acquire_world, issued]
    exact calling.issued
  · intro current present
    rw [acquire_world]
    have pursues := calling.pursues _ found
    cases pursues with
    | arriving tally =>
        have later := tally.same (knownGood_namespaceLock home)
        obtain ⟨lock, entered | waiting⟩ :=
          tasks_acquire machine task home _
        · cases entered.symm.trans present
          exact .entered later
        · cases waiting.symm.trans present
          exact .waiting later

theorem calling_enter
    (calling : Calling task operation ns base machine exposed)
    (opens : operation.opens = true)
    (sane : after.Sane) (taken : step machine (.enter task) = some after) :
    Calling task operation ns base after
      (exposed ++ machine.exposures (.enter task) after) := by
  obtain ⟨home, lock, block, found, _, reached⟩ := step_enter.mp taken
  subst reached
  have pursues := calling.pursues _ found
  cases pursues with
  | @entered _ _ rest entries tally =>
      have sound : Sound home machine.world
          (outcome (start operation home) machine.world).2 :=
        final_of_wp_left (start_sound calling.sane.housed operation)
      have shown :
          machine.exposures (.enter task)
              (machine.enter task home lock
                (.operation operation rest entries)) =
            if machine.world.reuses home operation then [home] else [] := by
        simp [exposures, found]
      rw [shown]
      refine ⟨sane, ?_, ?_⟩
      · simp only [enter, proceed_world]
        exact calling.issued.trans sound.nextRuntime
      · intro current present
        simp only [enter, proceed_world] at present ⊢
        exact pursues_enter calling opens tally present

theorem calling_reply
    (calling : Calling task operation ns base machine exposed) {reply : Reply}
    (sane : after.Sane) (taken : step machine (.reply task reply) = some after) :
    Calling task operation ns base after
      (exposed ++ machine.exposures (.reply task reply) after) := by
  obtain ⟨home, lock, asked, rest, entries, stage, found, _, reached⟩ :=
    step_reply.mp taken
  subst reached
  have proper := calling.sane.proper task _ found
  have pursues := calling.pursues _ found
  cases pursues with
  | suspended tally openings pending =>
      have sound : Sound home machine.world
          (outcome (resume home stage reply) machine.world).2 :=
        final_of_wp_left (resume_sound calling.sane.housed proper reply)
      have shown : ∀ next,
          machine.exposures (.reply task reply) next =
            if stage.lands home reply then [home] else [] := by
        intro next
        simp [exposures, found]
      rw [shown]
      refine ⟨sane, ?_, ?_⟩
      · rw [proceed_world]
        exact calling.issued.trans sound.nextRuntime
      · intro current present
        rw [proceed_world]
        exact pursues_reply calling proper tally openings pending present

/-- The call goes on, whatever its task or a dying runtime does. -/
theorem calling_step
    (calling : Calling task operation ns base machine exposed)
    (opens : operation.opens = true) {action : Action}
    (concerns : action.concerns task = true)
    (taken : step machine action = some after) :
    Calling task operation ns base after
      (exposed ++ machine.exposures action after) := by
  have sane := sane_step calling.sane taken
  cases action with
  | request request =>
      cases concerns
  | call mountedName =>
      cases concerns
  | acquire actor =>
      cases of_decide_eq_true concerns
      exact calling_acquire calling sane taken
  | grant actor =>
      cases of_decide_eq_true concerns
      obtain ⟨home, lock, block, found, _, _, reached⟩ :=
        step_grant.mp taken
      subst reached
      have silent :
          machine.exposures (.grant task)
            (machine.grant task home lock block) = [] := rfl
      rw [silent, List.append_nil]
      refine ⟨sane, calling.issued, ?_⟩
      intro current present
      simp only [grant, setTask, Function.update_self] at present
      cases present
      have pursues := calling.pursues _ found
      cases pursues with
      | waiting tally =>
          exact .entered tally
  | enter actor =>
      cases of_decide_eq_true concerns
      exact calling_enter calling opens sane taken
  | reply actor reply =>
      cases of_decide_eq_true concerns
      exact calling_reply calling sane taken
  | callReply actor reply =>
      cases of_decide_eq_true concerns
      obtain ⟨tool, stage, found, _, _⟩ := step_callReply.mp taken
      have pursues := calling.pursues _ found
      cases pursues
  | cancelWaiting actor =>
      cases of_decide_eq_true concerns
      obtain ⟨home, lock, block, found, _, reached⟩ :=
        step_cancelWaiting.mp taken
      subst reached
      have silent :
          machine.exposures (.cancelWaiting task)
            (machine.cancelWaiting task lock) = [] := rfl
      rw [silent, List.append_nil]
      refine ⟨sane, calling.issued, ?_⟩
      intro current present
      simp only [cancelWaiting, setTask, Function.update_self] at present
      cases present
      exact .raised
  | die runtime =>
      obtain ⟨_, reached⟩ := step_die.mp taken
      subst reached
      have silent : ∀ next,
          machine.exposures (.die runtime) next = [] := fun _ => rfl
      rw [silent, List.append_nil]
      refine ⟨sane, calling.issued, ?_⟩
      intro current present
      exact (calling.pursues current present).same
        (knownGood_markDone runtime)

/-! ## Whole calls -/

/-- The request is refused or admitted as the opening it asks for. -/
def Admission.Opens (request : Request) : Admission → Prop
  | .admitted operation _ =>
      operation.opens = true ∧ operation.addsScopes = request.addsScopes
  | .refused _ => True

omit [Platform] in
theorem refuse_opens {request : Request} {world : World}
    (audited : AuditOperation) (error : ErrorInfo) :
    wp (refuse audited error) (fun admission _ => Admission.Opens request admission)
      (fun _ _ => True) world := by
  unfold refuse
  rw [wp_bind]
  apply appendAuditEvent_rule
  · exact fun _ _ => trivial
  · exact fun _ _ _ _ => trivial

theorem accept_opens {request : Request} {world : World}
    (openings : request.openings = true) :
    wp (accept request) (fun admission _ => Admission.Opens request admission)
      (fun _ _ => True) world := by
  cases request with
  | activateToolsets namespaces scope ifNotLoaded =>
      simp only [accept]
      split
      · exact ⟨rfl, rfl⟩
      · exact refuse_opens _ _
  | refreshToolsets namespaces ifStale scope =>
      simp only [accept]
      split
      · exact ⟨rfl, rfl⟩
      · exact refuse_opens _ _
  | restoreToolsets namespaces identity startup =>
      simp only [accept]
      exact ⟨rfl, rfl⟩
  | _ =>
      cases openings

/-- A call begins. -/
theorem calling_request (ns : Namespace) {request : Request}
    (sane : machine.Sane)
    (openings : request.openings = true)
    (asked : step machine (.request request) = some after) :
    ∃ operation,
      operation.opens = true ∧
        (operation.addsScopes = true → request.addsScopes = true) ∧
        Calling machine.nextTask operation ns machine.world after [] := by
  have saneAfter := sane_step sane asked
  obtain ⟨_, reached⟩ := step_request.mp asked
  subst reached
  have untouched : Untouched machine.world (machine.request request).world := by
    rw [request_world]
    exact final_of_wp (accept_untouched request)
  have tally : ∀ {operation : Operation},
      Tally operation ns machine.world (machine.request request).world
        [] [] := by
    intro operation
    constructor
    · exact fun _ => untouched.knownGood
    · intro _ entry member
      cases member
    · intro member
      cases member
  have issued :
      machine.world.nextRuntime ≤
        (machine.request request).world.nextRuntime :=
    untouched.nextRuntime.ge
  rcases wp_cases (accept_opens openings) with
    ⟨error | ⟨operation, namespaces⟩, world, computed, opens⟩ |
      ⟨raised, world, computed, _⟩
  · refine ⟨.refresh true none, rfl, nofun, saneAfter, issued, ?_⟩
    intro current present
    unfold Machine.request at present
    rw [computed] at present
    simp only [spawn, setTask, Function.update_self] at present
    cases present
    exact .refused
  · refine ⟨operation, opens.1, opens.2.symm.trans, saneAfter, issued, ?_⟩
    intro current present
    unfold Machine.request at present
    rw [computed] at present
    simp only [spawn, setTask, Function.update_self] at present
    cases present
    exact pursues_nextVisit tally
  · refine ⟨.refresh true none, rfl, nofun, saneAfter, issued, ?_⟩
    intro current present
    unfold Machine.request at present
    rw [computed] at present
    simp only [spawn, setTask, Function.update_self] at present
    cases present
    exact .raised

theorem calling_of_runs {first followed : Machine × List Namespace}
    (opens : operation.opens = true)
    (begun : Calling task operation ns base first.1 first.2)
    (runs :
      Reaches (monitor step exposures)
        (fun _ action => action.concerns task = true) first followed) :
    Calling task operation ns base followed.1 followed.2 := by
  apply runs.invariant begun
  intro before action next calling concerns taken
  obtain ⟨moved, events⟩ := monitor_eq_some.mp taken
  rw [events]
  exact calling_step calling opens concerns moved

/-- The tally of a call that has been answered. -/
theorem tally_of_answered {world : World} {machine called after : Machine}
    {request : Request} {exposed : List Namespace} {entries : List Entry}
    (openings : request.openings = true)
    (reaches : Reaches step (fun _ _ => True) (boot world) machine)
    (asked : step machine (.request request) = some called)
    (runs :
      Reaches (monitor step exposures)
        (fun _ action => action.concerns machine.nextTask = true)
        (called, []) (after, exposed))
    (answered :
      after.tasks machine.nextTask = some (.answered (.response entries))) :
    machine.Sane ∧
      ∃ operation : Operation,
        (operation.addsScopes = true → request.addsScopes = true) ∧
          Tally operation ns machine.world after.world exposed entries := by
  have sane := sane_of_reaches reaches
  obtain ⟨operation, opens, adds, begun⟩ :=
    calling_request ns sane openings asked
  have calling := calling_of_runs opens begun runs
  have pursues := calling.pursues _ answered
  cases pursues with
  | answered tally =>
      exact ⟨sane, operation, adds, tally⟩

omit [Platform] in
/-- A runtime that has landed is a new one. -/
theorem Tally.mounted {base world : World} {entries : List Entry}
    (tally : Tally operation ns base world exposed entries)
    (housed : base.Housed)
    (silent : operation.addsScopes = true →
      ∀ entry ∈ entries, entry.serves ns = false)
    (same : world.mounted ns = base.mounted ns) : ns ∉ exposed := by
  intro member
  rcases tally.shown member with
    ⟨runtime, mounted, later⟩ | ⟨adds, entry, reported, serves⟩
  · have before : base.runtimes.get ns = some runtime :=
      same.symm.trans mounted
    have issued := (housed ns runtime before).1
    exact absurd later (Nat.not_le.mpr issued)
  · rw [silent adds entry reported] at serves
    cases serves

/-- A refresh keeps the last known good state of a namespace exactly if no
bootstrap of the namespace has listed a valid inventory. -/
theorem refresh_knownGood_iff {world : World} {machine called after : Machine}
    {namespaces : Option (List Namespace)} {ifStale : Bool}
    {scope : Option String} {exposed : List Namespace}
    {entries : List Entry} {ns : Namespace}
    (reaches : Reaches step (fun _ _ => True) (boot world) machine)
    (asked :
      step machine (.request (.refreshToolsets namespaces ifStale scope)) =
        some called)
    (runs :
      Reaches (monitor step exposures)
        (fun _ action => action.concerns machine.nextTask = true)
        (called, []) (after, exposed))
    (answered :
      after.tasks machine.nextTask = some (.answered (.response entries))) :
    KnownGood ns machine.world after.world ↔ ns ∉ exposed := by
  obtain ⟨sane, operation, adds, tally⟩ :=
    tally_of_answered rfl reaches asked runs answered
  constructor
  · intro good
    apply tally.mounted sane.housed _ good.mounted
    intro reports
    cases adds reports
  · exact tally.good

end Steps

end Machine

/-! ## Partial exposure -/

/-- The parts of a record an activation must not change before it is
complete. -/
def ToolsetRecord.exposure (record : ToolsetRecord) :
    List Scope × List Scope × Option String × Nat :=
  (record.loadedScopes, record.recoverableScopes, record.schemaHash,
    record.toolCount)

structure Unexposed (ns : Namespace) (before after : World) : Prop where
  mounted : after.mounted ns = before.mounted ns
  record :
    (after.document.getToolset ns).map ToolsetRecord.exposure =
      (before.document.getToolset ns).map ToolsetRecord.exposure
  snapshot :
    after.document.getSchemaSnapshot ns =
      before.document.getSchemaSnapshot ns
  previousSnapshot :
    after.document.getPreviousSchemaSnapshot ns =
      before.document.getPreviousSchemaSnapshot ns

theorem KnownGood.unexposed {ns : Namespace} {before after : World}
    (good : KnownGood ns before after) : Unexposed ns before after where
  mounted := good.mounted
  record := by
    have reported : ∀ found : Option ToolsetRecord,
        found.map ToolsetRecord.exposure =
          (found.map ToolsetRecord.unreported).map
            ToolsetRecord.exposure := by
      intro found
      rw [Option.map_map]
      rfl
    rw [reported, good.record, ← reported]
  snapshot := good.snapshot
  previousSnapshot := good.previousSnapshot

namespace Machine

section Exposure

variable [Platform]

/-- An activation or a restore exposes nothing of a namespace and reports no
scopes of it exactly if no bootstrap of the namespace has listed a valid
inventory and no scopes were to be added to its running runtime. -/
theorem unexposed_iff {world : World} {machine called after : Machine}
    {request : Request} {exposed : List Namespace} {entries : List Entry}
    {ns : Namespace} (adds : request.addsScopes = true)
    (reaches : Reaches step (fun _ _ => True) (boot world) machine)
    (asked : step machine (.request request) = some called)
    (runs :
      Reaches (monitor step exposures)
        (fun _ action => action.concerns machine.nextTask = true)
        (called, []) (after, exposed))
    (answered :
      after.tasks machine.nextTask = some (.answered (.response entries))) :
    (Unexposed ns machine.world after.world ∧
        ∀ entry ∈ entries, entry.serves ns = false) ↔
      ns ∉ exposed := by
  have openings : request.openings = true := by
    cases request with
    | activateToolsets namespaces scope ifNotLoaded =>
        rfl
    | restoreToolsets namespaces identity startup =>
        rfl
    | _ =>
        cases adds
  obtain ⟨sane, operation, _, tally⟩ :=
    tally_of_answered openings reaches asked runs answered
  constructor
  · intro both
    exact tally.mounted sane.housed (fun _ => both.2) both.1.mounted
  · intro hidden
    exact ⟨(tally.good hidden).unexposed, tally.silent hidden⟩

end Exposure

/-! ## Runs of single calls -/

/-- The entry reports a failure of the namespace. -/
def failsFor (ns : Namespace) : Entry → Bool
  | .failed error => error.ns = some ns
  | _ => false

section Executions

variable [Platform] {request : Request} {actions later : List Action}
  {property : Machine → Machine → List Namespace → List Entry → Bool}

/-- Execute a run and then one call to its end, and evaluate the property. -/
def answers (request : Request) (actions later : List Action)
    (property : Machine → Machine → List Namespace → List Entry → Bool) :
    Bool :=
  (execute step (fun _ _ => True) (boot bundledWorld) actions).any
    fun machine =>
      (step machine (.request request)).any fun called =>
        (execute (monitor step exposures)
          (fun _ action => action.concerns machine.nextTask = true)
          (called, []) later).any fun final =>
            (final.1.response machine.nextTask).any fun entries =>
              property machine final.1 final.2 entries

/-- A failure is reported with nothing exposed. -/
def failsHidden (ns : Namespace) (_ _ : Machine) (exposed : List Namespace)
    (entries : List Entry) : Bool :=
  entries.any (failsFor ns) && ns ∉ exposed

/-- A failure is reported with another runtime mounted. -/
def failsReplacing (ns : Namespace) (machine after : Machine)
    (_ : List Namespace) (entries : List Entry) : Bool :=
  entries.any (failsFor ns) &&
    after.world.mounted ns ≠ machine.world.mounted ns

theorem exists_of_answers
    (executed : answers request actions later property = true) :
    ∃ machine called after exposed entries,
      Reaches step (fun _ _ => True) (boot bundledWorld) machine ∧
        step machine (.request request) = some called ∧
        Reaches (monitor step exposures)
          (fun _ action => action.concerns machine.nextTask = true)
          (called, []) (after, exposed) ∧
        after.tasks machine.nextTask = some (.answered (.response entries)) ∧
        property machine after exposed entries = true := by
  obtain ⟨machine, reached, executed⟩ := (Option.any_eq_true _ _).mp executed
  obtain ⟨called, asked, executed⟩ := (Option.any_eq_true _ _).mp executed
  obtain ⟨⟨after, exposed⟩, ran, executed⟩ :=
    (Option.any_eq_true _ _).mp executed
  obtain ⟨entries, answers, holds⟩ := (Option.any_eq_true _ _).mp executed
  exact ⟨machine, called, after, exposed, entries,
    Reaches.start.of_execute reached, asked, Reaches.start.of_execute ran,
    tasks_of_response answers, holds⟩

end Executions

section Ascii

open scoped Ascii

/-- The bundled toolset is active and a refresh of it cannot bootstrap. -/
theorem refresh_knownGood_fake :
    ∃ (machine after : Machine) (entries : List Entry),
      Reaches step (fun _ _ => True) (boot bundledWorld) machine ∧
        entries.any (failsFor "fake_stdio") = true ∧
        KnownGood "fake_stdio" machine.world after.world := by
  obtain ⟨machine, called, after, exposed, entries, reaches, asked, runs,
      answered, holds⟩ :=
    exists_of_answers
      (by decide +kernel :
        answers (.refreshToolsets (some ["fake_stdio"]) false none)
          [.request (.activateToolsets ["fake_stdio"] "thread" true),
           .acquire 0, .enter 0, .reply 0 (.ok [])]
          [.acquire 1, .enter 1,
           .reply 1 (.error (.exception { message := "no server" }))]
          (failsHidden "fake_stdio") = true)
  obtain ⟨failed, hidden⟩ := (Bool.and_eq_true _ _).mp holds
  exact ⟨machine, after, entries, reaches, failed,
    (refresh_knownGood_iff reaches asked runs answered).mpr
      (of_decide_eq_true hidden)⟩

/-- The bundled toolset is refreshed while its server runs; the new runtime
lands, closing the old one raises, and the refresh is reported as failed with
the new runtime mounted. -/
theorem failed_refresh_replaces :
    ∃ machine called after exposed entries,
      Reaches step (fun _ _ => True) (boot bundledWorld) machine ∧
        step machine
            (.request (.refreshToolsets (some ["fake_stdio"]) false none)) =
          some called ∧
        Reaches (monitor step exposures)
          (fun _ action => action.concerns machine.nextTask = true)
          (called, []) (after, exposed) ∧
        after.tasks machine.nextTask = some (.answered (.response entries)) ∧
        entries.any (failsFor "fake_stdio") = true ∧
        ¬ KnownGood "fake_stdio" machine.world after.world := by
  obtain ⟨machine, called, after, exposed, entries, reaches, asked, runs,
      answered, holds⟩ :=
    exists_of_answers
      (by decide +kernel :
        answers (.refreshToolsets (some ["fake_stdio"]) false none)
          [.request (.activateToolsets ["fake_stdio"] "thread" true),
           .acquire 0, .enter 0, .reply 0 (.ok [])]
          [.acquire 1, .enter 1, .reply 1 (.ok []),
           .reply 1 (.error (.exception { message := "cancelled" }))]
          (failsReplacing "fake_stdio") = true)
  obtain ⟨failed, replaced⟩ := (Bool.and_eq_true _ _).mp holds
  refine ⟨machine, called, after, exposed, entries, reaches, asked, runs,
    answered, failed, ?_⟩
  intro good
  exact of_decide_eq_true replaced good.mounted

/-- The bundled toolset cannot be activated, since its server is missing. -/
theorem unexposed_fake :
    ∃ (machine after : Machine) (entries : List Entry),
      Reaches step (fun _ _ => True) (boot bundledWorld) machine ∧
        entries.any (failsFor "fake_stdio") = true ∧
        Unexposed "fake_stdio" machine.world after.world := by
  obtain ⟨machine, called, after, exposed, entries, reaches, asked, runs,
      answered, holds⟩ :=
    exists_of_answers
      (by decide +kernel :
        answers (.activateToolsets ["fake_stdio"] "thread" true) []
          [.acquire 0, .enter 0,
           .reply 0 (.error (.exception { message := "no server" }))]
          (failsHidden "fake_stdio") = true)
  obtain ⟨failed, hidden⟩ := (Bool.and_eq_true _ _).mp holds
  exact ⟨machine, after, entries, reaches, failed,
    ((unexposed_iff rfl reaches asked runs answered).mpr
      (of_decide_eq_true hidden)).1⟩

/-- The bundled toolset is activated again without `if_not_loaded`; closing the
replaced runtime raises, and the activation is reported as failed with the new
runtime mounted. -/
theorem failed_activation_replaces :
    ∃ machine called after exposed entries,
      Reaches step (fun _ _ => True) (boot bundledWorld) machine ∧
        step machine
            (.request (.activateToolsets ["fake_stdio"] "thread" false)) =
          some called ∧
        Reaches (monitor step exposures)
          (fun _ action => action.concerns machine.nextTask = true)
          (called, []) (after, exposed) ∧
        after.tasks machine.nextTask = some (.answered (.response entries)) ∧
        entries.any (failsFor "fake_stdio") = true ∧
        ¬ Unexposed "fake_stdio" machine.world after.world := by
  obtain ⟨machine, called, after, exposed, entries, reaches, asked, runs,
      answered, holds⟩ :=
    exists_of_answers
      (by decide +kernel :
        answers (.activateToolsets ["fake_stdio"] "thread" false)
          [.request (.activateToolsets ["fake_stdio"] "thread" true),
           .acquire 0, .enter 0, .reply 0 (.ok [])]
          [.acquire 1, .enter 1, .reply 1 (.ok []),
           .reply 1 (.error (.exception { message := "cancelled" }))]
          (failsReplacing "fake_stdio") = true)
  obtain ⟨failed, replaced⟩ := (Bool.and_eq_true _ _).mp holds
  refine ⟨machine, called, after, exposed, entries, reaches, asked, runs,
    answered, failed, ?_⟩
  intro unexposed
  exact of_decide_eq_true replaced unexposed.mounted

end Ascii

end Machine

end ToolboxMcp
