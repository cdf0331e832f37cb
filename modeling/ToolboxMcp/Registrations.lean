import ToolboxMcp.Mirrored
import ToolboxMcp.Retained
import ToolboxMcp.Visits

/-!
# A toolset stays what was registered

In every run that registers no namespace while tasks are stranded on it, the
part of a record that its registration has fixed does not change until the
namespace is unregistered, and a record only appears with a registration the
client has sent before or with the bundled one.
-/

namespace ToolboxMcp

open Effect

namespace Machine

section Steps

variable [Platform] {machine after : Machine} {good : RecordInvariant}

/-! ## One registration for a namespace -/

/-- Every copy of the registration of the namespace is `fixed`. -/
def Fixed (machine : Machine) (ns : Namespace) (fixed : ToolsetRecord) :
    Prop :=
  machine.Retains (.ofRegistered fun record => record.ns = ns → record = fixed)

/-- There is no copy of a registration of the namespace. -/
def Absent (machine : Machine) (ns : Namespace) : Prop :=
  machine.Retains (.ofRegistered fun record => record.ns ≠ ns)

omit [Platform] in
theorem Absent.fixed {ns : Namespace} (absent : machine.Absent ns)
    (fixed : ToolsetRecord) : machine.Fixed ns fixed :=
  absent.mono fun _ other same => absurd same other

omit [Platform] in
/-- An unregistered namespace has no copies anywhere. -/
theorem absent_of_unregistered (serial : machine.Serial)
    (retains : machine.Retains good) {ns : Namespace}
    (missing : machine.world.document.getToolset ns = none) :
    machine.Absent ns where
  stored := by
    rw [retains_iff serial.distinct]
    intro home record found same
    have named : record.ns = home := StateDocument.getToolset_ns found
    have equal : home = ns := named.symm.trans same
    rw [equal, missing] at found
    cases found
  held := by
    intro task current found
    cases current with
    | suspended home lock operation rest entries stage =>
        have held := retains.held task _ found
        have proper : stage.Proper machine.world home :=
          serial.sane.proper task _ found
        have registered :=
          serial.serialized.registered task home lock operation rest entries
            stage found
        obtain ⟨stored, present⟩ := World.registered_iff.mp registered
        have elsewhere : home ≠ ns := by
          intro same
          rw [same, missing] at present
          cases present
        cases stage with
        | opening body record runtime =>
            exact ⟨fun same => elsewhere (proper.1.symm.trans same), held.2⟩
        | swapping closing body record snapshot =>
            exact ⟨fun same => elsewhere (proper.1.symm.trans same), held.2⟩
        | deactivating closing scope force record =>
            intro same
            exact elsewhere (proper.1.symm.trans same)
        | _ =>
            trivial
    | _ =>
        trivial

/-- The action runs the body of a registration of the namespace. -/
def Registering (machine : Machine) (action : Action) (ns : Namespace)
    (transport : ToolsetTransport) (registration : Registration) : Prop :=
  machine.visit action =
    some ⟨ns, .register transport registration,
      start (.register transport registration) ns⟩

/-- A registration of a namespace that has a record is refused. -/
theorem fixed_rejected {ns : Namespace} {fixed : ToolsetRecord}
    (distinctAfter : after.world.document.Distinct)
    (copies : machine.Fixed ns fixed) {stored : ToolsetRecord}
    (present : machine.world.document.getToolset ns = some stored)
    {action : Action} {transport : ToolsetTransport}
    {registration : Registration}
    (registering : machine.Registering action ns transport registration)
    (turn : machine.Turn action after) : after.Fixed ns fixed := by
  cases turn with
  | aside moves tasks awake world elsewhere =>
      cases elsewhere.symm.trans registering
  | calling stretch proceeds elsewhere =>
      cases elsewhere.symm.trans registering
  | dying died elsewhere =>
      cases elsewhere.symm.trans registering
  | @visiting task home lock operation rest entries program stretch proceeds
      visits =>
      cases visits.symm.trans registering
      have ends :
          wp (startRegister ns transport registration)
            (fun progress after =>
              Untouched machine.world after ∧
                ∃ entries, progress = .left entries)
            (fun _ after => Untouched machine.world after)
            machine.world := by
        apply startRegister_rule
        · exact fun error after untouched => ⟨untouched, _, rfl⟩
        · intro record after missing
          rw [present] at missing
          cases missing
        · intro record exception after missing
          rw [present] at missing
          cases missing
        · exact fun exception after _ untouched => untouched
      have stays : ∀ world, Untouched machine.world world →
          world.document.Distinct →
          world.Retains
            (.ofRegistered fun record => record.ns = ns → record = fixed) := by
        intro world untouched distinct
        rw [retains_iff distinct]
        intro other record found
        rw [untouched.records] at found
        exact copies.stored.found found
      subst proceeds
      rw [proceed_world] at distinctAfter
      rcases wp_cases ends with
        ⟨progress, world, computed, untouched, entries, rfl⟩ |
          ⟨raised, world, computed, untouched⟩
      · have kept := stays world untouched
        change (outcome (startRegister ns transport registration)
          machine.world).2.document.Distinct at distinctAfter
        rw [computed] at distinctAfter
        change Machine.Fixed (machine.proceed task ns lock _ rest _
          (outcome (startRegister ns transport registration)
            machine.world)) ns fixed
        rw [computed]
        exact Retains.advance copies rfl (kept distinctAfter)
          (retains_of_awake (atAwait_nextVisit _ rest _))
      · have kept := stays world untouched
        change (outcome (startRegister ns transport registration)
          machine.world).2.document.Distinct at distinctAfter
        rw [computed] at distinctAfter
        change Machine.Fixed (machine.proceed task ns lock _ rest _
          (outcome (startRegister ns transport registration)
            machine.world)) ns fixed
        rw [computed]
        exact Retains.advance copies rfl (kept distinctAfter) trivial

/-- One step and the registration of one namespace: the copies stay what they
are, or the namespace is registered anew. -/
theorem fixed_turn (serial : machine.Serial)
    (distinctAfter : after.world.document.Distinct) {ns : Namespace}
    (copies : ∃ fixed, machine.Fixed ns fixed) {action : Action}
    (turn : machine.Turn action after) :
    (∃ fixed, machine.Fixed ns fixed ∧ after.Fixed ns fixed) ∧
      (machine.world.document.getToolset ns = none →
        ∀ record, after.world.document.getToolset ns = some record →
          ∃ (registration : Registration) (transport : ToolsetTransport),
            machine.Registering action ns transport registration ∧
              registration.toRecord ns transport =
                .ok record.registered) := by
  obtain ⟨fixed, holds⟩ := copies
  by_cases registering : ∃ transport registration,
      machine.Registering action ns transport registration
  · obtain ⟨transport, registration, registering⟩ := registering
    cases present : machine.world.document.getToolset ns with
    | some stored =>
        exact ⟨⟨fixed, holds, fixed_rejected distinctAfter holds
          present registering turn⟩, fun missing => by cases missing⟩
    | none =>
        have absent := absent_of_unregistered serial holds present
        cases accepted : registration.toRecord ns transport with
        | ok created =>
            have settled : after.Fixed ns created := by
              apply retains_turn (absent.fixed created) distinctAfter _ turn
              intro home operation visits transport' registration' record asked
                valid
              cases registering.symm.trans visits
              cases asked
              cases accepted.symm.trans valid
              intro _
              exact registered_toRecord accepted
            refine ⟨⟨created, absent.fixed created, settled⟩, ?_⟩
            intro _ record found
            have named : record.ns = ns := StateDocument.getToolset_ns found
            have same : record.registered = created :=
              settled.stored.found found named
            exact ⟨registration, transport, registering,
              by rw [same, accepted]⟩
        | error message =>
            have still : after.Absent ns := by
              apply retains_turn absent distinctAfter _ turn
              intro home operation visits transport' registration' record asked
                valid
              cases registering.symm.trans visits
              cases asked
              cases accepted.symm.trans valid
            refine ⟨⟨fixed, holds, still.fixed fixed⟩, ?_⟩
            intro _ record found
            have named : record.ns = ns := StateDocument.getToolset_ns found
            exact absurd named (still.stored.found found)
  · have brings : ∀ (good : ToolsetRecord → Prop),
        (∀ record, record.ns ≠ ns → good record) →
        ∀ home operation,
          machine.visit action =
            some ⟨home, operation, start operation home⟩ →
          operation.Brings (.ofRegistered good) home := by
      rintro good elsewhere home operation visits transport registration
        record rfl accepted
      apply elsewhere
      intro same
      have named : record.ns = home := (validated_of_toRecord accepted).1.ns
      have equal : home = ns := named.symm.trans same
      rw [equal] at visits
      exact registering ⟨transport, registration, visits⟩
    refine ⟨?_, ?_⟩
    · refine ⟨fixed, holds, retains_turn holds distinctAfter ?_ turn⟩
      exact brings _ fun record other same => absurd same other
    · intro missing record found
      have still : after.Absent ns :=
        retains_turn (absent_of_unregistered serial holds missing)
          distinctAfter
          (brings _ fun record other => other) turn
      have named : record.ns = ns := StateDocument.getToolset_ns found
      exact absurd named (still.stored.found found)

/-! ## Every run -/

/-- What is noted of a run: the registrations with a valid transport that are
requested, and the registered parts of the records that appear. -/
inductive Noted where
  | asked (ns : Namespace) (transport : ToolsetTransport)
      (registration : Registration)
  | appeared (made : ToolsetRecord)

def Noted.made? : Noted → Option ToolsetRecord
  | .appeared made => some made
  | .asked _ _ _ => none

/-- The records that have appeared under the name. -/
def madeAs (ns : Namespace) (history : List Noted) : List ToolsetRecord :=
  (history.filterMap Noted.made?).filter fun made => made.ns = ns

def asking : Option Action → List Noted
  | some (.request (.registerToolset ns (.ok transport) registration)) =>
      [.asked ns transport registration]
  | _ => []

/-- The registrations of the records that appear in this step. -/
def appearing (before after : Machine) : List ToolsetRecord :=
  (after.world.document.toolsets.filter fun record =>
    (before.world.record record.ns).isNone).map ToolsetRecord.registered

def noting (before : Machine) (action : Option Action) (after : Machine) :
    List Noted :=
  asking action ++ (appearing before after).map .appeared

omit [Platform] in
/-- At most one record appears under a name, and none under a used one. -/
theorem filter_appearing (distinct : after.world.document.Distinct)
    {ns : Namespace} {record : ToolsetRecord}
    (found : after.world.document.getToolset ns = some record) :
    (appearing machine after).filter (fun made => made.ns = ns) =
      if (machine.world.record ns).isNone then [record.registered]
      else [] := by
  have only :
      after.world.document.toolsets.filter (fun made => made.ns = ns) =
        [record] :=
    KeyedList.filter_key_eq ToolsetRecord.ns distinct.records found
  have named : record.ns = ns := StateDocument.getToolset_ns found
  have commuted :
      (appearing machine after).filter (fun made => made.ns = ns) =
        ((after.world.document.toolsets.filter fun made =>
            made.ns = ns).filter fun made =>
          (machine.world.record made.ns).isNone).map
          ToolsetRecord.registered := by
    rw [appearing, List.filter_map, List.filter_comm]
    rfl
  rw [commuted, only]
  by_cases missing : (machine.world.record ns).isNone = true
  · rw [if_pos missing, List.filter_cons_of_pos (named.symm ▸ missing)]
    rfl
  · rw [if_neg missing, List.filter_cons_of_neg (named.symm ▸ missing)]
    rfl

omit [Platform] in
/-- A request makes no record appear. -/
theorem madeAs_append (history : List Noted) (action : Option Action)
    (ns : Namespace) :
    madeAs ns (history ++ noting machine action after) =
      madeAs ns history ++
        (appearing machine after).filter fun made => made.ns = ns := by
  have requests : (asking action).filterMap Noted.made? = [] := by
    unfold asking
    split
    · rfl
    · rfl
  have records : ∀ made : List ToolsetRecord,
      (made.map Noted.appeared).filterMap Noted.made? = made := by
    intro made
    induction made with
    | nil => rfl
    | cons first rest inductionHypothesis =>
        simpa [Noted.made?] using inductionHypothesis
  unfold madeAs noting
  rw [List.filterMap_append, List.filterMap_append, requests, records,
    List.nil_append, List.filter_append]

/-- The bundled toolset or the outcome of a registration requested before. -/
def Acceptable (config : HostConfig) (earlier : List Noted)
    (made : ToolsetRecord) : Prop :=
  made = fakeToolset config ∨
    ∃ (registration : Registration) (transport : ToolsetTransport),
      .asked made.ns transport registration ∈ earlier ∧
        registration.toRecord made.ns transport = .ok made

/-- Whenever a record has appeared, that was acceptable. -/
def Justified (config : HostConfig) (history : List Noted) : Prop :=
  ∀ front made back, history = front ++ .appeared made :: back →
    Acceptable config front made

omit [Platform] in
theorem Acceptable.later {config : HostConfig} {earlier later : List Noted}
    {made : ToolsetRecord} (acceptable : Acceptable config earlier made) :
    Acceptable config (earlier ++ later) made := by
  rcases acceptable with bundled | ⟨registration, transport, asked, valid⟩
  · exact .inl bundled
  · exact .inr ⟨registration, transport, List.mem_append_left _ asked, valid⟩

omit [Platform] in
theorem justified_append {config : HostConfig} {history : List Noted}
    {action : Option Action} (justified : Justified config history)
    (appears :
      ∀ made ∈ appearing machine after, Acceptable config history made) :
    Justified config (history ++ noting machine action after) := by
  intro front made back parts
  have whole : Noted.appeared made ∈ noting machine action after →
      Acceptable config history made := by
    intro member
    rcases List.mem_append.mp member with request | record
    · unfold asking at request
      split at request
      · cases List.mem_singleton.mp request
      · cases request
    · obtain ⟨_, appeared, same⟩ := List.mem_map.mp record
      cases same
      exact appears made appeared
  rcases List.append_eq_append_iff.mp parts with
    ⟨rest, rfl, later⟩ | ⟨rest, earlier, later⟩
  · apply (whole ?_).later
    rw [later]
    exact List.mem_append_right _ List.mem_cons_self
  · cases rest with
    | nil =>
        rw [List.append_nil] at earlier
        subst earlier
        apply whole
        rw [← List.nil_append (noting machine action after), ← later]
        exact List.mem_cons_self
    | cons first rest =>
        cases later
        exact justified front made rest earlier

/-- What a run knows of the registrations it has seen. -/
structure Recorded (config : HostConfig)
    (state : Machine × List Noted) : Prop where
  serial : state.1.Serial
  host : state.1.world.config = config
  copies : ∀ ns, ∃ fixed, state.1.Fixed ns fixed
  latest :
    ∀ ns record, state.1.world.record ns = some record →
      (madeAs ns state.2).getLast? = some record.registered
  asked :
    ∀ ns transport registration,
      state.1.Awaits (ns, .register transport registration) →
        .asked ns transport registration ∈ state.2
  accepted : Justified config state.2

omit [Platform] in
theorem latest_of_last {history : List Noted} {action : Option Action}
    {ns : Namespace} {record : ToolsetRecord}
    (distinct : after.world.document.Distinct)
    (found : after.world.record ns = some record)
    (earlier : ∀ stored, machine.world.record ns = some stored →
      (madeAs ns history).getLast? = some record.registered) :
    (madeAs ns (history ++ noting machine action after)).getLast? =
      some record.registered := by
  rw [madeAs_append, filter_appearing distinct found]
  cases present : machine.world.record ns with
  | none =>
      simp
  | some stored =>
      simpa using earlier stored present

/-- A registration that is awaited has been requested. -/
theorem asked_step {history : List Noted} {action : Action}
    (asked :
      ∀ ns transport registration,
        machine.Awaits (ns, .register transport registration) →
          .asked ns transport registration ∈ history)
    (taken : step machine action = some after) (ns : Namespace)
    (transport : ToolsetTransport) (registration : Registration)
    (awaits : after.Awaits (ns, .register transport registration)) :
    .asked ns transport registration ∈
      history ++ noting machine (some action) after := by
  rcases awaits_step taken awaits with
    earlier | ⟨request, rfl, asks, subject⟩
  · exact List.mem_append_left _ (asked ns transport registration earlier)
  · apply List.mem_append_right
    apply List.mem_append_left
    cases request with
    | registerToolset home given sent =>
        obtain ⟨valid, rfl, same⟩ := asks
        cases same
        cases List.mem_singleton.mp subject
        exact List.mem_singleton_self _
    | activateToolsets namespaces scope ifNotLoaded =>
        obtain ⟨_, _, same⟩ := asks
        cases same
    | refreshToolsets namespaces ifStale scope =>
        obtain ⟨_, _, same⟩ := asks
        cases same
    | deactivateToolsets namespaces scope force =>
        obtain ⟨_, _, same⟩ := asks
        cases same
    | checkToolsetHealth namespaces scope =>
        obtain ⟨_, _, same⟩ := asks
        cases same
    | _ =>
        cases asks

theorem config_of_turn (sane : machine.Sane) {action : Action}
    (turn : machine.Turn action after) :
    after.world.config = machine.world.config := by
  cases turn with
  | aside moves tasks awake world elsewhere =>
      exact world.config
  | visiting stretch proceeds visits =>
      subst proceeds
      rw [proceed_world]
      exact (final_of_wp_left (stretch.sound sane)).config
  | calling stretch proceeds elsewhere =>
      subst proceeds
      rw [proceedCall_world]
      exact (final_of_wp_left (stretch.sound sane)).config.trans
        stretch.aside.config
  | dying died elsewhere =>
      subst died
      rfl

theorem recorded_step {config : HostConfig} {history : List Noted}
    (recorded : Recorded config (machine, history)) {action : Action}
    (strands : machine.StrandsNobody action)
    (taken : step machine action = some after) :
    Recorded config
      (after, history ++ noting machine (some action) after) := by
  have serial := recorded.serial.step strands taken
  have turn := turn_of_step taken
  have stays := fun ns =>
    (fixed_turn recorded.serial serial.distinct (recorded.copies ns) turn)
  refine ⟨serial, ?_, ?_, ?_, asked_step recorded.asked taken, ?_⟩
  · exact (config_of_turn recorded.serial.sane turn).trans recorded.host
  · intro ns
    obtain ⟨⟨fixed, _, later⟩, _⟩ := stays ns
    exact ⟨fixed, later⟩
  · intro ns record found
    apply latest_of_last serial.distinct found
    intro stored present
    obtain ⟨⟨fixed, before, later⟩, _⟩ := stays ns
    have old : stored.ns = ns := StateDocument.getToolset_ns present
    have new : record.ns = ns := StateDocument.getToolset_ns found
    have first : stored.registered = fixed := before.stored.found present old
    have second : record.registered = fixed := later.stored.found found new
    rw [second, ← first]
    exact recorded.latest ns stored present
  · apply justified_append recorded.accepted
    intro made appeared
    obtain ⟨record, stored, rfl⟩ := List.mem_map.mp appeared
    obtain ⟨member, missing⟩ := List.mem_filter.mp stored
    have found := serial.distinct.getToolset member
    obtain ⟨registration, transport, registering, valid⟩ :=
      (stays record.ns).2 (Option.isNone_iff_eq_none.mp missing) record found
    have awaits := awaits_of_visit registering
    exact .inr ⟨registration, transport,
      recorded.asked record.ns transport registration awaits, valid⟩

omit [Platform] in
theorem recorded_restart {history : List Noted}
    (reliable : machine.world.Reliable)
    (distinct : machine.world.document.Distinct)
    (latest :
      ∀ ns record, machine.world.record ns = some record →
        (madeAs ns history).getLast? = some record.registered)
    (accepted : Justified machine.world.config history) :
    Recorded machine.world.config
      (machine.restart, history ++ noting machine none machine.restart) := by
  have serial := serial_restart reliable distinct
  obtain ⟨transport, records⟩ := restart_spec reliable distinct
  have anything :
      machine.restart.Retains (.ofRegistered fun _ => True) :=
    ⟨fun _ _ => trivial, fun _ _ found => by cases found⟩
  refine ⟨serial, transport.config, ?_, ?_, ?_, ?_⟩
  · intro ns
    cases found : machine.restart.world.document.getToolset ns with
    | none =>
        exact ⟨fakeToolset {},
          (absent_of_unregistered serial anything found).fixed _⟩
    | some record =>
        refine ⟨record.registered, ?_, fun task current held => by
          cases held⟩
        rw [retains_iff serial.distinct]
        intro home other also same
        have named : other.ns = home := StateDocument.getToolset_ns also
        have equal : home = ns := named.symm.trans same
        rw [equal, found] at also
        cases also
        rfl
  · intro ns record found
    apply latest_of_last serial.distinct found
    intro stored present
    have kept : record = reconciledRecord stored := by
      have bundles : bundled machine.world ns = some stored := by
        unfold bundled
        rw [show machine.world.document.getToolset ns = some stored from
          present]
        rfl
      have reconciled := records ns
      rw [bundles] at reconciled
      exact Option.some.inj (found.symm.trans reconciled)
    rw [kept]
    exact latest ns stored present
  · rintro ns transport registration ⟨task, current, found, _⟩
    cases found
  · apply justified_append accepted
    intro made appeared
    obtain ⟨record, stored, rfl⟩ := List.mem_map.mp appeared
    obtain ⟨member, missing⟩ := List.mem_filter.mp stored
    left
    have found := serial.distinct.getToolset member
    have absent :
        machine.world.document.getToolset record.ns = none :=
      Option.isNone_iff_eq_none.mp missing
    rw [records, bundled, absent, Option.none_or] at found
    split at found
    · rw [Option.map_some, Option.some.injEq] at found
      rw [← found]
      rfl
    · cases found

/-- Along every run that registers no namespace while tasks are stranded on
it, the registered part of each stored record is the one that appeared last
under its name, and only the bundled toolset appears and what a registration
requested earlier in the run makes. -/
theorem registrations_of_history {config : HostConfig}
    {history : List Noted}
    (reaches :
      Reaches (monitor lifeStep noting)
        (fun before action => before.1.Unstranded action)
        (firstProcess config,
          noting (emptyHost config) none (firstProcess config))
        (machine, history)) :
    (∀ ns record, machine.world.record ns = some record →
      (madeAs ns history).getLast? = some record.registered) ∧
      ∀ front made back, history = front ++ .appeared made :: back →
        Acceptable config front made := by
  have recorded : Recorded config (machine, history) := by
    apply reaches.invariant
    · exact recorded_restart (reliable_emptyHost config)
        StateDocument.distinct_empty
        (fun ns record found => by cases found)
        (fun front made back parts => by
          cases front <;> cases parts)
    · rintro ⟨before, seen⟩ action ⟨next, later⟩ holds meets taken
      obtain ⟨stepped, grown⟩ := monitor_eq_some.mp taken
      simp only at stepped grown
      rw [grown]
      cases action with
      | none =>
          cases stepped
          have host : before.world.config = config := holds.host
          have started := recorded_restart holds.serial.reliable
            holds.serial.distinct holds.latest (host ▸ holds.accepted)
          exact host ▸ started
      | some action =>
          exact recorded_step holds meets stepped
  exact ⟨recorded.latest, recorded.accepted⟩

end Steps

section Ascii

open scoped Ascii

/-- A server is registered, activated and kept over a restart, the bundled one
is dropped and comes back. -/
theorem registrations_of_history_registered :
    ∃ machine history,
      Reaches (monitor lifeStep noting)
        (fun before action => before.1.Unstranded action)
        (firstProcess {},
          noting (emptyHost {}) none (firstProcess {}))
        (machine, history) ∧
      (history.map fun noted => noted.made?.map ToolsetRecord.ns) =
        [some "fake_stdio", none, some "files", some "fake_stdio"] ∧
      ((machine.world.record "files").map ToolsetRecord.title) =
        some "Files" ∧
      (∀ record, machine.world.record "files" = some record →
        (madeAs "files" history).getLast? = some record.registered) ∧
      ∀ front made back, history = front ++ .appeared made :: back →
        Acceptable {} front made := by
  obtain ⟨⟨machine, history⟩, reaches, names, title⟩ :=
    exists_reaches_of_execute
      [some (.request
         (.registerToolset "files" (.ok { command := "python" })
           { title := "Files", description := "Files" })),
       some (.acquire 0), some (.enter 0),
       some (.request (.activateToolsets ["files"] "thread" true)),
       some (.acquire 1), some (.enter 1), some (.reply 1 (.ok [])),
       some (.request (.unregisterToolsets ["fake_stdio"] false)),
       some (.acquire 2), some (.enter 2),
       none]
      (by decide +kernel :
        (execute (monitor lifeStep noting)
          (fun before action => before.1.Unstranded action)
          (firstProcess {},
            noting (emptyHost {}) none (firstProcess {})) _).any
          (fun final =>
            (final.2.map fun noted => noted.made?.map ToolsetRecord.ns) =
                [some "fake_stdio", none, some "files",
                  some "fake_stdio"] ∧
              (final.1.world.record "files").map ToolsetRecord.title =
                some "Files") = true)
  obtain ⟨latest, justified⟩ := registrations_of_history reaches
  exact ⟨machine, history, reaches, names, title, latest "files", justified⟩

end Ascii

end Machine

end ToolboxMcp
