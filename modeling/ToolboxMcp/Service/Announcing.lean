import ToolboxMcp.Service.Serving
import ToolboxMcp.Service.ToolList

/-!
# Stretches that change the list of tools

A stretch that changes what is mounted either suspends to see the old runtime
ended, or leaves an item for which the server notifies the client, unless the
downstream server fails: dies, fails a probe, or ends its close with an error.
-/

namespace ToolboxMcp

open Effect

/-- The list has been changed for an item that is still to come. -/
def Stage.turned : Stage → Bool
  | .swapping .. => true
  | .deactivating .. => true
  | .unregistering .. => true
  | _ => false

/-- The downstream server does not fail; a runtime may fail to come up. -/
def Stage.undisturbed [Platform] (ns : Namespace) (reply : Reply) :
    Stage → Bool
  | .opening .. => true
  | .swapping closing _ _ _ => (closing.raises reply).isNone
  | .deactivating closing _ _ _ => (closing.raises reply).isNone
  | .unregistering closing _ => (closing.raises reply).isNone
  | .probing .. =>
      match reply with
      | .ok tools => (validateToolInventory ns tools).isOk
      | .error raised => raised == .cancelled
  | .aborting .. => false
  | .unhealthy .. => false

/-- What a stretch that started with the list `turned` or not owes or shows. -/
def Progress.Notices (operation : Operation) (turned : Bool)
    (before after : World) : Progress → Prop
  | .inside stage =>
      stage.turned = true ∨ turned = false ∧ SameListing before after
  | .left entries =>
      entries.any operation.notifies = true ∨
        turned = false ∧ SameListing before after

section Entries

variable {ns : Namespace} {operation : Operation}

theorem silent_checkHealth (scope : Option Scope) :
    (Operation.checkHealth scope).Silent :=
  fun _ => rfl

/-- A completed opening is announced to the client that asked for it. -/
theorem notifies_completedEntry [Platform] {opening : Opening}
    {record : ToolsetRecord} {snapshot : SchemaSnapshot} (serves : opening.Serves operation)
    (served : operation.served = true) :
    operation.notifies (opening.completedEntry ns record snapshot) = true := by
  cases opening with
  | activate scope =>
      obtain ⟨ifNotLoaded, rfl⟩ := serves
      rfl
  | restore candidates startup =>
      obtain ⟨identity, rfl⟩ := serves
      cases startup with
      | true =>
          cases served
      | false =>
          rfl
  | refresh scope previousTools oldHash =>
      obtain ⟨ifStale, rfl⟩ := serves
      rfl

theorem notifies_unregisters {entries : List Entry} {force : Bool}
    (unregisters : Unregisters ns entries) :
    entries.any (Operation.unregister force).notifies = true := by
  rcases unregisters with rfl | rfl
  · rfl
  · rfl

end Entries

section Starts

variable [Platform] {ns : Namespace} {world : World}

/-- Nothing is hashed in vain where the inventory is valid. -/
theorem knownSchemaHash_valid {record : ToolsetRecord} {tools : List Tool}
    (valid : (validateToolInventory ns tools).isOk = true) :
    wp (knownSchemaHash ns record tools) (fun _ after => after = world)
      (fun _ _ => False) world := by
  unfold knownSchemaHash
  cases record.schemaHash with
  | some hash =>
      rfl
  | none =>
      simp only
      cases listed : validateToolInventory ns tools with
      | ok normalized =>
          rfl
      | error exception =>
          rw [listed] at valid
          cases valid

theorem startActivate_returns (reliable : world.Reliable)
    (valid : ∀ runtime, world.runtimeFor ns = some runtime →
      (validateToolInventory ns (world.objects runtime).tools).isOk = true)
    (scope : Scope) (ifNotLoaded : Bool) :
    wp (startActivate ns scope ifNotLoaded) (fun _ _ => True)
      (fun _ _ => False) world := by
  unfold startActivate
  rw [wp_bind, wp_get]
  cases found : world.document.getToolset ns with
  | none =>
      simp only [World.record, found]
      apply rejected_rule
      · exact fun _ _ => trivial
      · exact fun _ _ _ unreliable => unreliable reliable
  | some record =>
      have named := StateDocument.getToolset_ns found
      simp only [World.record, found]
      split
      · apply rejected_rule
        · exact fun _ _ => trivial
        · exact fun _ _ _ unreliable => unreliable reliable
      cases reusable : reusableRuntime world ns record scope with
      | some runtime =>
          have running : world.runtimeFor ns = some runtime :=
            Option.eq_some_of_filter_eq_some reusable
          simp only
          unfold activateReusing
          rw [wp_bind, wp_utcNow, wp_bind]
          refine upsertToolset_rule (by simpa using named) ?_ ?_
          · intro first wrote
            rw [wp_bind]
            apply appendAuditEvent_rule
            · intro after untouched
              rw [wp_bind]
              apply wp_mono (knownSchemaHash_valid (valid runtime running))
              · exact fun _ _ _ => trivial
              · exact fun _ _ impossible => impossible
            · exact fun _ _ _ unreliable =>
                unreliable (wrote.reliable reliable)
          · exact fun _ _ _ unreliable => unreliable reliable
      | none =>
          simp only
          split
          · trivial
          · apply begin_rule found
            · exact fun _ _ => trivial
            · exact fun _ _ _ _ => trivial
            · exact fun _ _ _ unreliable => unreliable reliable

theorem startRestore_returns (reliable : world.Reliable)
    (valid : ∀ runtime, world.runtimeFor ns = some runtime →
      (validateToolInventory ns (world.objects runtime).tools).isOk = true)
    (identity startup : Bool) :
    wp (startRestore ns identity startup) (fun _ _ => True)
      (fun _ _ => False) world := by
  unfold startRestore
  rw [wp_bind, wp_get]
  cases found : world.document.getToolset ns with
  | none =>
      simp only [World.record, found]
      apply rejected_rule
      · exact fun _ _ => trivial
      · exact fun _ _ _ unreliable => unreliable reliable
  | some record =>
      have named := StateDocument.getToolset_ns found
      simp only [World.record, found]
      split
      · trivial
      cases running : world.runtimeFor ns with
      | some runtime =>
          simp only
          split
          · trivial
          unfold restoreReusing
          rw [wp_bind, wp_utcNow, wp_bind]
          refine upsertToolset_rule (by simpa using named) ?_ ?_
          · intro first wrote
            rw [wp_bind]
            apply wp_mono (knownSchemaHash_valid (valid runtime running))
            · rintro hash _ rfl
              rw [wp_bind]
              apply appendAuditEvent_rule
              · exact fun _ _ => trivial
              · exact fun _ _ _ unreliable =>
                  unreliable (wrote.reliable reliable)
            · exact fun _ _ impossible => impossible
          · exact fun _ _ _ unreliable => unreliable reliable
      | none =>
          simp only
          apply begin_rule found
          · exact fun _ _ => trivial
          · exact fun _ _ _ _ => trivial
          · exact fun _ _ _ unreliable => unreliable reliable

/-- A first stretch announces what it changes, and is only raised out of where
nothing is announced. -/
theorem start_notices (reliable : world.Reliable) (housed : world.Housed)
    (inventoried : world.Inventoried) (operation : Operation) :
    wp (start operation ns)
      (fun progress after => progress.Notices operation false world after)
      (fun _ after => operation.Silent ∧ SameListing world after) world := by
  have valid : ∀ runtime, world.runtimeFor ns = some runtime →
      (validateToolInventory ns (world.objects runtime).tools).isOk = true :=
    fun runtime running =>
      inventoried.valid ns runtime (World.runtimeFor_eq_some.mp running).1
  have here : ∀ {entry : Entry} {after : World},
      SameTransport world after →
        (Progress.left [entry]).Notices operation false world after :=
    fun same => .inr ⟨rfl, same.sameListing⟩
  have opened : ∀ {opening : Opening} {record : ToolsetRecord} {after : World},
      SameTransport world after →
        (Progress.inside (.opening opening record world.nextRuntime)).Notices
          operation false world (after.spawnRuntime ns) := by
    intro opening record after same
    refine .inr ⟨rfl, same.sameListing.trans (sameListing_spawnRuntime ?_)⟩
    intro home runtime mounted
    rw [same.runtimes] at mounted
    have owned := housed home runtime mounted
    unfold World.Owned
    rwa [same.nextRuntime, same.objects]
  cases operation with
  | register transport registration =>
      apply startRegister_rule
      · exact fun _ _ untouched => here untouched.toSameTransport
      · exact fun _ _ _ _ _ wrote => here wrote.toSameTransport
      · exact fun _ _ _ _ _ _ unreliable _ => absurd reliable unreliable
      · exact fun _ _ unreliable _ => absurd reliable unreliable
  | activate scope ifNotLoaded =>
      apply wp_mono (wp_and _ (startActivate_returns reliable valid _ _))
      · exact fun _ _ both => both.1
      · exact fun _ _ both => both.2.elim
      · exact fun _ _ => True
      · apply startActivate_rule
        · exact fun _ _ untouched => here untouched.toSameTransport
        · exact fun _ _ _ _ _ => here (.refl world)
        · exact fun _ _ _ _ _ _ _ _ _ _ wrote => here wrote.toSameTransport
        · exact fun _ _ _ _ _ _ _ _ => trivial
        · exact fun _ _ _ _ _ _ wrote => opened wrote.toSameTransport
        · exact fun _ _ _ unreliable _ _ => absurd reliable unreliable
        · exact fun _ _ _ _ => trivial
  | refresh ifStale scope =>
      apply startRefresh_rule
      · exact fun _ _ untouched _ => here untouched.toSameTransport
      · exact fun _ _ _ => opened (.refl world)
      · exact fun _ _ _ unreliable => absurd reliable unreliable
  | deactivate scope force =>
      apply startDeactivate_rule
      · exact fun _ _ untouched _ => here untouched.toSameTransport
      · exact fun _ _ _ _ _ _ => .inl rfl
      · exact fun _ _ _ _ _ _ _ => .inl rfl
      · exact fun _ _ _ _ _ _ _ => .inl rfl
      · exact fun _ _ _ unreliable => absurd reliable unreliable
  | restore identity startup =>
      apply wp_mono (wp_and _ (startRestore_returns reliable valid _ _))
      · exact fun _ _ both => both.1
      · exact fun _ _ both => both.2.elim
      · exact fun _ _ => True
      · apply startRestore_rule
        · exact fun _ _ untouched _ => here untouched.toSameTransport
        · exact fun _ _ _ _ _ _ _ _ _ _ _ wrote =>
            here wrote.toSameTransport
        · exact fun _ _ _ _ _ _ _ _ _ _ => trivial
        · exact fun _ _ _ _ _ _ _ wrote => opened wrote.toSameTransport
        · exact fun _ _ _ _ unreliable _ _ => absurd reliable unreliable
        · exact fun _ _ _ _ => trivial
  | checkHealth scope =>
      apply startCheckHealth_rule
      · exact fun _ _ untouched _ => here untouched.toSameTransport
      · exact fun _ _ _ _ => .inr ⟨rfl, .refl world⟩
      · exact fun _ _ _ _ _ _ _ _ wrote => here wrote.toSameTransport
      · exact fun _ _ _ unreliable => absurd reliable unreliable
  | clearStale =>
      apply startClearStale_rule
      · exact fun _ _ untouched _ => here untouched.toSameTransport
      · exact fun _ _ _ _ _ wrote => here wrote.toSameTransport
      · exact fun _ _ _ unreliable => absurd reliable unreliable
  | markStale reason =>
      apply startMarkStale_rule
      · exact fun _ => here (.refl world)
      · exact fun _ _ _ wrote => here wrote.toSameTransport
      · exact fun _ _ _ unreliable => absurd reliable unreliable
  | unregister force =>
      apply startUnregister_rule
      · exact fun _ _ untouched => here untouched.toSameTransport
      · exact fun _ _ _ _ _ _ unregisters =>
          .inl (notifies_unregisters unregisters)
      · exact fun _ _ _ _ _ => .inl rfl
      · exact fun _ _ unreliable _ => absurd reliable unreliable

/-- The other stretches announce what they or earlier ones have changed, if the
downstream server does not fail. -/
theorem resume_notices {stage : Stage} {operation : Operation} {reply : Reply}
    (reliable : world.Reliable) (proper : stage.Proper world ns)
    (serves : stage.Serves operation) (served : operation.served = true)
    (unmounted : ∀ runtime, stage.landing = some runtime →
      ∀ home, world.runtimes.get home ≠ some runtime)
    (undisturbed : stage.undisturbed ns reply = true) :
    wp (resume ns stage reply)
      (fun progress after =>
        progress.Notices operation stage.turned world after)
      (fun _ after => (operation.Silent ∨ reply = .error .cancelled) ∧
        stage.turned = false ∧ SameListing world after)
      world := by
  cases stage with
  | opening opening record runtime =>
      have unseen : SameListing world (world.markDone runtime) :=
        sameListing_markDone fun home mounted =>
          absurd mounted (unmounted runtime rfl home)
      apply resumeOpening_rule proper.1
      · exact fun cancelled => ⟨.inr cancelled, rfl, .refl world⟩
      · exact fun _ _ _ wrote =>
          .inr ⟨rfl, unseen.trans wrote.toSameTransport.sameListing⟩
      · exact fun _ _ _ _ _ _ _ => .inl rfl
      · intro _ _ _ _ _ _ _ _ _
        left
        rw [List.any_cons, notifies_completedEntry serves served]
        rfl
      · exact fun _ _ _ _ _ _ _ _ _ unreliable => absurd reliable unreliable
      · exact fun _ _ unreliable => absurd reliable unreliable
  | swapping closing opening record snapshot =>
      have quietly : closing.raises reply = none :=
        Option.isNone_iff_eq_none.mp undisturbed
      apply resumeSwapping_rule proper.1 proper.2.1
      · intro raises
        cases quietly.symm.trans raises
      · intro _ _ raises _
        cases quietly.symm.trans raises
      · intro _ _ _ _
        left
        rw [List.any_cons, notifies_completedEntry serves served]
        rfl
      · exact fun _ _ _ _ unreliable => absurd reliable unreliable
      · exact fun _ _ _ unreliable => absurd reliable unreliable
  | deactivating closing scope force record =>
      have quietly : closing.raises reply = none :=
        Option.isNone_iff_eq_none.mp undisturbed
      cases serves
      apply resumeDeactivating_rule proper.1
      · exact fun _ _ _ => .inl rfl
      · intro _ raises
        cases quietly.symm.trans raises
      · exact fun _ _ _ unreliable => absurd reliable unreliable
  | unregistering closing force =>
      have quietly : closing.raises reply = none :=
        Option.isNone_iff_eq_none.mp undisturbed
      cases serves
      apply resumeUnregistering_rule
      · exact fun _ _ _ unregisters =>
          .inl (notifies_unregisters unregisters)
      · intro _ raises
        cases quietly.symm.trans raises
      · exact fun _ _ unreliable _ => absurd reliable unreliable
  | probing scope record runtime =>
      cases serves
      have here : ∀ {entry : Entry} {after : World},
          SameTransport world after →
            (Progress.left [entry]).Notices (.checkHealth scope) false world
              after :=
        fun same => .inr ⟨rfl, same.sameListing⟩
      have silent := silent_checkHealth scope
      have healthy : reply ≠ .error .cancelled →
          bootstraps ns reply = true := by
        intro answered
        cases reply with
        | ok tools =>
            exact undisturbed
        | error raised =>
            exact absurd (congrArg Except.error (eq_of_beq undisturbed))
              answered
      have lists : bootstraps ns reply = true →
          (Stage.probing scope record runtime).fails ns reply = none := by
        intro boots
        cases reply with
        | ok tools =>
            exact if_pos boots
        | error raised =>
            cases boots
      by_cases cancelled : reply = .error .cancelled
      · subst cancelled
        exact ⟨.inr rfl, rfl, .refl world⟩
      · have boots := healthy cancelled
        apply resumeProbing_rule
        · exact fun _ _ _ _ _ _ _ _ _ _ wrote => here wrote.toSameTransport
        · intro broken
          cases boots.symm.trans broken
        · intro _ _ fails _
          cases (lists boots).symm.trans fails
        · exact fun _ _ => ⟨.inl silent, rfl, .refl world⟩
        · exact fun _ _ _ _ _ _ _ _ wrote => here wrote.toSameTransport
        · exact fun raised => absurd raised cancelled
        · exact fun _ _ _ unreliable => absurd reliable unreliable
  | aborting scope record runtime =>
      cases undisturbed
  | unhealthy closing scope record exception =>
      cases undisturbed

end Starts

end ToolboxMcp
