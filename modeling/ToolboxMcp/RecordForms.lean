import ToolboxMcp.ScopeManager

/-!
# Records in the form the validator returns

The scope-policy validator does more than check: it brings the four scope lists
of a record into canonical form.  A record is well formed when there is nothing
left to do, so that the validator accepts it and returns it as it is.  The
edits of the scope manager are made on records that nobody validates again;
they keep the form.
-/

namespace ToolboxMcp

/-! ## Scope lists -/

/-- Without duplicates and in the order of the table `_SCOPE_ORDER`. -/
structure CanonicalScopes (scopes : List Scope) : Prop where
  distinct : scopes.Nodup
  ordered :
    scopes.Pairwise fun left right => scopeOrder left ≤ scopeOrder right

private instance :
    IsTrans Scope fun left right => scopeOrder left ≤ scopeOrder right :=
  ⟨fun _ _ _ => Nat.le_trans⟩

private instance :
    Std.Total fun left right : Scope => scopeOrder left ≤ scopeOrder right :=
  ⟨fun left right => Nat.le_total (scopeOrder left) (scopeOrder right)⟩

theorem canonicalScopes_sortScopes {scopes : List Scope}
    (distinct : scopes.Nodup) : CanonicalScopes (sortScopes scopes) where
  distinct := (List.perm_insertionSort _ scopes).nodup_iff.mpr distinct
  ordered := List.pairwise_insertionSort _ scopes

theorem canonicalScopes_orderedUniqueScopes (scopes : List Scope) :
    CanonicalScopes (orderedUniqueScopes scopes) :=
  canonicalScopes_sortScopes scopes.nodup_dedup

/-- The canonical lists are the ones that need no reordering. -/
theorem orderedUniqueScopes_eq_self {scopes : List Scope} :
    orderedUniqueScopes scopes = scopes ↔ CanonicalScopes scopes := by
  constructor
  · intro unchanged
    have canonical := canonicalScopes_orderedUniqueScopes scopes
    rw [unchanged] at canonical
    exact canonical
  · intro canonical
    unfold orderedUniqueScopes sortScopes
    rw [List.dedup_eq_self.mpr canonical.distinct]
    exact canonical.ordered.insertionSort_eq

theorem canonicalScopes_all : CanonicalScopes Scope.all where
  distinct := by decide
  ordered := by decide

namespace CanonicalScopes

variable {scopes : List Scope}

theorem nil : CanonicalScopes [] :=
  ⟨List.nodup_nil, List.Pairwise.nil⟩

theorem filter (canonical : CanonicalScopes scopes) (kept : Scope → Bool) :
    CanonicalScopes (scopes.filter kept) :=
  ⟨canonical.distinct.filter kept, canonical.ordered.filter kept⟩

theorem insert (canonical : CanonicalScopes scopes) {scope : Scope}
    (absent : scope ∉ scopes) :
    CanonicalScopes (sortScopes (scopes ++ [scope])) := by
  apply canonicalScopes_sortScopes
  rw [List.nodup_append]
  have single : [scope].Nodup := List.nodup_singleton scope
  refine ⟨canonical.distinct, single, ?_⟩
  intro present member added addedMember
  have same : added = scope := List.mem_singleton.mp addedMember
  subst same
  exact fun equal => absent (equal ▸ member)

end CanonicalScopes

/-! ## Records -/

structure WellFormed (record : ToolsetRecord) : Prop
    extends ScopePolicyValid record where
  supported : CanonicalScopes record.supportedScopes
  restorable : CanonicalScopes record.restorableScopes
  recoverable : CanonicalScopes record.recoverableScopes
  loaded : CanonicalScopes record.loadedScopes

theorem normalizeScopes_eq_self {record : ToolsetRecord} :
    normalizeScopes record = record ↔
      CanonicalScopes record.supportedScopes ∧
        CanonicalScopes record.restorableScopes ∧
        CanonicalScopes record.recoverableScopes ∧
        CanonicalScopes record.loadedScopes := by
  simp only [← orderedUniqueScopes_eq_self]
  constructor
  · intro unchanged
    exact ⟨congrArg ToolsetRecord.supportedScopes unchanged,
      congrArg ToolsetRecord.restorableScopes unchanged,
      congrArg ToolsetRecord.recoverableScopes unchanged,
      congrArg ToolsetRecord.loadedScopes unchanged⟩
  · intro ⟨supported, restorable, recoverable, loaded⟩
    unfold normalizeScopes
    rw [supported, restorable, recoverable, loaded]

/-- The validator returns exactly the well-formed records as they are. -/
theorem validateScopePolicy_eq_self {record : ToolsetRecord} :
    validateScopePolicy record = .ok record ↔ WellFormed record := by
  rw [validateScopePolicy_eq_ok]
  constructor
  · intro ⟨unchanged, valid⟩
    obtain ⟨supported, restorable, recoverable, loaded⟩ :=
      normalizeScopes_eq_self.mp unchanged.symm
    exact ⟨valid, supported, restorable, recoverable, loaded⟩
  · intro wellFormed
    have canonical := normalizeScopes_eq_self.mpr
      ⟨wellFormed.supported, wellFormed.restorable, wellFormed.recoverable,
        wellFormed.loaded⟩
    exact ⟨canonical.symm, wellFormed.toScopePolicyValid⟩

/-- What the validator returns, it would return again. -/
theorem wellFormed_of_validated {record validated : ToolsetRecord}
    (accepted : validateScopePolicy record = .ok validated) :
    WellFormed validated := by
  obtain ⟨rfl, valid⟩ := validateScopePolicy_eq_ok.mp accepted
  exact {
    toScopePolicyValid := valid
    supported := canonicalScopes_orderedUniqueScopes _
    restorable := canonicalScopes_orderedUniqueScopes _
    recoverable := canonicalScopes_orderedUniqueScopes _
    loaded := canonicalScopes_orderedUniqueScopes _ }

/-! ## Edits -/

theorem canonicalScopes_addScope {record : ToolsetRecord}
    (canonical : CanonicalScopes record.loadedScopes) (scope : Scope) :
    CanonicalScopes (addScope record scope).loadedScopes := by
  unfold addScope
  split
  · exact canonical
  · rename_i absent
    exact canonical.insert absent

theorem canonicalScopes_addScopes {record : ToolsetRecord}
    (canonical : CanonicalScopes record.loadedScopes)
    (scopes : List Scope) :
    CanonicalScopes (addScopes record scopes).loadedScopes := by
  induction scopes generalizing record with
  | nil =>
      exact canonical
  | cons scope rest inductionHypothesis =>
      exact inductionHypothesis (canonicalScopes_addScope canonical scope)

theorem canonicalScopes_removeScope {record : ToolsetRecord}
    (canonical : CanonicalScopes record.loadedScopes) (scope : Scope) :
    CanonicalScopes (removeScope record scope).loadedScopes := by
  unfold removeScope
  split
  · exact canonical.filter _
  · exact canonical

theorem canonicalScopes_addRecoverableScope {record : ToolsetRecord}
    (canonical : CanonicalScopes record.recoverableScopes) (scope : Scope) :
    CanonicalScopes (addRecoverableScope record scope).recoverableScopes := by
  unfold addRecoverableScope
  split
  · exact canonical
  · rename_i added
    have absent : scope ∉ record.recoverableScopes :=
      fun member => added (.inr member)
    exact canonical.insert absent

theorem canonicalScopes_removeRecoverableScope {record : ToolsetRecord}
    (canonical : CanonicalScopes record.recoverableScopes) (scope : Scope) :
    CanonicalScopes
      (removeRecoverableScope record scope).recoverableScopes := by
  unfold removeRecoverableScope
  split
  · exact canonical.filter _
  · exact canonical

namespace WellFormed

variable {record : ToolsetRecord} {scope : Scope}

/-- Only the scope policy matters. -/
theorem congr {left right : ToolsetRecord} (wellFormed : WellFormed left)
    (same : scopePolicy left = scopePolicy right) : WellFormed right := by
  have valid := ScopePolicyValid.congr same wellFormed.toScopePolicyValid
  obtain ⟨_, loaded, supported, restorable, recoverable, _⟩ :=
    scopePolicy_eq.mp same
  constructor
  · exact valid
  · rw [← supported]
    exact wellFormed.supported
  · rw [← restorable]
    exact wellFormed.restorable
  · rw [← recoverable]
    exact wellFormed.recoverable
  · rw [← loaded]
    exact wellFormed.loaded

theorem activated (wellFormed : WellFormed record)
    (supported : scope ∈ record.supportedScopes) :
    WellFormed (activated record scope) := by
  have valid := wellFormed.toScopePolicyValid.activated supported
  have loaded := canonicalScopes_addScope wellFormed.loaded scope
  have recoverable : CanonicalScopes
      (addRecoverableScope (addScope record scope) scope).recoverableScopes := by
    apply canonicalScopes_addRecoverableScope
    rw [addScope_eq]
    exact wellFormed.recoverable
  constructor
  · exact valid
  · rw [activated_eq]
    exact wellFormed.supported
  · rw [activated_eq]
    exact wellFormed.restorable
  · exact recoverable
  · unfold ToolboxMcp.activated
    rw [addRecoverableScope_eq]
    exact loaded

theorem addScopes (wellFormed : WellFormed record) {scopes : List Scope}
    (supported : ∀ scope ∈ scopes, scope ∈ record.supportedScopes) :
    WellFormed (addScopes record scopes) := by
  have valid := wellFormed.toScopePolicyValid.addScopes supported
  have loaded := canonicalScopes_addScopes wellFormed.loaded scopes
  constructor
  · exact valid
  · rw [addScopes_eq]
    exact wellFormed.supported
  · rw [addScopes_eq]
    exact wellFormed.restorable
  · rw [addScopes_eq]
    exact wellFormed.recoverable
  · exact loaded

theorem withoutScope (wellFormed : WellFormed record) (scope : Scope) :
    WellFormed (withoutScope record scope) := by
  have valid : ScopePolicyValid (ToolboxMcp.withoutScope record scope) :=
    wellFormed.toScopePolicyValid.withoutScope
  have loaded := canonicalScopes_removeScope wellFormed.loaded scope
  have recoverable : CanonicalScopes
      (removeRecoverableScope
        (removeScope record scope) scope).recoverableScopes := by
    apply canonicalScopes_removeRecoverableScope
    rw [removeScope_eq]
    exact wellFormed.recoverable
  constructor
  · exact valid
  · rw [withoutScope_eq]
    exact wellFormed.supported
  · rw [withoutScope_eq]
    exact wellFormed.restorable
  · exact recoverable
  · unfold ToolboxMcp.withoutScope
    rw [removeRecoverableScope_eq]
    exact loaded

end WellFormed

end ToolboxMcp
