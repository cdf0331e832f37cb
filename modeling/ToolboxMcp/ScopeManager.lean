import ToolboxMcp.Models

/-!
# Scope manipulation on toolset records

The scope lists of a record are only ever changed by the four operations
`addScope`, `removeScope`, `addRecoverableScope` and `removeRecoverableScope`.
Each comes with the membership law of the list it edits and the fields it
leaves alone.
-/

namespace ToolboxMcp

def recoveryScopes
    (record : ToolsetRecord) (stableHostIdentity explicitRequest : Bool) :
    List Scope :=
  if record.restoreRequiresIdentity && !stableHostIdentity then
    []
  else if record.restoreRequiresExplicitRequest && !explicitRequest then
    []
  else
    record.recoverableScopes.filter fun scope =>
      scope ∈ record.restorableScopes && scope ∈ record.supportedScopes

def supportsScope (record : ToolsetRecord) (scope : Scope) : Bool :=
  scope ∈ record.supportedScopes

structure ScopePolicy where
  defaultScope : Scope
  loadedScopes : List Scope
  supportedScopes : List Scope
  restorableScopes : List Scope
  recoverableScopes : List Scope
  nonRestorableScopes : List Scope
  restoreRequiresIdentity : Bool
  restoreRequiresExplicitRequest : Bool
deriving Repr, DecidableEq

def scopePolicy (record : ToolsetRecord) : ScopePolicy where
  defaultScope := record.defaultScope
  loadedScopes := record.loadedScopes
  supportedScopes := record.supportedScopes
  restorableScopes := record.restorableScopes
  recoverableScopes := record.recoverableScopes
  nonRestorableScopes :=
    record.supportedScopes.filter fun scope =>
      scope ∉ record.restorableScopes
  restoreRequiresIdentity := record.restoreRequiresIdentity
  restoreRequiresExplicitRequest := record.restoreRequiresExplicitRequest

def addScope (record : ToolsetRecord) (scope : Scope) : ToolsetRecord :=
  if scope ∈ record.loadedScopes then
    record
  else
    { record with
      loadedScopes := sortScopes (record.loadedScopes ++ [scope]) }

def removeScope (record : ToolsetRecord) (scope : Scope) : ToolsetRecord :=
  if scope ∈ record.loadedScopes then
    { record with
      loadedScopes := record.loadedScopes.filter fun item => item ≠ scope }
  else
    record

def addRecoverableScope
    (record : ToolsetRecord) (scope : Scope) : ToolsetRecord :=
  if scope ∉ record.restorableScopes ∨ scope ∈ record.recoverableScopes then
    record
  else
    { record with
      recoverableScopes := sortScopes (record.recoverableScopes ++ [scope]) }

def removeRecoverableScope
    (record : ToolsetRecord) (scope : Scope) : ToolsetRecord :=
  if scope ∈ record.recoverableScopes then
    { record with
      recoverableScopes :=
        record.recoverableScopes.filter fun item => item ≠ scope }
  else
    record

/-- `for scope in scopes: scope_manager.add_scope(record, scope)`. -/
def addScopes (record : ToolsetRecord) (scopes : List Scope) : ToolsetRecord :=
  scopes.foldl addScope record

variable (record : ToolsetRecord) (scope tested : Scope)

@[simp]
theorem mem_addScope :
    tested ∈ (addScope record scope).loadedScopes ↔
      tested = scope ∨ tested ∈ record.loadedScopes := by
  unfold addScope
  split
  · rename_i present
    constructor
    · exact Or.inr
    · rintro (rfl | member)
      · exact present
      · exact member
  · simp [or_comm]

@[simp]
theorem mem_removeScope :
    tested ∈ (removeScope record scope).loadedScopes ↔
      tested ≠ scope ∧ tested ∈ record.loadedScopes := by
  unfold removeScope
  split
  · simp [and_comm]
  · rename_i absent
    constructor
    · intro member
      refine ⟨?_, member⟩
      rintro rfl
      exact absent member
    · exact And.right

@[simp]
theorem mem_addRecoverableScope :
    tested ∈ (addRecoverableScope record scope).recoverableScopes ↔
      (tested = scope ∧ scope ∈ record.restorableScopes) ∨
        tested ∈ record.recoverableScopes := by
  unfold addRecoverableScope
  split
  · rename_i unchanged
    constructor
    · exact Or.inr
    · rintro (⟨rfl, restorable⟩ | member)
      · exact unchanged.resolve_left (not_not_intro restorable)
      · exact member
  · rename_i added
    push Not at added
    simp [added.1, or_comm]

@[simp]
theorem mem_removeRecoverableScope :
    tested ∈ (removeRecoverableScope record scope).recoverableScopes ↔
      tested ≠ scope ∧ tested ∈ record.recoverableScopes := by
  unfold removeRecoverableScope
  split
  · simp [and_comm]
  · rename_i absent
    constructor
    · intro member
      refine ⟨?_, member⟩
      rintro rfl
      exact absent member
    · exact And.right

/-- What `addScope` leaves alone. -/
theorem addScope_eq :
    addScope record scope =
      { record with
        loadedScopes := (addScope record scope).loadedScopes } := by
  unfold addScope
  split <;> rfl

theorem removeScope_eq :
    removeScope record scope =
      { record with
        loadedScopes := (removeScope record scope).loadedScopes } := by
  unfold removeScope
  split <;> rfl

theorem addRecoverableScope_eq :
    addRecoverableScope record scope =
      { record with
        recoverableScopes :=
          (addRecoverableScope record scope).recoverableScopes } := by
  unfold addRecoverableScope
  split <;> rfl

theorem removeRecoverableScope_eq :
    removeRecoverableScope record scope =
      { record with
        recoverableScopes :=
          (removeRecoverableScope record scope).recoverableScopes } := by
  unfold removeRecoverableScope
  split <;> rfl

theorem addScopes_eq (scopes : List Scope) :
    addScopes record scopes =
      { record with
        loadedScopes := (addScopes record scopes).loadedScopes } := by
  induction scopes generalizing record with
  | nil =>
      rfl
  | cons scope rest inductionHypothesis =>
      have added := addScope_eq record scope
      have later := inductionHypothesis (addScope record scope)
      simp only [addScopes, List.foldl_cons] at later ⊢
      rw [later, added]

@[simp]
theorem mem_addScopes (scopes : List Scope) :
    tested ∈ (addScopes record scopes).loadedScopes ↔
      tested ∈ scopes ∨ tested ∈ record.loadedScopes := by
  induction scopes generalizing record with
  | nil =>
      simp [addScopes]
  | cons scope rest inductionHypothesis =>
      have later := inductionHypothesis (addScope record scope)
      simp only [addScopes, List.foldl_cons] at later ⊢
      rw [later, mem_addScope]
      simp only [List.mem_cons]
      tauto

/-- Every scope offered for recovery is recoverable, restorable and
supported. -/
theorem mem_recoveryScopes
    {identity explicit : Bool}
    (member : tested ∈ recoveryScopes record identity explicit) :
    tested ∈ record.recoverableScopes ∧
      tested ∈ record.restorableScopes ∧
      tested ∈ record.supportedScopes := by
  unfold recoveryScopes at member
  split at member
  · cases member
  · split at member
    · cases member
    · simpa using member

/-! ## What only depends on the scope policy -/

omit record scope tested in
theorem scopePolicy_eq {left right : ToolsetRecord} :
    scopePolicy left = scopePolicy right ↔
      left.defaultScope = right.defaultScope ∧
        left.loadedScopes = right.loadedScopes ∧
        left.supportedScopes = right.supportedScopes ∧
        left.restorableScopes = right.restorableScopes ∧
        left.recoverableScopes = right.recoverableScopes ∧
        left.restoreRequiresIdentity = right.restoreRequiresIdentity ∧
        left.restoreRequiresExplicitRequest =
          right.restoreRequiresExplicitRequest := by
  simp only [scopePolicy, ScopePolicy.mk.injEq]
  constructor
  · rintro ⟨defaults, loaded, supported, restorable, recoverable, _,
      identity, explicit⟩
    exact ⟨defaults, loaded, supported, restorable, recoverable, identity,
      explicit⟩
  · rintro ⟨defaults, loaded, supported, restorable, recoverable, identity,
      explicit⟩
    exact ⟨defaults, loaded, supported, restorable, recoverable,
      by rw [supported, restorable], identity, explicit⟩

section SamePolicy

variable {left right : ToolsetRecord}
  (same : scopePolicy left = scopePolicy right)

include same

theorem addScope_congr :
    scopePolicy (addScope left scope) =
      scopePolicy (addScope right scope) := by
  have fields := scopePolicy_eq.mp same
  have loaded := fields.2.1
  rw [scopePolicy_eq]
  unfold addScope
  rw [loaded]
  split
  · exact fields
  · exact ⟨fields.1, rfl, fields.2.2⟩

theorem addRecoverableScope_congr :
    scopePolicy (addRecoverableScope left scope) =
      scopePolicy (addRecoverableScope right scope) := by
  have fields := scopePolicy_eq.mp same
  have restorable := fields.2.2.2.1
  have recoverable := fields.2.2.2.2.1
  rw [scopePolicy_eq]
  by_cases unchanged :
      scope ∉ right.restorableScopes ∨ scope ∈ right.recoverableScopes
  · have leftUnchanged : addRecoverableScope left scope = left := by
      rw [← restorable, ← recoverable] at unchanged
      exact if_pos unchanged
    rw [leftUnchanged, addRecoverableScope, if_pos unchanged]
    exact fields
  · have leftChanged :
        addRecoverableScope left scope =
          { left with
            recoverableScopes :=
              sortScopes (right.recoverableScopes ++ [scope]) } := by
      rw [← recoverable]
      rw [← restorable, ← recoverable] at unchanged
      exact if_neg unchanged
    rw [leftChanged, addRecoverableScope, if_neg unchanged]
    exact ⟨fields.1, fields.2.1, fields.2.2.1, restorable, rfl,
      fields.2.2.2.2.2⟩

theorem addScopes_congr (scopes : List Scope) :
    scopePolicy (addScopes left scopes) =
      scopePolicy (addScopes right scopes) := by
  induction scopes generalizing left right with
  | nil =>
      exact same
  | cons scope rest inductionHypothesis =>
      exact inductionHypothesis (addScope_congr scope same)

theorem recoveryScopes_congr (identity explicit : Bool) :
    recoveryScopes left identity explicit =
      recoveryScopes right identity explicit := by
  obtain ⟨_, _, supported, restorable, recoverable, needsIdentity,
    needsRequest⟩ := scopePolicy_eq.mp same
  unfold recoveryScopes
  rw [supported, restorable, recoverable, needsIdentity, needsRequest]

theorem ScopePolicyValid.congr (valid : ScopePolicyValid left) :
    ScopePolicyValid right := by
  obtain ⟨defaults, loaded, supported, restorable, recoverable, _⟩ :=
    scopePolicy_eq.mp same
  constructor
  · rw [← defaults, ← supported]
    exact valid.default_supported
  · rw [← loaded, ← supported]
    exact valid.loaded_supported
  · rw [← restorable, ← supported]
    exact valid.restorable_supported
  · rw [← restorable]
    exact valid.thread_not_restorable
  · rw [← recoverable, ← restorable]
    exact valid.recoverable_restorable

end SamePolicy

/-- Scopes that are loaded already need not be added. -/
theorem addScopes_missing (scopes present : List Scope)
    (loaded : ∀ scope ∈ present, scope ∈ record.loadedScopes) :
    addScopes record (scopes.filter fun scope => scope ∉ present) =
      addScopes record scopes := by
  induction scopes generalizing record with
  | nil =>
      rfl
  | cons scope rest inductionHypothesis =>
      by_cases known : scope ∈ present
      · have unchanged : addScope record scope = record := by
          simp [addScope, loaded scope known]
        have later := inductionHypothesis record loaded
        simpa [known, addScopes, unchanged] using later
      · have still : ∀ other ∈ present,
            other ∈ (addScope record scope).loadedScopes := by
          intro other member
          rw [mem_addScope]
          exact .inr (loaded other member)
        have later := inductionHypothesis (addScope record scope) still
        simpa [known, addScopes] using later

/-! ## The three changes of a scope policy -/

def activated (record : ToolsetRecord) (scope : Scope) : ToolsetRecord :=
  addRecoverableScope (addScope record scope) scope

/-- The record without the scope in either list. -/
def withoutScope (record : ToolsetRecord) (scope : Scope) : ToolsetRecord :=
  removeRecoverableScope (removeScope record scope) scope

theorem activated_congr {left right : ToolsetRecord}
    (same : scopePolicy left = scopePolicy right) :
    scopePolicy (activated left scope) =
      scopePolicy (activated right scope) :=
  addRecoverableScope_congr scope (addScope_congr scope same)

@[simp]
theorem mem_activated_loaded :
    tested ∈ (activated record scope).loadedScopes ↔
      tested = scope ∨ tested ∈ record.loadedScopes := by
  unfold activated
  rw [addRecoverableScope_eq]
  exact mem_addScope record scope tested

@[simp]
theorem mem_activated_recoverable :
    tested ∈ (activated record scope).recoverableScopes ↔
      (tested = scope ∧ scope ∈ record.restorableScopes) ∨
        tested ∈ record.recoverableScopes := by
  unfold activated
  rw [mem_addRecoverableScope, addScope_eq]

@[simp]
theorem mem_withoutScope_loaded :
    tested ∈ (withoutScope record scope).loadedScopes ↔
      tested ≠ scope ∧ tested ∈ record.loadedScopes := by
  unfold withoutScope
  rw [removeRecoverableScope_eq]
  exact mem_removeScope record scope tested

@[simp]
theorem mem_withoutScope_recoverable :
    tested ∈ (withoutScope record scope).recoverableScopes ↔
      tested ≠ scope ∧ tested ∈ record.recoverableScopes := by
  unfold withoutScope
  rw [mem_removeRecoverableScope, removeScope_eq]

/-- The remaining fields are left alone. -/
theorem activated_eq :
    activated record scope =
      { record with
        loadedScopes := (activated record scope).loadedScopes
        recoverableScopes := (activated record scope).recoverableScopes } := by
  unfold activated
  rw [addRecoverableScope_eq, addScope_eq]

theorem withoutScope_eq :
    withoutScope record scope =
      { record with
        loadedScopes := (withoutScope record scope).loadedScopes
        recoverableScopes :=
          (withoutScope record scope).recoverableScopes } := by
  unfold withoutScope
  rw [removeRecoverableScope_eq, removeScope_eq]

variable {record scope}

theorem ScopePolicyValid.activated (valid : ScopePolicyValid record)
    (supported : scope ∈ record.supportedScopes) :
    ScopePolicyValid (activated record scope) := by
  constructor
  · rw [activated_eq]
    exact valid.default_supported
  · intro tested member
    rw [activated_eq]
    rcases (mem_activated_loaded record scope tested).mp member with
      rfl | loaded
    · exact supported
    · exact valid.loaded_supported tested loaded
  · rw [activated_eq]
    exact valid.restorable_supported
  · rw [activated_eq]
    exact valid.thread_not_restorable
  · intro tested member
    rw [activated_eq]
    rcases (mem_activated_recoverable record scope tested).mp member with
      ⟨rfl, restorable⟩ | recoverable
    · exact restorable
    · exact valid.recoverable_restorable tested recoverable

theorem ScopePolicyValid.addScopes (valid : ScopePolicyValid record)
    {scopes : List Scope}
    (supported : ∀ scope ∈ scopes, scope ∈ record.supportedScopes) :
    ScopePolicyValid (addScopes record scopes) := by
  constructor
  · rw [addScopes_eq]
    exact valid.default_supported
  · intro tested member
    rw [addScopes_eq]
    rcases (mem_addScopes record tested scopes).mp member with
      added | loaded
    · exact supported tested added
    · exact valid.loaded_supported tested loaded
  · rw [addScopes_eq]
    exact valid.restorable_supported
  · rw [addScopes_eq]
    exact valid.thread_not_restorable
  · rw [addScopes_eq]
    exact valid.recoverable_restorable

theorem ScopePolicyValid.withoutScope (valid : ScopePolicyValid record) :
    ScopePolicyValid (withoutScope record scope) := by
  constructor
  · rw [withoutScope_eq]
    exact valid.default_supported
  · intro tested member
    rw [withoutScope_eq]
    have loaded := ((mem_withoutScope_loaded record scope tested).mp member).2
    exact valid.loaded_supported tested loaded
  · rw [withoutScope_eq]
    exact valid.restorable_supported
  · rw [withoutScope_eq]
    exact valid.thread_not_restorable
  · intro tested member
    rw [withoutScope_eq]
    have recoverable :=
      ((mem_withoutScope_recoverable record scope tested).mp member).2
    exact valid.recoverable_restorable tested recoverable

end ToolboxMcp
