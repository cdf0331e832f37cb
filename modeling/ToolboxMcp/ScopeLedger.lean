import Mathlib.Data.List.Induction
import Mathlib.Data.Set.Insert
import Mathlib.Logic.Function.Basic
import ToolboxMcp.Library.History

/-!
# What scope lists are for

Each toolset has an account of the scopes that are loaded and of those that may
be recovered after a restart.  Activation, deactivation and restore post to it,
and so does a restart of the process.  What an account shows is a function of
the events posted since the toolset was registered: a scope is recoverable when
it may be restored and was activated last, and loaded when the last thing that
happened to it in this process was not a deactivation.

Toolsets and scopes are arbitrary here; the service's records are related to
their accounts later on.
-/

namespace ToolboxMcp

universe u v

/-- What is known of the scopes of one toolset. -/
@[ext]
structure ScopeAccount (α : Type v) where
  restorable : Set α
  recoverable : Set α
  loaded : Set α

namespace ScopeAccount

variable {α : Type v} (account : ScopeAccount α)

def opened (restorable : Set α) : ScopeAccount α :=
  ⟨restorable, ∅, ∅⟩

def activate (scope : α) : ScopeAccount α :=
  { account with
    recoverable := account.recoverable ∪ ({scope} ∩ account.restorable)
    loaded := insert scope account.loaded }

def deactivate (scope : α) : ScopeAccount α :=
  { account with
    recoverable := account.recoverable \ {scope}
    loaded := account.loaded \ {scope} }

def restore (scopes : Set α) : ScopeAccount α :=
  { account with loaded := account.loaded ∪ scopes }

def restart : ScopeAccount α :=
  { account with loaded := ∅ }

end ScopeAccount

inductive ScopeEvent (κ : Type u) (α : Type v) where
  | registered (toolset : κ) (restorable : List α)
  | activated (toolset : κ) (scope : α)
  | deactivated (toolset : κ) (scope : α)
  /-- The scopes are those that were recoverable at that time. -/
  | restored (toolset : κ) (scopes : List α)
  | unregistered (toolset : κ)
  | restarted
deriving DecidableEq

abbrev ScopeLedger (κ : Type u) (α : Type v) :=
  κ → Option (ScopeAccount α)

namespace ScopeLedger

variable {κ : Type u} {α : Type v} [DecidableEq κ]

/-- Change the account of one toolset, if it has one. -/
def change (ledger : ScopeLedger κ α) (toolset : κ)
    (step : ScopeAccount α → ScopeAccount α) : ScopeLedger κ α :=
  Function.update ledger toolset ((ledger toolset).map step)

def post (ledger : ScopeLedger κ α) :
    ScopeEvent κ α → ScopeLedger κ α
  | .registered toolset restorable =>
      Function.update ledger toolset
        (some (.opened {scope | scope ∈ restorable}))
  | .activated toolset scope =>
      ledger.change toolset fun account => account.activate scope
  | .deactivated toolset scope =>
      ledger.change toolset fun account => account.deactivate scope
  | .restored toolset scopes =>
      ledger.change toolset fun account =>
        account.restore {scope | scope ∈ scopes}
  | .unregistered toolset => Function.update ledger toolset none
  | .restarted => fun toolset => (ledger toolset).map ScopeAccount.restart

def postAll (ledger : ScopeLedger κ α) (events : List (ScopeEvent κ α)) :
    ScopeLedger κ α :=
  events.foldl post ledger

/-- No toolset is registered. -/
def blank : ScopeLedger κ α :=
  fun _ => none

@[simp]
theorem postAll_nil (ledger : ScopeLedger κ α) : ledger.postAll [] = ledger :=
  rfl

@[simp]
theorem postAll_cons (ledger : ScopeLedger κ α) (event : ScopeEvent κ α)
    (later : List (ScopeEvent κ α)) :
    ledger.postAll (event :: later) = (ledger.post event).postAll later :=
  rfl

theorem postAll_append (ledger : ScopeLedger κ α)
    (first second : List (ScopeEvent κ α)) :
    ledger.postAll (first ++ second) =
      (ledger.postAll first).postAll second :=
  List.foldl_append

/-! ## The toolset an event is about -/

/-- The event is posted to the account of `toolset` alone. -/
def concernsOnly (toolset : κ) : ScopeEvent κ α → Prop
  | .registered other _ => other = toolset
  | .activated other _ => other = toolset
  | .deactivated other _ => other = toolset
  | .restored other _ => other = toolset
  | .unregistered other => other = toolset
  | .restarted => False

theorem post_of_ne {ledger : ScopeLedger κ α} {event : ScopeEvent κ α}
    {toolset other : κ} (about : concernsOnly toolset event)
    (different : other ≠ toolset) : ledger.post event other = ledger other := by
  cases event with
  | registered subject restorable =>
      cases about
      exact Function.update_of_ne different _ _
  | activated subject scope =>
      cases about
      exact Function.update_of_ne different _ _
  | deactivated subject scope =>
      cases about
      exact Function.update_of_ne different _ _
  | restored subject scopes =>
      cases about
      exact Function.update_of_ne different _ _
  | unregistered subject =>
      cases about
      exact Function.update_of_ne different _ _
  | restarted =>
      cases about

theorem postAll_of_ne {ledger : ScopeLedger κ α}
    {events : List (ScopeEvent κ α)} {toolset other : κ}
    (about : ∀ event ∈ events, concernsOnly toolset event)
    (different : other ≠ toolset) :
    ledger.postAll events other = ledger other := by
  induction events generalizing ledger with
  | nil =>
      rfl
  | cons event later inductionHypothesis =>
      have first := about event List.mem_cons_self
      have rest := fun next member => about next (List.mem_cons_of_mem _ member)
      rw [postAll_cons, inductionHypothesis rest, post_of_ne first different]

/-! ## Accounts as functions of the history -/

variable [DecidableEq α]

def registers (toolset : κ) : ScopeEvent κ α → Bool
  | .registered other _ => other = toolset
  | _ => false

/-- A new process, or a new registration, starts without loaded scopes. -/
def opens (toolset : κ) : ScopeEvent κ α → Bool
  | .registered other _ => other = toolset
  | .restarted => true
  | _ => false

/-- An activation or a deactivation of the scope. -/
def decides (toolset : κ) (scope : α) : ScopeEvent κ α → Bool
  | .activated other decided => other = toolset ∧ decided = scope
  | .deactivated other decided => other = toolset ∧ decided = scope
  | _ => false

/-- The scope was activated, deactivated, or restored while recoverable. -/
def touches (toolset : κ) (scope : α) : ScopeEvent κ α → Bool
  | .activated other touched => other = toolset ∧ touched = scope
  | .deactivated other touched => other = toolset ∧ touched = scope
  | .restored other scopes => other = toolset ∧ scope ∈ scopes
  | _ => false

/-- The last activation or deactivation since registration is an
activation. -/
def ActivatedLast (history : List (ScopeEvent κ α)) (toolset : κ)
    (scope : α) : Prop :=
  History.mostRecent (registers toolset) (decides toolset scope) history =
    some (.activated toolset scope)

/-- The last thing that happened to the scope since the process started and
the toolset was registered is not a deactivation. -/
def LoadedLast (history : List (ScopeEvent κ α)) (toolset : κ)
    (scope : α) : Prop :=
  ∃ event,
    History.mostRecent (opens toolset) (touches toolset scope) history =
        some event ∧
      event ≠ .deactivated toolset scope

/-- The account says what the history says. -/
structure Reflects (account : ScopeAccount α)
    (history : List (ScopeEvent κ α)) (toolset : κ) : Prop where
  recoverable :
    ∀ scope,
      scope ∈ account.recoverable ↔
        scope ∈ account.restorable ∧ ActivatedLast history toolset scope
  loaded :
    ∀ scope, scope ∈ account.loaded ↔ LoadedLast history toolset scope

variable {history : List (ScopeEvent κ α)} {event : ScopeEvent κ α}
  {toolset : κ} {scope : α}

theorem activatedLast_concat :
    ActivatedLast (history ++ [event]) toolset scope ↔
      registers toolset event = false ∧
        if decides toolset scope event then
          event = .activated toolset scope
        else
          ActivatedLast history toolset scope := by
  unfold ActivatedLast
  rw [History.mostRecent_concat]
  cases registers toolset event with
  | true =>
      simp
  | false =>
      cases decides toolset scope event with
      | true =>
          simp
      | false =>
          simp

theorem loadedLast_concat :
    LoadedLast (history ++ [event]) toolset scope ↔
      opens toolset event = false ∧
        if touches toolset scope event then
          event ≠ .deactivated toolset scope
        else
          LoadedLast history toolset scope := by
  unfold LoadedLast
  rw [History.mostRecent_concat]
  cases opens toolset event with
  | true =>
      simp
  | false =>
      cases touches toolset scope event with
      | true =>
          simp
      | false =>
          simp

/-- An event that does not concern the toolset changes neither side. -/
theorem Reflects.concat_of_ne {account : ScopeAccount α}
    (reflects : Reflects account history toolset)
    (idle : registers toolset event = false)
    (running : opens toolset event = false)
    (undecided : ∀ scope, decides toolset scope event = false)
    (untouched : ∀ scope, touches toolset scope event = false) :
    Reflects account (history ++ [event]) toolset where
  recoverable scope := by
    rw [activatedLast_concat, reflects.recoverable]
    simp [idle, undecided]
  loaded scope := by
    rw [loadedLast_concat, reflects.loaded]
    simp [running, untouched]

theorem reflects_opened (restorable : List α) :
    Reflects (.opened {scope | scope ∈ restorable})
      (history ++ [.registered toolset restorable]) toolset where
  recoverable scope := by
    rw [activatedLast_concat]
    simp [ScopeAccount.opened, registers]
  loaded scope := by
    rw [loadedLast_concat]
    simp [ScopeAccount.opened, opens]

variable {account : ScopeAccount α}

theorem Reflects.activate (reflects : Reflects account history toolset) :
    Reflects (account.activate scope)
      (history ++ [.activated toolset scope]) toolset where
  recoverable tested := by
    have earlier := reflects.recoverable tested
    rw [activatedLast_concat]
    by_cases same : tested = scope
    · subst same
      simp only [ScopeAccount.activate, registers, decides, Set.mem_union,
        Set.mem_inter_iff, Set.mem_singleton_iff, true_and, and_self,
        decide_true, if_true]
      tauto
    · have other : scope ≠ tested := Ne.symm same
      simp only [ScopeAccount.activate, registers, decides, Set.mem_union,
        Set.mem_inter_iff, Set.mem_singleton_iff, same, other, true_and,
        false_and, and_false, or_false, decide_false, Bool.false_eq_true,
        if_false]
      exact earlier
  loaded tested := by
    have earlier := reflects.loaded tested
    rw [loadedLast_concat]
    by_cases same : tested = scope
    · subst same
      simp [ScopeAccount.activate, opens, touches]
    · have other : scope ≠ tested := Ne.symm same
      simp only [ScopeAccount.activate, opens, touches,
        Set.mem_insert_iff, same, other, true_and, and_false, false_or,
        decide_false, Bool.false_eq_true, if_false]
      exact earlier

theorem Reflects.deactivate (reflects : Reflects account history toolset) :
    Reflects (account.deactivate scope)
      (history ++ [.deactivated toolset scope]) toolset where
  recoverable tested := by
    have earlier := reflects.recoverable tested
    rw [activatedLast_concat]
    by_cases same : tested = scope
    · subst same
      simp [ScopeAccount.deactivate, decides]
    · have other : scope ≠ tested := Ne.symm same
      simp only [ScopeAccount.deactivate, registers, decides, Set.mem_sdiff,
        Set.mem_singleton_iff, same, other, true_and, not_false_eq_true,
        and_true, and_false, decide_false, Bool.false_eq_true, if_false]
      exact earlier
  loaded tested := by
    have earlier := reflects.loaded tested
    rw [loadedLast_concat]
    by_cases same : tested = scope
    · subst same
      simp [ScopeAccount.deactivate, touches]
    · have other : scope ≠ tested := Ne.symm same
      simp only [ScopeAccount.deactivate, opens, touches, Set.mem_sdiff,
        Set.mem_singleton_iff, same, other, true_and, not_false_eq_true,
        and_true, and_false, decide_false, Bool.false_eq_true, if_false]
      exact earlier

theorem Reflects.restore (reflects : Reflects account history toolset)
    (scopes : List α) :
    Reflects (account.restore {scope | scope ∈ scopes})
      (history ++ [.restored toolset scopes]) toolset where
  recoverable tested := by
    have earlier := reflects.recoverable tested
    rw [activatedLast_concat]
    simp only [ScopeAccount.restore, registers, decides, true_and,
      Bool.false_eq_true, if_false]
    exact earlier
  loaded tested := by
    have earlier := reflects.loaded tested
    rw [loadedLast_concat]
    by_cases member : tested ∈ scopes
    · simp [ScopeAccount.restore, opens, touches, member]
    · simp only [ScopeAccount.restore, opens, touches, Set.mem_union,
        Set.mem_ofPred_eq, member, or_false, true_and, decide_false,
        and_false, Bool.false_eq_true, if_false]
      exact earlier

theorem Reflects.restart (reflects : Reflects account history toolset) :
    Reflects account.restart (history ++ [.restarted]) toolset where
  recoverable tested := by
    have earlier := reflects.recoverable tested
    rw [activatedLast_concat]
    simp only [ScopeAccount.restart, registers, decides, true_and,
      Bool.false_eq_true, if_false]
    exact earlier
  loaded tested := by
    rw [loadedLast_concat]
    simp [ScopeAccount.restart, opens]

/-- Every account shows what was posted since its toolset was registered. -/
theorem reflects_of_postAll
    (posted : (blank : ScopeLedger κ α).postAll history toolset =
      some account) :
    Reflects account history toolset := by
  induction history using List.reverseRecOn generalizing account with
  | nil =>
      cases posted
  | append_singleton history event inductionHypothesis =>
      rw [postAll_append] at posted
      simp only [postAll_cons, postAll_nil] at posted
      generalize ledgerEq : (blank : ScopeLedger κ α).postAll history = ledger
        at posted inductionHypothesis
      -- An event about this toolset changes its account, the others do not.
      have changed : ∀ {subject : κ}
          {step : ScopeAccount α → ScopeAccount α},
          ledger.change subject step toolset = some account →
          subject = toolset ∧
              (∃ before, ledger toolset = some before ∧
                step before = account) ∨
            subject ≠ toolset ∧ ledger toolset = some account := by
        intro subject step result
        by_cases same : subject = toolset
        · subst same
          left
          rw [change, Function.update_self, Option.map_eq_some_iff] at result
          exact ⟨rfl, result⟩
        · right
          rw [change, Function.update_of_ne (Ne.symm same)] at result
          exact ⟨same, result⟩
      cases event with
      | registered subject restorable =>
          by_cases same : subject = toolset
          · subst same
            rw [post, Function.update_self] at posted
            cases posted
            exact reflects_opened restorable
          · rw [post, Function.update_of_ne (Ne.symm same)] at posted
            apply (inductionHypothesis posted).concat_of_ne
            · simp [registers, same]
            · simp [opens, same]
            · simp [decides]
            · simp [touches]
      | activated subject scope =>
          rcases changed posted with
            ⟨rfl, before, found, rfl⟩ | ⟨different, found⟩
          · exact (inductionHypothesis found).activate
          · apply (inductionHypothesis found).concat_of_ne
            · simp [registers]
            · simp [opens]
            · simp [decides, different]
            · simp [touches, different]
      | deactivated subject scope =>
          rcases changed posted with
            ⟨rfl, before, found, rfl⟩ | ⟨different, found⟩
          · exact (inductionHypothesis found).deactivate
          · apply (inductionHypothesis found).concat_of_ne
            · simp [registers]
            · simp [opens]
            · simp [decides, different]
            · simp [touches, different]
      | restored subject scopes =>
          rcases changed posted with
            ⟨rfl, before, found, rfl⟩ | ⟨different, found⟩
          · exact (inductionHypothesis found).restore scopes
          · apply (inductionHypothesis found).concat_of_ne
            · simp [registers]
            · simp [opens]
            · simp [decides]
            · simp [touches, different]
      | unregistered subject =>
          by_cases same : subject = toolset
          · subst same
            rw [post, Function.update_self] at posted
            cases posted
          · rw [post, Function.update_of_ne (Ne.symm same)] at posted
            apply (inductionHypothesis posted).concat_of_ne
            · simp [registers]
            · simp [opens]
            · simp [decides]
            · simp [touches]
      | restarted =>
          obtain ⟨before, found, rfl⟩ := Option.map_eq_some_iff.mp posted
          exact (inductionHypothesis found).restart

end ScopeLedger

end ToolboxMcp
