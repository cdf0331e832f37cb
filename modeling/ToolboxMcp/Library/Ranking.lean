import Mathlib.Algebra.BigOperators.Intervals
import ToolboxMcp.Library.Runs

/-!
# Ranking functions

A rank that no step raises, and that every step an observer counts lowers,
bounds how many steps the observer can count.  `tally` builds ranks: it adds up
the weights of the entries of a table, so that a step that changes one entry
changes the rank by the difference of two weights.
-/

section Tally

variable {α : Type*} (weight : α → ℕ)

/-- The total weight of the entries in the first `bound` places. -/
def tally (bound : ℕ) (table : ℕ → Option α) : ℕ :=
  ∑ place ∈ Finset.range bound, (table place).elim 0 weight

/-- Changing one place changes the tally by what it held and holds. -/
theorem tally_update {bound place : ℕ} (inside : place < bound)
    (table : ℕ → Option α) (value : α) :
    tally weight bound (Function.update table place (some value)) +
        (table place).elim 0 weight =
      tally weight bound table + weight value := by
  have member : place ∈ Finset.range bound := Finset.mem_range.mpr inside
  have others :
      ∑ other ∈ (Finset.range bound).erase place,
          (Function.update table place (some value) other).elim 0 weight =
        ∑ other ∈ (Finset.range bound).erase place,
          (table other).elim 0 weight := by
    apply Finset.sum_congr rfl
    intro other elsewhere
    rw [Function.update_of_ne (Finset.ne_of_mem_erase elsewhere)]
  have here := Finset.add_sum_erase (Finset.range bound)
    (fun other =>
      (Function.update table place (some value) other).elim 0 weight) member
  have before := Finset.add_sum_erase (Finset.range bound)
    (fun other => (table other).elim 0 weight) member
  simp only [Function.update_self, Option.elim_some] at here
  unfold tally
  omega

/-- A new entry at the end adds its weight. -/
theorem tally_succ {bound : ℕ} {table : ℕ → Option α}
    (empty : table bound = none) (value : α) :
    tally weight (bound + 1) (Function.update table bound (some value)) =
      tally weight bound table + weight value := by
  have extended : tally weight (bound + 1) table = tally weight bound table := by
    simp [tally, Finset.sum_range_succ, empty]
  have changed := tally_update weight (Nat.lt_succ_self bound) table value
  rw [empty, Option.elim_none, Nat.add_zero] at changed
  rw [changed, extended]

/-- Some entry has weight as long as the tally is positive. -/
theorem exists_weight_of_tally_pos {bound : ℕ} {table : ℕ → Option α}
    (positive : 0 < tally weight bound table) :
    ∃ place value, table place = some value ∧ 0 < weight value := by
  obtain ⟨place, _, heavy⟩ := Finset.exists_ne_zero_of_sum_ne_zero positive.ne'
  cases held : table place with
  | none =>
      simp [held] at heavy
  | some value =>
      exact ⟨place, value, held, by simpa [held, Nat.pos_iff_ne_zero] using heavy⟩

/-- Where only one entry has weight, it is the tally. -/
theorem tally_le_of_single (bound : ℕ) (table : ℕ → Option α) {place : ℕ}
    (others : ∀ other, other ≠ place →
      (table other).elim 0 weight = 0) :
    tally weight bound table ≤ (table place).elim 0 weight := by
  by_cases inside : place ∈ Finset.range bound
  · exact (Finset.sum_eq_single_of_mem place inside
      fun other _ different => others other different).le
  · have nothing : tally weight bound table = 0 := by
      apply Finset.sum_eq_zero
      rintro other member
      apply others
      rintro rfl
      exact inside member
    rw [nothing]
    exact Nat.zero_le _

end Tally

section Descent

universe u v w

variable {σ : Type u} {α : Type v} {β : Type w}
  {step : σ → α → Option σ} {observe : σ → α → σ → List β}
  {allowed : σ × List β → α → Prop} {initial final : σ × List β}

/-- What has been counted is paid for by the rank. -/
theorem Reaches.length_seen_le
    (runs : Reaches (monitor step observe) allowed initial final)
    (holds : σ → Prop) (rank : σ → ℕ)
    (initially : holds initial.1)
    (keeps : ∀ before action after, holds before.1 →
      allowed before action → step before.1 action = some after →
      holds after ∧
        rank after + (observe before.1 action after).length ≤ rank before.1) :
    holds final.1 ∧
      final.2.length + rank final.1 ≤ initial.2.length + rank initial.1 := by
  induction runs with
  | start =>
      exact ⟨initially, le_rfl⟩
  | step before meets taken inductionHypothesis =>
      obtain ⟨held, bounded⟩ := inductionHypothesis
      obtain ⟨stepped, seen⟩ := monitor_eq_some.mp taken
      obtain ⟨kept, descends⟩ := keeps _ _ _ held meets stepped
      refine ⟨kept, ?_⟩
      rw [seen, List.length_append]
      omega

end Descent
