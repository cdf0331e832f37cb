import Mathlib.Data.List.Sort

/-!
# The first of a ranking

Sort the items of a list by a key and take the first few.  Where no two items
have the same key, the result depends on which items there are only, and an item
is among the first `count` exactly if fewer than `count` items come before it.
-/

universe u v

namespace Leaders

variable {α : Type u} {κ : Type v} [LinearOrder κ] (key : α → κ)

def ranked (items : List α) : List α :=
  items.insertionSort fun left right => key left ≤ key right

theorem perm_ranked (items : List α) : (ranked key items).Perm items :=
  List.perm_insertionSort _ _

variable {key} {items others : List α}

/-- Distinct keys are ranked strictly. -/
theorem pairwise_ranked (distinct : (items.map key).Nodup) :
    (ranked key items).Pairwise fun left right => key left < key right := by
  have weakly : (ranked key items).Pairwise fun left right =>
      key left ≤ key right := by
    have total : Std.Total fun left right : α => key left ≤ key right :=
      ⟨fun left right => le_total (key left) (key right)⟩
    have trans : IsTrans α fun left right => key left ≤ key right :=
      ⟨fun _ _ _ first second => first.trans second⟩
    exact List.pairwise_insertionSort _ _
  have separate : ((ranked key items).map key).Nodup :=
    ((perm_ranked key items).map key).nodup_iff.mpr distinct
  have apart : (ranked key items).Pairwise fun left right =>
      key left ≠ key right :=
    List.pairwise_map.mp separate
  exact (weakly.and apart).imp fun both => lt_of_le_of_ne both.1 both.2

/-- The ranking does not depend on the order of the items. -/
theorem ranked_of_perm (distinct : (items.map key).Nodup)
    (perm : items.Perm others) : ranked key items = ranked key others := by
  have same : (ranked key items).Perm (ranked key others) :=
    (perm_ranked key items).trans (perm.trans (perm_ranked key others).symm)
  apply same.eq_of_pairwise _ (pairwise_ranked distinct)
    (pairwise_ranked ((perm.map key).nodup_iff.mp distinct))
  intro left right _ _ before after
  exact absurd before after.asymm

/-- In a ranking, the place of an item is the number of items before it. -/
theorem mem_take_iff
    (ordered : items.Pairwise fun left right => key left < key right)
    {item : α} (member : item ∈ items) (count : ℕ) :
    item ∈ items.take count ↔
      items.countP (fun other => key other < key item) < count := by
  induction items generalizing count with
  | nil =>
      cases member
  | cons head tail inductionHypothesis =>
      obtain ⟨first, later⟩ := List.pairwise_cons.mp ordered
      cases count with
      | zero =>
          simp
      | succ count =>
          rw [List.take_succ_cons, List.mem_cons, List.countP_cons]
          rcases List.mem_cons.mp member with rfl | behind
          · have none : tail.countP (fun other => key other < key item) = 0 := by
              rw [List.countP_eq_zero]
              intro other among
              simpa using (first other among).le
            simp [none]
          · have before : key head < key item := first item behind
            have different : item ≠ head := by
              rintro rfl
              exact lt_irrefl _ before
            rw [inductionHypothesis later behind]
            simp [before, different]

/-- An item is among the first ones exactly if few enough come before it. -/
theorem mem_take_ranked (distinct : (items.map key).Nodup) (count : ℕ)
    {item : α} :
    item ∈ (ranked key items).take count ↔
      item ∈ items ∧
        items.countP (fun other => key other < key item) < count := by
  have perm := perm_ranked key items
  constructor
  · intro taken
    have member := List.mem_of_mem_take taken
    refine ⟨perm.mem_iff.mp member, ?_⟩
    rw [← perm.countP_eq]
    exact (mem_take_iff (pairwise_ranked distinct) member count).mp taken
  · rintro ⟨member, few⟩
    rw [← perm.countP_eq] at few
    exact (mem_take_iff (pairwise_ranked distinct) (perm.mem_iff.mpr member)
      count).mpr few

end Leaders
