import Mathlib.Data.List.TakeWhile

/-!
# First come, first served

A queue changes by newcomers at the end, by serving the head, and by clients
that give up.  Whatever happens, the clients `ahead` of one that stays are
served in their order or give up, and nobody else is served before it.
-/

namespace Queue

variable {τ : Type*} [DecidableEq τ]

/-- The clients to be served before this one. -/
def ahead (client : τ) (queue : List τ) : List τ :=
  queue.takeWhile fun other => other ≠ client

/-- One change of a queue, and whom it has served. -/
inductive Shift : List τ → List τ → List τ → Prop where
  | same (queue : List τ) : Shift [] queue queue
  | joins (queue : List τ) (newcomer : τ) :
      Shift [] queue (queue ++ [newcomer])
  | serves (head : τ) (rest : List τ) : Shift [head] (head :: rest) rest
  | quits (queue : List τ) (other : τ) :
      Shift [] queue (queue.erase other)

variable {client : τ} {queue after served : List τ}

theorem ahead_append (present : client ∈ queue) (newcomer : τ) :
    ahead client (queue ++ [newcomer]) = ahead client queue := by
  unfold ahead
  rw [List.takeWhile_append, if_neg]
  intro everyone
  have whole := (List.takeWhile_sublist _).eq_of_length everyone
  rw [← whole] at present
  simpa using List.mem_takeWhile_imp present

theorem ahead_cons {head : τ} (different : head ≠ client)
    (rest : List τ) :
    ahead client (head :: rest) = head :: ahead client rest := by
  unfold ahead
  rw [List.takeWhile_cons_of_pos (by simpa using different)]

theorem ahead_erase {other : τ} (different : other ≠ client)
    (queue : List τ) :
    (ahead client (queue.erase other)).Sublist (ahead client queue) := by
  induction queue with
  | nil =>
      exact List.Sublist.refl _
  | cons head rest inductionHypothesis =>
      by_cases same : head = other
      · subst same
        rw [List.erase_cons_head, ahead_cons different]
        exact List.sublist_cons_self _ _
      · rw [List.erase_cons_tail (by simpa using same)]
        by_cases arrived : head = client
        · subst arrived
          simp [ahead]
        · rw [ahead_cons arrived, ahead_cons arrived]
          exact inductionHypothesis.cons_cons head

/-- Nobody overtakes a client that stays. -/
theorem Shift.ahead_sublist (shift : Shift served queue after)
    (present : client ∈ queue) (stays : client ∈ after)
    (nodup : queue.Nodup) :
    (served ++ ahead client after).Sublist (ahead client queue) := by
  cases shift with
  | same _ =>
      exact List.Sublist.refl _
  | joins _ newcomer =>
      simp only [List.nil_append, ahead_append present, List.Sublist.refl]
  | serves head rest =>
      have different : head ≠ client := by
        rintro rfl
        exact (List.nodup_cons.mp nodup).1 stays
      simp only [ahead_cons different, List.singleton_append,
        List.Sublist.refl]
  | quits _ other =>
      have different : other ≠ client := by
        rintro rfl
        exact nodup.not_mem_erase stays
      rw [List.nil_append]
      exact ahead_erase different queue

end Queue
