import ToolboxMcp.Library.Framing
import ToolboxMcp.Program.BatchRuns

/-!
# References into earlier results

A reference is an id and a path, joined with dots, and it is read back by
splitting at the dots.  An id that is empty or has dots itself is read as
something else, and where a step has a text but no data, the text is read.
-/

namespace ToolboxMcp

open Effect

/-! ## Paths -/

inductive PathStep where
  | key (name : String)
  | index (position : Nat)

/-- How the step is written in a reference. -/
def PathStep.token : PathStep → String
  | .key name => name
  | .index position => toString position

/-- The string is one token. -/
structure SingleToken (token : String) : Prop where
  nonempty : token ≠ ""
  undotted : '.' ∉ token.toList

/-- The digits that `int` converts at most. -/
def maxStrDigits : Nat :=
  4300

/-- The step can be read back.  An index has a numeral that `int` converts, as
every index of a Python list has. -/
def PathStep.Readable : PathStep → Prop
  | .key name => SingleToken name
  | .index position => (toString position).length ≤ maxStrDigits

section Reading

variable {reader : TextReader}

end Reading

/-! ## Substitution -/

mutual

/-- The second tree is the first with its reference nodes replaced, all at
once, by what they refer to. -/
inductive Substituted (refers : String → PyValue → Prop) :
    PyValue → PyValue → Prop where
  | reference {reference : String} {found : PyValue}
      (leads : refers reference found) :
      Substituted refers (referenceNode reference) found
  | dict {entries resolved : List (String × PyValue)}
      (other : reference? entries = none)
      (values : SubstitutedEntries refers entries resolved) :
      Substituted refers (.dict entries) (.dict resolved)
  | list {items resolved : List PyValue}
      (values : SubstitutedItems refers items resolved) :
      Substituted refers (.list items) (.list resolved)
  | leaf {value : PyValue} (dict : ∀ entries, value ≠ .dict entries)
      (list : ∀ items, value ≠ .list items) :
      Substituted refers value value

inductive SubstitutedItems (refers : String → PyValue → Prop) :
    List PyValue → List PyValue → Prop where
  | nil : SubstitutedItems refers [] []
  | cons {item value : PyValue} {items values : List PyValue}
      (head : Substituted refers item value)
      (tail : SubstitutedItems refers items values) :
      SubstitutedItems refers (item :: items) (value :: values)

inductive SubstitutedEntries (refers : String → PyValue → Prop) :
    List (String × PyValue) → List (String × PyValue) → Prop where
  | nil : SubstitutedEntries refers [] []
  | cons {key : String} {item value : PyValue}
      {entries resolved : List (String × PyValue)}
      (head : Substituted refers item value)
      (tail : SubstitutedEntries refers entries resolved) :
      SubstitutedEntries refers ((key, item) :: entries)
        ((key, value) :: resolved)

end

/-- As in every Python dict, no key occurs twice. -/
def DistinctKeys (value : PyValue) : Prop :=
  ∀ entries, Within (.dict entries) value → (entries.map Prod.fst).Nodup

theorem dictOf_of_nodup {entries : List (String × PyValue)}
    (distinct : (entries.map Prod.fst).Nodup) :
    PyValue.dictOf entries = .dict entries := by
  have built : ∀ (rest front : List (String × PyValue)),
      ((front ++ rest).map Prod.fst).Nodup →
        rest.foldl (fun built entry => Dict.set entry.1 entry.2 built) front =
          front ++ rest := by
    intro rest
    induction rest with
    | nil => simp
    | cons entry rest inductionHypothesis =>
        intro front distinct
        have absent : entry.1 ∉ front.map Prod.fst := by
          intro member
          rw [List.map_append, List.map_cons] at distinct
          exact List.disjoint_of_nodup_append distinct member
            List.mem_cons_self
        have fresh : Dict.set entry.1 entry.2 front = front ++ [entry] :=
          KeyedList.upsert_of_not_mem Prod.fst absent
        rw [List.foldl_cons, fresh, inductionHypothesis (front ++ [entry])]
        · simp
        · simpa using distinct
  unfold PyValue.dictOf
  rw [built entries [] distinct]
  rfl

section Resolving

variable {reader : TextReader} {resultsById : Dict String BatchStepResult}

/-- A reference refers to what is extracted for it. -/
def RefersTo (reader : TextReader)
    (resultsById : Dict String BatchStepResult) (reference : String)
    (found : PyValue) : Prop :=
  extractBatchReference reader reference resultsById = .ok found

theorem leaf_eq_ok {value : PyValue}
    (dict : ∀ entries, value ≠ .dict entries)
    (list : ∀ items, value ≠ .list items)
    (leaf : resolveBatchValue reader resultsById value = .ok value)
    (resolved : PyValue) :
    resolveBatchValue reader resultsById value = .ok resolved ↔
      Substituted (RefersTo reader resultsById) value resolved := by
  rw [leaf]
  constructor
  · intro resolves
    cases resolves
    exact .leaf dict list
  · intro substituted
    cases substituted with
    | reference leads => exact absurd rfl (dict _)
    | dict other values => exact absurd rfl (dict _)
    | list values => exact absurd rfl (list _)
    | leaf dict list => rfl

mutual

theorem resolveBatchValue_eq_ok : (value resolved : PyValue) →
    DistinctKeys value →
      (resolveBatchValue reader resultsById value = .ok resolved ↔
        Substituted (RefersTo reader resultsById) value resolved)
  | .dict entries, resolved, distinct => by
      have keys := distinct entries .self
      cases node : reference? entries with
      | none =>
          have below : ∀ entry ∈ entries, DistinctKeys entry.2 := by
            intro entry member inner within
            exact distinct inner (.entry member within)
          have pointwise := resolveBatchEntries_eq_ok entries
          have kept : ∀ others,
              resolveBatchEntries reader resultsById entries = .ok others →
                PyValue.dictOf others = .dict others := by
            intro others ended
            apply dictOf_of_nodup
            rw [resolveBatchEntries_keys entries others ended]
            exact keys
          rw [resolveBatchValue_dict node]
          constructor
          · rintro ⟨others, ended, rfl⟩
            rw [kept others ended]
            exact .dict node ((pointwise others below).mp ended)
          · intro substituted
            cases substituted with
            | reference leads => cases node
            | @dict _ others other values =>
                have ended := (pointwise others below).mpr values
                exact ⟨others, ended, kept others ended⟩
            | leaf dict list => exact absurd rfl (dict entries)
      | some target =>
          have whole := reference?_eq_some node
          subst whole
          cases target with
          | str reference =>
              have same :
                  resolveBatchValue reader resultsById
                      (.dict [("$from", .str reference)]) =
                    extractBatchReference reader reference resultsById := by
                unfold resolveBatchValue
                rw [node]
              rw [same]
              constructor
              · intro resolves
                exact .reference resolves
              · intro substituted
                cases substituted with
                | reference leads => exact leads
                | dict other values => cases other
                | leaf dict list => exact absurd rfl (dict _)
          | _ =>
              constructor
              · intro resolves
                unfold resolveBatchValue at resolves
                rw [node] at resolves
                cases resolves
              · intro substituted
                cases substituted with
                | dict other values => cases other
                | leaf dict list => exact absurd rfl (dict _)
  | .list items, resolved, distinct => by
      have below : ∀ item ∈ items, DistinctKeys item := by
        intro item member inner within
        exact distinct inner (.item member within)
      have pointwise := resolveBatchItems_eq_ok items
      rw [resolveBatchValue_list]
      constructor
      · rintro ⟨others, ended, rfl⟩
        exact .list ((pointwise others below).mp ended)
      · intro substituted
        cases substituted with
        | @list _ others values =>
            exact ⟨others, (pointwise others below).mpr values, rfl⟩
        | leaf dict list => exact absurd rfl (list items)
  | .none, resolved, _ =>
      leaf_eq_ok (by simp) (by simp) (by simp [resolveBatchValue]) resolved
  | .bool _, resolved, _ =>
      leaf_eq_ok (by simp) (by simp) (by simp [resolveBatchValue]) resolved
  | .int _, resolved, _ =>
      leaf_eq_ok (by simp) (by simp) (by simp [resolveBatchValue]) resolved
  | .float _, resolved, _ =>
      leaf_eq_ok (by simp) (by simp) (by simp [resolveBatchValue]) resolved
  | .complex _, resolved, _ =>
      leaf_eq_ok (by simp) (by simp) (by simp [resolveBatchValue]) resolved
  | .str _, resolved, _ =>
      leaf_eq_ok (by simp) (by simp) (by simp [resolveBatchValue]) resolved
  | .bytes _, resolved, _ =>
      leaf_eq_ok (by simp) (by simp) (by simp [resolveBatchValue]) resolved
  | .tuple _, resolved, _ =>
      leaf_eq_ok (by simp) (by simp) (by simp [resolveBatchValue]) resolved
  | .date _, resolved, _ =>
      leaf_eq_ok (by simp) (by simp) (by simp [resolveBatchValue]) resolved
  | .object _ _, resolved, _ =>
      leaf_eq_ok (by simp) (by simp) (by simp [resolveBatchValue]) resolved

theorem resolveBatchItems_eq_ok : (items resolved : List PyValue) →
    (∀ item ∈ items, DistinctKeys item) →
      (resolveBatchItems reader resultsById items = .ok resolved ↔
        SubstitutedItems (RefersTo reader resultsById) items resolved)
  | [], resolved, _ => by
      constructor
      · intro resolves
        cases resolves
        exact .nil
      · intro substituted
        cases substituted
        rfl
  | item :: items, resolved, distinct => by
      have first :=
        fun value => resolveBatchValue_eq_ok item value
          (distinct item List.mem_cons_self)
      have rest :=
        fun values => resolveBatchItems_eq_ok items values
          (fun other member => distinct other (List.mem_cons_of_mem item member))
      rw [resolveBatchItems_cons]
      constructor
      · rintro ⟨value, head, values, tail, rfl⟩
        exact .cons ((first value).mp head) ((rest values).mp tail)
      · intro substituted
        cases substituted with
        | @cons _ value _ values head tail =>
            exact ⟨value, (first value).mpr head, values,
              (rest values).mpr tail, rfl⟩

theorem resolveBatchEntries_eq_ok :
    (entries resolved : List (String × PyValue)) →
    (∀ entry ∈ entries, DistinctKeys entry.2) →
      (resolveBatchEntries reader resultsById entries = .ok resolved ↔
        SubstitutedEntries (RefersTo reader resultsById) entries resolved)
  | [], resolved, _ => by
      constructor
      · intro resolves
        cases resolves
        exact .nil
      · intro substituted
        cases substituted
        rfl
  | (key, item) :: entries, resolved, distinct => by
      have first :=
        fun value => resolveBatchValue_eq_ok item value
          (distinct (key, item) List.mem_cons_self)
      have rest :=
        fun values => resolveBatchEntries_eq_ok entries values
          (fun other member => distinct other (List.mem_cons_of_mem _ member))
      rw [resolveBatchEntries_cons]
      constructor
      · rintro ⟨value, head, values, tail, rfl⟩
        exact .cons ((first value).mp head) ((rest values).mp tail)
      · intro substituted
        cases substituted with
        | @cons _ _ value _ values head tail =>
            exact ⟨value, (first value).mpr head, values,
              (rest values).mpr tail, rfl⟩

end

end Resolving

/-! ## References in a run -/

section Runs

variable [PythonStack] {reader : TextReader} {tools : MountedTools}

/-- With distinct ids every result is found under its id. -/
theorem Visits.stored {before final : BatchState}
    {visited : List BatchVisit}
    (visits : Visits reader tools before visited final)
    (distinct :
      (before.results.map (·.id) ++ visited.map (·.step.id)).Nodup)
    (stored :
      ∀ result ∈ before.results,
        before.resultsById.get result.id = some result) :
    ∀ result ∈ final.results,
      final.resultsById.get result.id = some result := by
  induction visits with
  | done state => exact stored
  | @next visit visited final runs _ inductionHypothesis =>
      rw [List.map_cons] at distinct
      rcases runs.ends with ⟨own, reported⟩ | cancelled
      · apply inductionHypothesis
        · rw [reported.results, List.map_append, List.map_singleton,
            reported.id, List.append_assoc]
          exact distinct
        · intro result member
          rw [reported.resultsById, Dict.get_set]
          rw [reported.results] at member
          rcases List.mem_append.mp member with earlier | last
          · have different : result.id ≠ visit.step.id := by
              intro same
              refine List.disjoint_of_nodup_append distinct
                (List.mem_map_of_mem earlier) ?_
              rw [same]
              exact List.mem_cons_self
            rw [if_neg different]
            exact stored result earlier
          · cases List.mem_singleton.mp last
            rw [if_pos reported.id]
      · apply inductionHypothesis
        · rw [cancelled.results]
          have fewer :
              (visit.before.results.map (·.id) ++
                  visited.map (·.step.id)).Sublist
                (visit.before.results.map (·.id) ++
                  visit.step.id :: visited.map (·.step.id)) :=
            (List.Sublist.refl _).append (List.sublist_cons_self _ _)
          exact fewer.nodup distinct
        · rw [cancelled.results, cancelled.resultsById]
          exact stored

theorem Visits.starts {before final : BatchState} {first : BatchVisit}
    {rest : List BatchVisit}
    (visits : Visits reader tools before (first :: rest) final) :
    first.before = before := by
  cases visits with
  | next runs later =>
      rfl

end Runs

section Integers

open scoped Integers

end Integers

end ToolboxMcp
