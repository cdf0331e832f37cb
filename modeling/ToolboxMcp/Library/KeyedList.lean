import Mathlib.Data.List.Nodup

/-!
# Lists searched by a key

A table kept as a list is read by scanning for the first entry with the wanted
key, updated in place (or extended at the end) and thinned by filtering.  The
laws below are those of a finite map; insertion order is retained, so they
cover an insertion-ordered dictionary as well (take `Prod.fst` for the key).
-/

namespace KeyedList

universe u v

variable {κ : Type u} {α : Type v} [DecidableEq κ] (key : α → κ)

/-- The first entry filed under `wanted`. -/
def lookup (wanted : κ) (entries : List α) : Option α :=
  entries.find? fun entry => key entry = wanted

/-- Replace the first entry with the same key, or append. -/
def upsert (entry : α) : List α → List α
  | [] => [entry]
  | head :: tail =>
      if key head = key entry then
        entry :: tail
      else
        head :: upsert entry tail

/-- Drop every entry filed under `removed`. -/
def erase (removed : κ) (entries : List α) : List α :=
  entries.filter fun entry => key entry ≠ removed

theorem key_of_lookup
    {wanted : κ} {entries : List α} {entry : α}
    (found : lookup key wanted entries = some entry) :
    key entry = wanted := by
  simpa using List.find?_some found

theorem mem_of_lookup
    {wanted : κ} {entries : List α} {entry : α}
    (found : lookup key wanted entries = some entry) :
    entry ∈ entries :=
  List.mem_of_find?_eq_some found

theorem lookup_isSome_iff {wanted : κ} {entries : List α} :
    (lookup key wanted entries).isSome ↔
      wanted ∈ entries.map key := by
  simp [lookup, List.find?_isSome]

theorem lookup_of_mem
    {entries : List α} (nodup : (entries.map key).Nodup) {entry : α}
    (member : entry ∈ entries) :
    lookup key (key entry) entries = some entry := by
  induction entries with
  | nil =>
      cases member
  | cons head tail inductionHypothesis =>
      rw [List.map_cons, List.nodup_cons] at nodup
      rcases List.mem_cons.mp member with rfl | later
      · simp [lookup]
      · have different : key head ≠ key entry := by
          intro same
          apply nodup.1
          rw [same]
          exact List.mem_map_of_mem later
        have found := inductionHypothesis nodup.2 later
        simpa [lookup, different] using found

@[simp]
theorem lookup_upsert_self (entry : α) (entries : List α) :
    lookup key (key entry) (upsert key entry entries) = some entry := by
  induction entries with
  | nil =>
      simp [upsert, lookup]
  | cons head tail inductionHypothesis =>
      by_cases same : key head = key entry
      · simp [upsert, lookup, same]
      · simpa [upsert, lookup, same] using inductionHypothesis

theorem lookup_upsert_of_ne
    {entry : α} {wanted : κ} (different : wanted ≠ key entry)
    (entries : List α) :
    lookup key wanted (upsert key entry entries) =
      lookup key wanted entries := by
  induction entries with
  | nil =>
      simp [upsert, lookup, Ne.symm different]
  | cons head tail inductionHypothesis =>
      by_cases same : key head = key entry
      · simp [upsert, lookup, same, Ne.symm different]
      · rw [upsert, if_neg same]
        by_cases here : key head = wanted
        · simp [lookup, here]
        · simpa [lookup, here] using inductionHypothesis

theorem mem_upsert {entry found : α} {entries : List α}
    (member : found ∈ upsert key entry entries) :
    found = entry ∨ found ∈ entries := by
  induction entries with
  | nil =>
      exact .inl (List.mem_singleton.mp member)
  | cons head tail inductionHypothesis =>
      unfold upsert at member
      split at member
      · rcases List.mem_cons.mp member with same | later
        · exact .inl same
        · exact .inr (List.mem_cons_of_mem _ later)
      · rcases List.mem_cons.mp member with same | later
        · subst same
          exact .inr List.mem_cons_self
        · rcases inductionHypothesis later with same | earlier
          · exact .inl same
          · exact .inr (List.mem_cons_of_mem _ earlier)

theorem mem_of_mem_erase {removed : κ} {entry : α} {entries : List α}
    (member : entry ∈ erase key removed entries) : entry ∈ entries :=
  List.mem_of_mem_filter member

@[simp]
theorem lookup_erase_self (removed : κ) (entries : List α) :
    lookup key removed (erase key removed entries) = none := by
  simp [lookup, erase]

theorem lookup_erase_of_ne
    {removed wanted : κ} (different : wanted ≠ removed)
    (entries : List α) :
    lookup key wanted (erase key removed entries) =
      lookup key wanted entries := by
  induction entries with
  | nil =>
      rfl
  | cons head tail inductionHypothesis =>
      by_cases dropped : key head = removed
      · have other : key head ≠ wanted := by
          rw [dropped]
          exact Ne.symm different
        simpa [erase, lookup, dropped, Ne.symm different] using
          inductionHypothesis
      · by_cases here : key head = wanted
        · simp [erase, lookup, here, different]
        · simpa [erase, lookup, dropped, here] using inductionHypothesis

/-- Updating under a key that is present keeps every position. -/
theorem keys_upsert_of_mem
    {entry : α} {entries : List α}
    (present : key entry ∈ entries.map key) :
    (upsert key entry entries).map key = entries.map key := by
  induction entries with
  | nil =>
      simp at present
  | cons head tail inductionHypothesis =>
      by_cases same : key head = key entry
      · simp [upsert, same]
      · have later : key entry ∈ tail.map key := by
          simpa [Ne.symm same] using present
        simp [upsert, same, inductionHypothesis later]

/-- Updating under a new key appends the entry. -/
theorem upsert_of_not_mem
    {entry : α} {entries : List α}
    (absent : key entry ∉ entries.map key) :
    upsert key entry entries = entries ++ [entry] := by
  induction entries with
  | nil =>
      rfl
  | cons head tail inductionHypothesis =>
      have parts : key entry ≠ key head ∧ key entry ∉ tail.map key := by
        simpa [not_or] using absent
      simp [upsert, Ne.symm parts.1, inductionHypothesis parts.2]

theorem keys_upsert_of_not_mem
    {entry : α} {entries : List α}
    (absent : key entry ∉ entries.map key) :
    (upsert key entry entries).map key =
      entries.map key ++ [key entry] := by
  rw [upsert_of_not_mem key absent, List.map_append, List.map_singleton]

theorem nodup_keys_upsert
    {entries : List α} (nodup : (entries.map key).Nodup) (entry : α) :
    ((upsert key entry entries).map key).Nodup := by
  by_cases present : key entry ∈ entries.map key
  · rw [keys_upsert_of_mem key present]
    exact nodup
  · rw [keys_upsert_of_not_mem key present]
    exact nodup.append (List.nodup_singleton _)
      (by simpa using present)

/-- Under distinct keys a key has the entry that is found, and no other. -/
theorem filter_key_eq
    {entries : List α} (nodup : (entries.map key).Nodup) {wanted : κ}
    {entry : α} (found : lookup key wanted entries = some entry) :
    entries.filter (fun other => key other = wanted) = [entry] := by
  induction entries with
  | nil =>
      cases found
  | cons head tail inductionHypothesis =>
      rw [List.map_cons, List.nodup_cons] at nodup
      by_cases same : key head = wanted
      · have first : head = entry := by
          simpa [lookup, same] using found
        have others : ∀ other ∈ tail, key other ≠ wanted := by
          intro other member equal
          apply nodup.1
          rw [same, ← equal]
          exact List.mem_map_of_mem member
        rw [List.filter_cons_of_pos (by simpa using same), first]
        simpa using others
      · have later : lookup key wanted tail = some entry := by
          simpa [lookup, same] using found
        rw [List.filter_cons_of_neg (by simpa using same)]
        exact inductionHypothesis nodup.2 later

theorem nodup_keys_erase
    {entries : List α} (nodup : (entries.map key).Nodup) (removed : κ) :
    ((erase key removed entries).map key).Nodup :=
  nodup.sublist (List.filter_sublist.map key)

/-- The entries under other keys stay as they are, in their order. -/
theorem filter_upsert (entry : α) (entries : List α) :
    ((upsert key entry entries).filter fun other =>
        key other ≠ key entry) =
      entries.filter fun other => key other ≠ key entry := by
  induction entries with
  | nil =>
      simp [upsert]
  | cons head tail inductionHypothesis =>
      by_cases same : key head = key entry
      · simp [upsert, same]
      · simpa [upsert, same] using inductionHypothesis

theorem filter_erase (removed : κ) (entries : List α) :
    ((erase key removed entries).filter fun other => key other ≠ removed) =
      entries.filter fun other => key other ≠ removed := by
  simp [erase]

/-! ## Changing entries without their keys -/

section Map

variable {β : Type*} {key} {changedKey : β → κ} {change : α → β}

theorem lookup_map (kept : ∀ entry, changedKey (change entry) = key entry)
    (wanted : κ) (entries : List α) :
    lookup changedKey wanted (entries.map change) =
      (lookup key wanted entries).map change := by
  unfold lookup
  rw [List.find?_map]
  congr 2
  funext entry
  simp [kept]

theorem map_upsert (kept : ∀ entry, changedKey (change entry) = key entry)
    (entry : α) (entries : List α) :
    (upsert key entry entries).map change =
      upsert changedKey (change entry) (entries.map change) := by
  induction entries with
  | nil =>
      rfl
  | cons head tail inductionHypothesis =>
      rw [upsert, List.map_cons, upsert, kept, kept, apply_ite (List.map change),
        List.map_cons, List.map_cons, inductionHypothesis]

theorem map_erase (kept : ∀ entry, changedKey (change entry) = key entry)
    (removed : κ) (entries : List α) :
    (erase key removed entries).map change =
      erase changedKey removed (entries.map change) := by
  unfold erase
  rw [List.filter_map]
  congr 2
  funext entry
  simp [kept]

end Map

end KeyedList

/-! ## Insertion-ordered dictionaries -/

abbrev Dict (κ α : Type*) :=
  List (κ × α)

namespace Dict

variable {κ α : Type*} [DecidableEq κ]

def get (wanted : κ) (entries : Dict κ α) : Option α :=
  (KeyedList.lookup Prod.fst wanted entries).map Prod.snd

def set (written : κ) (value : α) (entries : Dict κ α) : Dict κ α :=
  KeyedList.upsert Prod.fst (written, value) entries

def pop (removed : κ) (entries : Dict κ α) : Dict κ α :=
  KeyedList.erase Prod.fst removed entries

@[simp]
theorem get_nil (wanted : κ) : get wanted ([] : Dict κ α) = none :=
  rfl

theorem get_set (written wanted : κ) (value : α) (entries : Dict κ α) :
    (entries.set written value).get wanted =
      if wanted = written then some value else entries.get wanted := by
  unfold get set
  split
  · rename_i same
    rw [same]
    exact congrArg (Option.map Prod.snd)
      (KeyedList.lookup_upsert_self Prod.fst (written, value) entries)
  · rename_i different
    exact congrArg (Option.map Prod.snd)
      (KeyedList.lookup_upsert_of_ne Prod.fst different entries)

theorem get_pop (removed wanted : κ) (entries : Dict κ α) :
    (entries.pop removed).get wanted =
      if wanted = removed then none else entries.get wanted := by
  unfold get pop
  split
  · rename_i same
    rw [same]
    exact congrArg (Option.map Prod.snd)
      (KeyedList.lookup_erase_self Prod.fst removed entries)
  · rename_i different
    exact congrArg (Option.map Prod.snd)
      (KeyedList.lookup_erase_of_ne Prod.fst different entries)

theorem mem_of_get {wanted : κ} {value : α} {entries : Dict κ α}
    (found : entries.get wanted = some value) : (wanted, value) ∈ entries := by
  obtain ⟨entry, looked, rfl⟩ := Option.map_eq_some_iff.mp found
  have same := KeyedList.key_of_lookup Prod.fst looked
  subst same
  exact KeyedList.mem_of_lookup Prod.fst looked

end Dict
