import Mathlib.Data.List.Nodup
import Mathlib.Logic.Function.Basic
import ToolboxMcp.Library.KeyedList

/-!
# Insertion-ordered maps

A finite map that remembers in which order its keys were added: a key that is
written again keeps its place, one that was removed is added at the end.  A
list searched by a key represents such a map as long as no key occurs twice.
-/

universe u v

structure OrderedMap (κ : Type u) (α : Type v) where
  value : κ → Option α
  order : List κ
  distinct : order.Nodup
  listed : ∀ wanted, wanted ∈ order ↔ value wanted ≠ none

namespace OrderedMap

variable {κ : Type u} {α : Type v} [DecidableEq κ]

/-- The values in the order of their keys. -/
def entries (map : OrderedMap κ α) : List α :=
  map.order.filterMap map.value

def write (map : OrderedMap κ α) (written : κ) (value : α) :
    OrderedMap κ α where
  value := Function.update map.value written (some value)
  order :=
    if written ∈ map.order then map.order else map.order ++ [written]
  distinct := by
    by_cases present : written ∈ map.order
    · rw [if_pos present]
      exact map.distinct
    · rw [if_neg present]
      exact map.distinct.append (List.nodup_singleton _) (by simpa using present)
  listed := by
    intro wanted
    by_cases same : wanted = written
    · by_cases present : written ∈ map.order
      · simp [same, present]
      · simp [same, present]
    · rw [Function.update_of_ne same, ← map.listed]
      by_cases present : written ∈ map.order
      · simp [present]
      · simp [present, same]

def remove (map : OrderedMap κ α) (removed : κ) : OrderedMap κ α where
  value := Function.update map.value removed none
  order := map.order.filter fun wanted => wanted ≠ removed
  distinct := map.distinct.filter _
  listed := by
    intro wanted
    by_cases same : wanted = removed
    · simp [same]
    · rw [Function.update_of_ne same, ← map.listed]
      simp [same]

@[simp]
theorem value_write (map : OrderedMap κ α) (written wanted : κ) (value : α) :
    (map.write written value).value wanted =
      if wanted = written then some value else map.value wanted :=
  Function.update_apply map.value written (some value) wanted

@[simp]
theorem order_write (map : OrderedMap κ α) (written : κ) (value : α) :
    (map.write written value).order =
      if written ∈ map.order then map.order else map.order ++ [written] :=
  rfl

@[simp]
theorem value_remove (map : OrderedMap κ α) (removed wanted : κ) :
    (map.remove removed).value wanted =
      if wanted = removed then none else map.value wanted :=
  Function.update_apply map.value removed none wanted

@[simp]
theorem order_remove (map : OrderedMap κ α) (removed : κ) :
    (map.remove removed).order =
      map.order.filter fun wanted => wanted ≠ removed :=
  rfl

variable (key : α → κ)

/-- The map a list without repeated keys represents. -/
def ofList (items : List α) (distinct : (items.map key).Nodup) :
    OrderedMap κ α where
  value wanted := KeyedList.lookup key wanted items
  order := items.map key
  distinct := distinct
  listed := by
    intro wanted
    rw [← KeyedList.lookup_isSome_iff, Option.isSome_iff_ne_none]

/-- The list has the keys of the map in their order, and finds its values. -/
structure Represents (items : List α) (map : OrderedMap κ α) : Prop where
  keys : items.map key = map.order
  lookup : ∀ wanted, KeyedList.lookup key wanted items = map.value wanted

namespace Represents

variable {key} {items : List α} {map : OrderedMap κ α}

theorem ofList (distinct : (items.map key).Nodup) :
    Represents key items (OrderedMap.ofList key items distinct) :=
  ⟨rfl, fun _ => rfl⟩

theorem nodup (represents : Represents key items map) :
    (items.map key).Nodup := by
  rw [represents.keys]
  exact map.distinct

/-- The list is the values of the map, in order. -/
theorem entries_eq (represents : Represents key items map) :
    map.entries = items := by
  have found : ∀ item ∈ items, map.value (key item) = some item := by
    intro item member
    rw [← represents.lookup]
    exact KeyedList.lookup_of_mem key represents.nodup member
  unfold entries
  rw [← represents.keys, List.filterMap_map]
  calc items.filterMap (map.value ∘ key)
      = items.filterMap some :=
        List.filterMap_congr fun item member => found item member
    _ = items := List.filterMap_some

theorem upsert (represents : Represents key items map) (entry : α) :
    Represents key (KeyedList.upsert key entry items)
      (map.write (key entry) entry) where
  keys := by
    rw [order_write, ← represents.keys]
    by_cases present : key entry ∈ items.map key
    · rw [if_pos present]
      exact KeyedList.keys_upsert_of_mem key present
    · rw [if_neg present]
      exact KeyedList.keys_upsert_of_not_mem key present
  lookup := by
    intro wanted
    by_cases same : wanted = key entry
    · rw [same, KeyedList.lookup_upsert_self, value_write, if_pos rfl]
    · rw [KeyedList.lookup_upsert_of_ne key same, represents.lookup,
        value_write, if_neg same]

theorem erase (represents : Represents key items map) (removed : κ) :
    Represents key (KeyedList.erase key removed items)
      (map.remove removed) where
  keys := by
    rw [order_remove, ← represents.keys, List.filter_map]
    rfl
  lookup := by
    intro wanted
    by_cases same : wanted = removed
    · rw [same, KeyedList.lookup_erase_self, value_remove, if_pos rfl]
    · rw [KeyedList.lookup_erase_of_ne key same, represents.lookup,
        value_remove, if_neg same]

end Represents

end OrderedMap
