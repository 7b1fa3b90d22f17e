import Mathlib.Data.Finmap

/-!
# Finite maps one key at a time

Insertion and erasure change the lookup of one key.  A property of all the
values of a map is kept by erasure, and by the insertion of a value that has it.
-/

namespace MultiMarketPrices.Finmaps

variable {A B : Type*} [DecidableEq A] {map : Finmap fun _ : A => B}
  {holds : B → Prop} {key : A} {value : B}

theorem lookup_insert_if (map : Finmap fun _ : A => B) (key other : A)
    (value : B) :
    (map.insert key value).lookup other =
      if other = key then some value else map.lookup other := by
  by_cases heq : other = key
  · subst heq
    rw [Finmap.lookup_insert, if_pos rfl]
  · rw [Finmap.lookup_insert_of_ne _ heq, if_neg heq]

theorem lookup_erase_if (map : Finmap fun _ : A => B) (key other : A) :
    (map.erase key).lookup other =
      if other = key then none else map.lookup other := by
  by_cases heq : other = key
  · subst heq
    rw [Finmap.lookup_erase, if_pos rfl]
  · rw [Finmap.lookup_erase_ne heq, if_neg heq]

/-- What is found after an erasure was there, under another key. -/
theorem lookup_of_erase {other : A}
    (hlookup : (map.erase key).lookup other = some value) :
    other ≠ key ∧ map.lookup other = some value := by
  rw [lookup_erase_if] at hlookup
  split at hlookup
  · cases hlookup
  · next hother => exact ⟨hother, hlookup⟩

omit [DecidableEq A] in
theorem entries_eq_zero_iff : map.entries = 0 ↔ map.keys = ∅ := by
  have hkeys : map.keys.val = map.entries.map Sigma.fst := rfl
  rw [← Finset.val_eq_zero, hkeys, Multiset.map_eq_zero]

/-- All values of the map have the property. -/
def Everywhere (holds : B → Prop) (map : Finmap fun _ : A => B) : Prop :=
  ∀ key value, map.lookup key = some value → holds value

theorem everywhere_empty :
    Everywhere holds (∅ : Finmap fun _ : A => B) := by
  intro key value hlookup
  simp at hlookup

theorem Everywhere.insert (hmap : Everywhere holds map)
    (hvalue : holds value) : Everywhere holds (map.insert key value) := by
  intro other found hlookup
  rw [lookup_insert_if] at hlookup
  split at hlookup
  · exact Option.some.inj hlookup ▸ hvalue
  · exact hmap other found hlookup

theorem Everywhere.erase (hmap : Everywhere holds map) :
    Everywhere holds (map.erase key) := by
  intro other found hlookup
  rw [lookup_erase_if] at hlookup
  split at hlookup
  · simp at hlookup
  · exact hmap other found hlookup

/-! ## Maps made of lists -/

/-- Insertion that does nothing if the key is there. -/
def emplace (map : Finmap fun _ : A => B) (entry : A × B) :
    Finmap fun _ : A => B :=
  if entry.1 ∈ map then map else map.insert entry.1 entry.2

/-- The first value of a key is kept. -/
theorem lookup_foldl_emplace (entries : List (A × B))
    (map : Finmap fun _ : A => B) (key : A) :
    (entries.foldl emplace map).lookup key =
      (map.lookup key).or (entries.lookup key) := by
  induction entries generalizing map with
  | nil => rw [List.foldl_nil, List.lookup_nil, Option.or_none]
  | cons entry entries ih =>
      obtain ⟨name, value⟩ := entry
      rw [List.foldl_cons, ih, List.lookup_cons, emplace]
      rcases eq_or_ne key name with rfl | hkey
      · rw [beq_self_eq_true]
        cases hlookup : map.lookup key with
        | none =>
            rw [if_neg (Finmap.lookup_eq_none.mp hlookup), Finmap.lookup_insert]
            rfl
        | some old =>
            rw [if_pos (Finmap.mem_of_lookup_eq_some hlookup), hlookup]
            rfl
      · rw [beq_eq_false_iff_ne.mpr hkey]
        split
        · rfl
        · rw [lookup_insert_if, if_neg hkey]

end MultiMarketPrices.Finmaps
