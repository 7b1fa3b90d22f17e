import Mathlib.Data.List.Basic

/-!
# Values kept under growing numbers

Whoever takes a ticket may leave a value under its number.  Numbers are given
out in order, so that a value left under the next number hides no other, and
tickets given out later find nothing.
-/

namespace MultiMarketPrices.Tickets

variable {Value Item : Type*}

/-- Every value was left under a number that has been given out. -/
def Below (count : ℕ) (entries : List (ℕ × Value)) : Prop :=
  ∀ entry ∈ entries, entry.1 < count

/-- The values left for items, in the order of these. -/
def valuesOf (entries : List (ℕ × Value)) (number : Item → ℕ)
    (items : List Item) : List Value :=
  items.filterMap fun item => entries.lookup (number item)

variable {count : ℕ} {entries : List (ℕ × Value)} {number : Item → ℕ}

theorem Below.mono (hbelow : Below count entries) {more : ℕ}
    (hle : count ≤ more) : Below more entries :=
  fun entry hmem => Nat.lt_of_lt_of_le (hbelow entry hmem) hle

theorem Below.concat (hbelow : Below count entries) (value : Value) :
    Below (count + 1) (entries ++ [(count, value)]) := by
  intro entry hmem
  rcases List.mem_append.mp hmem with hold | hnew
  · exact Nat.lt_succ_of_lt (hbelow entry hold)
  · rw [List.mem_singleton.mp hnew]
    exact Nat.lt_succ_self count

theorem Below.lookup_eq_none (hbelow : Below count entries) {key : ℕ}
    (hkey : count ≤ key) : entries.lookup key = none := by
  rw [List.lookup_eq_none_iff]
  intro entry hmem
  have hlt := Nat.lt_of_lt_of_le (hbelow entry hmem) hkey
  simpa using Nat.ne_of_gt hlt

theorem Below.lookup_concat (hbelow : Below count entries) (value : Value)
    (key : ℕ) :
    (entries ++ [(count, value)]).lookup key =
      if key = count then some value else entries.lookup key := by
  rw [List.lookup_append, List.lookup_cons, List.lookup_nil]
  split_ifs with hnew
  · rw [hnew, hbelow.lookup_eq_none (Nat.le_refl count), beq_self_eq_true]
    rfl
  · rw [beq_eq_false_iff_ne.mpr hnew]
    exact Option.or_none

theorem valuesOf_append (items more : List Item) :
    valuesOf entries number (items ++ more) =
      valuesOf entries number items ++ valuesOf entries number more :=
  List.filterMap_append

/-- Tickets that are given out later find nothing. -/
theorem Below.valuesOf_eq_nil (hbelow : Below count entries)
    {items : List Item} (hitems : ∀ item ∈ items, count ≤ number item) :
    valuesOf entries number items = [] := by
  rw [valuesOf, List.filterMap_eq_nil_iff]
  exact fun item hmem => hbelow.lookup_eq_none (hitems item hmem)

/-- A value left under the next number is found by the next ticket, and by none
that was given out before. -/
theorem Below.valuesOf_concat (hbelow : Below count entries) (value : Value)
    {items : List Item} {item : Item}
    (hitems : ∀ item ∈ items, number item < count)
    (hitem : number item = count) :
    valuesOf (entries ++ [(count, value)]) number (items ++ [item]) =
      valuesOf entries number items ++ [value] := by
  have hnew : (entries ++ [(count, value)]).lookup (number item) =
      some value := by
    rw [hbelow.lookup_concat, if_pos hitem]
  rw [valuesOf_append]
  congr 1
  · apply List.filterMap_congr
    intro earlier hmem
    rw [hbelow.lookup_concat, if_neg (Nat.ne_of_lt (hitems earlier hmem))]
  · simp [valuesOf, hnew]

end MultiMarketPrices.Tickets
