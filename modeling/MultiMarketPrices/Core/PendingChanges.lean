import Mathlib

/-!
# A set with pending changes

A client keeps a remote set in step with the one it wants by recording the
additions and the removals it has not transmitted.  If an addition is always of
an element the remote set lacks and a removal always of one it has, then a new
request may cancel a recorded one, and the recorded changes may be transmitted
in two batches, in either order.
-/

namespace MultiMarketPrices

/-- The remote set and the changes it still lacks. -/
structure PendingChanges (A : Type*) [DecidableEq A] where
  base : Finset A
  additions : Finset A
  removals : Finset A
  additions_new : Disjoint additions base
  removals_old : removals ⊆ base

namespace PendingChanges

variable {A : Type*} [DecidableEq A]

/-- The set the client wants. -/
def desired (changes : PendingChanges A) : Finset A :=
  (changes.base ∪ changes.additions) \ changes.removals

theorem mem_desired {changes : PendingChanges A} {value : A} :
    value ∈ changes.desired ↔
      (value ∈ changes.base ∨ value ∈ changes.additions) ∧
        value ∉ changes.removals := by
  simp [desired]

theorem not_mem_base_of_mem_additions {changes : PendingChanges A} {value : A}
    (hvalue : value ∈ changes.additions) : value ∉ changes.base :=
  Finset.disjoint_left.mp changes.additions_new hvalue

theorem not_mem_removals_of_mem_additions {changes : PendingChanges A}
    {value : A} (hvalue : value ∈ changes.additions) :
    value ∉ changes.removals :=
  fun hremoved => not_mem_base_of_mem_additions hvalue
    (changes.removals_old hremoved)

/-- Removals first or additions first: the same set. -/
theorem desired_eq_sdiff_union (changes : PendingChanges A) :
    changes.desired =
      (changes.base \ changes.removals) ∪ changes.additions := by
  ext value
  have hadded := @not_mem_removals_of_mem_additions A _ changes value
  simp only [mem_desired, Finset.mem_union, Finset.mem_sdiff]
  tauto

/-- Nothing pending on a given set. -/
def settled (base : Finset A) : PendingChanges A where
  base := base
  additions := ∅
  removals := ∅
  additions_new := Finset.disjoint_empty_left base
  removals_old := Finset.empty_subset base

@[simp]
theorem desired_settled (base : Finset A) : (settled base).desired = base := by
  simp [settled, desired]

theorem desired_eq_base {changes : PendingChanges A}
    (hadditions : changes.additions = ∅) (hremovals : changes.removals = ∅) :
    changes.desired = changes.base := by
  simp [desired, hadditions, hremovals]

/-- Want one more element: take back its removal, or record its addition. -/
def want (changes : PendingChanges A) (value : A)
    (hvalue : value ∉ changes.desired) : PendingChanges A :=
  if hremoved : value ∈ changes.removals then
    { changes with
      removals := changes.removals.erase value
      removals_old := (Finset.erase_subset _ _).trans changes.removals_old }
  else
    { changes with
      additions := insert value changes.additions
      additions_new := by
        rw [Finset.disjoint_insert_left]
        refine ⟨fun hbase => hvalue ?_, changes.additions_new⟩
        exact mem_desired.mpr ⟨.inl hbase, hremoved⟩ }

theorem desired_want (changes : PendingChanges A) (value : A)
    (hvalue : value ∉ changes.desired) :
    (changes.want value hvalue).desired = insert value changes.desired := by
  ext other
  by_cases hremoved : value ∈ changes.removals
  · have hbase := changes.removals_old hremoved
    by_cases hother : other = value
    · subst hother
      simp [want, hremoved, mem_desired, hbase]
    · simp [want, hremoved, mem_desired, hother]
  · by_cases hother : other = value
    · subst hother
      simp [want, hremoved, mem_desired]
    · simp [want, hremoved, mem_desired, hother]

/-- Want one element less: take back its addition, or record its removal. -/
def unwant (changes : PendingChanges A) (value : A)
    (hvalue : value ∈ changes.desired) : PendingChanges A :=
  if hadded : value ∈ changes.additions then
    { changes with
      additions := changes.additions.erase value
      additions_new := Finset.disjoint_of_subset_left
        (Finset.erase_subset _ _) changes.additions_new }
  else
    { changes with
      removals := insert value changes.removals
      removals_old := by
        refine Finset.insert_subset ?_ changes.removals_old
        exact (mem_desired.mp hvalue).1.resolve_right hadded }

theorem desired_unwant (changes : PendingChanges A) (value : A)
    (hvalue : value ∈ changes.desired) :
    (changes.unwant value hvalue).desired = changes.desired.erase value := by
  ext other
  by_cases hadded : value ∈ changes.additions
  · have hbase := not_mem_base_of_mem_additions hadded
    by_cases hother : other = value
    · subst hother
      simp [unwant, hadded, mem_desired, hbase]
    · simp [unwant, hadded, mem_desired, hother]
  · by_cases hother : other = value
    · subst hother
      simp [unwant, hadded, mem_desired]
    · simp [unwant, hadded, mem_desired, hother]

/-- All additions have been transmitted. -/
def commitAdditions (changes : PendingChanges A) : PendingChanges A where
  base := changes.base ∪ changes.additions
  additions := ∅
  removals := changes.removals
  additions_new := Finset.disjoint_empty_left _
  removals_old := changes.removals_old.trans Finset.subset_union_left

@[simp]
theorem desired_commitAdditions (changes : PendingChanges A) :
    changes.commitAdditions.desired = changes.desired := by
  simp [commitAdditions, desired]

/-- All removals have been transmitted. -/
def commitRemovals (changes : PendingChanges A) : PendingChanges A where
  base := changes.base \ changes.removals
  additions := changes.additions
  removals := ∅
  additions_new := Finset.disjoint_of_subset_right
    Finset.sdiff_subset changes.additions_new
  removals_old := Finset.empty_subset _

@[simp]
theorem desired_commitRemovals (changes : PendingChanges A) :
    changes.commitRemovals.desired = changes.desired := by
  rw [desired_eq_sdiff_union, desired_eq_sdiff_union]
  simp [commitRemovals]

end PendingChanges

end MultiMarketPrices
