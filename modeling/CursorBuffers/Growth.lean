import CursorBuffers.Error

/-!
How far a buffer grows when it needs room. Small capacities double from 64 on; from 4 MiB on
capacities are multiples of 4 MiB; no capacity passes the maximum.
-/

namespace CursorBuffers.Growth

/-- The capacity from which growth goes in steps of that size: 4 MiB. -/
def threshold : Nat := 4194304

def smallest : Nat := 64

/-- Doubles a capacity until it reaches `minimum`. -/
def doubled (capacity minimum : Nat) (positive : 0 < capacity) : Nat :=
  if capacity < minimum then doubled (2 * capacity) minimum (by omega) else capacity
termination_by minimum - capacity

/-- The capacity for a need of more than the threshold: the next multiple, unless that passes
`maximum` less one step. -/
def stepped (minimum maximum : Nat) : Nat :=
  let base := minimum / threshold * threshold
  if maximum - threshold < base then maximum else base + threshold

/-- The new capacity of a buffer that needs `minimum` bytes and may not pass `maximum`. -/
def capacityFor (minimum maximum : Nat) : Except MemoryError Nat :=
  if maximum < minimum then .error (.capacityExceeded minimum maximum)
  else if minimum = threshold then .ok threshold
  else if threshold < minimum then .ok (stepped minimum maximum)
  else .ok (min (doubled smallest minimum (by decide)) maximum)

theorem le_doubled {capacity minimum : Nat} {positive : 0 < capacity} :
    minimum ≤ doubled capacity minimum positive := by
  fun_induction doubled capacity minimum positive with
  | case1 capacity positive short ih => exact ih
  | case2 capacity positive enough => exact Nat.le_of_not_lt enough

theorem le_stepped {minimum maximum : Nat} (possible : minimum ≤ maximum) :
    minimum ≤ stepped minimum maximum := by
  have rounded : minimum < minimum / threshold * threshold + threshold :=
    Nat.lt_div_mul_add (by decide)
  simp only [stepped]
  split
  · exact possible
  · exact Nat.le_of_lt rounded

theorem le_of_capacityFor {minimum maximum capacity : Nat}
    (grown : capacityFor minimum maximum = .ok capacity) : minimum ≤ capacity := by
  unfold capacityFor at grown
  split at grown
  · contradiction
  · rename_i possible
    have possible : minimum ≤ maximum := Nat.le_of_not_lt possible
    split at grown
    · rename_i same
      cases grown
      exact Nat.le_of_eq same
    · split at grown <;> cases grown
      · exact le_stepped possible
      · exact Nat.le_min.mpr ⟨le_doubled, possible⟩

theorem stepped_le {minimum maximum : Nat} (large : threshold < minimum)
    (possible : minimum ≤ maximum) : stepped minimum maximum ≤ maximum := by
  simp only [stepped]
  split
  · exact Nat.le_refl _
  · rename_i below
    omega

theorem le_maximum_of_capacityFor {minimum maximum capacity : Nat}
    (grown : capacityFor minimum maximum = .ok capacity) : capacity ≤ maximum := by
  unfold capacityFor at grown
  split at grown
  · contradiction
  · rename_i possible
    have possible : minimum ≤ maximum := Nat.le_of_not_lt possible
    split at grown
    · rename_i same
      cases grown
      exact same ▸ possible
    · split at grown <;> cases grown
      · rename_i large
        exact stepped_le large possible
      · exact Nat.min_le_right _ _

theorem exists_capacityFor {minimum maximum : Nat} (possible : minimum ≤ maximum) :
    ∃ capacity, capacityFor minimum maximum = .ok capacity := by
  unfold capacityFor
  rw [if_neg (Nat.not_lt.mpr possible)]
  split
  · exact ⟨_, rfl⟩
  · split
    · exact ⟨_, rfl⟩
    · exact ⟨_, rfl⟩

end CursorBuffers.Growth
