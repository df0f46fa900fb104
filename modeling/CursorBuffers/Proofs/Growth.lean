import CursorBuffers.Bytes
import CursorBuffers.Growth
import Mathlib.Algebra.Group.Nat.Defs
import Mathlib.Order.Bounds.Basic

namespace CursorBuffers.Growth

/-- What growth comes to where no maximum cuts it. -/
def Goal (minimum goal : Nat) : Prop :=
  if minimum ≤ threshold then
    IsLeast {power | (∃ exponent, power = 2 ^ exponent) ∧ max smallest minimum ≤ power} goal
  else IsLeast {multiple | threshold ∣ multiple ∧ minimum < multiple} goal

/-- The doubling on words of 64 bits, from a capacity to the one that it ends with. No pass loses a
bit. -/
inductive Doubles (minimum : UInt64) : UInt64 → UInt64 → Prop
  | reached {capacity : UInt64} (enough : minimum ≤ capacity) : Doubles minimum capacity capacity
  | passed {capacity last : UInt64} (short : capacity < minimum)
      (exact : (capacity <<< 1).toNat = 2 * capacity.toNat)
      (rest : Doubles minimum (capacity <<< 1) last) : Doubles minimum capacity last

variable {minimum maximum capacity goal larger other exponent passes : Nat}

theorem smallest_eq_pow : smallest = 2 ^ 6 := rfl

theorem threshold_eq_pow : threshold = 2 ^ 22 := rfl

section Doubling

theorem twice_mul_pow : 2 * capacity * 2 ^ passes = capacity * 2 ^ (passes + 1) := by
  rw [Nat.pow_succ', Nat.mul_comm 2 capacity, Nat.mul_assoc]

/-- The doubling ends at the first capacity that is large enough. -/
theorem exists_passes (minimum : Nat) (positive : 0 < capacity) :
    ∃ passes, doubled capacity minimum positive = capacity * 2 ^ passes ∧
      ∀ earlier < passes, capacity * 2 ^ earlier < minimum := by
  fun_induction doubled capacity minimum positive with
  | case1 capacity positive short ih =>
      obtain ⟨passes, last, before⟩ := ih
      refine ⟨passes + 1, last.trans twice_mul_pow, fun earlier few => ?_⟩
      cases earlier with
      | zero => rwa [Nat.pow_zero, Nat.mul_one]
      | succ earlier =>
          rw [← twice_mul_pow]
          exact before earlier (Nat.lt_of_succ_lt_succ few)
  | case2 capacity positive enough =>
      exact ⟨0, (Nat.mul_one _).symm, fun earlier few => absurd few (Nat.not_lt_zero _)⟩

/-- From the smallest capacity on it ends at a least power of two. -/
theorem isLeast_doubled {positive : 0 < smallest} :
    IsLeast {power | (∃ exponent, power = 2 ^ exponent) ∧ max smallest minimum ≤ power}
      (doubled smallest minimum positive) := by
  obtain ⟨passes, last, before⟩ := exists_passes minimum positive
  have power : doubled smallest minimum positive = 2 ^ (6 + passes) := by
    rw [last, smallest_eq_pow, Nat.pow_add]
  have enough : minimum ≤ doubled smallest minimum positive := le_doubled
  constructor
  · refine ⟨⟨_, power⟩, Nat.max_le.mpr ⟨?_, enough⟩⟩
    rw [last]
    exact Nat.le_mul_of_pos_right _ (Nat.two_pow_pos _)
  · rintro _ ⟨⟨exponent, rfl⟩, large⟩
    obtain ⟨least, covers⟩ := Nat.max_le.mp large
    rw [smallest_eq_pow] at least
    have start : 6 ≤ exponent := (Nat.pow_le_pow_iff_right (by decide)).mp least
    obtain ⟨late, rfl⟩ := Nat.exists_eq_add_of_le start
    rw [power]
    refine Nat.pow_le_pow_right (by decide) (Nat.add_le_add_left (Nat.le_of_not_lt fun few => ?_) 6)
    -- A smaller power was passed by, because it was too small.
    have short := before late few
    rw [smallest_eq_pow, ← Nat.pow_add] at short
    exact absurd covers (Nat.not_le.mpr short)

/-- On words of 64 bits the doubling goes through the same capacities, as long as the need leaves
the highest bit free. -/
theorem exists_doubles {need : UInt64} (word : UInt64) {positive : 0 < word.toNat}
    (small : need.toNat ≤ 2 ^ 63) :
    ∃ last, Doubles need word last ∧ last.toNat = doubled word.toNat need.toNat positive := by
  generalize start : word.toNat = capacity at positive ⊢
  fun_induction doubled capacity need.toNat positive generalizing word with
  | case1 capacity positive short ih =>
      have exact : (word <<< 1).toNat = 2 * word.toNat := by
        rw [UInt64.toNat_shiftLeft]
        change word.toNat <<< 1 % 2 ^ 64 = 2 * word.toNat
        rw [Nat.shiftLeft_eq, Nat.mod_eq_of_lt (by omega)]
        exact Nat.mul_comm _ _
      obtain ⟨last, rest, same⟩ := ih _ (exact.trans (by rw [start]))
      exact ⟨last, .passed (UInt64.lt_iff_toNat_lt.mpr (start ▸ short)) exact rest, same⟩
  | case2 capacity positive enough =>
      have covers : need ≤ word := UInt64.le_iff_toNat_le.mpr (start ▸ Nat.le_of_not_lt enough)
      exact ⟨word, .reached covers, start⟩

end Doubling

section Stepping

/-- Beyond the threshold growth goes to the least multiple above the need. -/
theorem isLeast_step :
    IsLeast {multiple | threshold ∣ multiple ∧ minimum < multiple}
      (minimum / threshold * threshold + threshold) := by
  have rounded : minimum < minimum / threshold * threshold + threshold :=
    Nat.lt_div_mul_add (by decide)
  refine ⟨⟨⟨minimum / threshold + 1, by rw [Nat.mul_succ, Nat.mul_comm]⟩, rounded⟩, ?_⟩
  rintro _ ⟨⟨count, rfl⟩, above⟩
  have below : minimum / threshold < count := Nat.div_lt_of_lt_mul above
  calc minimum / threshold * threshold + threshold
      = threshold * (minimum / threshold + 1) := by rw [Nat.mul_succ, Nat.mul_comm]
    _ ≤ threshold * count := Nat.mul_le_mul_left _ below

/-- The step is not taken where it would pass the maximum. -/
theorem stepped_eq_min (large : threshold < minimum) (possible : minimum ≤ maximum) :
    stepped minimum maximum = min maximum (minimum / threshold * threshold + threshold) := by
  simp only [stepped]
  split <;> omega

end Stepping

section Goals

theorem goal_doubled {positive : 0 < smallest} (small : minimum ≤ threshold) :
    Goal minimum (doubled smallest minimum positive) := by
  rw [Goal, if_pos small]
  exact isLeast_doubled

theorem goal_step (large : threshold < minimum) :
    Goal minimum (minimum / threshold * threshold + threshold) := by
  rw [Goal, if_neg (Nat.not_le.mpr large)]
  exact isLeast_step

theorem goal_threshold : Goal threshold threshold := by
  rw [Goal, if_pos (Nat.le_refl _)]
  exact ⟨⟨⟨22, threshold_eq_pow⟩, by decide⟩, fun _ member => (Nat.max_le.mp member.2).2⟩

theorem Goal.unique (one : Goal minimum goal) (same : Goal minimum other) : goal = other := by
  unfold Goal at one same
  split at one
  · rw [if_pos ‹_›] at same
    exact one.unique same
  · rw [if_neg ‹_›] at same
    exact one.unique same

theorem Goal.mono (one : Goal minimum goal) (also : Goal larger other) (more : minimum ≤ larger) :
    goal ≤ other := by
  unfold Goal at one also
  split at also
  · rename_i small
    rw [if_pos (Nat.le_trans more small)] at one
    obtain ⟨power, covers⟩ := also.1
    obtain ⟨least, reaches⟩ := Nat.max_le.mp covers
    exact one.2 ⟨power, Nat.max_le.mpr ⟨least, Nat.le_trans more reaches⟩⟩
  · rename_i large
    split at one
    · rename_i small
      -- The threshold lies between the two goals.
      have below : goal ≤ threshold :=
        one.2 ⟨⟨22, threshold_eq_pow⟩, Nat.max_le.mpr ⟨by decide, small⟩⟩
      have above : larger < other := also.1.2
      omega
    · exact one.2 ⟨also.1.1, Nat.lt_of_le_of_lt more also.1.2⟩

/-- The new capacity is the goal, cut to the maximum. -/
theorem exists_goal (possible : minimum ≤ maximum) :
    ∃ goal, Goal minimum goal ∧ capacityFor minimum maximum = .ok (min maximum goal) := by
  unfold capacityFor
  rw [if_neg (Nat.not_lt.mpr possible)]
  split
  · rename_i same
    subst same
    exact ⟨threshold, goal_threshold, by rw [Nat.min_eq_right possible]⟩
  · split
    · rename_i large
      exact ⟨_, goal_step large, by rw [stepped_eq_min large possible]⟩
    · rename_i small
      exact ⟨_, goal_doubled (Nat.le_of_not_lt small), by rw [Nat.min_comm]⟩

theorem capacityFor_eq_ok : capacityFor minimum maximum = .ok capacity ↔
    minimum ≤ maximum ∧ ∃ goal, Goal minimum goal ∧ capacity = min maximum goal := by
  constructor
  · intro grown
    have possible : minimum ≤ maximum :=
      Nat.le_trans (le_of_capacityFor grown) (le_maximum_of_capacityFor grown)
    obtain ⟨goal, least, chosen⟩ := exists_goal possible
    rw [chosen, Except.ok.injEq] at grown
    exact ⟨possible, goal, least, grown.symm⟩
  · rintro ⟨possible, goal, least, rfl⟩
    obtain ⟨other, also, chosen⟩ := exists_goal possible
    rw [chosen, least.unique also]

theorem capacityFor_eq_error {error : MemoryError} : capacityFor minimum maximum = .error error ↔
    maximum < minimum ∧ error = .capacityExceeded minimum maximum := by
  constructor
  · intro refused
    by_cases possible : minimum ≤ maximum
    · obtain ⟨goal, _, chosen⟩ := exists_goal possible
      rw [chosen] at refused
      contradiction
    · have beyond : maximum < minimum := Nat.lt_of_not_le possible
      rw [capacityFor, if_pos beyond, Except.error.injEq] at refused
      exact ⟨beyond, refused.symm⟩
  · rintro ⟨beyond, rfl⟩
    exact if_pos beyond

end Goals

/-- Growth is refused exactly to a need above the maximum. The doubling ends on words of 64 bits as
it does on all numbers. And a new capacity is the goal of the need cut to the maximum: it covers
the need, fits in a word of 32 bits if the maximum does, and does not shrink when the need or the
maximum grows. -/
theorem capacity_is_goal (minimum maximum : Nat) :
    (∀ error, capacityFor minimum maximum = .error error ↔
      maximum < minimum ∧ error = .capacityExceeded minimum maximum) ∧
    (∀ need : UInt64, need.toNat = minimum → minimum ≤ threshold →
      ∃ last, Doubles need 64 last ∧ last.toNat = doubled smallest minimum (by decide)) ∧
    (∀ capacity, capacityFor minimum maximum = .ok capacity ↔
      minimum ≤ maximum ∧ ∃ goal, Goal minimum goal ∧ capacity = min maximum goal) ∧
    ∀ capacity, capacityFor minimum maximum = .ok capacity →
      (minimum ≤ capacity ∧ capacity ≤ maximum) ∧
      (maximum ≤ Bytes.lengthLimit → capacity.toUInt32.toNat = capacity) ∧
      (∀ larger other, minimum ≤ larger → capacityFor larger maximum = .ok other →
        capacity ≤ other) ∧
      ∀ wider other, maximum ≤ wider → capacityFor minimum wider = .ok other →
        capacity ≤ other := by
  refine ⟨fun _ => capacityFor_eq_error, fun need same small => ?_, fun _ => capacityFor_eq_ok,
    fun capacity grown => ⟨⟨le_of_capacityFor grown, le_maximum_of_capacityFor grown⟩,
      fun fits => ?_, fun larger other more also => ?_, fun wider other more also => ?_⟩⟩
  · subst same
    exact exists_doubles 64 (Nat.le_trans small (by decide))
  · have within := le_maximum_of_capacityFor grown
    rw [Bytes.lengthLimit] at fits
    exact Nat.mod_eq_of_lt (by omega)
  · obtain ⟨_, goal, least, rfl⟩ := capacityFor_eq_ok.mp grown
    obtain ⟨_, further, next, rfl⟩ := capacityFor_eq_ok.mp also
    have rises : goal ≤ further := least.mono next more
    omega
  · obtain ⟨_, goal, least, rfl⟩ := capacityFor_eq_ok.mp grown
    obtain ⟨_, further, next, rfl⟩ := capacityFor_eq_ok.mp also
    rw [least.unique next]
    omega

/-- A need of three thresholds and one byte, near the maximum and far from it. -/
example : capacityFor 12582913 13000000 = .ok 13000000 ∧
    capacityFor 12582913 4294967295 = .ok 16777216 := by
  decide

end CursorBuffers.Growth
