import CursorBuffers.Proofs.Step.Joining
import CursorBuffers.Proofs.Views.Reaching
import Mathlib.Algebra.Order.BigOperators.Group.List
import Mathlib.Algebra.Order.Ring.Nat

/-!
How long an arena is that waits in a pool. A pool hands out no more than the maximum capacity that
an arena is queued under, and the buffer that it hands out does not grow beyond that. But a window
has the maximum capacity of what it is a window on, wherever it begins, and so it can grow past the
end of its arena.
-/

namespace CursorBuffers

variable {warrant : Warrant} {store between after : Store} {id : BufferId} {buffer : Buffer}
variable {arena : ArenaId} {key : Nat}

namespace Store

/-- A pool has lent the arena out with this maximum capacity, or has queued it under it. -/
def PooledUnder (store : Store) (key : Nat) (arena : ArenaId) : Prop :=
  (∃ id buffer, store.buffers.get? id = some buffer ∧ buffer.pooled = true ∧
    buffer.arena = arena ∧ buffer.maxCapacity = key) ∨
  ∃ entry ∈ store.idle, entry.arena = arena ∧ entry.maxCapacity = key

/-- Buffers on one arena have one maximum capacity. -/
def Uniform (store : Store) : Prop :=
  ∀ first second one other, store.buffers.get? first = some one →
    store.buffers.get? second = some other → one.arena = other.arena →
    one.maxCapacity = other.maxCapacity

/-- The buffers are in order and on arenas that hold them, and with each arena goes one maximum
capacity. -/
structure Assigned (store : Store) : Prop where
  covered : store.Covered
  ordered : store.buffers.InOrder fun _ => True
  keyed : store.WellKeyed
  uniform : store.Uniform

theorem Uniform.of_older (uniform : store.Uniform)
    (older : ∀ {id buffer}, after.buffers.get? id = some buffer →
      ∃ earlier, store.buffers.get? id = some earlier ∧ earlier.Akin buffer) : after.Uniform := by
  intro first second one other firstLive secondLive same
  obtain ⟨oneEarlier, firstWas, oneAkin⟩ := older firstLive
  obtain ⟨otherEarlier, secondWas, otherAkin⟩ := older secondLive
  rw [oneAkin.arena, otherAkin.arena] at same
  rw [oneAkin.maxCapacity, otherAkin.maxCapacity]
  exact uniform _ _ _ _ firstWas secondWas same

/-- A new buffer has the maximum capacity of those that are on its arena already. -/
theorem Uniform.add (uniform : store.Uniform) (added : after.buffers = store.buffers.add buffer)
    (joins : ∀ {id other}, store.buffers.get? id = some other → other.arena = buffer.arena →
      other.maxCapacity = buffer.maxCapacity) : after.Uniform := by
  intro first second one other firstLive secondLive same
  rw [added, Table.get?_add] at firstLive secondLive
  split at firstLive <;> split at secondLive
  · cases firstLive
    cases secondLive
    rfl
  · cases firstLive
    exact (joins secondLive same.symm).symm
  · cases secondLive
    exact joins firstLive same
  · exact uniform _ _ _ _ firstLive secondLive same

end Store

theorem Step.assigned (step : Step warrant store after) (assigned : store.Assigned) :
    after.Assigned := by
  refine ⟨step.covered assigned.covered,
    step.buffers.inOrder (fun _ _ => trivial) assigned.ordered, step.wellKeyed assigned.keyed, ?_⟩
  cases step.joined assigned.covered.held with
  | nobody older => exact assigned.uniform.of_older older
  | first added origin offset role leased alone housed intact =>
      exact assigned.uniform.add added fun live same => absurd same (alone live)
  | window added named live derived arenas =>
      refine assigned.uniform.add added fun also same => ?_
      rw [(assigned.ordered _ _ live).1.maxCapacity_derived derived]
      exact assigned.uniform _ _ _ _ also live (same.trans (by cases derived <;> rfl))

theorem Store.Reachable.assigned (reachable : store.Reachable) : store.Assigned := by
  refine reachable.induction ?_ Step.assigned
  have reachable : initial.Reachable := ⟨[], rfl⟩
  refine ⟨reachable.covered, inOrder_initial, reachable.wellKeyed, ?_⟩
  intro first second one other live
  rw [Table.get?_eq_none_of_next_le (Nat.zero_le first)] at live
  contradiction

namespace Store

namespace PooledUnder

/-- A buffer on the arena of a pool has the maximum capacity that goes with it. -/
theorem maxCapacity (under : store.PooledUnder key arena) (assigned : store.Assigned)
    (live : store.buffers.get? id = some buffer) (here : buffer.arena = arena) :
    buffer.pooled = true ∧ buffer.maxCapacity = key := by
  have held : store.WellHeld := assigned.covered.held
  rcases under with ⟨other, lent, also, pooled, there, rfl⟩ | ⟨entry, inside, rfl, rfl⟩
  · have same : buffer.arena = lent.arena := here.trans there.symm
    exact ⟨(held.family live also same).2.trans pooled, assigned.uniform _ _ _ _ live also same⟩
  · exact absurd here (held.idleApart inside live)

/-- An arena that a pool takes from a queue waits there under the key that goes with it. -/
theorem key_of_poll {registry : RegistryId} {taken : Nat} {idle : Idle} {rest : Registry}
    (under : store.PooledUnder key arena) (assigned : store.Assigned)
    (polled : (store.registry registry).poll taken = some (idle, rest))
    (here : idle.arena = arena) : key = taken := by
  have held : store.WellHeld := assigned.covered.held
  have first : idle ∈ (store.registry registry).queue taken := Registry.mem_queue_of_poll polled
  have waiting : idle ∈ store.idle := mem_idle_of_mem_queue first
  rcases under with ⟨other, lent, live, _, there, _⟩ | ⟨entry, inside, there, rfl⟩
  · exact absurd (there.trans here.symm) (held.idleApart waiting live)
  · have same : entry = idle :=
      List.inj_on_of_nodup_map held.idleDistinct inside waiting (there.trans here.symm)
    rw [same]
    exact (assigned.keyed registry).maxCapacity first

theorem lt_next (under : store.PooledUnder key arena) (held : store.WellHeld) :
    arena < store.arenas.next := by
  rcases under with ⟨id, buffer, live, _, rfl, _⟩ | ⟨entry, inside, rfl, _⟩
  · exact held.known live
  · exact held.idleKnown inside

end PooledUnder

/-- What makes an arena of a pool as long as it is after some changes: it is within its key, or it
was that long before, or there is a buffer on it that begins later than the arena. -/
inductive Lengths (store after : Store) (key : Nat) (arena : ArenaId) : Prop
  | within (short : after.size arena ≤ key)
  | kept (under : store.PooledUnder key arena) (same : after.size arena = store.size arena)
  | windowed {id : BufferId} {buffer : Buffer} (live : store.buffers.get? id = some buffer)
      (pooled : buffer.pooled = true) (here : buffer.arena = arena)
      (lent : buffer.maxCapacity = key) (later : 0 < buffer.offset)

end Store

open Store

/-- An arena of a pool was one before, or it is new and within its key. -/
theorem Step.pooledUnder (step : Step warrant store after) (assigned : store.Assigned)
    (under : after.PooledUnder key arena) :
    after.size arena ≤ key ∨ store.PooledUnder key arena := by
  have held : store.WellHeld := assigned.covered.held
  rcases under with ⟨id, buffer, live, pooled, rfl, rfl⟩ | ⟨entry, inside, rfl, rfl⟩
  · cases step.joined held with
    | nobody older =>
        obtain ⟨earlier, was, akin⟩ := older live
        exact .inr (.inl ⟨id, earlier, was, akin.pooled ▸ pooled, akin.arena.symm,
          akin.maxCapacity.symm⟩)
    | window added named source derived arenas =>
        rw [added, Table.get?_add] at live
        split at live
        · cases live
          refine .inr (.inl ⟨_, _, source, ?_, ?_, ?_⟩)
          · cases derived <;> exact pooled
          · cases derived <;> rfl
          · exact ((assigned.ordered _ _ source).1.maxCapacity_derived derived).symm
        · exact .inr (.inl ⟨id, buffer, live, pooled, rfl, rfl⟩)
    | first added origin offset role leased alone housed intact =>
        have ordered := (step.assigned assigned).ordered id buffer live
        rw [added, Table.get?_add] at live
        split at live
        · cases live
          cases housed with
          | new here whole =>
              exact .inl (Nat.le_trans (Nat.le_of_eq whole) ordered.1.capacity)
          | reused taken here lent =>
              have first := Registry.mem_queue_of_poll taken
              have waiting := mem_idle_of_mem_queue first
              exact .inr (.inr ⟨_, waiting, here, (assigned.keyed _).maxCapacity first⟩)
        · exact .inr (.inl ⟨id, buffer, live, pooled, rfl, rfl⟩)
  · obtain ⟨registry, inside⟩ := exists_mem_entries_of_mem_idle inside
    cases step.entered inside with
    | waiting inside => exact .inr (.inr ⟨entry, mem_idle_of_mem_entries inside, rfl, rfl⟩)
    | stocked serving served uses first made =>
        refine .inl (Nat.le_of_eq ?_)
        rw [size, made, Region.size_allocate, first]
        rfl
    | returned live leased served uses filed =>
        subst filed
        refine .inr (.inl ⟨_, _, live, held.leased live ?_, rfl, rfl⟩)
        simp [leased]

theorem Step.lengths (step : Step warrant store after) (assigned : store.Assigned)
    (under : after.PooledUnder key arena) : store.Lengths after key arena := by
  rcases step.pooledUnder assigned under with short | was
  · exact .within short
  · have changed : RegionChanged warrant store arena (after.arena arena).region := step.region
    have length : after.size arena = (after.arena arena).region.size := rfl
    generalize (after.arena arena).region = region at changed length
    cases changed with
    | kept => exact .kept was length
    | added new => exact absurd new (Nat.ne_of_lt (was.lt_next assigned.covered.held))
    | written named live holds written =>
        exact .kept was (length.trans (Region.size_write written))
    | @resized id buffer capacity _ named live holds allowed resized =>
        subst holds
        rcases size_of_resized resized with same | reaches
        · exact .kept was (length.trans same)
        · obtain ⟨pooled, lent⟩ := was.maxCapacity assigned live rfl
          by_cases whole : buffer.offset = 0
          · rw [whole, Nat.zero_add] at reaches
            exact .within (length.trans reaches ▸ lent ▸ allowed)
          · exact .windowed live pooled rfl lent (Nat.pos_of_ne_zero whole)
    | reserved taken holds allowed reserved =>
        obtain rfl := was.key_of_poll assigned taken holds
        rw [Region.size_reserve reserved] at length
        by_cases short : store.size arena ≤ key
        · exact .within (length ▸ Nat.max_le.mpr ⟨short, allowed⟩)
        · refine .kept was (length.trans (Nat.max_eq_left ?_))
          exact Nat.le_trans allowed (Nat.le_of_not_le short)

theorem Steps.assigned (steps : Steps warrant store after) (assigned : store.Assigned) :
    after.Assigned :=
  steps.preserve assigned Step.assigned

/-- Where no window is opened, a buffer that begins later than its arena was there before. -/
theorem Steps.lengths (steps : Steps warrant store after) (assigned : store.Assigned)
    (kin : store.Kin) (barren : ∀ parent, ¬ warrant.derives parent)
    (under : after.PooledUnder key arena) : store.Lengths after key arena := by
  induction steps with
  | refl => exact .kept under rfl
  | @tail between after earlier step ih =>
      have middle : between.Assigned := Steps.assigned earlier assigned
      have related : between.Kin := Steps.preserve earlier kin Step.kin
      cases step.lengths middle under with
      | within short => exact .within short
      | kept was same =>
          cases ih was with
          | within short => exact .within (same ▸ short)
          | kept first still => exact .kept first (same.trans still)
          | windowed live pooled here lent later => exact .windowed live pooled here lent later
      | @windowed id buffer live pooled here lent later =>
          have known : id < store.buffers.next := by
            refine Nat.lt_of_not_le fun new => ?_
            rcases Steps.newer earlier (fun parent derives => absurd derives (barren parent)) new
              live with ⟨own, _⟩ | ⟨parent, _, derives, _⟩
            · exact Nat.ne_of_gt later (related.whole live own)
            · exact absurd derives (barren parent)
          obtain ⟨first, was, akin⟩ := Steps.older earlier known live
          exact .windowed was (akin.pooled ▸ pooled) (akin.arena.symm.trans here)
            (akin.maxCapacity.symm.trans lent) (akin.offset ▸ later)

namespace Store

variable {command : Command} {parent : BufferId} {source : Buffer}

/-- A window brings no other maximum capacity to the arena that it is opened on. -/
theorem PooledUnder.of_opened {view : Buffer} (under : after.PooledUnder key arena)
    (assigned : after.Assigned) (kin : after.Kin) (live : store.buffers.get? parent = some source)
    (origin : view.origin = source.origin) (opened : Opened store view after) :
    store.PooledUnder key arena ∧ after.size arena = store.size arena := by
  cases opened with
  | refused => exact ⟨under, rfl⟩
  | added =>
      refine ⟨?_, rfl⟩
      rcases under with ⟨id, buffer, also, pooled, rfl, rfl⟩ | ⟨entry, inside, here, same⟩
      · have stays : (store.addBuffer view).buffers.get? parent = some source :=
          Table.get?_add_of_get? live
        have found := also
        simp only [addBuffer, Table.get?_add] at found
        split at found
        · cases found
          have shared : view.arena = source.arena := (kin.alike stays also origin).1
          refine .inl ⟨parent, source, live, ?_, shared.symm, ?_⟩
          · exact (assigned.covered.held.family stays also shared.symm).2.trans pooled
          · exact assigned.uniform _ _ _ _ stays also shared.symm
        · exact .inl ⟨id, buffer, found, pooled, rfl, rfl⟩
      · exact .inr ⟨entry, inside, here, same⟩

/-- What makes an arena of a pool as long as it is after a command. -/
theorem Reachable.lengths_run (reachable : store.Reachable)
    (under : (store.run command).2.PooledUnder key arena) :
    store.Lengths (store.run command).2 key arena := by
  by_cases views : ∃ parent source, store.buffers.get? parent = some source ∧
      command.Views parent
  · obtain ⟨parent, source, live, request, rfl, view⟩ := views
    obtain ⟨window, opens, opened⟩ := opened_run view live
    obtain ⟨_, _, origin, _⟩ := BufferCommand.start_of_window? opens
    obtain ⟨was, same⟩ :=
      under.of_opened reachable.run.assigned reachable.run.kin live origin opened
    exact .kept was same
  · refine steps_run.lengths reachable.assigned reachable.kin ?_ under
    rintro parent ⟨live, asked⟩
    obtain ⟨source, live⟩ := Option.isSome_iff_exists.mp live
    exact views ⟨parent, source, live, asked⟩

end Store

/-- In the course of the commands there was a window on the arena, at most as large as the key, that
began at `base` and ended where the arena now ends. -/
def Stretched (commands : List Command) (key : Nat) (arena : ArenaId) (base : Nat) : Prop :=
  ∃ before rest id window root, commands = before ++ rest ∧
    (Store.initial.after before).buffers.get? id = some window ∧ window.arena = arena ∧
    window.capacity ≤ key ∧ Descent before id root base ∧
    (Store.initial.after commands).size arena = base + window.capacity

theorem Stretched.concat {commands : List Command} {command : Command} {base : Nat}
    (stretched : Stretched commands key arena base)
    (same : (Store.initial.after (commands ++ [command])).size arena =
      (Store.initial.after commands).size arena) :
    Stretched (commands ++ [command]) key arena base := by
  obtain ⟨before, rest, id, window, root, rfl, live, here, allowed, descent, ends⟩ := stretched
  exact ⟨before, rest ++ [command], id, window, root, List.append_assoc .., live, here, allowed,
    descent, same.trans ends⟩

namespace Store

variable {commands : List Command} {command : Command} {registry : RegistryId}

/-- Where a buffer ends at the end of the arena of a pool, the arena is within its key, or else the
buffer begins later. -/
theorem length_of_reaches (under : (initial.after commands).PooledUnder key arena)
    (reaches : (initial.after commands).Reaches id buffer) (here : buffer.arena = arena) :
    (initial.after commands).size arena ≤ key ∨
      ∃ base, 0 < base ∧ Stretched commands key arena base := by
  obtain ⟨live, ends⟩ := reaches
  have assigned : (initial.after commands).Assigned := Reachable.assigned ⟨commands, rfl⟩
  have allowed : buffer.capacity ≤ key :=
    (under.maxCapacity assigned live here).2 ▸ (assigned.ordered _ _ live).1.capacity
  rw [here] at ends
  by_cases whole : buffer.offset = 0
  · rw [whole, Nat.zero_add] at ends
    exact .inl (ends ▸ allowed)
  · exact .inr ⟨buffer.offset, Nat.pos_of_ne_zero whole, commands, [], id, buffer, buffer.origin,
      (List.append_nil _).symm, live, here, allowed, .of_live live, ends.symm⟩

theorem length_of_pooled (under : (initial.after commands).PooledUnder key arena) :
    (initial.after commands).size arena ≤ key ∨
      ∃ base, 0 < base ∧ Stretched commands key arena base := by
  induction commands using List.reverseRecOn with
  | nil =>
      rcases under with ⟨id, buffer, live, _⟩ | ⟨entry, inside, _⟩
      · rw [after_nil, Table.get?_eq_none_of_next_le (Nat.zero_le id)] at live
        contradiction
      · exact absurd inside List.not_mem_nil
  | append_singleton commands command ih =>
      have reachable : (initial.after commands).Reachable := ⟨_, rfl⟩
      have kept : (initial.after (commands ++ [command])).size arena =
            (initial.after commands).size arena → (initial.after commands).PooledUnder key arena →
          (initial.after (commands ++ [command])).size arena ≤ key ∨
            ∃ base, 0 < base ∧ Stretched (commands ++ [command]) key arena base := by
        intro same was
        rcases ih was with short | ⟨base, positive, stretched⟩
        · exact .inl (same ▸ short)
        · exact .inr ⟨base, positive, stretched.concat same⟩
      have now := under
      rw [after_concat] at now
      cases reachable.lengths_run now with
      | within short => exact .inl (by rw [after_concat]; exact short)
      | kept was same => exact kept (by rw [after_concat, same]) was
      | windowed live pooled here lent later =>
          rcases reachable.stretches_run live with same | ⟨id, taker, reaches, there⟩
          · rw [here] at same
            exact kept (by rw [after_concat, same]) (.inl ⟨_, _, live, pooled, here, lent⟩)
          · rw [← after_concat] at reaches
            exact length_of_reaches under reaches (there.trans here)

/-- What waits in a queue is as long as its key allows, but for what windows have stretched. -/
structure Confined (commands : List Command) (registry : RegistryId) (key : Nat) : Prop where
  /-- An arena is no longer than the key, unless a window that began later in it has once ended
  where the arena now ends. -/
  entry : ∀ entry ∈ ((initial.after commands).registry registry).queue key,
    (initial.after commands).size entry.arena ≤ key ∨
      ∃ base, 0 < base ∧ Stretched commands key entry.arena base
  /-- If no such window began later than at `reach`, the arenas hold at most that much more each. -/
  bytes : ∀ reach, (∀ entry ∈ ((initial.after commands).registry registry).queue key,
      ∀ base, Stretched commands key entry.arena base → base ≤ reach) →
    ((((initial.after commands).registry registry).queue key).map fun entry =>
      (initial.after commands).size entry.arena).sum ≤
        ((initial.after commands).registry registry).pooled key * (key + reach)

/-- The arenas that wait under a key, in any registry and after any run, are confined by the key. -/
theorem confined_after : Confined commands registry key := by
  have reachable : (initial.after commands).Reachable := ⟨commands, rfl⟩
  have length : ∀ entry ∈ ((initial.after commands).registry registry).queue key,
      (initial.after commands).size entry.arena ≤ key ∨
        ∃ base, 0 < base ∧ Stretched commands key entry.arena base := by
    intro entry inside
    have waiting := mem_idle_of_mem_queue inside
    have filed := (reachable.wellKeyed registry).maxCapacity inside
    exact length_of_pooled (.inr ⟨entry, waiting, rfl, filed⟩)
  refine ⟨length, fun reach near => ?_⟩
  have each : ∀ bytes ∈ (((initial.after commands).registry registry).queue key).map fun entry =>
      (initial.after commands).size entry.arena, bytes ≤ key + reach := by
    intro bytes inside
    obtain ⟨entry, member, rfl⟩ := List.mem_map.mp inside
    rcases length entry member with short | ⟨base, _, stretched⟩
    · exact Nat.le_trans short (Nat.le_add_right key reach)
    · have begins := near entry member base stretched
      obtain ⟨_, _, _, window, _, _, _, _, allowed, _, ends⟩ := stretched
      omega
  have total := List.sum_le_card_nsmul _ _ each
  rwa [List.length_map, Nat.nsmul_eq_mul] at total

/-- A pool lends out sixteen bytes, and a slice of the last eight of them grows by eight. -/
def stretchedBySlice : List Command :=
  [.openPool {} { poolSize := 0, maxPoolSize := 64, maxBufferCapacity := 65536 } sharedRegistry,
    .allocate (.pooled 0) { capacity := 16 }, .onBuffer 0 (.sliceRange 8 8),
    .onBuffer 1 (.setCapacity 16), .drop 1, .release 0]

/-- The arena comes back longer than the key that it waits under. -/
theorem not_confined_by_key :
    ¬ ∀ (commands : List Command) (registry : RegistryId) (key : Nat) (entry : Idle),
      entry ∈ ((initial.after commands).registry registry).queue key →
      (initial.after commands).size entry.arena ≤ key := by
  intro confined
  have within := confined stretchedBySlice sharedRegistry 16 ⟨0, 16, 16, 0⟩ (by decide +kernel)
  revert within
  decide +kernel

end Store

end CursorBuffers
