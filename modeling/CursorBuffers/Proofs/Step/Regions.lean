import CursorBuffers.Proofs.Step.Effects
import CursorBuffers.Proofs.Storage

namespace CursorBuffers

/-- No slot of a table is vacant. -/
def Table.Standing {α : Type} (table : Table α) : Prop :=
  ∀ id, id < table.next → (table.get? id).isSome

namespace Table.Standing

variable {α : Type} {table : Table α} {entry : α}

theorem add (standing : table.Standing) : (table.add entry).Standing := by
  intro id known
  rw [get?_add]
  split
  · rfl
  · rw [next_add] at known
    exact standing id (by omega)

theorem update {id : Nat} {change : α → α} (standing : table.Standing) :
    (table.update id change).Standing := by
  intro other known
  rw [next_update] at known
  rw [get?_update]
  split
  · rename_i same
    rw [Option.isSome_map, ← same]
    exact standing other known
  · exact standing other known

end Table.Standing

variable {warrant : Warrant} {store after : Store}

namespace Store

variable {id : ArenaId} {region : Region}

theorem region_setRegion_of_stored (stored : (store.arenas.get? id).isSome) :
    ((store.setRegion id region).arena id).region = region := by
  obtain ⟨arena, stored⟩ := Option.isSome_iff_exists.mp stored
  rw [arena_setRegion stored, if_pos rfl]

theorem region_setRegion (known : id < store.arenas.next) (standing : store.arenas.Standing) :
    ((store.setRegion id region).arena id).region = region :=
  region_setRegion_of_stored (standing id known)

theorem stored_setRegion {other : ArenaId} :
    ((store.setRegion id region).arenas.get? other).isSome =
      (store.arenas.get? other).isSome := by
  simp only [setRegion, Table.get?_update]
  split
  · rename_i same
    rw [same, Option.isSome_map]
  · rfl

/-- A region is as it was, or it is the one that was set. -/
theorem region_setRegion_cases (store : Store) {other : ArenaId} :
    ((store.setRegion id region).arena other).region = (store.arena other).region ∨
      other = id ∧ ((store.setRegion id region).arena other).region = region := by
  by_cases same : other = id
  · subst same
    cases stored : store.arenas.get? other with
    | none =>
        left
        simp [arena, setRegion, Table.get?_update, stored]
    | some arena =>
        right
        rw [arena_setRegion stored, if_pos rfl]
        exact ⟨rfl, rfl⟩
  · left
    rw [arena_setRegion_of_ne same]

@[simp] theorem region_discard {idle : Idle} {other : ArenaId} :
    ((store.discard idle).arena other).region = (store.arena other).region := by
  simp [discard]

@[simp] theorem region_drainKey {registry : RegistryId} {key bytes : Nat} {other : ArenaId} :
    ((drainKey registry (store, bytes) key).1.arena other).region = (store.arena other).region := by
  apply drainKey_induction
    (motive := fun between => (between.arena other).region = (store.arena other).region)
  · simp
  · intro between idle member same
    simpa using same

@[simp] theorem region_reclaim {pool : PoolId} {buffer : Buffer} {other : ArenaId} :
    ((store.reclaim pool buffer).arena other).region = (store.arena other).region := by
  apply reclaim_induction
    (motive := fun after => (after.arena other).region = (store.arena other).region)
  · rfl
  · intro record after _ outcome
    cases outcome <;> simp

@[simp] theorem region_free {buffer : Buffer} {other : ArenaId} :
    ((store.free buffer).arena other).region = (store.arena other).region := by
  apply free_induction
    (motive := fun after => (after.arena other).region = (store.arena other).region)
  · exact fun _ => rfl
  · simp

@[simp] theorem arenas_next_drainKey {registry : RegistryId} {key bytes : Nat} :
    (drainKey registry (store, bytes) key).1.arenas.next = store.arenas.next := by
  apply drainKey_induction (motive := fun between => between.arenas.next = store.arenas.next)
  · simp
  · intro between idle member same
    simpa using same

@[simp] theorem arenas_next_reclaim {pool : PoolId} {buffer : Buffer} :
    (store.reclaim pool buffer).arenas.next = store.arenas.next := by
  apply reclaim_induction (motive := fun after => after.arenas.next = store.arenas.next)
  · rfl
  · intro record after _ outcome
    cases outcome <;> simp

@[simp] theorem arenas_next_free {buffer : Buffer} :
    (store.free buffer).arenas.next = store.arenas.next := by
  apply free_induction (motive := fun after => after.arenas.next = store.arenas.next)
  · exact fun _ => rfl
  · simp

end Store

/-- Arenas are never taken out of the table. -/
theorem Step.arenas_next_le (step : Step warrant store after) :
    store.arenas.next ≤ after.arenas.next := by
  cases step <;> simp [Store.stocked, Store.unqueued]

theorem Step.standing (step : Step warrant store after) (held : store.arenas.Standing) :
    after.arenas.Standing := by
  cases step with
  | stock serving served offered => exact held.add
  | overstock serving served offered => exact held.add.update
  | drain served =>
      apply Store.drainKey_induction (motive := fun between => between.arenas.Standing)
      · exact held
      · intro between idle member kept
        exact kept.update
  | addArena => exact held.add
  | create granted fresh => exact held.add
  | leaseFresh granted serving served valid none => exact held.add
  | leaseIdle granted served valid taken reserved => exact held.update
  | write named live guarded written => exact held.update
  | resize named live allowed accessible resized =>
      rw [Store.mapBuffer_frame.1, Store.emitGrowth_frame.1]
      exact held.update
  | free named live frees =>
      apply Store.free_induction (motive := fun after => after.arenas.Standing)
      · exact fun _ => held
      · exact fun _ => held.update
  | reclaim named live leased =>
      apply Store.reclaim_induction (motive := fun after => after.arenas.Standing)
      · exact held
      · intro pool after _ outcome
        cases outcome with
        | queued opened intact unheld offered => exact held
        | _ => exact held.update
  | _ => exact held

/-- What may become of the region of an arena. -/
inductive RegionChanged (warrant : Warrant) (store : Store) (arena : ArenaId) : Region → Prop
  | kept : RegionChanged warrant store arena (store.arena arena).region
  | added {region : Region} (new : arena = store.arenas.next) :
      RegionChanged warrant store arena region
  | written {id : BufferId} {buffer : Buffer} {index : Nat} {data : Bytes} {region : Region}
      (named : warrant.touches id) (live : store.buffers.get? id = some buffer)
      (holds : buffer.arena = arena)
      (written : (store.arena arena).region.write (buffer.offset + index) data = .ok region) :
      RegionChanged warrant store arena region
  | resized {id : BufferId} {buffer : Buffer} {capacity : Nat} {region : Region}
      (named : warrant.touches id) (live : store.buffers.get? id = some buffer)
      (holds : buffer.arena = arena) (allowed : capacity ≤ buffer.maxCapacity)
      (resized : store.resized buffer capacity = .ok region) :
      RegionChanged warrant store arena region
  | reserved {key length : Nat} {registry : RegistryId} {idle : Idle} {rest : Registry}
      {region : Region} (taken : (store.registry registry).poll key = some (idle, rest))
      (holds : idle.arena = arena) (allowed : length ≤ key)
      (reserved : (store.arena arena).region.reserve length = .ok region) :
      RegionChanged warrant store arena region

/-- A region that an arena is given, if the arena is new. -/
theorem RegionChanged.of_addArena {region : Region} {arena : ArenaId} :
    RegionChanged warrant store arena ((store.addArena region).arena arena).region := by
  rw [Store.arena_addArena]
  split
  · rename_i new
    exact .added new
  · exact .kept

theorem RegionChanged.of_setRegion {between : Store} {id arena : ArenaId} {region : Region}
    (same : (between.arena arena).region = (store.arena arena).region)
    (changed : id = arena → RegionChanged warrant store arena region) :
    RegionChanged warrant store arena ((between.setRegion id region).arena arena).region := by
  rcases between.region_setRegion_cases with kept | ⟨here, set⟩
  · rw [kept, same]
    exact .kept
  · rw [set]
    exact changed here.symm

theorem Step.region {arena : ArenaId} (step : Step warrant store after) :
    RegionChanged warrant store arena (after.arena arena).region := by
  cases step with
  | stock serving served offered => exact .of_addArena
  | overstock serving served offered =>
      rw [Store.region_markFreed]
      exact .of_addArena
  | addArena => exact .of_addArena
  | create granted fresh => exact .of_addArena
  | leaseFresh granted serving served valid none => exact .of_addArena
  | leaseIdle granted served valid taken reserved =>
      refine .of_setRegion rfl fun holds => ?_
      subst holds
      obtain ⟨_, sized, _⟩ := Pool.validate_eq_ok.mp valid
      exact .reserved taken rfl (Allocation.validate_eq_ok.mp sized).1 reserved
  | write named live guarded written =>
      refine .of_setRegion rfl fun holds => ?_
      subst holds
      exact .written named live rfl written
  | resize named live allowed accessible resized =>
      rw [Store.mapBuffer_frame.2.1, Store.emitGrowth_frame.2.1]
      exact .of_setRegion rfl fun holds => .resized named live holds allowed resized
  | drain served =>
      rw [Store.region_drainKey]
      exact .kept
  | free named live frees =>
      rw [Store.region_free]
      exact .kept
  | reclaim named live leased =>
      rw [Store.region_reclaim]
      exact .kept
  | _ => exact .kept

end CursorBuffers
