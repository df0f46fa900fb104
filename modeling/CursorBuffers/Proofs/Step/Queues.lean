import CursorBuffers.Proofs.Step.Effects
import CursorBuffers.Proofs.Storage

namespace CursorBuffers

variable {warrant : Warrant} {store after : Store} {registry : RegistryId} {entry : Idle}

namespace Store

variable {id : RegistryId} {current : Registry}

theorem mem_idle_of_mem_entries (inside : entry ∈ (store.registry registry).entries) :
    entry ∈ store.idle := by
  cases opened : store.registries.get? registry with
  | none =>
      rw [Store.registry, opened] at inside
      exact absurd inside List.not_mem_nil
  | some current =>
      rw [registry_of_opened opened] at inside
      exact List.mem_flatMap.mpr ⟨current, Table.mem_entries.mpr ⟨registry, opened⟩, inside⟩

theorem exists_mem_entries_of_mem_idle (inside : entry ∈ store.idle) :
    ∃ registry, entry ∈ (store.registry registry).entries := by
  obtain ⟨current, member, inside⟩ := List.mem_flatMap.mp inside
  obtain ⟨registry, opened⟩ := Table.mem_entries.mp member
  exact ⟨registry, registry_of_opened opened ▸ inside⟩

/-- A registry is as it was, or it is the one that was set. -/
theorem mem_entries_setRegistry
    (inside : entry ∈ ((store.setRegistry id current).registry registry).entries) :
    entry ∈ (store.registry registry).entries ∨ id = registry ∧ entry ∈ current.entries := by
  simp only [Store.registry, setRegistry, Table.get?_update] at inside ⊢
  split at inside
  · rename_i same
    cases opened : store.registries.get? id with
    | none =>
        rw [opened] at inside
        exact absurd inside List.not_mem_nil
    | some earlier =>
        rw [opened] at inside
        exact .inr ⟨same.symm, inside⟩
  · exact .inl inside

/-- A registry that is set to less than it held gains nothing. -/
theorem mem_entries_of_fewer
    (fewer : ∀ {other}, other ∈ current.entries → other ∈ (store.registry id).entries)
    (inside : entry ∈ ((store.setRegistry id current).registry registry).entries) :
    entry ∈ (store.registry registry).entries := by
  rcases mem_entries_setRegistry inside with old | ⟨rfl, kept⟩
  · exact old
  · exact fewer kept

/-- What a registry gains by an offer is what was offered. -/
theorem mem_entries_of_offer {idle : Idle} {limit : Nat}
    (offered : (store.registry id).offer idle limit = (true, current))
    (inside : entry ∈ ((store.setRegistry id current).registry registry).entries) :
    entry ∈ (store.registry registry).entries ∨ id = registry ∧ entry = idle := by
  rcases mem_entries_setRegistry inside with old | ⟨rfl, gained⟩
  · exact .inl old
  · have entries := (Registry.entries_offer_accepted offered).mem_iff.mp gained
    rcases List.mem_cons.mp entries with same | old
    · exact .inr ⟨rfl, same⟩
    · exact .inl old

theorem mem_entries_of_poll {key : Nat} {idle : Idle}
    (taken : (store.registry id).poll key = some (idle, current))
    (inside : entry ∈ ((store.setRegistry id current).registry registry).entries) :
    entry ∈ (store.registry registry).entries := by
  refine mem_entries_of_fewer (fun left => ?_) inside
  exact (Registry.entries_poll taken).mem_iff.mpr (List.mem_cons_of_mem _ left)

theorem mem_entries_drainKey {key : Nat}
    (inside : entry ∈ ((drainKey id (store, 0) key).1.registry registry).entries) :
    entry ∈ (store.registry registry).entries := by
  revert inside
  apply drainKey_induction (motive := fun between =>
    entry ∈ (between.registry registry).entries → entry ∈ (store.registry registry).entries)
  · refine mem_entries_of_fewer fun left => ?_
    exact Registry.entries_drain.mem_iff.mpr (List.mem_append_right _ left)
  · intro between idle member kept inside
    rw [discard_frame.2.2.1] at inside
    exact kept inside

theorem mem_entries_reclaim {pool : PoolId} {buffer : Buffer}
    (inside : entry ∈ ((store.reclaim pool buffer).registry registry).entries) :
    entry ∈ (store.registry registry).entries ∨
      ∃ record, store.pools.get? pool = some record ∧ record.registry = registry ∧
        record.closed = false ∧ entry = returnIdle pool buffer := by
  revert inside
  apply reclaim_induction (motive := fun after => entry ∈ (after.registry registry).entries →
    entry ∈ (store.registry registry).entries ∨
      ∃ record, store.pools.get? pool = some record ∧ record.registry = registry ∧
        record.closed = false ∧ entry = returnIdle pool buffer)
  · exact .inl
  · intro record after served outcome inside
    cases outcome with
    | closed closed => exact .inl inside
    | unfit unclosed unfit => exact .inl inside
    | queued unclosed intact unheld offered =>
        rcases mem_entries_of_offer offered inside with old | ⟨uses, rfl⟩
        · exact .inl old
        · exact .inr ⟨record, served, uses, unclosed, rfl⟩
    | refused unclosed intact unheld offered =>
        refine .inl (mem_entries_of_fewer (fun kept => ?_) inside)
        exact (Registry.entries_offer_refused offered).mem_iff.mp kept

end Store

/-- Where an entry of a queue comes from: it was there, or a pool of the registry made its arena in
advance, or took it back. -/
inductive Entered (warrant : Warrant) (store after : Store) (registry : RegistryId)
    (entry : Idle) : Prop
  | waiting (inside : entry ∈ (store.registry registry).entries)
  | stocked {id : PoolId} {pool : Pool} (serving : warrant.serves id)
      (served : store.pools.get? id = some pool) (uses : pool.registry = registry)
      (first : entry = store.reserveIdle id pool)
      (made : (after.arena entry.arena).region =
        pool.backend.allocate pool.settings.maxBufferCapacity)
  | returned {id : BufferId} {buffer : Buffer} {pool : PoolId} {record : Pool}
      (live : store.buffers.get? id = some buffer) (leased : buffer.recycler = some pool)
      (served : store.pools.get? pool = some record) (uses : record.registry = registry)
      (filed : entry = Store.returnIdle pool buffer)

open Store in
theorem Step.entered (step : Step warrant store after)
    (inside : entry ∈ (after.registry registry).entries) :
    Entered warrant store after registry entry := by
  cases step with
  | @stock id pool queues serving served offered =>
      have gained : entry ∈ (((store.stocked id pool).setRegistry pool.registry queues).registry
          registry).entries := inside
      rcases mem_entries_of_offer offered gained with old | ⟨uses, rfl⟩
      · exact .waiting old
      · refine .stocked serving served uses rfl ?_
        have made : ((store.stocked id pool).arena store.arenas.next).region =
            pool.backend.allocate pool.settings.maxBufferCapacity := by
          simp [stocked, arena_addArena]
        exact made
  | @overstock id pool queues serving served offered =>
      have kept : entry ∈ (((store.stocked id pool).setRegistry pool.registry queues).registry
          registry).entries := inside
      refine .waiting (mem_entries_of_fewer (fun kept => ?_) kept)
      exact (Registry.entries_offer_refused offered).mem_iff.mp kept
  | openRegistry =>
      simp only [Store.registry, addRegistry, Table.get?_add] at inside
      split at inside
      · exact absurd inside List.not_mem_nil
      · exact .waiting inside
  | drain served => exact .waiting (mem_entries_drainKey inside)
  | leaseIdle granted served valid taken reserved =>
      exact .waiting (mem_entries_of_poll taken inside)
  | lose served taken refused => exact .waiting (mem_entries_of_poll taken inside)
  | resize named live allowed accessible resized => exact .waiting (by simpa using inside)
  | free named live frees =>
      revert inside
      apply free_induction (motive := fun after => entry ∈ (after.registry registry).entries →
        Entered warrant store _ registry entry)
      · exact fun _ inside => .waiting inside
      · exact fun _ inside => .waiting inside
  | reclaim named live leased =>
      rcases mem_entries_reclaim inside with old | ⟨record, served, uses, _, filed⟩
      · exact .waiting old
      · exact .returned live leased served uses filed
  | _ => exact .waiting inside

end CursorBuffers
