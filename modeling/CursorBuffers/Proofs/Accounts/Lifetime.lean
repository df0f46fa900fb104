import CursorBuffers.Proofs.Step.Queues
import CursorBuffers.Proofs.Step.Allocations

namespace CursorBuffers

variable {store after : Store} {id : PoolId} {pool : Pool}

namespace Store

variable {registry other : RegistryId} {current : Registry}

theorem registry_setRegistry (opened : (store.registries.get? registry).isSome) :
    (store.setRegistry registry current).registry other =
      if other = registry then current else store.registry other := by
  obtain ⟨earlier, opened⟩ := Option.isSome_iff_exists.mp opened
  simp only [Store.registry, setRegistry, Table.get?_update, opened]
  split <;> rfl

theorem registry_setRegistry_of_ne (distinct : other ≠ registry) :
    (store.setRegistry registry current).registry other = store.registry other := by
  simp only [Store.registry, setRegistry, Table.get?_update, if_neg distinct]

/-- A registry that was not yet opened was as empty as it is when it opens. -/
theorem registry_addRegistry : store.addRegistry.registry other = store.registry other := by
  simp only [Store.registry, addRegistry, Table.get?_add]
  split
  · rename_i new
    rw [Table.get?_eq_none_of_next_le (Nat.le_of_eq new.symm)]
    rfl
  · rfl

theorem registry_initial : initial.registry other = {} := by
  simp only [Store.registry, initial, Table.get?_add]
  split
  · rfl
  · rw [Table.get?_eq_none_of_next_le (Nat.zero_le _), Option.getD_none]

end Store

/-- What a pool has counted once it has made arenas in advance, of which some were queued. -/
def PoolStats.prefilled (stats : PoolStats) (made bytes : Nat) : PoolStats :=
  { stats with
    freshAllocations := stats.freshAllocations + made
    pooledBytes := stats.pooledBytes + bytes }

namespace Store

section Opening

/-- The queue entries for arenas of a pool that are numbered one after the other. -/
def reserves (store : Store) (id : PoolId) (pool : Pool) (count : Nat) : List Idle :=
  (List.range' store.arenas.next count).map fun arena =>
    ⟨arena, pool.settings.maxBufferCapacity, pool.settings.maxBufferCapacity, id⟩

/-- A pool has made arenas in advance: some were queued, and at most one was refused. -/
structure Prefilled (store : Store) (id : PoolId) (pool : Pool) (queued refused : Nat)
    (after : Store) : Prop where
  arenas : after.arenas.next = store.arenas.next + (queued + refused)
  buffers : after.buffers = store.buffers
  pools : after.pools = (store.mapStats id
    (·.prefilled (queued + refused) (queued * pool.settings.maxBufferCapacity))).pools
  entries : (after.registry pool.registry).entries.Perm
    (store.reserves id pool queued ++ (store.registry pool.registry).entries)
  others : ∀ other, other ≠ pool.registry → after.registry other = store.registry other

namespace Prefilled

variable {registry : Registry} {queued refused : Nat}

theorem nothing : store.Prefilled id pool 0 0 store where
  arenas := rfl
  buffers := rfl
  pools := by
    simp only [Nat.add_zero, Nat.zero_mul]
    exact Table.update_id.symm
  entries := .refl _
  others _ _ := rfl

/-- An arena is refused, and that is the end of it. -/
theorem full (opened : (store.registries.get? pool.registry).isSome)
    (offered : (store.registry pool.registry).offer (store.reserveIdle id pool)
      pool.settings.maxPoolSize = (false, registry)) :
    store.Prefilled id pool 0 1 (((store.stocked id pool).setRegistry pool.registry
      registry).markFreed store.arenas.next) where
  arenas := by simp [stocked]
  buffers := rfl
  pools := by
    simp only [Nat.zero_mul]
    rfl
  entries := by
    have set : ((store.stocked id pool).setRegistry pool.registry registry).registry
        pool.registry = registry := by
      rw [registry_setRegistry (by simpa [stocked] using opened), if_pos rfl]
    rw [markFreed_frame.2.2.2.1, set]
    exact Registry.entries_offer_refused offered
  others other distinct := by
    rw [markFreed_frame.2.2.2.1, registry_setRegistry_of_ne distinct]
    rfl

/-- An arena is queued, and more may follow. -/
theorem more (opened : (store.registries.get? pool.registry).isSome)
    (offered : (store.registry pool.registry).offer (store.reserveIdle id pool)
      pool.settings.maxPoolSize = (true, registry))
    (rest : (((store.stocked id pool).setRegistry pool.registry registry).mapStats id
      (·.queued pool.settings.maxBufferCapacity)).Prefilled id pool queued refused after) :
    store.Prefilled id pool (queued + 1) refused after where
  arenas := by
    rw [rest.arenas]
    simp [stocked]
    omega
  buffers := rest.buffers
  pools := by
    have counts : ∀ stats : PoolStats,
        (stats.made.queued pool.settings.maxBufferCapacity).prefilled (queued + refused)
            (queued * pool.settings.maxBufferCapacity) =
          stats.prefilled (queued + 1 + refused)
            ((queued + 1) * pool.settings.maxBufferCapacity) := by
      intro stats
      simp only [PoolStats.prefilled, PoolStats.queued, PoolStats.made, Nat.succ_mul]
      congr 1 <;> omega
    rw [rest.pools, mapStats_mapStats]
    change (((store.mapStats id (·.made)).mapStats id _).pools) = _
    rw [mapStats_mapStats]
    exact congrArg (fun change => (store.mapStats id change).pools) (funext counts)
  entries := by
    have set : ((store.stocked id pool).setRegistry pool.registry registry).registry
        pool.registry = registry := by
      rw [registry_setRegistry (by simpa [stocked] using opened), if_pos rfl]
    refine rest.entries.trans ?_
    rw [mapStats_frame.2.2.2.2.1, set]
    have gained : registry.entries.Perm
        (store.reserveIdle id pool :: (store.registry pool.registry).entries) :=
      Registry.entries_offer_accepted offered
    have next : (((store.stocked id pool).setRegistry pool.registry registry).mapStats id
        (·.queued pool.settings.maxBufferCapacity)).arenas.next = store.arenas.next + 1 := by
      simp [stocked]
    rw [reserves, reserves, next, List.range'_succ, List.map_cons, List.cons_append]
    exact (gained.append_left _).trans List.perm_middle
  others other distinct := by
    rw [rest.others other distinct, mapStats_frame.2.2.2.2.1, registry_setRegistry_of_ne distinct]
    rfl

theorem mem_idle {entry : Idle} (prefilled : store.Prefilled id pool queued refused after)
    (inside : entry ∈ after.idle) :
    entry ∈ store.idle ∨ entry ∈ store.reserves id pool queued := by
  obtain ⟨other, inside⟩ := exists_mem_entries_of_mem_idle inside
  by_cases here : other = pool.registry
  · subst here
    rcases List.mem_append.mp (prefilled.entries.mem_iff.mp inside) with new | old
    · exact .inr new
    · exact .inl (mem_idle_of_mem_entries old)
  · rw [prefilled.others other here] at inside
    exact .inl (mem_idle_of_mem_entries inside)

end Prefilled

theorem prefilled (store : Store) (id : PoolId) (pool : Pool) (count : Nat)
    (opened : (store.registries.get? pool.registry).isSome) :
    ∃ queued refused, queued ≤ count ∧
      store.Prefilled id pool queued refused (store.prefill id pool count) := by
  induction count generalizing store with
  | zero => exact ⟨0, 0, Nat.le_refl _, .nothing⟩
  | succ count ih =>
      rw [prefill_succ]
      split
      · rename_i registry offered
        have still : (((store.stocked id pool).setRegistry pool.registry registry).registries.get?
            pool.registry).isSome := by simpa [stocked] using opened
        obtain ⟨queued, refused, few, rest⟩ := ih (((store.stocked id pool).setRegistry
          pool.registry registry).mapStats id (·.queued pool.settings.maxBufferCapacity)) still
        exact ⟨queued + 1, refused, Nat.succ_le_succ few, .more opened offered rest⟩
      · rename_i registry offered
        exact ⟨0, 1, Nat.zero_le _, .full opened offered⟩

end Opening

section Closing

variable {registry other : RegistryId} {key bytes : Nat} {keys : List Nat}

/-- Empties the queues of some keys, one after the other. -/
def drainKeys (store : Store) (registry : RegistryId) (keys : List Nat) : Store :=
  (keys.foldl (drainKey registry) (store, 0)).1

theorem drainKeys_fst : (keys.foldl (drainKey registry) (store, bytes)).1 =
    store.drainKeys registry keys := by
  have same : ∀ (keys : List Nat) (one other : Store × Nat), one.1 = other.1 →
      (keys.foldl (drainKey registry) one).1 = (keys.foldl (drainKey registry) other).1 := by
    intro keys
    induction keys with
    | nil => exact fun one other equal => equal
    | cons key rest ih =>
        rintro ⟨start, one⟩ ⟨_, other⟩ rfl
        refine ih _ _ ?_
        rw [drainKey_fst, drainKey_fst]
  exact same keys _ _ rfl

theorem drainKeys_cons : store.drainKeys registry (key :: keys) =
    (drainKey registry (store, 0) key).1.drainKeys registry keys := by
  change (keys.foldl (drainKey registry) ((drainKey registry (store, 0) key).1,
    (drainKey registry (store, 0) key).2)).1 = _
  exact drainKeys_fst

/-- What every drain of a queue keeps, the drain of all keys keeps. -/
theorem drainKeys_induction {motive : Store → Prop} (start : motive store)
    (drained : ∀ between key, motive between → motive (drainKey registry (between, 0) key).1) :
    motive (store.drainKeys registry keys) := by
  induction keys generalizing store with
  | nil => exact start
  | cons key rest ih =>
      rw [drainKeys_cons]
      exact ih (drained store key start)

theorem registry_drainKey (opened : (store.registries.get? registry).isSome) :
    (drainKey registry (store, bytes) key).1.registry other =
      if other = registry then ((store.registry registry).drain key).2
      else store.registry other := by
  apply drainKey_induction (motive := fun between => between.registry other = _)
  · exact registry_setRegistry opened
  · intro between idle member same
    rw [discard_frame.2.2.1, same]

theorem isSome_drainKey : ((drainKey registry (store, bytes) key).1.registries.get? other).isSome =
    (store.registries.get? other).isSome := by
  apply drainKey_induction
    (motive := fun between => (between.registries.get? other).isSome = _)
  · exact isSome_setRegistry
  · intro between idle member same
    rw [discard_frame.2.1, same]

theorem registry_drainKeys_of_ne (opened : (store.registries.get? registry).isSome)
    (distinct : other ≠ registry) :
    (store.drainKeys registry keys).registry other = store.registry other := by
  induction keys generalizing store with
  | nil => rfl
  | cons key rest ih =>
      rw [drainKeys_cons, ih (isSome_drainKey.trans opened), registry_drainKey opened,
        if_neg distinct]

/-- The queues of the keys are empty, and the others are as they were. -/
theorem queue_drainKeys (opened : (store.registries.get? registry).isSome) :
    ((store.drainKeys registry keys).registry registry).queue key =
      if key ∈ keys then [] else (store.registry registry).queue key := by
  induction keys generalizing store with
  | nil => rfl
  | cons first rest ih =>
      rw [drainKeys_cons, ih (isSome_drainKey.trans opened), registry_drainKey opened, if_pos rfl,
        Registry.queue_drain]
      by_cases here : key = first
      · simp [here]
      · simp [here]

/-- A drain takes entries out and puts none in. -/
theorem entries_drainKeys (keys : List Nat) (opened : (store.registries.get? registry).isSome) :
    ∃ gone, (store.registry registry).entries.Perm
      (gone ++ ((store.drainKeys registry keys).registry registry).entries) := by
  induction keys generalizing store with
  | nil => exact ⟨[], .refl _⟩
  | cons key rest ih =>
      have still : ((drainKey registry (store, 0) key).1.registries.get? registry).isSome :=
        isSome_drainKey.trans opened
      obtain ⟨later, kept⟩ := ih still
      rw [registry_drainKey opened, if_pos rfl] at kept
      refine ⟨(store.registry registry).queue key ++ later, ?_⟩
      rw [drainKeys_cons, List.append_assoc, ← Registry.drain_fst]
      exact Registry.entries_drain.trans (kept.append_left _)

end Closing

section Runs

/-- A pool opens and makes arenas in advance, or nothing happens. -/
theorem run_openPool_cases (store : Store) (config : MemoryConfig) (settings : PoolConfig)
    (registry : RegistryId) :
    (∃ failure, store.run (.openPool config settings registry) = (.error failure, store)) ∨
      (store.registries.get? registry).isSome ∧
        store.run (.openPool config settings registry) = (.ok (.pool store.pools.next),
          (store.addPool (.opened config settings registry)).prefill store.pools.next
            (.opened config settings registry) settings.poolSize) := by
  simp only [run, Command.perform, Action.openPool, Action.runOn_bind, Action.runOn_check]
  cases valid : settings.validate with
  | error error => exact .inl ⟨_, rfl⟩
  | ok _ =>
      cases opened : store.registries.get? registry with
      | none =>
          simp only [Action.mapError_ok, Action.runOn_get, opened]
          exact .inl ⟨_, rfl⟩
      | some current =>
          simp only [Action.mapError_ok, Action.runOn_get, opened]
          exact .inr ⟨rfl, rfl⟩

/-- Of the arenas that it makes in advance some are queued, and at most one is refused. -/
theorem run_openPool (store : Store) (config : MemoryConfig) (settings : PoolConfig)
    (registry : RegistryId) :
    (∃ failure, store.run (.openPool config settings registry) = (.error failure, store)) ∨
      ∃ queued refused after,
        store.run (.openPool config settings registry) = (.ok (.pool store.pools.next), after) ∧
        queued ≤ settings.poolSize ∧
        (store.addPool (.opened config settings registry)).Prefilled store.pools.next
          (.opened config settings registry) queued refused after := by
  rcases run_openPool_cases store config settings registry with failed | ⟨opened, done⟩
  · exact .inl failed
  · obtain ⟨queued, refused, few, prefilled⟩ := Store.prefilled
      (store.addPool (.opened config settings registry)) store.pools.next
      (.opened config settings registry) settings.poolSize opened
    exact .inr ⟨queued, refused, _, done, few, prefilled⟩

theorem after_closePool : (store.run (.closePool id)).2 = store.closePool id := by
  simp only [run, Command.perform, Action.closePool, Action.after_bind_pure]
  rw [Action.runOn_bind]
  cases found : store.pools.get? id with
  | none => rw [Action.runOn_pool_none found, closePool, found]
  | some pool => simp only [Action.runOn_pool found, Action.runOn_modify]

/-- The first time that a pool is closed, the queues of its keys are drained. -/
theorem closePool_of_unclosed (served : store.pools.get? id = some pool)
    (unclosed : pool.closed = false) :
    ∃ event, store.closePool id =
      ((store.mapPool id (·.close)).drainKeys pool.registry pool.keys).emit event := by
  simp only [closePool, served, unclosed]
  exact ⟨_, rfl⟩

theorem closePool_of_closed (served : store.pools.get? id = some pool)
    (closed : pool.closed = true) : store.closePool id = store := by
  simp [closePool, served, closed]

/-- Nothing happens, or a pool closes and its queues are drained. -/
theorem closePool_induction {motive : Store → Prop} (same : motive store)
    (closes : ∀ pool event, store.pools.get? id = some pool → pool.closed = false →
      motive (((store.mapPool id (·.close)).drainKeys pool.registry pool.keys).emit event)) :
    motive (store.closePool id) := by
  cases found : store.pools.get? id with
  | none => rwa [closePool, found]
  | some pool =>
      cases closed : pool.closed with
      | true => rwa [closePool_of_closed found closed]
      | false =>
          obtain ⟨event, done⟩ := closePool_of_unclosed found closed
          rw [done]
          exact closes pool event found closed

theorem buffers_openPool {config : MemoryConfig} {settings : PoolConfig} {registry : RegistryId} :
    (store.run (.openPool config settings registry)).2.buffers = store.buffers := by
  rcases run_openPool store config settings registry with ⟨failure, failed⟩ |
    ⟨queued, refused, after, done, _, prefilled⟩
  · rw [failed]
  · rw [done]
    exact prefilled.buffers

theorem buffers_closePool : (store.closePool id).buffers = store.buffers := by
  apply closePool_induction (motive := fun after => after.buffers = store.buffers)
  · rfl
  · intro pool event served unclosed
    apply drainKeys_induction (motive := fun between => between.buffers = store.buffers)
    · rfl
    · intro between key same
      rw [buffers_drainKey, same]

end Runs

end Store

end CursorBuffers
