import CursorBuffers.Proofs.PooledBytes

namespace CursorBuffers

/-- Why a pool turns a request down: the first reason that applies. -/
inductive Pool.Declines (pool : Pool) (request : Allocation) : MemoryError → Prop
  | closed (closed : pool.closed = true) : Declines pool request (.illegalArgument .closed)
  | capacity (unclosed : pool.closed = false) (above : request.maxCapacity < request.capacity) :
      Declines pool request
        (.illegalArgument (.capacityAboveMax request.capacity request.maxCapacity))
  | cursors (unclosed : pool.closed = false) (sized : request.capacity ≤ request.maxCapacity)
      (misplaced : ¬ (request.readerIndex ≤ request.writerIndex ∧
        request.writerIndex ≤ request.capacity)) :
      Declines pool request
        (.outOfRange (.cursors request.readerIndex request.writerIndex request.capacity))
  | limit (unclosed : pool.closed = false) (sized : request.capacity ≤ request.maxCapacity)
      (placed : request.readerIndex ≤ request.writerIndex ∧
        request.writerIndex ≤ request.capacity)
      (above : pool.settings.maxBufferCapacity < request.maxCapacity) :
      Declines pool request (.illegalArgument
        (.aboveBufferLimit request.maxCapacity pool.settings.maxBufferCapacity))

variable {store after : Store} {id other : PoolId} {pool : Pool} {request : Allocation}
variable {error : MemoryError} {arena : ArenaId} {bytes : Bytes}

theorem Pool.validate_eq_error :
    pool.validate request = .error error ↔ pool.Declines request error := by
  constructor
  · intro declined
    simp only [validate, Allocation.validate] at declined
    split at declined
    · rename_i closed
      cases declined
      exact .closed closed
    · rename_i unclosed
      have unclosed : pool.closed = false := Bool.eq_false_iff.mpr unclosed
      split at declined
      · rename_i above
        cases declined
        exact .capacity unclosed above
      · rename_i sized
        have sized := Nat.le_of_not_lt sized
        split at declined
        · rename_i misplaced
          cases declined
          exact .cursors unclosed sized (by omega)
        · rename_i placed
          simp only [bind, Except.bind] at declined
          split at declined
          · rename_i above
            cases declined
            exact .limit unclosed sized (by omega) above
          · contradiction
  · intro declines
    cases declines with
    | closed closed => simp [validate, closed]
    | capacity unclosed above =>
        simp [validate, Allocation.validate, unclosed, above, bind, Except.bind]
    | cursors unclosed sized misplaced =>
        have misplaced : request.writerIndex < request.readerIndex ∨
            request.capacity < request.writerIndex := by omega
        simp [validate, Allocation.validate, unclosed, Nat.not_lt.mpr sized, misplaced, bind,
          Except.bind]
    | limit unclosed sized placed above =>
        have placed : ¬ (request.writerIndex < request.readerIndex ∨
            request.capacity < request.writerIndex) := by omega
        simp [validate, Allocation.validate, unclosed, Nat.not_lt.mpr sized, placed, above, bind,
          Except.bind]

theorem Registry.poll_eq_none {registry : Registry} {key : Nat} :
    registry.poll key = none ↔ registry.queue key = [] := by
  unfold poll
  split
  · rename_i empty
    simp [empty]
  · rename_i waiting
    simp [waiting]

namespace Store

/-- What a pool does with a request that it serves: it lends a new arena if no other waits for the
request, and else the one that waited longest. -/
inductive Lends (store : Store) (id : PoolId) (pool : Pool) (request : Allocation) : Store → Prop
  | new (none : (store.registry pool.registry).queue request.maxCapacity = []) :
      Lends store id pool request
        ((store.mapPool id (·.useKey request.maxCapacity)).lentNew id pool request)
  | idle {idle : Idle} {rest : Registry} {region : Region}
      (taken : (store.registry pool.registry).poll request.maxCapacity = some (idle, rest))
      (reserved : (store.arena idle.arena).region.reserve request.capacity = .ok region) :
      Lends store id pool request
        ((store.mapPool id (·.useKey request.maxCapacity)).lentIdle id pool request idle rest
          region)

/-- A request that is served is served at once: an arena that waits can always be made longer. -/
theorem Owned.lends (owned : store.Owned) (served : store.pools.get? id = some pool)
    (valid : pool.validate request = .ok ()) :
    ∃ after, Action.runOn (Action.allocate (.pooled id) request) store =
      (.ok store.buffers.next, after) ∧ store.Lends id pool request after := by
  rw [Action.allocate, Action.runOn_allocatePooled served valid]
  cases taken : (store.registry pool.registry).poll request.maxCapacity with
  | none => exact ⟨_, rfl, .new (Registry.poll_eq_none.mp taken)⟩
  | some entry =>
      obtain ⟨idle, rest⟩ := entry
      obtain ⟨region, reserved⟩ := owned.reserve request.capacity taken
      simp only [reserved]
      exact ⟨_, rfl, .idle taken reserved⟩

theorem run_allocate : store.run (.allocate (.pooled id) request) = Action.runOn
    (Action.allocate (.pooled id) request >>= fun handle => pure (.buffer handle)) store := rfl

theorem Owned.lends_run (owned : store.Owned) (served : store.pools.get? id = some pool)
    (valid : pool.validate request = .ok ()) :
    ∃ after, store.run (.allocate (.pooled id) request) =
        (.ok (.buffer store.buffers.next), after) ∧
      store.Lends id pool request after := by
  obtain ⟨after, done, lends⟩ := owned.lends served valid
  refine ⟨after, ?_, lends⟩
  rw [run_allocate, Action.runOn_bind, done]
  rfl

/-- One queue has lost its head, and nothing was done to the others. -/
structure Sheds (store : Store) (registry : RegistryId) (key : Nat) (head : Idle)
    (after : Store) : Prop where
  queue : (store.registry registry).queue key = head :: (after.registry registry).queue key
  others : ∀ other name, other ≠ registry ∨ name ≠ key →
    (after.registry other).queue name = (store.registry other).queue name

theorem sheds_lentIdle (id : PoolId) {idle : Idle} {rest : Registry} (region : Region)
    (opened : (store.registries.get? pool.registry).isSome)
    (taken : (store.registry pool.registry).poll request.maxCapacity = some (idle, rest)) :
    store.Sheds pool.registry request.maxCapacity idle
      ((store.mapPool id (·.useKey request.maxCapacity)).lentIdle id pool request idle rest
        region) := by
  obtain ⟨waiting, others⟩ := Registry.queue_poll taken
  have left : ∀ target, ((store.mapPool id (·.useKey request.maxCapacity)).lentIdle id pool
      request idle rest region).registry target =
        if target = pool.registry then rest else store.registry target :=
    fun target => registry_setRegistry opened
  constructor
  · rw [left, if_pos rfl, waiting]
  · intro other name distinct
    rw [left]
    split
    · rename_i own
      rw [own, others name (distinct.resolve_left fun foreign => foreign own)]
    · rfl

/-- A pool has lent an arena with these bytes. -/
structure Handed (store : Store) (id : PoolId) (pool : Pool) (request : Allocation)
    (arena : ArenaId) (bytes : Bytes) (after : Store) : Prop where
  live : after.buffers.get? store.buffers.next =
    some (.leased request pool.config arena store.buffers.next id)
  stored : (after.arenas.get? arena).isSome
  intact : (after.arena arena).freed = false
  bytes : (after.arena arena).region.bytes = bytes

theorem handed_lentNew :
    store.Handed id pool request store.arenas.next (Bytes.zeros request.capacity)
      ((store.mapPool id (·.useKey request.maxCapacity)).lentNew id pool request) := by
  have made : ((store.mapPool id (·.useKey request.maxCapacity)).lentNew id pool request).arena
      store.arenas.next = ⟨pool.backend.allocate request.capacity, false⟩ := by
    simp only [lentNew, addBuffer_frame, mapStats_frame, arena_addArena]
    exact if_pos rfl
  refine ⟨Table.get?_add_next, ?_, by rw [made], by rw [made, Region.bytes_allocate]⟩
  exact Option.isSome_of_eq_some Table.get?_add_next

/-- An arena that waited is as it was, and zero where it had to be made longer. -/
theorem handed_lentIdle {idle : Idle} {rest : Registry} {region : Region}
    (stored : (store.arenas.get? idle.arena).isSome)
    (intact : (store.arena idle.arena).freed = false)
    (reserved : (store.arena idle.arena).region.reserve request.capacity = .ok region) :
    store.Handed id pool request idle.arena ((store.arena idle.arena).region.bytes ++
        Bytes.zeros (request.capacity - (store.arena idle.arena).region.size))
      ((store.mapPool id (·.useKey request.maxCapacity)).lentIdle id pool request idle rest
        region) := by
  have kept : (((store.mapPool id (·.useKey request.maxCapacity)).lentIdle id pool request idle
      rest region).arena idle.arena).region = region := region_setRegion_of_stored stored
  refine ⟨Table.get?_add_next, stored_setRegion.trans stored, freed_setRegion.trans intact, ?_⟩
  rw [kept, Region.bytes_reserve reserved]

theorem runOn_allocate_of_declined (served : store.pools.get? id = some pool)
    (declined : pool.validate request = .error error) :
    Action.runOn (Action.allocate (.pooled id) request) store =
      (.error (.memory error), store) := by
  rw [Action.allocate, Action.allocatePooled, Action.runOn_bind, Action.runOn_pool served]
  simp only [Action.runOn_bind, Action.runOn_check, declined]
  rfl

/-- What the pools of a store and its queues come to when a pool has served a request. -/
inductive Granted (store : Store) (id : PoolId) (pool : Pool) (request : Allocation)
    (after : Store) : Prop
  | hit {idle : Idle} {rest : List Idle}
      (waiting : (store.registry pool.registry).queue request.maxCapacity = idle :: rest)
      (left : (after.registry pool.registry).queue request.maxCapacity = rest)
      (others : ∀ registry key, registry ≠ pool.registry ∨ key ≠ request.maxCapacity →
        (after.registry registry).queue key = (store.registry registry).queue key)
      (stats : ∀ other, after.stats? other = (store.stats? other).map fun stats => { stats with
        poolHits := stats.poolHits + if other = id then 1 else 0
        activeLeases := stats.activeLeases + if other = id then 1 else 0
        pooledBytes := stats.pooledBytes -
          if other = idle.queuedBy then store.size idle.arena else 0 })
  | miss (empty : (store.registry pool.registry).queue request.maxCapacity = [])
      (queues : ∀ registry key,
        (after.registry registry).queue key = (store.registry registry).queue key)
      (stats : ∀ other, after.stats? other = (store.stats? other).map fun stats => { stats with
        poolMisses := stats.poolMisses + if other = id then 1 else 0
        freshAllocations := stats.freshAllocations + if other = id then 1 else 0
        activeLeases := stats.activeLeases + if other = id then 1 else 0 })

namespace Lends

theorem stats_lentNew : (store.lentNew id pool request).stats? other =
    (store.stats? other).map fun stats => if other = id then stats.missed.leased else stats := by
  have same : (store.lentNew id pool request).stats? other =
      ((store.mapStats id (·.missed)).mapStats id (·.leased)).stats? other := rfl
  rw [same, mapStats_mapStats, stats?_mapStats]
  rfl

theorem stats_lentIdle {idle : Idle} {rest : Registry} {region : Region} :
    (store.lentIdle id pool request idle rest region).stats? other =
      (((store.mapStats id (·.hit)).mapStats idle.queuedBy
        (·.unqueued (store.size idle.arena))).mapStats id (·.leased)).stats? other :=
  rfl

theorem granted (lends : store.Lends id pool request after)
    (opened : (store.registries.get? pool.registry).isSome) :
    store.Granted id pool request after := by
  have asked : ∀ other, (store.mapPool id (·.useKey request.maxCapacity)).stats? other =
      store.stats? other := fun other => stats?_mapPool fun _ => rfl
  cases lends with
  | new none =>
      refine .miss none (fun _ _ => rfl) fun other => ?_
      rw [stats_lentNew, asked]
      congr 1
      funext stats
      by_cases own : other = id <;> simp [own, PoolStats.missed, PoolStats.made, PoolStats.leased]
  | @idle idle rest region taken reserved =>
      have sheds := sheds_lentIdle id region opened taken
      refine .hit sheds.queue rfl sheds.others fun other => ?_
      rw [stats_lentIdle, stats?_mapStats, stats?_mapStats, stats?_mapStats, asked,
        Option.map_map, Option.map_map]
      congr 1
      funext stats
      simp only [Function.comp_apply]
      split <;> split <;> rfl

end Lends

/-- How a pool answers a request. -/
structure Admission (store : Store) (id : PoolId) (pool : Pool) (request : Allocation) :
    Prop where
  /-- There is a reason to decline, and the first reason is the answer. -/
  fails_iff : ∀ failure, (store.run (.allocate (.pooled id) request)).1 = .error failure ↔
    ∃ error, failure = .memory error ∧ pool.Declines request error
  /-- Then nothing has changed. -/
  unchanged : ∀ failure, (store.run (.allocate (.pooled id) request)).1 = .error failure →
    (store.run (.allocate (.pooled id) request)).2 = store
  /-- Any other request is served with a new buffer. -/
  serves : ∀ answer, (store.run (.allocate (.pooled id) request)).1 = .ok answer →
    answer = .buffer store.buffers.next ∧
      store.Granted id pool request (store.run (.allocate (.pooled id) request)).2

/-- After every run, a pool answers every request in this way: it fails for the first reason that
there is, and without effect, or it serves the request from the queue of its key if it can. -/
theorem Reachable.admission (reachable : store.Reachable)
    (served : store.pools.get? id = some pool) (request : Allocation) :
    store.Admission id pool request := by
  cases valid : pool.validate request with
  | error error =>
      have failed : store.run (.allocate (.pooled id) request) =
          (.error (.memory error), store) := by
        rw [run_allocate, Action.runOn_bind, runOn_allocate_of_declined served valid]
      have declines : pool.Declines request error := Pool.validate_eq_error.mp valid
      constructor
      · intro failure
        rw [failed]
        constructor
        · intro same
          cases same
          exact ⟨error, rfl, declines⟩
        · rintro ⟨also, rfl, again⟩
          cases valid.symm.trans (Pool.validate_eq_error.mpr again)
          rfl
      · exact fun _ _ => by rw [failed]
      · intro answer done
        rw [failed] at done
        cases done
  | ok _ =>
      obtain ⟨after, answered, lends⟩ := reachable.sound.owned.lends_run served valid
      constructor
      · intro failure
        rw [answered]
        constructor
        · intro failed
          cases failed
        · rintro ⟨error, rfl, declines⟩
          cases valid.symm.trans (Pool.validate_eq_error.mpr declines)
      · intro failure failed
        rw [answered] at failed
        cases failed
      · intro answer same
        rw [answered] at same ⊢
        cases same
        exact ⟨rfl, lends.granted (reachable.wellHeld.registered id pool served)⟩

/-- A pool is asked for sixteen bytes, and another one that uses the same registry has an arena
waiting for them. -/
theorem admission_of_shared : ∃ pool,
    (initial.after [.openPool {} {} 0, .openPool {} {} 0,
      .allocate (.pooled 1) { capacity := 16 }, .drop 0]).pools.get? 0 = some pool ∧
    ((initial.after [.openPool {} {} 0, .openPool {} {} 0,
      .allocate (.pooled 1) { capacity := 16 }, .drop 0]).registry pool.registry).queue 16 ≠ [] ∧
    (initial.after [.openPool {} {} 0, .openPool {} {} 0,
      .allocate (.pooled 1) { capacity := 16 }, .drop 0]).Admission 0 pool { capacity := 16 } := by
  let commands : List Command := [.openPool {} {} 0, .openPool {} {} 0,
    .allocate (.pooled 1) { capacity := 16 }, .drop 0]
  have known : ((initial.after commands).pools.get? 0).map (·.registry) = some 0 := by decide
  obtain ⟨pool, served, uses⟩ := Option.map_eq_some_iff.mp known
  refine ⟨pool, served, ?_, Reachable.admission ⟨commands, rfl⟩ served { capacity := 16 }⟩
  rw [uses]
  decide

end Store

end CursorBuffers
