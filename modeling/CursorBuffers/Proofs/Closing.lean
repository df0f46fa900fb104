import CursorBuffers.Proofs.Accounts.Keys
import CursorBuffers.Proofs.PooledBytes

namespace CursorBuffers

variable {store after : Store} {id : PoolId} {pool : Pool} {handle : BufferId} {buffer : Buffer}
variable {command : Command}

namespace Action

variable {request : Allocation} {data : Bytes} {checking : Bool}

theorem runOn_allocate_of_closed (served : store.pools.get? id = some pool)
    (closed : pool.closed = true) : runOn (allocate (.pooled id) request) store =
      (.error (.memory (.illegalArgument .closed)), store) := by
  rw [allocate, allocatePooled, runOn_bind, runOn_pool served]
  simp only [runOn_bind, runOn_check, Pool.validate, closed]
  rfl

theorem runOn_wrapBytes_of_closed (served : store.pools.get? id = some pool)
    (closed : pool.closed = true) : ∃ fault,
      runOn (wrapBytes (.pooled id) data checking) store =
        (.error (.memory (.illegalArgument fault)), store) := by
  rw [wrapBytes, runOn_bind, runOn_check]
  by_cases short : data.size ≤ Bytes.lengthLimit
  · rw [Bytes.checkSize_eq_ok.mpr short]
    simp only [mapError_ok, runOn_bind, runOn_allocate_of_closed served closed]
    exact ⟨_, rfl⟩
  · simp only [Bytes.checkSize, if_neg short]
    exact ⟨_, rfl⟩

theorem runOn_wrapHex_of_closed {codec : Hex.Codec} {text : String}
    (served : store.pools.get? id = some pool) (closed : pool.closed = true) : ∃ fault,
      runOn (wrapHex codec (.pooled id) text checking) store =
        (.error (.memory (.illegalArgument fault)), store) := by
  rw [wrapHex, runOn_bind, runOn_check]
  cases decoded : codec.read text with
  | error fault => exact ⟨_, rfl⟩
  | ok bytes => exact runOn_wrapBytes_of_closed served closed

end Action

namespace Store

theorem run_of_closed (served : store.pools.get? id = some pool) (closed : pool.closed = true)
    (asks : command.allocator? = some (.pooled id)) :
    ∃ fault, store.run command = (.error (.memory (.illegalArgument fault)), store) := by
  have mapped : ∀ {action : Action BufferId} {value : BufferId → Answer},
      (∃ fault, action.runOn store = (.error (.memory (.illegalArgument fault)), store)) →
      ∃ fault, Action.runOn (action >>= fun result => pure (value result)) store =
        (.error (.memory (.illegalArgument fault)), store) := by
    rintro action value ⟨fault, failed⟩
    exact ⟨fault, by rw [Action.runOn_bind, failed]⟩
  cases command with
  | allocate allocator request =>
      obtain rfl : allocator = .pooled id := Option.some.inj asks
      exact mapped ⟨_, Action.runOn_allocate_of_closed served closed⟩
  | wrap source checking =>
      cases source with
      | bytes allocator content =>
          obtain rfl : allocator = .pooled id := Option.some.inj asks
          exact mapped (Action.runOn_wrapBytes_of_closed served closed)
      | hex codec allocator text =>
          obtain rfl : allocator = .pooled id := Option.some.inj asks
          exact mapped (Action.runOn_wrapHex_of_closed served closed)
      | _ => cases asks
  | _ => cases asks

/-- A lease of a closed pool ends, and its arena is freed. -/
theorem drop_of_closed (served : store.pools.get? id = some pool) (closed : pool.closed = true)
    (live : store.buffers.get? handle = some buffer) (leased : buffer.recycler = some id) :
    store.drop handle = (((store.vacate handle).mapStats id (·.ended)).mapStats id
      (·.dropped)).markFreed buffer.arena := by
  have found : (store.vacate handle).pools.get? id = some pool := served
  simp only [drop, live, leased]
  simp only [reclaim, found, closed, if_true]

theorem run_drop (live : store.buffers.get? handle = some buffer) :
    store.run (.drop handle) = (.ok .done, store.drop handle) := by
  rw [run, Command.perform, Action.runOn_bind, Action.runOn_buffer live]
  rfl

/-- The release of a pooled buffer is no more than its end. -/
theorem run_release (live : store.buffers.get? handle = some buffer)
    (pooled : buffer.pooled = true) :
    store.run (.release handle) = (.ok .done, store.drop handle) := by
  have same : store.release handle = store.drop handle := by
    simp [release, live, frees, pooled]
  rw [run, Command.perform, Action.runOn_bind, Action.runOn_buffer live, ← same]
  rfl

/-- What a pool is good for once it is closed. -/
structure Shut (store : Store) (id : PoolId) (registry : RegistryId) : Prop where
  allocates : ∀ request, store.run (.allocate (.pooled id) request) =
    (.error (.memory (.illegalArgument .closed)), store)
  serves : ∀ command, command.allocator? = some (.pooled id) →
    ∃ fault, store.run command = (.error (.memory (.illegalArgument fault)), store)
  queues : ∀ registry, ∀ entry ∈ (store.registry registry).entries, entry.queuedBy ≠ id
  bytes : ∃ stats, store.stats? id = some stats ∧ stats.pooledBytes = 0
  returns : ∀ handle buffer command, store.buffers.get? handle = some buffer →
    buffer.recycler = some id → command = .release handle ∨ command = .drop handle →
    ∃ after stats, store.run command = (.ok .done, after) ∧ after.registries = store.registries ∧
      store.stats? id = some stats ∧ after.stats? id = some { stats with
        activeLeases := stats.activeLeases - 1, discarded := stats.discarded + 1 } ∧
      ∀ other, other ≠ id → after.stats? other = store.stats? other
  alone : (∀ other record, store.pools.get? other = some record → record.registry = registry →
    other = id) → ∀ key, (store.registry registry).queue key = []

theorem Reachable.shut (reachable : store.Reachable) (served : store.pools.get? id = some pool)
    (closed : pool.closed = true) : store.Shut id pool.registry := by
  have ledger : store.Ledger := reachable.ledger
  have queues : ∀ registry, ∀ entry ∈ (store.registry registry).entries, entry.queuedBy ≠ id := by
    rintro registry entry inside rfl
    have unclosed := reachable.keyed.unclosed entry (mem_idle_of_mem_entries inside)
    simp [closed?, served, closed] at unclosed
  constructor
  · intro request
    rw [Store.run, Command.perform, Action.runOn_bind,
      Action.runOn_allocate_of_closed served closed]
  · exact fun command asks => run_of_closed served closed asks
  · exact queues
  · refine ⟨pool.stats, stats?_of_served served, ?_⟩
    rw [ledger.pooledBytes served]
    exact bytesOf_eq_zero (queues pool.registry)
  · intro handle buffer command live leased ends
    have pooled : buffer.pooled = true := ledger.sound.held.leased live (by simp [leased])
    have done : store.run command = (.ok .done, store.drop handle) := by
      rcases ends with rfl | rfl
      · exact run_release live pooled
      · exact run_drop live
    rw [drop_of_closed served closed live leased] at done
    have counted : ∀ other, ((((store.vacate handle).mapStats id (·.ended)).mapStats id
        (·.dropped)).markFreed buffer.arena).stats? other =
          (store.stats? other).map fun stats =>
            if other = id then stats.ended.dropped else stats := by
      intro other
      rw [mapStats_mapStats]
      exact stats?_mapStats
    refine ⟨_, pool.stats, done, rfl, stats?_of_served served, ?_, fun other distinct => ?_⟩
    · rw [counted, stats?_of_served served, Option.map_some, if_pos rfl]
      rfl
    · simp [counted, distinct]
  · intro sole key
    refine List.eq_nil_iff_forall_not_mem.mpr fun entry waits => ?_
    have inside := Registry.mem_entries_of_mem_queue waits
    obtain ⟨record, found, uses⟩ := ledger.filed _ entry inside
    exact queues _ entry inside (sole _ record found uses)

/-- When a pool closes, the queues of all keys are empty for which it was ever asked with success or
made arenas in advance, and from then on it is shut. -/
theorem shut_after_close {commands : List Command}
    (served : (initial.after commands).pools.get? id = some pool) (unclosed : pool.closed = false)
    (later : List Command) :
    (∀ key, (∃ handle, HandedOut commands id key handle) ∨
        pool.settings.poolSize ≠ 0 ∧ key = pool.settings.maxBufferCapacity →
      ((initial.after (commands ++ [.closePool id])).registry pool.registry).queue key = []) ∧
    (initial.after (commands ++ .closePool id :: later)).Shut id pool.registry := by
  have reached : (initial.after commands).Reachable := ⟨commands, rfl⟩
  constructor
  · intro key wanted
    have known : key ∈ pool.keys := by
      rcases wanted with ⟨handle, handed⟩ | ⟨makes, rfl⟩
      · obtain ⟨record, also, member⟩ := knows_of_handedOut handed
        cases served.symm.trans also
        exact member
      · exact reached.prepared id pool served makes
    rw [after_concat, after_closePool]
    exact queue_closePool reached.sound.held.registered served unclosed known
  · have whole : initial.after (commands ++ .closePool id :: later) =
        ((initial.after commands).closePool id).after later := by
      rw [← after_closePool, after, List.foldl_append]
      rfl
    have steps : Steps ((Command.closePool id).warrant (initial.after commands))
        (initial.after commands) ((initial.after commands).closePool id) := steps_closePool
    obtain ⟨shut, stays, followed⟩ := steps.follows id pool served
    have closed := closed?_closePool served unclosed
    rw [closed?, stays, Option.map_some, Option.some.injEq] at closed
    obtain ⟨last, found, also⟩ := follows_after later id shut stays
    rw [← whole] at found
    have final : (initial.after (commands ++ .closePool id :: later)).Reachable := ⟨_, rfl⟩
    rw [← followed.registry, ← also.registry]
    exact final.shut found (also.closed closed)

/-- Two pools share a registry. The arena that the first has queued is gone when the second closes,
which has asked for the same key; the lease that the second has out is discarded later. -/
theorem shut_after_close_of_shared :
    ((initial.after [.openPool {} {} 0, .openPool {} {} 0,
        .allocate (.pooled 1) { capacity := 16 }, .allocate (.pooled 0) { capacity := 16 },
        .drop 1]).registry 0).queue 16 ≠ [] ∧
    ((initial.after [.openPool {} {} 0, .openPool {} {} 0,
        .allocate (.pooled 1) { capacity := 16 }, .allocate (.pooled 0) { capacity := 16 },
        .drop 1, .closePool 1]).registry 0).queue 16 = [] ∧
    (initial.after [.openPool {} {} 0, .openPool {} {} 0,
        .allocate (.pooled 1) { capacity := 16 }, .allocate (.pooled 0) { capacity := 16 },
        .drop 1, .closePool 1, .drop 0]).Shut 1 0 := by
  let commands : List Command := [.openPool {} {} 0, .openPool {} {} 0,
    .allocate (.pooled 1) { capacity := 16 }, .allocate (.pooled 0) { capacity := 16 }, .drop 1]
  have handed : HandedOut commands 1 16 0 := by
    have lent : HandedOut ([.openPool {} {} 0, .openPool {} {} 0] ++
        [.allocate (.pooled 1) { capacity := 16 }]) 1 16 0 := .now rfl .allocate rfl
    exact lent.earlier.earlier
  have known : ((initial.after commands).pools.get? 1).map (fun pool =>
      (pool.closed, pool.registry)) = some (false, 0) := by decide
  obtain ⟨pool, served, same⟩ := Option.map_eq_some_iff.mp known
  obtain ⟨unclosed, uses⟩ := Prod.mk.inj same
  obtain ⟨empty, shut⟩ := shut_after_close served unclosed [.drop 0]
  rw [uses] at empty shut
  refine ⟨?_, empty 16 (.inl ⟨0, handed⟩), shut⟩
  decide

end Store

end CursorBuffers
