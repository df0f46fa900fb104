import CursorBuffers.Proofs.Waiting.History

namespace CursorBuffers

variable {store after : Store} {id : PoolId} {pool : Pool} {count : Nat}
variable {config : MemoryConfig} {settings : PoolConfig} {registry : RegistryId}

namespace PoolConfig

theorem validate_eq_ok : settings.validate = .ok () ↔
    0 < settings.maxBufferCapacity ∧ settings.poolSize ≤ settings.maxPoolSize := by
  unfold validate
  split
  · simp
    omega
  · split
    · simp
      omega
    · simp
      omega

/-- What is wrong with settings that are not proper; of two faults the first is named. -/
theorem validate_of_improper
    (improper : settings.maxBufferCapacity = 0 ∨ settings.maxPoolSize < settings.poolSize) :
    settings.validate = .error (.illegalArgument (if settings.maxBufferCapacity = 0 then
      .noBufferLimit else .poolSizeAboveLimit settings.poolSize settings.maxPoolSize)) := by
  by_cases none : settings.maxBufferCapacity = 0
  · simp [validate, none]
  · simp [validate, none, improper.resolve_left none]

end PoolConfig

namespace Store

/-- The arenas that a pool makes in advance are counted as they are queued: those that there is
room for, and the one that is refused. -/
theorem prefilled_by_room (opened : (store.registries.get? pool.registry).isSome) :
    store.Prefilled id pool (min count (store.room pool))
      (min count (store.room pool + 1) - min count (store.room pool))
      (store.prefill id pool count) := by
  induction count generalizing store with
  | zero => exact .nothing
  | succ count ih =>
      rw [prefill_succ]
      split
      · rename_i current offered
        have still : (((store.stocked id pool).setRegistry pool.registry current).registries.get?
            pool.registry).isSome := by simpa [stocked] using opened
        have more := Prefilled.more opened offered (ih still)
        rw [Stocked.room_of_accepted opened offered, Nat.add_min_add_right, Nat.add_min_add_right,
          Nat.add_sub_add_right]
        exact more
      · rename_i current offered
        have none : store.room pool = 0 := Nat.sub_eq_zero_of_le (same_of_refused opened offered).1
        have queued : min (count + 1) (store.room pool) = 0 := by omega
        have refused : min (count + 1) (store.room pool + 1) - 0 = 1 := by omega
        rw [queued, refused]
        exact .full opened offered

theorem stats?_prefill {other : PoolId} (opened : (store.registries.get? pool.registry).isSome) :
    (store.prefill id pool count).stats? other = (store.stats? other).map fun stats =>
      if other = id then stats.prefilled (min count (store.room pool + 1))
        (min count (store.room pool) * pool.settings.maxBufferCapacity) else stats := by
  have fewer : min count (store.room pool) ≤ min count (store.room pool + 1) := by omega
  rw [stats?_congr (prefilled_by_room opened).pools, stats?_mapStats, Nat.add_sub_cancel' fewer]

/-- How many arenas a pool queues when it opens: those that it is to make in advance, as far as its
queue is below the limit. -/
def stock (store : Store) (settings : PoolConfig) (registry : RegistryId) : Nat :=
  min settings.poolSize
    (settings.maxPoolSize - ((store.registry registry).queue settings.maxBufferCapacity).length)

/-- A pool has opened, and has filled its queue. -/
structure Opened (store : Store) (settings : PoolConfig) (registry : RegistryId) (after : Store) :
    Prop where
  /-- New arenas of the largest capacity come behind those that wait already. -/
  queue : ∃ new : List Idle, new.length = store.stock settings registry ∧
    (after.registry registry).queue settings.maxBufferCapacity =
      (store.registry registry).queue settings.maxBufferCapacity ++ new ∧
    (new.map (·.arena)).Nodup ∧
    ∀ idle ∈ new, store.arenas.next ≤ idle.arena ∧ idle.queuedBy = store.pools.next ∧
      idle.maxCapacity = settings.maxBufferCapacity ∧
      after.size idle.arena = settings.maxBufferCapacity
  others : ∀ other key, other ≠ registry ∨ key ≠ settings.maxBufferCapacity →
    (after.registry other).queue key = (store.registry other).queue key
  /-- The pool has counted them, and the one that there was no room for. -/
  counted : after.stats? store.pools.next = some
    { freshAllocations := store.stock settings registry +
        if store.stock settings registry < settings.poolSize then 1 else 0
      pooledBytes := store.stock settings registry * settings.maxBufferCapacity }
  kept : ∀ other, other ≠ store.pools.next → after.stats? other = store.stats? other

theorem run_openPool_of_valid (known : (store.registries.get? registry).isSome)
    (valid : settings.validate = .ok ()) :
    store.run (.openPool config settings registry) = (.ok (.pool store.pools.next),
      (store.addPool (.opened config settings registry)).prefill store.pools.next
        (.opened config settings registry) settings.poolSize) := by
  obtain ⟨current, known⟩ := Option.isSome_iff_exists.mp known
  simp only [run, Command.perform, Action.openPool, Action.runOn_bind, Action.runOn_check, valid,
    Action.mapError_ok, Action.runOn_get, known]
  rfl

theorem run_openPool_of_invalid {error : MemoryError} (invalid : settings.validate = .error error) :
    store.run (.openPool config settings registry) = (.error (.memory error), store) := by
  simp only [run, Command.perform, Action.openPool, Action.runOn_bind, Action.runOn_check, invalid]
  rfl

theorem opened_of_prefill (known : (store.registries.get? registry).isSome) :
    store.Opened settings registry ((store.addPool (.opened config settings registry)).prefill
      store.pools.next (.opened config settings registry) settings.poolSize) := by
  let begun := store.addPool (.opened config settings registry)
  let pool := Pool.opened config settings registry
  have stocked : begun.Stocked store.pools.next pool settings.poolSize
    (begun.prefill store.pools.next pool settings.poolSize) := stocked_prefill known
  have own : begun.stats? store.pools.next = some {} := stats?_addPool.trans (if_pos rfl)
  have queued : min settings.poolSize (begun.room pool) = store.stock settings registry := rfl
  have made : min settings.poolSize (begun.room pool + 1) = store.stock settings registry +
      if store.stock settings registry < settings.poolSize then 1 else 0 := by
    rw [← queued]
    split <;> omega
  refine ⟨⟨begun.reserves store.pools.next pool (store.stock settings registry), ?_, ?_, ?_, ?_⟩,
    stocked.gains.others, ?_, fun other distinct => ?_⟩
  · simp [reserves]
  · exact stocked.gains.queue
  · simpa [reserves, Function.comp_def] using List.nodup_range'
  · intro idle inside
    obtain ⟨place, few, rfl⟩ := mem_reserves_iff.mp inside
    refine ⟨Nat.le_add_right _ _, rfl, rfl, ?_⟩
    rw [size, stocked.made place (by omega), Region.size_allocate]
    rfl
  · rw [stats?_prefill known, own, Option.map_some, if_pos rfl, made, queued]
    simp only [PoolStats.prefilled, Nat.zero_add]
    rfl
  · rw [stats?_prefill known]
    simp only [if_neg distinct, stats?_addPool, Option.map_id']

/-- Every pool that is given proper settings opens, whatever its registry holds by then. It queues
the arenas that it was to make in advance as far as there is room, behind those that wait, and no
other queue and no other pool's counters change. If there is not enough room, it has made and
counted one arena that is not queued. Improper settings are refused, and nothing changes. -/
theorem stocked_when_opened (known : (store.registries.get? registry).isSome) :
    (0 < settings.maxBufferCapacity ∧ settings.poolSize ≤ settings.maxPoolSize →
      ∃ after, store.run (.openPool config settings registry) =
        (.ok (.pool store.pools.next), after) ∧ store.Opened settings registry after) ∧
    (settings.maxBufferCapacity = 0 ∨ settings.maxPoolSize < settings.poolSize →
      store.run (.openPool config settings registry) =
        (.error (.memory (.illegalArgument (if settings.maxBufferCapacity = 0 then .noBufferLimit
          else .poolSizeAboveLimit settings.poolSize settings.maxPoolSize))), store)) :=
  ⟨fun proper => ⟨_, run_openPool_of_valid known (PoolConfig.validate_eq_ok.mpr proper),
      opened_of_prefill known⟩,
    fun improper => run_openPool_of_invalid (PoolConfig.validate_of_improper improper)⟩

/-- Two arenas wait under the key where four are allowed, and three are to be made in advance: two
of them are queued, and the third is not. -/
theorem stocked_when_opened_short : ∃ (store after : Store) (settings : PoolConfig),
    store = initial.after [.openPool {} ⟨2, 4, 16⟩ 0] ∧ settings = ⟨3, 4, 16⟩ ∧
    (store.registries.get? 0).isSome ∧
    (0 < settings.maxBufferCapacity ∧ settings.poolSize ≤ settings.maxPoolSize) ∧
    store.run (.openPool {} settings 0) = (.ok (.pool 1), after) ∧
    (store.registry 0).pooled 16 = 2 ∧ (after.registry 0).pooled 16 = 4 ∧
    after.stats? 1 = some { freshAllocations := 3, pooledBytes := 32 } := by
  let store := initial.after [.openPool {} ⟨2, 4, 16⟩ 0]
  let settings : PoolConfig := ⟨3, 4, 16⟩
  have known : (store.registries.get? 0).isSome := by decide
  have proper : 0 < settings.maxBufferCapacity ∧ settings.poolSize ≤ settings.maxPoolSize := by
    decide
  obtain ⟨after, done, opened⟩ := (stocked_when_opened known).1 proper
  have waiting : (store.registry 0).pooled 16 = 2 := by decide
  have stock : store.stock settings 0 = 2 := by decide
  refine ⟨store, after, settings, rfl, rfl, known, proper, done, waiting, ?_, ?_⟩
  · obtain ⟨new, length, queue, _⟩ := opened.queue
    have queue : (after.registry 0).queue 16 = (store.registry 0).queue 16 ++ new := queue
    rw [Registry.pooled, queue, List.length_append, ← Registry.pooled, waiting, length, stock]
  · have counted := opened.counted
    rw [stock] at counted
    exact counted

end Store

end CursorBuffers
