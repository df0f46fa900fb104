import CursorBuffers.Proofs.Step.Effects
import CursorBuffers.Proofs.Step.Operations
import CursorBuffers.Store.Wrap

namespace CursorBuffers

variable {warrant : Warrant} {store after : Store}

namespace Store

variable {id : BufferId}

theorem steps_drop (named : warrant.touches id) (ending : warrant.ends id) :
    Steps warrant store (store.drop id) := by
  unfold drop
  split
  · exact .refl
  · rename_i buffer live
    split
    · rename_i pool leased
      exact .single (.reclaim named live leased ending)
    · rename_i unleased
      exact .single (.vacate named live unleased ending)

theorem steps_release (named : warrant.touches id) (ending : warrant.ends id)
    (freeing : warrant.frees id) : Steps warrant store (store.release id) := by
  unfold release
  split
  · exact .refl
  · rename_i buffer live
    split
    · rename_i frees
      exact .head (.free named live frees freeing) (steps_drop named ending)
    · exact steps_drop named ending

section Closing

variable {pool : PoolId} {record : Pool} {bytes key : Nat} {registry : RegistryId}

theorem steps_drainKeys {keys : List Nat}
    (served : store.identity? pool = some record.identity) :
    Steps warrant store (keys.foldl (drainKey record.registry) (store, bytes)).1 := by
  induction keys generalizing store bytes with
  | nil => exact .refl
  | cons key rest ih =>
      obtain ⟨current, found, _, _, _, registry⟩ := served_of_identity? served
      have drained : Step warrant store (drainKey record.registry (store, bytes) key).1 := by
        rw [← registry, drainKey_fst, ← drainKey_fst]
        exact .drain found
      refine .head drained (ih ?_)
      rw [identity?_of_terms? terms?_drainKey, served]

theorem steps_closePool : Steps warrant store (store.closePool pool) := by
  unfold closePool
  split
  · exact .refl
  · rename_i record found
    split
    · exact .refl
    · have closed : (store.mapPool pool (·.close)).identity? pool = some record.identity := by
        have kept : (store.mapPool pool (·.close)).identity? pool = store.identity? pool :=
          identity?_mapPool fun _ => rfl
        rw [kept, identity?_of_served found]
      exact .head .close (.tail (steps_drainKeys closed) .log)

end Closing

/-- An arena that a pool makes in advance is counted if it is queued, and leaves no trace in the
statistics if it is not. -/
theorem prefill_succ {id : PoolId} {pool : Pool} {count : Nat} :
    store.prefill id pool (count + 1) =
      match (store.registry pool.registry).offer (store.reserveIdle id pool)
        pool.settings.maxPoolSize with
      | (true, registry) =>
          (((store.stocked id pool).setRegistry pool.registry registry).mapStats id
            (·.queued pool.settings.maxBufferCapacity)).prefill id pool count
      | (false, registry) =>
          ((store.stocked id pool).setRegistry pool.registry registry).markFreed
            store.arenas.next := by
  have entry : (⟨store.arenas.next, pool.settings.maxBufferCapacity,
      pool.settings.maxBufferCapacity, id⟩ : Idle) = store.reserveIdle id pool := rfl
  have made : (store.addArena (pool.backend.allocate pool.settings.maxBufferCapacity)).mapStats id
      (·.made) = store.stocked id pool := rfl
  have size : ((store.stocked id pool).arena store.arenas.next).region.size =
      pool.settings.maxBufferCapacity := by
    simp [stocked, arena_addArena]
  have registry : (store.stocked id pool).registry pool.registry =
      store.registry pool.registry := by simp [stocked]
  have counted : ∀ current : Registry, ((store.stocked id pool).setRegistry pool.registry
      current).enterPool (store.reserveIdle id pool) = ((store.stocked id pool).setRegistry
        pool.registry current).mapStats id (·.queued pool.settings.maxBufferCapacity) := by
    intro current
    conv => rhs; rw [← size]
    rfl
  simp only [prefill, entry, made, registry_enterPool, setRegistry_enterPool, registry,
    discard_enterPool]
  simp only [counted]
  rfl

theorem steps_prefill {pool : PoolId} {record : Pool} {count : Nat} (serving : warrant.serves pool)
    (served : store.identity? pool = some record.identity) :
    Steps warrant store (store.prefill pool record count) := by
  induction count generalizing store with
  | zero => exact .refl
  | succ count ih =>
      obtain ⟨current, found, _, settings, backend, registry⟩ := served_of_identity? served
      have entry : store.reserveIdle pool current = store.reserveIdle pool record := by
        rw [reserveIdle, reserveIdle, settings]
      have made : store.stocked pool current = store.stocked pool record := by
        rw [stocked, stocked, settings, backend]
      rw [prefill_succ, ← entry, ← made, ← registry, ← settings]
      split
      · rename_i after offered
        refine .head (.stock serving found offered) (ih ?_)
        simp [served, stocked]
      · rename_i after offered
        exact .single (.overstock serving found offered)

end Store

namespace Action

variable {id : BufferId} {pool : PoolId} {record : Pool} {request : Allocation}

theorem steps_openPool {config : MemoryConfig} {settings : PoolConfig} {registry : RegistryId}
    (serving : warrant.serves store.pools.next) :
    Steps warrant store (runOn (openPool config settings registry) store).2 := by
  refine steps_bind_check fun _ valid => ?_
  cases opened : store.registries.get? registry with
  | none =>
      simp only [runOn_bind, runOn_get, opened]
      exact .refl
  | some current =>
      simp only [runOn_bind, runOn_get, opened]
      have begun : Step warrant store (store.addPool (.opened config settings registry)) :=
        .openPool valid opened
      refine .head begun (Store.steps_prefill serving ?_)
      simp [Store.identity?, Store.addPool]

theorem steps_closePool : Steps warrant store (runOn (closePool pool) store).2 := by
  rw [closePool, runOn_bind]
  cases found : store.pools.get? pool with
  | none =>
      rw [runOn_pool_none found]
  | some record =>
      rw [runOn_pool found]
      exact Store.steps_closePool

section Allocate

theorem runOn_allocatePlain {config : MemoryConfig} (valid : request.validate = .ok ()) :
    runOn (allocatePlain config request) store =
      (.ok store.buffers.next, (store.addArena ((Backend.select config).allocate
        request.capacity)).addBuffer
          (.ofAllocation request config store.arenas.next store.buffers.next)) := by
  simp only [allocatePlain, runOn_bind, runOn_check, valid]
  rfl

/-- A pool that accepts a request takes an idle arena if there is one, and else makes one. -/
theorem runOn_allocatePooled (served : store.pools.get? pool = some record)
    (valid : record.validate request = .ok ()) :
    runOn (allocatePooled pool request) store =
      let used := store.mapPool pool (·.useKey request.maxCapacity)
      match (store.registry record.registry).poll request.maxCapacity with
      | none =>
          (.ok store.buffers.next,
            (((((used.mapStats pool (·.missed)).emit
              (.poolMiss request.maxCapacity request.capacity)).addArena
                (record.backend.allocate request.capacity)).mapStats pool (·.leased))).addBuffer
                  (.leased request record.config store.arenas.next store.buffers.next pool))
      | some (idle, rest) =>
          match (store.arena idle.arena).region.reserve request.capacity with
          | .ok region =>
              (.ok store.buffers.next,
                (((((used.unqueued pool record idle rest).setRegion idle.arena region).emit
                  (.poolHit request.maxCapacity request.capacity)).mapStats pool
                    (·.leased)).addBuffer
                      (.leased request record.config idle.arena store.buffers.next pool)))
          | .error error => (.error (.memory error), used.unqueued pool record idle rest) := by
  have lookup : (store.mapPool pool (·.useKey request.maxCapacity)).registry record.registry =
      store.registry record.registry := rfl
  simp only [allocatePooled, runOn_bind, runOn_pool served, runOn_check, valid, reuse,
    mapError_ok, runOn_modify, runOn_get, lookup]
  cases (store.registry record.registry).poll request.maxCapacity with
  | none => rfl
  | some taken =>
      obtain ⟨idle, rest⟩ := taken
      simp only [runOn_bind, runOn_get, runOn_modify, runOn_check]
      have region : ((store.mapPool pool (·.useKey request.maxCapacity)).arena idle.arena).region =
          (store.arena idle.arena).region := rfl
      rw [region]
      cases (store.arena idle.arena).region.reserve request.capacity <;> rfl

theorem fresh_ofAllocation {config : MemoryConfig} {backend : Backend}
    (valid : request.validate = .ok ()) :
    (Buffer.ofAllocation request config store.arenas.next store.buffers.next).Fresh store
      (backend.allocate request.capacity) := by
  obtain ⟨capacity, reader, writer⟩ := Allocation.validate_eq_ok.mp valid
  exact ⟨rfl, rfl, rfl, Region.size_allocate.symm, rfl, rfl, rfl, rfl, rfl, reader, writer,
    capacity⟩

theorem steps_allocatePlain {config : MemoryConfig}
    (granted : warrant.grants request.maxCapacity) :
    Steps warrant store (runOn (allocatePlain config request) store).2 := by
  cases valid : request.validate with
  | error error =>
      rw [allocatePlain, runOn_bind, runOn_check, valid]
      exact .refl
  | ok _ =>
      rw [runOn_allocatePlain valid]
      exact .single (.create granted (fresh_ofAllocation valid))

theorem steps_allocatePooled (granted : warrant.grants request.maxCapacity)
    (serving : warrant.serves pool) :
    Steps warrant store (runOn (allocatePooled pool request) store).2 := by
  cases found : store.pools.get? pool with
  | none =>
      rw [allocatePooled, runOn_bind, runOn_pool_none found]
  | some record =>
      cases valid : record.validate request with
      | error error =>
          rw [allocatePooled, runOn_bind, runOn_pool found]
          simp only [runOn_bind, runOn_check, valid]
          exact .refl
      | ok _ =>
          rw [runOn_allocatePooled found valid]
          let used := store.mapPool pool (·.useKey request.maxCapacity)
          let current := record.useKey request.maxCapacity
          have served : used.pools.get? pool = some current := by
            simp [used, current, Store.mapPool, Table.get?_update, found]
          have stillValid : current.validate request = .ok () := valid
          have marked : Step warrant store used := .useKey
          cases taken : (store.registry record.registry).poll request.maxCapacity with
          | none =>
              have leased : Step warrant used _ :=
                .leaseFresh granted serving served stillValid taken
              exact .head marked (.single leased)
          | some entry =>
              obtain ⟨idle, rest⟩ := entry
              cases reserved : (store.arena idle.arena).region.reserve request.capacity with
              | ok region =>
                  simp only [reserved]
                  have leased : Step warrant used _ :=
                    .leaseIdle granted served stillValid taken reserved
                  exact .head marked (.single leased)
              | error error =>
                  simp only [reserved]
                  have lost : Step warrant used _ := .lose served taken reserved
                  exact .head marked (.single lost)

theorem steps_allocate {allocator : Allocator} (granted : warrant.grants request.maxCapacity)
    (serving : ∀ pool, allocator = .pooled pool → warrant.serves pool) :
    Steps warrant store (runOn (allocate allocator request) store).2 := by
  cases allocator with
  | plain config => exact steps_allocatePlain granted
  | pooled pool => exact steps_allocatePooled granted (serving pool rfl)

/-- A buffer that was allocated has the next number. -/
theorem eq_next_of_allocate {allocator : Allocator}
    (done : runOn (allocate allocator request) store = (.ok id, after)) :
    id = store.buffers.next := by
  cases allocator with
  | plain config =>
      cases valid : request.validate with
      | error error =>
          rw [allocate, allocatePlain, runOn_bind, runOn_check, valid] at done
          cases done
      | ok _ =>
          rw [allocate, runOn_allocatePlain valid] at done
          cases done
          rfl
  | pooled pool =>
      cases found : store.pools.get? pool with
      | none =>
          rw [allocate, allocatePooled, runOn_bind, runOn_pool_none found] at done
          cases done
      | some record =>
          cases valid : record.validate request with
          | error error =>
              rw [allocate, allocatePooled, runOn_bind, runOn_pool found] at done
              simp only [runOn_bind, runOn_check, valid] at done
              cases done
          | ok _ =>
              rw [allocate, runOn_allocatePooled found valid] at done
              simp only at done
              split at done
              · cases done
                rfl
              · split at done <;> cases done
                rfl

end Allocate

section Wrap

variable {data : Bytes} {checking : Bool}

theorem steps_fill (named : warrant.touches id) (ending : warrant.ends id) :
    Steps warrant store (runOn (fill id data) store).2 := by
  have written : Steps warrant store (runOn (writeBytes id data) store).2 := steps_writeBytes named
  rw [fill, runOn_tryCatch]
  rcases outcome : runOn (writeBytes id data) store with ⟨failure | _, between⟩
  · rw [outcome] at written
    exact written.trans (Store.steps_drop named ending)
  · rw [outcome] at written
    exact written

theorem steps_fillChunks {chunks : List Bytes} (named : warrant.touches id)
    (ending : warrant.ends id) :
    Steps warrant store (runOn (fillChunks id chunks) store).2 := by
  induction chunks generalizing store with
  | nil => exact .refl
  | cons chunk rest ih => exact steps_bind (steps_fill named ending) fun _ _ _ => ih

theorem fresh_full {region : Region} {config : MemoryConfig} :
    (Buffer.full region.size checking config store.arenas.next store.buffers.next).Fresh store
      region :=
  ⟨rfl, rfl, rfl, rfl, rfl, rfl, rfl, rfl, rfl, Nat.zero_le _, Nat.le_refl _, Nat.le_refl _⟩

theorem steps_full {region : Region} {config : MemoryConfig}
    (granted : warrant.grants region.size) :
    Steps warrant store ((store.addArena region).addBuffer
      (.full region.size checking config store.arenas.next store.buffers.next)) :=
  .single (.create granted fresh_full)

theorem steps_wrapBlock {config : MemoryConfig} (granted : warrant.grants data.size) :
    Steps warrant store (runOn (wrapBlock data config checking) store).2 := by
  rw [wrapBlock, runOn_bind, runOn_newArena]
  simp only [runOn_bind, runOn_check]
  cases data.checkBlock config with
  | error error => exact .single .addArena
  | ok _ => exact steps_full granted

theorem steps_wrapArray {config : MemoryConfig}
    (granted : data.size ≤ Bytes.lengthLimit → warrant.grants data.size) :
    Steps warrant store (runOn (wrapArray data config checking) store).2 :=
  steps_bind_check fun _ short => steps_full (granted (Bytes.checkSize_eq_ok.mp short))

variable {allocator : Allocator}

theorem steps_wrapBytes
    (covered : warrant.touches store.buffers.next ∧ warrant.ends store.buffers.next)
    (granted : data.size ≤ Bytes.lengthLimit → warrant.grants data.size)
    (serving : ∀ pool, allocator = .pooled pool → warrant.serves pool) :
    Steps warrant store (runOn (wrapBytes allocator data checking) store).2 := by
  refine steps_bind_check fun _ short => ?_
  have granted := granted (Bytes.checkSize_eq_ok.mp short)
  refine steps_bind (steps_allocate granted serving) fun id between done => ?_
  obtain ⟨named, ending⟩ : warrant.touches id ∧ warrant.ends id :=
    eq_next_of_allocate done ▸ covered
  exact steps_bind_pure (steps_fill named ending)

theorem steps_wrapHex {codec : Hex.Codec} {text : String}
    (covered : warrant.touches store.buffers.next ∧ warrant.ends store.buffers.next)
    (granted : ∀ bytes, codec.read text = .ok bytes → Array.size bytes ≤ Bytes.lengthLimit →
      warrant.grants (Array.size bytes))
    (serving : ∀ pool, allocator = .pooled pool → warrant.serves pool) :
    Steps warrant store (runOn (wrapHex codec allocator text checking) store).2 := by
  refine steps_bind_check fun bytes decoded => ?_
  exact steps_wrapBytes covered (granted bytes (eq_ok_of_mapError decoded)) serving

theorem steps_wrapChunks {chunks : List Bytes}
    (covered : warrant.touches store.buffers.next ∧ warrant.ends store.buffers.next)
    (granted : (Bytes.join chunks).size ≤ Bytes.lengthLimit →
      warrant.grants (Bytes.join chunks).size) :
    Steps warrant store (runOn (wrapChunks chunks checking) store).2 := by
  refine steps_bind_check fun _ short => ?_
  have granted := granted (Bytes.checkSize_eq_ok.mp short)
  refine steps_bind (steps_allocate granted fun _ pooled => by cases pooled)
    fun id between done => ?_
  obtain ⟨named, ending⟩ : warrant.touches id ∧ warrant.ends id :=
    eq_next_of_allocate done ▸ covered
  exact steps_bind_pure (steps_fillChunks named ending)

end Wrap

end Action

end CursorBuffers
