import CursorBuffers.Store.Allocate

namespace CursorBuffers.Store

variable {store : Store} {buffer : Buffer}

/-- The queue entry for the arena of a buffer whose lease has ended. -/
def returnIdle (id : PoolId) (buffer : Buffer) : Idle :=
  ⟨buffer.arena, buffer.capacity, buffer.maxCapacity, id⟩

/-- The outcomes of a return to an existing pool. -/
inductive Reclaimed (store : Store) (id : PoolId) (pool : Pool) (buffer : Buffer) : Store → Prop
  | closed (closed : pool.closed = true) :
      Reclaimed store id pool buffer
        (((store.mapStats id (·.ended)).mapStats id (·.dropped)).markFreed buffer.arena)
  | unfit (opened : pool.closed = false)
      (unfit : (store.arena buffer.arena).freed = true ∨ store.holders buffer.arena ≠ 0) :
      Reclaimed store id pool buffer
        ((((store.mapStats id (·.ended)).emit
          (.stillShared buffer.capacity buffer.maxCapacity)).mapStats id (·.dropped)).markFreed
            buffer.arena)
  | queued {registry : Registry} (opened : pool.closed = false)
      (intact : (store.arena buffer.arena).freed = false) (unheld : store.holders buffer.arena = 0)
      (offered : (store.registry pool.registry).offer (returnIdle id buffer)
        pool.settings.maxPoolSize = (true, registry)) :
      Reclaimed store id pool buffer
        ((((store.mapStats id (·.ended)).setRegistry pool.registry registry).mapStats id
          fun stats => (stats.queued (store.arena buffer.arena).region.size).kept).emit
            (.returned buffer.maxCapacity (store.arena buffer.arena).region.size))
  | refused {registry : Registry} (opened : pool.closed = false)
      (intact : (store.arena buffer.arena).freed = false) (unheld : store.holders buffer.arena = 0)
      (offered : (store.registry pool.registry).offer (returnIdle id buffer)
        pool.settings.maxPoolSize = (false, registry)) :
      Reclaimed store id pool buffer
        (((((store.mapStats id (·.ended)).setRegistry pool.registry registry).mapStats id
          (·.dropped)).emit (.queueFull buffer.maxCapacity pool.settings.maxPoolSize)).markFreed
            buffer.arena)

section Counting

variable {idle : Idle} {change : PoolStats → PoolStats}

theorem registry_enterPool {registry : RegistryId} :
    (store.enterPool idle).registry registry = store.registry registry := rfl

/-- The count of an arena that is about to be queued may be told after other changes. -/
theorem setRegistry_enterPool {id : RegistryId} {registry : Registry} :
    (store.enterPool idle).setRegistry id registry =
      (store.setRegistry id registry).enterPool idle := rfl

theorem mapStats_enterPool {id : PoolId} (own : idle.queuedBy = id)
    (commutes : ∀ stats bytes, change (stats.queued bytes) = (change stats).queued bytes) :
    (store.enterPool idle).mapStats id change = (store.mapStats id change).enterPool idle := by
  subst own
  have size : ((store.mapStats idle.queuedBy change).arena idle.arena).region.size =
      (store.arena idle.arena).region.size := rfl
  rw [enterPool, enterPool, size, mapStats_mapStats, mapStats_mapStats]
  exact congrArg (store.mapStats idle.queuedBy) (funext fun stats => commutes stats _)

theorem emit_enterPool {event : Event} :
    (store.enterPool idle).emit event = (store.emit event).enterPool idle := rfl

/-- An arena that is counted and then refused leaves no trace in the statistics. -/
theorem discard_enterPool : (store.enterPool idle).discard idle = store.markFreed idle.arena := by
  have counts : ∀ (stats : PoolStats) (bytes : Nat),
      (stats.queued bytes).unqueued bytes = stats := by
    intro stats bytes
    simp only [PoolStats.queued, PoolStats.unqueued, Nat.add_sub_cancel]
  have size : ((store.enterPool idle).arena idle.arena).region.size =
      (store.arena idle.arena).region.size := rfl
  rw [discard, size, enterPool, mapStats_mapStats]
  simp only [Function.comp_def, counts]
  exact congrArg (fun pools => { store with pools := pools }.markFreed idle.arena) Table.update_id

end Counting

theorem reclaim_outcome {id : PoolId} {pool : Pool} (served : store.pools.get? id = some pool) :
    Reclaimed store id pool buffer (store.reclaim id buffer) := by
  simp only [reclaim, served]
  split
  · rename_i closed
    exact .closed closed
  · rename_i opened
    have opened : pool.closed = false := Bool.eq_false_iff.mpr opened
    split
    · rename_i unfit
      exact .unfit opened (by simpa using unfit)
    · rename_i fit
      simp only [Bool.or_eq_true, bne_iff_ne, not_or, Bool.not_eq_true, Decidable.not_not] at fit
      have entry : (⟨buffer.arena, buffer.capacity, buffer.maxCapacity, id⟩ : Idle) =
          returnIdle id buffer := rfl
      simp only [entry, registry_enterPool, setRegistry_enterPool, mapStats_frame]
      split
      · rename_i registry offered
        rw [enterPool, returnIdle, mapStats_mapStats]
        exact .queued opened fit.1 fit.2 offered
      · rename_i registry offered
        have own : (returnIdle id buffer).queuedBy = id := rfl
        have counts : ∀ (stats : PoolStats) (bytes : Nat),
            (stats.queued bytes).dropped = stats.dropped.queued bytes := fun _ _ => rfl
        rw [mapStats_enterPool own counts, emit_enterPool, discard_enterPool]
        exact .refused opened fit.1 fit.2 offered

/-- What holds of the store as it is, and of every outcome, holds after a return. -/
theorem reclaim_induction {motive : Store → Prop} {id : PoolId} (unserved : motive store)
    (served : ∀ pool after, store.pools.get? id = some pool →
      Reclaimed store id pool buffer after → motive after) :
    motive (store.reclaim id buffer) := by
  cases found : store.pools.get? id with
  | none => simpa [reclaim, found] using unserved
  | some pool => exact served pool _ found (reclaim_outcome found)

/-- A release that frees an arena marks it, unless it is marked. -/
theorem free_induction {motive : Store → Prop}
    (kept : (store.arena buffer.arena).freed = true → motive store)
    (marked : ∀ event, motive ((store.markFreed buffer.arena).emit event)) :
    motive (store.free buffer) := by
  unfold free
  by_cases freed : (store.arena buffer.arena).freed = true
  · simpa [freed] using kept freed
  · simpa [freed] using marked _

section Drain

variable {registry : RegistryId} {key bytes : Nat}

@[simp] theorem discard_frame {idle : Idle} :
    (store.discard idle).buffers = store.buffers ∧
      (store.discard idle).registries = store.registries ∧
      (∀ other, (store.discard idle).registry other = store.registry other) ∧
      (store.discard idle).idle = store.idle ∧
      (store.discard idle).arenas.next = store.arenas.next := by
  simp [discard]

/-- Frees idle arenas that left their queues, one after the other. -/
def discards (store : Store) (waiting : List Idle) : Store := waiting.foldl discard store

theorem drainKey_fst : (drainKey registry (store, bytes) key).1 =
    (store.setRegistry registry ((store.registry registry).drain key).2).discards
      ((store.registry registry).queue key) := by
  have all : ∀ (waiting : List Idle) (state : Store × Nat),
      (waiting.foldl (fun state idle =>
        (state.1.discard idle, state.2 + (state.1.arena idle.arena).region.size)) state).1 =
        state.1.discards waiting := by
    intro waiting
    induction waiting with
    | nil => exact fun state => rfl
    | cons idle rest ih => exact fun state => ih _
  rw [← Registry.drain_fst]
  exact all _ _

/-- What holds once the queue is empty, and is kept when an arena that was in it is freed, holds
when it is drained. -/
theorem drainKey_induction {motive : Store → Prop}
    (emptied : motive (store.setRegistry registry ((store.registry registry).drain key).2))
    (discarded : ∀ (between : Store) (idle : Idle), idle ∈ (store.registry registry).queue key →
      motive between → motive (between.discard idle)) :
    motive (drainKey registry (store, bytes) key).1 := by
  rw [drainKey_fst]
  generalize store.setRegistry registry ((store.registry registry).drain key).2 = start at emptied
  generalize (store.registry registry).queue key = waiting at discarded
  induction waiting generalizing start with
  | nil => exact emptied
  | cons idle rest ih =>
      refine ih (start.discard idle) (discarded start idle List.mem_cons_self emptied) ?_
      exact fun between other member => discarded between other (List.mem_cons_of_mem _ member)

end Drain

end CursorBuffers.Store
