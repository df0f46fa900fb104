import CursorBuffers.Proofs.Closing
import CursorBuffers.Proofs.Step.Sole

namespace CursorBuffers

variable {store after : Store} {id : PoolId} {pool : Pool} {handle : BufferId} {buffer : Buffer}
variable {key : Nat} {registry : RegistryId} {command : Command}

/-- What a registry holds once it was offered something. -/
theorem Registry.queue_of_offer {earlier current : Registry} {idle : Idle} {limit : Nat}
    {accepted : Bool} (offered : earlier.offer idle limit = (accepted, current)) :
    current.queue key = if key = idle.maxCapacity ∧ (earlier.queue key).length < limit
      then earlier.queue key ++ [idle] else earlier.queue key := by
  rw [← queue_offer, offered]

namespace Store

/-- Nothing was done to any queue. -/
def SameQueues (store after : Store) : Prop :=
  ∀ registry key, (after.registry registry).queue key = (store.registry registry).queue key

/-- One queue was given these entries at its tail, and nothing was done to the others. -/
structure Gains (store : Store) (registry : RegistryId) (key : Nat) (new : List Idle)
    (after : Store) : Prop where
  queue : (after.registry registry).queue key = (store.registry registry).queue key ++ new
  others : ∀ other name, other ≠ registry ∨ name ≠ key →
    (after.registry other).queue name = (store.registry other).queue name

theorem SameQueues.of_registries (same : after.registries = store.registries) :
    store.SameQueues after :=
  fun registry key => by rw [Store.registry, same, Store.registry]

theorem SameQueues.trans {between : Store} (early : store.SameQueues between)
    (late : between.SameQueues after) : store.SameQueues after :=
  fun registry key => (late registry key).trans (early registry key)

section Offers

variable {current : Registry} {idle : Idle} {limit : Nat}

/-- A queue that is below the limit takes what it is offered. -/
theorem gains_of_accepted (opened : (store.registries.get? registry).isSome)
    (offered : (store.registry registry).offer idle limit = (true, current)) :
    ((store.registry registry).queue idle.maxCapacity).length < limit ∧
      store.Gains registry idle.maxCapacity [idle] (store.setRegistry registry current) := by
  have room : ((store.registry registry).queue idle.maxCapacity).length < limit := by
    refine Nat.lt_of_not_le fun full => ?_
    simp [Registry.offer, full] at offered
  refine ⟨room, ?_, fun other name distinct => ?_⟩
  · rw [registry_setRegistry opened, if_pos rfl, Registry.queue_of_offer offered,
      if_pos ⟨rfl, room⟩]
  · rw [registry_setRegistry opened]
    split
    · rename_i same
      rw [Registry.queue_of_offer offered,
        if_neg fun found => distinct.elim (absurd same) (absurd found.1), same]
    · rfl

theorem same_of_refused (opened : (store.registries.get? registry).isSome)
    (offered : (store.registry registry).offer idle limit = (false, current)) :
    limit ≤ ((store.registry registry).queue idle.maxCapacity).length ∧
      store.SameQueues (store.setRegistry registry current) := by
  have full : limit ≤ ((store.registry registry).queue idle.maxCapacity).length := by
    refine Nat.le_of_not_lt fun room => ?_
    simp [Registry.offer, Nat.not_le.mpr room] at offered
  refine ⟨full, fun other name => ?_⟩
  rw [registry_setRegistry opened]
  split
  · rename_i same
    have kept : current.queue name = (store.registry registry).queue name := by
      refine (Registry.queue_of_offer offered).trans (if_neg ?_)
      rintro ⟨rfl, room⟩
      exact absurd room (Nat.not_lt.mpr full)
    rw [kept, same]
  · rfl

end Offers

section Returns

/-- Whether the arena of a lease that ends is queued. -/
structure Accepts (store : Store) (handle : BufferId) (buffer : Buffer) (pool : Pool) : Prop where
  unclosed : pool.closed = false
  sole : store.Sole handle buffer
  room : ((store.registry pool.registry).queue buffer.maxCapacity).length <
    pool.settings.maxPoolSize

/-- What the end of a lease does to the queues and to the arenas. -/
structure Returned (store : Store) (handle : BufferId) (buffer : Buffer) (id : PoolId)
    (pool : Pool) (after : Store) : Prop where
  accepted : store.Accepts handle buffer pool →
    store.Gains pool.registry buffer.maxCapacity [returnIdle id buffer] after ∧
      after.arenas = store.arenas
  rejected : ¬ store.Accepts handle buffer pool → store.SameQueues after ∧
    after.arena buffer.arena = ⟨(store.arena buffer.arena).region, true⟩ ∧
    ∀ other, other ≠ buffer.arena → after.arena other = store.arena other

theorem arena_markFreed_self {arena : ArenaId} (stored : (store.arenas.get? arena).isSome) :
    (store.markFreed arena).arena arena = ⟨(store.arena arena).region, true⟩ := by
  obtain ⟨known, stored⟩ := Option.isSome_iff_exists.mp stored
  simp [Store.arena, markFreed, Table.get?_update, stored]

/-- Once a lease has ended, nobody is left on its arena if nobody else was. -/
theorem WellHeld.holders_vacate_eq_zero_iff (held : store.WellHeld)
    (live : store.buffers.get? handle = some buffer) :
    (store.vacate handle).holders buffer.arena = 0 ↔ store.Sole handle buffer := by
  rw [holders_eq_zero_iff]
  constructor
  · rintro ⟨noBuffer, _⟩ other window also same
    by_contra distinct
    refine noBuffer other window ?_ same
    rw [Store.vacate, Table.get?_vacate, if_neg distinct, also]
  · intro sole
    refine ⟨fun other window also same => ?_, fun entry inside => ?_⟩
    · rw [Store.vacate, Table.get?_vacate] at also
      split at also
      · contradiction
      · rename_i distinct
        exact distinct (sole other window also same)
    · exact fun same => held.idleApart inside live same.symm

theorem Reachable.returned_drop (reachable : store.Reachable)
    (live : store.buffers.get? handle = some buffer) (leased : buffer.recycler = some id)
    (served : store.pools.get? id = some pool) :
    store.Returned handle buffer id pool (store.drop handle) := by
  have held : store.WellHeld := reachable.wellHeld
  have opened : ((store.vacate handle).registries.get? pool.registry).isSome :=
    held.registered id pool served
  have stored : (store.arenas.get? buffer.arena).isSome :=
    reachable.covered.standing _ (held.known live)
  have intact : (store.arena buffer.arena).freed = false :=
    held.intact (.inl ⟨handle, buffer, live, rfl, by simp [leased]⟩)
  have freed : ∀ {between : Store}, between.arenas = store.arenas →
      (between.markFreed buffer.arena).arena buffer.arena =
          ⟨(store.arena buffer.arena).region, true⟩ ∧
        ∀ other, other ≠ buffer.arena →
          (between.markFreed buffer.arena).arena other = store.arena other := by
    intro between same
    refine ⟨?_, fun other distinct => ?_⟩
    · rw [arena_markFreed_self (same ▸ stored), Store.arena, same, Store.arena]
    · rw [arena_markFreed_of_ne distinct, Store.arena, same, Store.arena]
  have ended : store.drop handle = (store.vacate handle).reclaim id buffer := by
    simp only [drop, live, leased]
  have outcome : Reclaimed (store.vacate handle) id pool buffer _ := reclaim_outcome served
  rw [ended]
  generalize (store.vacate handle).reclaim id buffer = after at outcome ⊢
  cases outcome with
  | closed closed =>
      refine ⟨fun accepts => ?_, fun _ => ⟨.of_registries rfl, freed rfl⟩⟩
      exact absurd accepts.unclosed (by simp [closed])
  | unfit unclosed unfit =>
      refine ⟨fun accepts => ?_, fun _ => ⟨.of_registries rfl, freed rfl⟩⟩
      rcases unfit with gone | shared
      · exact absurd gone (by simp [intact])
      · exact absurd ((held.holders_vacate_eq_zero_iff live).mpr accepts.sole) shared
  | queued unclosed _ unheld offered =>
      obtain ⟨room, gains⟩ := gains_of_accepted opened offered
      refine ⟨fun _ => ⟨⟨gains.queue, gains.others⟩, rfl⟩, fun rejected => absurd ?_ rejected⟩
      exact ⟨unclosed, (held.holders_vacate_eq_zero_iff live).mp unheld, room⟩
  | refused unclosed _ unheld offered =>
      obtain ⟨full, same⟩ := same_of_refused opened offered
      refine ⟨fun accepts => absurd accepts.room (Nat.not_lt.mpr full), fun _ => ⟨same, ?_⟩⟩
      exact freed rfl

/-- The release of a lease, and the drop, are its end. -/
theorem Reachable.returned_run (reachable : store.Reachable)
    (live : store.buffers.get? handle = some buffer) (leased : buffer.recycler = some id)
    (served : store.pools.get? id = some pool)
    (ends : command = .release handle ∨ command = .drop handle) :
    store.Returned handle buffer id pool (store.run command).2 := by
  have pooled : buffer.pooled = true := reachable.wellHeld.leased live (by simp [leased])
  have done : store.run command = (.ok .done, store.drop handle) := by
    rcases ends with rfl | rfl
    · exact run_release live pooled
    · exact run_drop live
  rw [done]
  exact reachable.returned_drop live leased served

end Returns

section Stocks

variable {count : Nat} {config : MemoryConfig} {settings : PoolConfig}

/-- How many more arenas a pool may queue of those that it makes in advance. -/
def room (store : Store) (pool : Pool) : Nat :=
  pool.settings.maxPoolSize -
    ((store.registry pool.registry).queue pool.settings.maxBufferCapacity).length

/-- A pool that was to make some arenas in advance has made them, one after the other, until one
was refused: each is queued as long as there is room, and the one that there is no room for is
freed. -/
structure Stocked (store : Store) (id : PoolId) (pool : Pool) (count : Nat) (after : Store) :
    Prop where
  gains : store.Gains pool.registry pool.settings.maxBufferCapacity
    (store.reserves id pool (min count (store.room pool))) after
  next : after.arenas.next = store.arenas.next + min count (store.room pool + 1)
  older : ∀ arena, arena < store.arenas.next → after.arena arena = store.arena arena
  made : ∀ place, place < min count (store.room pool + 1) →
    after.arena (store.arenas.next + place) =
      ⟨pool.backend.allocate pool.settings.maxBufferCapacity, decide (store.room pool ≤ place)⟩

namespace Stocked

theorem nothing : store.Stocked id pool 0 store where
  gains := ⟨by simp [reserves], fun _ _ _ => rfl⟩
  next := by simp
  older _ _ := rfl
  made place few := absurd few (by omega)

variable {current : Registry}

/-- There is no room, and that is the end of it. -/
theorem full (opened : (store.registries.get? pool.registry).isSome)
    (offered : (store.registry pool.registry).offer (store.reserveIdle id pool)
      pool.settings.maxPoolSize = (false, current)) :
    store.Stocked id pool (count + 1) (((store.stocked id pool).setRegistry pool.registry
      current).markFreed store.arenas.next) := by
  obtain ⟨full, same⟩ := same_of_refused opened offered
  have none : store.room pool = 0 := Nat.sub_eq_zero_of_le full
  constructor
  · refine ⟨?_, fun other name _ => same other name⟩
    rw [none, Nat.min_zero, reserves, List.range'_zero, List.map_nil, List.append_nil]
    exact same _ _
  · rw [none]
    simp [stocked]
  · intro arena known
    have distinct : arena ≠ store.arenas.next := Nat.ne_of_lt known
    rw [arena_markFreed_of_ne distinct, setRegistry_frame.2.1, stocked, mapStats_frame.2.1,
      arena_addArena, if_neg distinct]
  · intro place few
    obtain rfl : place = 0 := by omega
    rw [none, Nat.add_zero, arena_markFreed_self (by simp [stocked, addArena, mapStats, mapPool]),
      setRegistry_frame.2.1, stocked, mapStats_frame.2.1, arena_addArena, if_pos rfl]
    rfl

theorem room_of_accepted (opened : (store.registries.get? pool.registry).isSome)
    (offered : (store.registry pool.registry).offer (store.reserveIdle id pool)
      pool.settings.maxPoolSize = (true, current)) :
    store.room pool = (((store.stocked id pool).setRegistry pool.registry current).mapStats id
      (·.queued pool.settings.maxBufferCapacity)).room pool + 1 := by
  obtain ⟨below, gained⟩ := gains_of_accepted opened offered
  have below : ((store.registry pool.registry).queue
      pool.settings.maxBufferCapacity).length < pool.settings.maxPoolSize := below
  have longer : ((((store.stocked id pool).setRegistry pool.registry current).mapStats id
      (·.queued pool.settings.maxBufferCapacity)).registry pool.registry).queue
        pool.settings.maxBufferCapacity =
      (store.registry pool.registry).queue pool.settings.maxBufferCapacity ++
        [store.reserveIdle id pool] := gained.queue
  simp only [Store.room, longer, List.length_append, List.length_singleton]
  omega

/-- There is room for an arena, and more may follow. -/
theorem more (opened : (store.registries.get? pool.registry).isSome)
    (offered : (store.registry pool.registry).offer (store.reserveIdle id pool)
      pool.settings.maxPoolSize = (true, current))
    (rest : (((store.stocked id pool).setRegistry pool.registry current).mapStats id
      (·.queued pool.settings.maxBufferCapacity)).Stocked id pool count after) :
    store.Stocked id pool (count + 1) after := by
  obtain ⟨-, gained⟩ := gains_of_accepted opened offered
  have room := room_of_accepted opened offered
  generalize stocks : ((store.stocked id pool).setRegistry pool.registry current).mapStats id
    (·.queued pool.settings.maxBufferCapacity) = between at rest room
  have next : between.arenas.next = store.arenas.next + 1 := by
    rw [← stocks]
    simp [stocked]
  have same : ∀ other, between.registry other =
      (store.setRegistry pool.registry current).registry other := fun other => stocks ▸ rfl
  have first : between.arena store.arenas.next =
      ⟨pool.backend.allocate pool.settings.maxBufferCapacity, false⟩ := by
    rw [← stocks, mapStats_frame.2.1, setRegistry_frame.2.1, stocked, mapStats_frame.2.1,
      arena_addArena, if_pos rfl]
  have older : ∀ arena, arena < store.arenas.next → between.arena arena = store.arena arena := by
    intro arena known
    rw [← stocks, mapStats_frame.2.1, setRegistry_frame.2.1, stocked, mapStats_frame.2.1,
      arena_addArena, if_neg (Nat.ne_of_lt known)]
  have longer : (between.registry pool.registry).queue pool.settings.maxBufferCapacity =
      (store.registry pool.registry).queue pool.settings.maxBufferCapacity ++
        [store.reserveIdle id pool] := by
    rw [same]
    exact gained.queue
  have fewer : min (count + 1) (store.room pool) = min count (between.room pool) + 1 := by omega
  constructor
  · refine ⟨?_, fun other name distinct => ?_⟩
    · rw [rest.gains.queue, longer, List.append_assoc, fewer, reserves, reserves, next,
        List.range'_succ]
      rfl
    · rw [rest.gains.others other name distinct, same]
      exact gained.others other name distinct
  · rw [rest.next, next]
    omega
  · intro arena known
    rw [rest.older arena (by omega), older arena known]
  · intro place few
    cases place with
    | zero =>
        rw [Nat.add_zero, rest.older _ (by omega), first, room]
        rfl
    | succ place =>
        have later : store.arenas.next + (place + 1) = between.arenas.next + place := by omega
        rw [later, rest.made place (by omega), room]
        simp

end Stocked

theorem stocked_prefill (opened : (store.registries.get? pool.registry).isSome) :
    store.Stocked id pool count (store.prefill id pool count) := by
  induction count generalizing store with
  | zero => exact .nothing
  | succ count ih =>
      rw [prefill_succ]
      split
      · rename_i current offered
        refine .more opened offered (ih ?_)
        simpa [stocked] using opened
      · rename_i current offered
        exact .full opened offered

/-- A pool that opens fills its queue with the arenas that it makes in advance. -/
theorem stocked_openPool (store : Store) (config : MemoryConfig) (settings : PoolConfig)
    (registry : RegistryId) :
    (∃ failure, store.run (.openPool config settings registry) = (.error failure, store)) ∨
      ∃ after, store.run (.openPool config settings registry) =
          (.ok (.pool store.pools.next), after) ∧
        (store.addPool (.opened config settings registry)).Stocked store.pools.next
          (.opened config settings registry) settings.poolSize after := by
  rcases run_openPool_cases store config settings registry with failed | ⟨opened, done⟩
  · exact .inl failed
  · exact .inr ⟨_, done, stocked_prefill opened⟩

end Stocks

end Store

end CursorBuffers
