import CursorBuffers.Proofs.Waiting.Turnover

namespace CursorBuffers

variable {warrant : Warrant} {store after : Store} {id : PoolId} {pool : Pool}
variable {registry : RegistryId} {key : Nat} {handle : BufferId} {buffer : Buffer}

namespace Store

/-- The limits of the pools that use a registry. -/
def limits (store : Store) (registry : RegistryId) : List Nat :=
  (store.pools.entries.filter (·.registry = registry)).map (·.settings.maxPoolSize)

/-- The largest of the limits, or 0 if no pool uses the registry. -/
def largestLimit (store : Store) (registry : RegistryId) : Nat :=
  (store.limits registry).max?.getD 0

theorem mem_limits {limit : Nat} : limit ∈ store.limits registry ↔
    ∃ id pool, store.pools.get? id = some pool ∧ pool.registry = registry ∧
      pool.settings.maxPoolSize = limit := by
  simp only [limits, List.mem_map, List.mem_filter, Table.mem_entries, decide_eq_true_eq]
  constructor
  · rintro ⟨pool, ⟨⟨id, served⟩, uses⟩, rfl⟩
    exact ⟨id, pool, served, uses, rfl⟩
  · rintro ⟨id, pool, served, uses, rfl⟩
    exact ⟨pool, ⟨⟨id, served⟩, uses⟩, rfl⟩

theorem le_largestLimit (served : store.pools.get? id = some pool)
    (uses : pool.registry = registry) :
    pool.settings.maxPoolSize ≤ store.largestLimit registry :=
  List.le_max?_getD_of_mem (mem_limits.mpr ⟨id, pool, served, uses, rfl⟩)

theorem Follows.largestLimit_le (follows : store.Follows after) :
    store.largestLimit registry ≤ after.largestLimit registry := by
  cases most : (store.limits registry).max? with
  | none => simp [largestLimit, most]
  | some limit =>
      obtain ⟨id, pool, served, uses, same⟩ :=
        mem_limits.mp (List.max?_eq_some_iff.mp most).1
      obtain ⟨later, found, followed⟩ := follows id pool served
      have small : later.settings.maxPoolSize ≤ after.largestLimit registry :=
        le_largestLimit found (followed.registry.trans uses)
      simpa [largestLimit, most, ← same, followed.settings] using small

/-- No queue is longer than the largest limit of its registry. -/
def Bounded (store : Store) : Prop :=
  ∀ registry key, ((store.registry registry).queue key).length ≤ store.largestLimit registry

end Store

/-- A queue after a change: it is as short as before, or some pool of the registry allows as many
arenas in it. -/
inductive Allowed (store : Store) (registry : RegistryId) (key : Nat) (queue : List Idle) : Prop
  | shorter (short : queue.length ≤ ((store.registry registry).queue key).length) :
      Allowed store registry key queue
  | below {id : PoolId} {pool : Pool} (served : store.pools.get? id = some pool)
      (uses : pool.registry = registry) (short : queue.length ≤ pool.settings.maxPoolSize) :
      Allowed store registry key queue

namespace Allowed

open Store

variable {current : Registry}

theorem same : Allowed store registry key ((store.registry registry).queue key) :=
  .shorter (Nat.le_refl _)

/-- Setting a registry does to its queues what the setting says. -/
theorem of_setRegistry (changed : ∀ key, Allowed store id key (current.queue key)) :
    Allowed store registry key (((store.setRegistry id current).registry registry).queue key) := by
  simp only [Store.registry, setRegistry, Table.get?_update]
  split
  · rename_i here
    subst here
    cases opened : store.registries.get? registry with
    | none => exact .shorter (Nat.zero_le _)
    | some earlier => exact changed key
  · exact same

theorem of_offer {idle : Idle} {accepted : Bool} (served : store.pools.get? id = some pool)
    (offered : (store.registry pool.registry).offer idle pool.settings.maxPoolSize =
      (accepted, current)) :
    Allowed store registry key
      (((store.setRegistry pool.registry current).registry registry).queue key) := by
  refine of_setRegistry fun key => ?_
  rw [Registry.queue_of_offer offered]
  split
  · rename_i room
    refine .below served rfl ?_
    rw [List.length_append, List.length_singleton]
    exact room.2
  · exact same

theorem of_poll {name : Nat} {idle : Idle}
    (taken : (store.registry id).poll name = some (idle, current)) :
    Allowed store registry key
      (((store.setRegistry id current).registry registry).queue key) := by
  refine of_setRegistry fun key => .shorter ?_
  obtain ⟨waiting, others⟩ := Registry.queue_poll taken
  by_cases own : key = name
  · rw [own, waiting, List.length_cons]
    exact Nat.le_succ _
  · exact Nat.le_of_eq (by rw [others key own])

theorem of_drain {name : Nat} : Allowed store registry key
    (((drainKey id (store, 0) name).1.registry registry).queue key) := by
  apply drainKey_induction (motive := fun between =>
    Allowed store registry key ((between.registry registry).queue key))
  · refine of_setRegistry fun key => .shorter ?_
    rw [Registry.queue_drain]
    split
    · exact Nat.zero_le _
    · exact Nat.le_refl _
  · intro between idle member allowed
    rwa [discard_frame.2.2.1]

theorem of_reclaim : Allowed store registry key
    ((((store.vacate handle).reclaim id buffer).registry registry).queue key) := by
  apply reclaim_induction (motive := fun after =>
    Allowed store registry key ((after.registry registry).queue key))
  · exact same
  · intro record after served outcome
    cases outcome with
    | closed closed => exact same
    | unfit unclosed unfit => exact same
    | queued unclosed intact unheld offered => exact of_offer served offered
    | refused unclosed intact unheld offered => exact of_offer served offered

end Allowed

open Store in
theorem Step.allowed (step : Step warrant store after) :
    Allowed store registry key ((after.registry registry).queue key) := by
  cases step with
  | openRegistry =>
      rw [registry_addRegistry]
      exact .same
  | stock serving served offered => exact .of_offer served offered
  | overstock serving served offered => exact .of_offer served offered
  | drain served => exact .of_drain
  | leaseIdle granted served valid taken reserved => exact .of_poll taken
  | lose served taken refused => exact .of_poll taken
  | resize named live allowed accessible resized =>
      simp only [mapBuffer_frame, emitGrowth_frame, setRegion_frame]
      exact .same
  | free named live frees =>
      apply free_induction (motive := fun after =>
        Allowed store registry key ((after.registry registry).queue key))
      · exact fun _ => .same
      · exact fun _ => .same
  | reclaim named live leased => exact .of_reclaim
  | _ => exact .same

theorem Step.bounded (step : Step warrant store after) (bounded : store.Bounded) :
    after.Bounded := by
  intro registry key
  have kept : store.largestLimit registry ≤ after.largestLimit registry :=
    step.follows.largestLimit_le
  have allowed : Allowed store registry key ((after.registry registry).queue key) := step.allowed
  cases allowed with
  | shorter short => exact Nat.le_trans short (Nat.le_trans (bounded registry key) kept)
  | below served uses short =>
      exact Nat.le_trans short (Nat.le_trans (Store.le_largestLimit served uses) kept)

namespace Store

variable {commands : List Command}

theorem Reachable.bounded (reachable : store.Reachable) : store.Bounded := by
  refine reachable.induction (fun registry key => ?_) Step.bounded
  rw [registry_initial]
  exact Nat.zero_le _

/-- A queue that nothing was done to has not been given anything. -/
theorem SameQueues.not_gains {entry : Idle} (same : store.SameQueues after) :
    ¬ store.Gains registry key [entry] after := by
  intro gains
  have longer : (store.registry registry).queue key =
      (store.registry registry).queue key ++ [entry] := (same registry key).symm.trans gains.queue
  simp at longer

theorem Returned.gains_iff (returned : store.Returned handle buffer id pool after) :
    store.Gains pool.registry buffer.maxCapacity [returnIdle id buffer] after ↔
      store.Accepts handle buffer pool := by
  refine ⟨fun gains => ?_, fun accepts => (returned.accepted accepts).1⟩
  by_contra declined
  exact (returned.rejected declined).1.not_gains gains

/-- How the limits of pools bound the queues. -/
structure Limited (store : Store) : Prop where
  /-- No queue is longer than the largest limit of its registry. -/
  short : ∀ registry key,
    ((store.registry registry).queue key).length ≤ store.largestLimit registry
  /-- What an open pool offers is taken exactly if the queue is below the limit of that pool. -/
  offered : ∀ command handle buffer id pool,
    (command = .release handle ∨ command = .drop handle) →
    store.buffers.get? handle = some buffer → buffer.recycler = some id →
    store.pools.get? id = some pool → pool.closed = false → store.Sole handle buffer →
    (store.Gains pool.registry buffer.maxCapacity [returnIdle id buffer] (store.run command).2 ↔
      ((store.registry pool.registry).queue buffer.maxCapacity).length <
        pool.settings.maxPoolSize)
  /-- If the arena of a lease that ends is not queued, no queue changes, and that arena is freed and
  no other. -/
  rejected : ∀ command handle buffer id pool,
    (command = .release handle ∨ command = .drop handle) →
    store.buffers.get? handle = some buffer → buffer.recycler = some id →
    store.pools.get? id = some pool →
    ¬ store.Gains pool.registry buffer.maxCapacity [returnIdle id buffer] (store.run command).2 →
    store.SameQueues (store.run command).2 ∧
      (store.run command).2.arena buffer.arena = ⟨(store.arena buffer.arena).region, true⟩ ∧
      ∀ other, other ≠ buffer.arena → (store.run command).2.arena other = store.arena other
  /-- What a pool makes in advance is taken for as long as the queue is below its limit. -/
  opened : ∀ config settings registry,
    (∃ failure, store.run (.openPool config settings registry) = (.error failure, store)) ∨
      ∃ after, store.run (.openPool config settings registry) =
          (.ok (.pool store.pools.next), after) ∧
        (store.addPool (.opened config settings registry)).Stocked store.pools.next
          (.opened config settings registry) settings.poolSize after
  /-- Nothing else joins a queue. -/
  joined : ∀ command registry key, ∃ gone rest new,
    store.Turned command registry key gone rest new

/-- In every run, no queue is longer than the largest limit among the pools of its registry. An open
pool that ends a lease, with nobody else on the arena, queues the arena exactly if the queue is
shorter than its own limit; an arena that is not queued is freed, and nothing else happens to queues
or arenas. A pool that opens makes and queues arenas up to its limit. And nothing joins a queue in
any other way. -/
theorem limited_after : (initial.after commands).Limited := by
  have reachable : (initial.after commands).Reachable := ⟨commands, rfl⟩
  constructor
  · exact reachable.bounded
  · intro command handle buffer id pool ends live leased served unclosed sole
    rw [(reachable.returned_run live leased served ends).gains_iff]
    exact ⟨fun accepts => accepts.room, fun room => ⟨unclosed, sole, room⟩⟩
  · intro command handle buffer id pool ends live leased served declined
    have returned := reachable.returned_run live leased served ends
    exact returned.rejected fun accepts => declined (returned.accepted accepts).1
  · exact stocked_openPool _
  · exact fun command => reachable.turns_run command

/-- A pool that keeps nothing shares a registry with one that keeps one arena. Each of them ends a
lease, and the queue has the arena of the second one. -/
example : (initial.after [.openPool {} { maxPoolSize := 0 } 0, .openPool {} { maxPoolSize := 1 } 0,
      .allocate (.pooled 0) { capacity := 16 }, .allocate (.pooled 1) { capacity := 16 }, .drop 0,
      .drop 1]).largestLimit 0 = 1 ∧
    (((initial.after [.openPool {} { maxPoolSize := 0 } 0, .openPool {} { maxPoolSize := 1 } 0,
      .allocate (.pooled 0) { capacity := 16 }, .allocate (.pooled 1) { capacity := 16 }, .drop 0,
      .drop 1]).registry 0).queue 16).map (·.arena) = [1] := by
  decide

end Store

end CursorBuffers
