import CursorBuffers.Proofs.Isolation.WellHeld
import CursorBuffers.Proofs.Step.Commands
import CursorBuffers.Proofs.Step.Queues
import CursorBuffers.Proofs.Step.Regions
import CursorBuffers.Store.Report

/-!
Which storage a lease is on. A region keeps its kind as long as its arena exists, and the kind is
that of the pool that made the arena. So a pool that takes an idle arena hands out storage of the
maker's kind, not of its own.
-/

namespace CursorBuffers

variable {warrant : Warrant} {store after : Store}

theorem Backend.select_inj {first second : MemoryConfig} :
    Backend.select first = Backend.select second ↔ first.forceManaged = second.forceManaged := by
  cases firstForced : first.forceManaged <;> cases secondForced : second.forceManaged <;>
    simp [select, Capability.probe, firstForced, secondForced]

theorem Backend.isNative_select {config : MemoryConfig} :
    (Backend.select config).isNative = !config.forceManaged := by
  cases forced : config.forceManaged <;> simp [select, Capability.probe, forced, isNative]

section Kinds

variable {arena : ArenaId} {region : Region}

theorem RegionChanged.backend (changed : RegionChanged warrant store arena region)
    (known : arena < store.arenas.next) : region.backend = (store.arena arena).region.backend := by
  cases changed with
  | kept => rfl
  | added new => exact absurd new (Nat.ne_of_lt known)
  | written named live holds written => exact Region.backend_write written
  | resized named live holds allowed resized =>
      subst holds
      simp only [Store.resized] at resized
      split at resized
      · exact Region.backend_resize resized
      · exact Region.backend_reserve resized
  | reserved taken holds allowed reserved => exact Region.backend_reserve reserved

theorem Step.backend (step : Step warrant store after) (known : arena < store.arenas.next) :
    (after.arena arena).region.backend = (store.arena arena).region.backend :=
  step.region.backend known

end Kinds

namespace Store

/-- The storage that a pool makes is the one that its configuration selects. -/
def Selected (store : Store) : Prop :=
  ∀ id pool, store.pools.get? id = some pool → pool.backend = Backend.select pool.config

end Store

theorem Step.identity?_of_some {id : PoolId} {pool : Pool} (step : Step warrant store after)
    (served : store.identity? id = some pool.identity) :
    after.identity? id = some pool.identity := by
  rcases step.identity? with same | ⟨config, settings, registry, current, opened, added⟩
  · rw [same, served]
  · obtain ⟨current, found, same⟩ := Option.map_eq_some_iff.mp served
    rw [Store.identity?, added, Table.get?_add_of_get? found, Option.map_some, same]

theorem Step.selected (step : Step warrant store after) (held : store.Selected) :
    after.Selected := by
  intro id pool served
  rcases step.identity? with same | ⟨config, settings, registry, current, opened, added⟩
  · have known : after.identity? id = some pool.identity := Store.identity?_of_served served
    rw [same] at known
    obtain ⟨earlier, was, config, _, backend, _⟩ := Store.served_of_identity? known
    rw [← config, ← backend]
    exact held id earlier was
  · rw [added, Table.get?_add] at served
    split at served
    · cases served
      rfl
    · exact held id pool served

/-- A pool that was there is there, on the same registry. -/
theorem Step.served {id : PoolId} {pool : Pool} (step : Step warrant store after)
    (served : store.pools.get? id = some pool) :
    ∃ later, after.pools.get? id = some later ∧ later.registry = pool.registry := by
  have known : after.identity? id = some pool.identity :=
    step.identity?_of_some (Store.identity?_of_served served)
  obtain ⟨later, now, _, _, _, registry⟩ := Store.served_of_identity? known
  exact ⟨later, now, registry⟩

section Leases

open Store

/-- Where the lease of a buffer comes from: it was there, or a pool made its arena, or took it from
its queue. -/
inductive Leased (warrant : Warrant) (store after : Store) (pool : PoolId) (buffer : Buffer) : Prop
  | kept {id : BufferId} {earlier : Buffer} (was : store.buffers.get? id = some earlier)
      (leased : earlier.recycler = some pool) (akin : earlier.Akin buffer)
  | fresh {record : Pool} (serving : warrant.serves pool)
      (served : store.pools.get? pool = some record) (first : buffer.arena = store.arenas.next)
      (made : ∃ length, (after.arena buffer.arena).region = record.backend.allocate length)
      (owner : buffer.role = .owner)
  | taken {record : Pool} {idle : Idle} (served : store.pools.get? pool = some record)
      (inside : idle ∈ (store.registry record.registry).entries)
      (holds : buffer.arena = idle.arena) (owner : buffer.role = .owner)

theorem Step.leased {id : BufferId} {pool : PoolId} {buffer : Buffer}
    (step : Step warrant store after) (live : after.buffers.get? id = some buffer)
    (leased : buffer.recycler = some pool) : Leased warrant store after pool buffer := by
  by_cases old : id < store.buffers.next
  · obtain ⟨earlier, was, akin⟩ := step.buffers.older old live
    exact .kept was (akin.recycler ▸ leased) akin
  · have added : ∀ {new : Buffer}, (store.buffers.add new).get? id = some buffer →
        new = buffer := by
      intro new found
      rw [Table.get?_add] at found
      split at found
      · exact Option.some.inj found
      · exact absurd (Table.lt_next_of_get? found) old
    cases step with
    | create granted fresh =>
        obtain rfl := added live
        rw [fresh.recycler] at leased
        contradiction
    | @leaseFresh lender record request granted serving served valid none =>
        obtain rfl := added live
        cases leased
        refine .fresh serving served rfl ⟨request.capacity, ?_⟩ rfl
        simp [Buffer.leased, Buffer.ofAllocation, arena_addArena]
    | leaseIdle granted served valid taken reserved =>
        obtain rfl := added live
        cases leased
        exact .taken served
          ((Registry.entries_poll taken).mem_iff.mpr List.mem_cons_self) rfl rfl
    | derive named source accessible derived =>
        obtain rfl := added live
        cases derived <;> contradiction
    | drain served =>
        rw [buffers_drainKey] at live
        exact absurd (Table.lt_next_of_get? live) old
    | reclaim named was also =>
        rw [buffers_reclaim] at live
        exact absurd (by simpa using Table.lt_next_of_get? live) old
    | free named was frees =>
        rw [buffers_free] at live
        exact absurd (Table.lt_next_of_get? live) old
    | _ => exact absurd (by simpa [stocked, unqueued] using Table.lt_next_of_get? live) old

/-- For which registries, and in which kind of storage, the arenas that pools use were made. -/
structure Store.Supplied (store : Store) (made : ArenaId → RegistryId → Backend → Prop) : Prop where
  leased : ∀ {id buffer pool}, store.buffers.get? id = some buffer → buffer.recycler = some pool →
    ∃ record, store.pools.get? pool = some record ∧
      made buffer.arena record.registry (store.arena buffer.arena).region.backend
  queued : ∀ {registry idle}, idle ∈ (store.registry registry).entries →
    made idle.arena registry (store.arena idle.arena).region.backend

variable {made : ArenaId → RegistryId → Backend → Prop}

theorem Step.supplied (step : Step warrant store after) (held : store.WellHeld)
    (supplied : store.Supplied made)
    (serves : ∀ {id pool}, warrant.serves id → store.pools.get? id = some pool →
      store.arenas.next < after.arenas.next → made store.arenas.next pool.registry pool.backend) :
    after.Supplied made := by
  have kind : ∀ {arena registry}, arena < store.arenas.next →
      made arena registry (store.arena arena).region.backend →
      made arena registry (after.arena arena).region.backend := fun known was => by
    rwa [step.backend known]
  constructor
  · intro id buffer pool live leased
    have known : buffer.arena < after.arenas.next := (step.wellHeld held).known live
    cases step.leased live leased with
    | kept was also akin =>
        obtain ⟨record, served, origin⟩ := supplied.leased was also
        obtain ⟨later, found, registry⟩ := step.served served
        refine ⟨later, found, ?_⟩
        rw [akin.arena, registry]
        exact kind (held.known was) origin
    | fresh serving served first made =>
        obtain ⟨later, found, registry⟩ := step.served served
        obtain ⟨length, region⟩ := made
        refine ⟨later, found, ?_⟩
        rw [region, Region.backend_allocate, first, registry]
        exact serves serving served (first ▸ known)
    | taken served inside holds =>
        obtain ⟨later, found, registry⟩ := step.served served
        refine ⟨later, found, ?_⟩
        rw [holds, registry]
        exact kind (held.idleKnown (mem_idle_of_mem_entries inside)) (supplied.queued inside)
  · intro registry idle inside
    have known : idle.arena < after.arenas.next :=
      (step.wellHeld held).idleKnown (mem_idle_of_mem_entries inside)
    cases step.entered inside with
    | waiting inside =>
        exact kind (held.idleKnown (mem_idle_of_mem_entries inside)) (supplied.queued inside)
    | @stocked id pool serving served uses first region =>
        subst first
        rw [region, Region.backend_allocate, ← uses]
        exact serves serving served known
    | @returned id buffer pool record live leased served uses filed =>
        obtain ⟨again, found, was⟩ := supplied.leased live leased
        cases served.symm.trans found
        rw [filed, ← uses]
        exact kind (held.known live) was

theorem Store.Supplied.mono {makes : ArenaId → RegistryId → Backend → Prop}
    (supplied : store.Supplied made)
    (more : ∀ {arena registry backend}, made arena registry backend →
      makes arena registry backend) : store.Supplied makes where
  leased live leased := by
    obtain ⟨record, served, was⟩ := supplied.leased live leased
    exact ⟨record, served, more was⟩
  queued inside := more (supplied.queued inside)

end Leases

namespace Steps

theorem identity?_of_some {id : PoolId} {pool : Pool} (steps : Steps warrant store after)
    (served : store.identity? id = some pool.identity) :
    after.identity? id = some pool.identity :=
  steps.preserve served Step.identity?_of_some

theorem arenas_next_le (steps : Steps warrant store after) :
    store.arenas.next ≤ after.arenas.next :=
  steps.preserve (Nat.le_refl _) fun step known => Nat.le_trans known step.arenas_next_le

/-- An arena keeps its kind of storage. -/
theorem backend {arena : ArenaId} (steps : Steps warrant store after)
    (known : arena < store.arenas.next) :
    (after.arena arena).region.backend = (store.arena arena).region.backend := by
  induction steps with
  | refl => rfl
  | tail earlier step ih =>
      exact (step.backend (Nat.lt_of_lt_of_le known (arenas_next_le earlier))).trans ih

/-- The arenas that pools use after some changes were made before, or by a pool that the warrant
lets make arenas. -/
theorem supplied {made : ArenaId → RegistryId → Backend → Prop} (steps : Steps warrant store after)
    (held : store.WellHeld) (supplied : store.Supplied made) :
    after.Supplied fun arena registry backend => made arena registry backend ∨
      store.arenas.next ≤ arena ∧ arena < after.arenas.next ∧ ∃ (id : PoolId) (pool : Pool),
        warrant.serves id ∧ after.identity? id = some pool.identity ∧
          pool.registry = registry ∧ pool.backend = backend := by
  induction steps with
  | refl => exact supplied.mono .inl
  | @tail between after steps step ih =>
      refine step.supplied (Steps.wellHeld steps held) (ih.mono ?_) ?_
      · rintro arena registry backend (old | ⟨new, known, id, pool, serves, served, same⟩)
        · exact .inl old
        · exact .inr ⟨new, Nat.lt_of_lt_of_le known step.arenas_next_le, id, pool, serves,
            step.identity?_of_some served, same⟩
      · intro id pool serves served grows
        have found : between.identity? id = some pool.identity := Store.identity?_of_served served
        exact .inr ⟨arenas_next_le steps, grows, id, pool, serves, step.identity?_of_some found,
          rfl, rfl⟩

end Steps

/-- In the course of the commands the pool made the arena. -/
inductive Maker : List Command → ArenaId → PoolId → Prop
  | made {commands : List Command} {command : Command} {arena : ArenaId} {pool : PoolId}
      (new : (Store.initial.after commands).arenas.next ≤ arena)
      (added : arena < (Store.initial.after (commands ++ [command])).arenas.next)
      (serves : (command.warrant (Store.initial.after commands)).serves pool) :
      Maker (commands ++ [command]) arena pool
  | later {commands : List Command} {command : Command} {arena : ArenaId} {pool : PoolId}
      (made : Maker commands arena pool) : Maker (commands ++ [command]) arena pool

namespace Maker

variable {commands : List Command} {command : Command} {arena : ArenaId} {pool other : PoolId}

theorem concat (maker : Maker (commands ++ [command]) arena pool) :
    Maker commands arena pool ∨ (Store.initial.after commands).arenas.next ≤ arena ∧
      (command.warrant (Store.initial.after commands)).serves pool := by
  generalize whole : commands ++ [command] = all at maker
  cases maker with
  | made new added serves =>
      obtain ⟨rfl, rfl⟩ := List.append_singleton_inj.mp whole
      exact .inr ⟨new, serves⟩
  | later made =>
      obtain ⟨rfl, rfl⟩ := List.append_singleton_inj.mp whole
      exact .inl made

theorem lt_next (maker : Maker commands arena pool) :
    arena < (Store.initial.after commands).arenas.next := by
  induction maker with
  | made new added serves => exact added
  | later made ih =>
      rw [Store.after_concat]
      exact Nat.lt_of_lt_of_le ih Store.steps_run.arenas_next_le

/-- A command lets one pool at most make arenas. -/
theorem serves_unique (serves : (command.warrant store).serves pool)
    (also : (command.warrant store).serves other) : other = pool := by
  rcases serves with named | ⟨rfl, config, settings, registry, rfl⟩
  · rcases also with again | ⟨_, config, settings, registry, rfl⟩
    · rw [named] at again
      cases again
      rfl
    · contradiction
  · rcases also with again | ⟨same, _⟩
    · contradiction
    · exact same

/-- An arena has one maker at most. -/
theorem unique (maker : Maker commands arena pool) (also : Maker commands arena other) :
    other = pool := by
  induction maker with
  | made new added serves =>
      rcases also.concat with earlier | ⟨_, again⟩
      · exact absurd earlier.lt_next (Nat.not_lt.mpr new)
      · exact serves_unique serves again
  | later made ih =>
      rcases also.concat with earlier | ⟨new, _⟩
      · exact ih earlier
      · exact absurd made.lt_next (Nat.not_lt.mpr new)

end Maker

namespace Store

/-- In the course of the commands a pool of the registry made the arena, in its own kind of
storage. -/
def MadeFor (commands : List Command) (arena : ArenaId) (registry : RegistryId)
    (backend : Backend) : Prop :=
  ∃ (maker : PoolId) (source : Pool), Maker commands arena maker ∧
    (initial.after commands).identity? maker = some source.identity ∧
      source.registry = registry ∧ source.backend = backend

variable {commands : List Command}

theorem supplied_initial : initial.Supplied (MadeFor []) where
  leased live := by
    rw [Table.get?_eq_none_of_next_le (Nat.zero_le _)] at live
    contradiction
  queued inside := absurd (mem_idle_of_mem_entries inside) List.not_mem_nil

/-- In every run, the arenas that pools use were made by pools of the same registry. -/
theorem supplied_after : (initial.after commands).Supplied (MadeFor commands) := by
  induction commands using List.reverseRecOn with
  | nil => exact supplied_initial
  | append_singleton commands command ih =>
      have reachable : (initial.after commands).Reachable := ⟨commands, rfl⟩
      have held : (initial.after commands).WellHeld := reachable.wellHeld
      have steps : Steps (command.warrant (initial.after commands)) (initial.after commands) _ :=
        steps_run
      rw [after_concat]
      refine (steps.supplied held ih).mono ?_
      rintro arena registry backend (⟨maker, source, made, served, same⟩ |
        ⟨new, known, maker, source, serves, served, same⟩)
      · refine ⟨maker, source, .later made, ?_, same⟩
        rw [after_concat]
        exact steps.identity?_of_some served
      · refine ⟨maker, source, .made new ?_ serves, ?_, same⟩
        · rwa [after_concat]
        · rwa [after_concat]

theorem selected_initial : initial.Selected := by
  intro id pool served
  rw [Table.get?_eq_none_of_next_le (Nat.zero_le id)] at served
  contradiction

theorem Reachable.selected {store : Store} (reachable : store.Reachable) : store.Selected :=
  reachable.induction selected_initial Step.selected

section Lease

variable {store after : Store} {pool : PoolId} {record : Pool} {request : Allocation}
variable {id : BufferId}

/-- What a pool hands out is its lease, and on a new arena if none waits for the request. -/
theorem lease_of_allocate (served : store.pools.get? pool = some record)
    (allocated : store.run (.allocate (.pooled pool) request) = (.ok (.buffer id), after)) :
    ∃ buffer, after.buffers.get? id = some buffer ∧ buffer.recycler = some pool ∧
      ((store.registry record.registry).poll request.maxCapacity = none →
        buffer.arena = store.arenas.next ∧ after.arenas.next = store.arenas.next + 1) := by
  rw [run, Command.perform, Action.runOn_bind, Action.allocate] at allocated
  cases valid : record.validate request with
  | error error =>
      rw [Action.allocatePooled, Action.runOn_bind, Action.runOn_pool served] at allocated
      simp only [Action.runOn_bind, Action.runOn_check, valid] at allocated
      cases allocated
  | ok _ =>
      rw [Action.runOn_allocatePooled served valid] at allocated
      cases taken : (store.registry record.registry).poll request.maxCapacity with
      | none =>
          simp only [taken] at allocated
          cases allocated
          refine ⟨_, Table.get?_add_next, rfl, fun _ => ⟨rfl, ?_⟩⟩
          simp
      | some entry =>
          obtain ⟨idle, rest⟩ := entry
          simp only [taken] at allocated
          cases reserved : (store.arena idle.arena).region.reserve request.capacity with
          | error error =>
              rw [reserved] at allocated
              cases allocated
          | ok region =>
              rw [reserved] at allocated
              cases allocated
              refine ⟨_, Table.get?_add_next, rfl, fun none => ?_⟩
              contradiction

/-- A pool lends out storage that one pool has made, which uses the same registry: of the kind that
it is configured for if the other one is configured alike, and of the other kind if not. It is the
maker itself if nothing waited for the request. -/
theorem backend_of_lease (served : (initial.after commands).pools.get? pool = some record)
    (allocated : (initial.after commands).run (.allocate (.pooled pool) request) =
      (.ok (.buffer id), after)) :
    ∃ buffer maker source, after.buffers.get? id = some buffer ∧
      (∀ other, Maker (commands ++ [.allocate (.pooled pool) request]) buffer.arena other ↔
        other = maker) ∧
      after.pools.get? maker = some source ∧ source.registry = record.registry ∧
      (((initial.after commands).registry record.registry).poll request.maxCapacity = none →
        maker = pool) ∧
      (after.backend buffer = record.backend ↔
        source.config.forceManaged = record.config.forceManaged) ∧
      (after.info buffer).hasAddress = !source.config.forceManaged := by
  let lend := Command.allocate (.pooled pool) request
  have reached : initial.after (commands ++ [lend]) = after := by
    rw [after_concat, allocated]
  have steps : Steps (lend.warrant (initial.after commands)) (initial.after commands) after := by
    rw [← reached, after_concat]
    exact steps_run
  obtain ⟨buffer, live, leased, missed⟩ := lease_of_allocate served allocated
  have supplied : after.Supplied (MadeFor (commands ++ [lend])) := reached ▸ supplied_after
  obtain ⟨later, stillServed, maker, origin, made, known, sameRegistry, kind⟩ :=
    supplied.leased live leased
  rw [reached] at known
  obtain ⟨source, found, _, _, backend, registry⟩ := served_of_identity? known
  have laterRegistry : later.registry = record.registry := by
    have kept : after.identity? pool = some record.identity :=
      steps.identity?_of_some (identity?_of_served served)
    obtain ⟨again, alsoServed, _, _, _, same⟩ := served_of_identity? kept
    cases stillServed.symm.trans alsoServed
    exact same
  -- A pool makes what it is configured for.
  have makes : after.backend buffer = Backend.select source.config := by
    have reachable : after.Reachable := ⟨_, reached.symm⟩
    rw [← reachable.selected maker source found, backend]
    exact kind.symm
  have wants : record.backend = Backend.select record.config :=
    Reachable.selected ⟨commands, rfl⟩ pool record served
  refine ⟨buffer, maker, source, live, ?_, found, ?_, ?_, ?_, ?_⟩
  · exact fun other => ⟨made.unique, fun same => same ▸ made⟩
  · rw [registry, sameRegistry, laterRegistry]
  · intro none
    obtain ⟨first, grown⟩ := missed none
    refine Maker.unique (.made ?_ ?_ (.inl rfl)) made
    · exact Nat.le_of_eq first.symm
    · rw [reached, first, grown]
      exact Nat.lt_succ_self _
  · rw [makes, wants, Backend.select_inj]
  · rw [info, makes, Backend.isNative_select]

/-- The first lease of a pool that is configured for managed storage. -/
theorem backend_of_first_lease :
    ∃ buffer after, (initial.after [.openPool { forceManaged := true } {} 0]).run
        (.allocate (.pooled 0) { capacity := 16 }) = (.ok (.buffer 0), after) ∧
      after.buffers.get? 0 = some buffer ∧ (after.info buffer).hasAddress = false := by
  have served : ∃ record, (initial.after [.openPool { forceManaged := true } {} 0]).pools.get? 0 =
      some record ∧
      ((initial.after [.openPool { forceManaged := true } {} 0]).registry record.registry).poll
        16 = none := ⟨_, rfl, rfl⟩
  have allocated : ∃ after, (initial.after [.openPool { forceManaged := true } {} 0]).run
      (.allocate (.pooled 0) { capacity := 16 }) = (.ok (.buffer 0), after) ∧
      (after.pools.get? 0).map (·.config.forceManaged) = some true := ⟨_, rfl, rfl⟩
  obtain ⟨record, served, none⟩ := served
  obtain ⟨after, allocated, stillForced⟩ := allocated
  obtain ⟨buffer, maker, source, live, _, found, _, alone, _, address⟩ :=
    backend_of_lease served allocated
  obtain rfl := alone none
  rw [found, Option.map_some, Option.some.injEq] at stillForced
  rw [stillForced] at address
  exact ⟨buffer, after, allocated, live, address⟩

/-- Not every lease is of the kind of storage that its pool is configured for: here the pool that
made the arena was free to use native memory. -/
theorem backend_of_lease_not_configured :
    ¬ ∀ (commands : List Command) (pool : PoolId) (record : Pool) (request : Allocation)
      (id : BufferId) (after : Store) (buffer : Buffer),
      (initial.after commands).pools.get? pool = some record →
      (initial.after commands).run (.allocate (.pooled pool) request) = (.ok (.buffer id), after) →
      after.buffers.get? id = some buffer → after.backend buffer = record.backend := by
  intro fidelity
  have same := fidelity [.openPool {} {} 0, .openPool { forceManaged := true } {} 0,
    .allocate (.pooled 0) { capacity := 16 }, .drop 0] 1 _ { capacity := 16 } 1 _ _ rfl rfl rfl
  cases same

end Lease

end Store

end CursorBuffers
