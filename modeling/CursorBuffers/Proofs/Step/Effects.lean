import CursorBuffers.Proofs.Step

namespace CursorBuffers

namespace Buffer.Akin

theorem refl {buffer : Buffer} : buffer.Akin buffer :=
  ⟨rfl, rfl, rfl, rfl, rfl, rfl, rfl, rfl, rfl⟩

theorem trans {first second third : Buffer} (early : first.Akin second)
    (late : second.Akin third) : first.Akin third where
  arena := late.arena.trans early.arena
  origin := late.origin.trans early.origin
  offset := late.offset.trans early.offset
  maxCapacity := late.maxCapacity.trans early.maxCapacity
  bounds := late.bounds.trans early.bounds
  config := late.config.trans early.config
  role := late.role.trans early.role
  pooled := late.pooled.trans early.pooled
  recycler := late.recycler.trans early.recycler

end Buffer.Akin

variable {warrant : Warrant} {store after : Store}

/-- What may become of the table of buffers. -/
inductive BuffersChanged (warrant : Warrant) (buffers : Table Buffer) : Table Buffer → Prop
  | kept : BuffersChanged warrant buffers buffers
  | created {buffer : Buffer} (granted : warrant.grants buffer.maxCapacity)
      (origin : buffer.origin = buffers.next) (ordered : buffer.Ordered) :
      BuffersChanged warrant buffers (buffers.add buffer)
  | derived {id : BufferId} {source view : Buffer} (named : warrant.derives id)
      (live : buffers.get? id = some source) (derived : source.Derived view) :
      BuffersChanged warrant buffers (buffers.add view)
  | placed {id : BufferId} {buffer placed : Buffer} (named : warrant.touches id)
      (live : buffers.get? id = some buffer) (moved : buffer.Placed placed) :
      BuffersChanged warrant buffers (buffers.update id fun _ => placed)
  | resized {id : BufferId} {buffer : Buffer} {capacity : Nat} (named : warrant.touches id)
      (live : buffers.get? id = some buffer) (allowed : capacity ≤ buffer.maxCapacity) :
      BuffersChanged warrant buffers (buffers.update id fun _ => buffer.withCapacity capacity)
  | vacated {id : BufferId} (named : warrant.touches id) :
      BuffersChanged warrant buffers (buffers.vacate id)

theorem Buffer.akin_withCapacity {buffer : Buffer} {capacity : Nat} :
    buffer.Akin (buffer.withCapacity capacity) :=
  ⟨rfl, rfl, rfl, rfl, rfl, rfl, rfl, rfl, rfl⟩

theorem Buffer.ordered_leased {request : Allocation} {pool : Pool} {arena : ArenaId}
    {origin : BufferId} {id : PoolId} (valid : pool.validate request = .ok ()) :
    (Buffer.leased request pool.config arena origin id).Ordered := by
  obtain ⟨_, valid, _⟩ := Pool.validate_eq_ok.mp valid
  obtain ⟨capacity, reader, writer⟩ := Allocation.validate_eq_ok.mp valid
  exact ⟨reader, writer, capacity⟩

theorem Store.buffers_drainKey {registry : RegistryId} {key bytes : Nat} :
    (drainKey registry (store, bytes) key).1.buffers = store.buffers := by
  apply drainKey_induction (motive := fun between => between.buffers = store.buffers)
  · simp
  · intro between idle member same
    simp [same]

theorem Store.buffers_reclaim {id : PoolId} {buffer : Buffer} :
    (store.reclaim id buffer).buffers = store.buffers := by
  apply reclaim_induction (motive := fun after => after.buffers = store.buffers)
  · rfl
  · intro pool after _ outcome
    cases outcome <;> simp

theorem Store.buffers_free {buffer : Buffer} : (store.free buffer).buffers = store.buffers := by
  apply free_induction (motive := fun after => after.buffers = store.buffers) <;> simp

theorem Step.buffers (step : Step warrant store after) :
    BuffersChanged warrant store.buffers after.buffers := by
  cases step with
  | create granted fresh => exact .created granted fresh.origin fresh.ordered
  | leaseFresh granted serving served valid none =>
      exact .created granted rfl (Buffer.ordered_leased valid)
  | leaseIdle granted served valid taken reserved =>
      exact .created granted rfl (Buffer.ordered_leased valid)
  | derive named live accessible derived => exact .derived named live derived
  | place named live moved => exact .placed named live moved
  | @resize id buffer capacity region named live allowed accessible resized =>
      have changed : (((store.setRegion buffer.arena region).emitGrowth buffer
          capacity).mapBuffer id fun _ => buffer.withCapacity capacity).buffers =
          store.buffers.update id fun _ => buffer.withCapacity capacity := by
        simp [Store.mapBuffer]
      rw [changed]
      exact .resized named live allowed
  | vacate named live unleased => exact .vacated named
  | reclaim named live leased =>
      rw [Store.buffers_reclaim]
      exact .vacated named
  | drain served =>
      rw [Store.buffers_drainKey]
      exact .kept
  | free named live frees =>
      rw [Store.buffers_free]
      exact .kept
  | _ => exact .kept

namespace BuffersChanged

variable {buffers later : Table Buffer} {id : BufferId} {buffer : Buffer}

theorem next_le (changed : BuffersChanged warrant buffers later) : buffers.next ≤ later.next := by
  cases changed <;> simp

theorem older_update {placed earlier : Buffer} {other : BufferId}
    (was : buffers.get? other = some earlier) (akin : earlier.Akin placed)
    (live : (buffers.update other fun _ => placed).get? id = some buffer) :
    ∃ earlier, buffers.get? id = some earlier ∧ earlier.Akin buffer := by
  by_cases same : id = other
  · subst same
    rw [Table.get?_update, if_pos rfl, was, Option.map_some, Option.some.injEq] at live
    subst live
    exact ⟨earlier, was, akin⟩
  · rw [Table.get?_update, if_neg same] at live
    exact ⟨buffer, live, .refl⟩

/-- A buffer is what it was, but for its capacity, cursors and marks. -/
theorem older (changed : BuffersChanged warrant buffers later) (known : id < buffers.next)
    (live : later.get? id = some buffer) :
    ∃ earlier, buffers.get? id = some earlier ∧ earlier.Akin buffer := by
  cases changed with
  | kept => exact ⟨buffer, live, .refl⟩
  | created granted origin ordered =>
      rw [Table.get?_add, if_neg (Nat.ne_of_lt known)] at live
      exact ⟨buffer, live, .refl⟩
  | derived named was derived =>
      rw [Table.get?_add, if_neg (Nat.ne_of_lt known)] at live
      exact ⟨buffer, live, .refl⟩
  | placed named was moved => exact older_update was moved.akin live
  | resized named was allowed => exact older_update was Buffer.akin_withCapacity live
  | @vacated vacatedId named =>
      by_cases same : id = vacatedId
      · simp [Table.get?_vacate, same] at live
      · rw [Table.get?_vacate, if_neg same] at live
        exact ⟨buffer, live, .refl⟩

theorem untouched (changed : BuffersChanged warrant buffers later)
    (unnamed : ¬ warrant.touches id) (live : buffers.get? id = some buffer) :
    later.get? id = some buffer := by
  have distinct : ∀ {other}, warrant.touches other → id ≠ other := fun named same =>
    unnamed (same ▸ named)
  cases changed with
  | kept => exact live
  | created granted origin ordered => exact Table.get?_add_of_get? live
  | derived named was derived => exact Table.get?_add_of_get? live
  | placed named was moved => rw [Table.get?_update, if_neg (distinct named), live]
  | resized named was allowed => rw [Table.get?_update, if_neg (distinct named), live]
  | vacated named => rw [Table.get?_vacate, if_neg (distinct named), live]

/-- Where a buffer with a new number comes from. -/
theorem newer (changed : BuffersChanged warrant buffers later) (new : buffers.next ≤ id)
    (live : later.get? id = some buffer) :
    (buffer.origin = id ∧ ∃ maximum, warrant.grants maximum) ∨
      ∃ parent source, warrant.derives parent ∧ buffers.get? parent = some source ∧
        source.Derived buffer := by
  have absent : ∀ {table : Table Buffer}, table.next ≤ buffers.next →
      table.get? id ≠ some buffer := by
    intro table shorter found
    rw [Table.get?_eq_none_of_next_le (Nat.le_trans shorter new)] at found
    contradiction
  cases changed with
  | kept => exact absurd live (absent (Nat.le_refl _))
  | created granted origin ordered =>
      rw [Table.get?_add] at live
      split at live
      · rename_i first
        cases live
        exact .inl ⟨origin.trans first.symm, _, granted⟩
      · exact absurd live (absent (Nat.le_refl _))
  | derived named was derived =>
      rw [Table.get?_add] at live
      split at live
      · cases live
        exact .inr ⟨_, _, named, was, derived⟩
      · exact absurd live (absent (Nat.le_refl _))
  | placed named was moved => exact absurd live (absent (Nat.le_of_eq Table.next_update))
  | resized named was allowed => exact absurd live (absent (Nat.le_of_eq Table.next_update))
  | vacated named => exact absurd live (absent (Nat.le_of_eq Table.next_vacate))

end BuffersChanged

namespace Steps

variable {id : BufferId} {buffer : Buffer}

theorem next_le (steps : Steps warrant store after) : store.buffers.next ≤ after.buffers.next := by
  induction steps with
  | refl => exact Nat.le_refl _
  | tail _ step ih => exact Nat.le_trans ih step.buffers.next_le

theorem preserve {motive : Store → Prop} (steps : Steps warrant store after) (held : motive store)
    (changed : ∀ {before later}, Step warrant before later → motive before → motive later) :
    motive after := by
  induction steps with
  | refl => exact held
  | tail _ step ih => exact changed step ih

/-- A buffer is what it was, but for its capacity, cursors and marks. -/
theorem older (steps : Steps warrant store after) (known : id < store.buffers.next)
    (live : after.buffers.get? id = some buffer) :
    ∃ earlier, store.buffers.get? id = some earlier ∧ earlier.Akin buffer := by
  induction steps generalizing buffer with
  | refl => exact ⟨buffer, live, .refl⟩
  | tail earlier step ih =>
      obtain ⟨between, was, late⟩ :=
        step.buffers.older (Nat.lt_of_lt_of_le known (next_le earlier)) live
      obtain ⟨first, start, early⟩ := ih was
      exact ⟨first, start, early.trans late⟩

/-- A buffer that was not there before has the origin of itself, or of the buffer that it is a
window on. -/
theorem newer (steps : Steps warrant store after)
    (within : ∀ parent, warrant.derives parent → parent < store.buffers.next)
    (new : store.buffers.next ≤ id) (live : after.buffers.get? id = some buffer) :
    (buffer.origin = id ∧ ∃ maximum, warrant.grants maximum) ∨
      ∃ parent source, warrant.derives parent ∧ store.buffers.get? parent = some source ∧
        buffer.origin = source.origin := by
  induction steps generalizing buffer with
  | refl =>
      rw [Table.get?_eq_none_of_next_le new] at live
      contradiction
  | @tail between after earlier step ih =>
      by_cases known : id < between.buffers.next
      · obtain ⟨before, was, akin⟩ := step.buffers.older known live
        rw [akin.origin]
        exact ih was
      · rcases step.buffers.newer (Nat.le_of_not_lt known) live with created |
          ⟨parent, current, named, was, derived⟩
        · exact .inl created
        · obtain ⟨source, start, akin⟩ := older earlier (within parent named) was
          have origin : buffer.origin = current.origin := by cases derived <;> rfl
          exact .inr ⟨parent, source, named, start, origin.trans akin.origin⟩

/-- Where no buffer is made, every buffer was there before. -/
theorem older_of_barren (steps : Steps warrant store after)
    (granted : ∀ maximum, ¬ warrant.grants maximum) (derived : ∀ parent, ¬ warrant.derives parent)
    (live : after.buffers.get? id = some buffer) :
    ∃ earlier, store.buffers.get? id = some earlier ∧ earlier.Akin buffer := by
  by_cases known : id < store.buffers.next
  · exact steps.older known live
  · have within : ∀ parent, warrant.derives parent → parent < store.buffers.next :=
      fun parent named => absurd named (derived parent)
    rcases steps.newer within (Nat.le_of_not_lt known) live with ⟨_, maximum, allowed⟩ |
      ⟨parent, _, named, _⟩
    · exact absurd allowed (granted maximum)
    · exact absurd named (derived parent)

theorem untouched (steps : Steps warrant store after) (unnamed : ¬ warrant.touches id)
    (live : store.buffers.get? id = some buffer) : after.buffers.get? id = some buffer := by
  induction steps with
  | refl => exact live
  | tail _ step ih => exact step.buffers.untouched unnamed ih

end Steps

/-- All of a pool but what it has counted. -/
def Pool.terms (pool : Pool) : Pool := { pool with stats := {} }

/-- What a pool never changes. -/
def Pool.identity (pool : Pool) : MemoryConfig × PoolConfig × Backend × RegistryId :=
  (pool.config, pool.settings, pool.backend, pool.registry)

def Store.terms? (store : Store) (id : PoolId) : Option Pool :=
  (store.pools.get? id).map Pool.terms

/-- What the pool of a number never changes. -/
def Store.identity? (store : Store) (id : PoolId) :
    Option (MemoryConfig × PoolConfig × Backend × RegistryId) :=
  (store.pools.get? id).map Pool.identity

namespace Store

variable {id other : Nat}

theorem terms?_mapPool {change : Pool → Pool} (keeps : ∀ pool, (change pool).terms = pool.terms) :
    (store.mapPool id change).terms? other = store.terms? other := by
  simp only [terms?, mapPool, Table.get?_update]
  split
  · rename_i same
    subst same
    simp [Option.map_map, Function.comp_def, keeps]
  · rfl

@[simp] theorem terms?_frame :
    (∀ region, (store.addArena region).terms? other = store.terms? other) ∧
      (∀ id region, (store.setRegion id region).terms? other = store.terms? other) ∧
      (∀ id, (store.markFreed id).terms? other = store.terms? other) ∧
      (∀ buffer, (store.addBuffer buffer).terms? other = store.terms? other) ∧
      (∀ id change, (store.mapBuffer id change).terms? other = store.terms? other) ∧
      (∀ id, (store.vacate id).terms? other = store.terms? other) ∧
      store.addRegistry.terms? other = store.terms? other ∧
      (∀ id registry, (store.setRegistry id registry).terms? other = store.terms? other) ∧
      (∀ id change, (store.mapStats id change).terms? other = store.terms? other) ∧
      (∀ event, (store.emit event).terms? other = store.terms? other) :=
  ⟨fun _ => rfl, fun _ _ => rfl, fun _ => rfl, fun _ => rfl, fun _ _ => rfl, fun _ => rfl, rfl,
    fun _ _ => rfl, fun _ _ => terms?_mapPool fun _ => rfl, fun _ => rfl⟩

@[simp] theorem terms?_emitGrowth {buffer : Buffer} {capacity : Nat} :
    (store.emitGrowth buffer capacity).terms? other = store.terms? other := by
  unfold emitGrowth
  split <;> simp

@[simp] theorem terms?_drainKey {registry : RegistryId} {key bytes : Nat} :
    (drainKey registry (store, bytes) key).1.terms? other = store.terms? other := by
  apply drainKey_induction (motive := fun between => between.terms? other = store.terms? other)
  · simp
  · intro between idle member same
    simp [discard, same]

@[simp] theorem terms?_reclaim {buffer : Buffer} :
    (store.reclaim id buffer).terms? other = store.terms? other := by
  apply reclaim_induction (motive := fun after => after.terms? other = store.terms? other)
  · rfl
  · intro pool after _ outcome
    cases outcome <;> simp

@[simp] theorem terms?_free {buffer : Buffer} :
    (store.free buffer).terms? other = store.terms? other := by
  apply free_induction (motive := fun after => after.terms? other = store.terms? other) <;> simp

theorem identity?_of_served {pool : Pool} (served : store.pools.get? id = some pool) :
    store.identity? id = some pool.identity := by
  rw [identity?, served, Option.map_some]

theorem served_of_identity? {record : Pool} (known : store.identity? id = some record.identity) :
    ∃ current, store.pools.get? id = some current ∧ current.config = record.config ∧
      current.settings = record.settings ∧ current.backend = record.backend ∧
      current.registry = record.registry := by
  rw [identity?, Option.map_eq_some_iff] at known
  obtain ⟨current, found, same⟩ := known
  simp only [Pool.identity, Prod.mk.injEq] at same
  exact ⟨current, found, same⟩

theorem identity?_of_terms? (same : after.terms? other = store.terms? other) :
    after.identity? other = store.identity? other := by
  have view : ∀ store : Store, store.identity? other = (store.terms? other).map Pool.identity := by
    intro store
    rw [identity?, terms?, Option.map_map]
    rfl
  rw [view, view, same]

theorem identity?_mapPool {change : Pool → Pool}
    (keeps : ∀ pool, (change pool).identity = pool.identity) :
    (store.mapPool id change).identity? other = store.identity? other := by
  simp only [identity?, mapPool, Table.get?_update]
  split
  · rename_i same
    subst same
    simp [Option.map_map, Function.comp_def, keeps]
  · rfl

@[simp] theorem identity?_frame :
    (∀ region, (store.addArena region).identity? other = store.identity? other) ∧
      (∀ id region, (store.setRegion id region).identity? other = store.identity? other) ∧
      (∀ id, (store.markFreed id).identity? other = store.identity? other) ∧
      (∀ buffer, (store.addBuffer buffer).identity? other = store.identity? other) ∧
      (∀ id change, (store.mapBuffer id change).identity? other = store.identity? other) ∧
      (∀ id, (store.vacate id).identity? other = store.identity? other) ∧
      store.addRegistry.identity? other = store.identity? other ∧
      (∀ id registry, (store.setRegistry id registry).identity? other = store.identity? other) ∧
      (∀ event, (store.emit event).identity? other = store.identity? other) :=
  ⟨fun _ => rfl, fun _ _ => rfl, fun _ => rfl, fun _ => rfl, fun _ _ => rfl, fun _ => rfl, rfl,
    fun _ _ => rfl, fun _ => rfl⟩

@[simp] theorem identity?_mapStats {change : PoolStats → PoolStats} :
    (store.mapStats id change).identity? other = store.identity? other :=
  identity?_mapPool fun _ => rfl

end Store

open Store in
/-- What a change does to pools, but for what they count: one opens, closes or uses a key. -/
theorem Step.terms? (step : Step warrant store after) :
    (∀ id, after.terms? id = store.terms? id) ∨
      (∃ config settings registry current, store.registries.get? registry = some current ∧
        after.pools = store.pools.add (Pool.opened config settings registry)) ∨
      (∃ id, after = store.mapPool id (·.close)) ∨
      ∃ id key, after = store.mapPool id (·.useKey key) := by
  cases step with
  | @openPool config settings registry current valid opened =>
      exact .inr (.inl ⟨config, settings, registry, current, opened, rfl⟩)
  | close => exact .inr (.inr (.inl ⟨_, rfl⟩))
  | useKey => exact .inr (.inr (.inr ⟨_, _, rfl⟩))
  | _ => exact .inl fun id => by simp [stocked, unqueued]

/-- Only the opening of a pool changes what a pool is. -/
theorem Step.identity? (step : Step warrant store after) :
    (∀ id, after.identity? id = store.identity? id) ∨
      ∃ config settings registry current, store.registries.get? registry = some current ∧
        after.pools = store.pools.add (Pool.opened config settings registry) := by
  rcases step.terms? with same | opened | ⟨id, rfl⟩ | ⟨id, key, rfl⟩
  · exact .inl fun id => Store.identity?_of_terms? (same id)
  · exact .inr opened
  · exact .inl fun id => Store.identity?_mapPool fun _ => rfl
  · exact .inl fun id => Store.identity?_mapPool fun _ => rfl

@[simp] theorem Store.isSome_setRegistry {id other : RegistryId} {registry : Registry} :
    ((store.setRegistry id registry).registries.get? other).isSome =
      (store.registries.get? other).isSome := by
  simp only [setRegistry, Table.get?_update]
  split <;> rename_i same
  · simp [same]
  · rfl

theorem Step.registries {id : RegistryId} (step : Step warrant store after)
    (opened : (store.registries.get? id).isSome) : (after.registries.get? id).isSome := by
  cases step with
  | openRegistry =>
      obtain ⟨registry, found⟩ := Option.isSome_iff_exists.mp opened
      simp [Store.addRegistry, Table.get?_add_of_get? found]
  | drain served =>
      apply Store.drainKey_induction
        (motive := fun between => (between.registries.get? id).isSome)
      · simpa using opened
      · intro between idle member kept
        simpa using kept
  | reclaim named live leased =>
      apply Store.reclaim_induction (motive := fun after => (after.registries.get? id).isSome)
      · exact opened
      · intro pool after _ outcome
        cases outcome <;> simpa using opened
  | free named live frees =>
      apply Store.free_induction (motive := fun after => (after.registries.get? id).isSome)
      · exact fun _ => opened
      · intro event
        simpa using opened
  | _ => simpa [Store.stocked, Store.unqueued] using opened

end CursorBuffers
