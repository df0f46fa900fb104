import CursorBuffers.Command
import CursorBuffers.Proofs.Holding
import CursorBuffers.Proofs.Release
import Mathlib.Logic.Relation

/-!
The single changes of a store. Every command is a chain of them, so that what each of them preserves
holds after every run. A warrant says what a chain may do: which buffers it may change, which ones
it may open windows on, how large it may let new buffers become, for which pools it may make arenas,
which buffers it may end, and through which of them it may free an arena.
-/

namespace CursorBuffers

namespace Buffer

structure Ordered (buffer : Buffer) : Prop where
  reader : buffer.readerIndex ≤ buffer.writerIndex
  writer : buffer.writerIndex ≤ buffer.capacity
  capacity : buffer.capacity ≤ buffer.maxCapacity

/-- At most capacity, cursors and marks tell the two apart. -/
structure Akin (before after : Buffer) : Prop where
  arena : after.arena = before.arena
  origin : after.origin = before.origin
  offset : after.offset = before.offset
  maxCapacity : after.maxCapacity = before.maxCapacity
  bounds : after.bounds = before.bounds
  config : after.config = before.config
  role : after.role = before.role
  pooled : after.pooled = before.pooled
  recycler : after.recycler = before.recycler

/-- At most cursors and marks tell the two apart, and the cursors are in order if they were. -/
structure Placed (before after : Buffer) : Prop where
  akin : before.Akin after
  capacity : after.capacity = before.capacity
  ordered : before.Ordered → after.Ordered

/-- A buffer on the whole of a region that the store is about to get, and on nothing else. -/
structure Fresh (buffer : Buffer) (store : Store) (region : Region) : Prop where
  arena : buffer.arena = store.arenas.next
  origin : buffer.origin = store.buffers.next
  offset : buffer.offset = 0
  capacity : buffer.capacity = region.size
  role : buffer.role = .owner
  pooled : buffer.pooled = false
  recycler : buffer.recycler = none
  markedReader : buffer.markedReader = 0
  markedWriter : buffer.markedWriter = 0
  ordered : buffer.Ordered

/-- A window on the same arena, made by a slice or a duplicate. -/
inductive Derived (buffer : Buffer) : Buffer → Prop
  | sliced {index length : Nat} (within : index + length ≤ buffer.capacity) :
      Derived buffer (buffer.sliced index length)
  | duplicated : Derived buffer buffer.duplicated

end Buffer

namespace Store

/-- The queue entry for an arena that a pool makes in advance. -/
def reserveIdle (store : Store) (id : PoolId) (pool : Pool) : Idle :=
  ⟨store.arenas.next, pool.settings.maxBufferCapacity, pool.settings.maxBufferCapacity, id⟩

/-- The store with an arena that a pool made in advance, before it is queued. -/
def stocked (store : Store) (id : PoolId) (pool : Pool) : Store :=
  (store.addArena (pool.backend.allocate pool.settings.maxBufferCapacity)).mapStats id (·.made)

/-- The store in which a pool has taken an idle arena from its queue. -/
def unqueued (store : Store) (id : PoolId) (pool : Pool) (idle : Idle) (rest : Registry) : Store :=
  ((store.setRegistry pool.registry rest).mapStats id (·.hit)).mapStats idle.queuedBy
    (·.unqueued (store.arena idle.arena).region.size)

end Store

structure Warrant where
  touches : BufferId → Prop
  derives : BufferId → Prop
  grants : Nat → Prop
  serves : PoolId → Prop
  ends : BufferId → Prop
  frees : BufferId → Prop

open Store in
/-- One change of a store under a warrant. -/
inductive Step (warrant : Warrant) (store : Store) : Store → Prop
  | log {bytes : Nat} : Step warrant store (store.emit (.poolClosed bytes))
  | openRegistry : Step warrant store store.addRegistry
  | openPool {config : MemoryConfig} {settings : PoolConfig} {registry : RegistryId}
      {current : Registry} (valid : settings.validate = .ok ())
      (opened : store.registries.get? registry = some current) :
      Step warrant store (store.addPool (Pool.opened config settings registry))
  | stock {id : PoolId} {pool : Pool} {registry : Registry} (serving : warrant.serves id)
      (served : store.pools.get? id = some pool)
      (offered : (store.registry pool.registry).offer (store.reserveIdle id pool)
        pool.settings.maxPoolSize = (true, registry)) :
      Step warrant store (((store.stocked id pool).setRegistry pool.registry registry).mapStats
        id (·.queued pool.settings.maxBufferCapacity))
  | overstock {id : PoolId} {pool : Pool} {registry : Registry} (serving : warrant.serves id)
      (served : store.pools.get? id = some pool)
      (offered : (store.registry pool.registry).offer (store.reserveIdle id pool)
        pool.settings.maxPoolSize = (false, registry)) :
      Step warrant store (((store.stocked id pool).setRegistry pool.registry registry).markFreed
        store.arenas.next)
  | close {id : PoolId} : Step warrant store (store.mapPool id (·.close))
  | drain {id : PoolId} {pool : Pool} {key : Nat} (served : store.pools.get? id = some pool) :
      Step warrant store (drainKey pool.registry (store, 0) key).1
  | useKey {id : PoolId} {key : Nat} : Step warrant store (store.mapPool id (·.useKey key))
  | addArena {region : Region} : Step warrant store (store.addArena region)
  | create {region : Region} {buffer : Buffer} (granted : warrant.grants buffer.maxCapacity)
      (fresh : buffer.Fresh store region) :
      Step warrant store ((store.addArena region).addBuffer buffer)
  | leaseFresh {id : PoolId} {pool : Pool} {request : Allocation}
      (granted : warrant.grants request.maxCapacity) (serving : warrant.serves id)
      (served : store.pools.get? id = some pool) (valid : pool.validate request = .ok ())
      (none : (store.registry pool.registry).poll request.maxCapacity = none) :
      Step warrant store
        ((((((store.mapStats id (·.missed)).emit
          (.poolMiss request.maxCapacity request.capacity)).addArena
            (pool.backend.allocate request.capacity)).mapStats id (·.leased))).addBuffer
              (.leased request pool.config store.arenas.next store.buffers.next id))
  | leaseIdle {id : PoolId} {pool : Pool} {request : Allocation} {idle : Idle} {rest : Registry}
      {region : Region} (granted : warrant.grants request.maxCapacity)
      (served : store.pools.get? id = some pool) (valid : pool.validate request = .ok ())
      (taken : (store.registry pool.registry).poll request.maxCapacity = some (idle, rest))
      (reserved : (store.arena idle.arena).region.reserve request.capacity = .ok region) :
      Step warrant store
        (((((store.unqueued id pool idle rest).setRegion idle.arena region).emit
          (.poolHit request.maxCapacity request.capacity)).mapStats id (·.leased)).addBuffer
            (.leased request pool.config idle.arena store.buffers.next id))
  | lose {id : PoolId} {pool : Pool} {request : Allocation} {idle : Idle} {rest : Registry}
      {error : MemoryError} (served : store.pools.get? id = some pool)
      (taken : (store.registry pool.registry).poll request.maxCapacity = some (idle, rest))
      (refused : (store.arena idle.arena).region.reserve request.capacity = .error error) :
      Step warrant store (store.unqueued id pool idle rest)
  | write {id : BufferId} {buffer : Buffer} {index : Nat} {data : Bytes} {region : Region}
      (named : warrant.touches id) (live : store.buffers.get? id = some buffer)
      (guarded : buffer.guard (store.arena buffer.arena) index data.size = .ok ())
      (written : (store.arena buffer.arena).region.write (buffer.offset + index) data =
        .ok region) :
      Step warrant store (store.setRegion buffer.arena region)
  | place {id : BufferId} {buffer placed : Buffer} (named : warrant.touches id)
      (live : store.buffers.get? id = some buffer) (moved : buffer.Placed placed) :
      Step warrant store (store.mapBuffer id fun _ => placed)
  | resize {id : BufferId} {buffer : Buffer} {capacity : Nat} {region : Region}
      (named : warrant.touches id) (live : store.buffers.get? id = some buffer)
      (allowed : capacity ≤ buffer.maxCapacity)
      (accessible : buffer.checkAccessible (store.arena buffer.arena) = .ok ())
      (resized : store.resized buffer capacity = .ok region) :
      Step warrant store (((store.setRegion buffer.arena region).emitGrowth buffer
        capacity).mapBuffer id fun _ => buffer.withCapacity capacity)
  | derive {id : BufferId} {buffer view : Buffer} (named : warrant.derives id)
      (live : store.buffers.get? id = some buffer)
      (accessible : buffer.checkAccessible (store.arena buffer.arena) = .ok ())
      (derived : buffer.Derived view) : Step warrant store (store.addBuffer view)
  | free {id : BufferId} {buffer : Buffer} (named : warrant.touches id)
      (live : store.buffers.get? id = some buffer) (frees : frees buffer = true)
      (freeing : warrant.frees id) :
      Step warrant store (store.free buffer)
  | vacate {id : BufferId} {buffer : Buffer} (named : warrant.touches id)
      (live : store.buffers.get? id = some buffer) (unleased : buffer.recycler = none)
      (ending : warrant.ends id) :
      Step warrant store (store.vacate id)
  | reclaim {id : BufferId} {buffer : Buffer} {pool : PoolId} (named : warrant.touches id)
      (live : store.buffers.get? id = some buffer) (leased : buffer.recycler = some pool)
      (ending : warrant.ends id) :
      Step warrant store ((store.vacate id).reclaim pool buffer)

/-- Changes one after the other. -/
abbrev Steps (warrant : Warrant) : Store → Store → Prop :=
  Relation.ReflTransGen (Step warrant)

end CursorBuffers
