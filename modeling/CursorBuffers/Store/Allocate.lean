import CursorBuffers.Store.Action
import CursorBuffers.Store.Release

namespace CursorBuffers

/-- Where buffers come from. -/
inductive Allocator
  | plain (config : MemoryConfig)
  | pooled (id : PoolId)
  deriving DecidableEq

namespace Store

/-- Queues `count` new arenas of the largest capacity, and stops when the queue is full. -/
def prefill (store : Store) (id : PoolId) (pool : Pool) : Nat → Store
  | 0 => store
  | count + 1 =>
      let key := pool.settings.maxBufferCapacity
      let idle : Idle := ⟨store.arenas.next, key, key, id⟩
      let made := (store.addArena (pool.backend.allocate key)).mapStats id (·.made)
      let counted := made.enterPool idle
      match (counted.registry pool.registry).offer idle pool.settings.maxPoolSize with
      | (true, registry) => prefill (counted.setRegistry pool.registry registry) id pool count
      | (false, registry) => (counted.setRegistry pool.registry registry).discard idle

/-- Empties the queue of a key, and adds up the bytes that were in it. -/
def drainKey (registry : RegistryId) (state : Store × Nat) (key : Nat) : Store × Nat :=
  let (drained, rest) := (state.1.registry registry).drain key
  drained.foldl
    (fun state idle =>
      (state.1.discard idle, state.2 + (state.1.arena idle.arena).region.size))
    (state.1.setRegistry registry rest, state.2)

/-- Closes a pool for good: it drains every queue it has used and serves no more requests. -/
def closePool (store : Store) (id : PoolId) : Store :=
  match store.pools.get? id with
  | none => store
  | some pool =>
      if pool.closed then store
      else
        let (drained, bytes) :=
          pool.keys.foldl (drainKey pool.registry) (store.mapPool id (·.close), 0)
        drained.emit (.poolClosed bytes)

end Store

namespace Action

def openRegistry : Action RegistryId := do
  let id := (← get).registries.next
  modify (·.addRegistry)
  return id

def openPool (config : MemoryConfig) (settings : PoolConfig) (registry : RegistryId) :
    Action PoolId := do
  check settings.validate
  if ((← get).registries.get? registry).isNone then throw (.noRegistry registry)
  let pool := Pool.opened config settings registry
  let id := (← get).pools.next
  modify fun store => (store.addPool pool).prefill id pool settings.poolSize
  return id

def closePool (id : PoolId) : Action Unit := do
  let _ ← pool id
  modify (·.closePool id)

def allocatePlain (config : MemoryConfig) (request : Allocation) : Action BufferId := do
  check request.validate
  let arena ← newArena ((Backend.select config).allocate request.capacity)
  newBuffer (Buffer.ofAllocation request config arena)

/-- An idle arena that waits under the requested maximum capacity, enlarged if it is too short. -/
def reuse (id : PoolId) (pool : Pool) (request : Allocation) : Action (Option ArenaId) := do
  match ((← get).registry pool.registry).poll request.maxCapacity with
  | none => return none
  | some (idle, rest) => do
      let region := ((← get).arena idle.arena).region
      modify fun store =>
        ((store.setRegistry pool.registry rest).mapStats id (·.hit)).mapStats idle.queuedBy
          (·.unqueued region.size)
      let reserved ← check (region.reserve request.capacity)
      modify fun store =>
        (store.setRegion idle.arena reserved).emit (.poolHit request.maxCapacity request.capacity)
      return some idle.arena

/-- A new arena, because none was idle. -/
def make (id : PoolId) (pool : Pool) (request : Allocation) : Action ArenaId := do
  modify fun store =>
    (store.mapStats id (·.missed)).emit (.poolMiss request.maxCapacity request.capacity)
  newArena (pool.backend.allocate request.capacity)

def allocatePooled (id : PoolId) (request : Allocation) : Action BufferId := do
  let pool ← pool id
  check (pool.validate request)
  modify (·.mapPool id (·.useKey request.maxCapacity))
  let arena ← match ← reuse id pool request with
    | some arena => pure arena
    | none => make id pool request
  modify (·.mapStats id (·.leased))
  newBuffer fun origin => Buffer.leased request pool.config arena origin id

def allocate (allocator : Allocator) (request : Allocation) : Action BufferId :=
  match allocator with
  | .plain config => allocatePlain config request
  | .pooled id => allocatePooled id request

end Action

end CursorBuffers
