import CursorBuffers.Config.Pool
import CursorBuffers.Pool.Registry
import CursorBuffers.Pool.Stats

namespace CursorBuffers

/-- An allocator that queues the arenas of its buffers in a registry when they are done, and serves
later requests from there. Several pools may use one registry. -/
structure Pool where
  config : MemoryConfig
  settings : PoolConfig
  backend : Backend
  registry : RegistryId
  stats : PoolStats := {}
  /-- The keys under which this pool has asked for arenas or queued them in advance. -/
  keys : List Nat := []
  closed : Bool := false

namespace Pool

/-- A pool that has served no request. -/
def opened (config : MemoryConfig) (settings : PoolConfig) (registry : RegistryId) : Pool where
  config := config
  settings := settings
  backend := Backend.select config
  registry := registry
  keys := if settings.poolSize = 0 then [] else [settings.maxBufferCapacity]

def useKey (pool : Pool) (key : Nat) : Pool := { pool with keys := pool.keys.insert key }

def close (pool : Pool) : Pool := { pool with closed := true }

/-- Whether a request is served, and if not why; the first reason counts. -/
def validate (pool : Pool) (request : Allocation) : Except MemoryError Unit :=
  if pool.closed then .error (.illegalArgument .closed)
  else do
    request.validate
    if pool.settings.maxBufferCapacity < request.maxCapacity then
      .error (.illegalArgument
        (.aboveBufferLimit request.maxCapacity pool.settings.maxBufferCapacity))
    else .ok ()

theorem validate_eq_ok {pool : Pool} {request : Allocation} :
    pool.validate request = .ok () ↔ pool.closed = false ∧ request.validate = .ok () ∧
      request.maxCapacity ≤ pool.settings.maxBufferCapacity := by
  unfold validate
  cases pool.closed with
  | true => simp
  | false =>
      cases request.validate with
      | error error => simp [bind, Except.bind]
      | ok _ => simp [bind, Except.bind]

end Pool

end CursorBuffers
