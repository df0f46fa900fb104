import CursorBuffers.Store.Basic

namespace CursorBuffers.Store

/-- Counts the bytes of an arena that is about to be queued. -/
def enterPool (store : Store) (idle : Idle) : Store :=
  store.mapStats idle.queuedBy (·.queued (store.arena idle.arena).region.size)

/-- Frees an idle arena that left its queue, or was refused there; its bytes count no more. -/
def discard (store : Store) (idle : Idle) : Store :=
  (store.mapStats idle.queuedBy
    (·.unqueued (store.arena idle.arena).region.size)).markFreed idle.arena

/-- Takes back the arena of a buffer whose lease from a pool has ended. Only an arena that nobody
holds and that was not freed is queued. -/
def reclaim (store : Store) (id : PoolId) (buffer : Buffer) : Store :=
  match store.pools.get? id with
  | none => store
  | some pool =>
      let ended := store.mapStats id (·.ended)
      let arena := store.arena buffer.arena
      if pool.closed then (ended.mapStats id (·.dropped)).markFreed buffer.arena
      else if arena.freed || store.holders buffer.arena != 0 then
        ((ended.emit (.stillShared buffer.capacity buffer.maxCapacity)).mapStats id
          (·.dropped)).markFreed buffer.arena
      else
        let idle : Idle := ⟨buffer.arena, buffer.capacity, buffer.maxCapacity, id⟩
        let counted := ended.enterPool idle
        match (counted.registry pool.registry).offer idle pool.settings.maxPoolSize with
        | (true, registry) =>
            ((counted.setRegistry pool.registry registry).mapStats id (·.kept)).emit
              (.returned buffer.maxCapacity arena.region.size)
        | (false, registry) =>
            (((counted.setRegistry pool.registry registry).mapStats id (·.dropped)).emit
              (.queueFull buffer.maxCapacity pool.settings.maxPoolSize)).discard idle

/-- Ends a buffer without its release. -/
def drop (store : Store) (id : BufferId) : Store :=
  match store.buffers.get? id with
  | none => store
  | some buffer =>
      match buffer.recycler with
      | some pool => (store.vacate id).reclaim pool buffer
      | none => store.vacate id

/-- Whether the release of a buffer frees its arena. -/
def frees (buffer : Buffer) : Bool := !buffer.pooled && buffer.role != .view

/-- Frees the arena of a buffer, once. -/
def free (store : Store) (buffer : Buffer) : Store :=
  let arena := store.arena buffer.arena
  if arena.freed then store
  else (store.markFreed buffer.arena).emit
    (.released buffer.arena arena.region.isNative buffer.capacity buffer.role)

/-- Ends a buffer. Its release frees the arena if that is its role; then, as when it is dropped, a
buffer from a pool returns its arena. -/
def release (store : Store) (id : BufferId) : Store :=
  match store.buffers.get? id with
  | none => store
  | some buffer => (if frees buffer then store.free buffer else store).drop id

end CursorBuffers.Store
