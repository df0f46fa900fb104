import CursorBuffers.Store.Allocate

namespace CursorBuffers

/-- The facts about a buffer beside its cursors. -/
structure BufferInfo where
  readable : Nat
  writable : Nat
  maxWritable : Nat
  isReadable : Bool
  isWritable : Bool
  bounds : Bounds
  backend : Backend
  pooled : Bool
  hasAddress : Bool

/-- How far apart two buffers begin. -/
inductive Distance
  /-- Both lie in native memory of one creation. -/
  | apart (bytes : Int)
  /-- Both lie in native memory, but of two creations. -/
  | unrelated
  /-- At least one has no address; told of each. -/
  | unknown (first second : Bool)

namespace Store

def summary (store : Store) (buffer : Buffer) : Summary := buffer.summary (store.arena buffer.arena)

def isFreed (store : Store) (buffer : Buffer) : Bool := (store.arena buffer.arena).freed

def content (store : Store) (buffer : Buffer) : Except MemoryError Bytes :=
  buffer.getBytes (store.arena buffer.arena) 0 buffer.capacity

def backend (store : Store) (buffer : Buffer) : Backend := (store.arena buffer.arena).region.backend

def info (store : Store) (buffer : Buffer) : BufferInfo where
  readable := buffer.readableBytes
  writable := buffer.writableBytes
  maxWritable := buffer.maxWritableBytes
  isReadable := buffer.isReadable
  isWritable := buffer.isWritable
  bounds := buffer.bounds
  backend := store.backend buffer
  pooled := buffer.pooled
  hasAddress := (store.backend buffer).isNative

def distance (store : Store) (first second : Buffer) : Distance :=
  if (store.backend first).isNative ∧ (store.backend second).isNative then
    if first.origin = second.origin then .apart ((first.offset : Int) - second.offset)
    else .unrelated
  else .unknown (store.backend first).isNative (store.backend second).isNative

def arenaText (store : Store) (id : ArenaId) : String :=
  let arena := store.arena id
  Text.record "Arena"
    [("backend", arena.region.backend.text), ("len", toString arena.region.size),
      ("freed", toString arena.freed)]

def bufferText (store : Store) (buffer : Buffer) : String :=
  Text.record "Buffer"
    [("arena", store.arenaText buffer.arena), ("offset", toString buffer.offset),
      ("capacity", toString buffer.capacity), ("max_capacity", toString buffer.maxCapacity),
      ("reader_index", toString buffer.readerIndex), ("writer_index", toString buffer.writerIndex),
      ("bounds", buffer.bounds.text), ("role", buffer.role.text),
      ("pooled", toString buffer.pooled)]

def idleText (store : Store) (idle : Idle) : String :=
  let arena := store.arena idle.arena
  let reusable := !arena.freed && store.holders idle.arena == 1
  Text.record "ReclaimedBuffer"
    [("capacity", toString idle.capacity), ("max_capacity", toString idle.maxCapacity),
      ("physical_len", toString arena.region.size), ("reusable", toString reusable)]

def queueText (store : Store) (queue : List Idle) : String :=
  "Mutex \x7b data: [" ++ ", ".intercalate (queue.map store.idleText) ++ "]\x7d"

def registryText (store : Store) (registry : Registry) : String :=
  let queues := registry.queues.map fun entry => s!"{entry.1}: {store.queueText entry.2}"
  Text.record "PoolRegistry" [("queues", "\x7b" ++ ", ".intercalate queues ++ "\x7d")]

end Store

def Pool.text (pool : Pool) : String :=
  Text.record "PooledAllocator"
    [("config", pool.config.text), ("pool", pool.settings.text), ("backend", pool.backend.text),
      ("closed", toString pool.closed)]

namespace Allocator

def plainText (config : MemoryConfig) : String :=
  Text.record "DefaultAllocator"
    [("config", config.text), ("backend", (Backend.select config).text)]

end Allocator

end CursorBuffers
