import CursorBuffers.Error

namespace CursorBuffers

/-- The sizes that govern a pool of buffers. -/
structure PoolConfig where
  /-- How many buffers are made in advance. -/
  poolSize : Nat := 0
  /-- How many buffers one queue keeps. -/
  maxPoolSize : Nat := 64
  /-- The largest maximum capacity that may be requested. -/
  maxBufferCapacity : Nat := 65536
  deriving DecidableEq

namespace PoolConfig

def validate (config : PoolConfig) : Except MemoryError Unit :=
  if config.maxBufferCapacity = 0 then .error (.illegalArgument .noBufferLimit)
  else if config.maxPoolSize < config.poolSize then
    .error (.illegalArgument (.poolSizeAboveLimit config.poolSize config.maxPoolSize))
  else .ok ()

def text (config : PoolConfig) : String :=
  Text.record "PoolConfig"
    [("pool_size", toString config.poolSize), ("max_pool_size", toString config.maxPoolSize),
      ("max_buffer_capacity", toString config.maxBufferCapacity)]

end PoolConfig

end CursorBuffers
