import CursorBuffers.Text.Record

namespace CursorBuffers

/-- The switches that an allocator and all buffers it hands out obey. -/
structure MemoryConfig where
  /-- Buffers check their bounds even if asked not to. -/
  checkBounds : Bool := false
  /-- Buffers that check their bounds refuse memory that was released. -/
  checkAccessible : Bool := false
  /-- Storage is a managed byte array, never native memory. -/
  forceManaged : Bool := false
  deriving DecidableEq

def MemoryConfig.text (config : MemoryConfig) : String :=
  Text.record "MemoryConfig"
    [("check_bounds", toString config.checkBounds),
      ("check_accessible", toString config.checkAccessible),
      ("force_managed", toString config.forceManaged)]

end CursorBuffers
