namespace CursorBuffers

/-- What a pool counts. Each counter has no upper limit. -/
structure PoolStats where
  /-- Regions made, in advance or on a miss. -/
  freshAllocations : Nat := 0
  poolHits : Nat := 0
  poolMisses : Nat := 0
  /-- Leases that ended in a queue. -/
  recycled : Nat := 0
  /-- Leases that ended otherwise. -/
  discarded : Nat := 0
  activeLeases : Nat := 0
  /-- The bytes that this pool put into queues and that are still there. -/
  pooledBytes : Nat := 0
  deriving DecidableEq

namespace PoolStats

def made (stats : PoolStats) : PoolStats :=
  { stats with freshAllocations := stats.freshAllocations + 1 }

def hit (stats : PoolStats) : PoolStats := { stats with poolHits := stats.poolHits + 1 }

def missed (stats : PoolStats) : PoolStats := { stats.made with poolMisses := stats.poolMisses + 1 }

def leased (stats : PoolStats) : PoolStats := { stats with activeLeases := stats.activeLeases + 1 }

def ended (stats : PoolStats) : PoolStats := { stats with activeLeases := stats.activeLeases - 1 }

def kept (stats : PoolStats) : PoolStats := { stats with recycled := stats.recycled + 1 }

def dropped (stats : PoolStats) : PoolStats := { stats with discarded := stats.discarded + 1 }

def queued (stats : PoolStats) (bytes : Nat) : PoolStats :=
  { stats with pooledBytes := stats.pooledBytes + bytes }

def unqueued (stats : PoolStats) (bytes : Nat) : PoolStats :=
  { stats with pooledBytes := stats.pooledBytes - bytes }

end PoolStats

end CursorBuffers
