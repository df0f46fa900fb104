import CursorBuffers.Buffer.Basic

namespace CursorBuffers

/-- What is logged. An event is recorded by what happened; its level, target, message and fields are
derived from that. -/
inductive Event
  | grown (source target maxCapacity : Nat)
  | released (arena : ArenaId) (native : Bool) (capacity : Nat) (role : Role)
  | poolHit (maxCapacity capacity : Nat)
  | poolMiss (maxCapacity capacity : Nat)
  | stillShared (capacity maxCapacity : Nat)
  | returned (maxCapacity bytes : Nat)
  | queueFull (maxCapacity limit : Nat)
  | poolClosed (drainedBytes : Nat)
  deriving DecidableEq

inductive Level
  | trace
  | debug
  | warn

def Level.text : Level → String
  | .trace => "TRACE"
  | .debug => "DEBUG"
  | .warn => "WARN"

inductive FieldValue
  | number (value : Nat)
  | text (value : String)

namespace Event

def level : Event → Level
  | .grown .. | .poolHit .. | .poolMiss .. | .queueFull .. | .poolClosed .. => .debug
  | .released .. | .returned .. => .trace
  | .stillShared .. => .warn

def target : Event → String
  | .grown .. | .released .. => "spark_memory::buffer"
  | _ => "spark_memory::pool"

def message : Event → String
  | .grown .. => "buffer capacity grown"
  | .released .. => "buffer released"
  | .poolHit .. => "pool hit"
  | .poolMiss .. => "pool miss"
  | .stillShared .. => "pooled buffer is still shared or already freed, discarding"
  | .returned .. => "buffer returned to pool"
  | .queueFull .. => "pool queue is full, releasing buffer"
  | .poolClosed .. => "pooled allocator closed"

def fields : Event → List (String × FieldValue)
  | .grown source target maxCapacity =>
      [("from", .number source), ("to", .number target), ("max_capacity", .number maxCapacity)]
  | .released _ native capacity role =>
      [("address", .text (if native then "Some(ADDR)" else "None")), ("capacity", .number capacity),
        ("role", .text role.text)]
  | .poolHit maxCapacity capacity =>
      [("max_capacity", .number maxCapacity), ("capacity", .number capacity)]
  | .poolMiss maxCapacity capacity =>
      [("max_capacity", .number maxCapacity), ("capacity", .number capacity)]
  | .stillShared capacity maxCapacity =>
      [("capacity", .number capacity), ("max_capacity", .number maxCapacity)]
  | .returned maxCapacity bytes => [("max_capacity", .number maxCapacity), ("bytes", .number bytes)]
  | .queueFull maxCapacity limit =>
      [("max_capacity", .number maxCapacity), ("limit", .number limit)]
  | .poolClosed drainedBytes => [("drained_bytes", .number drainedBytes)]

end Event

end CursorBuffers
