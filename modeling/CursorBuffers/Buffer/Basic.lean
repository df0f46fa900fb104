import CursorBuffers.Allocation
import CursorBuffers.Buffer.Summary
import CursorBuffers.Region

namespace CursorBuffers

abbrev ArenaId := Nat

abbrev BufferId := Nat

abbrev PoolId := Nat

/-- What the release of a buffer does to its arena. -/
inductive Role
  /-- Allocated, copied or wrapped: its release frees the arena. -/
  | owner
  /-- A slice of an unpooled buffer: its release frees the arena too. -/
  | slice
  /-- A duplicate, or a slice of a pooled buffer: its release frees nothing. -/
  | view
  deriving DecidableEq

def Role.text : Role → String
  | .owner => "Owner"
  | .slice => "Slice"
  | .view => "View"

/-- A window on an arena with a reader and a writer cursor. The bytes before the reader are spent,
those between the cursors are readable, those from the writer to the capacity are writable. -/
structure Buffer where
  arena : ArenaId
  /-- The buffer that was created with this content; slices and duplicates inherit it. -/
  origin : BufferId
  offset : Nat := 0
  capacity : Nat
  maxCapacity : Nat
  readerIndex : Nat
  writerIndex : Nat
  markedReader : Nat := 0
  markedWriter : Nat := 0
  bounds : Bounds
  config : MemoryConfig
  role : Role := .owner
  pooled : Bool := false
  /-- The pool that gets the arena back when this buffer ends. -/
  recycler : Option PoolId := none

namespace Buffer

/-- The owner of an arena, as requested from an allocator with the given configuration. -/
def ofAllocation (request : Allocation) (config : MemoryConfig) (arena : ArenaId)
    (origin : BufferId) : Buffer where
  arena := arena
  origin := origin
  capacity := request.capacity
  maxCapacity := request.maxCapacity
  readerIndex := request.readerIndex
  writerIndex := request.writerIndex
  bounds := Bounds.select request.checking config
  config := config

/-- The owner of an arena that goes back to a pool. -/
def leased (request : Allocation) (config : MemoryConfig) (arena : ArenaId) (origin : BufferId)
    (pool : PoolId) : Buffer :=
  { ofAllocation request config arena origin with pooled := true, recycler := some pool }

/-- The owner of an arena whose bytes are all readable. -/
def full (length : Nat) (checking : Bool) (config : MemoryConfig) (arena : ArenaId)
    (origin : BufferId) : Buffer where
  arena := arena
  origin := origin
  capacity := length
  maxCapacity := length
  readerIndex := 0
  writerIndex := length
  bounds := Bounds.select checking config
  config := config

def readableBytes (buffer : Buffer) : Nat := buffer.writerIndex - buffer.readerIndex

def writableBytes (buffer : Buffer) : Nat := buffer.capacity - buffer.writerIndex

def maxWritableBytes (buffer : Buffer) : Nat := buffer.maxCapacity - buffer.writerIndex

def isReadable (buffer : Buffer) : Bool := buffer.readerIndex < buffer.writerIndex

def isWritable (buffer : Buffer) : Bool := buffer.writerIndex < buffer.capacity

def hasReadable (buffer : Buffer) (length : Nat) : Bool := length ≤ buffer.readableBytes

/-- Whether a length can be written without growth. -/
def hasWritable (buffer : Buffer) (length : Nat) : Bool := length ≤ buffer.writableBytes

def setReaderIndex (buffer : Buffer) (index : Nat) : Except MemoryError Buffer :=
  if buffer.writerIndex < index then
    .error (.outOfRange (.readerIndex index buffer.writerIndex))
  else .ok { buffer with readerIndex := index }

def setWriterIndex (buffer : Buffer) (index : Nat) : Except MemoryError Buffer :=
  if index < buffer.readerIndex ∨ buffer.capacity < index then
    .error (.outOfRange (.writerIndex index buffer.readerIndex buffer.capacity))
  else .ok { buffer with writerIndex := index }

def setIndex (buffer : Buffer) (reader writer : Nat) : Except MemoryError Buffer :=
  if writer < reader ∨ buffer.capacity < writer then
    .error (.outOfRange (.cursors reader writer buffer.capacity))
  else .ok { buffer with readerIndex := reader, writerIndex := writer }

/-- Both cursors return to 0; content and marks stay. -/
def clear (buffer : Buffer) : Buffer := { buffer with readerIndex := 0, writerIndex := 0 }

def markReader (buffer : Buffer) : Buffer := { buffer with markedReader := buffer.readerIndex }

def markWriter (buffer : Buffer) : Buffer := { buffer with markedWriter := buffer.writerIndex }

def resetReader (buffer : Buffer) : Except MemoryError Buffer :=
  buffer.setReaderIndex buffer.markedReader

def resetWriter (buffer : Buffer) : Except MemoryError Buffer :=
  buffer.setWriterIndex buffer.markedWriter

def advanceReader (buffer : Buffer) (length : Nat) : Buffer :=
  { buffer with readerIndex := buffer.readerIndex + length }

def advanceWriter (buffer : Buffer) (length : Nat) : Buffer :=
  { buffer with writerIndex := buffer.writerIndex + length }

/-- Another capacity, with cursors and marks cut down to it. -/
def withCapacity (buffer : Buffer) (capacity : Nat) : Buffer :=
  let writerIndex := min buffer.writerIndex capacity
  let markedWriter := min buffer.markedWriter capacity
  { buffer with
    capacity := capacity
    writerIndex := writerIndex
    readerIndex := min buffer.readerIndex writerIndex
    markedWriter := markedWriter
    markedReader := min buffer.markedReader markedWriter }

/-- An owner of `arena` with the cursors of this buffer, cut down to `length`. -/
def copied (buffer : Buffer) (length : Nat) (arena : ArenaId) (origin : BufferId) : Buffer :=
  let writerIndex := min buffer.writerIndex length
  { arena := arena
    origin := origin
    capacity := length
    maxCapacity := max buffer.maxCapacity length
    readerIndex := min buffer.readerIndex writerIndex
    writerIndex := writerIndex
    bounds := buffer.bounds
    config := buffer.config }

/-- The window of `length` bytes from `index` on, with the cursors moved and cut to it. -/
def sliced (buffer : Buffer) (index length : Nat) : Buffer :=
  let writerIndex := min (buffer.writerIndex - index) length
  { buffer with
    offset := buffer.offset + index
    capacity := length
    maxCapacity := max buffer.maxCapacity length
    readerIndex := min (buffer.readerIndex - index) writerIndex
    writerIndex := writerIndex
    markedReader := 0
    markedWriter := 0
    role := if buffer.pooled then .view else .slice
    recycler := none }

/-- The same window with cursors of its own. -/
def duplicated (buffer : Buffer) : Buffer :=
  { buffer with markedReader := 0, markedWriter := 0, role := .view, recycler := none }

end Buffer

end CursorBuffers
