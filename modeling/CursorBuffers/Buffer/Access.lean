import CursorBuffers.Buffer.Basic
import CursorBuffers.Word.Scalar

/-!
Indexed access to the arena behind a buffer. A checked buffer refuses a range beyond its capacity
and, if so configured, an arena that was released; an unchecked buffer trusts its caller down to the
physical length.
-/

namespace CursorBuffers.Buffer

def summary (buffer : Buffer) (arena : Arena) : Summary where
  native := arena.region.isNative
  bounds := buffer.bounds
  readerIndex := buffer.readerIndex
  writerIndex := buffer.writerIndex
  capacity := buffer.capacity
  maxCapacity := buffer.maxCapacity
  pooled := buffer.pooled
  freed := arena.freed

def checkAccessible (buffer : Buffer) (arena : Arena) : Except MemoryError Unit :=
  if buffer.bounds = .checked ∧ buffer.config.checkAccessible ∧ arena.freed then
    .error (.useAfterFree (if arena.region.isNative then .native else .managed))
  else .ok ()

/-- The range check that holds in both modes. -/
def checkRange (buffer : Buffer) (index length : Nat) : Except MemoryError Unit :=
  if index + length ≤ buffer.capacity then .ok ()
  else .error (.outOfRange (.access index length buffer.capacity))

/-- The check before an indexed access. -/
def guard (buffer : Buffer) (arena : Arena) (index length : Nat) : Except MemoryError Unit :=
  match buffer.bounds with
  | .unchecked => .ok ()
  | .checked => do
      buffer.checkAccessible arena
      buffer.checkRange index length

/-- The check before the reader moves. -/
def checkReadable (buffer : Buffer) (arena : Arena) (length : Nat) : Except MemoryError Unit :=
  if length ≤ buffer.readableBytes then .ok ()
  else .error (.outOfRange (.unreadable length (buffer.summary arena)))

/-- The same check for a buffer that another one takes its bytes from. -/
def checkSource (buffer : Buffer) (arena : Arena) (length : Nat) : Except MemoryError Unit :=
  if length ≤ buffer.readableBytes then .ok ()
  else .error (.outOfRange (.source length (buffer.summary arena)))

def getScalar (buffer : Buffer) (arena : Arena) (kind : ScalarKind) (order : ByteOrder)
    (index : Nat) : Except MemoryError Scalar := do
  buffer.guard arena index kind.width.bytes
  let word ← arena.region.getWord order kind.width (buffer.offset + index)
  return Scalar.ofWord kind word

def setScalar (buffer : Buffer) (arena : Arena) (order : ByteOrder) (index : Nat)
    (scalar : Scalar) : Except MemoryError Region := do
  buffer.guard arena index scalar.kind.width.bytes
  arena.region.setWord order (buffer.offset + index) scalar.toWord

def getBytes (buffer : Buffer) (arena : Arena) (index length : Nat) : Except MemoryError Bytes := do
  buffer.guard arena index length
  arena.region.read (buffer.offset + index) length

def setBytes (buffer : Buffer) (arena : Arena) (index : Nat) (data : Bytes) :
    Except MemoryError Region := do
  buffer.guard arena index data.size
  arena.region.write (buffer.offset + index) data

/-- The readable bytes. -/
def toBytes (buffer : Buffer) (arena : Arena) : Except MemoryError Bytes :=
  buffer.getBytes arena buffer.readerIndex buffer.readableBytes

variable {buffer : Buffer} {arena : Arena} {index length : Nat}

theorem checkRange_eq_ok :
    buffer.checkRange index length = .ok () ↔ index + length ≤ buffer.capacity := by
  by_cases within : index + length ≤ buffer.capacity <;> simp [checkRange, within]

theorem checkReadable_eq_ok :
    buffer.checkReadable arena length = .ok () ↔ length ≤ buffer.readableBytes := by
  by_cases enough : length ≤ buffer.readableBytes <;> simp [checkReadable, enough]

theorem checkSource_eq_ok :
    buffer.checkSource arena length = .ok () ↔ length ≤ buffer.readableBytes := by
  by_cases enough : length ≤ buffer.readableBytes <;> simp [checkSource, enough]

end CursorBuffers.Buffer
