import CursorBuffers.Buffer.Summary
import CursorBuffers.Text.Hex
import CursorBuffers.Text.Quoted
import CursorBuffers.Text.Record

/-!
The five kinds of failure and what causes each. A cause carries the values that were wrong; the
wording of all of them is here and nowhere else, but for the words of a hexadecimal codec.
-/

namespace CursorBuffers

/-- Why an index, a length or a cursor is out of range. -/
inductive RangeFault
  | access (index length capacity : Nat)
  | storage (offset length physical : Nat)
  | unreadable (length : Nat) (buffer : Summary)
  | source (length : Nat) (buffer : Summary)
  | readerIndex (requested writer : Nat)
  | writerIndex (requested reader capacity : Nat)
  | cursors (reader writer capacity : Nat)
  | tooLong (length : Nat)
  | described (text : String)
  deriving DecidableEq

/-- Why an argument is illegal. -/
inductive ArgumentFault
  | capacityAboveMax (capacity maxCapacity : Nat)
  | newCapacity (requested maxCapacity : Nat)
  | aboveBufferLimit (maxCapacity limit : Nat)
  | noBufferLimit
  | poolSizeAboveLimit (poolSize limit : Nat)
  | closed
  | externalRegion
  | emptyBlock
  | tooLarge (size : Nat)
  | unallocatable (size : Nat)
  | flag (name value : String)
  | hex (fault : Hex.Fault) (description : String)
  | described (text : String)
  deriving DecidableEq

/-- What was freed before it was used. -/
inductive FreedPlace
  | native
  | managed
  | described (text : String)
  deriving DecidableEq

inductive MemoryError
  | outOfRange (fault : RangeFault)
  | illegalArgument (fault : ArgumentFault)
  | capacityExceeded (required maxCapacity : Nat)
  | useAfterFree (place : FreedPlace)
  | unsupportedBackend (operation : String)
  deriving DecidableEq

def RangeFault.text : RangeFault → String
  | .access index length capacity =>
      s!"index: {index}, length: {length} (expected: range(0, {capacity}))"
  | .storage offset length physical =>
      s!"offset: {offset}, length: {length} (expected: range(0, {physical}))"
  | .unreadable length buffer =>
      s!"readerIndex({buffer.readerIndex}) + length({length}) exceeds " ++
        s!"writerIndex({buffer.writerIndex}): {buffer.text}"
  | .source length buffer =>
      s!"length({length}) exceeds src.readableBytes({buffer.writerIndex - buffer.readerIndex}) " ++
        s!"where src is: {buffer.text}"
  | .readerIndex requested writer =>
      s!"readerIndex: {requested} (expected: 0 <= readerIndex <= writerIndex({writer}))"
  | .writerIndex requested reader capacity =>
      s!"writerIndex: {requested} (expected: readerIndex({reader}) <= writerIndex <= " ++
        s!"capacity({capacity}))"
  | .cursors reader writer capacity =>
      s!"readerIndex: {reader}, writerIndex: {writer} " ++
        s!"(expected: 0 <= readerIndex <= writerIndex <= capacity({capacity}))"
  | .tooLong length => s!"length: {length} (expected: <= {Bytes.lengthLimit})"
  | .described text => text

def ArgumentFault.text : ArgumentFault → String
  | .capacityAboveMax capacity maxCapacity =>
      s!"capacity: {capacity} (expected: not greater than maxCapacity({maxCapacity}))"
  | .newCapacity requested maxCapacity =>
      s!"newCapacity: {requested} (expected: 0-{maxCapacity})"
  | .aboveBufferLimit maxCapacity limit =>
      s!"maxCapacity: {maxCapacity} (expected: <= maxBufferCapacity({limit}))"
  | .noBufferLimit => "maxBufferCapacity: 0 (expected: > 0)"
  | .poolSizeAboveLimit poolSize limit =>
      s!"poolSize: {poolSize} (expected: <= maxPoolSize({limit}))"
  | .closed => "pooled allocator is closed"
  | .externalRegion => "cannot resize an externally owned native region"
  | .emptyBlock => "size: 0 (expected: > 0)"
  | .tooLarge size => s!"size: {size} (expected: <= {Bytes.lengthLimit})"
  | .unallocatable size => s!"size: {size} (exceeds the platform allocation limit)"
  | .flag name value => s!"{name}: `{value}` (expected: true/false/1/0/yes/no/on/off)"
  | .hex _ description => s!"hex: {description}"
  | .described text => text

def FreedPlace.text : FreedPlace → String
  | .native => s!"{addressText} is already freed"
  | .managed => "managed memory is already freed"
  | .described text => text

namespace MemoryError

/-- The stable name of the kind of failure. -/
def code : MemoryError → String
  | .outOfRange _ => "memory.out_of_range"
  | .illegalArgument _ => "memory.illegal_argument"
  | .capacityExceeded _ _ => "memory.capacity_exceeded"
  | .useAfterFree _ => "memory.use_after_free"
  | .unsupportedBackend _ => "memory.unsupported_backend"

def message : MemoryError → String
  | .outOfRange fault => s!"index out of range: {fault.text}"
  | .illegalArgument fault => s!"illegal argument: {fault.text}"
  | .capacityExceeded required maxCapacity =>
      s!"required capacity {required} exceeds max capacity {maxCapacity}"
  | .useAfterFree place => s!"memory already freed: {place.text}"
  | .unsupportedBackend operation => s!"unsupported memory backend for `{operation}`"

/-- The record that the error is, with its texts quoted. -/
def recordText : MemoryError → String
  | .outOfRange fault => Text.record "OutOfRange" [("detail", Text.quoted fault.text)]
  | .illegalArgument fault => Text.record "IllegalArgument" [("detail", Text.quoted fault.text)]
  | .capacityExceeded required maxCapacity =>
      Text.record "CapacityExceeded"
        [("required", toString required), ("max_capacity", toString maxCapacity)]
  | .useAfterFree place => Text.record "UseAfterFree" [("detail", Text.quoted place.text)]
  | .unsupportedBackend operation =>
      Text.record "UnsupportedBackend" [("operation", Text.quoted operation)]

end MemoryError

end CursorBuffers
