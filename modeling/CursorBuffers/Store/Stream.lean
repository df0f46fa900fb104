import CursorBuffers.Store.Capacity

namespace CursorBuffers

/-- The check before bytes are appended. -/
def Bytes.checkLength (bytes : Bytes) : Except MemoryError Unit :=
  if bytes.size ≤ lengthLimit then .ok () else .error (.outOfRange (.tooLong bytes.size))

namespace Action

def getScalar (id : BufferId) (kind : ScalarKind) (order : ByteOrder) (index : Nat) :
    Action Scalar :=
  inspect id fun buffer arena => buffer.getScalar arena kind order index

def setScalar (id : BufferId) (order : ByteOrder) (index : Nat) (scalar : Scalar) : Action Unit :=
  overwrite id fun buffer arena => buffer.setScalar arena order index scalar

def getBytes (id : BufferId) (index length : Nat) : Action Bytes :=
  inspect id fun buffer arena => buffer.getBytes arena index length

def setBytes (id : BufferId) (index : Nat) (data : Bytes) : Action Unit :=
  overwrite id fun buffer arena => buffer.setBytes arena index data

def checkReadable (id : BufferId) (length : Nat) : Action Unit :=
  inspect id fun buffer arena => buffer.checkReadable arena length

def readerIndex (id : BufferId) : Action Nat := return (← buffer id).readerIndex

def writerIndex (id : BufferId) : Action Nat := return (← buffer id).writerIndex

def advanceReader (id : BufferId) (length : Nat) : Action Unit :=
  modify (·.mapBuffer id (·.advanceReader length))

def advanceWriter (id : BufferId) (length : Nat) : Action Unit :=
  modify (·.mapBuffer id (·.advanceWriter length))

def readScalar (id : BufferId) (kind : ScalarKind) (order : ByteOrder) : Action Scalar := do
  checkReadable id kind.width.bytes
  let scalar ← getScalar id kind order (← readerIndex id)
  advanceReader id kind.width.bytes
  return scalar

def writeScalar (id : BufferId) (order : ByteOrder) (scalar : Scalar) : Action Unit := do
  ensureWritable id scalar.kind.width.bytes
  setScalar id order (← writerIndex id) scalar
  advanceWriter id scalar.kind.width.bytes

def readBytes (id : BufferId) (length : Nat) : Action Bytes := do
  checkReadable id length
  let bytes ← getBytes id (← readerIndex id) length
  advanceReader id length
  return bytes

def writeBytes (id : BufferId) (data : Bytes) : Action Unit := do
  check data.checkLength
  ensureWritable id data.size
  setBytes id (← writerIndex id) data
  advanceWriter id data.size

def skipBytes (id : BufferId) (length : Nat) : Action Unit := do
  checkReadable id length
  advanceReader id length

/-- The readable bytes; the cursors stay. -/
def toBytes (id : BufferId) : Action Bytes :=
  inspect id fun buffer arena => buffer.toBytes arena

/-- The readable bytes as hexadecimal digits. -/
def hexDump (id : BufferId) (codec : Hex.Codec) : Action String :=
  return codec.encode (← toBytes id)

section Cursors

variable {store : Store} {id : BufferId} {found : Buffer}

@[simp] theorem runOn_readerIndex (alive : store.buffers.get? id = some found) :
    runOn (readerIndex id) store = (.ok found.readerIndex, store) := by
  rw [readerIndex, runOn_bind, runOn_buffer alive]
  rfl

@[simp] theorem runOn_writerIndex (alive : store.buffers.get? id = some found) :
    runOn (writerIndex id) store = (.ok found.writerIndex, store) := by
  rw [writerIndex, runOn_bind, runOn_buffer alive]
  rfl

end Cursors

end Action

end CursorBuffers
