import CursorBuffers.Store.Stream

/-!
Bytes moved from one buffer to another. Both may lie in one arena, and then their ranges may
overlap: the destination gets what the source held before. The indexed forms move no cursor.
-/

namespace CursorBuffers.Action

/-- Moves bytes between arenas; both ranges are checked before anything moves. -/
def transfer (source : ArenaId) (sourceOffset : Nat) (target : ArenaId)
    (targetOffset length : Nat) : Action Unit := do
  let bytes ← check (((← get).arena source).region.read sourceOffset length)
  let region ← check (((← get).arena target).region.write targetOffset bytes)
  modify (·.setRegion target region)

def guard (id : BufferId) (index length : Nat) : Action Unit :=
  inspect id fun buffer arena => buffer.guard arena index length

/-- Moves bytes between buffers that were checked. -/
def move (source : BufferId) (sourceIndex : Nat) (target : BufferId) (targetIndex length : Nat) :
    Action Unit := do
  let source ← buffer source
  let target ← buffer target
  transfer source.arena (source.offset + sourceIndex) target.arena (target.offset + targetIndex)
    length

/-- Copies from `index` to an index of another buffer. -/
def getBytesAt (id : BufferId) (index : Nat) (target : BufferId) (targetIndex length : Nat) :
    Action Unit := do
  guard id index length
  guard target targetIndex length
  move id index target targetIndex length

/-- Copies from `index` to the writer of another buffer, which grows if need be. -/
def getBytesTo (id : BufferId) (index : Nat) (target : BufferId) (length : Nat) : Action Unit := do
  ensureWritable target length
  getBytesAt id index target (← writerIndex target) length
  advanceWriter target length

/-- Copies to `index` from an index of another buffer. -/
def setBytesAt (id : BufferId) (index : Nat) (source : BufferId) (sourceIndex length : Nat) :
    Action Unit := do
  guard id index length
  guard source sourceIndex length
  move source sourceIndex id index length

/-- Copies to `index` from the reader of another buffer. -/
def setBytesFrom (id : BufferId) (index : Nat) (source : BufferId) (length : Nat) :
    Action Unit := do
  inspect source fun buffer arena => buffer.checkSource arena length
  setBytesAt id index source (← readerIndex source) length
  advanceReader source length

/-- Copies from the reader to the writer of another buffer. -/
def readBytesTo (id : BufferId) (target : BufferId) (length : Nat) : Action Unit := do
  checkReadable id length
  getBytesTo id (← readerIndex id) target length
  advanceReader id length

/-- Copies to the writer from the reader of another buffer. -/
def writeBytesFrom (id : BufferId) (source : BufferId) (length : Nat) : Action Unit := do
  ensureWritable id length
  setBytesFrom id (← writerIndex id) source length
  advanceWriter id length

theorem runOn_move {store : Store} {source target : BufferId} {one other : Buffer}
    {sourceIndex targetIndex length : Nat} (alive : store.buffers.get? source = some one)
    (also : store.buffers.get? target = some other) :
    runOn (move source sourceIndex target targetIndex length) store =
      match (do
        let bytes ← (store.arena one.arena).region.read (one.offset + sourceIndex) length
        (store.arena other.arena).region.write (other.offset + targetIndex) bytes :
          Except MemoryError Region) with
      | .ok region => (.ok (), store.setRegion other.arena region)
      | .error error => (.error (.memory error), store) := by
  simp only [move, runOn_bind, runOn_buffer alive, runOn_buffer also, transfer, runOn_get,
    runOn_check]
  cases (store.arena one.arena).region.read (one.offset + sourceIndex) length with
  | error error => rfl
  | ok bytes =>
      simp only [mapError_ok, bind, Except.bind]
      cases (store.arena other.arena).region.write (other.offset + targetIndex) bytes <;> rfl

end CursorBuffers.Action
