import CursorBuffers.Store.Action

namespace CursorBuffers.Action

/-- Copies `[index, index + length)` into a new arena of the same kind of storage. -/
def copyRange (id : BufferId) (index length : Nat) : Action BufferId := do
  let source ← buffer id
  let arena := (← get).arena source.arena
  let bytes ← check (source.getBytes arena index length)
  let region ← check ((arena.region.backend.allocate length).write 0 bytes)
  let copy ← newArena region
  newBuffer (source.copied length copy)

def copy (id : BufferId) : Action BufferId := do
  copyRange id 0 (← buffer id).capacity

/-- The window `[index, index + length)`. Its range is checked in both modes: a window that starts
beyond its buffer could not be checked afterwards. -/
def sliceRange (id : BufferId) (index length : Nat) : Action BufferId := do
  inspect id Buffer.checkAccessible
  inspect id fun buffer _ => buffer.checkRange index length
  let source ← buffer id
  newBuffer fun _ => source.sliced index length

/-- The window on the readable bytes. -/
def slice (id : BufferId) : Action BufferId := do
  let source ← buffer id
  sliceRange id source.readerIndex source.readableBytes

def duplicate (id : BufferId) : Action BufferId := do
  inspect id Buffer.checkAccessible
  let source ← buffer id
  newBuffer fun _ => source.duplicated

end CursorBuffers.Action
