import CursorBuffers.Growth
import CursorBuffers.Store.Action

/-!
The capacity of a buffer. The sole holder of an arena resizes it exactly; whoever shares an arena,
or has it from a pool, only ever makes it larger.
-/

namespace CursorBuffers

namespace Buffer

def checkNewCapacity (buffer : Buffer) (capacity : Nat) : Except MemoryError Unit :=
  if capacity ≤ buffer.maxCapacity then .ok ()
  else .error (.illegalArgument (.newCapacity capacity buffer.maxCapacity))

/-- The capacity that a buffer takes to make room for `length` more bytes. -/
def grownCapacity (buffer : Buffer) (length : Nat) : Except MemoryError Nat :=
  if buffer.maxWritableBytes < length then
    .error (.capacityExceeded (buffer.writerIndex + length) buffer.maxCapacity)
  else Growth.capacityFor (buffer.writerIndex + length) buffer.maxCapacity

theorem checkNewCapacity_eq_ok {buffer : Buffer} {capacity : Nat} :
    buffer.checkNewCapacity capacity = .ok () ↔ capacity ≤ buffer.maxCapacity := by
  by_cases allowed : capacity ≤ buffer.maxCapacity <;> simp [checkNewCapacity, allowed]

end Buffer

namespace Store

/-- Whether a buffer may resize its arena as it likes. -/
def isExclusive (store : Store) (buffer : Buffer) : Bool :=
  !buffer.pooled && buffer.role == .owner && buffer.offset == 0 && store.holders buffer.arena == 1

/-- The region of a buffer, made fit for another capacity. -/
def resized (store : Store) (buffer : Buffer) (capacity : Nat) : Except MemoryError Region :=
  let region := (store.arena buffer.arena).region
  if store.isExclusive buffer then region.resize (buffer.offset + capacity)
  else region.reserve (buffer.offset + capacity)

/-- Logs a new capacity if it is larger. -/
def emitGrowth (store : Store) (buffer : Buffer) (capacity : Nat) : Store :=
  if buffer.capacity < capacity then
    store.emit (.grown buffer.capacity capacity buffer.maxCapacity)
  else store

@[simp] theorem emitGrowth_frame {store : Store} {buffer : Buffer} {capacity : Nat} :
    (store.emitGrowth buffer capacity).arenas = store.arenas ∧
      (∀ other, (store.emitGrowth buffer capacity).arena other = store.arena other) ∧
      (store.emitGrowth buffer capacity).buffers = store.buffers ∧
      (store.emitGrowth buffer capacity).pools = store.pools ∧
      (store.emitGrowth buffer capacity).registries = store.registries ∧
      (∀ other, (store.emitGrowth buffer capacity).registry other = store.registry other) ∧
      (store.emitGrowth buffer capacity).idle = store.idle := by
  unfold emitGrowth
  split <;> simp

end Store

namespace Action

def setCapacity (id : BufferId) (capacity : Nat) : Action Unit := do
  let buffer ← buffer id
  check (buffer.checkNewCapacity capacity)
  inspect id Buffer.checkAccessible
  let region ← check ((← get).resized buffer capacity)
  modify (·.setRegion buffer.arena region)
  modify (·.emitGrowth buffer capacity)
  modify (·.mapBuffer id (·.withCapacity capacity))

/-- Makes room for `length` more bytes, by growth if need be. -/
def ensureWritable (id : BufferId) (length : Nat) : Action Unit := do
  let buffer ← buffer id
  if buffer.writableBytes < length then
    setCapacity id (← check (buffer.grownCapacity length))

variable {store : Store} {id : BufferId} {found : Buffer} {capacity length : Nat}

theorem runOn_setCapacity (alive : store.buffers.get? id = some found) :
    runOn (setCapacity id capacity) store =
      match (do
        found.checkNewCapacity capacity
        found.checkAccessible (store.arena found.arena)
        store.resized found capacity : Except MemoryError Region) with
      | .ok region => (.ok (), ((store.setRegion found.arena region).emitGrowth found
          capacity).mapBuffer id fun _ => found.withCapacity capacity)
      | .error error => (.error (.memory error), store) := by
  simp only [setCapacity, runOn_bind, runOn_buffer alive, runOn_check]
  cases allowed : found.checkNewCapacity capacity with
  | error error => rfl
  | ok _ =>
      simp only [mapError_ok, runOn_inspect alive, bind, Except.bind]
      cases accessible : found.checkAccessible (store.arena found.arena) with
      | error error => rfl
      | ok _ =>
          simp only [mapError_ok, runOn_get]
          cases resized : store.resized found capacity with
          | error error => rfl
          | ok region =>
              have stays : ((store.setRegion found.arena region).emitGrowth found
                  capacity).buffers.get? id = some found := by
                simpa using alive
              simp only [mapError_ok, runOn_modify, Store.mapBuffer, Table.update_eq_of_get? stays]

theorem runOn_ensureWritable (alive : store.buffers.get? id = some found) :
    runOn (ensureWritable id length) store =
      if found.writableBytes < length then
        match found.grownCapacity length with
        | .ok capacity => runOn (setCapacity id capacity) store
        | .error error => (.error (.memory error), store)
      else (.ok (), store) := by
  simp only [ensureWritable, runOn_bind, runOn_buffer alive]
  split
  · cases found.grownCapacity length <;> simp [runOn_bind]
  · rfl

end Action

end CursorBuffers
