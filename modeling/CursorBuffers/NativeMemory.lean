import CursorBuffers.Region

/-!
Native memory as an allocator hands it out. A block is moved or given back with the size that it was
asked for with, and no block is asked for where no byte is needed. A block that was moved to holds
anything behind the bytes that came along, so that part is cleared.
-/

namespace CursorBuffers

/-- What a block holds where nobody has written since it was handed out. -/
abbrev Debris := Nat → UInt8

namespace Bytes

variable {bytes : Bytes} {size length index : Nat} {debris : Debris}

/-- The first `size` bytes of a block, moved to one of `length` bytes as far as they fit. Behind
them the new block holds debris. -/
def moved (bytes : Bytes) (size length : Nat) (debris : Debris) : Bytes :=
  Array.ofFn fun index : Fin length => (bytes.extract 0 size)[index]?.getD (debris index)

@[simp] theorem size_moved : (bytes.moved size length debris).size = length := Array.size_ofFn

theorem getElem?_moved : (bytes.moved size length debris)[index]? =
    if index < length then some ((bytes.extract 0 size)[index]?.getD (debris index)) else none := by
  simp [moved, Array.getElem?_ofFn]

end Bytes

/-- A block and the size that it was asked for with. Memory that belongs to somebody else was not
asked for, and neither was a block of no bytes. -/
structure NativeMemory where
  bytes : Bytes
  length : Nat
  layout : Option Nat
  ownership : Ownership
  length_eq : length = bytes.size
  layout_eq : layout = if ownership = .owned ∧ length ≠ 0 then some length else none

namespace NativeMemory

variable {memory : NativeMemory} {size length : Nat} {debris : Debris}

/-- The longest block that can be asked for: rounded up to the alignment of 16 bytes, its size is
still less than half of all addresses. -/
def lengthLimit : Nat := 9223372036854775792

def checkLayout (length : Nat) : Except MemoryError Unit :=
  if length ≤ lengthLimit then .ok () else .error (.illegalArgument (.unallocatable length))

theorem checkLayout_eq_ok : checkLayout length = .ok () ↔ length ≤ lengthLimit := by
  by_cases possible : length ≤ lengthLimit <;> simp [checkLayout, possible]

def empty : NativeMemory := ⟨#[], 0, none, .owned, rfl, rfl⟩

def allocate (length : Nat) : Except MemoryError NativeMemory :=
  if nothing : length = 0 then .ok empty
  else do
    checkLayout length
    return {
      bytes := Bytes.zeros length
      length
      layout := some length
      ownership := .owned
      length_eq := Bytes.size_zeros.symm
      layout_eq := by simp [nothing] }

/-- The block was given back. -/
def emptied (memory : NativeMemory) : NativeMemory where
  bytes := #[]
  length := 0
  layout := none
  ownership := memory.ownership
  length_eq := rfl
  layout_eq := by simp

/-- The bytes of a block that was moved to; a longer one is cleared from the old end on. -/
def cleared (memory : NativeMemory) (size length : Nat) (debris : Debris) : Bytes :=
  let moved := memory.bytes.moved size length debris
  if memory.length < length then
    moved.splice memory.length (Bytes.zeros (length - memory.length))
  else moved

theorem room_to_clear (longer : memory.length < length) :
    memory.length + (Bytes.zeros (length - memory.length)).size ≤
      (memory.bytes.moved size length debris).size := by
  simp only [Bytes.size_moved, Bytes.size_zeros]
  omega

@[simp] theorem size_cleared : (memory.cleared size length debris).size = length := by
  unfold cleared
  split
  · rename_i longer
    rw [Bytes.size_splice (room_to_clear longer), Bytes.size_moved]
  · exact Bytes.size_moved

/-- The block was moved to another one. -/
def reallocated (memory : NativeMemory) (size length : Nat) (debris : Debris)
    (owned : memory.ownership ≠ .external) (needed : length ≠ 0) : NativeMemory where
  bytes := memory.cleared size length debris
  length := length
  layout := some length
  ownership := memory.ownership
  length_eq := size_cleared.symm
  layout_eq := by
    cases owner : memory.ownership with
    | owned => simp [needed]
    | external => exact absurd owner owned

/-- Takes another length. A block that is moved to for it brings debris of its own. -/
def resize (memory : NativeMemory) (length : Nat) (debris : Debris) :
    Except MemoryError NativeMemory :=
  if external : memory.ownership = .external then .error (.illegalArgument .externalRegion)
  else if length = memory.length then .ok memory
  else match memory.layout with
    | none => allocate length
    | some size =>
        if nothing : length = 0 then .ok memory.emptied
        else do
          checkLayout length
          return memory.reallocated size length debris external nothing

/-- The storage that memory is. -/
def region (accessor : Accessor) (memory : NativeMemory) : Region :=
  .native accessor memory.ownership memory.bytes

/-- Whatever the new block held, the bytes are cut, or filled up with zeros. -/
theorem cleared_eq_fit (whole : size = memory.length) :
    memory.cleared size length debris = memory.bytes.fit length := by
  have long := memory.length_eq
  have all : memory.bytes.extract 0 size = memory.bytes := by
    rw [whole, long, Array.extract_size]
  apply Array.ext_getElem?
  intro index
  -- What came along is not reached by the clearing, so it is the same in both cases.
  have came : index < memory.length →
      (memory.bytes.moved size length debris)[index]? = (memory.bytes.fit length)[index]? := by
    intro old
    rw [Bytes.getElem?_moved, Bytes.getElem?_fit, all, Array.getElem?_eq_getElem (long ▸ old)]
    rfl
  unfold cleared
  split
  · rename_i longer
    rw [Bytes.getElem?_splice (room_to_clear longer), Bytes.size_zeros]
    by_cases old : index < memory.length
    · rw [if_neg (by omega), came old]
    · have new : memory.bytes[index]? = none := Array.getElem?_eq_none (by omega)
      by_cases below : index < length
      · rw [if_pos (by omega), Bytes.getElem?_fit, if_pos below, new, Bytes.zeros,
          Array.getElem?_replicate, if_pos (by omega)]
        rfl
      · rw [if_neg (by omega), Bytes.getElem?_moved, Bytes.getElem?_fit, if_neg below,
          if_neg below]
  · by_cases old : index < memory.length
    · exact came old
    · rw [Bytes.getElem?_moved, Bytes.getElem?_fit, if_neg (by omega), if_neg (by omega)]

end NativeMemory

end CursorBuffers
