import CursorBuffers.Error

namespace CursorBuffers

/-- A request for a buffer. -/
structure Allocation where
  capacity : Nat
  maxCapacity : Nat := capacity
  readerIndex : Nat := 0
  writerIndex : Nat := 0
  checking : Bool := true
  deriving DecidableEq

namespace Allocation

/-- A request for a full buffer of the given length, to be written from its start. -/
def exact (length : Nat) (checking : Bool) : Allocation :=
  { capacity := length, checking := checking }

def validate (request : Allocation) : Except MemoryError Unit :=
  if request.maxCapacity < request.capacity then
    .error (.illegalArgument (.capacityAboveMax request.capacity request.maxCapacity))
  else if request.writerIndex < request.readerIndex ∨ request.capacity < request.writerIndex then
    .error (.outOfRange (.cursors request.readerIndex request.writerIndex request.capacity))
  else .ok ()

def text (request : Allocation) : String :=
  Text.record "Allocation"
    [("capacity", toString request.capacity), ("max_capacity", toString request.maxCapacity),
      ("reader_index", toString request.readerIndex),
      ("writer_index", toString request.writerIndex), ("checking", toString request.checking)]

theorem validate_eq_ok {request : Allocation} :
    request.validate = .ok () ↔ request.capacity ≤ request.maxCapacity ∧
      request.readerIndex ≤ request.writerIndex ∧ request.writerIndex ≤ request.capacity := by
  unfold validate
  split
  · simp
    omega
  · split
    · simp
      omega
    · simp
      omega

theorem validate_exact {length : Nat} {checking : Bool} :
    (Allocation.exact length checking).validate = .ok () :=
  validate_eq_ok.mpr ⟨Nat.le_refl _, Nat.le_refl _, Nat.zero_le _⟩

end Allocation

end CursorBuffers
