import CursorBuffers.Config.Memory
import CursorBuffers.Error
import CursorBuffers.Word.Accessor

/-!
Storage: a run of bytes in native memory or in a managed array. New storage is zero, and so is what
a resize adds. Every access is checked against the physical length, whatever was checked before.
-/

namespace CursorBuffers

inductive Ownership
  | owned
  | external
  deriving DecidableEq

/-- Whether native memory can be used, and how. -/
inductive Capability
  | available (accessor : Accessor)
  | unavailable
  deriving DecidableEq

inductive Backend
  | native (accessor : Accessor)
  | managed
  deriving DecidableEq

inductive Region
  | native (accessor : Accessor) (ownership : Ownership) (bytes : Bytes)
  | managed (bytes : Bytes)

namespace Capability

/-- The host has native memory, unless the configuration rules it out. -/
def probe (config : MemoryConfig) : Capability :=
  if config.forceManaged then .unavailable else .available .host

def text : Capability → String
  | .available accessor => s!"Available({accessor.text})"
  | .unavailable => "Unavailable"

end Capability

namespace Backend

/-- Native memory where it can be used. -/
def select (config : MemoryConfig) : Backend :=
  match Capability.probe config with
  | .available accessor => .native accessor
  | .unavailable => .managed

def text : Backend → String
  | .native accessor => s!"Native({accessor.text})"
  | .managed => "Managed"

def isNative : Backend → Bool
  | .native _ => true
  | .managed => false

def allocate (backend : Backend) (length : Nat) : Region :=
  match backend with
  | .native accessor => .native accessor .owned (Bytes.zeros length)
  | .managed => .managed (Bytes.zeros length)

end Backend

/-- Native memory is resized by a fresh allocation if there was none, by giving it back if nothing
is to be left, and else by reallocation. -/
def Bytes.reallocate (bytes : Bytes) (length : Nat) : Bytes :=
  if length = bytes.size then bytes
  else if bytes.size = 0 then zeros length
  else if length = 0 then #[]
  else if bytes.size < length then bytes ++ zeros (length - bytes.size)
  else bytes.extract 0 length

/-- A managed array is resized at its end. -/
def Bytes.adjust (bytes : Bytes) (length : Nat) : Bytes :=
  if bytes.size < length then bytes ++ zeros (length - bytes.size) else bytes.extract 0 length

theorem Bytes.reallocate_eq_fit {bytes : Bytes} {length : Nat} :
    bytes.reallocate length = bytes.fit length := by
  by_cases same : length = bytes.size
  · simp [reallocate, fit, zeros, same]
  · by_cases empty : bytes.size = 0
    · have nothing : bytes = #[] := Array.eq_empty_of_size_eq_zero empty
      subst nothing
      simp [reallocate, fit, zeros]
    · by_cases nothing : length = 0
      · simp [reallocate, fit, zeros, nothing, empty, Ne.symm empty]
      · by_cases grown : bytes.size < length
        · simp [reallocate, fit, same, empty, nothing, grown]
        · have surplus : length - bytes.size = 0 := by omega
          simp [reallocate, fit, zeros, same, empty, nothing, grown, surplus]

theorem Bytes.adjust_eq_fit {bytes : Bytes} {length : Nat} :
    bytes.adjust length = bytes.fit length := by
  by_cases grown : bytes.size < length
  · simp [adjust, fit, grown]
  · have surplus : length - bytes.size = 0 := by omega
    simp [adjust, fit, zeros, grown, surplus]

namespace Region

def bytes : Region → Bytes
  | .native _ _ bytes => bytes
  | .managed bytes => bytes

def size (region : Region) : Nat := region.bytes.size

def backend : Region → Backend
  | .native accessor _ _ => .native accessor
  | .managed _ => .managed

def isNative (region : Region) : Bool := region.backend.isNative

/-- The same storage with other content. -/
def withBytes (region : Region) (bytes : Bytes) : Region :=
  match region with
  | .native accessor ownership _ => .native accessor ownership bytes
  | .managed _ => .managed bytes

/-- Memory that belongs to somebody else keeps its size. -/
def resize (region : Region) (length : Nat) : Except MemoryError Region :=
  match region with
  | .native _ .external _ => .error (.illegalArgument .externalRegion)
  | .native accessor .owned bytes => .ok (.native accessor .owned (bytes.reallocate length))
  | .managed bytes => .ok (.managed (bytes.adjust length))

/-- Grows to a length, and never shrinks. -/
def reserve (region : Region) (length : Nat) : Except MemoryError Region :=
  if region.size < length then region.resize length else .ok region

def checkRange (region : Region) (offset length : Nat) : Except MemoryError Unit :=
  if offset + length ≤ region.size then .ok ()
  else .error (.outOfRange (.storage offset length region.size))

def read (region : Region) (offset length : Nat) : Except MemoryError Bytes := do
  region.checkRange offset length
  return region.bytes.slice offset length

def write (region : Region) (offset : Nat) (data : Bytes) : Except MemoryError Region := do
  region.checkRange offset data.size
  return region.withBytes (region.bytes.splice offset data)

def getWord (region : Region) (order : ByteOrder) (width : Width) (offset : Nat) :
    Except MemoryError (Word width) := do
  region.checkRange offset width.bytes
  match region with
  | .native accessor _ bytes => return accessor.get order width bytes offset
  | .managed bytes => return order.decode width (bytes.slice offset width.bytes)

def setWord {width : Width} (region : Region) (order : ByteOrder) (offset : Nat)
    (word : Word width) : Except MemoryError Region := do
  region.checkRange offset width.bytes
  match region with
  | .native accessor ownership bytes =>
      return .native accessor ownership (accessor.set order bytes offset word)
  | .managed bytes => return .managed (bytes.splice offset (order.encode word))

end Region

/-- A region that buffers may share, and whether it was released. -/
structure Arena where
  region : Region
  freed : Bool := false

/-- What stands for an arena that does not exist. -/
def Arena.empty : Arena := ⟨.managed #[], false⟩

end CursorBuffers
