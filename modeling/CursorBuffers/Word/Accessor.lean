import CursorBuffers.Text.Blank
import CursorBuffers.Word.Basic

/-!
Access to words in raw memory. Where the machine allows it a word is moved in one piece at any
address; elsewhere only at a multiple of its width, and byte by byte at the others. Memory here is a
byte string and an address an index into it.
-/

namespace CursorBuffers

inductive Accessor
  | unaligned
  | aligned
  deriving DecidableEq

namespace Accessor

def text : Accessor → String
  | .unaligned => "Unaligned"
  | .aligned => "Aligned"

/-- The families of machines that move whole words at any address, by the start of their names. -/
def unalignedFamilies : List String := ["x86", "x64", "amd64"]

/-- The accessor of a machine, by the name of its architecture. -/
def forArchitecture (name : String) : Accessor :=
  let normalised := Text.lower (Text.trim name.toList)
  if unalignedFamilies.any fun family => family.toList.isPrefixOf normalised then .unaligned
  else .aligned

/-- The accessor of the machine that this library describes, an x86-64. -/
def host : Accessor := .unaligned

variable {width : Width}

def loadWhole (width : Width) (memory : Bytes) (address : Nat) : Word width :=
  ByteOrder.little.decode width (memory.slice address width.bytes)

def loadBytewise (width : Width) (memory : Bytes) (address : Nat) : Word width :=
  ByteOrder.little.decode width
    ((List.range width.bytes).map fun index => memory.getD (address + index) 0).toArray

def storeWhole (memory : Bytes) (address : Nat) (word : Word width) : Bytes :=
  memory.splice address (ByteOrder.little.encode word)

def storeBytewise (memory : Bytes) (address : Nat) (word : Word width) : Bytes :=
  (List.range width.bytes).foldl
    (fun memory index =>
      memory.setIfInBounds (address + index) ((ByteOrder.little.encode word).getD index 0))
    memory

/-- Reads the host's word at an address. -/
def load (accessor : Accessor) (width : Width) (memory : Bytes) (address : Nat) : Word width :=
  match accessor with
  | .unaligned => loadWhole width memory address
  | .aligned =>
      if address % width.bytes = 0 then loadWhole width memory address
      else loadBytewise width memory address

/-- Writes the host's word at an address. -/
def store (accessor : Accessor) (memory : Bytes) (address : Nat) (word : Word width) : Bytes :=
  match accessor with
  | .unaligned => storeWhole memory address word
  | .aligned =>
      if address % width.bytes = 0 then storeWhole memory address word
      else storeBytewise memory address word

def get (accessor : Accessor) (order : ByteOrder) (width : Width) (memory : Bytes)
    (address : Nat) : Word width :=
  order.convert (accessor.load width memory address)

def set (accessor : Accessor) (order : ByteOrder) (memory : Bytes) (address : Nat)
    (word : Word width) : Bytes :=
  accessor.store memory address (order.convert word)

/-- Moves bytes inside one memory; source and destination may overlap. -/
def copy (memory : Bytes) (source destination length : Nat) : Bytes :=
  memory.splice destination (memory.slice source length)

end Accessor

end CursorBuffers
