import CursorBuffers.Bytes
import CursorBuffers.Word.Digits

/-!
Unsigned words of one, two, four and eight bytes, and the two orders in which memory holds their
bytes. The host keeps the least significant byte first, so only the other order swaps.
-/

namespace CursorBuffers

inductive Width
  | one
  | two
  | four
  | eight
  deriving DecidableEq

def Width.bytes : Width → Nat
  | .one => 1
  | .two => 2
  | .four => 4
  | .eight => 8

abbrev Word (width : Width) := BitVec (8 * width.bytes)

inductive ByteOrder
  | big
  | little
  deriving DecidableEq

variable {width : Width}

/-- The word whose bytes are those of `word` in the opposite order. -/
def Word.swapped (word : Word width) : Word width :=
  BitVec.ofNat _ (Digits.ofHighFirst (Digits.lowFirst width.bytes word.toNat))

namespace ByteOrder

/-- Turns the host's word into the one of this order, and back. -/
def convert (order : ByteOrder) (word : Word width) : Word width :=
  match order with
  | .big => word.swapped
  | .little => word

def encode (order : ByteOrder) (word : Word width) : Bytes :=
  match order with
  | .big => (Digits.highFirst width.bytes word.toNat).toArray
  | .little => (Digits.lowFirst width.bytes word.toNat).toArray

def decode (order : ByteOrder) (width : Width) (bytes : Bytes) : Word width :=
  match order with
  | .big => BitVec.ofNat _ (Digits.ofHighFirst bytes.toList)
  | .little => BitVec.ofNat _ (Digits.ofLowFirst bytes.toList)

/-- Encodes into an output of `room` bytes; only an output of the word's width takes it. -/
def encodeInto? (order : ByteOrder) (word : Word width) (room : Nat) : Option Bytes :=
  if room = width.bytes then some (order.encode word) else none

/-- Decodes an input of the word's width, and no other. -/
def decode? (order : ByteOrder) (width : Width) (bytes : Bytes) : Option (Word width) :=
  if bytes.size = width.bytes then some (order.decode width bytes) else none

@[simp] theorem size_encode {order : ByteOrder} {word : Word width} :
    (order.encode word).size = width.bytes := by
  cases order <;> simp [encode]

theorem toNat_lt_limit {word : Word width} : word.toNat < Digits.limit width.bytes := by
  have bound := word.isLt
  cases width <;> exact bound

theorem toNat_ofNat_of_lt_limit {value : Nat} (small : value < Digits.limit width.bytes) :
    (BitVec.ofNat (8 * width.bytes) value).toNat = value := by
  rw [BitVec.toNat_ofNat]
  apply Nat.mod_eq_of_lt
  cases width <;> exact small

theorem decode_encode {order : ByteOrder} {word : Word width} :
    order.decode width (order.encode word) = word := by
  apply BitVec.eq_of_toNat_eq
  cases order <;>
    simp only [decode, encode, Digits.ofHighFirst_highFirst, Digits.ofLowFirst_lowFirst,
      Nat.mod_eq_of_lt toNat_lt_limit, toNat_ofNat_of_lt_limit toNat_lt_limit]

theorem encode_decode {order : ByteOrder} {bytes : Bytes} (full : bytes.size = width.bytes) :
    order.encode (order.decode width bytes) = bytes := by
  have length : bytes.toList.length = width.bytes := by simpa using full
  cases order with
  | big =>
      have small : Digits.ofHighFirst bytes.toList < Digits.limit width.bytes :=
        length ▸ Digits.ofHighFirst_lt
      simp only [encode, decode, toNat_ofNat_of_lt_limit small]
      rw [← length, Digits.highFirst_ofHighFirst]
  | little =>
      have small : Digits.ofLowFirst bytes.toList < Digits.limit width.bytes :=
        length ▸ Digits.ofLowFirst_lt
      simp only [encode, decode, toNat_ofNat_of_lt_limit small]
      rw [← length, Digits.lowFirst_ofLowFirst]

theorem toList_encode_big {word : Word width} :
    (big.encode word).toList = (little.encode word).toList.reverse := by
  simp [encode, Digits.highFirst_eq_reverse]

end ByteOrder

end CursorBuffers
