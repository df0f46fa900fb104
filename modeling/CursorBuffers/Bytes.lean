/-!
Byte strings and the three edits that storage knows: a part is read, a part is overwritten, and the
whole is cut or lengthened.
-/

namespace CursorBuffers

abbrev Bytes := Array UInt8

namespace Bytes

variable {bytes data : Bytes} {offset length index : Nat}

/-- The longest byte string that the indices of a buffer reach. -/
def lengthLimit : Nat := 4294967295

def zeros (length : Nat) : Bytes := Array.replicate length 0

/-- The bytes at `[offset, offset + length)`. -/
def slice (bytes : Bytes) (offset length : Nat) : Bytes := bytes.extract offset (offset + length)

/-- Overwrites the bytes from `offset` on with `data`. -/
def splice (bytes : Bytes) (offset : Nat) (data : Bytes) : Bytes :=
  bytes.extract 0 offset ++ data ++ bytes.extract (offset + data.size) bytes.size

/-- Cuts to `length`, or fills up to it with zeros. -/
def fit (bytes : Bytes) (length : Nat) : Bytes :=
  bytes.extract 0 length ++ zeros (length - bytes.size)

/-- The bytes of all chunks, one chunk after the other. -/
def join (chunks : List Bytes) : Bytes := chunks.foldl (· ++ ·) #[]

@[simp] theorem size_zeros : (zeros length).size = length := by
  simp [zeros]

@[simp] theorem size_slice (within : offset + length ≤ bytes.size) :
    (bytes.slice offset length).size = length := by
  simp [slice]
  omega

@[simp] theorem size_splice (within : offset + data.size ≤ bytes.size) :
    (bytes.splice offset data).size = bytes.size := by
  simp [splice]
  omega

@[simp] theorem size_fit : (bytes.fit length).size = length := by
  simp [fit]
  omega

theorem getElem?_slice (within : index < length) :
    (bytes.slice offset length)[index]? = bytes[offset + index]? := by
  simp only [slice, Array.getElem?_extract]
  split <;> rename_i bound
  · rfl
  · rw [Array.getElem?_eq_none (by omega)]

theorem getElem?_splice (within : offset + data.size ≤ bytes.size) :
    (bytes.splice offset data)[index]? =
      if offset ≤ index ∧ index < offset + data.size then data[index - offset]?
      else bytes[index]? := by
  have first : (bytes.extract 0 offset).size = offset := by simp; omega
  simp only [splice]
  by_cases before : index < offset
  · rw [if_neg (by omega), Array.append_assoc, Array.getElem?_append_left (by omega)]
    simp [Array.getElem?_extract]
    omega
  · by_cases inside : index < offset + data.size
    · rw [if_pos (by omega), Array.append_assoc, Array.getElem?_append_right (by omega), first,
        Array.getElem?_append_left (by omega)]
    · rw [if_neg (by omega), Array.getElem?_append_right (by simp only [Array.size_append]; omega)]
      simp only [Array.size_append, first, Array.getElem?_extract]
      split <;> rename_i bound
      · congr 1
        omega
      · rw [Array.getElem?_eq_none (by omega)]

theorem getElem?_fit :
    (bytes.fit length)[index]? =
      if index < length then some (bytes[index]?.getD 0) else none := by
  by_cases below : index < length
  · rw [if_pos below]
    by_cases old : index < bytes.size
    · rw [fit, Array.getElem?_append_left (by simp; omega)]
      simp [Array.getElem?_extract, old]
      omega
    · rw [fit, Array.getElem?_append_right (by simp; omega)]
      simp [zeros, Array.getElem?_replicate, old]
      omega
  · rw [if_neg below, Array.getElem?_eq_none (by simpa using Nat.le_of_not_lt below)]

theorem slice_congr {other : Bytes} (within : offset + length ≤ bytes.size)
    (also : offset + length ≤ other.size)
    (same : ∀ index, offset ≤ index → index < offset + length → bytes[index]? = other[index]?) :
    bytes.slice offset length = other.slice offset length := by
  apply Array.ext_getElem?
  intro index
  by_cases inside : index < length
  · rw [getElem?_slice inside, getElem?_slice inside]
    exact same _ (Nat.le_add_right _ _) (by omega)
  · rw [Array.getElem?_eq_none (by rw [size_slice within]; omega),
      Array.getElem?_eq_none (by rw [size_slice also]; omega)]

theorem toList_slice : (bytes.slice offset length).toList =
    (bytes.toList.drop offset).take length := by
  simp [slice]

theorem join_cons {chunks : List Bytes} : join (data :: chunks) = data ++ join chunks := by
  have all : ∀ start : Bytes, chunks.foldl (· ++ ·) start = start ++ join chunks := by
    induction chunks with
    | nil => exact fun start => Array.append_empty.symm
    | cons chunk rest ih =>
        intro start
        rw [join, List.foldl_cons, List.foldl_cons, ih, ih, Array.empty_append, Array.append_assoc]
  rw [join, List.foldl_cons, Array.empty_append, all]

/-- What is written behind a part of a byte string comes behind it. -/
theorem slice_splice (within : offset + length + data.size ≤ bytes.size) :
    (bytes.splice (offset + length) data).slice offset (length + data.size) =
      bytes.slice offset length ++ data := by
  have room : offset + length + data.size ≤ (bytes.splice (offset + length) data).size := by
    rw [size_splice within]
    exact within
  have first : (bytes.slice offset length).size = length := size_slice (by omega)
  apply Array.ext_getElem?
  intro index
  by_cases before : index < length
  · rw [getElem?_slice (by omega), getElem?_splice within, if_neg (by omega),
      Array.getElem?_append_left (by omega), getElem?_slice before]
  · rw [Array.getElem?_append_right (by omega), first]
    by_cases inside : index < length + data.size
    · rw [getElem?_slice inside, getElem?_splice within, if_pos (by omega)]
      congr 1
      omega
    · rw [Array.getElem?_eq_none (by rw [size_slice (by omega)]; omega),
        Array.getElem?_eq_none (by omega)]

end Bytes

end CursorBuffers
