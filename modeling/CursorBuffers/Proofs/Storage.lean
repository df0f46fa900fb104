import CursorBuffers.Region

namespace CursorBuffers

variable {width : Width} {memory data : Bytes} {address count index offset length : Nat}

theorem ByteOrder.little_encode_convert {order : ByteOrder} {word : Word width} :
    little.encode (order.convert word) = order.encode word := by
  cases order with
  | little => rfl
  | big =>
      let digits := Digits.lowFirst width.bytes word.toNat
      have size : digits.reverse.length = width.bytes := by simp [digits]
      have small : Digits.ofLowFirst digits.reverse < Digits.limit width.bytes := by
        rw [← size]
        exact Digits.ofLowFirst_lt
      have written : Digits.lowFirst width.bytes (Digits.ofLowFirst digits.reverse) =
          digits.reverse := by
        rw [← size]
        exact Digits.lowFirst_ofLowFirst
      simp only [encode, convert, Word.swapped, Digits.ofHighFirst_eq_reverse]
      rw [toNat_ofNat_of_lt_limit small, written, Digits.highFirst_eq_reverse]

theorem ByteOrder.convert_decode {order : ByteOrder} {bytes : Bytes}
    (full : bytes.size = width.bytes) :
    order.convert (little.decode width bytes) = order.decode width bytes := by
  cases order with
  | little => rfl
  | big =>
      have length : bytes.toList.length = width.bytes := by simpa using full
      have small : Digits.ofLowFirst bytes.toList < Digits.limit width.bytes :=
        length ▸ Digits.ofLowFirst_lt
      have written : Digits.lowFirst width.bytes (Digits.ofLowFirst bytes.toList) =
          bytes.toList := by
        rw [← length]
        exact Digits.lowFirst_ofLowFirst
      simp only [convert, Word.swapped, decode, toNat_ofNat_of_lt_limit small, written]

namespace Accessor

/-- Bytes stored one at a time, from the first to the last. -/
theorem getElem?_foldl_setIfInBounds (some : count ≤ data.size)
    (room : address + count ≤ memory.size) :
    ((List.range count).foldl
      (fun memory index => memory.setIfInBounds (address + index) (data.getD index 0))
      memory)[index]? =
      if address ≤ index ∧ index < address + count then data[index - address]?
      else memory[index]? := by
  induction count with
  | zero =>
      have outside : ¬ (address ≤ index ∧ index < address + 0) := by omega
      rw [if_neg outside]
      rfl
  | succ count ih =>
      have size : ∀ (indices : List Nat) (start : Bytes),
          (indices.foldl (fun memory index =>
            memory.setIfInBounds (address + index) (data.getD index 0)) start).size =
            start.size := by
        intro indices
        induction indices with
        | nil => exact fun start => rfl
        | cons first rest ih =>
            intro start
            rw [List.foldl_cons, ih, Array.size_setIfInBounds]
      rw [List.range_succ, List.foldl_append, List.foldl_cons, List.foldl_nil,
        Array.getElem?_setIfInBounds, size]
      by_cases last : address + count = index
      · subst last
        have within : count < data.size := by omega
        have stored : address + count < memory.size := by omega
        rw [if_pos rfl, if_pos stored, if_pos (by omega), Nat.add_sub_cancel_left,
          Array.getElem?_eq_getElem within, Array.getD_eq_getD_getElem?,
          Array.getElem?_eq_getElem within]
        rfl
      · rw [if_neg last, ih (by omega) (by omega)]
        by_cases inside : address ≤ index ∧ index < address + count
        · rw [if_pos inside, if_pos (by omega)]
        · rw [if_neg inside, if_neg (by omega)]

variable {word : Word width}

theorem storeBytewise_eq_storeWhole (room : address + width.bytes ≤ memory.size) :
    storeBytewise memory address word = storeWhole memory address word := by
  apply Array.ext_getElem?
  intro index
  have size : (ByteOrder.little.encode word).size = width.bytes := ByteOrder.size_encode
  rw [storeBytewise, getElem?_foldl_setIfInBounds (Nat.le_of_eq size.symm) room, storeWhole,
    Bytes.getElem?_splice (by rw [size]; exact room), size]

/-- A word is stored as the bytes of its encoding, in one piece or not. -/
theorem set_eq_splice {accessor : Accessor} {order : ByteOrder}
    (room : address + width.bytes ≤ memory.size) :
    accessor.set order memory address word = memory.splice address (order.encode word) := by
  have whole : storeWhole memory address (order.convert word) =
      memory.splice address (order.encode word) := by
    rw [storeWhole, ByteOrder.little_encode_convert]
  cases accessor with
  | unaligned => exact whole
  | aligned =>
      simp only [set, store]
      split
      · exact whole
      · rw [storeBytewise_eq_storeWhole room, whole]

theorem loadBytewise_eq_loadWhole (room : address + width.bytes ≤ memory.size) :
    loadBytewise width memory address = loadWhole width memory address := by
  have same : ((List.range width.bytes).map fun index => memory.getD (address + index) 0).toArray =
      memory.slice address width.bytes := by
    apply Array.ext_getElem?
    intro index
    by_cases within : index < width.bytes
    · have stored : address + index < memory.size := by omega
      rw [Bytes.getElem?_slice within]
      simp [within, stored]
    · rw [Array.getElem?_eq_none (by simpa using within),
        Array.getElem?_eq_none (by rw [Bytes.size_slice room]; omega)]
  rw [loadBytewise, same, loadWhole]

/-- A word is read as what its bytes denote, in one piece or not. -/
theorem get_eq_decode {accessor : Accessor} {order : ByteOrder}
    (room : address + width.bytes ≤ memory.size) :
    accessor.get order width memory address =
      order.decode width (memory.slice address width.bytes) := by
  have whole : order.convert (loadWhole width memory address) =
      order.decode width (memory.slice address width.bytes) :=
    ByteOrder.convert_decode (Bytes.size_slice room)
  cases accessor with
  | unaligned => exact whole
  | aligned =>
      simp only [get, load]
      split
      · exact whole
      · rw [loadBytewise_eq_loadWhole room, whole]

end Accessor

namespace Region

variable {region after : Region}

/-- The storage is not memory that belongs to somebody else. -/
def IsOwned : Region → Prop
  | .native _ .external _ => False
  | _ => True

@[simp] theorem bytes_withBytes : (region.withBytes data).bytes = data := by
  cases region <;> rfl

@[simp] theorem backend_withBytes : (region.withBytes data).backend = region.backend := by
  cases region <;> rfl

@[simp] theorem isOwned_withBytes : (region.withBytes data).IsOwned ↔ region.IsOwned := by
  cases region with
  | native accessor ownership content => cases ownership <;> rfl
  | managed content => rfl

theorem checkRange_eq_ok : region.checkRange offset length = .ok () ↔
    offset + length ≤ region.size := by
  by_cases within : offset + length ≤ region.size <;> simp [checkRange, within]

theorem checkRange_eq_error (beyond : ¬ offset + length ≤ region.size) :
    region.checkRange offset length = .error (.outOfRange (.storage offset length region.size)) :=
  if_neg beyond

theorem read_eq_ok (within : offset + length ≤ region.size) :
    region.read offset length = .ok (region.bytes.slice offset length) := by
  rw [read, checkRange_eq_ok.mpr within]
  rfl

theorem write_eq_ok (within : offset + data.size ≤ region.size) :
    region.write offset data = .ok (region.withBytes (region.bytes.splice offset data)) := by
  rw [write, checkRange_eq_ok.mpr within]
  rfl

theorem within_of_read (read : region.read offset length = .ok data) :
    offset + length ≤ region.size ∧ data = region.bytes.slice offset length := by
  by_cases within : offset + length ≤ region.size
  · rw [read_eq_ok within, Except.ok.injEq] at read
    exact ⟨within, read.symm⟩
  · rw [Region.read, checkRange_eq_error within] at read
    contradiction

theorem within_of_write (written : region.write offset data = .ok after) :
    offset + data.size ≤ region.size ∧
      after = region.withBytes (region.bytes.splice offset data) := by
  by_cases within : offset + data.size ≤ region.size
  · rw [write_eq_ok within, Except.ok.injEq] at written
    exact ⟨within, written.symm⟩
  · rw [write, checkRange_eq_error within] at written
    contradiction

/-- A word is written as the bytes of its encoding, whatever the storage. -/
theorem setWord_eq_write {order : ByteOrder} {word : Word width} :
    region.setWord order offset word = region.write offset (order.encode word) := by
  by_cases within : offset + width.bytes ≤ region.size
  · have room : offset + (order.encode word).size ≤ region.size := by
      rw [ByteOrder.size_encode]
      exact within
    rw [write_eq_ok room]
    unfold setWord
    rw [checkRange_eq_ok.mpr within]
    cases region with
    | native accessor ownership content =>
        have inside : offset + width.bytes ≤ content.size := within
        simp only [bind, Except.bind, pure, Except.pure, Accessor.set_eq_splice inside]
        rfl
    | managed content => rfl
  · unfold setWord
    rw [write, ByteOrder.size_encode, checkRange_eq_error within]
    rfl

/-- A word is read as what its bytes denote, whatever the storage. -/
theorem getWord_eq_read {order : ByteOrder} :
    region.getWord order width offset =
      (region.read offset width.bytes).map (order.decode width) := by
  by_cases within : offset + width.bytes ≤ region.size
  · rw [read_eq_ok within]
    unfold getWord
    rw [checkRange_eq_ok.mpr within]
    cases region with
    | native accessor ownership content =>
        have inside : offset + width.bytes ≤ content.size := within
        simp only [bind, Except.bind, pure, Except.pure, Accessor.get_eq_decode inside]
        rfl
    | managed content => rfl
  · unfold getWord
    rw [Region.read, checkRange_eq_error within]
    rfl

/-- The range check alone decides whether a word is read. -/
theorem map_getWord {order : ByteOrder} :
    (region.getWord order width offset).map (fun _ => ()) =
      region.checkRange offset width.bytes := by
  unfold getWord
  cases region.checkRange offset width.bytes with
  | error error => rfl
  | ok _ => cases region <;> rfl

theorem map_setWord {order : ByteOrder} {word : Word width} :
    (region.setWord order offset word).map (fun _ => ()) =
      region.checkRange offset width.bytes := by
  unfold setWord
  cases region.checkRange offset width.bytes with
  | error error => rfl
  | ok _ => cases region <;> rfl

theorem map_read : (region.read offset length).map (fun _ => ()) =
    region.checkRange offset length := by
  unfold Region.read
  cases region.checkRange offset length <;> rfl

theorem map_write : (region.write offset data).map (fun _ => ()) =
    region.checkRange offset data.size := by
  unfold write
  cases region.checkRange offset data.size <;> rfl

theorem size_write (written : region.write offset data = .ok after) : after.size = region.size := by
  obtain ⟨within, rfl⟩ := within_of_write written
  rw [size, bytes_withBytes, Bytes.size_splice within, size]

theorem backend_write (written : region.write offset data = .ok after) :
    after.backend = region.backend := by
  obtain ⟨_, rfl⟩ := within_of_write written
  exact backend_withBytes

/-- What is resized keeps its bytes as far as they fit. -/
theorem fit_of_resize (resized : region.resize length = .ok after) :
    after = region.withBytes (region.bytes.fit length) := by
  cases region with
  | native accessor ownership content =>
      cases ownership with
      | external => simp [resize] at resized
      | owned =>
          cases resized
          rw [Bytes.reallocate_eq_fit]
          rfl
  | managed content =>
      cases resized
      rw [Bytes.adjust_eq_fit]
      rfl

theorem resize_eq_ok (owned : region.IsOwned) :
    region.resize length = .ok (region.withBytes (region.bytes.fit length)) := by
  cases region with
  | native accessor ownership content =>
      cases ownership with
      | external => exact owned.elim
      | owned => exact congrArg Except.ok (fit_of_resize rfl)
  | managed content => exact congrArg Except.ok (fit_of_resize rfl)

theorem resize_eq_error (external : ¬ region.IsOwned) :
    region.resize length = .error (.illegalArgument .externalRegion) := by
  cases region with
  | native accessor ownership content =>
      cases ownership with
      | external => rfl
      | owned => exact absurd trivial external
  | managed content => exact absurd trivial external

theorem reserve_eq_ok (owned : region.IsOwned) : ∃ after, region.reserve length = .ok after := by
  unfold reserve
  split
  · exact ⟨_, resize_eq_ok owned⟩
  · exact ⟨_, rfl⟩

theorem size_resize (resized : region.resize length = .ok after) : after.size = length := by
  rw [fit_of_resize resized, size, bytes_withBytes, Bytes.size_fit]

theorem backend_resize (resized : region.resize length = .ok after) :
    after.backend = region.backend := by
  rw [fit_of_resize resized, backend_withBytes]

theorem size_reserve (reserved : region.reserve length = .ok after) :
    after.size = max region.size length := by
  unfold reserve at reserved
  split at reserved
  · rename_i short
    rw [size_resize reserved, Nat.max_eq_right (Nat.le_of_lt short)]
  · rename_i enough
    cases reserved
    rw [Nat.max_eq_left (Nat.le_of_not_lt enough)]

/-- Whatever is missing up to the length is zero. -/
theorem bytes_reserve (reserved : region.reserve length = .ok after) :
    after.bytes = region.bytes ++ Bytes.zeros (length - region.size) := by
  unfold reserve at reserved
  split at reserved
  · rename_i short
    have whole : region.bytes.extract 0 length = region.bytes :=
      Array.extract_eq_self_of_le (Nat.le_of_lt short)
    rw [fit_of_resize reserved, bytes_withBytes, Bytes.fit, whole, size]
  · rename_i enough
    cases reserved
    rw [Nat.sub_eq_zero_of_le (Nat.le_of_not_lt enough)]
    simp [Bytes.zeros]

theorem backend_reserve (reserved : region.reserve length = .ok after) :
    after.backend = region.backend := by
  unfold reserve at reserved
  split at reserved
  · exact backend_resize reserved
  · cases reserved
    rfl

theorem isOwned_write (written : region.write offset data = .ok after) :
    after.IsOwned ↔ region.IsOwned := by
  obtain ⟨_, rfl⟩ := within_of_write written
  exact isOwned_withBytes

theorem isOwned_resize (resized : region.resize length = .ok after) :
    after.IsOwned ↔ region.IsOwned := by
  rw [fit_of_resize resized, isOwned_withBytes]

theorem isOwned_reserve (reserved : region.reserve length = .ok after) :
    after.IsOwned ↔ region.IsOwned := by
  unfold reserve at reserved
  split at reserved
  · exact isOwned_resize reserved
  · cases reserved
    rfl

theorem isOwned_allocate {backend : Backend} : (backend.allocate length).IsOwned := by
  cases backend <;> trivial

@[simp] theorem bytes_allocate {backend : Backend} :
    (backend.allocate length).bytes = Bytes.zeros length := by
  cases backend <;> rfl

@[simp] theorem size_allocate {backend : Backend} : (backend.allocate length).size = length := by
  rw [size, bytes_allocate, Bytes.size_zeros]

@[simp] theorem backend_allocate {backend : Backend} :
    (backend.allocate length).backend = backend := by
  cases backend <;> rfl

end Region

end CursorBuffers
