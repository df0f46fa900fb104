import CursorBuffers.Proofs.Coverage

namespace CursorBuffers

theorem Bytes.fit_size {bytes : Bytes} : bytes.fit bytes.size = bytes := by
  simp [fit, zeros]

namespace Region

variable {region after : Region} {length index : Nat}

@[simp] theorem withBytes_bytes : region.withBytes region.bytes = region := by
  cases region <;> rfl

theorem fit_of_reserve (reserved : region.reserve length = .ok after) :
    after = region.withBytes (region.bytes.fit (max region.size length)) := by
  unfold reserve at reserved
  split at reserved
  · rename_i short
    rw [Nat.max_eq_right (Nat.le_of_lt short)]
    exact fit_of_resize reserved
  · rename_i enough
    cases reserved
    rw [Nat.max_eq_left (Nat.le_of_not_lt enough), size, Bytes.fit_size, withBytes_bytes]

end Region

variable {store after : Store} {id other : BufferId} {buffer window : Buffer}
variable {capacity length index : Nat} {region : Region}

theorem Buffer.Ordered.cursors_withCapacity (ordered : buffer.Ordered)
    (larger : buffer.capacity ≤ capacity) :
    (buffer.withCapacity capacity).readerIndex = buffer.readerIndex ∧
      (buffer.withCapacity capacity).writerIndex = buffer.writerIndex := by
  obtain ⟨reader, writer, _⟩ := ordered
  simp only [Buffer.withCapacity]
  omega

namespace Store

/-- The store in which a buffer has taken another capacity, on a region that is fit for it. -/
def refitted (store : Store) (id : BufferId) (buffer : Buffer) (capacity : Nat)
    (region : Region) : Store :=
  ((store.setRegion buffer.arena region).emitGrowth buffer capacity).mapBuffer id fun _ =>
    buffer.withCapacity capacity

theorem buffers_refitted : (store.refitted id buffer capacity region).buffers =
    store.buffers.update id fun _ => buffer.withCapacity capacity := by
  simp [refitted, mapBuffer]

theorem get?_refitted (live : store.buffers.get? id = some buffer) :
    (store.refitted id buffer capacity region).buffers.get? other =
      if other = id then some (buffer.withCapacity capacity) else store.buffers.get? other := by
  rw [buffers_refitted, Table.get?_update, live]
  rfl

theorem arena_refitted {arena : ArenaId} :
    (store.refitted id buffer capacity region).arena arena =
      (store.setRegion buffer.arena region).arena arena := by
  simp [refitted]

/-- A region that was made fit for a capacity holds the window, and keeps its bytes as far as it
reaches. Only the sole holder cuts any off. -/
theorem fit_of_resized (resized : store.resized buffer capacity = .ok region) :
    ∃ length, region = (store.arena buffer.arena).region.withBytes
        ((store.arena buffer.arena).region.bytes.fit length) ∧
      buffer.offset + capacity ≤ length ∧
      (store.isExclusive buffer = false → (store.arena buffer.arena).region.size ≤ length) := by
  unfold Store.resized at resized
  simp only at resized
  split at resized
  · rename_i exclusive
    refine ⟨_, Region.fit_of_resize resized, Nat.le_refl _, fun shared => ?_⟩
    rw [exclusive] at shared
    contradiction
  · exact ⟨_, Region.fit_of_reserve resized, Nat.le_max_right _ _, fun _ => Nat.le_max_left _ _⟩

/-- Owned storage is made fit for any capacity. -/
theorem resized_eq_ok (owned : (store.arena buffer.arena).region.IsOwned) :
    ∃ region, store.resized buffer capacity = .ok region := by
  unfold Store.resized
  simp only
  split
  · exact ⟨_, Region.resize_eq_ok owned⟩
  · exact Region.reserve_eq_ok owned

theorem eq_of_isExclusive (exclusive : store.isExclusive buffer = true)
    (live : store.buffers.get? id = some buffer) (also : store.buffers.get? other = some window)
    (shared : window.arena = buffer.arena) : other = id := by
  simp only [isExclusive, Bool.and_eq_true, beq_iff_eq] at exclusive
  exact eq_of_holders_eq_one exclusive.2 live rfl also shared

/-- What a buffer shows stays when another one, or itself, takes another capacity, unless that
capacity is its own and cuts it off. -/
theorem Covered.byte_fitted (covered : store.Covered)
    (live : store.buffers.get? id = some buffer)
    (resized : store.resized buffer capacity = .ok region)
    (also : store.buffers.get? other = some window)
    (inside : index < window.offset + window.capacity)
    (left : other = id → index < window.offset + capacity) :
    ((store.refitted id buffer capacity region).arena window.arena).region.bytes[index]? =
      (store.arena window.arena).region.bytes[index]? := by
  rw [arena_refitted]
  rcases store.region_setRegion_cases with kept | ⟨shared, set⟩
  · rw [kept]
  · obtain ⟨length, rfl, fits, keeps⟩ := fit_of_resized resized
    have stored : index < (store.arena window.arena).region.size :=
      Nat.lt_of_lt_of_le inside (covered.covers also)
    -- Where bytes are cut off, nobody but the buffer itself is on the arena.
    have reached : index < length := by
      cases exclusive : store.isExclusive buffer with
      | false =>
          rw [shared] at stored
          exact Nat.lt_of_lt_of_le stored (keeps exclusive)
      | true =>
          obtain rfl := eq_of_isExclusive exclusive live also shared
          cases live.symm.trans also
          exact Nat.lt_of_lt_of_le (left rfl) fits
    rw [set, Region.bytes_withBytes, Bytes.getElem?_fit, if_pos reached, shared]
    rw [shared] at stored
    rw [Array.getElem?_eq_getElem stored]
    rfl

/-- What a buffer shows stays when another one, or itself, takes a larger capacity. -/
theorem Covered.byte_refitted (covered : store.Covered)
    (live : store.buffers.get? id = some buffer) (larger : buffer.capacity ≤ capacity)
    (resized : store.resized buffer capacity = .ok region)
    (also : store.buffers.get? other = some window)
    (inside : index < window.offset + window.capacity) :
    ((store.refitted id buffer capacity region).arena window.arena).region.bytes[index]? =
      (store.arena window.arena).region.bytes[index]? := by
  refine covered.byte_fitted live resized also inside fun same => ?_
  subst same
  cases live.symm.trans also
  exact Nat.lt_of_lt_of_le inside (Nat.add_le_add_left larger _)

end Store

/-- The outcomes of making room for `length` bytes. -/
inductive RoomMade (store : Store) (id : BufferId) (buffer : Buffer) (length : Nat) :
    Except Failure Unit × Store → Prop
  | ample (enough : length ≤ buffer.writableBytes) : RoomMade store id buffer length (.ok (), store)
  | grown {capacity : Nat} {region : Region} (short : buffer.writableBytes < length)
      (larger : buffer.capacity < capacity) (needed : buffer.writerIndex + length ≤ capacity)
      (allowed : capacity ≤ buffer.maxCapacity)
      (resized : store.resized buffer capacity = .ok region) :
      RoomMade store id buffer length (.ok (), store.refitted id buffer capacity region)
  | refused {error : MemoryError} (short : buffer.writableBytes < length)
      (reason : buffer.maxCapacity < buffer.writerIndex + length ∨
        buffer.checkAccessible (store.arena buffer.arena) ≠ .ok () ∨
        ¬ (store.arena buffer.arena).region.IsOwned) :
      RoomMade store id buffer length (.error (.memory error), store)

namespace Action

theorem roomMade (live : store.buffers.get? id = some buffer) :
    RoomMade store id buffer length (runOn (ensureWritable id length) store) := by
  rw [runOn_ensureWritable live]
  split
  · rename_i short
    have short : buffer.writableBytes < length := short
    by_cases possible : buffer.writerIndex + length ≤ buffer.maxCapacity
    · obtain ⟨capacity, chosen⟩ := Growth.exists_capacityFor possible
      have needed := Growth.le_of_capacityFor chosen
      have allowed := Growth.le_maximum_of_capacityFor chosen
      have larger : buffer.capacity < capacity := by
        simp only [Buffer.writableBytes] at short
        omega
      have fits : ¬ buffer.maxWritableBytes < length := by
        simp only [Buffer.maxWritableBytes]
        omega
      simp only [Buffer.grownCapacity, if_neg fits, chosen, runOn_setCapacity live,
        Buffer.checkNewCapacity_eq_ok.mpr allowed]
      cases accessible : buffer.checkAccessible (store.arena buffer.arena) with
      | error error => exact .refused short (.inr (.inl (by simp [accessible])))
      | ok _ =>
          cases resized : store.resized buffer capacity with
          | error error =>
              refine .refused short (.inr (.inr fun owned => ?_))
              obtain ⟨region, done⟩ := Store.resized_eq_ok owned
              cases done.symm.trans resized
          | ok region => exact .grown short larger needed allowed resized
    · have beyond : buffer.maxCapacity < buffer.writerIndex + length := Nat.lt_of_not_le possible
      cases chosen : buffer.grownCapacity length with
      | error error => exact .refused short (.inl beyond)
      | ok capacity =>
          unfold Buffer.grownCapacity at chosen
          split at chosen
          · contradiction
          · have needed := Growth.le_of_capacityFor chosen
            have allowed := Growth.le_maximum_of_capacityFor chosen
            omega
  · rename_i enough
    exact .ample (Nat.le_of_not_lt enough)

theorem cursors_of_room (ordered : ∀ {other buffer}, store.buffers.get? other = some buffer →
      buffer.Ordered) (made : runOn (ensureWritable id length) store = (.ok (), after))
    (live : store.buffers.get? other = some buffer) :
    ∃ later, after.buffers.get? other = some later ∧ buffer.Akin later ∧
      later.readerIndex = buffer.readerIndex ∧ later.writerIndex = buffer.writerIndex ∧
      buffer.capacity ≤ later.capacity := by
  obtain ⟨found, _, alive, _⟩ := runOn_ensureWritable_eq_ok made
  have outcome : RoomMade store id found length _ := roomMade alive
  rw [made] at outcome
  cases outcome with
  | ample enough => exact ⟨buffer, live, .refl, rfl, rfl, Nat.le_refl _⟩
  | @grown capacity region short larger needed allowed resized =>
      by_cases same : other = id
      · subst same
        cases live.symm.trans alive
        obtain ⟨reader, writer⟩ := (ordered live).cursors_withCapacity (Nat.le_of_lt larger)
        refine ⟨buffer.withCapacity capacity, ?_, Buffer.akin_withCapacity, reader, writer,
          Nat.le_of_lt larger⟩
        rw [Store.get?_refitted live, if_pos rfl]
      · refine ⟨buffer, ?_, .refl, rfl, rfl, Nat.le_refl _⟩
        rw [Store.get?_refitted alive, if_neg same, live]

end Action

end CursorBuffers
