import CursorBuffers.Proofs.Slices

/-!
Windows as intervals. The cursors of a slice come from differences and minima that stop at zero and
at its length.
-/

namespace CursorBuffers

namespace Buffer

/-- A window on `[index, index + length)` of a buffer, in which is readable what is readable of that
range. It has no cursor behind the other, so nothing readable means that the two meet. -/
structure WindowOn (buffer : Buffer) (index length : Nat) (window : Buffer) : Prop where
  arena : window.arena = buffer.arena
  offset : window.offset = buffer.offset + index
  capacity : window.capacity = length
  maxCapacity : window.maxCapacity = buffer.maxCapacity
  ordered : window.readerIndex ≤ window.writerIndex
  readable : ∀ place, window.readerIndex ≤ place ∧ place < window.writerIndex ↔
    place < length ∧ buffer.readerIndex ≤ index + place ∧ index + place < buffer.writerIndex
  bounds : window.bounds = buffer.bounds
  config : window.config = buffer.config
  pooled : window.pooled = buffer.pooled
  role : window.role = if buffer.pooled then .view else .slice

variable {buffer window : Buffer} {index length start count : Nat}

/-- What is readable of a window starts where the range and what is readable have both started. -/
theorem WindowOn.add_readerIndex (windowOn : buffer.WindowOn index length window)
    (some : window.readerIndex < window.writerIndex) :
    index + window.readerIndex = max index buffer.readerIndex := by
  have first := (windowOn.readable window.readerIndex).mp ⟨Nat.le_refl _, some⟩
  have before := windowOn.readable (window.readerIndex - 1)
  omega

theorem WindowOn.add_writerIndex (windowOn : buffer.WindowOn index length window)
    (some : window.readerIndex < window.writerIndex) :
    index + window.writerIndex = min (index + length) buffer.writerIndex := by
  have last := (windowOn.readable (window.writerIndex - 1)).mp (by omega)
  have behind := windowOn.readable window.writerIndex
  omega

theorem windowOn_sliced (ordered : buffer.Ordered) (within : index + length ≤ buffer.capacity) :
    buffer.WindowOn index length (buffer.sliced index length) := by
  have room := ordered.capacity
  refine ⟨rfl, rfl, rfl, Nat.max_eq_left (by omega), Nat.min_le_right _ _, fun place => ?_, rfl,
    rfl, rfl, rfl⟩
  simp only [sliced]
  omega

/-- The differences and minima of two slices, one of the other, are those of one. -/
theorem sliced_sliced (ordered : buffer.Ordered) (within : index + length ≤ buffer.capacity)
    (inside : start + count ≤ length) :
    (buffer.sliced index length).sliced start count = buffer.sliced (index + start) count := by
  have room := ordered.capacity
  have offset : buffer.offset + index + start = buffer.offset + (index + start) :=
    Nat.add_assoc _ _ _
  have largest : max (max buffer.maxCapacity length) count = max buffer.maxCapacity count := by
    omega
  have writer : min (min (buffer.writerIndex - index) length - start) count =
      min (buffer.writerIndex - (index + start)) count := by omega
  have reader : min (min (buffer.readerIndex - index)
        (min (buffer.writerIndex - index) length) - start)
          (min (buffer.writerIndex - (index + start)) count) =
      min (buffer.readerIndex - (index + start))
        (min (buffer.writerIndex - (index + start)) count) := by omega
  simp only [sliced, offset, largest, writer, reader]
  rfl

end Buffer

/-- What is readable of a window is the part of what is readable that lies in its range. -/
theorem Bytes.slice_windowOn {buffer window : Buffer} {bytes : Bytes} {index length : Nat}
    (ordered : buffer.Ordered) (windowOn : buffer.WindowOn index length window) :
    bytes.slice (window.offset + window.readerIndex) window.readableBytes =
      (bytes.slice (buffer.offset + buffer.readerIndex) buffer.readableBytes).extract
        (index - buffer.readerIndex) (index + length - buffer.readerIndex) := by
  have order := ordered.reader
  have offset := windowOn.offset
  simp only [slice, Buffer.readableBytes, Array.extract_extract]
  rcases Nat.eq_or_lt_of_le windowOn.ordered with empty | some
  · -- The cursors of the window meet, so the two ranges have nothing in common.
    have apart := windowOn.readable (max buffer.readerIndex index - index)
    rw [Array.extract_empty_of_stop_le_start (by omega),
      Array.extract_empty_of_stop_le_start (by omega)]
  · have start := windowOn.add_readerIndex some
    have stop := windowOn.add_writerIndex some
    congr 1 <;> omega

namespace Store

variable {store after : Store} {id view : BufferId} {buffer window : Buffer}
variable {index length start count : Nat}

/-- A slice was made, and this is the window that it is. -/
structure Slices (store : Store) (id : BufferId) (index length : Nat) (view : BufferId)
    (window : Buffer) (after : Store) : Prop where
  made : store.run (.onBuffer id (.sliceRange index length)) = (.ok (.buffer view), after)
  opened : after.buffers.get? view = some window

theorem slices_sliced (live : store.buffers.get? id = some buffer)
    (accessible : buffer.checkAccessible (store.arena buffer.arena) = .ok ())
    (within : index + length ≤ buffer.capacity) :
    store.Slices id index length store.buffers.next (buffer.sliced index length)
      (store.addBuffer (buffer.sliced index length)) where
  made := by
    change Action.runOn (Action.sliceRange id index length >>= fun made =>
      pure (Answer.buffer made)) store = _
    simp only [Action.sliceRange, Action.runOn_bind, Action.runOn_inspect live, accessible,
      Buffer.checkRange_eq_ok.mpr within, Action.mapError_ok, Action.runOn_buffer live]
    rfl
  opened := Table.get?_add_next

theorem run_sliceRange_of_beyond (live : store.buffers.get? id = some buffer)
    (accessible : buffer.checkAccessible (store.arena buffer.arena) = .ok ())
    (beyond : buffer.capacity < index + length) :
    store.run (.onBuffer id (.sliceRange index length)) =
      (.error (.memory (.outOfRange (.access index length buffer.capacity))), store) := by
  change Action.runOn (Action.sliceRange id index length >>= fun made =>
    pure (Answer.buffer made)) store = _
  have refused : buffer.checkRange index length =
      .error (.outOfRange (.access index length buffer.capacity)) := if_neg (Nat.not_le.mpr beyond)
  simp only [Action.sliceRange, Action.runOn_bind, Action.runOn_inspect live, accessible,
    Action.mapError_ok, refused]
  rfl

theorem Covered.run_toBytes (covered : store.Covered) (ordered : buffer.Ordered)
    (live : store.buffers.get? id = some buffer)
    (accessible : buffer.checkAccessible (store.arena buffer.arena) = .ok ()) :
    (store.run (.onBuffer id .toBytes)).1 =
      .ok (.bytes ((store.arena buffer.arena).region.bytes.slice
        (buffer.offset + buffer.readerIndex) buffer.readableBytes)) := by
  change (Action.runOn (Action.toBytes id >>= fun bytes => pure (Answer.bytes bytes)) store).1 = _
  rw [Action.runOn_bind, Action.toBytes, Action.runOn_inspect live,
    Buffer.toBytes_eq_ok ordered accessible (covered.covers live)]
  rfl

/-- What is readable of a slice is what is readable of the range that was sliced, and the slice of a
slice is the slice at the sum of the indices. A range that is not within the buffer is refused, with
and without bounds checks. -/
theorem slices_intersect_and_compose (reachable : store.Reachable)
    (live : store.buffers.get? id = some buffer)
    (accessible : buffer.checkAccessible (store.arena buffer.arena) = .ok ()) :
    (∀ index length, buffer.capacity < index + length →
      store.run (.onBuffer id (.sliceRange index length)) =
        (.error (.memory (.outOfRange (.access index length buffer.capacity))), store)) ∧
    ∀ index length, index + length ≤ buffer.capacity →
      ∃ view window sliced bytes,
        store.Slices id index length view window sliced ∧
        buffer.WindowOn index length window ∧
        (store.run (.onBuffer id .toBytes)).1 = .ok (.bytes bytes) ∧
        (sliced.run (.onBuffer view .toBytes)).1 =
          .ok (.bytes (bytes.extract (index - buffer.readerIndex)
            (index + length - buffer.readerIndex))) ∧
        ∀ start count, start + count ≤ length →
          ∃ nested direct part further other,
            sliced.Slices view start count nested part further ∧
            store.Slices id (index + start) count direct part other := by
  refine ⟨fun index length => run_sliceRange_of_beyond live accessible,
    fun index length within => ?_⟩
  have ordered : buffer.Ordered := reachable.ordered live
  have windowOn := Buffer.windowOn_sliced ordered within
  have slices : store.Slices id index length _ _ _ := slices_sliced live accessible within
  have reached : (store.addBuffer (buffer.sliced index length)).Reachable := by
    have ran : (store.run (.onBuffer id (.sliceRange index length))).2.Reachable := reachable.run
    rwa [slices.made] at ran
  -- The slice lies on the same arena under the same settings, so it is accessible too.
  have also : (buffer.sliced index length).checkAccessible
      ((store.addBuffer (buffer.sliced index length)).arena buffer.arena) = .ok () := accessible
  refine ⟨_, _, _, _, slices, windowOn, reachable.covered.run_toBytes ordered live accessible, ?_,
    fun start count inside => ?_⟩
  · rw [← Bytes.slice_windowOn ordered windowOn]
    exact reached.covered.run_toBytes (reached.ordered slices.opened) slices.opened also
  · have nested : (store.addBuffer (buffer.sliced index length)).Slices _ start count _ _ _ :=
      slices_sliced slices.opened also inside
    rw [Buffer.sliced_sliced ordered within inside] at nested
    exact ⟨_, _, _, _, _, nested, slices_sliced live accessible (by omega)⟩

/-- Of eight bytes the three at `[2, 5)` are readable, and the range `[1, 4)` is sliced. -/
theorem slices_intersect_and_compose_across_reader :
    ∃ view window sliced, Slices (initial.after [.allocate (.plain {}) { capacity := 8 },
        .onBuffer 0 (.setBytes 0 #[0, 1, 2, 3, 4, 5, 6, 7]), .onBuffer 0 (.setIndex 2 5)])
          0 1 3 view window sliced ∧
      (window.readerIndex, window.writerIndex) = (1, 3) ∧
      (sliced.run (.onBuffer view .toBytes)).1 = .ok (.bytes #[2, 3]) := by
  obtain ⟨buffer, live, accessible, capacity, reader, writer⟩ : ∃ buffer,
      (initial.after [.allocate (.plain {}) { capacity := 8 },
        .onBuffer 0 (.setBytes 0 #[0, 1, 2, 3, 4, 5, 6, 7]),
        .onBuffer 0 (.setIndex 2 5)]).buffers.get? (0 : BufferId) = some buffer ∧
      buffer.checkAccessible ((initial.after [.allocate (.plain {}) { capacity := 8 },
        .onBuffer 0 (.setBytes 0 #[0, 1, 2, 3, 4, 5, 6, 7]),
        .onBuffer 0 (.setIndex 2 5)]).arena buffer.arena) = .ok () ∧
      buffer.capacity = 8 ∧ buffer.readerIndex = 2 ∧ buffer.writerIndex = 5 :=
    ⟨_, rfl, rfl, rfl, rfl, rfl⟩
  obtain ⟨view, window, sliced, bytes, slices, windowOn, whole, part, _⟩ :=
    (slices_intersect_and_compose ⟨_, rfl⟩ live accessible).2 1 3 (by omega)
  obtain rfl : bytes = #[2, 3, 4] := by
    have content : ((initial.after [.allocate (.plain {}) { capacity := 8 },
        .onBuffer 0 (.setBytes 0 #[0, 1, 2, 3, 4, 5, 6, 7]),
        .onBuffer 0 (.setIndex 2 5)]).run (.onBuffer 0 .toBytes)).1 = .ok (.bytes #[2, 3, 4]) := by
      decide +kernel
    cases whole.symm.trans content
    rfl
  refine ⟨view, window, sliced, slices, ?_, ?_⟩
  · have first := windowOn.readable 1
    have last := windowOn.readable 2
    have before := windowOn.readable 0
    have behind := windowOn.readable 3
    rw [Prod.mk.injEq]
    omega
  · rw [part, reader]
    rfl

end Store

end CursorBuffers
