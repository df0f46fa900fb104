import CursorBuffers.Proofs.Queue
import CursorBuffers.Proofs.Room

namespace CursorBuffers

namespace Store

/-- What a buffer is to a user who never names an index: its readable bytes, and as much room as
its maximum capacity leaves behind the writer. -/
def queue? (store : Store) (id : BufferId) : Option ByteQueue := do
  let buffer ← store.buffers.get? id
  let content ← (buffer.toBytes (store.arena buffer.arena)).toOption
  return ⟨content.toList, buffer.maxWritableBytes⟩

def queueOf (store : Store) (buffer : Buffer) : ByteQueue where
  content := ((store.arena buffer.arena).region.bytes.slice
    (buffer.offset + buffer.readerIndex) buffer.readableBytes).toList
  room := buffer.maxWritableBytes

/-- A buffer that may be read and written, on storage that it may grow. -/
structure InUse (store : Store) (id : BufferId) (buffer : Buffer) : Prop where
  live : store.buffers.get? id = some buffer
  ordered : buffer.Ordered
  covers : store.Covers buffer
  stored : (store.arenas.get? buffer.arena).isSome
  accessible : buffer.checkAccessible (store.arena buffer.arena) = .ok ()
  owned : (store.arena buffer.arena).region.IsOwned
  short : buffer.maxCapacity ≤ Bytes.lengthLimit

variable {store : Store} {id : BufferId} {buffer later : Buffer} {region : Region}

namespace InUse

variable {index length capacity : Nat} {data : Bytes}

theorem queue? (inUse : store.InUse id buffer) : store.queue? id = some (store.queueOf buffer) := by
  have shown := Buffer.toBytes_eq_ok inUse.ordered inUse.accessible inUse.covers
  simp [Store.queue?, inUse.live, shown, queueOf, Except.toOption]

theorem runOn_getBytes (inUse : store.InUse id buffer)
    (within : index + length ≤ buffer.capacity) :
    Action.runOn (Action.getBytes id index length) store =
      (.ok ((store.arena buffer.arena).region.bytes.slice (buffer.offset + index) length),
        store) := by
  have covers : buffer.offset + buffer.capacity ≤ _ := inUse.covers
  rw [Action.getBytes, Action.runOn_inspect inUse.live, Buffer.getBytes,
    Buffer.guard_eq_ok inUse.accessible within]
  have read := Region.read_eq_ok (show buffer.offset + index + length ≤
    (store.arena buffer.arena).region.size by omega)
  simp only [bind, Except.bind, read]
  rfl

theorem runOn_getScalar (inUse : store.InUse id buffer) {kind : ScalarKind} {order : ByteOrder}
    (within : index + kind.width.bytes ≤ buffer.capacity) :
    Action.runOn (Action.getScalar id kind order index) store =
      (.ok (.ofWord kind (order.decode kind.width ((store.arena buffer.arena).region.bytes.slice
        (buffer.offset + index) kind.width.bytes))), store) := by
  have got := inUse.runOn_getBytes within
  rw [Action.getBytes, Action.runOn_inspect inUse.live, Prod.mk.injEq] at got
  rw [Action.getScalar, Action.runOn_inspect inUse.live, Buffer.getScalar_eq_getBytes]
  cases read : buffer.getBytes (store.arena buffer.arena) index kind.width.bytes with
  | error error => simp [read] at got
  | ok bytes =>
      rw [read] at got
      cases got.1
      rfl

theorem runOn_setBytes (inUse : store.InUse id buffer)
    (within : index + data.size ≤ buffer.capacity) :
    Action.runOn (Action.setBytes id index data) store =
      (.ok (), store.setRegion buffer.arena ((store.arena buffer.arena).region.withBytes
        ((store.arena buffer.arena).region.bytes.splice (buffer.offset + index) data))) := by
  have covers : buffer.offset + buffer.capacity ≤ _ := inUse.covers
  have written := Region.write_eq_ok (show buffer.offset + index + data.size ≤
    (store.arena buffer.arena).region.size by omega)
  rw [Action.setBytes, Action.runOn_overwrite inUse.live, Buffer.setBytes,
    Buffer.guard_eq_ok inUse.accessible within]
  simp only [bind, Except.bind, written]

theorem setRegion (inUse : store.InUse id buffer)
    (covers : buffer.offset + buffer.capacity ≤ region.size) (owned : region.IsOwned) :
    (store.setRegion buffer.arena region).InUse id buffer where
  live := inUse.live
  ordered := inUse.ordered
  covers := by
    unfold Covers
    rw [region_setRegion_of_stored inUse.stored]
    exact covers
  stored := by
    rw [stored_setRegion]
    exact inUse.stored
  accessible := by
    have accessible := Buffer.checkAccessible_eq_ok.mp inUse.accessible
    rw [Buffer.checkAccessible_eq_ok, freed_setRegion]
    exact accessible
  owned := by
    rw [region_setRegion_of_stored inUse.stored]
    exact owned
  short := inUse.short

/-- The buffer has moved its cursors, or taken another capacity. -/
theorem mapBuffer (inUse : store.InUse id buffer) (akin : buffer.Akin later)
    (ordered : later.Ordered)
    (covers : later.offset + later.capacity ≤ (store.arena buffer.arena).region.size) :
    (store.mapBuffer id fun _ => later).InUse id later where
  live := by simp [Store.mapBuffer, Table.get?_update, inUse.live]
  ordered := ordered
  covers := by
    unfold Covers
    rw [akin.arena]
    exact covers
  stored := akin.arena ▸ inUse.stored
  accessible := by
    have accessible := Buffer.checkAccessible_eq_ok.mp inUse.accessible
    rw [Buffer.checkAccessible_eq_ok, akin.bounds, akin.config, akin.arena]
    exact accessible
  owned := by
    rw [akin.arena]
    exact inUse.owned
  short := akin.maxCapacity ▸ inUse.short

theorem place (inUse : store.InUse id buffer) (moved : buffer.Placed later) :
    (store.mapBuffer id fun _ => later).InUse id later := by
  refine inUse.mapBuffer moved.akin (moved.ordered inUse.ordered) ?_
  rw [moved.akin.offset, moved.capacity]
  exact inUse.covers

theorem emitGrowth (inUse : store.InUse id buffer) {other : Buffer} :
    (store.emitGrowth other capacity).InUse id buffer := by
  unfold Store.emitGrowth
  split
  · exact ⟨inUse.live, inUse.ordered, inUse.covers, inUse.stored, inUse.accessible, inUse.owned,
      inUse.short⟩
  · exact inUse

/-- Growth is not seen. -/
theorem refit (inUse : store.InUse id buffer) (larger : buffer.capacity ≤ capacity)
    (allowed : capacity ≤ buffer.maxCapacity)
    (resized : store.resized buffer capacity = .ok region) :
    (store.refitted id buffer capacity region).InUse id (buffer.withCapacity capacity) ∧
      (store.refitted id buffer capacity region).queueOf (buffer.withCapacity capacity) =
        store.queueOf buffer := by
  obtain ⟨length, rfl, fits, _⟩ := fit_of_resized resized
  have size : ((store.arena buffer.arena).region.withBytes
      ((store.arena buffer.arena).region.bytes.fit length)).size = length := by simp [Region.size]
  have covers : buffer.offset + buffer.capacity ≤ (store.arena buffer.arena).region.size :=
    inUse.covers
  refine ⟨?_, ?_⟩
  · have fitted : (store.setRegion buffer.arena ((store.arena buffer.arena).region.withBytes
        ((store.arena buffer.arena).region.bytes.fit length))).InUse id buffer :=
      inUse.setRegion (by omega) (Region.isOwned_withBytes.mpr inUse.owned)
    refine fitted.emitGrowth.mapBuffer Buffer.akin_withCapacity (.withCapacity allowed) ?_
    rw [Store.emitGrowth_frame.2.1, region_setRegion_of_stored inUse.stored, size]
    exact fits
  · obtain ⟨reader, writer⟩ := inUse.ordered.cursors_withCapacity larger
    obtain ⟨order, inside, _⟩ := inUse.ordered
    have content : ((store.arena buffer.arena).region.bytes.fit length).slice
        (buffer.offset + buffer.readerIndex) buffer.readableBytes =
        (store.arena buffer.arena).region.bytes.slice
          (buffer.offset + buffer.readerIndex) buffer.readableBytes := by
      have within : buffer.offset + buffer.readerIndex + buffer.readableBytes ≤
          buffer.offset + buffer.capacity := by
        simp only [Buffer.readableBytes]
        omega
      have stored : buffer.offset + buffer.capacity ≤
        (store.arena buffer.arena).region.bytes.size := covers
      refine Bytes.slice_congr (by simp; omega) (by omega) fun index _ below => ?_
      rw [Bytes.getElem?_fit, if_pos (by omega), Array.getElem?_eq_getElem (by omega)]
      rfl
    have arena : (buffer.withCapacity capacity).arena = buffer.arena := rfl
    have offset : (buffer.withCapacity capacity).offset = buffer.offset := rfl
    have maximum : (buffer.withCapacity capacity).maxCapacity = buffer.maxCapacity := rfl
    simp only [queueOf, arena_refitted, arena, offset, maximum,
      region_setRegion_of_stored inUse.stored, Region.bytes_withBytes, Buffer.readableBytes,
      Buffer.maxWritableBytes, reader, writer] at content ⊢
    rw [content]

/-- Room is made for as many bytes as the maximum leaves, and for no more. -/
theorem makeRoom (inUse : store.InUse id buffer) :
    (length ≤ buffer.maxWritableBytes → ∃ after grown,
      Action.runOn (Action.ensureWritable id length) store = (.ok (), after) ∧
        after.InUse id grown ∧ length ≤ grown.writableBytes ∧
        after.queueOf grown = store.queueOf buffer) ∧
    (buffer.maxWritableBytes < length → ∃ failure,
      Action.runOn (Action.ensureWritable id length) store = (.error failure, store)) := by
  obtain ⟨reader, writer, maximum⟩ := inUse.ordered
  have made : RoomMade store id buffer length _ := Action.roomMade inUse.live
  simp only [Buffer.maxWritableBytes]
  generalize Action.runOn (Action.ensureWritable id length) store = outcome at made ⊢
  cases made with
  | ample enough =>
      refine ⟨fun _ => ⟨store, buffer, rfl, inUse, enough, rfl⟩, fun beyond => ?_⟩
      simp only [Buffer.writableBytes] at enough
      omega
  | refused short reason =>
      refine ⟨fun fits => ?_, fun _ => ⟨_, rfl⟩⟩
      rcases reason with beyond | inaccessible | external
      · omega
      · exact absurd inUse.accessible inaccessible
      · exact absurd inUse.owned external
  | @grown capacity region short larger needed allowed resized =>
      obtain ⟨grown, same⟩ := inUse.refit (Nat.le_of_lt larger) allowed resized
      refine ⟨fun _ => ⟨_, _, rfl, grown, ?_, same⟩, fun beyond => by omega⟩
      simp only [Buffer.writableBytes, Buffer.withCapacity]
      omega

/-- What is written behind the writer comes last in the queue. -/
theorem write (inUse : store.InUse id buffer) (fits : data.size ≤ buffer.writableBytes)
    (written : region = (store.arena buffer.arena).region.withBytes
      ((store.arena buffer.arena).region.bytes.splice (buffer.offset + buffer.writerIndex) data)) :
    ((store.setRegion buffer.arena region).mapBuffer id fun _ =>
      buffer.advanceWriter data.size).InUse id (buffer.advanceWriter data.size) ∧
    ((store.setRegion buffer.arena region).mapBuffer id fun _ =>
      buffer.advanceWriter data.size).queueOf (buffer.advanceWriter data.size) =
        ⟨(store.queueOf buffer).content ++ data.toList, buffer.maxWritableBytes - data.size⟩ := by
  obtain ⟨reader, writer, _⟩ := inUse.ordered
  have covers : buffer.offset + buffer.capacity ≤
    (store.arena buffer.arena).region.bytes.size := inUse.covers
  have behind : buffer.offset + buffer.writerIndex =
      buffer.offset + buffer.readerIndex + buffer.readableBytes := by
    simp only [Buffer.readableBytes]
    omega
  have within : buffer.offset + buffer.writerIndex + data.size ≤
      (store.arena buffer.arena).region.bytes.size := by
    simp only [Buffer.writableBytes] at fits
    omega
  have size : region.size = (store.arena buffer.arena).region.bytes.size := by
    rw [written, Region.size, Region.bytes_withBytes, Bytes.size_splice within]
  have owned : region.IsOwned := written ▸ Region.isOwned_withBytes.mpr inUse.owned
  refine ⟨(inUse.setRegion (size ▸ covers) owned).place (Buffer.placed_advanceWriter fits), ?_⟩
  have readable : (buffer.advanceWriter data.size).readableBytes =
      buffer.readableBytes + data.size := by
    simp only [Buffer.readableBytes, Buffer.advanceWriter]
    omega
  have room : (buffer.advanceWriter data.size).maxWritableBytes =
      buffer.maxWritableBytes - data.size := Nat.sub_add_eq _ _ _
  have bytes : (((store.setRegion buffer.arena region).mapBuffer id fun _ =>
      buffer.advanceWriter data.size).arena buffer.arena).region.bytes =
      (store.arena buffer.arena).region.bytes.splice
        (buffer.offset + buffer.readerIndex + buffer.readableBytes) data := by
    rw [mapBuffer_frame.2.1, region_setRegion_of_stored inUse.stored, written,
      Region.bytes_withBytes, behind]
  have content := Bytes.slice_splice (behind ▸ within)
  simp only [queueOf, readable, room, ← Array.toList_append, ← content, ← bytes]
  rfl

theorem length_content (inUse : store.InUse id buffer) :
    (store.queueOf buffer).content.length = buffer.readableBytes := by
  obtain ⟨reader, writer, _⟩ := inUse.ordered
  have covers : buffer.offset + buffer.capacity ≤
    (store.arena buffer.arena).region.bytes.size := inUse.covers
  rw [queueOf, Array.length_toList]
  refine Bytes.size_slice ?_
  simp only [Buffer.readableBytes]
  omega

theorem take_content (enough : length ≤ buffer.readableBytes) :
    (store.queueOf buffer).content.take length =
      ((store.arena buffer.arena).region.bytes.slice
        (buffer.offset + buffer.readerIndex) length).toList := by
  rw [queueOf, Bytes.toList_slice, Bytes.toList_slice, List.take_take, Nat.min_eq_left enough]

/-- What is read is gone from the queue. -/
theorem read (inUse : store.InUse id buffer) (enough : length ≤ buffer.readableBytes) :
    (store.mapBuffer id fun _ => buffer.advanceReader length).InUse id
      (buffer.advanceReader length) ∧
    (store.mapBuffer id fun _ => buffer.advanceReader length).queueOf
      (buffer.advanceReader length) =
        ⟨(store.queueOf buffer).content.drop length, buffer.maxWritableBytes⟩ := by
  refine ⟨inUse.place (Buffer.placed_advanceReader enough), ?_⟩
  have readable : (buffer.advanceReader length).readableBytes =
      buffer.readableBytes - length := Nat.sub_add_eq _ _ _
  have start : (buffer.advanceReader length).offset + (buffer.advanceReader length).readerIndex =
      buffer.offset + buffer.readerIndex + length := (Nat.add_assoc _ _ _).symm
  have arena : (buffer.advanceReader length).arena = buffer.arena := rfl
  have room : (buffer.advanceReader length).maxWritableBytes = buffer.maxWritableBytes := rfl
  simp only [queueOf, readable, start, arena, room, mapBuffer_frame.2.1, Bytes.toList_slice,
    List.drop_take, List.drop_drop]

end InUse

/-- The outcome of an operation on a buffer is what a queue makes of it, and the buffer is a queue
again. -/
structure Served (id : BufferId) (queue : ByteQueue) (expected : Option (Answer × ByteQueue))
    (outcome : Except Failure Answer × Store) : Prop where
  answer : outcome.1.toOption = expected.map Prod.fst
  state : ∃ later, outcome.2.InUse id later ∧
    outcome.2.queueOf later = (expected.map Prod.snd).getD queue

theorem run_looks {command : BufferCommand} (looks : command.Looks) :
    (store.run (.onBuffer id command)).2 = store := by
  unfold run
  cases command with
  | getScalar kind order index => exact Action.after_bind_pure.trans Action.after_inspect
  | getBytes index length => exact Action.after_bind_pure.trans Action.after_inspect
  | _ => exact looks.elim

namespace InUse

variable {queue : ByteQueue} {answer : Answer} {after : Store} {failure : Failure}

theorem refused (inUse : store.InUse id buffer) :
    Served id (store.queueOf buffer) none (.error failure, store) :=
  ⟨rfl, buffer, inUse, rfl⟩

theorem served (inUse : after.InUse id later) :
    Served id queue (some (answer, after.queueOf later)) (.ok answer, after) :=
  ⟨rfl, later, inUse, rfl⟩

theorem serves_ensureWritable (inUse : store.InUse id buffer) :
    Served id (store.queueOf buffer) ((store.queueOf buffer).serve (.ensureWritable length))
      (store.run (.onBuffer id (.ensureWritable length))) := by
  change Served _ _ (if length ≤ buffer.maxWritableBytes then _ else none)
    (Action.runOn (Action.ensureWritable id length >>= fun _ => pure .done) store)
  obtain ⟨possible, impossible⟩ := inUse.makeRoom
  rw [Action.runOn_bind]
  split
  · rename_i fits
    obtain ⟨after, grown, made, inUse, _, same⟩ := possible fits
    rw [made, ← same]
    exact inUse.served
  · rename_i beyond
    obtain ⟨failure, refused⟩ := impossible (Nat.lt_of_not_le beyond)
    rw [refused]
    exact inUse.refused

/-- Bytes are appended if the queue has room for them, and only then. -/
theorem serves_append (inUse : store.InUse id buffer) :
    Served id (store.queueOf buffer) ((store.queueOf buffer).put data.toList)
      (Action.runOn (Action.append id data >>= fun _ => pure .done) store) := by
  obtain ⟨possible, impossible⟩ := inUse.makeRoom
  rw [Action.append, bind_assoc, Action.runOn_bind]
  by_cases fits : data.size ≤ buffer.maxWritableBytes
  · obtain ⟨after, grown, made, inUse, enough, same⟩ := possible fits
    obtain ⟨_, writer, _⟩ := inUse.ordered
    have within : grown.writerIndex + data.size ≤ grown.capacity := by
      simp only [Buffer.writableBytes] at enough
      omega
    have room : data.toList.length ≤ (after.queueOf grown).room := by
      rw [same]
      exact fits
    have stays : ∀ region, (after.setRegion grown.arena region).buffers.get? id = some grown :=
      fun _ => inUse.live
    obtain ⟨later, appended⟩ := inUse.write enough rfl
    rw [made, ← same, ByteQueue.put, if_pos room]
    simp only [Action.runOn_bind, Action.runOn_writerIndex inUse.live,
      inUse.runOn_setBytes within, Action.runOn_advanceWriter (stays _), Action.runOn_pure]
    exact appended ▸ later.served
  · obtain ⟨failure, refused⟩ := impossible (Nat.lt_of_not_le fits)
    have full : ¬ data.toList.length ≤ (store.queueOf buffer).room := fits
    rw [refused, ByteQueue.put, if_neg full]
    exact inUse.refused

/-- Bytes are taken if the queue has them, and only then. -/
theorem serves_take (inUse : store.InUse id buffer) {rest : Action Answer}
    {tell : List UInt8 → Answer}
    (taken : length ≤ buffer.readableBytes → Action.runOn rest store =
      (.ok (tell ((store.arena buffer.arena).region.bytes.slice
        (buffer.offset + buffer.readerIndex) length).toList),
      store.mapBuffer id fun _ => buffer.advanceReader length)) :
    Served id (store.queueOf buffer) ((store.queueOf buffer).take length tell)
      (Action.runOn (Action.checkReadable id length >>= fun _ => rest) store) := by
  rw [Action.runOn_bind, Action.checkReadable, Action.runOn_inspect inUse.live,
    ByteQueue.take, inUse.length_content]
  by_cases enough : length ≤ buffer.readableBytes
  · obtain ⟨later, left⟩ := inUse.read enough
    rw [Buffer.checkReadable_eq_ok.mpr enough, if_pos enough, take_content enough]
    simp only [Action.mapError_ok, taken enough]
    exact left ▸ later.served
  · rw [Buffer.checkReadable, if_neg enough, if_neg enough]
    exact inUse.refused

/-- A buffer serves an operation exactly as its queue does. -/
theorem serves (inUse : store.InUse id buffer) {command : BufferCommand}
    (queues : command.Queues) :
    Served id (store.queueOf buffer) ((store.queueOf buffer).serve command)
      (store.run (.onBuffer id command)) := by
  have within : ∀ {count}, count ≤ buffer.readableBytes →
      buffer.readerIndex + count ≤ buffer.capacity := by
    obtain ⟨reader, writer, _⟩ := inUse.ordered
    simp only [Buffer.readableBytes]
    omega
  have all := Nat.le_refl buffer.readableBytes
  have content : (store.queueOf buffer).content.toArray =
    (store.arena buffer.arena).region.bytes.slice (buffer.offset + buffer.readerIndex)
      buffer.readableBytes := rfl
  have shown : Action.runOn (Action.toBytes id) store =
      (.ok (store.queueOf buffer).content.toArray, store) := by
    rw [content, ← inUse.runOn_getBytes (within all), Action.getBytes,
      Action.runOn_inspect inUse.live, Action.toBytes, Action.runOn_inspect inUse.live]
    rfl
  unfold run
  cases command with
  | ensureWritable count => exact inUse.serves_ensureWritable
  | writeScalar order value =>
      change Served _ _ (ByteQueue.put _ _) (Action.runOn (Action.writeScalar id order value >>= _)
        store)
      rw [Action.writeScalar_eq_append]
      exact inUse.serves_append
  | writeBytes data =>
      change Served _ _ (ByteQueue.put _ _) (Action.runOn (Action.writeBytes id data >>= _) store)
      rw [Action.writeBytes_eq_append, bind_assoc, Action.runOn_bind, Action.runOn_check]
      by_cases short : data.size ≤ Bytes.lengthLimit
      · rw [Bytes.checkLength, if_pos short]
        exact inUse.serves_append
      · have beyond : ¬ data.toList.length ≤ buffer.maxWritableBytes := by
          have limit := inUse.short
          simp only [Array.length_toList, Buffer.maxWritableBytes]
          omega
        rw [Bytes.checkLength, if_neg short, ByteQueue.put, queueOf, if_neg beyond]
        exact inUse.refused
  | readScalar kind order =>
      change Served _ _ _ (Action.runOn (Action.readScalar id kind order >>= _) store)
      rw [ByteQueue.serve, Action.readScalar, bind_assoc]
      refine inUse.serves_take fun enough => ?_
      simp only [Action.runOn_bind, Action.runOn_readerIndex inUse.live,
        inUse.runOn_getScalar (within enough), Action.runOn_advanceReader inUse.live]
      rfl
  | readBytes count =>
      change Served _ _ _ (Action.runOn (Action.readBytes id count >>= _) store)
      rw [ByteQueue.serve, Action.readBytes, bind_assoc]
      refine inUse.serves_take fun enough => ?_
      simp only [Action.runOn_bind, Action.runOn_readerIndex inUse.live,
        inUse.runOn_getBytes (within enough), Action.runOn_advanceReader inUse.live]
      rfl
  | skipBytes count =>
      change Served _ _ _ (Action.runOn (Action.skipBytes id count >>= _) store)
      rw [ByteQueue.serve, Action.skipBytes, bind_assoc]
      refine inUse.serves_take fun enough => ?_
      simp only [Action.runOn_bind, Action.runOn_advanceReader inUse.live]
      rfl
  | toBytes =>
      change Served _ _ _ (Action.runOn (Action.toBytes id >>= _) store)
      rw [Action.runOn_bind, shown]
      exact inUse.served
  | hexDump codec =>
      change Served _ _ _ (Action.runOn (Action.hexDump id codec >>= _) store)
      rw [Action.hexDump, bind_assoc, Action.runOn_bind, shown]
      exact inUse.served
  | _ => exact queues.elim

/-- What leaves a buffer and its arena alone is not seen. -/
theorem spared (inUse : store.InUse id buffer) (covered : after.Covered)
    (live : after.buffers.get? id = some buffer)
    (same : after.arena buffer.arena = store.arena buffer.arena) :
    after.InUse id buffer ∧ after.queueOf buffer = store.queueOf buffer := by
  refine ⟨⟨live, inUse.ordered, covered.covers live,
    covered.standing _ (covered.held.known live), ?_, ?_, inUse.short⟩, ?_⟩
  · rw [same]
    exact inUse.accessible
  · rw [same]
    exact inUse.owned
  · rw [queueOf, same, queueOf]

/-- An operation on a buffer is one on its queue. -/
theorem run (inUse : store.InUse id buffer) {command : BufferCommand}
    (own : command.Queues ∨ command.Looks) :
    ∃ later, (store.run (.onBuffer id command)).2.InUse id later ∧
      (store.run (.onBuffer id command)).2.queueOf later = (store.queueOf buffer).next command := by
  rcases own with queues | looks
  · exact (inUse.serves queues).state
  · rw [run_looks looks]
    refine ⟨buffer, inUse, ?_⟩
    cases command with
    | getScalar kind order index => rfl
    | getBytes index length => rfl
    | _ => exact looks.elim

end InUse

end Store

end CursorBuffers
