import CursorBuffers.Proofs.Step
import CursorBuffers.Proofs.Storage
import CursorBuffers.Store.Transfer
import CursorBuffers.Store.View

/-!
The operations on buffers as chains of single changes. A cursor moves only over bytes that were
checked to be there: whatever an operation does between the check and the move keeps them.
-/

namespace CursorBuffers

variable {warrant : Warrant} {store : Store}

namespace Buffer

variable {buffer placed : Buffer} {index reader writer length : Nat}

/-- Cursors and marks may be anything, as long as the cursors are in order. -/
theorem Placed.of_cursors {markedReader markedWriter : Nat}
    (ordered : buffer.Ordered → reader ≤ writer ∧ writer ≤ buffer.capacity) :
    buffer.Placed { buffer with
      readerIndex := reader
      writerIndex := writer
      markedReader := markedReader
      markedWriter := markedWriter } where
  akin := ⟨rfl, rfl, rfl, rfl, rfl, rfl, rfl, rfl, rfl⟩
  capacity := rfl
  ordered before := ⟨(ordered before).1, (ordered before).2, before.capacity⟩

theorem placed_setReaderIndex (done : buffer.setReaderIndex index = .ok placed) :
    buffer.Placed placed := by
  unfold setReaderIndex at done
  split at done
  · contradiction
  · rename_i within
    cases done
    exact .of_cursors fun ordered => ⟨Nat.le_of_not_lt within, ordered.writer⟩

theorem placed_setWriterIndex (done : buffer.setWriterIndex index = .ok placed) :
    buffer.Placed placed := by
  unfold setWriterIndex at done
  split at done
  · contradiction
  · rename_i within
    cases done
    exact .of_cursors fun _ => by omega

theorem placed_setIndex (done : buffer.setIndex reader writer = .ok placed) :
    buffer.Placed placed := by
  unfold setIndex at done
  split at done
  · contradiction
  · rename_i within
    cases done
    exact .of_cursors fun _ => by omega

theorem placed_clear : buffer.Placed buffer.clear :=
  .of_cursors fun _ => ⟨Nat.le_refl _, Nat.zero_le _⟩

theorem placed_markReader : buffer.Placed buffer.markReader :=
  .of_cursors fun ordered => ⟨ordered.reader, ordered.writer⟩

theorem placed_markWriter : buffer.Placed buffer.markWriter :=
  .of_cursors fun ordered => ⟨ordered.reader, ordered.writer⟩

theorem placed_advanceReader (enough : length ≤ buffer.readableBytes) :
    buffer.Placed (buffer.advanceReader length) := by
  refine .of_cursors fun ordered => ⟨?_, ordered.writer⟩
  have order := ordered.reader
  simp only [readableBytes] at enough
  omega

theorem placed_advanceWriter (enough : length ≤ buffer.writableBytes) :
    buffer.Placed (buffer.advanceWriter length) := by
  refine .of_cursors fun ordered => ⟨Nat.le_add_right_of_le ordered.reader, ?_⟩
  have order := ordered.writer
  simp only [writableBytes] at enough
  omega

/-- A value is read as what its bytes denote. -/
theorem getScalar_eq_getBytes {arena : Arena} {kind : ScalarKind} {order : ByteOrder} :
    buffer.getScalar arena kind order index =
      (buffer.getBytes arena index kind.width.bytes).map fun bytes =>
        .ofWord kind (order.decode kind.width bytes) := by
  rw [getScalar, getBytes, Region.getWord_eq_read]
  cases buffer.guard arena index kind.width.bytes with
  | error error => rfl
  | ok _ => cases arena.region.read (buffer.offset + index) kind.width.bytes <;> rfl

end Buffer

namespace Store

/-- The buffer is live, and that many bytes can be read from it. -/
def Readable (store : Store) (id : BufferId) (length : Nat) : Prop :=
  ∃ buffer, store.buffers.get? id = some buffer ∧ length ≤ buffer.readableBytes

/-- The buffer is live, and that many bytes fit behind its writer. -/
def Writable (store : Store) (id : BufferId) (length : Nat) : Prop :=
  ∃ buffer, store.buffers.get? id = some buffer ∧ length ≤ buffer.writableBytes

end Store

namespace Action

variable {α β : Type} {id other : BufferId} {index otherIndex length : Nat} {after : Store}

section Chains

theorem steps_bind {action : Action α} {next : α → Action β}
    (first : Steps warrant store (runOn action store).2)
    (rest : ∀ value between, runOn action store = (.ok value, between) →
      Steps warrant between (runOn (next value) between).2) :
    Steps warrant store (runOn (action >>= next) store).2 := by
  rw [runOn_bind]
  rcases outcome : runOn action store with ⟨_ | value, between⟩
  · rw [outcome] at first
    exact first
  · rw [outcome] at first
    exact first.trans (rest value between outcome)

@[simp] theorem after_bind_pure {action : Action α} {value : α → β} :
    (runOn (action >>= fun result => pure (value result)) store).2 = (runOn action store).2 := by
  rw [runOn_bind]
  rcases runOn action store with ⟨_ | _, _⟩ <;> rfl

theorem steps_bind_pure {action : Action α} {value : α → β}
    (first : Steps warrant store (runOn action store).2) :
    Steps warrant store (runOn (action >>= fun result => pure (value result)) store).2 := by
  rw [after_bind_pure]
  exact first

@[simp] theorem after_inspect {question : Buffer → Arena → Except MemoryError α} :
    (runOn (inspect id question) store).2 = store := by
  cases found : store.buffers.get? id with
  | none => simp [inspect, runOn_bind_buffer_none found]
  | some buffer => simp [runOn_inspect found]

theorem runOn_inspect_eq_ok {question : Buffer → Arena → Except MemoryError α} {value : α} :
    runOn (inspect id question) store = (.ok value, after) ↔
      after = store ∧ ∃ buffer, store.buffers.get? id = some buffer ∧
        question buffer (store.arena buffer.arena) = .ok value := by
  cases found : store.buffers.get? id with
  | none => simp [inspect, runOn_bind_buffer_none found]
  | some buffer =>
      rw [runOn_inspect found]
      constructor
      · intro done
        cases answer : question buffer (store.arena buffer.arena) <;> rw [answer] at done <;>
          cases done
        exact ⟨rfl, buffer, rfl, answer⟩
      · rintro ⟨rfl, _, ⟨rfl⟩, answer⟩
        rw [answer]
        rfl

/-- An operation that asks first changes nothing if the answer is a failure. -/
theorem steps_bind_inspect {question : Buffer → Arena → Except MemoryError α}
    {next : α → Action β}
    (rest : ∀ buffer value, store.buffers.get? id = some buffer →
      question buffer (store.arena buffer.arena) = .ok value →
      Steps warrant store (runOn (next value) store).2) :
    Steps warrant store (runOn (inspect id question >>= next) store).2 := by
  refine steps_bind (by rw [after_inspect]) fun value between outcome => ?_
  obtain ⟨rfl, buffer, live, answer⟩ := runOn_inspect_eq_ok.mp outcome
  exact rest buffer value live answer

theorem steps_bind_buffer {next : Buffer → Action β}
    (rest : ∀ buffer, store.buffers.get? id = some buffer →
      Steps warrant store (runOn (next buffer) store).2) :
    Steps warrant store (runOn (buffer id >>= next) store).2 := by
  cases found : store.buffers.get? id with
  | none => rw [runOn_bind_buffer_none found]
  | some buffer =>
      rw [runOn_bind, runOn_buffer found]
      exact rest buffer found

theorem steps_bind_readerIndex {next : Nat → Action β}
    (rest : ∀ buffer, store.buffers.get? id = some buffer →
      Steps warrant store (runOn (next buffer.readerIndex) store).2) :
    Steps warrant store (runOn (readerIndex id >>= next) store).2 := by
  rw [readerIndex, bind_assoc]
  exact steps_bind_buffer fun buffer live => rest buffer live

theorem steps_bind_writerIndex {next : Nat → Action β}
    (rest : ∀ buffer, store.buffers.get? id = some buffer →
      Steps warrant store (runOn (next buffer.writerIndex) store).2) :
    Steps warrant store (runOn (writerIndex id >>= next) store).2 := by
  rw [writerIndex, bind_assoc]
  exact steps_bind_buffer fun buffer live => rest buffer live

theorem steps_bind_check {result : Except MemoryError α} {next : α → Action β}
    (rest : ∀ value, result = .ok value → Steps warrant store (runOn (next value) store).2) :
    Steps warrant store (runOn (check result >>= next) store).2 := by
  rw [runOn_bind, runOn_check]
  cases result with
  | error error => exact .refl
  | ok value => exact rest value rfl

end Chains

section Writes

theorem steps_overwrite {rule : Buffer → Arena → Except MemoryError Region}
    (named : warrant.touches id)
    (writes : ∀ buffer arena region, rule buffer arena = .ok region →
      ∃ index data, buffer.guard arena index (Array.size data) = .ok () ∧
        arena.region.write (buffer.offset + index) data = .ok region) :
    Steps warrant store (runOn (overwrite id rule) store).2 := by
  refine steps_bind_buffer fun buffer live => ?_
  rw [runOn_bind, runOn_get]
  refine steps_bind_check fun region written => ?_
  obtain ⟨index, data, guarded, written⟩ := writes _ _ _ written
  exact .single (.write named live guarded written)

theorem buffers_overwrite {rule : Buffer → Arena → Except MemoryError Region}
    {outcome : Except Failure Unit} (done : runOn (overwrite id rule) store = (outcome, after)) :
    after.buffers = store.buffers := by
  cases found : store.buffers.get? id with
  | none =>
      rw [overwrite, runOn_bind_buffer_none found] at done
      cases done
      rfl
  | some buffer =>
      rw [runOn_overwrite found] at done
      cases result : rule buffer (store.arena buffer.arena) <;> rw [result] at done <;>
        cases done <;> rfl

/-- A value is written as the bytes of its encoding. -/
theorem setScalar_eq_setBytes {order : ByteOrder} {scalar : Scalar} :
    setScalar id order index scalar = setBytes id index (order.encode scalar.toWord) := by
  simp only [setScalar, setBytes, Buffer.setScalar, Buffer.setBytes, ByteOrder.size_encode,
    Region.setWord_eq_write]

theorem steps_setBytes {data : Bytes} (named : warrant.touches id) :
    Steps warrant store (runOn (setBytes id index data) store).2 := by
  refine steps_overwrite named fun buffer arena region written => ?_
  unfold Buffer.setBytes at written
  cases guarded : buffer.guard arena index data.size with
  | error error => simp [guarded, bind, Except.bind] at written
  | ok _ =>
      rw [guarded] at written
      exact ⟨index, data, guarded, written⟩

theorem steps_setScalar {order : ByteOrder} {scalar : Scalar} (named : warrant.touches id) :
    Steps warrant store (runOn (setScalar id order index scalar) store).2 := by
  rw [setScalar_eq_setBytes]
  exact steps_setBytes named

end Writes

section Cursors

theorem steps_revise {rule : Buffer → Except MemoryError Buffer} (named : warrant.touches id)
    (places : ∀ buffer placed, rule buffer = .ok placed → buffer.Placed placed) :
    Steps warrant store (runOn (revise id rule) store).2 := by
  refine steps_bind_buffer fun buffer live => ?_
  refine steps_bind_check fun placed outcome => ?_
  exact .single (.place named live (places buffer placed outcome))

theorem runOn_advanceReader {buffer : Buffer} (live : store.buffers.get? id = some buffer) :
    runOn (advanceReader id length) store =
      (.ok (), store.mapBuffer id fun _ => buffer.advanceReader length) := by
  simp only [advanceReader, runOn_modify, Store.mapBuffer, Table.update_eq_of_get? live]

theorem runOn_advanceWriter {buffer : Buffer} (live : store.buffers.get? id = some buffer) :
    runOn (advanceWriter id length) store =
      (.ok (), store.mapBuffer id fun _ => buffer.advanceWriter length) := by
  simp only [advanceWriter, runOn_modify, Store.mapBuffer, Table.update_eq_of_get? live]

theorem steps_advanceReader (named : warrant.touches id) (enough : store.Readable id length) :
    Steps warrant store (runOn (advanceReader id length) store).2 := by
  obtain ⟨buffer, live, enough⟩ := enough
  rw [runOn_advanceReader live]
  exact .single (.place named live (Buffer.placed_advanceReader enough))

theorem steps_advanceWriter (named : warrant.touches id) (enough : store.Writable id length) :
    Steps warrant store (runOn (advanceWriter id length) store).2 := by
  obtain ⟨buffer, live, enough⟩ := enough
  rw [runOn_advanceWriter live]
  exact .single (.place named live (Buffer.placed_advanceWriter enough))

end Cursors

section Room

theorem steps_setCapacity {capacity : Nat} (named : warrant.touches id) :
    Steps warrant store (runOn (setCapacity id capacity) store).2 := by
  cases found : store.buffers.get? id with
  | none => rw [setCapacity, runOn_bind_buffer_none found]
  | some buffer =>
      rw [runOn_setCapacity found]
      cases allowed : buffer.checkNewCapacity capacity with
      | error error => exact .refl
      | ok _ =>
          cases accessible : buffer.checkAccessible (store.arena buffer.arena) with
          | error error => exact .refl
          | ok _ =>
              simp only [bind, Except.bind]
              cases resized : store.resized buffer capacity with
              | error error => exact .refl
              | ok region =>
                  have within := Buffer.checkNewCapacity_eq_ok.mp allowed
                  exact .single (.resize named found within accessible resized)

theorem steps_ensureWritable (named : warrant.touches id) :
    Steps warrant store (runOn (ensureWritable id length) store).2 := by
  cases found : store.buffers.get? id with
  | none => rw [ensureWritable, runOn_bind_buffer_none found]
  | some buffer =>
      rw [runOn_ensureWritable found]
      split
      · cases buffer.grownCapacity length with
        | error error => exact .refl
        | ok capacity => exact steps_setCapacity named
      · exact .refl

/-- Room is made without a cursor moving, and nothing happens to the other buffers. -/
theorem runOn_ensureWritable_eq_ok
    (done : runOn (ensureWritable id length) store = (.ok (), after)) :
    ∃ found grown, store.buffers.get? id = some found ∧ after.buffers.get? id = some grown ∧
      length ≤ grown.writableBytes ∧ grown.writerIndex = found.writerIndex ∧
      grown.readableBytes = found.readableBytes ∧
      ∀ other, other ≠ id → after.buffers.get? other = store.buffers.get? other := by
  cases found : store.buffers.get? id with
  | none =>
      rw [ensureWritable, runOn_bind_buffer_none found] at done
      cases done
  | some buffer =>
      rw [runOn_ensureWritable found] at done
      split at done
      · cases grown : buffer.grownCapacity length with
        | error error =>
            rw [grown] at done
            cases done
        | ok capacity =>
            rw [grown] at done
            have reached : buffer.writerIndex + length ≤ capacity := by
              unfold Buffer.grownCapacity at grown
              split at grown
              · contradiction
              · exact Growth.le_of_capacityFor grown
            simp only [runOn_setCapacity found] at done
            split at done
            · cases done
              refine ⟨buffer, buffer.withCapacity capacity, rfl, ?_, ?_, ?_, ?_, ?_⟩
              · simp [Store.mapBuffer, Table.get?_update, found]
              · simp only [Buffer.writableBytes, Buffer.withCapacity]
                omega
              · simp only [Buffer.withCapacity]
                omega
              · simp only [Buffer.readableBytes, Buffer.withCapacity]
                omega
              · intro other distinct
                simp [Store.mapBuffer, Table.get?_update, distinct]
            · cases done
      · rename_i enough
        cases done
        exact ⟨buffer, buffer, rfl, found, Nat.le_of_not_lt enough, rfl, rfl, fun _ _ => rfl⟩

end Room

section Streams

variable {kind : ScalarKind} {order : ByteOrder} {scalar : Scalar} {data : Bytes}

theorem steps_readScalar (named : warrant.touches id) :
    Steps warrant store (runOn (readScalar id kind order) store).2 := by
  refine steps_bind_inspect fun buffer _ live checked => ?_
  have readable : store.Readable id kind.width.bytes :=
    ⟨buffer, live, Buffer.checkReadable_eq_ok.mp checked⟩
  refine steps_bind_readerIndex fun _ _ => ?_
  refine steps_bind_inspect fun _ _ _ _ => ?_
  exact steps_bind_pure (steps_advanceReader named readable)

theorem steps_readBytes (named : warrant.touches id) :
    Steps warrant store (runOn (readBytes id length) store).2 := by
  refine steps_bind_inspect fun buffer _ live checked => ?_
  have readable : store.Readable id length :=
    ⟨buffer, live, Buffer.checkReadable_eq_ok.mp checked⟩
  refine steps_bind_readerIndex fun _ _ => ?_
  refine steps_bind_inspect fun _ _ _ _ => ?_
  exact steps_bind_pure (steps_advanceReader named readable)

theorem steps_skipBytes (named : warrant.touches id) :
    Steps warrant store (runOn (skipBytes id length) store).2 := by
  refine steps_bind_inspect fun buffer _ live checked => ?_
  exact steps_advanceReader named ⟨buffer, live, Buffer.checkReadable_eq_ok.mp checked⟩

theorem writable_of_ensureWritable
    (done : runOn (ensureWritable id length) store = (.ok (), after)) :
    after.Writable id length := by
  obtain ⟨found, grown, _, live, enough, _⟩ := runOn_ensureWritable_eq_ok done
  exact ⟨grown, live, enough⟩

/-- Bytes written behind the writer, which moves behind them. -/
def append (id : BufferId) (data : Bytes) : Action Unit := do
  ensureWritable id data.size
  setBytes id (← writerIndex id) data
  advanceWriter id data.size

theorem writeScalar_eq_append :
    writeScalar id order scalar = append id (order.encode scalar.toWord) := by
  simp only [writeScalar, append, setScalar_eq_setBytes, ByteOrder.size_encode]

theorem writeBytes_eq_append :
    writeBytes id data = check data.checkLength >>= fun _ => append id data := rfl

theorem steps_append (named : warrant.touches id) :
    Steps warrant store (runOn (append id data) store).2 := by
  refine steps_bind (steps_ensureWritable named) fun _ between done => ?_
  have writable := writable_of_ensureWritable done
  refine steps_bind_writerIndex fun buffer _ => ?_
  refine steps_bind (steps_setBytes named) fun _ written wrote => ?_
  have same : written.buffers = between.buffers := buffers_overwrite wrote
  exact steps_advanceWriter named (by rwa [Store.Writable, same])

theorem steps_writeScalar (named : warrant.touches id) :
    Steps warrant store (runOn (writeScalar id order scalar) store).2 := by
  rw [writeScalar_eq_append]
  exact steps_append named

theorem steps_writeBytes (named : warrant.touches id) :
    Steps warrant store (runOn (writeBytes id data) store).2 := by
  rw [writeBytes_eq_append]
  exact steps_bind_check fun _ _ => steps_append named

end Streams

section Transfers

theorem steps_move (named : warrant.touches other)
    (guarded : ∀ target, store.buffers.get? other = some target →
      target.guard (store.arena target.arena) otherIndex length = .ok ()) :
    Steps warrant store (runOn (move id index other otherIndex length) store).2 := by
  refine steps_bind_buffer fun source _ => ?_
  refine steps_bind_buffer fun target live => ?_
  rw [transfer, runOn_bind, runOn_get]
  refine steps_bind_check fun data read => ?_
  rw [runOn_bind, runOn_get]
  refine steps_bind_check fun region written => ?_
  obtain ⟨within, rfl⟩ := Region.within_of_read read
  have allowed := guarded target live
  rw [← Bytes.size_slice within] at allowed
  exact .single (.write named live allowed written)

theorem buffers_move
    (done : runOn (move id index other otherIndex length) store = (.ok (), after)) :
    after.buffers = store.buffers := by
  cases sourceFound : store.buffers.get? id with
  | none =>
      rw [move, runOn_bind_buffer_none sourceFound] at done
      cases done
  | some source =>
      cases targetFound : store.buffers.get? other with
      | none =>
          rw [move, runOn_bind, runOn_buffer sourceFound] at done
          simp only [runOn_bind_buffer_none targetFound] at done
          cases done
      | some target =>
          rw [runOn_move sourceFound targetFound] at done
          split at done <;> cases done
          rfl

theorem steps_getBytesAt (named : warrant.touches other) :
    Steps warrant store (runOn (getBytesAt id index other otherIndex length) store).2 := by
  refine steps_bind_inspect fun _ _ _ _ => ?_
  refine steps_bind_inspect fun target _ live guarded => ?_
  refine steps_move named fun same also => ?_
  cases live.symm.trans also
  exact guarded

theorem steps_setBytesAt (named : warrant.touches id) :
    Steps warrant store (runOn (setBytesAt id index other otherIndex length) store).2 := by
  refine steps_bind_inspect fun target _ live guarded => ?_
  refine steps_bind_inspect fun _ _ _ _ => ?_
  refine steps_move named fun same also => ?_
  cases live.symm.trans also
  exact guarded

theorem buffers_getBytesAt
    (done : runOn (getBytesAt id index other otherIndex length) store = (.ok (), after)) :
    after.buffers = store.buffers := by
  obtain ⟨_, between, first, rest⟩ := runOn_bind_eq_ok.mp done
  obtain ⟨rfl, _⟩ := runOn_inspect_eq_ok.mp first
  obtain ⟨_, between, second, moved⟩ := runOn_bind_eq_ok.mp rest
  obtain ⟨rfl, _⟩ := runOn_inspect_eq_ok.mp second
  exact buffers_move moved

theorem buffers_setBytesAt
    (done : runOn (setBytesAt id index other otherIndex length) store = (.ok (), after)) :
    after.buffers = store.buffers := by
  obtain ⟨_, between, first, rest⟩ := runOn_bind_eq_ok.mp done
  obtain ⟨rfl, _⟩ := runOn_inspect_eq_ok.mp first
  obtain ⟨_, between, second, moved⟩ := runOn_bind_eq_ok.mp rest
  obtain ⟨rfl, _⟩ := runOn_inspect_eq_ok.mp second
  exact buffers_move moved

theorem steps_getBytesTo (named : warrant.touches other) :
    Steps warrant store (runOn (getBytesTo id index other length) store).2 := by
  refine steps_bind (steps_ensureWritable named) fun _ between done => ?_
  have writable := writable_of_ensureWritable done
  refine steps_bind_writerIndex fun buffer _ => ?_
  refine steps_bind (steps_getBytesAt named) fun _ moved done => ?_
  have same : moved.buffers = between.buffers := buffers_getBytesAt done
  exact steps_advanceWriter named (by rwa [Store.Writable, same])

/-- What can be read from a buffer stays readable while bytes are written, also to itself. -/
theorem readable_of_getBytesTo {source : BufferId} {needed : Nat}
    (was : store.Readable source needed)
    (done : runOn (getBytesTo id index other length) store = (.ok (), after)) :
    after.Readable source needed := by
  obtain ⟨buffer, live, enough⟩ := was
  obtain ⟨_, grown, first, rest⟩ := runOn_bind_eq_ok.mp done
  obtain ⟨found, target, was, targetLive, _, _, kept, others⟩ := runOn_ensureWritable_eq_ok first
  have readable : grown.Readable source needed := by
    by_cases same : source = other
    · subst same
      cases live.symm.trans was
      exact ⟨target, targetLive, kept ▸ enough⟩
    · exact ⟨buffer, (others source same).trans live, enough⟩
  obtain ⟨writer, between, second, rest⟩ := runOn_bind_eq_ok.mp rest
  rw [runOn_writerIndex targetLive] at second
  cases second
  obtain ⟨_, moved, third, rest⟩ := runOn_bind_eq_ok.mp rest
  have same : moved.buffers = grown.buffers := buffers_getBytesAt third
  cases rest
  obtain ⟨reader, readerLive, enough⟩ := readable
  by_cases itself : source = other
  · subst itself
    refine ⟨reader.advanceWriter length, ?_, ?_⟩
    · simp [Store.mapBuffer, Table.get?_update, same, readerLive]
    · simp only [Buffer.readableBytes, Buffer.advanceWriter] at enough ⊢
      omega
  · exact ⟨reader, by simp [Store.mapBuffer, Table.get?_update, same, itself, readerLive], enough⟩

theorem steps_readBytesTo (named : warrant.touches id) (alsoNamed : warrant.touches other) :
    Steps warrant store (runOn (readBytesTo id other length) store).2 := by
  refine steps_bind_inspect fun buffer _ live checked => ?_
  have readable : store.Readable id length :=
    ⟨buffer, live, Buffer.checkReadable_eq_ok.mp checked⟩
  refine steps_bind_readerIndex fun _ _ => ?_
  refine steps_bind (steps_getBytesTo alsoNamed) fun _ between done => ?_
  exact steps_advanceReader named (readable_of_getBytesTo readable done)

theorem steps_setBytesFrom (named : warrant.touches id) (alsoNamed : warrant.touches other) :
    Steps warrant store (runOn (setBytesFrom id index other length) store).2 := by
  refine steps_bind_inspect fun buffer _ live checked => ?_
  have readable : store.Readable other length :=
    ⟨buffer, live, Buffer.checkSource_eq_ok.mp checked⟩
  refine steps_bind_readerIndex fun _ _ => ?_
  refine steps_bind (steps_setBytesAt named) fun _ between done => ?_
  have same : between.buffers = store.buffers := buffers_setBytesAt done
  exact steps_advanceReader alsoNamed (by rwa [Store.Readable, same])

/-- The room behind a writer stays while bytes are taken from another buffer, or from itself. -/
theorem writable_of_setBytesFrom {target : BufferId} {needed : Nat}
    (was : store.Writable target needed)
    (done : runOn (setBytesFrom id index other length) store = (.ok (), after)) :
    after.Writable target needed := by
  obtain ⟨buffer, live, enough⟩ := was
  obtain ⟨_, checked, first, rest⟩ := runOn_bind_eq_ok.mp done
  obtain ⟨rfl, source, sourceLive, _⟩ := runOn_inspect_eq_ok.mp first
  obtain ⟨reader, between, second, rest⟩ := runOn_bind_eq_ok.mp rest
  rw [runOn_readerIndex sourceLive] at second
  cases second
  obtain ⟨_, moved, third, rest⟩ := runOn_bind_eq_ok.mp rest
  have same : moved.buffers = checked.buffers := buffers_setBytesAt third
  cases rest
  by_cases itself : target = other
  · subst itself
    exact ⟨buffer.advanceReader length,
      by simp [Store.mapBuffer, Table.get?_update, same, live], enough⟩
  · exact ⟨buffer, by simp [Store.mapBuffer, Table.get?_update, same, itself, live], enough⟩

theorem steps_writeBytesFrom (named : warrant.touches id) (alsoNamed : warrant.touches other) :
    Steps warrant store (runOn (writeBytesFrom id other length) store).2 := by
  refine steps_bind (steps_ensureWritable named) fun _ between done => ?_
  have writable := writable_of_ensureWritable done
  refine steps_bind_writerIndex fun buffer _ => ?_
  refine steps_bind (steps_setBytesFrom named alsoNamed) fun _ moved done => ?_
  exact steps_advanceWriter named (writable_of_setBytesFrom writable done)

end Transfers

section Views

theorem fresh_copied {source : Buffer} {backend : Backend} {region : Region} {data : Bytes}
    (written : (backend.allocate length).write 0 data = .ok region) :
    (source.copied length store.arenas.next store.buffers.next).Fresh store region := by
  have size : region.size = length := by
    rw [Region.size_write written, Region.size_allocate]
  refine ⟨rfl, rfl, rfl, size.symm, rfl, rfl, rfl, rfl, rfl, ?_⟩
  exact ⟨Nat.min_le_right _ _, Nat.min_le_right _ _, Nat.le_max_right _ _⟩

theorem steps_copyRange (granted : ∀ source, store.buffers.get? id = some source →
      warrant.grants (max source.maxCapacity length)) :
    Steps warrant store (runOn (copyRange id index length) store).2 := by
  refine steps_bind_buffer fun source live => ?_
  rw [runOn_bind, runOn_get]
  refine steps_bind_check fun data read => ?_
  refine steps_bind_check fun region written => ?_
  exact .single (.create (granted source live) (fresh_copied written))

theorem steps_sliceRange
    (named : ∀ buffer, store.buffers.get? id = some buffer → warrant.derives id) :
    Steps warrant store (runOn (sliceRange id index length) store).2 := by
  refine steps_bind_inspect fun buffer _ live accessible => ?_
  refine steps_bind_inspect fun again _ also within => ?_
  cases live.symm.trans also
  refine steps_bind_buffer fun source found => ?_
  cases live.symm.trans found
  have within := Buffer.checkRange_eq_ok.mp within
  exact .single (.derive (named buffer live) live accessible (.sliced within))

theorem steps_duplicate
    (named : ∀ buffer, store.buffers.get? id = some buffer → warrant.derives id) :
    Steps warrant store (runOn (duplicate id) store).2 := by
  refine steps_bind_inspect fun buffer _ live accessible => ?_
  refine steps_bind_buffer fun source found => ?_
  cases live.symm.trans found
  exact .single (.derive (named buffer live) live accessible .duplicated)

end Views

end Action

end CursorBuffers
