import CursorBuffers.Proofs.Waiting.Drawing

namespace CursorBuffers

variable {store after : Store} {id : BufferId} {buffer : Buffer} {length : Nat}
variable {written data content : Bytes} {checking : Bool} {config : MemoryConfig}

/-- A buffer from the start of its arena, of a fixed length, from which nothing has been read. -/
structure Buffer.MadeFor (buffer : Buffer) (length count : Nat) : Prop where
  offset : buffer.offset = 0
  readerIndex : buffer.readerIndex = 0
  writerIndex : buffer.writerIndex = count
  capacity : buffer.capacity = length
  maxCapacity : buffer.maxCapacity = length

namespace Store

/-- A buffer that was made for so many bytes, and that shows those that are written by now. -/
structure Filling (store : Store) (id : BufferId) (buffer : Buffer) (length : Nat)
    (written : Bytes) : Prop where
  live : store.buffers.get? id = some buffer
  intact : (store.arena buffer.arena).freed = false
  stored : (store.arenas.get? buffer.arena).isSome
  madeFor : buffer.MadeFor length written.size
  within : written.size ≤ length
  covered : length ≤ (store.arena buffer.arena).region.size
  content : (store.arena buffer.arena).region.bytes.slice 0 written.size = written

/-- A buffer that shows these bytes, and has room for no more. -/
structure Wraps (store : Store) (id : BufferId) (content : Bytes) : Prop where
  sized : ∃ buffer, store.buffers.get? id = some buffer ∧ buffer.readerIndex = 0 ∧
    buffer.writerIndex = content.size ∧ buffer.capacity = content.size ∧
    buffer.maxCapacity = content.size
  shown : store.run (.onBuffer id .toBytes) = (.ok (.bytes content), store)

theorem run_toBytes_of_shown (live : store.buffers.get? id = some buffer)
    (shown : buffer.toBytes (store.arena buffer.arena) = .ok content) :
    store.run (.onBuffer id .toBytes) = (.ok (.bytes content), store) := by
  change Action.runOn (Action.toBytes id >>= fun bytes => pure (Answer.bytes bytes)) store = _
  rw [Action.runOn_bind, Action.toBytes, Action.runOn_inspect live, shown]
  rfl

namespace Filling

/-- More is written behind what is written. -/
theorem fill (filling : store.Filling id buffer length written)
    (room : written.size + data.size ≤ length) (short : length ≤ Bytes.lengthLimit) :
    Action.runOn (Action.fill id data) store = (.ok (), store.filled id buffer data) ∧
      (store.filled id buffer data).Filling id (buffer.advanceWriter data.size) length
        (written ++ data) := by
  obtain ⟨offset, reader, writer, capacity, maximum⟩ := filling.madeFor
  have covered := filling.covered
  have roomy : store.Roomy id buffer (data.size + 0) :=
    ⟨filling.live, filling.intact, filling.stored, by omega, by omega⟩
  have inside : 0 + written.size + data.size ≤ (store.arena buffer.arena).region.size := by omega
  have kept : ((store.filled id buffer data).arena buffer.arena).region =
      store.filledRegion buffer data := region_setRegion_of_stored filling.stored
  have bytes : (store.filledRegion buffer data).bytes =
      (store.arena buffer.arena).region.bytes.splice (0 + written.size) data := by
    rw [filledRegion, Region.bytes_withBytes, offset, writer]
  refine ⟨Action.runOn_fill roomy (by omega), ?_⟩
  constructor
  case live => exact Store.get?_mapBuffer.trans (by simp [filling.live])
  case intact => exact freed_setRegion.trans filling.intact
  case stored => exact stored_setRegion.trans filling.stored
  case madeFor =>
    have moved : (buffer.advanceWriter data.size).writerIndex = (written ++ data).size := by
      rw [Buffer.advanceWriter, Array.size_append, writer]
    exact ⟨offset, reader, moved, capacity, maximum⟩
  case within => rwa [Array.size_append]
  case covered =>
    change length ≤ ((store.filled id buffer data).arena buffer.arena).region.bytes.size
    rw [kept, bytes, Bytes.size_splice inside]
    exact covered
  case content =>
    change ((store.filled id buffer data).arena buffer.arena).region.bytes.slice 0 _ = _
    rw [kept, bytes, Array.size_append, Bytes.slice_splice inside, filling.content]

/-- The whole source is written, one chunk behind the other. -/
theorem fillFrom {α : Type} {source : Source α} {state : α} {store : Store} {buffer : Buffer}
    {written : Bytes} (filling : store.Filling id buffer length written)
    (room : written.size + (source.content state).size ≤ length)
    (short : length ≤ Bytes.lengthLimit) :
    ∃ rest after filled,
      Action.runOn (Action.fillFrom source id state) store = (.ok rest, after) ∧
      after.Filling id filled length (written ++ source.content state) ∧
      source.remaining rest = 0 ∧ after.events = store.events := by
  by_cases empty : source.remaining state = 0
  · have nothing : source.content state = #[] :=
      Array.eq_empty_of_size_eq_zero ((source.remaining_eq state).symm.trans empty)
    rw [Action.fillFrom_of_empty empty, nothing, Array.append_empty]
    exact ⟨state, store, buffer, rfl, filling, empty, rfl⟩
  · -- The first chunk is written, and then the rest is a source with less to come.
    have shorter := Source.remaining_advance_lt empty
    have split := source.chunk_append state
    rw [← split, Array.size_append] at room
    have first : written.size + (source.chunk state).size ≤ length := by omega
    obtain ⟨done, filled⟩ := filling.fill first short
    have left : (written ++ source.chunk state).size +
        (source.content (source.advance state (source.chunk state).size)).size ≤ length := by
      rw [Array.size_append]
      omega
    obtain ⟨rest, after, last, also, whole, consumed, silent⟩ := filled.fillFrom left short
    refine ⟨rest, after, last, ?_, ?_, consumed, silent⟩
    · rw [Action.fillFrom_of_left empty, Action.runOn_bind, done]
      exact also
    · rwa [Array.append_assoc, split] at whole
termination_by source.remaining state

/-- A buffer that is full shows all that was to be wrapped. -/
theorem wraps (filling : store.Filling id buffer content.size content) :
    store.Wraps id content := by
  obtain ⟨offset, reader, writer, capacity, maximum⟩ := filling.madeFor
  refine ⟨⟨buffer, filling.live, reader, writer, capacity, maximum⟩, ?_⟩
  have covered : buffer.offset + buffer.capacity ≤ (store.arena buffer.arena).region.size := by
    rw [offset, capacity, Nat.zero_add]
    exact filling.covered
  have shown := Buffer.toBytes_eq_ok ⟨by omega, by omega, by omega⟩
    (Buffer.checkAccessible_of_intact filling.intact) covered
  rw [Buffer.readableBytes, reader, writer, offset, Nat.sub_zero, Nat.add_zero,
    filling.content] at shown
  exact run_toBytes_of_shown filling.live shown

end Filling

/-- A pool that has lent an arena of at least that length has made a buffer to be filled. -/
theorem Handed.filling {pool : PoolId} {record : Pool} {arena : ArenaId} {bytes : Bytes}
    (handed : store.Handed pool record (.exact length checking) arena bytes after)
    (long : length ≤ bytes.size) : after.Filling store.buffers.next
      (.leased (.exact length checking) record.config arena store.buffers.next pool) length
      #[] where
  live := handed.live
  intact := handed.intact
  stored := handed.stored
  madeFor := ⟨rfl, rfl, rfl, rfl, rfl⟩
  within := Nat.zero_le _
  covered := by
    change length ≤ (after.arena arena).region.bytes.size
    rwa [handed.bytes]
  content := Array.extract_empty_of_stop_le_start (Nat.le_refl 0)

/-- A buffer on a new arena shows what is in the arena from the start. -/
theorem filling_new {region : Region} (here : buffer.arena = store.arenas.next)
    (madeFor : buffer.MadeFor region.size written.size) (within : written.size ≤ region.size)
    (content : region.bytes.slice 0 written.size = written) :
    ((store.addArena region).addBuffer buffer).Filling store.buffers.next buffer region.size
      written := by
  have made : ((store.addArena region).addBuffer buffer).arena buffer.arena = ⟨region, false⟩ := by
    simp [here, arena_addArena]
  constructor
  case live => exact Table.get?_add_next
  case intact => rw [made]
  case stored => simp [here, addBuffer, addArena]
  case madeFor => exact madeFor
  case within => exact within
  case covered => exact Nat.le_of_eq (congrArg (·.region.size) made).symm
  case content => rwa [made]

/-- A plain allocator makes a buffer to be filled, and logs nothing. -/
theorem filling_plain (store : Store) (length : Nat) (checking : Bool) (config : MemoryConfig) :
    ∃ after buffer,
    Action.runOn (Action.allocate (.plain config) (.exact length checking)) store =
      (.ok store.buffers.next, after) ∧
    after.Filling store.buffers.next buffer length #[] ∧ after.events = store.events := by
  let buffer := Buffer.ofAllocation (.exact length checking) config store.arenas.next
    store.buffers.next
  have size : ((Backend.select config).allocate length).size = length := Region.size_allocate
  have madeFor : buffer.MadeFor ((Backend.select config).allocate length).size 0 :=
    ⟨rfl, rfl, rfl, size.symm, size.symm⟩
  have filling : ((store.addArena ((Backend.select config).allocate length)).addBuffer
      buffer).Filling store.buffers.next buffer ((Backend.select config).allocate length).size
        #[] :=
    filling_new rfl madeFor (Nat.zero_le _)
      (Array.extract_empty_of_stop_le_start (Nat.le_refl 0))
  rw [size] at filling
  exact ⟨_, buffer, Action.runOn_allocatePlain Allocation.validate_exact, filling, rfl⟩

/-- A request for a buffer that is to be filled yields that buffer, or nothing happens. -/
theorem Reachable.provided (reachable : store.Reachable) (allocator : Allocator) (length : Nat)
    (checking : Bool) :
    (∃ failure, Action.runOn (Action.allocate allocator (.exact length checking)) store =
      (.error failure, store)) ∨
    ∃ after buffer, Action.runOn (Action.allocate allocator (.exact length checking)) store =
        (.ok store.buffers.next, after) ∧
      after.Filling store.buffers.next buffer length #[] := by
  cases allocator with
  | plain config =>
      obtain ⟨after, buffer, done, filling, _⟩ := filling_plain store length checking config
      exact .inr ⟨after, buffer, done, filling⟩
  | pooled pool =>
      rcases Action.handed_allocatePooled reachable pool (.exact length checking) with
        refused | ⟨record, arena, bytes, after, done, _, long, handed, _⟩
      · exact .inl refused
      · exact .inr ⟨after, _, done, handed.filling long⟩

/-- A command makes a buffer, and it wraps these bytes. -/
def Yields (store : Store) (command : Command) (content : Bytes) : Prop :=
  ∃ after, store.run command = (.ok (.buffer store.buffers.next), after) ∧
    after.Wraps store.buffers.next content

theorem yields_array (short : content.size ≤ Bytes.lengthLimit) :
    store.Yields (.wrap (.array content config) checking) content := by
  let buffer := Buffer.full content.size checking config store.arenas.next store.buffers.next
  have filling : ((store.addArena (.managed content)).addBuffer buffer).Filling
      store.buffers.next buffer content.size content :=
    filling_new rfl ⟨rfl, rfl, rfl, rfl, rfl⟩ (Nat.le_refl _) (by simp [Region.bytes, Bytes.slice])
  have checked : content.checkSize = .ok () := Bytes.checkSize_eq_ok.mpr short
  refine ⟨_, ?_, filling.wraps⟩
  simp only [run, Command.perform, WrapCommand.perform, Action.wrapArray, Action.runOn_bind,
    Action.runOn_check, checked]
  rfl

section Copies

variable {allocator : Allocator} {answer : Answer} {failure : Failure}

theorem run_allocate_exact : store.run (.allocate allocator (.exact length checking)) =
    Action.runOn (Action.allocate allocator (.exact length checking) >>= fun handle =>
      pure (.buffer handle)) store := rfl

theorem run_wrapBytes (short : content.size ≤ Bytes.lengthLimit) :
    store.run (.wrap (.bytes allocator content) checking) =
      Action.runOn (Action.allocate allocator (.exact content.size checking) >>= fun handle => do
        Action.fill handle content
        pure (.buffer handle)) store := by
  have checked : content.checkSize = .ok () := Bytes.checkSize_eq_ok.mpr short
  simp only [run, Command.perform, WrapCommand.perform, Action.wrapBytes, checked, Action.check,
    bind_assoc, pure_bind]

/-- If the allocator makes a buffer of that length, then the bytes are copied into it. -/
theorem Reachable.yields_bytes (reachable : store.Reachable)
    (short : content.size ≤ Bytes.lengthLimit)
    (accepted : (store.run (.allocate allocator (.exact content.size checking))).1 = .ok answer) :
    store.Yields (.wrap (.bytes allocator content) checking) content := by
  rcases reachable.provided allocator content.size checking with
    ⟨failure, asked⟩ | ⟨between, buffer, asked, filling⟩
  · rw [run_allocate_exact, Action.runOn_bind, asked] at accepted
    cases accepted
  · have room : (#[] : Bytes).size + content.size ≤ content.size :=
      Nat.le_of_eq (Nat.zero_add _)
    obtain ⟨done, filled⟩ := filling.fill room short
    rw [Array.empty_append] at filled
    rw [Yields, run_wrapBytes short, Action.runOn_bind, asked]
    simp only [Action.runOn_bind, done]
    exact ⟨_, rfl, filled.wraps⟩

/-- If the allocator turns the request down, then nothing happens. -/
theorem Reachable.run_wrapBytes_of_declined (reachable : store.Reachable)
    (short : content.size ≤ Bytes.lengthLimit)
    (declined : (store.run (.allocate allocator (.exact content.size checking))).1 =
      .error failure) :
    store.run (.wrap (.bytes allocator content) checking) = (.error failure, store) := by
  rw [run_allocate_exact, Action.runOn_bind] at declined
  rcases reachable.provided allocator content.size checking with
    ⟨other, asked⟩ | ⟨between, buffer, asked, filling⟩
  · rw [asked] at declined
    cases declined
    rw [run_wrapBytes short, Action.runOn_bind, asked]
  · rw [asked] at declined
    cases declined

end Copies

/-- A source is read to its end into a buffer that is as long as the source. -/
theorem runOn_wrapSource {α : Type} (store : Store) (source : Source α) (state : α)
    (checking : Bool) (short : (source.content state).size ≤ Bytes.lengthLimit) :
    ∃ rest after,
      Action.runOn (Action.wrapSource source state checking) store =
        (.ok (store.buffers.next, rest), after) ∧
      after.Wraps store.buffers.next (source.content state) ∧
      source.remaining rest = 0 ∧ after.events = store.events := by
  have checked : source.checkSize state = .ok () :=
    Source.checkSize_eq.trans (Bytes.checkSize_eq_ok.mpr short)
  have room : (#[] : Bytes).size + (source.content state).size ≤ (source.content state).size :=
    Nat.le_of_eq (Nat.zero_add _)
  obtain ⟨made, buffer, asked, begun, quiet⟩ :=
    filling_plain store (source.content state).size checking {}
  obtain ⟨rest, after, filled, done, filling, consumed, silent⟩ := begun.fillFrom room short
  rw [Array.empty_append] at filling
  refine ⟨rest, after, ?_, filling.wraps, consumed, silent.trans quiet⟩
  rw [Action.wrapSource, checked, source.remaining_eq]
  simp only [Action.check, pure_bind, Action.runOn_bind, Allocator.default, asked, done]
  rfl

theorem run_wrapChunks {chunks : List Bytes} : store.run (.wrap (.chunks chunks) checking) =
    Action.runOn (Action.wrapSource .ofChunks chunks checking >>= fun made =>
      pure (.buffer made.1)) store := by
  simp only [run, Command.perform, WrapCommand.perform, Action.wrapChunks_eq_wrapSource, bind_assoc,
    pure_bind]

/-- What comes of wrapping bytes. -/
structure Wrapping (store : Store) (content : Bytes) (checking : Bool) : Prop where
  /-- An array is taken over. -/
  array : ∀ config, store.Yields (.wrap (.array content config) checking) content
  /-- A plain allocator always makes a buffer of that length. -/
  plain : ∀ config, ∃ answer,
    (store.run (.allocate (.plain config) (.exact content.size checking))).1 = .ok answer
  /-- A pool does so if it is open and the length is not above its limit. -/
  pooled : ∀ pool record, store.pools.get? pool = some record →
    ((∃ answer, (store.run (.allocate (.pooled pool) (.exact content.size checking))).1 =
        .ok answer) ↔
      record.closed = false ∧ content.size ≤ record.settings.maxBufferCapacity)
  /-- Whoever would make a buffer of that length makes one with a copy. -/
  accepted : ∀ allocator answer,
    (store.run (.allocate allocator (.exact content.size checking))).1 = .ok answer →
      store.Yields (.wrap (.bytes allocator content) checking) content
  /-- Else the copy fails for the same reason, and nothing has changed. -/
  declined : ∀ allocator failure,
    (store.run (.allocate allocator (.exact content.size checking))).1 = .error failure →
      store.run (.wrap (.bytes allocator content) checking) = (.error failure, store)
  /-- A source is copied to its end, and no growth is logged. -/
  source : ∀ {α : Type} (source : Source α) state, source.content state = content →
    ∃ rest after,
      Action.runOn (Action.wrapSource source state checking) store =
        (.ok (store.buffers.next, rest), after) ∧
      after.Wraps store.buffers.next content ∧
      source.remaining rest = 0 ∧ after.events = store.events
  /-- So are chunks, wherever the bytes are divided. -/
  chunks : ∀ chunks, Bytes.join chunks = content →
    ∃ after,
      store.run (.wrap (.chunks chunks) checking) = (.ok (.buffer store.buffers.next), after) ∧
      after.Wraps store.buffers.next content ∧ after.events = store.events

theorem accepted_plain : ∃ answer,
    (store.run (.allocate (.plain config) (.exact length checking))).1 = .ok answer := by
  obtain ⟨after, buffer, done, _⟩ := filling_plain store length checking config
  refine ⟨.buffer store.buffers.next, ?_⟩
  rw [run_allocate_exact, Action.runOn_bind, done]
  rfl

theorem Reachable.accepted_pooled {pool : PoolId} {record : Pool} (reachable : store.Reachable)
    (served : store.pools.get? pool = some record) :
    (∃ answer, (store.run (.allocate (.pooled pool) (.exact length checking))).1 = .ok answer) ↔
      record.closed = false ∧ length ≤ record.settings.maxBufferCapacity := by
  constructor
  · rintro ⟨answer, accepted⟩
    cases valid : record.validate (.exact length checking) with
    | error error =>
        rw [run_allocate, Action.runOn_bind, runOn_allocate_of_declined served valid] at accepted
        cases accepted
    | ok _ =>
        obtain ⟨unclosed, _, small⟩ := Pool.validate_eq_ok.mp valid
        exact ⟨unclosed, small⟩
  · rintro ⟨unclosed, small⟩
    have valid : record.validate (.exact length checking) = .ok () :=
      Pool.validate_eq_ok.mpr ⟨unclosed, Allocation.validate_exact, small⟩
    obtain ⟨after, answered, _⟩ := reachable.sound.owned.lends_run served valid
    rw [answered]
    exact ⟨_, rfl⟩

/-- After every run, bytes that are not too many are wrapped without loss: taken over, copied with
any allocator that accepts their length, or copied from a source that hands them out in chunks. -/
theorem Reachable.wrapping (reachable : store.Reachable)
    (short : content.size ≤ Bytes.lengthLimit) (checking : Bool) :
    store.Wrapping content checking where
  array _ := yields_array short
  plain _ := accepted_plain
  pooled _ _ served := reachable.accepted_pooled served
  accepted _ _ accepted := reachable.yields_bytes short accepted
  declined _ _ declined := reachable.run_wrapBytes_of_declined short declined
  source source state same := by
    rw [← same] at short ⊢
    exact runOn_wrapSource store source state checking short
  chunks chunks same := by
    rw [← same] at short ⊢
    obtain ⟨rest, after, done, wraps, _, silent⟩ :=
      runOn_wrapSource store .ofChunks chunks checking short
    refine ⟨after, ?_, wraps, silent⟩
    rw [run_wrapChunks, Action.runOn_bind, done]
    rfl

/-- An arena that waits in the queue is longer than the bytes, and has others in it. -/
theorem wrapping_of_stale :
    ((initial.after [.openPool {} {} 0, .allocate (.pooled 0) { capacity := 4 },
      .onBuffer 0 (.writeBytes #[9, 9, 9, 9]), .onBuffer 0 (.sliceRange 2 2),
      .onBuffer 1 (.setCapacity 4), .drop 1, .drop 0]).registry 0).queue 4 ≠ [] ∧
    ((initial.after [.openPool {} {} 0, .allocate (.pooled 0) { capacity := 4 },
      .onBuffer 0 (.writeBytes #[9, 9, 9, 9]), .onBuffer 0 (.sliceRange 2 2),
      .onBuffer 1 (.setCapacity 4), .drop 1, .drop 0]).arena 0).region.bytes =
        #[9, 9, 9, 9, 0, 0] ∧
    (initial.after [.openPool {} {} 0, .allocate (.pooled 0) { capacity := 4 },
      .onBuffer 0 (.writeBytes #[9, 9, 9, 9]), .onBuffer 0 (.sliceRange 2 2),
      .onBuffer 1 (.setCapacity 4), .drop 1, .drop 0]).Wrapping #[1, 2, 3, 4] true :=
  ⟨by decide, by decide, Reachable.wrapping ⟨_, rfl⟩ (by decide) true⟩

end Store

end CursorBuffers
