import CursorBuffers.Proofs.Atomic
import CursorBuffers.Proofs.Room

namespace CursorBuffers

namespace Action

variable {β : Type} {id other : BufferId} {index otherIndex length : Nat}

/-- What is done once there is room fails before it changes anything. -/
theorem room_of_failed {next : Action β} {store after : Store} {failure : Failure}
    (atomic : next.Atomic)
    (failed : runOn (ensureWritable id length >>= fun _ => next) store = (.error failure, after)) :
    after = (runOn (ensureWritable id length) store).2 := by
  rw [runOn_bind] at failed
  rcases outcome : runOn (ensureWritable id length) store with ⟨_ | _, between⟩
  · rw [outcome] at failed
    cases failed
    rfl
  · rw [outcome] at failed
    exact atomic _ failure after failed

end Action

namespace TransferCommand

/-- The buffer that bytes are copied from. -/
def source (id other : BufferId) : TransferCommand → BufferId
  | .getBytesTo _ => id
  | .getBytesAt _ _ => id
  | .setBytesFrom _ => other
  | .setBytesAt _ _ => other
  | .readBytesTo => id
  | .writeBytesFrom => other

/-- The buffer that bytes are copied to. -/
def target (id other : BufferId) : TransferCommand → BufferId
  | .getBytesTo _ => other
  | .getBytesAt _ _ => other
  | .setBytesFrom _ => id
  | .setBytesAt _ _ => id
  | .readBytesTo => other
  | .writeBytesFrom => id

/-- Whether the bytes are read from the reader on, which then moves. -/
def drains : TransferCommand → Bool
  | .setBytesFrom _ => true
  | .readBytesTo => true
  | .writeBytesFrom => true
  | _ => false

/-- Whether the bytes are written from the writer on, which then moves. -/
def appends : TransferCommand → Bool
  | .getBytesTo _ => true
  | .readBytesTo => true
  | .writeBytesFrom => true
  | _ => false

def sourceIndex (buffer : Buffer) : TransferCommand → Nat
  | .getBytesTo index => index
  | .getBytesAt index _ => index
  | .setBytesAt _ otherIndex => otherIndex
  | _ => buffer.readerIndex

def targetIndex (buffer : Buffer) : TransferCommand → Nat
  | .getBytesAt _ otherIndex => otherIndex
  | .setBytesFrom index => index
  | .setBytesAt index _ => index
  | _ => buffer.writerIndex

/-- What becomes of the cursors of a buffer. -/
def shift (command : TransferCommand) (id other : BufferId) (length : Nat) (named : BufferId)
    (buffer : Buffer) : Buffer :=
  let drained := if command.drains ∧ named = command.source id other then
    buffer.advanceReader length else buffer
  if command.appends ∧ named = command.target id other then
    drained.advanceWriter length else drained

variable {command : TransferCommand} {id other named : BufferId} {buffer : Buffer} {length : Nat}

/-- A transfer moves cursors, and that is all it does to a buffer. -/
theorem akin_shift :
    buffer.Akin (command.shift id other length named buffer) ∧
      (command.shift id other length named buffer).capacity = buffer.capacity := by
  simp only [shift]
  split <;> split <;> exact ⟨⟨rfl, rfl, rfl, rfl, rfl, rfl, rfl, rfl, rfl⟩, rfl⟩

theorem writerIndex_shift_target (appends : command.appends = true) :
    (command.shift id other length (command.target id other) buffer).writerIndex =
      buffer.writerIndex + length := by
  simp only [shift, appends, and_self, if_true]
  split <;> rfl

end TransferCommand

variable {store after : Store} {id other : BufferId} {index otherIndex length : Nat}

/-- A range that can be copied, with the region that takes it. -/
structure Copies (store : Store) (source target : BufferId) (sourceIndex targetIndex : Nat)
    (giver taker : Buffer) (data : Bytes) (region : Region) : Prop where
  gives : store.buffers.get? source = some giver
  takes : store.buffers.get? target = some taker
  readable : giver.guard (store.arena giver.arena) sourceIndex data.size = .ok ()
  writable : taker.guard (store.arena taker.arena) targetIndex data.size = .ok ()
  read : (store.arena giver.arena).region.read (giver.offset + sourceIndex) data.size = .ok data
  written : (store.arena taker.arena).region.write (taker.offset + targetIndex) data = .ok region

/-- The range was copied, and nothing else was done. -/
def Copied (store : Store) (source target : BufferId) (sourceIndex targetIndex length : Nat)
    (giver taker : Buffer) (after : Store) : Prop :=
  ∃ data region, data.size = length ∧
    Copies store source target sourceIndex targetIndex giver taker data region ∧
    after = store.setRegion taker.arena region

namespace Action

theorem copied_of_move {source target : BufferId} {giver taker : Buffer}
    {sourceIndex targetIndex : Nat} (gives : store.buffers.get? source = some giver)
    (takes : store.buffers.get? target = some taker)
    (readable : giver.guard (store.arena giver.arena) sourceIndex length = .ok ())
    (writable : taker.guard (store.arena taker.arena) targetIndex length = .ok ())
    (done : runOn (move source sourceIndex target targetIndex length) store = (.ok (), after)) :
    Copied store source target sourceIndex targetIndex length giver taker after := by
  rw [runOn_move gives takes] at done
  cases read : (store.arena giver.arena).region.read (giver.offset + sourceIndex) length with
  | error error =>
      simp only [read] at done
      cases done
  | ok data =>
      simp only [read, bind, Except.bind] at done
      cases written : (store.arena taker.arena).region.write (taker.offset + targetIndex) data with
      | error error =>
          simp only [written] at done
          cases done
      | ok region =>
          simp only [written] at done
          cases done
          obtain ⟨within, rfl⟩ := Region.within_of_read read
          have size : ((store.arena giver.arena).region.bytes.slice
            (giver.offset + sourceIndex) length).size = length := Bytes.size_slice within
          refine ⟨_, region, size, ⟨gives, takes, ?_, ?_, ?_, written⟩, rfl⟩
          · rw [size, readable]
          · rw [size, writable]
          · rw [size, read]

theorem copied_getBytesAt
    (done : runOn (getBytesAt id index other otherIndex length) store = (.ok (), after)) :
    ∃ giver taker, Copied store id other index otherIndex length giver taker after := by
  obtain ⟨_, between, first, rest⟩ := runOn_bind_eq_ok.mp done
  obtain ⟨rfl, giver, gives, readable⟩ := runOn_inspect_eq_ok.mp first
  obtain ⟨_, between, second, moved⟩ := runOn_bind_eq_ok.mp rest
  obtain ⟨rfl, taker, takes, writable⟩ := runOn_inspect_eq_ok.mp second
  exact ⟨giver, taker, copied_of_move gives takes readable writable moved⟩

theorem copied_setBytesAt
    (done : runOn (setBytesAt id index other otherIndex length) store = (.ok (), after)) :
    ∃ giver taker, Copied store other id otherIndex index length giver taker after := by
  obtain ⟨_, between, first, rest⟩ := runOn_bind_eq_ok.mp done
  obtain ⟨rfl, taker, takes, writable⟩ := runOn_inspect_eq_ok.mp first
  obtain ⟨_, between, second, moved⟩ := runOn_bind_eq_ok.mp rest
  obtain ⟨rfl, giver, gives, readable⟩ := runOn_inspect_eq_ok.mp second
  exact ⟨giver, taker, copied_of_move gives takes readable writable moved⟩

theorem copied_setBytesFrom
    (done : runOn (setBytesFrom id index other length) store = (.ok (), after)) :
    ∃ giver taker data region, data.size = length ∧
      Copies store other id giver.readerIndex index giver taker data region ∧
      length ≤ giver.readableBytes ∧
      after = (store.setRegion taker.arena region).mapBuffer other (·.advanceReader length) := by
  obtain ⟨_, between, first, rest⟩ := runOn_bind_eq_ok.mp done
  obtain ⟨rfl, source, live, checked⟩ := runOn_inspect_eq_ok.mp first
  obtain ⟨_, between, second, rest⟩ := runOn_bind_eq_ok.mp rest
  rw [runOn_readerIndex live] at second
  cases second
  obtain ⟨_, between, third, rest⟩ := runOn_bind_eq_ok.mp rest
  obtain ⟨giver, taker, data, region, size, copies, rfl⟩ := copied_setBytesAt third
  cases rest
  cases live.symm.trans copies.gives
  exact ⟨source, taker, data, region, size, copies, Buffer.checkSource_eq_ok.mp checked, rfl⟩

theorem copied_getBytesTo
    (done : runOn (getBytesTo id index other length) store = (.ok (), after)) :
    ∃ between giver taker data region,
      runOn (ensureWritable other length) store = (.ok (), between) ∧ data.size = length ∧
      Copies between id other index taker.writerIndex giver taker data region ∧
      length ≤ taker.writableBytes ∧
      after = (between.setRegion taker.arena region).mapBuffer other (·.advanceWriter length) := by
  obtain ⟨_, between, made, rest⟩ := runOn_bind_eq_ok.mp done
  obtain ⟨target, live, enough⟩ := writable_of_ensureWritable made
  obtain ⟨_, reached, second, rest⟩ := runOn_bind_eq_ok.mp rest
  rw [runOn_writerIndex live] at second
  cases second
  obtain ⟨_, moved, third, rest⟩ := runOn_bind_eq_ok.mp rest
  obtain ⟨giver, taker, data, region, size, copies, rfl⟩ := copied_getBytesAt third
  cases rest
  cases live.symm.trans copies.takes
  exact ⟨_, giver, target, data, region, made, size, copies, enough, rfl⟩

end Action

/-- A transfer that went through: there was room or room was made, the range was copied, and the
cursors moved. -/
structure Delivered (command : TransferCommand) (id other : BufferId) (length : Nat)
    (store between after : Store) (giver taker : Buffer) (data : Bytes) (region : Region) :
    Prop where
  room : command.appends = true →
    Action.runOn (Action.ensureWritable (command.target id other) length) store = (.ok (), between)
  still : command.appends = false → between = store
  size : data.size = length
  copies : Copies between (command.source id other) (command.target id other)
    (command.sourceIndex giver) (command.targetIndex taker) giver taker data region
  enough : command.drains = true → length ≤ giver.readableBytes
  fits : command.appends = true → length ≤ taker.writableBytes
  arenas : after.arenas = (between.setRegion taker.arena region).arenas
  buffers : ∀ {named buffer}, between.buffers.get? named = some buffer →
    after.buffers.get? named = some (command.shift id other length named buffer)

open CursorBuffers.Action Store in
theorem TransferCommand.delivered {command : TransferCommand}
    (ordered : ∀ {named buffer}, store.buffers.get? named = some buffer → buffer.Ordered)
    (done : runOn (command.perform id other length) store = (.ok (), after)) :
    ∃ between giver taker data region,
      Delivered command id other length store between after giver taker data region := by
  have stays : ∀ {claim : Prop}, false = true → claim := fun moved =>
    absurd moved Bool.false_ne_true
  have moves : ∀ {claim : Prop}, true = false → claim := fun stayed =>
    absurd stayed.symm Bool.false_ne_true
  cases command with
  | getBytesAt index otherIndex =>
      obtain ⟨giver, taker, data, region, size, copies, rfl⟩ := copied_getBytesAt done
      refine ⟨store, giver, taker, data, region, stays, fun _ => rfl, size, copies, stays, stays,
        rfl, fun live => ?_⟩
      simp [shift, drains, appends, live]
  | setBytesAt index otherIndex =>
      obtain ⟨giver, taker, data, region, size, copies, rfl⟩ := copied_setBytesAt done
      refine ⟨store, giver, taker, data, region, stays, fun _ => rfl, size, copies, stays, stays,
        rfl, fun live => ?_⟩
      simp [shift, drains, appends, live]
  | setBytesFrom index =>
      obtain ⟨giver, taker, data, region, size, copies, enough, rfl⟩ := copied_setBytesFrom done
      refine ⟨_, giver, taker, data, region, stays, fun _ => rfl, size, copies,
        fun _ => enough, stays, rfl, fun live => ?_⟩
      simp [shift, drains, appends, source, get?_mapBuffer, live]
  | getBytesTo index =>
      obtain ⟨between, giver, taker, data, region, made, size, copies, fits, rfl⟩ :=
        copied_getBytesTo done
      refine ⟨_, giver, taker, data, region, fun _ => made, moves, size, copies, stays,
        fun _ => fits, rfl, fun live => ?_⟩
      simp [shift, drains, appends, target, get?_mapBuffer, live]
  | readBytesTo =>
      obtain ⟨_, between, first, rest⟩ := runOn_bind_eq_ok.mp done
      obtain ⟨rfl, reader, live, checked⟩ := runOn_inspect_eq_ok.mp first
      obtain ⟨_, between, second, rest⟩ := runOn_bind_eq_ok.mp rest
      rw [runOn_readerIndex live] at second
      cases second
      obtain ⟨_, between, third, rest⟩ := runOn_bind_eq_ok.mp rest
      obtain ⟨between, giver, taker, data, region, made, size, copies, fits, rfl⟩ :=
        copied_getBytesTo third
      cases rest
      -- The reader was looked up before room was made in the target, which may be the source.
      obtain ⟨later, found, _, position, writer, _⟩ := cursors_of_room ordered made live
      cases found.symm.trans copies.gives
      have enough := Buffer.checkReadable_eq_ok.mp checked
      refine ⟨between, giver, taker, data, region, fun _ => made, moves, size, ?_, fun _ => ?_,
        fun _ => fits, rfl, fun live => ?_⟩
      · rw [← position] at copies
        exact copies
      · simpa only [Buffer.readableBytes, position, writer] using enough
      · simp [shift, drains, appends, source, target, get?_mapBuffer, live]
        split <;> split <;> rfl
  | writeBytesFrom =>
      obtain ⟨_, between, made, rest⟩ := runOn_bind_eq_ok.mp done
      obtain ⟨target, live, enough⟩ := writable_of_ensureWritable made
      obtain ⟨_, between, second, rest⟩ := runOn_bind_eq_ok.mp rest
      rw [runOn_writerIndex live] at second
      cases second
      obtain ⟨_, between, third, rest⟩ := runOn_bind_eq_ok.mp rest
      obtain ⟨giver, taker, data, region, size, copies, fits, rfl⟩ := copied_setBytesFrom third
      cases rest
      cases live.symm.trans copies.takes
      refine ⟨_, giver, target, data, region, fun _ => made, moves, size, copies, fun _ => fits,
        fun _ => enough, rfl, fun live => ?_⟩
      simp [shift, drains, appends, source, TransferCommand.target, get?_mapBuffer, live]

namespace Action

theorem room_of_getBytesTo_failed {failure : Failure}
    (failed : runOn (getBytesTo id index other length) store = (.error failure, after)) :
    after = (runOn (ensureWritable other length) store).2 :=
  room_of_failed (.bind observes_writerIndex fun _ => .bind_modify atomic_getBytesAt) failed

theorem room_of_writeBytesFrom_failed {failure : Failure}
    (failed : runOn (writeBytesFrom id other length) store = (.error failure, after)) :
    after = (runOn (ensureWritable id length) store).2 :=
  room_of_failed (.bind observes_writerIndex fun _ => .bind_modify atomic_setBytesFrom) failed

theorem room_of_readBytesTo_failed {failure : Failure}
    (failed : runOn (readBytesTo id other length) store = (.error failure, after)) :
    after = store ∨ after = (runOn (ensureWritable other length) store).2 ∧
      ∃ giver, store.buffers.get? id = some giver ∧ length ≤ giver.readableBytes := by
  rw [readBytesTo, runOn_bind] at failed
  have kept : (runOn (checkReadable id length) store).2 = store := after_inspect
  rcases looked : runOn (checkReadable id length) store with ⟨_ | _, between⟩
  · rw [looked] at failed kept
    cases failed
    exact .inl kept
  · rw [looked] at failed kept
    cases kept
    obtain ⟨_, giver, live, checked⟩ := runOn_inspect_eq_ok.mp looked
    change runOn (readerIndex id >>= fun index => getBytesTo id index other length >>= fun _ =>
      advanceReader id length) between = _ at failed
    rw [runOn_bind, runOn_readerIndex live] at failed
    exact .inr ⟨room_of_getBytesTo_failed (failed_of_bind_modify failed), giver, live,
      Buffer.checkReadable_eq_ok.mp checked⟩

end Action

open CursorBuffers.Action in
/-- A transfer that fails has done nothing, or it has made room behind the writer of its target. -/
theorem TransferCommand.failed {command : TransferCommand} {failure : Failure}
    (failed : runOn (command.perform id other length) store = (.error failure, after)) :
    after = store ∨ command.appends = true ∧
      after = (runOn (ensureWritable (command.target id other) length) store).2 ∧
      (command = .readBytesTo → ∃ giver, store.buffers.get? id = some giver ∧
        length ≤ giver.readableBytes) := by
  cases command with
  | getBytesAt index otherIndex => exact .inl (atomic_getBytesAt _ _ _ failed)
  | setBytesAt index otherIndex => exact .inl (atomic_setBytesAt _ _ _ failed)
  | setBytesFrom index => exact .inl (atomic_setBytesFrom _ _ _ failed)
  | getBytesTo index =>
      exact .inr ⟨rfl, room_of_getBytesTo_failed failed, fun other => by cases other⟩
  | writeBytesFrom =>
      exact .inr ⟨rfl, room_of_writeBytesFrom_failed failed, fun other => by cases other⟩
  | readBytesTo =>
      rcases room_of_readBytesTo_failed failed with kept | ⟨room, readable⟩
      · exact .inl kept
      · exact .inr ⟨rfl, room, fun _ => readable⟩

namespace Store

/-- One buffer has been given a larger capacity, and every buffer shows what it showed. -/
structure Roomier (store after : Store) (id : BufferId) (buffer : Buffer) (capacity : Nat) :
    Prop where
  live : store.buffers.get? id = some buffer
  larger : buffer.capacity < capacity
  allowed : capacity ≤ buffer.maxCapacity
  grown : after.buffers.get? id = some (buffer.withCapacity capacity)
  reader : (buffer.withCapacity capacity).readerIndex = buffer.readerIndex
  writer : (buffer.withCapacity capacity).writerIndex = buffer.writerIndex
  others : ∀ {other}, other ≠ id → after.buffers.get? other = store.buffers.get? other
  arenas : ∀ {arena}, arena ≠ buffer.arena → after.arena arena = store.arena arena
  freed : ∀ {arena}, (after.arena arena).freed = (store.arena arena).freed
  shown : ∀ {other window index}, store.buffers.get? other = some window →
    index < window.capacity →
    (after.arena window.arena).region.bytes[window.offset + index]? =
      (store.arena window.arena).region.bytes[window.offset + index]?

theorem Reachable.roomier_refitted (reachable : store.Reachable) {buffer : Buffer}
    {capacity : Nat} {region : Region} (live : store.buffers.get? id = some buffer)
    (larger : buffer.capacity < capacity) (allowed : capacity ≤ buffer.maxCapacity)
    (resized : store.resized buffer capacity = .ok region) :
    store.Roomier (store.refitted id buffer capacity region) id buffer capacity := by
  obtain ⟨reader, writer⟩ :=
    (reachable.ordered live).cursors_withCapacity (Nat.le_of_lt larger)
  refine ⟨live, larger, allowed, ?_, reader, writer, fun distinct => ?_, fun distinct => ?_,
    fun {arena} => ?_, fun also inside => ?_⟩
  · rw [get?_refitted live, if_pos rfl]
  · rw [get?_refitted live, if_neg distinct]
  · rw [arena_refitted, arena_setRegion_of_ne distinct]
  · rw [arena_refitted, freed_setRegion]
  · exact reachable.covered.byte_refitted live (Nat.le_of_lt larger) resized also
      (Nat.add_lt_add_left inside _)

/-- Room is made by growth, and by nothing else. -/
theorem Reachable.roomier (reachable : store.Reachable) :
    (Action.runOn (Action.ensureWritable id length) store).2 = store ∨
      ∃ buffer capacity, buffer.writableBytes < length ∧ length ≤ buffer.maxWritableBytes ∧
        store.Roomier (Action.runOn (Action.ensureWritable id length) store).2 id buffer
          capacity := by
  cases live : store.buffers.get? id with
  | none => exact .inl (by rw [Action.ensureWritable, Action.runOn_bind_buffer_none live])
  | some buffer =>
      have made : RoomMade store id buffer length _ := Action.roomMade live
      generalize Action.runOn (Action.ensureWritable id length) store = outcome at made ⊢
      cases made with
      | ample enough => exact .inl rfl
      | refused short reason => exact .inl rfl
      | @grown capacity region short larger needed allowed resized =>
          refine .inr ⟨buffer, capacity, short, ?_,
            reachable.roomier_refitted live larger allowed resized⟩
          simp only [Buffer.maxWritableBytes]
          omega

/-- A transfer that fails leaves everything as it was, unless it appends to a buffer that had to
grow for it: then that buffer keeps its new capacity, and no cursor has moved and no byte that a
buffer shows has changed. A transfer out of a buffer that has too little to read never gets so
far. -/
theorem grown_at_most_of_failed_transfer (reachable : store.Reachable)
    {command : TransferCommand} {failure : Failure}
    (failed : (store.run (.transfer id other command length)).1 = .error failure) :
    (store.run (.transfer id other command length)).2 = store ∨
      command.appends = true ∧
      (command = .readBytesTo → ∃ giver, store.buffers.get? id = some giver ∧
        length ≤ giver.readableBytes) ∧
      ∃ taker capacity, taker.writableBytes < length ∧ length ≤ taker.maxWritableBytes ∧
        store.Roomier (store.run (.transfer id other command length)).2
          (command.target id other) taker capacity := by
  have stopped : Action.runOn (command.perform id other length) store =
      (.error failure, (store.run (.transfer id other command length)).2) := by
    exact Action.failed_of_bind_pure (Prod.ext failed rfl)
  rcases TransferCommand.failed stopped with kept | ⟨appends, room, readable⟩
  · exact .inl kept
  · rw [room]
    rcases reachable.roomier with kept | grown
    · exact .inl kept
    · exact .inr ⟨appends, readable, grown⟩

theorem exists_error_of_isOk {α ε : Type} {result : Except ε α} (failed : result.isOk = false) :
    ∃ error, result = .error error := by
  cases result with
  | error error => exact ⟨error, rfl⟩
  | ok value => cases failed

/-- Ten bytes are asked of a buffer that holds two. -/
theorem transfer_of_short_buffer_failed : ∃ failure,
    ((initial.after [.allocate (.plain {}) { capacity := 4, maxCapacity := 64 },
      .wrap (.array #[1, 2] {}) true]).run (.transfer 0 1 .writeBytesFrom 10)).1 =
        .error failure :=
  exists_error_of_isOk (by decide +kernel)

/-- The buffer that should take the ten bytes has grown. -/
theorem grown_by_transfer_of_short_buffer :
    ∃ taker capacity, taker.writableBytes < 10 ∧ 10 ≤ taker.maxWritableBytes ∧
      (initial.after [.allocate (.plain {}) { capacity := 4, maxCapacity := 64 },
        .wrap (.array #[1, 2] {}) true]).Roomier
        ((initial.after [.allocate (.plain {}) { capacity := 4, maxCapacity := 64 },
          .wrap (.array #[1, 2] {}) true]).run (.transfer 0 1 .writeBytesFrom 10)).2 0 taker
            capacity := by
  obtain ⟨failure, failed⟩ := transfer_of_short_buffer_failed
  have grown : (((initial.after [.allocate (.plain {}) { capacity := 4, maxCapacity := 64 },
      .wrap (.array #[1, 2] {}) true]).run (.transfer 0 1 .writeBytesFrom 10)).2.buffers.get?
        0).map (·.capacity) ≠
      ((initial.after [.allocate (.plain {}) { capacity := 4, maxCapacity := 64 },
        .wrap (.array #[1, 2] {}) true]).buffers.get? 0).map (·.capacity) := by decide +kernel
  rcases grown_at_most_of_failed_transfer ⟨_, rfl⟩ failed with kept | ⟨_, _, roomier⟩
  · exact absurd (by rw [kept]) grown
  · exact roomier

/-- Not every transfer that fails leaves both capacities as they were: where the bytes are taken
from a buffer that has too few of them, the other one has grown before that is found out. -/
theorem failed_transfer_not_atomic :
    ¬ ∀ (commands : List Command) (id other : BufferId) (command : TransferCommand)
      (length : Nat) (failure : Failure), id ≠ other →
      ((initial.after commands).run (.transfer id other command length)).1 = .error failure →
      (((initial.after commands).run (.transfer id other command length)).2.buffers.get? id).map
        (·.capacity) = ((initial.after commands).buffers.get? id).map (·.capacity) := by
  intro atomic
  obtain ⟨failure, failed⟩ := transfer_of_short_buffer_failed
  have same := atomic _ 0 1 .writeBytesFrom 10 failure (by decide) failed
  revert same
  decide +kernel

end Store

end CursorBuffers
