import CursorBuffers.Proofs.Transfers
import CursorBuffers.Proofs.Slices

namespace CursorBuffers

/-- The operations that write: typed or bulk, at an index or behind the writer, and from one buffer
to another. -/
def Command.IsWrite : Command → Prop
  | .onBuffer _ (.setScalar _ _ _) => True
  | .onBuffer _ (.setBytes _ _) => True
  | .onBuffer _ (.writeScalar _ _) => True
  | .onBuffer _ (.writeBytes _) => True
  | .transfer _ _ _ _ => True
  | _ => False

namespace Store

/-- The store in which a transfer copies: there is room behind the writer that it appends at. -/
def roomFor (store : Store) (command : TransferCommand) (id other : BufferId) (length : Nat) :
    Store :=
  if command.appends then
    (store.run (.onBuffer (command.target id other) (.ensureWritable length))).2
  else store

/-- The command writes these bytes at this index of this buffer, if it goes through. -/
inductive Writes (store : Store) : Command → BufferId → Nat → Bytes → Prop
  | setScalar {id : BufferId} {order : ByteOrder} {index : Nat} {value : Scalar} :
      Writes store (.onBuffer id (.setScalar order index value)) id index
        (order.encode value.toWord)
  | setBytes {id : BufferId} {index : Nat} {data : Bytes} :
      Writes store (.onBuffer id (.setBytes index data)) id index data
  | writeScalar {id : BufferId} {order : ByteOrder} {value : Scalar} {buffer : Buffer}
      (live : store.buffers.get? id = some buffer) :
      Writes store (.onBuffer id (.writeScalar order value)) id buffer.writerIndex
        (order.encode value.toWord)
  | writeBytes {id : BufferId} {data : Bytes} {buffer : Buffer}
      (live : store.buffers.get? id = some buffer) :
      Writes store (.onBuffer id (.writeBytes data)) id buffer.writerIndex data
  | transfer {id other : BufferId} {command : TransferCommand} {length : Nat} {data : Bytes}
      {giver taker : Buffer} (gives : store.buffers.get? (command.source id other) = some giver)
      (takes : store.buffers.get? (command.target id other) = some taker)
      (read : ((store.roomFor command id other length).run
        (.onBuffer (command.source id other) (.getBytes (command.sourceIndex giver) length))).1 =
          .ok (.bytes data)) :
      Writes store (.transfer id other command length) (command.target id other)
        (command.targetIndex taker) data

/-- At most room has been made in a buffer. -/
def Roomed (store after : Store) (id : BufferId) : Prop :=
  after = store ∨ ∃ buffer capacity, store.Roomier after id buffer capacity

/-- Room was made in a buffer, as far as it could be. -/
def MadeRoom (store between : Store) (id : BufferId) : Prop :=
  ∃ length, between = (Action.runOn (Action.ensureWritable id length) store).2

/-- Bytes were written through a buffer, for which room may have been made before. -/
structure Written (store between after : Store) (id : BufferId) (index : Nat) (data : Bytes)
    (taker : Buffer) (region : Region) : Prop where
  room : store.Roomed between id
  takes : between.buffers.get? id = some taker
  guarded : taker.guard (between.arena taker.arena) index data.size = .ok ()
  written : (between.arena taker.arena).region.write (taker.offset + index) data = .ok region
  arenas : after.arenas = (between.setRegion taker.arena region).arenas

variable {store between after : Store} {id other : BufferId} {buffer window : Buffer}
variable {index length : Nat} {data : Bytes} {command : Command}

theorem Writes.isWrite (writes : store.Writes command id index data) : command.IsWrite := by
  cases writes <;> trivial

theorem Writes.unique {start : Nat} {content : Bytes} (writes : store.Writes command id index data)
    (also : store.Writes command other start content) :
    other = id ∧ start = index ∧ content = data := by
  cases writes with
  | setScalar =>
      cases also
      exact ⟨rfl, rfl, rfl⟩
  | setBytes =>
      cases also
      exact ⟨rfl, rfl, rfl⟩
  | writeScalar live =>
      cases also with
      | writeScalar again =>
          cases live.symm.trans again
          exact ⟨rfl, rfl, rfl⟩
  | writeBytes live =>
      cases also with
      | writeBytes again =>
          cases live.symm.trans again
          exact ⟨rfl, rfl, rfl⟩
  | transfer gives takes read =>
      cases also with
      | transfer givesToo takesToo readToo =>
          cases gives.symm.trans givesToo
          cases takes.symm.trans takesToo
          cases read.symm.trans readToo
          exact ⟨rfl, rfl, rfl⟩

namespace Roomed

theorem refl : store.Roomed store id := .inl rfl

/-- Making room moves no cursor, and no buffer from its place. -/
theorem earlier (room : store.Roomed between id)
    (live : between.buffers.get? other = some window) :
    ∃ earlier, store.buffers.get? other = some earlier ∧ earlier.Akin window ∧
      window.readerIndex = earlier.readerIndex ∧ window.writerIndex = earlier.writerIndex := by
  rcases room with rfl | ⟨buffer, capacity, roomier⟩
  · exact ⟨window, live, .refl, rfl, rfl⟩
  · by_cases same : other = id
    · subst same
      cases live.symm.trans roomier.grown
      exact ⟨buffer, roomier.live, Buffer.akin_withCapacity, roomier.reader, roomier.writer⟩
    · rw [roomier.others same] at live
      exact ⟨window, live, .refl, rfl, rfl⟩

theorem freed (room : store.Roomed between id) {arena : ArenaId} :
    (between.arena arena).freed = (store.arena arena).freed := by
  rcases room with rfl | ⟨buffer, capacity, roomier⟩
  · rfl
  · exact roomier.freed

/-- What is shown stays when room is made. -/
theorem shown (room : store.Roomed between id) (live : store.buffers.get? other = some window)
    (inside : index < window.capacity) :
    (between.arena window.arena).region.bytes[window.offset + index]? =
      (store.arena window.arena).region.bytes[window.offset + index]? := by
  rcases room with rfl | ⟨buffer, capacity, roomier⟩
  · rfl
  · exact roomier.shown live inside

end Roomed

theorem Reachable.roomed (reachable : store.Reachable) :
    store.Roomed (Action.runOn (Action.ensureWritable id length) store).2 id := by
  rcases reachable.roomier with kept | ⟨buffer, capacity, _, _, roomier⟩
  · exact .inl kept
  · exact .inr ⟨buffer, capacity, roomier⟩

theorem MadeRoom.refl : store.MadeRoom store id := by
  refine ⟨0, ?_⟩
  cases live : store.buffers.get? id with
  | none => rw [Action.ensureWritable, Action.runOn_bind_buffer_none live]
  | some buffer => rw [Action.runOn_ensureWritable live, if_neg (Nat.not_lt_zero _)]

theorem MadeRoom.roomed (made : store.MadeRoom between id) (reachable : store.Reachable) :
    store.Roomed between id := by
  obtain ⟨length, rfl⟩ := made
  exact reachable.roomed

theorem after_ensureWritable {length : Nat} :
    (store.run (.onBuffer id (.ensureWritable length))).2 =
      (Action.runOn (Action.ensureWritable id length) store).2 := by
  change (Action.runOn (Action.ensureWritable id length >>= _) store).2 = _
  rw [Action.after_bind_pure]

theorem roomFor_eq {command : TransferCommand} : store.roomFor command id other length =
    if command.appends then
      (Action.runOn (Action.ensureWritable (command.target id other) length) store).2
    else store := by
  rw [roomFor, after_ensureWritable]

end Store

namespace TransferCommand

variable {command : TransferCommand} {one another : Buffer}

theorem sourceIndex_congr (same : another.readerIndex = one.readerIndex) :
    command.sourceIndex another = command.sourceIndex one := by
  cases command with
  | getBytesTo index => rfl
  | getBytesAt index otherIndex => rfl
  | setBytesAt index otherIndex => rfl
  | _ => exact same

theorem targetIndex_congr (same : another.writerIndex = one.writerIndex) :
    command.targetIndex another = command.targetIndex one := by
  cases command with
  | getBytesAt index otherIndex => rfl
  | setBytesAt index otherIndex => rfl
  | setBytesFrom index => rfl
  | _ => exact same

end TransferCommand

variable {store between after : Store} {id other : BufferId} {buffer window : Buffer}
variable {index length : Nat} {data : Bytes}

namespace Action

theorem atomic_setBytes : (setBytes id index data).Atomic :=
  .bind observes_buffer fun _ => .bind (fun _ => rfl) fun _ => .bind observes_check fun _ =>
    atomic_modify

theorem written_setBytes (done : runOn (setBytes id index data) store = (.ok (), after)) :
    ∃ buffer region, store.buffers.get? id = some buffer ∧
      buffer.guard (store.arena buffer.arena) index data.size = .ok () ∧
      (store.arena buffer.arena).region.write (buffer.offset + index) data = .ok region ∧
      after = store.setRegion buffer.arena region := by
  cases live : store.buffers.get? id with
  | none =>
      rw [setBytes, overwrite, runOn_bind_buffer_none live] at done
      cases done
  | some buffer =>
      rcases runOn_setBytes_cases live with ⟨failure, failed⟩ | ⟨region, guarded, written, reached⟩
      · rw [failed] at done
        cases done
      · cases done.symm.trans reached
        exact ⟨buffer, region, rfl, guarded, written, rfl⟩

/-- An append that fails has at most made room. -/
theorem room_of_append_failed {failure : Failure}
    (failed : runOn (append id data) store = (.error failure, after)) :
    after = (runOn (ensureWritable id data.size) store).2 :=
  room_of_failed (.bind observes_writerIndex fun _ => .bind_modify atomic_setBytes) failed

end Action

namespace Store

open CursorBuffers.Action

theorem Reachable.written_append (reachable : store.Reachable)
    (done : runOn (append id data) store = (.ok (), after)) :
    ∃ buffer between taker region, store.buffers.get? id = some buffer ∧
      store.MadeRoom between id ∧
      Written store between after id buffer.writerIndex data taker region := by
  obtain ⟨_, between, made, rest⟩ := runOn_bind_eq_ok.mp done
  have room : store.Roomed (runOn (ensureWritable id data.size) store).2 id := reachable.roomed
  rw [made] at room
  obtain ⟨grown, live, _⟩ := writable_of_ensureWritable made
  obtain ⟨buffer, was, _, _, writer⟩ := room.earlier live
  obtain ⟨_, reached, second, rest⟩ := runOn_bind_eq_ok.mp rest
  rw [runOn_writerIndex live] at second
  cases second
  obtain ⟨_, moved, third, rest⟩ := runOn_bind_eq_ok.mp rest
  obtain ⟨taker, region, takes, guarded, written, rfl⟩ := written_setBytes third
  cases rest
  cases live.symm.trans takes
  rw [writer] at guarded written
  refine ⟨buffer, between, grown, region, was, ⟨data.size, ?_⟩, room, live, guarded, written, rfl⟩
  rw [made]

theorem madeRoom_roomFor {command : TransferCommand} :
    store.MadeRoom (store.roomFor command id other length) (command.target id other) := by
  rw [roomFor_eq]
  split
  · exact ⟨length, rfl⟩
  · exact .refl

/-- What a transfer copies in is the store with room for it. -/
theorem roomFor_of_delivered {command : TransferCommand} {giver taker : Buffer} {region : Region}
    (delivered : Delivered command id other length store between after giver taker data region) :
    store.roomFor command id other length = between := by
  rw [roomFor_eq]
  split
  · rename_i appends
    rw [delivered.room appends]
  · rename_i still
    exact (delivered.still (Bool.eq_false_iff.mpr still)).symm

/-- A transfer reads what its source shows once there is room, and writes that. -/
theorem Reachable.written_transfer (reachable : store.Reachable) {command : TransferCommand}
    (done : runOn (command.perform id other length) store = (.ok (), after)) :
    ∃ target index data between taker region, store.MadeRoom between target ∧
      store.Writes (.transfer id other command length) target index data ∧
      Written store between after target index data taker region := by
  obtain ⟨between, giver, taker, data, region, delivered⟩ :=
    TransferCommand.delivered reachable.ordered done
  obtain ⟨gives, takes, readable, writable, read, written⟩ := delivered.copies
  have made : store.roomFor command id other length = between :=
    roomFor_of_delivered delivered
  have room : store.MadeRoom between (command.target id other) := made ▸ madeRoom_roomFor
  obtain ⟨source, gave, _, reader, _⟩ := (room.roomed reachable).earlier gives
  obtain ⟨target, took, _, _, writer⟩ := (room.roomed reachable).earlier takes
  -- Making room has moved no cursor, so the indices are those of the buffers as they were.
  rw [TransferCommand.sourceIndex_congr reader] at readable read
  rw [TransferCommand.targetIndex_congr writer] at writable written
  refine ⟨_, _, data, between, taker, region, room, .transfer gave took ?_,
    room.roomed reachable, takes, writable, written, delivered.arenas⟩
  rw [made, run_getBytes gives, ← delivered.size, Buffer.getBytes, readable]
  simp only [bind, Except.bind, read]
  rfl

/-- A write that goes through makes room, if need be, and then puts its bytes in their place. -/
theorem Reachable.written_in_room (reachable : store.Reachable) {command : Command}
    {answer : Answer} (writes : command.IsWrite) (ran : store.run command = (.ok answer, after)) :
    ∃ id index data between taker region, store.MadeRoom between id ∧
      store.Writes command id index data ∧
      Written store between after id index data taker region := by
  have direct : ∀ {id index data}, runOn (setBytes id index data) store = (.ok (), after) →
      ∃ between taker region, store.MadeRoom between id ∧
        Written store between after id index data taker region := by
    intro id index data done
    obtain ⟨taker, region, takes, guarded, written, rfl⟩ := written_setBytes done
    exact ⟨store, taker, region, .refl, .refl, takes, guarded, written, rfl⟩
  cases command with
  | onBuffer id request =>
      cases request with
      | setScalar order index value =>
          obtain ⟨_, between, done, answered⟩ := runOn_bind_eq_ok.mp ran
          cases answered
          rw [setScalar_eq_setBytes] at done
          obtain ⟨between, taker, region, made, written⟩ := direct done
          exact ⟨id, index, _, between, taker, region, made, .setScalar, written⟩
      | setBytes index data =>
          obtain ⟨_, between, done, answered⟩ := runOn_bind_eq_ok.mp ran
          cases answered
          obtain ⟨between, taker, region, made, written⟩ := direct done
          exact ⟨id, index, data, between, taker, region, made, .setBytes, written⟩
      | writeScalar order value =>
          obtain ⟨_, between, done, answered⟩ := runOn_bind_eq_ok.mp ran
          cases answered
          rw [writeScalar_eq_append] at done
          obtain ⟨buffer, between, taker, region, live, room⟩ := reachable.written_append done
          exact ⟨id, _, _, between, taker, region, room.1, .writeScalar live, room.2⟩
      | writeBytes data =>
          obtain ⟨_, between, done, answered⟩ := runOn_bind_eq_ok.mp ran
          cases answered
          rw [writeBytes_eq_append] at done
          obtain ⟨_, reached, checked, done⟩ := runOn_bind_eq_ok.mp done
          rw [runOn_check] at checked
          cases (Prod.ext_iff.mp checked).2
          obtain ⟨buffer, between, taker, region, live, room⟩ := reachable.written_append done
          exact ⟨id, _, data, between, taker, region, room.1, .writeBytes live, room.2⟩
      | _ => exact writes.elim
  | transfer id other request length =>
      obtain ⟨_, between, done, answered⟩ := runOn_bind_eq_ok.mp ran
      cases answered
      exact reachable.written_transfer done
  | _ => exact writes.elim

/-- A write that goes through puts its bytes in their place, once there is room for them. -/
theorem Reachable.written (reachable : store.Reachable) {command : Command} {answer : Answer}
    (writes : command.IsWrite) (ran : store.run command = (.ok answer, after)) :
    ∃ id index data between taker region, store.Writes command id index data ∧
      Written store between after id index data taker region := by
  obtain ⟨id, index, data, between, taker, region, _, written⟩ :=
    reachable.written_in_room writes ran
  exact ⟨id, index, data, between, taker, region, written⟩

/-- A write that fails has at most made room. -/
theorem madeRoom_of_failed {command : Command} {failure : Failure} (writes : command.IsWrite)
    (failed : store.run command = (.error failure, after)) : ∃ id, store.MadeRoom after id := by
  have appended : ∀ {id data}, runOn (append id data) store = (.error failure, after) →
      ∃ id, store.MadeRoom after id := fun stopped => ⟨_, _, room_of_append_failed stopped⟩
  have kept : after = store → ∃ id, store.MadeRoom after id := by
    rintro rfl
    exact ⟨0, .refl⟩
  cases command with
  | onBuffer id request =>
      cases request with
      | setScalar order index value =>
          have stopped := failed_of_bind_pure failed
          rw [setScalar_eq_setBytes] at stopped
          exact kept (atomic_setBytes _ _ _ stopped)
      | setBytes index data =>
          exact kept (atomic_setBytes _ _ _ (failed_of_bind_pure failed))
      | writeScalar order value =>
          have stopped := failed_of_bind_pure failed
          rw [writeScalar_eq_append] at stopped
          exact appended stopped
      | writeBytes data =>
          have stopped := failed_of_bind_pure failed
          rw [writeBytes_eq_append, runOn_bind, runOn_check] at stopped
          cases checked : data.checkLength with
          | error error =>
              rw [checked] at stopped
              exact kept (Prod.ext_iff.mp stopped).2.symm
          | ok _ =>
              rw [checked] at stopped
              exact appended stopped
      | _ => exact writes.elim
  | transfer id other request length =>
      rcases TransferCommand.failed (failed_of_bind_pure failed) with same | ⟨_, room, _⟩
      · exact kept same
      · exact ⟨_, _, room⟩
  | _ => exact writes.elim

theorem Reachable.roomed_of_failed (reachable : store.Reachable) {command : Command}
    {failure : Failure} (writes : command.IsWrite)
    (failed : store.run command = (.error failure, after)) : ∃ id, store.Roomed after id := by
  obtain ⟨id, made⟩ := madeRoom_of_failed writes failed
  exact ⟨id, made.roomed reachable⟩

end Store

end CursorBuffers
