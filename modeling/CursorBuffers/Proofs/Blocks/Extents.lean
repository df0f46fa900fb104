import CursorBuffers.Proofs.Atomic.Operations

namespace CursorBuffers

/-- Where the bytes end that a buffer needs if there is to be room behind its writer. A buffer that
has too little room grows, and grows further than it would have to. -/
def Buffer.roomEnd (buffer : Buffer) (length : Nat) : Nat :=
  if buffer.writableBytes < length then
    match buffer.grownCapacity length with
    | .ok capacity => capacity
    | .error _ => buffer.writerIndex + length
  else buffer.writerIndex + length

/-- Where the bytes end that an operation on a buffer needs, as an index into the buffer. Whatever
only moves cursors needs none. -/
def BufferCommand.extent? (buffer : Buffer) : BufferCommand → Option Nat
  | .getScalar kind _ index => some (index + kind.width.bytes)
  | .setScalar _ index value => some (index + value.kind.width.bytes)
  | .readScalar kind _ => some (buffer.readerIndex + kind.width.bytes)
  | .writeScalar _ value => some (buffer.roomEnd value.kind.width.bytes)
  | .getBytes index length => some (index + length)
  | .setBytes index data => some (index + data.size)
  | .readBytes length => some (buffer.readerIndex + length)
  | .writeBytes data => some (buffer.roomEnd data.size)
  | .skipBytes length => some (buffer.readerIndex + length)
  | .toBytes => some buffer.writerIndex
  | .hexDump _ => some buffer.writerIndex
  | .ensureWritable length => some (buffer.roomEnd length)
  | .setCapacity capacity => some capacity
  | .copy => some buffer.capacity
  | .copyRange index length => some (index + length)
  | .slice => some buffer.writerIndex
  | .sliceRange index length => some (index + length)
  | .duplicate => some buffer.capacity
  | _ => none

/-- Where the bytes end that a transfer needs in its target. -/
def TransferCommand.targetEnd (command : TransferCommand) (taker : Buffer) (length : Nat) : Nat :=
  if command.appends then taker.roomEnd length else command.targetIndex taker + length

/-- The transfers that make room in their target before they look at their source. -/
def TransferCommand.growsFirst : TransferCommand → Bool
  | .getBytesTo _ => true
  | .writeBytesFrom => true
  | _ => false

variable {store after between : Store} {id other : BufferId} {buffer : Buffer} {arena : ArenaId}
variable {index length capacity stop : Nat} {region : Region} {request : BufferCommand}
variable {command : TransferCommand} {answer : Answer}

theorem Buffer.within_of_reach {found : Arena}
    (reached : buffer.reach found index length = .ok ()) :
    buffer.offset + (index + length) ≤ found.region.size := by
  unfold Buffer.reach at reached
  cases guarded : buffer.guard found index length with
  | error error =>
      rw [guarded] at reached
      cases reached
  | ok _ =>
      rw [guarded] at reached
      rw [← Nat.add_assoc]
      exact Region.checkRange_eq_ok.mp reached

namespace Action

theorem resized_of_setCapacity (live : store.buffers.get? id = some buffer)
    (set : runOn (setCapacity id capacity) store = (.ok (), after)) :
    ∃ region, store.resized buffer capacity = .ok region := by
  rw [runOn_setCapacity live] at set
  cases resized : store.resized buffer capacity with
  | ok region => exact ⟨region, rfl⟩
  | error error =>
      cases allowed : buffer.checkNewCapacity capacity <;>
        cases accessible : buffer.checkAccessible (store.arena buffer.arena) <;>
        simp only [allowed, accessible, resized, bind, Except.bind] at set <;> cases set

theorem getBytes_of_copyRange {copy : BufferId} (live : store.buffers.get? id = some buffer)
    (copied : runOn (copyRange id index length) store = (.ok copy, after)) :
    ∃ bytes, buffer.getBytes (store.arena buffer.arena) index length = .ok bytes := by
  rw [copyRange, runOn_bind, runOn_buffer live] at copied
  obtain ⟨found, between, looked, rest⟩ := runOn_bind_eq_ok.mp copied
  cases looked
  obtain ⟨bytes, later, checked, _⟩ := runOn_bind_eq_ok.mp rest
  rw [runOn_check] at checked
  cases read : buffer.getBytes (store.arena buffer.arena) index length with
  | ok bytes => exact ⟨bytes, rfl⟩
  | error error =>
      rw [read] at checked
      cases checked

end Action

namespace Store

open CursorBuffers.Action

/-- Memory that belongs to somebody else. -/
def External (store : Store) (arena : ArenaId) : Prop := ¬ (store.arena arena).region.IsOwned

/-- It is made fit for a capacity only if it is long enough as it is. -/
theorem External.of_resized (external : store.External buffer.arena)
    (resized : store.resized buffer capacity = .ok region) :
    region = (store.arena buffer.arena).region ∧
      buffer.offset + capacity ≤ (store.arena buffer.arena).region.size := by
  have refused : (store.arena buffer.arena).region.resize (buffer.offset + capacity) =
      .error (.illegalArgument .externalRegion) := Region.resize_eq_error external
  unfold Store.resized at resized
  simp only at resized
  split at resized
  · rw [refused] at resized
    cases resized
  · unfold Region.reserve at resized
    split at resized
    · rw [refused] at resized
      cases resized
    · rename_i long
      cases resized
      exact ⟨rfl, Nat.le_of_not_lt long⟩

theorem External.region_refitted (external : store.External arena)
    (resized : store.resized buffer capacity = .ok region) :
    ((store.refitted id buffer capacity region).arena arena).region =
      (store.arena arena).region := by
  rw [arena_refitted]
  have outcome : ((store.setRegion buffer.arena region).arena arena).region =
      (store.arena arena).region ∨ arena = buffer.arena ∧
        ((store.setRegion buffer.arena region).arena arena).region = region :=
    store.region_setRegion_cases
  rcases outcome with kept | ⟨rfl, set⟩
  · exact kept
  · rw [set, (external.of_resized resized).1]

theorem MadeRoom.region_of_external (made : store.MadeRoom between id)
    (external : store.External arena) :
    (between.arena arena).region = (store.arena arena).region := by
  obtain ⟨length, rfl⟩ := made
  cases live : store.buffers.get? id with
  | none => rw [ensureWritable, runOn_bind_buffer_none live]
  | some buffer =>
      have made : RoomMade store id buffer length _ := roomMade live
      generalize runOn (ensureWritable id length) store = outcome at made ⊢
      cases made with
      | grown short larger needed allowed resized => exact external.region_refitted resized
      | _ => rfl

/-- There is room in it if the region reaches so far. -/
theorem Reachable.within_of_room (reachable : store.Reachable)
    (live : store.buffers.get? id = some buffer) (external : store.External buffer.arena)
    (made : runOn (ensureWritable id length) store = (.ok (), after)) :
    buffer.offset + buffer.roomEnd length ≤ (store.arena buffer.arena).region.size := by
  unfold Buffer.roomEnd
  rw [runOn_ensureWritable live] at made
  split at made
  · rename_i short
    rw [if_pos short]
    cases chosen : buffer.grownCapacity length with
    | error error =>
        rw [chosen] at made
        cases made
    | ok capacity =>
        rw [chosen] at made
        obtain ⟨region, resized⟩ := resized_of_setCapacity live made
        exact (external.of_resized resized).2
  · rename_i enough
    have covers : buffer.offset + buffer.capacity ≤ (store.arena buffer.arena).region.size :=
      reachable.covered.covers live
    obtain ⟨_, writer, _⟩ := reachable.ordered live
    rw [if_neg enough]
    simp only [Buffer.writableBytes] at enough
    omega

/-- What is read from the reader on lies before the writer, whatever is done with it. -/
theorem Reachable.within_of_readable {α : Type} {next : Unit → Action α} {value : α}
    (reachable : store.Reachable) (live : store.buffers.get? id = some buffer)
    (read : runOn (checkReadable id length >>= next) store = (.ok value, after)) :
    buffer.offset + (buffer.readerIndex + length) ≤ (store.arena buffer.arena).region.size := by
  have covers : buffer.offset + buffer.capacity ≤ (store.arena buffer.arena).region.size :=
    reachable.covered.covers live
  obtain ⟨reader, writer, _⟩ := reachable.ordered live
  obtain ⟨_, _, checked, _⟩ := runOn_bind_eq_ok.mp read
  obtain ⟨_, found, also, readable⟩ := runOn_inspect_eq_ok.mp checked
  cases live.symm.trans also
  have enough := Buffer.checkReadable_eq_ok.mp readable
  simp only [Buffer.readableBytes] at enough
  omega

/-- An operation on a buffer that goes through has found all the bytes that it needs. -/
theorem Reachable.within_of_done (reachable : store.Reachable)
    (live : store.buffers.get? id = some buffer) (external : store.External buffer.arena)
    (needs : request.extent? buffer = some stop)
    (done : store.run (.onBuffer id request) = (.ok answer, after)) :
    buffer.offset + stop ≤ (store.arena buffer.arena).region.size := by
  have covers : buffer.offset + buffer.capacity ≤ (store.arena buffer.arena).region.size :=
    reachable.covered.covers live
  obtain ⟨_, writer, _⟩ := reachable.ordered live
  have before : buffer.offset + buffer.writerIndex ≤ (store.arena buffer.arena).region.size := by
    omega
  have accessed : ∀ {index length}, request.access? = some (index, length) →
      buffer.offset + (index + length) ≤ (store.arena buffer.arena).region.size := by
    intro index length accesses
    have decided := run_access live accesses
    rw [done] at decided
    cases reached : buffer.reach (store.arena buffer.arena) index length with
    | ok _ => exact Buffer.within_of_reach reached
    | error error =>
        rw [reached] at decided
        cases decided
  cases request with
  | getScalar kind order index =>
      cases needs
      exact accessed rfl
  | setScalar order index value =>
      cases needs
      exact accessed rfl
  | getBytes index length =>
      cases needs
      exact accessed rfl
  | setBytes index data =>
      cases needs
      exact accessed rfl
  | readScalar kind order =>
      cases needs
      obtain ⟨_, _, read, _⟩ := runOn_bind_eq_ok.mp done
      exact reachable.within_of_readable live read
  | readBytes length =>
      cases needs
      obtain ⟨_, _, read, _⟩ := runOn_bind_eq_ok.mp done
      exact reachable.within_of_readable live read
  | skipBytes length =>
      cases needs
      obtain ⟨_, _, skipped, _⟩ := runOn_bind_eq_ok.mp done
      exact reachable.within_of_readable live skipped
  | writeScalar order value =>
      cases needs
      obtain ⟨_, _, wrote, _⟩ := runOn_bind_eq_ok.mp done
      obtain ⟨_, _, made, _⟩ := runOn_bind_eq_ok.mp wrote
      exact reachable.within_of_room live external made
  | writeBytes data =>
      cases needs
      obtain ⟨_, _, wrote, _⟩ := runOn_bind_eq_ok.mp done
      obtain ⟨_, between, checked, wrote⟩ := runOn_bind_eq_ok.mp wrote
      rw [runOn_check] at checked
      cases (Prod.ext_iff.mp checked).2
      obtain ⟨_, _, made, _⟩ := runOn_bind_eq_ok.mp wrote
      exact reachable.within_of_room live external made
  | ensureWritable length =>
      cases needs
      obtain ⟨_, _, made, _⟩ := runOn_bind_eq_ok.mp done
      exact reachable.within_of_room live external made
  | setCapacity capacity =>
      cases needs
      obtain ⟨_, _, set, _⟩ := runOn_bind_eq_ok.mp done
      obtain ⟨region, resized⟩ := resized_of_setCapacity live set
      exact (external.of_resized resized).2
  | copyRange index length =>
      cases needs
      obtain ⟨_, _, copied, _⟩ := runOn_bind_eq_ok.mp done
      obtain ⟨bytes, read⟩ := getBytes_of_copyRange live copied
      refine Buffer.within_of_reach ?_
      rw [← Buffer.map_getBytes, read]
      rfl
  | sliceRange index length =>
      cases needs
      obtain ⟨_, _, sliced, _⟩ := runOn_bind_eq_ok.mp done
      obtain ⟨_, between, first, rest⟩ := runOn_bind_eq_ok.mp sliced
      obtain ⟨rfl, _⟩ := runOn_inspect_eq_ok.mp first
      obtain ⟨_, _, second, _⟩ := runOn_bind_eq_ok.mp rest
      obtain ⟨_, found, also, checked⟩ := runOn_inspect_eq_ok.mp second
      cases live.symm.trans also
      have within := Buffer.checkRange_eq_ok.mp checked
      omega
  | toBytes =>
      cases needs
      exact before
  | hexDump =>
      cases needs
      exact before
  | slice =>
      cases needs
      exact before
  | copy =>
      cases needs
      exact covers
  | duplicate =>
      cases needs
      exact covers
  | _ => cases needs

/-- An operation that needs more bytes than there are fails, and nothing has changed. -/
theorem Reachable.refused_beyond (reachable : store.Reachable)
    (live : store.buffers.get? id = some buffer) (external : store.External buffer.arena)
    (needs : request.extent? buffer = some stop)
    (beyond : (store.arena buffer.arena).region.size < buffer.offset + stop) :
    ∃ failure, store.run (.onBuffer id request) = (.error failure, store) := by
  rcases done : store.run (.onBuffer id request) with ⟨failure | answer, after⟩
  · have failed : (store.run (.onBuffer id request)).1 = .error failure := by rw [done]
    have kept : after = store := by
      rw [← reachable.kept_of_failed failed, done]
    exact ⟨failure, by rw [kept]⟩
  · exact absurd (reachable.within_of_done live external needs done) (Nat.not_le.mpr beyond)

section Transfers

variable {giver taker : Buffer}

/-- A transfer that goes through has found all the bytes that it copies, and all those that it needs
in its target. -/
theorem Reachable.transfer_within (reachable : store.Reachable)
    (done : store.run (.transfer id other command length) = (.ok answer, after)) :
    ∃ giver taker, store.buffers.get? (command.source id other) = some giver ∧
      store.buffers.get? (command.target id other) = some taker ∧
      (store.External giver.arena → giver.offset + (command.sourceIndex giver + length) ≤
        (store.arena giver.arena).region.size) ∧
      (store.External taker.arena → taker.offset + command.targetEnd taker length ≤
        (store.arena taker.arena).region.size) := by
  obtain ⟨_, _, moved, _⟩ := runOn_bind_eq_ok.mp done
  obtain ⟨between, source, target, data, region, delivered⟩ :=
    TransferCommand.delivered reachable.ordered moved
  have made : store.MadeRoom between (command.target id other) :=
    roomFor_of_delivered delivered ▸ madeRoom_roomFor
  have room := made.roomed reachable
  obtain ⟨giver, gives, akin, reader, _⟩ := room.earlier delivered.copies.gives
  obtain ⟨taker, takes, _⟩ := room.earlier delivered.copies.takes
  refine ⟨giver, taker, gives, takes, fun external => ?_, fun external => ?_⟩
  · -- Making room has moved no cursor, and it has not changed what it cannot change.
    obtain ⟨within, _⟩ := Region.within_of_read delivered.copies.read
    rw [delivered.size, akin.arena, akin.offset, made.region_of_external external,
      TransferCommand.sourceIndex_congr reader, Nat.add_assoc] at within
    exact within
  · unfold TransferCommand.targetEnd
    split
    · rename_i appends
      exact reachable.within_of_room takes external (delivered.room appends)
    · rename_i still
      obtain rfl := delivered.still (Bool.eq_false_iff.mpr still)
      cases takes.symm.trans delivered.copies.takes
      obtain ⟨within, _⟩ := Region.within_of_write delivered.copies.written
      rw [delivered.size, Nat.add_assoc] at within
      exact within

/-- A transfer of more bytes than its source has fails. By then there may be room for them in its
target. -/
theorem Reachable.refused_source (reachable : store.Reachable)
    (gives : store.buffers.get? (command.source id other) = some giver)
    (external : store.External giver.arena)
    (beyond : (store.arena giver.arena).region.size <
      giver.offset + (command.sourceIndex giver + length)) :
    ∃ failure after, store.run (.transfer id other command length) = (.error failure, after) ∧
      (after = store ∨
        command.growsFirst = true ∧ after = store.roomFor command id other length) := by
  rcases done : store.run (.transfer id other command length) with ⟨failure | answer, after⟩
  · refine ⟨failure, after, rfl, ?_⟩
    rcases TransferCommand.failed (failed_of_bind_pure done) with kept | ⟨appends, room, readable⟩
    · exact .inl kept
    · have grown : after = store.roomFor command id other length := by
        rw [roomFor_eq, if_pos appends, room]
      cases command with
      | getBytesTo index => exact .inr ⟨rfl, grown⟩
      | writeBytesFrom => exact .inr ⟨rfl, grown⟩
      | readBytesTo =>
          -- This one looks at its source first, which has too little to read.
          obtain ⟨source, gave, enough⟩ := readable rfl
          cases gives.symm.trans gave
          have covers : giver.offset + giver.capacity ≤ (store.arena giver.arena).region.size :=
            reachable.covered.covers gives
          obtain ⟨reader, writer, _⟩ := reachable.ordered gives
          simp only [TransferCommand.sourceIndex, Buffer.readableBytes] at beyond enough
          omega
      | _ => cases appends
  · obtain ⟨source, _, gave, _, within, _⟩ := reachable.transfer_within done
    cases gives.symm.trans gave
    exact absurd (within external) (Nat.not_le.mpr beyond)

/-- A transfer that needs more bytes in its target than there are fails, and nothing has changed. -/
theorem Reachable.refused_target (reachable : store.Reachable)
    (takes : store.buffers.get? (command.target id other) = some taker)
    (external : store.External taker.arena)
    (beyond : (store.arena taker.arena).region.size <
      taker.offset + command.targetEnd taker length) :
    ∃ failure, store.run (.transfer id other command length) = (.error failure, store) := by
  rcases done : store.run (.transfer id other command length) with ⟨failure | answer, after⟩
  · refine ⟨failure, ?_⟩
    rcases TransferCommand.failed (failed_of_bind_pure done) with kept | ⟨appends, room, _⟩
    · rw [kept]
    · rcases made : runOn (ensureWritable (command.target id other) length) store with
        ⟨stopped | ⟨⟩, between⟩
      · rw [room, made, atomic_ensureWritable _ _ _ made]
      · have within := reachable.within_of_room takes external made
        rw [TransferCommand.targetEnd, if_pos appends] at beyond
        exact absurd within (Nat.not_le.mpr beyond)
  · obtain ⟨_, target, _, took, _, within⟩ := reachable.transfer_within done
    cases takes.symm.trans took
    exact absurd (within external) (Nat.not_le.mpr beyond)

end Transfers

end Store

end CursorBuffers
