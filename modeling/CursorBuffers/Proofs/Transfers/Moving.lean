import CursorBuffers.Proofs.Exposure
import CursorBuffers.Proofs.Refusal

namespace CursorBuffers

namespace Buffer

/-- The buffer has grown, and growth has cut down its marks. -/
structure Grew (before after : Buffer) : Prop where
  larger : before.capacity < after.capacity
  markedWriter : after.markedWriter = min before.markedWriter after.capacity
  markedReader : after.markedReader = min before.markedReader after.markedWriter

/-- Neither capacity nor marks tell the two apart. -/
structure SameMarks (before after : Buffer) : Prop where
  capacity : after.capacity = before.capacity
  markedWriter : after.markedWriter = before.markedWriter
  markedReader : after.markedReader = before.markedReader

variable {buffer first second third : Buffer} {capacity : Nat}

theorem SameMarks.refl : buffer.SameMarks buffer := ⟨rfl, rfl, rfl⟩

theorem SameMarks.trans (early : first.SameMarks second) (late : second.SameMarks third) :
    first.SameMarks third where
  capacity := late.capacity.trans early.capacity
  markedWriter := late.markedWriter.trans early.markedWriter
  markedReader := late.markedReader.trans early.markedReader

theorem Grew.trans_sameMarks (early : first.Grew second) (late : second.SameMarks third) :
    first.Grew third where
  larger := Nat.lt_of_lt_of_eq early.larger late.capacity.symm
  markedWriter := by rw [late.markedWriter, late.capacity, early.markedWriter]
  markedReader := by rw [late.markedReader, late.markedWriter, early.markedReader]

theorem grew_withCapacity (larger : buffer.capacity < capacity) :
    buffer.Grew (buffer.withCapacity capacity) := ⟨larger, rfl, rfl⟩

end Buffer

namespace TransferCommand

variable {command : TransferCommand} {id other named : BufferId} {buffer : Buffer} {length : Nat}

theorem readerIndex_shift : (command.shift id other length named buffer).readerIndex =
    buffer.readerIndex +
      if command.drains ∧ named = command.source id other then length else 0 := by
  simp only [shift]
  split <;> split <;> rfl

theorem writerIndex_shift : (command.shift id other length named buffer).writerIndex =
    buffer.writerIndex +
      if command.appends ∧ named = command.target id other then length else 0 := by
  simp only [shift]
  split <;> split <;> rfl

theorem sameMarks_shift : buffer.SameMarks (command.shift id other length named buffer) := by
  simp only [shift]
  split <;> split <;> exact ⟨rfl, rfl, rfl⟩

end TransferCommand

namespace Store

/-- A byte lies behind the capacity that a buffer has grown to as the sole holder of its arena. -/
structure CutOff (store : Store) (buffer grown : Buffer) (arena : ArenaId) (place : Nat) :
    Prop where
  here : arena = buffer.arena
  sole : store.isExclusive buffer = true
  grew : buffer.capacity < grown.capacity
  behind : grown.capacity ≤ place

/-- What it takes to make room in a buffer: nothing, or that it grows. -/
structure Widened (store between : Store) (id : BufferId) (buffer grown : Buffer) : Prop where
  live : store.buffers.get? id = some buffer
  stays : between.buffers.get? id = some grown
  akin : buffer.Akin grown
  reader : grown.readerIndex = buffer.readerIndex
  writer : grown.writerIndex = buffer.writerIndex
  others : ∀ {named}, named ≠ id → between.buffers.get? named = store.buffers.get? named
  padded : ∀ {arena : ArenaId} {place : Nat},
    Bytes.Padded (store.arena arena).region.bytes (between.arena arena).region.bytes place
  longer : ∀ {arena : ArenaId} {place : Nat} {byte : UInt8},
    (store.arena arena).region.bytes[place]? = none →
    (between.arena arena).region.bytes[place]? = some byte →
      arena = buffer.arena ∧ buffer.capacity < grown.capacity
  spared : ∀ {arena : ArenaId} {place : Nat} {byte : UInt8},
    (store.arena arena).region.bytes[place]? = some byte →
    ¬ store.CutOff buffer grown arena place →
      (between.arena arena).region.bytes[place]? = some byte
  lost : ∀ {arena : ArenaId} {place : Nat}, store.CutOff buffer grown arena place →
    (between.arena arena).region.bytes[place]? = none

/-- What a transfer has done that went through. Its target, which may have grown for it, is
`grown` now. -/
structure Transferred (store after : Store) (command : TransferCommand) (id other : BufferId)
    (length : Nat) (giver taker grown : Buffer) : Prop where
  gives : store.buffers.get? (command.source id other) = some giver
  takes : store.buffers.get? (command.target id other) = some taker
  stays : after.buffers.get? (command.target id other) = some grown
  /-- The target holds what the source held, and zero for what was not there yet. -/
  moved : ∀ place < length,
    (after.arena taker.arena).region.bytes[taker.offset + command.targetIndex taker + place]? =
      some (((store.arena giver.arena).region.bytes[
        giver.offset + command.sourceIndex giver + place]?).getD 0)
  /-- What was not there yet is what growth has added to an arena that both are on. -/
  added : ∀ place < length, (store.arena giver.arena).region.bytes[
      giver.offset + command.sourceIndex giver + place]? = none →
    giver.arena = taker.arena ∧ command.appends = true ∧ taker.capacity < grown.capacity
  spared : ∀ {arena : ArenaId} {place : Nat} {byte : UInt8},
    (store.arena arena).region.bytes[place]? = some byte →
    ¬ (arena = taker.arena ∧ taker.offset + command.targetIndex taker ≤ place ∧
      place < taker.offset + command.targetIndex taker + length) →
    ¬ store.CutOff taker grown arena place →
      (after.arena arena).region.bytes[place]? = some byte
  lost : ∀ {arena : ArenaId} {place : Nat}, store.CutOff taker grown arena place →
    (after.arena arena).region.bytes[place]? = none
  cursors : ∀ {named buffer}, store.buffers.get? named = some buffer → ∃ later,
    after.buffers.get? named = some later ∧ buffer.Akin later ∧
    later.readerIndex = buffer.readerIndex +
      (if command.drains ∧ named = command.source id other then length else 0) ∧
    later.writerIndex = buffer.writerIndex +
      (if command.appends ∧ named = command.target id other then length else 0) ∧
    (buffer.SameMarks later ∨
      command.appends = true ∧ named = command.target id other ∧ buffer.Grew later)

end Store

variable {store between after : Store} {id other : BufferId} {buffer taker giver : Buffer}
variable {capacity length : Nat} {region : Region} {command : TransferCommand}

namespace Store

theorem CutOff.congr {grown later : Buffer} {arena : ArenaId} {place : Nat}
    (same : later.capacity = grown.capacity) :
    store.CutOff buffer later arena place ↔ store.CutOff buffer grown arena place :=
  ⟨fun ⟨here, sole, grew, behind⟩ => ⟨here, sole, same ▸ grew, same ▸ behind⟩,
    fun ⟨here, sole, grew, behind⟩ => ⟨here, sole, same.symm ▸ grew, same.symm ▸ behind⟩⟩

theorem Widened.refl (live : store.buffers.get? id = some buffer) :
    store.Widened store id buffer buffer where
  live := live
  stays := live
  akin := .refl
  reader := rfl
  writer := rfl
  others _ := rfl
  padded := Bytes.padded_of_eq rfl
  longer absent found := by
    rw [absent] at found
    contradiction
  spared found _ := found
  lost cut := absurd cut.grew (Nat.lt_irrefl _)

/-- A region that its sole holder has resized ends where the buffer ends. -/
theorem size_resized_of_isExclusive (sole : store.isExclusive buffer = true)
    (resized : store.resized buffer capacity = .ok region) : region.size = capacity := by
  have start : buffer.offset = 0 := by
    simp only [isExclusive, Bool.and_eq_true, beq_iff_eq] at sole
    exact sole.1.2
  simp only [Store.resized, sole, if_true] at resized
  rw [Region.size_resize resized, start, Nat.zero_add]

theorem Reachable.widened_refitted (reachable : store.Reachable)
    (live : store.buffers.get? id = some buffer) (larger : buffer.capacity < capacity)
    (resized : store.resized buffer capacity = .ok region) :
    store.Widened (store.refitted id buffer capacity region) id buffer
      (buffer.withCapacity capacity) := by
  obtain ⟨reader, writer⟩ := (reachable.ordered live).cursors_withCapacity (Nat.le_of_lt larger)
  refine ⟨live, ?_, Buffer.akin_withCapacity, reader, writer, fun distinct => ?_,
    padded_refitted resized, fun {arena place byte} absent found => ?_,
    fun holds kept => bytes_refitted resized holds fun here sole => ?_, ?_⟩
  · rw [get?_refitted live, if_pos rfl]
  · rw [get?_refitted live, if_neg distinct]
  · refine ⟨?_, larger⟩
    rw [arena_refitted] at found
    rcases store.region_setRegion_cases with same | ⟨here, _⟩
    · rw [same, absent] at found
      contradiction
    · exact here
  · exact Nat.lt_of_not_le fun behind => kept ⟨here, sole, larger, behind⟩
  · rintro arena place ⟨rfl, sole, _, behind⟩
    have size : region.size = capacity := size_resized_of_isExclusive sole resized
    rw [arena_refitted, region_setRegion (reachable.covered.held.known live)
      reachable.covered.standing]
    exact Array.getElem?_eq_none (Nat.le_trans (Nat.le_of_eq size) behind)

/-- Whatever room a transfer has made, it has widened its target. -/
theorem Reachable.widened_of_delivered (reachable : store.Reachable) {data : Bytes}
    (delivered : Delivered command id other length store between after giver taker data region) :
    ∃ buffer, store.Widened between (command.target id other) buffer taker ∧
      (buffer.SameMarks taker ∨ command.appends = true ∧ buffer.Grew taker) := by
  have takes := delivered.copies.takes
  cases appends : command.appends with
  | false =>
      obtain rfl := delivered.still appends
      exact ⟨taker, .refl takes, .inl .refl⟩
  | true =>
      have made := delivered.room appends
      obtain ⟨buffer, _, live, _⟩ := Action.runOn_ensureWritable_eq_ok made
      have outcome : RoomMade store _ buffer length _ := Action.roomMade live
      rw [made] at outcome
      cases outcome with
      | ample enough =>
          cases live.symm.trans takes
          exact ⟨_, .refl live, .inl .refl⟩
      | grown short larger needed allowed resized =>
          have widened := reachable.widened_refitted live larger resized
          cases widened.stays.symm.trans takes
          exact ⟨buffer, widened, .inr ⟨rfl, Buffer.grew_withCapacity larger⟩⟩

end Store

namespace Delivered

open Store

variable {data : Bytes} {arena : ArenaId} {place : Nat}

/-- Outside of the range of its target a transfer writes nothing. -/
theorem bytes_outside
    (delivered : Delivered command id other length store between after giver taker data region)
    (outside : ¬ (arena = taker.arena ∧ taker.offset + command.targetIndex taker ≤ place ∧
      place < taker.offset + command.targetIndex taker + length)) :
    (after.arena arena).region.bytes[place]? = (between.arena arena).region.bytes[place]? := by
  rw [Store.arena, delivered.arenas, ← Store.arena]
  rcases between.region_setRegion_cases with kept | ⟨here, set⟩
  · rw [kept]
  · obtain ⟨within, rfl⟩ := Region.within_of_write delivered.copies.written
    rw [set, here, Region.bytes_withBytes, Bytes.getElem?_splice within, delivered.size,
      if_neg fun inside => outside ⟨here, inside⟩]

/-- A transfer lengthens no arena once there is room. -/
theorem bytes_absent
    (delivered : Delivered command id other length store between after giver taker data region)
    (absent : (between.arena arena).region.bytes[place]? = none) :
    (after.arena arena).region.bytes[place]? = none := by
  rw [Array.getElem?_eq_none_iff] at absent ⊢
  rw [Store.arena, delivered.arenas, ← Store.arena]
  rcases between.region_setRegion_cases with kept | ⟨here, set⟩
  · rwa [kept]
  · rw [here] at absent
    rw [set]
    exact Nat.le_trans (Nat.le_of_eq (Region.size_write delivered.copies.written)) absent

/-- Within it the target holds what the source held when there was room. -/
theorem bytes_inside (reachable : store.Reachable)
    (delivered : Delivered command id other length store between after giver taker data region)
    (below : place < length) : ∃ byte,
      (between.arena giver.arena).region.bytes[
        giver.offset + command.sourceIndex giver + place]? = some byte ∧
      (after.arena taker.arena).region.bytes[taker.offset + command.targetIndex taker + place]? =
        some byte := by
  have room : store.MadeRoom between (command.target id other) :=
    roomFor_of_delivered delivered ▸ madeRoom_roomFor
  obtain ⟨_, takes, _, writable, read, copied⟩ := delivered.copies
  have written : Written store between after (command.target id other)
      (command.targetIndex taker) data taker region :=
    ⟨room.roomed reachable, takes, writable, copied, delivered.arenas⟩
  obtain ⟨within, held⟩ := Region.within_of_read read
  have size := delivered.size
  rw [size] at held within
  have stored : giver.offset + command.sourceIndex giver + place <
      (between.arena giver.arena).region.bytes.size := Nat.lt_of_lt_of_le (by omega) within
  refine ⟨_, Array.getElem?_eq_getElem stored, ?_⟩
  rw [written.bytes_inside (by omega) (by omega), Nat.add_sub_cancel_left, held,
    Bytes.getElem?_slice below, Array.getElem?_eq_getElem stored]

/-- The cursors that the command names have moved, and of the marks only those of a target that has
grown. -/
theorem cursors {target : Buffer} {named : BufferId}
    (delivered : Delivered command id other length store between after giver taker data region)
    (widened : store.Widened between (command.target id other) target taker)
    (grew : target.SameMarks taker ∨ command.appends = true ∧ target.Grew taker)
    (live : store.buffers.get? named = some buffer) : ∃ later,
      after.buffers.get? named = some later ∧ buffer.Akin later ∧
      later.readerIndex = buffer.readerIndex +
        (if command.drains ∧ named = command.source id other then length else 0) ∧
      later.writerIndex = buffer.writerIndex +
        (if command.appends ∧ named = command.target id other then length else 0) ∧
      (buffer.SameMarks later ∨
        command.appends = true ∧ named = command.target id other ∧ buffer.Grew later) := by
  by_cases own : named = command.target id other
  · subst own
    cases live.symm.trans widened.live
    refine ⟨_, delivered.buffers widened.stays, widened.akin.trans TransferCommand.akin_shift.1,
      ?_, ?_, ?_⟩
    · rw [TransferCommand.readerIndex_shift, widened.reader]
    · rw [TransferCommand.writerIndex_shift, widened.writer]
    · rcases grew with same | ⟨appends, grew⟩
      · exact .inl (same.trans TransferCommand.sameMarks_shift)
      · exact .inr ⟨appends, rfl, grew.trans_sameMarks TransferCommand.sameMarks_shift⟩
  · have kept : between.buffers.get? named = some buffer := (widened.others own).trans live
    exact ⟨_, delivered.buffers kept, TransferCommand.akin_shift.1,
      TransferCommand.readerIndex_shift, TransferCommand.writerIndex_shift,
      .inl TransferCommand.sameMarks_shift⟩

end Delivered

namespace Store

/-- A transfer that goes through puts into the range of its target what the range of its source
held, also where the two overlap; zero stands for what the growth of the target has only added. -/
theorem bytes_moved_by_transfer (reachable : store.Reachable) {answer : Answer}
    (done : store.run (.transfer id other command length) = (.ok answer, after)) :
    ∃ giver taker grown, store.Transferred after command id other length giver taker grown := by
  obtain ⟨_, moved, performed, answered⟩ := Action.runOn_bind_eq_ok.mp done
  cases answered
  obtain ⟨between, giver, taker, data, region, delivered⟩ :=
    TransferCommand.delivered reachable.ordered performed
  have room : store.MadeRoom between (command.target id other) :=
    roomFor_of_delivered delivered ▸ madeRoom_roomFor
  obtain ⟨target, widened, grew⟩ := reachable.widened_of_delivered delivered
  obtain ⟨source, gave, akin, reader, _⟩ :=
    (room.roomed reachable).earlier delivered.copies.gives
  have start : giver.offset + command.sourceIndex giver =
      source.offset + command.sourceIndex source := by
    rw [akin.offset, TransferCommand.sourceIndex_congr reader]
  have stop : taker.offset + command.targetIndex taker =
      target.offset + command.targetIndex target := by
    rw [widened.akin.offset, TransferCommand.targetIndex_congr widened.writer]
  have size : (command.shift id other length (command.target id other) taker).capacity =
      taker.capacity := TransferCommand.akin_shift.2
  refine ⟨source, target, _, gave, widened.live, delivered.buffers widened.stays,
    fun place below => ?_, fun place below absent => ?_, fun holds outside kept => ?_,
    fun cut => ?_, fun live => ?_⟩
  · obtain ⟨byte, held, put⟩ := delivered.bytes_inside reachable below
    rw [akin.arena, start] at held
    rw [widened.akin.arena, stop] at put
    rw [put, widened.padded byte held]
  · obtain ⟨byte, held, _⟩ := delivered.bytes_inside reachable below
    rw [akin.arena, start] at held
    obtain ⟨here, larger⟩ := widened.longer absent held
    rcases grew with same | ⟨appends, _⟩
    · exact absurd larger (Nat.not_lt.mpr (Nat.le_of_eq same.capacity))
    · exact ⟨here, appends, size ▸ larger⟩
  · rw [delivered.bytes_outside (by rwa [widened.akin.arena, stop])]
    exact widened.spared holds fun cut => kept ((CutOff.congr size).mpr cut)
  · exact delivered.bytes_absent (widened.lost ((CutOff.congr size).mp cut))
  · exact delivered.cursors widened grew live

/-- An unchecked buffer of four bytes and a duplicate of it. -/
def uncheckedPair : List Command :=
  [.allocate (.plain {}) { capacity := 4, maxCapacity := 64, checking := false },
    .onBuffer 0 (.writeBytes #[1, 2, 3, 4]), .onBuffer 0 .duplicate]

/-- Four bytes from the third on are appended to the duplicate, behind the fourth: two of them it
takes from what is there, and two from what its growth has added. -/
theorem bytes_moved_by_overlapping_transfer :
    ∃ after giver taker grown,
      (initial.after uncheckedPair).run (.transfer 0 1 (.getBytesTo 2) 4) = (.ok .done, after) ∧
      (initial.after uncheckedPair).Transferred after (.getBytesTo 2) 0 1 4 giver taker grown ∧
      ∀ place < 4, (after.arena 0).region.bytes[4 + place]? = #[3, 4, 0, 0][place]? := by
  have ran : (initial.after uncheckedPair).run (.transfer 0 1 (.getBytesTo 2) 4) =
      (.ok .done, ((initial.after uncheckedPair).run (.transfer 0 1 (.getBytesTo 2) 4)).2) :=
    Prod.ext (by decide +kernel) rfl
  obtain ⟨giver, taker, grown, transferred⟩ := bytes_moved_by_transfer ⟨_, rfl⟩ ran
  refine ⟨_, giver, taker, grown, ran, transferred, fun place below => ?_⟩
  have moved := transferred.moved place below
  cases transferred.gives
  cases transferred.takes
  refine moved.trans ?_
  revert place
  decide +kernel

/-- A buffer is the sole holder of an arena longer than itself, because a duplicate of it has grown
and written a byte far behind. -/
def soleOnLongRegion : List Command :=
  [.allocate (.plain {}) { capacity := 8, maxCapacity := 128 }, .onBuffer 0 .duplicate,
    .onBuffer 1 (.setCapacity 128), .onBuffer 1 (.setBytes 100 #[170]), .drop 1,
    .wrap (.array #[0, 1, 2, 3, 4, 5, 6, 7, 8, 9] {}) true]

/-- Not every byte outside of the range that a transfer writes stays: here the buffer grows to 64
bytes for it, and the byte at 100 is gone. -/
theorem bytes_not_all_spared_by_transfer :
    ¬ ∀ (commands : List Command) (id other : BufferId) (taker : Buffer)
      (command : TransferCommand) (length : Nat) (arena : ArenaId) (place : Nat) (byte : UInt8),
      id ≠ other →
      ((initial.after commands).run (.transfer id other command length)).1 = .ok .done →
      (initial.after commands).buffers.get? (command.target id other) = some taker →
      ((initial.after commands).arena arena).region.bytes[place]? = some byte →
      ¬ (arena = taker.arena ∧ taker.offset + command.targetIndex taker ≤ place ∧
        place < taker.offset + command.targetIndex taker + length) →
      (((initial.after commands).run (.transfer id other command length)).2.arena
        arena).region.bytes[place]? = some byte := by
  intro spared
  have shape : ((initial.after soleOnLongRegion).buffers.get? 0).map (fun taker =>
      (taker.offset, taker.writerIndex)) = some (0, 0) := by decide +kernel
  obtain ⟨taker, takes, same⟩ := Option.map_eq_some_iff.mp shape
  obtain ⟨start, writer⟩ := Prod.mk.inj same
  have outside : ¬ (0 = taker.arena ∧
      taker.offset + TransferCommand.writeBytesFrom.targetIndex taker ≤ 100 ∧
      100 < taker.offset + TransferCommand.writeBytesFrom.targetIndex taker + 10) := by
    simp only [TransferCommand.targetIndex, start, writer]
    omega
  have held : ((initial.after soleOnLongRegion).arena 0).region.bytes[100]? = some 170 := by
    decide +kernel
  have kept := spared soleOnLongRegion 0 2 taker .writeBytesFrom 10 0 100 170 (by decide)
    (by decide +kernel) takes held outside
  revert kept
  decide +kernel

end Store

end CursorBuffers
