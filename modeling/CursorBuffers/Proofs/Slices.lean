import CursorBuffers.Proofs.Transfers

namespace CursorBuffers

/-- The commands that append to a buffer. -/
def Command.Appends (id : BufferId) : Command → Prop
  | .onBuffer buffer (.writeScalar _ _) => buffer = id
  | .onBuffer buffer (.writeBytes _) => buffer = id
  | .transfer buffer _ .writeBytesFrom _ => buffer = id
  | _ => False

variable {store between after : Store} {id other : BufferId} {first second last buffer : Buffer}
variable {length index position : Nat} {data : Bytes} {region : Region}

/-- The other buffers are where they were. -/
def Store.KeepsOthers (store after : Store) (id : BufferId) : Prop :=
  ∀ other window, other ≠ id → store.buffers.get? other = some window →
    ∃ later, after.buffers.get? other = some later ∧ window.Akin later ∧
      later.capacity = window.capacity

/-- A buffer was appended to. No arena has become shorter, and no byte has changed but those that
the writer has passed. -/
structure Appended (store after : Store) (id : BufferId) (first last : Buffer) : Prop where
  was : store.buffers.get? id = some first
  now : after.buffers.get? id = some last
  akin : first.Akin last
  writer : first.writerIndex ≤ last.writerIndex
  others : store.KeepsOthers after id
  freed : ∀ arena, (after.arena arena).freed = (store.arena arena).freed
  backend : ∀ arena, (after.arena arena).region.backend = (store.arena arena).region.backend
  size : ∀ arena, (store.arena arena).region.size ≤ (after.arena arena).region.size
  bytes : ∀ {arena position}, position < (store.arena arena).region.size →
    (arena = first.arena → position < first.offset + first.writerIndex ∨
      first.offset + last.writerIndex ≤ position) →
    (after.arena arena).region.bytes[position]? = (store.arena arena).region.bytes[position]?

namespace Appended

theorem refl (live : store.buffers.get? id = some first) : Appended store store id first first where
  was := live
  now := live
  akin := .refl
  writer := Nat.le_refl _
  others _ _ _ also := ⟨_, also, .refl, rfl⟩
  freed _ := rfl
  backend _ := rfl
  size _ := Nat.le_refl _
  bytes _ _ := rfl

theorem trans (early : Appended store between id first second)
    (late : Appended between after id second last) : Appended store after id first last where
  was := early.was
  now := late.now
  akin := early.akin.trans late.akin
  writer := Nat.le_trans early.writer late.writer
  others other window distinct live := by
    obtain ⟨middle, stays, akin, same⟩ := early.others other window distinct live
    obtain ⟨later, reached, also, still⟩ := late.others other middle distinct stays
    exact ⟨later, reached, akin.trans also, still.trans same⟩
  freed arena := (late.freed arena).trans (early.freed arena)
  backend arena := (late.backend arena).trans (early.backend arena)
  size arena := Nat.le_trans (early.size arena) (late.size arena)
  bytes {arena position} stored outside := by
    -- The writer moves onward, so what lies outside of both ways together lies outside of each.
    have soon := early.writer
    have later := late.writer
    rw [late.bytes (Nat.lt_of_lt_of_le stored (early.size arena)), early.bytes stored]
    · intro here
      rcases outside here with before | behind
      · exact .inl before
      · exact .inr (by omega)
    · intro here
      rw [early.akin.offset]
      rcases outside (here.trans early.akin.arena) with before | behind
      · exact .inl (by omega)
      · exact .inr behind

/-- The arena of the buffer has been given another region. -/
theorem of_setRegion (live : store.buffers.get? id = some first)
    (arenas : ∀ arena, after.arena arena = (store.setRegion first.arena region).arena arena)
    (now : after.buffers.get? id = some last) (akin : first.Akin last)
    (writer : first.writerIndex ≤ last.writerIndex) (others : store.KeepsOthers after id)
    (backend : region.backend = (store.arena first.arena).region.backend)
    (size : (store.arena first.arena).region.size ≤ region.size)
    (bytes : ∀ position, position < (store.arena first.arena).region.size →
      (position < first.offset + first.writerIndex ∨
        first.offset + last.writerIndex ≤ position) →
      region.bytes[position]? = (store.arena first.arena).region.bytes[position]?) :
    Appended store after id first last := by
  have kept : ∀ arena, (after.arena arena).region = (store.arena arena).region ∨
      arena = first.arena ∧ (after.arena arena).region = region := by
    intro arena
    rw [arenas]
    exact store.region_setRegion_cases
  refine ⟨live, now, akin, writer, others, fun arena => ?_, fun arena => ?_, fun arena => ?_,
    fun {arena position} stored outside => ?_⟩
  · rw [arenas, Store.freed_setRegion]
  all_goals rcases kept arena with same | ⟨rfl, set⟩
  · rw [same]
  · rw [set, backend]
  · exact Nat.le_of_eq (by rw [same])
  · rw [set]
    exact size
  · rw [same]
  · rw [set]
    exact bytes position stored (outside rfl)

/-- Growth of a window only adds to the arena. -/
theorem of_refitted {capacity : Nat} (live : store.buffers.get? id = some first)
    (shares : first.role ≠ .owner) (needed : first.writerIndex ≤ capacity)
    (resized : store.resized first capacity = .ok region) :
    Appended store (store.refitted id first capacity region) id first
      (first.withCapacity capacity) := by
  -- A window never resizes its arena exactly, so no byte is cut off.
  have shared : store.isExclusive first = false := by simp [Store.isExclusive, shares]
  obtain ⟨total, rfl, _, keeps⟩ := Store.fit_of_resized resized
  have keeps := keeps shared
  refine .of_setRegion live (fun _ => Store.arena_refitted) ?_ Buffer.akin_withCapacity
    (Nat.le_min.mpr ⟨Nat.le_refl _, needed⟩)
    (fun other window distinct also => ⟨window, ?_, .refl, rfl⟩) Region.backend_withBytes ?_
    fun position stored _ => ?_
  · rw [Store.get?_refitted live, if_pos rfl]
  · rw [Store.get?_refitted live, if_neg distinct, also]
  · rw [Region.size, Region.size, Region.bytes_withBytes, Bytes.size_fit]
    exact keeps
  · rw [Region.bytes_withBytes, Bytes.getElem?_fit, if_pos (Nat.lt_of_lt_of_le stored keeps),
      Array.getElem?_eq_getElem stored]
    rfl

/-- Room that is made in a window changes no byte. -/
theorem of_room (live : store.buffers.get? id = some first) (shares : first.role ≠ .owner) :
    ∃ grown, Appended store (Action.runOn (Action.ensureWritable id length) store).2 id first
      grown := by
  have made : RoomMade store id first length _ := Action.roomMade live
  generalize Action.runOn (Action.ensureWritable id length) store = outcome at made ⊢
  cases made with
  | ample enough => exact ⟨first, .refl live⟩
  | refused short reason => exact ⟨first, .refl live⟩
  | grown short larger needed allowed resized =>
      exact ⟨_, .of_refitted live shares (Nat.le_of_add_right_le needed) resized⟩

/-- Bytes were written from the writer on, which has then moved behind them. -/
theorem of_write (live : store.buffers.get? id = some first)
    (written : (store.arena first.arena).region.write (first.offset + first.writerIndex) data =
      .ok region)
    (arenas : after.arenas = (store.setRegion first.arena region).arenas)
    (now : after.buffers.get? id = some last) (akin : first.Akin last)
    (writer : last.writerIndex = first.writerIndex + data.size)
    (others : store.KeepsOthers after id) : Appended store after id first last := by
  refine .of_setRegion live (fun _ => by rw [Store.arena, arenas, Store.arena]) now akin
    (writer ▸ Nat.le_add_right _ _) others (Region.backend_write written)
    (Nat.le_of_eq (Region.size_write written).symm) fun position stored outside => ?_
  obtain ⟨within, rfl⟩ := Region.within_of_write written
  rw [Region.bytes_withBytes, Bytes.getElem?_splice within, if_neg]
  omega

end Appended

/-- Two buffers that share the bytes of a range read it alike. -/
theorem Buffer.getBytes_congr {one another : Buffer} {early late : Arena} {otherIndex : Nat}
    (bounds : another.bounds = one.bounds) (config : another.config = one.config)
    (freed : late.freed = early.freed) (backend : late.region.backend = early.region.backend)
    (start : another.offset + otherIndex = one.offset + index)
    (within : index + length ≤ one.capacity) (also : otherIndex + length ≤ another.capacity)
    (covers : one.offset + one.capacity ≤ early.region.size)
    (alsoCovers : another.offset + another.capacity ≤ late.region.size)
    (same : ∀ position, one.offset + index ≤ position → position < one.offset + index + length →
      late.region.bytes[position]? = early.region.bytes[position]?) :
    another.getBytes late otherIndex length = one.getBytes early index length := by
  have kind : late.region.isNative = early.region.isNative := by
    rw [Region.isNative, backend, Region.isNative]
  have accessible : another.checkAccessible late = one.checkAccessible early :=
    if_congr (by rw [bounds, config, freed]) (by rw [kind]) rfl
  have guarded : another.guard late otherIndex length = one.guard early index length := by
    simp only [guard, bounds, accessible, checkRange_eq_ok.mpr within, checkRange_eq_ok.mpr also]
  have stored : one.offset + index + length ≤ early.region.size := by omega
  have alsoStored : one.offset + index + length ≤ late.region.size := by omega
  rw [getBytes, getBytes, guarded, start, Region.read_eq_ok stored, Region.read_eq_ok alsoStored,
    Bytes.slice_congr alsoStored stored same]

namespace Action

/-- An indexed write changes the region, or it fails and changes nothing. -/
theorem runOn_setBytes_cases (live : store.buffers.get? id = some buffer) :
    (∃ failure, runOn (setBytes id index data) store = (.error failure, store)) ∨
      ∃ region, buffer.guard (store.arena buffer.arena) index data.size = .ok () ∧
        (store.arena buffer.arena).region.write (buffer.offset + index) data = .ok region ∧
        runOn (setBytes id index data) store = (.ok (), store.setRegion buffer.arena region) := by
  rw [setBytes, runOn_overwrite live, Buffer.setBytes]
  cases guarded : buffer.guard (store.arena buffer.arena) index data.size with
  | error error => exact .inl ⟨_, rfl⟩
  | ok _ =>
      cases written : (store.arena buffer.arena).region.write (buffer.offset + index) data with
      | error error =>
          simp only [bind, Except.bind]
          exact .inl ⟨_, rfl⟩
      | ok region =>
          simp only [bind, Except.bind]
          exact .inr ⟨region, trivial, rfl, rfl⟩

theorem runOn_sliceRange_eq_ok {view : BufferId}
    (done : runOn (sliceRange id index length) store = (.ok view, after)) :
    ∃ buffer, store.buffers.get? id = some buffer ∧ view = store.buffers.next ∧
      after = store.addBuffer (buffer.sliced index length) := by
  obtain ⟨_, between, first, checked⟩ := runOn_bind_eq_ok.mp done
  obtain ⟨rfl, _⟩ := runOn_inspect_eq_ok.mp first
  obtain ⟨_, between, second, found⟩ := runOn_bind_eq_ok.mp checked
  obtain ⟨rfl, buffer, live, _⟩ := runOn_inspect_eq_ok.mp second
  rw [runOn_bind, runOn_buffer live] at found
  cases found
  exact ⟨buffer, live, rfl, rfl⟩

/-- An append may fail after it has made room. -/
theorem appended_append (live : store.buffers.get? id = some first) (shares : first.role ≠ .owner) :
    ∃ last, Appended store (runOn (append id data) store).2 id first last := by
  obtain ⟨grown, room⟩ :
      ∃ grown, Appended store (runOn (ensureWritable id data.size) store).2 id first grown :=
    Appended.of_room live shares
  rw [append, runOn_bind]
  rcases made : runOn (ensureWritable id data.size) store with ⟨failure | _, between⟩
  all_goals rw [made] at room
  · exact ⟨grown, room⟩
  · have live : between.buffers.get? id = some grown := room.now
    simp only [runOn_bind, runOn_writerIndex live]
    rcases runOn_setBytes_cases live with ⟨failure, failed⟩ | ⟨region, _, written, done⟩
    · rw [failed]
      exact ⟨grown, room⟩
    · have stays : (between.setRegion grown.arena region).buffers.get? id = some grown := live
      have moved : ∀ {named}, ((between.setRegion grown.arena region).mapBuffer id fun _ =>
          grown.advanceWriter data.size).buffers.get? named =
          if named = id then some (grown.advanceWriter data.size)
          else between.buffers.get? named := by
        intro named
        simp only [Store.mapBuffer, Table.get?_update, stays]
        rfl
      rw [done]
      simp only [runOn_advanceWriter stays]
      refine ⟨grown.advanceWriter data.size, room.trans (.of_write live written rfl ?_
        ⟨rfl, rfl, rfl, rfl, rfl, rfl, rfl, rfl, rfl⟩ rfl
        fun other window distinct also => ⟨window, ?_, .refl, rfl⟩)⟩
      · rw [moved, if_pos rfl]
      · rw [moved, if_neg distinct, also]

end Action

namespace Store

/-- Bytes of another buffer are appended; room may be made for them in vain. -/
theorem Reachable.appended_writeBytesFrom (reachable : store.Reachable)
    (live : store.buffers.get? id = some first) (shares : first.role ≠ .owner) :
    ∃ last, Appended store (Action.runOn (TransferCommand.writeBytesFrom.perform id other length)
      store).2 id first last := by
  obtain ⟨grown, room⟩ : ∃ grown, Appended store
      (Action.runOn (Action.ensureWritable id length) store).2 id first grown :=
    Appended.of_room live shares
  rcases outcome : Action.runOn (TransferCommand.writeBytesFrom.perform id other length) store with
    ⟨failure | _, after⟩
  · rcases TransferCommand.failed outcome with kept | ⟨_, made, _⟩
    · rw [kept]
      exact ⟨first, .refl live⟩
    · rw [made]
      exact ⟨grown, room⟩
  · obtain ⟨between, giver, taker, data, region, delivered⟩ :=
      TransferCommand.delivered reachable.ordered outcome
    have made : Action.runOn (Action.ensureWritable id length) store = (.ok (), between) :=
      delivered.room rfl
    rw [made] at room
    have live : between.buffers.get? id = some grown := room.now
    cases live.symm.trans delivered.copies.takes
    have moved := delivered.buffers live
    refine ⟨_, room.trans (.of_write live delivered.copies.written delivered.arenas moved
      TransferCommand.akin_shift.1 ?_ fun other window _ also => ?_)⟩
    · rw [delivered.size]
      exact TransferCommand.writerIndex_shift_target rfl
    · exact ⟨_, delivered.buffers also, TransferCommand.akin_shift⟩

/-- A window is changed by an append to it only from its writer on. -/
theorem Reachable.appended (reachable : store.Reachable) {command : Command}
    (live : store.buffers.get? id = some first) (shares : first.role ≠ .owner)
    (appends : command.Appends id) :
    ∃ last, Appended store (store.run command).2 id first last := by
  unfold Store.run
  cases command with
  | onBuffer named request =>
      cases request with
      | writeScalar order value =>
          obtain rfl : named = id := appends
          change ∃ last, Appended store (Action.runOn (Action.writeScalar named order value >>= _)
            store).2 named first last
          rw [Action.after_bind_pure, Action.writeScalar_eq_append]
          exact Action.appended_append live shares
      | writeBytes data =>
          obtain rfl : named = id := appends
          change ∃ last, Appended store (Action.runOn (Action.writeBytes named data >>= _)
            store).2 named first last
          rw [Action.after_bind_pure, Action.writeBytes_eq_append, Action.runOn_bind,
            Action.runOn_check]
          cases data.checkLength with
          | error error => exact ⟨first, .refl live⟩
          | ok _ => exact Action.appended_append live shares
      | _ => exact appends.elim
  | transfer named source request length =>
      cases request with
      | writeBytesFrom =>
          obtain rfl : named = id := appends
          change ∃ last, Appended store (Action.runOn (TransferCommand.perform named source length
            .writeBytesFrom >>= fun _ => pure _) store).2 named first last
          rw [Action.after_bind_pure]
          exact reachable.appended_writeBytesFrom live shares
      | _ => exact appends.elim
  | _ => exact appends.elim

theorem Reachable.appended_after (reachable : store.Reachable) {traffic : List Command}
    (live : store.buffers.get? id = some first) (shares : first.role ≠ .owner)
    (appends : ∀ command ∈ traffic, command.Appends id) :
    ∃ last, Appended store (store.after traffic) id first last := by
  induction traffic generalizing store first with
  | nil => exact ⟨first, .refl live⟩
  | cons command traffic ih =>
      obtain ⟨second, early⟩ := reachable.appended live shares (appends command (by simp))
      obtain ⟨last, late⟩ := ih reachable.run early.now (early.akin.role ▸ shares)
        fun other inside => appends other (by simp [inside])
      exact ⟨last, early.trans late⟩

theorem run_getBytes (live : store.buffers.get? id = some buffer) :
    (store.run (.onBuffer id (.getBytes index length))).1 =
      ((buffer.getBytes (store.arena buffer.arena) index length).mapError .memory).map
        Answer.bytes := by
  change (Action.runOn (Action.getBytes id index length >>= fun bytes => pure (Answer.bytes bytes))
    store).1 = _
  rw [Action.runOn_bind, Action.getBytes, Action.runOn_inspect live]
  cases buffer.getBytes (store.arena buffer.arena) index length <;> rfl

/-- A slice is a new buffer, and does nothing to the one that it is a slice of. -/
theorem sliced_of_sliceRange {view : BufferId} {sliced : Store}
    (live : store.buffers.get? id = some buffer)
    (cut : store.run (.onBuffer id (.sliceRange index length)) = (.ok (.buffer view), sliced)) :
    sliced.buffers.get? view = some (buffer.sliced index length) ∧
      sliced.buffers.get? id = some buffer ∧ id ≠ view ∧
      ∀ position count, (sliced.run (.onBuffer id (.getBytes position count))).1 =
        (store.run (.onBuffer id (.getBytes position count))).1 := by
  obtain ⟨made, between, done, answered⟩ := Action.runOn_bind_eq_ok.mp cut
  cases answered
  obtain ⟨source, also, rfl, rfl⟩ := Action.runOn_sliceRange_eq_ok done
  cases live.symm.trans also
  have stays : (store.addBuffer (buffer.sliced index length)).buffers.get? id = some buffer :=
    Table.get?_add_of_get? live
  refine ⟨Table.get?_add_next, stays, Nat.ne_of_lt (Table.lt_next_of_get? live),
    fun position count => ?_⟩
  rw [run_getBytes stays, run_getBytes live, addBuffer_frame.2.1]

/-- Windows on one arena show the same where they overlap. -/
theorem Covered.run_getBytes_eq (covered : store.Covered) {one another : Buffer}
    {otherIndex : Nat} (live : store.buffers.get? id = some one)
    (also : store.buffers.get? other = some another) (arena : another.arena = one.arena)
    (bounds : another.bounds = one.bounds) (config : another.config = one.config)
    (start : another.offset + otherIndex = one.offset + index)
    (within : index + length ≤ one.capacity) (alsoWithin : otherIndex + length ≤ another.capacity) :
    (store.run (.onBuffer other (.getBytes otherIndex length))).1 =
      (store.run (.onBuffer id (.getBytes index length))).1 := by
  have covers := covered.covers live
  have alsoCovers : another.offset + another.capacity ≤ _ := covered.covers also
  rw [arena] at alsoCovers
  rw [run_getBytes live, run_getBytes also, arena]
  congr 2
  exact Buffer.getBytes_congr bounds config rfl rfl start within alsoWithin covers alsoCovers
    fun _ _ _ => rfl

end Store

/-- Another buffer shows what it showed, but for what the writer has passed. -/
theorem Appended.run_getBytes (appended : Appended store after id first last)
    (covered : store.Covered) (stillCovered : after.Covered) (distinct : other ≠ id)
    (live : store.buffers.get? other = some buffer) (within : index + length ≤ buffer.capacity)
    (outside : buffer.arena = first.arena →
      buffer.offset + index + length ≤ first.offset + first.writerIndex ∨
        first.offset + last.writerIndex ≤ buffer.offset + index) :
    (after.run (.onBuffer other (.getBytes index length))).1 =
      (store.run (.onBuffer other (.getBytes index length))).1 := by
  obtain ⟨later, stays, akin, same⟩ := appended.others other buffer distinct live
  have covers : buffer.offset + buffer.capacity ≤ _ := covered.covers live
  have laterCovers := stillCovered.covers stays
  rw [Store.Covers, akin.arena] at laterCovers
  rw [Store.run_getBytes stays, Store.run_getBytes live, akin.arena]
  congr 2
  refine Buffer.getBytes_congr akin.bounds akin.config (appended.freed _) (appended.backend _)
    (by rw [akin.offset]) within (same ▸ within) covers laterCovers fun position start stop => ?_
  refine appended.bytes (Nat.lt_of_lt_of_le (by omega) covers) fun here => ?_
  have outside := outside here
  omega

namespace Store

/-- Whatever is appended to a slice, and however it grows for that, the sliced buffer goes on
showing what it showed before the writer that the slice started with and from the writer that it
ended with on. What lies between the two it shows as the slice does, also beyond the range that was
sliced. -/
theorem shown_after_appends_to_slice (reachable : store.Reachable) {view : BufferId}
    {sliced : Store} {traffic : List Command} (live : store.buffers.get? id = some buffer)
    (cut : store.run (.onBuffer id (.sliceRange index length)) = (.ok (.buffer view), sliced))
    (appends : ∀ command ∈ traffic, command.Appends view) :
    ∃ first last, sliced.buffers.get? view = some first ∧
      (sliced.after traffic).buffers.get? view = some last ∧
      first.writerIndex = min (buffer.writerIndex - index) length ∧
      first.writerIndex ≤ last.writerIndex ∧
      ∀ position count, position + count ≤ buffer.capacity →
        (position + count ≤ index + first.writerIndex ∨ index + last.writerIndex ≤ position →
          ((sliced.after traffic).run (.onBuffer id (.getBytes position count))).1 =
            (store.run (.onBuffer id (.getBytes position count))).1) ∧
        (index + first.writerIndex ≤ position → position + count ≤ index + last.writerIndex →
          ((sliced.after traffic).run (.onBuffer id (.getBytes position count))).1 =
            ((sliced.after traffic).run
              (.onBuffer view (.getBytes (position - index) count))).1) := by
  have reached : sliced.Reachable := by
    have ran : (store.run (.onBuffer id (.sliceRange index length))).2.Reachable := reachable.run
    rwa [cut] at ran
  have final : (sliced.after traffic).Reachable := reached.after
  obtain ⟨opened, stays, apart, same⟩ := sliced_of_sliceRange live cut
  have shares : (buffer.sliced index length).role ≠ .owner := by
    simp only [Buffer.sliced]
    split <;> simp
  obtain ⟨last, appended⟩ := reached.appended_after opened shares appends
  have offset : last.offset = buffer.offset + index := appended.akin.offset
  refine ⟨_, last, opened, appended.now, rfl, appended.writer, fun position count inside =>
    ⟨fun outside => ?_, fun behind before => ?_⟩⟩
  · rw [← same]
    refine appended.run_getBytes reached.covered final.covered apart stays inside fun _ => ?_
    change _ ≤ buffer.offset + index + _ ∨ buffer.offset + index + _ ≤ _
    omega
  · obtain ⟨later, parent, akin, size⟩ := appended.others id buffer apart stays
    have written := (final.ordered appended.now).writer
    refine final.covered.run_getBytes_eq appended.now parent
      (akin.arena.trans appended.akin.arena.symm) (akin.bounds.trans appended.akin.bounds.symm)
      (akin.config.trans appended.akin.config.symm) ?_ (by omega) (size ▸ inside)
    rw [akin.offset]
    omega

/-- Two bytes are appended to a slice of four out of eight: the first six stay, and the last two are
the new ones. -/
theorem shown_after_appends_to_full_slice :
    (((initial.after [.allocate (.plain {}) { capacity := 8 },
        .onBuffer 0 (.writeBytes #[0, 1, 2, 3, 4, 5, 6, 7]), .onBuffer 0 (.sliceRange 2 4)]).after
          [.onBuffer 1 (.writeBytes #[170, 187])]).run (.onBuffer 0 (.getBytes 0 6))).1 =
      .ok (.bytes #[0, 1, 2, 3, 4, 5]) ∧
    (((initial.after [.allocate (.plain {}) { capacity := 8 },
        .onBuffer 0 (.writeBytes #[0, 1, 2, 3, 4, 5, 6, 7]), .onBuffer 0 (.sliceRange 2 4)]).after
          [.onBuffer 1 (.writeBytes #[170, 187])]).run (.onBuffer 0 (.getBytes 6 2))).1 =
      .ok (.bytes #[170, 187]) := by
  obtain ⟨buffer, live, writer, capacity⟩ : ∃ buffer,
      (initial.after [.allocate (.plain {}) { capacity := 8 },
        .onBuffer 0 (.writeBytes #[0, 1, 2, 3, 4, 5, 6, 7])]).buffers.get? (0 : BufferId) =
          some buffer ∧ buffer.writerIndex = 8 ∧ buffer.capacity = 8 := ⟨_, rfl, rfl, rfl⟩
  have cut : (initial.after [.allocate (.plain {}) { capacity := 8 },
      .onBuffer 0 (.writeBytes #[0, 1, 2, 3, 4, 5, 6, 7])]).run (.onBuffer 0 (.sliceRange 2 4)) =
      (.ok (.buffer 1), initial.after [.allocate (.plain {}) { capacity := 8 },
        .onBuffer 0 (.writeBytes #[0, 1, 2, 3, 4, 5, 6, 7]), .onBuffer 0 (.sliceRange 2 4)]) :=
    Prod.ext rfl rfl
  have appends : ∀ command ∈ ([.onBuffer 1 (.writeBytes #[170, 187])] : List Command),
      command.Appends 1 := by simp [Command.Appends]
  obtain ⟨first, last, _, grown, start, _, shown⟩ :=
    shown_after_appends_to_slice ⟨_, rfl⟩ live cut appends
  have stop : (((initial.after [.allocate (.plain {}) { capacity := 8 },
      .onBuffer 0 (.writeBytes #[0, 1, 2, 3, 4, 5, 6, 7]), .onBuffer 0 (.sliceRange 2 4)]).after
        [.onBuffer 1 (.writeBytes #[170, 187])]).buffers.get? 1).map (·.writerIndex) = some 6 := by
    decide +kernel
  rw [grown, Option.map_some, Option.some.injEq] at stop
  rw [writer] at start
  refine ⟨((shown 0 6 (by omega)).1 (.inl (by omega))).trans rfl, ?_⟩
  exact ((shown 6 2 (by omega)).2 (by omega) (by omega)).trans (by decide +kernel)

/-- Growth of a slice does not only add room behind what is shared: here it takes in the byte of the
sliced buffer that comes after the slice. -/
theorem shown_after_appends_to_slice_beyond_range :
    ¬ ∀ (commands traffic : List Command) (id view : BufferId) (buffer : Buffer) (sliced : Store)
      (index length position : Nat), (initial.after commands).buffers.get? id = some buffer →
      (initial.after commands).run (.onBuffer id (.sliceRange index length)) =
        (.ok (.buffer view), sliced) →
      (∀ command ∈ traffic, command.Appends view) → position < buffer.capacity →
      (position < index ∨ index + length ≤ position) →
      ((sliced.after traffic).run (.onBuffer id (.getBytes position 1))).1 =
        ((initial.after commands).run (.onBuffer id (.getBytes position 1))).1 := by
  intro unchanged
  obtain ⟨buffer, live, capacity⟩ : ∃ buffer,
      (initial.after [.allocate (.plain {}) { capacity := 8 },
        .onBuffer 0 (.writeBytes #[0, 1, 2, 3, 4, 5, 6, 7])]).buffers.get? (0 : BufferId) =
          some buffer ∧ buffer.capacity = 8 := ⟨_, rfl, rfl⟩
  have same := unchanged _ [.onBuffer 1 (.writeBytes #[170])] 0 1 buffer _ 2 4 6 live
    (Prod.ext rfl rfl) (by simp [Command.Appends]) (by omega) (by omega)
  revert same
  decide +kernel

end Store

end CursorBuffers
