import CursorBuffers.Proofs.Cursors
import CursorBuffers.Proofs.Isolation.WellHeld
import CursorBuffers.Proofs.Step.Regions

namespace CursorBuffers

/-- The window of the buffer lies within the region of its arena. -/
def Store.Covers (store : Store) (buffer : Buffer) : Prop :=
  buffer.offset + buffer.capacity ≤ (store.arena buffer.arena).region.size

structure Store.Covered (store : Store) : Prop where
  held : store.WellHeld
  standing : store.arenas.Standing
  covers : ∀ {id buffer}, store.buffers.get? id = some buffer → store.Covers buffer

variable {warrant : Warrant} {store after : Store}

namespace Store.Covers

variable {buffer other : Buffer}

/-- The window has not become longer, and the region not shorter. -/
theorem mono (covers : store.Covers other) (arena : buffer.arena = other.arena)
    (window : buffer.offset + buffer.capacity ≤ other.offset + other.capacity)
    (size : (store.arena other.arena).region.size ≤ (after.arena other.arena).region.size) :
    after.Covers buffer := by
  unfold Covers at covers ⊢
  rw [arena]
  omega

theorem derived (covers : store.Covers other) (derived : other.Derived buffer) :
    store.Covers buffer := by
  cases derived with
  | @sliced index length within =>
      refine covers.mono rfl ?_ (Nat.le_refl _)
      simp only [Buffer.sliced]
      omega
  | duplicated => exact covers

end Store.Covers

namespace Store.Covered

/-- No region of a live buffer has become shorter, and new windows lie within theirs. -/
theorem of_sizes (covered : store.Covered) (held : after.WellHeld)
    (standing : after.arenas.Standing)
    (sizes : ∀ {id buffer}, store.buffers.get? id = some buffer →
      (store.arena buffer.arena).region.size ≤ (after.arena buffer.arena).region.size)
    (windows : ∀ {id buffer}, after.buffers.get? id = some buffer →
      store.buffers.get? id = some buffer ∨ after.Covers buffer) : after.Covered where
  held := held
  standing := standing
  covers live := by
    rcases windows live with was | covers
    · exact (covered.covers was).mono rfl (Nat.le_refl _) (sizes was)
    · exact covers

theorem known (covered : store.Covered) {id : BufferId} {buffer : Buffer}
    (live : store.buffers.get? id = some buffer) : buffer.arena ≠ store.arenas.next :=
  Nat.ne_of_lt (covered.held.known live)

/-- A new arena leaves the regions of all buffers alone. -/
theorem sizes_addArena (covered : store.Covered) {region : Region} {id : BufferId}
    {buffer : Buffer} (live : store.buffers.get? id = some buffer) :
    (store.arena buffer.arena).region.size ≤
      ((store.addArena region).arena buffer.arena).region.size := by
  exact Nat.le_of_eq (by rw [arena_addArena, if_neg (covered.known live)])

theorem sizes_write {arena other : ArenaId} {offset : Nat} {data : Bytes} {region : Region}
    (written : (store.arena arena).region.write offset data = .ok region) :
    (store.arena other).region.size ≤
      ((store.setRegion arena region).arena other).region.size := by
  rcases store.region_setRegion_cases with kept | ⟨here, set⟩
  · exact Nat.le_of_eq (congrArg Region.size kept.symm)
  · exact Nat.le_of_eq (by rw [set, Region.size_write written, here])

theorem windows_addBuffer {buffer : Buffer} (covers : after.Covers buffer) {id : BufferId}
    {other : Buffer} (live : (store.buffers.add buffer).get? id = some other) :
    store.buffers.get? id = some other ∨ after.Covers other := by
  rw [Table.get?_add] at live
  split at live
  · cases live
    exact .inr covers
  · exact .inl live

theorem windows_update {changed : BufferId} {buffer : Buffer} (covers : after.Covers buffer)
    {id : BufferId} {other : Buffer}
    (live : (store.buffers.update changed fun _ => buffer).get? id = some other) :
    store.buffers.get? id = some other ∨ after.Covers other := by
  rw [Table.get?_update] at live
  split at live
  · obtain ⟨_, _, rfl⟩ := Option.map_eq_some_iff.mp live
    exact .inr covers
  · exact .inl live

theorem windows_vacate {vacated id : BufferId} {other : Buffer}
    (live : (store.buffers.vacate vacated).get? id = some other) :
    store.buffers.get? id = some other := by
  rw [Table.get?_vacate] at live
  split at live
  · contradiction
  · exact live

/-- Only the sole holder of an arena makes its region shorter, and then no shorter than its own
window. -/
theorem resize (covered : store.Covered) {id : BufferId} {buffer : Buffer} {capacity : Nat}
    {region : Region} (live : store.buffers.get? id = some buffer)
    (resized : store.resized buffer capacity = .ok region)
    (held : (((store.setRegion buffer.arena region).emitGrowth buffer capacity).mapBuffer id
      fun _ => buffer.withCapacity capacity).WellHeld)
    (standing : (((store.setRegion buffer.arena region).emitGrowth buffer capacity).mapBuffer id
      fun _ => buffer.withCapacity capacity).arenas.Standing) :
    (((store.setRegion buffer.arena region).emitGrowth buffer capacity).mapBuffer id
      fun _ => buffer.withCapacity capacity).Covered := by
  refine ⟨held, standing, fun {other sibling} also => ?_⟩
  have set : ((store.setRegion buffer.arena region).arena buffer.arena).region = region :=
    region_setRegion (covered.held.known live) covered.standing
  have arena : ∀ window : Buffer, (((store.setRegion buffer.arena region).emitGrowth buffer
      capacity).mapBuffer id fun _ => buffer.withCapacity capacity).Covers window ↔
      (store.setRegion buffer.arena region).Covers window := by
    simp [Covers]
  have buffers : (((store.setRegion buffer.arena region).emitGrowth buffer capacity).mapBuffer id
      fun _ => buffer.withCapacity capacity).buffers =
        store.buffers.update id fun _ => buffer.withCapacity capacity := by
    simp [mapBuffer]
  rw [buffers, Table.get?_update] at also
  rw [arena]
  simp only [Store.resized] at resized
  split at also
  · obtain ⟨_, _, rfl⟩ := Option.map_eq_some_iff.mp also
    have fits : buffer.offset + capacity ≤ region.size := by
      split at resized
      · exact Nat.le_of_eq (Region.size_resize resized).symm
      · rw [Region.size_reserve resized]
        exact Nat.le_max_right _ _
    simpa [Covers, Buffer.withCapacity, set] using fits
  · rename_i distinct
    refine (covered.covers also).mono rfl (Nat.le_refl _) ?_
    rcases store.region_setRegion_cases with kept | ⟨here, given⟩
    · exact Nat.le_of_eq (congrArg Region.size kept.symm)
    · rw [given, here]
      split at resized
      · rename_i exclusive
        simp only [isExclusive, Bool.and_eq_true, beq_iff_eq] at exclusive
        exact absurd (eq_of_holders_eq_one exclusive.2 live rfl also here) distinct
      · rw [Region.size_reserve resized]
        exact Nat.le_max_left _ _

end Store.Covered

open Store Store.Covered in
theorem Step.covered (step : Step warrant store after) (covered : store.Covered) :
    after.Covered := by
  have held : after.WellHeld := step.wellHeld covered.held
  have standing : after.arenas.Standing := step.standing covered.standing
  cases step with
  | stock serving served offered =>
      exact covered.of_sizes held standing covered.sizes_addArena .inl
  | overstock serving served offered =>
      refine covered.of_sizes held standing (fun live => ?_) .inl
      rw [region_markFreed]
      exact covered.sizes_addArena live
  | drain served =>
      refine covered.of_sizes held standing (fun _ => ?_) fun live => .inl ?_
      · exact Nat.le_of_eq (by rw [region_drainKey])
      · rwa [buffers_drainKey] at live
  | addArena => exact covered.of_sizes held standing covered.sizes_addArena .inl
  | @create region buffer granted fresh =>
      refine covered.of_sizes held standing covered.sizes_addArena (windows_addBuffer ?_)
      simp [Covers, fresh.arena, fresh.offset, fresh.capacity, arena_addArena]
  | @leaseFresh id pool request granted serving served valid none =>
      refine covered.of_sizes held standing covered.sizes_addArena (windows_addBuffer ?_)
      simp [Covers, Buffer.leased, Buffer.ofAllocation, arena_addArena]
  | @leaseIdle id pool request idle rest region granted served valid taken reserved =>
      obtain ⟨current, opened⟩ :=
        Option.isSome_iff_exists.mp (covered.held.registered id pool served)
      have queued : idle ∈ store.idle :=
        (idle_poll opened taken).mem_iff.mpr List.mem_cons_self
      refine covered.of_sizes held standing (fun live => ?_) (windows_addBuffer ?_)
      · have apart := covered.held.idleApart queued live
        refine Nat.le_of_eq (congrArg (Region.size ∘ Arena.region) ?_)
        exact (arena_setRegion_of_ne apart).symm
      · have given : (((store.unqueued id pool idle rest).setRegion idle.arena region).arena
            idle.arena).region = region :=
          region_setRegion (covered.held.idleKnown queued) covered.standing
        have enough : request.capacity ≤ region.size := by
          rw [Region.size_reserve reserved]
          exact Nat.le_max_right _ _
        simpa [Covers, Buffer.leased, Buffer.ofAllocation, given] using enough
  | write named live guarded written =>
      exact covered.of_sizes held standing (fun _ => sizes_write written) .inl
  | @place id buffer placed named live moved =>
      refine covered.of_sizes held standing (fun _ => Nat.le_refl _) (windows_update ?_)
      refine (covered.covers live).mono moved.akin.arena (Nat.le_of_eq ?_) (Nat.le_refl _)
      rw [moved.akin.offset, moved.capacity]
  | @resize id buffer capacity region named live allowed accessible resized =>
      exact covered.resize live resized held standing
  | derive named live accessible derived =>
      exact covered.of_sizes held standing (fun _ => Nat.le_refl _)
        (windows_addBuffer ((covered.covers live).derived derived))
  | free named live frees =>
      refine covered.of_sizes held standing (fun _ => ?_) fun live => .inl ?_
      · exact Nat.le_of_eq (by rw [region_free])
      · rwa [buffers_free] at live
  | vacate named live unleased =>
      exact covered.of_sizes held standing (fun _ => Nat.le_refl _) fun live =>
        .inl (windows_vacate live)
  | reclaim named live leased =>
      refine covered.of_sizes held standing (fun _ => ?_) fun live => .inl ?_
      · exact Nat.le_of_eq (by rw [region_reclaim, vacate_frame.2.1])
      · rw [buffers_reclaim] at live
        exact windows_vacate live
  | _ => exact covered.of_sizes held standing (fun _ => Nat.le_refl _) .inl

theorem Store.Reachable.covered (reachable : store.Reachable) : store.Covered := by
  refine reachable.induction ⟨wellHeld_initial, ?_, ?_⟩ Step.covered
  · intro id known
    exact absurd known (Nat.not_lt_zero id)
  · intro id buffer live
    rw [Table.get?_eq_none_of_next_le (Nat.zero_le id)] at live
    contradiction

section Access

variable {id : BufferId} {buffer : Buffer} {index length : Nat}

namespace BufferCommand

/-- The range that an indexed access names. -/
def access? : BufferCommand → Option (Nat × Nat)
  | .getScalar kind _ index => some (index, kind.width.bytes)
  | .setScalar _ index value => some (index, value.kind.width.bytes)
  | .getBytes index length => some (index, length)
  | .setBytes index data => some (index, data.size)
  | _ => none

/-- How many bytes a read from the reader on takes or shows. -/
def reads? (buffer : Buffer) : BufferCommand → Option Nat
  | .readScalar kind _ => some kind.width.bytes
  | .readBytes length => some length
  | .skipBytes length => some length
  | .toBytes => some buffer.readableBytes
  | .hexDump _ => some buffer.readableBytes
  | _ => none

end BufferCommand

namespace Buffer

variable {arena : Arena}

theorem guard_eq_ok (accessible : buffer.checkAccessible arena = .ok ())
    (within : index + length ≤ buffer.capacity) : buffer.guard arena index length = .ok () := by
  unfold guard
  split
  · rfl
  · rw [accessible]
    exact checkRange_eq_ok.mpr within

theorem guard_eq_error (checked : buffer.bounds = .checked)
    (accessible : buffer.checkAccessible arena = .ok ())
    (beyond : ¬ index + length ≤ buffer.capacity) :
    buffer.guard arena index length =
      .error (.outOfRange (.access index length buffer.capacity)) := by
  unfold guard
  rw [checked, accessible]
  exact if_neg beyond

theorem toBytes_eq_ok (ordered : buffer.Ordered)
    (accessible : buffer.checkAccessible arena = .ok ())
    (covers : buffer.offset + buffer.capacity ≤ arena.region.size) :
    buffer.toBytes arena =
      .ok (arena.region.bytes.slice (buffer.offset + buffer.readerIndex)
        buffer.readableBytes) := by
  obtain ⟨reader, writer, _⟩ := ordered
  have within : buffer.readerIndex + buffer.readableBytes ≤ buffer.capacity := by
    simp only [readableBytes]
    omega
  have stored : buffer.offset + buffer.readerIndex + buffer.readableBytes ≤ arena.region.size := by
    omega
  rw [toBytes, getBytes, guard_eq_ok accessible within, Region.read_eq_ok stored]
  rfl

theorem checkAccessible_eq_ok : buffer.checkAccessible arena = .ok () ↔
    ¬ (buffer.bounds = .checked ∧ buffer.config.checkAccessible ∧ arena.freed) := by
  unfold checkAccessible
  split <;> simp_all

theorem checkAccessible_of_guard (guarded : buffer.guard arena index length = .ok ()) :
    buffer.checkAccessible arena = .ok () := by
  cases accessible : buffer.checkAccessible arena with
  | ok _ => rfl
  | error error =>
      unfold guard at guarded
      split at guarded
      · rename_i unchecked
        simp [checkAccessible, unchecked] at accessible
      · rw [accessible] at guarded
        cases guarded

/-- Whether an access at an index goes through, whatever it transfers. -/
def reach (buffer : Buffer) (arena : Arena) (index length : Nat) : Except MemoryError Unit := do
  buffer.guard arena index length
  arena.region.checkRange (buffer.offset + index) length

theorem reach_eq_ok (accessible : buffer.checkAccessible arena = .ok ())
    (within : index + length ≤ buffer.capacity)
    (covers : buffer.offset + buffer.capacity ≤ arena.region.size) :
    buffer.reach arena index length = .ok () := by
  have inside : buffer.offset + index + length ≤ arena.region.size := by omega
  rw [reach, guard_eq_ok accessible within]
  exact Region.checkRange_eq_ok.mpr inside

theorem reach_eq_error (checked : buffer.bounds = .checked)
    (accessible : buffer.checkAccessible arena = .ok ())
    (beyond : ¬ index + length ≤ buffer.capacity) :
    buffer.reach arena index length =
      .error (.outOfRange (.access index length buffer.capacity)) := by
  rw [reach, guard_eq_error checked accessible beyond]
  rfl

/-- An unchecked buffer never asks whether its arena was released. -/
theorem checkAccessible_of_unchecked (unchecked : buffer.bounds = .unchecked) :
    buffer.checkAccessible arena = .ok () := by
  simp [checkAccessible, unchecked]

theorem map_getScalar {kind : ScalarKind} {order : ByteOrder} :
    (buffer.getScalar arena kind order index).map (fun _ => ()) =
      buffer.reach arena index kind.width.bytes := by
  rw [reach, ← Region.map_getWord, getScalar]
  cases buffer.guard arena index kind.width.bytes with
  | error error => rfl
  | ok _ => cases arena.region.getWord order kind.width (buffer.offset + index) <;> rfl

theorem map_setScalar {order : ByteOrder} {scalar : Scalar} :
    (buffer.setScalar arena order index scalar).map (fun _ => ()) =
      buffer.reach arena index scalar.kind.width.bytes := by
  rw [reach, ← Region.map_setWord, setScalar]
  cases buffer.guard arena index scalar.kind.width.bytes <;> rfl

theorem map_getBytes :
    (buffer.getBytes arena index length).map (fun _ => ()) = buffer.reach arena index length := by
  rw [reach, ← Region.map_read, getBytes]
  cases buffer.guard arena index length <;> rfl

theorem map_setBytes {data : Bytes} :
    (buffer.setBytes arena index data).map (fun _ => ()) =
      buffer.reach arena index data.size := by
  rw [reach, ← Region.map_write, setBytes]
  cases buffer.guard arena index data.size <;> rfl

end Buffer

namespace Store

open CursorBuffers.Action

theorem exists_of_map_eq_ok {α ε : Type} {result : Except ε α}
    (passes : result.map (fun _ => ()) = .ok ()) : ∃ value, result = .ok value := by
  cases result with
  | error error => cases passes
  | ok value => exact ⟨value, rfl⟩

/-- The two checks decide an indexed access. -/
theorem run_access {command : BufferCommand} (live : store.buffers.get? id = some buffer)
    (accesses : command.access? = some (index, length)) :
    (store.run (.onBuffer id command)).1.map (fun _ => ()) =
      (buffer.reach (store.arena buffer.arena) index length).mapError .memory := by
  cases command with
  | getScalar kind order start =>
      cases accesses
      change (runOn (inspect id _ >>= _) store).1.map _ = _
      rw [← Buffer.map_getScalar, runOn_bind, runOn_inspect live]
      cases buffer.getScalar (store.arena buffer.arena) kind order index <;> rfl
  | setScalar order start value =>
      cases accesses
      change (runOn (overwrite id _ >>= _) store).1.map _ = _
      rw [← Buffer.map_setScalar, runOn_bind, runOn_overwrite live]
      cases buffer.setScalar (store.arena buffer.arena) order index value <;> rfl
  | getBytes start count =>
      cases accesses
      change (runOn (inspect id _ >>= _) store).1.map _ = _
      rw [← Buffer.map_getBytes, runOn_bind, runOn_inspect live]
      cases buffer.getBytes (store.arena buffer.arena) index length <;> rfl
  | setBytes start data =>
      cases accesses
      change (runOn (overwrite id _ >>= _) store).1.map _ = _
      rw [← Buffer.map_setBytes, runOn_bind, runOn_overwrite live]
      cases buffer.setBytes (store.arena buffer.arena) index data <;> rfl
  | _ => cases accesses

/-- A read of what is readable goes through if the bytes can be reached. -/
theorem run_read {command : BufferCommand} (live : store.buffers.get? id = some buffer)
    (reads : command.reads? buffer = some length) (enough : length ≤ buffer.readableBytes)
    (reached : buffer.reach (store.arena buffer.arena) buffer.readerIndex length = .ok ()) :
    ∃ answer, (store.run (.onBuffer id command)).1 = .ok answer := by
  have readable : buffer.checkReadable (store.arena buffer.arena) length = .ok () :=
    Buffer.checkReadable_eq_ok.mpr enough
  cases command with
  | readScalar kind order =>
      cases reads
      have passes : (buffer.getScalar (store.arena buffer.arena) kind order
          buffer.readerIndex).map (fun _ => ()) = .ok () := Buffer.map_getScalar.trans reached
      obtain ⟨scalar, read⟩ := exists_of_map_eq_ok passes
      refine ⟨.scalar scalar, ?_⟩
      change (runOn (readScalar id kind order >>= _) store).1 = _
      simp only [readScalar, checkReadable, getScalar, runOn_bind, runOn_inspect live, readable,
        runOn_readerIndex live, read, mapError_ok]
      rfl
  | readBytes count =>
      cases reads
      obtain ⟨bytes, read⟩ := exists_of_map_eq_ok (Buffer.map_getBytes.trans reached)
      refine ⟨.bytes bytes, ?_⟩
      change (runOn (readBytes id length >>= _) store).1 = _
      simp only [readBytes, checkReadable, getBytes, runOn_bind, runOn_inspect live, readable,
        runOn_readerIndex live, read, mapError_ok]
      rfl
  | skipBytes count =>
      cases reads
      refine ⟨.done, ?_⟩
      change (runOn (skipBytes id length >>= _) store).1 = _
      simp only [skipBytes, checkReadable, runOn_bind, runOn_inspect live, readable,
        mapError_ok]
      rfl
  | toBytes =>
      cases reads
      obtain ⟨bytes, read⟩ := exists_of_map_eq_ok (Buffer.map_getBytes.trans reached)
      refine ⟨.bytes bytes, ?_⟩
      change (runOn (toBytes id >>= _) store).1 = _
      simp only [toBytes, Buffer.toBytes, runOn_bind, runOn_inspect live, read, mapError_ok]
      rfl
  | hexDump codec =>
      cases reads
      obtain ⟨bytes, read⟩ := exists_of_map_eq_ok (Buffer.map_getBytes.trans reached)
      refine ⟨.text (codec.encode bytes), ?_⟩
      change (runOn (hexDump id codec >>= _) store).1 = _
      simp only [hexDump, toBytes, Buffer.toBytes, runOn_bind, runOn_inspect live, read,
        mapError_ok]
      rfl
  | _ => cases reads

/-- In every reachable store the window of a buffer lies within the region of its arena. So an
indexed access through a checked buffer fails exactly beyond the capacity, and the check of the
storage never fails after it; and what is readable is read, also without checks. -/
theorem window_within_region (reachable : store.Reachable)
    (live : store.buffers.get? id = some buffer) :
    buffer.offset + buffer.capacity ≤ (store.arena buffer.arena).region.size ∧
    (buffer.bounds = .checked → buffer.checkAccessible (store.arena buffer.arena) = .ok () →
      ∀ command index length, BufferCommand.access? command = some (index, length) →
        ((∃ answer, (store.run (.onBuffer id command)).1 = .ok answer) ↔
          index + length ≤ buffer.capacity) ∧
        (buffer.capacity < index + length → (store.run (.onBuffer id command)).1 =
          .error (.memory (.outOfRange (.access index length buffer.capacity))))) ∧
    (buffer.bounds = .unchecked ∨ buffer.checkAccessible (store.arena buffer.arena) = .ok () →
      ∀ command length, BufferCommand.reads? buffer command = some length →
        length ≤ buffer.readableBytes →
          ∃ answer, (store.run (.onBuffer id command)).1 = .ok answer) := by
  have covers : store.Covers buffer := reachable.covered.covers live
  refine ⟨covers, fun checked accessible command index length accesses => ?_,
    fun allowed command length reads enough => ?_⟩
  · have decided := run_access live accesses
    by_cases within : index + length ≤ buffer.capacity
    · rw [Buffer.reach_eq_ok accessible within covers] at decided
      have answered := exists_of_map_eq_ok decided
      exact ⟨⟨fun _ => within, fun _ => answered⟩, fun beyond => by omega⟩
    · rw [Buffer.reach_eq_error checked accessible within] at decided
      have refused : (store.run (.onBuffer id command)).1 =
          .error (.memory (.outOfRange (.access index length buffer.capacity))) := by
        cases outcome : (store.run (.onBuffer id command)).1 with
        | ok answer =>
            rw [outcome] at decided
            cases decided
        | error failure =>
            rw [outcome] at decided
            cases decided
            rfl
      refine ⟨⟨?_, fun inside => absurd inside within⟩, fun _ => refused⟩
      rintro ⟨answer, answered⟩
      rw [refused] at answered
      cases answered
  · have accessible : buffer.checkAccessible (store.arena buffer.arena) = .ok () :=
      allowed.elim Buffer.checkAccessible_of_unchecked fun accessible => accessible
    obtain ⟨commands, rfl⟩ := reachable
    obtain ⟨reader, writer, _⟩ := ordered_of_live live
    have within : buffer.readerIndex + length ≤ buffer.capacity := by
      simp only [Buffer.readableBytes] at enough
      omega
    exact run_read live reads enough (Buffer.reach_eq_ok accessible within covers)

/-- Two bytes from the second byte of a window of two. -/
theorem window_within_region_of_slice :
    ∃ buffer, (initial.after [.allocate (.plain {}) { capacity := 4 },
        .onBuffer 0 (.sliceRange 1 2)]).buffers.get? 1 = some buffer ∧
      buffer.offset + buffer.capacity ≤ 4 ∧
      ((initial.after [.allocate (.plain {}) { capacity := 4 },
        .onBuffer 0 (.sliceRange 1 2)]).run (.onBuffer 1 (.getBytes 1 2))).1 =
          .error (.memory (.outOfRange (.access 1 2 2))) := by
  obtain ⟨buffer, live, checked, capacity, accessible, size⟩ : ∃ buffer,
      (initial.after [.allocate (.plain {}) { capacity := 4 },
        .onBuffer 0 (.sliceRange 1 2)]).buffers.get? 1 = some buffer ∧
      buffer.bounds = .checked ∧ buffer.capacity = 2 ∧
      buffer.checkAccessible ((initial.after [.allocate (.plain {}) { capacity := 4 },
        .onBuffer 0 (.sliceRange 1 2)]).arena buffer.arena) = .ok () ∧
      ((initial.after [.allocate (.plain {}) { capacity := 4 },
        .onBuffer 0 (.sliceRange 1 2)]).arena buffer.arena).region.size = 4 :=
    ⟨_, rfl, rfl, rfl, rfl, rfl⟩
  obtain ⟨within, indexed, _⟩ := window_within_region ⟨_, rfl⟩ live
  have refused := (indexed checked accessible (.getBytes 1 2) 1 2 rfl).2
  rw [capacity] at refused
  exact ⟨buffer, live, size ▸ within, refused (by decide)⟩

end Store

end Access

end CursorBuffers
