import CursorBuffers.Proofs.Slices

namespace CursorBuffers

namespace Store

/-- A buffer shows the bytes before an index as it showed them, and answers reads of them alike. -/
structure StillShows (store after : Store) (id : BufferId) (buffer later : Buffer) (length : Nat) :
    Prop where
  bytes : ∀ index < length,
    (after.arena later.arena).region.bytes[later.offset + index]? =
      (store.arena buffer.arena).region.bytes[buffer.offset + index]?
  reads : ∀ index count, index + count ≤ length →
    (after.run (.onBuffer id (.getBytes index count))).1 =
      (store.run (.onBuffer id (.getBytes index count))).1

/-- A buffer has taken another capacity, which its region covers: its cursors are cut to it, it
shows what lies within both capacities, and all other buffers are what they were and show what they
showed. -/
structure Refits (store after : Store) (id : BufferId) (buffer later : Buffer) (capacity : Nat) :
    Prop where
  stays : after.buffers.get? id = some later
  akin : buffer.Akin later
  taken : later.capacity = capacity
  covered : later.offset + capacity ≤ (after.arena later.arena).region.size
  writer : later.writerIndex = min buffer.writerIndex capacity
  reader : later.readerIndex = min buffer.readerIndex capacity
  shows : store.StillShows after id buffer later (min buffer.capacity capacity)
  others : ∀ other window, other ≠ id → store.buffers.get? other = some window →
    after.buffers.get? other = some window ∧
      store.StillShows after other window window window.capacity

variable {store after : Store} {id other : BufferId} {buffer window later : Buffer}
variable {capacity length : Nat} {region : Region}

section Refitting

theorem run_setCapacity (live : store.buffers.get? id = some buffer)
    (allowed : capacity ≤ buffer.maxCapacity)
    (accessible : buffer.checkAccessible (store.arena buffer.arena) = .ok ())
    (resized : store.resized buffer capacity = .ok region) :
    store.run (.onBuffer id (.setCapacity capacity)) =
      (.ok .done, store.refitted id buffer capacity region) := by
  change Action.runOn (Action.setCapacity id capacity >>= fun _ => pure Answer.done) store = _
  rw [Action.runOn_bind, Action.runOn_setCapacity live, Buffer.checkNewCapacity_eq_ok.mpr allowed,
    accessible]
  simp only [bind, Except.bind, resized]
  rfl

theorem run_setCapacity_of_beyond (live : store.buffers.get? id = some buffer)
    (beyond : buffer.maxCapacity < capacity) :
    store.run (.onBuffer id (.setCapacity capacity)) =
      (.error (.memory (.illegalArgument (.newCapacity capacity buffer.maxCapacity))), store) := by
  change Action.runOn (Action.setCapacity id capacity >>= fun _ => pure Answer.done) store = _
  rw [Action.runOn_bind, Action.runOn_setCapacity live, Buffer.checkNewCapacity,
    if_neg (Nat.not_le.mpr beyond)]
  rfl

/-- What made a region fit for a capacity has not moved it to other storage. -/
theorem backend_refitted (resized : store.resized buffer capacity = .ok region) {arena : ArenaId} :
    ((store.refitted id buffer capacity region).arena arena).region.backend =
      (store.arena arena).region.backend := by
  rw [arena_refitted]
  rcases store.region_setRegion_cases with kept | ⟨here, set⟩
  · rw [kept]
  · obtain ⟨length, rfl, _⟩ := fit_of_resized resized
    rw [set, here, Region.backend_withBytes]

theorem Covered.stillShows (covered : store.Covered)
    (still : (store.refitted id buffer capacity region).Covered)
    (live : store.buffers.get? id = some buffer)
    (resized : store.resized buffer capacity = .ok region)
    (also : store.buffers.get? other = some window)
    (stays : (store.refitted id buffer capacity region).buffers.get? other = some later)
    (akin : window.Akin later) (within : length ≤ window.capacity)
    (stillWithin : length ≤ later.capacity) (left : other = id → length ≤ capacity) :
    store.StillShows (store.refitted id buffer capacity region) other window later length := by
  have same : ∀ position, position < window.offset + length →
      ((store.refitted id buffer capacity region).arena window.arena).region.bytes[position]? =
        (store.arena window.arena).region.bytes[position]? := by
    intro position inside
    refine covered.byte_fitted live resized also (by omega) fun own => ?_
    have cut := left own
    omega
  refine ⟨fun index below => ?_, fun index count below => ?_⟩
  · rw [akin.arena, akin.offset]
    exact same _ (Nat.add_lt_add_left below _)
  · have covers : window.offset + window.capacity ≤ _ := covered.covers also
    have laterCovers : later.offset + later.capacity ≤ _ := still.covers stays
    rw [akin.arena] at laterCovers
    rw [run_getBytes stays, run_getBytes also, akin.arena]
    congr 2
    refine Buffer.getBytes_congr akin.bounds akin.config ?_ (backend_refitted resized)
      (by rw [akin.offset]) (Nat.le_trans below within) (Nat.le_trans below stillWithin) covers
      laterCovers fun position _ stop => same position (by omega)
    rw [arena_refitted, freed_setRegion]

/-- Whoever may access owned storage takes any capacity up to the maximum. -/
theorem Reachable.refits (reachable : store.Reachable)
    (live : store.buffers.get? id = some buffer)
    (accessible : buffer.checkAccessible (store.arena buffer.arena) = .ok ())
    (owned : (store.arena buffer.arena).region.IsOwned)
    (allowed : capacity ≤ buffer.maxCapacity) :
    ∃ after, store.run (.onBuffer id (.setCapacity capacity)) = (.ok .done, after) ∧
      store.Refits after id buffer (buffer.withCapacity capacity) capacity := by
  obtain ⟨region, resized⟩ := resized_eq_ok owned
  have ran := run_setCapacity live allowed accessible resized
  have still : (store.refitted id buffer capacity region).Covered := by
    have reached : (store.run (.onBuffer id (.setCapacity capacity))).2.Covered :=
      reachable.run.covered
    rwa [ran] at reached
  have stays : (store.refitted id buffer capacity region).buffers.get? id =
      some (buffer.withCapacity capacity) := by
    rw [get?_refitted live, if_pos rfl]
  have covers : (store.refitted id buffer capacity region).Covers (buffer.withCapacity capacity) :=
    still.covers stays
  obtain ⟨reader, _, _⟩ := reachable.ordered live
  refine ⟨_, ran, stays, Buffer.akin_withCapacity, rfl, covers, rfl, ?_, ?_,
    fun other window distinct also => ?_⟩
  · simp only [Buffer.withCapacity]
    omega
  · exact reachable.covered.stillShows still live resized live stays Buffer.akin_withCapacity
      (Nat.min_le_left _ _) (Nat.min_le_right _ _) fun _ => Nat.min_le_right _ _
  · have kept : (store.refitted id buffer capacity region).buffers.get? other = some window := by
      rw [get?_refitted live, if_neg distinct, also]
    exact ⟨kept, reachable.covered.stillShows still live resized also kept .refl (Nat.le_refl _)
      (Nat.le_refl _) fun own => absurd own distinct⟩

end Refitting

section Room

theorem run_ensureWritable : store.run (.onBuffer id (.ensureWritable length)) =
    Action.runOn (Action.ensureWritable id length >>= fun _ => pure Answer.done) store := rfl

theorem run_ensureWritable_of_ample (live : store.buffers.get? id = some buffer)
    (enough : length ≤ buffer.writableBytes) :
    store.run (.onBuffer id (.ensureWritable length)) = (.ok .done, store) := by
  rw [run_ensureWritable, Action.runOn_bind, Action.runOn_ensureWritable live,
    if_neg (Nat.not_lt.mpr enough)]
  rfl

/-- Room beyond the maximum is refused, whoever asks. -/
theorem run_ensureWritable_of_beyond (live : store.buffers.get? id = some buffer)
    (short : buffer.writableBytes < length) (beyond : buffer.maxWritableBytes < length) :
    store.run (.onBuffer id (.ensureWritable length)) =
      (.error (.memory (.capacityExceeded (buffer.writerIndex + length) buffer.maxCapacity)),
        store) := by
  rw [run_ensureWritable, Action.runOn_bind, Action.runOn_ensureWritable live, if_pos short,
    Buffer.grownCapacity, if_pos beyond]

/-- Room that is not there yet is made by a change of capacity. -/
theorem run_ensureWritable_of_short (live : store.buffers.get? id = some buffer)
    (short : buffer.writableBytes < length) (possible : length ≤ buffer.maxWritableBytes)
    (grown : Growth.capacityFor (buffer.writerIndex + length) buffer.maxCapacity = .ok capacity) :
    store.run (.onBuffer id (.ensureWritable length)) =
      store.run (.onBuffer id (.setCapacity capacity)) := by
  change _ = Action.runOn (Action.setCapacity id capacity >>= fun _ => pure Answer.done) store
  rw [run_ensureWritable, Action.runOn_bind, Action.runOn_bind, Action.runOn_ensureWritable live,
    if_pos short, Buffer.grownCapacity, if_neg (Nat.not_lt.mpr possible), grown]

end Room

/-- A buffer that may access owned storage takes any capacity up to its maximum and none beyond. It
keeps what lies within both capacities, and nobody else notices. Making room does nothing where
there is room, is refused beyond the maximum, and else is the change to the capacity that growth
comes to, which moves no cursor. -/
theorem content_kept_by_capacity {commands : List Command}
    (live : (initial.after commands).buffers.get? id = some buffer) :
    let store := initial.after commands
    let usable := buffer.checkAccessible (store.arena buffer.arena) = .ok () ∧
      (store.arena buffer.arena).region.IsOwned
    (∀ capacity, buffer.maxCapacity < capacity →
      store.run (.onBuffer id (.setCapacity capacity)) =
        (.error (.memory (.illegalArgument (.newCapacity capacity buffer.maxCapacity))), store)) ∧
    (usable → ∀ capacity ≤ buffer.maxCapacity, ∃ after later,
      store.run (.onBuffer id (.setCapacity capacity)) = (.ok .done, after) ∧
        store.Refits after id buffer later capacity) ∧
    (∀ length ≤ buffer.writableBytes,
      store.run (.onBuffer id (.ensureWritable length)) = (.ok .done, store)) ∧
    (∀ length, buffer.maxWritableBytes < length →
      store.run (.onBuffer id (.ensureWritable length)) =
        (.error (.memory (.capacityExceeded (buffer.writerIndex + length) buffer.maxCapacity)),
          store)) ∧
    ∀ length, buffer.writableBytes < length → length ≤ buffer.maxWritableBytes →
      ∃ capacity,
        Growth.capacityFor (buffer.writerIndex + length) buffer.maxCapacity = .ok capacity ∧
        store.run (.onBuffer id (.ensureWritable length)) =
          store.run (.onBuffer id (.setCapacity capacity)) ∧
        (usable → ∃ after later,
          store.run (.onBuffer id (.ensureWritable length)) = (.ok .done, after) ∧
            store.Refits after id buffer later capacity ∧
            later.readerIndex = buffer.readerIndex ∧ later.writerIndex = buffer.writerIndex ∧
            length ≤ later.writableBytes) := by
  have reachable : (initial.after commands).Reachable := ⟨commands, rfl⟩
  obtain ⟨reader, writer, within⟩ := reachable.ordered live
  refine ⟨fun capacity beyond => run_setCapacity_of_beyond live beyond,
    fun ⟨accessible, owned⟩ capacity allowed => ?_,
    fun length enough => run_ensureWritable_of_ample live enough, fun length beyond => ?_,
    fun length short possible => ?_⟩
  · obtain ⟨after, ran, refits⟩ := reachable.refits live accessible owned allowed
    exact ⟨after, _, ran, refits⟩
  · refine run_ensureWritable_of_beyond live ?_ beyond
    simp only [Buffer.writableBytes, Buffer.maxWritableBytes] at beyond ⊢
    omega
  · have needed : buffer.writerIndex + length ≤ buffer.maxCapacity := by
      simp only [Buffer.maxWritableBytes] at possible
      omega
    obtain ⟨capacity, grown⟩ := Growth.exists_capacityFor needed
    have ran := run_ensureWritable_of_short live short possible grown
    refine ⟨capacity, grown, ran, fun ⟨accessible, owned⟩ => ?_⟩
    have covers := Growth.le_of_capacityFor grown
    obtain ⟨after, set, refits⟩ :=
      reachable.refits live accessible owned (Growth.le_maximum_of_capacityFor grown)
    refine ⟨after, _, ran.trans set, refits, ?_, ?_, ?_⟩
    · rw [refits.reader]
      omega
    · rw [refits.writer]
      omega
    · rw [Buffer.writableBytes, refits.writer, refits.taken]
      omega

/-- A buffer of eight bytes that a duplicate shares. -/
def duplicatedWhole : List Command :=
  [.allocate (.plain {}) { capacity := 8, maxCapacity := 64 },
    .onBuffer 0 (.writeBytes #[1, 2, 3, 4, 5, 6, 7, 8]), .onBuffer 0 .duplicate]

/-- The buffer is cut to four bytes, and its duplicate goes on showing eight. -/
theorem content_kept_by_capacity_of_duplicate :
    ∃ after later,
      (initial.after duplicatedWhole).run (.onBuffer 0 (.setCapacity 4)) = (.ok .done, after) ∧
      after.buffers.get? 0 = some later ∧ later.writerIndex = 4 ∧
      (after.run (.onBuffer 1 (.getBytes 0 8))).1 = .ok (.bytes #[1, 2, 3, 4, 5, 6, 7, 8]) := by
  obtain ⟨buffer, window, live, also, maximum, written, whole, accessible, owned⟩ :
      ∃ buffer window, (initial.after duplicatedWhole).buffers.get? (0 : BufferId) = some buffer ∧
        (initial.after duplicatedWhole).buffers.get? (1 : BufferId) = some window ∧
        buffer.maxCapacity = 64 ∧ buffer.writerIndex = 8 ∧ window.capacity = 8 ∧
        buffer.checkAccessible ((initial.after duplicatedWhole).arena buffer.arena) = .ok () ∧
        ((initial.after duplicatedWhole).arena buffer.arena).region.IsOwned :=
    ⟨_, _, rfl, rfl, rfl, rfl, rfl, rfl, trivial⟩
  obtain ⟨after, later, ran, refits⟩ :=
    (content_kept_by_capacity live).2.1 ⟨accessible, owned⟩ 4 (by omega)
  obtain ⟨_, shown⟩ := refits.others 1 window (by decide) also
  refine ⟨after, later, ran, refits.stays, ?_, ?_⟩
  · rw [refits.writer, written]
    rfl
  · exact (shown.reads 0 8 (by omega)).trans (by decide +kernel)

end Store

end CursorBuffers
