import CursorBuffers.Proofs.Exposure
import CursorBuffers.Proofs.PooledBytes

namespace CursorBuffers

namespace Store

/-- No region has another length and no buffer another capacity; cursors may have moved. -/
structure Steady (store after : Store) : Prop where
  sizes : ∀ arena, after.size arena = store.size arena
  buffers : ∀ {id buffer}, store.buffers.get? id = some buffer →
    ∃ later, after.buffers.get? id = some later ∧ buffer.Akin later ∧
      later.capacity = buffer.capacity

/-- A buffer ends where its arena ends. -/
def Reaches (store : Store) (id : BufferId) (buffer : Buffer) : Prop :=
  store.buffers.get? id = some buffer ∧ buffer.offset + buffer.capacity = store.size buffer.arena

variable {store between after : Store} {id : BufferId} {buffer : Buffer} {capacity : Nat}
variable {region : Region} {arena : ArenaId}

namespace Steady

theorem refl : store.Steady store := ⟨fun _ => rfl, fun live => ⟨_, live, .refl, rfl⟩⟩

theorem trans (first : store.Steady between) (second : between.Steady after) :
    store.Steady after where
  sizes arena := (second.sizes arena).trans (first.sizes arena)
  buffers live := by
    obtain ⟨middle, found, early, same⟩ := first.buffers live
    obtain ⟨later, stays, late, still⟩ := second.buffers found
    exact ⟨later, stays, early.trans late, still.trans same⟩

theorem mapBuffer {change : Buffer → Buffer}
    (moves : ∀ buffer : Buffer, buffer.Akin (change buffer) ∧
      (change buffer).capacity = buffer.capacity) :
    store.Steady (store.mapBuffer id change) where
  sizes _ := by rw [size, mapBuffer_frame.2.1, size]
  buffers {other buffer} live := by
    rw [get?_mapBuffer, live, Option.map_some]
    split
    · exact ⟨_, rfl, (moves buffer).1, (moves buffer).2⟩
    · exact ⟨_, rfl, .refl, rfl⟩

theorem setRegion (same : region.size = store.size arena) :
    store.Steady (store.setRegion arena region) where
  sizes other := by
    rcases store.region_setRegion_cases with kept | ⟨here, set⟩
    · rw [size, kept, size]
    · rw [size, set, same, here]
  buffers live := ⟨_, live, .refl, rfl⟩

/-- A buffer that reached to the end of its arena still does. -/
theorem reaches (steady : store.Steady after) (reaches : store.Reaches id buffer) :
    ∃ later, after.Reaches id later ∧ later.arena = buffer.arena := by
  obtain ⟨live, ends⟩ := reaches
  obtain ⟨later, stays, akin, same⟩ := steady.buffers live
  refine ⟨later, ⟨stays, ?_⟩, akin.arena⟩
  rw [akin.offset, same, ends, akin.arena, steady.sizes]

end Steady

end Store

namespace Action

variable {α β : Type} {id other : BufferId} {index otherIndex length : Nat} {data : Bytes}
variable {store : Store}

/-- An operation that changes neither the length of a region nor a capacity. -/
def Steady (action : Action α) : Prop := ∀ store : Store, store.Steady (runOn action store).2

theorem Observes.steady {action : Action α} (observes : action.Observes) : Steady action := by
  intro store
  rw [observes store]
  exact .refl

theorem steady_bind {action : Action α} {next : α → Action β} (first : Steady action)
    (rest : ∀ value, Steady (next value)) : Steady (action >>= next) := by
  intro store
  have early := first store
  rw [runOn_bind]
  rcases outcome : runOn action store with ⟨_ | value, between⟩
  · rwa [outcome] at early
  · rw [outcome] at early
    exact early.trans (rest value between)

theorem steady_advanceReader : Steady (advanceReader id length) :=
  fun _ => .mapBuffer fun _ => ⟨⟨rfl, rfl, rfl, rfl, rfl, rfl, rfl, rfl, rfl⟩, rfl⟩

theorem steady_advanceWriter : Steady (advanceWriter id length) :=
  fun _ => .mapBuffer fun _ => ⟨⟨rfl, rfl, rfl, rfl, rfl, rfl, rfl, rfl, rfl⟩, rfl⟩

theorem steady_setBytes : Steady (setBytes id index data) := by
  intro store
  rcases outcome : runOn (setBytes id index data) store with ⟨failure | ⟨⟩, after⟩
  · rw [atomic_setBytes _ _ _ outcome]
    exact .refl
  · obtain ⟨buffer, region, live, _, written, rfl⟩ := written_setBytes outcome
    exact .setRegion (Region.size_write written)

theorem steady_move : Steady (move id index other otherIndex length) := by
  intro store
  cases gives : store.buffers.get? id with
  | none =>
      rw [move, runOn_bind_buffer_none gives]
      exact .refl
  | some giver =>
      cases takes : store.buffers.get? other with
      | none =>
          rw [move, runOn_bind, runOn_buffer gives]
          dsimp only
          rw [runOn_bind_buffer_none takes]
          exact .refl
      | some taker =>
          rw [runOn_move gives takes]
          cases (store.arena giver.arena).region.read (giver.offset + index) length with
          | error error => exact .refl
          | ok bytes =>
              simp only [bind, Except.bind]
              cases written : (store.arena taker.arena).region.write (taker.offset + otherIndex)
                bytes with
              | error error => exact .refl
              | ok region => exact .setRegion (Region.size_write written)

theorem steady_getBytesAt : Steady (getBytesAt id index other otherIndex length) :=
  steady_bind observes_inspect.steady fun _ => steady_bind observes_inspect.steady fun _ =>
    steady_move

theorem steady_setBytesAt : Steady (setBytesAt id index other otherIndex length) :=
  steady_bind observes_inspect.steady fun _ => steady_bind observes_inspect.steady fun _ =>
    steady_move

theorem steady_setBytesFrom : Steady (setBytesFrom id index other length) :=
  steady_bind observes_inspect.steady fun _ => steady_bind observes_readerIndex.steady fun _ =>
    steady_bind steady_setBytesAt fun _ => steady_advanceReader

/-- Room is made, and what comes after that is steady. -/
def Rooms (store after : Store) : Prop :=
  ∃ id between, store.MadeRoom between id ∧ between.Steady after

theorem Steady.rooms {action : Action α} (steady : Steady action) :
    Rooms store (runOn action store).2 :=
  ⟨0, store, .refl, steady store⟩

theorem rooms_bind {action : Action α} {next : α → Action β} (observes : action.Observes)
    (rest : ∀ value, Rooms store (runOn (next value) store).2) :
    Rooms store (runOn (action >>= next) store).2 := by
  have kept := observes store
  rw [runOn_bind]
  rcases outcome : runOn action store with ⟨_ | value, between⟩
  · rw [outcome] at kept
    rw [kept]
    exact ⟨0, store, .refl, .refl⟩
  · rw [outcome] at kept
    obtain rfl : between = store := kept
    exact rest value

theorem rooms_bind_steady {action : Action α} {next : α → Action β}
    (rooms : Rooms store (runOn action store).2) (rest : ∀ value, Steady (next value)) :
    Rooms store (runOn (action >>= next) store).2 := by
  obtain ⟨named, grown, made, steady⟩ := rooms
  refine ⟨named, grown, made, steady.trans ?_⟩
  rw [runOn_bind]
  rcases runOn action store with ⟨_ | value, between⟩
  · exact .refl
  · exact rest value between

theorem rooms_ensureWritable {next : Action β} (steady : Steady next) :
    Rooms store (runOn (ensureWritable id length >>= fun _ => next) store).2 :=
  rooms_bind_steady ⟨id, _, ⟨length, rfl⟩, .refl⟩ fun _ => steady

theorem rooms_append : Rooms store (runOn (append id data) store).2 :=
  rooms_ensureWritable (steady_bind observes_writerIndex.steady fun _ =>
    steady_bind steady_setBytes fun _ => steady_advanceWriter)

theorem rooms_getBytesTo : Rooms store (runOn (getBytesTo id index other length) store).2 :=
  rooms_ensureWritable (steady_bind observes_writerIndex.steady fun _ =>
    steady_bind steady_getBytesAt fun _ => steady_advanceWriter)

theorem rooms_transfer {command : TransferCommand} :
    Rooms store (runOn (command.perform id other length) store).2 := by
  cases command with
  | getBytesTo index => exact rooms_getBytesTo
  | getBytesAt index otherIndex => exact steady_getBytesAt.rooms
  | setBytesFrom index => exact steady_setBytesFrom.rooms
  | setBytesAt index otherIndex => exact steady_setBytesAt.rooms
  | readBytesTo =>
      exact rooms_bind observes_inspect fun _ => rooms_bind observes_readerIndex fun _ =>
        rooms_bind_steady rooms_getBytesTo fun _ => steady_advanceReader
  | writeBytesFrom =>
      exact rooms_ensureWritable (steady_bind observes_writerIndex.steady fun _ =>
        steady_bind steady_setBytesFrom fun _ => steady_advanceWriter)

end Action

namespace Store

open CursorBuffers.Action

variable {store after : Store} {id named : BufferId} {buffer window : Buffer}
variable {capacity length : Nat} {region : Region} {command : Command}

/-- A write makes room, and leaves lengths and capacities alone after that. -/
theorem rooms_of_isWrite (writes : command.IsWrite) : Rooms store (store.run command).2 := by
  unfold run
  cases command with
  | onBuffer id request =>
      cases request with
      | setScalar order index value =>
          exact rooms_bind_steady ((setScalar_eq_setBytes ▸ steady_setBytes).rooms) fun _ _ => .refl
      | setBytes index data => exact rooms_bind_steady steady_setBytes.rooms fun _ _ => .refl
      | writeScalar order value =>
          exact rooms_bind_steady (writeScalar_eq_append ▸ rooms_append) fun _ _ => .refl
      | writeBytes data =>
          refine rooms_bind_steady ?_ fun _ _ => .refl
          rw [writeBytes_eq_append]
          exact rooms_bind observes_check fun _ => rooms_append
      | _ => exact writes.elim
  | transfer id other request length => exact rooms_bind_steady rooms_transfer fun _ _ => .refl
  | _ => exact writes.elim

/-- A region that is made fit for a capacity keeps its length, or the window ends where it ends. -/
theorem size_of_resized (resized : store.resized buffer capacity = .ok region) :
    region.size = store.size buffer.arena ∨ region.size = buffer.offset + capacity := by
  unfold Store.resized at resized
  simp only at resized
  split at resized
  · exact .inr (Region.size_resize resized)
  · rw [Region.size_reserve resized, size]
    omega

/-- The arena is as long as it was, or a buffer reaches to its end. -/
def Stretches (store after : Store) (arena : ArenaId) : Prop :=
  after.size arena = store.size arena ∨
    ∃ id buffer, after.Reaches id buffer ∧ buffer.arena = arena

theorem stretches_refitted {arena : ArenaId} (live : store.buffers.get? id = some buffer)
    (resized : store.resized buffer capacity = .ok region) :
    store.Stretches (store.refitted id buffer capacity region) arena := by
  unfold Stretches
  rw [size, arena_refitted]
  have outcome : ((store.setRegion buffer.arena region).arena arena).region =
      (store.arena arena).region ∨ arena = buffer.arena ∧
        ((store.setRegion buffer.arena region).arena arena).region = region :=
    store.region_setRegion_cases
  rcases outcome with kept | ⟨rfl, set⟩
  · exact .inl (by rw [kept, size])
  · rcases size_of_resized resized with same | reaches
    · exact .inl (by rw [set, same])
    · refine .inr ⟨id, buffer.withCapacity capacity, ⟨?_, ?_⟩, rfl⟩
      · rw [get?_refitted live, if_pos rfl]
      · change buffer.offset + capacity = _
        rw [size, arena_refitted, ← reaches]
        exact (congrArg Region.size set).symm

theorem MadeRoom.stretches {arena : ArenaId} (made : store.MadeRoom after id) :
    store.Stretches after arena := by
  obtain ⟨length, rfl⟩ := made
  cases live : store.buffers.get? id with
  | none =>
      rw [ensureWritable, runOn_bind_buffer_none live]
      exact .inl rfl
  | some buffer =>
      have made : RoomMade store id buffer length _ := roomMade live
      generalize runOn (ensureWritable id length) store = outcome at made ⊢
      cases made with
      | grown short larger needed allowed resized => exact stretches_refitted live resized
      | _ => exact .inl rfl

/-- What a command does to the length of an arena that a buffer is on. -/
theorem Reachable.stretches_run (reachable : store.Reachable)
    (live : store.buffers.get? named = some window) :
    store.Stretches (store.run command).2 window.arena := by
  rcases command.rests_or with rests | ends | writes | ⟨id, length, rfl⟩ | ⟨id, capacity, rfl⟩
  · exact .inl (by rw [size, reachable.arena_run rests live, size])
  · have ended : store.EndsIn (store.run command).2 window.arena := endsIn_run ends
    rcases ended with kept | freed
    · exact .inl (by rw [size, kept, size])
    · exact .inl (by rw [size, freed, size])
  · have rooms : Rooms store (store.run command).2 := rooms_of_isWrite writes
    obtain ⟨id, between, made, steady⟩ := rooms
    have room : store.Stretches between window.arena := made.stretches
    rcases room with same | ⟨other, taker, reaches, here⟩
    · exact .inl ((steady.sizes _).trans same)
    · obtain ⟨later, stays, arena⟩ := steady.reaches reaches
      exact .inr ⟨other, later, stays, arena.trans here⟩
  · rw [after_ensureWritable]
    exact MadeRoom.stretches ⟨length, rfl⟩
  · rcases after_setCapacity store with kept | ⟨buffer, region, was, resized, done⟩
    · exact .inl (by rw [kept])
    · rw [done]
      exact stretches_refitted was resized

end Store

end CursorBuffers
