import CursorBuffers.Proofs.Admission
import CursorBuffers.Proofs.Waiting.Offers

namespace CursorBuffers

variable {store between after : Store} {handle : BufferId} {buffer : Buffer} {arena : ArenaId}
variable {data : Bytes} {chunks : List Bytes} {more length : Nat}

theorem Bytes.size_join_filter :
    (join (chunks.filter fun chunk => chunk.size != 0)).size = (join chunks).size := by
  induction chunks with
  | nil => rfl
  | cons chunk rest ih =>
      rw [join_cons, Array.size_append]
      by_cases empty : chunk.size = 0
      · rw [List.filter_cons_of_neg (by simp [empty]), ih, empty, Nat.zero_add]
      · rw [List.filter_cons_of_pos (by simp [empty]), join_cons, Array.size_append, ih]

theorem Buffer.checkAccessible_of_intact {arena : Arena} (intact : arena.freed = false) :
    buffer.checkAccessible arena = .ok () := by
  simp [checkAccessible, intact]

namespace Store

/-- A buffer that has as much room behind its writer, on an arena that nobody has freed. -/
structure Roomy (store : Store) (handle : BufferId) (buffer : Buffer) (length : Nat) : Prop where
  live : store.buffers.get? handle = some buffer
  intact : (store.arena buffer.arena).freed = false
  stored : (store.arenas.get? buffer.arena).isSome
  room : buffer.writerIndex + length ≤ buffer.capacity
  covered : buffer.offset + buffer.capacity ≤ (store.arena buffer.arena).region.size

/-- What a pool lends has room for what the request does not count as written. -/
theorem Handed.roomy {id : PoolId} {pool : Pool} {request : Allocation} {bytes : Bytes}
    (handed : store.Handed id pool request arena bytes after) (valid : request.validate = .ok ())
    (long : request.capacity ≤ bytes.size) :
    after.Roomy store.buffers.next (.leased request pool.config arena store.buffers.next id)
      (request.capacity - request.writerIndex) where
  live := handed.live
  intact := handed.intact
  stored := handed.stored
  room := Nat.le_of_eq (Nat.add_sub_cancel' (Allocation.validate_eq_ok.mp valid).2.2)
  covered := by
    change 0 + request.capacity ≤ (after.arena arena).region.bytes.size
    rwa [handed.bytes, Nat.zero_add]

/-- An arena that waits is there, and nobody has freed it. -/
theorem Reachable.handed_of_taken (reachable : store.Reachable) (id : PoolId) {pool : Pool}
    {request : Allocation} {idle : Idle} {rest : Registry} {region : Region}
    (taken : (store.registry pool.registry).poll request.maxCapacity = some (idle, rest))
    (reserved : (store.arena idle.arena).region.reserve request.capacity = .ok region) :
    store.Handed id pool request idle.arena ((store.arena idle.arena).region.bytes ++
        Bytes.zeros (request.capacity - (store.arena idle.arena).region.size))
      ((store.mapPool id (·.useKey request.maxCapacity)).lentIdle id pool request idle rest
        region) := by
  have waits : idle ∈ store.idle := mem_idle_of_mem_queue (Registry.mem_queue_of_poll taken)
  exact handed_lentIdle (reachable.covered.standing _ (reachable.wellHeld.idleKnown waits))
    (reachable.wellHeld.intact (.inr ⟨idle, waits, rfl⟩)) reserved

/-- Nothing happened to any queue, nor to any arena but one. -/
structure Beside (store : Store) (arena : ArenaId) (after : Store) : Prop where
  registries : after.registries = store.registries
  arenas : ∀ other, other ≠ arena → after.arena other = store.arena other

theorem Beside.trans (early : store.Beside arena between) (late : between.Beside arena after) :
    store.Beside arena after where
  registries := late.registries.trans early.registries
  arenas other distinct := (late.arenas other distinct).trans (early.arenas other distinct)

/-- The bytes of the arena of a buffer once data was put behind the writer. -/
def filledRegion (store : Store) (buffer : Buffer) (data : Bytes) : Region :=
  (store.arena buffer.arena).region.withBytes ((store.arena buffer.arena).region.bytes.splice
    (buffer.offset + buffer.writerIndex) data)

/-- The store in which data was put behind the writer of a buffer. -/
def filled (store : Store) (handle : BufferId) (buffer : Buffer) (data : Bytes) : Store :=
  (store.setRegion buffer.arena (store.filledRegion buffer data)).mapBuffer handle
    (·.advanceWriter data.size)

end Store

namespace Action

open Store

/-- Data is written where there is room for it. -/
theorem runOn_fill (roomy : store.Roomy handle buffer (data.size + more))
    (short : data.size ≤ Bytes.lengthLimit) :
    runOn (fill handle data) store = (.ok (), store.filled handle buffer data) := by
  obtain ⟨live, intact, stored, room, covered⟩ := roomy
  have checked : data.checkLength = .ok () := if_pos short
  have enough : ¬ buffer.writableBytes < data.size := by
    simp only [Buffer.writableBytes]
    omega
  have guarded : buffer.guard (store.arena buffer.arena) buffer.writerIndex data.size = .ok () :=
    Buffer.guard_eq_ok (Buffer.checkAccessible_of_intact intact) (by omega)
  have within : buffer.offset + buffer.writerIndex + data.size ≤
      (store.arena buffer.arena).region.size := by omega
  have put : buffer.setBytes (store.arena buffer.arena) buffer.writerIndex data =
      .ok (store.filledRegion buffer data) := by
    rw [Buffer.setBytes, guarded]
    exact Region.write_eq_ok within
  rw [fill, runOn_tryCatch, writeBytes, runOn_bind, runOn_check, checked]
  simp only [mapError_ok, runOn_bind, runOn_ensureWritable live, if_neg enough,
    runOn_writerIndex live, setBytes, runOn_overwrite live, put]
  rfl

/-- After that there is still the room that was not needed. -/
theorem fill_roomy (roomy : store.Roomy handle buffer (data.size + more))
    (short : data.size ≤ Bytes.lengthLimit) :
    ∃ filled after, runOn (fill handle data) store = (.ok (), after) ∧
      filled.arena = buffer.arena ∧ after.Roomy handle filled more ∧
      store.Beside buffer.arena after := by
  have done := runOn_fill roomy short
  obtain ⟨live, intact, stored, room, covered⟩ := roomy
  have within : buffer.offset + buffer.writerIndex + data.size ≤
      (store.arena buffer.arena).region.size := by omega
  have kept : ((store.filled handle buffer data).arena buffer.arena).region =
      store.filledRegion buffer data := region_setRegion_of_stored stored
  refine ⟨buffer.advanceWriter data.size, _, done, rfl, ⟨?_, ?_, ?_, ?_, ?_⟩, ⟨rfl, ?_⟩⟩
  · refine Store.get?_mapBuffer.trans ?_
    simp [live]
  · exact freed_setRegion.trans intact
  · exact stored_setRegion.trans stored
  · change buffer.writerIndex + data.size + more ≤ buffer.capacity
    omega
  · change buffer.offset + buffer.capacity ≤
      ((store.filled handle buffer data).arena buffer.arena).region.size
    rw [kept, filledRegion, Region.size_write (Region.write_eq_ok within)]
    exact covered
  · exact fun other distinct => arena_setRegion_of_ne distinct

theorem fillChunks_roomy (roomy : store.Roomy handle buffer (Bytes.join chunks).size)
    (short : (Bytes.join chunks).size ≤ Bytes.lengthLimit) :
    ∃ filled after, runOn (fillChunks handle chunks) store = (.ok (), after) ∧
      after.buffers.get? handle = some filled ∧ filled.arena = buffer.arena ∧
      store.Beside buffer.arena after := by
  induction chunks generalizing store buffer with
  | nil => exact ⟨buffer, store, rfl, roomy.live, rfl, rfl, fun _ _ => rfl⟩
  | cons chunk rest ih =>
      rw [Bytes.join_cons, Array.size_append] at roomy short
      obtain ⟨filled, between, done, same, left, early⟩ := fill_roomy roomy (by omega)
      obtain ⟨last, after, also, live, still, late⟩ := ih left (by omega)
      refine ⟨last, after, ?_, live, still.trans same, early.trans (same ▸ late)⟩
      rw [fillChunks, runOn_bind, done]
      exact also

end Action

namespace Store

/-- At most one buffer was made, on this arena: it is new, or it was the head of a queue. -/
structure Drawn (store : Store) (arena : ArenaId) (after : Store) : Prop where
  arenas : ∀ other, other < store.arenas.next → other ≠ arena →
    after.arena other = store.arena other
  queues : store.arenas.next ≤ arena ∧ store.SameQueues after ∨
    (∃ registry key head, head.arena = arena ∧ store.Sheds registry key head after) ∧
      ∃ handle buffer, after.buffers.get? handle = some buffer ∧ buffer.arena = arena

namespace Drawn

/-- Nothing was done at all. -/
theorem nothing : store.Drawn store.arenas.next store :=
  ⟨fun _ _ _ => rfl, .inl ⟨Nat.le_refl _, fun _ _ => rfl⟩⟩

/-- A new arena was made, and perhaps a buffer. -/
theorem new (region : Region) (arenas : after.arenas = (store.addArena region).arenas)
    (registries : after.registries = store.registries) :
    store.Drawn store.arenas.next after := by
  refine ⟨fun other known _ => ?_, .inl ⟨Nat.le_refl _, .of_registries registries⟩⟩
  have same : after.arena other = (store.addArena region).arena other := by
    rw [Store.arena, arenas, Store.arena]
  rw [same, arena_addArena, if_neg (Nat.ne_of_lt known)]

/-- What is done to the new buffer changes no other arena. -/
theorem beside (drawn : store.Drawn arena between) (beside : between.Beside arena after)
    (live : after.buffers.get? handle = some buffer) (here : buffer.arena = arena) :
    store.Drawn arena after := by
  have same : ∀ registry, after.registry registry = between.registry registry := fun registry => by
    rw [Store.registry, beside.registries, Store.registry]
  refine ⟨fun other known distinct => ?_, ?_⟩
  · rw [beside.arenas other distinct, drawn.arenas other known distinct]
  · rcases drawn.queues with ⟨beyond, queues⟩ | ⟨⟨registry, key, head, holds, sheds⟩, _⟩
    · exact .inl ⟨beyond, queues.trans (.of_registries beside.registries)⟩
    · refine .inr ⟨⟨registry, key, head, holds, ?_, ?_⟩, handle, buffer, live, here⟩
      · rw [same, sheds.queue]
      · exact fun other name distinct => by rw [same, sheds.others other name distinct]

end Drawn

/-- What comes of a request for a buffer: nothing, or a buffer with room on an arena of its own. -/
inductive Obtained (store : Store) (length : Nat) : Except Failure BufferId × Store → Prop
  | refused {failure : Failure} : Obtained store length (.error failure, store)
  | granted {handle : BufferId} {buffer : Buffer} {after : Store}
      (drawn : store.Drawn buffer.arena after) (roomy : after.Roomy handle buffer length) :
      Obtained store length (.ok handle, after)

end Store

namespace Action

open Store

variable {request : Allocation} {checking : Bool} {id : PoolId}

theorem obtained_allocatePlain {config : MemoryConfig} : store.Obtained
    (request.capacity - request.writerIndex) (runOn (allocatePlain config request) store) := by
  cases valid : request.validate with
  | error error =>
      rw [allocatePlain, runOn_bind, runOn_check, valid]
      exact .refused
  | ok _ =>
      obtain ⟨_, _, writer⟩ := Allocation.validate_eq_ok.mp valid
      rw [runOn_allocatePlain valid]
      refine .granted ?_ ⟨Table.get?_add_next, ?_, ?_, ?_, ?_⟩
      · exact .new ((Backend.select config).allocate request.capacity) rfl rfl
      · simp [Buffer.ofAllocation, arena_addArena]
      · simp [Buffer.ofAllocation, addBuffer, addArena]
      · exact Nat.le_of_eq (Nat.add_sub_cancel' writer)
      · simp [Buffer.ofAllocation, arena_addArena]

/-- A pool lends an arena that is long enough, or nothing happens. -/
theorem handed_allocatePooled (reachable : store.Reachable) (id : PoolId) (request : Allocation) :
    (∃ failure, runOn (allocate (.pooled id) request) store = (.error failure, store)) ∨
    ∃ pool arena bytes after,
      runOn (allocate (.pooled id) request) store = (.ok store.buffers.next, after) ∧
      request.validate = .ok () ∧ request.capacity ≤ Array.size bytes ∧
      store.Handed id pool request arena bytes after ∧ store.Drawn arena after := by
  have held : store.WellHeld := reachable.wellHeld
  cases served : store.pools.get? id with
  | none =>
      rw [allocate, allocatePooled, runOn_bind, runOn_pool_none served]
      exact .inl ⟨_, rfl⟩
  | some pool =>
      cases valid : pool.validate request with
      | error error => exact .inl ⟨_, runOn_allocate_of_declined served valid⟩
      | ok _ =>
          obtain ⟨after, done, lends⟩ := reachable.sound.owned.lends served valid
          have proper : request.validate = .ok () := (Pool.validate_eq_ok.mp valid).2.1
          refine .inr ⟨pool, ?_⟩
          cases lends with
          | new none =>
              refine ⟨_, _, _, done, proper, Nat.le_of_eq Bytes.size_zeros.symm, handed_lentNew, ?_⟩
              exact .new (pool.backend.allocate request.capacity) rfl rfl
          | @idle head rest region taken reserved =>
              have handed := reachable.handed_of_taken id taken reserved
              have sheds := sheds_lentIdle id region (held.registered id pool served) taken
              refine ⟨_, _, _, done, proper, ?_, handed,
                fun other _ distinct => arena_setRegion_of_ne distinct,
                .inr ⟨⟨pool.registry, request.maxCapacity, head, rfl, sheds⟩, _, _, handed.live,
                  rfl⟩⟩
              rw [Array.size_append, Bytes.size_zeros, Region.size]
              omega

theorem obtained_allocatePooled (reachable : store.Reachable) : store.Obtained
    (request.capacity - request.writerIndex) (runOn (allocate (.pooled id) request) store) := by
  rcases handed_allocatePooled reachable id request with
    ⟨failure, asked⟩ | ⟨pool, arena, bytes, after, asked, proper, long, handed, drawn⟩
  · rw [asked]
    exact .refused
  · rw [asked]
    exact .granted drawn (handed.roomy proper long)

theorem obtained_allocate {allocator : Allocator} (reachable : store.Reachable) :
    store.Obtained (request.capacity - request.writerIndex)
      (runOn (allocate allocator request) store) := by
  cases allocator with
  | plain config => exact obtained_allocatePlain
  | pooled id => exact obtained_allocatePooled reachable

theorem obtained_exact {allocator : Allocator} {length : Nat} (reachable : store.Reachable) :
    store.Obtained length (runOn (allocate allocator (.exact length checking)) store) := by
  have obtained : store.Obtained ((Allocation.exact length checking).capacity -
      (Allocation.exact length checking).writerIndex)
      (runOn (allocate allocator (.exact length checking)) store) := obtained_allocate reachable
  exact obtained

theorem drawn_wrapBytes {allocator : Allocator} (reachable : store.Reachable) :
    ∃ arena, store.Drawn arena (runOn (wrapBytes allocator data checking) store).2 := by
  rw [wrapBytes, runOn_bind, runOn_check]
  cases short : data.checkSize with
  | error error => exact ⟨_, .nothing⟩
  | ok _ =>
      simp only [mapError_ok, runOn_bind]
      have obtained : store.Obtained data.size
          (runOn (allocate allocator (.exact data.size checking)) store) :=
        obtained_exact reachable
      generalize runOn (allocate allocator (.exact data.size checking)) store = asked
        at obtained ⊢
      cases obtained with
      | refused => exact ⟨_, .nothing⟩
      | @granted handle buffer between drawn roomy =>
          have roomy : between.Roomy handle buffer (data.size + 0) := roomy
          obtain ⟨filled, after, done, here, left, beside⟩ :=
            fill_roomy roomy (Bytes.checkSize_eq_ok.mp short)
          simp only [done]
          exact ⟨buffer.arena, drawn.beside beside left.live here⟩

theorem drawn_wrapHex {codec : Hex.Codec} {allocator : Allocator} {text : String}
    (reachable : store.Reachable) :
    ∃ arena, store.Drawn arena (runOn (wrapHex codec allocator text checking) store).2 := by
  rw [wrapHex, runOn_bind, runOn_check]
  cases codec.read text with
  | error fault => exact ⟨_, .nothing⟩
  | ok bytes => exact drawn_wrapBytes reachable

theorem drawn_wrapChunks (reachable : store.Reachable) :
    ∃ arena, store.Drawn arena (runOn (wrapChunks chunks checking) store).2 := by
  rw [wrapChunks, runOn_bind, runOn_check]
  cases short : (Bytes.join chunks).checkSize with
  | error error => exact ⟨_, .nothing⟩
  | ok _ =>
      simp only [mapError_ok, runOn_bind]
      have obtained : store.Obtained (Bytes.join chunks).size
          (runOn (allocate .default (.exact (Bytes.join chunks).size checking)) store) :=
        obtained_exact reachable
      generalize runOn (allocate .default (.exact (Bytes.join chunks).size checking)) store = asked
        at obtained ⊢
      cases obtained with
      | refused => exact ⟨_, .nothing⟩
      | @granted handle buffer between drawn roomy =>
          have few : (Bytes.join chunks).size ≤ Bytes.lengthLimit := Bytes.checkSize_eq_ok.mp short
          rw [← Bytes.size_join_filter] at roomy few
          obtain ⟨filled, after, done, live, here, beside⟩ := fillChunks_roomy roomy few
          simp only [done]
          exact ⟨buffer.arena, drawn.beside beside live here⟩

end Action

/-- The commands that make a buffer which descends from no other. -/
def Command.Requests : Command → Prop
  | .allocate _ _ => True
  | .wrap _ _ => True
  | _ => False

/-- A request for a buffer takes at most the head of one queue. -/
theorem Store.Reachable.drawn_run {command : Command} (reachable : store.Reachable)
    (requests : command.Requests) : ∃ arena, store.Drawn arena (store.run command).2 := by
  unfold Store.run
  cases command with
  | allocate allocator request =>
      rw [Command.perform, Action.after_bind_pure]
      have obtained : store.Obtained (request.capacity - request.writerIndex)
          (Action.runOn (Action.allocate allocator request) store) :=
        Action.obtained_allocate reachable
      generalize Action.runOn (Action.allocate allocator request) store = asked at obtained ⊢
      cases obtained with
      | refused => exact ⟨_, .nothing⟩
      | granted drawn roomy => exact ⟨_, drawn⟩
  | wrap source checking =>
      rw [Command.perform, Action.after_bind_pure]
      cases source with
      | block content config =>
          refine ⟨_, .new (.native .host .external content) ?_ ?_⟩ <;>
            simp only [WrapCommand.perform, Action.wrapBlock, Action.runOn_bind,
              Action.runOn_newArena, Action.runOn_check] <;>
            cases content.checkBlock config <;> rfl
      | array content config =>
          simp only [WrapCommand.perform, Action.wrapArray, Action.runOn_bind, Action.runOn_check]
          cases content.checkSize with
          | error error => exact ⟨_, .nothing⟩
          | ok _ => exact ⟨_, .new (.managed content) rfl rfl⟩
      | bytes allocator content => exact Action.drawn_wrapBytes reachable
      | hex codec allocator text => exact Action.drawn_wrapHex reachable
      | chunks content => exact Action.drawn_wrapChunks reachable
  | _ => exact requests.elim

end CursorBuffers
