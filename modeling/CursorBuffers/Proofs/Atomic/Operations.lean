import CursorBuffers.Proofs.Views.Writing

namespace CursorBuffers

variable {store after between : Store} {id : BufferId} {buffer : Buffer} {index length : Nat}
variable {capacity : Nat} {data : Bytes} {failure : Failure} {request : BufferCommand}

namespace Action

variable {α : Type}

theorem Observes.atomic {action : Action α} (observes : action.Observes) : action.Atomic := by
  intro store failure after failed
  have kept := observes store
  rwa [failed] at kept

theorem atomic_revise {rule : Buffer → Except MemoryError Buffer} : (revise id rule).Atomic :=
  .bind observes_buffer fun _ => .bind observes_check fun _ => atomic_modify

theorem atomic_newBuffer {make : BufferId → Buffer} : (newBuffer make).Atomic :=
  fun store failure after failed => by
    rw [runOn_newBuffer] at failed
    cases failed

theorem atomic_setCapacity : (setCapacity id capacity).Atomic := by
  intro store failure after failed
  cases live : store.buffers.get? id with
  | none =>
      rw [setCapacity, runOn_bind_buffer_none live] at failed
      cases failed
      rfl
  | some buffer =>
      rw [runOn_setCapacity live] at failed
      split at failed <;> cases failed
      rfl

theorem atomic_ensureWritable : (ensureWritable id length).Atomic := by
  intro store failure after failed
  cases live : store.buffers.get? id with
  | none =>
      rw [ensureWritable, runOn_bind_buffer_none live] at failed
      cases failed
      rfl
  | some buffer =>
      have made : RoomMade store id buffer length (.error failure, after) := failed ▸ roomMade live
      cases made with
      | refused short reason => rfl

theorem atomic_copyRange : (copyRange id index length).Atomic := by
  refine .bind observes_buffer fun source => .bind (fun _ => rfl) fun found => ?_
  refine .bind observes_check fun bytes => .bind observes_check fun region => ?_
  intro store failure after failed
  rw [runOn_bind, runOn_newArena] at failed
  simp only [runOn_newBuffer] at failed
  cases failed

theorem atomic_sliceRange : (sliceRange id index length).Atomic :=
  .bind observes_inspect fun _ => .bind observes_inspect fun _ => .bind observes_buffer fun _ =>
    atomic_newBuffer

theorem atomic_duplicate : (duplicate id).Atomic :=
  .bind observes_inspect fun _ => .bind observes_buffer fun _ => atomic_newBuffer

theorem fails_bind_pure {β : Type} {action : Action α} {value : α → β} :
    (∃ failure, (runOn (action >>= fun result => pure (value result)) store).1 = .error failure) ↔
      ∃ failure, (runOn action store).1 = .error failure := by
  rw [runOn_bind]
  rcases runOn action store with ⟨stopped | result, after⟩
  · exact iff_of_true ⟨stopped, rfl⟩ ⟨stopped, rfl⟩
  · constructor <;> rintro ⟨failure, failed⟩ <;> cases failed

/-- A read looks twice and then moves the reader. -/
theorem atomic_consume {look : Nat → Action α} (looks : ∀ index, (look index).Observes) :
    (do
      checkReadable id length
      let value ← look (← readerIndex id)
      advanceReader id length
      return value : Action α).Atomic := by
  refine .bind observes_inspect fun _ => .bind observes_readerIndex fun index => ?_
  refine .bind (looks index) fun value store failure after failed => ?_
  cases failed

/-- A growth is refused to whoever may not access the arena. -/
theorem accessible_of_room (live : store.buffers.get? id = some buffer)
    (short : buffer.writableBytes < length)
    (made : runOn (ensureWritable id length) store = (.ok (), after)) :
    buffer.checkAccessible (store.arena buffer.arena) = .ok () := by
  rw [runOn_ensureWritable live, if_pos short] at made
  cases chosen : buffer.grownCapacity length with
  | error error =>
      rw [chosen] at made
      cases made
  | ok capacity =>
      rw [chosen] at made
      simp only [runOn_setCapacity live] at made
      cases accessible : buffer.checkAccessible (store.arena buffer.arena) with
      | ok _ => rfl
      | error error =>
          cases allowed : buffer.checkNewCapacity capacity <;>
            simp only [allowed, accessible, bind, Except.bind] at made <;> cases made

end Action

/-- How many bytes an operation appends. -/
def BufferCommand.appends? : BufferCommand → Option Nat
  | .writeScalar _ value => some value.kind.width.bytes
  | .writeBytes data => some data.size
  | _ => none

namespace Store

open CursorBuffers.Action

theorem Covered.done_setBytes (covered : store.Covered)
    (live : store.buffers.get? id = some buffer)
    (accessible : buffer.checkAccessible (store.arena buffer.arena) = .ok ())
    (within : index + data.size ≤ buffer.capacity) :
    ∃ region, runOn (setBytes id index data) store =
      (.ok (), store.setRegion buffer.arena region) := by
  have reached : buffer.reach (store.arena buffer.arena) index data.size = .ok () :=
    Buffer.reach_eq_ok accessible within (covered.covers live)
  obtain ⟨region, put⟩ := exists_of_map_eq_ok (Buffer.map_setBytes.trans reached)
  exact ⟨region, by rw [setBytes, runOn_overwrite live, put]⟩

/-- Where room was made for some bytes they are written, if the arena may be accessed. -/
theorem Reachable.done_append (reachable : store.Reachable)
    (live : store.buffers.get? id = some buffer)
    (accessible : buffer.checkAccessible (store.arena buffer.arena) = .ok ())
    (made : runOn (ensureWritable id data.size) store = (.ok (), between)) :
    ∃ after, runOn (append id data) store = (.ok (), after) := by
  have reached : between.Reachable := by
    have ran : (store.run (.onBuffer id (.ensureWritable data.size))).2 = between := by
      rw [after_ensureWritable, made]
    exact ran ▸ reachable.run
  have room : store.Roomed (runOn (ensureWritable id data.size) store).2 id := reachable.roomed
  rw [made] at room
  obtain ⟨taker, takes, enough⟩ := writable_of_ensureWritable made
  obtain ⟨earlier, was, akin, _⟩ := room.earlier takes
  cases live.symm.trans was
  have allowed : taker.checkAccessible (between.arena taker.arena) = .ok () := by
    rw [Buffer.checkAccessible_eq_ok] at accessible ⊢
    rwa [akin.bounds, akin.config, akin.arena, room.freed]
  have within : taker.writerIndex + data.size ≤ taker.capacity := by
    have writer := (reached.ordered takes).writer
    simp only [Buffer.writableBytes] at enough
    omega
  obtain ⟨region, done⟩ := reached.covered.done_setBytes takes allowed within
  simp only [append, runOn_bind, made, runOn_writerIndex takes, done]
  exact ⟨_, rfl⟩

theorem Reachable.accessible_of_append (reachable : store.Reachable)
    (live : store.buffers.get? id = some buffer)
    (done : runOn (append id data) store = (.ok (), after)) :
    buffer.checkAccessible (store.arena buffer.arena) = .ok () := by
  obtain ⟨_, between, taker, region, _, _, written⟩ := reachable.written_append done
  obtain ⟨earlier, was, akin, _⟩ := written.room.earlier written.takes
  cases live.symm.trans was
  have allowed := Buffer.checkAccessible_of_guard written.guarded
  rw [Buffer.checkAccessible_eq_ok] at allowed ⊢
  rwa [akin.bounds, akin.config, akin.arena, written.room.freed] at allowed

/-- An append fails only for want of room or of access. -/
theorem Reachable.append_fails_iff (reachable : store.Reachable)
    (live : store.buffers.get? id = some buffer) :
    (∃ failure, (runOn (append id data) store).1 = .error failure) ↔
      (∃ failure, (runOn (ensureWritable id data.size) store).1 = .error failure) ∨
        buffer.checkAccessible (store.arena buffer.arena) ≠ .ok () := by
  rcases made : runOn (ensureWritable id data.size) store with ⟨refusal | ⟨⟩, between⟩
  · refine ⟨fun _ => .inl ⟨refusal, rfl⟩, fun _ => ⟨refusal, ?_⟩⟩
    rw [append, runOn_bind, made]
  · constructor
    · rintro ⟨failure, failed⟩
      refine .inr fun accessible => ?_
      obtain ⟨after, done⟩ := reachable.done_append live accessible made
      rw [done] at failed
      cases failed
    · rintro (⟨failure, refused⟩ | barred)
      · cases refused
      · rcases outcome : runOn (append id data) store with ⟨failure | ⟨⟩, after⟩
        · exact ⟨failure, rfl⟩
        · exact absurd (reachable.accessible_of_append live outcome) barred

theorem Reachable.kept_of_append_failed (reachable : store.Reachable)
    (failed : runOn (append id data) store = (.error failure, after)) : after = store := by
  rcases made : runOn (ensureWritable id data.size) store with ⟨refusal | ⟨⟩, between⟩
  · rw [append, runOn_bind, made] at failed
    cases failed
    exact atomic_ensureWritable _ _ _ made
  · obtain ⟨buffer, _, live, _⟩ := runOn_ensureWritable_eq_ok made
    have room : RoomMade store id buffer data.size (.ok (), between) := made ▸ roomMade live
    cases room with
    | ample enough =>
        rw [append, runOn_bind, made] at failed
        refine Atomic.bind observes_writerIndex (fun _ => ?_) _ _ _ failed
        exact .bind_modify atomic_setBytes
    | grown short larger needed allowed resized =>
        -- Who made the buffer grow has access, and so the bytes were written.
        have accessible := accessible_of_room live short made
        obtain ⟨_, done⟩ := reachable.done_append live accessible made
        rw [done] at failed
        cases failed

/-- An operation on one buffer that fails has changed nothing at all. -/
theorem Reachable.kept_of_failed (reachable : store.Reachable)
    (failed : (store.run (.onBuffer id request)).1 = .error failure) :
    (store.run (.onBuffer id request)).2 = store := by
  have ran : store.run (.onBuffer id request) =
      (.error failure, (store.run (.onBuffer id request)).2) := Prod.ext failed rfl
  generalize (store.run (.onBuffer id request)).2 = after at ran ⊢
  cases request with
  | getScalar kind order index => exact observes_inspect.atomic _ _ _ (failed_of_bind_pure ran)
  | setScalar order index value =>
      have stopped := failed_of_bind_pure ran
      rw [setScalar_eq_setBytes] at stopped
      exact atomic_setBytes _ _ _ stopped
  | readScalar kind order =>
      exact atomic_consume (fun _ => observes_inspect) _ _ _ (failed_of_bind_pure ran)
  | writeScalar order value =>
      have stopped := failed_of_bind_pure ran
      rw [writeScalar_eq_append] at stopped
      exact reachable.kept_of_append_failed stopped
  | getBytes index length => exact observes_inspect.atomic _ _ _ (failed_of_bind_pure ran)
  | setBytes index data => exact atomic_setBytes _ _ _ (failed_of_bind_pure ran)
  | readBytes length =>
      exact atomic_consume (fun _ => observes_inspect) _ _ _ (failed_of_bind_pure ran)
  | writeBytes data =>
      have stopped := failed_of_bind_pure ran
      rw [writeBytes_eq_append, runOn_bind, runOn_check] at stopped
      cases checked : data.checkLength with
      | error error =>
          rw [checked] at stopped
          exact (Prod.ext_iff.mp stopped).2.symm
      | ok _ =>
          rw [checked] at stopped
          exact reachable.kept_of_append_failed stopped
  | skipBytes length =>
      exact Atomic.bind observes_inspect (fun _ => atomic_modify) _ _ _ (failed_of_bind_pure ran)
  | toBytes => exact observes_inspect.atomic _ _ _ (failed_of_bind_pure ran)
  | hexDump =>
      exact observes_inspect.atomic _ _ _ (failed_of_bind_pure (failed_of_bind_pure ran))
  | ensureWritable length => exact atomic_ensureWritable _ _ _ (failed_of_bind_pure ran)
  | setCapacity capacity => exact atomic_setCapacity _ _ _ (failed_of_bind_pure ran)
  | copy =>
      exact Atomic.bind observes_buffer (fun _ => atomic_copyRange) _ _ _ (failed_of_bind_pure ran)
  | copyRange index length => exact atomic_copyRange _ _ _ (failed_of_bind_pure ran)
  | slice =>
      exact Atomic.bind observes_buffer (fun _ => atomic_sliceRange) _ _ _ (failed_of_bind_pure ran)
  | sliceRange index length => exact atomic_sliceRange _ _ _ (failed_of_bind_pure ran)
  | duplicate => exact atomic_duplicate _ _ _ (failed_of_bind_pure ran)
  | _ => exact atomic_revise _ _ _ (failed_of_bind_pure ran)

/-- Whatever the operation on one buffer and the store, if it fails then nothing has changed. An
append never fails once it has let the buffer grow: it fails exactly if no index reaches so far, if
no room can be made, or if the arena may not be accessed. -/
theorem failed_without_trace (commands : List Command) (id : BufferId) (request : BufferCommand) :
    let store := initial.after commands
    (∀ failure, (store.run (.onBuffer id request)).1 = .error failure →
      (store.run (.onBuffer id request)).2 = store) ∧
    ∀ buffer length, store.buffers.get? id = some buffer → request.appends? = some length →
      ((∃ failure, (store.run (.onBuffer id request)).1 = .error failure) ↔
        Bytes.lengthLimit < length ∨
          (∃ failure, (store.run (.onBuffer id (.ensureWritable length))).1 = .error failure) ∨
          buffer.checkAccessible (store.arena buffer.arena) ≠ .ok ()) := by
  have reachable : (initial.after commands).Reachable := ⟨commands, rfl⟩
  refine ⟨fun failure failed => reachable.kept_of_failed failed,
    fun buffer length live appends => ?_⟩
  have roomless : (∃ failure, ((initial.after commands).run
      (.onBuffer id (.ensureWritable length))).1 = .error failure) ↔
      ∃ failure, (runOn (ensureWritable id length) (initial.after commands)).1 = .error failure :=
    fails_bind_pure
  rw [roomless]
  cases request with
  | writeScalar order value =>
      cases appends
      have short : ¬ Bytes.lengthLimit < value.kind.width.bytes := by
        cases value.kind.width <;> decide
      have size : (order.encode value.toWord).size = value.kind.width.bytes := ByteOrder.size_encode
      rw [or_iff_right short, ← size, ← reachable.append_fails_iff live, ← writeScalar_eq_append]
      exact fails_bind_pure
  | writeBytes data =>
      cases appends
      refine fails_bind_pure.trans ?_
      rw [writeBytes_eq_append, runOn_bind, runOn_check, Bytes.checkLength]
      by_cases short : data.size ≤ Bytes.lengthLimit
      · rw [if_pos short, or_iff_right (Nat.not_lt.mpr short)]
        exact reachable.append_fails_iff live
      · rw [if_neg short]
        exact iff_of_true ⟨_, rfl⟩ (.inl (Nat.lt_of_not_le short))
  | _ => cases appends

end Store

end CursorBuffers
