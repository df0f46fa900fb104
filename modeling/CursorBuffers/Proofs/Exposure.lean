import CursorBuffers.Proofs.Views

namespace CursorBuffers

/-- A byte that is in a place now was there before, or it is zero. -/
def Bytes.Padded (before after : Bytes) (place : Nat) : Prop :=
  ∀ byte, after[place]? = some byte → byte = before[place]?.getD 0

theorem Bytes.padded_of_eq {before after : Bytes} {place : Nat}
    (same : after[place]? = before[place]?) : before.Padded after place := by
  intro byte found
  rw [← same, found]
  rfl

theorem Bytes.padded_fit {bytes : Bytes} {length place : Nat} :
    bytes.Padded (bytes.fit length) place := by
  intro byte found
  rw [getElem?_fit] at found
  split at found
  · exact (Option.some.inj found).symm
  · contradiction

variable {warrant : Warrant} {store between after : Store} {command : Command}
variable {id named : BufferId} {buffer window later : Buffer} {arena : ArenaId}
variable {capacity index place : Nat}

section Freed

open Store

theorem Store.EndsIn.freed (ended : store.EndsIn after arena)
    (freed : (store.arena arena).freed = true) : (after.arena arena).freed = true := by
  rcases ended with same | marked
  · rw [same, freed]
  · rw [marked]

theorem Step.freed (step : Step warrant store after)
    (freed : (store.arena arena).freed = true) : (after.arena arena).freed = true := by
  cases step with
  | stock serving served offered => simpa [stocked, freed_addArena] using freed
  | overstock serving served offered =>
      exact endsIn_markFreed.freed (by simpa [stocked, freed_addArena] using freed)
  | drain served =>
      apply drainKey_induction (motive := fun between => (between.arena arena).freed = true)
      · exact freed
      · exact fun between idle member still => endsIn_markFreed.freed still
  | addArena => simpa [freed_addArena] using freed
  | create granted fresh => simpa [freed_addArena] using freed
  | leaseFresh granted serving served valid none => simpa [freed_addArena] using freed
  | leaseIdle granted served valid taken reserved => simpa [unqueued] using freed
  | write live named guarded written => simpa using freed
  | resize named live allowed accessible resized => simpa using freed
  | free named live frees => exact endsIn_free.freed freed
  | reclaim named live leased => exact endsIn_reclaim.freed freed
  | _ => exact freed

theorem Steps.freed (steps : Steps warrant store after)
    (freed : (store.arena arena).freed = true) : (after.arena arena).freed = true :=
  steps.preserve (motive := fun between => (between.arena arena).freed = true) freed Step.freed

end Freed

section Capacity

open Store

/-- The buffer takes another capacity only if its arena can be accessed. -/
theorem Step.accessible_of_resized (step : Step warrant store after)
    (live : store.buffers.get? id = some buffer) (stays : after.buffers.get? id = some later)
    (resized : later.capacity ≠ buffer.capacity) :
    buffer.checkAccessible (store.arena buffer.arena) = .ok () := by
  have same : after.buffers.get? id = store.buffers.get? id → False := fun kept => by
    rw [kept, live, Option.some.injEq] at stays
    exact resized (stays ▸ rfl)
  have added : ∀ {added : Buffer}, after.buffers = store.buffers.add added → False :=
    fun buffers => same (by rw [buffers, Table.get?_add_of_get? live, live])
  have updated : ∀ {other : BufferId} {old new : Buffer},
      store.buffers.get? other = some old →
      after.buffers = store.buffers.update other (fun _ => new) → other = id ∧ later = new := by
    intro other old new was buffers
    by_cases here : id = other
    · subst here
      rw [buffers, Table.get?_update, if_pos rfl, was, Option.map_some, Option.some.injEq] at stays
      exact ⟨rfl, stays.symm⟩
    · refine (same ?_).elim
      rw [buffers, Table.get?_update, if_neg here]
  have vacated : ∀ {other : BufferId}, after.buffers = store.buffers.vacate other → False := by
    intro other buffers
    rw [buffers, Table.get?_vacate] at stays
    split at stays
    · contradiction
    · rename_i here
      exact same (by rw [buffers, Table.get?_vacate, if_neg here])
  cases step with
  | drain served => exact (same (by rw [buffers_drainKey])).elim
  | create granted fresh => exact (added rfl).elim
  | leaseFresh granted serving served valid none => exact (added rfl).elim
  | leaseIdle granted served valid taken reserved => exact (added rfl).elim
  | derive named source accessible derived => exact (added rfl).elim
  | place named was moved =>
      obtain ⟨rfl, rfl⟩ := updated was rfl
      cases live.symm.trans was
      exact absurd moved.capacity resized
  | resize named was allowed accessible fits =>
      obtain ⟨rfl, _⟩ := updated was buffers_refitted
      cases live.symm.trans was
      exact accessible
  | free named was frees => exact (same (by rw [buffers_free])).elim
  | vacate named was unleased => exact (vacated rfl).elim
  | reclaim named was leased => exact (vacated buffers_reclaim).elim
  | _ => exact (same rfl).elim

theorem Steps.accessible_of_resized (steps : Steps warrant store after)
    (live : store.buffers.get? id = some buffer) (stays : after.buffers.get? id = some later)
    (resized : later.capacity ≠ buffer.capacity) :
    buffer.checkAccessible (store.arena buffer.arena) = .ok () := by
  induction steps generalizing later with
  | refl =>
      cases live.symm.trans stays
      exact absurd rfl resized
  | @tail between after earlier step ih =>
      have known : id < between.buffers.next :=
        Nat.lt_of_lt_of_le (Table.lt_next_of_get? live) (Steps.next_le earlier)
      obtain ⟨middle, was, _⟩ := step.buffers.older known stays
      by_cases already : middle.capacity = buffer.capacity
      · have passed := step.accessible_of_resized was stays (already ▸ resized)
        obtain ⟨first, start, akin⟩ := Steps.older earlier (Table.lt_next_of_get? live) was
        cases live.symm.trans start
        -- What is not freed now was not freed before.
        rw [Buffer.checkAccessible_eq_ok, akin.bounds, akin.config, akin.arena] at passed
        exact Buffer.checkAccessible_eq_ok.mpr fun refused =>
          passed ⟨refused.1, refused.2.1, Steps.freed earlier refused.2.2⟩
      · exact ih was already

end Capacity

namespace Store

open CursorBuffers.Action

theorem get?_drop : (store.drop id).buffers.get? id = none := by
  have vacated : (store.vacate id).buffers.get? id = none := by
    simp [vacate, Table.get?_vacate]
  unfold drop
  split
  · assumption
  · split
    · rw [buffers_reclaim, vacated]
    · exact vacated

theorem get?_release : (store.release id).buffers.get? id = none := by
  unfold release
  split
  · assumption
  · exact get?_drop

theorem get?_run_of_ends (ends : command.Ends) (named : id ∈ command.handles) :
    (store.run command).2.buffers.get? id = none := by
  have ended : ∀ {change : Store → Store}, (change store).buffers.get? id = none →
      (runOn (Action.buffer id >>= fun _ => modify change >>= fun _ =>
        pure Answer.done) store).2.buffers.get? id = none := by
    intro change gone
    cases live : store.buffers.get? id with
    | none =>
        rw [runOn_bind_buffer_none live]
        exact live
    | some buffer =>
        rw [runOn_bind, runOn_buffer live]
        exact gone
  cases command with
  | release other =>
      obtain rfl := List.mem_singleton.mp named
      exact ended get?_release
  | drop other =>
      obtain rfl := List.mem_singleton.mp named
      exact ended get?_drop
  | _ => exact ends.elim

/-- A buffer whose capacity a command changed can be accessed afterwards. -/
theorem Reachable.accessible_of_resized (reachable : store.Reachable)
    (live : store.buffers.get? id = some buffer)
    (stays : (store.run command).2.buffers.get? id = some later)
    (resized : later.capacity ≠ buffer.capacity) :
    later.checkAccessible ((store.run command).2.arena later.arena) = .ok () := by
  have accessible := steps_run.accessible_of_resized live stays resized
  have akin : buffer.Akin later := akin_run live stays
  have lasting : ¬ command.Ends := by
    intro ends
    by_cases named : id ∈ command.handles
    · rw [get?_run_of_ends ends named] at stays
      contradiction
    · have kept := steps_run.untouched (Command.not_touches live named) live
      rw [kept, Option.some.injEq] at stays
      exact resized (stays ▸ rfl)
  rw [Buffer.checkAccessible_eq_ok] at accessible ⊢
  rwa [akin.bounds, akin.config, akin.arena, reachable.freed_run lasting live]

section Bytes

theorem padded_refitted {region : Region} (resized : store.resized buffer capacity = .ok region) :
    Bytes.Padded (store.arena arena).region.bytes
      ((store.refitted id buffer capacity region).arena arena).region.bytes place := by
  rw [arena_refitted]
  rcases store.region_setRegion_cases with kept | ⟨here, set⟩
  · rw [kept]
    exact Bytes.padded_of_eq rfl
  · obtain ⟨length, rfl, _⟩ := fit_of_resized resized
    rw [set, here, Region.bytes_withBytes]
    exact Bytes.padded_fit

theorem MadeRoom.padded (made : store.MadeRoom between id) :
    Bytes.Padded (store.arena arena).region.bytes (between.arena arena).region.bytes place := by
  obtain ⟨length, rfl⟩ := made
  cases live : store.buffers.get? id with
  | none =>
      rw [ensureWritable, runOn_bind_buffer_none live]
      exact Bytes.padded_of_eq rfl
  | some buffer =>
      have made : RoomMade store id buffer length _ := roomMade live
      generalize runOn (ensureWritable id length) store = outcome at made ⊢
      cases made with
      | grown short larger needed allowed resized => exact padded_refitted resized
      | _ => exact Bytes.padded_of_eq rfl

/-- Whatever a command does, it leaves the bytes of an arena that it does not write, and pads the
arena with zeros. -/
theorem Reachable.padded_run (reachable : store.Reachable)
    (live : store.buffers.get? named = some window)
    (spared : ¬ store.Overwrites command window.arena place) :
    Bytes.Padded (store.arena window.arena).region.bytes
      ((store.run command).2.arena window.arena).region.bytes place := by
  rcases command.rests_or with rests | ends | writes | ⟨id, length, rfl⟩ | ⟨id, capacity, rfl⟩
  · rw [reachable.arena_run rests live]
    exact Bytes.padded_of_eq rfl
  · rcases endsIn_run ends with kept | freed
    · rw [kept]
      exact Bytes.padded_of_eq rfl
    · rw [freed]
      exact Bytes.padded_of_eq rfl
  · rcases ran : store.run command with ⟨failure | answer, after⟩
    · obtain ⟨id, made⟩ := madeRoom_of_failed writes ran
      exact made.padded
    · obtain ⟨id, index, data, between, taker, region, made, range, written⟩ :=
        reachable.written_in_room writes ran
      intro byte found
      rw [written.bytes_outside range (by rw [ran]) spared] at found
      exact made.padded byte found
  · rw [after_ensureWritable]
    exact MadeRoom.padded ⟨length, rfl⟩
  · rcases after_setCapacity store with kept | ⟨buffer, region, was, resized, done⟩
    · rw [kept]
      exact Bytes.padded_of_eq rfl
    · rw [done]
      exact padded_refitted resized

end Bytes

/-- A byte that a buffer has reads as what its arena holds there. -/
theorem run_getByte {byte : UInt8} (live : store.buffers.get? id = some buffer)
    (accessible : buffer.checkAccessible (store.arena buffer.arena) = .ok ())
    (within : index < buffer.capacity)
    (holds : (store.arena buffer.arena).region.bytes[buffer.offset + index]? = some byte) :
    (store.run (.onBuffer id (.getBytes index 1))).1 = .ok (.bytes #[byte]) := by
  have stored : buffer.offset + index < (store.arena buffer.arena).region.size :=
    (Array.getElem?_eq_some_iff.mp holds).1
  have single : (store.arena buffer.arena).region.bytes.slice (buffer.offset + index) 1 =
      #[byte] := by
    change _ = Bytes.slice #[byte] 0 1
    exact Bytes.slice_one_congr stored Nat.zero_lt_one holds
  rw [run_getBytes live, Buffer.getBytes_of_within (Nat.succ_le_of_lt within), accessible]
  change (((store.arena buffer.arena).region.read _ 1).mapError Failure.memory).map _ = _
  rw [Region.read_eq_ok stored, single]
  rfl

/-- What a buffer sees for the first time is what its arena held there, or zero. -/
theorem Reachable.byte_exposed (reachable : store.Reachable)
    (live : store.buffers.get? id = some buffer)
    (stays : (store.run command).2.buffers.get? id = some later) (within : index < later.capacity)
    (spared : ¬ store.Overwrites command buffer.arena (buffer.offset + index)) :
    ((store.run command).2.arena later.arena).region.bytes[later.offset + index]? =
      some (((store.arena buffer.arena).region.bytes[buffer.offset + index]?).getD 0) := by
  have akin : buffer.Akin later := akin_run live stays
  have covers : later.offset + later.capacity ≤
      ((store.run command).2.arena later.arena).region.bytes.size :=
    reachable.run.covered.covers stays
  rw [akin.arena, akin.offset] at covers ⊢
  have stored : buffer.offset + index <
      ((store.run command).2.arena buffer.arena).region.bytes.size := by omega
  rw [Array.getElem?_eq_getElem stored, Option.some.injEq]
  exact reachable.padded_run live spared _ (Array.getElem?_eq_getElem stored)

/-- A byte that becomes visible because a command gives a buffer a larger capacity, and that the
command does not write, reads as what the arena held in its place, and as zero where the arena did
not reach so far. -/
theorem exposed_by_growth (reachable : store.Reachable)
    (live : store.buffers.get? id = some buffer)
    (stays : (store.run command).2.buffers.get? id = some later)
    (hidden : buffer.capacity ≤ index) (within : index < later.capacity)
    (spared : ¬ store.Overwrites command buffer.arena (buffer.offset + index)) :
    ((store.run command).2.run (.onBuffer id (.getBytes index 1))).1 =
      .ok (.bytes
        #[((store.arena buffer.arena).region.bytes[buffer.offset + index]?).getD 0]) := by
  have grown : later.capacity ≠ buffer.capacity :=
    Nat.ne_of_gt (Nat.lt_of_le_of_lt hidden within)
  have accessible := reachable.accessible_of_resized live stays grown
  exact run_getByte stays accessible within (reachable.byte_exposed live stays within spared)

/-- A buffer of eight bytes is shrunk to four while it is shared, so that its arena keeps all
eight. -/
def shrunkWhileShared : List Command :=
  [.allocate (.plain {}) { capacity := 8 }, .onBuffer 0 (.writeBytes #[1, 2, 3, 4, 5, 6, 7, 8]),
    .onBuffer 0 .duplicate, .onBuffer 0 (.setCapacity 4)]

/-- The buffer grows again, over a byte that its arena has kept. -/
theorem exposed_by_growth_of_shared :
    (((initial.after shrunkWhileShared).run (.onBuffer 0 (.setCapacity 8))).2.run
      (.onBuffer 0 (.getBytes 5 1))).1 = .ok (.bytes #[6]) := by
  obtain ⟨buffer, live, capacity, offset, arena⟩ : ∃ buffer,
      (initial.after shrunkWhileShared).buffers.get? (0 : BufferId) = some buffer ∧
        buffer.capacity = 4 ∧ buffer.offset = 0 ∧ buffer.arena = 0 := ⟨_, rfl, rfl, rfl, rfl⟩
  obtain ⟨later, stays, room⟩ : ∃ later,
      ((initial.after shrunkWhileShared).run (.onBuffer 0 (.setCapacity 8))).2.buffers.get?
        (0 : BufferId) = some later ∧ later.capacity = 8 := ⟨_, rfl, rfl⟩
  have spared : ¬ (initial.after shrunkWhileShared).Overwrites (.onBuffer 0 (.setCapacity 8))
      buffer.arena (buffer.offset + 5) := by
    rintro ⟨_, _, _, _, _, writes, _⟩
    cases writes
  have shown := exposed_by_growth ⟨_, rfl⟩ live stays (by omega) (by omega) spared
  rw [offset, arena] at shown
  exact shown.trans (by decide +kernel)

/-- Growth does not always expose zeros: here it exposes what was written before the buffer was
shrunk. -/
theorem exposed_by_growth_not_zero :
    ¬ ∀ (commands : List Command) (id : BufferId) (capacity index : Nat) (buffer : Buffer),
      (initial.after commands).buffers.get? id = some buffer → buffer.pooled = false →
      ((initial.after commands).arena buffer.arena).region.IsOwned →
      ((initial.after commands).run (.onBuffer id (.setCapacity capacity))).1 = .ok .done →
      buffer.capacity ≤ index → index < capacity →
      (((initial.after commands).run (.onBuffer id (.setCapacity capacity))).2.run
        (.onBuffer id (.getBytes index 1))).1 = .ok (.bytes #[0]) := by
  intro zero
  obtain ⟨buffer, live, capacity, pooled, owned⟩ : ∃ buffer,
      (initial.after shrunkWhileShared).buffers.get? (0 : BufferId) = some buffer ∧
        buffer.capacity = 4 ∧ buffer.pooled = false ∧
        ((initial.after shrunkWhileShared).arena buffer.arena).region.IsOwned :=
    ⟨_, rfl, rfl, rfl, trivial⟩
  have shown := zero _ 0 8 4 buffer live pooled owned (by decide +kernel) (by omega) (by omega)
  revert shown
  decide +kernel

end Store

end CursorBuffers
