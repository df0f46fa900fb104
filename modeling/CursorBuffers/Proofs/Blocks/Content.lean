import CursorBuffers.Proofs.Blocks.Extents
import CursorBuffers.Proofs.Views
import CursorBuffers.Proofs.Waiting.Turnover

namespace CursorBuffers

variable {store between after : Store} {command : Command} {id : BufferId} {arena : ArenaId}
variable {place index : Nat} {data : Bytes}

namespace Store

/-- The command goes through, and it writes these bytes at this place of the arena. -/
def Lands (store : Store) (command : Command) (arena : ArenaId) (place : Nat) (data : Bytes) :
    Prop :=
  ∃ id index buffer answer, store.Writes command id index data ∧
    (store.run command).1 = .ok answer ∧ store.buffers.get? id = some buffer ∧
    buffer.arena = arena ∧ place = buffer.offset + index

theorem MadeRoom.reachable (made : store.MadeRoom between id) (reachable : store.Reachable) :
    between.Reachable := by
  obtain ⟨length, rfl⟩ := made
  rw [← after_ensureWritable]
  exact reachable.run

theorem Written.region_of_external {taker : Buffer} {region : Region}
    (written : Written store between after id index data taker region)
    (made : store.MadeRoom between id) (external : store.External taker.arena)
    (reachable : store.Reachable) :
    taker.offset + index + data.size ≤ (store.arena taker.arena).region.size ∧
      (after.arena taker.arena).region = (store.arena taker.arena).region.withBytes
        ((store.arena taker.arena).region.bytes.splice (taker.offset + index) data) := by
  have apart : between.Reachable := made.reachable reachable
  obtain ⟨within, put⟩ := Region.within_of_write written.written
  rw [made.region_of_external external] at within put
  refine ⟨within, ?_⟩
  rw [Store.arena, written.arenas, ← Store.arena,
    region_setRegion (apart.wellHeld.known written.takes) apart.covered.standing, put]

/-- What is written through a buffer is found where it was written. -/
theorem Reachable.region_run_of_lands (reachable : store.Reachable)
    (external : store.External arena) (lands : store.Lands command arena place data) :
    place + data.size ≤ (store.arena arena).region.size ∧
      ((store.run command).2.arena arena).region = (store.arena arena).region.withBytes
        ((store.arena arena).region.bytes.splice place data) := by
  obtain ⟨id, index, buffer, answer, writes, went, live, rfl, rfl⟩ := lands
  obtain ⟨_, _, _, between, taker, region, made, range, written⟩ :=
    reachable.written_in_room writes.isWrite (Prod.ext went rfl)
  obtain ⟨rfl, rfl, rfl⟩ := range.unique writes
  obtain ⟨_, was, akin, _⟩ := written.room.earlier written.takes
  cases live.symm.trans was
  rw [← akin.arena, ← akin.offset]
  exact written.region_of_external made (akin.arena ▸ external) reachable

theorem Reachable.region_run_of_spared (reachable : store.Reachable)
    (external : store.External arena) (known : arena < store.arenas.next)
    (spared : ∀ {place data}, ¬ store.Lands command arena place data) :
    ((store.run command).2.arena arena).region = (store.arena arena).region := by
  have nameless : command.handles = [] →
      ((store.run command).2.arena arena).region = (store.arena arena).region := by
    intro none
    rcases reachable.region_run_of_nameless none known with same | ⟨⟨entry, waits, rfl⟩, _⟩
    · exact same
    · -- Whatever waits in a queue belongs to a pool.
      exact absurd (reachable.sound.owned _ (.inr ⟨entry, waits, rfl⟩)) external
  rcases command.rests_or with rests | ends | writes | ⟨id, length, rfl⟩ | ⟨id, capacity, rfl⟩
  · cases command with
    | onBuffer id request =>
        exact congrArg Arena.region ((Action.leaves_perform rests store).2 arena known)
    | transfer id other request length => exact rests.elim
    | release id => exact rests.elim
    | drop id => exact rests.elim
    | _ => exact nameless rfl
  · exact region_run_of_ends ends
  · rcases ran : store.run command with ⟨failure | answer, after⟩
    · obtain ⟨id, made⟩ := madeRoom_of_failed writes ran
      exact made.region_of_external external
    · obtain ⟨id, index, data, between, taker, region, made, range, written⟩ :=
        reachable.written_in_room writes ran
      obtain ⟨buffer, live, akin, _⟩ := written.room.earlier written.takes
      have elsewhere : arena ≠ taker.arena := by
        rintro rfl
        exact spared ⟨id, index, buffer, answer, range, by rw [ran], live, akin.arena.symm, rfl⟩
      rw [Store.arena, written.arenas, ← Store.arena, arena_setRegion_of_ne elsewhere,
        made.region_of_external external]
  · rw [after_ensureWritable]
    exact MadeRoom.region_of_external ⟨length, rfl⟩ external
  · rcases after_setCapacity store with kept | ⟨buffer, region, _, resized, done⟩
    · rw [kept]
    · rw [done, external.region_refitted resized]

end Store

end CursorBuffers
