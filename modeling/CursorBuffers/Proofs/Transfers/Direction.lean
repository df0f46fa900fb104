import CursorBuffers.Proofs.Transfers
import CursorBuffers.Proofs.Views.Writing

namespace CursorBuffers

variable {store between after : Store} {source target : BufferId} {giver taker : Buffer}
variable {sourceIndex targetIndex length : Nat}

/-- Room was made behind the writer of the target, what lies behind the reader of the source was
copied there, and both cursors have moved. -/
def Conveyed (store : Store) (source target : BufferId) (length : Nat) (after : Store) : Prop :=
  ∃ between giver taker moved,
    Action.runOn (Action.ensureWritable target length) store = (.ok (), between) ∧
    length ≤ giver.readableBytes ∧
    Copied between source target giver.readerIndex taker.writerIndex length giver taker moved ∧
    after = (moved.mapBuffer source (·.advanceReader length)).mapBuffer target
      (·.advanceWriter length)

/-- The two cursors of a transfer can move in either order. -/
theorem Store.mapBuffer_advance_comm {id other : BufferId} :
    (store.mapBuffer id (·.advanceWriter length)).mapBuffer other (·.advanceReader length) =
      (store.mapBuffer other (·.advanceReader length)).mapBuffer id (·.advanceWriter length) := by
  simp only [mapBuffer]
  by_cases same : id = other
  · subst same
    simp only [Table.update_update]
    rfl
  · rw [Table.update_comm same]

namespace Action

theorem runOn_move_of_copies {data : Bytes} {region : Region}
    (copies : Copies store source target sourceIndex targetIndex giver taker data region) :
    runOn (move source sourceIndex target targetIndex data.size) store =
      (.ok (), store.setRegion taker.arena region) := by
  rw [runOn_move copies.gives copies.takes, copies.read]
  simp only [bind, Except.bind, copies.written]

theorem runOn_getBytesAt_eq_ok :
    runOn (getBytesAt source sourceIndex target targetIndex length) store = (.ok (), after) ↔
      ∃ giver taker,
        Copied store source target sourceIndex targetIndex length giver taker after := by
  constructor
  · exact copied_getBytesAt
  · rintro ⟨giver, taker, data, region, rfl, copies, rfl⟩
    refine runOn_bind_eq_ok.mpr ⟨(), store, runOn_inspect_eq_ok.mpr
      ⟨rfl, giver, copies.gives, copies.readable⟩, ?_⟩
    refine runOn_bind_eq_ok.mpr ⟨(), store, runOn_inspect_eq_ok.mpr
      ⟨rfl, taker, copies.takes, copies.writable⟩, ?_⟩
    exact runOn_move_of_copies copies

theorem runOn_setBytesAt_eq_ok :
    runOn (setBytesAt target targetIndex source sourceIndex length) store = (.ok (), after) ↔
      ∃ giver taker,
        Copied store source target sourceIndex targetIndex length giver taker after := by
  constructor
  · exact copied_setBytesAt
  · rintro ⟨giver, taker, data, region, rfl, copies, rfl⟩
    refine runOn_bind_eq_ok.mpr ⟨(), store, runOn_inspect_eq_ok.mpr
      ⟨rfl, taker, copies.takes, copies.writable⟩, ?_⟩
    refine runOn_bind_eq_ok.mpr ⟨(), store, runOn_inspect_eq_ok.mpr
      ⟨rfl, giver, copies.gives, copies.readable⟩, ?_⟩
    exact runOn_move_of_copies copies

/-- The taking side makes room before it looks at the source. -/
theorem runOn_writeBytesFrom_eq_ok :
    runOn (writeBytesFrom target source length) store = (.ok (), after) ↔
      Conveyed store source target length after := by
  constructor
  · intro done
    obtain ⟨_, between, made, rest⟩ := runOn_bind_eq_ok.mp done
    obtain ⟨taker, takes, _⟩ := writable_of_ensureWritable made
    obtain ⟨_, reached, second, rest⟩ := runOn_bind_eq_ok.mp rest
    rw [runOn_writerIndex takes] at second
    cases second
    obtain ⟨_, moved, third, rest⟩ := runOn_bind_eq_ok.mp rest
    cases rest
    obtain ⟨giver, other, data, region, size, copies, enough, rfl⟩ := copied_setBytesFrom third
    cases takes.symm.trans copies.takes
    exact ⟨between, giver, taker, _, made, enough, ⟨data, region, size, copies, rfl⟩, rfl⟩
  · rintro ⟨between, giver, taker, moved, made, enough, copied, rfl⟩
    obtain ⟨data, region, size, copies, rfl⟩ := copied
    have indexed : runOn (setBytesAt target taker.writerIndex source giver.readerIndex length)
        between = (.ok (), between.setRegion taker.arena region) :=
      runOn_setBytesAt_eq_ok.mpr ⟨giver, taker, data, region, size, copies, rfl⟩
    refine runOn_bind_eq_ok.mpr ⟨(), between, made, ?_⟩
    refine runOn_bind_eq_ok.mpr ⟨_, between, runOn_writerIndex copies.takes, ?_⟩
    refine runOn_bind_eq_ok.mpr ⟨(), _, ?_, rfl⟩
    refine runOn_bind_eq_ok.mpr ⟨(), between, runOn_inspect_eq_ok.mpr
      ⟨rfl, giver, copies.gives, Buffer.checkSource_eq_ok.mpr enough⟩, ?_⟩
    refine runOn_bind_eq_ok.mpr ⟨_, between, runOn_readerIndex copies.gives, ?_⟩
    exact runOn_bind_eq_ok.mpr ⟨(), _, indexed, rfl⟩

/-- The giving side looks at the source before it makes room. That makes no difference, because room
is made without a cursor of the source moving. -/
theorem runOn_readBytesTo_eq_ok (reachable : store.Reachable) :
    runOn (readBytesTo source target length) store = (.ok (), after) ↔
      Conveyed store source target length after := by
  constructor
  · intro done
    obtain ⟨_, looked, first, rest⟩ := runOn_bind_eq_ok.mp done
    obtain ⟨rfl, early, live, checked⟩ := runOn_inspect_eq_ok.mp first
    obtain ⟨_, reached, second, rest⟩ := runOn_bind_eq_ok.mp rest
    rw [runOn_readerIndex live] at second
    cases second
    obtain ⟨_, moved, third, rest⟩ := runOn_bind_eq_ok.mp rest
    cases rest
    obtain ⟨between, giver, taker, data, region, made, size, copies, _, rfl⟩ :=
      copied_getBytesTo third
    obtain ⟨later, found, _, reader, writer, _⟩ := cursors_of_room reachable.ordered made live
    cases found.symm.trans copies.gives
    have enough : length ≤ giver.readableBytes := by
      rw [Buffer.readableBytes, reader, writer]
      exact Buffer.checkReadable_eq_ok.mp checked
    rw [← reader] at copies
    exact ⟨between, giver, taker, _, made, enough, ⟨data, region, size, copies, rfl⟩,
      Store.mapBuffer_advance_comm⟩
  · rintro ⟨between, giver, taker, moved, made, enough, copied, rfl⟩
    obtain ⟨data, region, size, copies, rfl⟩ := copied
    have room : store.Roomed (runOn (ensureWritable target length) store).2 target :=
      reachable.roomed
    rw [made] at room
    obtain ⟨early, live, _, reader, writer⟩ := room.earlier copies.gives
    have readable : length ≤ early.readableBytes := by
      rw [Buffer.readableBytes, ← reader, ← writer]
      exact enough
    have indexed : runOn (getBytesAt source early.readerIndex target taker.writerIndex length)
        between = (.ok (), between.setRegion taker.arena region) :=
      runOn_getBytesAt_eq_ok.mpr ⟨giver, taker, data, region, size, reader ▸ copies, rfl⟩
    rw [← Store.mapBuffer_advance_comm]
    refine runOn_bind_eq_ok.mpr ⟨(), store, runOn_inspect_eq_ok.mpr
      ⟨rfl, early, live, Buffer.checkReadable_eq_ok.mpr readable⟩, ?_⟩
    refine runOn_bind_eq_ok.mpr ⟨_, store, runOn_readerIndex live, ?_⟩
    refine runOn_bind_eq_ok.mpr ⟨(), _, ?_, rfl⟩
    refine runOn_bind_eq_ok.mpr ⟨(), between, made, ?_⟩
    refine runOn_bind_eq_ok.mpr ⟨_, between, runOn_writerIndex copies.takes, ?_⟩
    exact runOn_bind_eq_ok.mpr ⟨(), _, indexed, rfl⟩

end Action

namespace Store

theorem run_transfer_eq_ok {id other : BufferId} {command : TransferCommand} {answer : Answer} :
    store.run (.transfer id other command length) = (.ok answer, after) ↔
      answer = .done ∧ Action.runOn (command.perform id other length) store = (.ok (), after) := by
  constructor
  · intro done
    obtain ⟨_, reached, performed, answered⟩ := Action.runOn_bind_eq_ok.mp done
    cases answered
    exact ⟨rfl, performed⟩
  · rintro ⟨rfl, performed⟩
    exact Action.runOn_bind_eq_ok.mpr ⟨(), after, performed, rfl⟩

/-- What a source gives to the writer of a target is what the target takes from the reader of the
source, and what is got at an index is what is set there: either goes through if the other does,
and then both lead to the same store. -/
theorem given_iff_taken (reachable : store.Reachable) :
    (∀ source target length answer after,
      store.run (.transfer source target .readBytesTo length) = (.ok answer, after) ↔
        store.run (.transfer target source .writeBytesFrom length) = (.ok answer, after)) ∧
    ∀ source target index otherIndex length answer after,
      store.run (.transfer source target (.getBytesAt index otherIndex) length) =
          (.ok answer, after) ↔
        store.run (.transfer target source (.setBytesAt otherIndex index) length) =
          (.ok answer, after) := by
  refine ⟨fun source target length answer after => ?_,
    fun source target index otherIndex length answer after => ?_⟩
  · rw [run_transfer_eq_ok, run_transfer_eq_ok]
    exact and_congr_right fun _ => (Action.runOn_readBytesTo_eq_ok reachable).trans
      Action.runOn_writeBytesFrom_eq_ok.symm
  · rw [run_transfer_eq_ok, run_transfer_eq_ok]
    exact and_congr_right fun _ =>
      Action.runOn_getBytesAt_eq_ok.trans Action.runOn_setBytesAt_eq_ok.symm

/-- A buffer of four bytes and a duplicate of it, which has to grow to take three of them. -/
theorem given_iff_taken_by_duplicate :
    ∃ after,
      (initial.after [.allocate (.plain {}) { capacity := 4, maxCapacity := 64 },
        .onBuffer 0 (.writeBytes #[1, 2, 3, 4]), .onBuffer 0 .duplicate]).run
          (.transfer 0 1 .readBytesTo 3) = (.ok .done, after) ∧
      (initial.after [.allocate (.plain {}) { capacity := 4, maxCapacity := 64 },
        .onBuffer 0 (.writeBytes #[1, 2, 3, 4]), .onBuffer 0 .duplicate]).run
          (.transfer 1 0 .writeBytesFrom 3) = (.ok .done, after) := by
  have given : (initial.after [.allocate (.plain {}) { capacity := 4, maxCapacity := 64 },
      .onBuffer 0 (.writeBytes #[1, 2, 3, 4]), .onBuffer 0 .duplicate]).run
        (.transfer 0 1 .readBytesTo 3) = (.ok .done, _) := Prod.ext (by decide +kernel) rfl
  exact ⟨_, given, ((given_iff_taken ⟨_, rfl⟩).1 0 1 3 .done _).mp given⟩

end Store

end CursorBuffers
