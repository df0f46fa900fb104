import CursorBuffers.Proofs.Atomic
import CursorBuffers.Proofs.Step.Commands

namespace CursorBuffers

/-- What a pool knows of a buffer that it has lent. -/
def Buffer.lease? (buffer : Buffer) : Option (PoolId × Nat) :=
  buffer.recycler.map fun pool => (pool, buffer.maxCapacity)

theorem Buffer.Akin.lease? {before after : Buffer} (akin : before.Akin after) :
    after.lease? = before.lease? := by
  rw [Buffer.lease?, Buffer.lease?, akin.recycler, akin.maxCapacity]

namespace Store

def lease? (store : Store) (id : BufferId) : Option (PoolId × Nat) :=
  (store.buffers.get? id).bind Buffer.lease?

/-- What happened is aside from all pools. -/
structure Aside (store after : Store) : Prop where
  pools : after.pools = store.pools
  registries : after.registries = store.registries
  leases : ∀ id, after.lease? id = store.lease? id

variable {store between after : Store} {id other : BufferId} {buffer : Buffer}

theorem lease?_of_live (live : store.buffers.get? id = some buffer) :
    store.lease? id = buffer.lease? := by
  rw [lease?, live, Option.bind_some]

namespace Aside

theorem refl : store.Aside store := ⟨rfl, rfl, fun _ => rfl⟩

theorem trans (first : store.Aside between) (second : between.Aside after) : store.Aside after where
  pools := second.pools.trans first.pools
  registries := second.registries.trans first.registries
  leases id := (second.leases id).trans (first.leases id)

theorem of_buffers (pools : after.pools = store.pools)
    (registries : after.registries = store.registries) (buffers : after.buffers = store.buffers) :
    store.Aside after :=
  ⟨pools, registries, fun id => by rw [lease?, lease?, buffers]⟩

theorem mapBuffer {change : Buffer → Buffer}
    (keeps : ∀ buffer, store.buffers.get? id = some buffer →
      (change buffer).lease? = buffer.lease?) : store.Aside (store.mapBuffer id change) := by
  refine ⟨rfl, rfl, fun other => ?_⟩
  simp only [lease?, get?_mapBuffer]
  cases live : store.buffers.get? other with
  | none => rfl
  | some buffer =>
      by_cases same : other = id
      · subst same
        simpa using keeps buffer live
      · simp [same]

theorem addBuffer (unleased : buffer.recycler = none) : store.Aside (store.addBuffer buffer) := by
  refine ⟨rfl, rfl, fun other => ?_⟩
  simp only [lease?, Store.addBuffer, Table.get?_add]
  split
  · rename_i new
    simp [new, Table.get?_eq_none_of_next_le, Buffer.lease?, unleased]
  · rfl

theorem vacate (live : store.buffers.get? id = some buffer) (unleased : buffer.recycler = none) :
    store.Aside (store.vacate id) := by
  refine ⟨rfl, rfl, fun other => ?_⟩
  simp only [lease?, Store.vacate, Table.get?_vacate]
  split
  · rename_i same
    simp [same, live, Buffer.lease?, unleased]
  · rfl

end Aside

end Store

namespace Action

/-- Whatever comes of it, it is aside from all pools. -/
def StaysAside {α : Type} (action : Action α) : Prop :=
  ∀ store : Store, store.Aside (runOn action store).2

variable {α β : Type} {id other : BufferId} {index otherIndex length capacity : Nat}

namespace StaysAside

variable {action : Action α} {next : α → Action β}

theorem bind (first : action.StaysAside) (rest : ∀ value, (next value).StaysAside) :
    (action >>= next).StaysAside := by
  intro store
  have early := first store
  rw [runOn_bind]
  rcases outcome : runOn action store with ⟨_ | value, between⟩
  · rw [outcome] at early
    exact early
  · rw [outcome] at early
    exact early.trans (rest value between)

theorem of_observes (observes : action.Observes) : action.StaysAside :=
  fun store => by rw [observes]; exact .refl

theorem bind_pure {value : α → β} (first : action.StaysAside) :
    (action >>= fun result => pure (value result)).StaysAside :=
  first.bind fun _ _ => .refl

end StaysAside

theorem staysAside_inspect {question : Buffer → Arena → Except MemoryError α} :
    (inspect id question).StaysAside :=
  .of_observes observes_inspect

theorem staysAside_check {result : Except MemoryError α} : (check result).StaysAside :=
  .of_observes observes_check

theorem staysAside_buffer : (buffer id).StaysAside := .of_observes observes_buffer

theorem staysAside_readerIndex : (readerIndex id).StaysAside := .of_observes observes_readerIndex

theorem staysAside_writerIndex : (writerIndex id).StaysAside := .of_observes observes_writerIndex

theorem staysAside_get : (get : Action Store).StaysAside := .of_observes fun _ => rfl

theorem staysAside_advanceReader : (advanceReader id length).StaysAside :=
  fun _ => .mapBuffer fun _ _ => rfl

theorem staysAside_advanceWriter : (advanceWriter id length).StaysAside :=
  fun _ => .mapBuffer fun _ _ => rfl

theorem staysAside_newArena {region : Region} : (newArena region).StaysAside :=
  fun _ => .of_buffers rfl rfl rfl

theorem staysAside_newBuffer {make : BufferId → Buffer}
    (unleased : ∀ id, (make id).recycler = none) : (newBuffer make).StaysAside :=
  fun _ => .addBuffer (unleased _)

theorem staysAside_setRegion {arena : ArenaId} {region : Region} :
    (modify (·.setRegion arena region) : Action Unit).StaysAside :=
  fun _ => .of_buffers rfl rfl rfl

theorem staysAside_revise {rule : Buffer → Except MemoryError Buffer}
    (places : ∀ buffer placed, rule buffer = .ok placed → buffer.Placed placed) :
    (revise id rule).StaysAside := by
  intro store
  cases live : store.buffers.get? id with
  | none =>
      rw [revise, runOn_bind_buffer_none live]
      exact .refl
  | some buffer =>
      rw [runOn_revise live]
      cases outcome : rule buffer with
      | error error => exact .refl
      | ok placed =>
          refine .mapBuffer fun found also => ?_
          cases live.symm.trans also
          exact (places buffer placed outcome).akin.lease?

theorem staysAside_overwrite {rule : Buffer → Arena → Except MemoryError Region} :
    (overwrite id rule).StaysAside :=
  staysAside_buffer.bind fun _ => staysAside_get.bind fun _ => staysAside_check.bind fun _ =>
    staysAside_setRegion

theorem staysAside_setCapacity : (setCapacity id capacity).StaysAside := by
  refine staysAside_buffer.bind fun buffer => staysAside_check.bind fun _ => ?_
  refine staysAside_inspect.bind fun _ => staysAside_get.bind fun _ => ?_
  refine staysAside_check.bind fun region => staysAside_setRegion.bind fun _ => ?_
  refine StaysAside.bind (fun store => ?_) fun _ store => .mapBuffer fun _ _ => rfl
  exact .of_buffers (by simp) (by simp) (by simp)

theorem staysAside_ensureWritable : (ensureWritable id length).StaysAside := by
  refine staysAside_buffer.bind fun buffer => ?_
  split
  · exact staysAside_check.bind fun _ => staysAside_setCapacity
  · exact .of_observes fun _ => rfl

theorem staysAside_readScalar {kind : ScalarKind} {order : ByteOrder} :
    (readScalar id kind order).StaysAside :=
  staysAside_inspect.bind fun _ => staysAside_readerIndex.bind fun _ =>
    staysAside_inspect.bind fun _ => staysAside_advanceReader.bind_pure

theorem staysAside_readBytes : (readBytes id length).StaysAside :=
  staysAside_inspect.bind fun _ => staysAside_readerIndex.bind fun _ =>
    staysAside_inspect.bind fun _ => staysAside_advanceReader.bind_pure

theorem staysAside_append {data : Bytes} : (append id data).StaysAside :=
  staysAside_ensureWritable.bind fun _ => staysAside_writerIndex.bind fun _ =>
    staysAside_overwrite.bind fun _ => staysAside_advanceWriter

theorem staysAside_writeBytes {data : Bytes} : (writeBytes id data).StaysAside := by
  rw [writeBytes_eq_append]
  exact staysAside_check.bind fun _ => staysAside_append

theorem staysAside_copyRange : (copyRange id index length).StaysAside :=
  staysAside_buffer.bind fun _ => staysAside_get.bind fun _ => staysAside_check.bind fun _ =>
    staysAside_check.bind fun _ => staysAside_newArena.bind fun _ =>
      staysAside_newBuffer fun _ => rfl

theorem staysAside_sliceRange : (sliceRange id index length).StaysAside :=
  staysAside_inspect.bind fun _ => staysAside_inspect.bind fun _ =>
    staysAside_buffer.bind fun _ => staysAside_newBuffer fun _ => rfl

/-- No operation on a buffer that exists is any business of a pool. -/
theorem staysAside_perform {command : BufferCommand} : (command.perform id).StaysAside := by
  cases command with
  | getScalar kind order index => exact staysAside_inspect.bind_pure
  | setScalar order index value => exact staysAside_overwrite.bind_pure
  | readScalar kind order => exact staysAside_readScalar.bind_pure
  | writeScalar order value =>
      simp only [BufferCommand.perform, writeScalar_eq_append]
      exact staysAside_append.bind_pure
  | getBytes index length => exact staysAside_inspect.bind_pure
  | setBytes index data => exact staysAside_overwrite.bind_pure
  | readBytes length => exact staysAside_readBytes.bind_pure
  | writeBytes data => exact staysAside_writeBytes.bind_pure
  | skipBytes length =>
      exact StaysAside.bind_pure (staysAside_inspect.bind fun _ => staysAside_advanceReader)
  | toBytes => exact staysAside_inspect.bind_pure
  | hexDump => exact staysAside_inspect.bind_pure.bind_pure
  | setReaderIndex index =>
      exact (staysAside_revise fun _ _ => Buffer.placed_setReaderIndex).bind_pure
  | setWriterIndex index =>
      exact (staysAside_revise fun _ _ => Buffer.placed_setWriterIndex).bind_pure
  | setIndex reader writer =>
      exact (staysAside_revise fun _ _ => Buffer.placed_setIndex).bind_pure
  | clear =>
      refine StaysAside.bind_pure (staysAside_revise fun buffer placed done => ?_)
      exact Except.ok.inj done ▸ Buffer.placed_clear
  | markReader =>
      refine StaysAside.bind_pure (staysAside_revise fun buffer placed done => ?_)
      exact Except.ok.inj done ▸ Buffer.placed_markReader
  | markWriter =>
      refine StaysAside.bind_pure (staysAside_revise fun buffer placed done => ?_)
      exact Except.ok.inj done ▸ Buffer.placed_markWriter
  | resetReader => exact (staysAside_revise fun _ _ => Buffer.placed_setReaderIndex).bind_pure
  | resetWriter => exact (staysAside_revise fun _ _ => Buffer.placed_setWriterIndex).bind_pure
  | ensureWritable length => exact staysAside_ensureWritable.bind_pure
  | setCapacity capacity => exact staysAside_setCapacity.bind_pure
  | copy => exact StaysAside.bind_pure (staysAside_buffer.bind fun _ => staysAside_copyRange)
  | copyRange index length => exact staysAside_copyRange.bind_pure
  | slice => exact StaysAside.bind_pure (staysAside_buffer.bind fun _ => staysAside_sliceRange)
  | sliceRange index length => exact staysAside_sliceRange.bind_pure
  | duplicate =>
      exact StaysAside.bind_pure (staysAside_inspect.bind fun _ =>
        staysAside_buffer.bind fun _ => staysAside_newBuffer fun _ => rfl)

theorem staysAside_move : (move id index other otherIndex length).StaysAside :=
  staysAside_buffer.bind fun _ => staysAside_buffer.bind fun _ =>
    staysAside_get.bind fun _ => staysAside_check.bind fun _ =>
      staysAside_get.bind fun _ => staysAside_check.bind fun _ => staysAside_setRegion

theorem staysAside_getBytesAt : (getBytesAt id index other otherIndex length).StaysAside :=
  staysAside_inspect.bind fun _ => staysAside_inspect.bind fun _ => staysAside_move

theorem staysAside_setBytesAt : (setBytesAt id index other otherIndex length).StaysAside :=
  staysAside_inspect.bind fun _ => staysAside_inspect.bind fun _ => staysAside_move

theorem staysAside_getBytesTo : (getBytesTo id index other length).StaysAside :=
  staysAside_ensureWritable.bind fun _ => staysAside_writerIndex.bind fun _ =>
    staysAside_getBytesAt.bind fun _ => staysAside_advanceWriter

theorem staysAside_setBytesFrom : (setBytesFrom id index other length).StaysAside :=
  staysAside_inspect.bind fun _ => staysAside_readerIndex.bind fun _ =>
    staysAside_setBytesAt.bind fun _ => staysAside_advanceReader

/-- Nor is any operation between two buffers. -/
theorem staysAside_transfer {command : TransferCommand} :
    (command.perform id other length).StaysAside := by
  cases command with
  | getBytesTo index => exact staysAside_getBytesTo
  | getBytesAt index otherIndex => exact staysAside_getBytesAt
  | setBytesFrom index => exact staysAside_setBytesFrom
  | setBytesAt index otherIndex => exact staysAside_setBytesAt
  | readBytesTo =>
      exact staysAside_inspect.bind fun _ => staysAside_readerIndex.bind fun _ =>
        staysAside_getBytesTo.bind fun _ => staysAside_advanceReader
  | writeBytesFrom =>
      exact staysAside_ensureWritable.bind fun _ => staysAside_writerIndex.bind fun _ =>
        staysAside_setBytesFrom.bind fun _ => staysAside_advanceWriter

end Action

end CursorBuffers
