import CursorBuffers.Command
import CursorBuffers.Proofs.Step.Commands

namespace CursorBuffers

/-- The arena exists, and none of the buffers is on it. -/
structure Store.Apart (store : Store) (arena : ArenaId) (ids : List BufferId) : Prop where
  known : arena < store.arenas.next
  apart : ∀ {id buffer}, id ∈ ids → store.buffers.get? id = some buffer → buffer.arena ≠ arena

/-- What an operation on those buffers does, it does whatever the region of the arena is. -/
def Action.Blind {α : Type} (arena : ArenaId) (ids : List BufferId) (action : Action α) : Prop :=
  ∀ store : Store, store.Apart arena ids →
    (∀ region, action.runOn (store.setRegion arena region) =
      ((action.runOn store).1, (action.runOn store).2.setRegion arena region)) ∧
    (action.runOn store).2.Apart arena ids

namespace Action

variable {α β : Type} {arena : ArenaId} {ids : List BufferId} {id other : BufferId}

section Chains

theorem blind_pure {value : α} : Blind arena ids (pure value) :=
  fun _ apart => ⟨fun _ => rfl, apart⟩

theorem blind_throw {failure : Failure} : Blind arena ids (throw failure : Action α) :=
  fun _ apart => ⟨fun _ => rfl, apart⟩

theorem blind_bind {action : Action α} {next : α → Action β} (first : Blind arena ids action)
    (rest : ∀ value, Blind arena ids (next value)) : Blind arena ids (action >>= next) := by
  intro store apart
  obtain ⟨same, kept⟩ := first store apart
  rw [runOn_bind]
  rcases outcome : runOn action store with ⟨failure | value, between⟩
  · rw [outcome] at same kept
    exact ⟨fun region => by rw [runOn_bind, same], kept⟩
  · rw [outcome] at same kept
    obtain ⟨restSame, restKept⟩ := rest value between kept
    exact ⟨fun region => by rw [runOn_bind, same]; exact restSame region, restKept⟩

theorem blind_bind_check {result : Except MemoryError α} {next : α → Action β}
    (rest : ∀ value, result = .ok value → Blind arena ids (next value)) :
    Blind arena ids (check result >>= next) := by
  cases result with
  | error error => exact blind_throw
  | ok value => exact rest value rfl

/-- What is done next does not depend on the region. -/
theorem blind_bind_get {next : Store → Action β}
    (same : ∀ store region, next (store.setRegion arena region) = next store)
    (rest : ∀ store, Blind arena ids (next store)) : Blind arena ids (get >>= next) := by
  intro store apart
  obtain ⟨restSame, restKept⟩ := rest store store apart
  refine ⟨fun region => ?_, restKept⟩
  rw [runOn_bind, runOn_bind, runOn_get, runOn_get]
  simp only [same]
  exact restSame region

theorem blind_bind_buffer {next : Buffer → Action β} (named : id ∈ ids)
    (rest : ∀ buffer, buffer.arena ≠ arena → Blind arena ids (next buffer)) :
    Blind arena ids (buffer id >>= next) := by
  intro store apart
  cases found : store.buffers.get? id with
  | none =>
      refine ⟨fun region => ?_, ?_⟩
      · have gone : (store.setRegion arena region).buffers.get? id = none := found
        rw [runOn_bind_buffer_none gone, runOn_bind_buffer_none found]
      · rw [runOn_bind_buffer_none found]
        exact apart
  | some buffer =>
      obtain ⟨restSame, restKept⟩ := rest buffer (apart.apart named found) store apart
      refine ⟨fun region => ?_, ?_⟩
      · have still : (store.setRegion arena region).buffers.get? id = some buffer := found
        rw [runOn_bind, runOn_buffer still, runOn_bind, runOn_buffer found]
        exact restSame region
      · rw [runOn_bind, runOn_buffer found]
        exact restKept

end Chains

section Changes

theorem blind_modify {change : Store → Store}
    (same : ∀ store : Store, store.Apart arena ids → ∀ region,
      change (store.setRegion arena region) = (change store).setRegion arena region)
    (kept : ∀ store : Store, store.Apart arena ids → (change store).Apart arena ids) :
    Blind arena ids (modify change) := by
  intro store apart
  exact ⟨fun region => by simp [same store apart], kept store apart⟩

theorem blind_setRegion {target : ArenaId} {region : Region} (distinct : target ≠ arena) :
    Blind arena ids (modify (·.setRegion target region)) := by
  refine blind_modify (fun store _ given => ?_) fun store apart => ?_
  · simp only [Store.setRegion, Table.update_comm distinct]
  · exact ⟨by simpa using apart.known, apart.apart⟩

theorem blind_emitGrowth {buffer : Buffer} {capacity : Nat} :
    Blind arena ids (modify (·.emitGrowth buffer capacity)) := by
  refine blind_modify (fun store _ region => ?_) fun store apart => ?_
  · unfold Store.emitGrowth
    split <;> rfl
  · exact ⟨by simpa using apart.known, fun named live => apart.apart named (by simpa using live)⟩

theorem blind_mapBuffer {rule : Buffer → Buffer}
    (keeps : ∀ buffer, buffer.arena ≠ arena → (rule buffer).arena ≠ arena) :
    Blind arena ids (modify (·.mapBuffer id rule)) := by
  refine blind_modify (fun store _ region => rfl) fun store apart => ⟨apart.known, ?_⟩
  intro other buffer named live
  simp only [Store.mapBuffer, Table.get?_update] at live
  split at live
  · rename_i same
    obtain ⟨earlier, was, rfl⟩ := Option.map_eq_some_iff.mp live
    exact keeps earlier (apart.apart (same ▸ named) was)
  · exact apart.apart named live

theorem blind_bind_newArena {region : Region} {next : ArenaId → Action β}
    (rest : ∀ made, made ≠ arena → Blind arena ids (next made)) :
    Blind arena ids (newArena region >>= next) := by
  intro store apart
  have distinct : store.arenas.next ≠ arena := Nat.ne_of_gt apart.known
  have known : arena < (store.addArena region).arenas.next := by
    rw [Store.addArena_frame.2.2.2.2.2]
    exact Nat.lt_succ_of_lt apart.known
  obtain ⟨restSame, restKept⟩ := rest _ distinct (store.addArena region) ⟨known, apart.apart⟩
  refine ⟨fun given => ?_, restKept⟩
  have moved : (store.setRegion arena given).addArena region =
      (store.addArena region).setRegion arena given := by
    simp only [Store.addArena, Store.setRegion, Table.update_add apart.known]
  rw [runOn_bind, runOn_newArena, Store.setRegion_frame.2.2.2.2.2, moved]
  exact restSame given

theorem blind_newBuffer {make : BufferId → Buffer} (apart : ∀ id, (make id).arena ≠ arena) :
    Blind arena ids (newBuffer make) := by
  intro store before
  refine ⟨fun region => rfl, ⟨before.known, ?_⟩⟩
  intro id buffer named live
  simp only [runOn_newBuffer, Store.addBuffer, Table.get?_add] at live
  split at live
  · cases live
    exact apart _
  · exact before.apart named live

end Changes

section Operations

variable {index otherIndex length capacity : Nat}

theorem blind_inspect {question : Buffer → Arena → Except MemoryError α} (named : id ∈ ids) :
    Blind arena ids (inspect id question) := by
  refine blind_bind_buffer named fun buffer apart => blind_bind_get ?_ fun store => ?_
  · intro store region
    rw [Store.arena_setRegion_of_ne apart]
  · cases question buffer (store.arena buffer.arena) with
    | error error => exact blind_throw
    | ok value => exact blind_pure

theorem blind_revise {rule : Buffer → Except MemoryError Buffer} (named : id ∈ ids)
    (places : ∀ buffer placed, rule buffer = .ok placed → buffer.Placed placed) :
    Blind arena ids (revise id rule) := by
  refine blind_bind_buffer named fun buffer apart => blind_bind_check fun placed outcome => ?_
  refine blind_mapBuffer fun _ _ => ?_
  rw [(places buffer placed outcome).akin.arena]
  exact apart

theorem blind_overwrite {rule : Buffer → Arena → Except MemoryError Region} (named : id ∈ ids) :
    Blind arena ids (overwrite id rule) := by
  refine blind_bind_buffer named fun buffer apart => blind_bind_get ?_ fun store => ?_
  · intro store region
    rw [Store.arena_setRegion_of_ne apart]
  · exact blind_bind_check fun region _ => blind_setRegion apart

theorem blind_setCapacity (named : id ∈ ids) : Blind arena ids (setCapacity id capacity) := by
  refine blind_bind_buffer named fun buffer apart => blind_bind_check fun _ _ => ?_
  refine blind_bind (blind_inspect named) fun _ => blind_bind_get ?_ fun store => ?_
  · intro store region
    simp only [Store.resized, Store.arena_setRegion_of_ne apart]
    rfl
  · refine blind_bind_check fun region _ => blind_bind (blind_setRegion apart) fun _ => ?_
    exact blind_bind blind_emitGrowth fun _ => blind_mapBuffer fun _ still => still

theorem blind_ensureWritable (named : id ∈ ids) : Blind arena ids (ensureWritable id length) := by
  refine blind_bind_buffer named fun buffer _ => ?_
  split
  · exact blind_bind_check fun _ _ => blind_setCapacity named
  · exact blind_pure

theorem blind_bind_readerIndex {next : Nat → Action β} (named : id ∈ ids)
    (rest : ∀ index, Blind arena ids (next index)) : Blind arena ids (readerIndex id >>= next) :=
  blind_bind (blind_bind_buffer named fun _ _ => blind_pure) rest

theorem blind_bind_writerIndex {next : Nat → Action β} (named : id ∈ ids)
    (rest : ∀ index, Blind arena ids (next index)) : Blind arena ids (writerIndex id >>= next) :=
  blind_bind (blind_bind_buffer named fun _ _ => blind_pure) rest

theorem blind_advanceReader : Blind arena ids (advanceReader id length) :=
  blind_mapBuffer fun _ apart => apart

theorem blind_advanceWriter : Blind arena ids (advanceWriter id length) :=
  blind_mapBuffer fun _ apart => apart

theorem blind_move (named : id ∈ ids) (alsoNamed : other ∈ ids) :
    Blind arena ids (move id index other otherIndex length) := by
  refine blind_bind_buffer named fun source sourceApart => ?_
  refine blind_bind_buffer alsoNamed fun target targetApart => blind_bind_get ?_ fun store => ?_
  · intro store region
    rw [Store.arena_setRegion_of_ne sourceApart]
  · refine blind_bind_check fun data _ => blind_bind_get ?_ fun store => ?_
    · intro store region
      rw [Store.arena_setRegion_of_ne targetApart]
    · exact blind_bind_check fun region _ => blind_setRegion targetApart

theorem blind_getBytesAt (named : id ∈ ids) (alsoNamed : other ∈ ids) :
    Blind arena ids (getBytesAt id index other otherIndex length) :=
  blind_bind (blind_inspect named) fun _ =>
    blind_bind (blind_inspect alsoNamed) fun _ => blind_move named alsoNamed

theorem blind_setBytesAt (named : id ∈ ids) (alsoNamed : other ∈ ids) :
    Blind arena ids (setBytesAt id index other otherIndex length) :=
  blind_bind (blind_inspect named) fun _ =>
    blind_bind (blind_inspect alsoNamed) fun _ => blind_move alsoNamed named

theorem blind_getBytesTo (named : id ∈ ids) (alsoNamed : other ∈ ids) :
    Blind arena ids (getBytesTo id index other length) := by
  refine blind_bind (blind_ensureWritable alsoNamed) fun _ => ?_
  refine blind_bind_writerIndex alsoNamed fun writer => ?_
  exact blind_bind (blind_getBytesAt named alsoNamed) fun _ => blind_advanceWriter

theorem blind_setBytesFrom (named : id ∈ ids) (alsoNamed : other ∈ ids) :
    Blind arena ids (setBytesFrom id index other length) := by
  refine blind_bind (blind_inspect alsoNamed) fun _ => ?_
  refine blind_bind_readerIndex alsoNamed fun reader => ?_
  exact blind_bind (blind_setBytesAt named alsoNamed) fun _ => blind_advanceReader

theorem blind_copyRange (named : id ∈ ids) : Blind arena ids (copyRange id index length) := by
  refine blind_bind_buffer named fun source apart => blind_bind_get ?_ fun store => ?_
  · intro store region
    rw [Store.arena_setRegion_of_ne apart]
  · refine blind_bind_check fun data _ => blind_bind_check fun region _ => ?_
    exact blind_bind_newArena fun made distinct => blind_newBuffer fun _ => distinct

theorem blind_sliceRange (named : id ∈ ids) : Blind arena ids (sliceRange id index length) := by
  refine blind_bind (blind_inspect named) fun _ => blind_bind (blind_inspect named) fun _ => ?_
  exact blind_bind_buffer named fun source apart => blind_newBuffer fun _ => apart

theorem blind_perform {command : BufferCommand} (named : id ∈ ids) :
    Blind arena ids (command.perform id) := by
  have answered : ∀ {β : Type} {action : Action β} {answer : β → Answer},
      Blind arena ids action → Blind arena ids (action >>= fun value => pure (answer value)) :=
    fun blind => blind_bind blind fun _ => blind_pure
  cases command with
  | getScalar kind order index => exact answered (blind_inspect named)
  | setScalar order index value => exact answered (blind_overwrite named)
  | readScalar kind order =>
      refine answered (blind_bind (blind_inspect named) fun _ => ?_)
      refine blind_bind_readerIndex named fun reader => ?_
      refine blind_bind (blind_inspect named) fun _ => ?_
      exact blind_bind blind_advanceReader fun _ => blind_pure
  | writeScalar order value =>
      refine answered (blind_bind (blind_ensureWritable named) fun _ => ?_)
      refine blind_bind_writerIndex named fun writer => ?_
      exact blind_bind (blind_overwrite named) fun _ => blind_advanceWriter
  | getBytes index length => exact answered (blind_inspect named)
  | setBytes index data => exact answered (blind_overwrite named)
  | readBytes length =>
      refine answered (blind_bind (blind_inspect named) fun _ => ?_)
      refine blind_bind_readerIndex named fun reader => ?_
      refine blind_bind (blind_inspect named) fun _ => ?_
      exact blind_bind blind_advanceReader fun _ => blind_pure
  | writeBytes data =>
      refine answered (blind_bind_check fun _ _ => ?_)
      refine blind_bind (blind_ensureWritable named) fun _ => ?_
      refine blind_bind_writerIndex named fun writer => ?_
      exact blind_bind (blind_overwrite named) fun _ => blind_advanceWriter
  | skipBytes length =>
      exact answered (blind_bind (blind_inspect named) fun _ => blind_advanceReader)
  | toBytes => exact answered (blind_inspect named)
  | hexDump => exact answered (blind_bind (blind_inspect named) fun _ => blind_pure)
  | setReaderIndex index =>
      exact answered (blind_revise named fun _ _ => Buffer.placed_setReaderIndex)
  | setWriterIndex index =>
      exact answered (blind_revise named fun _ _ => Buffer.placed_setWriterIndex)
  | setIndex reader writer => exact answered (blind_revise named fun _ _ => Buffer.placed_setIndex)
  | clear =>
      refine answered (blind_revise named fun buffer placed done => ?_)
      exact Except.ok.inj done ▸ Buffer.placed_clear
  | markReader =>
      refine answered (blind_revise named fun buffer placed done => ?_)
      exact Except.ok.inj done ▸ Buffer.placed_markReader
  | markWriter =>
      refine answered (blind_revise named fun buffer placed done => ?_)
      exact Except.ok.inj done ▸ Buffer.placed_markWriter
  | resetReader => exact answered (blind_revise named fun _ _ => Buffer.placed_setReaderIndex)
  | resetWriter => exact answered (blind_revise named fun _ _ => Buffer.placed_setWriterIndex)
  | ensureWritable length => exact answered (blind_ensureWritable named)
  | setCapacity capacity => exact answered (blind_setCapacity named)
  | copy => exact answered (blind_bind_buffer named fun _ _ => blind_copyRange named)
  | copyRange index length => exact answered (blind_copyRange named)
  | slice => exact answered (blind_bind_buffer named fun _ _ => blind_sliceRange named)
  | sliceRange index length => exact answered (blind_sliceRange named)
  | duplicate =>
      refine answered (blind_bind (blind_inspect named) fun _ => ?_)
      exact blind_bind_buffer named fun source apart => blind_newBuffer fun _ => apart

theorem blind_transfer {command : TransferCommand} (named : id ∈ ids) (alsoNamed : other ∈ ids) :
    Blind arena ids (command.perform id other length) := by
  cases command with
  | getBytesTo index => exact blind_getBytesTo named alsoNamed
  | getBytesAt index otherIndex => exact blind_getBytesAt named alsoNamed
  | setBytesFrom index => exact blind_setBytesFrom named alsoNamed
  | setBytesAt index otherIndex => exact blind_setBytesAt named alsoNamed
  | readBytesTo =>
      refine blind_bind (blind_inspect named) fun _ => ?_
      refine blind_bind_readerIndex named fun reader => ?_
      exact blind_bind (blind_getBytesTo named alsoNamed) fun _ => blind_advanceReader
  | writeBytesFrom =>
      refine blind_bind (blind_ensureWritable named) fun _ => ?_
      refine blind_bind_writerIndex named fun writer => ?_
      exact blind_bind (blind_setBytesFrom named alsoNamed) fun _ => blind_advanceWriter

end Operations

end Action

namespace Store

variable {store : Store} {arena : ArenaId} {region : Region} {id : BufferId} {buffer : Buffer}

theorem setRegion_markFreed {other : ArenaId} (distinct : other ≠ arena) :
    (store.setRegion arena region).markFreed other =
      (store.markFreed other).setRegion arena region := by
  simp only [setRegion, markFreed, Table.update_comm distinct]

/-- Changes of other tables change places with it. -/
theorem setRegion_comm :
    (∀ event, (store.setRegion arena region).emit event =
      (store.emit event).setRegion arena region) ∧
    (∀ pool change, (store.setRegion arena region).mapStats pool change =
      (store.mapStats pool change).setRegion arena region) ∧
    (∀ id registry, (store.setRegion arena region).setRegistry id registry =
      (store.setRegistry id registry).setRegion arena region) ∧
    (∀ id, (store.setRegion arena region).vacate id =
      (store.vacate id).setRegion arena region) :=
  ⟨fun _ => rfl, fun _ _ => rfl, fun _ _ => rfl, fun _ => rfl⟩

theorem setRegion_free (distinct : buffer.arena ≠ arena) :
    (store.setRegion arena region).free buffer = (store.free buffer).setRegion arena region := by
  simp only [free, arena_setRegion_of_ne distinct]
  split
  · rfl
  · rw [setRegion_markFreed distinct]
    rfl

theorem setRegion_enterPool {idle : Idle} (distinct : idle.arena ≠ arena) :
    (store.setRegion arena region).enterPool idle =
      (store.enterPool idle).setRegion arena region := by
  rw [enterPool, arena_setRegion_of_ne distinct, setRegion_comm.2.1]
  rfl

theorem setRegion_discard {idle : Idle} (distinct : idle.arena ≠ arena) :
    (store.setRegion arena region).discard idle =
      (store.discard idle).setRegion arena region := by
  rw [discard, arena_setRegion_of_ne distinct, setRegion_comm.2.1, setRegion_markFreed distinct]
  rfl

theorem setRegion_reclaim {pool : PoolId} (distinct : buffer.arena ≠ arena) :
    (store.setRegion arena region).reclaim pool buffer =
      (store.reclaim pool buffer).setRegion arena region := by
  have same : (store.setRegion arena region).pools.get? pool = store.pools.get? pool := rfl
  have holders : (store.setRegion arena region).holders buffer.arena =
      store.holders buffer.arena := rfl
  have entry : (⟨buffer.arena, buffer.capacity, buffer.maxCapacity, pool⟩ : Idle) =
      returnIdle pool buffer := rfl
  have apart : (returnIdle pool buffer).arena ≠ arena := distinct
  simp only [reclaim, same, holders, entry, arena_setRegion_of_ne distinct,
    setRegion_frame.2.2.2.1, setRegion_comm, setRegion_markFreed distinct,
    setRegion_enterPool apart, setRegion_discard apart]
  split
  · rfl
  · split
    · rfl
    · split
      · rfl
      · split <;> rfl

theorem setRegion_drop (apart : store.Apart arena [id]) :
    (store.setRegion arena region).drop id = (store.drop id).setRegion arena region := by
  have same : (store.setRegion arena region).buffers.get? id = store.buffers.get? id := rfl
  simp only [drop, same]
  split
  · rfl
  · rename_i buffer live
    split
    · rw [setRegion_comm.2.2.2, setRegion_reclaim (apart.apart List.mem_cons_self live)]
    · rfl

theorem setRegion_release (apart : store.Apart arena [id]) :
    (store.setRegion arena region).release id = (store.release id).setRegion arena region := by
  have same : (store.setRegion arena region).buffers.get? id = store.buffers.get? id := rfl
  simp only [release, same]
  split
  · rfl
  · rename_i buffer live
    have distinct := apart.apart List.mem_cons_self live
    split
    · rw [setRegion_free distinct]
      refine setRegion_drop ⟨?_, fun named also => ?_⟩
      · exact free_induction (motive := fun after => arena < after.arenas.next)
          (fun _ => apart.known) fun _ => by simpa using apart.known
      · rw [buffers_free] at also
        exact apart.apart named also
    · exact setRegion_drop apart

theorem run_ending {change : Store → Store} {ending : Action Answer}
    (ends : ending = do
      let _ ← Action.buffer id
      modify change
      return .done)
    (same : change (store.setRegion arena region) = (change store).setRegion arena region) :
    ending.runOn (store.setRegion arena region) =
      ((ending.runOn store).1, (ending.runOn store).2.setRegion arena region) := by
  subst ends
  cases found : store.buffers.get? id with
  | none =>
      have gone : (store.setRegion arena region).buffers.get? id = none := found
      rw [Action.runOn_bind_buffer_none gone, Action.runOn_bind_buffer_none found]
  | some buffer =>
      have still : (store.setRegion arena region).buffers.get? id = some buffer := found
      simp only [Action.runOn_bind, Action.runOn_buffer still, Action.runOn_buffer found,
        Action.runOn_modify, Action.runOn_pure, same]

/-- A command on some buffers is blind to every arena that none of them is on. -/
theorem run_setRegion {command : Command} (names : command.handles ≠ [])
    (apart : store.Apart arena command.handles) :
    (store.setRegion arena region).run command =
      ((store.run command).1, (store.run command).2.setRegion arena region) := by
  unfold run
  cases command with
  | onBuffer id request =>
      exact (Action.blind_perform List.mem_cons_self store apart).1 region
  | transfer id other request length =>
      have also : other ∈ (Command.transfer id other request length).handles :=
        List.mem_cons_of_mem _ List.mem_cons_self
      have blind : Action.Blind arena (Command.transfer id other request length).handles
          (Command.transfer id other request length).perform :=
        Action.blind_bind (Action.blind_transfer List.mem_cons_self also) fun _ => Action.blind_pure
      exact (blind store apart).1 region
  | release id => exact run_ending rfl (setRegion_release apart)
  | drop id => exact run_ending rfl (setRegion_drop apart)
  | _ => exact absurd rfl names

end Store

end CursorBuffers
