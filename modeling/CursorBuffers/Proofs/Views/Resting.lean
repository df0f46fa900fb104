import CursorBuffers.Proofs.Atomic
import CursorBuffers.Proofs.Isolation.Families
import CursorBuffers.Proofs.Views.Descent

namespace CursorBuffers

/-- The operations on a buffer that neither write to it nor change its capacity. -/
def BufferCommand.Rests : BufferCommand → Prop
  | .setScalar _ _ _ => False
  | .writeScalar _ _ => False
  | .setBytes _ _ => False
  | .writeBytes _ => False
  | .ensureWritable _ => False
  | .setCapacity _ => False
  | _ => True

/-- The commands that end a buffer. -/
def Command.Ends : Command → Prop
  | .release _ => True
  | .drop _ => True
  | _ => False

namespace Action

variable {α β : Type} {id : BufferId} {index length : Nat}

/-- An operation that leaves the arenas that exist as they are. -/
def Leaves (action : Action α) : Prop :=
  ∀ store, store.arenas.next ≤ (runOn action store).2.arenas.next ∧
    ∀ arena, arena < store.arenas.next → (runOn action store).2.arena arena = store.arena arena

theorem leaves_of_arenas {action : Action α}
    (same : ∀ store, (runOn action store).2.arenas = store.arenas) : Leaves action :=
  fun store => ⟨Nat.le_of_eq (by rw [same]), fun _ _ => by rw [Store.arena, same, Store.arena]⟩

theorem Observes.leaves {action : Action α} (observes : action.Observes) : Leaves action :=
  leaves_of_arenas fun store => by rw [observes]

theorem leaves_pure {value : α} : Leaves (pure value : Action α) :=
  leaves_of_arenas fun _ => rfl

theorem leaves_bind {action : Action α} {next : α → Action β} (first : Leaves action)
    (rest : ∀ value, Leaves (next value)) : Leaves (action >>= next) := by
  intro store
  obtain ⟨known, kept⟩ := first store
  rw [runOn_bind]
  rcases outcome : runOn action store with ⟨_ | value, between⟩
  · rw [outcome] at known kept
    exact ⟨known, kept⟩
  · rw [outcome] at known kept
    obtain ⟨knownNext, keptNext⟩ := rest value between
    refine ⟨Nat.le_trans known knownNext, fun arena within => ?_⟩
    rw [keptNext arena (Nat.lt_of_lt_of_le within known), kept arena within]

theorem leaves_inspect {question : Buffer → Arena → Except MemoryError α} :
    Leaves (inspect id question) :=
  observes_inspect.leaves

theorem leaves_mapBuffer {rule : Buffer → Buffer} : Leaves (modify (·.mapBuffer id rule)) :=
  leaves_of_arenas fun _ => rfl

theorem leaves_revise {rule : Buffer → Except MemoryError Buffer} : Leaves (revise id rule) :=
  leaves_bind observes_buffer.leaves fun _ =>
    leaves_bind observes_check.leaves fun _ => leaves_mapBuffer

theorem leaves_newBuffer {make : BufferId → Buffer} : Leaves (newBuffer make) :=
  leaves_of_arenas fun _ => rfl

theorem leaves_newArena {region : Region} : Leaves (newArena region) := by
  intro store
  rw [runOn_newArena]
  refine ⟨by simp, fun arena within => ?_⟩
  rw [Store.arena_addArena, if_neg (Nat.ne_of_lt within)]

theorem leaves_copyRange : Leaves (copyRange id index length) :=
  leaves_bind observes_buffer.leaves fun _ => leaves_bind (leaves_of_arenas fun _ => rfl) fun _ =>
    leaves_bind observes_check.leaves fun _ => leaves_bind observes_check.leaves fun _ =>
      leaves_bind leaves_newArena fun _ => leaves_newBuffer

theorem leaves_sliceRange : Leaves (sliceRange id index length) :=
  leaves_bind leaves_inspect fun _ => leaves_bind leaves_inspect fun _ =>
    leaves_bind observes_buffer.leaves fun _ => leaves_newBuffer

theorem leaves_perform {command : BufferCommand} (rests : command.Rests) :
    Leaves (command.perform id) := by
  have answered : ∀ {β : Type} {action : Action β} {answer : β → Answer},
      Leaves action → Leaves (action >>= fun value => pure (answer value)) :=
    fun leaves => leaves_bind leaves fun _ => leaves_pure
  cases command with
  | getScalar kind order index => exact answered leaves_inspect
  | readScalar kind order =>
      refine answered (leaves_bind leaves_inspect fun _ => ?_)
      refine leaves_bind observes_readerIndex.leaves fun _ => leaves_bind leaves_inspect fun _ => ?_
      exact leaves_bind leaves_mapBuffer fun _ => leaves_pure
  | getBytes index length => exact answered leaves_inspect
  | readBytes length =>
      refine answered (leaves_bind leaves_inspect fun _ => ?_)
      refine leaves_bind observes_readerIndex.leaves fun _ => leaves_bind leaves_inspect fun _ => ?_
      exact leaves_bind leaves_mapBuffer fun _ => leaves_pure
  | skipBytes length => exact answered (leaves_bind leaves_inspect fun _ => leaves_mapBuffer)
  | toBytes => exact answered leaves_inspect
  | hexDump => exact answered (leaves_bind leaves_inspect fun _ => leaves_pure)
  | copy => exact answered (leaves_bind observes_buffer.leaves fun _ => leaves_copyRange)
  | copyRange index length => exact answered leaves_copyRange
  | slice => exact answered (leaves_bind observes_buffer.leaves fun _ => leaves_sliceRange)
  | sliceRange index length => exact answered leaves_sliceRange
  | duplicate =>
      refine answered (leaves_bind leaves_inspect fun _ => ?_)
      exact leaves_bind observes_buffer.leaves fun _ => leaves_newBuffer
  | setScalar order index value => exact rests.elim
  | setBytes index data => exact rests.elim
  | writeScalar order value => exact rests.elim
  | writeBytes data => exact rests.elim
  | ensureWritable length => exact rests.elim
  | setCapacity capacity => exact rests.elim
  | _ => exact answered leaves_revise

end Action

variable {store after : Store} {id named : BufferId} {buffer window : Buffer}

namespace Store

/-- The arena is as it was, or it has been freed. -/
def EndsIn (store after : Store) (arena : ArenaId) : Prop :=
  after.arena arena = store.arena arena ∨
    after.arena arena = ⟨(store.arena arena).region, true⟩

variable {arena : ArenaId}

theorem EndsIn.refl : store.EndsIn store arena := .inl rfl

theorem EndsIn.trans {between : Store} (first : store.EndsIn between arena)
    (second : between.EndsIn after arena) : store.EndsIn after arena := by
  unfold EndsIn at *
  rcases first with same | freed <;> rcases second with still | ended
  · exact .inl (still.trans same)
  · exact .inr (by rw [ended, same])
  · exact .inr (still.trans freed)
  · exact .inr (by rw [ended, freed])

/-- What does not touch the arenas ends none. -/
theorem EndsIn.of_arenas (same : after.arenas = store.arenas) : store.EndsIn after arena :=
  .inl (by rw [Store.arena, same, Store.arena])

theorem endsIn_markFreed {freed : ArenaId} : store.EndsIn (store.markFreed freed) arena := by
  by_cases same : arena = freed
  · subst same
    cases stored : store.arenas.get? arena with
    | none => exact .inl (by simp [Store.arena, markFreed, Table.get?_update, stored])
    | some known => exact .inr (by simp [Store.arena, markFreed, Table.get?_update, stored])
  · exact .inl (arena_markFreed_of_ne same)

theorem endsIn_free : store.EndsIn (store.free buffer) arena := by
  apply free_induction (motive := fun after => store.EndsIn after arena)
  · exact fun _ => .refl
  · exact fun event => endsIn_markFreed.trans (.of_arenas rfl)

theorem endsIn_reclaim {pool : PoolId} : store.EndsIn (store.reclaim pool buffer) arena := by
  apply reclaim_induction (motive := fun after => store.EndsIn after arena)
  · exact .refl
  · intro record after _ outcome
    cases outcome with
    | queued opened intact unheld offered => exact .of_arenas rfl
    | _ => exact EndsIn.trans (.of_arenas (by simp)) endsIn_markFreed

theorem endsIn_drop : store.EndsIn (store.drop id) arena := by
  unfold drop
  split
  · exact .refl
  · split
    · exact EndsIn.trans (.of_arenas rfl) endsIn_reclaim
    · exact .of_arenas rfl

theorem endsIn_release : store.EndsIn (store.release id) arena := by
  unfold release
  split
  · exact .refl
  · split
    · exact endsIn_free.trans endsIn_drop
    · exact endsIn_drop

end Store

/-- The commands that neither write, nor change a capacity, nor end a buffer. -/
def Command.Rests : Command → Prop
  | .onBuffer _ request => request.Rests
  | .transfer _ _ _ _ => False
  | .release _ => False
  | .drop _ => False
  | _ => True

namespace Store

variable {command : Command}

theorem endsIn_run {arena : ArenaId} (ends : command.Ends) :
    store.EndsIn (store.run command).2 arena := by
  unfold run
  have ended : ∀ {id : BufferId} {change : Store → Store}, store.EndsIn (change store) arena →
      store.EndsIn (Action.runOn (Action.buffer id >>= fun _ => modify change >>= fun _ =>
        pure Answer.done) store).2 arena := by
    intro id change kept
    cases live : store.buffers.get? id with
    | none =>
        rw [Action.runOn_bind_buffer_none live]
        exact .refl
    | some buffer =>
        rw [Action.runOn_bind, Action.runOn_buffer live]
        exact kept
  cases command with
  | release id => exact ended endsIn_release
  | drop id => exact ended endsIn_drop
  | _ => exact ends.elim

/-- A command that neither writes, nor changes a capacity, nor ends a buffer leaves the arena of
every buffer alone. -/
theorem Reachable.arena_run (reachable : store.Reachable) (rests : command.Rests)
    (live : store.buffers.get? named = some window) :
    (store.run command).2.arena window.arena = store.arena window.arena := by
  have foreign : (∀ handle, handle ∉ command.handles) →
      (store.run command).2.arena window.arena = store.arena window.arena := by
    intro nameless
    have known : window.origin < store.buffers.next :=
      Nat.lt_of_le_of_lt (reachable.kin.older live) (Table.lt_next_of_get? live)
    have unnamed : store.Unnamed command window.origin := fun handle named =>
      absurd named (nameless handle)
    exact ((reachable.frozen_run known unnamed).stays live rfl).2
  cases command with
  | onBuffer id request =>
      exact ((Action.leaves_perform rests) store).2 _ (reachable.wellHeld.known live)
  | transfer id other request length => exact rests.elim
  | release id => exact rests.elim
  | drop id => exact rests.elim
  | _ => exact foreign fun _ => List.not_mem_nil

end Store

end CursorBuffers
