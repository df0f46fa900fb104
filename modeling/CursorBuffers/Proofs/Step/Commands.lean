import CursorBuffers.Command
import CursorBuffers.Proofs.Step.Allocations
import Mathlib.Data.List.Induction

namespace CursorBuffers

/-- The operations that open a window on a buffer. -/
def BufferCommand.IsView : BufferCommand → Prop
  | .slice => True
  | .sliceRange _ _ => True
  | .duplicate => True
  | _ => False

namespace Command

/-- The buffers that a command names. -/
def handles : Command → List BufferId
  | .onBuffer buffer _ => [buffer]
  | .transfer buffer other _ _ => [buffer, other]
  | .release buffer => [buffer]
  | .drop buffer => [buffer]
  | _ => []

/-- The buffers that a command ends. -/
def ended : Command → List BufferId
  | .release buffer => [buffer]
  | .drop buffer => [buffer]
  | _ => []

/-- The allocator that a command names. -/
def allocator? : Command → Option Allocator
  | .allocate allocator _ => some allocator
  | .wrap (.bytes allocator _) _ => some allocator
  | .wrap (.hex _ allocator _) _ => some allocator
  | _ => none

/-- The maximum capacities that a command gives to buffers on new or idle arenas. -/
inductive Grants (store : Store) : Command → Nat → Prop
  | allocate {allocator : Allocator} {request : Allocation} :
      Grants store (.allocate allocator request) request.maxCapacity
  | wrapBlock {content : Bytes} {config : MemoryConfig} {checking : Bool} :
      Grants store (.wrap (.block content config) checking) content.size
  | wrapArray {content : Bytes} {config : MemoryConfig} {checking : Bool}
      (short : content.size ≤ Bytes.lengthLimit) :
      Grants store (.wrap (.array content config) checking) content.size
  | wrapBytes {allocator : Allocator} {content : Bytes} {checking : Bool}
      (short : content.size ≤ Bytes.lengthLimit) :
      Grants store (.wrap (.bytes allocator content) checking) content.size
  | wrapHex {codec : Hex.Codec} {allocator : Allocator} {text : String} {checking : Bool}
      {content : Bytes} (decoded : codec.read text = .ok content)
      (short : content.size ≤ Bytes.lengthLimit) :
      Grants store (.wrap (.hex codec allocator text) checking) content.size
  | wrapChunks {content : List Bytes} {checking : Bool}
      (short : (Bytes.join content).size ≤ Bytes.lengthLimit) :
      Grants store (.wrap (.chunks content) checking) (Bytes.join content).size
  | copy {id : BufferId} {source : Buffer} (live : store.buffers.get? id = some source) :
      Grants store (.onBuffer id .copy) (max source.maxCapacity source.capacity)
  | copyRange {id : BufferId} {source : Buffer} {index length : Nat}
      (live : store.buffers.get? id = some source) :
      Grants store (.onBuffer id (.copyRange index length)) (max source.maxCapacity length)

/-- What a command may do to a store. -/
def warrant (command : Command) (store : Store) : Warrant where
  touches id := id ∈ command.handles ∨ store.buffers.next ≤ id
  derives id := (store.buffers.get? id).isSome ∧ ∃ request, command = .onBuffer id request ∧
    request.IsView
  grants := command.Grants store
  serves id := command.allocator? = some (.pooled id) ∨
    id = store.pools.next ∧ ∃ config settings registry,
      command = .openPool config settings registry
  ends id := id ∈ command.ended ∨ store.buffers.next ≤ id
  frees id := (store.buffers.get? id).isSome ∧ command = .release id

/-- A command may change and end the buffer that it makes next. -/
theorem covers_next (command : Command) (store : Store) :
    (command.warrant store).touches store.buffers.next ∧
      (command.warrant store).ends store.buffers.next :=
  ⟨.inr (Nat.le_refl _), .inr (Nat.le_refl _)⟩

/-- A command touches no live buffer that it does not name. -/
theorem not_touches {command : Command} {store : Store} {id : BufferId} {buffer : Buffer}
    (live : store.buffers.get? id = some buffer) (unnamed : id ∉ command.handles) :
    ¬ (command.warrant store).touches id := by
  rintro (named | new)
  · exact unnamed named
  · exact Nat.not_lt.mpr new (Table.lt_next_of_get? live)

end Command

namespace Action

variable {warrant : Warrant} {store : Store} {id other : BufferId} {length : Nat}

theorem steps_copy (granted : ∀ source, store.buffers.get? id = some source →
      warrant.grants (max source.maxCapacity source.capacity)) :
    Steps warrant store (runOn (copy id) store).2 := by
  refine steps_bind_buffer fun source live => steps_copyRange fun same also => ?_
  cases live.symm.trans also
  exact granted source live

theorem steps_slice (named : ∀ buffer, store.buffers.get? id = some buffer → warrant.derives id) :
    Steps warrant store (runOn (slice id) store).2 :=
  steps_bind_buffer fun _ _ => steps_sliceRange named

theorem steps_perform {command : BufferCommand} (named : warrant.touches id)
    (derives : command.IsView → ∀ buffer, store.buffers.get? id = some buffer →
      warrant.derives id)
    (grants : ∀ maximum, (Command.onBuffer id command).Grants store maximum →
      warrant.grants maximum) :
    Steps warrant store (runOn (command.perform id) store).2 := by
  cases command with
  | getScalar kind order index => exact steps_bind_inspect fun _ _ _ _ => .refl
  | setScalar order index value => exact steps_bind_pure (steps_setScalar named)
  | readScalar kind order => exact steps_bind_pure (steps_readScalar named)
  | writeScalar order value => exact steps_bind_pure (steps_writeScalar named)
  | getBytes index length => exact steps_bind_inspect fun _ _ _ _ => .refl
  | setBytes index data => exact steps_bind_pure (steps_setBytes named)
  | readBytes length => exact steps_bind_pure (steps_readBytes named)
  | writeBytes data => exact steps_bind_pure (steps_writeBytes named)
  | skipBytes length => exact steps_bind_pure (steps_skipBytes named)
  | toBytes => exact steps_bind_inspect fun _ _ _ _ => .refl
  | hexDump => exact steps_bind_pure (steps_bind_inspect fun _ _ _ _ => .refl)
  | setReaderIndex index =>
      exact steps_bind_pure (steps_revise named fun _ _ => Buffer.placed_setReaderIndex)
  | setWriterIndex index =>
      exact steps_bind_pure (steps_revise named fun _ _ => Buffer.placed_setWriterIndex)
  | setIndex reader writer =>
      exact steps_bind_pure (steps_revise named fun _ _ => Buffer.placed_setIndex)
  | clear =>
      refine steps_bind_pure (steps_revise named fun buffer placed done => ?_)
      exact Except.ok.inj done ▸ Buffer.placed_clear
  | markReader =>
      refine steps_bind_pure (steps_revise named fun buffer placed done => ?_)
      exact Except.ok.inj done ▸ Buffer.placed_markReader
  | markWriter =>
      refine steps_bind_pure (steps_revise named fun buffer placed done => ?_)
      exact Except.ok.inj done ▸ Buffer.placed_markWriter
  | resetReader =>
      exact steps_bind_pure (steps_revise named fun _ _ => Buffer.placed_setReaderIndex)
  | resetWriter =>
      exact steps_bind_pure (steps_revise named fun _ _ => Buffer.placed_setWriterIndex)
  | ensureWritable length => exact steps_bind_pure (steps_ensureWritable named)
  | setCapacity capacity => exact steps_bind_pure (steps_setCapacity named)
  | copy => exact steps_bind_pure (steps_copy fun source live => grants _ (.copy live))
  | copyRange index length =>
      exact steps_bind_pure (steps_copyRange fun source live => grants _ (.copyRange live))
  | slice => exact steps_bind_pure (steps_slice (derives trivial))
  | sliceRange index length => exact steps_bind_pure (steps_sliceRange (derives trivial))
  | duplicate => exact steps_bind_pure (steps_duplicate (derives trivial))

theorem steps_transfer {command : TransferCommand} (named : warrant.touches id)
    (alsoNamed : warrant.touches other) :
    Steps warrant store (runOn (command.perform id other length) store).2 := by
  cases command with
  | getBytesTo index => exact steps_getBytesTo alsoNamed
  | getBytesAt index otherIndex => exact steps_getBytesAt alsoNamed
  | setBytesFrom index => exact steps_setBytesFrom named alsoNamed
  | setBytesAt index otherIndex => exact steps_setBytesAt named
  | readBytesTo => exact steps_readBytesTo named alsoNamed
  | writeBytesFrom => exact steps_writeBytesFrom named alsoNamed

end Action

namespace Store

open CursorBuffers.Action

variable {store : Store}

/-- A command is a chain of single changes under its warrant. -/
theorem steps_run {command : Command} :
    Steps (command.warrant store) store (store.run command).2 := by
  unfold run
  cases command with
  | openRegistry => exact .single .openRegistry
  | openPool config settings registry =>
      exact steps_bind_pure (steps_openPool (.inr ⟨rfl, config, settings, registry, rfl⟩))
  | closePool pool => exact steps_bind_pure Action.steps_closePool
  | allocate allocator request =>
      exact steps_bind_pure (steps_allocate .allocate fun pool pooled => .inl (pooled ▸ rfl))
  | wrap source checking =>
      have covered := Command.covers_next (.wrap source checking) store
      refine steps_bind_pure ?_
      cases source with
      | block content config => exact steps_wrapBlock .wrapBlock
      | array content config => exact steps_wrapArray .wrapArray
      | bytes allocator content =>
          exact steps_wrapBytes covered .wrapBytes fun pool pooled => .inl (pooled ▸ rfl)
      | hex allocator text =>
          exact steps_wrapHex covered (fun bytes decoded short => .wrapHex decoded short)
            fun pool pooled => .inl (pooled ▸ rfl)
      | chunks content => exact steps_wrapChunks covered .wrapChunks
  | onBuffer id request =>
      refine steps_perform (.inl List.mem_cons_self) ?_ fun _ granted => granted
      exact fun view buffer live => ⟨by simp [live], request, rfl, view⟩
  | transfer id other request length =>
      refine steps_bind_pure (steps_transfer (.inl List.mem_cons_self) (.inl ?_))
      exact List.mem_cons_of_mem _ List.mem_cons_self
  | release id =>
      exact steps_bind_buffer fun buffer live => steps_release (.inl List.mem_cons_self)
        (.inl List.mem_cons_self) ⟨by simp [live], rfl⟩
  | drop id =>
      exact steps_bind_buffer fun _ _ => steps_drop (.inl List.mem_cons_self)
        (.inl List.mem_cons_self)

@[simp] theorem after_nil : store.after [] = store := rfl

theorem after_concat {commands : List Command} {command : Command} :
    store.after (commands ++ [command]) = ((store.after commands).run command).2 := by
  simp [after]

theorem after_append {commands later : List Command} :
    store.after (commands ++ later) = (store.after commands).after later :=
  List.foldl_append

theorem Reachable.run (reachable : store.Reachable) {command : Command} :
    (store.run command).2.Reachable := by
  obtain ⟨commands, rfl⟩ := reachable
  exact ⟨commands ++ [command], after_concat.symm⟩

theorem Reachable.after (reachable : store.Reachable) {commands : List Command} :
    (store.after commands).Reachable := by
  obtain ⟨earlier, rfl⟩ := reachable
  exact ⟨earlier ++ commands, after_append.symm⟩

/-- An invariant of the single changes is an invariant of runs. -/
theorem Reachable.induction {motive : Store → Prop} (reachable : store.Reachable)
    (empty : motive initial)
    (changed : ∀ {warrant before later}, Step warrant before later → motive before →
      motive later) : motive store := by
  obtain ⟨commands, rfl⟩ := reachable
  induction commands using List.reverseRecOn with
  | nil => exact empty
  | append_singleton commands command ih =>
      rw [after_concat]
      exact steps_run.preserve ih changed

end Store

end CursorBuffers
