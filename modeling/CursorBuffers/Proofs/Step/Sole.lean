import CursorBuffers.Proofs.Coverage

namespace CursorBuffers

/-- No other buffer is on the arena of a buffer. -/
def Store.Sole (store : Store) (id : BufferId) (buffer : Buffer) : Prop :=
  ∀ other window, store.buffers.get? other = some window → window.arena = buffer.arena → other = id

variable {warrant : Warrant} {store after : Store} {id : BufferId} {buffer : Buffer}

namespace Store

theorem arena_discard_of_ne {idle : Idle} {arena : ArenaId} (distinct : arena ≠ idle.arena) :
    (store.discard idle).arena arena = store.arena arena := by
  rw [discard, arena_markFreed_of_ne distinct, mapStats_frame.2.1]

theorem arena_reclaim_of_ne {pool : PoolId} {arena : ArenaId} (distinct : arena ≠ buffer.arena) :
    (store.reclaim pool buffer).arena arena = store.arena arena := by
  apply reclaim_induction (motive := fun after => after.arena arena = store.arena arena)
  · rfl
  · intro record after _ outcome
    cases outcome <;> simp [arena_markFreed_of_ne distinct]

theorem arena_free_of_ne {arena : ArenaId} (distinct : arena ≠ buffer.arena) :
    (store.free buffer).arena arena = store.arena arena := by
  apply free_induction (motive := fun after => after.arena arena = store.arena arena)
  · exact fun _ => rfl
  · intro event
    rw [emit_frame.2.1, arena_markFreed_of_ne distinct]

theorem WellHeld.arena_drainKey (held : store.WellHeld) {registry : RegistryId}
    {current : Registry} {key bytes : Nat}
    (opened : store.registries.get? registry = some current)
    (live : store.buffers.get? id = some buffer) :
    (Store.drainKey registry (store, bytes) key).1.arena buffer.arena =
      store.arena buffer.arena := by
  apply drainKey_induction
    (motive := fun between => between.arena buffer.arena = store.arena buffer.arena)
  · rfl
  · intro between idle member kept
    have queued : idle ∈ store.idle := by
      rw [(idle_drain opened).mem_iff, Registry.drain_fst]
      exact List.mem_append_left _ member
    rw [arena_discard_of_ne (held.idleApart queued live), kept]

end Store

namespace Store.Sole

variable {added : Buffer}

theorem addBuffer (sole : store.Sole id buffer) (buffers : after.buffers = store.buffers)
    (apart : added.arena ≠ buffer.arena) : (after.addBuffer added).Sole id buffer := by
  intro other window live same
  simp only [Store.addBuffer, Table.get?_add, buffers] at live
  split at live
  · cases live
    exact absurd same apart
  · exact sole other window live same

/-- Whoever is on the arena was there before. -/
theorem of_older (sole : store.Sole id buffer)
    (older : ∀ {other window}, after.buffers.get? other = some window →
      ∃ earlier, store.buffers.get? other = some earlier ∧ earlier.Akin window) :
    after.Sole id buffer := by
  intro other window live same
  obtain ⟨earlier, was, akin⟩ := older live
  exact sole other earlier was (akin.arena.symm.trans same)

end Store.Sole

namespace Step

open Store

/-- A step that touches no buffer on the arena of a live buffer does not touch that arena. -/
theorem arena_of_apart (step : Step warrant store after) (held : store.WellHeld)
    (live : store.buffers.get? id = some buffer)
    (elsewhere : ∀ {other window}, warrant.touches other →
      store.buffers.get? other = some window → buffer.arena ≠ window.arena) :
    after.arena buffer.arena = store.arena buffer.arena := by
  have known : buffer.arena ≠ store.arenas.next := Nat.ne_of_lt (held.known live)
  cases step with
  | stock serving served offered =>
      rw [mapStats_frame.2.1, setRegistry_frame.2.1, stocked, mapStats_frame.2.1, arena_addArena,
        if_neg known]
  | overstock serving served offered =>
      rw [arena_markFreed_of_ne known, setRegistry_frame.2.1, stocked, mapStats_frame.2.1,
        arena_addArena, if_neg known]
  | drain served =>
      obtain ⟨current, opened⟩ := Option.isSome_iff_exists.mp (held.registered _ _ served)
      exact held.arena_drainKey opened live
  | addArena => rw [arena_addArena, if_neg known]
  | create granted fresh => rw [addBuffer_frame.2.1, arena_addArena, if_neg known]
  | leaseFresh granted serving served valid none =>
      rw [addBuffer_frame.2.1, mapStats_frame.2.1, arena_addArena]
      exact if_neg known
  | leaseIdle granted served valid taken reserved =>
      obtain ⟨current, opened⟩ := Option.isSome_iff_exists.mp (held.registered _ _ served)
      have queued := (idle_poll opened taken).mem_iff.mpr List.mem_cons_self
      rw [addBuffer_frame.2.1, mapStats_frame.2.1, emit_frame.2.1,
        arena_setRegion_of_ne (held.idleApart queued live)]
      rfl
  | write named also guarded written => exact arena_setRegion_of_ne (elsewhere named also)
  | resize named also allowed accessible resized =>
      rw [mapBuffer_frame.2.1, emitGrowth_frame.2.1, arena_setRegion_of_ne (elsewhere named also)]
  | free named also frees => exact arena_free_of_ne (elsewhere named also)
  | reclaim named also leased => exact arena_reclaim_of_ne (elsewhere named also)
  | _ => rfl

/-- A step that does not touch a buffer does not touch the arena that it has to itself. -/
theorem arena_of_sole (step : Step warrant store after) (held : store.WellHeld)
    (live : store.buffers.get? id = some buffer) (sole : store.Sole id buffer)
    (unnamed : ¬ warrant.touches id) : after.arena buffer.arena = store.arena buffer.arena :=
  step.arena_of_apart held live fun named also same =>
    unnamed (sole _ _ also same.symm ▸ named)

/-- A step that opens no window on a buffer puts no other buffer on the arena that it has to
itself. -/
theorem sole (step : Step warrant store after) (held : store.WellHeld)
    (live : store.buffers.get? id = some buffer) (sole : store.Sole id buffer)
    (underived : ¬ warrant.derives id) : after.Sole id buffer := by
  have known : store.arenas.next ≠ buffer.arena := Nat.ne_of_gt (held.known live)
  have kept : ∀ {later : Store}, later.buffers = store.buffers → later.Sole id buffer :=
    fun same => sole.of_older fun also => ⟨_, same ▸ also, .refl⟩
  cases step with
  | drain served => exact kept buffers_drainKey
  | free named also frees => exact kept buffers_free
  | create granted fresh => exact sole.addBuffer rfl (fresh.arena ▸ known)
  | leaseFresh granted serving served valid none => exact sole.addBuffer rfl known
  | leaseIdle granted served valid taken reserved =>
      obtain ⟨current, opened⟩ := Option.isSome_iff_exists.mp (held.registered _ _ served)
      have queued := (idle_poll opened taken).mem_iff.mpr List.mem_cons_self
      exact sole.addBuffer rfl (held.idleApart queued live).symm
  | derive named also accessible derived =>
      refine sole.addBuffer rfl fun same => underived ?_
      have here := sole _ _ also (by cases derived <;> exact same)
      exact here ▸ named
  | place named also moved =>
      exact sole.of_older fun found => BuffersChanged.older_update also moved.akin found
  | resize named also allowed accessible resized =>
      refine sole.of_older fun found => ?_
      rw [mapBuffer, emitGrowth_frame.2.2.1] at found
      exact BuffersChanged.older_update also Buffer.akin_withCapacity found
  | vacate named also unleased =>
      exact sole.of_older fun found => ⟨_, Covered.windows_vacate found, .refl⟩
  | reclaim named also leased =>
      refine sole.of_older fun found => ?_
      rw [buffers_reclaim] at found
      exact ⟨_, Covered.windows_vacate found, .refl⟩
  | _ => exact kept rfl

end Step

/-- What is done to other buffers leaves a buffer and the arena that it has to itself alone. -/
theorem Steps.sole (steps : Steps warrant store after) (held : store.WellHeld)
    (live : store.buffers.get? id = some buffer) (sole : store.Sole id buffer)
    (unnamed : ¬ warrant.touches id) (underived : ¬ warrant.derives id) :
    after.buffers.get? id = some buffer ∧ after.arena buffer.arena = store.arena buffer.arena ∧
      after.Sole id buffer := by
  induction steps with
  | refl => exact ⟨live, rfl, sole⟩
  | tail earlier step ih =>
      obtain ⟨stays, same, still⟩ := ih
      have betweenHeld := Steps.wellHeld earlier held
      refine ⟨step.buffers.untouched unnamed stays, ?_, step.sole betweenHeld stays still underived⟩
      rw [step.arena_of_sole betweenHeld stays still unnamed, same]

end CursorBuffers
