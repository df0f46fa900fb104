import CursorBuffers.Proofs.Coverage

namespace CursorBuffers

/-- Where a buffer that is no window finds its arena: it is new, or it waited in a queue. -/
inductive Housed (store after : Store) (buffer : Buffer) : Prop
  | new (here : buffer.arena = store.arenas.next)
      (whole : (after.arena buffer.arena).region.size = buffer.capacity)
  | reused {registry : RegistryId} {entry : Idle} {rest : Registry}
      (taken : (store.registry registry).poll buffer.maxCapacity = some (entry, rest))
      (here : entry.arena = buffer.arena) (pooled : buffer.pooled = true)

/-- What a change does to the buffers as a whole. -/
inductive Joined (warrant : Warrant) (store after : Store) : Prop
  | nobody (older : ∀ {id buffer}, after.buffers.get? id = some buffer →
      ∃ earlier, store.buffers.get? id = some earlier ∧ earlier.Akin buffer)
  | first {buffer : Buffer} (added : after.buffers = store.buffers.add buffer)
      (origin : buffer.origin = store.buffers.next) (offset : buffer.offset = 0)
      (role : buffer.role = .owner) (leased : buffer.pooled = true → buffer.recycler ≠ none)
      (alone : ∀ {id other}, store.buffers.get? id = some other → other.arena ≠ buffer.arena)
      (housed : Housed store after buffer) (intact : (after.arena buffer.arena).freed = false)
  | window {id : BufferId} {source view : Buffer}
      (added : after.buffers = store.buffers.add view) (named : warrant.derives id)
      (live : store.buffers.get? id = some source) (derived : source.Derived view)
      (arenas : after.arenas = store.arenas)

variable {warrant : Warrant} {store after : Store}

open Store in
theorem Step.joined (step : Step warrant store after) (held : store.WellHeld) :
    Joined warrant store after := by
  have kept : ∀ {later : Store}, later.buffers = store.buffers → Joined warrant store later :=
    fun same => .nobody fun live => ⟨_, same ▸ live, .refl⟩
  have unknown : ∀ {id other}, store.buffers.get? id = some other →
      other.arena ≠ store.arenas.next := fun live => Nat.ne_of_lt (held.known live)
  cases step with
  | create granted fresh =>
      refine .first rfl fresh.origin fresh.offset fresh.role
        (fun pooled => by simp [fresh.pooled] at pooled) (fun live => fresh.arena ▸ unknown live)
        (.new fresh.arena ?_) ?_
      · rw [fresh.arena, fresh.capacity, addBuffer_frame.2.1, arena_addArena, if_pos rfl]
      · rw [fresh.arena, addBuffer_frame.2.1, arena_addArena, if_pos rfl]
  | leaseFresh granted serving served valid none =>
      refine .first rfl rfl rfl rfl (fun _ => Option.some_ne_none _) unknown (.new rfl ?_) ?_
      · simp [Buffer.leased, Buffer.ofAllocation, arena_addArena]
      · simp [Buffer.leased, Buffer.ofAllocation, arena_addArena]
  | @leaseIdle id pool request idle rest region granted served valid taken reserved =>
      obtain ⟨current, opened⟩ := Option.isSome_iff_exists.mp (held.registered id pool served)
      have queued : idle ∈ store.idle := (idle_poll opened taken).mem_iff.mpr List.mem_cons_self
      refine .first rfl rfl rfl rfl (fun _ => Option.some_ne_none _) (held.idleApart queued)
        (.reused taken rfl rfl) ?_
      have intact : (store.arena idle.arena).freed = false := held.intact (.inr ⟨idle, queued, rfl⟩)
      simpa [unqueued, Buffer.leased, Buffer.ofAllocation] using intact
  | derive named live accessible derived => exact .window rfl named live derived rfl
  | place named live moved =>
      exact .nobody fun also => BuffersChanged.older_update live moved.akin also
  | resize named live allowed accessible resized =>
      refine .nobody fun also => ?_
      rw [mapBuffer, emitGrowth_frame.2.2.1] at also
      exact BuffersChanged.older_update live Buffer.akin_withCapacity also
  | vacate named live unleased => exact .nobody fun also => ⟨_, Covered.windows_vacate also, .refl⟩
  | reclaim named live leased =>
      refine .nobody fun also => ?_
      rw [buffers_reclaim] at also
      exact ⟨_, Covered.windows_vacate also, .refl⟩
  | drain served => exact kept buffers_drainKey
  | free named live frees => exact kept buffers_free
  | _ => exact kept rfl

end CursorBuffers
