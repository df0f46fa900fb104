import CursorBuffers.Proofs.Accounts.Leases
import CursorBuffers.Proofs.Exposure
import CursorBuffers.Proofs.Step.Joining

namespace CursorBuffers

variable {warrant : Warrant} {store between after : Store} {id : BufferId} {buffer : Buffer}
variable {arena : ArenaId}

/-- Why an arena is freed after a change. -/
inductive Cause (warrant : Warrant) (store : Store) (arena : ArenaId) : Prop
  | earlier (freed : (store.arena arena).freed = true)
  | released {id : BufferId} {buffer : Buffer} (freeing : warrant.frees id)
      (live : store.buffers.get? id = some buffer) (here : buffer.arena = arena)
      (frees : Store.frees buffer = true)
  | reclaimed {id : BufferId} {buffer : Buffer} (live : store.buffers.get? id = some buffer)
      (here : buffer.arena = arena) (leased : buffer.recycler ≠ none)
  | refused (new : arena = store.arenas.next)
  | drained {entry : Idle} (queued : entry ∈ store.idle) (here : entry.arena = arena)

open Store in
theorem Step.cause (step : Step warrant store after) (held : store.WellHeld)
    (freed : (after.arena arena).freed = true) : Cause warrant store arena := by
  cases step with
  | stock serving served offered => exact .earlier (by simpa [stocked, freed_addArena] using freed)
  | overstock serving served offered =>
      by_cases new : arena = store.arenas.next
      · exact .refused new
      · rw [arena_markFreed_of_ne new] at freed
        exact .earlier (by simpa [stocked, freed_addArena] using freed)
  | @drain pool record key served =>
      obtain ⟨current, opened⟩ := Option.isSome_iff_exists.mp (held.registered _ _ served)
      revert freed
      apply drainKey_induction
        (motive := fun between => (between.arena arena).freed = true → Cause warrant store arena)
      · exact fun freed => .earlier freed
      · intro between idle member cause freed
        by_cases here : arena = idle.arena
        · have queued : idle ∈ ((store.registry record.registry).drain key).1 := by
            rwa [Registry.drain_fst]
          exact .drained ((idle_drain opened).mem_iff.mpr (List.mem_append_left _ queued)) here.symm
        · rw [arena_discard_of_ne here] at freed
          exact cause freed
  | addArena => exact .earlier (by simpa [freed_addArena] using freed)
  | create granted fresh => exact .earlier (by simpa [freed_addArena] using freed)
  | leaseFresh granted serving served valid none =>
      exact .earlier (by simpa [freed_addArena] using freed)
  | leaseIdle granted served valid taken reserved =>
      exact .earlier (by simpa [unqueued] using freed)
  | write named live guarded written => exact .earlier (by simpa using freed)
  | resize named live allowed accessible resized => exact .earlier (by simpa using freed)
  | @free id buffer named live frees freeing =>
      by_cases here : arena = buffer.arena
      · exact .released freeing live here.symm frees
      · rw [arena_free_of_ne here] at freed
        exact .earlier freed
  | @reclaim id buffer pool named live leased ending =>
      by_cases here : arena = buffer.arena
      · exact .reclaimed live here.symm (by simp [leased])
      · rw [arena_reclaim_of_ne here] at freed
        exact .earlier freed
  | _ => exact .earlier freed

/-- A buffer that the warrant frees by is on the arena, and its release frees it. -/
def Store.Releases (store : Store) (warrant : Warrant) (arena : ArenaId) : Prop :=
  ∃ id buffer, warrant.frees id ∧ store.buffers.get? id = some buffer ∧ buffer.arena = arena ∧
    frees buffer = true

/-- If the arena of an unpooled buffer is freed after a change, there was an unpooled buffer on it
before, and the arena was freed already or such a buffer was released. -/
theorem Step.release_of_freed (step : Step warrant store after) (held : store.WellHeld)
    (live : after.buffers.get? id = some buffer) (unpooled : buffer.pooled = false)
    (freed : (after.arena buffer.arena).freed = true) :
    (∃ other source, store.buffers.get? other = some source ∧ source.arena = buffer.arena ∧
      source.pooled = false) ∧
    ((store.arena buffer.arena).freed = true ∨ store.Releases warrant buffer.arena) := by
  have found : ∃ other source, store.buffers.get? other = some source ∧
      source.arena = buffer.arena ∧ source.pooled = false := by
    cases step.joined held with
    | nobody older =>
        obtain ⟨earlier, was, akin⟩ := older live
        exact ⟨id, earlier, was, akin.arena.symm, akin.pooled.symm.trans unpooled⟩
    | window added named was derived arenas =>
        rcases Table.get?_add_cases (added ▸ live) with ⟨_, rfl⟩ | old
        · refine ⟨_, _, was, ?_, ?_⟩
          · cases derived <;> rfl
          · cases derived <;> exact unpooled
        · exact ⟨id, buffer, old, rfl, unpooled⟩
    | first added origin offset role leased alone housed intact =>
        rcases Table.get?_add_cases (added ▸ live) with ⟨_, rfl⟩ | old
        · rw [intact] at freed
          contradiction
        · exact ⟨id, buffer, old, rfl, unpooled⟩
  refine ⟨found, ?_⟩
  obtain ⟨other, source, was, here, unpooled⟩ := found
  cases step.cause held freed with
  | earlier freed => exact .inl freed
  | released freeing also there frees => exact .inr ⟨_, _, freeing, also, there, frees⟩
  | reclaimed also there leased =>
      have pooled := (held.family was also (here.trans there.symm)).2
      rw [held.leased also leased, unpooled] at pooled
      contradiction
  | refused new => exact absurd (here.trans new) (Nat.ne_of_lt (held.known was))
  | drained queued there => exact absurd (here.trans there.symm) (held.idleApart queued was)

/-- The same for a chain of changes, if it releases only what was there at its beginning. -/
theorem Steps.release_of_freed (steps : Steps warrant store after) (held : store.WellHeld)
    (known : ∀ id, warrant.frees id → id < store.buffers.next)
    (live : after.buffers.get? id = some buffer) (unpooled : buffer.pooled = false)
    (freed : (after.arena buffer.arena).freed = true) :
    (∃ other source, store.buffers.get? other = some source ∧ source.arena = buffer.arena ∧
      source.pooled = false ∧ (store.arena buffer.arena).freed = true) ∨
    store.Releases warrant buffer.arena := by
  induction steps generalizing id buffer with
  | refl => exact .inl ⟨id, buffer, live, rfl, unpooled, freed⟩
  | @tail between after earlier step ih =>
      obtain ⟨⟨other, source, was, here, unpooled⟩, cause⟩ :=
        step.release_of_freed (Steps.wellHeld earlier held) live unpooled freed
      rcases cause with freed | ⟨named, released, freeing, also, there, frees⟩
      · rw [← here] at freed ⊢
        exact ih was unpooled freed
      · obtain ⟨first, start, akin⟩ := Steps.older earlier (known named freeing) also
        refine .inr ⟨named, first, freeing, start, akin.arena.symm.trans there, ?_⟩
        simpa [Store.frees, akin.pooled, akin.role] using frees

/-- A buffer lives on, or the change is its end. -/
theorem Step.stays_or (step : Step warrant store after)
    (live : store.buffers.get? id = some buffer) :
    (∃ later, after.buffers.get? id = some later ∧ buffer.Akin later) ∨
      warrant.ends id ∧ (buffer.recycler = none ∨ ∃ pool, buffer.recycler = some pool ∧
        after = (store.vacate id).reclaim pool buffer) := by
  have added : ∀ {other : Buffer}, (store.buffers.add other).get? id = some buffer :=
    Table.get?_add_of_get? live
  have updated : ∀ {other : BufferId} {old new : Buffer}, store.buffers.get? other = some old →
      old.Akin new → ∃ later, (store.buffers.update other fun _ => new).get? id = some later ∧
        buffer.Akin later := by
    intro other old new was akin
    rw [Table.get?_update]
    split
    · rename_i here
      subst here
      cases live.symm.trans was
      exact ⟨new, by rw [live]; rfl, akin⟩
    · exact ⟨buffer, live, .refl⟩
  cases step with
  | create granted fresh => exact .inl ⟨buffer, added, .refl⟩
  | leaseFresh granted serving served valid none => exact .inl ⟨buffer, added, .refl⟩
  | leaseIdle granted served valid taken reserved => exact .inl ⟨buffer, added, .refl⟩
  | derive named was accessible derived => exact .inl ⟨buffer, added, .refl⟩
  | place named was moved => exact .inl (updated was moved.akin)
  | resize named was allowed accessible resized =>
      rw [Store.mapBuffer, Store.emitGrowth_frame.2.2.1]
      exact .inl (updated was Buffer.akin_withCapacity)
  | drain served =>
      rw [Store.buffers_drainKey]
      exact .inl ⟨buffer, live, .refl⟩
  | free named was frees freeing =>
      rw [Store.buffers_free]
      exact .inl ⟨buffer, live, .refl⟩
  | @vacate other ended named was unleased ending =>
      by_cases here : id = other
      · subst here
        cases live.symm.trans was
        exact .inr ⟨ending, .inl unleased⟩
      · exact .inl ⟨buffer, by rw [Store.vacate, Table.get?_vacate, if_neg here, live], .refl⟩
  | @reclaim other ended pool named was leased ending =>
      by_cases here : id = other
      · subst here
        cases live.symm.trans was
        exact .inr ⟨ending, .inr ⟨pool, leased, rfl⟩⟩
      · refine .inl ⟨buffer, ?_, .refl⟩
        rw [Store.buffers_reclaim, Store.vacate, Table.get?_vacate, if_neg here, live]
  | _ => exact .inl ⟨buffer, live, .refl⟩

/-- A buffer that a chain of changes does not end lives on. -/
theorem Steps.stays (steps : Steps warrant store after) (lasting : ¬ warrant.ends id)
    (live : store.buffers.get? id = some buffer) :
    ∃ later, after.buffers.get? id = some later ∧ buffer.Akin later := by
  induction steps with
  | refl => exact ⟨buffer, live, .refl⟩
  | tail earlier step ih =>
      obtain ⟨middle, found, early⟩ := ih
      rcases step.stays_or found with ⟨later, stays, late⟩ | ⟨ending, _⟩
      · exact ⟨later, stays, early.trans late⟩
      · exact absurd ending lasting

section Lease

open Store

/-- The buffer has the lease of an arena from a pool. -/
def Store.Leases (store : Store) (owner : BufferId) (arena : ArenaId) : Prop :=
  ∃ buffer, store.buffers.get? owner = some buffer ∧ buffer.recycler ≠ none ∧
    buffer.arena = arena

/-- The buffers that a lease has brought. -/
structure Store.Tended (store : Store) : Prop where
  /-- The first of them has the lease. -/
  first : ∀ {id buffer}, store.buffers.get? id = some buffer → buffer.origin = id →
    buffer.pooled = true → buffer.recycler ≠ none
  /-- The others have outlived the lease only if the arena is freed. -/
  others : ∀ {id buffer}, store.buffers.get? id = some buffer → buffer.pooled = true →
    (store.arena buffer.arena).freed = true ∨ store.Leases buffer.origin buffer.arena

theorem Store.freed_markFreed (stored : (store.arenas.get? arena).isSome) :
    ((store.markFreed arena).arena arena).freed = true := by
  obtain ⟨record, stored⟩ := Option.isSome_iff_exists.mp stored
  simp [Store.arena, markFreed, Table.get?_update, stored]

/-- Where somebody else is still on the arena of a lease that ends, the arena is freed. -/
theorem Store.freed_of_reclaim {owner : BufferId} {lent window : Buffer} {pool : PoolId}
    (stored : (store.arenas.get? lent.arena).isSome)
    (served : (store.pools.get? pool).isSome)
    (stays : ((store.vacate owner).reclaim pool lent).buffers.get? id = some window)
    (shared : window.arena = lent.arena) :
    (((store.vacate owner).reclaim pool lent).arena lent.arena).freed = true := by
  obtain ⟨record, found⟩ := Option.isSome_iff_exists.mp served
  rw [buffers_reclaim] at stays
  have outcome : Reclaimed (store.vacate owner) pool record lent _ := reclaim_outcome found
  generalize (store.vacate owner).reclaim pool lent = after at outcome ⊢
  cases outcome with
  | queued opened intact unheld offered =>
      exact absurd shared ((holders_eq_zero_iff.mp unheld).1 id window stays)
  | _ => exact freed_markFreed (by simpa using stored)

/-- Whoever is on the arena of a lease after a change has outlived it only if the arena is freed. -/
theorem Step.outlived (step : Step warrant store after) (covered : store.Covered)
    (lent : store.Lent) (tended : store.Tended) (live : after.buffers.get? id = some buffer)
    (pooled : buffer.pooled = true) :
    (after.arena buffer.arena).freed = true ∨ after.Leases buffer.origin buffer.arena := by
  have held : store.WellHeld := covered.held
  -- Whoever shares the arena, and the origin, of a buffer that was there before.
  have shared : ∀ {other source}, store.buffers.get? other = some source →
      source.arena = buffer.arena → source.origin = buffer.origin → source.pooled = true →
      (after.arena buffer.arena).freed = true ∨ after.Leases buffer.origin buffer.arena := by
    intro other source was here origin alsoPooled
    rcases tended.others was alsoPooled with freed | ⟨owner, found, leased, there⟩
    · exact .inl (step.freed (here ▸ freed))
    · rw [origin] at found
      rw [here] at there
      rcases step.stays_or found with ⟨later, stays, akin⟩ | ⟨_, unleased | ⟨pool, also, rfl⟩⟩
      · exact .inr ⟨later, stays, akin.recycler ▸ leased, akin.arena.trans there⟩
      · exact absurd unleased leased
      · obtain ⟨_, record, served⟩ := lent found also
        rw [← there]
        exact .inl (freed_of_reclaim (covered.standing _ (held.known found)) (by simp [served])
          live there.symm)
  cases step.joined held with
  | nobody older =>
      obtain ⟨earlier, was, akin⟩ := older live
      exact shared was akin.arena.symm akin.origin.symm (akin.pooled.symm.trans pooled)
  | window added named was derived arenas =>
      rcases Table.get?_add_cases (added ▸ live) with ⟨_, rfl⟩ | old
      · refine shared was ?_ ?_ ?_
        · cases derived <;> rfl
        · cases derived <;> rfl
        · cases derived <;> exact pooled
      · exact shared old rfl rfl pooled
  | first added origin offset role leased alone housed intact =>
      rcases Table.get?_add_cases (added ▸ live) with ⟨new, rfl⟩ | old
      · exact .inr ⟨buffer, origin.trans new.symm ▸ live, leased pooled, rfl⟩
      · exact shared old rfl rfl pooled

theorem Step.tended (step : Step warrant store after) (covered : store.Covered)
    (lent : store.Lent) (kin : store.Kin) (tended : store.Tended) : after.Tended where
  first {id buffer} live own pooled := by
    cases step.joined covered.held with
    | nobody older =>
        obtain ⟨earlier, was, akin⟩ := older live
        rw [akin.recycler]
        exact tended.first was (akin.origin.symm.trans own) (akin.pooled.symm.trans pooled)
    | @window parent source view added named was derived arenas =>
        rcases Table.get?_add_cases (added ▸ live) with ⟨new, rfl⟩ | old
        · -- The origin of a window is older than the window.
          have origin : buffer.origin = source.origin := by cases derived <;> rfl
          have older : source.origin < store.buffers.next :=
            Nat.lt_of_le_of_lt (kin.older was) (Table.lt_next_of_get? was)
          exact absurd (origin.symm.trans (own.trans new)) (Nat.ne_of_lt older)
        · exact tended.first old own pooled
    | first added origin offset role leased alone housed intact =>
        rcases Table.get?_add_cases (added ▸ live) with ⟨_, rfl⟩ | old
        · exact leased pooled
        · exact tended.first old own pooled
  others live pooled := step.outlived covered lent tended live pooled

theorem Store.Reachable.tended (reachable : store.Reachable) : store.Tended := by
  have all : store.Covered ∧ store.Sound ∧ store.Kin ∧ store.Tended := by
    refine reachable.induction
      (motive := fun store => store.Covered ∧ store.Sound ∧ store.Kin ∧ store.Tended) ?_
      fun step kept => ?_
    · have reachable : initial.Reachable := ⟨[], rfl⟩
      have none : ∀ {id}, initial.buffers.get? id = none := fun {id} =>
        Table.get?_eq_none_of_next_le (Nat.zero_le id)
      refine ⟨reachable.covered, reachable.sound, reachable.kin, ?_⟩
      constructor <;> intros <;> simp_all
    · obtain ⟨covered, sound, kin, tended⟩ := kept
      exact ⟨step.covered covered, step.sound sound, step.kin kin,
        step.tended covered sound.lent kin tended⟩
  exact all.2.2.2

end Lease

/-- The event logs the release of the arena. -/
def Event.releases (arena : ArenaId) : Event → Bool
  | .released other _ _ _ => other == arena
  | _ => false

namespace Store

/-- How often the arena was logged as released. -/
def releaseCount (store : Store) (arena : ArenaId) : Nat :=
  store.events.countP (Event.releases arena)

/-- An arena that was not freed was not logged as released, and no other one more than once. -/
def ReleasedOnce (store : Store) : Prop :=
  ∀ arena, store.releaseCount arena ≤ if (store.arena arena).freed then 1 else 0

theorem ReleasedOnce.keep (once : store.ReleasedOnce)
    (logged : ∀ arena, after.releaseCount arena = store.releaseCount arena)
    (freed : ∀ {arena}, (store.arena arena).freed = true → (after.arena arena).freed = true) :
    after.ReleasedOnce := by
  intro arena
  rw [logged]
  refine Nat.le_trans (once arena) ?_
  cases was : (store.arena arena).freed with
  | false => exact Nat.zero_le _
  | true => exact Nat.le_of_eq (by rw [freed was])

@[simp] theorem releaseCount_emit {event : Event} :
    (store.emit event).releaseCount arena =
      store.releaseCount arena + if event.releases arena then 1 else 0 := by
  simp [releaseCount, emit, Array.countP_push]

@[simp] theorem releaseCount_emitGrowth {capacity : Nat} :
    (store.emitGrowth buffer capacity).releaseCount arena = store.releaseCount arena := by
  unfold emitGrowth
  split
  · exact releaseCount_emit
  · rfl

theorem releaseCount_drainKey {registry : RegistryId} {key bytes : Nat} :
    (drainKey registry (store, bytes) key).1.releaseCount arena = store.releaseCount arena := by
  apply drainKey_induction
    (motive := fun between => between.releaseCount arena = store.releaseCount arena)
  · rfl
  · exact fun between idle member same => same

theorem releaseCount_reclaim {pool : PoolId} :
    (store.reclaim pool buffer).releaseCount arena = store.releaseCount arena := by
  apply reclaim_induction (motive := fun after => after.releaseCount arena =
    store.releaseCount arena)
  · rfl
  · intro record after _ outcome
    cases outcome with
    | closed closed => rfl
    | unfit opened unfit => exact releaseCount_emit
    | queued opened intact unheld offered => exact releaseCount_emit
    | refused opened intact unheld offered => exact releaseCount_emit

/-- A release logs an arena that was not freed, and frees it. -/
theorem ReleasedOnce.free (once : store.ReleasedOnce)
    (stored : (store.arenas.get? buffer.arena).isSome) : (store.free buffer).ReleasedOnce := by
  simp only [Store.free]
  split
  · exact once
  · rename_i intact
    intro arena
    rw [releaseCount_emit, emit_frame.2.1]
    have before := once arena
    by_cases here : buffer.arena = arena
    · subst here
      rw [if_neg intact] at before
      rw [freed_markFreed stored]
      simpa [Event.releases, releaseCount, markFreed] using before
    · rw [arena_markFreed_of_ne (Ne.symm here)]
      simpa [Event.releases, here, releaseCount, markFreed] using before

end Store

open Store in
theorem Step.releasedOnce (step : Step warrant store after) (covered : store.Covered)
    (once : store.ReleasedOnce) : after.ReleasedOnce := by
  have keep : (∀ arena, after.releaseCount arena = store.releaseCount arena) →
      after.ReleasedOnce := fun logged => once.keep logged step.freed
  cases step with
  | free named live frees freeing =>
      exact once.free (covered.standing _ (covered.held.known live))
  | drain served => exact keep fun _ => releaseCount_drainKey
  | reclaim named live leased ending => exact keep fun _ => releaseCount_reclaim
  | resize named live allowed accessible resized => exact keep fun _ => releaseCount_emitGrowth
  | log => exact keep fun _ => releaseCount_emit
  | leaseFresh granted serving served valid none => exact keep fun _ => releaseCount_emit
  | leaseIdle granted served valid taken reserved => exact keep fun _ => releaseCount_emit
  | _ => exact keep fun _ => rfl

theorem Store.Reachable.releasedOnce (reachable : store.Reachable) : store.ReleasedOnce := by
  have both : store.Covered ∧ store.ReleasedOnce := by
    refine reachable.induction (motive := fun store => store.Covered ∧ store.ReleasedOnce)
      ⟨Reachable.covered ⟨[], rfl⟩, fun _ => Nat.zero_le _⟩ fun step kept => ?_
    exact ⟨step.covered kept.1, step.releasedOnce kept.1 kept.2⟩
  exact both.2

end CursorBuffers
