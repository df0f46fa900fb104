import CursorBuffers.Proofs.Step.Commands

namespace CursorBuffers

/-- An owner of a lease is on the arena, or it is queued. -/
def Store.Pooled (store : Store) (arena : ArenaId) : Prop :=
  (∃ id buffer, store.buffers.get? id = some buffer ∧ buffer.arena = arena ∧
    buffer.recycler ≠ none) ∨ ∃ idle ∈ store.idle, idle.arena = arena

/-- The registries of all pools exist. -/
def Store.Registered (store : Store) : Prop :=
  ∀ id pool, store.pools.get? id = some pool → (store.registries.get? pool.registry).isSome

section Registered

variable {warrant : Warrant} {store after : Store}

theorem Store.Registered.of_identity (registered : store.Registered)
    (same : ∀ id, after.identity? id = store.identity? id)
    (kept : ∀ id, (store.registries.get? id).isSome → (after.registries.get? id).isSome) :
    after.Registered := by
  intro id pool served
  have known : after.identity? id = some pool.identity := identity?_of_served served
  rw [same] at known
  obtain ⟨earlier, was, _, _, _, registry⟩ := served_of_identity? known
  exact kept _ (registry ▸ registered id earlier was)

theorem Step.registered (step : Step warrant store after) (registered : store.Registered) :
    after.Registered := by
  rcases step.identity? with same | ⟨config, settings, registry, current, opened, added⟩
  · exact registered.of_identity same fun id => step.registries
  · intro id pool served
    rw [added, Table.get?_add] at served
    split at served
    · cases served
      exact step.registries (Option.isSome_iff_exists.mpr ⟨current, opened⟩)
    · exact step.registries (registered id pool served)

end Registered

/-- An arena is held either by the buffers of one creation or by one queue entry, and as long as a
pool depends on it nobody has freed it. -/
structure Store.WellHeld (store : Store) : Prop where
  known : ∀ {id buffer}, store.buffers.get? id = some buffer → buffer.arena < store.arenas.next
  /-- Buffers on one arena come from one creation. -/
  family : ∀ {first second one other}, store.buffers.get? first = some one →
    store.buffers.get? second = some other → one.arena = other.arena →
    one.origin = other.origin ∧ one.pooled = other.pooled
  leased : ∀ {id buffer}, store.buffers.get? id = some buffer → buffer.recycler ≠ none →
    buffer.pooled = true
  sole : ∀ {first second one other}, store.buffers.get? first = some one →
    store.buffers.get? second = some other → one.recycler ≠ none → other.recycler ≠ none →
    one.arena = other.arena → first = second
  idleKnown : ∀ {idle}, idle ∈ store.idle → idle.arena < store.arenas.next
  idleApart : ∀ {idle id buffer}, idle ∈ store.idle → store.buffers.get? id = some buffer →
    buffer.arena ≠ idle.arena
  idleDistinct : (store.idle.map (·.arena)).Nodup
  intact : ∀ {arena}, store.Pooled arena → (store.arena arena).freed = false
  registered : store.Registered

namespace Store.WellHeld

variable {store after : Store} {buffer : Buffer} {idle : Idle}

/-- A store without new holders, in which no arena that a pool depends on was freed. -/
theorem shrink (held : store.WellHeld)
    (older : ∀ {id buffer}, after.buffers.get? id = some buffer →
      ∃ earlier, store.buffers.get? id = some earlier ∧ earlier.Akin buffer)
    (idle : ∃ gone, store.idle.Perm (gone ++ after.idle))
    (next : store.arenas.next ≤ after.arenas.next)
    (intact : ∀ {arena}, after.Pooled arena → arena < store.arenas.next →
      (store.arena arena).freed = false → (after.arena arena).freed = false)
    (registered : after.Registered) : after.WellHeld := by
  obtain ⟨gone, idle⟩ := idle
  have member : ∀ {entry}, entry ∈ after.idle → entry ∈ store.idle := fun inside =>
    idle.mem_iff.mpr (List.mem_append_right _ inside)
  constructor
  · intro id buffer live
    obtain ⟨earlier, was, akin⟩ := older live
    rw [akin.arena]
    exact Nat.lt_of_lt_of_le (held.known was) next
  · intro first second one other firstLive secondLive same
    obtain ⟨oneEarlier, firstWas, oneAkin⟩ := older firstLive
    obtain ⟨otherEarlier, secondWas, otherAkin⟩ := older secondLive
    rw [oneAkin.arena, otherAkin.arena] at same
    rw [oneAkin.origin, otherAkin.origin, oneAkin.pooled, otherAkin.pooled]
    exact held.family firstWas secondWas same
  · intro id buffer live leased
    obtain ⟨earlier, was, akin⟩ := older live
    rw [akin.pooled]
    exact held.leased was (akin.recycler ▸ leased)
  · intro first second one other firstLive secondLive oneLeased otherLeased same
    obtain ⟨oneEarlier, firstWas, oneAkin⟩ := older firstLive
    obtain ⟨otherEarlier, secondWas, otherAkin⟩ := older secondLive
    rw [oneAkin.arena, otherAkin.arena] at same
    exact held.sole firstWas secondWas (oneAkin.recycler ▸ oneLeased)
      (otherAkin.recycler ▸ otherLeased) same
  · intro entry inside
    exact Nat.lt_of_lt_of_le (held.idleKnown (member inside)) next
  · intro entry id buffer inside live
    obtain ⟨earlier, was, akin⟩ := older live
    rw [akin.arena]
    exact held.idleApart (member inside) was
  · have distinct : ((gone ++ after.idle).map (·.arena)).Nodup :=
      (idle.map _).nodup_iff.mp held.idleDistinct
    rw [List.map_append] at distinct
    exact (List.nodup_append.mp distinct).2.1
  · intro arena pooled
    have pooledBefore : store.Pooled arena := by
      rcases pooled with ⟨id, buffer, live, same, leased⟩ | ⟨entry, inside, same⟩
      · obtain ⟨earlier, was, akin⟩ := older live
        exact .inl ⟨id, earlier, was, akin.arena ▸ same, akin.recycler ▸ leased⟩
      · exact .inr ⟨entry, member inside, same⟩
    have known : arena < store.arenas.next := by
      rcases pooledBefore with ⟨id, buffer, was, rfl, _⟩ | ⟨entry, inside, rfl⟩
      · exact held.known was
      · exact held.idleKnown inside
    exact intact pooled known (held.intact pooledBefore)
  · exact registered

theorem keep (held : store.WellHeld) (buffers : after.buffers = store.buffers)
    (idle : store.idle.Perm after.idle) (next : store.arenas.next ≤ after.arenas.next)
    (unfreed : ∀ {arena}, arena < store.arenas.next → (store.arena arena).freed = false →
      (after.arena arena).freed = false)
    (registered : after.Registered) : after.WellHeld :=
  held.shrink (fun live => ⟨_, buffers ▸ live, .refl⟩) ⟨[], idle⟩ next (fun _ => unfreed) registered

/-- A new buffer joins the family of its arena, or is the first one there. -/
theorem addBuffer (held : store.WellHeld) (known : buffer.arena < store.arenas.next)
    (family : ∀ {id other}, store.buffers.get? id = some other → other.arena = buffer.arena →
      other.origin = buffer.origin ∧ other.pooled = buffer.pooled)
    (apart : ∀ {idle}, idle ∈ store.idle → buffer.arena ≠ idle.arena)
    (leased : buffer.recycler ≠ none → buffer.pooled = true ∧
      (store.arena buffer.arena).freed = false ∧
      ∀ {id other}, store.buffers.get? id = some other → other.arena ≠ buffer.arena) :
    (store.addBuffer buffer).WellHeld := by
  have newOrOld : ∀ {id other}, (store.addBuffer buffer).buffers.get? id = some other →
      (id = store.buffers.next ∧ other = buffer) ∨ store.buffers.get? id = some other := by
    intro id other live
    simp only [Store.addBuffer, Table.get?_add] at live
    split at live
    · rename_i new
      exact .inl ⟨new, (Option.some.inj live).symm⟩
    · exact .inr live
  constructor
  · intro id other live
    rcases newOrOld live with ⟨_, rfl⟩ | was
    · exact known
    · exact held.known was
  · intro first second one other firstLive secondLive same
    rcases newOrOld firstLive with ⟨_, rfl⟩ | firstWas
    · rcases newOrOld secondLive with ⟨_, rfl⟩ | secondWas
      · exact ⟨rfl, rfl⟩
      · obtain ⟨origin, pooled⟩ := family secondWas same.symm
        exact ⟨origin.symm, pooled.symm⟩
    · rcases newOrOld secondLive with ⟨_, rfl⟩ | secondWas
      · exact family firstWas same
      · exact held.family firstWas secondWas same
  · intro id other live isLeased
    rcases newOrOld live with ⟨_, rfl⟩ | was
    · exact (leased isLeased).1
    · exact held.leased was isLeased
  · intro first second one other firstLive secondLive oneLeased otherLeased same
    rcases newOrOld firstLive with ⟨firstNew, rfl⟩ | firstWas
    · rcases newOrOld secondLive with ⟨secondNew, rfl⟩ | secondWas
      · exact firstNew.trans secondNew.symm
      · exact absurd same.symm ((leased oneLeased).2.2 secondWas)
    · rcases newOrOld secondLive with ⟨_, rfl⟩ | secondWas
      · exact absurd same ((leased otherLeased).2.2 firstWas)
      · exact held.sole firstWas secondWas oneLeased otherLeased same
  · exact held.idleKnown
  · intro idle id other inside live
    rcases newOrOld live with ⟨_, rfl⟩ | was
    · exact apart inside
    · exact held.idleApart inside was
  · exact held.idleDistinct
  · intro arena pooled
    rcases pooled with ⟨id, other, live, rfl, isLeased⟩ | queued
    · rcases newOrOld live with ⟨_, rfl⟩ | was
      · exact (leased isLeased).2.1
      · exact held.intact (.inl ⟨id, other, was, rfl, isLeased⟩)
    · exact held.intact (.inr queued)
  · exact held.registered

/-- An arena that nobody holds enters a queue. -/
theorem enqueue (held : store.WellHeld) (buffers : after.buffers = store.buffers)
    (arenas : after.arenas = store.arenas) (gained : after.idle.Perm (idle :: store.idle))
    (known : idle.arena < store.arenas.next) (intact : (store.arena idle.arena).freed = false)
    (unheld : store.holders idle.arena = 0) (registered : after.Registered) : after.WellHeld := by
  obtain ⟨noBuffer, noEntry⟩ := holders_eq_zero_iff.mp unheld
  have newOrOld : ∀ {entry}, entry ∈ after.idle → entry = idle ∨ entry ∈ store.idle :=
    fun inside => List.mem_cons.mp (gained.mem_iff.mp inside)
  have arena : ∀ id, after.arena id = store.arena id := fun id => by
    rw [Store.arena, Store.arena, arenas]
  constructor
  · intro id buffer live
    rw [arenas]
    exact held.known (buffers ▸ live)
  · intro first second one other firstLive secondLive
    exact held.family (buffers ▸ firstLive) (buffers ▸ secondLive)
  · intro id buffer live
    exact held.leased (buffers ▸ live)
  · intro first second one other firstLive secondLive
    exact held.sole (buffers ▸ firstLive) (buffers ▸ secondLive)
  · intro entry inside
    rw [arenas]
    rcases newOrOld inside with rfl | old
    · exact known
    · exact held.idleKnown old
  · intro entry id buffer inside live
    rcases newOrOld inside with rfl | old
    · exact noBuffer id buffer (buffers ▸ live)
    · exact held.idleApart old (buffers ▸ live)
  · rw [(gained.map _).nodup_iff, List.map_cons, List.nodup_cons]
    refine ⟨fun repeated => ?_, held.idleDistinct⟩
    obtain ⟨entry, inside, same⟩ := List.mem_map.mp repeated
    exact noEntry entry inside same
  · intro id pooled
    rw [arena]
    rcases pooled with ⟨bufferId, buffer, live, same, leased⟩ | ⟨entry, inside, rfl⟩
    · exact held.intact (.inl ⟨bufferId, buffer, buffers ▸ live, same, leased⟩)
    · rcases newOrOld inside with rfl | old
      · exact intact
      · exact held.intact (.inr ⟨entry, old, rfl⟩)
  · exact registered

/-- What leaves a queue is held by nobody, and was not freed. -/
theorem dequeue {gone : List Idle} (held : store.WellHeld) (registered : after.Registered)
    (buffers : after.buffers = store.buffers) (arenas : after.arenas = store.arenas)
    (idle : store.idle.Perm (gone ++ after.idle)) :
    after.WellHeld ∧ ∀ entry ∈ gone, after.holders entry.arena = 0 ∧
      (after.arena entry.arena).freed = false ∧ entry.arena < after.arenas.next := by
  have arena : ∀ id, after.arena id = store.arena id := fun id => by
    rw [Store.arena, Store.arena, arenas]
  refine ⟨held.shrink (fun live => ⟨_, buffers ▸ live, .refl⟩) ⟨gone, idle⟩
    (Nat.le_of_eq (by rw [arenas])) (fun {id} _ _ unfreed => by rw [arena, unfreed]) registered, ?_⟩
  intro entry left
  have was : entry ∈ store.idle := idle.mem_iff.mpr (List.mem_append_left _ left)
  refine ⟨holders_eq_zero_iff.mpr ⟨fun id buffer live => ?_, fun other inside same => ?_⟩, ?_, ?_⟩
  · exact held.idleApart was (buffers ▸ live)
  · have distinct : ((gone ++ after.idle).map (·.arena)).Nodup :=
      (idle.map _).nodup_iff.mp held.idleDistinct
    rw [List.map_append] at distinct
    exact (List.nodup_append.mp distinct).2.2 entry.arena (List.mem_map_of_mem left) other.arena
      (List.mem_map_of_mem inside) same.symm
  · rw [arena]
    exact held.intact (.inr ⟨entry, was, rfl⟩)
  · rw [arenas]
    exact held.idleKnown was

theorem not_pooled_of_holders {arena : ArenaId} (unheld : store.holders arena = 0) :
    ¬ store.Pooled arena := by
  obtain ⟨noBuffer, noEntry⟩ := holders_eq_zero_iff.mp unheld
  rintro (⟨id, buffer, live, same, _⟩ | ⟨entry, inside, same⟩)
  · exact noBuffer id buffer live same
  · exact noEntry entry inside same

/-- An arena that no pool depends on may be freed. -/
theorem markFreed {arena : ArenaId} (held : store.WellHeld) (unpooled : ¬ store.Pooled arena) :
    (store.markFreed arena).WellHeld := by
  refine held.shrink (fun live => ⟨_, live, .refl⟩) ⟨[], .refl _⟩ (by simp) ?_
    (held.registered.of_identity (by simp) (by simp))
  intro other pooled _ unfreed
  have distinct : other ≠ arena := fun same => unpooled (same ▸ pooled)
  rw [arena_markFreed_of_ne distinct, unfreed]

end Store.WellHeld

namespace Store

variable {store : Store} {arena : ArenaId}

theorem freed_addArena {region : Region} :
    ((store.addArena region).arena arena).freed = (store.arena arena).freed := by
  rw [arena_addArena]
  split <;> rename_i new
  · subst new
    simp [Store.arena, Table.get?_eq_none_of_next_le, Arena.empty]
  · rfl

theorem idle_addRegistry : store.addRegistry.idle = store.idle := by
  simp [Store.idle, addRegistry, Registry.entries]

/-- Nobody holds an arena that does not exist yet. -/
theorem WellHeld.holders_next (held : store.WellHeld) : store.holders store.arenas.next = 0 := by
  refine holders_eq_zero_iff.mpr ⟨fun id buffer live => ?_, fun idle inside => ?_⟩
  · exact Nat.ne_of_lt (held.known live)
  · exact Nat.ne_of_lt (held.idleKnown inside)

theorem WellHeld.addArena {region : Region} (held : store.WellHeld) :
    (store.addArena region).WellHeld := by
  refine held.keep rfl (.refl _) (by simp) (fun _ unfreed => ?_)
    (held.registered.of_identity (by simp) (by simp))
  rw [freed_addArena, unfreed]

/-- The first buffer on an arena that nobody holds. -/
theorem WellHeld.addFirst {buffer : Buffer} (held : store.WellHeld)
    (known : buffer.arena < store.arenas.next) (unheld : store.holders buffer.arena = 0)
    (leased : buffer.recycler ≠ none → buffer.pooled = true ∧
      (store.arena buffer.arena).freed = false) : (store.addBuffer buffer).WellHeld := by
  obtain ⟨noBuffer, noEntry⟩ := holders_eq_zero_iff.mp unheld
  refine held.addBuffer known ?_ ?_ ?_
  · intro id other live same
    exact absurd same (noBuffer id other live)
  · intro idle inside same
    exact noEntry idle inside same.symm
  · intro isLeased
    obtain ⟨pooled, intact⟩ := leased isLeased
    exact ⟨pooled, intact, fun {id other} live => noBuffer id other live⟩

/-- A window joins the buffers on its arena. -/
theorem WellHeld.addView {id : BufferId} {buffer view : Buffer} (held : store.WellHeld)
    (live : store.buffers.get? id = some buffer) (derived : buffer.Derived view) :
    (store.addBuffer view).WellHeld := by
  have akin : view.arena = buffer.arena ∧ view.origin = buffer.origin ∧
      view.pooled = buffer.pooled ∧ view.recycler = none := by
    cases derived <;> exact ⟨rfl, rfl, rfl, rfl⟩
  obtain ⟨arena, origin, pooled, unleased⟩ := akin
  refine held.addBuffer (arena ▸ held.known live) ?_ ?_ ?_
  · intro other sibling also same
    rw [origin, pooled]
    exact held.family also live (same.trans arena)
  · intro idle inside
    rw [arena]
    exact held.idleApart inside live
  · exact fun leased => absurd unleased leased

/-- An arena of unpooled buffers matters to no pool. -/
theorem WellHeld.not_pooled_of_frees {id : BufferId} {buffer : Buffer} (held : store.WellHeld)
    (live : store.buffers.get? id = some buffer) (frees : frees buffer = true) :
    ¬ store.Pooled buffer.arena := by
  have unpooled : buffer.pooled = false := by
    simp only [Store.frees, Bool.and_eq_true, Bool.not_eq_true'] at frees
    exact frees.1
  rintro (⟨other, owner, also, same, leased⟩ | ⟨entry, inside, same⟩)
  · have pooled : owner.pooled = true := held.leased also leased
    rw [(held.family also live same).2, unpooled] at pooled
    contradiction
  · exact held.idleApart inside live same.symm

theorem WellHeld.stocked {id : PoolId} {pool : Pool} (held : store.WellHeld) :
    (store.stocked id pool).WellHeld := by
  refine held.keep rfl (.refl _) (by simp [Store.stocked]) (fun _ unfreed => ?_)
    (held.registered.of_identity (by simp [Store.stocked]) (by simp [Store.stocked]))
  rw [Store.stocked, mapStats_frame.2.1, freed_addArena, unfreed]

theorem WellHeld.drainKey {registry : RegistryId} {current : Registry} {key bytes : Nat}
    (held : store.WellHeld) (opened : store.registries.get? registry = some current) :
    (drainKey registry (store, bytes) key).1.WellHeld := by
  -- While the entries are freed one by one, nobody holds what is yet to be freed.
  suffices drained : (Store.drainKey registry (store, bytes) key).1.WellHeld ∧
      ∀ entry ∈ (store.registry registry).queue key,
        (Store.drainKey registry (store, bytes) key).1.holders entry.arena = 0 from drained.1
  apply drainKey_induction (motive := fun between => between.WellHeld ∧
    ∀ entry ∈ (store.registry registry).queue key, between.holders entry.arena = 0)
  · have lost : store.idle.Perm (((store.registry registry).drain key).1 ++
        (store.setRegistry registry ((store.registry registry).drain key).2).idle) :=
      idle_drain opened
    have registered :
        (store.setRegistry registry ((store.registry registry).drain key).2).Registered :=
      held.registered.of_identity (by simp) (by simp)
    obtain ⟨emptied, unheld⟩ := held.dequeue registered rfl rfl lost
    rw [Registry.drain_fst] at unheld
    exact ⟨emptied, fun entry inside => (unheld entry inside).1⟩
  · intro between idle inside kept
    obtain ⟨betweenHeld, unheld⟩ := kept
    refine ⟨WellHeld.markFreed ?_ (not_pooled_of_holders (unheld idle inside)), unheld⟩
    exact betweenHeld.keep rfl (.refl _) (Nat.le_refl _) (fun _ unfreed => unfreed)
      (betweenHeld.registered.of_identity (by simp) (by simp))

theorem WellHeld.vacate {id : BufferId} (held : store.WellHeld) : (store.vacate id).WellHeld := by
  refine held.shrink (fun {other buffer} live => ?_) ⟨[], .refl _⟩ (Nat.le_refl _)
    (fun _ _ unfreed => unfreed) (held.registered.of_identity (by simp) (by simp))
  simp only [Store.vacate, Table.get?_vacate] at live
  split at live
  · contradiction
  · exact ⟨buffer, live, .refl⟩

/-- The arena of a lease whose owner has ended matters to no pool. -/
theorem WellHeld.not_pooled_vacate {id : BufferId} {buffer : Buffer} (held : store.WellHeld)
    (live : store.buffers.get? id = some buffer) (leased : buffer.recycler ≠ none) :
    ¬ (store.vacate id).Pooled buffer.arena := by
  rintro (⟨other, owner, also, same, alsoLeased⟩ | ⟨entry, inside, same⟩)
  · simp only [Store.vacate, Table.get?_vacate] at also
    split at also
    · contradiction
    · rename_i distinct
      exact distinct (held.sole also live alsoLeased leased same)
  · exact held.idleApart inside live same.symm

theorem WellHeld.reclaim {id : BufferId} {buffer : Buffer} {pool : PoolId} (held : store.WellHeld)
    (live : store.buffers.get? id = some buffer) (leased : buffer.recycler ≠ none) :
    ((store.vacate id).reclaim pool buffer).WellHeld := by
  have unpooled := held.not_pooled_vacate live leased
  have known : buffer.arena < (store.vacate id).arenas.next := held.known live
  have ended : (store.vacate id).WellHeld := held.vacate
  generalize store.vacate id = ending at *
  apply reclaim_induction (motive := WellHeld)
  · exact ended
  · intro served after found outcome
    have registered : after.Registered := by
      cases outcome <;> exact ended.registered.of_identity (by simp) (by simp)
    obtain ⟨current, opened⟩ :=
      Option.isSome_iff_exists.mp (ended.registered pool served found)
    cases outcome with
    | closed closed =>
        refine WellHeld.markFreed ?_ unpooled
        exact ended.keep rfl (.refl _) (Nat.le_refl _) (fun _ unfreed => unfreed) registered
    | unfit opened unfit =>
        refine WellHeld.markFreed ?_ unpooled
        exact ended.keep rfl (.refl _) (Nat.le_refl _) (fun _ unfreed => unfreed) registered
    | queued unclosed intact unheld offered =>
        exact ended.enqueue rfl rfl (idle_offer_accepted opened offered) known intact unheld
          registered
    | @refused registry unclosed intact unheld offered =>
        have kept := idle_offer_refused opened offered
        refine WellHeld.markFreed ?_ fun pooled => unpooled ?_
        · exact ended.keep rfl kept.symm (Nat.le_refl _) (fun _ unfreed => unfreed) registered
        · rcases pooled with buffers | ⟨entry, inside, same⟩
          · exact .inl buffers
          · exact .inr ⟨entry, kept.mem_iff.mp inside, same⟩

end Store

namespace Step

open Store

variable {warrant : Warrant} {store after : Store}

theorem wellHeld (step : Step warrant store after) (held : store.WellHeld) : after.WellHeld := by
  have registered : after.Registered := step.registered held.registered
  cases step with
  | log => exact held.keep rfl (.refl _) (Nat.le_refl _) (fun _ unfreed => unfreed) registered
  | openRegistry =>
      exact held.keep rfl (idle_addRegistry ▸ .refl _) (Nat.le_refl _) (fun _ unfreed => unfreed)
        registered
  | openPool valid opened =>
      exact held.keep rfl (.refl _) (Nat.le_refl _) (fun _ unfreed => unfreed) registered
  | @stock id pool registry serving served offered =>
      obtain ⟨current, opened⟩ := Option.isSome_iff_exists.mp (held.registered id pool served)
      have stocked : (store.stocked id pool).WellHeld := held.stocked
      have gained : ((store.stocked id pool).setRegistry pool.registry registry).idle.Perm
          (store.reserveIdle id pool :: (store.stocked id pool).idle) :=
        idle_offer_accepted opened offered
      refine stocked.enqueue rfl rfl gained ?_ ?_ ?_ registered
      · simp [reserveIdle, Store.stocked]
      · simp [reserveIdle, Store.stocked, arena_addArena]
      · exact held.holders_next
  | @overstock id pool registry serving served offered =>
      obtain ⟨current, opened⟩ := Option.isSome_iff_exists.mp (held.registered id pool served)
      have kept : ((store.stocked id pool).setRegistry pool.registry registry).idle.Perm
          (store.stocked id pool).idle := idle_offer_refused opened offered
      have stocked : (store.stocked id pool).WellHeld := held.stocked
      refine WellHeld.markFreed ?_ ?_
      · exact stocked.keep rfl kept.symm (Nat.le_refl _) (fun _ unfreed => unfreed)
          (stocked.registered.of_identity (by simp) (by simp))
      · have unpooled : ¬ store.Pooled store.arenas.next :=
          WellHeld.not_pooled_of_holders held.holders_next
        rintro (buffers | ⟨entry, inside, same⟩)
        · exact unpooled (.inl buffers)
        · exact unpooled (.inr ⟨entry, kept.mem_iff.mp inside, same⟩)
  | close => exact held.keep rfl (.refl _) (Nat.le_refl _) (fun _ unfreed => unfreed) registered
  | @drain id pool key served =>
      obtain ⟨current, opened⟩ := Option.isSome_iff_exists.mp (held.registered id pool served)
      exact held.drainKey opened
  | useKey => exact held.keep rfl (.refl _) (Nat.le_refl _) (fun _ unfreed => unfreed) registered
  | addArena => exact held.addArena
  | create granted fresh =>
      refine held.addArena.addFirst ?_ ?_ ?_
      · rw [fresh.arena, addArena_frame.2.2.2.2.2]
        exact Nat.lt_succ_self _
      · rw [fresh.arena]
        exact held.holders_next
      · exact fun leased => absurd fresh.recycler leased
  | @leaseFresh id pool request granted serving served valid none =>
      have made : (((((store.mapStats id (·.missed)).emit
          (.poolMiss request.maxCapacity request.capacity)).addArena
            (pool.backend.allocate request.capacity)).mapStats id (·.leased))).WellHeld := by
        refine held.keep rfl (.refl _) (by simp) (fun _ unfreed => ?_)
          (held.registered.of_identity (by simp) (by simp))
        simpa [freed_addArena] using unfreed
      refine made.addFirst (by simp [Buffer.leased, Buffer.ofAllocation]) held.holders_next ?_
      exact fun _ => ⟨rfl, by simp [arena_addArena, Buffer.leased, Buffer.ofAllocation]⟩
  | @leaseIdle id pool request idle rest region granted served valid taken reserved =>
      obtain ⟨current, opened⟩ := Option.isSome_iff_exists.mp (held.registered id pool served)
      have identity : (store.unqueued id pool idle rest).Registered :=
        held.registered.of_identity (by simp [Store.unqueued]) (by simp [Store.unqueued])
      have lost : store.idle.Perm ([idle] ++ (store.unqueued id pool idle rest).idle) :=
        idle_poll opened taken
      obtain ⟨unqueued, freed⟩ := held.dequeue identity rfl rfl lost
      obtain ⟨unheld, intact, known⟩ := freed idle List.mem_cons_self
      have fitted : ((((store.unqueued id pool idle rest).setRegion idle.arena region).emit
          (.poolHit request.maxCapacity request.capacity)).mapStats id (·.leased)).WellHeld := by
        refine unqueued.keep rfl (.refl _) (Nat.le_of_eq (by simp)) (fun _ unfreed => ?_)
          (unqueued.registered.of_identity (by simp) (by simp))
        simpa using unfreed
      refine fitted.addFirst ?_ unheld fun _ => ⟨rfl, ?_⟩
      · simpa [Buffer.leased, Buffer.ofAllocation] using known
      · simpa [Buffer.leased, Buffer.ofAllocation] using intact
  | @lose id pool request idle rest error served taken refused =>
      obtain ⟨current, opened⟩ := Option.isSome_iff_exists.mp (held.registered id pool served)
      have lost : store.idle.Perm ([idle] ++ (store.unqueued id pool idle rest).idle) :=
        idle_poll opened taken
      exact (held.dequeue registered rfl rfl lost).1
  | write named live guarded written =>
      exact held.keep rfl (.refl _) (Nat.le_of_eq (by simp))
        (fun _ unfreed => by simpa using unfreed) registered
  | @place id buffer placed named live moved =>
      refine held.shrink (fun {other buffer} after => ?_) ⟨[], .refl _⟩ (Nat.le_refl _)
        (fun _ _ unfreed => unfreed) registered
      have changed : BuffersChanged warrant store.buffers
          (store.mapBuffer id fun _ => placed).buffers := .placed named live moved
      exact changed.older (by simpa using Table.lt_next_of_get? after) after
  | @resize id buffer capacity region named live allowed accessible resized =>
      have moved := (Step.resize named live allowed accessible resized).buffers
      refine held.shrink (fun {other changed} after => ?_) ⟨[], ?_⟩ (Nat.le_of_eq (by simp))
        (fun _ _ unfreed => by simpa using unfreed) registered
      · exact moved.older (by simpa using Table.lt_next_of_get? after) after
      · simp
  | derive named live accessible derived => exact held.addView live derived
  | @free id buffer named live frees =>
      apply free_induction (motive := WellHeld)
      · exact fun _ => held
      · intro event
        have marked : (store.markFreed buffer.arena).WellHeld :=
          held.markFreed (held.not_pooled_of_frees live frees)
        exact marked.keep rfl (.refl _) (Nat.le_refl _) (fun _ unfreed => unfreed)
          (marked.registered.of_identity (by simp) (by simp))
  | vacate named live unleased => exact held.vacate
  | reclaim named live leased => exact held.reclaim live (by simp [leased])

end Step

theorem Store.wellHeld_initial : Store.initial.WellHeld := by
  have noBuffer : ∀ id, Store.initial.buffers.get? id = none := fun id =>
    Table.get?_eq_none_of_next_le (Nat.zero_le id)
  have noPool : ∀ id, Store.initial.pools.get? id = none := fun id =>
    Table.get?_eq_none_of_next_le (Nat.zero_le id)
  have noEntry : Store.initial.idle = [] := rfl
  constructor <;> simp [noBuffer, noEntry, Store.Pooled, Store.Registered, noPool]

theorem Steps.wellHeld {warrant : Warrant} {store after : Store}
    (steps : Steps warrant store after) (held : store.WellHeld) : after.WellHeld :=
  steps.preserve held Step.wellHeld

theorem Store.Reachable.wellHeld {store : Store} (reachable : store.Reachable) : store.WellHeld :=
  reachable.induction wellHeld_initial Step.wellHeld

end CursorBuffers
