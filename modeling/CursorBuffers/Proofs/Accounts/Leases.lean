import CursorBuffers.Proofs.Backends

namespace CursorBuffers

variable {warrant : Warrant} {store after : Store}

section Owned

variable {arena : ArenaId} {region : Region}

/-- Whatever a pool depends on is storage of its own. -/
def Store.Owned (store : Store) : Prop :=
  ∀ arena, store.Pooled arena → (store.arena arena).region.IsOwned

theorem RegionChanged.isOwned (changed : RegionChanged warrant store arena region)
    (known : arena < store.arenas.next) :
    region.IsOwned ↔ (store.arena arena).region.IsOwned := by
  cases changed with
  | kept => exact Iff.rfl
  | added new => exact absurd new (Nat.ne_of_lt known)
  | written named live holds written => exact Region.isOwned_write written
  | resized named live holds allowed resized =>
      subst holds
      simp only [Store.resized] at resized
      split at resized
      · exact Region.isOwned_resize resized
      · exact Region.isOwned_reserve resized
  | reserved taken holds allowed reserved => exact Region.isOwned_reserve reserved

open Store in
theorem Step.owned (step : Step warrant store after) (held : store.WellHeld)
    (owned : store.Owned) : after.Owned := by
  have stays : ∀ {arena}, arena < store.arenas.next → store.Pooled arena →
      (after.arena arena).region.IsOwned :=
    fun known pooled => (step.region.isOwned known).mpr (owned _ pooled)
  intro arena pooled
  rcases pooled with ⟨id, buffer, live, rfl, leased⟩ | ⟨entry, inside, rfl⟩
  · obtain ⟨pool, leased⟩ := Option.ne_none_iff_exists'.mp leased
    cases step.leased live leased with
    | kept was also akin =>
        rw [akin.arena]
        exact stays (held.known was) (.inl ⟨_, _, was, rfl, by simp [also]⟩)
    | fresh serving served first made =>
        obtain ⟨length, region⟩ := made
        rw [region]
        exact Region.isOwned_allocate
    | taken served inside holds =>
        have inside := mem_idle_of_mem_entries inside
        rw [holds]
        exact stays (held.idleKnown inside) (.inr ⟨_, inside, rfl⟩)
  · obtain ⟨registry, inside⟩ := exists_mem_entries_of_mem_idle inside
    cases step.entered inside with
    | waiting inside =>
        have inside := mem_idle_of_mem_entries inside
        exact stays (held.idleKnown inside) (.inr ⟨_, inside, rfl⟩)
    | stocked serving served uses first made =>
        rw [made]
        exact Region.isOwned_allocate
    | returned live leased served uses filed =>
        rw [filed]
        exact stays (held.known live) (.inl ⟨_, _, live, rfl, by simp [leased]⟩)

/-- An idle arena can always be made longer. -/
theorem Store.Owned.reserve {registry : RegistryId} {key : Nat} {idle : Idle} {rest : Registry}
    (owned : store.Owned) (length : Nat)
    (taken : (store.registry registry).poll key = some (idle, rest)) :
    ∃ region, (store.arena idle.arena).region.reserve length = .ok region := by
  have inside : idle ∈ store.idle :=
    mem_idle_of_mem_entries ((Registry.entries_poll taken).mem_iff.mpr List.mem_cons_self)
  exact Region.reserve_eq_ok (owned _ (.inr ⟨idle, inside, rfl⟩))

end Owned

/-- Every lease is held by an owner, and is that of an existing pool. -/
def Store.Lent (store : Store) : Prop :=
  ∀ {id buffer pool}, store.buffers.get? id = some buffer → buffer.recycler = some pool →
    buffer.role = .owner ∧ ∃ record, store.pools.get? pool = some record

theorem Step.lent (step : Step warrant store after) (lent : store.Lent) : after.Lent := by
  intro id buffer pool live leased
  have lender : buffer.role = .owner ∧ ∃ record, store.pools.get? pool = some record := by
    cases step.leased live leased with
    | kept was also akin =>
        rw [akin.role]
        exact lent was also
    | fresh serving served first made owner => exact ⟨owner, _, served⟩
    | taken served inside holds owner => exact ⟨owner, _, served⟩
  obtain ⟨owner, record, served⟩ := lender
  obtain ⟨later, found, _⟩ := step.served served
  exact ⟨owner, later, found⟩

namespace Store

variable {id other : PoolId} {pool : Pool} {change : PoolStats → PoolStats}
variable {holds : PoolId → PoolStats → Prop}

def stats? (store : Store) (id : PoolId) : Option PoolStats :=
  (store.pools.get? id).map (·.stats)

theorem stats?_of_served (served : store.pools.get? id = some pool) :
    store.stats? id = some pool.stats := by
  rw [stats?, served, Option.map_some]

theorem stats?_congr (same : after.pools = store.pools) : after.stats? id = store.stats? id := by
  rw [stats?, stats?, same]

theorem stats?_mapStats :
    (store.mapStats id change).stats? other =
      (store.stats? other).map fun stats => if other = id then change stats else stats := by
  simp only [stats?, mapStats, mapPool, Table.get?_update]
  by_cases same : other = id
  · simp [same, Function.comp_def]
  · simp [same, Function.comp_def]

theorem stats?_mapPool {change : Pool → Pool} (keeps : ∀ pool, (change pool).stats = pool.stats) :
    (store.mapPool id change).stats? other = store.stats? other := by
  simp only [stats?, mapPool, Table.get?_update]
  by_cases same : other = id
  · simp [same, Function.comp_def, keeps]
  · simp [same]

theorem stats?_addPool :
    (store.addPool pool).stats? other =
      if other = store.pools.next then some pool.stats else store.stats? other := by
  simp only [stats?, addPool, Table.get?_add]
  split <;> rfl

/-- Every pool has counted what a condition demands of it. -/
def Counts (store : Store) (holds : PoolId → PoolStats → Prop) : Prop :=
  ∀ id stats, store.stats? id = some stats → holds id stats

theorem Counts.of_pools (counts : store.Counts holds) (same : after.pools = store.pools) :
    after.Counts holds :=
  fun id stats found => counts id stats (stats?_congr same ▸ found)

/-- What a pool has to have counted before it counts something. -/
theorem counts_mapStats : (store.mapStats id change).Counts holds ↔
    store.Counts fun other stats => holds other (if other = id then change stats else stats) := by
  constructor
  · intro counts other stats found
    exact counts other _ (by rw [stats?_mapStats, found, Option.map_some])
  · intro counts other stats found
    rw [stats?_mapStats, Option.map_eq_some_iff] at found
    obtain ⟨earlier, was, rfl⟩ := found
    exact counts other earlier was

theorem Counts.mapStats (counts : store.Counts holds)
    (keeps : ∀ {other stats}, holds other stats → holds other (change stats)) :
    (store.mapStats id change).Counts holds := by
  refine counts_mapStats.mpr fun other stats found => ?_
  by_cases same : other = id
  · simpa [same] using keeps (same ▸ counts other stats found)
  · simpa [same] using counts other stats found

theorem Counts.mapPool {change : Pool → Pool} (counts : store.Counts holds)
    (keeps : ∀ pool, (change pool).stats = pool.stats) :
    (store.mapPool id change).Counts holds := by
  intro other stats found
  rw [stats?_mapPool keeps] at found
  exact counts other stats found

/-- The leases of a pool that are out. -/
def leases (store : Store) (id : PoolId) : Nat :=
  store.buffers.count fun buffer => buffer.recycler == some id

section Leases

variable {handle : BufferId} {buffer placed : Buffer}

theorem leases_congr (same : after.buffers = store.buffers) :
    after.leases id = store.leases id := by
  rw [leases, leases, same]

@[simp] theorem leases_mapStats : (store.mapStats id change).leases other = store.leases other :=
  rfl

theorem leases_addBuffer : (store.addBuffer buffer).leases id =
    store.leases id + if buffer.recycler = some id then 1 else 0 := by
  simp [leases, addBuffer]

theorem leases_mapBuffer (live : store.buffers.get? handle = some buffer)
    (same : placed.recycler = buffer.recycler) :
    (store.mapBuffer handle fun _ => placed).leases id = store.leases id :=
  Table.count_update live (by simp [same])

theorem leases_vacate (live : store.buffers.get? handle = some buffer) :
    store.leases id =
      (store.vacate handle).leases id + if buffer.recycler = some id then 1 else 0 := by
  have lost : store.buffers.count (fun buffer => buffer.recycler == some id) = _ :=
    Table.count_vacate live
  simpa [leases, vacate] using lost

/-- A pool that is yet to be opened has lent nothing. -/
theorem Lent.leases_next (lent : store.Lent) : store.leases store.pools.next = 0 := by
  refine Table.count_eq_zero_iff.mpr fun id buffer live => ?_
  by_contra leased
  obtain ⟨_, record, served⟩ := lent live (by simpa using leased)
  exact absurd (Table.lt_next_of_get? served) (Nat.lt_irrefl _)

end Leases

end Store

/-- The leases that are out are counted, and every request that was served is accounted for. -/
structure PoolStats.Balanced (stats : PoolStats) (leases : Nat) : Prop where
  active : stats.activeLeases = leases
  ended : stats.poolHits + stats.poolMisses =
    stats.activeLeases + stats.recycled + stats.discarded

namespace PoolStats.Balanced

variable {stats : PoolStats} {leases bytes : Nat}

theorem make (balanced : stats.Balanced leases) : stats.made.Balanced leases :=
  ⟨balanced.active, balanced.ended⟩

theorem queue (balanced : stats.Balanced leases) : (stats.queued bytes).Balanced leases :=
  ⟨balanced.active, balanced.ended⟩

theorem unqueue (balanced : stats.Balanced leases) : (stats.unqueued bytes).Balanced leases :=
  ⟨balanced.active, balanced.ended⟩

theorem miss (balanced : stats.Balanced leases) : stats.missed.leased.Balanced (leases + 1) := by
  obtain ⟨active, ended⟩ := balanced
  constructor <;> simp only [missed, made, leased] <;> omega

theorem hit (balanced : stats.Balanced leases) : stats.hit.leased.Balanced (leases + 1) := by
  obtain ⟨active, ended⟩ := balanced
  constructor <;> simp only [PoolStats.hit, leased] <;> omega

theorem drop (balanced : stats.Balanced (leases + 1)) : stats.ended.dropped.Balanced leases := by
  obtain ⟨active, ended⟩ := balanced
  constructor <;> simp only [PoolStats.ended, dropped] <;> omega

theorem keep (balanced : stats.Balanced (leases + 1)) :
    (stats.ended.queued bytes).kept.Balanced leases := by
  obtain ⟨active, ended⟩ := balanced
  constructor <;> simp only [PoolStats.ended, queued, kept] <;> omega

end PoolStats.Balanced

namespace Store

variable {id other : PoolId} {handle : BufferId} {buffer : Buffer} {bytes : Nat}
variable {change : PoolStats → PoolStats}

/-- Every pool has counted its leases. -/
def Balanced (store : Store) : Prop :=
  store.Counts fun id stats => stats.Balanced (store.leases id)

/-- Every pool has counted its leases, and one of them has one to come: it has counted the request,
and not yet the lease. -/
def Due (store : Store) (id : PoolId) : Prop :=
  store.Counts fun other stats =>
    if other = id then stats.leased.Balanced (store.leases other + 1)
    else stats.Balanced (store.leases other)

theorem Balanced.of_leases (counts : after.Counts fun id stats => stats.Balanced (store.leases id))
    (leases : ∀ id, after.leases id = store.leases id) : after.Balanced := by
  simpa only [Balanced, leases] using counts

theorem Balanced.keep (balanced : store.Balanced) (pools : after.pools = store.pools)
    (leases : ∀ id, after.leases id = store.leases id) : after.Balanced :=
  of_leases (Counts.of_pools balanced pools) leases

theorem Balanced.mapStats (balanced : store.Balanced)
    (keeps : ∀ {stats leases}, stats.Balanced leases → (change stats).Balanced leases) :
    (store.mapStats id change).Balanced :=
  Counts.mapStats balanced keeps

theorem Balanced.mapPool {change : Pool → Pool} (balanced : store.Balanced)
    (keeps : ∀ pool, (change pool).stats = pool.stats) : (store.mapPool id change).Balanced :=
  of_leases (Counts.mapPool balanced keeps) fun _ => rfl

theorem Balanced.due (balanced : store.Balanced)
    (begins : ∀ {stats : PoolStats} {leases}, stats.Balanced leases →
      (change stats).leased.Balanced (leases + 1)) : (store.mapStats id change).Due id := by
  refine counts_mapStats.mpr fun other stats found => ?_
  have before : stats.Balanced (store.leases other) := balanced other stats found
  by_cases same : other = id
  · simpa [same] using begins (same ▸ before)
  · simpa [same] using before

theorem Due.unqueue (due : store.Due id) : (store.mapStats other (·.unqueued bytes)).Due id := by
  refine Counts.mapStats due fun {another stats} before => ?_
  by_cases same : another = id
  · simp only [if_pos same] at before ⊢
    exact ⟨before.active, before.ended⟩
  · simp only [if_neg same] at before ⊢
    exact before.unqueue

theorem Due.keep (due : store.Due id) (pools : after.pools = store.pools)
    (buffers : after.buffers = store.buffers) : after.Due id := by
  simpa only [Due, leases_congr buffers] using Counts.of_pools due pools

theorem Due.lease (due : store.Due id) (leased : buffer.recycler = some id) :
    ((store.mapStats id (·.leased)).addBuffer buffer).Balanced := by
  have counts : (store.mapStats id (·.leased)).Counts fun other stats =>
      stats.Balanced (store.leases other + if buffer.recycler = some other then 1 else 0) := by
    refine counts_mapStats.mpr fun other stats found => ?_
    have before := due other stats found
    by_cases same : other = id
    · simpa [leased, same] using before
    · simpa [leased, same, Ne.symm same] using before
  intro other stats found
  rw [leases_addBuffer]
  exact counts other stats found

/-- A lease ends, and is recycled or discarded. -/
theorem Balanced.finish (balanced : store.Balanced)
    (ends : ∀ {stats : PoolStats} {leases}, stats.Balanced (leases + 1) →
      (change stats.ended).Balanced leases)
    (live : store.buffers.get? handle = some buffer) (leased : buffer.recycler = some id) :
    (((store.vacate handle).mapStats id (·.ended)).mapStats id change).Balanced := by
  have counts : (((store.vacate handle).mapStats id (·.ended)).mapStats id change).Counts
      fun id stats => stats.Balanced ((store.vacate handle).leases id) := ?_
  · exact of_leases counts fun _ => rfl
  refine counts_mapStats.mpr (counts_mapStats.mpr fun other stats found => ?_)
  have before : stats.Balanced (store.leases other) := balanced other stats found
  -- Before its end the lease was one of those that the pool has out.
  rw [leases_vacate live, leased] at before
  by_cases same : other = id
  · subst same
    simpa using ends (by simpa using before)
  · simpa [same, Ne.symm same] using before

theorem Balanced.reclaim (balanced : store.Balanced) (lent : store.Lent)
    (live : store.buffers.get? handle = some buffer) (leased : buffer.recycler = some id) :
    ((store.vacate handle).reclaim id buffer).Balanced := by
  have dropped : (((store.vacate handle).mapStats id (·.ended)).mapStats id
      (·.dropped)).Balanced := balanced.finish .drop live leased
  have kept : ∀ bytes, (((store.vacate handle).mapStats id (·.ended)).mapStats id fun stats =>
      (stats.queued bytes).kept).Balanced := fun bytes => balanced.finish .keep live leased
  obtain ⟨_, record, served⟩ := lent live leased
  have outcome : Reclaimed (store.vacate handle) id record buffer _ := reclaim_outcome served
  generalize (store.vacate handle).reclaim id buffer = after at outcome ⊢
  cases outcome with
  | queued unclosed intact unheld offered => exact (kept _).keep rfl fun _ => rfl
  | _ => exact dropped.keep rfl fun _ => rfl

theorem Balanced.drainKey {registry : RegistryId} {key : Nat} (balanced : store.Balanced) :
    (drainKey registry (store, bytes) key).1.Balanced := by
  apply drainKey_induction (motive := Balanced)
  · exact balanced.keep rfl fun _ => rfl
  · intro between idle member kept
    exact (Balanced.mapStats kept .unqueue).keep rfl fun _ => rfl

end Store

open Store in
theorem Step.balanced (step : Step warrant store after) (owned : store.Owned) (lent : store.Lent)
    (balanced : store.Balanced) : after.Balanced := by
  cases step with
  | @openPool config settings registry current valid opened =>
      intro id stats found
      rw [stats?_addPool] at found
      split at found
      · rename_i new
        cases found
        have none : (store.addPool (.opened config settings registry)).leases id = 0 :=
          new ▸ lent.leases_next
        rw [none]
        exact ⟨rfl, rfl⟩
      · exact balanced id stats found
  | @stock id pool registry serving served offered =>
      have made : (store.mapStats id (·.made)).Balanced := balanced.mapStats .make
      exact (made.mapStats .queue).keep rfl fun _ => rfl
  | @overstock id pool registry serving served offered =>
      have made : (store.mapStats id (·.made)).Balanced := balanced.mapStats .make
      exact made.keep rfl fun _ => rfl
  | close => exact balanced.mapPool fun _ => rfl
  | useKey => exact balanced.mapPool fun _ => rfl
  | drain served => exact balanced.drainKey
  | create granted fresh =>
      refine balanced.keep rfl fun id => ?_
      rw [leases_addBuffer, fresh.recycler, if_neg (by simp), Nat.add_zero]
      rfl
  | @leaseFresh id pool request granted serving served valid none =>
      have due : (store.mapStats id (·.missed)).Due id := balanced.due .miss
      exact Due.lease (due.keep rfl rfl) rfl
  | @leaseIdle id pool request idle rest region granted served valid taken reserved =>
      have due : (store.mapStats id (·.hit)).Due id := balanced.due .hit
      exact Due.lease (due.unqueue.keep rfl rfl) rfl
  | @lose id pool request idle rest error served taken refused =>
      obtain ⟨region, reserved⟩ := owned.reserve request.capacity taken
      rw [reserved] at refused
      contradiction
  | place named live moved =>
      exact balanced.keep rfl fun _ => leases_mapBuffer live moved.akin.recycler
  | @resize handle buffer capacity region named live allowed accessible resized =>
      refine balanced.keep (by simp) fun id => ?_
      have stays : ((store.setRegion buffer.arena region).emitGrowth buffer
          capacity).buffers.get? handle = some buffer := by simpa using live
      rw [leases_mapBuffer stays (show (buffer.withCapacity capacity).recycler = _ from rfl)]
      exact leases_congr (by simp)
  | @derive handle buffer view named live accessible derived =>
      refine balanced.keep rfl fun id => ?_
      have unleased : view.recycler = none := by cases derived <;> rfl
      rw [leases_addBuffer, unleased, if_neg (by simp), Nat.add_zero]
  | free named live frees =>
      exact free_induction (fun _ => balanced) fun event => balanced.keep rfl fun _ => rfl
  | vacate named live unleased =>
      refine balanced.keep rfl fun id => ?_
      rw [leases_vacate live, unleased, if_neg (by simp), Nat.add_zero]
  | reclaim named live leased => exact balanced.reclaim lent live leased
  | _ => exact balanced.keep rfl fun _ => rfl

/-- What the single changes keep of leases and queues. -/
structure Store.Sound (store : Store) : Prop where
  held : store.WellHeld
  owned : store.Owned
  lent : store.Lent
  balanced : store.Balanced

theorem Step.sound (step : Step warrant store after) (sound : store.Sound) : after.Sound where
  held := step.wellHeld sound.held
  owned := step.owned sound.held sound.owned
  lent := step.lent sound.lent
  balanced := step.balanced sound.owned sound.lent sound.balanced

theorem Store.sound_initial : Store.initial.Sound := by
  have noBuffer : ∀ id, Store.initial.buffers.get? id = none := fun id =>
    Table.get?_eq_none_of_next_le (Nat.zero_le id)
  refine ⟨wellHeld_initial, fun arena pooled => ?_, fun live => ?_, fun id stats found => ?_⟩
  · rcases pooled with ⟨id, buffer, live, _⟩ | ⟨entry, inside, _⟩
    · rw [noBuffer] at live
      contradiction
    · exact absurd inside List.not_mem_nil
  · rw [noBuffer] at live
    contradiction
  · rw [stats?, Table.get?_eq_none_of_next_le (Nat.zero_le id)] at found
    contradiction

theorem Store.Reachable.sound (reachable : store.Reachable) : store.Sound :=
  reachable.induction sound_initial Step.sound

end CursorBuffers
