import CursorBuffers.Proofs.Accounts.Filing
import Mathlib.Algebra.GroupWithZero.Nat

namespace CursorBuffers

variable {warrant : Warrant} {store after : Store} {id : PoolId} {entry : Idle}
variable {waiting later : List Idle}

namespace Store

def size (store : Store) (arena : ArenaId) : Nat := (store.arena arena).region.size

/-- How many bytes a pool has put into some queues. -/
def bytesOf (store : Store) (id : PoolId) (entries : List Idle) : Nat :=
  (entries.map fun entry => if entry.queuedBy = id then store.size entry.arena else 0).sum

@[simp] theorem bytesOf_nil : store.bytesOf id [] = 0 := rfl

@[simp] theorem bytesOf_cons : store.bytesOf id (entry :: waiting) =
    (if entry.queuedBy = id then store.size entry.arena else 0) + store.bytesOf id waiting := by
  simp [bytesOf]

@[simp] theorem bytesOf_append :
    store.bytesOf id (waiting ++ later) = store.bytesOf id waiting + store.bytesOf id later := by
  simp [bytesOf]

theorem bytesOf_perm (same : waiting.Perm later) :
    store.bytesOf id waiting = store.bytesOf id later :=
  (same.map _).sum_nat

theorem bytesOf_congr (same : ∀ entry ∈ waiting, after.size entry.arena = store.size entry.arena) :
    after.bytesOf id waiting = store.bytesOf id waiting := by
  refine congrArg List.sum (List.map_congr_left fun entry inside => ?_)
  rw [same entry inside]

theorem bytesOf_eq_zero (other : ∀ entry ∈ waiting, entry.queuedBy ≠ id) :
    store.bytesOf id waiting = 0 := by
  refine List.sum_eq_zero_iff_forall_eq_nat.mpr fun bytes inside => ?_
  obtain ⟨entry, member, rfl⟩ := List.mem_map.mp inside
  exact if_neg (other entry member)

theorem bytesOf_filter :
    store.bytesOf id (waiting.filter (·.queuedBy = id)) = store.bytesOf id waiting := by
  induction waiting with
  | nil => rfl
  | cons entry rest ih =>
      by_cases same : entry.queuedBy = id
      · simp [same, ih]
      · simp [same, ih]

/-- Every pool has counted the bytes of these entries that it queued. -/
def Booked (store : Store) (waiting : List Idle) : Prop :=
  store.Counts fun id stats => stats.pooledBytes = store.bytesOf id waiting

namespace Booked

variable {change : PoolStats → PoolStats} {bytes : Nat}

theorem perm (booked : store.Booked waiting) (same : waiting.Perm later) : store.Booked later :=
  fun id stats found => (booked id stats found).trans (bytesOf_perm same)

theorem of_counts (store : Store)
    (counts : after.Counts fun id stats => stats.pooledBytes = store.bytesOf id waiting)
    (sizes : ∀ entry ∈ waiting, after.size entry.arena = store.size entry.arena) :
    after.Booked waiting :=
  fun id stats found => (counts id stats found).trans (bytesOf_congr sizes).symm

theorem keep (booked : store.Booked waiting) (pools : after.pools = store.pools)
    (sizes : ∀ entry ∈ waiting, after.size entry.arena = store.size entry.arena) :
    after.Booked waiting :=
  of_counts store (Counts.of_pools booked pools) sizes

theorem mapStats (id : PoolId) (change : PoolStats → PoolStats) (booked : store.Booked waiting)
    (keeps : ∀ stats, (change stats).pooledBytes = stats.pooledBytes) :
    (store.mapStats id change).Booked waiting :=
  of_counts store (Counts.mapStats booked fun counted => (keeps _).trans counted) fun _ _ => rfl

/-- A pool counts what it queues. -/
theorem queue (entry : Idle) (booked : store.Booked waiting) :
    (store.mapStats entry.queuedBy (·.queued (store.size entry.arena))).Booked
      (entry :: waiting) := by
  refine of_counts store (counts_mapStats.mpr fun other stats found => ?_)
    fun _ _ => rfl
  have counted : stats.pooledBytes = store.bytesOf other waiting := booked other stats found
  simp only [bytesOf_cons]
  by_cases same : other = entry.queuedBy
  · simp only [if_pos same, if_pos same.symm, PoolStats.queued, counted]
    omega
  · simp only [if_neg same, if_neg (Ne.symm same), counted]
    omega

/-- What leaves a queue is taken off exactly. -/
theorem unqueue (booked : store.Booked (entry :: waiting)) :
    (store.mapStats entry.queuedBy (·.unqueued (store.size entry.arena))).Booked waiting := by
  refine of_counts store (counts_mapStats.mpr fun other stats found => ?_)
    fun _ _ => rfl
  have counted : stats.pooledBytes = store.bytesOf other (entry :: waiting) :=
    booked other stats found
  rw [bytesOf_cons] at counted
  by_cases same : other = entry.queuedBy
  · simp only [if_pos same, if_pos same.symm, PoolStats.unqueued] at counted ⊢
    omega
  · simp only [if_neg same, if_neg (Ne.symm same)] at counted ⊢
    omega

theorem discard (booked : store.Booked (entry :: waiting)) :
    (store.discard entry).Booked waiting :=
  booked.unqueue.keep rfl fun _ _ => by simp [size, Store.discard]

theorem discards {drained : List Idle} (booked : store.Booked (drained ++ waiting)) :
    (store.discards drained).Booked waiting := by
  induction drained generalizing store with
  | nil => exact booked
  | cons entry rest ih => exact ih booked.discard

theorem size_le (booked : store.Booked (entry :: waiting)) {stats : PoolStats}
    (found : store.stats? entry.queuedBy = some stats) :
    store.size entry.arena ≤ stats.pooledBytes := by
  rw [booked _ stats found, bytesOf_cons, if_pos rfl]
  exact Nat.le_add_right _ _

section Queues

variable {registry : RegistryId} {current changed : Registry} {limit key : Nat}

theorem offer_accepted (booked : store.Booked store.idle)
    (opened : store.registries.get? registry = some current)
    (offered : (store.registry registry).offer entry limit = (true, changed)) :
    (store.mapStats entry.queuedBy (·.queued (store.size entry.arena))).Booked
      (store.setRegistry registry changed).idle :=
  (booked.queue entry).perm (idle_offer_accepted opened offered).symm

theorem offer_refused (booked : store.Booked store.idle)
    (opened : store.registries.get? registry = some current)
    (offered : (store.registry registry).offer entry limit = (false, changed)) :
    store.Booked (store.setRegistry registry changed).idle :=
  booked.perm (idle_offer_refused opened offered).symm

theorem poll (booked : store.Booked store.idle)
    (opened : store.registries.get? registry = some current)
    (taken : (store.registry registry).poll key = some (entry, changed)) :
    (store.mapStats entry.queuedBy (·.unqueued (store.size entry.arena))).Booked
      (store.setRegistry registry changed).idle :=
  (booked.perm (idle_poll opened taken)).unqueue

/-- A drained queue is booked until its entries are discarded, one after the other. -/
theorem drain (key : Nat) (booked : store.Booked store.idle)
    (opened : store.registries.get? registry = some current) :
    (store.setRegistry registry ((store.registry registry).drain key).2).Booked
      ((store.registry registry).queue key ++
        (store.setRegistry registry ((store.registry registry).drain key).2).idle) := by
  have left : store.idle.Perm (((store.registry registry).drain key).1 ++ _) := idle_drain opened
  rw [Registry.drain_fst] at left
  exact (booked.perm left).keep rfl fun _ _ => rfl

end Queues

theorem drainKey {registry : RegistryId} {current : Registry} {key : Nat}
    (booked : store.Booked store.idle) (opened : store.registries.get? registry = some current) :
    (drainKey registry (store, 0) key).1.Booked (drainKey registry (store, 0) key).1.idle := by
  have same : (Store.drainKey registry (store, 0) key).1.idle =
      (store.setRegistry registry ((store.registry registry).drain key).2).idle := by
    apply drainKey_induction (motive := fun between => between.idle = _)
    · rfl
    · intro between idle member kept
      rw [discard_frame.2.2.2.1, kept]
  rw [same, drainKey_fst]
  exact (booked.drain key opened).discards

/-- A pool that opens has queued nothing yet. -/
theorem addPool {pool : Pool} (booked : store.Booked store.idle) (filed : store.Filed)
    (new : pool.stats.pooledBytes = 0) : (store.addPool pool).Booked store.idle := by
  refine of_counts store (fun id stats found => ?_) fun _ _ => rfl
  rw [stats?_addPool] at found
  split at found
  · rename_i here
    cases found
    refine new.trans (bytesOf_eq_zero fun entry inside same => ?_).symm
    obtain ⟨registry, inside⟩ := exists_mem_entries_of_mem_idle inside
    obtain ⟨pool, served, _⟩ := filed registry entry inside
    have known := Table.lt_next_of_get? served
    exact absurd known (Nat.not_lt.mpr (Nat.le_of_eq (here ▸ same.symm)))
  · exact booked id stats found

theorem reclaim {handle : BufferId} {buffer : Buffer} (booked : store.Booked store.idle)
    (registered : store.Registered) (lent : store.Lent)
    (live : store.buffers.get? handle = some buffer) (leased : buffer.recycler = some id) :
    ((store.vacate handle).reclaim id buffer).Booked
      ((store.vacate handle).reclaim id buffer).idle := by
  obtain ⟨_, record, served⟩ := lent live leased
  obtain ⟨current, opened⟩ := Option.isSome_iff_exists.mp (registered id record served)
  have ended : ((store.vacate handle).mapStats id (·.ended)).Booked store.idle :=
    (booked.mapStats id (·.ended) fun _ => rfl).keep rfl fun _ _ => rfl
  have dropped := ended.mapStats id (·.dropped) fun _ => rfl
  have outcome : Reclaimed (store.vacate handle) id record buffer _ := reclaim_outcome served
  generalize (store.vacate handle).reclaim id buffer = after at outcome ⊢
  cases outcome with
  | closed closed => exact dropped.keep rfl fun _ _ => by simp [size]
  | unfit unclosed unfit => exact dropped.keep rfl fun _ _ => by simp [size]
  | @queued registry unclosed intact unheld offered =>
      have queued := (ended.offer_accepted opened offered).mapStats id (·.kept) fun _ => rfl
      rw [returnIdle, mapStats_mapStats] at queued
      exact queued.keep rfl fun _ _ => rfl
  | @refused registry unclosed intact unheld offered =>
      exact (dropped.offer_refused opened offered).keep rfl fun _ _ => by simp [size]

end Booked

end Store

open Store in
theorem Step.booked (step : Step warrant store after) (held : store.WellHeld)
    (owned : store.Owned) (lent : store.Lent) (filed : store.Filed)
    (booked : store.Booked store.idle) : after.Booked after.idle := by
  have older : ∀ {region}, ∀ entry ∈ store.idle,
      (store.addArena region).size entry.arena = store.size entry.arena := by
    intro region entry inside
    rw [size, arena_addArena, if_neg (Nat.ne_of_lt (held.idleKnown inside)), size]
  have apart : ∀ {handle buffer}, store.buffers.get? handle = some buffer →
      ∀ region, ∀ entry ∈ store.idle,
        (store.setRegion buffer.arena region).size entry.arena = store.size entry.arena := by
    intro handle buffer live region entry inside
    rw [size, arena_setRegion_of_ne (held.idleApart inside live).symm, size]
  have prepared : ∀ id pool, (store.stocked id pool).Booked store.idle := fun id _ =>
    (booked.mapStats id (·.made) fun _ => rfl).keep rfl older
  cases step with
  | openRegistry =>
      rw [idle_addRegistry]
      exact booked.keep rfl fun _ _ => rfl
  | openPool valid opened => exact booked.addPool filed rfl
  | @stock id pool registry serving served offered =>
      obtain ⟨current, opened⟩ := Option.isSome_iff_exists.mp (held.registered id pool served)
      have size : (store.stocked id pool).size store.arenas.next =
          pool.settings.maxBufferCapacity := by
        simp [Store.size, stocked, arena_addArena, Region.size_allocate]
      have queued := (prepared id pool).offer_accepted opened offered
      simp only [reserveIdle, size] at queued
      exact queued.keep rfl fun _ _ => rfl
  | @overstock id pool registry serving served offered =>
      obtain ⟨current, opened⟩ := Option.isSome_iff_exists.mp (held.registered id pool served)
      have kept := (prepared id pool).offer_refused opened offered
      exact kept.keep rfl fun _ _ => by simp [Store.size]
  | close => exact .of_counts store (Counts.mapPool booked fun _ => rfl) fun _ _ => rfl
  | useKey => exact .of_counts store (Counts.mapPool booked fun _ => rfl) fun _ _ => rfl
  | @drain id pool key served =>
      obtain ⟨current, opened⟩ := Option.isSome_iff_exists.mp (held.registered id pool served)
      exact booked.drainKey opened
  | addArena => exact booked.keep rfl older
  | create granted fresh => exact booked.keep rfl older
  | @leaseFresh id pool request granted serving served valid none =>
      have counted := (booked.mapStats id (·.missed) fun _ => rfl).mapStats id
        (·.leased) fun _ => rfl
      exact counted.keep rfl older
  | @leaseIdle id pool request idle rest region granted served valid taken reserved =>
      obtain ⟨current, opened⟩ := Option.isSome_iff_exists.mp (held.registered id pool served)
      have left : store.idle.Perm (idle :: (store.setRegistry pool.registry rest).idle) :=
        idle_poll opened taken
      have asked : (store.mapStats id (·.hit)).Booked store.idle :=
        booked.mapStats id (·.hit) fun _ => rfl
      have leased := (asked.poll opened taken).mapStats id (·.leased) fun _ => rfl
      -- The arena that is made larger has left the queues, so what they hold keeps its length.
      refine leased.keep rfl fun entry inside => ?_
      have distinct : ((idle :: (store.setRegistry pool.registry rest).idle).map
          (·.arena)).Nodup := (left.map _).nodup_iff.mp held.idleDistinct
      have apart : entry.arena ≠ idle.arena := fun same =>
        (List.nodup_cons.mp distinct).1 (List.mem_map.mpr ⟨entry, inside, same⟩)
      exact congrArg Region.size (congrArg Arena.region (arena_setRegion_of_ne apart))
  | lose served taken refused =>
      obtain ⟨region, reserved⟩ := owned.reserve _ taken
      rw [reserved] at refused
      contradiction
  | write named live guarded written => exact booked.keep rfl (apart live _)
  | @resize handle buffer capacity region named live allowed accessible resized =>
      have same : (((store.setRegion buffer.arena region).emitGrowth buffer capacity).mapBuffer
          handle fun _ => buffer.withCapacity capacity).idle = store.idle := by simp
      rw [same]
      refine booked.keep (by simp) fun entry inside => ?_
      simpa [size] using apart live region entry inside
  | free named live frees =>
      apply free_induction (motive := fun after => after.Booked after.idle)
      · exact fun _ => booked
      · exact fun event => booked.keep rfl fun _ _ => by simp [size]
  | @reclaim handle buffer id named live leased =>
      exact booked.reclaim held.registered lent live leased
  | _ => exact booked.keep rfl fun _ _ => rfl

/-- Leases, queues and queued bytes are in order. -/
structure Store.Ledger (store : Store) : Prop where
  sound : store.Sound
  filed : store.Filed
  booked : store.Booked store.idle

theorem Step.ledger (step : Step warrant store after) (ledger : store.Ledger) : after.Ledger where
  sound := step.sound ledger.sound
  filed := step.filed ledger.filed
  booked := step.booked ledger.sound.held ledger.sound.owned ledger.sound.lent ledger.filed
    ledger.booked

namespace Store

variable {commands : List Command} {pool : Pool} {registry : RegistryId} {key : Nat}

theorem Reachable.ledger (reachable : store.Reachable) : store.Ledger := by
  refine reachable.induction ⟨sound_initial, ?_, ?_⟩ Step.ledger
  · intro id entry inside
    rw [registry_initial] at inside
    exact absurd inside List.not_mem_nil
  · intro id stats found
    rw [stats?, Table.get?_eq_none_of_next_le (Nat.zero_le id)] at found
    cases found

namespace Ledger

/-- A pool has counted the bytes that it queued in the registry that it uses. -/
theorem pooledBytes (ledger : store.Ledger) (served : store.pools.get? id = some pool) :
    pool.stats.pooledBytes = store.bytesOf id (store.registry pool.registry).entries := by
  have held := ledger.sound.held
  have same : (store.idle.filter (·.queuedBy = id)).Perm
      ((store.registry pool.registry).entries.filter (·.queuedBy = id)) := by
    refine (List.perm_ext_iff_of_nodup (held.nodup_idle.filter _)
      (held.nodup_entries.filter _)).mpr fun entry => ?_
    simp only [List.mem_filter, decide_eq_true_eq]
    constructor
    · rintro ⟨inside, rfl⟩
      exact ⟨ledger.filed.mem_entries inside served, rfl⟩
    · exact And.imp_left mem_idle_of_mem_entries
  rw [ledger.booked id _ (stats?_of_served served), ← bytesOf_filter, bytesOf_perm same,
    bytesOf_filter]

theorem size_le_of_poll {rest : Registry} {stats : PoolStats} (ledger : store.Ledger)
    (opened : (store.registries.get? registry).isSome)
    (taken : (store.registry registry).poll key = some (entry, rest))
    (found : store.stats? entry.queuedBy = some stats) :
    store.size entry.arena ≤ stats.pooledBytes := by
  obtain ⟨current, opened⟩ := Option.isSome_iff_exists.mp opened
  exact (ledger.booked.perm (idle_poll opened taken)).size_le found

/-- When the arenas in front of an entry of a queue were taken off, the entry is still counted. -/
theorem booked_of_drain {front back : List Idle} (ledger : store.Ledger)
    (opened : (store.registries.get? registry).isSome)
    (waits : (store.registry registry).queue key = front ++ entry :: back) :
    ∃ others, ((store.setRegistry registry ((store.registry registry).drain key).2).discards
      front).Booked (entry :: others) := by
  obtain ⟨current, opened⟩ := Option.isSome_iff_exists.mp opened
  have drained := ledger.booked.drain key opened
  rw [waits, List.append_assoc, List.cons_append] at drained
  exact ⟨_, drained.discards⟩

/-- In the middle of a close too all is in order. -/
theorem drainKeys {keys : List Nat} (ledger : store.Ledger)
    (served : store.pools.get? id = some pool) :
    ((store.mapPool id (·.close)).drainKeys pool.registry keys).Ledger := by
  have closed : (store.mapPool id (·.close)).identity? id = some pool.identity := by
    have kept : (store.mapPool id (·.close)).identity? id = store.identity? id :=
      identity?_mapPool fun _ => rfl
    rw [kept, identity?_of_served served]
  have steps : Steps (Command.closePool id |>.warrant store) store
      ((store.mapPool id (·.close)).drainKeys pool.registry keys) :=
    .head .close (steps_drainKeys closed)
  exact steps.preserve ledger Step.ledger

end Ledger

/-- How the pools have counted the bytes of queued arenas: each has counted those that it put into
its registry, and no more is ever taken off than was counted, by the pool that polls an entry or by
the one that drains it at its close. -/
structure BytesCounted (store : Store) (commands : List Command) : Prop where
  counted : ∀ id pool, store.pools.get? id = some pool →
    pool.stats.pooledBytes = store.bytesOf id (store.registry pool.registry).entries
  put : ∀ registry, ∀ entry ∈ (store.registry registry).entries, PutBy commands entry
  polled : ∀ id pool key entry rest stats, store.pools.get? id = some pool →
    (store.registry pool.registry).poll key = some (entry, rest) →
    store.stats? entry.queuedBy = some stats → store.size entry.arena ≤ stats.pooledBytes
  drained : ∀ id pool before key later front entry back stats, store.pools.get? id = some pool →
    pool.keys = before ++ key :: later →
    let between := (store.mapPool id (·.close)).drainKeys pool.registry before
    (between.registry pool.registry).queue key = front ++ entry :: back →
    let reached := (between.setRegistry pool.registry
      ((between.registry pool.registry).drain key).2).discards front
    reached.stats? entry.queuedBy = some stats → reached.size entry.arena ≤ stats.pooledBytes

theorem bytesCounted_after : (initial.after commands).BytesCounted commands := by
  have ledger : (initial.after commands).Ledger := Reachable.ledger ⟨commands, rfl⟩
  have registered := ledger.sound.held.registered
  constructor
  · exact fun id pool served => ledger.pooledBytes served
  · exact fun registry entry inside => putBy_of_mem_idle (mem_idle_of_mem_entries inside)
  · intro id pool key entry rest stats served taken found
    exact ledger.size_le_of_poll (registered id pool served) taken found
  · intro id pool before key later front entry back stats served keys between waits reached found
    have middle : between.Ledger := ledger.drainKeys served
    have opened : (between.registries.get? pool.registry).isSome := by
      apply drainKeys_induction (motive := fun between =>
        (between.registries.get? pool.registry).isSome)
      · exact registered id pool served
      · exact fun between key opened => isSome_drainKey.trans opened
    obtain ⟨others, booked⟩ := middle.booked_of_drain opened waits
    exact booked.size_le found

end Store

end CursorBuffers
