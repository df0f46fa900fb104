import CursorBuffers.Proofs.Accounts.Filing
import Mathlib.Algebra.GroupWithZero.Nat

namespace CursorBuffers

section Sums

variable {α : Type} {table : Table α} {id : Nat} {entry : α} {weight : α → Nat}

def Table.sum (table : Table α) (weight : α → Nat) : Nat := (table.entries.map weight).sum

@[simp] theorem Table.sum_add :
    (table.add entry).sum weight = table.sum weight + weight entry := by
  simp [sum]

/-- What a sum gains or loses is what the changed entry does. -/
theorem Table.sum_update (weight : α → Nat) (change : α → α)
    (occupied : table.get? id = some entry) :
    (table.update id change).sum weight + weight entry =
      table.sum weight + weight (change entry) := by
  obtain ⟨front, back, entries, updated, _⟩ := entries_split occupied
  simp only [sum, entries, updated, List.map_append, List.map_cons, List.sum_append, List.sum_cons]
  omega

end Sums

variable {warrant : Warrant} {store after : Store} {registry : RegistryId} {id : PoolId}
variable {pool : Pool} {commands : List Command} {command : Command}

namespace Store

/-- What the pools of a registry have counted together. -/
def total (store : Store) (registry : RegistryId) (counter : PoolStats → Nat) : Nat :=
  store.pools.sum fun pool => if pool.registry = registry then counter pool.stats else 0

section Totals

variable {counter : PoolStats → Nat} {change : PoolStats → PoolStats} {count : Nat}

theorem total_congr (same : after.pools = store.pools) :
    after.total registry counter = store.total registry counter := by
  rw [total, total, same]

theorem total_addPool : (store.addPool pool).total registry counter =
    store.total registry counter + if pool.registry = registry then counter pool.stats else 0 :=
  Table.sum_add

theorem total_mapPool {change : Pool → Pool} (keeps : ∀ pool, (change pool).stats = pool.stats)
    (stays : ∀ pool, (change pool).registry = pool.registry) :
    (store.mapPool id change).total registry counter = store.total registry counter := by
  cases found : store.pools.get? id with
  | none => rw [total, mapPool, Table.update_of_vacant found, total]
  | some pool =>
      have sum := Table.sum_update
        (fun pool => if pool.registry = registry then counter pool.stats else 0) change found
      rw [keeps, stays] at sum
      exact Nat.add_right_cancel sum

theorem total_mapStats (registry : RegistryId) (counter : PoolStats → Nat)
    (change : PoolStats → PoolStats) (served : store.pools.get? id = some pool) :
    (store.mapStats id change).total registry counter +
        (if pool.registry = registry then counter pool.stats else 0) =
      store.total registry counter +
        if pool.registry = registry then counter (change pool.stats) else 0 :=
  Table.sum_update _ _ served

theorem total_mapStats_of_same (same : ∀ stats, counter (change stats) = counter stats) :
    (store.mapStats id change).total registry counter = store.total registry counter := by
  cases found : store.pools.get? id with
  | none => rw [total, mapStats, mapPool, Table.update_of_vacant found, total]
  | some pool =>
      have sum := total_mapStats registry counter change found
      rw [same] at sum
      exact Nat.add_right_cancel sum

end Totals

/-- All arenas that the pools of a registry have made are queued, lent or discarded, but for the
ones that are gone. -/
def Settled (store : Store) (registry : RegistryId) (gone : Nat) : Prop :=
  store.total registry (·.freshAllocations) =
    (store.registry registry).entries.length + store.total registry (·.activeLeases) +
      store.total registry (·.discarded) + gone

theorem length_setRegistry {changed : RegistryId} {current : Registry}
    (opened : (store.registries.get? changed).isSome) :
    ((store.setRegistry changed current).registry registry).entries.length =
      if registry = changed then current.entries.length
      else (store.registry registry).entries.length := by
  rw [registry_setRegistry opened]
  split <;> rfl

namespace Settled

variable {gone goneAfter : Nat} {change : PoolStats → PoolStats}

theorem keep (settled : store.Settled registry gone)
    (totals : ∀ counter : PoolStats → Nat,
      (∀ stats bytes, counter (PoolStats.unqueued stats bytes) = counter stats) →
      after.total registry counter = store.total registry counter)
    (entries : (after.registry registry).entries.length + goneAfter =
      (store.registry registry).entries.length + gone) : after.Settled registry goneAfter := by
  unfold Settled at *
  rw [totals _ fun _ _ => rfl, totals _ fun _ _ => rfl, totals _ fun _ _ => rfl]
  omega

theorem mapStats (settled : store.Settled registry gone)
    (fresh : ∀ stats, (change stats).freshAllocations = stats.freshAllocations)
    (active : ∀ stats, (change stats).activeLeases = stats.activeLeases)
    (discarded : ∀ stats, (change stats).discarded = stats.discarded) :
    (store.mapStats id change).Settled registry gone := by
  unfold Settled at *
  rwa [total_mapStats_of_same fresh, total_mapStats_of_same active,
    total_mapStats_of_same discarded]

/-- A pool counts what becomes of arenas of its registry, and nothing else happens. -/
theorem count (change : PoolStats → PoolStats) (settled : store.Settled registry gone)
    (served : store.pools.get? id = some pool)
    (pools : after.pools = (store.mapStats id change).pools)
    (own : pool.registry = registry →
      (change pool.stats).freshAllocations + pool.stats.activeLeases + pool.stats.discarded +
          (store.registry registry).entries.length + gone =
        pool.stats.freshAllocations + (change pool.stats).activeLeases +
          (change pool.stats).discarded + (after.registry registry).entries.length + goneAfter)
    (other : pool.registry ≠ registry → (after.registry registry).entries.length + goneAfter =
      (store.registry registry).entries.length + gone) : after.Settled registry goneAfter := by
  unfold Settled at *
  simp only [total_congr pools]
  have fresh := total_mapStats registry (·.freshAllocations) change served
  have active := total_mapStats registry (·.activeLeases) change served
  have discarded := total_mapStats registry (·.discarded) change served
  by_cases uses : pool.registry = registry
  · have balance := own uses
    simp only [if_pos uses] at fresh active discarded
    omega
  · have balance := other uses
    simp only [if_neg uses] at fresh active discarded
    omega

/-- A lease ends, and its arena is discarded. -/
theorem discard (settled : store.Settled registry gone) (served : store.pools.get? id = some pool)
    (out : 0 < pool.stats.activeLeases)
    (pools : after.pools = ((store.mapStats id (·.ended)).mapStats id (·.dropped)).pools)
    (entries : (after.registry registry).entries.length =
      (store.registry registry).entries.length) : after.Settled registry gone := by
  rw [mapStats_mapStats] at pools
  refine settled.count _ served pools (fun _ => ?_) fun _ => by rw [entries]
  simp only [Function.comp, PoolStats.ended, PoolStats.dropped]
  omega

/-- A lease ends, and its arena is queued. -/
theorem recycle {bytes : Nat} (settled : store.Settled registry gone)
    (served : store.pools.get? id = some pool) (out : 0 < pool.stats.activeLeases)
    (pools : after.pools = ((store.mapStats id (·.ended)).mapStats id
      fun stats => (stats.queued bytes).kept).pools)
    (entries : (after.registry registry).entries.length =
      (store.registry registry).entries.length + if registry = pool.registry then 1 else 0) :
    after.Settled registry gone := by
  rw [mapStats_mapStats] at pools
  refine settled.count _ served pools (fun own => ?_) fun other => ?_
  · rw [if_pos own.symm] at entries
    simp only [Function.comp, PoolStats.ended, PoolStats.queued, PoolStats.kept]
    omega
  · rw [if_neg (Ne.symm other)] at entries
    omega

theorem reclaim {handle : BufferId} {buffer : Buffer} (settled : store.Settled registry gone)
    (registered : store.Registered) (lent : store.Lent) (balanced : store.Balanced)
    (live : store.buffers.get? handle = some buffer) (leased : buffer.recycler = some id) :
    ((store.vacate handle).reclaim id buffer).Settled registry gone := by
  obtain ⟨_, record, served⟩ := lent live leased
  have opened : (store.registries.get? record.registry).isSome := registered id record served
  have out : 0 < record.stats.activeLeases := by
    rw [(balanced id record.stats (stats?_of_served served)).active, leases_vacate live,
      if_pos leased]
    exact Nat.succ_pos _
  have outcome : Reclaimed (store.vacate handle) id record buffer _ := reclaim_outcome served
  generalize (store.vacate handle).reclaim id buffer = after at outcome ⊢
  cases outcome with
  | closed closed => exact settled.discard served out rfl rfl
  | unfit unclosed unfit => exact settled.discard served out rfl rfl
  | queued unclosed intact unheld offered =>
      refine settled.recycle served out rfl ((length_setRegistry opened).trans ?_)
      have gained := (Registry.entries_offer_accepted offered).length_eq
      split
      · rename_i here
        subst here
        exact gained
      · rfl
  | refused unclosed intact unheld offered =>
      refine settled.discard served out rfl ((length_setRegistry opened).trans ?_)
      have kept := (Registry.entries_offer_refused offered).length_eq
      split
      · rename_i here
        subst here
        exact kept
      · rfl

end Settled

end Store

open Store in
theorem Deal.settled {gone : Nat} (deal : Deal warrant store after)
    (registered : store.Registered) (lent : store.Lent) (balanced : store.Balanced)
    (settled : store.Settled registry gone) : after.Settled registry gone := by
  cases deal with
  | aside steps aside =>
      have same : after.registry registry = store.registry registry := by
        rw [Store.registry, Store.registry, aside.registries]
      exact settled.keep (fun _ _ => total_congr aside.pools) (by rw [same])
  | ask granted serving served unclosed =>
      exact settled.keep (fun _ _ => total_mapPool (fun _ => rfl) fun _ => rfl) rfl
  | @lendNew id pool request granted serving served valid asked none =>
      have pools : (store.lentNew id pool request).pools =
          (store.mapStats id fun stats => stats.missed.leased).pools := Table.update_update
      refine settled.count _ served pools (fun _ => ?_) fun _ => rfl
      simp only [PoolStats.missed, PoolStats.made, PoolStats.leased]
      have same : (store.lentNew id pool request).registry registry = store.registry registry := rfl
      rw [same]
      omega
  | @lendIdle id pool request idle rest region granted serving served valid asked taken reserved =>
      let asking := (store.mapStats id (·.hit)).mapStats idle.queuedBy
        (·.unqueued (store.arena idle.arena).region.size)
      have hit : (store.mapStats id (·.hit)).Settled registry gone :=
        settled.mapStats (fun _ => rfl) (fun _ => rfl) fun _ => rfl
      have counted : asking.Settled registry gone :=
        hit.mapStats (fun _ => rfl) (fun _ => rfl) fun _ => rfl
      have known : asking.identity? id = some pool.identity := by
        simp [asking, identity?_of_served served]
      obtain ⟨asker, found, _, _, _, uses⟩ := served_of_identity? known
      have length : (store.registry pool.registry).entries.length = rest.entries.length + 1 :=
        (Registry.entries_poll taken).length_eq
      refine counted.count (·.leased) found rfl (fun own => ?_) fun other => ?_
      · have left : (store.lentIdle id pool request idle rest region).registry registry = rest := by
          rw [← own, uses]
          exact (registry_setRegistry (registered id pool served)).trans (if_pos rfl)
        have before : asking.registry registry = store.registry pool.registry := by
          rw [← own, uses]
          rfl
        rw [left, before, length]
        simp only [PoolStats.leased]
        omega
      · have same : (store.lentIdle id pool request idle rest region).registry registry =
            store.registry registry :=
          registry_setRegistry_of_ne fun equal => other (uses.trans equal.symm)
        rw [same]
        rfl
  | @reclaim handle buffer pool named live leased =>
      exact settled.reclaim registered lent balanced live leased

theorem Deals.settled {gone : Nat} (deals : Deals warrant store after) (sound : store.Sound)
    (settled : store.Settled registry gone) : after.Settled registry gone :=
  deals.preserve_of_sound sound settled fun deal sound settled =>
    deal.settled sound.held.registered sound.lent sound.balanced settled

namespace Store

/-- What a measure of single commands adds up to in the course of a run. -/
def tally (store : Store) (measure : Store → Command → Nat) : List Command → Nat
  | [] => 0
  | command :: rest => measure store command + (store.run command).2.tally measure rest

theorem tally_concat {measure : Store → Command → Nat} :
    store.tally measure (commands ++ [command]) =
      store.tally measure commands + measure (store.after commands) command := by
  induction commands generalizing store with
  | nil => simp [tally]
  | cons first rest ih =>
      rw [List.cons_append, tally, ih, tally, Nat.add_assoc]
      rfl

/-- The arenas that were made between two states of a store. -/
def newArenas (store after : Store) : List ArenaId :=
  List.range' store.arenas.next (after.arenas.next - store.arenas.next)

/-- How many arenas a registry does not queue. -/
def unqueuedOf (store : Store) (registry : RegistryId) (arenas : List ArenaId) : Nat :=
  arenas.countP fun arena => arena ∉ (store.registry registry).entries.map (·.arena)

/-- The arenas that a command makes in advance for a pool: the ones that its opening makes. -/
def prefills (id : PoolId) (store : Store) : Command → Nat
  | .openPool config settings registry =>
      if id = store.pools.next then
        (store.newArenas (store.run (.openPool config settings registry)).2).length
      else 0
  | _ => 0

/-- The arenas that a command makes in advance for a registry and does not queue there. -/
def refusals (registry : RegistryId) (store : Store) : Command → Nat
  | .openPool config settings target =>
      let after := (store.run (.openPool config settings target)).2
      if target = registry then after.unqueuedOf registry (store.newArenas after) else 0
  | _ => 0

/-- The entries of a registry that a command drains: the ones that are gone when a pool closes. -/
def drains (registry : RegistryId) (store : Store) : Command → Nat
  | .closePool id =>
      (store.registry registry).entries.countP fun entry =>
        entry ∉ ((store.run (.closePool id)).2.registry registry).entries
  | _ => 0

section Opening

variable {queued refused gone : Nat}

/-- What was refused is what was made and is not queued. -/
theorem Prefilled.refused_eq (prefilled : store.Prefilled id pool queued refused after)
    (known : ∀ entry ∈ (store.registry pool.registry).entries, entry.arena < store.arenas.next) :
    after.unqueuedOf pool.registry (store.newArenas after) = refused := by
  have member : ∀ arena, arena ∈ (after.registry pool.registry).entries.map (·.arena) ↔
      arena ∈ List.range' store.arenas.next queued ∨
        ∃ entry ∈ (store.registry pool.registry).entries, entry.arena = arena := by
    intro arena
    rw [(prefilled.entries.map _).mem_iff, List.map_append, List.mem_append]
    simp [reserves]
  rw [newArenas, prefilled.arenas, Nat.add_sub_cancel_left, ← List.range'_append_1, unqueuedOf,
    List.countP_append]
  have kept : ((List.range' store.arenas.next queued).countP fun arena =>
      arena ∉ (after.registry pool.registry).entries.map (·.arena)) = 0 := by
    refine List.countP_eq_zero.mpr fun arena inside => ?_
    simpa using (member arena).mpr (.inl inside)
  -- The arenas that were queued before are all older than the ones that were refused.
  have left : ((List.range' (store.arenas.next + queued) refused).countP fun arena =>
      arena ∉ (after.registry pool.registry).entries.map (·.arena)) = refused := by
    refine (List.countP_eq_length.mpr fun arena inside => ?_).trans List.length_range'
    rw [List.mem_range'_1] at inside
    have outside : arena ∉ (after.registry pool.registry).entries.map (·.arena) := by
      rw [member, List.mem_range'_1]
      rintro (within | ⟨entry, old, rfl⟩)
      · omega
      · exact absurd (known entry old) (Nat.not_lt.mpr (by omega))
    simpa using outside
  rw [kept, left, Nat.zero_add]

theorem Settled.prefilled (settled : store.Settled registry gone)
    (served : store.pools.get? id = some pool)
    (known : ∀ entry ∈ (store.registry pool.registry).entries, entry.arena < store.arenas.next)
    (prefilled : store.Prefilled id pool queued refused after) :
    after.Settled registry (gone + if pool.registry = registry then
      after.unqueuedOf registry (store.newArenas after) else 0) := by
  refine settled.count _ served prefilled.pools (fun own => ?_) fun other => ?_
  · subst own
    have length := prefilled.entries.length_eq
    rw [List.length_append, reserves, List.length_map, List.length_range'] at length
    rw [if_pos rfl, prefilled.refused_eq known]
    simp only [PoolStats.prefilled]
    omega
  · rw [if_neg other, prefilled.others registry (Ne.symm other), Nat.add_zero]

theorem settled_openPool (config : MemoryConfig) (settings : PoolConfig) (target : RegistryId)
    (held : store.WellHeld) (settled : store.Settled registry gone) :
    (store.run (.openPool config settings target)).2.Settled registry
      (gone + refusals registry store (.openPool config settings target)) := by
  have known : ∀ entry ∈ (store.registry target).entries, entry.arena < store.arenas.next :=
    fun entry inside => held.idleKnown (mem_idle_of_mem_entries inside)
  simp only [refusals]
  rcases run_openPool store config settings target with ⟨failure, failed⟩ |
    ⟨queued, refused, after, done, _, prefilled⟩
  · simpa [failed, unqueuedOf, newArenas] using settled
  · rw [done]
    have begun : (store.addPool (.opened config settings target)).Settled registry gone := by
      unfold Settled at *
      simpa [total_addPool, Pool.opened] using settled
    exact begun.prefilled Table.get?_add_next known prefilled

end Opening

section Closing

variable {gone : Nat}

theorem total_drainKeys {counter : PoolStats → Nat} {target : RegistryId} {keys : List Nat}
    (same : ∀ (stats : PoolStats) bytes, counter (stats.unqueued bytes) = counter stats) :
    (store.drainKeys target keys).total registry counter = store.total registry counter := by
  apply drainKeys_induction (motive := fun between => between.total registry counter = _)
  · rfl
  · intro between key kept
    apply drainKey_induction (motive := fun later => later.total registry counter = _)
    · exact kept
    · intro later idle member kept
      exact (total_mapStats_of_same fun stats => same stats _).trans kept

theorem countP_not_mem {entries gone kept : List Idle} (split : entries.Perm (gone ++ kept))
    (distinct : entries.Nodup) : (entries.countP fun entry => entry ∉ kept) = gone.length := by
  have apart := List.disjoint_of_nodup_append (split.nodup_iff.mp distinct)
  rw [split.countP_eq, List.countP_append, List.countP_eq_length.mpr fun entry inside => by
    simpa using apart inside]
  simp [List.countP_eq_zero]

theorem settled_closePool (id : PoolId) (held : store.WellHeld)
    (settled : store.Settled registry gone) :
    (store.run (.closePool id)).2.Settled registry
      (gone + drains registry store (.closePool id)) := by
  simp only [drains, after_closePool]
  apply closePool_induction (motive := fun after => after.Settled registry
    (gone + (store.registry registry).entries.countP fun entry =>
      entry ∉ (after.registry registry).entries))
  · simpa [List.countP_eq_zero.mpr] using settled
  intro pool event served unclosed
  have opened : ((store.mapPool id (·.close)).registries.get? pool.registry).isSome :=
    held.registered id pool served
  refine settled.keep (fun counter same => ?_) ?_
  · exact (total_drainKeys same).trans (total_mapPool (fun _ => rfl) fun _ => rfl)
  simp only [emit_frame]
  by_cases here : registry = pool.registry
  · subst here
    obtain ⟨drained, split⟩ := entries_drainKeys pool.keys opened
    rw [mapPool_frame.2.2.2.2.1] at split
    have length := split.length_eq
    rw [List.length_append] at length
    rw [countP_not_mem split held.nodup_entries]
    omega
  · rw [registry_drainKeys_of_ne opened here]
    simp [List.countP_eq_zero.mpr]

end Closing

theorem settled_initial : initial.Settled registry 0 := by
  rw [Settled, registry_initial]
  rfl

theorem settled_openRegistry {gone : Nat} (settled : store.Settled registry gone) :
    (store.run .openRegistry).2.Settled registry gone := by
  have same : (store.run .openRegistry).2.registry registry = store.registry registry :=
    registry_addRegistry
  exact settled.keep (fun _ _ => rfl) (by rw [same])

/-- What is gone from a registry was drained or refused. -/
theorem settled_after : (initial.after commands).Settled registry
    (initial.tally (drains registry) commands + initial.tally (refusals registry) commands) := by
  induction commands using List.reverseRecOn with
  | nil => exact settled_initial
  | append_singleton commands command ih =>
      have sound : (initial.after commands).Sound := Reachable.sound ⟨commands, rfl⟩
      rw [tally_concat, tally_concat, after_concat]
      -- Only opening and closing add to what is gone; all other commands are chains of deals.
      have trade : command.Trades → ((initial.after commands).run command).2.Settled registry _ :=
        fun trades => (deals_run sound.owned trades).settled sound ih
      cases command with
      | openRegistry => exact settled_openRegistry ih
      | openPool config settings target =>
          have opened := settled_openPool config settings target sound.held ih
          rwa [Nat.add_assoc] at opened
      | closePool id =>
          have closed := settled_closePool id sound.held ih
          rwa [Nat.add_right_comm] at closed
      | _ => exact trade trivial

section Made

variable {made : PoolId → Nat}

/-- A pool has made one arena at each miss, and some more in advance. -/
def Made (store : Store) (made : PoolId → Nat) : Prop :=
  store.Counts fun id stats => stats.freshAllocations = stats.poolMisses + made id

theorem Made.mapStats (id : PoolId) (change : PoolStats → PoolStats) (counts : store.Made made)
    (keeps : ∀ stats, (change stats).freshAllocations + stats.poolMisses =
      stats.freshAllocations + (change stats).poolMisses) : (store.mapStats id change).Made made :=
  Counts.mapStats counts fun {_ stats} _ => by
    have := keeps stats
    omega

theorem Made.deal (counts : store.Made made) (lent : store.Lent) (deal : Deal warrant store after) :
    after.Made made := by
  cases deal with
  | aside steps aside => exact Counts.of_pools counts aside.pools
  | ask granted serving served unclosed => exact Counts.mapPool counts fun _ => rfl
  | @lendNew id pool request granted serving served valid asked none =>
      have missed : (store.mapStats id (·.missed)).Made made :=
        counts.mapStats id (·.missed) fun stats => Nat.add_right_comm _ _ _
      have leased : ((store.mapStats id (·.missed)).mapStats id (·.leased)).Made made :=
        missed.mapStats id (·.leased) fun _ => rfl
      exact Counts.of_pools leased rfl
  | @lendIdle id pool request idle rest region granted serving served valid asked taken reserved =>
      have hit : (store.mapStats id (·.hit)).Made made := counts.mapStats id (·.hit) fun _ => rfl
      have unqueued : ((store.mapStats id (·.hit)).mapStats idle.queuedBy
          (·.unqueued (store.arena idle.arena).region.size)).Made made :=
        hit.mapStats _ (·.unqueued _) fun _ => rfl
      have leased := unqueued.mapStats id (·.leased) fun _ => rfl
      exact Counts.of_pools leased rfl
  | @reclaim handle buffer id named live leased =>
      have ended : (store.mapStats id (·.ended)).Made made :=
        counts.mapStats id (·.ended) fun _ => rfl
      obtain ⟨_, record, served⟩ := lent live leased
      have outcome : Reclaimed (store.vacate handle) id record buffer _ := reclaim_outcome served
      generalize (store.vacate handle).reclaim id buffer = after at outcome ⊢
      cases outcome with
      | queued unclosed intact unheld offered =>
          have kept := ended.mapStats id (fun stats => (stats.queued
            (store.arena buffer.arena).region.size).kept) fun _ => rfl
          exact Counts.of_pools kept rfl
      | _ =>
          have dropped := ended.mapStats id (·.dropped) fun _ => rfl
          exact Counts.of_pools dropped rfl

theorem Made.deals (counts : store.Made made) (sound : store.Sound)
    (deals : Deals warrant store after) : after.Made made :=
  deals.preserve_of_sound (motive := (·.Made made)) sound counts fun deal sound counts =>
    counts.deal sound.lent deal

theorem Made.closePool (counts : store.Made made) : (store.closePool id).Made made := by
  apply closePool_induction (motive := (·.Made made)) counts
  intro pool event served unclosed
  have drained : ((store.mapPool id (·.close)).drainKeys pool.registry pool.keys).Made made := by
    apply drainKeys_induction (motive := (·.Made made))
    · exact Counts.mapPool counts fun _ => rfl
    · intro between key kept
      apply drainKey_induction (motive := (·.Made made))
      · exact kept
      · intro later idle member kept
        have unqueued := kept.mapStats idle.queuedBy
          (·.unqueued (later.arena idle.arena).region.size) fun _ => rfl
        exact Counts.of_pools unqueued rfl
  exact drained

theorem made_openPool {config : MemoryConfig} {settings : PoolConfig} {target : RegistryId}
    (counts : store.Made made) (new : made store.pools.next = 0) :
    (store.run (.openPool config settings target)).2.Made fun id =>
      made id + prefills id store (.openPool config settings target) := by
  simp only [prefills]
  rcases run_openPool store config settings target with ⟨failure, failed⟩ |
    ⟨queued, refused, after, done, _, prefilled⟩
  · simpa [failed, newArenas] using counts
  · rw [done]
    intro id stats found
    rw [stats?_congr prefilled.pools, stats?_mapStats, stats?_addPool] at found
    split at found
    · rename_i here
      subst here
      cases found
      simp only [new, newArenas, List.length_range', prefilled.arenas]
      simp [PoolStats.prefilled, Pool.opened]
    · rename_i elsewhere
      simp only [if_neg elsewhere, Option.map_id'] at found ⊢
      exact counts id stats found

/-- A command that makes arenas in advance for a pool leaves that pool open. -/
theorem prefills_eq_zero (none : (store.run command).2.stats? id = none) :
    prefills id store command = 0 := by
  cases command with
  | openPool config settings registry =>
      simp only [prefills]
      rcases run_openPool store config settings registry with ⟨failure, failed⟩ |
        ⟨queued, refused, after, done, _, prefilled⟩
      · simp [failed, newArenas]
      · rw [done] at none
        rw [stats?_congr prefilled.pools, stats?_mapStats, stats?_addPool] at none
        refine if_neg fun here => ?_
        rw [if_pos here] at none
        cases none
  | _ => rfl

/-- No arenas were made in advance for a pool that is yet to be opened. -/
theorem tally_prefills_eq_zero (none : (initial.after commands).stats? id = none) :
    initial.tally (prefills id) commands = 0 := by
  induction commands using List.reverseRecOn with
  | nil => rfl
  | append_singleton commands command ih =>
      rw [after_concat] at none
      rw [tally_concat, prefills_eq_zero none, ih ?_]
      cases found : (initial.after commands).pools.get? id with
      | none => rw [stats?, found, Option.map_none]
      | some pool =>
          have steps : Steps (command.warrant (initial.after commands)) _ _ := steps_run
          obtain ⟨later, still, _⟩ := served_of_identity?
            (steps.identity?_of_some (identity?_of_served found))
          rw [stats?, still] at none
          cases none

theorem made_after :
    (initial.after commands).Made fun id => initial.tally (prefills id) commands := by
  induction commands using List.reverseRecOn with
  | nil =>
      intro id stats found
      rw [after, List.foldl_nil, stats?, Table.get?_eq_none_of_next_le (Nat.zero_le id)] at found
      cases found
  | append_singleton commands command ih =>
      have sound : (initial.after commands).Sound := Reachable.sound ⟨commands, rfl⟩
      simp only [tally_concat, after_concat]
      have trade : command.Trades → ((initial.after commands).run command).2.Made _ :=
        fun trades => Made.deals ih sound (deals_run sound.owned trades)
      cases command with
      | openRegistry => exact ih
      | openPool config settings target =>
          refine made_openPool ih (tally_prefills_eq_zero ?_)
          rw [stats?, Table.get?_eq_none_of_next_le (Nat.le_refl _), Option.map_none]
      | closePool id =>
          rw [after_closePool]
          exact ih.closePool
      | _ => exact trade trivial

end Made

/-- Where the leases of pools and the arenas that they made have gone. -/
structure Conserved (store : Store) (commands : List Command) : Prop where
  served : ∀ id stats, store.stats? id = some stats →
    stats.poolHits + stats.poolMisses = stats.activeLeases + stats.recycled + stats.discarded
  active : ∀ id stats, store.stats? id = some stats →
    stats.activeLeases = store.buffers.count fun buffer =>
      buffer.pooled && buffer.role == .owner && buffer.recycler == some id
  handedOut : ∀ id handle buffer, store.buffers.get? handle = some buffer →
    (buffer.recycler = some id ↔ ∃ key, HandedOut commands id key handle)
  made : ∀ id stats, store.stats? id = some stats →
    stats.freshAllocations = stats.poolMisses + initial.tally (prefills id) commands
  gone : ∀ registry, store.total registry (·.freshAllocations) =
    (store.registry registry).entries.length + store.total registry (·.activeLeases) +
      store.total registry (·.discarded) + initial.tally (drains registry) commands +
      initial.tally (refusals registry) commands

/-- All leases are pooled, and held by owners. -/
theorem Sound.leases (sound : store.Sound) : store.leases id = store.buffers.count fun buffer =>
    buffer.pooled && buffer.role == .owner && buffer.recycler == some id := by
  refine Table.count_congr fun handle buffer live => ?_
  simp only [Bool.and_eq_true, beq_iff_eq]
  refine ⟨fun leased => ⟨⟨?_, (sound.lent live leased).1⟩, leased⟩, And.right⟩
  exact sound.held.leased live (by simp [leased])

/-- In every run, a pool has served as many requests as it has leases that are out or have ended.
It counts as out the leases that it has handed out and that are live. It has made an arena at each
miss and at its opening. And of the arenas that the pools of a registry have made together, each is
queued there, lent, discarded, was drained when a pool closed, or was refused when one opened. -/
theorem conserved_after : (initial.after commands).Conserved commands := by
  have sound : (initial.after commands).Sound := Reachable.sound ⟨commands, rfl⟩
  constructor
  · exact fun id stats found => (sound.balanced id stats found).ended
  · intro id stats found
    rw [(sound.balanced id stats found).active, sound.leases]
  · exact fun id handle buffer live => Buffer.recycler_iff_handedOut live
  · exact made_after
  · intro registry
    rw [Nat.add_assoc]
    exact settled_after

end Store

end CursorBuffers
