import CursorBuffers.Proofs.Accounts.Filing

namespace CursorBuffers

variable {warrant : Warrant} {store between after : Store} {id other : PoolId} {pool : Pool}
variable {key : Nat}

/-- A pool later on: it has forgotten no key, and it was not opened again. -/
structure Pool.Follows (before after : Pool) : Prop where
  settings : after.settings = before.settings
  registry : after.registry = before.registry
  keys : before.keys ⊆ after.keys
  closed : before.closed = true → after.closed = true

namespace Pool.Follows

variable {first second third : Pool}

theorem of_terms (same : second.terms = first.terms) : first.Follows second := by
  simp only [terms, Pool.mk.injEq] at same
  obtain ⟨_, settings, _, registry, _, keys, closed⟩ := same
  exact ⟨settings, registry, keys ▸ fun _ inside => inside, closed ▸ fun holds => holds⟩

theorem trans (early : first.Follows second) (late : second.Follows third) :
    first.Follows third where
  settings := late.settings.trans early.settings
  registry := late.registry.trans early.registry
  keys := List.Subset.trans early.keys late.keys
  closed := late.closed ∘ early.closed

end Pool.Follows

namespace Store

/-- All pools of a store are there later on. -/
def Follows (store after : Store) : Prop :=
  ∀ id pool, store.pools.get? id = some pool →
    ∃ later, after.pools.get? id = some later ∧ pool.Follows later

namespace Follows

theorem of_terms? (same : ∀ id, after.terms? id = store.terms? id) : store.Follows after := by
  intro id pool served
  have terms := same id
  rw [terms?, terms?, served, Option.map_some, Option.map_eq_some_iff] at terms
  obtain ⟨later, found, same⟩ := terms
  exact ⟨later, found, .of_terms same⟩

theorem trans (early : store.Follows between) (late : between.Follows after) :
    store.Follows after := by
  intro id pool served
  obtain ⟨middle, found, first⟩ := early id pool served
  obtain ⟨later, also, second⟩ := late id middle found
  exact ⟨later, also, first.trans second⟩

theorem mapPool {change : Pool → Pool} (keeps : ∀ pool : Pool, pool.Follows (change pool)) :
    store.Follows (store.mapPool id change) := by
  intro other pool served
  simp only [Store.mapPool, Table.get?_update]
  split
  · rename_i same
    exact ⟨change pool, by rw [← same, served, Option.map_some], keeps pool⟩
  · exact ⟨pool, served, .of_terms rfl⟩

end Follows

/-- A pool remembers a key. -/
def Knows (store : Store) (id : PoolId) (key : Nat) : Prop :=
  ∃ pool, store.pools.get? id = some pool ∧ key ∈ pool.keys

theorem Follows.knows (follows : store.Follows after) (knows : store.Knows id key) :
    after.Knows id key := by
  obtain ⟨pool, served, member⟩ := knows
  obtain ⟨later, found, followed⟩ := follows id pool served
  exact ⟨later, found, followed.keys member⟩

def closed? (store : Store) (id : PoolId) : Option Bool :=
  (store.pools.get? id).map (·.closed)

end Store

open Store in
theorem Step.follows (step : Step warrant store after) : store.Follows after := by
  rcases step.terms? with same | ⟨config, settings, registry, current, _, added⟩ | ⟨id, rfl⟩ |
    ⟨id, key, rfl⟩
  · exact .of_terms? same
  · intro other pool served
    exact ⟨pool, added ▸ Table.get?_add_of_get? served, .of_terms rfl⟩
  · exact .mapPool fun _ => ⟨rfl, rfl, fun _ inside => inside, fun _ => rfl⟩
  · exact .mapPool fun _ => ⟨rfl, rfl, fun _ => List.mem_insert_of_mem, fun closed => closed⟩

namespace Steps

theorem follows (steps : Steps warrant store after) : store.Follows after :=
  steps.preserve (.of_terms? fun _ => rfl) fun step follows => follows.trans step.follows

end Steps

theorem Store.follows_after (commands : List Command) : store.Follows (store.after commands) := by
  induction commands using List.reverseRecOn with
  | nil => exact .of_terms? fun _ => rfl
  | append_singleton commands command ih =>
      rw [after_concat]
      exact ih.trans (Steps.follows steps_run)

namespace Store

variable {handle : BufferId} {buffer : Buffer} {entry : Idle}

theorem closed?_of_terms? (same : after.terms? id = store.terms? id) :
    after.closed? id = store.closed? id := by
  have view : ∀ store : Store, store.closed? id = (store.terms? id).map (·.closed) := by
    intro store
    rw [closed?, terms?, Option.map_map]
    rfl
  rw [view, view, same]

theorem closed?_mapPool {change : Pool → Pool}
    (keeps : ∀ pool, (change pool).closed = pool.closed) :
    (store.mapPool id change).closed? other = store.closed? other := by
  simp only [closed?, mapPool, Table.get?_update]
  split
  · rename_i same
    simp [same, Function.comp_def, keeps]
  · rfl

theorem closed?_mapPool_of_ne {change : Pool → Pool} (distinct : other ≠ id) :
    (store.mapPool id change).closed? other = store.closed? other := by
  simp only [closed?, mapPool, Table.get?_update, if_neg distinct]

/-- What the pools of a store remember of their leases and of the entries that they queued. -/
structure Keyed (store : Store) : Prop where
  leases : ∀ handle id key, store.lease? handle = some (id, key) → store.Knows id key
  entries : ∀ entry ∈ store.idle, store.Knows entry.queuedBy entry.maxCapacity
  unclosed : ∀ entry ∈ store.idle, store.closed? entry.queuedBy = some false

namespace Keyed

/-- Nothing was queued, and nothing was lent under an unknown key. -/
theorem keep (keyed : store.Keyed) (follows : store.Follows after)
    (leases : ∀ handle id key, after.lease? handle = some (id, key) → store.Knows id key)
    (entries : ∀ entry ∈ after.idle, entry ∈ store.idle ∧
      after.closed? entry.queuedBy = store.closed? entry.queuedBy) : after.Keyed where
  leases handle id key leased := follows.knows (leases handle id key leased)
  entries entry inside := follows.knows (keyed.entries entry (entries entry inside).1)
  unclosed entry inside :=
    (entries entry inside).2.trans (keyed.unclosed entry (entries entry inside).1)

theorem knows_of_lent {handle : BufferId} {lender : PoolId} {lent : Nat} (keyed : store.Keyed)
    (knows : store.Knows id key) (leased : (if handle = store.buffers.next then some (id, key)
      else store.lease? handle) = some (lender, lent)) : store.Knows lender lent := by
  split at leased
  · cases leased
    exact knows
  · exact keyed.leases handle lender lent leased

end Keyed

end Store

open Store in
theorem Deal.closed? (deal : Deal warrant store after) : after.closed? id = store.closed? id := by
  cases deal with
  | aside steps aside => rw [Store.closed?, Store.closed?, aside.pools]
  | ask granted serving served unclosed => exact closed?_mapPool fun _ => rfl
  | lendNew granted serving served valid asked none =>
      exact closed?_of_terms? (by simp [lentNew])
  | lendIdle granted serving served valid asked taken reserved =>
      exact closed?_of_terms? (by simp [lentIdle, unqueued])
  | reclaim named live leased => exact closed?_of_terms? (by simp)

open Store in
theorem Deal.keyed (deal : Deal warrant store after) (keyed : store.Keyed) : after.Keyed := by
  have follows : store.Follows after := (Steps.follows deal.steps)
  have closed : ∀ id, after.closed? id = store.closed? id := fun _ => deal.closed?
  cases deal with
  | aside steps aside =>
      refine keyed.keep follows
        (fun handle id key leased => keyed.leases handle id key (aside.leases handle ▸ leased)) ?_
      intro entry inside
      rw [idle, aside.registries] at inside
      exact ⟨inside, closed _⟩
  | ask granted serving served unclosed =>
      exact keyed.keep follows keyed.leases fun _ inside => ⟨inside, closed _⟩
  | @lendNew id pool request granted serving served valid asked none =>
      refine keyed.keep follows (fun handle lender key leased => ?_) fun _ inside =>
        ⟨inside, closed _⟩
      rw [lease?_lentNew] at leased
      exact keyed.knows_of_lent ⟨pool, served, asked⟩ leased
  | @lendIdle id pool request idle rest region granted serving served valid asked taken reserved =>
      refine keyed.keep follows (fun handle lender key leased => ?_) fun entry inside => ?_
      · rw [lease?_lentIdle] at leased
        exact keyed.knows_of_lent ⟨pool, served, asked⟩ leased
      · obtain ⟨registry, inside⟩ := exists_mem_entries_of_mem_idle inside
        exact ⟨mem_idle_of_mem_entries (mem_entries_of_poll taken inside), closed _⟩
  | @reclaim handle buffer id named live leased =>
      have knows : store.Knows id buffer.maxCapacity := by
        refine keyed.leases handle id _ ?_
        rw [lease?_of_live live, Buffer.lease?, leased, Option.map_some]
      have entered : ∀ entry ∈ ((store.vacate handle).reclaim id buffer).idle,
          store.Knows entry.queuedBy entry.maxCapacity ∧
            store.closed? entry.queuedBy = some false := by
        intro entry inside
        obtain ⟨registry, inside⟩ := exists_mem_entries_of_mem_idle inside
        rcases mem_entries_reclaim inside with old | ⟨record, served, uses, unclosed, rfl⟩
        · have old : entry ∈ store.idle := mem_idle_of_mem_entries old
          exact ⟨keyed.entries entry old, keyed.unclosed entry old⟩
        · have served : store.pools.get? id = some record := served
          exact ⟨knows, by simp [returnIdle, Store.closed?, served, unclosed]⟩
      refine ⟨fun other lender key still => ?_, ?_, ?_⟩
      · rw [lease?_reclaim, lease?_vacate] at still
        split at still
        · contradiction
        · exact follows.knows (keyed.leases other lender key still)
      · exact fun entry inside => follows.knows (entered entry inside).1
      · exact fun entry inside => (closed _).trans (entered entry inside).2

namespace Store

theorem Keyed.deals (keyed : store.Keyed) (deals : Deals warrant store after) : after.Keyed :=
  deals.preserve keyed Deal.keyed

theorem Knows.lt_next (knows : store.Knows id key) : id < store.pools.next := by
  obtain ⟨pool, served, _⟩ := knows
  exact Table.lt_next_of_get? served

theorem keyed_openPool {config : MemoryConfig} {settings : PoolConfig} {registry : RegistryId}
    (keyed : store.Keyed) : (store.run (.openPool config settings registry)).2.Keyed := by
  have follows : store.Follows (store.run (.openPool config settings registry)).2 :=
    (Steps.follows steps_run)
  rcases run_openPool store config settings registry with ⟨failure, failed⟩ |
    ⟨queued, refused, after, done, few, prefilled⟩
  · rwa [failed]
  rw [done] at follows ⊢
  let pool : Pool := .opened config settings registry
  have found : ∃ later, after.pools.get? store.pools.next = some later ∧
      later.keys = pool.keys ∧ later.closed = pool.closed := by
    let stats := pool.stats.prefilled (queued + refused) (queued * settings.maxBufferCapacity)
    refine ⟨{ pool with stats := stats }, ?_, rfl, rfl⟩
    rw [prefilled.pools, mapStats, mapPool, addPool, Table.get?_update, if_pos rfl,
      Table.get?_add_next, Option.map_some]
    rfl
  have others : ∀ id, id < store.pools.next → after.closed? id = store.closed? id := by
    intro id known
    have same : after.closed? id = (store.addPool pool).closed? id := by
      rw [Store.closed?, prefilled.pools]
      exact closed?_mapPool fun _ => rfl
    rw [same, Store.closed?, addPool, Table.get?_add, if_neg (Nat.ne_of_lt known), Store.closed?]
  obtain ⟨later, served, keys, closed⟩ := found
  have entered : ∀ entry ∈ after.idle, after.Knows entry.queuedBy entry.maxCapacity ∧
      after.closed? entry.queuedBy = some false := by
    intro entry inside
    rcases prefilled.mem_idle inside with old | new
    · have knows : store.Knows entry.queuedBy entry.maxCapacity := keyed.entries entry old
      exact ⟨follows.knows knows, (others _ knows.lt_next).trans (keyed.unclosed entry old)⟩
    · obtain ⟨arena, made, rfl⟩ := List.mem_map.mp new
      have some : settings.poolSize ≠ 0 := by
        rw [List.mem_range'_1] at made
        omega
      refine ⟨⟨later, served, ?_⟩, ?_⟩
      · simp [keys, pool, Pool.opened, some]
      · simp [Store.closed?, served, closed, pool, Pool.opened]
  refine ⟨fun handle id key leased => ?_, fun entry inside => (entered entry inside).1,
    fun entry inside => (entered entry inside).2⟩
  rw [lease?, prefilled.buffers] at leased
  exact follows.knows (keyed.leases handle id key leased)

theorem terms?_drainKeys {registry : RegistryId} {keys : List Nat} :
    (store.drainKeys registry keys).terms? other = store.terms? other := by
  apply drainKeys_induction (motive := fun between => between.terms? other = store.terms? other)
  · rfl
  · intro between key same
    rw [terms?_drainKey, same]

theorem closed?_closePool (served : store.pools.get? id = some pool)
    (unclosed : pool.closed = false) : (store.closePool id).closed? id = some true := by
  obtain ⟨event, done⟩ := closePool_of_unclosed served unclosed
  have drained : ((store.mapPool id (·.close)).drainKeys pool.registry pool.keys).closed? id =
      (store.mapPool id (·.close)).closed? id := closed?_of_terms? terms?_drainKeys
  rw [done]
  refine drained.trans ?_
  simp [closed?, mapPool, Table.get?_update, served, Pool.close]

/-- The queues that a pool has used are empty when it closes. -/
theorem queue_closePool (registered : store.Registered) (served : store.pools.get? id = some pool)
    (unclosed : pool.closed = false) (known : key ∈ pool.keys) :
    ((store.closePool id).registry pool.registry).queue key = [] := by
  obtain ⟨event, done⟩ := closePool_of_unclosed served unclosed
  have opened : ((store.mapPool id (·.close)).registries.get? pool.registry).isSome :=
    registered id pool served
  rw [done, emit_frame.2.2.2.2.2.1, queue_drainKeys opened, if_pos known]

/-- Nothing that a pool has queued is left when it closes. -/
theorem queuedBy_ne_of_closePool {entry : Idle} (registered : store.Registered)
    (wellKeyed : store.WellKeyed) (filed : store.Filed) (keyed : store.Keyed)
    (served : store.pools.get? id = some pool) (unclosed : pool.closed = false)
    (inside : entry ∈ (store.closePool id).idle) : entry.queuedBy ≠ id := by
  rintro rfl
  have steps : Steps ((Command.closePool entry.queuedBy).warrant store) store
      (store.closePool entry.queuedBy) := steps_closePool
  obtain ⟨later, found, followed⟩ := steps.follows _ pool served
  have waits : entry ∈ ((store.closePool entry.queuedBy).registry later.registry).entries :=
    (steps.preserve filed Step.filed).mem_entries inside found
  obtain ⟨record, also, known⟩ := keyed.entries entry (mem_idle_closePool inside)
  cases served.symm.trans also
  have queued := (steps.preserve wellKeyed Step.wellKeyed later.registry).mem_queue waits
  rw [followed.registry, queue_closePool registered served unclosed known] at queued
  exact absurd queued List.not_mem_nil

theorem keyed_closePool (registered : store.Registered) (wellKeyed : store.WellKeyed)
    (filed : store.Filed) (keyed : store.Keyed) : (store.closePool id).Keyed := by
  have steps : Steps ((Command.closePool id).warrant store) store (store.closePool id) :=
    steps_closePool
  have leases : ∀ handle, (store.closePool id).lease? handle = store.lease? handle := by
    intro handle
    rw [lease?, buffers_closePool, lease?]
  cases found : store.pools.get? id with
  | none => rwa [closePool, found]
  | some pool =>
      cases closed : pool.closed with
      | true => rwa [closePool_of_closed found closed]
      | false =>
          refine keyed.keep steps.follows
            (fun handle id key leased => keyed.leases handle id key (leases handle ▸ leased)) ?_
          intro entry inside
          -- What is left in the queues is of other pools, and they are as open as before.
          have distinct := queuedBy_ne_of_closePool registered wellKeyed filed keyed found closed
            inside
          refine ⟨mem_idle_closePool inside, ?_⟩
          obtain ⟨event, done⟩ := closePool_of_unclosed found closed
          have others : (store.mapPool id (·.close)).closed? entry.queuedBy =
              store.closed? entry.queuedBy := closed?_mapPool_of_ne distinct
          rw [done, ← others]
          exact closed?_of_terms? terms?_drainKeys

theorem Reachable.keyed (reachable : store.Reachable) : store.Keyed := by
  obtain ⟨commands, rfl⟩ := reachable
  induction commands using List.reverseRecOn with
  | nil =>
      have noLease : ∀ handle, initial.lease? handle = none := fun handle => by
        rw [lease?, Table.get?_eq_none_of_next_le (Nat.zero_le _), Option.bind_none]
      refine ⟨fun handle id key leased => ?_, fun entry inside => ?_, fun entry inside => ?_⟩
      · exact absurd leased (by simp [noLease handle, Store.after])
      · exact absurd inside List.not_mem_nil
      · exact absurd inside List.not_mem_nil
  | append_singleton commands command ih =>
      have reached : (initial.after commands).Reachable := ⟨commands, rfl⟩
      have sound := reached.sound
      have trade : command.Trades → _ := fun trades => ih.deals (deals_run sound.owned trades)
      rw [after_concat]
      cases command with
      | openRegistry =>
          have same : ((initial.after commands).run .openRegistry).2.idle =
              (initial.after commands).idle := idle_addRegistry
          refine ih.keep (.of_terms? fun _ => rfl) ih.leases fun entry inside => ?_
          exact ⟨same ▸ inside, rfl⟩
      | openPool config settings registry => exact keyed_openPool ih
      | closePool id =>
          rw [after_closePool]
          exact keyed_closePool sound.held.registered reached.wellKeyed reached.filed ih
      | _ => exact trade trivial

/-- Every pool that makes arenas in advance remembers their key. -/
def Prepared (store : Store) : Prop :=
  ∀ id pool, store.pools.get? id = some pool → pool.settings.poolSize ≠ 0 →
    pool.settings.maxBufferCapacity ∈ pool.keys

end Store

open Store in
theorem Step.prepared (step : Step warrant store after) (prepared : store.Prepared) :
    after.Prepared := by
  intro id pool served makes
  cases was : store.pools.get? id with
  | some earlier =>
      obtain ⟨later, found, followed⟩ := step.follows id earlier was
      cases served.symm.trans found
      rw [followed.settings] at makes ⊢
      exact followed.keys (prepared id earlier was makes)
  | none =>
      have absent : store.terms? id = none := by rw [Store.terms?, was, Option.map_none]
      have vacant : ∀ {other : PoolId} {change : Pool → Pool},
          (store.mapPool other change).pools.get? id ≠ some pool := by
        intro other change
        rw [mapPool, Table.get?_update]
        split
        · rename_i same
          simp [← same, was]
        · simp [was]
      rcases step.terms? with same | ⟨config, settings, registry, current, _, added⟩ | ⟨_, rfl⟩ |
        ⟨_, _, rfl⟩
      · rw [← same id, Store.terms?, served] at absent
        contradiction
      · rw [added, Table.get?_add] at served
        split at served
        · cases served
          have makes : settings.poolSize ≠ 0 := makes
          simp [Pool.opened, makes]
        · rw [was] at served
          contradiction
      · exact absurd served vacant
      · exact absurd served vacant

namespace Store

theorem Reachable.prepared (reachable : store.Reachable) : store.Prepared := by
  refine reachable.induction (fun id pool served => ?_) Step.prepared
  rw [Table.get?_eq_none_of_next_le (Nat.zero_le id)] at served
  contradiction

/-- A pool remembers the keys under which it has handed out buffers. -/
theorem knows_of_handedOut {commands : List Command} {handle : BufferId}
    (handed : HandedOut commands id key handle) : (initial.after commands).Knows id key := by
  induction handed with
  | @now commands command id key handle asks granted answered =>
      have keyed : (initial.after (commands ++ [command])).Keyed := Reachable.keyed ⟨_, rfl⟩
      refine keyed.leases handle id key ?_
      rw [after_concat]
      exact (lease?_of_answered asks granted answered).2
  | earlier handed ih =>
      rw [after_concat]
      exact (Steps.follows steps_run).knows ih

end Store

end CursorBuffers
