import CursorBuffers.Proofs.Accounts.Lending
import Mathlib.Data.List.Nodup

namespace CursorBuffers

namespace Registry

variable {registry after : Registry} {key : Nat} {idle : Idle} {content : List Idle}

/-- Each key has one queue, and an arena waits under its own key. -/
structure WellKeyed (registry : Registry) : Prop where
  distinct : (registry.queues.map Prod.fst).Nodup
  filed : ∀ key waiting, (key, waiting) ∈ registry.queues → ∀ idle ∈ waiting,
    idle.maxCapacity = key

theorem mem_lookup {queues : List (Nat × List Idle)}
    (inside : idle ∈ (queues.lookup key).getD []) : ∃ waiting, (key, waiting) ∈ queues ∧
      idle ∈ waiting := by
  cases found : queues.lookup key with
  | none => simp [found] at inside
  | some waiting =>
      rw [found, Option.getD_some] at inside
      obtain ⟨front, back, split, _⟩ := List.lookup_eq_some_iff.mp found
      exact ⟨waiting, by simp [split], inside⟩

theorem mem_entries_of_mem_queue (inside : idle ∈ registry.queue key) :
    idle ∈ registry.entries := by
  obtain ⟨waiting, member, inside⟩ := mem_lookup inside
  exact List.mem_flatMap.mpr ⟨_, member, inside⟩

theorem mem_queue_of_poll {rest : Registry} (taken : registry.poll key = some (idle, rest)) :
    idle ∈ registry.queue key := by
  rw [(queue_poll taken).1]
  exact List.mem_cons_self

theorem lookup_of_mem {queues : List (Nat × List Idle)}
    (distinct : (queues.map Prod.fst).Nodup) (member : (key, content) ∈ queues) :
    queues.lookup key = some content := by
  induction queues with
  | nil => exact absurd member List.not_mem_nil
  | cons first rest ih =>
      obtain ⟨name, waiting⟩ := first
      rw [List.map_cons, List.nodup_cons] at distinct
      rcases List.mem_cons.mp member with same | later
      · cases same
        exact List.lookup_cons_self
      · have other : key ≠ name := by
          rintro rfl
          exact distinct.1 (List.mem_map.mpr ⟨_, later, rfl⟩)
        rw [List.lookup_cons, beq_eq_false_iff_ne.mpr other]
        exact ih distinct.2 later

theorem names_replace {queues : List (Nat × List Idle)} :
    (replace key content queues).map Prod.fst =
      if key ∈ queues.map Prod.fst then queues.map Prod.fst
      else queues.map Prod.fst ++ [key] := by
  induction queues with
  | nil => rfl
  | cons entry rest ih =>
      by_cases here : entry.1 = key
      · simp [replace, here]
      · have other : key ≠ entry.1 := Ne.symm here
        simp only [replace, if_neg here, List.map_cons, ih, List.mem_cons, other, false_or]
        split <;> rfl

theorem mem_replace {queues : List (Nat × List Idle)} {entry : Nat × List Idle}
    (inside : entry ∈ replace key content queues) : entry = (key, content) ∨ entry ∈ queues := by
  induction queues with
  | nil => exact .inl (List.mem_singleton.mp inside)
  | cons first rest ih =>
      by_cases here : first.1 = key
      · rw [replace, if_pos here, List.mem_cons] at inside
        exact inside.imp_right (List.mem_cons_of_mem _)
      · rw [replace, if_neg here, List.mem_cons] at inside
        rcases inside with same | later
        · exact .inr (same ▸ List.mem_cons_self)
        · exact (ih later).imp_right (List.mem_cons_of_mem _)

namespace WellKeyed

theorem empty : WellKeyed {} := ⟨List.nodup_nil, fun _ _ inside => absurd inside List.not_mem_nil⟩

theorem maxCapacity (keyed : registry.WellKeyed) (inside : idle ∈ registry.queue key) :
    idle.maxCapacity = key := by
  obtain ⟨waiting, member, inside⟩ := mem_lookup inside
  exact keyed.filed key waiting member idle inside

/-- An arena that waits at all waits in the queue of its key. -/
theorem mem_queue (keyed : registry.WellKeyed) (inside : idle ∈ registry.entries) :
    idle ∈ registry.queue idle.maxCapacity := by
  obtain ⟨⟨key, waiting⟩, member, inside⟩ := List.mem_flatMap.mp inside
  obtain rfl : idle.maxCapacity = key := keyed.filed key waiting member idle inside
  rwa [queue, lookup_of_mem keyed.distinct member]

theorem setQueue (keyed : registry.WellKeyed) (filed : ∀ idle ∈ content, idle.maxCapacity = key) :
    (registry.setQueue key content).WellKeyed := by
  constructor
  · rw [Registry.setQueue, names_replace]
    split
    · exact keyed.distinct
    · rename_i new
      exact keyed.distinct.append (List.nodup_singleton _) (by simpa using new)
  · intro name waiting member
    rcases mem_replace member with same | old
    · cases same
      exact filed
    · exact keyed.filed name waiting old

end WellKeyed

/-- What may become of a registry in a single change. -/
inductive Moved (registry : Registry) : Registry → Prop
  | kept : Moved registry registry
  | offered {idle : Idle} {limit : Nat} {accepted : Bool} {after : Registry}
      (offered : registry.offer idle limit = (accepted, after)) : Moved registry after
  | polled {key : Nat} {idle : Idle} {rest : Registry}
      (taken : registry.poll key = some (idle, rest)) : Moved registry rest
  | drained {key : Nat} : Moved registry (registry.drain key).2

theorem Moved.wellKeyed (moved : registry.Moved after) (keyed : registry.WellKeyed) :
    after.WellKeyed := by
  cases moved with
  | kept => exact keyed
  | @offered idle limit accepted after offered =>
      simp only [offer] at offered
      split at offered
      · cases offered
        exact keyed.setQueue fun _ inside => keyed.maxCapacity inside
      · cases offered
        refine keyed.setQueue fun other inside => ?_
        rcases List.mem_append.mp inside with old | new
        · exact keyed.maxCapacity old
        · rw [List.mem_singleton.mp new]
  | @polled key idle rest taken =>
      unfold poll at taken
      split at taken
      · contradiction
      · rename_i head tail waiting
        cases taken
        exact keyed.setQueue fun _ inside =>
          keyed.maxCapacity (waiting ▸ List.mem_cons_of_mem _ inside)
  | @drained key =>
      unfold drain
      split
      · exact keyed
      · exact keyed.setQueue fun _ inside => absurd inside List.not_mem_nil

end Registry

theorem Store.mem_idle_of_mem_queue {store : Store} {id : RegistryId} {key : Nat} {entry : Idle}
    (queued : entry ∈ (store.registry id).queue key) : entry ∈ store.idle :=
  mem_idle_of_mem_entries (Registry.mem_entries_of_mem_queue queued)

variable {warrant : Warrant} {store after : Store} {id : RegistryId}

namespace Store

variable {current registry : RegistryId}

theorem moved_setRegistry {changed : Registry}
    (moved : (store.registry id).Moved changed) :
    (store.registry registry).Moved ((store.setRegistry id changed).registry registry) := by
  by_cases same : registry = id
  · subst same
    cases opened : store.registries.get? registry with
    | none =>
        have vacant : store.setRegistry registry changed = store := by
          rw [setRegistry, Table.update_of_vacant opened]
        rw [vacant]
        exact .kept
    | some current =>
        rw [registry_setRegistry (by simp [opened]), if_pos rfl]
        exact moved
  · rw [registry_setRegistry_of_ne same]
    exact .kept

end Store

open Store in
theorem Step.moved (step : Step warrant store after) :
    (store.registry id).Moved (after.registry id) := by
  cases step with
  | openRegistry =>
      rw [registry_addRegistry]
      exact .kept
  | stock serving served offered => exact moved_setRegistry (.offered offered)
  | overstock serving served offered => exact moved_setRegistry (.offered offered)
  | drain served =>
      apply drainKey_induction (motive := fun between =>
        (store.registry id).Moved (between.registry id))
      · exact moved_setRegistry .drained
      · intro between idle member moved
        rwa [discard_frame.2.2.1]
  | leaseIdle granted served valid taken reserved => exact moved_setRegistry (.polled taken)
  | lose served taken refused => exact moved_setRegistry (.polled taken)
  | resize named live allowed accessible resized =>
      simp only [mapBuffer_frame, emitGrowth_frame, setRegion_frame]
      exact .kept
  | free named live frees =>
      apply free_induction (motive := fun after => (store.registry id).Moved (after.registry id))
      · exact fun _ => .kept
      · exact fun _ => .kept
  | @reclaim handle buffer pool named live leased =>
      apply reclaim_induction (motive := fun after =>
        (store.registry id).Moved (after.registry id))
      · exact .kept
      · intro record after served outcome
        cases outcome with
        | closed closed => exact .kept
        | unfit unclosed unfit => exact .kept
        | queued unclosed intact unheld offered => exact moved_setRegistry (.offered offered)
        | refused unclosed intact unheld offered => exact moved_setRegistry (.offered offered)
  | _ => exact .kept

namespace Store

/-- In all registries, each key has one queue, and an arena waits under its own key. -/
def WellKeyed (store : Store) : Prop := ∀ id, (store.registry id).WellKeyed

/-- The pools that queued the entries of a registry use the registry. -/
def Filed (store : Store) : Prop :=
  ∀ id entry, entry ∈ (store.registry id).entries →
    ∃ pool, store.pools.get? entry.queuedBy = some pool ∧ pool.registry = id

end Store

theorem Step.wellKeyed (step : Step warrant store after) (keyed : store.WellKeyed) :
    after.WellKeyed :=
  fun id => step.moved.wellKeyed (keyed id)

open Store in
theorem Step.filed (step : Step warrant store after) (filed : store.Filed) : after.Filed := by
  intro id entry inside
  have filer : ∃ pool, store.pools.get? entry.queuedBy = some pool ∧ pool.registry = id := by
    cases step.entered inside with
    | waiting inside => exact filed id entry inside
    | stocked serving served uses first made => exact ⟨_, first ▸ served, uses⟩
    | returned live leased served uses filed => exact ⟨_, filed ▸ served, uses⟩
  obtain ⟨pool, served, uses⟩ := filer
  obtain ⟨later, found, same⟩ := step.served served
  exact ⟨later, found, same.trans uses⟩

namespace Store

theorem Reachable.wellKeyed (reachable : store.Reachable) : store.WellKeyed :=
  reachable.induction (fun _ => registry_initial ▸ .empty) Step.wellKeyed

theorem Reachable.filed (reachable : store.Reachable) : store.Filed := by
  refine reachable.induction (fun id entry inside => ?_) Step.filed
  rw [registry_initial] at inside
  exact absurd inside List.not_mem_nil

variable {entry : Idle} {pool : Pool}

/-- What a pool has queued waits in the registry that it uses. -/
theorem Filed.mem_entries (filed : store.Filed) (inside : entry ∈ store.idle)
    (served : store.pools.get? entry.queuedBy = some pool) :
    entry ∈ (store.registry pool.registry).entries := by
  obtain ⟨registry, inside⟩ := exists_mem_entries_of_mem_idle inside
  obtain ⟨also, found, rfl⟩ := filed registry entry inside
  cases served.symm.trans found
  exact inside

end Store

namespace Store.WellHeld

variable {registry : RegistryId}

theorem nodup_idle (held : store.WellHeld) : store.idle.Nodup := .of_map _ held.idleDistinct

theorem nodup_entries (held : store.WellHeld) : (store.registry registry).entries.Nodup := by
  cases opened : store.registries.get? registry with
  | none => simp [Store.registry, opened, Registry.entries]
  | some current =>
      obtain ⟨front, back, entries, _⟩ := Table.entries_split opened
      have distinct := held.nodup_idle
      simp only [idle, entries, List.flatMap_append, List.flatMap_cons] at distinct
      rw [Store.registry, opened]
      exact (List.nodup_append.mp (List.nodup_append.mp distinct).2.1).1

end Store.WellHeld

section Puts

open Store

variable {entry : Idle} {command : Command} {commands : List Command}

/-- How a command puts an entry into a queue: it opens the pool, which makes the arena in advance;
or it ends a lease of the pool on the arena; or it is to get a lease from the pool and gives it
back, because the buffer cannot be filled. -/
inductive Puts (store : Store) (entry : Idle) : Command → Prop
  | opening {config : MemoryConfig} {settings : PoolConfig} {registry : RegistryId}
      (new : store.arenas.next ≤ entry.arena) (first : entry.queuedBy = store.pools.next) :
      Puts store entry (.openPool config settings registry)
  | releasing {handle : BufferId} {buffer : Buffer}
      (live : store.buffers.get? handle = some buffer) (on : buffer.arena = entry.arena)
      (leased : buffer.recycler = some entry.queuedBy) : Puts store entry (.release handle)
  | dropping {handle : BufferId} {buffer : Buffer}
      (live : store.buffers.get? handle = some buffer) (on : buffer.arena = entry.arena)
      (leased : buffer.recycler = some entry.queuedBy) : Puts store entry (.drop handle)
  | asking {command : Command} (asks : command.allocator? = some (.pooled entry.queuedBy)) :
      Puts store entry command

/-- An entry is in a queue, where a command has put it. -/
inductive PutBy : List Command → Idle → Prop
  | now {commands : List Command} {command : Command} {entry : Idle}
      (puts : Puts (initial.after commands) entry command)
      (inside : entry ∈ (initial.after (commands ++ [command])).idle) :
      PutBy (commands ++ [command]) entry
  | earlier {commands : List Command} {command : Command} {entry : Idle}
      (put : PutBy commands entry)
      (stays : entry ∈ (initial.after (commands ++ [command])).idle) :
      PutBy (commands ++ [command]) entry

theorem Deal.entered (deal : Deal warrant store after) (inside : entry ∈ after.idle) :
    entry ∈ store.idle ∨ ∃ handle buffer, warrant.touches handle ∧
      store.buffers.get? handle = some buffer ∧ buffer.arena = entry.arena ∧
      buffer.recycler = some entry.queuedBy := by
  cases deal with
  | aside steps aside =>
      rw [idle, aside.registries] at inside
      exact .inl inside
  | lendIdle granted serving served valid asked taken reserved =>
      obtain ⟨registry, inside⟩ := exists_mem_entries_of_mem_idle inside
      exact .inl (mem_idle_of_mem_entries (mem_entries_of_poll taken inside))
  | reclaim named live leased =>
      obtain ⟨registry, inside⟩ := exists_mem_entries_of_mem_idle inside
      rcases mem_entries_reclaim inside with old | ⟨record, served, uses, _, rfl⟩
      · exact .inl (mem_idle_of_mem_entries old)
      · exact .inr ⟨_, _, named, live, rfl, leased⟩
  | _ => exact .inl inside

/-- A lease that ended in the course of some deals was there, or it was a pool's to give. -/
theorem Deals.entered (deals : Deals warrant store after) (inside : entry ∈ after.idle) :
    entry ∈ store.idle ∨ warrant.serves entry.queuedBy ∨
      ∃ handle buffer, warrant.touches handle ∧ store.buffers.get? handle = some buffer ∧
        buffer.arena = entry.arena ∧ buffer.recycler = some entry.queuedBy := by
  induction deals with
  | refl => exact .inl inside
  | tail earlier deal ih =>
      rcases deal.entered inside with old | ⟨handle, buffer, named, live, on, leased⟩
      · exact ih old
      · -- The buffer that ended may itself have been lent by an earlier one of the deals.
        refine .inr ?_
        obtain ⟨key, also⟩ := (exists_lease?_iff live).mpr leased
        rcases Deals.lease? earlier also with old | ⟨serving, _⟩
        · obtain ⟨before, was, akin⟩ := (Deals.steps earlier).older (lt_next_of_lease? old) live
          exact .inr ⟨handle, before, named, was, akin.arena ▸ on, akin.recycler ▸ leased⟩
        · exact .inl serving

theorem mem_idle_closePool {pool : PoolId} (inside : entry ∈ (store.closePool pool).idle) :
    entry ∈ store.idle := by
  revert inside
  apply closePool_induction (motive := fun after => entry ∈ after.idle → entry ∈ store.idle) id
  intro record event served unclosed
  rw [emit_frame.2.2.2.2.2.2]
  apply drainKeys_induction (motive := fun after => entry ∈ after.idle → entry ∈ store.idle)
  · exact id
  · intro between key kept inside
    obtain ⟨registry, inside⟩ := exists_mem_entries_of_mem_idle inside
    exact kept (mem_idle_of_mem_entries (mem_entries_drainKey inside))

theorem puts_openPool {config : MemoryConfig} {settings : PoolConfig} {registry : RegistryId}
    (inside : entry ∈ (store.run (.openPool config settings registry)).2.idle) :
    entry ∈ store.idle ∨ Puts store entry (.openPool config settings registry) := by
  rcases run_openPool store config settings registry with ⟨failure, failed⟩ |
    ⟨queued, refused, after, done, _, prefilled⟩
  · rw [failed] at inside
    exact .inl inside
  · rw [done] at inside
    rcases prefilled.mem_idle inside with old | new
    · exact .inl old
    · obtain ⟨arena, made, rfl⟩ := List.mem_map.mp new
      exact .inr (.opening (List.mem_range'_1.mp made).1 rfl)

/-- An entry was there before a command, or the command puts it there. -/
theorem puts_run (sound : store.Sound) (inside : entry ∈ (store.run command).2.idle) :
    entry ∈ store.idle ∨ Puts store entry command := by
  have traded : command.Trades → entry ∈ store.idle ∨
      command.allocator? = some (.pooled entry.queuedBy) ∨
      ∃ handle buffer, handle ∈ command.handles ∧ store.buffers.get? handle = some buffer ∧
        buffer.arena = entry.arena ∧ buffer.recycler = some entry.queuedBy := by
    intro trades
    rcases (deals_run sound.owned trades).entered inside with
      old | (asks | ⟨_, config, settings, registry, rfl⟩) | ⟨handle, buffer, named, live, put⟩
    · exact .inl old
    · exact .inr (.inl asks)
    · exact trades.elim
    · refine .inr (.inr ⟨handle, buffer, ?_, live, put⟩)
      by_contra unnamed
      exact Command.not_touches live unnamed named
  have aside : store.Aside (store.run command).2 → entry ∈ store.idle := by
    intro aside
    rwa [idle, aside.registries] at inside
  cases command with
  | openRegistry =>
      have same : (store.run .openRegistry).2.idle = store.idle := idle_addRegistry
      exact .inl (same ▸ inside)
  | openPool config settings registry => exact puts_openPool inside
  | closePool pool => exact .inl (mem_idle_closePool (after_closePool ▸ inside))
  | allocate allocator request =>
      rcases traded trivial with old | asks | ⟨handle, buffer, named, _⟩
      · exact .inl old
      · exact .inr (.asking asks)
      · exact absurd named List.not_mem_nil
  | wrap source checking =>
      rcases traded trivial with old | asks | ⟨handle, buffer, named, _⟩
      · exact .inl old
      · exact .inr (.asking asks)
      · exact absurd named List.not_mem_nil
  | onBuffer handle request => exact .inl (aside (Action.staysAside_perform store))
  | transfer handle other request length =>
      exact .inl (aside (Action.staysAside_transfer.bind_pure store))
  | release handle =>
      rcases traded trivial with old | asks | ⟨other, buffer, named, live, on, leased⟩
      · exact .inl old
      · cases asks
      · exact .inr (.releasing (List.mem_singleton.mp named ▸ live) on leased)
  | drop handle =>
      rcases traded trivial with old | asks | ⟨other, buffer, named, live, on, leased⟩
      · exact .inl old
      · cases asks
      · exact .inr (.dropping (List.mem_singleton.mp named ▸ live) on leased)

theorem putBy_of_mem_idle (inside : entry ∈ (initial.after commands).idle) :
    PutBy commands entry := by
  induction commands using List.reverseRecOn with
  | nil => exact absurd inside List.not_mem_nil
  | append_singleton commands command ih =>
      have sound : (initial.after commands).Sound := Reachable.sound ⟨commands, rfl⟩
      have reached := inside
      rw [after_concat] at reached
      rcases puts_run sound reached with old | puts
      · exact .earlier (ih old) inside
      · exact .now puts inside

end Puts

end CursorBuffers
