import CursorBuffers.Proofs.Freeing.History
import CursorBuffers.Proofs.Isolation.Blind
import CursorBuffers.Proofs.Views.Resting
import CursorBuffers.Proofs.Waiting.Drawing

namespace CursorBuffers

variable {store after : Store} {command : Command} {registry : RegistryId} {key : Nat}
variable {entry : Idle} {arena : ArenaId} {handle : BufferId} {buffer : Buffer}

namespace Store

section Regions

theorem setRegion_self (stored : (store.arenas.get? arena).isSome) :
    store.setRegion arena (store.arena arena).region = store := by
  obtain ⟨known, found⟩ := Option.isSome_iff_exists.mp stored
  have same : (store.arena arena).region = known.region := by rw [Store.arena, found]; rfl
  have kept : store.arenas.update arena (fun known => { known with
      region := (store.arena arena).region }) = store.arenas := by
    have unchanged : store.arenas.update arena (fun known => known) = store.arenas :=
      Table.update_id
    rw [Table.update_eq_of_get? found] at unchanged
    rw [Table.update_eq_of_get? found, same]
    exact unchanged
  rw [setRegion, kept]

/-- A command on some buffers leaves the region of every arena that none of them is on. -/
theorem Reachable.region_run_of_apart (reachable : store.Reachable) (names : command.handles ≠ [])
    (apart : store.Apart arena command.handles) :
    ((store.run command).2.arena arena).region = (store.arena arena).region := by
  have stored := reachable.covered.standing arena apart.known
  have still : ((store.run command).2.arenas.get? arena).isSome :=
    reachable.run.covered.standing arena
      (Nat.lt_of_lt_of_le apart.known (steps_run.preserve (motive := fun later =>
        store.arenas.next ≤ later.arenas.next) (Nat.le_refl _) fun step known =>
          Nat.le_trans known step.arenas_next_le))
  have blind : (store.setRegion arena (store.arena arena).region).run command =
      ((store.run command).1, (store.run command).2.setRegion arena (store.arena arena).region) :=
    run_setRegion names apart
  rw [setRegion_self stored] at blind
  rw [congrArg Prod.snd blind]
  exact region_setRegion_of_stored still

/-- The end of a buffer frees at most, and leaves all regions. -/
theorem region_run_of_ends (ends : command.Ends) :
    ((store.run command).2.arena arena).region = (store.arena arena).region := by
  have ended : store.EndsIn (store.run command).2 arena := endsIn_run ends
  rcases ended with same | freed
  · rw [same]
  · rw [freed]

theorem WellHeld.apart_of_idle (held : store.WellHeld) (waits : entry ∈ store.idle)
    {ids : List BufferId} : store.Apart entry.arena ids :=
  ⟨held.idleKnown waits, fun _ live => held.idleApart waits live⟩

end Regions

/-- The entries that a command lets join a queue: the arena of the lease that it ends, or those that
a pool makes in advance when it opens. -/
inductive Joins (store : Store) (registry : RegistryId) (key : Nat) : Command → List Idle → Prop
  | nobody {command : Command} : Joins store registry key command []
  | returned {command : Command} {handle : BufferId} {buffer : Buffer} {id : PoolId} {pool : Pool}
      (ends : command = .release handle ∨ command = .drop handle)
      (live : store.buffers.get? handle = some buffer) (leased : buffer.recycler = some id)
      (served : store.pools.get? id = some pool) (uses : pool.registry = registry)
      (filed : buffer.maxCapacity = key) (accepts : store.Accepts handle buffer pool) :
      Joins store registry key command [returnIdle id buffer]
  | made {config : MemoryConfig} {settings : PoolConfig} {count : Nat}
      (filed : settings.maxBufferCapacity = key) :
      Joins store registry key (.openPool config settings registry)
        ((store.addPool (.opened config settings registry)).reserves store.pools.next
          (.opened config settings registry) count)

/-- What a command does to a queue: some entries are gone, the rest stay, and new ones join. -/
structure Turned (store : Store) (command : Command) (registry : RegistryId) (key : Nat)
    (gone rest new : List Idle) : Prop where
  before : (store.registry registry).queue key = gone ++ rest
  after : ((store.run command).2.registry registry).queue key = rest ++ new
  joins : store.Joins registry key command new

namespace Turned

theorem kept (same : ((store.run command).2.registry registry).queue key =
    (store.registry registry).queue key) :
    store.Turned command registry key [] ((store.registry registry).queue key) [] :=
  ⟨rfl, by rw [same, List.append_nil], .nobody⟩

end Turned

/-- What happens to one queue. -/
def Turns (store : Store) (command : Command) : Prop :=
  ∀ registry key, ∃ gone rest new, store.Turned command registry key gone rest new

theorem turns_of_same (same : store.SameQueues (store.run command).2) : store.Turns command :=
  fun registry key => ⟨_, _, _, .kept (same registry key)⟩

theorem Drawn.turns (drawn : store.Drawn arena (store.run command).2) : store.Turns command := by
  intro registry key
  rcases drawn.queues with ⟨_, same⟩ | ⟨⟨target, name, head, _, sheds⟩, _⟩
  · exact ⟨_, _, _, .kept (same registry key)⟩
  · by_cases here : registry = target ∧ key = name
    · obtain ⟨rfl, rfl⟩ := here
      exact ⟨[head], _, [], sheds.queue, (List.append_nil _).symm, .nobody⟩
    · refine ⟨_, _, _, .kept (sheds.others registry key ?_)⟩
      exact Decidable.not_and_iff_not_or_not.mp here

/-- The end of a buffer that is no lease is no business of any queue. -/
theorem same_of_unleased (live : store.buffers.get? handle = some buffer)
    (unleased : buffer.recycler = none)
    (ends : command = .release handle ∨ command = .drop handle) :
    store.SameQueues (store.run command).2 := by
  have dropped : ∀ {between : Store}, between.buffers = store.buffers →
      (between.drop handle).registries = between.registries := by
    intro between same
    simp only [drop, same, live, unleased]
    rfl
  refine .of_registries ?_
  rcases ends with rfl | rfl
  · rw [after_release live]
    simp only [release, live]
    split
    · exact (dropped buffers_free).trans (free_induction (motive := fun between =>
        between.registries = store.registries) (fun _ => rfl) fun _ => rfl)
    · exact dropped rfl
  · rw [run_drop live]
    exact dropped rfl

theorem run_of_gone (gone : store.buffers.get? handle = none)
    (ends : command = .release handle ∨ command = .drop handle) :
    (store.run command).2 = store := by
  unfold run
  rcases ends with rfl | rfl
  · exact congrArg Prod.snd (Action.runOn_bind_buffer_none gone)
  · exact congrArg Prod.snd (Action.runOn_bind_buffer_none gone)

/-- The arena of a lease that ends joins its queue, or no queue changes. -/
theorem Reachable.turns_of_ends (reachable : store.Reachable)
    (ends : command = .release handle ∨ command = .drop handle) : store.Turns command := by
  cases live : store.buffers.get? handle with
  | none => exact turns_of_same fun _ _ => by rw [run_of_gone live ends]
  | some buffer =>
      cases leased : buffer.recycler with
      | none => exact turns_of_same (same_of_unleased live leased ends)
      | some id =>
          obtain ⟨_, pool, served⟩ := reachable.sound.lent live leased
          have returned := reachable.returned_run live leased served ends
          by_cases accepts : store.Accepts handle buffer pool
          · intro registry key
            obtain ⟨gains, _⟩ := returned.accepted accepts
            by_cases here : registry = pool.registry ∧ key = buffer.maxCapacity
            · obtain ⟨rfl, rfl⟩ := here
              exact ⟨[], _, _, rfl, gains.queue,
                .returned ends live leased served rfl rfl accepts⟩
            · refine ⟨_, _, _, .kept (gains.others registry key ?_)⟩
              exact Decidable.not_and_iff_not_or_not.mp here
          · exact turns_of_same (returned.rejected accepts).1

theorem turns_openPool {config : MemoryConfig} {settings : PoolConfig} {target : RegistryId} :
    store.Turns (.openPool config settings target) := by
  rcases stocked_openPool store config settings target with ⟨failure, failed⟩ |
    ⟨after, done, stocked⟩
  · exact turns_of_same fun _ _ => by rw [failed]
  · intro registry key
    have joined : (store.run (.openPool config settings target)).2 = after := by rw [done]
    by_cases here : registry = target ∧ key = settings.maxBufferCapacity
    · obtain ⟨rfl, rfl⟩ := here
      exact ⟨[], _, _, rfl, joined ▸ stocked.gains.queue, .made rfl⟩
    · refine ⟨_, _, _, .kept ?_⟩
      rw [joined]
      exact stocked.gains.others registry key (Decidable.not_and_iff_not_or_not.mp here)

theorem Reachable.turns_closePool (reachable : store.Reachable) {id : PoolId} :
    store.Turns (.closePool id) := by
  intro registry key
  have drained : ((store.closePool id).registry registry).queue key =
      (store.registry registry).queue key ∨
        ((store.closePool id).registry registry).queue key = [] := by
    apply closePool_induction (motive := fun after => (after.registry registry).queue key =
      (store.registry registry).queue key ∨ (after.registry registry).queue key = [])
    · exact .inl rfl
    · intro pool event served unclosed
      have opened : ((store.mapPool id (·.close)).registries.get? pool.registry).isSome :=
        reachable.wellHeld.registered id pool served
      rw [emit_frame.2.2.2.2.2.1]
      by_cases own : registry = pool.registry
      · subst own
        rw [queue_drainKeys opened]
        split
        · exact .inr rfl
        · exact .inl rfl
      · rw [registry_drainKeys_of_ne opened own]
        exact .inl rfl
  rw [← after_closePool] at drained
  rcases drained with same | empty
  · exact ⟨_, _, _, .kept same⟩
  · exact ⟨_, [], [], (List.append_nil _).symm, empty, .nobody⟩

/-- In a queue, whatever the command, entries leave at the head and join at the tail. -/
theorem Reachable.turns_run (reachable : store.Reachable) (command : Command) :
    store.Turns command := by
  cases command with
  | openRegistry =>
      have same : ∀ registry, (store.run .openRegistry).2.registry registry =
          store.registry registry := fun _ => registry_addRegistry
      exact turns_of_same fun registry key => by rw [same]
  | openPool config settings target => exact turns_openPool
  | closePool id => exact reachable.turns_closePool
  | allocate allocator request =>
      have requests : (Command.allocate allocator request).Requests := trivial
      obtain ⟨arena, drawn⟩ := reachable.drawn_run requests
      exact drawn.turns
  | wrap source checking =>
      have requests : (Command.wrap source checking).Requests := trivial
      obtain ⟨arena, drawn⟩ := reachable.drawn_run requests
      exact drawn.turns
  | onBuffer handle request =>
      exact turns_of_same (.of_registries (Action.staysAside_perform store).registries)
  | transfer handle other request length =>
      exact turns_of_same (.of_registries (Action.staysAside_transfer.bind_pure store).registries)
  | release handle => exact reachable.turns_of_ends (.inl rfl)
  | drop handle => exact reachable.turns_of_ends (.inr rfl)

/-- A command that names no buffer leaves the region of an arena that it finds, unless the arena
waits and is lent. -/
theorem Reachable.region_run_of_nameless (reachable : store.Reachable)
    (nameless : command.handles = []) (known : arena < store.arenas.next) :
    ((store.run command).2.arena arena).region = (store.arena arena).region ∨
      (∃ entry ∈ store.idle, entry.arena = arena) ∧
        ∃ handle buffer, (store.run command).2.buffers.get? handle = some buffer ∧
          buffer.arena = arena := by
  have requested : command.Requests →
      ((store.run command).2.arena arena).region = (store.arena arena).region ∨
        (∃ entry ∈ store.idle, entry.arena = arena) ∧
          ∃ handle buffer, (store.run command).2.buffers.get? handle = some buffer ∧
            buffer.arena = arena := by
    intro requests
    obtain ⟨place, drawn⟩ := reachable.drawn_run requests
    by_cases here : arena = place
    · subst here
      rcases drawn.queues with ⟨beyond, _⟩ | ⟨⟨target, name, head, holds, sheds⟩, lent⟩
      · exact absurd known (Nat.not_lt.mpr beyond)
      · refine .inr ⟨⟨head, ?_, holds⟩, lent⟩
        have queued : head ∈ (store.registry target).queue name :=
          sheds.queue ▸ List.mem_cons_self
        exact mem_idle_of_mem_queue queued
    · exact .inl (congrArg Arena.region (drawn.arenas arena known here))
  cases command with
  | openRegistry => exact .inl rfl
  | openPool config settings target =>
      rcases stocked_openPool store config settings target with ⟨failure, failed⟩ |
        ⟨after, done, stocked⟩
      · exact .inl (by rw [failed])
      · rw [done]
        exact .inl (congrArg Arena.region (stocked.older arena known))
  | closePool id =>
      left
      rw [after_closePool]
      apply closePool_induction (motive := fun after => (after.arena arena).region = _)
      · rfl
      · intro pool event served unclosed
        exact drainKeys_induction (motive := fun between => (between.arena arena).region = _)
          rfl fun between key same => region_drainKey.trans same
  | allocate allocator request => exact requested trivial
  | wrap source checking => exact requested trivial
  | _ => cases nameless

/-- The region of an arena that waits after a command is what it was, if the arena was there. -/
theorem Reachable.region_run_of_waits (reachable : store.Reachable)
    (waits : entry ∈ (store.run command).2.idle) (known : entry.arena < store.arenas.next) :
    ((store.run command).2.arena entry.arena).region = (store.arena entry.arena).region := by
  have aside : command.handles ≠ [] → store.Aside (store.run command).2 →
      ((store.run command).2.arena entry.arena).region = (store.arena entry.arena).region := by
    intro names aside
    have waited : entry ∈ store.idle := by rwa [idle, aside.registries] at waits
    exact reachable.region_run_of_apart names (reachable.wellHeld.apart_of_idle waited)
  have nameless : command.handles = [] →
      ((store.run command).2.arena entry.arena).region = (store.arena entry.arena).region := by
    intro none
    rcases reachable.region_run_of_nameless none known with same | ⟨_, handle, buffer, live, here⟩
    · exact same
    · exact absurd here (reachable.run.wellHeld.idleApart waits live)
  cases command with
  | onBuffer handle request =>
      exact aside (List.cons_ne_nil _ _) (Action.staysAside_perform store)
  | transfer handle other request length =>
      exact aside (List.cons_ne_nil _ _) (Action.staysAside_transfer.bind_pure store)
  | release handle => exact region_run_of_ends trivial
  | drop handle => exact region_run_of_ends trivial
  | _ => exact nameless rfl

end Store

end CursorBuffers
