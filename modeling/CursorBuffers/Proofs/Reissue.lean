import CursorBuffers.Proofs.Admission
import CursorBuffers.Proofs.Waiting.History

namespace CursorBuffers

variable {store after : Store} {id : PoolId} {pool : Pool} {request : Allocation}
variable {registry : RegistryId} {key : Nat} {commands : List Command} {arena : ArenaId}
variable {buffer : Buffer} {bytes : Bytes}

namespace Store

/-- The store without the entries of one queue: who asks for that key gets a new arena. -/
def emptied (store : Store) (registry : RegistryId) (key : Nat) : Store :=
  store.setRegistry registry ((store.registry registry).drain key).2

theorem queue_emptied (opened : (store.registries.get? registry).isSome) :
    ((store.emptied registry key).registry registry).queue key = [] := by
  rw [emptied, registry_setRegistry opened, if_pos rfl, Registry.queue_drain, if_pos rfl]

/-- A buffer that looks as if it were the first on its arena. -/
structure LooksNew (store : Store) (pool : Pool) (request : Allocation) (buffer : Buffer) :
    Prop where
  capacity : buffer.capacity = request.capacity
  maxCapacity : buffer.maxCapacity = request.maxCapacity
  readerIndex : buffer.readerIndex = request.readerIndex
  writerIndex : buffer.writerIndex = request.writerIndex
  marks : buffer.markedReader = 0 ∧ buffer.markedWriter = 0
  bounds : buffer.bounds = Bounds.select request.checking pool.config
  config : buffer.config = pool.config
  pooled : buffer.pooled = true
  intact : store.isFreed buffer = false

theorem Handed.looksNew (handed : store.Handed id pool request arena bytes after) :
    after.LooksNew pool request (.leased request pool.config arena store.buffers.next id) where
  capacity := rfl
  maxCapacity := rfl
  readerIndex := rfl
  writerIndex := rfl
  marks := ⟨rfl, rfl⟩
  bounds := rfl
  config := rfl
  pooled := rfl
  intact := handed.intact

/-- A pool that has nothing in its queue makes a new arena, whatever else is in the store. -/
theorem run_allocate_of_empty (served : store.pools.get? id = some pool)
    (valid : pool.validate request = .ok ())
    (none : (store.registry pool.registry).queue request.maxCapacity = []) :
    store.run (.allocate (.pooled id) request) = (.ok (.buffer store.buffers.next),
      (store.mapPool id (·.useKey request.maxCapacity)).lentNew id pool request) := by
  rw [run_allocate, Action.runOn_bind, Action.allocate, Action.runOn_allocatePooled served valid,
    Registry.poll_eq_none.mpr none]
  rfl

/-- What a pool hands out after some commands for a request that it serves. -/
structure Reissued (commands : List Command) (id : PoolId) (pool : Pool) (request : Allocation)
    (buffer : Buffer) (after : Store) : Prop where
  /-- Nothing in the buffer tells that its arena was used before. -/
  new : after.LooksNew pool request buffer
  /-- The buffer that there would be if the queue were empty differs in its arena only. -/
  alike : ∃ missed fresh, ((initial.after commands).emptied pool.registry request.maxCapacity).run
      (.allocate (.pooled id) request) = (.ok (.buffer (initial.after commands).buffers.next),
        missed) ∧
    missed.buffers.get? (initial.after commands).buffers.next = some fresh ∧
    missed.LooksNew pool request fresh ∧ fresh = { buffer with arena := fresh.arena }
  /-- The arena is the one that has waited longest. It has the bytes with which it joined the queue,
  and zeros where it had to be made longer. -/
  hit : ∀ head rest,
    ((initial.after commands).registry pool.registry).queue request.maxCapacity = head :: rest →
    buffer.arena = head.arena ∧ ∃ place deposit,
      WaitsSince commands pool.registry request.maxCapacity head place ∧
      (∀ other ∈ rest, ∃ later,
        WaitsSince commands pool.registry request.maxCapacity other later ∧
          (place < later ∨ place = later ∧ head.arena < other.arena)) ∧
      Deposited commands request.maxCapacity head place deposit ∧
      (after.arena buffer.arena).region.bytes =
        deposit ++ Bytes.zeros (request.capacity - deposit.size)
  /-- If none was waiting, the arena is new and all zeros. -/
  miss : ((initial.after commands).registry pool.registry).queue request.maxCapacity = [] →
    buffer.arena = (initial.after commands).arenas.next ∧
      (after.arena buffer.arena).region.bytes = Bytes.zeros request.capacity

theorem alike_of_served (served : store.pools.get? id = some pool)
    (valid : pool.validate request = .ok ())
    (opened : (store.registries.get? pool.registry).isSome) :
    ∃ missed fresh, (store.emptied pool.registry request.maxCapacity).run
        (.allocate (.pooled id) request) = (.ok (.buffer store.buffers.next), missed) ∧
      missed.buffers.get? store.buffers.next = some fresh ∧
      missed.LooksNew pool request fresh ∧
      fresh = { Buffer.leased request pool.config arena store.buffers.next id with
        arena := fresh.arena } :=
  have handed : (store.emptied pool.registry request.maxCapacity).Handed id pool request _ _ _ :=
    handed_lentNew
  ⟨_, _, run_allocate_of_empty served valid (queue_emptied opened), handed.live, handed.looksNew,
    rfl⟩

/-- After every run, a pool answers a request that it serves with a buffer in which nothing is left
of earlier ones: it is the buffer on a new arena, apart from the arena. That arena is the one that
has waited longest for the key, with the bytes that it had when it began to wait, followed by zeros
if these are too few; or it is new and all zeros, if none was waiting. -/
theorem reissued_after (served : (initial.after commands).pools.get? id = some pool)
    (valid : pool.validate request = .ok ()) :
    ∃ after buffer, (initial.after commands).run (.allocate (.pooled id) request) =
        (.ok (.buffer (initial.after commands).buffers.next), after) ∧
      after.buffers.get? (initial.after commands).buffers.next = some buffer ∧
      Reissued commands id pool request buffer after := by
  have reachable : (initial.after commands).Reachable := ⟨commands, rfl⟩
  have held : (initial.after commands).WellHeld := reachable.wellHeld
  have opened := held.registered id pool served
  obtain ⟨after, answered, lends⟩ := reachable.sound.owned.lends_run served valid
  cases lends with
  | new none =>
      have handed : (initial.after commands).Handed id pool request _ _ _ := handed_lentNew
      refine ⟨_, _, answered, handed.live, handed.looksNew, alike_of_served served valid opened,
        fun head rest waiting => ?_, fun _ => ⟨rfl, handed.bytes⟩⟩
      rw [none] at waiting
      contradiction
  | @idle idle left region taken reserved =>
      have first := (Registry.queue_poll taken).1
      have handed := reachable.handed_of_taken id taken reserved
      refine ⟨_, _, answered, handed.live, handed.looksNew, alike_of_served served valid opened,
        fun head rest waiting => ?_, fun none => ?_⟩
      · obtain ⟨rfl, rfl⟩ := List.cons.inj (first.symm.trans waiting)
        obtain ⟨place, since⟩ := exists_waitsSince (Registry.mem_queue_of_poll taken)
        have ordered : (((initial.after commands).registry pool.registry).queue
            request.maxCapacity).Pairwise (Earlier commands pool.registry request.maxCapacity) :=
          queue_pairwise_earlier
        rw [waiting, List.pairwise_cons] at ordered
        refine ⟨rfl, place, _, since, fun other behind => ?_, since.deposited, handed.bytes⟩
        have queued : other ∈ ((initial.after commands).registry pool.registry).queue
            request.maxCapacity := waiting ▸ List.mem_cons_of_mem _ behind
        obtain ⟨later, follows⟩ := exists_waitsSince queued
        exact ⟨later, follows, ordered.1 other behind place later since follows⟩
      · rw [none] at first
        contradiction

/-- A buffer of four bytes of one pool was written and released, and another pool that uses the same
registry is asked for eight bytes under the same key. -/
theorem reissued_after_release : ∃ (commands : List Command) (request : Allocation) (pool : Pool),
    commands = [.openPool {} {} 0, .openPool {} {} 0,
      .allocate (.pooled 0) { capacity := 4, maxCapacity := 16 },
      .onBuffer 0 (.writeBytes #[1, 2, 3]), .release 0] ∧
    request = { capacity := 8, maxCapacity := 16, readerIndex := 1, writerIndex := 2 } ∧
    (initial.after commands).pools.get? 1 = some pool ∧ pool.validate request = .ok () ∧
    ((initial.after commands).registry pool.registry).queue request.maxCapacity ≠ [] ∧
    ∃ after buffer, (initial.after commands).run (.allocate (.pooled 1) request) =
        (.ok (.buffer (initial.after commands).buffers.next), after) ∧
      after.buffers.get? (initial.after commands).buffers.next = some buffer ∧
      Reissued commands 1 pool request buffer after := by
  let commands : List Command := [.openPool {} {} 0, .openPool {} {} 0,
    .allocate (.pooled 0) { capacity := 4, maxCapacity := 16 },
    .onBuffer 0 (.writeBytes #[1, 2, 3]), .release 0]
  have known : ((initial.after commands).pools.get? 1).map (fun pool =>
      (pool.registry, pool.closed, pool.settings)) = some (0, false, {}) := by decide
  obtain ⟨pool, served, told⟩ := Option.map_eq_some_iff.mp known
  simp only [Prod.mk.injEq] at told
  obtain ⟨uses, unclosed, settings⟩ := told
  have small : 16 ≤ pool.settings.maxBufferCapacity := by simp [settings]
  have valid : pool.validate
      { capacity := 8, maxCapacity := 16, readerIndex := 1, writerIndex := 2 } = .ok () :=
    Pool.validate_eq_ok.mpr ⟨unclosed, rfl, small⟩
  refine ⟨commands, _, pool, rfl, rfl, served, valid, ?_, reissued_after served valid⟩
  rw [uses]
  decide

end Store

end CursorBuffers
