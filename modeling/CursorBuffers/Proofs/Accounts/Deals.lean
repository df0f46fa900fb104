import CursorBuffers.Proofs.Accounts.Aside
import CursorBuffers.Proofs.Accounts.Leases

namespace CursorBuffers

variable {warrant : Warrant} {store after : Store}

namespace Store

/-- The store in which a pool has lent a new arena. -/
def lentNew (store : Store) (id : PoolId) (pool : Pool) (request : Allocation) : Store :=
  ((((store.mapStats id (·.missed)).emit (.poolMiss request.maxCapacity request.capacity)).addArena
    (pool.backend.allocate request.capacity)).mapStats id (·.leased)).addBuffer
      (.leased request pool.config store.arenas.next store.buffers.next id)

/-- The store in which a pool has lent an arena from its queue. -/
def lentIdle (store : Store) (id : PoolId) (pool : Pool) (request : Allocation) (idle : Idle)
    (rest : Registry) (region : Region) : Store :=
  ((((store.unqueued id pool idle rest).setRegion idle.arena region).emit
    (.poolHit request.maxCapacity request.capacity)).mapStats id (·.leased)).addBuffer
      (.leased request pool.config idle.arena store.buffers.next id)

end Store

open Store in
/-- What a command that opens and closes nothing may do to pools. -/
inductive Deal (warrant : Warrant) (store : Store) : Store → Prop
  | aside {after : Store} (steps : Steps warrant store after) (aside : store.Aside after) :
      Deal warrant store after
  | ask {id : PoolId} {pool : Pool} {key : Nat} (granted : warrant.grants key)
      (serving : warrant.serves id) (served : store.pools.get? id = some pool)
      (unclosed : pool.closed = false) : Deal warrant store (store.mapPool id (·.useKey key))
  | lendNew {id : PoolId} {pool : Pool} {request : Allocation}
      (granted : warrant.grants request.maxCapacity) (serving : warrant.serves id)
      (served : store.pools.get? id = some pool) (valid : pool.validate request = .ok ())
      (asked : request.maxCapacity ∈ pool.keys)
      (none : (store.registry pool.registry).poll request.maxCapacity = none) :
      Deal warrant store (store.lentNew id pool request)
  | lendIdle {id : PoolId} {pool : Pool} {request : Allocation} {idle : Idle} {rest : Registry}
      {region : Region} (granted : warrant.grants request.maxCapacity)
      (serving : warrant.serves id) (served : store.pools.get? id = some pool)
      (valid : pool.validate request = .ok ()) (asked : request.maxCapacity ∈ pool.keys)
      (taken : (store.registry pool.registry).poll request.maxCapacity = some (idle, rest))
      (reserved : (store.arena idle.arena).region.reserve request.capacity = .ok region) :
      Deal warrant store (store.lentIdle id pool request idle rest region)
  | reclaim {id : BufferId} {buffer : Buffer} {pool : PoolId} (named : warrant.touches id)
      (live : store.buffers.get? id = some buffer) (leased : buffer.recycler = some pool)
      (ending : warrant.ends id) :
      Deal warrant store ((store.vacate id).reclaim pool buffer)

/-- Deals one after the other. -/
abbrev Deals (warrant : Warrant) : Store → Store → Prop :=
  Relation.ReflTransGen (Deal warrant)

theorem Deal.steps (deal : Deal warrant store after) : Steps warrant store after := by
  cases deal with
  | aside steps aside => exact steps
  | ask granted serving served unclosed => exact .single .useKey
  | lendNew granted serving served valid asked none =>
      exact .single (.leaseFresh granted serving served valid none)
  | lendIdle granted serving served valid asked taken reserved =>
      exact .single (.leaseIdle granted served valid taken reserved)
  | reclaim named live leased ending => exact .single (.reclaim named live leased ending)

namespace Deals

theorem aside (steps : Steps warrant store after) (aside : store.Aside after) :
    Deals warrant store after :=
  .single (.aside steps aside)

theorem preserve {motive : Store → Prop} (deals : Deals warrant store after) (held : motive store)
    (changed : ∀ {before later}, Deal warrant before later → motive before → motive later) :
    motive after := by
  induction deals with
  | refl => exact held
  | tail _ deal ih => exact changed deal ih

theorem steps (deals : Deals warrant store after) : Steps warrant store after :=
  deals.preserve .refl fun deal steps => steps.trans deal.steps

theorem preserve_of_sound {motive : Store → Prop} (deals : Deals warrant store after)
    (sound : store.Sound) (held : motive store)
    (changed : ∀ {before later}, Deal warrant before later → before.Sound → motive before →
      motive later) : motive after := by
  have both : after.Sound ∧ motive after := by
    refine deals.preserve (motive := fun store => store.Sound ∧ motive store) ⟨sound, held⟩ ?_
    rintro before later deal ⟨sound, held⟩
    exact ⟨deal.steps.preserve sound Step.sound, changed deal sound held⟩
  exact both.2

end Deals

/-- A command that opens and closes neither a pool nor a registry. -/
def Command.Trades : Command → Prop
  | .openRegistry => False
  | .openPool _ _ _ => False
  | .closePool _ => False
  | _ => True

namespace Store

variable {id : BufferId}

theorem deals_drop (named : warrant.touches id) (ending : warrant.ends id) :
    Deals warrant store (store.drop id) := by
  unfold drop
  split
  · exact .refl
  · rename_i buffer live
    split
    · rename_i pool leased
      exact .single (.reclaim named live leased ending)
    · rename_i unleased
      exact .aside (.single (.vacate named live unleased ending)) (.vacate live unleased)

theorem deals_release (named : warrant.touches id) (ending : warrant.ends id)
    (freeing : warrant.frees id) : Deals warrant store (store.release id) := by
  unfold release
  split
  · exact .refl
  · rename_i buffer live
    split
    · rename_i frees
      have freed : store.Aside (store.free buffer) :=
        free_induction (fun _ => .refl) fun _ => .of_buffers rfl rfl rfl
      exact .head (.aside (.single (.free named live frees freeing)) freed)
        (deals_drop named ending)
    · exact deals_drop named ending

end Store

namespace Action

variable {α β : Type} {id : BufferId} {pool : PoolId} {record : Pool} {request : Allocation}
variable {data : Bytes} {checking : Bool}

theorem deals_bind {action : Action α} {next : α → Action β}
    (first : Deals warrant store (runOn action store).2)
    (rest : ∀ value between, runOn action store = (.ok value, between) →
      Deals warrant between (runOn (next value) between).2) :
    Deals warrant store (runOn (action >>= next) store).2 := by
  rw [runOn_bind]
  rcases outcome : runOn action store with ⟨_ | value, between⟩
  · rw [outcome] at first
    exact first
  · rw [outcome] at first
    exact first.trans (rest value between outcome)

theorem deals_bind_pure {action : Action α} {value : α → β}
    (first : Deals warrant store (runOn action store).2) :
    Deals warrant store (runOn (action >>= fun result => pure (value result)) store).2 := by
  rw [after_bind_pure]
  exact first

theorem deals_bind_check {result : Except MemoryError α} {next : α → Action β}
    (rest : ∀ value, result = .ok value → Deals warrant store (runOn (next value) store).2) :
    Deals warrant store (runOn (check result >>= next) store).2 := by
  rw [runOn_bind, runOn_check]
  cases result with
  | error error => exact .refl
  | ok value => exact rest value rfl

theorem deals_bind_buffer {next : Buffer → Action β}
    (rest : ∀ buffer, store.buffers.get? id = some buffer →
      Deals warrant store (runOn (next buffer) store).2) :
    Deals warrant store (runOn (buffer id >>= next) store).2 := by
  cases found : store.buffers.get? id with
  | none => rw [runOn_bind_buffer_none found]
  | some buffer =>
      rw [runOn_bind, runOn_buffer found]
      exact rest buffer found

theorem deals_allocatePlain {config : MemoryConfig} (granted : warrant.grants request.maxCapacity) :
    Deals warrant store (runOn (allocatePlain config request) store).2 := by
  refine .aside (steps_allocatePlain granted) ?_
  exact (staysAside_check.bind fun _ => staysAside_newArena.bind fun _ =>
    staysAside_newBuffer fun _ => rfl) store

theorem deals_allocatePooled (owned : store.Owned) (granted : warrant.grants request.maxCapacity)
    (serving : warrant.serves pool) :
    Deals warrant store (runOn (allocatePooled pool request) store).2 := by
  cases found : store.pools.get? pool with
  | none =>
      rw [allocatePooled, runOn_bind, runOn_pool_none found]
  | some record =>
      cases valid : record.validate request with
      | error error =>
          rw [allocatePooled, runOn_bind, runOn_pool found]
          simp only [runOn_bind, runOn_check, valid]
          exact .refl
      | ok _ =>
          rw [runOn_allocatePooled found valid]
          let asked := store.mapPool pool (·.useKey request.maxCapacity)
          let current := record.useKey request.maxCapacity
          have served : asked.pools.get? pool = some current := by
            simp [asked, current, Store.mapPool, Table.get?_update, found]
          have stillValid : current.validate request = .ok () := valid
          have marked : request.maxCapacity ∈ current.keys := List.mem_insert_self
          have ask : Deal warrant store asked :=
            .ask granted serving found (Pool.validate_eq_ok.mp valid).1
          cases taken : (store.registry record.registry).poll request.maxCapacity with
          | none =>
              have lent : Deal warrant asked _ :=
                .lendNew granted serving served stillValid marked taken
              exact .head ask (.single lent)
          | some entry =>
              -- A queued arena is the library's own, so it can be reserved for the new lease.
              obtain ⟨idle, rest⟩ := entry
              obtain ⟨region, reserved⟩ := owned.reserve request.capacity taken
              simp only [reserved]
              have lent : Deal warrant asked _ :=
                .lendIdle granted serving served stillValid marked taken reserved
              exact .head ask (.single lent)

theorem deals_allocate {allocator : Allocator} (owned : store.Owned)
    (granted : warrant.grants request.maxCapacity)
    (serving : ∀ pool, allocator = .pooled pool → warrant.serves pool) :
    Deals warrant store (runOn (allocate allocator request) store).2 := by
  cases allocator with
  | plain config => exact deals_allocatePlain granted
  | pooled pool => exact deals_allocatePooled owned granted (serving pool rfl)

theorem deals_fill (named : warrant.touches id) (ending : warrant.ends id) :
    Deals warrant store (runOn (fill id data) store).2 := by
  have written : Deals warrant store (runOn (writeBytes id data) store).2 :=
    .aside (steps_writeBytes named) (staysAside_writeBytes store)
  rw [fill, runOn_tryCatch]
  rcases outcome : runOn (writeBytes id data) store with ⟨failure | _, between⟩
  · rw [outcome] at written
    exact written.trans (Store.deals_drop named ending)
  · rw [outcome] at written
    exact written

theorem deals_fillChunks {chunks : List Bytes} (named : warrant.touches id)
    (ending : warrant.ends id) :
    Deals warrant store (runOn (fillChunks id chunks) store).2 := by
  induction chunks generalizing store with
  | nil => exact .refl
  | cons chunk rest ih => exact deals_bind (deals_fill named ending) fun _ _ _ => ih

variable {allocator : Allocator}

theorem deals_wrapBytes (owned : store.Owned)
    (covered : warrant.touches store.buffers.next ∧ warrant.ends store.buffers.next)
    (granted : data.size ≤ Bytes.lengthLimit → warrant.grants data.size)
    (serving : ∀ pool, allocator = .pooled pool → warrant.serves pool) :
    Deals warrant store (runOn (wrapBytes allocator data checking) store).2 := by
  refine deals_bind_check fun _ short => ?_
  have granted := granted (Bytes.checkSize_eq_ok.mp short)
  refine deals_bind (deals_allocate owned granted serving) fun id between done => ?_
  obtain ⟨named, ending⟩ : warrant.touches id ∧ warrant.ends id :=
    eq_next_of_allocate done ▸ covered
  exact deals_bind_pure (deals_fill named ending)

theorem deals_wrapChunks {chunks : List Bytes} (owned : store.Owned)
    (covered : warrant.touches store.buffers.next ∧ warrant.ends store.buffers.next)
    (granted : (Bytes.join chunks).size ≤ Bytes.lengthLimit →
      warrant.grants (Bytes.join chunks).size) :
    Deals warrant store (runOn (wrapChunks chunks checking) store).2 := by
  refine deals_bind_check fun _ short => ?_
  have granted := granted (Bytes.checkSize_eq_ok.mp short)
  refine deals_bind (deals_allocate owned granted fun _ pooled => by cases pooled)
    fun id between done => ?_
  obtain ⟨named, ending⟩ : warrant.touches id ∧ warrant.ends id :=
    eq_next_of_allocate done ▸ covered
  exact deals_bind_pure (deals_fillChunks named ending)

end Action

open CursorBuffers.Action in
/-- A command that opens and closes nothing is a chain of deals. -/
theorem Store.deals_run {command : Command} (owned : store.Owned) (trades : command.Trades) :
    Deals (command.warrant store) store (store.run command).2 := by
  unfold run
  cases command with
  | openRegistry => exact trades.elim
  | openPool config settings registry => exact trades.elim
  | closePool pool => exact trades.elim
  | allocate allocator request =>
      exact deals_bind_pure (deals_allocate owned .allocate fun pool pooled => .inl (pooled ▸ rfl))
  | wrap source checking =>
      have covered := Command.covers_next (.wrap source checking) store
      refine deals_bind_pure ?_
      cases source with
      | block content config =>
          refine .aside (steps_wrapBlock .wrapBlock) ?_
          exact (staysAside_newArena.bind fun _ => staysAside_check.bind fun _ =>
            staysAside_newBuffer fun _ => rfl) store
      | array content config =>
          refine .aside (steps_wrapArray .wrapArray) ?_
          exact (staysAside_check.bind fun _ => staysAside_newArena.bind fun _ =>
            staysAside_newBuffer fun _ => rfl) store
      | bytes allocator content =>
          exact deals_wrapBytes owned covered .wrapBytes fun pool pooled => .inl (pooled ▸ rfl)
      | hex codec allocator text =>
          refine deals_bind_check fun bytes decoded => ?_
          exact deals_wrapBytes owned covered (.wrapHex (Action.eq_ok_of_mapError decoded))
            fun pool pooled => .inl (pooled ▸ rfl)
      | chunks content => exact deals_wrapChunks owned covered .wrapChunks
  | onBuffer id request => exact .aside steps_run (staysAside_perform store)
  | transfer id other request length =>
      exact .aside steps_run (staysAside_transfer.bind_pure store)
  | release id =>
      exact deals_bind_buffer fun buffer live => deals_release (.inl List.mem_cons_self)
        (.inl List.mem_cons_self) ⟨by simp [live], rfl⟩
  | drop id =>
      exact deals_bind_buffer fun _ _ => deals_drop (.inl List.mem_cons_self)
        (.inl List.mem_cons_self)

end CursorBuffers
