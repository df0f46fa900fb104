import CursorBuffers.Proofs.Replay.Operations

namespace CursorBuffers

open CursorBuffers.Action

def Allocator.resetting (config : MemoryConfig → MemoryConfig) : Allocator → Allocator
  | .plain setting => .plain (config setting)
  | .pooled pool => .pooled pool

@[simp] theorem Allocator.resetting_id {allocator : Allocator} :
    allocator.resetting id = allocator := by
  cases allocator <;> rfl

def WrapCommand.resetting (config : MemoryConfig → MemoryConfig) : WrapCommand → WrapCommand
  | .block content setting => .block content (config setting)
  | .array content setting => .array content (config setting)
  | .bytes allocator content => .bytes (allocator.resetting config) content
  | .hex codec allocator text => .hex codec (allocator.resetting config) text
  | .chunks content => .chunks content

@[simp] theorem WrapCommand.resetting_id {source : WrapCommand} : source.resetting id = source := by
  cases source <;> simp [resetting]

/-- The same command with every configuration that it names, and every request for checks,
changed. -/
def Command.resetting (config : MemoryConfig → MemoryConfig) (checking : Bool → Bool) :
    Command → Command
  | .openPool setting settings registry => .openPool (config setting) settings registry
  | .allocate allocator request => .allocate (allocator.resetting config)
      { request with checking := checking request.checking }
  | .wrap source wanted => .wrap (source.resetting config) (checking wanted)
  | command => command

theorem Command.resetting_id : Command.resetting id id = id := by
  funext command
  cases command <;> simp [resetting]

namespace Replay

variable {replay : Replay} {store other : Store} {id : BufferId} {pool : PoolId}

section Ends

/-! What the stores do by themselves when a buffer or a pool ends. -/

theorem Stores.enterPool (faithful : replay.Faithful) (stores : replay.Stores store other)
    {idle : Idle} : replay.Stores (store.enterPool idle) (other.enterPool idle) := by
  have arenas : replay.Arenas (store.arena idle.arena) (other.arena idle.arena) :=
    stores.arena faithful
  rw [Store.enterPool, Store.enterPool, arenas.region.size]
  exact stores.mapStats

theorem Stores.discard (faithful : replay.Faithful) (stores : replay.Stores store other)
    {idle : Idle} : replay.Stores (store.discard idle) (other.discard idle) := by
  have arenas : replay.Arenas (store.arena idle.arena) (other.arena idle.arena) :=
    stores.arena faithful
  rw [Store.discard, Store.discard, arenas.region.size]
  exact stores.mapStats.markFreed

/-- While queues are emptied, the same bytes are counted. -/
structure Tallies (replay : Replay) (state also : Store × Nat) : Prop where
  stores : replay.Stores state.1 also.1
  bytes : also.2 = state.2

theorem Tallies.drainKey (faithful : replay.Faithful) {state also : Store × Nat}
    (tallies : replay.Tallies state also) {registry : RegistryId} {key : Nat} :
    replay.Tallies (Store.drainKey registry state key) (Store.drainKey registry also key) := by
  simp only [Store.drainKey, tallies.stores.registry, tallies.bytes]
  refine List.foldl_rel ⟨tallies.stores.setRegistry, rfl⟩ fun idle _ between twin tallies => ?_
  have arenas : replay.Arenas (between.1.arena idle.arena) (twin.1.arena idle.arena) :=
    tallies.stores.arena faithful
  refine ⟨tallies.stores.discard faithful, ?_⟩
  simp only [tallies.bytes, arenas.region.size]

theorem Stores.closePool (faithful : replay.Faithful) (stores : replay.Stores store other) :
    replay.Stores (store.closePool pool) (other.closePool pool) := by
  unfold Store.closePool
  cases served : store.pools.get? pool with
  | none =>
      rw [stores.pools.none served]
      exact stores
  | some record =>
      obtain ⟨also, found, alike⟩ := stores.pools.some served
      rw [found]
      obtain ⟨setting, kind⟩ := alike
      simp only
      split
      · exact stores
      · have begun : replay.Stores (store.mapPool pool (·.close)) (other.mapPool pool (·.close)) :=
          stores.mapPool fun _ _ alike => by
            cases alike with
            | intro setting kind => exact .intro setting kind
        have drained : replay.Tallies
            (record.keys.foldl (Store.drainKey record.registry) (store.mapPool pool (·.close), 0))
            (record.keys.foldl (Store.drainKey record.registry)
              (other.mapPool pool (·.close), 0)) :=
          List.foldl_rel ⟨begun, rfl⟩ fun _ _ _ _ tallies => tallies.drainKey faithful
        rw [drained.bytes]
        exact drained.stores.emit .same

theorem Stores.reclaim (faithful : replay.Faithful) (stores : replay.Stores store other)
    {buffer also : Buffer} (alike : replay.Buffers buffer also) :
    replay.Stores (store.reclaim pool buffer) (other.reclaim pool also) := by
  obtain ⟨tag, setting⟩ := alike
  unfold Store.reclaim
  cases served : store.pools.get? pool with
  | none =>
      rw [stores.pools.none served]
      exact stores
  | some record =>
      obtain ⟨partner, found, alike⟩ := stores.pools.some served
      rw [found]
      obtain ⟨setting, kind⟩ := alike
      have arenas : replay.Arenas (store.arena buffer.arena) (other.arena buffer.arena) :=
        stores.arena faithful
      have entry : (⟨buffer.arena, buffer.capacity, buffer.maxCapacity, pool⟩ : Idle) =
          Store.returnIdle pool buffer := rfl
      have counted : replay.Stores
          ((store.mapStats pool (·.ended)).enterPool (Store.returnIdle pool buffer))
          ((other.mapStats pool (·.ended)).enterPool (Store.returnIdle pool buffer)) :=
        stores.mapStats.enterPool faithful
      simp only [stores.holders, entry, counted.registry, arenas.freed, arenas.region.size]
      split
      · exact stores.mapStats.mapStats.markFreed
      · split
        · exact ((stores.mapStats.emit .same).mapStats).markFreed
        · split
          · exact (counted.setRegistry.mapStats).emit .same
          · exact ((counted.setRegistry.mapStats).emit .same).discard faithful

theorem Stores.drop (faithful : replay.Faithful) (stores : replay.Stores store other) :
    replay.Stores (store.drop id) (other.drop id) := by
  unfold Store.drop
  cases live : store.buffers.get? id with
  | none =>
      rw [stores.buffers.none live]
      exact stores
  | some buffer =>
      obtain ⟨also, found, alike⟩ := stores.buffers.some live
      rw [found]
      have recycler : also.recycler = buffer.recycler := by
        cases alike
        rfl
      simp only [recycler]
      cases buffer.recycler with
      | none => exact stores.vacate
      | some pool => exact stores.vacate.reclaim faithful alike

theorem Stores.free (faithful : replay.Faithful) (stores : replay.Stores store other)
    {buffer also : Buffer} (alike : replay.Buffers buffer also) :
    replay.Stores (store.free buffer) (other.free also) := by
  obtain ⟨tag, setting⟩ := alike
  have arenas : replay.Arenas (store.arena buffer.arena) (other.arena buffer.arena) :=
    stores.arena faithful
  simp only [Store.free, arenas.freed]
  split
  · exact stores
  · exact stores.markFreed.emit (.released arenas.region.backend)

theorem Stores.release (faithful : replay.Faithful) (stores : replay.Stores store other) :
    replay.Stores (store.release id) (other.release id) := by
  unfold Store.release
  cases live : store.buffers.get? id with
  | none =>
      rw [stores.buffers.none live]
      exact stores
  | some buffer =>
      obtain ⟨also, found, alike⟩ := stores.buffers.some live
      have frees : Store.frees also = Store.frees buffer := by
        cases alike
        rfl
      simp only [found, frees]
      split
      · exact (stores.free faithful alike).drop faithful
      · exact stores.drop faithful

end Ends

section Relations

variable (replay)

inductive Allocators : Allocator → Allocator → Prop
  | plain {config setting : MemoryConfig} (alike : replay.config config setting) :
      Allocators (.plain config) (.plain setting)
  | pooled {pool : PoolId} : Allocators (.pooled pool) (.pooled pool)

/-- The same request, with the checks that the replay asks for. -/
inductive Requests (request : Allocation) : Allocation → Prop
  | intro {checking : Bool} (wanted : replay.checking request.checking checking) :
      Requests request { request with checking := checking }

/-- The same command, with the settings of the replay. -/
inductive Commands : Command → Command → Prop
  | openRegistry : Commands .openRegistry .openRegistry
  | openPool {config setting : MemoryConfig} {settings : PoolConfig} {registry : RegistryId}
      (alike : replay.config config setting) :
      Commands (.openPool config settings registry) (.openPool setting settings registry)
  | closePool {pool : PoolId} : Commands (.closePool pool) (.closePool pool)
  | allocate {allocator also : Allocator} {request twin : Allocation}
      (alike : replay.Allocators allocator also) (requests : replay.Requests request twin) :
      Commands (.allocate allocator request) (.allocate also twin)
  | wrapBlock {content : Bytes} {config setting : MemoryConfig} {checking also : Bool}
      (alike : replay.config config setting) (wanted : replay.checking checking also) :
      Commands (.wrap (.block content config) checking) (.wrap (.block content setting) also)
  | wrapArray {content : Bytes} {config setting : MemoryConfig} {checking also : Bool}
      (alike : replay.config config setting) (wanted : replay.checking checking also) :
      Commands (.wrap (.array content config) checking) (.wrap (.array content setting) also)
  | wrapBytes {allocator twin : Allocator} {content : Bytes} {checking also : Bool}
      (alike : replay.Allocators allocator twin) (wanted : replay.checking checking also) :
      Commands (.wrap (.bytes allocator content) checking) (.wrap (.bytes twin content) also)
  | wrapHex {codec : Hex.Codec} {allocator twin : Allocator} {text : String} {checking also : Bool}
      (alike : replay.Allocators allocator twin) (wanted : replay.checking checking also) :
      Commands (.wrap (.hex codec allocator text) checking) (.wrap (.hex codec twin text) also)
  | wrapChunks {content : List Bytes} {checking also : Bool}
      (wanted : replay.checking checking also) :
      Commands (.wrap (.chunks content) checking) (.wrap (.chunks content) also)
  | onBuffer {id : BufferId} {command : BufferCommand} :
      Commands (.onBuffer id command) (.onBuffer id command)
  | transfer {id target : BufferId} {command : TransferCommand} {length : Nat} :
      Commands (.transfer id target command length) (.transfer id target command length)
  | release {id : BufferId} : Commands (.release id) (.release id)
  | drop {id : BufferId} : Commands (.drop id) (.drop id)

end Relations

theorem Allocators.resetting {first second : MemoryConfig → MemoryConfig}
    (config : ∀ setting, replay.config (first setting) (second setting)) {allocator : Allocator} :
    replay.Allocators (allocator.resetting first) (allocator.resetting second) := by
  cases allocator with
  | plain setting => exact .plain (config setting)
  | pooled pool => exact .pooled

/-- A command under two settings that are related wherever they are used. -/
theorem Commands.resetting {first second : MemoryConfig → MemoryConfig} {early late : Bool → Bool}
    (config : ∀ setting, replay.config (first setting) (second setting))
    (checking : ∀ wanted, replay.checking (early wanted) (late wanted)) {command : Command} :
    replay.Commands (command.resetting first early) (command.resetting second late) := by
  cases command with
  | openRegistry => exact .openRegistry
  | openPool => exact .openPool (config _)
  | closePool => exact .closePool
  | allocate => exact .allocate (.resetting config) (.intro (checking _))
  | wrap source =>
      cases source with
      | block => exact .wrapBlock (config _) (checking _)
      | array => exact .wrapArray (config _) (checking _)
      | bytes => exact .wrapBytes (.resetting config) (checking _)
      | hex => exact .wrapHex (.resetting config) (checking _)
      | chunks => exact .wrapChunks (checking _)
  | onBuffer => exact .onBuffer
  | transfer => exact .transfer
  | release => exact .release
  | drop => exact .drop

section Making

theorem Stores.prefill (stores : replay.Stores store other) {record also : Pool}
    (alike : replay.Pools record also) {count : Nat} :
    replay.Stores (store.prefill pool record count) (other.prefill pool also count) := by
  have settings : also.settings = record.settings := by cases alike; rfl
  have registry : also.registry = record.registry := by cases alike; rfl
  have kind : replay.backend record.backend also.backend := by cases alike; assumption
  induction count generalizing store other with
  | zero => exact stores
  | succ count ih =>
      have entry : other.reserveIdle pool also = store.reserveIdle pool record := by
        rw [Store.reserveIdle, Store.reserveIdle, settings, stores.arenas.next]
      have made : replay.Stores (store.stocked pool record) (other.stocked pool also) := by
        rw [Store.stocked, Store.stocked, settings]
        exact (stores.addArena (.allocate kind)).mapStats
      rw [Store.prefill_succ, Store.prefill_succ, entry, settings, registry, stores.registry,
        stores.arenas.next]
      split
      · exact ih made.setRegistry.mapStats
      · exact made.setRegistry.markFreed

theorem Stores.openRegistry (stores : replay.Stores store other) :
    replay.Outcomes (runOn openRegistry store) (runOn openRegistry other) := by
  simp only [Action.openRegistry, runOn_bind, runOn_get, runOn_modify, runOn_pure,
    stores.registries]
  exact .done stores.addRegistry

variable (faithful : replay.Faithful) (stores : replay.Stores store other)

include faithful stores

theorem Stores.openPool {config setting : MemoryConfig} (alike : replay.config config setting)
    {settings : PoolConfig} {registry : RegistryId} :
    replay.Outcomes (runOn (openPool config settings registry) store)
      (runOn (openPool setting settings registry) other) := by
  refine .bind_check stores (.refl faithful.errors) fun _ _ _ _ => ?_
  cases opened : store.registries.get? registry with
  | none =>
      have absent : other.registries.get? registry = none := by rw [stores.registries, opened]
      simp only [runOn_bind, runOn_get, opened, absent]
      exact .failed .same stores
  | some current =>
      have present : other.registries.get? registry = some current := by
        rw [stores.registries, opened]
      simp only [runOn_bind, runOn_get, opened, present, Option.isNone_some, Bool.false_eq_true,
        if_false, runOn_modify, runOn_pure, stores.pools.next]
      have pools : replay.Pools (.opened config settings registry)
          (.opened setting settings registry) := .intro alike (faithful.storage alike)
      exact .done ((stores.addPool pools).prefill pools)

variable {request twin : Allocation} (requests : replay.Requests request twin)

include requests

theorem Stores.allocatePlain {config setting : MemoryConfig}
    (alike : replay.config config setting) :
    replay.Outcomes (runOn (allocatePlain config request) store)
      (runOn (allocatePlain setting twin) other) := by
  obtain ⟨wanted⟩ := requests
  refine .bind_check stores (.refl faithful.errors) fun _ _ _ _ => ?_
  have made : replay.Regions ((Backend.select config).allocate request.capacity)
      ((Backend.select setting).allocate request.capacity) := .allocate (faithful.storage alike)
  refine .bind_newArena stores made fun arena stores => ?_
  exact .newBuffer stores fun id => .intro (faithful.tags alike wanted) alike

theorem Stores.reuse {record also : Pool} (alike : replay.Pools record also) :
    replay.Outcomes (runOn (reuse pool record request) store)
      (runOn (reuse pool also twin) other) := by
  obtain ⟨wanted⟩ := requests
  obtain ⟨setting, kind⟩ := alike
  unfold Action.reuse
  rw [runOn_bind, runOn_get, runOn_bind, runOn_get]
  simp only [stores.registry]
  cases (store.registry record.registry).poll request.maxCapacity with
  | none => exact .done stores
  | some taken =>
      obtain ⟨idle, rest⟩ := taken
      have arenas : replay.Arenas (store.arena idle.arena) (other.arena idle.arena) :=
        stores.arena faithful
      have polled : replay.Stores (store.unqueued pool record idle rest)
          (other.unqueued pool record idle rest) := by
        rw [Store.unqueued, Store.unqueued, arenas.region.size]
        exact stores.setRegistry.mapStats.mapStats
      simp only
      rw [runOn_bind, runOn_get, runOn_bind, runOn_get]
      refine .bind_modify ?_
      refine .bind_check polled (arenas.region.reserve faithful) fun _ _ _ regions => ?_
      exact .bind_modify (.done ((polled.setRegion regions).emit .same))

theorem Stores.allocatePooled :
    replay.Outcomes (runOn (allocatePooled pool request) store)
      (runOn (allocatePooled pool twin) other) := by
  refine .bind_pool stores fun record also alike => ?_
  have same : twin.maxCapacity = request.maxCapacity := by
    cases requests
    rfl
  have valid : also.validate twin = record.validate request := by
    cases requests
    cases alike
    rfl
  rw [valid, same]
  refine .bind_check stores (.refl faithful.errors) fun _ _ _ _ => ?_
  have used : replay.Stores (store.mapPool pool (·.useKey request.maxCapacity))
      (other.mapPool pool (·.useKey request.maxCapacity)) :=
    stores.mapPool fun _ _ alike => by
      cases alike with
      | intro setting kind => exact .intro setting kind
  refine .bind_modify ?_
  refine Outcomes.bind (used.reuse faithful requests alike) fun found _ _ _ _ stores => ?_
  have lease : ∀ {arena : ArenaId} {store other : Store}, replay.Stores store other →
      replay.Outcomes
        (runOn (do
          modify (·.mapStats pool (·.leased))
          newBuffer fun origin => Buffer.leased request record.config arena origin pool) store)
        (runOn (do
          modify (·.mapStats pool (·.leased))
          newBuffer fun origin => Buffer.leased twin also.config arena origin pool) other) := by
    intro arena store other stores
    obtain ⟨wanted⟩ := requests
    obtain ⟨setting, kind⟩ := alike
    exact .bind_modify (.newBuffer stores.mapStats fun id =>
      .intro (faithful.tags setting wanted) setting)
  cases found with
  | some arena => exact lease stores
  | none =>
      obtain ⟨wanted⟩ := requests
      obtain ⟨setting, kind⟩ := alike
      simp only [Action.make, bind_assoc]
      exact .bind_modify (.bind_newArena (stores.mapStats.emit .same) (.allocate kind)
        fun _ stores => lease stores)

theorem Stores.allocate {allocator also : Allocator} (alike : replay.Allocators allocator also) :
    replay.Outcomes (runOn (allocate allocator request) store)
      (runOn (allocate also twin) other) := by
  cases alike with
  | plain alike => exact stores.allocatePlain faithful requests alike
  | pooled => exact stores.allocatePooled faithful requests

end Making

section Kept

/-! An operation that is part of another one is a command too, so that it keeps what commands keep.
-/

variable (faithful : replay.Faithful) (kept : replay.kept store) {between : Store}

include faithful kept

theorem Faithful.kept_fill {data : Bytes}
    (done : runOn (fill id data) store = (.ok (), between)) : replay.kept between := by
  have allowed : replay.admits (.onBuffer id (.writeBytes data)) := faithful.writes
  have after := faithful.run kept allowed
  have ran : (store.run (.onBuffer id (.writeBytes data))).2 =
      (runOn (writeBytes id data) store).2 := after_bind_pure
  rw [fill, runOn_tryCatch] at done
  rcases outcome : runOn (writeBytes id data) store with ⟨failure | _, later⟩
  · rw [outcome] at done
    cases done
  · rw [outcome] at done
    cases done
    rwa [ran, outcome] at after

theorem Faithful.kept_allocate {allocator : Allocator} {request : Allocation}
    (allowed : replay.admits (.allocate allocator request)) {outcome : Except Failure BufferId}
    (done : runOn (allocate allocator request) store = (outcome, between)) :
    replay.kept between := by
  have ran : (store.run (.allocate allocator request)).2 =
      (runOn (allocate allocator request) store).2 := after_bind_pure
  have after := faithful.run kept allowed
  rwa [ran, done] at after

end Kept

section Wraps

variable (faithful : replay.Faithful) (stores : replay.Stores store other)

include faithful stores

theorem Stores.wrapBlock {content : Bytes} {config setting : MemoryConfig} {checking also : Bool}
    (admitted : replay.admits (.wrap (.block content config) checking))
    (alike : replay.config config setting) (wanted : replay.checking checking also) :
    replay.Outcomes (runOn (wrapBlock content config checking) store)
      (runOn (wrapBlock content setting also) other) := by
  have regions : replay.Regions (.native .host .external content)
      (.native .host .external content) := ⟨rfl, Iff.rfl, faithful.kinds _⟩
  have probed : Capability.probe setting = Capability.probe config := by
    rw [Capability.probe, Capability.probe, faithful.inPlace admitted alike]
  refine .bind_newArena stores regions fun arena stores => ?_
  rw [Bytes.checkBlock, Bytes.checkBlock, probed]
  refine .bind_check stores (.refl faithful.errors) fun _ _ _ _ => ?_
  exact .newBuffer stores fun id => .intro (faithful.tags alike wanted) alike

theorem Stores.wrapArray {content : Bytes} {config setting : MemoryConfig} {checking also : Bool}
    (alike : replay.config config setting) (wanted : replay.checking checking also) :
    replay.Outcomes (runOn (wrapArray content config checking) store)
      (runOn (wrapArray content setting also) other) := by
  have regions : replay.Regions (.managed content) (.managed content) :=
    ⟨rfl, Iff.rfl, faithful.kinds _⟩
  refine .bind_check stores (.refl faithful.errors) fun _ _ _ _ => ?_
  refine .bind_newArena stores regions fun arena stores => ?_
  exact .newBuffer stores fun id => .intro (faithful.tags alike wanted) alike

variable (kept : replay.kept store) {data : Bytes} {checking also : Bool}

include kept

theorem Stores.fill :
    replay.Outcomes (runOn (fill id data) store) (runOn (fill id data) other) := by
  have written : replay.Outcomes (runOn (Action.writeBytes id data) store)
      (runOn (Action.writeBytes id data) other) := stores.writeBytes faithful kept
  rw [Action.fill, runOn_tryCatch, runOn_tryCatch]
  generalize runOn (Action.writeBytes id data) store = one at written ⊢
  generalize runOn (Action.writeBytes id data) other = two at written ⊢
  cases written with
  | done stores => exact .done stores
  | failed alike stores => exact .failed alike (stores.drop faithful)
  | excused excused => exact .excused excused

theorem Stores.fillChunks {chunks : List Bytes} :
    replay.Outcomes (runOn (fillChunks id chunks) store)
      (runOn (fillChunks id chunks) other) := by
  induction chunks generalizing store other with
  | nil => exact .done stores
  | cons chunk chunks ih =>
      refine (stores.fill faithful kept).bind fun _ _ _ begun _ stores => ?_
      exact ih stores (faithful.kept_fill kept begun)

variable {allocator twin : Allocator} (alike : replay.Allocators allocator twin)
variable (allowed : ∀ request, replay.admits (.allocate allocator request))
variable (wanted : replay.checking checking also)

include wanted

theorem Stores.wrapChunks {chunks : List Bytes} :
    replay.Outcomes (runOn (wrapChunks chunks checking) store)
      (runOn (wrapChunks chunks also) other) := by
  refine .bind_check stores (.refl faithful.errors) fun _ _ _ _ => ?_
  have standard : replay.Allocators .default .default := .plain faithful.standard
  refine (stores.allocate faithful (.intro wanted) standard).bind fun _ _ _ begun _ stores => ?_
  have kept := faithful.kept_allocate kept faithful.fallback begun
  exact (stores.fillChunks faithful kept).answer

include alike allowed

theorem Stores.wrapBytes :
    replay.Outcomes (runOn (wrapBytes allocator data checking) store)
      (runOn (wrapBytes twin data also) other) := by
  refine .bind_check stores (.refl faithful.errors) fun _ _ _ _ => ?_
  refine (stores.allocate faithful (.intro wanted) alike).bind fun _ _ _ begun _ stores => ?_
  have kept := faithful.kept_allocate kept (allowed _) begun
  exact (stores.fill faithful kept).answer

theorem Stores.wrapHex {codec : Hex.Codec} {text : String} :
    replay.Outcomes (runOn (wrapHex codec allocator text checking) store)
      (runOn (wrapHex codec twin text also) other) := by
  refine .bind_check stores (.refl faithful.errors) fun _ _ _ same => ?_
  subst same
  exact stores.wrapBytes faithful kept alike allowed wanted

end Wraps

section Performance

variable (faithful : replay.Faithful) (stores : replay.Stores store other)
variable (kept : replay.kept store)

include faithful stores kept

theorem Stores.perform {command : BufferCommand} :
    replay.Outcomes (runOn (command.perform id) store) (runOn (command.perform id) other) := by
  cases command with
  | getScalar kind order index => exact (stores.getScalar faithful kept).answer
  | setScalar order index value =>
      simp only [BufferCommand.perform, setScalar_eq_setBytes]
      exact (stores.setBytes faithful kept).answer
  | readScalar kind order => exact (stores.readScalar faithful kept).answer
  | writeScalar order value =>
      simp only [BufferCommand.perform, writeScalar_eq_append]
      exact (stores.append faithful kept).answer
  | getBytes index length => exact (stores.getBytes faithful kept).answer
  | setBytes index data => exact (stores.setBytes faithful kept).answer
  | readBytes length => exact (stores.readBytes faithful kept).answer
  | writeBytes data => exact (stores.writeBytes faithful kept).answer
  | skipBytes length => exact (stores.skipBytes faithful).answer
  | toBytes => exact (stores.toBytes faithful kept).answer
  | hexDump => exact (stores.toBytes faithful kept).answer.answer
  | setReaderIndex index =>
      exact (Outcomes.revise stores fun _ _ alike => alike.setReaderIndex faithful).answer
  | setWriterIndex index =>
      exact (Outcomes.revise stores fun _ _ alike => alike.setWriterIndex faithful).answer
  | setIndex reader writer =>
      exact (Outcomes.revise stores fun _ _ alike => alike.setIndex faithful).answer
  | clear =>
      refine (Outcomes.revise stores fun _ _ alike => ?_).answer
      cases alike with
      | intro tag setting => exact .ok (.intro tag setting)
  | markReader =>
      refine (Outcomes.revise stores fun _ _ alike => ?_).answer
      cases alike with
      | intro tag setting => exact .ok (.intro tag setting)
  | markWriter =>
      refine (Outcomes.revise stores fun _ _ alike => ?_).answer
      cases alike with
      | intro tag setting => exact .ok (.intro tag setting)
  | resetReader => exact (Outcomes.revise stores fun _ _ alike => alike.resetReader faithful).answer
  | resetWriter => exact (Outcomes.revise stores fun _ _ alike => alike.resetWriter faithful).answer
  | ensureWritable length => exact (stores.ensureWritable faithful kept).answer
  | setCapacity capacity => exact (stores.setCapacity faithful kept).answer
  | copy => exact (stores.copy faithful kept).answer
  | copyRange index length => exact (stores.copyRange faithful kept).answer
  | slice => exact (stores.slice faithful kept).answer
  | sliceRange index length => exact (stores.sliceRange faithful kept).answer
  | duplicate => exact (stores.duplicate faithful kept).answer

theorem Stores.transfer {target : BufferId} {length : Nat} {command : TransferCommand}
    (heard : replay.Guarded ∨ (store.buffers.get? target).isSome) :
    replay.Outcomes (runOn (command.perform id target length) store)
      (runOn (command.perform id target length) other) := by
  cases command with
  | getBytesTo index => exact stores.getBytesTo faithful kept
  | getBytesAt index otherIndex => exact stores.getBytesAt faithful kept heard
  | setBytesFrom index => exact stores.setBytesFrom faithful kept
  | setBytesAt index otherIndex => exact stores.setBytesAt faithful kept heard
  | readBytesTo => exact stores.readBytesTo faithful kept
  | writeBytesFrom => exact stores.writeBytesFrom faithful kept

/-- A command and its replay, performed on related stores. -/
theorem Stores.run {command also : Command} (admitted : replay.admits command)
    (alike : replay.Commands command also)
    (heard : replay.Guarded ∨ ∀ id ∈ command.handles, (store.buffers.get? id).isSome) :
    replay.Outcomes (store.run command) (other.run also) := by
  unfold Store.run
  cases alike with
  | openRegistry => exact (stores.openRegistry).answer
  | openPool alike => exact (stores.openPool faithful alike).answer
  | closePool =>
      refine Outcomes.answer (.bind_pool stores fun _ _ _ => ?_)
      exact .done (stores.closePool faithful)
  | allocate alike requests => exact (stores.allocate faithful requests alike).answer
  | wrapBlock alike wanted => exact (stores.wrapBlock faithful admitted alike wanted).answer
  | wrapArray alike wanted => exact (stores.wrapArray faithful alike wanted).answer
  | wrapBytes alike wanted =>
      exact (stores.wrapBytes faithful kept alike
        (fun request => faithful.allocates admitted rfl) wanted).answer
  | wrapHex alike wanted =>
      exact (stores.wrapHex faithful kept alike
        (fun request => faithful.allocates admitted rfl) wanted).answer
  | wrapChunks wanted => exact (stores.wrapChunks faithful kept wanted).answer
  | onBuffer => exact stores.perform faithful kept
  | transfer =>
      refine (stores.transfer faithful kept (heard.imp_right fun named => ?_)).answer
      exact named _ (List.mem_cons_of_mem _ List.mem_cons_self)
  | release =>
      exact .bind_buffer stores fun _ _ _ _ _ => .done (stores.release faithful)
  | drop =>
      exact .bind_buffer stores fun _ _ _ _ _ => .done (stores.drop faithful)

end Performance

end Replay

end CursorBuffers
