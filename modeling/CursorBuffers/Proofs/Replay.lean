import CursorBuffers.Proofs.Room
import CursorBuffers.Proofs.Step.Commands
import Mathlib.Data.List.Forall2

/-!
A run and its replay: the same commands under other settings. A replay may be configured otherwise,
on another kind of storage or with other checks; a relation for each part of a store says what may
differ there.
-/

namespace CursorBuffers

namespace Table

variable {α β γ : Type} {one : Table α} {other : Table β} {alike : α → β → Prop} {id : Nat}

def map (table : Table α) (change : α → β) : Table β := ⟨table.slots.map (Option.map change)⟩

@[simp] theorem next_map {change : α → β} : (one.map change).next = one.next := by
  simp [next, map]

@[simp] theorem get?_map {change : α → β} :
    (one.map change).get? id = (one.get? id).map change := by
  simp only [get?, map, Array.getElem?_map]
  rcases one.slots[id]? with _ | (_ | _) <;> rfl

theorem entries_map {change : α → β} : (one.map change).entries = one.entries.map change := by
  simp only [entries, map, Array.toList_map, List.filterMap_map, List.map_filterMap]
  rfl

/-- A table is determined by its entries and by the number that the next one gets. -/
theorem ext_get? {second : Table α} (next : second.next = one.next)
    (same : ∀ id, second.get? id = one.get? id) : second = one := by
  obtain ⟨slots⟩ := one
  obtain ⟨others⟩ := second
  congr 1
  have size : others.size = slots.size := next
  refine Array.ext size fun index within also => ?_
  have equal := same index
  simpa [get?, within, also] using equal

/-- Two tables with the same occupied slots, and related entries in them. -/
structure Pairs (alike : α → β → Prop) (one : Table α) (other : Table β) : Prop where
  next : other.next = one.next
  entries : ∀ id, Option.Rel alike (one.get? id) (other.get? id)

namespace Pairs

theorem refl {alike : α → α → Prop} (same : ∀ entry, alike entry entry) : one.Pairs alike one := by
  refine ⟨rfl, fun id => ?_⟩
  cases one.get? id with
  | none => exact .none
  | some entry => exact .some (same entry)

theorem none (pairs : one.Pairs alike other) (vacant : one.get? id = none) :
    other.get? id = none := by
  have related := pairs.entries id
  rw [vacant] at related
  cases found : other.get? id with
  | none => rfl
  | some entry =>
      rw [found] at related
      cases related

theorem some (pairs : one.Pairs alike other) {entry : α} (occupied : one.get? id = some entry) :
    ∃ partner, other.get? id = some partner ∧ alike entry partner := by
  have related := pairs.entries id
  rw [occupied] at related
  cases found : other.get? id with
  | none =>
      rw [found] at related
      cases related
  | some partner =>
      rw [found] at related
      cases related with
      | some related => exact ⟨partner, rfl, related⟩

theorem add (pairs : one.Pairs alike other) {entry : α} {partner : β}
    (related : alike entry partner) : (one.add entry).Pairs alike (other.add partner) := by
  refine ⟨by simp [pairs.next], fun id => ?_⟩
  rw [get?_add, get?_add, pairs.next]
  split
  · exact .some related
  · exact pairs.entries id

theorem update (pairs : one.Pairs alike other) {change : α → α} {follow : β → β}
    (related : ∀ entry partner, one.get? id = .some entry → alike entry partner →
      alike (change entry) (follow partner)) :
    (one.update id change).Pairs alike (other.update id follow) := by
  refine ⟨by simp [pairs.next], fun place => ?_⟩
  rw [get?_update, get?_update]
  split
  · cases occupied : one.get? id with
    | none =>
        rw [pairs.none occupied]
        exact .none
    | some entry =>
        obtain ⟨partner, found, alike⟩ := pairs.some occupied
        rw [found]
        exact .some (related entry partner occupied alike)
  · exact pairs.entries place

theorem vacate (pairs : one.Pairs alike other) : (one.vacate id).Pairs alike (other.vacate id) := by
  refine ⟨by simp [pairs.next], fun place => ?_⟩
  rw [get?_vacate, get?_vacate]
  split
  · exact .none
  · exact pairs.entries place

theorem eq {alike : α → α → Prop} {other : Table α} (pairs : one.Pairs alike other)
    (same : ∀ entry partner, alike entry partner → partner = entry) : other = one := by
  refine ext_get? pairs.next fun id => ?_
  cases occupied : one.get? id with
  | none => exact pairs.none occupied
  | some entry =>
      obtain ⟨partner, found, alike⟩ := pairs.some occupied
      rw [found, same entry partner alike]

/-- What related entries have in common, the tables have in common. -/
theorem map_eq (pairs : one.Pairs alike other) {first : α → γ} {second : β → γ}
    (same : ∀ entry partner, alike entry partner → second partner = first entry) :
    other.map second = one.map first := by
  refine ext_get? (by simp [pairs.next]) fun id => ?_
  rw [get?_map, get?_map]
  cases occupied : one.get? id with
  | none => rw [pairs.none occupied]; rfl
  | some entry =>
      obtain ⟨partner, found, alike⟩ := pairs.some occupied
      rw [found, Option.map_some, Option.map_some, same entry partner alike]

theorem count_eq (pairs : one.Pairs alike other) {first : α → Bool} {second : β → Bool}
    (same : ∀ entry partner, alike entry partner → second partner = first entry) :
    other.count second = one.count first := by
  have entries : other.entries.map second = one.entries.map first := by
    rw [← entries_map, ← entries_map, pairs.map_eq same]
  have counted : ∀ {δ : Type} (table : Table δ) (test : δ → Bool),
      table.count test = (table.entries.map test).countP fun passed => passed := by
    intro δ table test
    rw [count, List.countP_map]
    rfl
  rw [counted, counted, entries]

end Pairs

end Table

/-- An access through a buffer. -/
structure Access where
  buffer : Buffer
  arena : Arena
  index : Nat
  length : Nat

namespace Access

/-- The check of an access against its buffer. -/
def guard (access : Access) : Except MemoryError Unit :=
  access.buffer.guard access.arena access.index access.length

/-- The check of an access against the storage. -/
def range (access : Access) : Except MemoryError Unit :=
  access.arena.region.checkRange (access.buffer.offset + access.index) access.length

/-- The checks of accesses that are made together. -/
def reach (guarded ranged : List Access) : Except MemoryError Unit := do
  guarded.forM guard
  ranged.forM range

end Access

/-- An access through a buffer of the store. -/
def Store.access (store : Store) (buffer : Buffer) (index length : Nat) : Access :=
  ⟨buffer, store.arena buffer.arena, index, length⟩

/-- The access is through a live buffer. -/
def Store.Offers (store : Store) (access : Access) : Prop :=
  ∃ id, store.buffers.get? id = some access.buffer ∧
    access.arena = store.arena access.buffer.arena

/-- Under which other settings a run is replayed, and what counts as the same in both. -/
structure Replay where
  config : MemoryConfig → MemoryConfig → Prop
  checking : Bool → Bool → Prop
  bounds : Bounds → Bounds → Prop
  backend : Backend → Backend → Prop
  /-- Which errors of the run and its replay count as the same. -/
  error : MemoryError → MemoryError → Prop
  /-- The errors of the run after which nothing is compared. -/
  excused : MemoryError → Prop
  /-- The commands of the run. -/
  admits : Command → Prop
  /-- What the stores of the run have in common. -/
  kept : Store → Prop

namespace Replay

variable {α β γ δ : Type} {replay : Replay}

section Relations

variable (replay)

/-- At most the tag and the configuration tell the two apart. -/
inductive Buffers (buffer : Buffer) : Buffer → Prop
  | intro {bounds : Bounds} {config : MemoryConfig} (tag : replay.bounds buffer.bounds bounds)
      (setting : replay.config buffer.config config) :
      Buffers buffer { buffer with bounds := bounds, config := config }

/-- The same bytes, of the library's own or not, on storage of a related kind. -/
structure Regions (region other : Region) : Prop where
  bytes : other.bytes = region.bytes
  owned : other.IsOwned ↔ region.IsOwned
  backend : replay.backend region.backend other.backend

structure Arenas (arena other : Arena) : Prop where
  region : replay.Regions arena.region other.region
  freed : other.freed = arena.freed

inductive Pools (pool : Pool) : Pool → Prop
  | intro {config : MemoryConfig} {backend : Backend} (setting : replay.config pool.config config)
      (kind : replay.backend pool.backend backend) :
      Pools pool { pool with config := config, backend := backend }

/-- Only a release logs what kind of storage it is about. -/
inductive Events : Event → Event → Prop
  | same {event : Event} : Events event event
  | released {arena : ArenaId} {region other : Region} {capacity : Nat} {role : Role}
      (kind : replay.backend region.backend other.backend) :
      Events (.released arena region.isNative capacity role)
        (.released arena other.isNative capacity role)

structure Stores (store other : Store) : Prop where
  arenas : store.arenas.Pairs replay.Arenas other.arenas
  buffers : store.buffers.Pairs replay.Buffers other.buffers
  pools : store.pools.Pairs replay.Pools other.pools
  registries : other.registries = store.registries
  events : List.Forall₂ replay.Events store.events.toList other.events.toList

/-- The results of a check, or of a computation that begins with one. -/
inductive Results (same : α → β → Prop) : Except MemoryError α → Except MemoryError β → Prop
  | ok {value : α} {other : β} (agrees : same value other) : Results same (.ok value) (.ok other)
  | error {error other : MemoryError} (alike : replay.error error other) :
      Results same (.error error) (.error other)
  | excused {error : MemoryError} {result : Except MemoryError β} (excused : replay.excused error) :
      Results same (.error error) result

inductive Failures : Failure → Failure → Prop
  | same {failure : Failure} : Failures failure failure
  | memory {error other : MemoryError} (alike : replay.error error other) :
      Failures (.memory error) (.memory other)

/-- What an operation answers, and the store that it leaves. -/
inductive Outcomes : Except Failure α × Store → Except Failure α × Store → Prop
  | done {value : α} {store other : Store} (stores : replay.Stores store other) :
      Outcomes (.ok value, store) (.ok value, other)
  | failed {failure also : Failure} {store other : Store} (alike : replay.Failures failure also)
      (stores : replay.Stores store other) :
      Outcomes (.error failure, store) (.error also, other)
  | excused {error : MemoryError} {store : Store} {outcome : Except Failure α × Store}
      (excused : replay.excused error) : Outcomes (.error (.memory error), store) outcome

/-- The same access in a run and in its replay. -/
structure Accesses (store other : Store) (access also : Access) : Prop where
  offered : store.Offers access
  alsoOffered : other.Offers also
  buffer : replay.Buffers access.buffer also.buffer
  arena : replay.Arenas access.arena also.arena
  index : also.index = access.index
  length : also.length = access.length

/-- What makes a replay follow the run: the settings are related to themselves where a command
leaves no choice, and related settings decide alike whether an access goes through. -/
structure Faithful : Prop where
  errors : ∀ error, replay.error error error
  kinds : ∀ backend, replay.backend backend backend
  standard : replay.config {} {}
  tags : ∀ {config setting checking also}, replay.config config setting →
    replay.checking checking also →
    replay.bounds (Bounds.select checking config) (Bounds.select also setting)
  storage : ∀ {config setting}, replay.config config setting →
    replay.backend (Backend.select config) (Backend.select setting)
  inPlace : ∀ {content config setting checking},
    replay.admits (.wrap (.block content config) checking) → replay.config config setting →
    setting.forceManaged = config.forceManaged
  /-- Errors of range show the buffer that they are about. -/
  outOfRange : ∀ fault other, replay.excused (.outOfRange fault) ∨
    replay.error (.outOfRange fault) (.outOfRange other)
  accessible : ∀ {store other access also}, replay.kept store →
    replay.Accesses store other access also →
    replay.Results Eq (access.buffer.checkAccessible access.arena)
      (also.buffer.checkAccessible also.arena)
  reach : ∀ {store other} {guarded ranged : List (Access × Access)}, replay.kept store →
    guarded.Perm ranged → (∀ pair ∈ guarded, replay.Accesses store other pair.1 pair.2) →
    replay.Results Eq (Access.reach (guarded.map (·.1)) (ranged.map (·.1)))
      (Access.reach (guarded.map (·.2)) (ranged.map (·.2)))
  run : ∀ {store command}, replay.kept store → replay.admits command →
    replay.kept (store.run command).2
  room : ∀ {id length}, replay.admits (.onBuffer id (.ensureWritable length))
  writes : ∀ {id data}, replay.admits (.onBuffer id (.writeBytes data))
  allocates : ∀ {command allocator request}, replay.admits command →
    command.allocator? = some allocator → replay.admits (.allocate allocator request)
  fallback : ∀ {request}, replay.admits (.allocate .default request)

/-- The check of one access decides alike too, even if the operation goes no further. -/
def Guarded : Prop :=
  ∀ store other access also, replay.kept store → replay.Accesses store other access also →
    replay.Results Eq access.guard also.guard

end Relations

section Reading

variable {store other : Store} {id : Nat}

theorem Buffers.window {buffer also : Buffer} (alike : replay.Buffers buffer also) :
    also.offset = buffer.offset ∧ also.capacity = buffer.capacity := by
  cases alike
  exact ⟨rfl, rfl⟩

theorem Regions.size {region also : Region} (alike : replay.Regions region also) :
    also.size = region.size := by
  rw [Region.size, Region.size, alike.bytes]

theorem Regions.checkRange {region also : Region} (alike : replay.Regions region also)
    {offset length : Nat} : also.checkRange offset length = region.checkRange offset length := by
  rw [Region.checkRange, Region.checkRange, alike.size]

theorem Regions.withBytes {region also : Region} (alike : replay.Regions region also)
    {bytes : Bytes} : replay.Regions (region.withBytes bytes) (also.withBytes bytes) where
  bytes := by simp
  owned := by simp [alike.owned]
  backend := by simpa using alike.backend

theorem Regions.allocate {backend also : Backend} (alike : replay.backend backend also)
    {length : Nat} : replay.Regions (backend.allocate length) (also.allocate length) where
  bytes := by cases backend <;> cases also <;> rfl
  owned := ⟨fun _ => Region.isOwned_allocate, fun _ => Region.isOwned_allocate⟩
  backend := by simpa using alike

namespace Stores

variable (stores : replay.Stores store other)

include stores

theorem arena (faithful : replay.Faithful) : replay.Arenas (store.arena id) (other.arena id) := by
  unfold Store.arena
  cases stored : store.arenas.get? id with
  | none =>
      rw [stores.arenas.none stored]
      exact ⟨⟨rfl, Iff.rfl, faithful.kinds _⟩, rfl⟩
  | some arena =>
      obtain ⟨also, found, alike⟩ := stores.arenas.some stored
      rw [found]
      exact alike

theorem registry : other.registry id = store.registry id := by
  rw [Store.registry, Store.registry, stores.registries]

theorem idle : other.idle = store.idle := by
  rw [Store.idle, Store.idle, stores.registries]

theorem holders : other.holders id = store.holders id := by
  have counted : other.buffers.count (·.arena == id) = store.buffers.count (·.arena == id) :=
    stores.buffers.count_eq fun buffer also alike => by cases alike; rfl
  rw [Store.holders, Store.holders, counted, stores.idle]

theorem isExclusive {buffer also : Buffer} (alike : replay.Buffers buffer also) :
    other.isExclusive also = store.isExclusive buffer := by
  cases alike
  simp only [Store.isExclusive, stores.holders]

end Stores

end Reading

/-! What is done to both stores keeps them related. -/

namespace Stores

variable {store other : Store} {id : Nat} (stores : replay.Stores store other)

theorem initial (faithful : replay.Faithful) : replay.Stores .initial .initial where
  arenas := .refl fun _ => ⟨⟨rfl, Iff.rfl, faithful.kinds _⟩, rfl⟩
  buffers := ⟨rfl, fun _ => by simp [Store.initial, Table.get?]⟩
  pools := ⟨rfl, fun _ => by simp [Store.initial, Table.get?]⟩
  registries := rfl
  events := .nil

include stores

theorem addArena {region also : Region} (alike : replay.Regions region also) :
    replay.Stores (store.addArena region) (other.addArena also) :=
  { stores with arenas := stores.arenas.add ⟨alike, rfl⟩ }

theorem setRegion {region also : Region} (alike : replay.Regions region also) :
    replay.Stores (store.setRegion id region) (other.setRegion id also) :=
  { stores with arenas := stores.arenas.update fun _ _ _ arenas => ⟨alike, arenas.freed⟩ }

theorem markFreed : replay.Stores (store.markFreed id) (other.markFreed id) :=
  { stores with arenas := stores.arenas.update fun _ _ _ arenas => ⟨arenas.region, rfl⟩ }

theorem addBuffer {buffer also : Buffer} (alike : replay.Buffers buffer also) :
    replay.Stores (store.addBuffer buffer) (other.addBuffer also) :=
  { stores with buffers := stores.buffers.add alike }

theorem mapBuffer {change follow : Buffer → Buffer}
    (alike : ∀ buffer also, store.buffers.get? id = some buffer → replay.Buffers buffer also →
      replay.Buffers (change buffer) (follow also)) :
    replay.Stores (store.mapBuffer id change) (other.mapBuffer id follow) :=
  { stores with buffers := stores.buffers.update alike }

theorem vacate : replay.Stores (store.vacate id) (other.vacate id) :=
  { stores with buffers := stores.buffers.vacate }

theorem addPool {pool also : Pool} (alike : replay.Pools pool also) :
    replay.Stores (store.addPool pool) (other.addPool also) :=
  { stores with pools := stores.pools.add alike }

theorem mapPool {change : Pool → Pool}
    (alike : ∀ pool also, replay.Pools pool also → replay.Pools (change pool) (change also)) :
    replay.Stores (store.mapPool id change) (other.mapPool id change) :=
  { stores with pools := stores.pools.update fun _ _ _ pools => alike _ _ pools }

theorem mapStats {change : PoolStats → PoolStats} :
    replay.Stores (store.mapStats id change) (other.mapStats id change) :=
  stores.mapPool fun _ _ alike => by
    cases alike with
    | intro setting kind => exact .intro setting kind

theorem addRegistry : replay.Stores store.addRegistry other.addRegistry :=
  { stores with registries := by simp only [Store.addRegistry, stores.registries] }

theorem setRegistry {registry : Registry} :
    replay.Stores (store.setRegistry id registry) (other.setRegistry id registry) :=
  { stores with registries := by simp only [Store.setRegistry, stores.registries] }

theorem emit {event also : Event} (alike : replay.Events event also) :
    replay.Stores (store.emit event) (other.emit also) := by
  refine { stores with events := ?_ }
  simp only [Store.emit, Array.toList_push]
  exact List.rel_append stores.events (.cons alike .nil)

theorem emitGrowth {buffer also : Buffer} (alike : replay.Buffers buffer also) {capacity : Nat} :
    replay.Stores (store.emitGrowth buffer capacity) (other.emitGrowth also capacity) := by
  cases alike
  unfold Store.emitGrowth
  split
  · exact stores.emit .same
  · exact stores

end Stores

end Replay

end CursorBuffers
