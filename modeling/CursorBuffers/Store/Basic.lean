import CursorBuffers.Buffer.Access
import CursorBuffers.Event
import CursorBuffers.Pool.Basic
import CursorBuffers.Table

namespace CursorBuffers

/-- The state that all buffers and pools live in. Arenas, buffers, pools and registries are numbered
in the order of their creation; a buffer that was dropped leaves its number vacant. Who shares an
arena is not recorded but counted. -/
structure Store where
  arenas : Table Arena := {}
  buffers : Table Buffer := {}
  pools : Table Pool := {}
  registries : Table Registry := {}
  events : Array Event := #[]

/-- The registry that pools share unless they are given another one. -/
def sharedRegistry : RegistryId := 0

namespace Store

/-- Nothing but the shared registry. -/
def initial : Store := { registries := Table.add {} {} }

/-- An arena that does not exist is empty. -/
def arena (store : Store) (id : ArenaId) : Arena := (store.arenas.get? id).getD Arena.empty

def registry (store : Store) (id : RegistryId) : Registry := (store.registries.get? id).getD {}

/-- The idle arenas of all registries. -/
def idle (store : Store) : List Idle := store.registries.entries.flatMap Registry.entries

/-- How many buffers and queue entries hold an arena. -/
def holders (store : Store) (id : ArenaId) : Nat :=
  store.buffers.count (·.arena == id) + store.idle.countP (·.arena == id)

def addArena (store : Store) (region : Region) : Store :=
  { store with arenas := store.arenas.add { region := region } }

def setRegion (store : Store) (id : ArenaId) (region : Region) : Store :=
  { store with arenas := store.arenas.update id fun arena => { arena with region := region } }

def markFreed (store : Store) (id : ArenaId) : Store :=
  { store with arenas := store.arenas.update id fun arena => { arena with freed := true } }

def addBuffer (store : Store) (buffer : Buffer) : Store :=
  { store with buffers := store.buffers.add buffer }

def mapBuffer (store : Store) (id : BufferId) (change : Buffer → Buffer) : Store :=
  { store with buffers := store.buffers.update id change }

def vacate (store : Store) (id : BufferId) : Store :=
  { store with buffers := store.buffers.vacate id }

def addPool (store : Store) (pool : Pool) : Store := { store with pools := store.pools.add pool }

def mapPool (store : Store) (id : PoolId) (change : Pool → Pool) : Store :=
  { store with pools := store.pools.update id change }

def mapStats (store : Store) (id : PoolId) (change : PoolStats → PoolStats) : Store :=
  store.mapPool id fun pool => { pool with stats := change pool.stats }

def addRegistry (store : Store) : Store := { store with registries := store.registries.add {} }

def setRegistry (store : Store) (id : RegistryId) (registry : Registry) : Store :=
  { store with registries := store.registries.update id fun _ => registry }

def emit (store : Store) (event : Event) : Store :=
  { store with events := store.events.push event }

section Frame

/-! A change of one table leaves the others, and all that is read from them, as they were. -/

variable {store : Store} {id : Nat}

@[simp] theorem addArena_frame {region : Region} :
    (store.addArena region).buffers = store.buffers ∧
      (store.addArena region).pools = store.pools ∧
      (store.addArena region).registries = store.registries ∧
      (∀ other, (store.addArena region).registry other = store.registry other) ∧
      (store.addArena region).idle = store.idle ∧
      (store.addArena region).arenas.next = store.arenas.next + 1 :=
  ⟨rfl, rfl, rfl, fun _ => rfl, rfl, Table.next_add⟩

@[simp] theorem setRegion_frame {region : Region} :
    (store.setRegion id region).buffers = store.buffers ∧
      (store.setRegion id region).pools = store.pools ∧
      (store.setRegion id region).registries = store.registries ∧
      (∀ other, (store.setRegion id region).registry other = store.registry other) ∧
      (store.setRegion id region).idle = store.idle ∧
      (store.setRegion id region).arenas.next = store.arenas.next :=
  ⟨rfl, rfl, rfl, fun _ => rfl, rfl, Table.next_update⟩

@[simp] theorem markFreed_frame :
    (store.markFreed id).buffers = store.buffers ∧
      (store.markFreed id).pools = store.pools ∧
      (store.markFreed id).registries = store.registries ∧
      (∀ other, (store.markFreed id).registry other = store.registry other) ∧
      (store.markFreed id).idle = store.idle ∧
      (store.markFreed id).arenas.next = store.arenas.next :=
  ⟨rfl, rfl, rfl, fun _ => rfl, rfl, Table.next_update⟩

@[simp] theorem addBuffer_frame {buffer : Buffer} :
    (store.addBuffer buffer).arenas = store.arenas ∧
      (∀ other, (store.addBuffer buffer).arena other = store.arena other) ∧
      (store.addBuffer buffer).pools = store.pools ∧
      (store.addBuffer buffer).registries = store.registries ∧
      (∀ other, (store.addBuffer buffer).registry other = store.registry other) ∧
      (store.addBuffer buffer).idle = store.idle ∧
      (store.addBuffer buffer).buffers.next = store.buffers.next + 1 :=
  ⟨rfl, fun _ => rfl, rfl, rfl, fun _ => rfl, rfl, Table.next_add⟩

@[simp] theorem mapBuffer_frame {change : Buffer → Buffer} :
    (store.mapBuffer id change).arenas = store.arenas ∧
      (∀ other, (store.mapBuffer id change).arena other = store.arena other) ∧
      (store.mapBuffer id change).pools = store.pools ∧
      (store.mapBuffer id change).registries = store.registries ∧
      (∀ other, (store.mapBuffer id change).registry other = store.registry other) ∧
      (store.mapBuffer id change).idle = store.idle ∧
      (store.mapBuffer id change).buffers.next = store.buffers.next :=
  ⟨rfl, fun _ => rfl, rfl, rfl, fun _ => rfl, rfl, Table.next_update⟩

@[simp] theorem vacate_frame :
    (store.vacate id).arenas = store.arenas ∧
      (∀ other, (store.vacate id).arena other = store.arena other) ∧
      (store.vacate id).pools = store.pools ∧
      (store.vacate id).registries = store.registries ∧
      (∀ other, (store.vacate id).registry other = store.registry other) ∧
      (store.vacate id).idle = store.idle ∧
      (store.vacate id).buffers.next = store.buffers.next :=
  ⟨rfl, fun _ => rfl, rfl, rfl, fun _ => rfl, rfl, Table.next_vacate⟩

@[simp] theorem addPool_frame {pool : Pool} :
    (store.addPool pool).arenas = store.arenas ∧
      (∀ other, (store.addPool pool).arena other = store.arena other) ∧
      (store.addPool pool).buffers = store.buffers ∧
      (store.addPool pool).registries = store.registries ∧
      (∀ other, (store.addPool pool).registry other = store.registry other) ∧
      (store.addPool pool).idle = store.idle :=
  ⟨rfl, fun _ => rfl, rfl, rfl, fun _ => rfl, rfl⟩

@[simp] theorem mapPool_frame {change : Pool → Pool} :
    (store.mapPool id change).arenas = store.arenas ∧
      (∀ other, (store.mapPool id change).arena other = store.arena other) ∧
      (store.mapPool id change).buffers = store.buffers ∧
      (store.mapPool id change).registries = store.registries ∧
      (∀ other, (store.mapPool id change).registry other = store.registry other) ∧
      (store.mapPool id change).idle = store.idle :=
  ⟨rfl, fun _ => rfl, rfl, rfl, fun _ => rfl, rfl⟩

@[simp] theorem mapStats_frame {change : PoolStats → PoolStats} :
    (store.mapStats id change).arenas = store.arenas ∧
      (∀ other, (store.mapStats id change).arena other = store.arena other) ∧
      (store.mapStats id change).buffers = store.buffers ∧
      (store.mapStats id change).registries = store.registries ∧
      (∀ other, (store.mapStats id change).registry other = store.registry other) ∧
      (store.mapStats id change).idle = store.idle :=
  mapPool_frame

@[simp] theorem addRegistry_frame :
    store.addRegistry.arenas = store.arenas ∧
      (∀ other, store.addRegistry.arena other = store.arena other) ∧
      store.addRegistry.buffers = store.buffers ∧
      store.addRegistry.pools = store.pools :=
  ⟨rfl, fun _ => rfl, rfl, rfl⟩

@[simp] theorem setRegistry_frame {registry : Registry} :
    (store.setRegistry id registry).arenas = store.arenas ∧
      (∀ other, (store.setRegistry id registry).arena other = store.arena other) ∧
      (store.setRegistry id registry).buffers = store.buffers ∧
      (store.setRegistry id registry).pools = store.pools :=
  ⟨rfl, fun _ => rfl, rfl, rfl⟩

@[simp] theorem emit_frame {event : Event} :
    (store.emit event).arenas = store.arenas ∧
      (∀ other, (store.emit event).arena other = store.arena other) ∧
      (store.emit event).buffers = store.buffers ∧
      (store.emit event).pools = store.pools ∧
      (store.emit event).registries = store.registries ∧
      (∀ other, (store.emit event).registry other = store.registry other) ∧
      (store.emit event).idle = store.idle :=
  ⟨rfl, fun _ => rfl, rfl, rfl, rfl, fun _ => rfl, rfl⟩

end Frame

variable {store : Store} {id other : ArenaId} {region : Region}

theorem arena_addArena :
    (store.addArena region).arena other =
      if other = store.arenas.next then { region := region } else store.arena other := by
  simp only [arena, addArena, Table.get?_add]
  split <;> rfl

theorem arena_setRegion {arena : Arena} (stored : store.arenas.get? id = some arena) :
    (store.setRegion id region).arena other =
      if other = id then { arena with region := region } else store.arena other := by
  simp only [Store.arena, setRegion, Table.get?_update, stored]
  split <;> rfl

theorem arena_setRegion_of_ne (distinct : other ≠ id) :
    (store.setRegion id region).arena other = store.arena other := by
  simp only [arena, setRegion, Table.get?_update, if_neg distinct]

theorem arena_markFreed_of_ne (distinct : other ≠ id) :
    (store.markFreed id).arena other = store.arena other := by
  simp only [arena, markFreed, Table.get?_update, if_neg distinct]

@[simp] theorem freed_setRegion :
    ((store.setRegion id region).arena other).freed = (store.arena other).freed := by
  simp only [arena, setRegion, Table.get?_update]
  split <;> rename_i same
  · subst same
    cases store.arenas.get? other <;> rfl
  · rfl

@[simp] theorem region_markFreed :
    ((store.markFreed id).arena other).region = (store.arena other).region := by
  simp only [arena, markFreed, Table.get?_update]
  split <;> rename_i same
  · subst same
    cases store.arenas.get? other <;> rfl
  · rfl

theorem mapStats_mapStats {id : PoolId} {first second : PoolStats → PoolStats} :
    (store.mapStats id first).mapStats id second = store.mapStats id (second ∘ first) := by
  simp only [mapStats, mapPool, Table.update_update]
  rfl

theorem get?_mapBuffer {id other : BufferId} {change : Buffer → Buffer} :
    (store.mapBuffer id change).buffers.get? other =
      (store.buffers.get? other).map fun buffer =>
        if other = id then change buffer else buffer := by
  simp only [mapBuffer, Table.get?_update]
  by_cases same : other = id
  · simp [same]
  · simp [same]

end Store

end CursorBuffers
