import CursorBuffers.Store.Basic

namespace CursorBuffers

/-- Why an operation did not go through: it named something that does not exist, or it failed. -/
inductive Failure
  | noBuffer (id : BufferId)
  | noPool (id : PoolId)
  | noRegistry (id : RegistryId)
  | memory (error : MemoryError)
  deriving DecidableEq

/-- An operation on a store. If it fails, what it changed before stays changed. -/
abbrev Action (α : Type) := ExceptT Failure (StateM Store) α

namespace Action

variable {α β : Type} {store : Store}

def runOn (action : Action α) (store : Store) : Except Failure α × Store :=
  (StateT.run (ExceptT.run action) store : Id (Except Failure α × Store))

def check (result : Except MemoryError α) : Action α :=
  match result with
  | .ok value => pure value
  | .error error => throw (.memory error)

def buffer (id : BufferId) : Action Buffer := do
  match (← get).buffers.get? id with
  | some buffer => return buffer
  | none => throw (.noBuffer id)

def pool (id : PoolId) : Action Pool := do
  match (← get).pools.get? id with
  | some pool => return pool
  | none => throw (.noPool id)

/-- Answers a question about a buffer and its arena. -/
def inspect (id : BufferId) (question : Buffer → Arena → Except MemoryError α) : Action α := do
  let buffer ← buffer id
  check (question buffer ((← get).arena buffer.arena))

/-- Changes the fields of a buffer by a rule that may refuse. -/
def revise (id : BufferId) (rule : Buffer → Except MemoryError Buffer) : Action Unit := do
  let changed ← check (rule (← buffer id))
  modify (·.mapBuffer id fun _ => changed)

/-- Changes the content of the arena of a buffer by a rule that may refuse. -/
def overwrite (id : BufferId) (rule : Buffer → Arena → Except MemoryError Region) :
    Action Unit := do
  let buffer ← buffer id
  let region ← check (rule buffer ((← get).arena buffer.arena))
  modify (·.setRegion buffer.arena region)

/-- Makes an arena of a region. -/
def newArena (region : Region) : Action ArenaId := do
  let id := (← get).arenas.next
  modify (·.addArena region)
  return id

/-- Makes a buffer that knows its own number. -/
def newBuffer (make : BufferId → Buffer) : Action BufferId := do
  let id := (← get).buffers.next
  modify (·.addBuffer (make id))
  return id

@[simp] theorem runOn_pure {value : α} : runOn (pure value) store = (.ok value, store) := rfl

@[simp] theorem runOn_throw {failure : Failure} :
    runOn (throw failure : Action α) store = (.error failure, store) := rfl

@[simp] theorem runOn_get : runOn get store = (.ok store, store) := rfl

@[simp] theorem runOn_modify {change : Store → Store} :
    runOn (modify change) store = (.ok (), change store) := rfl

theorem runOn_bind {action : Action α} {next : α → Action β} :
    runOn (action >>= next) store =
      match runOn action store with
      | (.ok value, after) => runOn (next value) after
      | (.error failure, after) => (.error failure, after) := by
  simp only [runOn, ExceptT.run_bind, StateT.run_bind]
  rcases StateT.run (ExceptT.run action) store with ⟨_ | _, _⟩ <;> rfl

theorem runOn_bind_eq_ok {action : Action α} {next : α → Action β} {value : β} {after : Store} :
    runOn (action >>= next) store = (.ok value, after) ↔
      ∃ first between, runOn action store = (.ok first, between) ∧
        runOn (next first) between = (.ok value, after) := by
  rw [runOn_bind]
  rcases runOn action store with ⟨_ | first, between⟩
  · simp
  · constructor
    · exact fun done => ⟨first, between, rfl, done⟩
    · rintro ⟨_, _, same, done⟩
      cases same
      exact done

theorem runOn_tryCatch {action : Action α} {handle : Failure → Action α} :
    runOn (tryCatch action handle) store =
      match runOn action store with
      | (.ok value, after) => (.ok value, after)
      | (.error failure, after) => runOn (handle failure) after := by
  change StateT.run (ExceptT.run (ExceptT.tryCatch action handle)) store = _
  simp only [ExceptT.tryCatch, ExceptT.run, ExceptT.mk, StateT.run_bind, runOn]
  rcases StateT.run action store with ⟨_ | _, _⟩ <;> rfl

@[simp] theorem mapError_ok {ε ε' : Type} {change : ε → ε'} {value : α} :
    (Except.ok value).mapError change = .ok value := rfl

@[simp] theorem mapError_error {ε ε' : Type} {change : ε → ε'} {error : ε} :
    (Except.error error : Except ε α).mapError change = .error (change error) := rfl

theorem eq_ok_of_mapError {ε ε' : Type} {result : Except ε α} {change : ε → ε'} {value : α}
    (mapped : result.mapError change = .ok value) : result = .ok value := by
  cases result with
  | error error => contradiction
  | ok other =>
      cases mapped
      rfl

@[simp] theorem runOn_check {result : Except MemoryError α} :
    runOn (check result) store = (result.mapError .memory, store) := by
  cases result <;> rfl

@[simp] theorem runOn_buffer {id : BufferId} {found : Buffer}
    (alive : store.buffers.get? id = some found) :
    runOn (buffer id) store = (.ok found, store) := by
  simp [buffer, runOn_bind, alive]

theorem runOn_buffer_none {id : BufferId} (gone : store.buffers.get? id = none) :
    runOn (buffer id) store = (.error (.noBuffer id), store) := by
  simp [buffer, runOn_bind, gone]

@[simp] theorem runOn_pool {id : PoolId} {found : Pool}
    (served : store.pools.get? id = some found) :
    runOn (pool id) store = (.ok found, store) := by
  simp [pool, runOn_bind, served]

theorem runOn_pool_none {id : PoolId} (gone : store.pools.get? id = none) :
    runOn (pool id) store = (.error (.noPool id), store) := by
  simp [pool, runOn_bind, gone]

section Single

variable {id : BufferId} {found : Buffer}

@[simp] theorem runOn_inspect {question : Buffer → Arena → Except MemoryError α}
    (alive : store.buffers.get? id = some found) :
    runOn (inspect id question) store =
      ((question found (store.arena found.arena)).mapError .memory, store) := by
  simp [inspect, runOn_bind, alive]

@[simp] theorem runOn_revise {rule : Buffer → Except MemoryError Buffer}
    (alive : store.buffers.get? id = some found) :
    runOn (revise id rule) store =
      match rule found with
      | .ok changed => (.ok (), store.mapBuffer id fun _ => changed)
      | .error error => (.error (.memory error), store) := by
  cases outcome : rule found <;> simp [revise, runOn_bind, alive, outcome]

@[simp] theorem runOn_overwrite {rule : Buffer → Arena → Except MemoryError Region}
    (alive : store.buffers.get? id = some found) :
    runOn (overwrite id rule) store =
      match rule found (store.arena found.arena) with
      | .ok region => (.ok (), store.setRegion found.arena region)
      | .error error => (.error (.memory error), store) := by
  cases outcome : rule found (store.arena found.arena) <;>
    simp [overwrite, runOn_bind, alive, outcome]

/-- An operation that begins with the search for a buffer fails at once if there is none. -/
theorem runOn_bind_buffer_none {next : Buffer → Action α}
    (gone : store.buffers.get? id = none) :
    runOn (buffer id >>= next) store = (.error (.noBuffer id), store) := by
  rw [runOn_bind, runOn_buffer_none gone]

end Single

@[simp] theorem runOn_newArena {region : Region} :
    runOn (newArena region) store = (.ok store.arenas.next, store.addArena region) := rfl

@[simp] theorem runOn_newBuffer {make : BufferId → Buffer} :
    runOn (newBuffer make) store =
      (.ok store.buffers.next, store.addBuffer (make store.buffers.next)) := rfl

end Action

end CursorBuffers
