import CursorBuffers.Proofs.Replay.Runs

namespace CursorBuffers

/-- The configuration that rules native memory out, or lets it be used. -/
def MemoryConfig.forcing (managed : Bool) (config : MemoryConfig) : MemoryConfig :=
  { config with forceManaged := managed }

namespace Command

/-- The same command with native memory ruled out, or not, in every configuration that it names. -/
def forcing (managed : Bool) (command : Command) : Command :=
  command.resetting (·.forcing managed) id

/-- The command is to wrap memory of somebody else in place. -/
def WrapsBlock : Command → Prop
  | .wrap (.block _ _) _ => True
  | _ => False

theorem wrapsBlock_forcing {command : Command} {managed : Bool} :
    (command.forcing managed).WrapsBlock ↔ command.WrapsBlock := by
  cases command with
  | wrap source checking => cases source <;> exact Iff.rfl
  | _ => exact Iff.rfl

end Command

/-- What a caller sees of a buffer; bytes that cannot be read show the code of the error. -/
structure Sight where
  readerIndex : Nat
  writerIndex : Nat
  markedReader : Nat
  markedWriter : Nat
  capacity : Nat
  maxCapacity : Nat
  readable : Except String Bytes
  freed : Bool

namespace Store

def sight (store : Store) (buffer : Buffer) : Sight where
  readerIndex := buffer.readerIndex
  writerIndex := buffer.writerIndex
  markedReader := buffer.markedReader
  markedWriter := buffer.markedWriter
  capacity := buffer.capacity
  maxCapacity := buffer.maxCapacity
  readable := (buffer.toBytes (store.arena buffer.arena)).mapError MemoryError.code
  freed := (store.arena buffer.arena).freed

/-- A caller sees the same buffers and pools, and the same arenas wait in the same queues. -/
structure Indistinct (store other : Store) : Prop where
  buffers : ∀ id,
    (other.buffers.get? id).map other.sight = (store.buffers.get? id).map store.sight
  stats : ∀ id, (other.pools.get? id).map (·.stats) = (store.pools.get? id).map (·.stats)
  registries : other.registries = store.registries

end Store

namespace Replay

/-- The same run on any storage; errors may tell of it in their texts. -/
def onAnyStorage : Replay where
  config config other := other.checkBounds = config.checkBounds ∧
    other.checkAccessible = config.checkAccessible
  checking := Eq
  bounds := Eq
  backend _ _ := True
  error error other := other.code = error.code
  excused _ := False
  admits command := ¬ command.WrapsBlock
  kept _ := True

variable {store other : Store} {id : Nat}

theorem checkAccessible_onAnyStorage {buffer also : Buffer} {arena twin : Arena}
    (alike : onAnyStorage.Buffers buffer also) (freed : twin.freed = arena.freed) :
    onAnyStorage.Results Eq (buffer.checkAccessible arena) (also.checkAccessible twin) := by
  obtain ⟨tag, setting⟩ := alike
  cases tag
  simp only [Buffer.checkAccessible, setting.2, freed]
  split
  · exact .error rfl
  · exact .ok rfl

theorem guard_onAnyStorage {buffer also : Buffer} {arena twin : Arena} {index length : Nat}
    (alike : onAnyStorage.Buffers buffer also) (freed : twin.freed = arena.freed) :
    onAnyStorage.Results Eq (buffer.guard arena index length) (also.guard twin index length) := by
  have checked : onAnyStorage.Results Eq (buffer.checkAccessible arena)
      (also.checkAccessible twin) := checkAccessible_onAnyStorage alike freed
  obtain ⟨tag, setting⟩ := alike
  cases tag
  unfold Buffer.guard
  generalize buffer.bounds = bounds at checked ⊢
  cases bounds with
  | unchecked => exact .ok rfl
  | checked => exact checked.bind fun _ _ _ _ => .refl fun _ => rfl

theorem guarded_onAnyStorage : onAnyStorage.Guarded := by
  intro store other access also _ accesses
  rw [Access.guard, Access.guard, accesses.index, accesses.length]
  exact guard_onAnyStorage accesses.buffer accesses.arena.freed

theorem faithful_onAnyStorage : onAnyStorage.Faithful where
  errors _ := rfl
  kinds _ := trivial
  standard := ⟨rfl, rfl⟩
  tags setting checking := by
    cases checking
    rw [Bounds.select, Bounds.select, setting.1]
    rfl
  storage _ := trivial
  inPlace admitted _ := absurd trivial admitted
  outOfRange _ _ := .inr rfl
  accessible _ accesses := checkAccessible_onAnyStorage accesses.buffer accesses.arena.freed
  reach _ same accesses := guarded_onAnyStorage.reach (fun _ => rfl) trivial same accesses
  run _ _ := trivial
  room := id
  writes := id
  allocates _ _ := id
  fallback := id

theorem mapError_code {α : Type} {one another : Except MemoryError α}
    (results : onAnyStorage.Results Eq one another) :
    another.mapError MemoryError.code = one.mapError MemoryError.code := by
  cases results with
  | ok same => rw [same]
  | error same => exact congrArg Except.error same
  | excused never => exact never.elim

theorem Stores.indistinct (stores : onAnyStorage.Stores store other) :
    store.Indistinct other where
  buffers id := by
    cases live : store.buffers.get? id with
    | none => simp [stores.buffers.none live]
    | some buffer =>
        obtain ⟨also, found, alike⟩ := stores.buffers.some live
        have shown := mapError_code (stores.shows faithful_onAnyStorage trivial live found alike)
        obtain ⟨tag, setting⟩ := alike
        have arenas : onAnyStorage.Arenas (store.arena buffer.arena) (other.arena buffer.arena) :=
          stores.arena faithful_onAnyStorage
        simp only [found, Option.map_some, Store.sight, shown, arenas.freed]
  stats id := by
    cases served : store.pools.get? id with
    | none => simp [stores.pools.none served]
    | some pool =>
        obtain ⟨also, found, alike⟩ := stores.pools.some served
        rw [found]
        cases alike
        rfl
  registries := stores.registries

end Replay

namespace Store

open Replay in
/-- No caller can tell from what it is told which storage a run is on, as long as the run wraps no
memory of somebody else in place. -/
theorem agree_on_either_storage {commands : List Command}
    (unblocked : ∀ command ∈ commands, ¬ command.WrapsBlock) :
    List.Forall₂ (fun native managed =>
        Agree native.1 managed.1 ∧ native.2.Indistinct managed.2)
      (initial.trace (commands.map (·.forcing false)))
      (initial.trace (commands.map (·.forcing true))) := by
  have config : ∀ config : MemoryConfig,
      onAnyStorage.config (config.forcing false) (config.forcing true) := fun _ => ⟨rfl, rfl⟩
  have alike : ∀ command ∈ commands,
      onAnyStorage.Commands (command.forcing false) (command.forcing true) :=
    fun _ _ => .resetting config fun _ => rfl
  have admitted : ∀ command ∈ commands, ¬ (command.forcing false).WrapsBlock :=
    fun command named => Command.wrapsBlock_forcing.not.mpr (unblocked command named)
  have follows := (Stores.initial faithful_onAnyStorage).trace faithful_onAnyStorage trivial alike
    admitted (.inl guarded_onAnyStorage)
  exact (follows.forall₂ fun _ => id).imp fun _ _ ⟨answers, stores⟩ =>
    ⟨answers.agree fun _ _ => id, stores.indistinct⟩

/-- A pool, a plain buffer, a copy, a transfer within one arena and a failure. -/
def storageTour : List Command :=
  [.openPool {} { poolSize := 1, maxBufferCapacity := 16 } sharedRegistry,
    .allocate (.plain {}) { capacity := 4, maxCapacity := 8 },
    .onBuffer 0 (.writeBytes #[1, 2, 3, 4, 5]), .onBuffer 0 (.copyRange 1 3),
    .onBuffer 0 .duplicate, .transfer 0 2 (.getBytesAt 0 1) 3, .onBuffer 0 (.readBytes 9),
    .allocate (.pooled 0) { capacity := 16 }, .release 0]

theorem agree_on_either_storage_on_tour :
    ((initial.after (storageTour.map (·.forcing false))).arena 1).region.isNative = true ∧
      ((initial.after (storageTour.map (·.forcing true))).arena 1).region.isNative = false ∧
      List.Forall₂ (fun native managed =>
          Agree native.1 managed.1 ∧ native.2.Indistinct managed.2)
        (initial.trace (storageTour.map (·.forcing false)))
        (initial.trace (storageTour.map (·.forcing true))) :=
  ⟨by decide +kernel, by decide +kernel,
    agree_on_either_storage (by simp [storageTour, Command.WrapsBlock])⟩

end Store

end CursorBuffers
