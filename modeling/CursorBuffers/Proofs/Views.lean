import CursorBuffers.Proofs.Backends
import CursorBuffers.Proofs.Views.Resting
import CursorBuffers.Proofs.Views.Writing

namespace CursorBuffers

/-- Two byte strings with the same byte at two indices have the same slices of one byte there. -/
theorem Bytes.slice_one_congr {bytes other : Bytes} {index otherIndex : Nat}
    (within : index < bytes.size) (also : otherIndex < other.size)
    (same : bytes[index]? = other[otherIndex]?) :
    bytes.slice index 1 = other.slice otherIndex 1 := by
  apply Array.ext_getElem?
  intro place
  by_cases first : place < 1
  · obtain rfl : place = 0 := Nat.lt_one_iff.mp first
    rw [getElem?_slice first, getElem?_slice first]
    exact same
  · rw [Array.getElem?_eq_none (by rw [size_slice within]; omega),
      Array.getElem?_eq_none (by rw [size_slice also]; omega)]

namespace Buffer

variable {buffer one another : Buffer} {arena : Arena} {index length : Nat}

/-- Within the capacity only an arena that was freed is refused. -/
theorem getBytes_of_within (within : index + length ≤ buffer.capacity) :
    buffer.getBytes arena index length = (do
      buffer.checkAccessible arena
      arena.region.read (buffer.offset + index) length) := by
  cases accessible : buffer.checkAccessible arena with
  | ok _ => rw [getBytes, guard_eq_ok accessible within]
  | error error =>
      have checked : buffer.bounds = .checked := by
        unfold checkAccessible at accessible
        split at accessible
        · rename_i refused
          exact refused.1
        · cases accessible
      rw [getBytes, guard, checked, accessible]
      rfl

/-- Once its arena has been freed, a buffer reads what it read before, or it refuses to. -/
theorem getBytes_of_freed (akin : one.Akin another) (within : index + length ≤ one.capacity)
    (alsoWithin : index + length ≤ another.capacity) :
    another.getBytes ⟨arena.region, true⟩ index length = one.getBytes arena index length ∨
      ∃ place, another.getBytes ⟨arena.region, true⟩ index length =
        .error (.useAfterFree place) := by
  rw [getBytes_of_within within, getBytes_of_within alsoWithin, akin.offset]
  by_cases refuses : another.bounds = .checked ∧ another.config.checkAccessible
  · refine .inr ⟨if arena.region.isNative then .native else .managed, ?_⟩
    have refused : another.checkAccessible ⟨arena.region, true⟩ =
        .error (.useAfterFree (if arena.region.isNative then .native else .managed)) :=
      if_pos ⟨refuses.1, refuses.2, rfl⟩
    rw [refused]
    rfl
  · have allowed : another.checkAccessible ⟨arena.region, true⟩ = .ok () :=
      checkAccessible_eq_ok.mpr fun refused => refuses ⟨refused.1, refused.2.1⟩
    have allowedBefore : one.checkAccessible arena = .ok () := by
      rw [akin.bounds, akin.config] at refuses
      exact checkAccessible_eq_ok.mpr fun refused => refuses ⟨refused.1, refused.2.1⟩
    rw [allowed, allowedBefore]
    exact .inl rfl

end Buffer

variable {store after : Store} {command : Command} {id other named : BufferId}
variable {buffer window later : Buffer} {index position : Nat} {data : Bytes}

/-- A command rests, ends a buffer, writes, or changes a capacity. -/
theorem Command.rests_or (command : Command) :
    command.Rests ∨ command.Ends ∨ command.IsWrite ∨
      (∃ id length, command = .onBuffer id (.ensureWritable length)) ∨
      ∃ id capacity, command = .onBuffer id (.setCapacity capacity) := by
  cases command with
  | onBuffer id request =>
      cases request with
      | setScalar order index value => exact .inr (.inr (.inl trivial))
      | setBytes index data => exact .inr (.inr (.inl trivial))
      | writeScalar order value => exact .inr (.inr (.inl trivial))
      | writeBytes data => exact .inr (.inr (.inl trivial))
      | ensureWritable length => exact .inr (.inr (.inr (.inl ⟨_, _, rfl⟩)))
      | setCapacity capacity => exact .inr (.inr (.inr (.inr ⟨_, _, rfl⟩)))
      | _ => exact .inl trivial
  | transfer id other request length => exact .inr (.inr (.inl trivial))
  | release id => exact .inr (.inl trivial)
  | drop id => exact .inr (.inl trivial)
  | _ => exact .inl trivial

namespace Store

/-- The place in the arena is in the range that the command writes, and it goes through. -/
def Overwrites (store : Store) (command : Command) (arena : ArenaId) (place : Nat) : Prop :=
  ∃ id index data buffer answer, store.Writes command id index data ∧
    (store.run command).1 = .ok answer ∧ store.buffers.get? id = some buffer ∧
    buffer.arena = arena ∧ buffer.offset + index ≤ place ∧
    place < buffer.offset + index + data.size

/-- A buffer keeps its place as long as it lives. -/
theorem akin_run (live : store.buffers.get? named = some window)
    (stays : (store.run command).2.buffers.get? named = some later) : window.Akin later := by
  obtain ⟨earlier, was, akin⟩ := steps_run.older (Table.lt_next_of_get? live) stays
  cases live.symm.trans was
  exact akin

theorem after_setCapacity (store : Store) {capacity : Nat} :
    (store.run (.onBuffer id (.setCapacity capacity))).2 = store ∨
      ∃ buffer region, store.buffers.get? id = some buffer ∧
        store.resized buffer capacity = .ok region ∧
        (store.run (.onBuffer id (.setCapacity capacity))).2 =
          store.refitted id buffer capacity region := by
  have done : (store.run (.onBuffer id (.setCapacity capacity))).2 =
      (Action.runOn (Action.setCapacity id capacity) store).2 := by
    change (Action.runOn (Action.setCapacity id capacity >>= _) store).2 = _
    rw [Action.after_bind_pure]
  rw [done]
  cases live : store.buffers.get? id with
  | none => exact .inl (by rw [Action.setCapacity, Action.runOn_bind_buffer_none live])
  | some buffer =>
      rw [Action.runOn_setCapacity live]
      cases buffer.checkNewCapacity capacity with
      | error error => exact .inl rfl
      | ok _ =>
          cases buffer.checkAccessible (store.arena buffer.arena) with
          | error error => exact .inl rfl
          | ok _ =>
              cases resized : store.resized buffer capacity with
              | error error => exact .inl rfl
              | ok region =>
                  exact .inr ⟨buffer, region, rfl, resized, rfl⟩

namespace Written

variable {between : Store} {taker : Buffer} {region : Region}

theorem freed (written : Written store between after id index data taker region)
    {arena : ArenaId} : (after.arena arena).freed = (store.arena arena).freed := by
  rw [Store.arena, written.arenas, ← Store.arena, freed_setRegion, written.room.freed]

/-- A place that the command spares is outside of what is written. -/
theorem bytes_outside {answer : Answer} {arena : ArenaId} {place : Nat}
    (written : Written store between after id index data taker region)
    (range : store.Writes command id index data) (went : (store.run command).1 = .ok answer)
    (spared : ¬ store.Overwrites command arena place) :
    (after.arena arena).region.bytes[place]? = (between.arena arena).region.bytes[place]? := by
  rw [Store.arena, written.arenas, ← Store.arena]
  rcases between.region_setRegion_cases with kept | ⟨here, set⟩
  · rw [kept]
  · obtain ⟨within, rfl⟩ := Region.within_of_write written.written
    obtain ⟨buffer, was, akin, _⟩ := written.room.earlier written.takes
    have outside : ¬ (taker.offset + index ≤ place ∧
        place < taker.offset + index + data.size) := by
      rintro ⟨start, stop⟩
      rw [akin.offset] at start stop
      exact spared ⟨id, index, data, buffer, answer, range, went, was,
        akin.arena.symm.trans here.symm, start, stop⟩
    rw [set, here, Region.bytes_withBytes, Bytes.getElem?_splice within, if_neg outside]

theorem bytes_inside (written : Written store between after id index data taker region)
    {place : Nat} (start : taker.offset + index ≤ place)
    (stop : place < taker.offset + index + data.size) :
    (after.arena taker.arena).region.bytes[place]? = data[place - (taker.offset + index)]? := by
  have stored : (between.arenas.get? taker.arena).isSome := by
    cases absent : between.arenas.get? taker.arena with
    | some arena => rfl
    | none =>
        -- What stands for an arena that does not exist has no room for a byte.
        obtain ⟨within, _⟩ := Region.within_of_write written.written
        simp only [Store.arena, absent] at within
        have nothing : taker.offset + index + data.size ≤ 0 := within
        omega
  rw [Store.arena, written.arenas, ← Store.arena, region_setRegion_of_stored stored]
  obtain ⟨within, rfl⟩ := Region.within_of_write written.written
  rw [Region.bytes_withBytes, Bytes.getElem?_splice within, if_pos ⟨start, stop⟩]

end Written

/-- A buffer shows what it showed, wherever nothing is written. -/
theorem Reachable.byte_run (reachable : store.Reachable)
    (live : store.buffers.get? named = some window)
    (stays : (store.run command).2.buffers.get? named = some later)
    (inside : position < window.capacity) (stillInside : position < later.capacity)
    (spared : ¬ store.Overwrites command window.arena (window.offset + position)) :
    ((store.run command).2.arena window.arena).region.bytes[window.offset + position]? =
      (store.arena window.arena).region.bytes[window.offset + position]? := by
  rcases command.rests_or with rests | ends | writes | ⟨id, length, rfl⟩ | ⟨id, capacity, rfl⟩
  · rw [reachable.arena_run rests live]
  · rcases endsIn_run ends with kept | freed
    · rw [kept]
    · rw [freed]
  · rcases ran : store.run command with ⟨failure | answer, after⟩
    · obtain ⟨id, room⟩ := reachable.roomed_of_failed writes ran
      exact room.shown live inside
    · obtain ⟨id, index, data, between, taker, region, range, written⟩ :=
        reachable.written writes ran
      rw [written.bytes_outside range (by rw [ran]) spared, written.room.shown live inside]
  · rw [after_ensureWritable]
    exact reachable.roomed.shown live inside
  · rcases after_setCapacity store with kept | ⟨buffer, region, was, resized, done⟩
    · rw [kept]
    · rw [done] at stays ⊢
      refine reachable.covered.byte_fitted was resized live (Nat.add_lt_add_left inside _) ?_
      rintro rfl
      rw [get?_refitted was, if_pos rfl, Option.some.injEq] at stays
      subst stays
      exact Nat.add_lt_add_left stillInside _

theorem Reachable.freed_run (reachable : store.Reachable) (lasting : ¬ command.Ends)
    (live : store.buffers.get? named = some window) :
    ((store.run command).2.arena window.arena).freed = (store.arena window.arena).freed := by
  rcases command.rests_or with rests | ends | writes | ⟨id, length, rfl⟩ | ⟨id, capacity, rfl⟩
  · rw [reachable.arena_run rests live]
  · exact absurd ends lasting
  · rcases ran : store.run command with ⟨failure | answer, after⟩
    · obtain ⟨id, room⟩ := reachable.roomed_of_failed writes ran
      exact room.freed
    · obtain ⟨_, _, _, _, _, _, _, written⟩ := reachable.written writes ran
      exact written.freed
  · rw [after_ensureWritable]
    exact reachable.roomed.freed
  · rcases after_setCapacity store with kept | ⟨buffer, region, was, resized, done⟩
    · rw [kept]
    · rw [done, arena_refitted, freed_setRegion]

/-- A buffer that shows the same byte as before, in an arena that was not freed since, answers a
read of it as before. -/
theorem Reachable.run_getByte_of_lasting (reachable : store.Reachable) (lasting : ¬ command.Ends)
    (live : store.buffers.get? named = some window)
    (stays : (store.run command).2.buffers.get? named = some later)
    (inside : position < window.capacity) (stillInside : position < later.capacity)
    (spared : ¬ store.Overwrites command window.arena (window.offset + position)) :
    ((store.run command).2.run (.onBuffer named (.getBytes position 1))).1 =
      (store.run (.onBuffer named (.getBytes position 1))).1 := by
  have akin : window.Akin later := akin_run live stays
  have known : window.arena < store.arenas.next := reachable.wellHeld.known live
  have covers : window.offset + window.capacity ≤ _ := reachable.covered.covers live
  have laterCovers : later.offset + later.capacity ≤ _ := reachable.run.covered.covers stays
  rw [akin.arena] at laterCovers
  rw [run_getBytes live, run_getBytes stays, akin.arena]
  congr 2
  refine Buffer.getBytes_congr akin.bounds akin.config (reachable.freed_run lasting live)
    (steps_run.backend known) (by rw [akin.offset]) inside stillInside covers laterCovers
    fun place start stop => ?_
  obtain rfl : place = window.offset + position := Nat.le_antisymm (Nat.le_of_lt_succ stop) start
  exact reachable.byte_run live stays inside stillInside spared

/-- In an arena that has been freed a buffer reads what it read before, or it refuses to. -/
theorem EndsIn.run_getByte (ended : store.EndsIn after window.arena)
    (live : store.buffers.get? named = some window)
    (stays : after.buffers.get? named = some later) (akin : window.Akin later)
    (inside : position < window.capacity) (stillInside : position < later.capacity) :
    (after.run (.onBuffer named (.getBytes position 1))).1 =
        (store.run (.onBuffer named (.getBytes position 1))).1 ∨
      ∃ place, (after.run (.onBuffer named (.getBytes position 1))).1 =
        .error (.memory (.useAfterFree place)) := by
  have within : position + 1 ≤ window.capacity := inside
  have alsoWithin : position + 1 ≤ later.capacity := stillInside
  rw [run_getBytes live, run_getBytes stays, akin.arena]
  rcases ended with kept | freed
  · have accessible : later.checkAccessible (store.arena window.arena) =
        window.checkAccessible (store.arena window.arena) := by
      rw [Buffer.checkAccessible, akin.bounds, akin.config, Buffer.checkAccessible]
    rw [kept, Buffer.getBytes_of_within within, Buffer.getBytes_of_within alsoWithin, accessible,
      akin.offset]
    exact .inl rfl
  · rw [freed]
    rcases Buffer.getBytes_of_freed akin within alsoWithin with same | ⟨place, refused⟩
    · exact .inl (by rw [same])
    · exact .inr ⟨place, by rw [refused]; rfl⟩

/-- Who is on the arena of a write shows what was written, where it was written. -/
theorem Reachable.run_getByte_of_written (reachable : store.Reachable) {answer : Answer}
    (writes : store.Writes command id index data) (went : (store.run command).1 = .ok answer)
    (live : store.buffers.get? id = some buffer)
    (also : store.buffers.get? named = some window)
    (stays : (store.run command).2.buffers.get? named = some later)
    (related : window.origin = buffer.origin) (inside : position < later.capacity)
    (start : buffer.offset + index ≤ window.offset + position)
    (stop : window.offset + position < buffer.offset + index + data.size) :
    ((store.run command).2.run (.onBuffer named (.getBytes position 1))).1 =
      .ok (.bytes (data.slice (window.offset + position - (buffer.offset + index)) 1)) := by
  obtain ⟨_, _, _, between, taker, region, range, written⟩ :=
    reachable.written writes.isWrite (Prod.ext went rfl)
  obtain ⟨rfl, rfl, rfl⟩ := range.unique writes
  obtain ⟨_, was, taken, _⟩ := written.room.earlier written.takes
  cases live.symm.trans was
  obtain ⟨arena, bounds, config⟩ := reachable.kin.alike live also related
  have akin : window.Akin later := akin_run also stays
  have here : later.arena = taker.arena := by rw [akin.arena, arena, taken.arena]
  have accessible : later.checkAccessible ((store.run command).2.arena taker.arena) = .ok () := by
    have allowed := Buffer.checkAccessible_of_guard written.guarded
    rw [Buffer.checkAccessible_eq_ok] at allowed ⊢
    rw [taken.bounds, taken.config, written.room.freed] at allowed
    rwa [akin.bounds, akin.config, bounds, config, written.freed]
  have covers : later.offset + later.capacity ≤ _ := reachable.run.covered.covers stays
  rw [here] at covers
  rw [akin.offset] at covers
  rw [← taken.offset] at start stop ⊢
  have stored : window.offset + position + 1 ≤
      ((store.run command).2.arena taker.arena).region.size := by omega
  have byte : window.offset + position - (taker.offset + index) < data.size := by omega
  rw [run_getBytes stays, here, Buffer.getBytes_of_within (Nat.succ_le_of_lt inside), accessible,
    akin.offset]
  change ((((store.run command).2.arena taker.arena).region.read _ 1).mapError
    Failure.memory).map _ = _
  rw [Region.read_eq_ok stored, Bytes.slice_one_congr stored byte (written.bytes_inside start stop)]
  rfl

theorem Reachable.live_of_writes (reachable : store.Reachable) {answer : Answer}
    (writes : store.Writes command id index data) (went : (store.run command).1 = .ok answer) :
    ∃ buffer, store.buffers.get? id = some buffer := by
  obtain ⟨_, _, _, between, taker, region, range, written⟩ :=
    reachable.written writes.isWrite (Prod.ext went rfl)
  obtain ⟨rfl, _⟩ := range.unique writes
  obtain ⟨buffer, live, _⟩ := written.room.earlier written.takes
  exact ⟨buffer, live⟩

end Store

/-- The buffers of one creation are windows on common bytes. -/
structure Coherent (commands : List Command) (store : Store) : Prop where
  /-- A live buffer comes from one creation, and has one base there. -/
  based : ∀ {id buffer}, store.buffers.get? id = some buffer →
    ∃ root base, ∀ other place, Descent commands id other place ↔ other = root ∧ place = base
  /-- Where two buffers overlap, they show the same byte. -/
  alike : ∀ {first second one another root base otherBase index otherIndex},
    store.buffers.get? first = some one → store.buffers.get? second = some another →
    Descent commands first root base → Descent commands second root otherBase →
    base + index = otherBase + otherIndex → index < one.capacity →
    otherIndex < another.capacity →
      (store.run (.onBuffer first (.getBytes index 1))).1 =
        (store.run (.onBuffer second (.getBytes otherIndex 1))).1
  /-- An operation that writes and goes through has written one range. -/
  ranged : ∀ {command answer}, Command.IsWrite command → (store.run command).1 = .ok answer →
    ∃ id index data, store.Writes command id index data
  /-- In that range every buffer shows what was written. -/
  written : ∀ {command id index data answer other later root base otherBase position},
    store.Writes command id index data → (store.run command).1 = .ok answer →
    (store.run command).2.buffers.get? other = some later →
    Descent commands id root base → Descent commands other root otherBase →
    position < later.capacity → base + index ≤ otherBase + position →
    otherBase + position < base + index + data.size →
      ((store.run command).2.run (.onBuffer other (.getBytes position 1))).1 =
        .ok (.bytes (data.slice (otherBase + position - (base + index)) 1))
  /-- Elsewhere, and whatever else is done, every buffer shows what it showed, unless a buffer has
  ended and its arena has been freed with it. -/
  kept : ∀ {command other window later root base position},
    store.buffers.get? other = some window →
    (store.run command).2.buffers.get? other = some later →
    Descent commands other root base → position < window.capacity → position < later.capacity →
    (∀ id index data answer start, store.Writes command id index data →
      (store.run command).1 = .ok answer → Descent commands id root start →
      base + position < start + index ∨ start + index + data.size ≤ base + position) →
      ((store.run command).2.run (.onBuffer other (.getBytes position 1))).1 =
          (store.run (.onBuffer other (.getBytes position 1))).1 ∨
        Command.Ends command ∧ ∃ place,
          ((store.run command).2.run (.onBuffer other (.getBytes position 1))).1 =
            .error (.memory (.useAfterFree place))

/-- In every run the buffers of one creation are windows on common bytes. -/
theorem coherent_after {commands : List Command} :
    Coherent commands (Store.initial.after commands) := by
  have reachable : (Store.initial.after commands).Reachable := ⟨commands, rfl⟩
  have kin := reachable.kin
  constructor
  case based =>
    intro id buffer live
    exact ⟨buffer.origin, buffer.offset, fun _ _ => Descent.iff_offset live⟩
  case alike =>
    intro first second one another root base otherBase index otherIndex live also descent
      otherDescent place inside otherInside
    obtain ⟨origin, rfl⟩ := descent.eq_offset live
    obtain ⟨otherOrigin, rfl⟩ := otherDescent.eq_offset also
    obtain ⟨arena, bounds, config⟩ := kin.alike live also (otherOrigin.symm.trans origin)
    exact (reachable.covered.run_getBytes_eq live also arena bounds config place.symm inside
      otherInside).symm
  case ranged =>
    intro command answer writes went
    obtain ⟨id, index, data, _, _, _, range, _⟩ := reachable.written writes (Prod.ext went rfl)
    exact ⟨id, index, data, range⟩
  case written =>
    intro command id index data answer other later root base otherBase position writes went stays
      descent otherDescent inside start stop
    obtain ⟨buffer, live⟩ := reachable.live_of_writes writes went
    obtain ⟨window, also, akin⟩ := Store.steps_run.older otherDescent.lt_next stays
    obtain ⟨rfl, rfl⟩ := descent.eq_offset live
    obtain ⟨origin, rfl⟩ := otherDescent.eq_offset also
    exact reachable.run_getByte_of_written writes went live also stays origin.symm inside start
      stop
  case kept =>
    intro command other window later root base position live stays descent inside stillInside
      spared
    obtain ⟨rfl, rfl⟩ := descent.eq_offset live
    have elsewhere : ¬ (Store.initial.after commands).Overwrites command window.arena
        (window.offset + position) := by
      rintro ⟨id, index, data, buffer, answer, writes, went, also, shared, start, stop⟩
      have origin := (reachable.wellHeld.family also live shared).1
      have outside := spared id index data answer buffer.offset writes went
        (origin ▸ Descent.of_live also)
      omega
    by_cases ends : command.Ends
    · rcases (Store.endsIn_run ends).run_getByte live stays (Store.akin_run live stays) inside
        stillInside with same | refused
      · exact .inl same
      · exact .inr ⟨ends, refused⟩
    · exact .inl (reachable.run_getByte_of_lasting ends live stays inside stillInside elsewhere)

/-- A slice of a slice begins at byte six, where it shows what the first buffer is given there. -/
example : ((Store.initial.after [.allocate (.plain {}) { capacity := 16 },
    .onBuffer 0 (.sliceRange 4 8), .onBuffer 1 (.sliceRange 2 4),
    .onBuffer 0 (.setBytes 5 #[1, 2, 3])]).run (.onBuffer 2 (.getBytes 0 1))).1 =
      .ok (.bytes #[2]) := by
  decide +kernel

end CursorBuffers
