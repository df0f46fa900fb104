import CursorBuffers.Proofs.Transfers
import CursorBuffers.Store.Report

namespace CursorBuffers

/-- A live buffer that is checked, also against the use of a freed arena, and whose arena is
freed. -/
structure Store.Stale (store : Store) (id : BufferId) (buffer : Buffer) : Prop where
  live : store.buffers.get? id = some buffer
  checked : buffer.bounds = .checked
  asks : buffer.config.checkAccessible = true
  freed : store.isFreed buffer = true

namespace Buffer

/-- The error of an access to a freed arena. -/
def staleError (arena : Arena) : MemoryError :=
  .useAfterFree (if arena.region.isNative then .native else .managed)

/-- The error of a read from a freed arena: that there is too little to read comes first. -/
def staleReadError (buffer : Buffer) (arena : Arena) (length : Nat) : MemoryError :=
  if length ≤ buffer.readableBytes then staleError arena
  else .outOfRange (.unreadable length (buffer.summary arena))

/-- The error of a write to a freed arena: that there is no room to be had comes first. -/
def staleWriteError (buffer : Buffer) (arena : Arena) (length : Nat) : MemoryError :=
  if length ≤ buffer.maxWritableBytes then staleError arena
  else .capacityExceeded (buffer.writerIndex + length) buffer.maxCapacity

end Buffer

open Buffer in
/-- The error with which an operation on a buffer fails that needs its arena, if that is freed. -/
def BufferCommand.staleError? (buffer : Buffer) (arena : Arena) :
    BufferCommand → Option MemoryError
  | .getScalar _ _ _ => some (staleError arena)
  | .setScalar _ _ _ => some (staleError arena)
  | .readScalar kind _ => some (buffer.staleReadError arena kind.width.bytes)
  | .writeScalar _ value => some (buffer.staleWriteError arena value.kind.width.bytes)
  | .getBytes _ _ => some (staleError arena)
  | .setBytes _ _ => some (staleError arena)
  | .readBytes length => some (buffer.staleReadError arena length)
  | .writeBytes data =>
      some (if data.size ≤ Bytes.lengthLimit then buffer.staleWriteError arena data.size
        else .outOfRange (.tooLong data.size))
  | .toBytes => some (staleError arena)
  | .hexDump _ => some (staleError arena)
  | .setCapacity capacity =>
      some (if capacity ≤ buffer.maxCapacity then staleError arena
        else .illegalArgument (.newCapacity capacity buffer.maxCapacity))
  | .copy => some (staleError arena)
  | .copyRange _ _ => some (staleError arena)
  | .slice => some (staleError arena)
  | .sliceRange _ _ => some (staleError arena)
  | .duplicate => some (staleError arena)
  | _ => none

variable {store after : Store} {id other : BufferId} {buffer : Buffer}
variable {index otherIndex length capacity : Nat}

open Buffer CursorBuffers.Action

namespace Action

variable {α β : Type} {action : Action α} {next : α → Action β}

theorem runOn_bind_of_error {failure : Failure}
    (failed : runOn action store = (.error failure, after)) :
    runOn (action >>= next) store = (.error failure, after) := by
  rw [runOn_bind, failed]

theorem runOn_inspect_of_error {question : Buffer → Arena → Except MemoryError α}
    {error : MemoryError} (live : store.buffers.get? id = some buffer)
    (denied : question buffer (store.arena buffer.arena) = .error error) :
    runOn (inspect id question) store = (.error (.memory error), store) := by
  rw [runOn_inspect live, denied]
  rfl

theorem runOn_overwrite_of_error {rule : Buffer → Arena → Except MemoryError Region}
    {error : MemoryError} (live : store.buffers.get? id = some buffer)
    (denied : rule buffer (store.arena buffer.arena) = .error error) :
    runOn (overwrite id rule) store = (.error (.memory error), store) := by
  rw [runOn_overwrite live, denied]

end Action

namespace Store.Stale

theorem checkAccessible (stale : store.Stale id buffer) :
    buffer.checkAccessible (store.arena buffer.arena) =
      .error (staleError (store.arena buffer.arena)) :=
  if_pos ⟨stale.checked, stale.asks, stale.freed⟩

theorem guard (stale : store.Stale id buffer) :
    buffer.guard (store.arena buffer.arena) index length =
      .error (staleError (store.arena buffer.arena)) := by
  rw [Buffer.guard, stale.checked, stale.checkAccessible]
  rfl

theorem getBytes (stale : store.Stale id buffer) :
    buffer.getBytes (store.arena buffer.arena) index length =
      .error (staleError (store.arena buffer.arena)) := by
  rw [Buffer.getBytes, stale.guard]
  rfl

theorem setBytes (stale : store.Stale id buffer) {data : Bytes} :
    buffer.setBytes (store.arena buffer.arena) index data =
      .error (staleError (store.arena buffer.arena)) := by
  rw [Buffer.setBytes, stale.guard]
  rfl

theorem getScalar (stale : store.Stale id buffer) {kind : ScalarKind} {order : ByteOrder} :
    buffer.getScalar (store.arena buffer.arena) kind order index =
      .error (staleError (store.arena buffer.arena)) := by
  rw [Buffer.getScalar, stale.guard]
  rfl

theorem setScalar (stale : store.Stale id buffer) {order : ByteOrder} {value : Scalar} :
    buffer.setScalar (store.arena buffer.arena) order index value =
      .error (staleError (store.arena buffer.arena)) := by
  rw [Buffer.setScalar, stale.guard]
  rfl

theorem setCapacity (stale : store.Stale id buffer) :
    runOn (Action.setCapacity id capacity) store =
      (.error (.memory (if capacity ≤ buffer.maxCapacity then
        staleError (store.arena buffer.arena)
        else .illegalArgument (.newCapacity capacity buffer.maxCapacity))), store) := by
  rw [runOn_setCapacity stale.live, Buffer.checkNewCapacity]
  by_cases allowed : capacity ≤ buffer.maxCapacity
  · rw [if_pos allowed, if_pos allowed, stale.checkAccessible]
    rfl
  · rw [if_neg allowed, if_neg allowed]
    rfl

/-- A buffer on a freed arena does not grow. -/
theorem ensureWritable (stale : store.Stale id buffer) (ordered : buffer.Ordered) :
    runOn (Action.ensureWritable id length) store =
      (if length ≤ buffer.writableBytes then .ok ()
        else .error (.memory (buffer.staleWriteError (store.arena buffer.arena) length)),
        store) := by
  rw [runOn_ensureWritable stale.live]
  by_cases enough : length ≤ buffer.writableBytes
  · rw [if_neg (Nat.not_lt.mpr enough), if_pos enough]
  · rw [if_pos (Nat.lt_of_not_le enough), if_neg enough, Buffer.grownCapacity,
      Buffer.staleWriteError]
    by_cases possible : length ≤ buffer.maxWritableBytes
    · have fits : buffer.writerIndex + length ≤ buffer.maxCapacity := by
        obtain ⟨_, writer, capacity⟩ := ordered
        simp only [Buffer.maxWritableBytes] at possible
        omega
      obtain ⟨capacity, chosen⟩ := Growth.exists_capacityFor fits
      rw [if_neg (Nat.not_lt.mpr possible), if_pos possible, chosen]
      simp only
      rw [stale.setCapacity, if_pos (Growth.le_maximum_of_capacityFor chosen)]
    · rw [if_pos (Nat.lt_of_not_le possible), if_neg possible]

/-- What makes room for some bytes and then is denied fails as a write does. -/
theorem append (stale : store.Stale id buffer) (ordered : buffer.Ordered) {next : Action Unit}
    (denied : runOn next store =
      (.error (.memory (staleError (store.arena buffer.arena))), store)) :
    runOn (Action.ensureWritable id length >>= fun _ => next) store =
      (.error (.memory (buffer.staleWriteError (store.arena buffer.arena) length)), store) := by
  rw [runOn_bind, stale.ensureWritable ordered]
  by_cases enough : length ≤ buffer.writableBytes
  · have possible : length ≤ buffer.maxWritableBytes :=
      Nat.le_trans enough (Nat.sub_le_sub_right ordered.capacity _)
    rw [if_pos enough, Buffer.staleWriteError, if_pos possible]
    exact denied
  · rw [if_neg enough]

/-- What looks for enough bytes to read and then is denied fails as a read does. -/
theorem consume {α : Type} (stale : store.Stale id buffer) {next : Action α}
    (denied : runOn next store =
      (.error (.memory (staleError (store.arena buffer.arena))), store)) :
    runOn (Action.checkReadable id length >>= fun _ => next) store =
      (.error (.memory (buffer.staleReadError (store.arena buffer.arena) length)), store) := by
  rw [runOn_bind, Action.checkReadable, runOn_inspect stale.live, Buffer.checkReadable,
    Buffer.staleReadError]
  by_cases enough : length ≤ buffer.readableBytes
  · rw [if_pos enough, if_pos enough]
    exact denied
  · rw [if_neg enough, if_neg enough]
    rfl

/-- An operation that needs a freed arena fails, and changes nothing. -/
theorem refused (stale : store.Stale id buffer) (ordered : buffer.Ordered)
    {request : BufferCommand} {error : MemoryError}
    (needs : request.staleError? buffer (store.arena buffer.arena) = some error) :
    store.run (.onBuffer id request) = (.error (.memory error), store) := by
  change runOn (request.perform id) store = _
  have copied : ∀ {index length}, runOn (Action.copyRange id index length) store =
      (.error (.memory (staleError (store.arena buffer.arena))), store) := by
    intro index length
    rw [Action.copyRange, runOn_bind, runOn_buffer stale.live]
    simp only
    rw [runOn_bind, runOn_get]
    simp only
    rw [runOn_bind, runOn_check, stale.getBytes]
    rfl
  have sliced : ∀ {index length}, runOn (Action.sliceRange id index length) store =
      (.error (.memory (staleError (store.arena buffer.arena))), store) := by
    intro index length
    exact runOn_bind_of_error (runOn_inspect_of_error stale.live stale.checkAccessible)
  cases request with
  | getScalar kind order index =>
      cases needs
      exact runOn_bind_of_error (runOn_inspect_of_error stale.live stale.getScalar)
  | setScalar order index value =>
      cases needs
      exact runOn_bind_of_error (runOn_overwrite_of_error stale.live stale.setScalar)
  | readScalar kind order =>
      cases needs
      refine runOn_bind_of_error (stale.consume ?_)
      rw [runOn_bind, runOn_readerIndex stale.live]
      exact runOn_bind_of_error (runOn_inspect_of_error stale.live stale.getScalar)
  | writeScalar order value =>
      cases needs
      refine runOn_bind_of_error (stale.append ordered ?_)
      rw [runOn_bind, runOn_writerIndex stale.live]
      exact runOn_bind_of_error (runOn_overwrite_of_error stale.live stale.setScalar)
  | getBytes index length =>
      cases needs
      exact runOn_bind_of_error (runOn_inspect_of_error stale.live stale.getBytes)
  | setBytes index data =>
      cases needs
      exact runOn_bind_of_error (runOn_overwrite_of_error stale.live stale.setBytes)
  | readBytes length =>
      cases needs
      refine runOn_bind_of_error (stale.consume ?_)
      rw [runOn_bind, runOn_readerIndex stale.live]
      exact runOn_bind_of_error (runOn_inspect_of_error stale.live stale.getBytes)
  | writeBytes data =>
      cases needs
      refine runOn_bind_of_error ?_
      rw [Action.writeBytes, runOn_bind, runOn_check, Bytes.checkLength]
      by_cases short : data.size ≤ Bytes.lengthLimit
      · rw [if_pos short, if_pos short]
        refine stale.append ordered ?_
        rw [runOn_bind, runOn_writerIndex stale.live]
        exact runOn_bind_of_error (runOn_overwrite_of_error stale.live stale.setBytes)
      · rw [if_neg short, if_neg short]
        rfl
  | toBytes =>
      cases needs
      exact runOn_bind_of_error (runOn_inspect_of_error stale.live stale.getBytes)
  | hexDump =>
      cases needs
      refine runOn_bind_of_error (runOn_bind_of_error ?_)
      exact runOn_inspect_of_error stale.live stale.getBytes
  | setCapacity capacity =>
      cases needs
      exact runOn_bind_of_error stale.setCapacity
  | copy =>
      cases needs
      refine runOn_bind_of_error ?_
      rw [Action.copy, runOn_bind, runOn_buffer stale.live]
      exact copied
  | copyRange index length =>
      cases needs
      exact runOn_bind_of_error copied
  | slice =>
      cases needs
      refine runOn_bind_of_error ?_
      rw [Action.slice, runOn_bind, runOn_buffer stale.live]
      exact sliced
  | sliceRange index length =>
      cases needs
      exact runOn_bind_of_error sliced
  | duplicate =>
      cases needs
      refine runOn_bind_of_error (runOn_bind_of_error ?_)
      exact runOn_inspect_of_error stale.live stale.checkAccessible
  | _ => cases needs

end Store.Stale

/-- Both buffers are there, and one of them is on a freed arena that it asks about. -/
structure Store.Barred (store : Store) (id other : BufferId) : Prop where
  first : ∃ buffer, store.buffers.get? id = some buffer
  second : ∃ buffer, store.buffers.get? other = some buffer
  stale : ∃ named buffer, (named = id ∨ named = other) ∧ store.Stale named buffer

namespace Store.Barred

/-- That room is made changes nothing about it. -/
theorem room (barred : store.Barred id other)
    (ordered : ∀ {named buffer}, store.buffers.get? named = some buffer → buffer.Ordered)
    {taker : BufferId}
    (made : runOn (Action.ensureWritable taker length) store = (.ok (), after)) :
    after.Barred id other := by
  have stays : ∀ {named}, (∃ buffer, store.buffers.get? named = some buffer) →
      ∃ buffer, after.buffers.get? named = some buffer := by
    rintro named ⟨buffer, live⟩
    obtain ⟨later, found, _⟩ := cursors_of_room ordered made live
    exact ⟨later, found⟩
  obtain ⟨first, second, named, buffer, involved, stale⟩ := barred
  obtain ⟨later, found, akin, _⟩ := cursors_of_room ordered made stale.live
  refine ⟨stays first, stays second, named, later, involved, found,
    akin.bounds.trans stale.checked, ?_, ?_⟩
  · rw [akin.config]
    exact stale.asks
  · obtain ⟨target, _, live, _⟩ := runOn_ensureWritable_eq_ok made
    have outcome : RoomMade store taker target length _ := roomMade live
    rw [made] at outcome
    have freed := stale.freed
    rw [isFreed] at freed ⊢
    rw [akin.arena]
    cases outcome with
    | ample enough => exact freed
    | grown short larger needed allowed resized => rwa [arena_refitted, freed_setRegion]

end Store.Barred

namespace Action

variable {α β : Type} {action : Action α} {next : α → Action β}

/-- The operation fails for a reason of the memory, and not because it named what is not there. -/
def Refused (action : Action α) (store : Store) : Prop :=
  ∃ error, (runOn action store).1 = .error (.memory error)

theorem Refused.bind (refused : action.Refused store) : (action >>= next).Refused store := by
  obtain ⟨error, failed⟩ := refused
  exact ⟨error, by rw [runOn_bind_of_error (Prod.ext failed rfl)]⟩

theorem refused_bind {value : α} (done : runOn action store = (.ok value, after))
    (refused : (next value).Refused after) : (action >>= next).Refused store := by
  obtain ⟨error, failed⟩ := refused
  exact ⟨error, by rw [runOn_bind, done, failed]⟩

theorem refused_bind_inspect {question : Buffer → Arena → Except MemoryError α}
    (live : store.buffers.get? id = some buffer)
    (rest : ∀ value, question buffer (store.arena buffer.arena) = .ok value →
      (next value).Refused store) : (inspect id question >>= next).Refused store := by
  cases answered : question buffer (store.arena buffer.arena) with
  | error error => exact Refused.bind ⟨error, by rw [runOn_inspect_of_error live answered]⟩
  | ok value =>
      refine refused_bind ?_ (rest value answered)
      rw [runOn_inspect live, answered]
      rfl

theorem refused_bind_room {next : Unit → Action β} (live : store.buffers.get? id = some buffer)
    (rest : ∀ after, runOn (ensureWritable id length) store = (.ok (), after) →
      (next ()).Refused after) : (ensureWritable id length >>= next).Refused store := by
  have outcome : RoomMade store id buffer length _ := roomMade live
  rcases made : runOn (ensureWritable id length) store with ⟨failure | _, after⟩
  · rw [made] at outcome
    cases outcome with
    | refused short reason => exact Refused.bind ⟨_, by rw [made]⟩
  · exact refused_bind made (rest after made)

/-- Where both sides of a copy are checked, the stale one does not pass. -/
theorem refused_guards {next : Unit → Unit → Action β} (barred : store.Barred id other) :
    (Action.guard id index length >>= fun first =>
      Action.guard other otherIndex length >>= fun second => next first second).Refused store := by
  obtain ⟨⟨one, live⟩, ⟨another, also⟩, named, buffer, involved, stale⟩ := barred
  refine refused_bind_inspect live fun _ passed => refused_bind_inspect also fun _ alsoPassed => ?_
  rcases involved with rfl | rfl
  · cases live.symm.trans stale.live
    cases stale.guard.symm.trans passed
  · cases also.symm.trans stale.live
    cases stale.guard.symm.trans alsoPassed

theorem refused_setBytesFrom (barred : store.Barred id other) :
    (setBytesFrom id index other length).Refused store := by
  obtain ⟨source, live⟩ := barred.second
  refine refused_bind_inspect live fun _ _ => refused_bind (runOn_readerIndex live) ?_
  exact (refused_guards barred).bind

theorem refused_getBytesTo
    (ordered : ∀ {named buffer}, store.buffers.get? named = some buffer → buffer.Ordered)
    (barred : store.Barred id other) : (getBytesTo id index other length).Refused store := by
  obtain ⟨target, live⟩ := barred.second
  refine refused_bind_room live fun between made => ?_
  obtain ⟨later, found, _⟩ := cursors_of_room ordered made live
  refine refused_bind (runOn_writerIndex found) ?_
  exact (refused_guards (barred.room ordered made)).bind

end Action

/-- A transfer with a stale buffer on either side fails. -/
theorem TransferCommand.refused {command : TransferCommand}
    (ordered : ∀ {named buffer}, store.buffers.get? named = some buffer → buffer.Ordered)
    (barred : store.Barred id other) : (command.perform id other length).Refused store := by
  cases command with
  | getBytesTo index => exact refused_getBytesTo ordered barred
  | getBytesAt index otherIndex => exact refused_guards barred
  | setBytesFrom index => exact refused_setBytesFrom barred
  | setBytesAt index otherIndex => exact refused_guards barred
  | readBytesTo =>
      obtain ⟨source, live⟩ := barred.first
      refine refused_bind_inspect live fun _ _ => refused_bind (runOn_readerIndex live) ?_
      exact (refused_getBytesTo ordered barred).bind
  | writeBytesFrom =>
      obtain ⟨target, live⟩ := barred.first
      refine refused_bind_room live fun between made => ?_
      obtain ⟨later, found, _⟩ := cursors_of_room ordered made live
      refine refused_bind (runOn_writerIndex found) ?_
      exact (refused_setBytesFrom (barred.room ordered made)).bind

namespace Store

/-- One buffer has been given a larger capacity. No byte of any region has changed; but where nobody
else is on its arena, the region has been cut to that capacity if it was longer. -/
structure Enlarged (store after : Store) (id : BufferId) (buffer : Buffer) (capacity : Nat) :
    Prop extends store.Roomier after id buffer capacity where
  bytes : ∀ {arena place byte}, (store.arena arena).region.bytes[place]? = some byte →
    (arena = buffer.arena → store.isExclusive buffer = true → place < capacity) →
      (after.arena arena).region.bytes[place]? = some byte

theorem bytes_refitted {region : Region} {arena : ArenaId} {place : Nat} {byte : UInt8}
    (resized : store.resized buffer capacity = .ok region)
    (holds : (store.arena arena).region.bytes[place]? = some byte)
    (left : arena = buffer.arena → store.isExclusive buffer = true → place < capacity) :
    ((store.refitted id buffer capacity region).arena arena).region.bytes[place]? = some byte := by
  rw [arena_refitted]
  rcases store.region_setRegion_cases with kept | ⟨here, set⟩
  · rw [kept, holds]
  · subst here
    obtain ⟨stored, _⟩ := Array.getElem?_eq_some_iff.mp holds
    obtain ⟨length, rfl, fits, keeps⟩ := fit_of_resized resized
    have reached : place < length := by
      cases exclusive : store.isExclusive buffer with
      | false => exact Nat.lt_of_lt_of_le stored (keeps exclusive)
      | true =>
          exact Nat.lt_of_lt_of_le (left rfl exclusive)
            (Nat.le_trans (Nat.le_add_left _ _) fits)
    rw [set, Region.bytes_withBytes, Bytes.getElem?_fit, if_pos reached, holds]
    rfl

theorem Reachable.enlarged (reachable : store.Reachable) :
    (runOn (Action.ensureWritable id length) store).2 = store ∨
      ∃ buffer capacity, store.Enlarged (runOn (Action.ensureWritable id length) store).2 id buffer
        capacity := by
  cases live : store.buffers.get? id with
  | none => exact .inl (by rw [Action.ensureWritable, runOn_bind_buffer_none live])
  | some buffer =>
      have made : RoomMade store id buffer length _ := roomMade live
      generalize runOn (Action.ensureWritable id length) store = outcome at made ⊢
      cases made with
      | ample enough => exact .inl rfl
      | refused short reason => exact .inl rfl
      | @grown capacity region short larger needed allowed resized =>
          exact .inr ⟨buffer, capacity, reachable.roomier_refitted live larger allowed resized,
            bytes_refitted resized⟩

/-- What is in store for whoever uses a buffer whose arena is freed. -/
structure Refuses (store : Store) (id : BufferId) (buffer : Buffer) : Prop where
  /-- An operation that needs the arena fails, with its own error, and changes nothing. -/
  single : ∀ {request error},
    BufferCommand.staleError? buffer (store.arena buffer.arena) request = some error →
    store.run (.onBuffer id request) = (.error (.memory error), store)
  /-- A transfer out of it or into it fails. At most the other buffer has grown before, because
  bytes were to be appended to it. -/
  transfer : ∀ {first second command length}, first = id ∨ second = id →
    (store.buffers.get? first).isSome → (store.buffers.get? second).isSome →
    ∃ error after,
      store.run (.transfer first second command length) = (.error (.memory error), after) ∧
      (after = store ∨ command.appends = true ∧ command.target first second ≠ id ∧
        ∃ taker capacity,
          store.Enlarged after (command.target first second) taker capacity)

/-- A checked buffer that asks whether its arena was freed lets nobody use an arena that was. -/
theorem refuses_after_free (reachable : store.Reachable) (stale : store.Stale id buffer) :
    store.Refuses id buffer where
  single needs := stale.refused (reachable.ordered stale.live) needs
  transfer {first second command length} involved live also := by
    have barred : store.Barred first second :=
      ⟨Option.isSome_iff_exists.mp live, Option.isSome_iff_exists.mp also, id, buffer,
        involved.imp Eq.symm Eq.symm, stale⟩
    have refused : (command.perform first second length).Refused store :=
      TransferCommand.refused (fun live => reachable.ordered live) barred
    obtain ⟨error, failed⟩ := refused
    refine ⟨error, _, runOn_bind_of_error (Prod.ext failed rfl), ?_⟩
    rcases TransferCommand.failed (Prod.ext failed rfl) with kept | ⟨appends, room, _⟩
    · exact .inl kept
    · rw [room]
      by_cases target : command.target first second = id
      · rw [target, stale.ensureWritable (reachable.ordered stale.live)]
        exact .inl rfl
      · exact reachable.enlarged.imp_right fun grown => ⟨appends, target, grown⟩

theorem exists_stale (found : ((store.buffers.get? id).any fun buffer =>
      buffer.bounds = .checked && buffer.config.checkAccessible && store.isFreed buffer) = true) :
    ∃ buffer, store.Stale id buffer := by
  cases live : store.buffers.get? id with
  | none => simp [live] at found
  | some buffer =>
      simp only [live, Option.any_some, Bool.and_eq_true, decide_eq_true_eq] at found
      exact ⟨buffer, live, found.1.1, found.1.2, found.2⟩

/-- A buffer is released while a duplicate of it is still there. -/
def releasedWhileDuplicated : List Command :=
  [.allocate (.plain { checkAccessible := true }) { capacity := 8 }, .onBuffer 0 .duplicate,
    .release 0]

/-- The duplicate is refused everything. -/
theorem refuses_released_duplicate : ∃ buffer,
    (initial.after releasedWhileDuplicated).Stale 1 buffer ∧
      (initial.after releasedWhileDuplicated).Refuses 1 buffer := by
  obtain ⟨buffer, stale⟩ : ∃ buffer, (initial.after releasedWhileDuplicated).Stale 1 buffer :=
    exists_stale (by decide +kernel)
  exact ⟨buffer, stale, refuses_after_free ⟨_, rfl⟩ stale⟩

/-- The region of the first buffer is longer than the buffer, because a duplicate of it has grown
and written a byte far behind. The third buffer is a duplicate of one that was released. -/
def releasedBesideLongRegion : List Command :=
  [.allocate (.plain { checkAccessible := true }) { capacity := 8, maxCapacity := 128 },
    .onBuffer 0 .duplicate, .onBuffer 1 (.setCapacity 128), .onBuffer 1 (.setBytes 100 #[170]),
    .drop 1, .allocate (.plain { checkAccessible := true }) { capacity := 16 },
    .onBuffer 2 (.writeBytes #[0, 1, 2, 3, 4, 5, 6, 7, 8, 9]), .onBuffer 2 .duplicate, .release 2]

/-- A transfer that is refused can still cut bytes off a region: the first buffer grows to 64 bytes,
and the byte at 100 is gone, before the third one is found to be on a freed arena. -/
theorem refused_transfer_not_lossless :
    ¬ ∀ (commands : List Command) (id other : BufferId) (buffer : Buffer)
      (command : TransferCommand) (length : Nat) (arena : ArenaId) (place : Nat) (byte : UInt8),
      (initial.after commands).Stale other buffer →
      ((initial.after commands).buffers.get? id).isSome →
      ((initial.after commands).arena arena).region.bytes[place]? = some byte →
      (((initial.after commands).run (.transfer id other command length)).2.arena
        arena).region.bytes[place]? = some byte := by
  intro lossless
  obtain ⟨buffer, stale⟩ : ∃ buffer, (initial.after releasedBesideLongRegion).Stale 3 buffer :=
    exists_stale (by decide +kernel)
  have kept := lossless _ 0 3 buffer .writeBytesFrom 10 0 100 170 stale (by decide +kernel)
    (by decide +kernel)
  revert kept
  decide +kernel

end Store

end CursorBuffers
