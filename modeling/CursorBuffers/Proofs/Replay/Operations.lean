import CursorBuffers.Proofs.Replay.Outcomes

namespace CursorBuffers

namespace Access

variable {access first second third fourth : Access}

/-- The bytes that the access is to. -/
def content (access : Access) : Bytes :=
  access.arena.region.bytes.slice (access.buffer.offset + access.index) access.length

/-- The region in which the access has put other bytes. -/
def written (access : Access) (data : Bytes) : Region :=
  access.arena.region.withBytes
    (access.arena.region.bytes.splice (access.buffer.offset + access.index) data)

theorem reach_one : reach [first] [second] = (do first.guard; second.range) := by
  simp [reach]

theorem reach_two : reach [first, second] [third, fourth] =
    (do first.guard; second.guard; third.range; fourth.range) := by
  simp [reach]

/-- Bytes are read if the access to them passes its checks. -/
theorem getBytes_eq : access.buffer.getBytes access.arena access.index access.length =
    (reach [access] [access]).map fun _ => access.content := by
  rw [reach_one, guard, range, Buffer.getBytes, Region.read]
  cases access.buffer.guard access.arena access.index access.length with
  | error error => rfl
  | ok _ =>
      cases access.arena.region.checkRange (access.buffer.offset + access.index) access.length <;>
        rfl

theorem setBytes_eq {data : Bytes} (whole : access.length = data.size) :
    access.buffer.setBytes access.arena access.index data =
      (reach [access] [access]).map fun _ => access.written data := by
  rw [reach_one, guard, range, Buffer.setBytes, Region.write, ← whole]
  cases access.buffer.guard access.arena access.index access.length with
  | error error => rfl
  | ok _ =>
      cases access.arena.region.checkRange (access.buffer.offset + access.index) access.length <;>
        rfl

/-- Bytes are moved if both ranges are there. -/
theorem move_eq (same : second.length = first.length) :
    (do
      let bytes ← first.arena.region.read (first.buffer.offset + first.index) first.length
      second.arena.region.write (second.buffer.offset + second.index) bytes) =
    (do first.range; second.range : Except MemoryError Unit).map fun _ =>
      second.written first.content := by
  rw [range, range, same, Region.read]
  cases checked : first.arena.region.checkRange (first.buffer.offset + first.index)
      first.length with
  | error error => rfl
  | ok _ =>
      have size : (first.arena.region.bytes.slice (first.buffer.offset + first.index)
          first.length).size = first.length :=
        Bytes.size_slice (Region.checkRange_eq_ok.mp checked)
      simp only [bind, Except.bind, pure, Except.pure, Region.write, size]
      cases second.arena.region.checkRange (second.buffer.offset + second.index) first.length <;>
        rfl

end Access

/-- The store in which bytes have been moved from one place to another. -/
def Store.moved (store : Store) (source target : Access) : Store :=
  store.setRegion target.buffer.arena (target.written source.content)

namespace Replay

variable {α β γ δ : Type} {replay : Replay} {store other : Store} {id : BufferId}

section Rules

/-! The rules for the fields of a buffer. -/

variable {buffer also : Buffer} {index length : Nat} {arena partner : Arena}

theorem Buffers.setReaderIndex (faithful : replay.Faithful) (alike : replay.Buffers buffer also) :
    replay.Results replay.Buffers (buffer.setReaderIndex index) (also.setReaderIndex index) := by
  obtain ⟨tag, setting⟩ := alike
  unfold Buffer.setReaderIndex
  split
  · exact .outOfRange faithful
  · exact .ok (.intro tag setting)

theorem Buffers.setWriterIndex (faithful : replay.Faithful) (alike : replay.Buffers buffer also) :
    replay.Results replay.Buffers (buffer.setWriterIndex index) (also.setWriterIndex index) := by
  obtain ⟨tag, setting⟩ := alike
  unfold Buffer.setWriterIndex
  split
  · exact .outOfRange faithful
  · exact .ok (.intro tag setting)

theorem Buffers.setIndex (faithful : replay.Faithful) (alike : replay.Buffers buffer also)
    {reader writer : Nat} :
    replay.Results replay.Buffers (buffer.setIndex reader writer)
      (also.setIndex reader writer) := by
  obtain ⟨tag, setting⟩ := alike
  unfold Buffer.setIndex
  split
  · exact .outOfRange faithful
  · exact .ok (.intro tag setting)

theorem Buffers.resetReader (faithful : replay.Faithful) (alike : replay.Buffers buffer also) :
    replay.Results replay.Buffers buffer.resetReader also.resetReader := by
  have marked : also.markedReader = buffer.markedReader := by
    cases alike
    rfl
  rw [Buffer.resetReader, Buffer.resetReader, marked]
  exact alike.setReaderIndex faithful

theorem Buffers.resetWriter (faithful : replay.Faithful) (alike : replay.Buffers buffer also) :
    replay.Results replay.Buffers buffer.resetWriter also.resetWriter := by
  have marked : also.markedWriter = buffer.markedWriter := by
    cases alike
    rfl
  rw [Buffer.resetWriter, Buffer.resetWriter, marked]
  exact alike.setWriterIndex faithful

theorem Buffers.readableBytes (alike : replay.Buffers buffer also) :
    also.readableBytes = buffer.readableBytes := by
  cases alike
  rfl

theorem Buffers.checkReadable (faithful : replay.Faithful) (alike : replay.Buffers buffer also) :
    replay.Results Eq (buffer.checkReadable arena length) (also.checkReadable partner length) := by
  rw [Buffer.checkReadable, Buffer.checkReadable, alike.readableBytes]
  split
  · exact .ok rfl
  · exact .outOfRange faithful

theorem Buffers.checkSource (faithful : replay.Faithful) (alike : replay.Buffers buffer also) :
    replay.Results Eq (buffer.checkSource arena length) (also.checkSource partner length) := by
  rw [Buffer.checkSource, Buffer.checkSource, alike.readableBytes]
  split
  · exact .ok rfl
  · exact .outOfRange faithful

theorem Buffers.checkRange (alike : replay.Buffers buffer also) :
    also.checkRange index length = buffer.checkRange index length := by
  cases alike
  rfl

theorem Buffers.checkNewCapacity (alike : replay.Buffers buffer also) :
    also.checkNewCapacity length = buffer.checkNewCapacity length := by
  cases alike
  rfl

theorem Buffers.writableBytes (alike : replay.Buffers buffer also) :
    also.writableBytes = buffer.writableBytes := by
  cases alike
  rfl

theorem Buffers.grownCapacity (alike : replay.Buffers buffer also) :
    also.grownCapacity length = buffer.grownCapacity length := by
  cases alike
  rfl

end Rules

open CursorBuffers.Action

section Access

variable {access also : Access} (accesses : replay.Accesses store other access also)

include accesses

theorem Accesses.place :
    also.buffer.offset + also.index = access.buffer.offset + access.index := by
  rw [accesses.buffer.window.1, accesses.index]

theorem Accesses.content : also.content = access.content := by
  rw [Access.content, Access.content, accesses.place, accesses.length, accesses.arena.region.bytes]

theorem Accesses.written (data : Bytes) :
    replay.Regions (access.written data) (also.written data) := by
  rw [Access.written, Access.written, accesses.place, accesses.arena.region.bytes]
  exact accesses.arena.region.withBytes

theorem Accesses.reach_one (faithful : replay.Faithful) (kept : replay.kept store) :
    replay.Results Eq (Access.reach [access] [access]) (Access.reach [also] [also]) := by
  have member : ∀ pair ∈ [(access, also)], replay.Accesses store other pair.1 pair.2 :=
    fun _ member => List.mem_singleton.mp member ▸ accesses
  exact faithful.reach kept (.refl _) member

end Access

section Single

variable (faithful : replay.Faithful) (stores : replay.Stores store other)
variable {index length capacity : Nat} {data : Bytes}

include faithful stores

theorem Stores.accesses {buffer partner : Buffer} (live : store.buffers.get? id = some buffer)
    (found : other.buffers.get? id = some partner) (alike : replay.Buffers buffer partner) :
    replay.Accesses store other (store.access buffer index length)
      (other.access partner index length) where
  offered := ⟨id, live, rfl⟩
  alsoOffered := ⟨id, found, rfl⟩
  buffer := alike
  arena := by
    cases alike
    exact stores.arena faithful
  index := rfl
  length := rfl

theorem Stores.accessible (kept : replay.kept store) {buffer partner : Buffer}
    (live : store.buffers.get? id = some buffer) (found : other.buffers.get? id = some partner)
    (alike : replay.Buffers buffer partner) :
    replay.Results Eq (buffer.checkAccessible (store.arena buffer.arena))
      (partner.checkAccessible (other.arena partner.arena)) := by
  have accesses : replay.Accesses store other (store.access buffer 0 0)
      (other.access partner 0 0) := stores.accesses faithful live found alike
  exact faithful.accessible kept accesses

theorem Stores.setCapacity (kept : replay.kept store) :
    replay.Outcomes (runOn (setCapacity id capacity) store)
      (runOn (setCapacity id capacity) other) := by
  refine .bind_buffer stores fun buffer also live _ alike => ?_
  rw [alike.checkNewCapacity]
  refine .bind_check stores (.refl faithful.errors) fun _ _ _ _ => ?_
  refine .bind_inspect stores (fun _ _ live found alike =>
    stores.accessible faithful kept live found alike) fun _ _ _ => ?_
  rw [runOn_bind, runOn_get, runOn_bind, runOn_get]
  refine .bind_check stores (stores.resized faithful alike) fun region twin _ regions => ?_
  have growth : replay.Stores ((store.setRegion buffer.arena region).emitGrowth buffer capacity)
      ((other.setRegion also.arena twin).emitGrowth also capacity) := by
    cases alike with
    | intro tag setting => exact (stores.setRegion regions).emitGrowth (.intro tag setting)
  exact .done (growth.mapBuffer fun _ _ _ alike => by
    cases alike with
    | intro tag setting => exact .intro tag setting)

theorem Stores.ensureWritable (kept : replay.kept store) :
    replay.Outcomes (runOn (ensureWritable id length) store)
      (runOn (ensureWritable id length) other) := by
  refine .bind_buffer stores fun buffer also live _ alike => ?_
  rw [alike.writableBytes, alike.grownCapacity]
  split
  · refine .bind_check stores (.refl faithful.errors) fun _ _ _ same => ?_
    subst same
    exact stores.setCapacity faithful kept
  · exact .done stores

theorem Stores.reads (kept : replay.kept store) {buffer partner : Buffer}
    (live : store.buffers.get? id = some buffer) (found : other.buffers.get? id = some partner)
    (alike : replay.Buffers buffer partner) :
    replay.Results Eq (buffer.getBytes (store.arena buffer.arena) index length)
      (partner.getBytes (other.arena partner.arena) index length) := by
  have accesses : replay.Accesses store other (store.access buffer index length)
      (other.access partner index length) := stores.accesses faithful live found alike
  have read := (accesses.reach_one faithful kept).map fun _ _ _ _ => accesses.content.symm
  rwa [← Access.getBytes_eq, ← Access.getBytes_eq] at read

theorem Stores.writes (kept : replay.kept store) {buffer partner : Buffer}
    (live : store.buffers.get? id = some buffer) (found : other.buffers.get? id = some partner)
    (alike : replay.Buffers buffer partner) :
    replay.Results replay.Regions (buffer.setBytes (store.arena buffer.arena) index data)
      (partner.setBytes (other.arena partner.arena) index data) := by
  have accesses : replay.Accesses store other (store.access buffer index data.size)
      (other.access partner index data.size) := stores.accesses faithful live found alike
  have wrote := (accesses.reach_one faithful kept).map fun _ _ _ _ => accesses.written data
  rwa [← Access.setBytes_eq rfl, ← Access.setBytes_eq rfl] at wrote

end Single

theorem Faithful.kept_ensureWritable (faithful : replay.Faithful) (kept : replay.kept store)
    {length : Nat} {outcome : Except Failure Unit} {between : Store}
    (done : runOn (ensureWritable id length) store = (outcome, between)) :
    replay.kept between := by
  have ran : (store.run (.onBuffer id (.ensureWritable length))).2 =
      (runOn (ensureWritable id length) store).2 := after_bind_pure
  have allowed : replay.admits (.onBuffer id (.ensureWritable length)) := faithful.room
  have after := faithful.run kept allowed
  rw [ran, done] at after
  exact after

section Cursors

variable (stores : replay.Stores store other) {length : Nat}

include stores

theorem Stores.advanceReader :
    replay.Outcomes (runOn (advanceReader id length) store)
      (runOn (advanceReader id length) other) :=
  .done (stores.mapBuffer fun _ _ _ alike => by
    cases alike with
    | intro tag setting => exact .intro tag setting)

theorem Stores.advanceWriter :
    replay.Outcomes (runOn (advanceWriter id length) store)
      (runOn (advanceWriter id length) other) :=
  .done (stores.mapBuffer fun _ _ _ alike => by
    cases alike with
    | intro tag setting => exact .intro tag setting)

end Cursors

theorem Stores.skipBytes (stores : replay.Stores store other) (faithful : replay.Faithful)
    {length : Nat} :
    replay.Outcomes (runOn (skipBytes id length) store) (runOn (skipBytes id length) other) :=
  .bind_inspect stores (fun _ _ _ _ alike => alike.checkReadable faithful)
    fun _ _ _ => stores.advanceReader

section Streams

variable (faithful : replay.Faithful) (stores : replay.Stores store other)
variable (kept : replay.kept store) {index length : Nat} {data : Bytes}
variable {kind : ScalarKind} {order : ByteOrder} {value : Scalar}

include faithful stores kept

theorem Stores.getBytes :
    replay.Outcomes (runOn (getBytes id index length) store)
      (runOn (getBytes id index length) other) :=
  .inspect stores fun _ _ live found alike => stores.reads faithful kept live found alike

theorem Stores.getScalar :
    replay.Outcomes (runOn (getScalar id kind order index) store)
      (runOn (getScalar id kind order index) other) := by
  refine .inspect stores fun buffer also live found alike => ?_
  rw [Buffer.getScalar_eq_getBytes, Buffer.getScalar_eq_getBytes]
  exact (stores.reads faithful kept live found alike).map fun _ _ _ same => same ▸ rfl

theorem Stores.setBytes :
    replay.Outcomes (runOn (setBytes id index data) store)
      (runOn (setBytes id index data) other) :=
  .overwrite stores fun _ _ live found alike => stores.writes faithful kept live found alike

theorem Stores.append :
    replay.Outcomes (runOn (append id data) store) (runOn (append id data) other) := by
  refine (stores.ensureWritable faithful kept).bind fun _ between also begun _ stores => ?_
  have kept := faithful.kept_ensureWritable kept begun
  refine .bind_writerIndex stores fun _ _ => ?_
  refine (stores.setBytes faithful kept).bind fun _ _ _ _ _ stores => ?_
  exact stores.advanceWriter

theorem Stores.writeBytes :
    replay.Outcomes (runOn (writeBytes id data) store) (runOn (writeBytes id data) other) := by
  rw [writeBytes_eq_append]
  exact .bind_check stores (.refl faithful.errors) fun _ _ _ _ => stores.append faithful kept

theorem Stores.readBytes :
    replay.Outcomes (runOn (readBytes id length) store) (runOn (readBytes id length) other) := by
  refine .bind_inspect stores (fun _ _ _ _ alike => alike.checkReadable faithful) fun _ _ _ => ?_
  refine .bind_readerIndex stores fun _ _ => ?_
  refine (stores.getBytes faithful kept).bind fun _ _ _ _ _ stores => ?_
  exact stores.advanceReader.answer

theorem Stores.readScalar :
    replay.Outcomes (runOn (readScalar id kind order) store)
      (runOn (readScalar id kind order) other) := by
  refine .bind_inspect stores (fun _ _ _ _ alike => alike.checkReadable faithful) fun _ _ _ => ?_
  refine .bind_readerIndex stores fun _ _ => ?_
  refine (stores.getScalar faithful kept).bind fun _ _ _ _ _ stores => ?_
  exact stores.advanceReader.answer

theorem Stores.shows {buffer partner : Buffer} (live : store.buffers.get? id = some buffer)
    (found : other.buffers.get? id = some partner) (alike : replay.Buffers buffer partner) :
    replay.Results Eq (buffer.toBytes (store.arena buffer.arena))
      (partner.toBytes (other.arena partner.arena)) := by
  have same : partner.readerIndex = buffer.readerIndex := by
    cases alike
    rfl
  rw [Buffer.toBytes, Buffer.toBytes, alike.readableBytes, same]
  exact stores.reads faithful kept live found alike

theorem Stores.toBytes :
    replay.Outcomes (runOn (toBytes id) store) (runOn (toBytes id) other) :=
  .inspect stores fun _ _ live found alike => stores.shows faithful kept live found alike

end Streams

section Transfers

variable {source target : BufferId} {giver taker : Buffer} {sourceIndex targetIndex length : Nat}

/-- The outcome of a transfer with its checks passed or not. -/
def transferred (store : Store) (source target : Access) (checked : Except MemoryError Unit) :
    Except Failure Unit × Store :=
  match checked with
  | .ok _ => (.ok (), store.moved source target)
  | .error error => (.error (.memory error), store)

theorem runOn_move_eq (gives : store.buffers.get? source = some giver)
    (takes : store.buffers.get? target = some taker) :
    runOn (move source sourceIndex target targetIndex length) store =
      transferred store (store.access giver sourceIndex length)
        (store.access taker targetIndex length) (do
          (store.access giver sourceIndex length).range
          (store.access taker targetIndex length).range) := by
  have moved : (do
      let bytes ← (store.arena giver.arena).region.read (giver.offset + sourceIndex) length
      (store.arena taker.arena).region.write (taker.offset + targetIndex) bytes) = _ :=
    @Access.move_eq (store.access giver sourceIndex length)
      (store.access taker targetIndex length) rfl
  rw [runOn_move gives takes, moved]
  rcases (do
    (store.access giver sourceIndex length).range
    (store.access taker targetIndex length).range : Except MemoryError Unit) with _ | _ <;> rfl

theorem runOn_bind_guard {buffer : Buffer} {index : Nat} {next : Unit → Action α}
    (live : store.buffers.get? id = some buffer) :
    runOn (guard id index length >>= next) store =
      match (store.access buffer index length).guard with
      | .ok _ => runOn (next ()) store
      | .error error => (.error (.memory error), store) := by
  rw [runOn_bind, Action.guard, runOn_inspect live, Access.guard]
  simp only [Store.access]
  cases buffer.guard (store.arena buffer.arena) index length <;> rfl

theorem runOn_getBytesAt (gives : store.buffers.get? source = some giver)
    (takes : store.buffers.get? target = some taker) :
    runOn (getBytesAt source sourceIndex target targetIndex length) store =
      transferred store (store.access giver sourceIndex length)
        (store.access taker targetIndex length) (Access.reach
          [store.access giver sourceIndex length, store.access taker targetIndex length]
          [store.access giver sourceIndex length, store.access taker targetIndex length]) := by
  rw [getBytesAt, runOn_bind_guard gives, Access.reach_two]
  rcases (store.access giver sourceIndex length).guard with _ | _
  · rfl
  · simp only [runOn_bind_guard takes]
    rcases (store.access taker targetIndex length).guard with _ | _
    · rfl
    · exact runOn_move_eq gives takes

theorem runOn_setBytesAt (gives : store.buffers.get? source = some giver)
    (takes : store.buffers.get? target = some taker) :
    runOn (setBytesAt target targetIndex source sourceIndex length) store =
      transferred store (store.access giver sourceIndex length)
        (store.access taker targetIndex length) (Access.reach
          [store.access taker targetIndex length, store.access giver sourceIndex length]
          [store.access giver sourceIndex length, store.access taker targetIndex length]) := by
  rw [setBytesAt, runOn_bind_guard takes, Access.reach_two]
  rcases (store.access taker targetIndex length).guard with _ | _
  · rfl
  · simp only [runOn_bind_guard gives]
    rcases (store.access giver sourceIndex length).guard with _ | _
    · rfl
    · exact runOn_move_eq gives takes

section Both

variable (faithful : replay.Faithful) (stores : replay.Stores store other)
variable (kept : replay.kept store) {index : Nat}

theorem Accesses.reach_two (faithful : replay.Faithful) (kept : replay.kept store)
    {first also second twin : Access} (one : replay.Accesses store other first also)
    (two : replay.Accesses store other second twin) :
    replay.Results Eq (Access.reach [first, second] [first, second])
        (Access.reach [also, twin] [also, twin]) ∧
      replay.Results Eq (Access.reach [second, first] [first, second])
        (Access.reach [twin, also] [also, twin]) := by
  have members : ∀ pair ∈ [(first, also), (second, twin)],
      replay.Accesses store other pair.1 pair.2 := by
    rintro pair (_ | ⟨_, _ | ⟨_, none⟩⟩)
    · exact one
    · exact two
    · contradiction
  have swapped : [(second, twin), (first, also)].Perm [(first, also), (second, twin)] := .swap _ _ _
  exact ⟨faithful.reach kept (.refl _) members,
    faithful.reach kept swapped fun pair member => members pair (swapped.subset member)⟩

theorem Accesses.arena_eq {access also : Access}
    (accesses : replay.Accesses store other access also) :
    also.buffer.arena = access.buffer.arena := by
  have alike := accesses.buffer
  generalize also.buffer = partner at alike
  cases alike
  rfl

theorem Stores.transferred (stores : replay.Stores store other)
    {source partner target twin : Access} (gives : replay.Accesses store other source partner)
    (takes : replay.Accesses store other target twin) {checked also : Except MemoryError Unit}
    (results : replay.Results Eq checked also) :
    replay.Outcomes (Replay.transferred store source target checked)
      (Replay.transferred other partner twin also) := by
  cases results with
  | ok _ =>
      have regions := takes.written source.content
      have moved : replay.Stores (store.moved source target) (other.moved partner twin) := by
        rw [Store.moved, Store.moved, gives.content, takes.arena_eq]
        exact stores.setRegion regions
      exact .done moved
  | error alike => exact .failed (.memory alike) stores
  | excused excused => exact .excused excused

include faithful stores kept

theorem Stores.guards (guarded : replay.Guarded) {buffer also : Buffer}
    (live : store.buffers.get? id = some buffer) (found : other.buffers.get? id = some also)
    (alike : replay.Buffers buffer also) :
    replay.Results Eq (buffer.guard (store.arena buffer.arena) index length)
      (also.guard (other.arena also.arena) index length) :=
  guarded store other _ _ kept (stores.accesses faithful live found alike)

theorem Stores.transfersAt (gives : store.buffers.get? source = some giver)
    (takes : store.buffers.get? target = some taker) :
    replay.Outcomes (runOn (getBytesAt source sourceIndex target targetIndex length) store)
        (runOn (getBytesAt source sourceIndex target targetIndex length) other) ∧
      replay.Outcomes (runOn (setBytesAt target targetIndex source sourceIndex length) store)
        (runOn (setBytesAt target targetIndex source sourceIndex length) other) := by
  obtain ⟨partner, partners, alike⟩ := stores.buffers.some gives
  obtain ⟨twin, twins, also⟩ := stores.buffers.some takes
  have one : replay.Accesses store other (store.access giver sourceIndex length)
      (other.access partner sourceIndex length) := stores.accesses faithful gives partners alike
  have two : replay.Accesses store other (store.access taker targetIndex length)
      (other.access twin targetIndex length) := stores.accesses faithful takes twins also
  obtain ⟨forth, back⟩ := one.reach_two faithful kept two
  rw [runOn_getBytesAt gives takes, runOn_getBytesAt partners twins, runOn_setBytesAt gives takes,
    runOn_setBytesAt partners twins]
  exact ⟨stores.transferred one two forth, stores.transferred one two back⟩

/-- If the second buffer is gone, only the first guard is heard. -/
theorem Stores.getBytesAt (heard : replay.Guarded ∨ (store.buffers.get? target).isSome) :
    replay.Outcomes (runOn (getBytesAt source sourceIndex target targetIndex length) store)
      (runOn (getBytesAt source sourceIndex target targetIndex length) other) := by
  cases takes : store.buffers.get? target with
  | none =>
      have guarded : replay.Guarded := heard.resolve_right (by simp [takes])
      refine .bind_inspect stores (fun _ _ live found alike =>
        stores.guards faithful kept guarded live found alike) fun _ _ _ => ?_
      exact .bind_inspect_none stores takes
  | some taker =>
      cases gives : store.buffers.get? source with
      | none => exact .bind_inspect_none stores gives
      | some giver => exact (stores.transfersAt faithful kept gives takes).1

theorem Stores.setBytesAt (heard : replay.Guarded ∨ (store.buffers.get? source).isSome) :
    replay.Outcomes (runOn (setBytesAt target targetIndex source sourceIndex length) store)
      (runOn (setBytesAt target targetIndex source sourceIndex length) other) := by
  cases gives : store.buffers.get? source with
  | none =>
      have guarded : replay.Guarded := heard.resolve_right (by simp [gives])
      refine .bind_inspect stores (fun _ _ live found alike =>
        stores.guards faithful kept guarded live found alike) fun _ _ _ => ?_
      exact .bind_inspect_none stores gives
  | some giver =>
      cases takes : store.buffers.get? target with
      | none => exact .bind_inspect_none stores takes
      | some taker => exact (stores.transfersAt faithful kept gives takes).2

theorem Stores.getBytesTo :
    replay.Outcomes (runOn (getBytesTo source index target length) store)
      (runOn (getBytesTo source index target length) other) := by
  refine (stores.ensureWritable faithful kept).bind fun _ between also begun _ stores => ?_
  have kept := faithful.kept_ensureWritable kept begun
  refine .bind_writerIndex stores fun taker takes => ?_
  have heard : replay.Guarded ∨ (between.buffers.get? target).isSome := .inr (by simp [takes])
  refine (stores.getBytesAt faithful kept heard).bind fun _ _ _ _ _ stores => ?_
  exact stores.advanceWriter

theorem Stores.setBytesFrom :
    replay.Outcomes (runOn (setBytesFrom target index source length) store)
      (runOn (setBytesFrom target index source length) other) := by
  refine .bind_inspect stores (fun _ _ _ _ alike => alike.checkSource faithful) fun _ _ _ => ?_
  refine .bind_readerIndex stores fun giver gives => ?_
  have heard : replay.Guarded ∨ (store.buffers.get? source).isSome := .inr (by simp [gives])
  refine (stores.setBytesAt faithful kept heard).bind fun _ _ _ _ _ stores => ?_
  exact stores.advanceReader

theorem Stores.readBytesTo :
    replay.Outcomes (runOn (readBytesTo source target length) store)
      (runOn (readBytesTo source target length) other) := by
  refine .bind_inspect stores (fun _ _ _ _ alike => alike.checkReadable faithful) fun _ _ _ => ?_
  refine .bind_readerIndex stores fun _ _ => ?_
  refine (stores.getBytesTo faithful kept).bind fun _ _ _ _ _ stores => ?_
  exact stores.advanceReader

theorem Stores.writeBytesFrom :
    replay.Outcomes (runOn (writeBytesFrom target source length) store)
      (runOn (writeBytesFrom target source length) other) := by
  refine (stores.ensureWritable faithful kept).bind fun _ between also begun _ stores => ?_
  have kept := faithful.kept_ensureWritable kept begun
  refine .bind_writerIndex stores fun _ _ => ?_
  refine (stores.setBytesFrom faithful kept).bind fun _ _ _ _ _ stores => ?_
  exact stores.advanceWriter

end Both

end Transfers

section Views

variable (faithful : replay.Faithful) (stores : replay.Stores store other)
variable (kept : replay.kept store) {index length : Nat}

include faithful stores kept

theorem Stores.copyRange :
    replay.Outcomes (runOn (copyRange id index length) store)
      (runOn (copyRange id index length) other) := by
  refine .bind_buffer stores fun buffer also live found alike => ?_
  rw [runOn_bind, runOn_get, runOn_bind, runOn_get]
  refine .bind_check stores (stores.reads faithful kept live found alike) fun data _ _ same => ?_
  subst same
  have arenas : replay.Arenas (store.arena buffer.arena) (other.arena also.arena) := by
    cases alike
    exact stores.arena faithful
  have made : replay.Regions ((store.arena buffer.arena).region.backend.allocate length)
      ((other.arena also.arena).region.backend.allocate length) := .allocate arenas.region.backend
  refine .bind_check stores (made.write faithful) fun _ _ _ regions => ?_
  refine .bind_newArena stores regions fun arena stores => ?_
  exact .newBuffer stores fun id => by
    cases alike with
    | intro tag setting => exact .intro tag setting

theorem Stores.copy :
    replay.Outcomes (runOn (copy id) store) (runOn (copy id) other) := by
  refine .bind_buffer stores fun buffer also _ _ alike => ?_
  have same : also.capacity = buffer.capacity := by
    cases alike
    rfl
  rw [same]
  exact stores.copyRange faithful kept

theorem Stores.sliceRange :
    replay.Outcomes (runOn (sliceRange id index length) store)
      (runOn (sliceRange id index length) other) := by
  refine .bind_inspect stores (fun _ _ live found alike =>
    stores.accessible faithful kept live found alike) fun _ _ _ => ?_
  refine .bind_inspect stores (fun _ _ _ _ alike => alike.checkRange ▸ .refl faithful.errors)
    fun _ _ _ => ?_
  refine .bind_buffer stores fun buffer also _ _ alike => ?_
  exact .newBuffer stores fun id => by
    cases alike with
    | intro tag setting => exact .intro tag setting

theorem Stores.slice :
    replay.Outcomes (runOn (slice id) store) (runOn (slice id) other) := by
  refine .bind_buffer stores fun buffer also _ _ alike => ?_
  have same : also.readerIndex = buffer.readerIndex := by
    cases alike
    rfl
  rw [same, alike.readableBytes]
  exact stores.sliceRange faithful kept

theorem Stores.duplicate :
    replay.Outcomes (runOn (duplicate id) store) (runOn (duplicate id) other) := by
  refine .bind_inspect stores (fun _ _ live found alike =>
    stores.accessible faithful kept live found alike) fun _ _ _ => ?_
  refine .bind_buffer stores fun buffer also _ _ alike => ?_
  exact .newBuffer stores fun id => by
    cases alike with
    | intro tag setting => exact .intro tag setting

end Views

end Replay

end CursorBuffers
