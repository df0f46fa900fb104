import CursorBuffers.Proofs.Coverage
import CursorBuffers.Proofs.Views.Writing

namespace CursorBuffers

variable {width : Width} {order other : ByteOrder} {word : Word width} {memory data : Bytes}
variable {address offset index length : Nat}

/-- The memory has got these bytes at an address, and is otherwise as it was. -/
structure Bytes.Stored (memory : Bytes) (address : Nat) (data after : Bytes) : Prop where
  size : after.size = memory.size
  there : after.slice address data.size = data
  elsewhere : ∀ place, place < address ∨ address + data.size ≤ place →
    after[place]? = memory[place]?

/-- Encoding loses nothing, and the two orders are each other's reverse. -/
structure ByteOrder.Lossless (order : ByteOrder) (width : Width) : Prop where
  decoded : ∀ word : Word width, order.decode width (order.encode word) = word
  encoded : ∀ bytes, bytes.size = width.bytes → order.encode (order.decode width bytes) = bytes
  reversed : ∀ word : Word width,
    (big.encode word).toList = (little.encode word).toList.reverse
  swapped : ∀ word : Word width,
    (order.encode word.swapped).toList = (order.encode word).toList.reverse
  involutive : ∀ word : Word width, order.convert (order.convert word) = word

/-- The machine reads what the bytes at an address denote, and writes the bytes of the encoding
there and nothing else. -/
structure Accessor.Exact (accessor : Accessor) (order : ByteOrder) (width : Width) : Prop where
  get : ∀ (memory : Bytes) address, address + width.bytes ≤ memory.size →
    accessor.get order width memory address = order.decode width (memory.slice address width.bytes)
  set : ∀ (memory : Bytes) address (word : Word width), address + width.bytes ≤ memory.size →
    memory.Stored address (order.encode word) (accessor.set order memory address word)

theorem Bytes.stored_splice (within : address + data.size ≤ memory.size) :
    memory.Stored address data (memory.splice address data) where
  size := size_splice within
  there := by
    have empty : memory.slice address 0 = #[] :=
      Array.extract_empty_of_stop_le_start (Nat.le_refl address)
    have behind : (memory.splice (address + 0) data).slice address (0 + data.size) =
        memory.slice address 0 ++ data := slice_splice within
    rwa [Nat.add_zero, Nat.zero_add, empty, Array.empty_append] at behind
  elsewhere place outside := by
    rw [getElem?_splice within, if_neg (by omega)]

namespace ByteOrder

theorem convert_convert : order.convert (order.convert word) = word := by
  have kept : little.decode width (little.encode (order.convert word)) = order.convert word :=
    decode_encode
  rw [← kept, little_encode_convert, convert_decode size_encode, decode_encode]

/-- What is written in one order and read in the other has its bytes swapped. -/
theorem decode_encode_of_ne (distinct : other ≠ order) :
    other.decode width (order.encode word) = word.swapped := by
  cases order with
  | big =>
      cases other with
      | big => contradiction
      | little =>
          rw [← little_encode_convert, decode_encode]
          rfl
  | little =>
      cases other with
      | little => contradiction
      | big =>
          rw [← convert_decode size_encode, decode_encode]
          rfl

theorem toList_encode_swapped :
    (order.encode word.swapped).toList = (order.encode word).toList.reverse := by
  have little_swapped : little.encode (big.convert word) = big.encode word := little_encode_convert
  change little.encode word.swapped = big.encode word at little_swapped
  cases order with
  | big => rw [toList_encode_big, little_swapped]
  | little => rw [little_swapped, toList_encode_big]

theorem lossless : order.Lossless width where
  decoded _ := decode_encode
  encoded _ full := encode_decode full
  reversed _ := toList_encode_big
  swapped _ := toList_encode_swapped
  involutive _ := convert_convert

end ByteOrder

theorem Accessor.exact {accessor : Accessor} : accessor.Exact order width where
  get memory address within := get_eq_decode within
  set memory address word within := by
    rw [set_eq_splice within]
    exact Bytes.stored_splice (by rwa [ByteOrder.size_encode])

namespace Region

variable {region later : Region}

theorem stored_write (written : region.write offset data = .ok later) :
    region.bytes.Stored offset data later.bytes := by
  obtain ⟨within, rfl⟩ := within_of_write written
  rw [bytes_withBytes]
  exact Bytes.stored_splice within

theorem read_of_write (written : region.write offset data = .ok later) :
    later.read offset data.size = .ok data := by
  have within : offset + data.size ≤ later.size := by
    rw [size_write written]
    exact (within_of_write written).1
  rw [read_eq_ok within, (stored_write written).there]

theorem getWord_of_setWord (set : region.setWord order offset word = .ok later) :
    later.getWord other width offset = .ok (other.decode width (order.encode word)) := by
  rw [setWord_eq_write] at set
  have read := read_of_write set
  rw [ByteOrder.size_encode] at read
  rw [getWord_eq_read, read]
  rfl

end Region

namespace Buffer

variable {buffer : Buffer} {arena later : Arena}

/-- A write changes nothing that the checks look at. -/
theorem guard_congr (freed : later.freed = arena.freed)
    (backend : later.region.backend = arena.region.backend) :
    buffer.guard later index length = buffer.guard arena index length := by
  have accessible : buffer.checkAccessible later = buffer.checkAccessible arena :=
    if_congr (by rw [freed]) (by rw [Region.isNative, backend, Region.isNative]) rfl
  simp only [guard, accessible]

theorem getBytes_of_write (freed : later.freed = arena.freed)
    (guarded : buffer.guard arena index data.size = .ok ())
    (written : arena.region.write (buffer.offset + index) data = .ok later.region) :
    buffer.getBytes later index data.size = .ok data := by
  rw [getBytes, guard_congr freed (Region.backend_write written), guarded]
  exact Region.read_of_write written

end Buffer

namespace Store

variable {store reached : Store} {id : BufferId} {buffer : Buffer} {value : Scalar}
variable {answer : Answer}

theorem run_setScalar_eq_ok :
    store.run (.onBuffer id (.setScalar order index value)) = (.ok answer, reached) ↔
      answer = .done ∧
        Action.runOn (Action.setBytes id index (order.encode value.toWord)) store =
          (.ok (), reached) := by
  constructor
  · intro done
    obtain ⟨_, between, performed, answered⟩ := Action.runOn_bind_eq_ok.mp done
    cases answered
    rw [Action.setScalar_eq_setBytes] at performed
    exact ⟨rfl, performed⟩
  · rintro ⟨rfl, performed⟩
    rw [← Action.setScalar_eq_setBytes] at performed
    exact Action.runOn_bind_eq_ok.mpr ⟨(), reached, performed, rfl⟩

theorem run_getScalar {kind : ScalarKind} (live : store.buffers.get? id = some buffer)
    (shown : buffer.getBytes (store.arena buffer.arena) index kind.width.bytes = .ok data) :
    store.run (.onBuffer id (.getScalar kind order index)) =
      (.ok (.scalar (.ofWord kind (order.decode kind.width data))), store) := by
  change Action.runOn (Action.getScalar id kind order index >>= fun scalar =>
    pure (Answer.scalar scalar)) store = _
  rw [Action.runOn_bind, Action.getScalar, Action.runOn_inspect live, Buffer.getScalar_eq_getBytes,
    shown]
  rfl

/-- What was written as bytes is read as the word that they denote. -/
theorem Reachable.getScalar_of_setScalar (reachable : store.Reachable)
    (set : store.run (.onBuffer id (.setScalar order index value)) = (.ok answer, reached)) :
    reached.run (.onBuffer id (.getScalar value.kind other index)) =
      (.ok (.scalar (.ofWord value.kind
        (other.decode value.kind.width (order.encode value.toWord)))), reached) := by
  obtain ⟨_, performed⟩ := run_setScalar_eq_ok.mp set
  obtain ⟨buffer, region, live, guarded, written, rfl⟩ := Action.written_setBytes performed
  have stored : ((store.setRegion buffer.arena region).arena buffer.arena).region = region :=
    region_setRegion (reachable.covered.held.known live) reachable.covered.standing
  have shown : buffer.getBytes ((store.setRegion buffer.arena region).arena buffer.arena) index
      (order.encode value.toWord).size = .ok (order.encode value.toWord) :=
    Buffer.getBytes_of_write freed_setRegion guarded (by rw [stored]; exact written)
  rw [ByteOrder.size_encode] at shown
  exact run_getScalar live shown

theorem Reachable.setScalar_of_within (reachable : store.Reachable)
    (live : store.buffers.get? id = some buffer)
    (accessible : buffer.checkAccessible (store.arena buffer.arena) = .ok ())
    (within : index + value.kind.width.bytes ≤ buffer.capacity) :
    ∃ after, store.run (.onBuffer id (.setScalar order index value)) = (.ok .done, after) := by
  have covers : buffer.offset + buffer.capacity ≤ _ := reachable.covered.covers live
  have reaches : (store.run (.onBuffer id (.setScalar order index value))).1.map (fun _ => ()) =
      .ok () := by
    rw [run_access live rfl, Buffer.reach_eq_ok accessible within covers]
    rfl
  rcases ran : store.run (.onBuffer id (.setScalar order index value)) with
    ⟨failure | answer, after⟩
  · rw [ran] at reaches
    cases reaches
  · rw [(run_setScalar_eq_ok.mp ran).1]
    exact ⟨after, rfl⟩

/-- Every value is read back as it was written, and with its bytes swapped in the order that it was
not written in. Words are encoded without loss, in both orders and on every machine, and storage of
every kind holds what they are encoded to. -/
theorem scalars_read_as_written (reachable : store.Reachable) :
    (∀ (order : ByteOrder) width, order.Lossless width) ∧
    (∀ (accessor : Accessor) order width, accessor.Exact order width) ∧
    (∀ (region : Region) (order : ByteOrder) width offset (word : Word width),
      offset + width.bytes ≤ region.size →
      ∃ later, region.setWord order offset word = .ok later ∧
        region.bytes.Stored offset (order.encode word) later.bytes ∧
        later.getWord order width offset = .ok word ∧
        ∀ other ≠ order, later.getWord other width offset = .ok word.swapped) ∧
    ∀ id buffer (order : ByteOrder) index (value : Scalar),
      store.buffers.get? id = some buffer →
      (buffer.checkAccessible (store.arena buffer.arena) = .ok () →
        index + value.kind.width.bytes ≤ buffer.capacity →
        ∃ after, store.run (.onBuffer id (.setScalar order index value)) = (.ok .done, after)) ∧
      ∀ answer after,
        store.run (.onBuffer id (.setScalar order index value)) = (.ok answer, after) →
        after.run (.onBuffer id (.getScalar value.kind order index)) =
          (.ok (.scalar value), after) ∧
        ∀ other ≠ order, after.run (.onBuffer id (.getScalar value.kind other index)) =
          (.ok (.scalar (.ofWord value.kind value.toWord.swapped)), after) := by
  refine ⟨fun order width => ByteOrder.lossless, fun accessor order width => Accessor.exact,
    fun region order width offset word within => ?_,
    fun id buffer order index value live => ⟨reachable.setScalar_of_within live,
      fun answer after set => ⟨?_, fun other distinct => ?_⟩⟩⟩
  · have room : offset + (order.encode word).size ≤ region.size := by
      rwa [ByteOrder.size_encode]
    have written := Region.write_eq_ok room
    have set := Region.setWord_eq_write.trans written
    refine ⟨_, set, Region.stored_write written, ?_, fun other distinct => ?_⟩
    · rw [Region.getWord_of_setWord set, ByteOrder.decode_encode]
    · rw [Region.getWord_of_setWord set, ByteOrder.decode_encode_of_ne distinct]
  · rw [reachable.getScalar_of_setScalar set, ByteOrder.decode_encode, Scalar.ofWord_toWord]
  · rw [reachable.getScalar_of_setScalar set, ByteOrder.decode_encode_of_ne distinct]

/-- A signalling NaN keeps its payload, in managed memory at an odd index. -/
theorem scalars_read_as_written_signalling :
    ∃ after,
      (initial.after [.allocate (.plain { forceManaged := true }) { capacity := 16 }]).run
        (.onBuffer 0 (.setScalar .big 3 (.float64 0x7FF4000000000001#64))) = (.ok .done, after) ∧
      after.run (.onBuffer 0 (.getScalar .float64 .big 3)) =
        (.ok (.scalar (.float64 0x7FF4000000000001#64)), after) ∧
      after.run (.onBuffer 0 (.getScalar .float64 .little 3)) =
        (.ok (.scalar (.float64 0x010000000000F47F#64)), after) := by
  obtain ⟨buffer, live, accessible, capacity⟩ : ∃ buffer,
      (initial.after [.allocate (.plain { forceManaged := true })
        { capacity := 16 }]).buffers.get? (0 : BufferId) = some buffer ∧
      buffer.checkAccessible ((initial.after [.allocate (.plain { forceManaged := true })
        { capacity := 16 }]).arena buffer.arena) = .ok () ∧ buffer.capacity = 16 :=
    ⟨_, rfl, rfl, rfl⟩
  have reachable : (initial.after [.allocate (.plain { forceManaged := true })
      { capacity := 16 }]).Reachable := ⟨_, rfl⟩
  obtain ⟨_, _, _, atBuffers⟩ := scalars_read_as_written reachable
  obtain ⟨writes, reads⟩ := atBuffers 0 buffer .big 3 (.float64 0x7FF4000000000001#64) live
  obtain ⟨after, set⟩ := writes accessible (by rw [capacity]; decide)
  obtain ⟨same, swapped⟩ := reads _ _ set
  exact ⟨after, set, same, swapped .little (by decide)⟩

end Store

end CursorBuffers
