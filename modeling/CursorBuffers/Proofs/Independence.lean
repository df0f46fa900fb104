import CursorBuffers.Proofs.Isolation.Families
import CursorBuffers.Proofs.Slices
import CursorBuffers.Proofs.Views.Descent
import CursorBuffers.Store.Report

namespace CursorBuffers

/-- The range of a buffer that an operation copies, by its index and length. -/
def BufferCommand.copied? (source : Buffer) : BufferCommand → Option (Nat × Nat)
  | .copy => some (0, source.capacity)
  | .copyRange index length => some (index, length)
  | _ => none

theorem Bytes.splice_whole {bytes data : Bytes} (same : bytes.size = data.size) :
    bytes.splice 0 data = data := by
  simp [splice, same]

variable {store after : Store} {id copy : BufferId} {source buffer : Buffer} {index length : Nat}

/-- Storage that was made for some bytes, and has been given them. -/
theorem Region.bytes_of_write_allocated {backend : Backend} {data : Bytes} {region : Region}
    (written : (backend.allocate data.size).write 0 data = .ok region) : region.bytes = data := by
  obtain ⟨_, rfl⟩ := within_of_write written
  rw [bytes_withBytes]
  exact Bytes.splice_whole size_allocate

theorem Buffer.size_of_getBytes {arena : Arena} {content : Bytes}
    (read : buffer.getBytes arena index length = .ok content) : content.size = length := by
  unfold getBytes at read
  cases guarded : buffer.guard arena index length with
  | error error =>
      rw [guarded] at read
      cases read
  | ok _ =>
      rw [guarded] at read
      obtain ⟨within, rfl⟩ := Region.within_of_read read
      exact Bytes.size_slice within

/-- A copy of a range of a buffer, with the bytes that it has taken over. -/
structure Store.CopyOf (store after : Store) (source : Buffer) (index length : Nat)
    (copy : BufferId) (buffer : Buffer) (content : Bytes) : Prop where
  fresh : store.buffers.get? copy = none
  live : after.buffers.get? copy = some buffer
  unpooled : buffer.pooled = false ∧ buffer.recycler = none
  owner : buffer.role = .owner
  new : store.arenas.get? buffer.arena = none
  alone : after.Sole copy buffer
  capacity : buffer.capacity = length
  maxCapacity : buffer.maxCapacity = max source.maxCapacity length
  reader : buffer.readerIndex = min source.readerIndex length
  writer : buffer.writerIndex = min source.writerIndex length
  intact : after.isFreed buffer = false
  size : content.size = length
  content : buffer.offset = 0 ∧ (after.arena buffer.arena).region.bytes = content

namespace Action

/-- A copy that succeeds has made an arena and a buffer, and nothing else. -/
theorem copied_of_copyRange (live : store.buffers.get? id = some source)
    (done : runOn (copyRange id index length) store = (.ok copy, after)) :
    ∃ content region, source.getBytes (store.arena source.arena) index length = .ok content ∧
      ((store.arena source.arena).region.backend.allocate length).write 0 content = .ok region ∧
      copy = store.buffers.next ∧ after = (store.addArena region).addBuffer
        (source.copied length store.arenas.next store.buffers.next) := by
  rw [copyRange, runOn_bind, runOn_buffer live] at done
  simp only [runOn_bind, runOn_get, runOn_check] at done
  cases read : source.getBytes (store.arena source.arena) index length with
  | error error =>
      simp only [read] at done
      cases done
  | ok content =>
      simp only [read, mapError_ok] at done
      generalize (store.arena source.arena).region.backend.allocate length = room at done ⊢
      cases written : room.write 0 content with
      | error error =>
          simp only [written] at done
          cases done
      | ok region =>
          simp only [written, mapError_ok, runOn_newArena, runOn_newBuffer] at done
          cases done
          exact ⟨content, region, rfl, written, rfl, rfl⟩

end Action

namespace Store

variable {request : BufferCommand}

theorem copied_of_run (live : store.buffers.get? id = some source)
    (asks : request.copied? source = some (index, length))
    (done : (store.run (.onBuffer id request)).1 = .ok (.buffer copy)) :
    Action.runOn (Action.copyRange id index length) store =
      (.ok copy, (store.run (.onBuffer id request)).2) := by
  have answered : ∀ {action : Action BufferId}, Action.runOn
      (action >>= fun made => pure (Answer.buffer made)) store =
        (.ok (.buffer copy), (store.run (.onBuffer id request)).2) →
      Action.runOn action store = (.ok copy, (store.run (.onBuffer id request)).2) := by
    intro action ran
    obtain ⟨made, between, copied, same⟩ := Action.runOn_bind_eq_ok.mp ran
    cases same
    exact copied
  cases request with
  | copyRange other amount =>
      cases asks
      exact answered (Prod.ext done rfl)
  | copy =>
      cases asks
      have copied : Action.runOn (Action.copy id) store =
          (.ok copy, (store.run (.onBuffer id .copy)).2) := answered (Prod.ext done rfl)
      rwa [Action.copy, Action.runOn_bind, Action.runOn_buffer live] at copied
  | _ => cases asks

/-- What a copy is, and what else it changes. -/
theorem Reachable.copyOf (reachable : store.Reachable) (live : store.buffers.get? id = some source)
    (asks : request.copied? source = some (index, length))
    (done : (store.run (.onBuffer id request)).1 = .ok (.buffer copy)) :
    ∃ buffer content,
      (store.run (.onBuffer id (.getBytes index length))).1 = .ok (.bytes content) ∧
      store.CopyOf (store.run (.onBuffer id request)).2 source index length copy buffer
        content := by
  obtain ⟨content, region, read, written, rfl, same⟩ :=
    Action.copied_of_copyRange live (copied_of_run live asks done)
  have size : content.size = length := Buffer.size_of_getBytes read
  refine ⟨source.copied length store.arenas.next store.buffers.next, content, ?_, ?_⟩
  · rw [run_getBytes live, read]
    rfl
  · obtain ⟨reader, _, _⟩ := reachable.ordered live
    have bytes : region.bytes = content := by
      rw [← size] at written
      exact Region.bytes_of_write_allocated written
    rw [same]
    refine ⟨Table.get?_eq_none_of_next_le (Nat.le_refl _), ?_, ⟨rfl, rfl⟩, rfl,
      Table.get?_eq_none_of_next_le (Nat.le_refl _), ?_, rfl, rfl, ?_, rfl, ?_, size, rfl, ?_⟩
    · simp [addBuffer, Table.get?_add, addArena]
    · intro other window also here
      rcases Table.get?_add_cases also with ⟨new, _⟩ | old
      · exact new
      · exact absurd here (Nat.ne_of_lt (reachable.wellHeld.known old))
    · simp only [Buffer.copied]
      omega
    · simp [isFreed, Buffer.copied, arena_addArena]
    · simp [Buffer.copied, arena_addArena, bytes]

/-- A copy leaves all buffers and arenas as they were. -/
theorem kept_of_copied (live : store.buffers.get? id = some source)
    (asks : request.copied? source = some (index, length))
    (done : (store.run (.onBuffer id request)).1 = .ok (.buffer copy)) :
    (∀ {other window}, store.buffers.get? other = some window →
      (store.run (.onBuffer id request)).2.buffers.get? other = some window) ∧
    ∀ {arena}, arena < store.arenas.next →
      (store.run (.onBuffer id request)).2.arena arena = store.arena arena := by
  obtain ⟨content, region, _, _, rfl, same⟩ :=
    Action.copied_of_copyRange live (copied_of_run live asks done)
  rw [same]
  refine ⟨fun also => Table.get?_add_of_get? also, fun known => ?_⟩
  rw [addBuffer_frame.2.1, arena_addArena, if_neg (Nat.ne_of_lt known)]

end Store

open Store in
/-- From the end of the history on, at any point of any run, whatever is done without naming a live
buffer that descends from `root` leaves all of these, and the arenas they are on, alone. -/
def LeftAlone (history : List Command) (root : BufferId) : Prop :=
  ∀ middle rest, (∀ command ∈ rest, ∀ handle ∈ Command.handles command,
      Lineage (history ++ middle) handle root →
        (initial.after (history ++ middle)).buffers.get? handle = none) →
    ∀ view window, (initial.after (history ++ middle)).buffers.get? view = some window →
      Lineage (history ++ middle) view root →
        (initial.after (history ++ middle ++ rest)).buffers.get? view = some window ∧
          (initial.after (history ++ middle ++ rest)).arena window.arena =
            (initial.after (history ++ middle)).arena window.arena

open Store in
/-- The buffers of every creation are left alone. -/
theorem leftAlone {history : List Command} {root : BufferId} : LeftAlone history root := by
  intro middle rest unnamed view window live line
  have reachable : (initial.after (history ++ middle)).Reachable := ⟨_, rfl⟩
  have origin : root = window.origin := line.eq_origin live
  have known : root < (initial.after (history ++ middle)).buffers.next := by
    rw [origin]
    exact Nat.lt_of_le_of_lt (reachable.kin.older live) (Table.lt_next_of_get? live)
  rw [after_append]
  refine (reachable.frozen_after known fun command member => ?_).stays live origin.symm
  intro handle named buffer also own
  have gone := unnamed command member handle named (own ▸ Lineage.of_live also)
  rw [also] at gone
  contradiction

open Store in
/-- A copy that goes its own way. -/
structure CopiedApart (commands : List Command) (id : BufferId) (request : BufferCommand)
    (source : Buffer) (index length : Nat) (copy : BufferId) : Prop where
  /-- It has what its source shows in the range, and an arena of its own. -/
  made : ∃ buffer content,
    ((initial.after commands).run (.onBuffer id (.getBytes index length))).1 =
      .ok (.bytes content) ∧
    (initial.after commands).CopyOf (initial.after (commands ++ [.onBuffer id request])) source
      index length copy buffer content
  /-- Nothing has happened to the source, nor to anything else. -/
  kept : (∀ {other window}, (initial.after commands).buffers.get? other = some window →
      (initial.after (commands ++ [.onBuffer id request])).buffers.get? other = some window) ∧
    ∀ {arena}, arena < (initial.after commands).arenas.next →
      (initial.after (commands ++ [.onBuffer id request])).arena arena =
        (initial.after commands).arena arena
  /-- It begins a creation that its source is not of. -/
  begins : Lineage (commands ++ [.onBuffer id request]) copy copy
  apart : ¬ Lineage (commands ++ [.onBuffer id request]) id copy
  /-- Whatever is done to others leaves the copy and its windows alone. -/
  copies : LeftAlone (commands ++ [.onBuffer id request]) copy
  /-- And so it does its source, and all that is of one creation with that. -/
  sources : ∀ root, Lineage commands id root → LeftAlone (commands ++ [.onBuffer id request]) root

open Store in
/-- Every copy goes its own way. -/
theorem copiedApart_after {commands : List Command} {request : BufferCommand}
    (live : (initial.after commands).buffers.get? id = some source)
    (asks : request.copied? source = some (index, length))
    (done : ((initial.after commands).run (.onBuffer id request)).1 = .ok (.buffer copy)) :
    CopiedApart commands id request source index length copy := by
  have reachable : (initial.after commands).Reachable := ⟨commands, rfl⟩
  obtain ⟨buffer, content, shown, made⟩ := reachable.copyOf live asks done
  have same : initial.after (commands ++ [.onBuffer id request]) =
      ((initial.after commands).run (.onBuffer id request)).2 := after_concat
  have kept := kept_of_copied live asks done
  have makes : (initial.after commands).Makes (.onBuffer id request) copy :=
    ⟨made.fresh, Option.isSome_of_eq_some made.live⟩
  constructor
  case made =>
    rw [same]
    exact ⟨buffer, content, shown, made⟩
  case kept =>
    rw [same]
    exact kept
  case begins =>
    refine .root ?_ makes
    rintro parent ⟨_, named, view⟩
    cases named
    cases request with
    | copy => exact view
    | copyRange _ _ => exact view
    | _ => cases asks
  case apart =>
    intro line
    have stays : (initial.after (commands ++ [.onBuffer id request])).buffers.get? id =
        some source := same ▸ kept.1 live
    have older : source.origin < (initial.after commands).buffers.next :=
      Nat.lt_of_le_of_lt (reachable.kin.older live) (Table.lt_next_of_get? live)
    rw [← line.eq_origin stays] at older
    exact Nat.not_lt.mpr makes.next_le older
  case copies => exact leftAlone
  case sources => exact fun root _ => leftAlone

/-- A buffer of eight bytes, of which three are written. -/
def partlyWritten : List Command :=
  [.allocate (.plain {}) { capacity := 8 }, .onBuffer 0 (.writeBytes #[1, 2, 3])]

theorem copiedApart_from_within : ∃ source,
    (Store.initial.after partlyWritten).buffers.get? (0 : BufferId) = some source ∧
      CopiedApart partlyWritten 0 (.copyRange 1 4) source 1 4 1 :=
  ⟨_, rfl, copiedApart_after rfl rfl (by decide +kernel)⟩

/-- The release of the source does not reach the copy. -/
example :
    ((Store.initial.after (partlyWritten ++ [.onBuffer 0 (.copyRange 1 4), .release 0])).run
      (.onBuffer 1 (.getBytes 0 4))).1 = .ok (.bytes #[2, 3, 0, 0]) := by
  decide +kernel

end CursorBuffers
