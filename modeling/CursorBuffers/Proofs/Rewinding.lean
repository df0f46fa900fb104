import CursorBuffers.Proofs.Marks
import Mathlib.Data.List.Infix

/-!
Return to marked cursors. Any change of capacity cuts cursors and marks alike, so a mark that lay at
its cursor never gets ahead of it, and only the smallest capacity that there was counts in the end.
-/

namespace CursorBuffers

namespace Buffer

/-- The capacity may have changed, and then the cursors have moved onward. -/
def Recapped (before after : Buffer) : Prop :=
  before.Advanced after ∨ ∃ capacity, (before.withCapacity capacity).Advanced after

/-- What a buffer has left of two cursors that it marked, when its capacity has been down to
`least`: the marks are cut to that, and the cursors have not fallen behind the marks. -/
structure Retains (reader writer least : Nat) (now : Buffer) : Prop where
  markedReader : now.markedReader = min reader least
  markedWriter : now.markedWriter = min writer least
  reader : min reader least ≤ now.readerIndex
  writer : min writer least ≤ now.writerIndex
  within : least ≤ now.capacity

variable {first second now later : Buffer} {reader writer least capacity : Nat}

theorem Onward.recapped (onward : first.Onward second) : first.Recapped second := by
  rcases onward with advanced | ⟨capacity, _, advanced⟩
  · exact .inl advanced
  · exact .inr ⟨capacity, advanced⟩

namespace Retains

theorem marked (ordered : now.Ordered) :
    now.markReader.markWriter.Retains now.readerIndex now.writerIndex now.capacity := by
  obtain ⟨reader, writer, _⟩ := ordered
  have readerCut : min now.readerIndex now.capacity = now.readerIndex := by omega
  have writerCut : min now.writerIndex now.capacity = now.writerIndex := by omega
  exact ⟨readerCut.symm, writerCut.symm, Nat.min_le_left _ _, Nat.min_le_left _ _, Nat.le_refl _⟩

theorem advanced (retains : now.Retains reader writer least) (advanced : now.Advanced later) :
    later.capacity = now.capacity ∧ later.Retains reader writer least := by
  obtain ⟨read, written, rfl⟩ := advanced
  exact ⟨rfl, retains.markedReader, retains.markedWriter, Nat.le_add_right_of_le retains.reader,
    Nat.le_add_right_of_le retains.writer, retains.within⟩

theorem withCapacity (retains : now.Retains reader writer least) (ordered : reader ≤ writer) :
    (now.withCapacity capacity).Retains reader writer (min capacity least) := by
  obtain ⟨markedReader, markedWriter, readerPassed, writerPassed, within⟩ := retains
  -- The marked reader lies before the marked writer, so only the capacity can cut it.
  constructor
  all_goals simp only [Buffer.withCapacity]
  all_goals omega

/-- Whatever the new capacity is, only the smallest one counts. -/
theorem recapped (retains : now.Retains reader writer least) (ordered : reader ≤ writer)
    (recapped : now.Recapped later) : later.Retains reader writer (min later.capacity least) := by
  rcases recapped with advanced | ⟨capacity, advanced⟩
  · obtain ⟨same, still⟩ := retains.advanced advanced
    rwa [same, Nat.min_eq_right retains.within]
  · obtain ⟨same, still⟩ := (retains.withCapacity ordered).advanced advanced
    rwa [same]

/-- Both resets succeed, the reader first. -/
theorem resets (retains : now.Retains reader writer least) (ordered : reader ≤ writer) :
    now.resetReader = .ok { now with readerIndex := min reader least } ∧
      Buffer.resetWriter { now with readerIndex := min reader least } =
        .ok { now with readerIndex := min reader least, writerIndex := min writer least } := by
  obtain ⟨markedReader, markedWriter, _, writerPassed, within⟩ := retains
  constructor
  · rw [Buffer.resetReader, Buffer.setReaderIndex, markedReader, if_neg (by omega)]
  · -- The reader has come back before the marked writer by now.
    rw [Buffer.resetWriter, Buffer.setWriterIndex, if_neg]
    · rw [markedWriter]
    · simp only [markedWriter]
      omega

end Retains

end Buffer

/-- The operations that set a cursor or a mark. -/
def BufferCommand.Seeks : BufferCommand → Prop
  | .setReaderIndex _ => True
  | .setWriterIndex _ => True
  | .setIndex _ _ => True
  | .clear => True
  | .markReader => True
  | .markWriter => True
  | .resetReader => True
  | .resetWriter => True
  | _ => False

namespace Action

variable {id other target : BufferId} {index length capacity : Nat}

theorem Carries.recapped {α : Type} {action : Action α}
    (onward : action.Carries id Buffer.Onward) : action.Carries id Buffer.Recapped :=
  onward.mono Buffer.Onward.recapped

theorem carries_setCapacity : (setCapacity other capacity).Carries id Buffer.Recapped := by
  intro store buffer live
  cases found : store.buffers.get? other with
  | none =>
      rw [setCapacity, runOn_bind_buffer_none found]
      exact ⟨buffer, live, .inl .refl⟩
  | some resizer =>
      rw [runOn_setCapacity found]
      split
      · rename_i region _
        change ∃ later, (store.refitted other resizer capacity region).buffers.get? id =
          some later ∧ _
        rw [Store.get?_refitted found]
        split
        · rename_i same
          subst same
          cases live.symm.trans found
          exact ⟨_, rfl, .inr ⟨capacity, .refl⟩⟩
        · exact ⟨buffer, live, .inl .refl⟩
      · exact ⟨buffer, live, .inl .refl⟩

theorem carries_newArena {region : Region} : (newArena region).Carries id Buffer.Advanced :=
  .of_buffers fun _ => by simp

theorem carries_newBuffer {make : BufferId → Buffer} :
    (newBuffer make).Carries id Buffer.Advanced :=
  fun _ buffer live => ⟨buffer, Table.get?_add_of_get? live, .refl⟩

theorem carries_copyRange : (copyRange other index length).Carries id Buffer.Advanced :=
  .bind_advanced (.of_observes observes_buffer) fun _ =>
    .bind_advanced (.of_observes fun _ => rfl) fun _ =>
      .bind_advanced (.of_observes observes_check) fun _ =>
        .bind_advanced (.of_observes observes_check) fun _ =>
          .bind_advanced carries_newArena fun _ => carries_newBuffer

theorem carries_sliceRange : (sliceRange other index length).Carries id Buffer.Advanced :=
  .bind_advanced (.of_observes observes_inspect) fun _ =>
    .bind_advanced (.of_observes observes_inspect) fun _ =>
      .bind_advanced (.of_observes observes_buffer) fun _ => carries_newBuffer

theorem carries_duplicate : (duplicate other).Carries id Buffer.Advanced :=
  .bind_advanced (.of_observes observes_inspect) fun _ =>
    .bind_advanced (.of_observes observes_buffer) fun _ => carries_newBuffer

theorem carries_of_not_seeks {command : BufferCommand} (still : ¬ command.Seeks) :
    (command.perform other).Carries id Buffer.Recapped := by
  cases command with
  | setReaderIndex _ | setWriterIndex _ | setIndex _ _ | clear | markReader | markWriter
  | resetReader | resetWriter => exact (still trivial).elim
  | setCapacity capacity => exact carries_setCapacity.bind_pure
  | copy =>
      exact (Carries.bind_advanced (.of_observes observes_buffer) fun _ =>
        carries_copyRange).bind_pure.onward.recapped
  | copyRange index length => exact carries_copyRange.bind_pure.onward.recapped
  | slice =>
      exact (Carries.bind_advanced (.of_observes observes_buffer) fun _ =>
        carries_sliceRange).bind_pure.onward.recapped
  | sliceRange index length => exact carries_sliceRange.bind_pure.onward.recapped
  | duplicate => exact carries_duplicate.bind_pure.onward.recapped
  | _ => exact Carries.recapped (carries_perform trivial)

end Action

/-- The commands that let a buffer live and set neither its cursors nor its marks. -/
def Command.Retraceable (id : BufferId) : Command → Prop
  | .onBuffer buffer command => buffer = id → ¬ command.Seeks
  | .release buffer => buffer ≠ id
  | .drop buffer => buffer ≠ id
  | _ => True

namespace Store

/-- The capacities that a buffer has before, between and after some commands. -/
def capacities (store : Store) (id : BufferId) (traffic : List Command) : List Nat :=
  traffic.inits.filterMap fun earlier => ((store.after earlier).buffers.get? id).map (·.capacity)

variable {store : Store} {id : BufferId} {buffer later : Buffer} {command : Command}
variable {traffic : List Command} {least : Nat}

theorem capacities_nil (live : store.buffers.get? id = some buffer) :
    store.capacities id [] = [buffer.capacity] := by
  simp [capacities, live]

theorem capacities_concat
    (stays : (store.after (traffic ++ [command])).buffers.get? id = some later) :
    store.capacities id (traffic ++ [command]) =
      store.capacities id traffic ++ [later.capacity] := by
  simp [capacities, List.inits_append, stays]

/-- Each command adds one capacity to choose the smallest from. -/
theorem min_capacities_concat (smallest : (store.capacities id traffic).min? = some least)
    (stays : (store.after (traffic ++ [command])).buffers.get? id = some later) :
    (store.capacities id (traffic ++ [command])).min? = some (min later.capacity least) := by
  rw [List.min?_eq_some_iff] at smallest
  obtain ⟨among, lower⟩ := smallest
  rw [capacities_concat stays, List.min?_eq_some_iff]
  constructor
  · rcases Nat.le_total later.capacity least with below | above
    · simp [Nat.min_eq_left below]
    · simp [Nat.min_eq_right above, among]
  · intro capacity inside
    rcases List.mem_append.mp inside with before | last
    · exact Nat.le_trans (Nat.min_le_right _ _) (lower capacity before)
    · cases List.mem_singleton.mp last
      exact Nat.min_le_left _ _

theorem recapped_of_retraceable (live : store.buffers.get? id = some buffer)
    (retraceable : command.Retraceable id) :
    ∃ later, (store.run command).2.buffers.get? id = some later ∧ buffer.Recapped later := by
  by_cases own : ∃ request, command = .onBuffer id request
  · obtain ⟨request, rfl⟩ := own
    exact Action.carries_of_not_seeks (retraceable rfl) store buffer live
  · have flows : command.Flows id := by
      cases command with
      | onBuffer named request => exact fun same => (own ⟨request, same ▸ rfl⟩).elim
      | _ => exact retraceable
    obtain ⟨later, stays, onward⟩ := onward_of_flows live flows
    exact ⟨later, stays, onward.recapped⟩

/-- Through any traffic the marks are cut to the smallest capacity that the buffer has had. -/
theorem retains_after_traffic {reader writer : Nat} (live : store.buffers.get? id = some buffer)
    (marked : buffer.Retains reader writer buffer.capacity) (ordered : reader ≤ writer)
    (retraceable : ∀ command ∈ traffic, command.Retraceable id) :
    ∃ least later, (store.capacities id traffic).min? = some least ∧
      (store.after traffic).buffers.get? id = some later ∧ later.Retains reader writer least := by
  induction traffic using List.reverseRecOn with
  | nil =>
      refine ⟨buffer.capacity, buffer, ?_, live, marked⟩
      rw [capacities_nil live]
      rfl
  | append_singleton traffic command ih =>
      obtain ⟨least, between, smallest, stays, retains⟩ := ih fun earlier inside =>
        retraceable earlier (List.mem_append_left _ inside)
      obtain ⟨later, reached, recapped⟩ :=
        recapped_of_retraceable stays (retraceable command (by simp))
      rw [← after_concat] at reached
      exact ⟨_, later, min_capacities_concat smallest reached, reached,
        retains.recapped ordered recapped⟩

theorem get?_after_marks {marks : List Command} (live : store.buffers.get? id = some buffer)
    (both : marks = [.onBuffer id .markReader, .onBuffer id .markWriter] ∨
      marks = [.onBuffer id .markWriter, .onBuffer id .markReader]) :
    (store.after marks).buffers.get? id = some buffer.markReader.markWriter := by
  rcases both with rfl | rfl
  · obtain ⟨_, stays⟩ := run_of_revised .markReader rfl live rfl
    exact (run_of_revised .markWriter rfl stays rfl).2
  · obtain ⟨_, stays⟩ := run_of_revised .markWriter rfl live rfl
    exact (run_of_revised .markReader rfl stays rfl).2

/-- Let both cursors of a buffer be marked, in either order, and then anything happen that sets
neither its cursors nor its marks. A reset of the reader and then of the writer succeeds, and leads
to the marked cursors, cut to the smallest capacity that the buffer has had since. -/
theorem cursors_after_rewind {commands marks traffic : List Command}
    (live : (initial.after commands).buffers.get? id = some buffer)
    (both : marks = [.onBuffer id .markReader, .onBuffer id .markWriter] ∨
      marks = [.onBuffer id .markWriter, .onBuffer id .markReader])
    (retraceable : ∀ command ∈ traffic, command.Retraceable id) :
    let marked := (initial.after commands).after marks
    let reached := marked.after traffic
    let unread := reached.run (.onBuffer id .resetReader)
    let rewound := unread.2.run (.onBuffer id .resetWriter)
    ∃ least restored, (marked.capacities id traffic).min? = some least ∧
      unread.1 = .ok .done ∧ rewound.1 = .ok .done ∧
      rewound.2.buffers.get? id = some restored ∧
      restored.readerIndex = min buffer.readerIndex least ∧
      restored.writerIndex = min buffer.writerIndex least ∧
      ((∀ capacity ∈ marked.capacities id traffic, buffer.writerIndex ≤ capacity) →
        restored.readerIndex = buffer.readerIndex ∧
          restored.writerIndex = buffer.writerIndex) := by
  have cursors : buffer.Ordered := ordered_of_live live
  have marked : buffer.markReader.markWriter.Retains buffer.readerIndex buffer.writerIndex
    buffer.capacity := .marked cursors
  obtain ⟨least, current, smallest, stays, retains⟩ := retains_after_traffic
    (get?_after_marks live both) marked cursors.reader retraceable
  obtain ⟨resetReader, resetWriter⟩ := retains.resets cursors.reader
  obtain ⟨unread, halfway⟩ := run_of_revised .resetReader rfl stays resetReader
  obtain ⟨rewound, reached⟩ := run_of_revised .resetWriter rfl halfway resetWriter
  refine ⟨least, _, smallest, unread, rewound, reached, rfl, rfl, fun ample => ?_⟩
  have enough : buffer.writerIndex ≤ least := ample least (List.min?_mem smallest)
  exact ⟨Nat.min_eq_left (Nat.le_trans cursors.reader enough), Nat.min_eq_left enough⟩

/-- A buffer of eight bytes with its cursors at 4 and 6. -/
def partlyRead : List Command :=
  [.allocate (.plain {}) { capacity := 8, maxCapacity := 64 },
    .onBuffer 0 (.writeBytes #[1, 2, 3, 4, 5, 6]), .onBuffer 0 (.readBytes 4)]

/-- The buffer is cut to three bytes and then grows again; a larger capacity is refused. -/
def cutAndRegrown : List Command :=
  [.onBuffer 0 (.skipBytes 1), .onBuffer 0 (.setCapacity 3), .onBuffer 0 (.writeBytes #[7, 8]),
    .onBuffer 0 (.setCapacity 100), .onBuffer 0 (.readBytes 2)]

theorem cursors_after_rewind_through_shrink :
    ((((((initial.after partlyRead).after [.onBuffer 0 .markReader, .onBuffer 0 .markWriter]).after
      cutAndRegrown).run (.onBuffer 0 .resetReader)).2.run
        (.onBuffer 0 .resetWriter)).2.buffers.get? (0 : BufferId)).map
          (fun buffer => (buffer.readerIndex, buffer.writerIndex)) = some (3, 3) := by
  obtain ⟨buffer, live, reader, writer⟩ : ∃ buffer,
      (initial.after partlyRead).buffers.get? (0 : BufferId) = some buffer ∧
      buffer.readerIndex = 4 ∧ buffer.writerIndex = 6 := ⟨_, rfl, rfl, rfl⟩
  have retraceable : ∀ command ∈ cutAndRegrown, command.Retraceable 0 := by
    simp [cutAndRegrown, Command.Retraceable, BufferCommand.Seeks]
  obtain ⟨least, restored, smallest, _, _, rewound, readerBack, writerBack, _⟩ :=
    cursors_after_rewind live (.inl rfl) retraceable
  have three : least = 3 := Option.some.inj (smallest.symm.trans (by decide +kernel))
  rw [rewound, Option.map_some, readerBack, writerBack, reader, writer, three]
  rfl

end Store

end CursorBuffers
