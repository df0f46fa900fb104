import CursorBuffers.Proofs.Atomic
import CursorBuffers.Proofs.Room

/-!
What becomes of a mark. Whatever reads, writes or makes room lets a buffer grow at most once and
then moves its cursors onward; growth cuts the marked reader down to the marked writer.
-/

namespace CursorBuffers

namespace Buffer

/-- The cursors have moved onward. -/
def Advanced (before after : Buffer) : Prop :=
  ∃ read written, after = (before.advanceReader read).advanceWriter written

/-- The buffer may have grown, and then the cursors have moved onward. -/
def Onward (before after : Buffer) : Prop :=
  before.Advanced after ∨
    ∃ capacity, before.capacity < capacity ∧ (before.withCapacity capacity).Advanced after

/-- What a buffer knows of the time when its reader was marked. -/
structure Recalls (marked now : Buffer) : Prop where
  passed : marked.readerIndex ≤ now.readerIndex
  larger : marked.capacity ≤ now.capacity
  kept : now.capacity = marked.capacity → now.markedReader = marked.readerIndex
  cut : marked.capacity < now.capacity →
    now.markedReader = min marked.readerIndex marked.markedWriter
  -- Beyond the reader the marked writer does not matter, so growth may cut it.
  bound : min marked.readerIndex now.markedWriter = min marked.readerIndex marked.markedWriter

variable {first second third marked now later : Buffer} {length capacity : Nat}

theorem Advanced.refl : first.Advanced first := ⟨0, 0, rfl⟩

theorem Advanced.trans (early : first.Advanced second) (late : second.Advanced third) :
    first.Advanced third := by
  obtain ⟨read, written, rfl⟩ := early
  obtain ⟨more, also, rfl⟩ := late
  refine ⟨read + more, written + also, ?_⟩
  simp only [advanceReader, advanceWriter, Nat.add_assoc]

theorem Onward.trans_advanced (early : first.Onward second) (late : second.Advanced third) :
    first.Onward third := by
  rcases early with advanced | ⟨capacity, larger, advanced⟩
  · exact .inl (advanced.trans late)
  · exact .inr ⟨capacity, larger, advanced.trans late⟩

namespace Recalls

theorem markReader : first.Recalls first.markReader :=
  ⟨Nat.le_refl _, Nat.le_refl _, fun _ => rfl, fun grown => absurd grown (Nat.lt_irrefl _), rfl⟩

theorem advanced (recalls : marked.Recalls now) (advanced : now.Advanced later) :
    marked.Recalls later := by
  obtain ⟨read, written, rfl⟩ := advanced
  exact ⟨Nat.le_add_right_of_le recalls.passed, recalls.larger, recalls.kept, recalls.cut,
    recalls.bound⟩

theorem withCapacity (recalls : marked.Recalls now) (ordered : now.Ordered)
    (larger : now.capacity < capacity) : marked.Recalls (now.withCapacity capacity) := by
  obtain ⟨passed, least, kept, cut, bound⟩ := recalls
  obtain ⟨reader, writer, _⟩ := ordered
  -- The mark lies before the reader, and so within the new capacity.
  have within : marked.readerIndex ≤ capacity := by omega
  have marks : now.markedReader = marked.readerIndex ∨
      now.markedReader = min marked.readerIndex marked.markedWriter := by
    rcases Nat.eq_or_lt_of_le least with same | grown
    · exact .inl (kept same.symm)
    · exact .inr (cut grown)
  refine ⟨?_, ?_, fun same => ?_, fun grown => ?_, ?_⟩
  all_goals simp only [Buffer.withCapacity] at *
  all_goals omega

theorem onward (recalls : marked.Recalls now) (ordered : now.Ordered) (onward : now.Onward later) :
    marked.Recalls later := by
  rcases onward with advanced | ⟨capacity, larger, advanced⟩
  · exact recalls.advanced advanced
  · exact (recalls.withCapacity ordered larger).advanced advanced

end Recalls

end Buffer

namespace Action

/-- Whatever becomes of a buffer that was live is related to what it was. -/
def Carries {α : Type} (id : BufferId) (relation : Buffer → Buffer → Prop) (action : Action α) :
    Prop :=
  ∀ store buffer, store.buffers.get? id = some buffer →
    ∃ later, (runOn action store).2.buffers.get? id = some later ∧ relation buffer later

variable {α β : Type} {id other target : BufferId} {index otherIndex length : Nat}

namespace Carries

variable {action : Action α} {next : α → Action β}

theorem bind {early late whole : Buffer → Buffer → Prop} (first : action.Carries id early)
    (rest : ∀ value, (next value).Carries id late)
    (alone : ∀ {before after}, early before after → whole before after)
    (joined : ∀ {before between after}, early before between → late between after →
      whole before after) : (action >>= next).Carries id whole := by
  intro store buffer live
  obtain ⟨between, stays, moved⟩ := first store buffer live
  rw [runOn_bind]
  rcases outcome : runOn action store with ⟨failure | value, middle⟩
  · rw [outcome] at stays
    exact ⟨between, stays, alone moved⟩
  · rw [outcome] at stays
    obtain ⟨later, reached, also⟩ := rest value middle between stays
    exact ⟨later, reached, joined moved also⟩

theorem of_buffers (kept : ∀ store, (runOn action store).2.buffers = store.buffers) :
    action.Carries id Buffer.Advanced :=
  fun store buffer live => ⟨buffer, by rw [kept, live], .refl⟩

theorem of_observes (observes : action.Observes) : action.Carries id Buffer.Advanced :=
  of_buffers fun store => by rw [observes]

theorem bind_advanced (first : action.Carries id Buffer.Advanced)
    (rest : ∀ value, (next value).Carries id Buffer.Advanced) :
    (action >>= next).Carries id Buffer.Advanced :=
  first.bind rest (fun advanced => advanced) .trans

/-- The cursors move onward after whatever growth there was. -/
theorem bind_onward (first : action.Carries id Buffer.Onward)
    (rest : ∀ value, (next value).Carries id Buffer.Advanced) :
    (action >>= next).Carries id Buffer.Onward :=
  first.bind rest (fun onward => onward) .trans_advanced

theorem onward_of_observes (observes : action.Observes)
    (rest : ∀ value, (next value).Carries id Buffer.Onward) :
    (action >>= next).Carries id Buffer.Onward := by
  intro store buffer live
  have kept := observes store
  rw [runOn_bind]
  rcases outcome : runOn action store with ⟨failure | value, middle⟩
  · rw [outcome] at kept
    exact ⟨buffer, kept.symm ▸ live, .inl .refl⟩
  · rw [outcome] at kept
    cases kept
    exact rest value _ buffer live

theorem mono {early late : Buffer → Buffer → Prop} (first : action.Carries id early)
    (weaker : ∀ {before after}, early before after → late before after) :
    action.Carries id late := by
  intro store buffer live
  obtain ⟨later, stays, moved⟩ := first store buffer live
  exact ⟨later, stays, weaker moved⟩

theorem onward (first : action.Carries id Buffer.Advanced) : action.Carries id Buffer.Onward :=
  first.mono .inl

theorem bind_pure {relation : Buffer → Buffer → Prop} {value : α → β}
    (first : action.Carries id relation) :
    (action >>= fun result => pure (value result)).Carries id relation := by
  intro store buffer live
  rw [after_bind_pure]
  exact first store buffer live

end Carries

theorem carries_mapBuffer {change : Buffer → Buffer}
    (advances : ∀ buffer : Buffer, buffer.Advanced (change buffer)) :
    (modify (·.mapBuffer other change) : Action Unit).Carries id Buffer.Advanced := by
  intro store buffer live
  rw [runOn_modify, Store.get?_mapBuffer, live]
  refine ⟨_, rfl, ?_⟩
  split
  · exact advances buffer
  · exact .refl

theorem carries_advanceReader : (advanceReader other length).Carries id Buffer.Advanced :=
  carries_mapBuffer fun _ => ⟨length, 0, rfl⟩

theorem carries_advanceWriter : (advanceWriter other length).Carries id Buffer.Advanced :=
  carries_mapBuffer fun _ => ⟨0, length, rfl⟩

theorem carries_overwrite {rule : Buffer → Arena → Except MemoryError Region} :
    (overwrite other rule).Carries id Buffer.Advanced :=
  .of_buffers fun _ => buffers_overwrite rfl

theorem carries_move :
    (move other index target otherIndex length).Carries id Buffer.Advanced := by
  refine .of_buffers fun store => ?_
  rcases outcome : runOn (move other index target otherIndex length) store with ⟨failure | _, after⟩
  · rw [atomic_move store failure after outcome]
  · exact buffers_move outcome

theorem carries_ensureWritable : (ensureWritable other length).Carries id Buffer.Onward := by
  intro store buffer live
  cases found : store.buffers.get? other with
  | none =>
      rw [ensureWritable, runOn_bind_buffer_none found]
      exact ⟨buffer, live, .inl .refl⟩
  | some grower =>
      have made : RoomMade store other grower length _ := roomMade found
      generalize runOn (ensureWritable other length) store = outcome at made ⊢
      cases made with
      | ample enough => exact ⟨buffer, live, .inl .refl⟩
      | refused short reason => exact ⟨buffer, live, .inl .refl⟩
      | @grown capacity region short larger needed allowed resized =>
          rw [Store.get?_refitted found]
          split
          · rename_i same
            subst same
            cases live.symm.trans found
            exact ⟨_, rfl, .inr ⟨capacity, larger, .refl⟩⟩
          · exact ⟨buffer, live, .inl .refl⟩

theorem carries_readScalar {kind : ScalarKind} {order : ByteOrder} :
    (readScalar other kind order).Carries id Buffer.Advanced :=
  .bind_advanced (.of_observes observes_inspect) fun _ =>
    .bind_advanced (.of_observes observes_readerIndex) fun _ =>
      .bind_advanced (.of_observes observes_inspect) fun _ => carries_advanceReader.bind_pure

theorem carries_readBytes : (readBytes other length).Carries id Buffer.Advanced :=
  .bind_advanced (.of_observes observes_inspect) fun _ =>
    .bind_advanced (.of_observes observes_readerIndex) fun _ =>
      .bind_advanced (.of_observes observes_inspect) fun _ => carries_advanceReader.bind_pure

theorem carries_skipBytes : (skipBytes other length).Carries id Buffer.Advanced :=
  .bind_advanced (.of_observes observes_inspect) fun _ => carries_advanceReader

theorem carries_append {data : Bytes} : (append other data).Carries id Buffer.Onward :=
  .bind_onward carries_ensureWritable fun _ =>
    .bind_advanced (.of_observes observes_writerIndex) fun _ =>
      .bind_advanced carries_overwrite fun _ => carries_advanceWriter

theorem carries_getBytesAt :
    (getBytesAt other index target otherIndex length).Carries id Buffer.Advanced :=
  .bind_advanced (.of_observes observes_inspect) fun _ =>
    .bind_advanced (.of_observes observes_inspect) fun _ => carries_move

theorem carries_setBytesAt :
    (setBytesAt other index target otherIndex length).Carries id Buffer.Advanced :=
  .bind_advanced (.of_observes observes_inspect) fun _ =>
    .bind_advanced (.of_observes observes_inspect) fun _ => carries_move

theorem carries_setBytesFrom :
    (setBytesFrom other index target length).Carries id Buffer.Advanced :=
  .bind_advanced (.of_observes observes_inspect) fun _ =>
    .bind_advanced (.of_observes observes_readerIndex) fun _ =>
      .bind_advanced carries_setBytesAt fun _ => carries_advanceReader

theorem carries_getBytesTo : (getBytesTo other index target length).Carries id Buffer.Onward :=
  .bind_onward carries_ensureWritable fun _ =>
    .bind_advanced (.of_observes observes_writerIndex) fun _ =>
      .bind_advanced carries_getBytesAt fun _ => carries_advanceWriter

theorem carries_transfer {command : TransferCommand} :
    (command.perform other target length).Carries id Buffer.Onward := by
  cases command with
  | getBytesTo index => exact carries_getBytesTo
  | getBytesAt index otherIndex => exact carries_getBytesAt.onward
  | setBytesFrom index => exact carries_setBytesFrom.onward
  | setBytesAt index otherIndex => exact carries_setBytesAt.onward
  | readBytesTo =>
      exact .onward_of_observes observes_inspect fun _ =>
        .onward_of_observes observes_readerIndex fun _ =>
          .bind_onward carries_getBytesTo fun _ => carries_advanceReader
  | writeBytesFrom =>
      exact .bind_onward carries_ensureWritable fun _ =>
        .bind_advanced (.of_observes observes_writerIndex) fun _ =>
          .bind_advanced carries_setBytesFrom fun _ => carries_advanceWriter

end Action

/-- The operations that read, write or make room. -/
def BufferCommand.Flows : BufferCommand → Prop
  | .getScalar _ _ _ => True
  | .setScalar _ _ _ => True
  | .readScalar _ _ => True
  | .writeScalar _ _ => True
  | .getBytes _ _ => True
  | .setBytes _ _ => True
  | .readBytes _ => True
  | .writeBytes _ => True
  | .skipBytes _ => True
  | .toBytes => True
  | .hexDump _ => True
  | .ensureWritable _ => True
  | _ => False

namespace Action

variable {id other : BufferId}

theorem carries_perform {command : BufferCommand} (flows : command.Flows) :
    (command.perform other).Carries id Buffer.Onward := by
  cases command with
  | getScalar kind order index => exact (Carries.of_observes observes_inspect).bind_pure.onward
  | getBytes index length => exact (Carries.of_observes observes_inspect).bind_pure.onward
  | toBytes => exact (Carries.of_observes observes_inspect).bind_pure.onward
  | hexDump => exact (Carries.of_observes observes_inspect).bind_pure.bind_pure.onward
  | setScalar order index value => exact carries_overwrite.bind_pure.onward
  | setBytes index data => exact carries_overwrite.bind_pure.onward
  | readScalar kind order => exact carries_readScalar.bind_pure.onward
  | readBytes length => exact carries_readBytes.bind_pure.onward
  | skipBytes length => exact carries_skipBytes.bind_pure.onward
  | writeScalar order value => exact (writeScalar_eq_append ▸ carries_append).bind_pure
  | writeBytes data =>
      exact (Carries.onward_of_observes observes_check fun _ => carries_append).bind_pure
  | ensureWritable length => exact carries_ensureWritable.bind_pure
  | _ => exact flows.elim

end Action

/-- The commands that let a buffer live and do no more to it than read, write and make room. -/
def Command.Flows (id : BufferId) : Command → Prop
  | .onBuffer buffer command => buffer = id → command.Flows
  | .release buffer => buffer ≠ id
  | .drop buffer => buffer ≠ id
  | _ => True

namespace Store

variable {store : Store} {id : BufferId} {buffer : Buffer} {command : Command}

theorem live_of_other (live : store.buffers.get? id = some buffer)
    (unnamed : id ∉ command.handles) : (store.run command).2.buffers.get? id = some buffer :=
  steps_run.untouched (Command.not_touches live unnamed) live

theorem onward_of_flows (live : store.buffers.get? id = some buffer) (flows : command.Flows id) :
    ∃ later, (store.run command).2.buffers.get? id = some later ∧ buffer.Onward later := by
  cases command with
  | onBuffer named request =>
      by_cases own : named = id
      · exact (Action.carries_perform (flows own)) store buffer live
      · have unnamed : id ∉ (Command.onBuffer named request).handles := by
          simpa [Command.handles] using Ne.symm own
        exact ⟨buffer, live_of_other live unnamed, .inl .refl⟩
  | transfer source other request length =>
      exact Action.carries_transfer.bind_pure store buffer live
  | release named =>
      exact ⟨buffer, live_of_other live (by simpa [Command.handles] using Ne.symm flows),
        .inl .refl⟩
  | drop named =>
      exact ⟨buffer, live_of_other live (by simpa [Command.handles] using Ne.symm flows),
        .inl .refl⟩
  | _ => exact ⟨buffer, live_of_other live (by simp [Command.handles]), .inl .refl⟩

/-- An operation that changes nothing but a buffer, where its rule allows. -/
theorem run_of_revised (request : BufferCommand) {rule : Buffer → Except MemoryError Buffer}
    {changed : Buffer}
    (revises : request.perform id = Action.revise id rule >>= fun _ => pure Answer.done)
    (live : store.buffers.get? id = some buffer) (ruled : rule buffer = .ok changed) :
    (store.run (.onBuffer id request)).1 = .ok .done ∧
      (store.run (.onBuffer id request)).2.buffers.get? id = some changed := by
  have ran : store.run (.onBuffer id request) =
      (.ok .done, store.mapBuffer id fun _ => changed) := by
    change Action.runOn (request.perform id) store = _
    rw [revises, Action.runOn_bind, Action.runOn_revise live, ruled]
    rfl
  rw [ran, get?_mapBuffer, live, Option.map_some, if_pos rfl]
  exact ⟨rfl, rfl⟩

theorem recalls_after_traffic {commands traffic : List Command}
    (live : (initial.after commands).buffers.get? id = some buffer)
    (flows : ∀ command ∈ traffic, command.Flows id) :
    ∃ later, (initial.after (commands ++ .onBuffer id .markReader :: traffic)).buffers.get? id =
      some later ∧ buffer.Recalls later := by
  induction traffic using List.reverseRecOn with
  | nil =>
      refine ⟨buffer.markReader, ?_, .markReader⟩
      rw [after_concat]
      exact (run_of_revised .markReader rfl live rfl).2
  | append_singleton traffic command ih =>
      obtain ⟨between, stays, recalls⟩ := ih fun earlier inside =>
        flows earlier (List.mem_append_left _ inside)
      obtain ⟨later, reached, onward⟩ := onward_of_flows stays (flows command (by simp))
      refine ⟨later, ?_, recalls.onward (ordered_of_live stays) onward⟩
      rw [← List.cons_append, ← List.append_assoc, after_concat, reached]

/-- A reset of the reader always succeeds after the reader was marked and the buffer then read,
written or given room. It leads to the mark if the buffer has not grown since, and else to the mark
or to the marked writer, whichever comes first. -/
theorem reader_after_reset {commands traffic : List Command}
    (live : (initial.after commands).buffers.get? id = some buffer)
    (flows : ∀ command ∈ traffic, command.Flows id) :
    let reached := initial.after (commands ++ .onBuffer id .markReader :: traffic)
    ∃ current restored, reached.buffers.get? id = some current ∧
      buffer.capacity ≤ current.capacity ∧
      (reached.run (.onBuffer id .resetReader)).1 = .ok .done ∧
      (reached.run (.onBuffer id .resetReader)).2.buffers.get? id = some restored ∧
      restored.readerIndex = (if current.capacity = buffer.capacity then buffer.readerIndex
        else min buffer.readerIndex buffer.markedWriter) ∧
      restored.writerIndex = current.writerIndex := by
  obtain ⟨current, stays, recalls⟩ := recalls_after_traffic live flows
  obtain ⟨reader, writer, _⟩ := ordered_of_live stays
  have mark : current.markedReader = if current.capacity = buffer.capacity then
      buffer.readerIndex else min buffer.readerIndex buffer.markedWriter := by
    split
    · rename_i same
      exact recalls.kept same
    · rename_i grown
      exact recalls.cut (Nat.lt_of_le_of_ne recalls.larger (Ne.symm grown))
  have passed := recalls.passed
  have within : ¬ current.writerIndex < current.markedReader := by
    rw [mark]
    split <;> omega
  have reset : current.resetReader = .ok { current with readerIndex := current.markedReader } :=
    if_neg within
  have ran : (initial.after (commands ++ .onBuffer id .markReader :: traffic)).run
      (.onBuffer id .resetReader) = (.ok .done,
        (initial.after (commands ++ .onBuffer id .markReader :: traffic)).mapBuffer id fun _ =>
          { current with readerIndex := current.markedReader }) := by
    change Action.runOn (Action.revise id (·.resetReader) >>= fun _ => pure Answer.done) _ = _
    rw [Action.runOn_bind, Action.runOn_revise stays, reset]
    rfl
  refine ⟨current, { current with readerIndex := current.markedReader }, stays, recalls.larger,
    ?_, ?_, mark, rfl⟩
  · rw [ran]
  · rw [ran, get?_mapBuffer, stays, Option.map_some, if_pos rfl]

/-- The writer was marked too, and behind the reader, so that growth does not lose the mark. -/
theorem reader_after_reset_through_growth :
    ∃ restored, ((initial.after ([.allocate (.plain {}) { capacity := 4, maxCapacity := 64 },
      .onBuffer 0 (.writeBytes #[1, 2, 3, 4]), .onBuffer 0 (.readBytes 3),
      .onBuffer 0 .markWriter] ++ .onBuffer 0 .markReader :: [.onBuffer 0 (.writeBytes #[5, 6, 7]),
          .onBuffer 0 (.readBytes 2)])).run (.onBuffer 0 .resetReader)).2.buffers.get? 0 =
            some restored ∧ restored.readerIndex = 3 := by
  obtain ⟨buffer, live, reader, writer⟩ : ∃ buffer,
      (initial.after [.allocate (.plain {}) { capacity := 4, maxCapacity := 64 },
        .onBuffer 0 (.writeBytes #[1, 2, 3, 4]), .onBuffer 0 (.readBytes 3),
        .onBuffer 0 .markWriter]).buffers.get? (0 : BufferId) = some buffer ∧
      buffer.readerIndex = 3 ∧ buffer.markedWriter = 4 := ⟨_, rfl, rfl, rfl⟩
  have flows : ∀ command ∈ ([.onBuffer 0 (.writeBytes #[5, 6, 7]), .onBuffer 0 (.readBytes 2)] :
      List Command), command.Flows 0 := by
    simp [Command.Flows, BufferCommand.Flows]
  obtain ⟨current, restored, _, _, _, reset, mark, _⟩ := reader_after_reset live flows
  refine ⟨restored, reset, mark.trans ?_⟩
  rw [reader, writer]
  split <;> rfl

/-- Not every mark outlives growth: here the writer was never marked, so its mark is 0, and the
marked reader is cut down to that. -/
theorem reader_after_reset_not_marked :
    ¬ ∀ (commands traffic : List Command) (id : BufferId) (buffer : Buffer),
      (initial.after commands).buffers.get? id = some buffer →
      (∀ command ∈ traffic, command.Flows id) →
      (((initial.after (commands ++ .onBuffer id .markReader :: traffic)).run
        (.onBuffer id .resetReader)).2.buffers.get? id).map (·.readerIndex) =
          some buffer.readerIndex := by
  intro restores
  obtain ⟨buffer, live, reader⟩ : ∃ buffer,
      (initial.after [.allocate (.plain {}) { capacity := 4, maxCapacity := 64 },
        .onBuffer 0 (.writeBytes #[1, 2, 3, 4]), .onBuffer 0 (.readBytes 3)]).buffers.get? 0 =
          some buffer ∧ buffer.readerIndex = 3 := ⟨_, rfl, rfl⟩
  have same := restores _ [.onBuffer 0 (.writeBytes #[5])] 0 buffer live
    (by simp [Command.Flows, BufferCommand.Flows])
  rw [reader] at same
  revert same
  decide +kernel

end Store

end CursorBuffers
