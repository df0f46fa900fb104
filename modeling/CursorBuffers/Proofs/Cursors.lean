import CursorBuffers.Proofs.Step.Commands

namespace CursorBuffers

namespace Buffer

variable {buffer view : Buffer} {capacity : Nat}

theorem Ordered.withCapacity (allowed : capacity ≤ buffer.maxCapacity) :
    (buffer.withCapacity capacity).Ordered :=
  ⟨Nat.min_le_right _ _, Nat.min_le_right _ _, allowed⟩

theorem Ordered.derived (ordered : buffer.Ordered) (derived : buffer.Derived view) :
    view.Ordered := by
  cases derived with
  | sliced within =>
      exact ⟨Nat.min_le_right _ _, Nat.min_le_right _ _, Nat.le_max_right _ _⟩
  | duplicated => exact ⟨ordered.reader, ordered.writer, ordered.capacity⟩

/-- A window is no larger than what it is a window on. -/
theorem Ordered.maxCapacity_derived (ordered : buffer.Ordered) (derived : buffer.Derived view) :
    view.maxCapacity = buffer.maxCapacity := by
  cases derived with
  | @sliced index length within =>
      have small : length ≤ buffer.maxCapacity := by
        have order := ordered.capacity
        omega
      exact Nat.max_eq_left small
  | duplicated => rfl

end Buffer

/-- The cursors of all buffers are in order, and all maximum capacities are of a kind. -/
def Table.InOrder (buffers : Table Buffer) (fits : Nat → Prop) : Prop :=
  ∀ id buffer, buffers.get? id = some buffer → buffer.Ordered ∧ fits buffer.maxCapacity

section Changes

variable {warrant : Warrant} {store after : Store} {fits : Nat → Prop}

theorem Table.InOrder.add {buffers : Table Buffer} {buffer : Buffer}
    (held : buffers.InOrder fits) (ordered : buffer.Ordered)
    (fit : fits buffer.maxCapacity) : (buffers.add buffer).InOrder fits := by
  intro id other live
  rw [Table.get?_add] at live
  split at live
  · cases live
    exact ⟨ordered, fit⟩
  · exact held id other live

theorem Table.InOrder.update {buffers : Table Buffer} {changed : BufferId} {buffer : Buffer}
    (held : buffers.InOrder fits) (ordered : buffer.Ordered)
    (fit : fits buffer.maxCapacity) :
    (buffers.update changed fun _ => buffer).InOrder fits := by
  intro id other live
  rw [Table.get?_update] at live
  split at live
  · obtain ⟨_, _, rfl⟩ := Option.map_eq_some_iff.mp live
    exact ⟨ordered, fit⟩
  · exact held id other live

theorem BuffersChanged.inOrder {buffers later : Table Buffer}
    (changed : BuffersChanged warrant buffers later)
    (granted : ∀ maximum, warrant.grants maximum → fits maximum)
    (held : buffers.InOrder fits) : later.InOrder fits := by
  cases changed with
  | kept => exact held
  | created allowed origin ordered => exact held.add ordered (granted _ allowed)
  | derived named live derived =>
      obtain ⟨ordered, fit⟩ := held _ _ live
      exact held.add (ordered.derived derived) (ordered.maxCapacity_derived derived ▸ fit)
  | placed named live moved =>
      obtain ⟨ordered, fit⟩ := held _ _ live
      exact held.update (moved.ordered ordered) (moved.akin.maxCapacity ▸ fit)
  | resized named live allowed =>
      exact held.update (.withCapacity allowed) (held _ _ live).2
  | vacated named =>
      intro id buffer live
      rw [Table.get?_vacate] at live
      split at live
      · contradiction
      · exact held id buffer live

theorem Steps.inOrder (steps : Steps warrant store after)
    (granted : ∀ maximum, warrant.grants maximum → fits maximum)
    (held : store.buffers.InOrder fits) : after.buffers.InOrder fits := by
  induction steps with
  | refl => exact held
  | tail _ step ih => exact step.buffers.inOrder granted ih

end Changes

namespace Command

/-- The numbers of a command fit in 32 bits. -/
def Sized : Command → Prop
  | .allocate _ request => request.maxCapacity ≤ Bytes.lengthLimit
  | .wrap (.block content _) _ => content.size ≤ Bytes.lengthLimit
  | .onBuffer _ (.copyRange _ length) => length ≤ Bytes.lengthLimit
  | _ => True

theorem Sized.grants {command : Command} {store : Store} {maximum : Nat} (sized : command.Sized)
    (held : store.buffers.InOrder (· ≤ Bytes.lengthLimit))
    (granted : command.Grants store maximum) : maximum ≤ Bytes.lengthLimit := by
  cases granted with
  | allocate => exact sized
  | wrapBlock => exact sized
  | wrapArray short => exact short
  | wrapBytes short => exact short
  | wrapHex decoded short => exact short
  | wrapChunks short => exact short
  | copy live =>
      obtain ⟨ordered, within⟩ := held _ _ live
      exact Nat.max_le.mpr ⟨within, Nat.le_trans ordered.capacity within⟩
  | copyRange live => exact Nat.max_le.mpr ⟨(held _ _ live).2, sized⟩

end Command

namespace Store

variable {commands : List Command} {id : BufferId} {buffer : Buffer}

theorem inOrder_initial {fits : Nat → Prop} : initial.buffers.InOrder fits := by
  intro id buffer live
  rw [Table.get?_eq_none_of_next_le (Nat.zero_le id)] at live
  contradiction

theorem ordered_of_live (live : (initial.after commands).buffers.get? id = some buffer) :
    buffer.Ordered := by
  have reachable : (initial.after commands).Reachable := ⟨commands, rfl⟩
  have held : (initial.after commands).buffers.InOrder fun _ => True :=
    reachable.induction inOrder_initial fun step kept =>
      step.buffers.inOrder (fun _ _ => trivial) kept
  exact (held id buffer live).1

theorem Reachable.ordered {store : Store} (reachable : store.Reachable)
    (live : store.buffers.get? id = some buffer) : buffer.Ordered := by
  obtain ⟨commands, rfl⟩ := reachable
  exact ordered_of_live live

theorem inOrder_of_sized (sized : ∀ command ∈ commands, command.Sized) :
    (initial.after commands).buffers.InOrder (· ≤ Bytes.lengthLimit) := by
  induction commands using List.reverseRecOn with
  | nil => exact inOrder_initial
  | append_singleton commands command ih =>
      rw [after_concat]
      have held := ih fun earlier inside => sized earlier (List.mem_append_left _ inside)
      have last : command.Sized := sized command (by simp)
      exact steps_run.inOrder (fun maximum granted => last.grants held granted) held

/-- In every reachable store the cursors of a buffer are in order, so that none of its counts of
bytes is cut off. If all numbers of a run have 32 bits, so have the cursors after any move that the
check before it lets pass. -/
theorem cursors_in_order (live : (initial.after commands).buffers.get? id = some buffer) :
    (buffer.readerIndex ≤ buffer.writerIndex ∧ buffer.writerIndex ≤ buffer.capacity ∧
      buffer.capacity ≤ buffer.maxCapacity) ∧
    (buffer.readerIndex + buffer.readableBytes = buffer.writerIndex ∧
      buffer.writerIndex + buffer.writableBytes = buffer.capacity ∧
      buffer.writerIndex + buffer.maxWritableBytes = buffer.maxCapacity) ∧
    ((∀ command ∈ commands, command.Sized) →
      buffer.maxCapacity ≤ Bytes.lengthLimit ∧
      (∀ length, buffer.checkReadable ((initial.after commands).arena buffer.arena) length =
        .ok () → (buffer.advanceReader length).readerIndex ≤ Bytes.lengthLimit) ∧
      ∀ length after grown, (Action.ensureWritable id length).runOn (initial.after commands) =
        (.ok (), after) → after.buffers.get? id = some grown →
          (grown.advanceWriter length).writerIndex ≤ Bytes.lengthLimit) := by
  have ordered : buffer.Ordered := ordered_of_live live
  obtain ⟨reader, writer, capacity⟩ := ordered
  refine ⟨⟨reader, writer, capacity⟩, ⟨?_, ?_, ?_⟩, fun sized => ?_⟩
  · exact Nat.add_sub_cancel' reader
  · exact Nat.add_sub_cancel' writer
  · exact Nat.add_sub_cancel' (Nat.le_trans writer capacity)
  · have held := inOrder_of_sized sized
    have within : buffer.maxCapacity ≤ Bytes.lengthLimit := (held id buffer live).2
    refine ⟨within, fun length checked => ?_, fun length after grown done grownLive => ?_⟩
    · have enough := Buffer.checkReadable_eq_ok.mp checked
      simp only [Buffer.readableBytes] at enough
      simp only [Buffer.advanceReader]
      omega
    · obtain ⟨same, sameLive, enough⟩ := Action.writable_of_ensureWritable done
      cases grownLive.symm.trans sameLive
      let request := Command.onBuffer id (.ensureWritable length)
      have reached : initial.after (commands ++ [request]) = after := by
        rw [after_concat, run]
        change (Action.runOn (Action.ensureWritable id length >>= fun _ => pure Answer.done)
          (initial.after commands)).2 = after
        rw [Action.runOn_bind, done]
        rfl
      have stillSized : ∀ command ∈ commands ++ [request], command.Sized := by
        intro command inside
        rcases List.mem_append.mp inside with earlier | last
        · exact sized command earlier
        · rw [List.mem_singleton.mp last]
          trivial
      have grownHeld := inOrder_of_sized stillSized
      rw [reached] at grownHeld
      obtain ⟨grownOrdered, grownWithin⟩ := grownHeld id grown grownLive
      have grownWriter := grownOrdered.writer
      have grownCapacity := grownOrdered.capacity
      simp only [Buffer.writableBytes] at enough
      simp only [Buffer.advanceWriter]
      omega

/-- Three bytes are written and two of them read. -/
theorem cursors_in_order_after_reading :
    ∃ buffer, (initial.after [.allocate (.plain {}) { capacity := 16 },
      .onBuffer 0 (.writeBytes #[1, 2, 3]), .onBuffer 0 (.readBytes 2)]).buffers.get? 0 =
        some buffer ∧ (buffer.readerIndex = 2 ∧ buffer.writerIndex = 3) ∧
      buffer.readerIndex ≤ buffer.writerIndex ∧ buffer.maxCapacity ≤ Bytes.lengthLimit := by
  have live : ∃ buffer, (initial.after [.allocate (.plain {}) { capacity := 16 },
      .onBuffer 0 (.writeBytes #[1, 2, 3]), .onBuffer 0 (.readBytes 2)]).buffers.get? 0 =
        some buffer ∧ buffer.readerIndex = 2 ∧ buffer.writerIndex = 3 := ⟨_, rfl, rfl, rfl⟩
  obtain ⟨buffer, live, cursors⟩ := live
  have safe := cursors_in_order live
  exact ⟨buffer, live, cursors, safe.1.1, (safe.2.2 (by simp [Command.Sized, Bytes.lengthLimit])).1⟩

end Store

end CursorBuffers
