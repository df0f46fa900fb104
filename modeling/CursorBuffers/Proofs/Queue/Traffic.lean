import CursorBuffers.Proofs.Queue.Serving
import CursorBuffers.Proofs.Step.Sole

namespace CursorBuffers

namespace Command

/-- The operation that a command does on a buffer. -/
def operation? (id : BufferId) : Command → Option BufferCommand
  | .onBuffer buffer command => if buffer = id then some command else none
  | _ => none

/-- The commands that a buffer goes through as a queue: operations of a queue, looks, copies out of
it, and whatever is not about it. -/
def Streams (id : BufferId) : Command → Prop
  | .onBuffer buffer command => buffer = id → command.Queues ∨ command.Looks
  | .transfer _ other (.getBytesTo _) _ => other ≠ id
  | .transfer _ other (.getBytesAt _ _) _ => other ≠ id
  | command => id ∉ command.handles

end Command

namespace Store

/-- A buffer in use that has its arena to itself. -/
structure InService (store : Store) (id : BufferId) (buffer : Buffer) : Prop extends
    store.InUse id buffer where
  covered : store.Covered
  sole : store.Sole id buffer

variable {id other : BufferId} {store after : Store} {buffer : Buffer} {commands : List Command}

namespace InService

variable {warrant : Warrant} {command : Command} {length : Nat}

/-- What is done to other buffers is not seen. -/
theorem spared (inService : store.InService id buffer) (steps : Steps warrant store after)
    (unnamed : ¬ warrant.touches id) (underived : ¬ warrant.derives id) :
    after.InService id buffer ∧ after.queueOf buffer = store.queueOf buffer := by
  have covered : after.Covered := steps.preserve inService.covered Step.covered
  obtain ⟨stays, same, sole⟩ :=
    steps.sole inService.covered.held inService.live inService.sole unnamed underived
  obtain ⟨inUse, queue⟩ := inService.toInUse.spared covered stays same
  exact ⟨⟨inUse, covered, sole⟩, queue⟩

theorem run_other (inService : store.InService id buffer) (unnamed : id ∉ command.handles) :
    (store.run command).2.InService id buffer ∧
      (store.run command).2.queueOf buffer = store.queueOf buffer := by
  refine inService.spared steps_run (Command.not_touches inService.live unnamed) ?_
  rintro ⟨_, request, rfl, _⟩
  exact unnamed List.mem_cons_self

/-- A copy out of a buffer touches the other buffer only. -/
theorem run_copyOut (inService : store.InService id buffer) {source : BufferId}
    {request : TransferCommand} (distinct : other ≠ id)
    (copies : ∀ warrant : Warrant, warrant.touches other →
      Steps warrant store (Action.runOn (request.perform source other length) store).2) :
    (store.run (.transfer source other request length)).2.InService id buffer ∧
      (store.run (.transfer source other request length)).2.queueOf buffer =
        store.queueOf buffer := by
  let onlyOther : Warrant := ⟨(· = other), fun _ => False, fun _ => False, fun _ => False,
    fun _ => False, fun _ => False⟩
  exact inService.spared (Action.steps_bind_pure (copies onlyOther rfl)) (Ne.symm distinct)
    fun derives => derives

theorem run_own (inService : store.InService id buffer) {command : BufferCommand}
    (own : command.Queues ∨ command.Looks) :
    ∃ later, (store.run (.onBuffer id command)).2.InService id later ∧
      (store.run (.onBuffer id command)).2.queueOf later = (store.queueOf buffer).next command := by
  obtain ⟨later, inUse, queue⟩ := inService.toInUse.run own
  have steps : Steps ((Command.onBuffer id command).warrant store) store
    (store.run (.onBuffer id command)).2 := steps_run
  have granted : ∀ maximum, ¬ (Command.onBuffer id command).Grants store maximum := by
    intro maximum grants
    cases grants <;> rcases own with queues | looks <;> contradiction
  have derived : ∀ parent, ¬ ((Command.onBuffer id command).warrant store).derives parent := by
    rintro parent ⟨_, request, same, view⟩
    cases same
    cases command <;> rcases own with queues | looks <;> contradiction
  -- No operation of a queue makes a buffer, so nobody has come to the arena.
  have older : ∀ {named window}, (store.run (.onBuffer id command)).2.buffers.get? named =
      some window → ∃ earlier, store.buffers.get? named = some earlier ∧ earlier.Akin window :=
    fun live => steps.older_of_barren granted derived live
  refine ⟨later, ⟨inUse, steps.preserve inService.covered Step.covered, ?_⟩, queue⟩
  obtain ⟨earlier, was, akin⟩ := older inUse.live
  cases inService.live.symm.trans was
  intro named window live same
  exact inService.sole.of_older older named window live (same.trans akin.arena)

theorem run (inService : store.InService id buffer) (streams : command.Streams id) :
    ∃ later, (store.run command).2.InService id later ∧ (store.run command).2.queueOf later =
      (store.queueOf buffer).after (command.operation? id).toList := by
  cases command with
  | onBuffer named request =>
      by_cases own : named = id
      · subst own
        simp only [Command.operation?, if_pos]
        exact inService.run_own (streams rfl)
      · simp only [Command.operation?, if_neg own]
        exact ⟨buffer, inService.run_other (by simpa [Command.handles] using Ne.symm own)⟩
  | transfer source target request length =>
      refine ⟨buffer, ?_⟩
      cases request with
      | getBytesTo index =>
          exact inService.run_copyOut streams fun _ named => Action.steps_getBytesTo named
      | getBytesAt index otherIndex =>
          exact inService.run_copyOut streams fun _ named => Action.steps_getBytesAt named
      | _ => exact inService.run_other streams
  | _ => exact ⟨buffer, inService.run_other streams⟩

theorem after_traffic (inService : store.InService id buffer) {traffic : List Command}
    (streams : ∀ command ∈ traffic, command.Streams id) :
    ∃ later, (store.after traffic).InService id later ∧ (store.after traffic).queueOf later =
      (store.queueOf buffer).after (traffic.filterMap (Command.operation? id)) := by
  induction traffic generalizing store buffer with
  | nil => exact ⟨buffer, inService, rfl⟩
  | cons command rest ih =>
      obtain ⟨between, still, first⟩ := inService.run (streams command List.mem_cons_self)
      obtain ⟨later, reached, second⟩ := ih still fun other inside =>
        streams other (List.mem_cons_of_mem _ inside)
      refine ⟨later, reached, second.trans ?_⟩
      rw [first, ← ByteQueue.after_append, List.filterMap_cons]
      cases command.operation? id <;> rfl

end InService

theorem eq_ok_of_toOption {α ε : Type} {result : Except ε α} {value : α}
    (some : result.toOption = some value) : result = .ok value := by
  cases result with
  | error error => cases some
  | ok answer => exact congrArg Except.ok (Option.some.inj some)

theorem inService_of_live (sized : ∀ command ∈ commands, command.Sized)
    (live : (initial.after commands).buffers.get? id = some buffer)
    (accessible : buffer.checkAccessible ((initial.after commands).arena buffer.arena) = .ok ())
    (owned : ((initial.after commands).arena buffer.arena).region.IsOwned)
    (sole : (initial.after commands).Sole id buffer) :
    (initial.after commands).InService id buffer := by
  have covered : (initial.after commands).Covered := Reachable.covered ⟨commands, rfl⟩
  exact ⟨⟨live, ordered_of_live live, covered.covers live,
    covered.standing _ (covered.held.known live), accessible, owned,
    (inOrder_of_sized sized id buffer live).2⟩, covered, sole⟩

/-- A live buffer of a run that may be accessed, alone on storage that it may grow, is a queue of
its readable bytes with as much room as its maximum capacity leaves behind the writer. Whatever is
read and written in sequence, in between looked at, copied out or made room for, and whatever is
done to others, it goes on being the queue to which the same is done: an operation succeeds exactly
if the queue serves it, answers the same, and has no effect if it fails. So a value is read back
equal once all that was before it has been read. -/
theorem simulates_queue (sized : ∀ command ∈ commands, command.Sized)
    (live : (initial.after commands).buffers.get? id = some buffer)
    (accessible : buffer.checkAccessible ((initial.after commands).arena buffer.arena) = .ok ())
    (owned : ((initial.after commands).arena buffer.arena).region.IsOwned)
    (sole : (initial.after commands).Sole id buffer) :
    ∃ queue, (initial.after commands).queue? id = some queue ∧
      ∀ traffic : List Command, (∀ command ∈ traffic, command.Streams id) →
        let reached := (initial.after commands).after traffic
        let current := queue.after (traffic.filterMap (Command.operation? id))
        reached.queue? id = some current ∧
        (∀ command : BufferCommand, command.Queues →
          (reached.run (.onBuffer id command)).1.toOption =
            (current.serve command).map Prod.fst) ∧
        ∀ order value later, value.kind.width.bytes ≤ current.room →
          (∀ command ∈ later, command.Streams id) →
          (current.next (.writeScalar order value)).passed
            (later.filterMap (Command.operation? id)) = current.content.length →
          ((reached.after (.onBuffer id (.writeScalar order value) :: later)).run
            (.onBuffer id (.readScalar value.kind order))).1 = .ok (.scalar value) := by
  have inService := inService_of_live sized live accessible owned sole
  refine ⟨_, inService.queue?, fun traffic streams => ?_⟩
  obtain ⟨current, still, same⟩ := inService.after_traffic streams
  simp only [← same]
  refine ⟨still.queue?, fun command queues => (still.serves queues).answer,
    fun order value later fits also passed => ?_⟩
  have streams : ∀ command ∈ .onBuffer id (.writeScalar order value) :: later,
      command.Streams id := List.forall_mem_cons.mpr ⟨fun _ => .inl trivial, also⟩
  obtain ⟨last, stillInService, written⟩ := still.after_traffic streams
  have asked : (BufferCommand.readScalar value.kind order).Queues := trivial
  have answered := (stillInService.serves asked).answer
  rw [written, List.filterMap_cons, Command.operation?, if_pos rfl] at answered
  exact eq_ok_of_toOption (answered.trans (ByteQueue.serve_written fits passed))

/-- Three bytes are written and two of them read; a word for which the buffer must grow comes last,
and is read back once the third byte is skipped. -/
theorem simulates_queue_through_growth :
    ((initial.after [.allocate (.plain {}) { capacity := 4, maxCapacity := 64 },
        .allocate (.plain {}) { capacity := 4 }]).after
      [.onBuffer 0 (.writeBytes #[1, 2, 3]), .onBuffer 0 (.readBytes 2),
        .transfer 0 1 (.getBytesTo 2) 1]).queue? 0 = some ⟨[3], 61⟩ ∧
    ((((initial.after [.allocate (.plain {}) { capacity := 4, maxCapacity := 64 },
        .allocate (.plain {}) { capacity := 4 }]).after
      [.onBuffer 0 (.writeBytes #[1, 2, 3]), .onBuffer 0 (.readBytes 2),
        .transfer 0 1 (.getBytesTo 2) 1]).after
      [.onBuffer 0 (.writeScalar .big (.unsigned .four 259)), .onBuffer 0 (.skipBytes 1)]).run
        (.onBuffer 0 (.readScalar (.unsigned .four) .big))).1 =
          .ok (.scalar (.unsigned .four 259)) := by
  obtain ⟨buffer, live, accessible, owned, arena⟩ : ∃ buffer,
      (initial.after [.allocate (.plain {}) { capacity := 4, maxCapacity := 64 },
        .allocate (.plain {}) { capacity := 4 }]).buffers.get? 0 = some buffer ∧
      buffer.checkAccessible ((initial.after
        [.allocate (.plain {}) { capacity := 4, maxCapacity := 64 },
          .allocate (.plain {}) { capacity := 4 }]).arena buffer.arena) = .ok () ∧
      ((initial.after [.allocate (.plain {}) { capacity := 4, maxCapacity := 64 },
        .allocate (.plain {}) { capacity := 4 }]).arena buffer.arena).region.IsOwned ∧
      buffer.arena = 0 := ⟨_, rfl, rfl, trivial, rfl⟩
  have sized : ∀ command ∈ ([.allocate (.plain {}) { capacity := 4, maxCapacity := 64 },
      .allocate (.plain {}) { capacity := 4 }] : List Command), command.Sized := by
    simp [Command.Sized, Bytes.lengthLimit]
  have sole : (initial.after [.allocate (.plain {}) { capacity := 4, maxCapacity := 64 },
      .allocate (.plain {}) { capacity := 4 }]).Sole 0 buffer := by
    intro other window also same
    have below : other < 2 := Table.lt_next_of_get? also
    rcases Nat.lt_succ_iff_lt_or_eq.mp below with first | rfl
    · exact Nat.lt_one_iff.mp first
    · cases also
      rw [arena] at same
      contradiction
  obtain ⟨queue, shown, behaves⟩ := simulates_queue sized live accessible owned sole
  cases shown
  obtain ⟨content, _, readBack⟩ := behaves
    [.onBuffer 0 (.writeBytes #[1, 2, 3]), .onBuffer 0 (.readBytes 2),
      .transfer 0 1 (.getBytesTo 2) 1]
    (by simp [Command.Streams, BufferCommand.Queues])
  exact ⟨content, readBack .big (.unsigned .four 259) [.onBuffer 0 (.skipBytes 1)] (by decide)
    (by simp [Command.Streams, BufferCommand.Queues]) (by decide)⟩

end Store

end CursorBuffers
