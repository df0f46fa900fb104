import CursorBuffers.Proofs.Step.Operations

namespace CursorBuffers

namespace Action

/-- An operation that looks and changes nothing. -/
def Observes {α : Type} (action : Action α) : Prop := ∀ store, (runOn action store).2 = store

/-- An operation that changes nothing if it fails. -/
def Atomic {α : Type} (action : Action α) : Prop :=
  ∀ store failure after, runOn action store = (.error failure, after) → after = store

variable {α β : Type} {id other : BufferId} {index otherIndex length : Nat}

theorem observes_buffer : (buffer id).Observes := by
  intro store
  cases found : store.buffers.get? id with
  | none => rw [runOn_buffer_none found]
  | some buffer => rw [runOn_buffer found]

theorem observes_inspect {question : Buffer → Arena → Except MemoryError α} :
    (inspect id question).Observes :=
  fun _ => after_inspect

theorem observes_readerIndex : (readerIndex id).Observes :=
  fun store => after_bind_pure.trans (observes_buffer store)

theorem observes_writerIndex : (writerIndex id).Observes :=
  fun store => after_bind_pure.trans (observes_buffer store)

theorem observes_check {result : Except MemoryError α} : (check result).Observes :=
  fun _ => by rw [runOn_check]

/-- A change that is made at the end does not fail. -/
theorem failed_of_bind_modify {action : Action α} {change : α → Store → Store}
    {store after : Store} {failure : Failure}
    (failed : runOn (action >>= fun value => modify (change value)) store =
      (.error failure, after)) : runOn action store = (.error failure, after) := by
  rw [runOn_bind] at failed
  rcases outcome : runOn action store with ⟨_ | value, between⟩
  · rw [outcome] at failed
    cases failed
    rfl
  · rw [outcome] at failed
    cases failed

theorem failed_of_bind_pure {action : Action α} {value : α → β} {store after : Store}
    {failure : Failure}
    (failed : runOn (action >>= fun result => pure (value result)) store =
      (.error failure, after)) : runOn action store = (.error failure, after) := by
  rw [runOn_bind] at failed
  rcases outcome : runOn action store with ⟨_ | result, between⟩
  · rw [outcome] at failed
    cases failed
    rfl
  · rw [outcome] at failed
    cases failed

namespace Atomic

/-- Nothing was done before what may fail. -/
theorem bind {action : Action α} {next : α → Action β} (observes : action.Observes)
    (rest : ∀ value, (next value).Atomic) : (action >>= next).Atomic := by
  intro store failure after failed
  have kept := observes store
  rw [runOn_bind] at failed
  rcases outcome : runOn action store with ⟨_ | value, between⟩
  · rw [outcome] at failed kept
    cases failed
    exact kept
  · rw [outcome] at failed kept
    cases kept
    exact rest value _ failure after failed

theorem bind_modify {action : Action α} {change : α → Store → Store} (first : action.Atomic) :
    (action >>= fun value => modify (change value)).Atomic :=
  fun store failure after failed => first store failure after (failed_of_bind_modify failed)

end Atomic

theorem atomic_modify {change : Store → Store} : (modify change : Action Unit).Atomic :=
  fun _ _ _ failed => by cases failed

theorem atomic_move : (move id index other otherIndex length).Atomic := by
  refine .bind observes_buffer fun source => .bind observes_buffer fun target => ?_
  refine .bind (fun _ => rfl) fun store => .bind observes_check fun data => ?_
  refine .bind (fun _ => rfl) fun store => .bind observes_check fun region => ?_
  exact atomic_modify

theorem atomic_getBytesAt : (getBytesAt id index other otherIndex length).Atomic :=
  .bind observes_inspect fun _ => .bind observes_inspect fun _ => atomic_move

theorem atomic_setBytesAt : (setBytesAt id index other otherIndex length).Atomic :=
  .bind observes_inspect fun _ => .bind observes_inspect fun _ => atomic_move

theorem atomic_setBytesFrom : (setBytesFrom id index other length).Atomic :=
  .bind observes_inspect fun _ => .bind observes_readerIndex fun _ =>
    .bind_modify atomic_setBytesAt

end Action

end CursorBuffers
