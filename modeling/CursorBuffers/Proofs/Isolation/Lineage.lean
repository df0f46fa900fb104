import CursorBuffers.Proofs.Step.Commands

namespace CursorBuffers

/-- The command ends with a live buffer that was not there before. -/
def Store.Makes (store : Store) (command : Command) (id : BufferId) : Prop :=
  store.buffers.get? id = none ∧ ((store.run command).2.buffers.get? id).isSome

/-- The command opens a window on the buffer. -/
def Command.Views (command : Command) (parent : BufferId) : Prop :=
  ∃ request, command = .onBuffer parent request ∧ request.IsView

/-- In the course of the commands the buffer was made by slices and duplicates from `root`, which
was allocated, wrapped or copied. -/
inductive Lineage : List Command → BufferId → BufferId → Prop
  | root {commands : List Command} {command : Command} {id : BufferId}
      (foreign : ∀ parent, ¬ command.Views parent)
      (made : (Store.initial.after commands).Makes command id) :
      Lineage (commands ++ [command]) id id
  | view {commands : List Command} {command : Command} {parent id root : BufferId}
      (views : command.Views parent)
      (made : (Store.initial.after commands).Makes command id)
      (line : Lineage commands parent root) : Lineage (commands ++ [command]) id root
  | later {commands : List Command} {command : Command} {id root : BufferId}
      (line : Lineage commands id root) : Lineage (commands ++ [command]) id root

namespace Store

variable {store : Store} {command : Command} {id : BufferId} {buffer : Buffer}

theorem derives_lt {parent : BufferId} (derives : (command.warrant store).derives parent) :
    parent < store.buffers.next := by
  obtain ⟨source, live⟩ := Option.isSome_iff_exists.mp derives.1
  exact Table.lt_next_of_get? live

theorem Makes.next_le (makes : store.Makes command id) : store.buffers.next ≤ id := by
  obtain ⟨absent, live⟩ := makes
  obtain ⟨buffer, live⟩ := Option.isSome_iff_exists.mp live
  by_cases known : id < store.buffers.next
  · obtain ⟨earlier, was, _⟩ := steps_run.older known live
    rw [absent] at was
    contradiction
  · exact Nat.le_of_not_lt known

theorem Makes.lt_next (makes : store.Makes command id) :
    id < (store.run command).2.buffers.next := by
  obtain ⟨buffer, live⟩ := Option.isSome_iff_exists.mp makes.2
  exact Table.lt_next_of_get? live

/-- What a window is opened on passes its origin on; all else that is made is its own origin. -/
theorem Makes.origin (makes : store.Makes command id)
    (live : (store.run command).2.buffers.get? id = some buffer) :
    ((∀ parent, ¬ command.Views parent) ∧ buffer.origin = id) ∨
      ∃ parent source, command.Views parent ∧ store.buffers.get? parent = some source ∧
        buffer.origin = source.origin := by
  rcases steps_run.newer (fun _ => derives_lt) makes.next_le live with
    ⟨origin, maximum, granted⟩ | ⟨parent, source, derives, was, origin⟩
  · refine .inl ⟨?_, origin⟩
    rintro parent ⟨request, rfl, view⟩
    cases granted <;> exact view
  · exact .inr ⟨parent, source, derives.2, was, origin⟩

end Store

namespace Lineage

variable {commands : List Command} {id root : BufferId} {buffer : Buffer}

theorem lt_next (line : Lineage commands id root) :
    id < (Store.initial.after commands).buffers.next := by
  induction line with
  | root foreign made =>
      rw [Store.after_concat]
      exact made.lt_next
  | view views made line ih =>
      rw [Store.after_concat]
      exact made.lt_next
  | later line ih =>
      rw [Store.after_concat]
      exact Nat.lt_of_lt_of_le ih Store.steps_run.next_le

/-- The ancestor of a live buffer is its origin. -/
theorem eq_origin (line : Lineage commands id root)
    (live : (Store.initial.after commands).buffers.get? id = some buffer) :
    root = buffer.origin := by
  induction line generalizing buffer with
  | root foreign made =>
      rw [Store.after_concat] at live
      rcases made.origin live with ⟨_, origin⟩ | ⟨parent, source, views, _⟩
      · exact origin.symm
      · exact absurd views (foreign parent)
  | @view commands command parent id root views made line ih =>
      rw [Store.after_concat] at live
      rcases made.origin live with ⟨foreign, _⟩ | ⟨other, source, also, was, origin⟩
      · exact absurd views (foreign parent)
      · obtain ⟨request, rfl, _⟩ := views
        obtain ⟨again, same, _⟩ := also
        cases same
        rw [origin]
        exact ih was
  | @later commands command id root line ih =>
      rw [Store.after_concat] at live
      obtain ⟨earlier, was, akin⟩ := Store.steps_run.older line.lt_next live
      rw [akin.origin]
      exact ih was

/-- A live buffer descends from one that was allocated, wrapped or copied. -/
theorem of_live (live : (Store.initial.after commands).buffers.get? id = some buffer) :
    Lineage commands id buffer.origin := by
  induction commands using List.reverseRecOn generalizing id buffer with
  | nil =>
      rw [Store.after_nil, Table.get?_eq_none_of_next_le (Nat.zero_le id)] at live
      contradiction
  | append_singleton commands command ih =>
      rw [Store.after_concat] at live
      by_cases known : id < (Store.initial.after commands).buffers.next
      · obtain ⟨earlier, was, akin⟩ := Store.steps_run.older known live
        rw [akin.origin]
        exact .later (ih was)
      · have made : (Store.initial.after commands).Makes command id :=
          ⟨Table.get?_eq_none_of_next_le (Nat.le_of_not_lt known), by rw [live]; rfl⟩
        rcases made.origin live with ⟨foreign, origin⟩ | ⟨parent, source, views, was, origin⟩
        · rw [origin]
          exact .root foreign made
        · rw [origin]
          exact .view views made (ih was)

end Lineage

end CursorBuffers
