import CursorBuffers.Proofs.Step.Sole

namespace CursorBuffers

/-- Nothing has happened to the buffers of one creation, and none has joined them. -/
structure Store.Frozen (store after : Store) (root : BufferId) : Prop where
  stays : ∀ {id buffer}, store.buffers.get? id = some buffer → buffer.origin = root →
    after.buffers.get? id = some buffer ∧ after.arena buffer.arena = store.arena buffer.arena
  older : ∀ {id buffer}, after.buffers.get? id = some buffer → buffer.origin = root →
    store.buffers.get? id = some buffer

/-- The warrant reaches no buffer of one creation. -/
structure Warrant.Spares (warrant : Warrant) (store : Store) (root : BufferId) : Prop where
  touches : ∀ {id buffer}, warrant.touches id → store.buffers.get? id = some buffer →
    buffer.origin ≠ root
  derives : ∀ {id buffer}, warrant.derives id → store.buffers.get? id = some buffer →
    buffer.origin ≠ root

variable {warrant : Warrant} {store between after : Store} {root : BufferId}

namespace Store.Frozen

theorem refl : store.Frozen store root := ⟨fun live _ => ⟨live, rfl⟩, fun live _ => live⟩

theorem trans (early : store.Frozen between root) (late : between.Frozen after root) :
    store.Frozen after root where
  stays live own := by
    obtain ⟨found, same⟩ := early.stays live own
    obtain ⟨stays, still⟩ := late.stays found own
    exact ⟨stays, still.trans same⟩
  older live own := early.older (late.older live own) own

theorem spares (frozen : store.Frozen between root) (spares : warrant.Spares store root) :
    warrant.Spares between root where
  touches named live own := spares.touches named (frozen.older live own) own
  derives named live own := spares.derives named (frozen.older live own) own

end Store.Frozen

theorem Step.frozen (step : Step warrant store after) (held : store.WellHeld)
    (known : root < store.buffers.next) (spares : warrant.Spares store root) :
    store.Frozen after root := by
  have stays : ∀ {id buffer}, store.buffers.get? id = some buffer → buffer.origin = root →
      after.buffers.get? id = some buffer := fun live own =>
    step.buffers.untouched (fun named => spares.touches named live own) live
  refine ⟨fun live own => ⟨stays live own, ?_⟩, fun {id buffer} live own => ?_⟩
  · refine step.arena_of_apart held live fun named also same => ?_
    exact spares.touches named also ((held.family live also same).1.symm.trans own)
  · by_cases old : id < store.buffers.next
    · obtain ⟨earlier, was, akin⟩ := step.buffers.older old live
      cases (stays was (akin.origin.symm.trans own)).symm.trans live
      exact was
    · -- Whoever is new is its own origin, or is a window on one that the warrant names.
      rcases step.buffers.newer (Nat.le_of_not_lt old) live with ⟨self, _⟩ |
        ⟨parent, source, named, was, derived⟩
      · rw [← own, self] at known
        exact absurd known old
      · have origin : buffer.origin = source.origin := by cases derived <;> rfl
        exact absurd (origin.symm.trans own) (spares.derives named was)

theorem Steps.frozen (steps : Steps warrant store after) (held : store.WellHeld)
    (known : root < store.buffers.next) (spares : warrant.Spares store root) :
    store.Frozen after root := by
  induction steps with
  | refl => exact .refl
  | tail earlier step ih =>
      exact ih.trans (step.frozen (Steps.wellHeld earlier held)
        (Nat.lt_of_lt_of_le known (Steps.next_le earlier)) (ih.spares spares))

namespace Store

/-- None of the live buffers of the creation is named by the command. -/
def Unnamed (store : Store) (command : Command) (root : BufferId) : Prop :=
  ∀ handle ∈ command.handles, ∀ buffer, store.buffers.get? handle = some buffer →
    buffer.origin ≠ root

variable {command : Command} {commands : List Command}

theorem Unnamed.spares (unnamed : store.Unnamed command root) :
    (command.warrant store).Spares store root where
  touches named live := by
    rcases named with named | new
    · exact unnamed _ named _ live
    · exact absurd (Table.lt_next_of_get? live) (Nat.not_lt.mpr new)
  derives derives live := by
    obtain ⟨_, request, rfl, _⟩ := derives
    exact unnamed _ List.mem_cons_self _ live

theorem Reachable.frozen_run (reachable : store.Reachable) (known : root < store.buffers.next)
    (unnamed : store.Unnamed command root) : store.Frozen (store.run command).2 root :=
  steps_run.frozen reachable.wellHeld known unnamed.spares

theorem next_le_after : store.buffers.next ≤ (store.after commands).buffers.next := by
  induction commands using List.reverseRecOn with
  | nil => exact Nat.le_refl _
  | append_singleton commands command ih =>
      rw [after_concat]
      exact Nat.le_trans ih steps_run.next_le

/-- A run that names none of the buffers of a creation leaves them and their arenas alone. -/
theorem Reachable.frozen_after (reachable : store.Reachable) (known : root < store.buffers.next)
    (unnamed : ∀ command ∈ commands, store.Unnamed command root) :
    store.Frozen (store.after commands) root := by
  induction commands using List.reverseRecOn with
  | nil => exact .refl
  | append_singleton commands command ih =>
      have early : store.Frozen (store.after commands) root :=
        ih fun other member => unnamed other (List.mem_append_left _ member)
      have still : (store.after commands).Unnamed command root := by
        intro handle named buffer live own
        exact unnamed command (by simp) handle named buffer (early.older live own) own
      rw [after_concat]
      exact early.trans (reachable.after.frozen_run (Nat.lt_of_lt_of_le known next_le_after) still)

end Store

end CursorBuffers
