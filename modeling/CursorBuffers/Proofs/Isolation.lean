import CursorBuffers.Proofs.Isolation.Blind
import CursorBuffers.Proofs.Isolation.Lineage
import CursorBuffers.Proofs.Isolation.WellHeld

namespace CursorBuffers

/-- A run keeps apart what it lends. -/
structure Isolated (commands : List Command) (store : Store) : Prop where
  /-- Buffers that share an arena descend from one creation, and from no other. -/
  related : ∀ {first second one other}, store.buffers.get? first = some one →
    store.buffers.get? second = some other → one.arena = other.arena →
      ∃ root, ∀ ancestor, (Lineage commands first ancestor ↔ ancestor = root) ∧
        (Lineage commands second ancestor ↔ ancestor = root)
  /-- No buffer is on a queued arena. -/
  queuedAlone : ∀ {idle id buffer}, idle ∈ store.idle → store.buffers.get? id = some buffer →
    buffer.arena ≠ idle.arena
  /-- No arena is queued twice, be it in several registries. -/
  queuedOnce : (store.idle.map (·.arena)).Nodup
  queuedIntact : ∀ {idle}, idle ∈ store.idle → (store.arena idle.arena).freed = false
  leasedIntact : ∀ {id buffer}, store.buffers.get? id = some buffer → buffer.recycler ≠ none →
    (store.arena buffer.arena).freed = false
  soleOwner : ∀ {first second one other}, store.buffers.get? first = some one →
    store.buffers.get? second = some other → one.recycler ≠ none → other.recycler ≠ none →
      one.arena = other.arena → first = second
  /-- A command on buffers of other creations comes to the same whatever is in the region of a
  buffer, and leaves it there. -/
  unseen : ∀ {id buffer command}, store.buffers.get? id = some buffer →
    Command.handles command ≠ [] →
    (∀ handle ∈ Command.handles command, ∀ root, Lineage commands handle root →
      ¬ Lineage commands id root) →
    ∀ region, (store.setRegion buffer.arena region).run command =
      ((store.run command).1, (store.run command).2.setRegion buffer.arena region)

variable {commands : List Command}

theorem Lineage.iff_origin {id root : BufferId} {buffer : Buffer}
    (live : (Store.initial.after commands).buffers.get? id = some buffer) :
    Lineage commands id root ↔ root = buffer.origin :=
  ⟨fun line => line.eq_origin live, fun same => same ▸ .of_live live⟩

/-- Every run keeps apart what it lends. -/
theorem isolated_after : Isolated commands (Store.initial.after commands) := by
  have reachable : (Store.initial.after commands).Reachable := ⟨commands, rfl⟩
  have held : (Store.initial.after commands).WellHeld := reachable.wellHeld
  constructor
  case related =>
    intro first second one other firstLive secondLive same
    have origin : one.origin = other.origin := (held.family firstLive secondLive same).1
    refine ⟨one.origin, fun ancestor => ⟨Lineage.iff_origin firstLive, ?_⟩⟩
    rw [origin]
    exact Lineage.iff_origin secondLive
  case queuedAlone => exact held.idleApart
  case queuedOnce => exact held.idleDistinct
  case queuedIntact => exact fun inside => held.intact (.inr ⟨_, inside, rfl⟩)
  case leasedIntact => exact fun live leased => held.intact (.inl ⟨_, _, live, rfl, leased⟩)
  case soleOwner => exact held.sole
  case unseen =>
    intro id buffer command live names foreign region
    refine Store.run_setRegion names ⟨held.known live, fun {handle other} named also same => ?_⟩
    have origin : other.origin = buffer.origin := (held.family also live same).1
    refine foreign handle named other.origin (Lineage.of_live also) ?_
    rw [origin]
    exact Lineage.of_live live

end CursorBuffers
