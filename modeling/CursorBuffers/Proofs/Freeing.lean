import CursorBuffers.Proofs.Freeing.History
import CursorBuffers.Store.Report

namespace CursorBuffers

namespace Action

variable {store after : Store} {id : BufferId} {request : Allocation}

theorem live_of_newBuffer {make : BufferId → Buffer}
    (done : runOn (newBuffer make) store = (.ok id, after)) : (after.buffers.get? id).isSome := by
  rw [runOn_newBuffer] at done
  cases done
  simp [Store.addBuffer, Table.get?_add]

theorem live_of_allocate {allocator : Allocator}
    (done : runOn (allocate allocator request) store = (.ok id, after)) :
    (after.buffers.get? id).isSome := by
  cases allocator with
  | plain config =>
      obtain ⟨_, _, _, done⟩ := runOn_bind_eq_ok.mp done
      obtain ⟨_, _, _, done⟩ := runOn_bind_eq_ok.mp done
      exact live_of_newBuffer done
  | pooled pool =>
      obtain ⟨_, _, _, done⟩ := runOn_bind_eq_ok.mp done
      obtain ⟨_, _, _, done⟩ := runOn_bind_eq_ok.mp done
      obtain ⟨_, _, _, done⟩ := runOn_bind_eq_ok.mp done
      obtain ⟨found, _, _, done⟩ := runOn_bind_eq_ok.mp done
      cases found with
      | some arena =>
          obtain ⟨_, _, _, done⟩ := runOn_bind_eq_ok.mp done
          obtain ⟨_, _, _, done⟩ := runOn_bind_eq_ok.mp done
          exact live_of_newBuffer done
      | none =>
          obtain ⟨_, _, _, done⟩ := runOn_bind_eq_ok.mp done
          obtain ⟨_, _, _, done⟩ := runOn_bind_eq_ok.mp done
          exact live_of_newBuffer done

end Action

namespace Store

variable {store : Store} {commands : List Command} {command : Command} {id other root : BufferId}
variable {buffer : Buffer}

theorem isFreed_iff_of_unpooled (live : (initial.after commands).buffers.get? id = some buffer)
    (unpooled : buffer.pooled = false) :
    (initial.after commands).isFreed buffer = true ↔ ReleasedOn commands buffer.arena := by
  refine ⟨releasedOn_of_freed live unpooled, fun released => ?_⟩
  rcases released.freed_or with freed | ⟨_, pooled⟩
  · exact freed
  · rw [pooled live rfl] at unpooled
    contradiction

/-- The end of a buffer that does not answer for its arena frees no arena that is not from a
pool. -/
theorem isFreed_of_spared
    (spared : command = .drop other ∨ command = .release other ∧ ¬ Answerable commands other)
    (live : ((initial.after commands).run command).2.buffers.get? id = some buffer)
    (unpooled : buffer.pooled = false) :
    ((initial.after commands).run command).2.isFreed buffer =
      (initial.after commands).isFreed buffer := by
  have barren : (∀ maximum, ¬ command.Grants (initial.after commands) maximum) ∧
      ∀ parent, ¬ command.Views parent := by
    refine ⟨fun maximum granted => ?_, fun parent views => ?_⟩
    · rcases spared with rfl | ⟨rfl, _⟩ <;> cases granted
    · obtain ⟨request, same, _⟩ := views
      rcases spared with rfl | ⟨rfl, _⟩ <;> cases same
  obtain ⟨earlier, was, akin⟩ :=
    steps_run.older_of_barren barren.1 (not_derives_of_foreign barren.2) live
  rw [Bool.eq_iff_iff]
  have before := isFreed_iff_of_unpooled was (akin.pooled.symm.trans unpooled)
  have now : ((initial.after commands).run command).2.isFreed buffer = true ↔
      ReleasedOn (commands ++ [command]) buffer.arena := by
    rw [← after_concat] at live ⊢
    exact isFreed_iff_of_unpooled live unpooled
  have idle : ¬ ∃ id window, command = .release id ∧
      (initial.after commands).buffers.get? id = some window ∧ window.arena = buffer.arena ∧
      Answerable commands id := by
    rintro ⟨id, window, rfl, _, _, answerable⟩
    rcases spared with same | ⟨same, unanswerable⟩ <;> cases same
    exact unanswerable answerable
  have arena : (initial.after commands).isFreed buffer = (initial.after commands).isFreed earlier :=
    by rw [isFreed, akin.arena, isFreed]
  rw [now, arena, before, akin.arena]
  exact occurs_concat.trans (or_iff_left (akin.arena ▸ idle))

theorem Reachable.isFreed_of_first (reachable : store.Reachable)
    (live : store.buffers.get? id = some buffer) (pooled : buffer.pooled = true)
    (own : buffer.origin = id) : store.isFreed buffer = false := by
  have leased := reachable.tended.first live own pooled
  exact reachable.wellHeld.intact (.inl ⟨id, buffer, live, rfl, leased⟩)

theorem isFreed_iff_of_pooled (live : (initial.after commands).buffers.get? id = some buffer)
    (pooled : buffer.pooled = true) (line : Lineage commands id root) :
    (initial.after commands).isFreed buffer = true ↔ EndedIn commands root := by
  have reachable : (initial.after commands).Reachable := ⟨commands, rfl⟩
  have origin : root = buffer.origin := line.eq_origin live
  constructor
  · intro freed
    by_contra lasting
    -- The owner is still there, and the arena of an owner is not freed.
    obtain ⟨first, also⟩ := line.stays lasting
    have own : root = first.origin := line.of_root.eq_origin also
    have here : buffer.arena = first.arena :=
      (reachable.kin.alike also live (origin.symm.trans own)).1
    have alsoPooled : first.pooled = true :=
      (reachable.wellHeld.family also live here.symm).2.trans pooled
    have intact := reachable.isFreed_of_first also alsoPooled own.symm
    rw [isFreed, ← here, ← isFreed, freed] at intact
    contradiction
  · intro ended
    rcases reachable.tended.others live pooled with freed | ⟨owner, also, _⟩
    · exact freed
    · rw [← origin, ended.gone.2] at also
      contradiction

/-- What is made other than as a window is not freed. -/
theorem Reachable.isFreed_of_made (reachable : store.Reachable)
    (foreign : ∀ parent, ¬ command.Views parent) (makes : store.Makes command id)
    (live : (store.run command).2.buffers.get? id = some buffer) :
    (store.run command).2.isFreed buffer = false := by
  rcases makes.origin live with ⟨_, own⟩ | ⟨parent, _, views, _⟩
  swap
  · exact absurd views (foreign parent)
  cases tag : buffer.pooled with
  | true => exact reachable.run.isFreed_of_first live tag own
  | false =>
      have came := steps_run.newcomer reachable.wellHeld (not_derives_of_foreign foreign)
        makes.next_le live
      -- Nobody was on its arena before, so nobody on it can have been released.
      have strange : ∀ {other : BufferId} {window : Buffer},
          store.buffers.get? other = some window → window.arena ≠ buffer.arena :=
        fun also => Nat.ne_of_lt
          (Nat.lt_of_lt_of_le (reachable.wellHeld.known also) (came.apart tag))
      refine Bool.eq_false_iff.mpr fun freed => ?_
      rcases steps_run.release_of_freed reachable.wellHeld (fun _ => frees_lt) live tag freed with
        ⟨other, source, was, here, _⟩ | ⟨named, source, _, was, here, _⟩
      · exact strange was here
      · exact strange was here

/-- What an allocator returns is there and not freed. -/
theorem Reachable.isFreed_of_allocated (reachable : store.Reachable) {allocator : Allocator}
    {request : Allocation} (done : (store.run (.allocate allocator request)).1 = .ok (.buffer id)) :
    ∃ buffer, (store.run (.allocate allocator request)).2.buffers.get? id = some buffer ∧
      (store.run (.allocate allocator request)).2.isFreed buffer = false := by
  obtain ⟨made, between, allocated, answered⟩ := Action.runOn_bind_eq_ok.mp (Prod.ext done rfl)
  cases answered
  obtain ⟨buffer, live⟩ := Option.isSome_iff_exists.mp (Action.live_of_allocate allocated)
  refine ⟨buffer, live, reachable.isFreed_of_made ?_ ⟨?_, Option.isSome_of_eq_some live⟩ live⟩
  · rintro parent ⟨request, same, _⟩
    cases same
  · rw [Action.eq_next_of_allocate allocated]
    exact Table.get?_eq_none_of_next_le (Nat.le_refl _)

end Store

open Store in
/-- How a run marks arenas as freed, as far as live buffers see it. -/
structure MarksFreed (commands : List Command) : Prop where
  /-- An arena that is not from a pool is freed exactly if a buffer on it was released that was
  allocated, wrapped, copied or sliced. -/
  unpooled : ∀ {id buffer}, (initial.after commands).buffers.get? id = some buffer →
    buffer.pooled = false →
      ((initial.after commands).isFreed buffer = true ↔ ReleasedOn commands buffer.arena)
  /-- Neither a drop, nor the release of a duplicate, changes its mark. -/
  spared : ∀ {command other id buffer},
    command = .drop other ∨ command = .release other ∧ ¬ Answerable commands other →
    ((initial.after commands).run command).2.buffers.get? id = some buffer →
    buffer.pooled = false → ((initial.after commands).run command).2.isFreed buffer =
      (initial.after commands).isFreed buffer
  /-- An arena from a pool is freed exactly if the owner of its lease was released or dropped. -/
  leased : ∀ {id root buffer}, (initial.after commands).buffers.get? id = some buffer →
    buffer.pooled = true → Lineage commands id root →
      ((initial.after commands).isFreed buffer = true ↔ EndedIn commands root)
  /-- The owner of a lease does not see its arena freed. -/
  owner : ∀ {id buffer}, (initial.after commands).buffers.get? id = some buffer →
    buffer.pooled = true → Lineage commands id id →
      (initial.after commands).isFreed buffer = false
  /-- What is freed stays freed. -/
  lasting : ∀ {buffer} rest, (initial.after commands).isFreed buffer = true →
    (initial.after (commands ++ rest)).isFreed buffer = true
  /-- What an allocator returns is not freed. -/
  allocated : ∀ {allocator request id},
    ((initial.after commands).run (.allocate allocator request)).1 = .ok (.buffer id) →
    ∃ buffer,
      ((initial.after commands).run (.allocate allocator request)).2.buffers.get? id =
        some buffer ∧
      ((initial.after commands).run (.allocate allocator request)).2.isFreed buffer = false
  /-- Neither is anything else that is made but is no window. -/
  made : ∀ {command id buffer}, (∀ parent, ¬ Command.Views command parent) →
    (initial.after commands).Makes command id →
    ((initial.after commands).run command).2.buffers.get? id = some buffer →
      ((initial.after commands).run command).2.isFreed buffer = false
  /-- The release of an arena is logged once at most. -/
  logged : ∀ arena, (initial.after commands).releaseCount arena ≤ 1

open Store in
/-- Every run marks arenas as freed by the same rules. -/
theorem marksFreed_after {commands : List Command} : MarksFreed commands := by
  have reachable : (initial.after commands).Reachable := ⟨commands, rfl⟩
  constructor
  case unpooled => exact isFreed_iff_of_unpooled
  case spared => exact isFreed_of_spared
  case leased => exact isFreed_iff_of_pooled
  case owner =>
    intro id buffer live pooled line
    exact reachable.isFreed_of_first live pooled (line.eq_origin live).symm
  case lasting =>
    intro buffer rest freed
    rw [after_append]
    exact freed_after freed
  case allocated => exact reachable.isFreed_of_allocated
  case made => exact reachable.isFreed_of_made
  case logged =>
    intro arena
    refine Nat.le_trans (reachable.releasedOnce arena) ?_
    split
    · exact Nat.le_refl _
    · exact Nat.zero_le _

/-- The release of a duplicate leaves the arena alone; that of a slice of the duplicate frees it. -/
example :
    let shared : List Command := [.allocate (.plain {}) { capacity := 8 },
      .onBuffer 0 .duplicate, .onBuffer 1 (.sliceRange 2 4), .release 1]
    ((Store.initial.after shared).arena 0).freed = false ∧
      ((Store.initial.after (shared ++ [.release 2])).arena 0).freed = true := by
  decide +kernel

end CursorBuffers
