import CursorBuffers.Proofs.Exposure

namespace CursorBuffers

/-- The command opens no window on a buffer, and has none from a pool. -/
structure Command.Unshared (command : Command) : Prop where
  unpooled : ∀ pool, command.allocator? ≠ some (.pooled pool)
  unviewed : ∀ parent, ¬ command.Views parent

namespace Command

theorem unshared_onBuffer {id : BufferId} {request : BufferCommand} (closed : ¬ request.IsView) :
    (onBuffer id request).Unshared where
  unpooled pool := by simp [allocator?]
  unviewed parent := by
    rintro ⟨_, same, view⟩
    cases same
    exact closed view

theorem unshared_allocate {allocator : Allocator} {request : Allocation}
    (unpooled : ∀ pool, allocator ≠ .pooled pool) : (allocate allocator request).Unshared where
  unpooled pool := by simp [allocator?, unpooled pool]
  unviewed parent := by
    rintro ⟨_, same, _⟩
    cases same

theorem unshared_drop {id : BufferId} : (drop id).Unshared where
  unpooled pool := by simp [allocator?]
  unviewed parent := by
    rintro ⟨_, same, _⟩
    cases same

end Command

/-- The buffer owns its arena and is alone on it, and its window is the whole region. -/
structure Store.Whole (store : Store) (id : BufferId) (buffer : Buffer) : Prop where
  offset : buffer.offset = 0
  owner : buffer.role = .owner
  unpooled : buffer.pooled = false
  sole : store.Sole id buffer
  size : (store.arena buffer.arena).region.size = buffer.capacity

structure Store.Undivided (store : Store) : Prop where
  covered : store.Covered
  whole : ∀ {id buffer}, store.buffers.get? id = some buffer → store.Whole id buffer

/-- Every live buffer is whole and can be accessed. -/
structure Store.Exact (store : Store) : Prop extends store.Undivided where
  intact : ∀ {id buffer}, store.buffers.get? id = some buffer →
    (store.arena buffer.arena).freed = false

/-- No buffer is made under the warrant. -/
structure Warrant.Barren (warrant : Warrant) : Prop where
  grants : ∀ maximum, ¬ warrant.grants maximum
  derives : ∀ parent, ¬ warrant.derives parent

variable {warrant : Warrant} {store after : Store} {command : Command} {commands : List Command}
variable {id : BufferId} {buffer : Buffer} {capacity index length : Nat} {region : Region}

namespace Store

/-- A buffer that is alone on an arena is its only holder. -/
theorem WellHeld.holders_of_sole (held : store.WellHeld)
    (live : store.buffers.get? id = some buffer) (sole : store.Sole id buffer) :
    store.holders buffer.arena = 1 := by
  have others : (store.vacate id).holders buffer.arena = 0 := by
    refine holders_eq_zero_iff.mpr ⟨fun other window also same => ?_, fun idle queued => ?_⟩
    · have known := Covered.windows_vacate also
      rw [sole other window known same, Store.vacate, Table.get?_vacate, if_pos rfl] at also
      contradiction
    · exact (held.idleApart queued live).symm
  have count : store.buffers.count (·.arena == buffer.arena) =
      (store.buffers.vacate id).count (·.arena == buffer.arena) + 1 := by
    rw [Table.count_vacate live, if_pos (beq_self_eq_true _)]
  rw [holders, vacate_frame.2.2.2.2.2.1] at others
  rw [holders, count, Nat.add_right_comm]
  exact congrArg (· + 1) others

/-- The owner of an arena that nobody else is on may resize it. -/
theorem Undivided.isExclusive (undivided : store.Undivided)
    (live : store.buffers.get? id = some buffer) : store.isExclusive buffer = true := by
  obtain ⟨offset, owner, unpooled, sole, _⟩ := undivided.whole live
  have holders := undivided.covered.held.holders_of_sole live sole
  simp [Store.isExclusive, offset, owner, unpooled, holders]

/-- A buffer stays whole if nobody came to its arena and nothing happened to it. -/
theorem Whole.of_arena (whole : store.Whole id buffer) (sole : after.Sole id buffer)
    (arena : after.arena buffer.arena = store.arena buffer.arena) : after.Whole id buffer where
  offset := whole.offset
  owner := whole.owner
  unpooled := whole.unpooled
  sole := sole
  size := by rw [arena, whole.size]

theorem Sole.refitted {other : BufferId} {window : Buffer} (sole : store.Sole other window)
    (live : store.buffers.get? id = some buffer) :
    (store.refitted id buffer capacity region).Sole other window := by
  refine sole.of_older fun found => ?_
  rw [buffers_refitted] at found
  exact BuffersChanged.older_update live Buffer.akin_withCapacity found

namespace Undivided

/-- No buffer was made, and none has another capacity or a region of another size. -/
theorem of_sizes (undivided : store.Undivided) (covered : after.Covered)
    (older : ∀ {id buffer}, after.buffers.get? id = some buffer →
      ∃ earlier, store.buffers.get? id = some earlier ∧ earlier.Akin buffer ∧
        buffer.capacity = earlier.capacity)
    (sizes : ∀ {id buffer}, store.buffers.get? id = some buffer →
      (after.arena buffer.arena).region.size = (store.arena buffer.arena).region.size) :
    after.Undivided where
  covered := covered
  whole {id buffer} live := by
    obtain ⟨earlier, was, akin, capacity⟩ := older live
    obtain ⟨offset, owner, unpooled, sole, size⟩ := undivided.whole was
    have still : after.Sole id earlier := sole.of_older fun also =>
      (older also).imp fun _ found => ⟨found.1, found.2.1⟩
    refine ⟨akin.offset.trans offset, akin.role.trans owner, akin.pooled.trans unpooled, ?_, ?_⟩
    · rw [Sole, akin.arena]
      exact still
    · rw [akin.arena, capacity, sizes was, size]

theorem of_buffers (undivided : store.Undivided) (covered : after.Covered)
    (buffers : after.buffers = store.buffers)
    (sizes : ∀ {id buffer}, store.buffers.get? id = some buffer →
      (after.arena buffer.arena).region.size = (store.arena buffer.arena).region.size) :
    after.Undivided :=
  undivided.of_sizes covered (fun live => ⟨_, buffers ▸ live, .refl, rfl⟩) sizes

theorem size_addArena (undivided : store.Undivided) (live : store.buffers.get? id = some buffer) :
    ((store.addArena region).arena buffer.arena).region.size =
      (store.arena buffer.arena).region.size := by
  rw [arena_addArena, if_neg (undivided.covered.known live)]

theorem vacate (undivided : store.Undivided) (covered : after.Covered)
    (buffers : after.buffers = store.buffers.vacate id)
    (regions : ∀ {arena}, (after.arena arena).region = (store.arena arena).region) :
    after.Undivided := by
  refine undivided.of_sizes covered (fun live => ?_) fun _ => congrArg Region.size regions
  rw [buffers] at live
  exact ⟨_, Covered.windows_vacate live, .refl, rfl⟩

/-- The owner of a whole region takes another capacity, and the region with it. -/
theorem refitted (undivided : store.Undivided)
    (covered : (store.refitted id buffer capacity region).Covered)
    (live : store.buffers.get? id = some buffer)
    (resized : store.resized buffer capacity = .ok region) :
    (store.refitted id buffer capacity region).Undivided := by
  have whole := undivided.whole live
  refine ⟨covered, fun {other window} also => ?_⟩
  rw [get?_refitted live] at also
  split at also
  · rename_i here
    cases also
    subst here
    have set : ((store.refitted other buffer capacity region).arena buffer.arena).region =
        region := by
      rw [arena_refitted]
      exact region_setRegion (undivided.covered.held.known live) undivided.covered.standing
    have size : region.size = buffer.offset + capacity := by
      rw [Store.resized, undivided.isExclusive live] at resized
      exact Region.size_resize resized
    refine ⟨whole.offset, whole.owner, whole.unpooled, whole.sole.refitted live, ?_⟩
    change ((store.refitted other buffer capacity region).arena buffer.arena).region.size = capacity
    rw [set, size, whole.offset, Nat.zero_add]
  · rename_i elsewhere
    have sibling := undivided.whole also
    have apart : window.arena ≠ buffer.arena := fun same =>
      elsewhere (whole.sole other window also same)
    refine sibling.of_arena (sibling.sole.refitted live) ?_
    rw [arena_refitted, arena_setRegion_of_ne apart]

end Undivided

end Store

open Store in
theorem Step.undivided (step : Step warrant store after) (barren : warrant.Barren)
    (undivided : store.Undivided) : after.Undivided := by
  have covered : after.Covered := step.covered undivided.covered
  cases step with
  | stock serving served offered =>
      exact undivided.of_buffers covered rfl undivided.size_addArena
  | overstock serving served offered =>
      refine undivided.of_buffers covered rfl fun live => ?_
      rw [region_markFreed]
      exact undivided.size_addArena live
  | drain served =>
      exact undivided.of_buffers covered buffers_drainKey fun _ => by rw [region_drainKey]
  | addArena => exact undivided.of_buffers covered rfl undivided.size_addArena
  | create granted fresh => exact absurd granted (barren.grants _)
  | leaseFresh granted serving served valid none => exact absurd granted (barren.grants _)
  | leaseIdle granted served valid taken reserved => exact absurd granted (barren.grants _)
  | derive named live accessible derived => exact absurd named (barren.derives _)
  | write named live guarded written =>
      refine undivided.of_buffers covered rfl fun _ => ?_
      rcases store.region_setRegion_cases with kept | ⟨here, set⟩
      · rw [kept]
      · rw [set, Region.size_write written, here]
  | @place other before placed named live moved =>
      refine undivided.of_sizes covered (fun {id buffer} found => ?_) fun _ => rfl
      rw [mapBuffer, Table.get?_update] at found
      split at found
      · rename_i here
        obtain ⟨_, _, rfl⟩ := Option.map_eq_some_iff.mp found
        exact ⟨before, here ▸ live, moved.akin, moved.capacity⟩
      · exact ⟨buffer, found, .refl, rfl⟩
  | resize named live allowed accessible resized => exact undivided.refitted covered live resized
  | free named live frees =>
      exact undivided.of_buffers covered buffers_free fun _ => by rw [region_free]
  | vacate named live unleased => exact undivided.vacate covered rfl rfl
  | reclaim named live leased =>
      exact undivided.vacate covered buffers_reclaim region_reclaim
  | _ => exact undivided.of_buffers covered rfl fun _ => rfl

theorem Steps.undivided (steps : Steps warrant store after) (barren : warrant.Barren)
    (undivided : store.Undivided) : after.Undivided :=
  steps.preserve undivided fun step => step.undivided barren

namespace Store

/-- What making a buffer comes to: nothing, an arena that no buffer is on, or an arena with its
owner. -/
inductive Begun (store : Store) : Store → Prop
  | refused : Begun store store
  | unused {region : Region} : Begun store (store.addArena region)
  | made {region : Region} {buffer : Buffer} (fresh : buffer.Fresh store region) :
      Begun store ((store.addArena region).addBuffer buffer)

theorem arena_addFresh (fresh : buffer.Fresh store region) {arena : ArenaId} :
    ((store.addArena region).addBuffer buffer).arena arena =
      if arena = buffer.arena then { region := region } else store.arena arena := by
  rw [addBuffer_frame.2.1, arena_addArena, fresh.arena]

/-- A new buffer is alone on its new arena, and nothing happens to the others. -/
theorem Exact.addFresh (exact : store.Exact) (fresh : buffer.Fresh store region)
    (covered : ((store.addArena region).addBuffer buffer).Covered) :
    ((store.addArena region).addBuffer buffer).Exact := by
  have apart : ∀ {other window}, store.buffers.get? other = some window →
      window.arena ≠ buffer.arena := by
    intro other window live
    rw [fresh.arena]
    exact exact.covered.known live
  refine ⟨⟨covered, fun {id window} live => ?_⟩, fun {id window} live => ?_⟩
  · rcases Table.get?_add_cases live with ⟨new, rfl⟩ | was
    · refine ⟨fresh.offset, fresh.role, fresh.pooled, fun other sibling also same => ?_, ?_⟩
      · rcases Table.get?_add_cases also with ⟨alsoNew, _⟩ | older
        · exact alsoNew.trans new.symm
        · exact absurd same (apart older)
      · rw [arena_addFresh fresh, if_pos rfl, fresh.capacity]
    · have whole := exact.whole was
      refine whole.of_arena (whole.sole.addBuffer rfl (apart was).symm) ?_
      rw [arena_addFresh fresh, if_neg (apart was)]
  · rcases Table.get?_add_cases live with ⟨_, rfl⟩ | was
    · rw [arena_addFresh fresh, if_pos rfl]
    · rw [arena_addFresh fresh, if_neg (apart was)]
      exact exact.intact was

theorem Begun.exact (begun : store.Begun after) (exact : store.Exact) : after.Exact := by
  let any : Warrant := ⟨fun _ => True, fun _ => True, fun _ => True, fun _ => True, fun _ => True,
    fun _ => True⟩
  cases begun with
  | refused => exact exact
  | @unused region =>
      have step : Step any store (store.addArena region) := .addArena
      have covered := step.covered exact.covered
      refine ⟨exact.toUndivided.of_buffers covered rfl exact.size_addArena, fun live => ?_⟩
      rw [freed_addArena]
      exact exact.intact live
  | @made region buffer fresh =>
      have step : Step any store ((store.addArena region).addBuffer buffer) :=
        .create trivial fresh
      exact exact.addFresh fresh (step.covered exact.covered)

end Store

namespace Action

open Store

variable {α β : Type} {config : MemoryConfig} {request : Allocation} {data : Bytes}
variable {checking : Bool}

theorem begun_bind_pure {action : Action α} {value : α → β}
    (begun : store.Begun (runOn action store).2) :
    store.Begun (runOn (action >>= fun result => pure (value result)) store).2 := by
  rw [after_bind_pure]
  exact begun

theorem begun_bind_check {result : Except MemoryError α} {next : α → Action BufferId}
    (rest : ∀ value, result = .ok value → store.Begun (runOn (next value) store).2) :
    store.Begun (runOn (check result >>= next) store).2 := by
  rw [runOn_bind, runOn_check]
  cases result with
  | error error => exact .refused
  | ok value => exact rest value rfl

theorem begun_bind_buffer {next : Buffer → Action BufferId}
    (rest : ∀ buffer, store.buffers.get? id = some buffer →
      store.Begun (runOn (next buffer) store).2) :
    store.Begun (runOn (Action.buffer id >>= next) store).2 := by
  cases live : store.buffers.get? id with
  | none =>
      rw [runOn_bind_buffer_none live]
      exact .refused
  | some buffer =>
      rw [runOn_bind, runOn_buffer live]
      exact rest buffer live

theorem begun_allocatePlain : store.Begun (runOn (allocatePlain config request) store).2 := by
  refine begun_bind_check fun _ valid => ?_
  exact .made (fresh_ofAllocation valid)

theorem begun_full {region : Region} : store.Begun ((store.addArena region).addBuffer
    (.full region.size checking config store.arenas.next store.buffers.next)) :=
  .made fresh_full

theorem begun_wrapBlock : store.Begun (runOn (wrapBlock data config checking) store).2 := by
  rw [wrapBlock, runOn_bind, runOn_newArena]
  simp only [runOn_bind, runOn_check]
  cases data.checkBlock config with
  | error error => exact .unused
  | ok _ => exact begun_full

theorem begun_wrapArray : store.Begun (runOn (wrapArray data config checking) store).2 :=
  begun_bind_check fun _ _ => begun_full

theorem begun_copyRange : store.Begun (runOn (copyRange id index length) store).2 := by
  refine begun_bind_buffer fun source live => ?_
  rw [runOn_bind, runOn_get]
  refine begun_bind_check fun data read => ?_
  refine begun_bind_check fun region written => ?_
  exact .made (fresh_copied written)

theorem begun_copy : store.Begun (runOn (copy id) store).2 :=
  begun_bind_buffer fun _ _ => begun_copyRange

end Action

/-- The commands that are not several operations on a store in one. -/
def Command.Direct : Command → Prop
  | .wrap (.bytes _ _) _ => False
  | .wrap (.hex _ _ _) _ => False
  | .wrap (.chunks _) _ => False
  | _ => True

namespace Store

theorem begun_or_barren (unshared : command.Unshared) (direct : command.Direct) :
    store.Begun (store.run command).2 ∨ (command.warrant store).Barren := by
  have barren : (∀ maximum, ¬ command.Grants store maximum) → (command.warrant store).Barren := by
    refine fun none => ⟨none, fun parent derives => ?_⟩
    exact unshared.unviewed parent derives.2
  unfold run
  cases command with
  | allocate allocator request =>
      cases allocator with
      | plain config => exact .inl (Action.begun_bind_pure Action.begun_allocatePlain)
      | pooled pool => exact absurd rfl (unshared.unpooled pool)
  | wrap source checking =>
      cases source with
      | block content config => exact .inl (Action.begun_bind_pure Action.begun_wrapBlock)
      | array content config => exact .inl (Action.begun_bind_pure Action.begun_wrapArray)
      | _ => exact direct.elim
  | onBuffer id request =>
      cases request with
      | copy => exact .inl (Action.begun_bind_pure Action.begun_copy)
      | copyRange index length => exact .inl (Action.begun_bind_pure Action.begun_copyRange)
      | _ => exact .inr (barren (by rintro maximum ⟨⟩))
  | _ => exact .inr (barren (by rintro maximum ⟨⟩))

theorem Exact.run_of_barren (exact : store.Exact) (reachable : store.Reachable)
    (barren : (command.warrant store).Barren) : (store.run command).2.Exact := by
  refine ⟨steps_run.undivided barren exact.toUndivided, fun {id later} stays => ?_⟩
  obtain ⟨buffer, live, akin⟩ := steps_run.older_of_barren barren.grants barren.derives stays
  rw [akin.arena]
  by_cases ends : command.Ends
  · have unnamed : id ∉ command.handles := fun named => by
      rw [get?_run_of_ends ends named] at stays
      contradiction
    obtain ⟨_, same, _⟩ := Steps.sole steps_run exact.covered.held live (exact.whole live).sole
      (Command.not_touches live unnamed) (barren.derives id)
    rw [same]
    exact exact.intact live
  · rw [reachable.freed_run ends live]
    exact exact.intact live

/-- The store after some direct commands that share nothing. -/
def Unfolds (store after : Store) : Prop :=
  ∃ commands : List Command, (∀ command ∈ commands, command.Unshared ∧ command.Direct) ∧
    after = store.after commands

namespace Unfolds

variable {between : Store}

theorem refl : store.Unfolds store := ⟨[], List.forall_mem_nil _, rfl⟩

theorem trans (first : store.Unfolds between) (second : between.Unfolds after) :
    store.Unfolds after := by
  obtain ⟨early, direct, rfl⟩ := first
  obtain ⟨late, alsoDirect, rfl⟩ := second
  exact ⟨early ++ late, List.forall_mem_append.mpr ⟨direct, alsoDirect⟩, List.foldl_append.symm⟩

theorem single (unshared : command.Unshared) (direct : command.Direct) :
    store.Unfolds (store.run command).2 :=
  ⟨[command], List.forall_mem_singleton.mpr ⟨unshared, direct⟩, rfl⟩

theorem exact (unfolds : store.Unfolds after) (exact : store.Exact)
    (reachable : store.Reachable) : after.Exact := by
  obtain ⟨commands, direct, rfl⟩ := unfolds
  induction commands generalizing store with
  | nil => exact exact
  | cons command rest ih =>
      obtain ⟨⟨unshared, single⟩, direct⟩ := List.forall_mem_cons.mp direct
      refine ih ?_ reachable.run direct
      rcases begun_or_barren unshared single with begun | barren
      · exact begun.exact exact
      · exact exact.run_of_barren reachable barren

end Unfolds

end Store

namespace Action

open Store

variable {α : Type} {data : Bytes} {checking : Bool} {allocator : Allocator}

theorem unfolds_bind {β : Type} {action : Action α} {next : α → Action β}
    (first : store.Unfolds (runOn action store).2)
    (rest : ∀ value between, Store.Unfolds between (runOn (next value) between).2) :
    store.Unfolds (runOn (action >>= next) store).2 := by
  rw [runOn_bind]
  rcases outcome : runOn action store with ⟨_ | value, between⟩
  · rw [outcome] at first
    exact first
  · rw [outcome] at first
    exact first.trans (rest value between)

theorem unfolds_fill : store.Unfolds (runOn (fill id data) store).2 := by
  have written : store.Unfolds (store.run (.onBuffer id (.writeBytes data))).2 :=
    .single (Command.unshared_onBuffer not_false) trivial
  have same : (store.run (.onBuffer id (.writeBytes data))).2 =
      (runOn (writeBytes id data) store).2 := after_bind_pure
  rw [same] at written
  rw [fill, runOn_tryCatch]
  rcases outcome : runOn (writeBytes id data) store with ⟨failure | _, between⟩
  · rw [outcome] at written
    -- What could not be filled is dropped.
    have dropped : (between.run (.drop id)).2 = between.drop id := by
      change (runOn (Action.buffer id >>= _) between).2 = _
      cases live : between.buffers.get? id with
      | none => rw [runOn_bind_buffer_none live, Store.drop, live]
      | some buffer =>
          rw [runOn_bind, runOn_buffer live]
          rfl
    have ended : between.Unfolds (between.run (.drop id)).2 :=
      .single Command.unshared_drop trivial
    rw [dropped] at ended
    exact written.trans ended
  · rw [outcome] at written
    exact written

theorem unfolds_fillChunks {chunks : List Bytes} :
    store.Unfolds (runOn (fillChunks id chunks) store).2 := by
  induction chunks generalizing store with
  | nil => exact .refl
  | cons chunk rest ih => exact unfolds_bind unfolds_fill fun _ _ => ih

theorem unfolds_allocate {request : Allocation} (unpooled : ∀ pool, allocator ≠ .pooled pool) :
    store.Unfolds (runOn (allocate allocator request) store).2 := by
  have made : store.Unfolds (store.run (.allocate allocator request)).2 :=
    .single (Command.unshared_allocate unpooled) trivial
  have same : (store.run (.allocate allocator request)).2 =
      (runOn (allocate allocator request) store).2 := after_bind_pure
  rwa [same] at made

theorem unfolds_bind_check {β : Type} {result : Except MemoryError α} {next : α → Action β}
    (rest : ∀ value, store.Unfolds (runOn (next value) store).2) :
    store.Unfolds (runOn (check result >>= next) store).2 := by
  rw [runOn_bind, runOn_check]
  cases result with
  | error error => exact .refl
  | ok value => exact rest value

theorem unfolds_wrapBytes (unpooled : ∀ pool, allocator ≠ .pooled pool) :
    store.Unfolds (runOn (wrapBytes allocator data checking) store).2 := by
  refine unfolds_bind_check fun _ => ?_
  refine unfolds_bind (unfolds_allocate unpooled) fun id between => ?_
  rw [after_bind_pure]
  exact unfolds_fill

theorem unfolds_wrapChunks {chunks : List Bytes} :
    store.Unfolds (runOn (wrapChunks chunks checking) store).2 := by
  refine unfolds_bind_check fun _ => ?_
  refine unfolds_bind (unfolds_allocate fun _ => nofun) fun id between => ?_
  rw [after_bind_pure]
  exact unfolds_fillChunks

end Action

namespace Store

theorem unfolds_run (unshared : command.Unshared) : store.Unfolds (store.run command).2 := by
  have unpooled : ∀ {allocator : Allocator}, command.allocator? = some allocator →
      ∀ pool, allocator ≠ .pooled pool := fun named pool same =>
    unshared.unpooled pool (same ▸ named)
  cases command with
  | wrap source checking =>
      have made : (store.run (.wrap source checking)).2 =
          (Action.runOn (source.perform checking) store).2 := Action.after_bind_pure
      cases source with
      | bytes allocator content => exact made ▸ Action.unfolds_wrapBytes (unpooled rfl)
      | hex allocator text =>
          exact made ▸ Action.unfolds_bind_check fun _ => Action.unfolds_wrapBytes (unpooled rfl)
      | chunks content => exact made ▸ Action.unfolds_wrapChunks
      | _ => exact .single unshared trivial
  | _ => exact .single unshared trivial

theorem exact_initial : initial.Exact := by
  have absent : ∀ {id : BufferId} {buffer : Buffer}, initial.buffers.get? id ≠ some buffer :=
    fun found => by
      rw [Table.get?_eq_none_of_next_le (Nat.zero_le _)] at found
      contradiction
  exact ⟨⟨Reachable.covered ⟨[], rfl⟩, fun live => absurd live absent⟩, fun live =>
    absurd live absent⟩

/-- Where nothing is shared, every live buffer has the whole of an arena to itself. -/
theorem exact_after (unshared : ∀ command ∈ commands, command.Unshared) :
    (initial.after commands).Exact := by
  induction commands using List.reverseRecOn with
  | nil => exact exact_initial
  | append_singleton commands command ih =>
      obtain ⟨earlier, last⟩ := List.forall_mem_append.mp unshared
      rw [after_concat]
      exact (unfolds_run (List.forall_mem_singleton.mp last)).exact (ih earlier) ⟨_, rfl⟩

end Store

end CursorBuffers
