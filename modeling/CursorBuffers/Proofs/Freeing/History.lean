import CursorBuffers.Proofs.Freeing.Causes

namespace CursorBuffers

/-- Of one of the commands, and of those before it, this was true. -/
def Occurs (commands : List Command) (happens : List Command → Command → Prop) : Prop :=
  ∃ before command rest, commands = before ++ command :: rest ∧ happens before command

section Occurs

variable {commands : List Command} {command : Command}
variable {happens : List Command → Command → Prop}

theorem not_occurs_nil : ¬ Occurs [] happens := by
  rintro ⟨before, command, rest, split, _⟩
  cases before <;> cases split

theorem occurs_concat : Occurs (commands ++ [command]) happens ↔
    Occurs commands happens ∨ happens commands command := by
  constructor
  · rintro ⟨before, made, rest, split, true⟩
    rcases List.eq_nil_or_concat rest with rfl | ⟨earlier, last, rfl⟩
    · obtain ⟨rfl, same⟩ := List.append_inj' split rfl
      cases same
      exact .inr true
    · rw [List.concat_eq_append, ← List.cons_append, ← List.append_assoc] at split
      obtain ⟨rfl, _⟩ := List.append_inj' split rfl
      exact .inl ⟨before, made, earlier, rfl, true⟩
  · rintro (⟨before, made, rest, rfl, true⟩ | true)
    · exact ⟨before, made, rest ++ [command], by simp, true⟩
    · exact ⟨commands, command, [], rfl, true⟩

end Occurs

/-- In the course of the commands the buffer was allocated, wrapped, copied or sliced, and not
duplicated. -/
def Answerable (commands : List Command) (id : BufferId) : Prop :=
  Occurs commands fun before command => (Store.initial.after before).Makes command id ∧
    ∀ parent, command ≠ .onBuffer parent .duplicate

/-- In the course of the commands a buffer on the arena that is answerable was released. -/
def ReleasedOn (commands : List Command) (arena : ArenaId) : Prop :=
  Occurs commands fun before command => ∃ id window, command = .release id ∧
    (Store.initial.after before).buffers.get? id = some window ∧ window.arena = arena ∧
    Answerable before id

/-- In the course of the commands the buffer was released or dropped. -/
def EndedIn (commands : List Command) (id : BufferId) : Prop :=
  Occurs commands fun before command => id ∈ command.ended ∧
    ((Store.initial.after before).buffers.get? id).isSome

variable {warrant : Warrant} {store after : Store} {id : BufferId} {buffer : Buffer}
variable {arena : ArenaId}

/-- A buffer that is no window and was not there before. -/
structure Newcomer (store : Store) (buffer : Buffer) : Prop where
  owner : buffer.role = .owner
  apart : buffer.pooled = false → store.arenas.next ≤ buffer.arena

/-- Where no window is opened, whoever comes is a newcomer. -/
theorem Steps.newcomer (steps : Steps warrant store after) (held : store.WellHeld)
    (unviewed : ∀ parent, ¬ warrant.derives parent) (new : store.buffers.next ≤ id)
    (live : after.buffers.get? id = some buffer) : Newcomer store buffer := by
  induction steps generalizing buffer with
  | refl =>
      rw [Table.get?_eq_none_of_next_le new] at live
      contradiction
  | @tail between after earlier step ih =>
      cases step.joined (Steps.wellHeld earlier held) with
      | nobody older =>
          obtain ⟨middle, was, akin⟩ := older live
          obtain ⟨owner, apart⟩ := ih was
          exact ⟨akin.role.trans owner, fun unpooled =>
            akin.arena ▸ apart (akin.pooled.symm.trans unpooled)⟩
      | window added named was derived arenas => exact absurd named (unviewed _)
      | first added origin offset role leased alone housed intact =>
          rcases Table.get?_add_cases (added ▸ live) with ⟨_, rfl⟩ | old
          · refine ⟨role, fun unpooled => ?_⟩
            cases housed with
            | new here whole => exact here ▸ Steps.arenas_next_le earlier
            | reused taken here pooled =>
                rw [unpooled] at pooled
                contradiction
          · exact ih old

/-- An arena that only buffers from a pool are on has no others afterwards. -/
theorem Step.pooledOn (step : Step warrant store after) (held : store.WellHeld)
    (known : arena < store.arenas.next)
    (pooled : ∀ {id buffer}, store.buffers.get? id = some buffer → buffer.arena = arena →
      buffer.pooled = true)
    (live : after.buffers.get? id = some buffer) (here : buffer.arena = arena) :
    buffer.pooled = true := by
  cases step.joined held with
  | nobody older =>
      obtain ⟨earlier, was, akin⟩ := older live
      exact akin.pooled.trans (pooled was (akin.arena.symm.trans here))
  | @window parent source view added named was derived arenas =>
      rcases Table.get?_add_cases (added ▸ live) with ⟨_, rfl⟩ | old
      · cases derived with
        | sliced within => exact @pooled _ source was here
        | duplicated => exact @pooled _ source was here
      · exact pooled old here
  | first added origin offset role leased alone housed intact =>
      rcases Table.get?_add_cases (added ▸ live) with ⟨_, rfl⟩ | old
      · cases housed with
        | new new whole => exact absurd (here.symm.trans new) (Nat.ne_of_lt known)
        | reused taken there pooled => exact pooled
      · exact pooled old here

theorem Steps.pooledOn (steps : Steps warrant store after) (held : store.WellHeld)
    (known : arena < store.arenas.next)
    (pooled : ∀ {id buffer}, store.buffers.get? id = some buffer → buffer.arena = arena →
      buffer.pooled = true)
    (live : after.buffers.get? id = some buffer) (here : buffer.arena = arena) :
    buffer.pooled = true := by
  induction steps generalizing id buffer with
  | refl => exact pooled live here
  | @tail between after earlier step ih =>
      exact step.pooledOn (Steps.wellHeld earlier held)
        (Nat.lt_of_lt_of_le known (Steps.arenas_next_le earlier)) ih live here

namespace Store

variable {command : Command}

theorem not_derives_of_foreign (foreign : ∀ parent, ¬ command.Views parent) (parent : BufferId) :
    ¬ (command.warrant store).derives parent := fun derives => foreign parent derives.2

theorem frees_lt (freeing : (command.warrant store).frees id) : id < store.buffers.next := by
  obtain ⟨source, live⟩ := Option.isSome_iff_exists.mp freeing.1
  exact Table.lt_next_of_get? live

theorem freed_after {commands : List Command} (freed : (store.arena arena).freed = true) :
    ((store.after commands).arena arena).freed = true := by
  induction commands using List.reverseRecOn with
  | nil => exact freed
  | append_singleton commands command ih =>
      rw [after_concat]
      exact steps_run.freed ih

/-- Of what is made, and not from a pool, only a duplicate is a view. -/
theorem Makes.role (makes : store.Makes command id) (held : store.WellHeld)
    (live : (store.run command).2.buffers.get? id = some buffer)
    (unpooled : buffer.pooled = false) :
    buffer.role ≠ .view ↔ ∀ parent, command ≠ .onBuffer parent .duplicate := by
  rcases makes.origin live with ⟨foreign, _⟩ | ⟨parent, source, ⟨request, rfl, asks⟩, was, _⟩
  · have came := steps_run.newcomer held (not_derives_of_foreign foreign) makes.next_le live
    refine iff_of_true (by simp [came.owner]) ?_
    rintro parent rfl
    exact foreign parent ⟨_, rfl, trivial⟩
  · have opens := makes.window? asks was live
    cases request with
    | slice =>
        cases opens
        exact iff_of_true (by simpa [Buffer.sliced] using unpooled) (by simp)
    | sliceRange index length =>
        cases opens
        exact iff_of_true (by simpa [Buffer.sliced] using unpooled) (by simp)
    | duplicate =>
        cases opens
        exact iff_of_false (fun role => role rfl) fun other => other parent rfl
    | _ => exact asks.elim

end Store

section History

open Store

variable {commands : List Command} {root : BufferId}

theorem Answerable.lt_next (answerable : Answerable commands id) :
    id < (initial.after commands).buffers.next := by
  induction commands using List.reverseRecOn with
  | nil => exact absurd answerable not_occurs_nil
  | append_singleton commands command ih =>
      rw [after_concat]
      rcases occurs_concat.mp answerable with earlier | ⟨makes, _⟩
      · exact Nat.lt_of_lt_of_le (ih earlier) steps_run.next_le
      · exact makes.lt_next

/-- A buffer that is not from a pool keeps in its role whether it was duplicated. -/
theorem answerable_iff (live : (initial.after commands).buffers.get? id = some buffer)
    (unpooled : buffer.pooled = false) : Answerable commands id ↔ buffer.role ≠ .view := by
  induction commands using List.reverseRecOn generalizing buffer with
  | nil =>
      rw [after_nil, Table.get?_eq_none_of_next_le (Nat.zero_le id)] at live
      contradiction
  | append_singleton commands command ih =>
      have reachable : (initial.after commands).Reachable := ⟨_, rfl⟩
      rw [after_concat] at live
      refine occurs_concat.trans ?_
      by_cases known : id < (initial.after commands).buffers.next
      · obtain ⟨earlier, was, akin⟩ := steps_run.older known live
        have before : Answerable commands id ↔ buffer.role ≠ .view := by
          rw [akin.role]
          exact ih was (akin.pooled.symm.trans unpooled)
        have unmade : ¬ (initial.after commands).Makes command id := fun makes =>
          Nat.not_lt.mpr makes.next_le known
        exact (or_iff_left fun made => unmade made.1).trans before
      · have makes : (initial.after commands).Makes command id :=
          ⟨Table.get?_eq_none_of_next_le (Nat.le_of_not_lt known), by rw [live]; rfl⟩
        have now := makes.role reachable.wellHeld live unpooled
        refine (or_iff_right fun earlier => known (Answerable.lt_next earlier)).trans ?_
        exact (and_iff_right makes).trans now.symm

theorem Store.after_release (live : store.buffers.get? id = some buffer) :
    (store.run (.release id)).2 = store.release id := by
  change (Action.runOn (Action.buffer id >>= _) store).2 = _
  rw [Action.runOn_bind, Action.runOn_buffer live]
  rfl

theorem Store.freed_release (stored : (store.arenas.get? buffer.arena).isSome)
    (live : store.buffers.get? id = some buffer) (frees : Store.frees buffer = true) :
    ((store.release id).arena buffer.arena).freed = true := by
  have marked : ((store.free buffer).arena buffer.arena).freed = true := by
    apply free_induction (motive := fun after => (after.arena buffer.arena).freed = true)
    · exact fun freed => freed
    · exact fun event => freed_markFreed stored
  simp only [release, live, frees, if_true]
  exact endsIn_drop.freed marked

/-- A release of a buffer that is answerable has freed the arena, or there are only buffers from a
pool on it. -/
theorem ReleasedOn.freed_or (released : ReleasedOn commands arena) :
    ((initial.after commands).arena arena).freed = true ∨
      arena < (initial.after commands).arenas.next ∧
        ∀ {id buffer}, (initial.after commands).buffers.get? id = some buffer →
          buffer.arena = arena → buffer.pooled = true := by
  induction commands using List.reverseRecOn with
  | nil => exact absurd released not_occurs_nil
  | append_singleton commands command ih =>
      have reachable : (initial.after commands).Reachable := ⟨_, rfl⟩
      have held := reachable.wellHeld
      have lasting : arena < (initial.after commands).arenas.next →
          (∀ {id buffer}, (initial.after commands).buffers.get? id = some buffer →
            buffer.arena = arena → buffer.pooled = true) →
          arena < (initial.after (commands ++ [command])).arenas.next ∧
            ∀ {id buffer}, (initial.after (commands ++ [command])).buffers.get? id = some buffer →
              buffer.arena = arena → buffer.pooled = true := by
        intro known pooled
        rw [after_concat]
        exact ⟨Nat.lt_of_lt_of_le known steps_run.arenas_next_le,
          fun live here => steps_run.pooledOn held known pooled live here⟩
      rcases occurs_concat.mp released with earlier | ⟨id, window, rfl, live, rfl, answerable⟩
      · rcases ih earlier with freed | ⟨known, pooled⟩
        · rw [after_concat]
          exact .inl (steps_run.freed freed)
        · exact .inr (lasting known pooled)
      · cases tag : window.pooled with
        | true =>
            refine .inr (lasting (held.known live) fun also here => ?_)
            exact (held.family live also here.symm).2.symm.trans tag
        | false =>
            have role := (answerable_iff live tag).mp answerable
            have stored := reachable.covered.standing _ (held.known live)
            rw [after_concat, after_release live]
            exact .inl (freed_release stored live (by simp [frees, tag, role]))

/-- An arena on which there is a live buffer that is not from a pool was freed by a release of a
buffer that is answerable. -/
theorem releasedOn_of_freed (live : (initial.after commands).buffers.get? id = some buffer)
    (unpooled : buffer.pooled = false)
    (freed : ((initial.after commands).arena buffer.arena).freed = true) :
    ReleasedOn commands buffer.arena := by
  induction commands using List.reverseRecOn generalizing id buffer with
  | nil =>
      rw [after_nil, Table.get?_eq_none_of_next_le (Nat.zero_le id)] at live
      contradiction
  | append_singleton commands command ih =>
      have reachable : (initial.after commands).Reachable := ⟨_, rfl⟩
      rw [after_concat] at live freed
      refine occurs_concat.mpr ?_
      rcases steps_run.release_of_freed reachable.wellHeld (fun _ => frees_lt) live unpooled
        freed with ⟨other, source, was, here, tag, before⟩ | ⟨named, source, freeing, was, here,
        frees⟩
      · exact .inl (here ▸ ih was tag (here.symm ▸ before))
      · simp only [Store.frees, Bool.and_eq_true, Bool.not_eq_true', bne_iff_ne] at frees
        exact .inr ⟨named, source, freeing.2, was, here, (answerable_iff was frees.1).mpr frees.2⟩

/-- What was released or dropped is gone for good. -/
theorem EndedIn.gone (ended : EndedIn commands id) :
    id < (initial.after commands).buffers.next ∧
      (initial.after commands).buffers.get? id = none := by
  induction commands using List.reverseRecOn with
  | nil => exact absurd ended not_occurs_nil
  | append_singleton commands command ih =>
      rw [after_concat]
      rcases occurs_concat.mp ended with earlier | ⟨named, live⟩
      · obtain ⟨known, gone⟩ := ih earlier
        refine ⟨Nat.lt_of_lt_of_le known steps_run.next_le, ?_⟩
        cases found : ((initial.after commands).run command).2.buffers.get? id with
        | none => rfl
        | some later =>
            obtain ⟨earlier, was, _⟩ := steps_run.older known found
            rw [gone] at was
            contradiction
      · obtain ⟨source, was⟩ := Option.isSome_iff_exists.mp live
        refine ⟨Nat.lt_of_lt_of_le (Table.lt_next_of_get? was) steps_run.next_le, ?_⟩
        cases command with
        | release other => exact get?_run_of_ends trivial named
        | drop other => exact get?_run_of_ends trivial named
        | _ => exact absurd named List.not_mem_nil

theorem Lineage.of_root (line : Lineage commands id root) : Lineage commands root root := by
  induction line with
  | root foreign made => exact .root foreign made
  | view views made line ih => exact .later ih
  | later line ih => exact .later ih

/-- The first buffer of a creation lives until it is released or dropped. -/
theorem Lineage.stays (line : Lineage commands id root) (lasting : ¬ EndedIn commands root) :
    ∃ first, (initial.after commands).buffers.get? root = some first := by
  have stays : ∀ {commands command first}, (initial.after commands).buffers.get? root = some first →
      ¬ EndedIn (commands ++ [command]) root →
        ∃ later, (initial.after (commands ++ [command])).buffers.get? root = some later := by
    intro commands command first live lasting
    have spared : ¬ (command.warrant (initial.after commands)).ends root := by
      rintro (named | new)
      · exact lasting (occurs_concat.mpr (.inr ⟨named, by rw [live]; rfl⟩))
      · exact Nat.not_lt.mpr new (Table.lt_next_of_get? live)
    rw [after_concat]
    obtain ⟨later, found, _⟩ := steps_run.stays spared live
    exact ⟨later, found⟩
  have before : ∀ {commands command}, ¬ EndedIn (commands ++ [command]) root →
      ¬ EndedIn commands root := fun lasting ended => lasting (occurs_concat.mpr (.inl ended))
  induction line with
  | root foreign made =>
      rw [after_concat]
      exact Option.isSome_iff_exists.mp made.2
  | view views made line ih =>
      obtain ⟨first, live⟩ := ih (before lasting) stays before
      exact stays live lasting
  | later line ih =>
      obtain ⟨first, live⟩ := ih (before lasting) stays before
      exact stays live lasting

end History

end CursorBuffers
