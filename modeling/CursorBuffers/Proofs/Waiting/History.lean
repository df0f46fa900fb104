import CursorBuffers.Proofs.Waiting.Turnover

namespace CursorBuffers

variable {commands : List Command} {command : Command} {registry : RegistryId} {key : Nat}
variable {entry other : Idle} {store : Store} {new : List Idle} {place later count : Nat}

namespace Store

/-- The store after so many of the commands. -/
def stage (commands : List Command) (count : Nat) : Store := initial.after (commands.take count)

theorem stage_length : stage commands commands.length = initial.after commands := by
  rw [stage, List.take_length]

/-- A further command does not change what was before it. -/
theorem stage_concat (few : count ≤ commands.length) :
    stage (commands ++ [command]) count = stage commands count := by
  rw [stage, List.take_append_of_le_length few, stage]

theorem stage_concat_last : stage (commands ++ [command]) (commands.length + 1) =
    ((initial.after commands).run command).2 := by
  have all : (commands ++ [command]).length = commands.length + 1 := by simp
  rw [← all, stage_length, after_concat]

theorem stage_succ (here : commands[place]? = some command) :
    stage commands (place + 1) = ((stage commands place).run command).2 := by
  rw [stage, List.take_add_one, here, Option.toList_some, after_concat, stage]

section Joining

theorem mem_reserves_iff {id : PoolId} {pool : Pool} : entry ∈ store.reserves id pool count ↔
    ∃ place < count, entry = ⟨store.arenas.next + place, pool.settings.maxBufferCapacity,
      pool.settings.maxBufferCapacity, id⟩ := by
  simp only [reserves, List.mem_map, List.mem_range'_1]
  constructor
  · rintro ⟨arena, ⟨late, early⟩, rfl⟩
    exact ⟨arena - store.arenas.next, by omega, by rw [Nat.add_sub_cancel' late]⟩
  · rintro ⟨place, few, rfl⟩
    exact ⟨_, ⟨by omega, by omega⟩, rfl⟩

theorem Joins.not_queued (joins : store.Joins registry key command new) (held : store.WellHeld)
    (joined : entry ∈ new) : entry ∉ (store.registry registry).queue key := by
  intro queued
  have waits : entry ∈ store.idle := mem_idle_of_mem_queue queued
  cases joins with
  | nobody => cases joined
  | returned ends live leased served uses filed accepts =>
      obtain rfl := List.mem_singleton.mp joined
      exact held.idleApart waits live rfl
  | made filed =>
      obtain ⟨place, few, rfl⟩ := mem_reserves_iff.mp joined
      exact absurd (held.idleKnown waits) (by simp [addPool])

/-- What joins at once is in the order in which it was made. -/
theorem Joins.ordered (joins : store.Joins registry key command new) :
    new.Pairwise fun first second => first.arena < second.arena := by
  cases joins with
  | nobody => exact .nil
  | returned ends live leased served uses filed accepts => exact List.pairwise_singleton _ _
  | made filed =>
      rw [reserves, List.pairwise_map]
      exact List.pairwise_lt_range'

end Joining

/-- An entry has been in a queue since a command of the run: it was not there before the command, it
joined with it, and it was there ever after. -/
structure WaitsSince (commands : List Command) (registry : RegistryId) (key : Nat) (entry : Idle)
    (place : Nat) : Prop where
  joined : ∃ command new, commands[place]? = some command ∧
    (stage commands place).Joins registry key command new ∧ entry ∈ new
  queued : ∀ count, place < count → count ≤ commands.length →
    entry ∈ ((stage commands count).registry registry).queue key

namespace WaitsSince

theorem lt_length (waits : WaitsSince commands registry key entry place) :
    place < commands.length := by
  obtain ⟨command, new, here, _⟩ := waits.joined
  exact (List.getElem?_eq_some_iff.mp here).1

theorem not_queued (waits : WaitsSince commands registry key entry place) :
    entry ∉ ((stage commands place).registry registry).queue key := by
  obtain ⟨command, new, here, joins, member⟩ := waits.joined
  have reachable : (stage commands place).Reachable := ⟨_, rfl⟩
  exact joins.not_queued reachable.wellHeld member

/-- There is only one such command. -/
theorem unique (waits : WaitsSince commands registry key entry place)
    (also : WaitsSince commands registry key entry later) : place = later := by
  rcases Nat.lt_trichotomy place later with before | same | behind
  · exact absurd (waits.queued later before (Nat.le_of_lt also.lt_length)) also.not_queued
  · exact same
  · exact absurd (also.queued place behind (Nat.le_of_lt waits.lt_length)) waits.not_queued

/-- Whoever joins with the last command has waited since that command. -/
theorem last (joins : (initial.after commands).Joins registry key command new)
    (member : entry ∈ new)
    (queued : entry ∈ (((initial.after commands).run command).2.registry registry).queue key) :
    WaitsSince (commands ++ [command]) registry key entry commands.length := by
  refine ⟨⟨command, new, List.getElem?_concat_length, ?_, member⟩, fun count late early => ?_⟩
  · rwa [stage_concat (Nat.le_refl _), stage_length]
  · obtain rfl : count = commands.length + 1 := by
      rw [List.length_append, List.length_singleton] at early
      omega
    rwa [stage_concat_last]

/-- Whoever stays goes on waiting. -/
theorem concat (waits : WaitsSince commands registry key entry place)
    (stays : entry ∈ (((initial.after commands).run command).2.registry registry).queue key) :
    WaitsSince (commands ++ [command]) registry key entry place := by
  have few := waits.lt_length
  obtain ⟨made, new, here, joins, member⟩ := waits.joined
  refine ⟨⟨made, new, ?_, ?_, member⟩, fun count late early => ?_⟩
  · rw [List.getElem?_append_left few, here]
  · rwa [stage_concat (Nat.le_of_lt few)]
  · rw [List.length_append, List.length_singleton] at early
    rcases Nat.lt_or_eq_of_le early with before | rfl
    · rw [stage_concat (Nat.le_of_lt_succ before)]
      exact waits.queued count late (Nat.le_of_lt_succ before)
    · rwa [stage_concat_last]

/-- Whoever was there before the last command has waited since an earlier one. -/
theorem of_concat (waits : WaitsSince (commands ++ [command]) registry key entry place)
    (queued : entry ∈ ((initial.after commands).registry registry).queue key) :
    WaitsSince commands registry key entry place := by
  have few : place < commands.length := by
    have small := waits.lt_length
    rw [List.length_append, List.length_singleton] at small
    refine Nat.lt_of_le_of_ne (Nat.le_of_lt_succ small) ?_
    rintro rfl
    refine waits.not_queued ?_
    rwa [stage_concat (Nat.le_refl _), stage_length]
  obtain ⟨made, new, here, joins, member⟩ := waits.joined
  refine ⟨⟨made, new, ?_, ?_, member⟩, fun count late early => ?_⟩
  · rwa [List.getElem?_append_left few] at here
  · rwa [stage_concat (Nat.le_of_lt few)] at joins
  · rw [← stage_concat early]
    exact waits.queued count late (by simp; omega)

/-- Whoever has only now come has waited since the last command. -/
theorem eq_length (waits : WaitsSince (commands ++ [command]) registry key entry place)
    (unqueued : entry ∉ ((initial.after commands).registry registry).queue key) :
    place = commands.length := by
  refine Nat.le_antisymm (Nat.le_of_lt_succ ?_) (Nat.le_of_not_lt fun before => unqueued ?_)
  · simpa using waits.lt_length
  · rw [← stage_length, ← stage_concat (Nat.le_refl _)]
    exact waits.queued commands.length before (by simp)

end WaitsSince

/-- Every entry of a queue has waited since some command. -/
theorem exists_waitsSince
    (queued : entry ∈ ((initial.after commands).registry registry).queue key) :
    ∃ place, WaitsSince commands registry key entry place := by
  induction commands using List.reverseRecOn with
  | nil =>
      rw [after, List.foldl_nil, registry_initial] at queued
      exact absurd queued List.not_mem_nil
  | append_singleton commands command ih =>
      rw [after_concat] at queued
      obtain ⟨gone, rest, new, turned⟩ :=
        Reachable.turns_run ⟨commands, rfl⟩ command registry key
      have among := queued
      rw [turned.after] at among
      rcases List.mem_append.mp among with stayed | joined
      · obtain ⟨place, waits⟩ := ih (by rw [turned.before]; exact List.mem_append_right _ stayed)
        exact ⟨place, waits.concat queued⟩
      · exact ⟨commands.length, .last turned.joins joined queued⟩

/-- One entry has waited longer than another: it joined with an earlier command, or the command that
made both made it first. -/
def Earlier (commands : List Command) (registry : RegistryId) (key : Nat) (entry other : Idle) :
    Prop :=
  ∀ place later, WaitsSince commands registry key entry place →
    WaitsSince commands registry key other later →
    place < later ∨ place = later ∧ entry.arena < other.arena

/-- A queue is in the order in which its entries joined. -/
theorem queue_pairwise_earlier : (((initial.after commands).registry registry).queue key).Pairwise
    (Earlier commands registry key) := by
  induction commands using List.reverseRecOn with
  | nil =>
      rw [after, List.foldl_nil, registry_initial]
      exact .nil
  | append_singleton commands command ih =>
      have reachable : (initial.after commands).Reachable := ⟨commands, rfl⟩
      obtain ⟨gone, rest, new, turned⟩ := reachable.turns_run command registry key
      have waited : ∀ {entry}, entry ∈ rest →
          entry ∈ ((initial.after commands).registry registry).queue key := fun stayed => by
        rw [turned.before]
        exact List.mem_append_right _ stayed
      have came : ∀ {entry}, entry ∈ new →
          entry ∉ ((initial.after commands).registry registry).queue key :=
        fun joined => turned.joins.not_queued reachable.wellHeld joined
      rw [after_concat, turned.after, List.pairwise_append]
      refine ⟨?_, ?_, fun entry stayed other joined place later waits also => ?_⟩
      · rw [turned.before] at ih
        refine (List.pairwise_append.mp ih).2.1.imp_of_mem ?_
        intro entry other stayed also ordered place later waits follows
        exact ordered place later (waits.of_concat (waited stayed))
          (follows.of_concat (waited also))
      · refine turned.joins.ordered.imp_of_mem ?_
        intro entry other joined also first place later waits follows
        refine .inr ⟨?_, first⟩
        rw [waits.eq_length (came joined), follows.eq_length (came also)]
      · rw [also.eq_length (came joined)]
        exact .inl (waits.of_concat (waited stayed)).lt_length

/-- The region of an arena that waits is what it was when it joined the queue. -/
theorem WaitsSince.region (waits : WaitsSince commands registry key entry place)
    (since : place < count) (early : count ≤ commands.length) :
    ((stage commands count).arena entry.arena).region =
      ((initial.after commands).arena entry.arena).region := by
  induction commands using List.reverseRecOn with
  | nil => exact absurd (Nat.lt_of_lt_of_le since early) (Nat.not_lt_zero _)
  | append_singleton commands command ih =>
      have reachable : (initial.after commands).Reachable := ⟨commands, rfl⟩
      rw [List.length_append, List.length_singleton] at early
      rcases Nat.lt_or_eq_of_le early with before | rfl
      · have few : count ≤ commands.length := Nat.le_of_lt_succ before
        have waited : entry ∈ ((initial.after commands).registry registry).queue key := by
          rw [← stage_length, ← stage_concat (Nat.le_refl _)]
          exact waits.queued _ (Nat.lt_of_lt_of_le since few) (by simp)
        have queued : entry ∈ ((stage (commands ++ [command]) (commands.length + 1)).registry
            registry).queue key := waits.queued _ (by omega) (by simp)
        have stays : entry ∈ ((initial.after commands).run command).2.idle :=
          stage_concat_last ▸ mem_idle_of_mem_queue queued
        rw [stage_concat few, ih (waits.of_concat waited) few, after_concat]
        exact (reachable.region_run_of_waits stays
          (reachable.wellHeld.idleKnown (mem_idle_of_mem_queue waited))).symm
      · rw [stage_concat_last, after_concat]

/-- What the bytes of an arena were when it joined a queue with a command of the run: what the
buffer on it that ended had left, or zeros, if a pool made the arena in advance. -/
inductive Deposited (commands : List Command) (key : Nat) (entry : Idle) (place : Nat)
    (bytes : Bytes) : Prop
  | returned {command : Command} {handle : BufferId} {buffer : Buffer}
      (here : commands[place]? = some command)
      (ends : command = .release handle ∨ command = .drop handle)
      (live : (stage commands place).buffers.get? handle = some buffer)
      (on : buffer.arena = entry.arena)
      (same : bytes = ((stage commands place).arena entry.arena).region.bytes) :
      Deposited commands key entry place bytes
  | made {config : MemoryConfig} {settings : PoolConfig} {registry : RegistryId}
      (here : commands[place]? = some (.openPool config settings registry))
      (zero : bytes = Bytes.zeros key) : Deposited commands key entry place bytes

theorem WaitsSince.deposited (waits : WaitsSince commands registry key entry place) :
    Deposited commands key entry place
      ((initial.after commands).arena entry.arena).region.bytes := by
  rw [← waits.region (Nat.lt_succ_self place) waits.lt_length]
  obtain ⟨command, new, here, joins, member⟩ := waits.joined
  cases joins with
  | nobody => cases member
  | returned ends live leased served uses filed accepts =>
      obtain rfl := List.mem_singleton.mp member
      refine .returned here ends live rfl ?_
      rw [stage_succ here]
      refine congrArg Region.bytes (region_run_of_ends ?_)
      rcases ends with rfl | rfl <;> trivial
  | @made config settings _ filed =>
      refine .made here ?_
      have joined := waits.queued (place + 1) (Nat.lt_succ_self place) waits.lt_length
      rw [stage_succ here] at joined ⊢
      rcases stocked_openPool (stage commands place) config settings registry with
        ⟨failure, failed⟩ | ⟨after, done, stocked⟩
      · rw [failed] at joined
        exact absurd joined waits.not_queued
      · subst filed
        simp only [done] at joined ⊢
        have queue : (after.registry registry).queue settings.maxBufferCapacity =
            ((stage commands place).registry registry).queue settings.maxBufferCapacity ++ _ :=
          stocked.gains.queue
        rw [queue, List.mem_append] at joined
        obtain ⟨number, few, rfl⟩ := mem_reserves_iff.mp (joined.resolve_left waits.not_queued)
        have new := stocked.made number (by omega)
        rw [new, Region.bytes_allocate]
        rfl

end Store

end CursorBuffers
