import CursorBuffers.Buffer.Basic

/-!
Queues of idle arenas, one for each maximum capacity. An arena enters at the tail of its queue if
the queue is below a limit, and leaves at the head.
-/

namespace CursorBuffers

abbrev RegistryId := Nat

/-- An idle arena, with the capacities of the buffer that owned it and the pool that queued it. -/
structure Idle where
  arena : ArenaId
  capacity : Nat
  maxCapacity : Nat
  queuedBy : PoolId
  deriving DecidableEq

structure Registry where
  queues : List (Nat × List Idle) := []

namespace Registry

variable {registry : Registry} {key other limit : Nat} {idle : Idle} {content : List Idle}

/-- The queue of a key; a key that was never used has an empty one. -/
def queue (registry : Registry) (key : Nat) : List Idle := (registry.queues.lookup key).getD []

/-- How many arenas wait under a key. -/
def pooled (registry : Registry) (key : Nat) : Nat := (registry.queue key).length

/-- Replaces the queue of a key; a new key comes last. -/
def replace (key : Nat) (content : List Idle) : List (Nat × List Idle) → List (Nat × List Idle)
  | [] => [(key, content)]
  | entry :: rest =>
      if entry.1 = key then (key, content) :: rest else entry :: replace key content rest

def setQueue (registry : Registry) (key : Nat) (content : List Idle) : Registry :=
  ⟨replace key content registry.queues⟩

/-- Puts an arena at the tail of its queue, unless that has `limit` entries; tells whether. -/
def offer (registry : Registry) (idle : Idle) (limit : Nat) : Bool × Registry :=
  let waiting := registry.queue idle.maxCapacity
  if limit ≤ waiting.length then (false, registry.setQueue idle.maxCapacity waiting)
  else (true, registry.setQueue idle.maxCapacity (waiting ++ [idle]))

/-- Takes the arena that waited longest. -/
def poll (registry : Registry) (key : Nat) : Option (Idle × Registry) :=
  match registry.queue key with
  | [] => none
  | idle :: rest => some (idle, registry.setQueue key rest)

/-- Empties a queue. -/
def drain (registry : Registry) (key : Nat) : List Idle × Registry :=
  match registry.queue key with
  | [] => ([], registry)
  | waiting => (waiting, registry.setQueue key [])

/-- All idle arenas, queue by queue. -/
def entries (registry : Registry) : List Idle := registry.queues.flatMap (·.2)

theorem lookup_replace {queues : List (Nat × List Idle)} :
    ((replace key content queues).lookup other).getD [] =
      if other = key then content else (queues.lookup other).getD [] := by
  induction queues with
  | nil =>
      by_cases same : other = key
      · simp [replace, same]
      · simp [replace, List.lookup_cons, beq_eq_false_iff_ne.mpr same, same]
  | cons entry rest ih =>
      obtain ⟨name, waiting⟩ := entry
      by_cases found : name = key
      · subst found
        by_cases same : other = name
        · simp [replace, same]
        · simp [replace, List.lookup_cons, beq_eq_false_iff_ne.mpr same, same]
      · by_cases here : other = name
        · subst here
          simp [replace, found]
        · simp only [replace, found, if_false, List.lookup_cons, beq_eq_false_iff_ne.mpr here]
          exact ih

@[simp] theorem queue_setQueue :
    (registry.setQueue key content).queue other =
      if other = key then content else registry.queue other :=
  lookup_replace

theorem queue_offer :
    (registry.offer idle limit).2.queue other =
      if other = idle.maxCapacity ∧ (registry.queue other).length < limit
      then registry.queue other ++ [idle] else registry.queue other := by
  by_cases full : limit ≤ (registry.queue idle.maxCapacity).length
  · by_cases same : other = idle.maxCapacity
    · subst same
      simp [offer, full, Nat.not_lt.mpr full]
    · simp [offer, full, same]
  · by_cases same : other = idle.maxCapacity
    · subst same
      simp [offer, full, Nat.not_le.mp full]
    · simp [offer, full, same]

theorem queue_poll {rest : Registry} (taken : registry.poll key = some (idle, rest)) :
    registry.queue key = idle :: rest.queue key ∧
      ∀ other, other ≠ key → rest.queue other = registry.queue other := by
  unfold poll at taken
  split at taken
  · contradiction
  · rename_i head tail waiting
    cases taken
    refine ⟨by simp [waiting], fun other distinct => by simp [distinct]⟩

theorem queue_drain :
    (registry.drain key).2.queue other = if other = key then [] else registry.queue other := by
  unfold drain
  split
  · rename_i waiting
    by_cases same : other = key
    · simp [same, waiting]
    · simp [same]
  · simp

@[simp] theorem drain_fst : (registry.drain key).1 = registry.queue key := by
  unfold drain
  split
  · rename_i waiting
    exact waiting.symm
  · rfl

theorem entries_replace {queues : List (Nat × List Idle)} :
    ((replace key content queues).flatMap (·.2) ++ (queues.lookup key).getD []).Perm
      (queues.flatMap (·.2) ++ content) := by
  induction queues with
  | nil => simp [replace]
  | cons entry rest ih =>
      obtain ⟨name, waiting⟩ := entry
      by_cases found : name = key
      · subst found
        simp only [replace, if_true, List.flatMap_cons, List.lookup_cons_self, Option.getD_some]
        refine List.perm_append_comm.trans ?_
        rw [List.append_assoc]
        exact List.perm_append_comm.append_left waiting
      · have other : (key == name) = false := beq_eq_false_iff_ne.mpr (Ne.symm found)
        simp only [replace, if_neg found, List.flatMap_cons, List.lookup_cons, other,
          List.append_assoc]
        exact ih.append_left waiting

/-- What a queue gains or loses, the registry gains or loses. -/
theorem entries_setQueue :
    ((registry.setQueue key content).entries ++ registry.queue key).Perm
      (registry.entries ++ content) :=
  entries_replace

theorem entries_offer_accepted {after : Registry}
    (offered : registry.offer idle limit = (true, after)) :
    after.entries.Perm (idle :: registry.entries) := by
  by_cases full : limit ≤ (registry.queue idle.maxCapacity).length
  · simp [offer, full] at offered
  · simp only [offer, if_neg full, Prod.mk.injEq, true_and] at offered
    subst after
    let waiting := registry.queue idle.maxCapacity
    let longer := registry.setQueue idle.maxCapacity (waiting ++ [idle])
    have change : (longer.entries ++ waiting).Perm (registry.entries ++ (waiting ++ [idle])) :=
      entries_setQueue
    have moved : (waiting ++ longer.entries).Perm (waiting ++ (registry.entries ++ [idle])) := by
      refine (List.perm_append_comm.trans change).trans ?_
      rw [← List.append_assoc, ← List.append_assoc]
      exact List.perm_append_comm.append_right [idle]
    exact ((List.perm_append_left_iff _).mp moved).trans List.perm_append_comm

theorem entries_offer_refused {after : Registry}
    (offered : registry.offer idle limit = (false, after)) :
    after.entries.Perm registry.entries := by
  by_cases full : limit ≤ (registry.queue idle.maxCapacity).length
  · simp only [offer, if_pos full, Prod.mk.injEq, true_and] at offered
    subst after
    exact (List.perm_append_right_iff _).mp entries_setQueue
  · simp [offer, full] at offered

theorem entries_poll {rest : Registry} (taken : registry.poll key = some (idle, rest)) :
    registry.entries.Perm (idle :: rest.entries) := by
  unfold poll at taken
  split at taken
  · contradiction
  · rename_i head tail waiting
    cases taken
    have change : ((registry.setQueue key tail).entries ++ idle :: tail).Perm
        (registry.entries ++ tail) := waiting ▸ entries_setQueue
    have moved : (tail ++ idle :: (registry.setQueue key tail).entries).Perm
        (tail ++ registry.entries) := by
      refine (List.perm_middle.trans ?_).trans (change.trans List.perm_append_comm)
      rw [← List.cons_append]
      exact List.perm_append_comm
    exact ((List.perm_append_left_iff _).mp moved).symm

theorem entries_drain :
    registry.entries.Perm ((registry.drain key).1 ++ (registry.drain key).2.entries) := by
  unfold drain
  split
  · exact List.Perm.refl _
  · have change : ((registry.setQueue key []).entries ++ registry.queue key).Perm
        (registry.entries ++ []) := entries_setQueue
    rw [List.append_nil] at change
    exact change.symm.trans List.perm_append_comm

end Registry

end CursorBuffers
