import CursorBuffers.Store.Basic

namespace CursorBuffers.Store

variable {store : Store} {id : RegistryId} {current registry : Registry} {idle : Idle}
variable {limit key : Nat}

theorem registry_of_opened (opened : store.registries.get? id = some current) :
    store.registry id = current := by
  simp [Store.registry, opened]

theorem idle_setRegistry (opened : store.registries.get? id = some current) :
    ((store.setRegistry id registry).idle ++ current.entries).Perm
      (store.idle ++ registry.entries) := by
  obtain ⟨front, back, entries, updated, _⟩ := Table.entries_split opened
  simp only [Store.idle, setRegistry, entries, updated, List.flatMap_append, List.flatMap_cons,
    List.append_assoc]
  refine List.Perm.append_left _ ?_
  -- The two queues change places around the later registries.
  refine (List.perm_append_comm.append_left _).trans ?_
  refine (List.perm_append_comm_assoc ..).trans ?_
  exact List.perm_append_comm.append_left _

theorem idle_offer_accepted (opened : store.registries.get? id = some current)
    (offered : (store.registry id).offer idle limit = (true, registry)) :
    (store.setRegistry id registry).idle.Perm (idle :: store.idle) := by
  rw [registry_of_opened opened] at offered
  have gained : registry.entries.Perm (idle :: current.entries) :=
    Registry.entries_offer_accepted offered
  have moved : ((store.setRegistry id registry).idle ++ current.entries).Perm
      ((idle :: store.idle) ++ current.entries) :=
    ((idle_setRegistry opened).trans (gained.append_left _)).trans List.perm_middle
  exact (List.perm_append_right_iff _).mp moved

theorem idle_offer_refused (opened : store.registries.get? id = some current)
    (offered : (store.registry id).offer idle limit = (false, registry)) :
    (store.setRegistry id registry).idle.Perm store.idle := by
  rw [registry_of_opened opened] at offered
  have kept : registry.entries.Perm current.entries := Registry.entries_offer_refused offered
  exact (List.perm_append_right_iff _).mp
    ((idle_setRegistry opened).trans (kept.append_left _))

theorem idle_poll (opened : store.registries.get? id = some current)
    (taken : (store.registry id).poll key = some (idle, registry)) :
    store.idle.Perm (idle :: (store.setRegistry id registry).idle) := by
  rw [registry_of_opened opened] at taken
  have lost : current.entries.Perm (idle :: registry.entries) := Registry.entries_poll taken
  have moved : ((idle :: (store.setRegistry id registry).idle) ++ registry.entries).Perm
      (store.idle ++ registry.entries) :=
    (List.perm_middle.symm.trans (lost.symm.append_left _)).trans (idle_setRegistry opened)
  exact ((List.perm_append_right_iff _).mp moved).symm

theorem idle_drain (opened : store.registries.get? id = some current) :
    store.idle.Perm (((store.registry id).drain key).1 ++
      (store.setRegistry id ((store.registry id).drain key).2).idle) := by
  rw [registry_of_opened opened]
  let drained := (current.drain key).1
  let rest := (current.drain key).2
  have lost : current.entries.Perm (drained ++ rest.entries) := Registry.entries_drain
  have moved : ((drained ++ (store.setRegistry id rest).idle) ++ rest.entries).Perm
      (store.idle ++ rest.entries) := by
    refine List.Perm.trans ?_ (idle_setRegistry opened)
    refine List.Perm.trans ?_ (lost.symm.append_left _)
    rw [List.append_assoc]
    exact List.perm_append_comm_assoc ..
  exact ((List.perm_append_right_iff _).mp moved).symm

section Holders

variable {arena : ArenaId}

/-- Nobody holds an arena that has no holders. -/
theorem holders_eq_zero_iff : store.holders arena = 0 ↔
    (∀ id buffer, store.buffers.get? id = some buffer → buffer.arena ≠ arena) ∧
      ∀ idle ∈ store.idle, idle.arena ≠ arena := by
  rw [holders, Nat.add_eq_zero_iff, Table.count_eq_zero_iff, List.countP_eq_zero]
  simp

/-- The only holder of an arena, if it is a buffer, is the only buffer on it. -/
theorem eq_of_holders_eq_one {first second : BufferId} {one other : Buffer}
    (sole : store.holders arena = 1)
    (firstLive : store.buffers.get? first = some one) (firstHolds : one.arena = arena)
    (secondLive : store.buffers.get? second = some other) (secondHolds : other.arena = arena) :
    second = first := by
  have few : store.buffers.count (·.arena == arena) ≤ 1 := by
    rw [holders] at sole
    omega
  exact Table.eq_of_count_le_one few firstLive (by simp [firstHolds]) secondLive
    (by simp [secondHolds])

end Holders

end CursorBuffers.Store
