import CursorBuffers.Proofs.Accounts.Deals
import CursorBuffers.Proofs.Accounts.Lifetime

namespace CursorBuffers

variable {store after : Store} {handle other : BufferId} {buffer : Buffer} {id pool : PoolId}
variable {key : Nat} {grants : Nat → Prop} {command : Command} {commands : List Command}

section Leases

namespace Store

theorem lease?_addBuffer : (store.addBuffer buffer).lease? other =
    if other = store.buffers.next then buffer.lease? else store.lease? other := by
  simp only [lease?, addBuffer, Table.get?_add]
  split <;> rfl

theorem lease?_lentNew {record : Pool} {request : Allocation} :
    (store.lentNew id record request).lease? other =
      if other = store.buffers.next then some (id, request.maxCapacity) else store.lease? other :=
  lease?_addBuffer

theorem lease?_lentIdle {record : Pool} {request : Allocation} {idle : Idle} {rest : Registry}
    {region : Region} : (store.lentIdle id record request idle rest region).lease? other =
      if other = store.buffers.next then some (id, request.maxCapacity) else store.lease? other :=
  lease?_addBuffer

theorem lease?_next : store.lease? store.buffers.next = none := by
  rw [lease?, Table.get?_eq_none_of_next_le (Nat.le_refl _), Option.bind_none]

theorem lease?_vacate :
    (store.vacate handle).lease? other = if other = handle then none else store.lease? other := by
  simp only [lease?, vacate, Table.get?_vacate]
  split <;> rfl

theorem lease?_reclaim : (store.reclaim id buffer).lease? other = store.lease? other := by
  rw [lease?, lease?, buffers_reclaim]

theorem lease?_drop :
    (store.drop handle).lease? other = if other = handle then none else store.lease? other := by
  cases live : store.buffers.get? handle with
  | none =>
      simp only [drop, live]
      split
      · rename_i same
        rw [lease?, same, live, Option.bind_none]
      · rfl
  | some buffer =>
      simp only [drop, live]
      split
      · exact lease?_reclaim.trans lease?_vacate
      · exact lease?_vacate

theorem exists_lease?_iff (live : store.buffers.get? handle = some buffer) :
    (∃ key, store.lease? handle = some (id, key)) ↔ buffer.recycler = some id := by
  simp [lease?_of_live live, Buffer.lease?]

end Store

open Store in
/-- A deal lends only for a pool that serves. -/
theorem Deal.lease? {warrant : Warrant} (deal : Deal warrant store after)
    (leased : after.lease? handle = some (id, key)) :
    store.lease? handle = some (id, key) ∨ warrant.serves id ∧ warrant.grants key := by
  cases deal with
  | aside steps aside => exact .inl (aside.leases handle ▸ leased)
  | ask granted serving served unclosed => exact .inl leased
  | lendNew granted serving served valid asked none =>
      rw [lease?_lentNew] at leased
      split at leased
      · cases leased
        exact .inr ⟨serving, granted⟩
      · exact .inl leased
  | lendIdle granted serving served valid asked taken reserved =>
      rw [lease?_lentIdle] at leased
      split at leased
      · cases leased
        exact .inr ⟨serving, granted⟩
      · exact .inl leased
  | reclaim named live recycles =>
      rw [lease?_reclaim, lease?_vacate] at leased
      split at leased
      · contradiction
      · exact .inl leased

theorem Deals.lease? {warrant : Warrant} (deals : Deals warrant store after)
    (leased : after.lease? handle = some (id, key)) :
    store.lease? handle = some (id, key) ∨ warrant.serves id ∧ warrant.grants key := by
  refine deals.preserve (motive := fun later => later.lease? handle = some (id, key) →
    store.lease? handle = some (id, key) ∨ warrant.serves id ∧ warrant.grants key) .inl ?_ leased
  intro before later deal ih leased
  exact (deal.lease? leased).elim ih .inr

end Leases

/-- What may come of a request to a pool: a lease under one of some keys, or no change to leases. -/
inductive Lending {α : Type} (store : Store) (pool : PoolId) (grants : Nat → Prop) (answer : α) :
    Except Failure α × Store → Prop
  | refused {failure : Failure} {after : Store} (same : ∀ id, after.lease? id = store.lease? id) :
      Lending store pool grants answer (.error failure, after)
  | granted {key : Nat} {after : Store} (granted : grants key)
      (leases : ∀ id, after.lease? id =
        if id = store.buffers.next then some (pool, key) else store.lease? id) :
      Lending store pool grants answer (.ok answer, after)

/-- What may come of filling a buffer: it is gone if it could not be filled. -/
inductive Filled (store : Store) (handle : BufferId) : Except Failure Unit × Store → Prop
  | lost {failure : Failure} {after : Store}
      (leases : ∀ id, after.lease? id = if id = handle then none else store.lease? id) :
      Filled store handle (.error failure, after)
  | full {after : Store} (same : ∀ id, after.lease? id = store.lease? id) :
      Filled store handle (.ok (), after)

namespace Action

variable {request : Allocation} {data : Bytes} {checking : Bool}

theorem lending_allocate (granted : grants request.maxCapacity) :
    Lending store pool grants store.buffers.next
      (runOn (allocate (.pooled pool) request) store) := by
  cases found : store.pools.get? pool with
  | none =>
      rw [allocate, allocatePooled, runOn_bind, runOn_pool_none found]
      exact .refused fun _ => rfl
  | some record =>
      cases valid : record.validate request with
      | error error =>
          rw [allocate, allocatePooled, runOn_bind, runOn_pool found]
          simp only [runOn_bind, runOn_check, valid]
          exact .refused fun _ => rfl
      | ok _ =>
          rw [allocate, runOn_allocatePooled found valid]
          simp only
          split
          · exact .granted granted fun _ => Store.lease?_addBuffer
          · split
            · exact .granted granted fun _ => Store.lease?_addBuffer
            · exact .refused fun _ => rfl

theorem filled_fill : Filled store handle (runOn (fill handle data) store) := by
  have aside : store.Aside (runOn (writeBytes handle data) store).2 := staysAside_writeBytes store
  rw [fill, runOn_tryCatch]
  rcases outcome : runOn (writeBytes handle data) store with ⟨failure | _, between⟩
  · rw [outcome] at aside
    exact .lost fun other => Store.lease?_drop.trans (by rw [aside.leases])
  · rw [outcome] at aside
    exact .full aside.leases

theorem lending_wrapBytes (fits : data.size ≤ Bytes.lengthLimit → grants data.size) :
    Lending store pool grants store.buffers.next
      (runOn (wrapBytes (.pooled pool) data checking) store) := by
  rw [wrapBytes, runOn_bind, runOn_check]
  cases short : data.checkSize with
  | error error => exact .refused fun _ => rfl
  | ok _ =>
      simp only [mapError_ok, runOn_bind]
      have lending : Lending store pool (· = data.size) store.buffers.next
          (runOn (allocate (.pooled pool) (.exact data.size checking)) store) :=
        lending_allocate rfl
      generalize runOn (allocate (.pooled pool) (.exact data.size checking)) store = asked
        at lending ⊢
      cases lending with
      | refused same => exact .refused same
      | @granted key after granted leases =>
          have filled : Filled after store.buffers.next
              (runOn (fill store.buffers.next data) after) := filled_fill
          simp only
          generalize runOn (fill store.buffers.next data) after = written at filled ⊢
          cases filled with
          | lost gone =>
              -- The buffer that could not be filled was not there before either.
              refine .refused fun id => ?_
              rw [gone, leases]
              split
              · rename_i new
                rw [new, Store.lease?_next]
              · rfl
          | full same =>
              refine .granted (fits (Bytes.checkSize_eq_ok.mp short)) fun id => ?_
              rw [same, leases, granted]

theorem lending_wrapHex {codec : Hex.Codec} {text : String}
    (fits : ∀ bytes, codec.read text = .ok bytes → Array.size bytes ≤ Bytes.lengthLimit →
      grants (Array.size bytes)) :
    Lending store pool grants store.buffers.next
      (runOn (wrapHex codec (.pooled pool) text checking) store) := by
  rw [wrapHex, runOn_bind, runOn_check]
  cases decoded : codec.read text with
  | error fault => exact .refused fun _ => rfl
  | ok bytes => exact lending_wrapBytes (fits bytes decoded)

end Action

theorem Lending.bind_pure {α β : Type} {action : Action α} {answer : α} {value : α → β}
    (lending : Lending store pool grants answer (Action.runOn action store)) :
    Lending store pool grants (value answer)
      (Action.runOn (action >>= fun result => pure (value result)) store) := by
  rw [Action.runOn_bind]
  generalize Action.runOn action store = outcome at lending ⊢
  cases lending with
  | refused same => exact .refused same
  | granted granted leases => exact .granted granted leases

/-- A command that is to get a buffer from a pool gets the next one, or changes no lease. -/
theorem Store.lending_run (store : Store) (asks : command.allocator? = some (.pooled pool)) :
    Lending store pool (command.Grants store) (.buffer store.buffers.next) (store.run command) := by
  cases command with
  | allocate allocator request =>
      obtain rfl : allocator = .pooled pool := Option.some.inj asks
      exact (Action.lending_allocate .allocate).bind_pure
  | wrap source checking =>
      cases source with
      | bytes allocator content =>
          obtain rfl : allocator = .pooled pool := Option.some.inj asks
          exact (Action.lending_wrapBytes .wrapBytes).bind_pure
      | hex codec allocator text =>
          obtain rfl : allocator = .pooled pool := Option.some.inj asks
          exact (Action.lending_wrapHex fun _ decoded => .wrapHex decoded).bind_pure
      | _ => cases asks
  | _ => cases asks

theorem Command.Grants.unique {other : Nat} (granted : command.Grants store key)
    (also : command.Grants store other) : key = other := by
  cases granted <;> cases also <;> grind

/-- In the course of the commands the pool was asked for a buffer and answered with this one, under
this key. -/
inductive HandedOut : List Command → PoolId → Nat → BufferId → Prop
  | now {commands : List Command} {command : Command} {pool : PoolId} {key : Nat}
      {handle : BufferId} (asks : command.allocator? = some (.pooled pool))
      (granted : command.Grants (Store.initial.after commands) key)
      (answered : ((Store.initial.after commands).run command).1 = .ok (.buffer handle)) :
      HandedOut (commands ++ [command]) pool key handle
  | earlier {commands : List Command} {command : Command} {pool : PoolId} {key : Nat}
      {handle : BufferId} (handed : HandedOut commands pool key handle) :
      HandedOut (commands ++ [command]) pool key handle

namespace HandedOut

theorem concat (handed : HandedOut (commands ++ [command]) pool key handle) :
    HandedOut commands pool key handle ∨
      command.allocator? = some (.pooled pool) ∧
        command.Grants (Store.initial.after commands) key ∧
        ((Store.initial.after commands).run command).1 = .ok (.buffer handle) := by
  generalize whole : commands ++ [command] = all at handed
  cases handed with
  | now asks granted answered =>
      obtain ⟨rfl, rfl⟩ := List.append_singleton_inj.mp whole
      exact .inr ⟨asks, granted, answered⟩
  | earlier handed =>
      obtain ⟨rfl, rfl⟩ := List.append_singleton_inj.mp whole
      exact .inl handed

end HandedOut

namespace Store

/-- What was answered is the lease that was asked for. -/
theorem lease?_of_answered (asks : command.allocator? = some (.pooled pool))
    (granted : command.Grants store key) (answered : (store.run command).1 = .ok (.buffer handle)) :
    handle = store.buffers.next ∧ (store.run command).2.lease? handle = some (pool, key) := by
  have lending := lending_run store asks
  generalize store.run command = outcome at lending answered ⊢
  cases lending with
  | refused same => cases answered
  | granted also leases =>
      cases answered
      refine ⟨rfl, (leases _).trans ?_⟩
      rw [if_pos rfl, granted.unique also]

/-- A lease is as old as the command that asked for it. -/
theorem lease?_run (sound : store.Sound)
    (leased : (store.run command).2.lease? handle = some (pool, key)) :
    store.lease? handle = some (pool, key) ∨ command.allocator? = some (.pooled pool) ∧
      command.Grants store key ∧ (store.run command).1 = .ok (.buffer handle) := by
  have kept : (store.run command).2.buffers = store.buffers →
      store.lease? handle = some (pool, key) := fun same => by
    rwa [lease?, same] at leased
  have traded : command.Trades → store.lease? handle = some (pool, key) ∨
      command.allocator? = some (.pooled pool) := by
    intro trades
    rcases (deals_run sound.owned trades).lease? leased with old | ⟨serving, granted⟩
    · exact .inl old
    · refine .inr (serving.resolve_right ?_)
      rintro ⟨_, config, settings, registry, rfl⟩
      exact trades
  have lent : command.allocator? = some (.pooled pool) → store.lease? handle = some (pool, key) ∨
      command.Grants store key ∧ (store.run command).1 = .ok (.buffer handle) := by
    intro asks
    have lending := lending_run store asks
    generalize store.run command = outcome at lending leased ⊢
    cases lending with
    | refused same => exact .inl (same handle ▸ leased)
    | granted granted leases =>
        rw [leases] at leased
        split at leased
        · rename_i new
          cases leased
          exact .inr ⟨granted, by rw [new]⟩
        · exact .inl leased
  cases command with
  | openRegistry => exact .inl leased
  | openPool config settings registry => exact .inl (kept buffers_openPool)
  | closePool id => exact .inl (kept (after_closePool ▸ buffers_closePool))
  | _ =>
      exact (traded trivial).elim .inl fun asks => (lent asks).imp_right fun found => ⟨asks, found⟩

theorem lt_next_of_lease? (leased : store.lease? handle = some (pool, key)) :
    handle < store.buffers.next := by
  obtain ⟨buffer, live, _⟩ := Option.bind_eq_some_iff.mp leased
  exact Table.lt_next_of_get? live

end Store

open Store

theorem HandedOut.lt_next (handed : HandedOut commands pool key handle) :
    handle < (initial.after commands).buffers.next := by
  induction handed with
  | now asks granted answered =>
      rw [after_concat]
      exact lt_next_of_lease? (lease?_of_answered asks granted answered).2
  | earlier handed ih =>
      rw [after_concat]
      exact Nat.lt_of_lt_of_le ih steps_run.next_le

/-- A live buffer is the lease of a pool if it is what the pool has handed out. -/
theorem Buffer.lease?_iff_handedOut
    (live : (initial.after commands).buffers.get? handle = some buffer) :
    buffer.lease? = some (pool, key) ↔ HandedOut commands pool key handle := by
  induction commands using List.reverseRecOn generalizing buffer with
  | nil =>
      rw [after, List.foldl_nil, Table.get?_eq_none_of_next_le (Nat.zero_le _)] at live
      contradiction
  | append_singleton commands command ih =>
      have sound : (initial.after commands).Sound := Reachable.sound ⟨commands, rfl⟩
      rw [after_concat] at live
      constructor
      · intro leased
        rw [← lease?_of_live live] at leased
        rcases lease?_run sound leased with old | ⟨asks, granted, answered⟩
        · obtain ⟨earlier, was, also⟩ := Option.bind_eq_some_iff.mp old
          exact .earlier ((ih was).mp also)
        · exact .now asks granted answered
      · intro handed
        rcases handed.concat with earlier | ⟨asks, granted, answered⟩
        · obtain ⟨before, was, akin⟩ := steps_run.older earlier.lt_next live
          rw [akin.lease?]
          exact (ih was).mpr earlier
        · rw [← lease?_of_live live]
          exact (lease?_of_answered asks granted answered).2

theorem Buffer.recycler_iff_handedOut
    (live : (initial.after commands).buffers.get? handle = some buffer) :
    buffer.recycler = some pool ↔ ∃ key, HandedOut commands pool key handle := by
  simp only [← Buffer.lease?_iff_handedOut live, ← lease?_of_live live, exists_lease?_iff live]

end CursorBuffers
