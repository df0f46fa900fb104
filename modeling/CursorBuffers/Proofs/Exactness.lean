import CursorBuffers.Proofs.Elision
import CursorBuffers.Proofs.Unshared

/-!
Checks on buffers that share nothing. Where the window of every buffer is the whole of its region,
the check against the capacity and the check of the storage refuse the same accesses.
-/

namespace CursorBuffers

theorem Command.allocator?_requesting {command : Command} {checking : Bool} :
    (command.requesting checking).allocator? = command.allocator? := by
  cases command with
  | allocate => simp [requesting, resetting, allocator?]
  | wrap source => cases source <;> simp [requesting, resetting, WrapCommand.resetting, allocator?]
  | _ => rfl

theorem Command.Unshared.requesting {command : Command} (unshared : command.Unshared)
    {checking : Bool} : (command.requesting checking).Unshared where
  unpooled pool := by
    rw [allocator?_requesting]
    exact unshared.unpooled pool
  unviewed parent := by
    rintro ⟨request, same, view⟩
    cases command with
    | onBuffer => exact unshared.unviewed parent ⟨request, same, view⟩
    | _ => cases same

/-- A check found something out of range. -/
def Refused (result : Except MemoryError Unit) : Prop :=
  ∃ fault, result = .error (.outOfRange fault)

section Checks

variable {α : Type} {checks : α → Except MemoryError Unit} {list : List α} {item : α}

theorem forM_eq_ok :
    list.forM checks = .ok () ↔ ∀ item ∈ list, checks item = .ok () := by
  induction list with
  | nil => exact ⟨fun _ => List.forall_mem_nil _, fun _ => rfl⟩
  | cons head rest ih =>
      rw [List.forM_eq_forM, List.forM_cons, List.forall_mem_cons]
      cases checks head with
      | error error => exact ⟨nofun, nofun⟩
      | ok _ => exact ⟨fun pass => ⟨rfl, ih.mp pass⟩, fun pass => ih.mpr pass.2⟩

theorem forM_ok_or_refused (each : ∀ item ∈ list, checks item = .ok () ∨ Refused (checks item)) :
    list.forM checks = .ok () ∨ Refused (list.forM checks) := by
  induction list with
  | nil => exact .inl rfl
  | cons head rest ih =>
      obtain ⟨first, each⟩ := List.forall_mem_cons.mp each
      rw [List.forM_eq_forM, List.forM_cons]
      rcases first with passes | ⟨fault, refused⟩
      · rw [passes]
        exact ih each
      · rw [refused]
        exact .inr ⟨fault, rfl⟩

theorem refused_forM (each : ∀ item ∈ list, checks item = .ok () ∨ Refused (checks item))
    (member : item ∈ list) (refused : Refused (checks item)) : Refused (list.forM checks) := by
  refine (forM_ok_or_refused each).resolve_left fun passes => ?_
  obtain ⟨fault, fails⟩ := refused
  rw [forM_eq_ok.mp passes item member] at fails
  contradiction

end Checks

namespace Access

/-- The access stays within the capacity of its buffer. -/
def Fits (access : Access) : Prop := access.index + access.length ≤ access.buffer.capacity

/-- The buffer has the whole of its arena, which was not freed. -/
structure Exact (access : Access) : Prop where
  offset : access.buffer.offset = 0
  size : access.arena.region.size = access.buffer.capacity
  intact : access.arena.freed = false

variable {access : Access} {guarded ranged : List Access}

theorem Exact.accessible (exact : access.Exact) :
    access.buffer.checkAccessible access.arena = .ok () := by
  simp [Buffer.checkAccessible_eq_ok, exact.intact]

theorem Exact.guard_of_fits (exact : access.Exact) (fits : access.Fits) : access.guard = .ok () :=
  Buffer.guard_eq_ok exact.accessible fits

theorem Exact.range_of_fits (exact : access.Exact) (fits : access.Fits) :
    access.range = .ok () := by
  refine Region.checkRange_eq_ok.mpr ?_
  rw [exact.offset, exact.size, Nat.zero_add]
  exact fits

theorem Exact.refused_range (exact : access.Exact) (misfit : ¬ access.Fits) :
    Refused access.range := by
  refine ⟨_, Region.checkRange_eq_error ?_⟩
  rw [exact.offset, exact.size, Nat.zero_add]
  exact misfit

theorem Exact.guard_ok_or_refused (exact : access.Exact) :
    access.guard = .ok () ∨ Refused access.guard := by
  by_cases fits : access.Fits
  · exact .inl (exact.guard_of_fits fits)
  · cases tag : access.buffer.bounds with
    | checked => exact .inr ⟨_, Buffer.guard_eq_error tag exact.accessible fits⟩
    | unchecked =>
        left
        rw [guard, Buffer.guard, tag]

theorem Exact.range_ok_or_refused (exact : access.Exact) :
    access.range = .ok () ∨ Refused access.range := by
  by_cases fits : access.Fits
  · exact .inl (exact.range_of_fits fits)
  · exact .inr (exact.refused_range fits)

section Reach

variable (exact : ∀ access ∈ guarded, access.Exact) (same : guarded.Perm ranged)

include exact same

theorem reach_of_fits (fit : ∀ access ∈ guarded, access.Fits) : reach guarded ranged = .ok () := by
  have guards : guarded.forM guard = .ok () :=
    forM_eq_ok.mpr fun access member => (exact access member).guard_of_fits (fit access member)
  have ranges : ranged.forM range = .ok () := forM_eq_ok.mpr fun access member =>
    have member := same.mem_iff.mpr member
    (exact access member).range_of_fits (fit access member)
  rw [reach, guards]
  exact ranges

/-- Accesses that are made together are refused if one of them does not fit, whether the check
against its capacity refuses it or, if that is left out, the check of the storage. -/
theorem refused_reach (member : access ∈ guarded) (misfit : ¬ access.Fits) :
    Refused (reach guarded ranged) := by
  have ranges : Refused (ranged.forM range) := by
    refine refused_forM (fun other among => ?_) (same.mem_iff.mp member)
      ((exact access member).refused_range misfit)
    exact (exact other (same.mem_iff.mpr among)).range_ok_or_refused
  rcases forM_ok_or_refused fun other among => (exact other among).guard_ok_or_refused with
    guards | ⟨fault, guards⟩
  · rw [reach, guards]
    exact ranges
  · rw [reach, guards]
    exact ⟨fault, rfl⟩

end Reach

end Access

namespace Replay

/-- The same run with any checks, on buffers that share nothing. -/
def withAnyChecks : Replay where
  config := Eq
  checking _ _ := True
  bounds _ _ := True
  backend := Eq
  error error other := other.code = error.code
  excused _ := False
  admits := Command.Unshared
  kept store := ∃ commands, (∀ command ∈ commands, command.Unshared) ∧
    store = Store.initial.after commands

variable {store other : Store} {access also : Access}

theorem Accesses.exact (kept : withAnyChecks.kept store)
    (accesses : withAnyChecks.Accesses store other access also) :
    access.Exact ∧ also.Exact ∧ (also.Fits ↔ access.Fits) := by
  obtain ⟨commands, unshared, rfl⟩ := kept
  obtain ⟨id, live, here⟩ := accesses.offered
  have exact := Store.exact_after unshared
  obtain ⟨offset, _, _, _, size⟩ := exact.whole live
  have intact := exact.intact live
  rw [← here] at size intact
  obtain ⟨start, capacity⟩ := accesses.buffer.window
  refine ⟨⟨offset, size, intact⟩, ⟨?_, ?_, ?_⟩, ?_⟩
  · rw [start, offset]
  · rw [accesses.arena.region.size, size, capacity]
  · rw [accesses.arena.freed, intact]
  · rw [Access.Fits, Access.Fits, accesses.index, accesses.length, capacity]

theorem reach_withAnyChecks {guarded ranged : List (Access × Access)}
    (kept : withAnyChecks.kept store) (same : guarded.Perm ranged)
    (accesses : ∀ pair ∈ guarded, withAnyChecks.Accesses store other pair.1 pair.2) :
    withAnyChecks.Results Eq (Access.reach (guarded.map (·.1)) (ranged.map (·.1)))
      (Access.reach (guarded.map (·.2)) (ranged.map (·.2))) := by
  have exact : ∀ access ∈ guarded.map (·.1), access.Exact :=
    List.forall_mem_map.mpr fun pair member => (accesses pair member).exact kept |>.1
  have alsoExact : ∀ access ∈ guarded.map (·.2), access.Exact :=
    List.forall_mem_map.mpr fun pair member => (accesses pair member).exact kept |>.2.1
  by_cases fit : ∀ pair ∈ guarded, pair.1.Fits
  · have fits : ∀ access ∈ guarded.map (·.1), access.Fits := List.forall_mem_map.mpr fit
    have alsoFits : ∀ access ∈ guarded.map (·.2), access.Fits :=
      List.forall_mem_map.mpr fun pair member =>
        ((accesses pair member).exact kept).2.2.mpr (fit pair member)
    rw [Access.reach_of_fits exact (same.map _) fits,
      Access.reach_of_fits alsoExact (same.map _) alsoFits]
    exact .ok rfl
  · push Not at fit
    obtain ⟨pair, member, misfit⟩ := fit
    have alsoMisfit : ¬ pair.2.Fits :=
      ((accesses pair member).exact kept).2.2.not.mpr misfit
    obtain ⟨fault, refused⟩ := Access.refused_reach exact (same.map _)
      (List.mem_map_of_mem member) misfit
    obtain ⟨another, alsoRefused⟩ := Access.refused_reach alsoExact (same.map _)
      (List.mem_map_of_mem member) alsoMisfit
    rw [refused, alsoRefused]
    exact .error rfl

theorem faithful_withAnyChecks : withAnyChecks.Faithful where
  errors _ := rfl
  kinds _ := rfl
  standard := rfl
  tags _ _ := trivial
  storage setting := congrArg Backend.select setting
  inPlace _ setting := by rw [setting]
  outOfRange _ _ := .inr rfl
  accessible kept accesses := by
    obtain ⟨exact, alsoExact, _⟩ := accesses.exact kept
    rw [exact.accessible, alsoExact.accessible]
    exact .ok rfl
  reach := reach_withAnyChecks
  run := by
    rintro store command ⟨commands, unshared, rfl⟩ admitted
    refine ⟨commands ++ [command], ?_, Store.after_concat.symm⟩
    exact List.forall_mem_append.mpr ⟨unshared, List.forall_mem_singleton.mpr admitted⟩
  room := Command.unshared_onBuffer not_false
  writes := Command.unshared_onBuffer not_false
  allocates admitted named :=
    Command.unshared_allocate fun pool same => admitted.unpooled pool (same ▸ named)
  fallback := Command.unshared_allocate fun _ => nofun

end Replay

namespace Store

variable {store : Store} {command : Command} {id : BufferId} {buffer later : Buffer} {index : Nat}

/-- What a growth exposes in a region that ended with the capacity is zero. -/
theorem Exact.zero_exposed (exact : store.Exact) (reachable : store.Reachable)
    (live : store.buffers.get? id = some buffer)
    (stays : (store.run command).2.buffers.get? id = some later)
    (hidden : buffer.capacity ≤ index) (within : index < later.capacity)
    (spared : ¬ store.Overwrites command buffer.arena (buffer.offset + index)) :
    ((store.run command).2.run (.onBuffer id (.getBytes index 1))).1 = .ok (.bytes #[0]) := by
  obtain ⟨offset, _, _, _, size⟩ := exact.whole live
  have beyond : (store.arena buffer.arena).region.bytes.size ≤ buffer.offset + index := by
    rw [offset, Nat.zero_add]
    exact Nat.le_trans (Nat.le_of_eq size) hidden
  have grown : later.capacity ≠ buffer.capacity :=
    Nat.ne_of_gt (Nat.lt_of_le_of_lt hidden within)
  have accessible := reachable.accessible_of_resized live stays grown
  have holds := reachable.byte_exposed live stays within spared
  rw [Array.getElem?_eq_none beyond] at holds
  exact run_getByte stays accessible within holds

open Replay in
/-- In runs in which no buffer shares its arena and none is from a pool, the region of a live buffer
is always as long as its capacity; what a growth exposes, and the growing command does not write, is
zero; and the run does the same with checks requested as with none, as long as it names only buffers
that are there: the same answers or codes of errors, and the same stores but for the tags. -/
theorem exact_if_unshared {commands : List Command}
    (unshared : ∀ command ∈ commands, command.Unshared) :
    (∀ id buffer, (initial.after commands).buffers.get? id = some buffer →
      ((initial.after commands).arena buffer.arena).region.size = buffer.capacity) ∧
    (∀ command id buffer later index,
      (initial.after commands).buffers.get? id = some buffer →
      ((initial.after commands).run command).2.buffers.get? id = some later →
      buffer.capacity ≤ index → index < later.capacity →
      ¬ (initial.after commands).Overwrites command buffer.arena (buffer.offset + index) →
      (((initial.after commands).run command).2.run (.onBuffer id (.getBytes index 1))).1 =
        .ok (.bytes #[0])) ∧
    (initial.Finds (commands.map (·.requesting true)) →
      List.Forall₂ (fun checked unchecked =>
          Agree checked.1 unchecked.1 ∧ unchecked.2.untagged = checked.2.untagged)
        (initial.trace (commands.map (·.requesting true)))
        (initial.trace (commands.map (·.requesting false)))) := by
  have exact := exact_after unshared
  refine ⟨fun id buffer live => (exact.whole live).size,
    fun command id buffer later index live stays hidden within spared =>
      exact.zero_exposed ⟨commands, rfl⟩ live stays hidden within spared, fun finds => ?_⟩
  have kept : withAnyChecks.kept initial := ⟨[], List.forall_mem_nil _, rfl⟩
  have alike : ∀ command ∈ commands,
      withAnyChecks.Commands (command.requesting true) (command.requesting false) :=
    fun _ _ => .resetting (fun _ => rfl) fun _ => trivial
  have admitted : ∀ command ∈ commands, (command.requesting true).Unshared :=
    fun command member => (unshared command member).requesting
  have follows := (Stores.initial faithful_withAnyChecks).trace faithful_withAnyChecks kept alike
    admitted (.inr finds)
  exact (follows.forall₂ fun _ => id).imp fun _ _ ⟨answers, stores⟩ =>
    ⟨answers.agree fun _ _ => id, stores.untagged (fun _ _ => Eq.symm) fun _ _ => Eq.symm⟩

/-- Growth, a copy, memory of others that keeps its size, a transfer, failures, and a shrinking. -/
def unsharedTour : List Command :=
  [.allocate (.plain {}) { capacity := 4, maxCapacity := 16 },
    .onBuffer 0 (.writeBytes #[1, 2, 3, 4, 5, 6]), .wrap (.block #[7, 8, 9] {}) true,
    .onBuffer 0 (.copyRange 1 3), .transfer 0 1 (.getBytesAt 0 1) 2, .onBuffer 1 (.getBytes 2 9),
    .onBuffer 1 (.setCapacity 2), .onBuffer 0 (.setCapacity 2), .release 1]

theorem exact_if_unshared_on_tour :
    ((initial.after unsharedTour).arena 0).region.size = 2 ∧
    (((initial.after unsharedTour).run (.onBuffer 0 (.setCapacity 8))).2.run
      (.onBuffer 0 (.getBytes 3 1))).1 = .ok (.bytes #[0]) ∧
    List.Forall₂ (fun checked unchecked =>
        Agree checked.1 unchecked.1 ∧ unchecked.2.untagged = checked.2.untagged)
      (initial.trace (unsharedTour.map (·.requesting true)))
      (initial.trace (unsharedTour.map (·.requesting false))) := by
  have unshared : ∀ command ∈ unsharedTour, command.Unshared := by
    simp only [unsharedTour, List.forall_mem_cons, List.not_mem_nil, false_implies, implies_true,
      and_true]
    refine ⟨?_, ?_, ?_, ?_, ?_, ?_, ?_, ?_, ?_⟩ <;> exact ⟨fun _ => nofun, fun _ => nofun⟩
  obtain ⟨sizes, zeros, replays⟩ := exact_if_unshared unshared
  have before : ((initial.after unsharedTour).buffers.get? (0 : BufferId)).map
      (fun buffer => (buffer.arena, buffer.capacity)) = some (0, 2) := by decide +kernel
  have grown : (((initial.after unsharedTour).run (.onBuffer 0 (.setCapacity 8))).2.buffers.get?
      (0 : BufferId)).map (·.capacity) = some 8 := by decide +kernel
  obtain ⟨buffer, live, place⟩ := Option.map_eq_some_iff.mp before
  obtain ⟨later, stays, room⟩ := Option.map_eq_some_iff.mp grown
  obtain ⟨arena, capacity⟩ := Prod.mk.injEq .. ▸ place
  have spared : ¬ (initial.after unsharedTour).Overwrites (.onBuffer 0 (.setCapacity 8))
      buffer.arena (buffer.offset + 3) := by
    rintro ⟨_, _, _, _, _, writes, _⟩
    cases writes
  refine ⟨?_, zeros _ 0 buffer later 3 live stays (by omega) (by omega) spared,
    replays (by decide +kernel)⟩
  rw [← arena, sizes 0 buffer live, capacity]

end Store

end CursorBuffers
