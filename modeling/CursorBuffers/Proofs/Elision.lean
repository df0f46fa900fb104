import CursorBuffers.Proofs.Replay.Runs

namespace CursorBuffers

/-- The same command with checks requested, or not, for the buffers that it makes. -/
def Command.requesting (checking : Bool) (command : Command) : Command :=
  command.resetting id fun _ => checking

/-- The errors by which checks refuse an access. -/
def MemoryError.denies : MemoryError → Bool
  | .outOfRange _ => true
  | .useAfterFree _ => true
  | _ => false

/-- A check refused what was asked for. -/
def denied : Except Failure Answer → Bool
  | .error (.memory error) => error.denies
  | _ => false

namespace Store

/-- The store without the tags that tell which buffers check their bounds. -/
def untagged (store : Store) : Store :=
  { store with buffers := store.buffers.map fun buffer => { buffer with bounds := .unchecked } }

end Store

theorem Region.ext {one other : Region} (bytes : other.bytes = one.bytes)
    (owned : other.IsOwned ↔ one.IsOwned) (backend : other.backend = one.backend) :
    other = one := by
  cases one with
  | native accessor ownership content =>
      cases other with
      | native another possession also =>
          cases backend
          cases bytes
          cases ownership <;> cases possession <;> simp_all [IsOwned]
      | managed also => cases backend
  | managed content =>
      cases other with
      | native another possession also => cases backend
      | managed also =>
          cases bytes
          rfl

namespace Replay

variable {replay : Replay} {store other : Store}

theorem Events.eq {event also : Event} (alike : replay.Events event also)
    (backend : ∀ one another, replay.backend one another → another = one) : also = event := by
  cases alike with
  | same => rfl
  | released kind => rw [Region.isNative, Region.isNative, backend _ _ kind]

/-- Stores on the same storage, with the same configurations, differ in their tags. -/
theorem Stores.untagged (stores : replay.Stores store other)
    (config : ∀ one another, replay.config one another → another = one)
    (backend : ∀ one another, replay.backend one another → another = one) :
    other.untagged = store.untagged := by
  have arenas : other.arenas = store.arenas := by
    refine stores.arenas.eq fun ⟨region, freed⟩ ⟨also, twin⟩ alike => ?_
    have regions : also = region :=
      Region.ext alike.region.bytes alike.region.owned (backend _ _ alike.region.backend)
    have freed : twin = freed := alike.freed
    rw [regions, freed]
  have pools : other.pools = store.pools := by
    refine stores.pools.eq fun pool also alike => ?_
    obtain ⟨setting, kind⟩ := alike
    rw [config _ _ setting, backend _ _ kind]
  have buffers : other.untagged.buffers = store.untagged.buffers := by
    refine stores.buffers.map_eq fun buffer also alike => ?_
    obtain ⟨tag, setting⟩ := alike
    rw [config _ _ setting]
  have events : other.events = store.events := by
    have same : List.Forall₂ Eq store.events.toList other.events.toList :=
      stores.events.imp fun _ _ alike => (alike.eq backend).symm
    rw [List.forall₂_eq_eq_eq] at same
    exact Array.toList_inj.mp same.symm
  rw [Store.untagged, Store.untagged, Store.mk.injEq]
  exact ⟨arenas, buffers, pools, stores.registries, events⟩

/-- The same run with checks, and with some of them left out. -/
def eliding : Replay where
  config := Eq
  checking checking other := other = checking ∨ other = false
  bounds bounds other := other = bounds ∨ other = .unchecked
  backend := Eq
  error := Eq
  excused error := error.denies = true
  admits _ := True
  kept _ := True

theorem results_eliding {one another : Except MemoryError Unit}
    (refuses : ∀ error, one = .error error → error.denies = true)
    (passes : one = .ok () → another = .ok ()) : eliding.Results Eq one another := by
  cases outcome : one with
  | error error => exact .excused (refuses error outcome)
  | ok _ =>
      rw [passes outcome]
      exact .ok rfl

variable {buffer also : Buffer} {arena twin : Arena} {index length : Nat}

theorem denies_of_checkAccessible {error : MemoryError}
    (refused : buffer.checkAccessible arena = .error error) : error.denies = true := by
  unfold Buffer.checkAccessible at refused
  split at refused <;> cases refused
  rfl

theorem denies_of_guard {error : MemoryError}
    (refused : buffer.guard arena index length = .error error) : error.denies = true := by
  unfold Buffer.guard at refused
  split at refused
  · cases refused
  · cases accessible : buffer.checkAccessible arena with
    | error error =>
        rw [accessible] at refused
        cases refused
        exact denies_of_checkAccessible accessible
    | ok _ =>
        rw [accessible] at refused
        change buffer.checkRange index length = _ at refused
        unfold Buffer.checkRange at refused
        split at refused <;> cases refused
        rfl

theorem checkAccessible_eliding (alike : eliding.Buffers buffer also)
    (freed : twin.freed = arena.freed) :
    eliding.Results Eq (buffer.checkAccessible arena) (also.checkAccessible twin) := by
  refine results_eliding (fun _ => denies_of_checkAccessible) fun passed => ?_
  rw [Buffer.checkAccessible_eq_ok] at passed ⊢
  obtain ⟨rfl | rfl, setting⟩ := alike
  · cases setting
    rwa [freed]
  · simp

theorem guard_eliding (alike : eliding.Buffers buffer also) (freed : twin.freed = arena.freed) :
    eliding.Results Eq (buffer.guard arena index length) (also.guard twin index length) := by
  refine results_eliding (fun _ => denies_of_guard) fun passed => ?_
  have accessible := Buffer.checkAccessible_of_guard passed
  have remains : buffer.checkAccessible twin = .ok () := by
    rwa [Buffer.checkAccessible_eq_ok, freed, ← Buffer.checkAccessible_eq_ok]
  obtain ⟨rfl | rfl, setting⟩ := alike
  · cases setting
    change buffer.guard twin index length = .ok ()
    unfold Buffer.guard at passed ⊢
    split at passed
    · rfl
    · rw [accessible] at passed
      rw [remains]
      exact passed
  · rfl

theorem guarded_eliding : eliding.Guarded := by
  intro store other access also _ accesses
  rw [Access.guard, Access.guard, accesses.index, accesses.length]
  exact guard_eliding accesses.buffer accesses.arena.freed

theorem faithful_eliding : eliding.Faithful where
  errors _ := rfl
  kinds _ := rfl
  standard := rfl
  tags := fun {config _ _ _} setting wanted => by
    cases setting
    rcases wanted with rfl | rfl
    · exact .inl rfl
    · -- What the configuration asks for is checked in both runs.
      cases checks : config.checkBounds with
      | false => exact .inr (by simp [Bounds.select, checks])
      | true => exact .inl (by simp [Bounds.select, checks])
  storage setting := congrArg Backend.select setting
  inPlace _ setting := by rw [setting]
  outOfRange _ _ := .inl rfl
  accessible _ accesses := checkAccessible_eliding accesses.buffer accesses.arena.freed
  reach _ same accesses := guarded_eliding.reach (fun _ => rfl) trivial same accesses
  run _ _ := trivial
  room := trivial
  writes := trivial
  allocates _ _ := trivial
  fallback := trivial

theorem Answers.eq {one another : Except Failure Answer}
    (answers : eliding.Answers one another) : another = one := by
  cases answers with
  | done => rfl
  | failed alike =>
      cases alike with
      | same => rfl
      | memory same => exact same ▸ rfl

/-- Until a check refuses something, what follows a run is the same run but for the tags. -/
theorem Follows.isPrefix {one another : List (Except Failure Answer × Store)}
    (follows : eliding.Follows one another) :
    (one.takeWhile fun step => !denied step.1).map (fun step => (step.1, step.2.untagged)) <+:
      another.map fun step => (step.1, step.2.untagged) := by
  induction follows with
  | nil => exact List.nil_prefix
  | cons answers stores follows ih =>
      have untagged := stores.untagged (fun _ _ => Eq.symm) fun _ _ => Eq.symm
      rw [List.takeWhile_cons]
      split
      · simp only [List.map_cons, answers.eq, untagged]
        exact List.prefix_cons_inj _ |>.mpr ih
      · exact List.nil_prefix
  | excused excused =>
      have refused : denied (.error (.memory _)) = true := excused
      rw [List.takeWhile_cons]
      simp only [refused]
      exact List.nil_prefix

end Replay

namespace Store

open Replay in
/-- Up to the first command that a check refuses, a run does the same with no checks requested: the
same answers, and the same stores but for the tags. -/
theorem same_without_checks {commands : List Command} :
    ((initial.trace commands).takeWhile fun step => !denied step.1).map
        (fun step => (step.1, step.2.untagged)) <+:
      (initial.trace (commands.map (·.requesting false))).map
        fun step => (step.1, step.2.untagged) := by
  have alike : ∀ command ∈ commands,
      eliding.Commands (command.resetting id id) (command.requesting false) :=
    fun _ _ => .resetting (fun _ => rfl) fun _ => Or.inr rfl
  have follows := (Stores.initial faithful_eliding).trace faithful_eliding trivial alike
    (fun _ _ => trivial) (.inl guarded_eliding)
  rw [Command.resetting_id, List.map_id] at follows
  exact follows.isPrefix

end Store

end CursorBuffers
