import CursorBuffers.Proofs.Replay.Commands

namespace CursorBuffers

/-- The same answer, or failures that a caller cannot tell apart by their codes. -/
inductive Agree : Except Failure Answer → Except Failure Answer → Prop
  | same {result : Except Failure Answer} : Agree result result
  | coded {error other : MemoryError} (code : other.code = error.code) :
      Agree (.error (.memory error)) (.error (.memory other))

namespace Store

/-- What each of some commands answers, and the store after it. -/
def trace (store : Store) : List Command → List (Except Failure Answer × Store)
  | [] => []
  | command :: rest => store.run command :: (store.run command).2.trace rest

/-- Each of some commands names only buffers that are there when it is performed. -/
def Finds (store : Store) : List Command → Prop
  | [] => True
  | command :: rest =>
      (∀ id ∈ command.handles, (store.buffers.get? id).isSome) ∧ (store.run command).2.Finds rest

instance decidableFinds (store : Store) : (commands : List Command) →
    Decidable (store.Finds commands)
  | [] => .isTrue trivial
  | command :: rest =>
      have := decidableFinds (store.run command).2 rest
      inferInstanceAs (Decidable (_ ∧ _))

end Store

namespace Replay

variable {replay : Replay} {store other : Store}

section Checks

/-! A replay whose checks follow those of the run one by one. -/

variable {α : Type}

theorem Results.forM {first second : α → Except MemoryError Unit} {pairs : List (α × α)}
    (each : ∀ pair ∈ pairs, replay.Results Eq (first pair.1) (second pair.2)) :
    replay.Results Eq ((pairs.map (·.1)).forM first) ((pairs.map (·.2)).forM second) := by
  induction pairs with
  | nil => exact .ok rfl
  | cons pair rest ih =>
      obtain ⟨head, tail⟩ := List.forall_mem_cons.mp each
      exact head.bind fun _ _ _ _ => ih tail

theorem Accesses.range_eq {access also : Access}
    (accesses : replay.Accesses store other access also) : also.range = access.range := by
  rw [Access.range, Access.range, accesses.place, accesses.length,
    accesses.arena.region.checkRange]

/-- If related accesses pass or fail their guards alike, so do all checks that are made together. -/
theorem Guarded.reach (guarded : replay.Guarded) (errors : ∀ error, replay.error error error)
    (kept : replay.kept store) {checked ranged : List (Access × Access)}
    (same : checked.Perm ranged)
    (accesses : ∀ pair ∈ checked, replay.Accesses store other pair.1 pair.2) :
    replay.Results Eq (Access.reach (checked.map (·.1)) (ranged.map (·.1)))
      (Access.reach (checked.map (·.2)) (ranged.map (·.2))) := by
  refine (Results.forM fun pair member => guarded _ _ _ _ kept (accesses pair member)).bind
    fun _ _ _ _ => .forM fun pair member => ?_
  rw [(accesses pair (same.symm.subset member)).range_eq]
  exact .refl errors

end Checks

section Runs

variable (replay)

/-- The same answer, or failures that count as the same. -/
inductive Answers : Except Failure Answer → Except Failure Answer → Prop
  | done {answer : Answer} : Answers (.ok answer) (.ok answer)
  | failed {failure also : Failure} (alike : replay.Failures failure also) :
      Answers (.error failure) (.error also)

/-- One trace follows another one to its end, or to a failure that is excused. -/
inductive Follows : List (Except Failure Answer × Store) → List (Except Failure Answer × Store) →
    Prop
  | nil : Follows [] []
  | cons {one another : Except Failure Answer × Store}
      {rest others : List (Except Failure Answer × Store)}
      (answers : replay.Answers one.1 another.1) (stores : replay.Stores one.2 another.2)
      (follows : Follows rest others) : Follows (one :: rest) (another :: others)
  | excused {error : MemoryError} {store : Store}
      {rest others : List (Except Failure Answer × Store)} (excused : replay.excused error) :
      Follows ((.error (.memory error), store) :: rest) others

variable {replay}

theorem Stores.trace (faithful : replay.Faithful) (stores : replay.Stores store other)
    (kept : replay.kept store) {first second : Command → Command} {commands : List Command}
    (alike : ∀ command ∈ commands, replay.Commands (first command) (second command))
    (admitted : ∀ command ∈ commands, replay.admits (first command))
    (heard : replay.Guarded ∨ store.Finds (commands.map first)) :
    replay.Follows (store.trace (commands.map first)) (other.trace (commands.map second)) := by
  induction commands generalizing store other with
  | nil => exact .nil
  | cons command rest ih =>
      obtain ⟨here, alike⟩ := List.forall_mem_cons.mp alike
      obtain ⟨allowed, admitted⟩ := List.forall_mem_cons.mp admitted
      have ran : replay.Outcomes (store.run (first command)) (other.run (second command)) :=
        stores.run faithful kept allowed here (heard.imp_right fun finds => finds.1)
      have further : replay.Stores (store.run (first command)).2 (other.run (second command)).2 →
          replay.Follows ((store.run (first command)).2.trace (rest.map first))
            ((other.run (second command)).2.trace (rest.map second)) := fun stores =>
        ih stores (faithful.run kept allowed) alike admitted
          (heard.imp_right fun finds => finds.2)
      simp only [List.map_cons, Store.trace]
      generalize store.run (first command) = one at ran further ⊢
      generalize other.run (second command) = another at ran further ⊢
      cases ran with
      | done stores => exact .cons .done stores (further stores)
      | failed alike stores => exact .cons (.failed alike) stores (further stores)
      | excused excused => exact .excused excused

theorem Answers.agree {one another : Except Failure Answer}
    (coded : ∀ error other, replay.error error other → other.code = error.code)
    (answers : replay.Answers one another) : Agree one another := by
  cases answers with
  | done => exact .same
  | failed alike =>
      cases alike with
      | same => exact .same
      | memory alike => exact .coded (coded _ _ alike)

theorem Follows.forall₂ {one another : List (Except Failure Answer × Store)}
    (follows : replay.Follows one another) (never : ∀ error, ¬ replay.excused error) :
    List.Forall₂ (fun one another =>
      replay.Answers one.1 another.1 ∧ replay.Stores one.2 another.2) one another := by
  induction follows with
  | nil => exact .nil
  | cons answers stores follows ih => exact .cons ⟨answers, stores⟩ ih
  | excused excused => exact absurd excused (never _)

end Runs

end Replay

end CursorBuffers
