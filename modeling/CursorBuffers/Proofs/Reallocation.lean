import CursorBuffers.NativeMemory
import CursorBuffers.Proofs.Room

namespace CursorBuffers

variable {lengths first last : List Nat} {length index : Nat} {accessor : Accessor}
variable {memory : NativeMemory} {requests : List (Nat × Debris)} {debris : Debris}

namespace Bytes

variable {content between bytes : Bytes}

theorem fit_zero : bytes.fit 0 = #[] := by
  simp [fit, zeros]

theorem fit_of_empty : fit #[] length = zeros length := by
  simp [fit]

/-- A byte string took one length after another: what has been below all of them is still there, and
everything else is zero. -/
structure CutAndFilled (content : Bytes) (lengths : List Nat) (bytes : Bytes) : Prop where
  size : bytes.size = lengths.getLast?.getD content.size
  kept : ∀ index < content.size, (∀ length ∈ lengths, index < length) →
    bytes[index]? = content[index]?
  zero : ∀ index < bytes.size, content.size ≤ index ∨ (∃ length ∈ lengths, length ≤ index) →
    bytes[index]? = some 0

namespace CutAndFilled

/-- A byte has always been there, or at some time it was not. -/
theorem lasts_or_cut (size : Nat) (lengths : List Nat) (index : Nat) :
    (index < size ∧ ∀ length ∈ lengths, index < length) ∨
      (size ≤ index ∨ ∃ length ∈ lengths, length ≤ index) := by
  by_cases old : index < size
  · by_cases above : ∀ length ∈ lengths, index < length
    · exact .inl ⟨old, above⟩
    · obtain ⟨length, short⟩ := Classical.not_forall.mp above
      obtain ⟨member, short⟩ := Classical.not_imp.mp short
      exact .inr (.inr ⟨length, member, Nat.not_lt.mp short⟩)
  · exact .inr (.inl (Nat.not_lt.mp old))

theorem refl : content.CutAndFilled [] content where
  size := rfl
  kept _ _ _ := rfl
  zero index below cut := by
    rcases cut with beyond | ⟨length, member, _⟩
    · exact absurd below (Nat.not_lt.mpr beyond)
    · contradiction

theorem fit : content.CutAndFilled [length] (content.fit length) where
  size := size_fit
  kept index old below := by
    rw [getElem?_fit, if_pos (below length (List.mem_singleton.mpr rfl)),
      Array.getElem?_eq_getElem old]
    rfl
  zero index below cut := by
    rw [size_fit] at below
    have new : content.size ≤ index := by
      rcases cut with beyond | ⟨other, member, short⟩
      · exact beyond
      · rw [List.mem_singleton.mp member] at short
        omega
    rw [getElem?_fit, if_pos below, Array.getElem?_eq_none new]
    rfl

/-- A byte that was cut off, or was never there, stays zero whatever lengths follow. -/
theorem trans (before : content.CutAndFilled first between)
    (after : between.CutAndFilled last bytes) : content.CutAndFilled (first ++ last) bytes where
  size := by
    rw [after.size, before.size, List.getLast?_append]
    cases last.getLast? <;> rfl
  kept index old below := by
    have stays := before.kept index old fun length member => below length (by simp [member])
    have there : index < between.size := by
      apply Nat.lt_of_not_le
      intro gone
      rw [Array.getElem?_eq_none gone, Array.getElem?_eq_getElem old] at stays
      contradiction
    rw [after.kept index there fun length member => below length (by simp [member]), stays]
  zero index below cut := by
    rcases lasts_or_cut between.size last index with ⟨there, above⟩ | late
    · -- None of the later lengths cut the byte, so an earlier one did, or it was never there.
      rw [after.kept index there above]
      refine before.zero index there (cut.imp_right fun ⟨length, member, short⟩ => ?_)
      rcases List.mem_append.mp member with early | late
      · exact ⟨length, early, short⟩
      · exact absurd (above length late) (Nat.not_lt.mpr short)
    · exact after.zero index below late

theorem foldl_fit : content.CutAndFilled lengths (lengths.foldl Bytes.fit content) := by
  induction lengths generalizing content with
  | nil => exact refl
  | cons length rest ih => exact fit.trans ih

/-- Nothing is left open. -/
theorem unique (one : content.CutAndFilled lengths between)
    (other : content.CutAndFilled lengths bytes) : between = bytes := by
  have long : between.size = bytes.size := one.size.trans other.size.symm
  apply Array.ext_getElem?
  intro index
  by_cases below : index < bytes.size
  · rcases lasts_or_cut content.size lengths index with ⟨old, above⟩ | cut
    · rw [one.kept index old above, other.kept index old above]
    · rw [one.zero index (long ▸ below) cut, other.zero index below cut]
  · rw [Array.getElem?_eq_none (by omega), Array.getElem?_eq_none (by omega)]

end CutAndFilled

end Bytes

/-- Storage of a kind, with any content, that belongs to nobody else. -/
def Backend.holding (backend : Backend) (bytes : Bytes) : Region :=
  match backend with
  | .native accessor => .native accessor .owned bytes
  | .managed => .managed bytes

namespace Region

variable {backend : Backend} {bytes data : Bytes}

/-- Storage takes one length after another. -/
def resizes (region : Region) (lengths : List Nat) : Except MemoryError Region :=
  lengths.foldlM resize region

theorem isOwned_holding : (backend.holding bytes).IsOwned := by
  cases backend <;> trivial

@[simp] theorem bytes_holding : (backend.holding bytes).bytes = bytes := by
  cases backend <;> rfl

@[simp] theorem withBytes_holding :
    (backend.holding bytes).withBytes data = backend.holding data := by
  cases backend <;> rfl

theorem resize_holding :
    (backend.holding bytes).resize length = .ok (backend.holding (bytes.fit length)) := by
  rw [resize_eq_ok isOwned_holding, bytes_holding, withBytes_holding]

theorem resizes_holding : (backend.holding bytes).resizes lengths =
    .ok (backend.holding (lengths.foldl Bytes.fit bytes)) := by
  induction lengths generalizing bytes with
  | nil => rfl
  | cons length rest ih =>
      rw [resizes, List.foldlM_cons, resize_holding]
      exact ih

theorem reserve_holding : (backend.holding bytes).reserve length =
    .ok (backend.holding (if bytes.size < length then bytes.fit length else bytes)) := by
  rw [reserve, size, bytes_holding, resize_holding]
  split <;> rfl

end Region

namespace NativeMemory

/-- Memory takes one length after another, and each block that it is moved to brings debris of its
own. -/
def resizes (memory : NativeMemory) (requests : List (Nat × Debris)) :
    Except MemoryError NativeMemory :=
  requests.foldlM (fun memory request => memory.resize request.1 request.2) memory

theorem allocate_eq_ok (accessor : Accessor) (possible : length ≤ lengthLimit) :
    ∃ memory, allocate length = .ok memory ∧
      memory.region accessor = (Backend.native accessor).allocate length := by
  unfold allocate
  split
  · rename_i nothing
    subst nothing
    exact ⟨empty, rfl, rfl⟩
  · rw [checkLayout_eq_ok.mpr possible]
    exact ⟨_, rfl, rfl⟩

theorem layout_of_owned (owned : memory.ownership = .owned) :
    memory.layout = if memory.length = 0 then none else some memory.length := by
  rw [memory.layout_eq, owned]
  by_cases nothing : memory.length = 0 <;> simp [nothing]

/-- All ways to take another length come to the same. -/
theorem region_resize_of_owned (owned : memory.ownership = .owned)
    (possible : length ≤ lengthLimit) :
    (memory.resize length debris).map (region accessor) =
      .ok (.native accessor .owned (memory.bytes.fit length)) := by
  have ours : ¬ memory.ownership = .external := by simp [owned]
  rw [resize, dif_neg ours, layout_of_owned owned]
  by_cases same : length = memory.length
  · rw [if_pos same, same, memory.length_eq, Bytes.fit_size, ← owned]
    rfl
  · rw [if_neg same]
    by_cases vacant : memory.length = 0
    · -- No bytes means no block, so one is asked for, and it is all zero.
      have none : memory.bytes = #[] :=
        Array.eq_empty_of_size_eq_zero (memory.length_eq.symm.trans vacant)
      obtain ⟨fresh, allocated, zero⟩ := allocate_eq_ok accessor possible
      rw [if_pos vacant, none, Bytes.fit_of_empty]
      simp only [allocated, Except.map, zero]
      rfl
    · rw [if_neg vacant]
      by_cases nothing : length = 0
      · subst nothing
        simp only [↓reduceDIte, Bytes.fit_zero, Except.map, region, emptied, owned]
      · simp only [dif_neg nothing, checkLayout_eq_ok.mpr possible, bind, Except.bind, pure,
          Except.pure, Except.map, region, reallocated, owned, cleared_eq_fit]

theorem region_resize (possible : length ≤ lengthLimit) :
    (memory.resize length debris).map (region accessor) =
      (memory.region accessor).resize length := by
  cases owner : memory.ownership with
  | owned =>
      rw [region_resize_of_owned owner possible, region, owner, Region.resize,
        Bytes.reallocate_eq_fit]
  | external =>
      rw [resize, dif_pos owner, region, owner]
      rfl

theorem region_resizes (possible : ∀ request ∈ requests, request.1 ≤ lengthLimit) :
    (memory.resizes requests).map (region accessor) =
      (memory.region accessor).resizes (requests.map Prod.fst) := by
  induction requests generalizing memory with
  | nil => rfl
  | cons request rest ih =>
      obtain ⟨here, later⟩ := List.forall_mem_cons.mp possible
      have first : (memory.resize request.1 request.2).map (region accessor) =
          (memory.region accessor).resize request.1 := region_resize here
      rw [resizes, List.foldlM_cons, List.map_cons, Region.resizes, List.foldlM_cons, ← first]
      cases memory.resize request.1 request.2 with
      | error error => rfl
      | ok after => exact ih later

end NativeMemory

/-- Whatever bytes storage has and whatever lengths it takes, both kinds come to the same bytes, and
so does native memory, whatever the blocks held that it was moved to. Each further length keeps the
bytes below it and fills up with zeros; room is made in that way where there is too little, and else
nothing is done. -/
theorem Region.zero_filled_after_resizes (content : Bytes) (lengths : List Nat) :
    ∃ bytes, content.CutAndFilled lengths bytes ∧
      (∀ backend : Backend,
        (backend.holding content).resizes lengths = .ok (backend.holding bytes)) ∧
      (∀ (accessor : Accessor) (memory : NativeMemory) (requests : List (Nat × Debris)),
        memory.region accessor = (Backend.native accessor).holding content →
        requests.map Prod.fst = lengths → (∀ length ∈ lengths, length ≤ NativeMemory.lengthLimit) →
        (memory.resizes requests).map (NativeMemory.region accessor) =
          .ok ((Backend.native accessor).holding bytes)) ∧
      ∀ length, ∃ next, bytes.CutAndFilled [length] next ∧ ∀ backend : Backend,
        (backend.holding bytes).resize length = .ok (backend.holding next) ∧
        (backend.holding bytes).reserve length =
          .ok (backend.holding (if bytes.size < length then next else bytes)) := by
  refine ⟨lengths.foldl Bytes.fit content, .foldl_fit, fun backend => resizes_holding,
    fun accessor memory requests holds same possible => ?_,
    fun length => ⟨_, .fit, fun backend => ⟨resize_holding, reserve_holding⟩⟩⟩
  subst same
  rw [NativeMemory.region_resizes fun request member => possible _ (List.mem_map_of_mem member),
    holds, resizes_holding]

/-- A block of four bytes is cut to two and grows again, into a block with every bit set. -/
theorem Region.zero_filled_after_resizes_of_block :
    let block : NativeMemory := ⟨#[1, 2, 3, 4], 4, some 4, .owned, rfl, rfl⟩
    let full : Debris := fun _ => 255
    (block.resizes [(2, full), (4, full), (4, full)]).map (NativeMemory.region .unaligned) =
        .ok (.native .unaligned .owned #[1, 2, 0, 0]) ∧
      (Region.managed #[1, 2, 3, 4]).resizes [2, 4, 4] = .ok (.managed #[1, 2, 0, 0]) := by
  intro block full
  obtain ⟨bytes, filled, alike, native, _⟩ := zero_filled_after_resizes #[1, 2, 3, 4] [2, 4, 4]
  obtain rfl : bytes = #[1, 2, 0, 0] :=
    filled.unique ⟨rfl, by decide, by decide⟩
  exact ⟨native .unaligned block _ rfl rfl (by decide), alike .managed⟩

end CursorBuffers
