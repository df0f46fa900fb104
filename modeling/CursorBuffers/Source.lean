import CursorBuffers.Bytes

namespace CursorBuffers

/-- A source with states in `α`, which hands out its bytes chunk by chunk. Where a chunk ends is up
to the source, but a chunk is empty only if nothing is left. -/
structure Source (α : Type) where
  /-- The bytes that are still to come. -/
  content : α → Bytes
  remaining : α → Nat
  chunk : α → Bytes
  /-- The source behind some of its next bytes. -/
  advance : α → Nat → α
  remaining_eq : ∀ state, remaining state = (content state).size
  chunk_nonempty : ∀ state, remaining state ≠ 0 → (chunk state).size ≠ 0
  chunk_append : ∀ state, chunk state ++ content (advance state (chunk state).size) = content state

namespace Source

variable {α : Type} {source : Source α} {state : α}

theorem remaining_advance (source : Source α) (state : α) : (source.chunk state).size +
    source.remaining (source.advance state (source.chunk state).size) = source.remaining state := by
  rw [source.remaining_eq, source.remaining_eq, ← Array.size_append, source.chunk_append]

/-- Who reads chunk after chunk comes to an end. -/
theorem remaining_advance_lt (left : source.remaining state ≠ 0) :
    source.remaining (source.advance state (source.chunk state).size) <
      source.remaining state := by
  have nonempty := source.chunk_nonempty state left
  have total := source.remaining_advance state
  omega

end Source

namespace Bytes

variable {chunk : Bytes} {chunks : List Bytes} {count : Nat}

/-- The first chunk that is not empty. -/
def firstChunk : List Bytes → Bytes
  | [] => #[]
  | chunk :: rest => if chunk.size = 0 then firstChunk rest else chunk

/-- The chunks without some of their first bytes. -/
def dropBytes : List Bytes → Nat → List Bytes
  | [], _ => []
  | chunk :: rest, count =>
      if count < chunk.size then chunk.extract count chunk.size :: rest
      else dropBytes rest (count - chunk.size)

theorem join_dropBytes :
    join (dropBytes chunks count) = (join chunks).extract count (join chunks).size := by
  induction chunks generalizing count with
  | nil => simp [dropBytes, join]
  | cons chunk rest ih =>
      rw [dropBytes]
      rw [join_cons, Array.extract_append, Array.size_append]
      split
      · rename_i inside
        have none : count - chunk.size = 0 := by omega
        rw [join_cons, none, Nat.add_sub_cancel_left, Array.extract_size]
        congr 1
        simp [Array.extract]
      · rename_i beyond
        rw [ih, Nat.add_sub_cancel_left,
          Array.extract_empty_of_size_le_start (Nat.le_of_not_lt beyond), Array.empty_append]

theorem exists_firstChunk (chunks : List Bytes) :
    ∃ rest, join chunks = firstChunk chunks ++ rest := by
  induction chunks with
  | nil => exact ⟨#[], rfl⟩
  | cons chunk rest ih =>
      rw [firstChunk, join_cons]
      split
      · rename_i empty
        rw [Array.eq_empty_of_size_eq_zero empty, Array.empty_append]
        exact ih
      · exact ⟨_, rfl⟩

theorem firstChunk_nonempty (left : (join chunks).size ≠ 0) :
    (firstChunk chunks).size ≠ 0 := by
  induction chunks with
  | nil => exact absurd rfl left
  | cons chunk rest ih =>
      rw [firstChunk]
      split
      · rename_i empty
        rw [join_cons, Array.size_append, empty, Nat.zero_add] at left
        exact ih left
      · assumption

theorem filter_dropBytes_zero : (dropBytes chunks 0).filter (fun chunk => chunk.size != 0) =
    chunks.filter fun chunk => chunk.size != 0 := by
  induction chunks with
  | nil => rfl
  | cons chunk rest ih =>
      rw [dropBytes]
      split
      · rw [Array.extract_size]
      · rename_i empty
        have empty : chunk.size = 0 := by omega
        simp [empty, ih]

theorem filter_of_empty (empty : (join chunks).size = 0) :
    chunks.filter (fun chunk => chunk.size != 0) = [] := by
  induction chunks with
  | nil => rfl
  | cons chunk rest ih =>
      rw [join_cons, Array.size_append, Nat.add_eq_zero_iff] at empty
      simp [empty.1, ih empty.2]

/-- What is left is the first chunk and then what is behind it. -/
theorem filter_of_left (left : (join chunks).size ≠ 0) :
    chunks.filter (fun chunk => chunk.size != 0) = firstChunk chunks ::
      (dropBytes chunks (firstChunk chunks).size).filter fun chunk => chunk.size != 0 := by
  induction chunks with
  | nil => exact absurd rfl left
  | cons chunk rest ih =>
      by_cases empty : chunk.size = 0
      · rw [join_cons, Array.size_append, empty, Nat.zero_add] at left
        simp [firstChunk, dropBytes, empty, ih left]
      · simp [firstChunk, dropBytes, empty, filter_dropBytes_zero]

end Bytes

/-- Byte strings, read one after the other; empty ones are passed over. -/
def Source.ofChunks : Source (List Bytes) where
  content := Bytes.join
  remaining chunks := (Bytes.join chunks).size
  chunk := Bytes.firstChunk
  advance := Bytes.dropBytes
  remaining_eq _ := rfl
  chunk_nonempty _ left := Bytes.firstChunk_nonempty left
  chunk_append chunks := by
    obtain ⟨rest, split⟩ := Bytes.exists_firstChunk chunks
    rw [Bytes.join_dropBytes, split]
    simp [Array.extract_append]

end CursorBuffers
