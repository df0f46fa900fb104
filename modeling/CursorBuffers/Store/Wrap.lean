import CursorBuffers.Source
import CursorBuffers.Store.Allocate
import CursorBuffers.Store.Stream

namespace CursorBuffers

/-- The allocator with the default configuration. -/
def Allocator.default : Allocator := .plain {}

/-- Only native memory can be wrapped in place, and only if there is any. -/
def Bytes.checkBlock (block : Bytes) (config : MemoryConfig) : Except MemoryError Unit :=
  if Capability.probe config = .unavailable then .error (.unsupportedBackend "wrap_address")
  else if block.size = 0 then .error (.illegalArgument .emptyBlock)
  else .ok ()

/-- The check before bytes are wrapped, other than in place. -/
def Bytes.checkSize (bytes : Bytes) : Except MemoryError Unit :=
  if bytes.size ≤ lengthLimit then .ok () else .error (.illegalArgument (.tooLarge bytes.size))

theorem Bytes.checkSize_eq_ok {bytes : Bytes} :
    bytes.checkSize = .ok () ↔ bytes.size ≤ lengthLimit := by
  by_cases short : bytes.size ≤ lengthLimit <;> simp [checkSize, short]

/-- The same check of what a source has left, before any of it is read. -/
def Source.checkSize {α : Type} (source : Source α) (state : α) : Except MemoryError Unit :=
  if source.remaining state ≤ Bytes.lengthLimit then .ok ()
  else .error (.illegalArgument (.tooLarge (source.remaining state)))

theorem Source.checkSize_eq {α : Type} {source : Source α} {state : α} :
    source.checkSize state = (source.content state).checkSize := by
  rw [checkSize, Bytes.checkSize, source.remaining_eq]

/-- The failure of a text that its codec does not read. -/
def Hex.Codec.refusal (codec : Hex.Codec) (fault : Hex.Fault) : MemoryError :=
  .illegalArgument (.hex fault (codec.describe fault))

namespace Action

/-- A buffer on a block of memory that belongs to somebody else. The block is there before and
after, whether or not it can be wrapped. -/
def wrapBlock (block : Bytes) (config : MemoryConfig) (checking : Bool) : Action BufferId := do
  let arena ← newArena (.native .host .external block)
  check (block.checkBlock config)
  newBuffer (Buffer.full block.size checking config arena)

/-- A buffer that takes over a byte array. -/
def wrapArray (bytes : Bytes) (config : MemoryConfig) (checking : Bool) : Action BufferId := do
  check bytes.checkSize
  let arena ← newArena (.managed bytes)
  newBuffer (Buffer.full bytes.size checking config arena)

/-- Writes data into a new buffer; the buffer ends if that fails. -/
def fill (id : BufferId) (data : Bytes) : Action Unit :=
  tryCatch (writeBytes id data) fun failure => do
    modify (·.drop id)
    throw failure

/-- A buffer with a copy of the bytes. -/
def wrapBytes (allocator : Allocator) (bytes : Bytes) (checking : Bool) : Action BufferId := do
  check bytes.checkSize
  let id ← allocate allocator (.exact bytes.size checking)
  fill id bytes
  return id

/-- A buffer with the bytes that a text of hexadecimal digits denotes. -/
def wrapHex (codec : Hex.Codec) (allocator : Allocator) (text : String) (checking : Bool) :
    Action BufferId := do
  let bytes ← check ((codec.read text).mapError codec.refusal)
  wrapBytes allocator bytes checking

/-- Writes chunk after chunk. -/
def fillChunks (id : BufferId) : List Bytes → Action Unit
  | [] => return
  | chunk :: rest => do
      fill id chunk
      fillChunks id rest

/-- Writes what is left of a source, chunk after chunk, and tells what the source is then. -/
def fillFrom {α : Type} (source : Source α) (id : BufferId) (state : α) : Action α :=
  if source.remaining state ≠ 0 then do
    fill id (source.chunk state)
    fillFrom source id (source.advance state (source.chunk state).size)
  else return state
termination_by source.remaining state
decreasing_by exact Source.remaining_advance_lt ‹_›

/-- A buffer with a copy of what is left of a source, and the source after that. -/
def wrapSource {α : Type} (source : Source α) (state : α) (checking : Bool) :
    Action (BufferId × α) := do
  check (source.checkSize state)
  let id ← allocate .default (.exact (source.remaining state) checking)
  let rest ← fillFrom source id state
  return (id, rest)

/-- A buffer with a copy of the bytes of all chunks. -/
def wrapChunks (chunks : List Bytes) (checking : Bool) : Action BufferId := do
  let all := Bytes.join chunks
  check all.checkSize
  let id ← allocate .default (.exact all.size checking)
  fillChunks id (chunks.filter fun chunk => chunk.size != 0)
  return id

theorem fillFrom_of_empty {α : Type} {source : Source α} {id : BufferId} {state : α}
    (empty : source.remaining state = 0) : fillFrom source id state = pure state := by
  rw [fillFrom, if_neg (not_not_intro empty)]

theorem fillFrom_of_left {α : Type} {source : Source α} {id : BufferId} {state : α}
    (left : source.remaining state ≠ 0) : fillFrom source id state = (do
      fill id (source.chunk state)
      fillFrom source id (source.advance state (source.chunk state).size)) := by
  rw [fillFrom, if_pos left]

theorem fillChunks_eq_fillFrom {id : BufferId} {chunks : List Bytes} :
    fillChunks id (chunks.filter fun chunk => chunk.size != 0) =
      (do let _ ← fillFrom .ofChunks id chunks) := by
  by_cases empty : Source.ofChunks.remaining chunks = 0
  · rw [fillFrom_of_empty empty, Bytes.filter_of_empty empty]
    rfl
  · have shorter := Source.remaining_advance_lt empty
    rw [fillFrom_of_left empty, Bytes.filter_of_left empty, fillChunks, bind_assoc]
    congr 1
    funext _
    exact fillChunks_eq_fillFrom
termination_by Source.ofChunks.remaining chunks

/-- Data in chunks is wrapped as the source that hands out the chunks. -/
theorem wrapChunks_eq_wrapSource {chunks : List Bytes} {checking : Bool} :
    wrapChunks chunks checking = (do
      let (id, _) ← wrapSource .ofChunks chunks checking
      return id) := by
  have length : Source.ofChunks.remaining chunks = (Bytes.join chunks).size :=
    Source.ofChunks.remaining_eq chunks
  have checked : Source.ofChunks.checkSize chunks = (Bytes.join chunks).checkSize :=
    Source.checkSize_eq
  simp only [wrapChunks, wrapSource, fillChunks_eq_fillFrom, length, checked, bind_assoc, pure_bind]

end Action

end CursorBuffers
