import CursorBuffers.Proofs.Replay

/-!
Results and outcomes in a run and in its replay. What both begin with the same they go on with the
same, until a check of the run fails that the replay may leave out.
-/

namespace CursorBuffers

namespace Replay

variable {α β γ δ : Type} {replay : Replay} {store other : Store} {id : BufferId}

namespace Results

variable {same : α → β → Prop} {alike : γ → δ → Prop}
variable {one : Except MemoryError α} {another : Except MemoryError β}

theorem map (results : replay.Results same one another) {first : α → γ} {second : β → δ}
    (agree : ∀ value also, one = .ok value → same value also → alike (first value) (second also)) :
    replay.Results alike (one.map first) (another.map second) := by
  cases results with
  | ok agrees => exact .ok (agree _ _ rfl agrees)
  | error errors => exact .error errors
  | excused excused => exact .excused excused

theorem bind (results : replay.Results same one another) {first : α → Except MemoryError γ}
    {second : β → Except MemoryError δ}
    (rest : ∀ value also, one = .ok value → same value also →
      replay.Results alike (first value) (second also)) :
    replay.Results alike (one >>= first) (another >>= second) := by
  cases results with
  | ok agrees => exact rest _ _ rfl agrees
  | error errors => exact .error errors
  | excused excused => exact .excused excused

theorem refl (errors : ∀ error, replay.error error error) {result : Except MemoryError α} :
    replay.Results Eq result result := by
  cases result with
  | error error => exact .error (errors error)
  | ok value => exact .ok rfl

theorem outOfRange (faithful : replay.Faithful) {fault cause : RangeFault} :
    replay.Results same (.error (.outOfRange fault)) (.error (.outOfRange cause)) := by
  rcases faithful.outOfRange fault cause with excused | errors
  · exact .excused excused
  · exact .error errors

end Results

namespace Outcomes

open CursorBuffers.Action

theorem bind {action follow : Action α} {next rest : α → Action β}
    (first : replay.Outcomes (runOn action store) (runOn follow other))
    (second : ∀ value between also, runOn action store = (.ok value, between) →
      runOn follow other = (.ok value, also) → replay.Stores between also →
      replay.Outcomes (runOn (next value) between) (runOn (rest value) also)) :
    replay.Outcomes (runOn (action >>= next) store) (runOn (follow >>= rest) other) := by
  rw [runOn_bind, runOn_bind]
  rcases begun : runOn action store with ⟨_ | value, between⟩ <;>
    rcases followed : runOn follow other with ⟨_ | answer, also⟩ <;>
    rw [begun, followed] at first
  · cases first with
    | failed alike stores => exact .failed alike stores
    | excused excused => exact .excused excused
  · cases first with
    | excused excused => exact .excused excused
  · cases first
  · cases first with
    | done stores => exact second value between also begun followed stores

/-- What is made of an answer is the same if the answer is. -/
theorem answer {action follow : Action α}
    (first : replay.Outcomes (runOn action store) (runOn follow other)) {value : α → β} :
    replay.Outcomes (runOn (action >>= fun result => pure (value result)) store)
      (runOn (follow >>= fun result => pure (value result)) other) :=
  first.bind fun _ _ _ _ _ stores => .done stores

theorem bind_modify {change follow : Store → Store} {next rest : Unit → Action α}
    (second : replay.Outcomes (runOn (next ()) (change store)) (runOn (rest ()) (follow other))) :
    replay.Outcomes (runOn (modify change >>= next) store)
      (runOn (modify follow >>= rest) other) :=
  second

variable (stores : replay.Stores store other)

include stores

theorem check {one another : Except MemoryError α} (results : replay.Results Eq one another) :
    replay.Outcomes (runOn (check one) store) (runOn (check another) other) := by
  rw [runOn_check, runOn_check]
  cases results with
  | ok agrees => exact agrees ▸ .done stores
  | error alike => exact .failed (.memory alike) stores
  | excused excused => exact .excused excused

theorem bind_check {same : α → β → Prop} {one : Except MemoryError α}
    {another : Except MemoryError β} {next : α → Action γ} {rest : β → Action γ}
    (results : replay.Results same one another)
    (second : ∀ value also, one = .ok value → same value also →
      replay.Outcomes (runOn (next value) store) (runOn (rest also) other)) :
    replay.Outcomes (runOn (Action.check one >>= next) store)
      (runOn (Action.check another >>= rest) other) := by
  rw [runOn_bind, runOn_bind, runOn_check, runOn_check]
  cases results with
  | ok agrees => exact second _ _ rfl agrees
  | error alike => exact .failed (.memory alike) stores
  | excused excused => exact .excused excused

theorem bind_buffer {next rest : Buffer → Action α}
    (second : ∀ buffer also, store.buffers.get? id = some buffer →
      other.buffers.get? id = some also → replay.Buffers buffer also →
      replay.Outcomes (runOn (next buffer) store) (runOn (rest also) other)) :
    replay.Outcomes (runOn (buffer id >>= next) store) (runOn (buffer id >>= rest) other) := by
  cases live : store.buffers.get? id with
  | none =>
      rw [runOn_bind_buffer_none live, runOn_bind_buffer_none (stores.buffers.none live)]
      exact .failed .same stores
  | some buffer =>
      obtain ⟨also, found, alike⟩ := stores.buffers.some live
      rw [runOn_bind, runOn_bind, runOn_buffer live, runOn_buffer found]
      exact second buffer also live found alike

theorem bind_pool {pool : PoolId} {next rest : Pool → Action α}
    (second : ∀ record also, replay.Pools record also →
      replay.Outcomes (runOn (next record) store) (runOn (rest also) other)) :
    replay.Outcomes (runOn (Action.pool pool >>= next) store)
      (runOn (Action.pool pool >>= rest) other) := by
  rw [runOn_bind, runOn_bind]
  cases served : store.pools.get? pool with
  | none =>
      rw [runOn_pool_none served, runOn_pool_none (stores.pools.none served)]
      exact .failed .same stores
  | some record =>
      obtain ⟨also, found, alike⟩ := stores.pools.some served
      rw [runOn_pool served, runOn_pool found]
      exact second record also alike

theorem bind_readerIndex {next rest : Nat → Action α}
    (second : ∀ buffer, store.buffers.get? id = some buffer →
      replay.Outcomes (runOn (next buffer.readerIndex) store)
        (runOn (rest buffer.readerIndex) other)) :
    replay.Outcomes (runOn (readerIndex id >>= next) store)
      (runOn (readerIndex id >>= rest) other) := by
  rw [readerIndex, bind_assoc, bind_assoc]
  refine bind_buffer stores fun buffer also live _ alike => ?_
  cases alike
  exact second buffer live

theorem bind_writerIndex {next rest : Nat → Action α}
    (second : ∀ buffer, store.buffers.get? id = some buffer →
      replay.Outcomes (runOn (next buffer.writerIndex) store)
        (runOn (rest buffer.writerIndex) other)) :
    replay.Outcomes (runOn (writerIndex id >>= next) store)
      (runOn (writerIndex id >>= rest) other) := by
  rw [writerIndex, bind_assoc, bind_assoc]
  refine bind_buffer stores fun buffer also live _ alike => ?_
  cases alike
  exact second buffer live

theorem inspect {question : Buffer → Arena → Except MemoryError α}
    (answers : ∀ buffer also, store.buffers.get? id = some buffer →
      other.buffers.get? id = some also → replay.Buffers buffer also →
      replay.Results Eq (question buffer (store.arena buffer.arena))
        (question also (other.arena also.arena))) :
    replay.Outcomes (runOn (inspect id question) store) (runOn (inspect id question) other) := by
  refine bind_buffer stores fun buffer also live found alike => ?_
  rw [runOn_bind, runOn_get, runOn_bind, runOn_get]
  exact check stores (answers buffer also live found alike)

theorem bind_inspect {question : Buffer → Arena → Except MemoryError α} {next rest : α → Action β}
    (answers : ∀ buffer also, store.buffers.get? id = some buffer →
      other.buffers.get? id = some also → replay.Buffers buffer also →
      replay.Results Eq (question buffer (store.arena buffer.arena))
        (question also (other.arena also.arena)))
    (second : ∀ buffer value, store.buffers.get? id = some buffer →
      replay.Outcomes (runOn (next value) store) (runOn (rest value) other)) :
    replay.Outcomes (runOn (Action.inspect id question >>= next) store)
      (runOn (Action.inspect id question >>= rest) other) := by
  refine (inspect stores answers).bind fun value between also begun followed _ => ?_
  obtain ⟨rfl, buffer, live, _⟩ := runOn_inspect_eq_ok.mp begun
  obtain ⟨rfl, _⟩ := runOn_inspect_eq_ok.mp followed
  exact second buffer value live

theorem bind_inspect_none {question : Buffer → Arena → Except MemoryError α}
    {next rest : α → Action β}
    (gone : store.buffers.get? id = none) :
    replay.Outcomes (runOn (Action.inspect id question >>= next) store)
      (runOn (Action.inspect id question >>= rest) other) := by
  rw [Action.inspect, bind_assoc, bind_assoc, runOn_bind_buffer_none gone,
    runOn_bind_buffer_none (stores.buffers.none gone)]
  exact .failed .same stores

/-- A rule that reads neither the tag nor the configuration changes related buffers alike. -/
theorem revise {rule : Buffer → Except MemoryError Buffer}
    (follows : ∀ buffer also, replay.Buffers buffer also →
      replay.Results replay.Buffers (rule buffer) (rule also)) :
    replay.Outcomes (runOn (revise id rule) store) (runOn (revise id rule) other) :=
  bind_buffer stores fun buffer also _ _ alike =>
    bind_check stores (follows buffer also alike) fun _ _ _ changed =>
      .done (stores.mapBuffer fun _ _ _ _ => changed)

theorem overwrite {rule : Buffer → Arena → Except MemoryError Region}
    (follows : ∀ buffer also, store.buffers.get? id = some buffer →
      other.buffers.get? id = some also → replay.Buffers buffer also →
      replay.Results replay.Regions (rule buffer (store.arena buffer.arena))
        (rule also (other.arena also.arena))) :
    replay.Outcomes (runOn (overwrite id rule) store) (runOn (overwrite id rule) other) := by
  refine bind_buffer stores fun buffer also live found alike => ?_
  rw [runOn_bind, runOn_get, runOn_bind, runOn_get]
  refine bind_check stores (follows buffer also live found alike) fun region twin _ regions => ?_
  cases alike
  exact .done (stores.setRegion regions)

theorem newBuffer {make follow : BufferId → Buffer}
    (alike : ∀ id, replay.Buffers (make id) (follow id)) :
    replay.Outcomes (runOn (newBuffer make) store) (runOn (newBuffer follow) other) := by
  rw [runOn_newBuffer, runOn_newBuffer, stores.buffers.next]
  exact .done (stores.addBuffer (alike _))

theorem bind_newArena {region also : Region} (regions : replay.Regions region also)
    {next rest : ArenaId → Action α}
    (second : ∀ arena, replay.Stores (store.addArena region) (other.addArena also) →
      replay.Outcomes (runOn (next arena) (store.addArena region))
        (runOn (rest arena) (other.addArena also))) :
    replay.Outcomes (runOn (newArena region >>= next) store)
      (runOn (newArena also >>= rest) other) := by
  rw [runOn_bind, runOn_bind, runOn_newArena, runOn_newArena, stores.arenas.next]
  exact second _ (stores.addArena regions)

end Outcomes

section Storage

variable {region also : Region} {length offset : Nat}

theorem Regions.resize (faithful : replay.Faithful) (regions : replay.Regions region also) :
    replay.Results replay.Regions (region.resize length) (also.resize length) := by
  by_cases owned : region.IsOwned
  · rw [Region.resize_eq_ok owned, Region.resize_eq_ok (regions.owned.mpr owned), regions.bytes]
    exact .ok regions.withBytes
  · have external : ¬ also.IsOwned := fun own => owned (regions.owned.mp own)
    rw [Region.resize_eq_error owned, Region.resize_eq_error external]
    exact .error (faithful.errors _)

theorem Regions.reserve (faithful : replay.Faithful) (regions : replay.Regions region also) :
    replay.Results replay.Regions (region.reserve length) (also.reserve length) := by
  rw [Region.reserve, Region.reserve, regions.size]
  split
  · exact regions.resize faithful
  · exact .ok regions

theorem Regions.write (faithful : replay.Faithful) (regions : replay.Regions region also)
    {data : Bytes} :
    replay.Results replay.Regions (region.write offset data) (also.write offset data) := by
  rw [Region.write, Region.write, regions.checkRange, regions.bytes]
  exact (Results.refl faithful.errors).bind fun _ _ _ _ => .ok regions.withBytes

theorem Stores.resized (stores : replay.Stores store other) (faithful : replay.Faithful)
    {buffer partner : Buffer} (alike : replay.Buffers buffer partner) {capacity : Nat} :
    replay.Results replay.Regions (store.resized buffer capacity)
      (other.resized partner capacity) := by
  simp only [Store.resized, stores.isExclusive alike]
  cases alike
  have arenas : replay.Arenas (store.arena buffer.arena) (other.arena buffer.arena) :=
    stores.arena faithful
  split
  · exact arenas.region.resize faithful
  · exact arenas.region.reserve faithful

end Storage

end Replay

end CursorBuffers
