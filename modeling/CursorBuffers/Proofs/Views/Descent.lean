import CursorBuffers.Proofs.Atomic
import CursorBuffers.Proofs.Coverage
import CursorBuffers.Proofs.Isolation.Lineage

namespace CursorBuffers

/-- The index at which the window that an operation opens on a buffer begins. -/
def BufferCommand.start? (buffer : Buffer) : BufferCommand → Option Nat
  | .slice => some buffer.readerIndex
  | .sliceRange index _ => some index
  | .duplicate => some 0
  | _ => none

theorem BufferCommand.isView_of_start? {buffer : Buffer} {request : BufferCommand} {start : Nat}
    (starts : request.start? buffer = some start) : request.IsView := by
  cases request with
  | slice => trivial
  | sliceRange index length => trivial
  | duplicate => trivial
  | _ => cases starts

/-- In the course of the commands the buffer was made by slices and duplicates from `root`, which
was allocated, wrapped or copied, and the indices at which these begin add up to `base`. -/
inductive Descent : List Command → BufferId → BufferId → Nat → Prop
  | root {commands : List Command} {command : Command} {id : BufferId}
      (foreign : ∀ parent, ¬ command.Views parent)
      (made : (Store.initial.after commands).Makes command id) :
      Descent (commands ++ [command]) id id 0
  | view {commands : List Command} {request : BufferCommand} {source : Buffer}
      {parent id root : BufferId} {base start : Nat}
      (live : (Store.initial.after commands).buffers.get? parent = some source)
      (starts : request.start? source = some start)
      (made : (Store.initial.after commands).Makes (.onBuffer parent request) id)
      (descent : Descent commands parent root base) :
      Descent (commands ++ [.onBuffer parent request]) id root (base + start)
  | later {commands : List Command} {command : Command} {id root : BufferId} {base : Nat}
      (descent : Descent commands id root base) : Descent (commands ++ [command]) id root base

/-- Buffers of one creation are on one arena, checked alike, and the first of them is on the whole
of it. -/
structure Store.Kin (store : Store) : Prop where
  older : ∀ {id buffer}, store.buffers.get? id = some buffer → buffer.origin ≤ id
  whole : ∀ {id buffer}, store.buffers.get? id = some buffer → buffer.origin = id →
    buffer.offset = 0
  alike : ∀ {first second one another}, store.buffers.get? first = some one →
    store.buffers.get? second = some another → another.origin = one.origin →
    another.arena = one.arena ∧ another.bounds = one.bounds ∧ another.config = one.config

variable {warrant : Warrant} {store after : Store} {id parent : BufferId}
variable {buffer source view : Buffer}

namespace Store.Kin

/-- No buffer has come, and no buffer has changed its place. -/
theorem of_older (kin : store.Kin)
    (older : ∀ {id buffer}, after.buffers.get? id = some buffer →
      ∃ earlier, store.buffers.get? id = some earlier ∧ earlier.Akin buffer) : after.Kin where
  older live := by
    obtain ⟨earlier, was, akin⟩ := older live
    rw [akin.origin]
    exact kin.older was
  whole live own := by
    obtain ⟨earlier, was, akin⟩ := older live
    rw [akin.offset]
    exact kin.whole was (akin.origin.symm.trans own)
  alike live also same := by
    obtain ⟨one, was, akin⟩ := older live
    obtain ⟨another, alsoWas, alsoAkin⟩ := older also
    rw [akin.origin, alsoAkin.origin] at same
    rw [akin.arena, akin.bounds, akin.config, alsoAkin.arena, alsoAkin.bounds, alsoAkin.config]
    exact kin.alike was alsoWas same

/-- The first buffer of a creation has no kin. -/
theorem addFirst (kin : store.Kin) (buffers : after.buffers = store.buffers.add buffer)
    (origin : buffer.origin = store.buffers.next) (offset : buffer.offset = 0) : after.Kin := by
  have apart : ∀ {id other}, store.buffers.get? id = some other →
      other.origin ≠ buffer.origin := by
    intro id other live
    rw [origin]
    exact Nat.ne_of_lt (Nat.lt_of_le_of_lt (kin.older live) (Table.lt_next_of_get? live))
  constructor
  · intro id other live
    rw [buffers, Table.get?_add] at live
    split at live
    · rename_i new
      cases live
      exact Nat.le_of_eq (origin.trans new.symm)
    · exact kin.older live
  · intro id other live own
    rw [buffers, Table.get?_add] at live
    split at live
    · cases live
      exact offset
    · exact kin.whole live own
  · intro first second one another live also same
    rw [buffers, Table.get?_add] at live also
    split at live <;> split at also
    · cases live
      cases also
      exact ⟨rfl, rfl, rfl⟩
    · cases live
      exact absurd same (apart also)
    · cases also
      exact absurd same.symm (apart live)
    · exact kin.alike live also same

/-- A window is kin to what it is a window on. -/
theorem addView (kin : store.Kin) (buffers : after.buffers = store.buffers.add view)
    (live : store.buffers.get? parent = some source) (origin : view.origin = source.origin)
    (same : view.arena = source.arena ∧ view.bounds = source.bounds ∧
      view.config = source.config) : after.Kin := by
  have earlier : view.origin < store.buffers.next := by
    rw [origin]
    exact Nat.lt_of_le_of_lt (kin.older live) (Table.lt_next_of_get? live)
  obtain ⟨arena, bounds, config⟩ := same
  constructor
  · intro id other also
    rw [buffers, Table.get?_add] at also
    split at also
    · rename_i new
      cases also
      exact Nat.le_of_lt (new ▸ earlier)
    · exact kin.older also
  · intro id other also own
    rw [buffers, Table.get?_add] at also
    split at also
    · rename_i new
      cases also
      exact absurd (own.trans new) (Nat.ne_of_lt earlier)
    · exact kin.whole also own
  · intro first second one another firstLive secondLive related
    rw [buffers, Table.get?_add] at firstLive secondLive
    split at firstLive <;> split at secondLive
    · cases firstLive
      cases secondLive
      exact ⟨rfl, rfl, rfl⟩
    · cases firstLive
      rw [arena, bounds, config]
      exact kin.alike live secondLive (related.trans origin)
    · cases secondLive
      rw [arena, bounds, config]
      exact kin.alike firstLive live (origin.symm.trans related)
    · exact kin.alike firstLive secondLive related

end Store.Kin

open Store in
theorem Step.kin (step : Step warrant store after) (kin : store.Kin) : after.Kin := by
  have kept : ∀ {later : Store}, later.buffers = store.buffers → later.Kin := fun same =>
    kin.of_older fun live => ⟨_, same ▸ live, .refl⟩
  cases step with
  | create granted fresh => exact kin.addFirst rfl fresh.origin fresh.offset
  | leaseFresh granted serving served valid none => exact kin.addFirst rfl rfl rfl
  | leaseIdle granted served valid taken reserved => exact kin.addFirst rfl rfl rfl
  | derive named live accessible derived =>
      cases derived <;> exact kin.addView rfl live rfl ⟨rfl, rfl, rfl⟩
  | place named live moved =>
      exact kin.of_older fun also => BuffersChanged.older_update live moved.akin also
  | resize named live allowed accessible resized =>
      refine kin.of_older fun also => ?_
      rw [mapBuffer, emitGrowth_frame.2.2.1] at also
      exact BuffersChanged.older_update live Buffer.akin_withCapacity also
  | vacate named live unleased =>
      exact kin.of_older fun also => ⟨_, Covered.windows_vacate also, .refl⟩
  | reclaim named live leased =>
      refine kin.of_older fun also => ?_
      rw [buffers_reclaim] at also
      exact ⟨_, Covered.windows_vacate also, .refl⟩
  | drain served => exact kept buffers_drainKey
  | free named live frees => exact kept buffers_free
  | _ => exact kept rfl

theorem Store.Reachable.kin (reachable : store.Reachable) : store.Kin := by
  refine reachable.induction ?_ Step.kin
  have none : ∀ {id}, initial.buffers.get? id = none := fun {id} =>
    Table.get?_eq_none_of_next_le (Nat.zero_le id)
  constructor <;> intros <;> simp_all

/-- The window that an operation opens on a buffer. -/
def BufferCommand.window? (buffer : Buffer) : BufferCommand → Option Buffer
  | .slice => some (buffer.sliced buffer.readerIndex buffer.readableBytes)
  | .sliceRange index length => some (buffer.sliced index length)
  | .duplicate => some buffer.duplicated
  | _ => none

theorem BufferCommand.start_of_window? {request : BufferCommand}
    (opens : request.window? source = some view) :
    ∃ start, request.start? source = some start ∧ view.origin = source.origin ∧
      view.offset = source.offset + start := by
  cases request with
  | slice =>
      cases opens
      exact ⟨_, rfl, rfl, rfl⟩
  | sliceRange index length =>
      cases opens
      exact ⟨_, rfl, rfl, rfl⟩
  | duplicate =>
      cases opens
      exact ⟨_, rfl, rfl, rfl⟩
  | _ => cases opens

/-- What an operation that opens a window does: it fails, or it adds the window. -/
inductive Opened (store : Store) (view : Buffer) : Store → Prop
  | refused : Opened store view store
  | added : Opened store view (store.addBuffer view)

namespace Action

variable {index length : Nat}

theorem opened_sliceRange (live : store.buffers.get? id = some source) :
    Opened store (source.sliced index length) (runOn (sliceRange id index length) store).2 := by
  simp only [sliceRange, runOn_bind, runOn_inspect live]
  cases source.checkAccessible (store.arena source.arena) with
  | error error => exact .refused
  | ok _ =>
      simp only [mapError_ok, runOn_inspect live]
      cases source.checkRange index length with
      | error error => exact .refused
      | ok _ =>
          simp only [mapError_ok, runOn_buffer live, runOn_newBuffer]
          exact .added

theorem opened_slice (live : store.buffers.get? id = some source) :
    Opened store (source.sliced source.readerIndex source.readableBytes)
      (runOn (slice id) store).2 := by
  simp only [slice, runOn_bind, runOn_buffer live]
  exact opened_sliceRange live

theorem opened_duplicate (live : store.buffers.get? id = some source) :
    Opened store source.duplicated (runOn (duplicate id) store).2 := by
  simp only [duplicate, runOn_bind, runOn_inspect live]
  cases source.checkAccessible (store.arena source.arena) with
  | error error => exact .refused
  | ok _ =>
      simp only [mapError_ok, runOn_buffer live, runOn_newBuffer]
      exact .added

end Action

namespace Store

variable {request : BufferCommand} {command : Command}

theorem opened_run (asks : request.IsView) (live : store.buffers.get? parent = some source) :
    ∃ view, request.window? source = some view ∧
      Opened store view (store.run (.onBuffer parent request)).2 := by
  unfold run
  cases request with
  | slice =>
      refine ⟨_, rfl, ?_⟩
      change Opened store _ (Action.runOn (Action.slice parent >>= _) store).2
      rw [Action.after_bind_pure]
      exact Action.opened_slice live
  | sliceRange index length =>
      refine ⟨_, rfl, ?_⟩
      change Opened store _ (Action.runOn (Action.sliceRange parent index length >>= _) store).2
      rw [Action.after_bind_pure]
      exact Action.opened_sliceRange live
  | duplicate =>
      refine ⟨_, rfl, ?_⟩
      change Opened store _ (Action.runOn (Action.duplicate parent >>= _) store).2
      rw [Action.after_bind_pure]
      exact Action.opened_duplicate live
  | _ => exact asks.elim

/-- What an operation that opens a window makes is that window. -/
theorem Makes.window? (makes : store.Makes (.onBuffer parent request) id) (asks : request.IsView)
    (was : store.buffers.get? parent = some source)
    (live : (store.run (.onBuffer parent request)).2.buffers.get? id = some buffer) :
    request.window? source = some buffer := by
  obtain ⟨view, opens, opened⟩ := opened_run asks was
  generalize (store.run (.onBuffer parent request)).2 = after at opened live
  cases opened with
  | refused =>
      rw [makes.1] at live
      contradiction
  | added =>
      rcases Table.get?_add_cases live with ⟨_, rfl⟩ | old
      · exact opens
      · rw [makes.1] at old
        contradiction

/-- A window begins at its index into what it is opened on; all else that is made begins at 0. -/
theorem Reachable.made (reachable : store.Reachable) (makes : store.Makes command id)
    (live : (store.run command).2.buffers.get? id = some buffer) :
    ((∀ parent, ¬ command.Views parent) ∧ buffer.origin = id ∧ buffer.offset = 0) ∨
      ∃ parent request source start, command = .onBuffer parent request ∧
        store.buffers.get? parent = some source ∧ request.start? source = some start ∧
        buffer.origin = source.origin ∧ buffer.offset = source.offset + start := by
  rcases makes.origin live with ⟨foreign, origin⟩ | ⟨parent, source, ⟨request, rfl, asks⟩, was, _⟩
  · exact .inl ⟨foreign, origin, reachable.run.kin.whole live origin⟩
  · obtain ⟨start, starts, place⟩ := BufferCommand.start_of_window? (makes.window? asks was live)
    exact .inr ⟨parent, request, source, start, rfl, was, starts, place⟩

end Store

namespace Descent

variable {commands : List Command} {root : BufferId} {base : Nat}

theorem lt_next (descent : Descent commands id root base) :
    id < (Store.initial.after commands).buffers.next := by
  induction descent with
  | root foreign made =>
      rw [Store.after_concat]
      exact made.lt_next
  | view live starts made descent ih =>
      rw [Store.after_concat]
      exact made.lt_next
  | later descent ih =>
      rw [Store.after_concat]
      exact Nat.lt_of_lt_of_le ih Store.steps_run.next_le

/-- The buffer that a live buffer descends from is its origin, and its base is its offset. -/
theorem eq_offset (descent : Descent commands id root base)
    (live : (Store.initial.after commands).buffers.get? id = some buffer) :
    root = buffer.origin ∧ base = buffer.offset := by
  induction descent generalizing buffer with
  | @root commands command id foreign made =>
      have reachable : (Store.initial.after commands).Reachable := ⟨_, rfl⟩
      rw [Store.after_concat] at live
      rcases reachable.made made live with ⟨_, origin, offset⟩ | ⟨parent, request, source, start,
        rfl, _, starts, _⟩
      · exact ⟨origin.symm, offset.symm⟩
      · exact absurd ⟨request, rfl, BufferCommand.isView_of_start? starts⟩ (foreign parent)
  | @view commands request source parent id root base start was starts made descent ih =>
      have reachable : (Store.initial.after commands).Reachable := ⟨_, rfl⟩
      obtain ⟨origin, offset⟩ := ih was
      rw [Store.after_concat] at live
      rcases reachable.made made live with ⟨foreign, _⟩ | ⟨_, _, again, index, same, also, begins,
        fromOrigin, fromOffset⟩
      · exact absurd ⟨request, rfl, BufferCommand.isView_of_start? starts⟩ (foreign parent)
      · cases same
        cases was.symm.trans also
        cases starts.symm.trans begins
        exact ⟨origin.trans fromOrigin.symm, by rw [fromOffset, offset]⟩
  | @later commands command id root base descent ih =>
      rw [Store.after_concat] at live
      obtain ⟨earlier, was, akin⟩ := Store.steps_run.older descent.lt_next live
      rw [akin.origin, akin.offset]
      exact ih was

theorem of_live (live : (Store.initial.after commands).buffers.get? id = some buffer) :
    Descent commands id buffer.origin buffer.offset := by
  induction commands using List.reverseRecOn generalizing id buffer with
  | nil =>
      rw [Store.after_nil, Table.get?_eq_none_of_next_le (Nat.zero_le id)] at live
      contradiction
  | append_singleton commands command ih =>
      have reachable : (Store.initial.after commands).Reachable := ⟨_, rfl⟩
      rw [Store.after_concat] at live
      -- A buffer that was there before has kept its place; any other is made by the command.
      by_cases known : id < (Store.initial.after commands).buffers.next
      · obtain ⟨earlier, was, akin⟩ := Store.steps_run.older known live
        rw [akin.origin, akin.offset]
        exact .later (ih was)
      · have made : (Store.initial.after commands).Makes command id :=
          ⟨Table.get?_eq_none_of_next_le (Nat.le_of_not_lt known), by rw [live]; rfl⟩
        rcases reachable.made made live with ⟨foreign, origin, offset⟩ |
          ⟨parent, request, source, start, rfl, was, starts, origin, offset⟩
        · rw [origin, offset]
          exact .root foreign made
        · rw [origin, offset]
          exact .view was starts made (ih was)

theorem iff_offset (live : (Store.initial.after commands).buffers.get? id = some buffer) :
    Descent commands id root base ↔ root = buffer.origin ∧ base = buffer.offset := by
  refine ⟨fun descent => descent.eq_offset live, ?_⟩
  rintro ⟨rfl, rfl⟩
  exact .of_live live

end Descent

end CursorBuffers
