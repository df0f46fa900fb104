import CursorBuffers.Proofs.Blocks.Content

namespace CursorBuffers

/-- The content after some writes, each given by the place where it begins and by its bytes. -/
def Bytes.inscribed (content : Bytes) (writes : List (Nat × Bytes)) : Bytes :=
  writes.foldl (fun bytes write => bytes.splice write.1 write.2) content

theorem Bytes.inscribed_concat {content data : Bytes} {writes : List (Nat × Bytes)} {place : Nat} :
    content.inscribed (writes ++ [(place, data)]) = (content.inscribed writes).splice place data :=
  List.foldl_append

/-- In the course of the later commands these are the writes that went through by way of the buffers
that descend from `root`. Each begins at an index into a buffer, to which the base of that buffer is
added. -/
inductive Inscriptions (first : List Command) (root : BufferId) :
    List Command → List (Nat × Bytes) → Prop
  | nothing : Inscriptions first root [] []
  | wrote {later : List Command} {writes : List (Nat × Bytes)} {command : Command} {id : BufferId}
      {index base : Nat} {data : Bytes} {answer : Answer}
      (earlier : Inscriptions first root later writes)
      (range : (Store.initial.after (first ++ later)).Writes command id index data)
      (went : ((Store.initial.after (first ++ later)).run command).1 = .ok answer)
      (descent : Descent (first ++ later) id root base) :
      Inscriptions first root (later ++ [command]) (writes ++ [(base + index, data)])
  | spared {later : List Command} {writes : List (Nat × Bytes)} {command : Command}
      (earlier : Inscriptions first root later writes)
      (elsewhere : ∀ {id index data answer base},
        (Store.initial.after (first ++ later)).Writes command id index data →
        ((Store.initial.after (first ++ later)).run command).1 = .ok answer →
        ¬ Descent (first ++ later) id root base) :
      Inscriptions first root (later ++ [command]) writes

/-- A block that was wrapped in the buffer `root`, some commands later. -/
structure FixedBlock (first later : List Command) (root : BufferId) (arena : ArenaId)
    (content : Bytes) (store : Store) : Prop where
  /-- The buffers on the block are those that descend from `root`. -/
  tree : ∀ {id buffer}, store.buffers.get? id = some buffer →
    (buffer.arena = arena ↔ ∃ base, Descent (first ++ later) id root base)
  /-- The block is as long as it was. -/
  size : (store.arena arena).region.size = content.size
  /-- What was written to it can be told. -/
  recorded : ∃ writes, Inscriptions first root later writes
  /-- It has the bytes that it came with, but for what was written. -/
  bytes : ∀ {writes}, Inscriptions first root later writes →
    (store.arena arena).region = .native .host .external (content.inscribed writes)
  /-- Nothing was written behind its end. -/
  inside : ∀ {writes}, Inscriptions first root later writes →
    ∀ write ∈ writes, write.1 + write.2.size ≤ content.size
  /-- No buffer reaches behind its end. -/
  covers : ∀ {id buffer base}, store.buffers.get? id = some buffer →
    Descent (first ++ later) id root base → base + buffer.capacity ≤ content.size
  /-- An operation on one buffer that needs bytes behind the end fails, and changes nothing. -/
  beyond : ∀ {id buffer base request stop}, store.buffers.get? id = some buffer →
    Descent (first ++ later) id root base →
    BufferCommand.extent? buffer request = some stop → content.size < base + stop →
      ∃ failure, store.run (.onBuffer id request) = (.error failure, store)
  /-- A transfer of bytes from behind the end fails, and changes nothing unless it has made room in
  its target before; the block is what it was even then. -/
  source : ∀ {id other command length giver base},
    store.buffers.get? (TransferCommand.source id other command) = some giver →
    Descent (first ++ later) (command.source id other) root base →
    content.size < base + (command.sourceIndex giver + length) →
      ∃ failure after, store.run (.transfer id other command length) = (.error failure, after) ∧
        (after = store ∨
          command.growsFirst = true ∧ after = store.roomFor command id other length) ∧
        (after.arena arena).region = (store.arena arena).region
  /-- A transfer that needs bytes behind the end for its target fails, and changes nothing. -/
  target : ∀ {id other command length taker base},
    store.buffers.get? (TransferCommand.target id other command) = some taker →
    Descent (first ++ later) (command.target id other) root base →
    content.size < base + command.targetEnd taker length →
      ∃ failure, store.run (.transfer id other command length) = (.error failure, store)
  /-- The end of a buffer leaves the block alone. -/
  ended : ∀ {command}, Command.Ends command →
    ((store.run command).2.arena arena).region = (store.arena arena).region

/-- Memory that belongs to somebody else, with all the buffers of one creation and no others. -/
structure Store.Encased (store : Store) (root : BufferId) (arena : ArenaId) : Prop where
  known : arena < store.arenas.next
  made : root < store.buffers.next
  external : store.External arena
  family : ∀ {id buffer}, store.buffers.get? id = some buffer →
    (buffer.arena = arena ↔ buffer.origin = root)

variable {warrant : Warrant} {store after : Store} {root id : BufferId} {arena : ArenaId}
variable {buffer : Buffer}

/-- Nobody else comes to it: an arena that is used again belongs to a pool. -/
theorem Step.encased (step : Step warrant store after) (sound : store.Sound)
    (encased : store.Encased root arena) : after.Encased root arena where
  known := Nat.lt_of_lt_of_le encased.known step.arenas_next_le
  made := Nat.lt_of_lt_of_le encased.made step.buffers.next_le
  external := fun owned => encased.external ((step.region.isOwned encased.known).mp owned)
  family := by
    intro id buffer live
    cases step.joined sound.held with
    | nobody older =>
        obtain ⟨earlier, was, akin⟩ := older live
        rw [akin.arena, akin.origin]
        exact encased.family was
    | @first newcomer added origin offset role leased alone housed intact =>
        rw [added, Table.get?_add] at live
        split at live
        · cases live
          have another : buffer.origin ≠ root := origin ▸ Ne.symm (Nat.ne_of_lt encased.made)
          have apart : buffer.arena ≠ arena := by
            rintro rfl
            cases housed with
            | new here whole => exact Nat.ne_of_lt encased.known here
            | @reused registry entry rest taken here pooled =>
                have waits : entry ∈ store.idle :=
                  Store.mem_idle_of_mem_queue (Registry.mem_queue_of_poll taken)
                exact encased.external (sound.owned _ (.inr ⟨entry, waits, here⟩))
          exact iff_of_false apart another
        · exact encased.family live
    | window added named source derived arenas =>
        rw [added, Table.get?_add] at live
        split at live
        · cases live
          have alike := encased.family source
          cases derived <;> exact alike
        · exact encased.family live

namespace Store

variable {content data : Bytes} {config : MemoryConfig} {checking : Bool}
variable {first later : List Command} {command : Command} {writes : List (Nat × Bytes)}

theorem Reachable.encased_run (reachable : store.Reachable) (encased : store.Encased root arena) :
    (store.run command).2.Encased root arena := by
  have preserved : (store.run command).2.Sound ∧ (store.run command).2.Encased root arena :=
    steps_run.preserve (motive := fun later => later.Sound ∧ later.Encased root arena)
      ⟨reachable.sound, encased⟩
      fun step held => ⟨step.sound held.1, step.encased held.1 held.2⟩
  exact preserved.2

/-- A block that is wrapped is put on an arena of its own, with one buffer on the whole of it. -/
theorem run_wrapBlock
    (wrapped : (store.run (.wrap (.block content config) checking)).1 = .ok (.buffer root)) :
    root = store.buffers.next ∧ (store.run (.wrap (.block content config) checking)).2 =
      (store.addArena (.native .host .external content)).addBuffer
        (Buffer.full content.size checking config store.arenas.next store.buffers.next) := by
  simp only [run, Command.perform, WrapCommand.perform, Action.wrapBlock, Action.runOn_bind,
    Action.runOn_newArena, Action.runOn_check] at wrapped ⊢
  cases checked : content.checkBlock config with
  | error error =>
      rw [checked] at wrapped
      cases wrapped
  | ok _ =>
      rw [checked] at wrapped
      cases wrapped
      exact ⟨rfl, rfl⟩

theorem Reachable.encased_wrapBlock (reachable : store.Reachable)
    (wrapped : (store.run (.wrap (.block content config) checking)).1 = .ok (.buffer root)) :
    (store.run (.wrap (.block content config) checking)).2.Encased root store.arenas.next ∧
      ((store.run (.wrap (.block content config) checking)).2.arena store.arenas.next).region =
        .native .host .external content := by
  obtain ⟨rfl, done⟩ := run_wrapBlock wrapped
  have region : ((store.run (.wrap (.block content config) checking)).2.arena
      store.arenas.next).region = .native .host .external content := by
    rw [done, addBuffer_frame.2.1, arena_addArena, if_pos rfl]
  refine ⟨⟨?_, ?_, ?_, fun {id buffer} live => ?_⟩, region⟩
  · simp [done]
  · simp [done]
  · rw [External, region]
    exact id
  · rw [done, addBuffer, Table.get?_add] at live
    split at live
    · cases live
      exact iff_of_true rfl rfl
    · have old : store.buffers.get? id = some buffer := live
      have earlier : buffer.origin < store.buffers.next :=
        Nat.lt_of_le_of_lt (reachable.kin.older old) (Table.lt_next_of_get? old)
      exact iff_of_false (Nat.ne_of_lt (reachable.wellHeld.known old)) (Nat.ne_of_lt earlier)

theorem encased_after (encased : (initial.after first).Encased root arena) :
    (initial.after (first ++ later)).Encased root arena := by
  induction later using List.reverseRecOn with
  | nil => rwa [List.append_nil]
  | append_singleton later command ih =>
      rw [← List.append_assoc, after_concat]
      exact Reachable.encased_run ⟨_, rfl⟩ ih

/-- The buffers on it are those that descend from the first. -/
theorem Encased.descent (encased : (initial.after first).Encased root arena)
    (live : (initial.after first).buffers.get? id = some buffer) :
    buffer.arena = arena ↔ ∃ base, Descent first id root base := by
  rw [encased.family live]
  constructor
  · rintro rfl
    exact ⟨buffer.offset, .of_live live⟩
  · rintro ⟨base, descent⟩
    exact (descent.eq_offset live).1.symm

end Store

open Store in
/-- Each write through a buffer on the block puts its bytes in their place. -/
theorem Inscriptions.bytes {first later : List Command} {writes : List (Nat × Bytes)}
    {content : Bytes} (encased : (initial.after first).Encased root arena)
    (start : ((initial.after first).arena arena).region = .native .host .external content)
    (inscriptions : Inscriptions first root later writes) :
    ((initial.after (first ++ later)).arena arena).region =
        .native .host .external (content.inscribed writes) ∧
      (content.inscribed writes).size = content.size ∧
      ∀ write ∈ writes, write.1 + write.2.size ≤ content.size := by
  induction inscriptions with
  | nothing =>
      rw [List.append_nil]
      exact ⟨start, rfl, fun write none => absurd none List.not_mem_nil⟩
  | @wrote later writes command id index base data answer earlier range went descent ih =>
      obtain ⟨region, size, inside⟩ := ih
      have reachable : (initial.after (first ++ later)).Reachable := ⟨_, rfl⟩
      have still : (initial.after (first ++ later)).Encased root arena := encased_after encased
      obtain ⟨buffer, live⟩ := reachable.live_of_writes range went
      obtain ⟨_, place⟩ := descent.eq_offset live
      have lands : (initial.after (first ++ later)).Lands command arena (base + index) data :=
        ⟨id, index, buffer, answer, range, went, live, (still.descent live).mpr ⟨base, descent⟩,
          by rw [place]⟩
      obtain ⟨within, put⟩ := reachable.region_run_of_lands still.external lands
      rw [region] at within put
      have fits : base + index + data.size ≤ (content.inscribed writes).size := within
      rw [← List.append_assoc, after_concat, Bytes.inscribed_concat]
      refine ⟨put, (Bytes.size_splice fits).trans size, fun write member => ?_⟩
      rcases List.mem_append.mp member with old | new
      · exact inside write old
      · rw [List.mem_singleton.mp new, ← size]
        exact fits
  | @spared later writes command earlier elsewhere ih =>
      obtain ⟨region, size, inside⟩ := ih
      have reachable : (initial.after (first ++ later)).Reachable := ⟨_, rfl⟩
      have still : (initial.after (first ++ later)).Encased root arena := encased_after encased
      rw [← List.append_assoc, after_concat]
      refine ⟨(reachable.region_run_of_spared still.external still.known ?_).trans region, size,
        inside⟩
      rintro place data ⟨id, index, buffer, answer, range, went, live, here, _⟩
      obtain ⟨base, descent⟩ := (still.descent live).mp here
      exact elsewhere range went descent

theorem exists_inscriptions {first later : List Command} :
    ∃ writes, Inscriptions first root later writes := by
  induction later using List.reverseRecOn with
  | nil => exact ⟨[], .nothing⟩
  | append_singleton later command ih =>
      obtain ⟨writes, earlier⟩ := ih
      by_cases wrote : ∃ id index data answer base,
          (Store.initial.after (first ++ later)).Writes command id index data ∧
            ((Store.initial.after (first ++ later)).run command).1 = .ok answer ∧
            Descent (first ++ later) id root base
      · obtain ⟨id, index, data, answer, base, range, went, descent⟩ := wrote
        exact ⟨_, earlier.wrote range went descent⟩
      · refine ⟨_, earlier.spared fun range went descent => wrote ?_⟩
        exact ⟨_, _, _, _, _, range, went, descent⟩

open Store in
/-- In every run a block that was wrapped stays fixed. -/
theorem fixedBlock_after {before later : List Command} {content : Bytes} {config : MemoryConfig}
    {checking : Bool} {root : BufferId}
    (wrapped : ((initial.after before).run (.wrap (.block content config) checking)).1 =
      .ok (.buffer root)) :
    FixedBlock (before ++ [.wrap (.block content config) checking]) later root
      (initial.after before).arenas.next content
      (initial.after (before ++ [.wrap (.block content config) checking] ++ later)) := by
  have made := Reachable.encased_wrapBlock ⟨before, rfl⟩ wrapped
  rw [← after_concat] at made
  generalize before ++ [.wrap (.block content config) checking] = first at made ⊢
  generalize (initial.after before).arenas.next = arena at made ⊢
  obtain ⟨encased, start⟩ := made
  have reachable : (initial.after (first ++ later)).Reachable := ⟨_, rfl⟩
  have still : (initial.after (first ++ later)).Encased root arena := encased_after encased
  have recorded : ∃ writes, Inscriptions first root later writes := exists_inscriptions
  have size : ((initial.after (first ++ later)).arena arena).region.size = content.size := by
    obtain ⟨writes, inscriptions⟩ := recorded
    obtain ⟨region, size, _⟩ := inscriptions.bytes encased start
    rw [region]
    exact size
  have placed : ∀ {id buffer base}, (initial.after (first ++ later)).buffers.get? id = some buffer →
      Descent (first ++ later) id root base → buffer.arena = arena ∧ base = buffer.offset :=
    fun live descent => ⟨(still.descent live).mpr ⟨_, descent⟩, (descent.eq_offset live).2⟩
  constructor
  case tree => exact still.descent
  case size => exact size
  case recorded => exact recorded
  case bytes => exact fun inscriptions => (inscriptions.bytes encased start).1
  case inside => exact fun inscriptions => (inscriptions.bytes encased start).2.2
  case covers =>
    intro id buffer base live descent
    obtain ⟨rfl, rfl⟩ := placed live descent
    exact size ▸ reachable.covered.covers live
  case beyond =>
    intro id buffer base request stop live descent needs exceeds
    obtain ⟨rfl, rfl⟩ := placed live descent
    exact reachable.refused_beyond live still.external needs (size ▸ exceeds)
  case source =>
    intro id other command length giver base gives descent exceeds
    obtain ⟨rfl, rfl⟩ := placed gives descent
    obtain ⟨failure, after, failed, outcome⟩ :=
      reachable.refused_source gives still.external (size ▸ exceeds)
    refine ⟨failure, after, failed, outcome, ?_⟩
    rcases outcome with rfl | ⟨_, rfl⟩
    · rfl
    · exact madeRoom_roomFor.region_of_external still.external
  case target =>
    intro id other command length taker base takes descent exceeds
    obtain ⟨rfl, rfl⟩ := placed takes descent
    exact reachable.refused_target takes still.external (size ▸ exceeds)
  case ended => exact fun ends => region_run_of_ends ends

open Store in
/-- Of a block of eight bytes, four are asked for from the seventh on, to be appended to a slice of
the first four. The transfer fails, but the slice has grown to eight bytes. -/
theorem slice_grown_by_refused_transfer :
    ∃ commands, commands = [.wrap (.block #[0, 1, 2, 3, 4, 5, 6, 7] {}) true,
        .onBuffer 0 (.sliceRange 0 4)] ∧
      ∃ failure after, (initial.after commands).run (.transfer 0 1 (.getBytesTo 6) 4) =
          (.error failure, after) ∧
        (after.arena 0).region.bytes = #[0, 1, 2, 3, 4, 5, 6, 7] ∧
        ((initial.after commands).buffers.get? 1).map (·.capacity) = some 4 ∧
        (after.buffers.get? 1).map (·.capacity) = some 8 := by
  refine ⟨_, rfl, ?_⟩
  have wrapped : ((initial.after []).run
      (.wrap (.block #[0, 1, 2, 3, 4, 5, 6, 7] {}) true)).1 = .ok (.buffer 0) := by decide +kernel
  have fixed : FixedBlock _ [.onBuffer 0 (.sliceRange 0 4)] _ _ _ _ := fixedBlock_after wrapped
  have gives : (initial.after [.wrap (.block #[0, 1, 2, 3, 4, 5, 6, 7] {}) true,
      .onBuffer 0 (.sliceRange 0 4)]).buffers.get? (TransferCommand.source 0 1 (.getBytesTo 6)) =
        some (Buffer.full 8 true {} 0 0) := rfl
  have exceeds : 8 < 0 +
      (TransferCommand.sourceIndex (Buffer.full 8 true {} 0 0) (.getBytesTo 6) + 4) := by decide
  obtain ⟨failure, after, failed, _, kept⟩ := fixed.source gives (Descent.of_live gives) exceeds
  refine ⟨failure, after, failed, ?_, by decide +kernel, ?_⟩
  · refine (congrArg Region.bytes kept).trans ?_
    decide +kernel
  · have reached := congrArg (fun outcome => (outcome.2.buffers.get? 1).map (·.capacity)) failed
    rw [← reached]
    decide +kernel

open Store in
/-- Not every operation that needs bytes behind the end of a block leaves all buffers as they
were. -/
theorem refused_transfer_not_inert :
    ¬ ∀ (before later : List Command) (content : Bytes) (config : MemoryConfig) (checking : Bool)
      (root id other : BufferId) (command : TransferCommand) (length base : Nat) (giver : Buffer),
      ((initial.after before).run (.wrap (.block content config) checking)).1 =
        .ok (.buffer root) →
      (initial.after (before ++ [.wrap (.block content config) checking] ++ later)).buffers.get?
        (command.source id other) = some giver →
      Descent (before ++ [.wrap (.block content config) checking] ++ later)
        (command.source id other) root base →
      content.size < base + (command.sourceIndex giver + length) →
      ∀ named, (((initial.after (before ++ [.wrap (.block content config) checking] ++ later)).run
          (.transfer id other command length)).2.buffers.get? named).map (·.capacity) =
        ((initial.after (before ++ [.wrap (.block content config) checking] ++
          later)).buffers.get? named).map (·.capacity) := by
  intro inert
  have gives : (initial.after ([] ++ [.wrap (.block #[0, 1, 2, 3, 4, 5, 6, 7] {}) true] ++
      [.onBuffer 0 (.sliceRange 0 4)])).buffers.get?
        (TransferCommand.source 0 1 (.getBytesTo 6)) = some (Buffer.full 8 true {} 0 0) := rfl
  have same := inert [] [.onBuffer 0 (.sliceRange 0 4)] #[0, 1, 2, 3, 4, 5, 6, 7] {} true 0 0 1
    (.getBytesTo 6) 4 0 _ (by decide +kernel) gives (Descent.of_live gives) (by decide) 1
  revert same
  decide +kernel

end CursorBuffers
