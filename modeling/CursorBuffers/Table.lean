/-!
Tables of numbered slots. What leaves a slot vacates it, and a vacated slot is never filled again,
so a number names at most one thing in the life of a table. The view of a table is `get?`: each
operation has one lemma that says what it does to it.
-/

namespace CursorBuffers

structure Table (α : Type) where
  slots : Array (Option α) := #[]

namespace Table

variable {α : Type} {table : Table α} {id other : Nat} {entry : α}

/-- The number that the next entry gets. -/
def next (table : Table α) : Nat := table.slots.size

def get? (table : Table α) (id : Nat) : Option α := table.slots[id]?.join

def add (table : Table α) (entry : α) : Table α := ⟨table.slots.push (some entry)⟩

/-- Changes the entry of an occupied slot; a vacated slot stays vacated. -/
def update (table : Table α) (id : Nat) (change : α → α) : Table α :=
  ⟨table.slots.modify id (Option.map change)⟩

def vacate (table : Table α) (id : Nat) : Table α := ⟨table.slots.modify id fun _ => none⟩

/-- The entries of the occupied slots, in the order of their numbers. -/
def entries (table : Table α) : List α := table.slots.toList.filterMap fun slot => slot

def count (table : Table α) (test : α → Bool) : Nat := table.entries.countP test

@[simp] theorem next_add : (table.add entry).next = table.next + 1 := by
  simp [next, add]

@[simp] theorem next_update {change : α → α} : (table.update id change).next = table.next := by
  simp [next, update]

@[simp] theorem next_vacate : (table.vacate id).next = table.next := by
  simp [next, vacate]

theorem get?_eq_none_of_next_le (beyond : table.next ≤ id) : table.get? id = none := by
  simp [get?, Array.getElem?_eq_none (show table.slots.size ≤ id from beyond)]

theorem lt_next_of_get? (occupied : table.get? id = some entry) : id < table.next := by
  rcases Nat.lt_or_ge id table.next with below | beyond
  · exact below
  · simp [get?_eq_none_of_next_le beyond] at occupied

theorem get?_add :
    (table.add entry).get? other =
      if other = table.next then some entry else table.get? other := by
  by_cases new : other = table.next <;>
    simp_all [get?, add, next, Array.getElem?_push]

@[simp] theorem get?_add_next : (table.add entry).get? table.next = some entry := by
  simp [get?_add]

theorem get?_add_of_get? (occupied : table.get? id = some entry) {added : α} :
    (table.add added).get? id = some entry := by
  rw [get?_add, if_neg (Nat.ne_of_lt (lt_next_of_get? occupied)), occupied]

theorem get?_add_cases {added other : α} (found : (table.add added).get? id = some other) :
    (id = table.next ∧ other = added) ∨ table.get? id = some other := by
  rw [get?_add] at found
  split at found
  · rename_i new
    cases found
    exact .inl ⟨new, rfl⟩
  · exact .inr found

theorem get?_update {change : α → α} :
    (table.update id change).get? other =
      if other = id then (table.get? id).map change else table.get? other := by
  by_cases same : other = id
  · subst same
    rw [if_pos rfl, get?, update, Array.getElem?_modify, if_pos rfl, get?]
    rcases table.slots[other]? with _ | (_ | _) <;> rfl
  · simp [get?, update, Array.getElem?_modify, same, Ne.symm same]

theorem get?_vacate :
    (table.vacate id).get? other = if other = id then none else table.get? other := by
  by_cases same : other = id
  · subst same
    rw [if_pos rfl, get?, vacate, Array.getElem?_modify, if_pos rfl]
    cases table.slots[other]? <;> rfl
  · simp [get?, vacate, Array.getElem?_modify, same, Ne.symm same]

theorem slots_split (occupied : table.get? id = some entry) :
    ∃ front back, table.slots.toList = front ++ some entry :: back ∧ front.length = id := by
  have found : table.slots.toList[id]? = some (some entry) := by
    simpa [get?, Option.join_eq_some_iff] using occupied
  obtain ⟨within, found⟩ := List.getElem?_eq_some_iff.mp found
  refine ⟨table.slots.toList.take id, table.slots.toList.drop (id + 1), ?_, ?_⟩
  · rw [← found, List.getElem_cons_drop, List.take_append_drop]
  · rw [List.length_take, Nat.min_eq_left (Nat.le_of_lt within)]

theorem mem_entries : entry ∈ table.entries ↔ ∃ id, table.get? id = some entry := by
  simp only [entries, List.mem_filterMap, Array.mem_toList_iff, Array.mem_iff_getElem?, get?]
  constructor
  · rintro ⟨slot, ⟨id, found⟩, rfl⟩
    exact ⟨id, by simp [found]⟩
  · rintro ⟨id, found⟩
    exact ⟨some entry, ⟨id, by simpa [Option.join_eq_some_iff] using found⟩, rfl⟩

theorem update_of_vacant {change : α → α} (vacant : table.get? id = none) :
    table.update id change = table := by
  simp only [get?, Option.join_eq_none_iff] at vacant
  simp only [update]
  congr 1
  apply Array.ext_getElem?
  intro index
  rw [Array.getElem?_modify]
  split
  · rename_i here
    subst here
    rcases vacant with absent | empty
    · simp [absent]
    · simp [empty]
  · rfl

theorem update_eq_of_get? {change : α → α} (occupied : table.get? id = some entry) :
    table.update id change = table.update id fun _ => change entry := by
  obtain ⟨front, back, slots, rfl⟩ := slots_split occupied
  simp only [update, mk.injEq]
  apply Array.toList_inj.mp
  simp [slots, List.modify_eq_take_cons_drop]

theorem update_comm {one another : α → α} (distinct : id ≠ other) :
    (table.update id one).update other another = (table.update other another).update id one := by
  simp only [update, mk.injEq]
  apply Array.ext_getElem?
  intro index
  simp only [Array.getElem?_modify]
  by_cases first : id = index
  · subst first
    simp [Ne.symm distinct]
  · simp [first]

theorem update_id : table.update id (fun entry => entry) = table := by
  simp only [update]
  congr 1
  apply Array.ext_getElem?
  intro index
  simp [Array.getElem?_modify]

theorem update_update {one another : α → α} :
    (table.update id one).update id another = table.update id (another ∘ one) := by
  simp only [update, mk.injEq]
  apply Array.ext_getElem?
  intro index
  simp only [Array.getElem?_modify]
  by_cases here : id = index
  · subst here
    simp
  · simp [here]

theorem update_add {change : α → α} (known : id < table.next) :
    (table.add entry).update id change = (table.update id change).add entry := by
  have within : id < table.slots.size := known
  simp only [update, add, mk.injEq]
  apply Array.ext_getElem?
  intro index
  simp only [Array.getElem?_modify, Array.getElem?_push, Array.size_modify]
  by_cases here : id = index
  · subst here
    simp [Nat.ne_of_lt within]
  · simp [here]

@[simp] theorem entries_add : (table.add entry).entries = table.entries ++ [entry] := by
  simp [entries, add]

/-- What becomes of the entries when one slot changes: the others stay where they are. -/
theorem entries_split (occupied : table.get? id = some entry) :
    ∃ front back, table.entries = front ++ entry :: back ∧
      (∀ change, (table.update id change).entries = front ++ change entry :: back) ∧
      (table.vacate id).entries = front ++ back := by
  obtain ⟨front, back, slots, rfl⟩ := slots_split occupied
  refine ⟨front.filterMap fun slot => slot, back.filterMap fun slot => slot, ?_, ?_, ?_⟩
  · simp [entries, slots]
  · intro change
    simp [entries, update, slots, List.modify_eq_take_cons_drop]
  · simp [entries, vacate, slots, List.modify_eq_take_cons_drop]

theorem count_eq_zero_iff {test : α → Bool} :
    table.count test = 0 ↔ ∀ id entry, table.get? id = some entry → test entry = false := by
  simp only [count, List.countP_eq_zero, mem_entries]
  constructor
  · intro none id entry occupied
    simpa using none entry ⟨id, occupied⟩
  · rintro none entry ⟨id, occupied⟩
    simp [none id entry occupied]

theorem count_congr {test also : α → Bool}
    (same : ∀ id entry, table.get? id = some entry → (test entry = true ↔ also entry = true)) :
    table.count test = table.count also := by
  refine List.countP_congr fun entry inside => ?_
  obtain ⟨id, occupied⟩ := mem_entries.mp inside
  exact same id entry occupied

@[simp] theorem count_add {test : α → Bool} :
    (table.add entry).count test = table.count test + if test entry then 1 else 0 := by
  simp [count, List.countP_singleton]

theorem count_update {test : α → Bool} {change : α → α} (occupied : table.get? id = some entry)
    (same : test (change entry) = test entry) :
    (table.update id change).count test = table.count test := by
  obtain ⟨front, back, entries, updated, _⟩ := entries_split occupied
  simp [count, entries, updated, List.countP_cons, same]

theorem count_vacate {test : α → Bool} (occupied : table.get? id = some entry) :
    table.count test = (table.vacate id).count test + if test entry then 1 else 0 := by
  obtain ⟨front, back, entries, _, vacated⟩ := entries_split occupied
  simp [count, entries, vacated, List.countP_cons, Nat.add_assoc]

/-- A test that counts at most one entry singles out a slot. -/
theorem eq_of_count_le_one {test : α → Bool} {second : α} (sole : table.count test ≤ 1)
    (occupied : table.get? id = some entry) (passes : test entry = true)
    (also : table.get? other = some second) (passesToo : test second = true) : other = id := by
  obtain ⟨front, back, entries, _, vacated⟩ := entries_split occupied
  by_cases same : other = id
  · exact same
  · have kept : (table.vacate id).get? other = some second := by
      rw [get?_vacate, if_neg same, also]
    have member : second ∈ front ++ back := vacated ▸ mem_entries.mpr ⟨other, kept⟩
    have positive : 0 < (front ++ back).countP test :=
      List.countP_pos_iff.mpr ⟨second, member, passesToo⟩
    have total : table.count test = (front ++ back).countP test + 1 := by
      simp [count, entries, passes]
      omega
    omega

end Table

end CursorBuffers
