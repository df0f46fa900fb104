import CursorBuffers.Config.Flags
import Mathlib.Data.List.TakeWhile

namespace CursorBuffers

namespace Text

variable {raw text middle front back : List Char} {c : Char}

/-- What is left of a text without the white space at both of its ends. -/
structure Trimmed (raw middle : List Char) : Prop where
  padded : ∃ front back, raw = front ++ middle ++ back ∧ (∀ c ∈ front, isBlank c = true) ∧
    ∀ c ∈ back, isBlank c = true
  first : ∀ c ∈ middle.head?, isBlank c = false
  last : ∀ c ∈ middle.getLast?, isBlank c = false

theorem trimStart_blank (blank : ∀ c ∈ front, isBlank c = true) : trimStart front = [] :=
  List.dropWhile_eq_nil_iff.mpr blank

theorem trimStart_append (blank : ∀ c ∈ front, isBlank c = true) :
    trimStart (front ++ text) = trimStart text :=
  List.dropWhile_append_of_pos blank

theorem trimStart_of_first (first : ∀ c ∈ text.head?, isBlank c = false) :
    trimStart text = text := by
  cases text with
  | nil => rfl
  | cons c rest => simp [trimStart, first c rfl]

theorem first_trimStart : ∀ c ∈ (trimStart text).head?, isBlank c = false := by
  intro c first
  have bare := List.head?_dropWhile_not isBlank text
  rw [trimStart] at first
  simpa [Option.mem_def.mp first] using bare

theorem exists_trimStart (text : List Char) :
    ∃ front, text = front ++ trimStart text ∧ ∀ c ∈ front, isBlank c = true :=
  ⟨text.takeWhile isBlank, List.takeWhile_append_dropWhile.symm,
    fun _ inside => List.mem_takeWhile_imp inside⟩

/-! The end of a text is the start of the text that is read backwards. -/

theorem trimEnd_eq_reverse : trimEnd text = (trimStart text.reverse).reverse := rfl

theorem trimEnd_append (blank : ∀ c ∈ back, isBlank c = true) :
    trimEnd (text ++ back) = trimEnd text := by
  rw [trimEnd_eq_reverse, List.reverse_append,
    trimStart_append fun c inside => blank c (List.mem_reverse.mp inside), trimEnd_eq_reverse]

theorem trimEnd_of_last (last : ∀ c ∈ text.getLast?, isBlank c = false) : trimEnd text = text := by
  rw [trimEnd_eq_reverse, trimStart_of_first (by rwa [List.head?_reverse]), List.reverse_reverse]

theorem exists_trimEnd (text : List Char) :
    ∃ back, text = trimEnd text ++ back ∧ ∀ c ∈ back, isBlank c = true := by
  obtain ⟨front, split, blank⟩ := exists_trimStart text.reverse
  refine ⟨front.reverse, ?_, fun c inside => blank c (List.mem_reverse.mp inside)⟩
  rw [trimEnd_eq_reverse, ← List.reverse_append, ← split, List.reverse_reverse]

/-- White space that is added at the ends of a text goes again. -/
theorem trim_padded (before : ∀ c ∈ front, isBlank c = true)
    (behind : ∀ c ∈ back, isBlank c = true) : trim (front ++ text ++ back) = trim text := by
  rw [trim, List.append_assoc, trimStart_append before]
  by_cases empty : trimStart text = []
  · have blank : trimStart (text ++ back) = [] := by
      rw [trimStart, List.dropWhile_append, ← trimStart, ← trimStart, empty]
      exact trimStart_blank behind
    rw [blank, trim, empty]
  · have kept : trimStart (text ++ back) = trimStart text ++ back := by
      rw [trimStart, List.dropWhile_append, ← trimStart, if_neg (by simpa using empty)]
    rw [kept, trimEnd_append behind, trim]

theorem trimmed_trim : Trimmed raw (trim raw) := by
  obtain ⟨front, split, before⟩ := exists_trimStart raw
  obtain ⟨back, also, behind⟩ := exists_trimEnd (trimStart raw)
  refine ⟨⟨front, back, ?_, before, behind⟩, fun c first => ?_, fun c last => ?_⟩
  · rw [trim, List.append_assoc, ← also, ← split]
  · -- What is cut off at the end does not reach the first character.
    have head : c ∈ (trimStart raw).head? := by
      rw [also, List.head?_append, show (trimEnd (trimStart raw)).head? = some c from first]
      rfl
    exact first_trimStart c head
  · rw [trim, trimEnd_eq_reverse, List.getLast?_reverse] at last
    exact first_trimStart c last

theorem trim_eq_iff : trim raw = middle ↔ Trimmed raw middle := by
  constructor
  · rintro rfl
    exact trimmed_trim
  · rintro ⟨⟨front, back, rfl, before, behind⟩, first, last⟩
    rw [trim_padded before behind, trim, trimStart_of_first first, trimEnd_of_last last]

/-- From the first to the last ASCII letter there is no white space. -/
theorem isBlank_of_between (least : 65 ≤ c.toNat) (most : c.toNat ≤ 122) : isBlank c = false := by
  simp only [isBlank, Bool.or_eq_false_iff, Bool.and_eq_false_iff, decide_eq_false_iff_not,
    beq_eq_false_iff_ne]
  omega

theorem isBlank_toLower : isBlank c.toLower = isBlank c := by
  by_cases upper : 65 ≤ c.toNat ∧ c.toNat ≤ 90
  · have lowered : c.toLower.toNat = c.toNat + 32 := by
      have small : c.val.toNat ≤ 90 := upper.2
      have added : (c.val + 32).toNat = c.val.toNat + 32 := by
        rw [UInt32.toNat_add]
        exact Nat.mod_eq_of_lt (by simp; omega)
      have changed : c.toLower.val = c.val + 32 := congrArg Char.val (dif_pos upper)
      exact (congrArg UInt32.toNat changed).trans added
    rw [isBlank_of_between upper.1 (by omega), isBlank_of_between] <;> omega
  · have unchanged : c.toLower = c := dif_neg upper
    rw [unchanged]

theorem lower_trim : lower (trim raw) = trim (lower raw) := by
  have kept : (isBlank ∘ Char.toLower) = isBlank := funext fun c => isBlank_toLower
  have start : ∀ text, lower (trimStart text) = trimStart (lower text) := by
    intro text
    rw [lower, trimStart, trimStart, lower, List.dropWhile_map, kept]
  have reversed : ∀ text, lower text.reverse = (lower text).reverse := fun text => List.map_reverse
  rw [trim, trimEnd_eq_reverse, reversed, start, reversed, start, ← trimEnd_eq_reverse, trim]

end Text

namespace Flag

variable {raw other text name : String} {on : Bool} {lookup : String → Option String}
variable {error : MemoryError}

/-- The words for a flag. -/
def words (on : Bool) : List String := if on then onWords else offWords

theorem words_disjoint : ∀ text ∈ words true, text ∉ words false := by decide

/-- A text is another one with more white space around it and other cases of its letters. -/
def Respells (other raw : String) : Prop :=
  ∃ front recased back, other.toList = front ++ recased ++ back ∧
    (∀ c ∈ front, Text.isBlank c = true) ∧ (∀ c ∈ back, Text.isBlank c = true) ∧
    Text.lower recased = Text.lower raw.toList

/-- The form in which a text is compared: trimmed, and in lower case. -/
def Reads (raw text : String) : Prop :=
  ∃ middle, Text.Trimmed raw.toList middle ∧ text = String.ofList (Text.lower middle)

theorem reads_iff : Reads raw text ↔ text = normalised raw := by
  constructor
  · rintro ⟨middle, trimmed, rfl⟩
    rw [normalised, Text.trim_eq_iff.mpr trimmed]
  · rintro rfl
    exact ⟨_, Text.trimmed_trim, rfl⟩

theorem normalised_of_respells (respells : Respells other raw) :
    normalised other = normalised raw := by
  obtain ⟨front, recased, back, padded, before, behind, same⟩ := respells
  rw [normalised, normalised, padded, Text.trim_padded before behind, Text.lower_trim, same,
    Text.lower_trim]

theorem parse_eq_ok : parse name raw = .ok on ↔ normalised raw ∈ words on := by
  unfold parse
  split
  · rename_i yes
    cases on with
    | true => simp [words, yes]
    | false => simpa using words_disjoint _ yes
  · rename_i foreign
    split
    · rename_i no
      cases on with
      | true => simpa [words] using foreign
      | false => simpa [words] using no
    · rename_i also
      cases on with
      | true => simpa [words] using foreign
      | false => simpa [words] using also

theorem parse_eq_error : parse name raw = .error error ↔
    (∀ on, normalised raw ∉ words on) ∧ error = .illegalArgument (.flag name (normalised raw)) := by
  constructor
  · intro failed
    refine ⟨fun on word => ?_, ?_⟩
    · rw [parse_eq_ok.mpr word] at failed
      cases failed
    · simp only [parse] at failed
      split at failed
      · cases failed
      · split at failed
        · cases failed
        · exact (Except.error.inj failed).symm
  · rintro ⟨foreign, rfl⟩
    exact (if_neg (foreign true)).trans (if_neg (foreign false))

/-- What a variable sets its switch to. -/
inductive Sets (lookup : String → Option String) (name : String) : Bool → Prop
  | unset (absent : lookup name = none) : Sets lookup name false
  | set {raw text : String} {on : Bool} (found : lookup name = some raw) (reads : Reads raw text)
      (word : text ∈ words on) : Sets lookup name on

/-- A variable is set to a text that is read as `text`, and that is no word for a flag. -/
structure Misspells (lookup : String → Option String) (name text : String) : Prop where
  found : ∃ raw, lookup name = some raw ∧ Reads raw text
  foreign : ∀ on, text ∉ words on

theorem Sets.word (sets : Sets lookup name on) (found : lookup name = some raw)
    (reads : Reads raw text) : ∃ on, text ∈ words on := by
  cases sets with
  | unset absent =>
      rw [absent] at found
      cases found
  | set also known word =>
      cases also.symm.trans found
      rw [reads_iff.mp reads, ← reads_iff.mp known]
      exact ⟨on, word⟩

theorem exists_sets
    (spelt : ∀ raw text, lookup name = some raw → Reads raw text → ∃ on, text ∈ words on) :
    ∃ on, Sets lookup name on := by
  cases found : lookup name with
  | none => exact ⟨false, .unset found⟩
  | some raw =>
      have reads : Reads raw (normalised raw) := reads_iff.mpr rfl
      obtain ⟨on, word⟩ := spelt raw _ found reads
      exact ⟨on, .set found reads word⟩

theorem read_eq_ok : read lookup name = .ok on ↔ Sets lookup name on := by
  unfold read
  split
  · rename_i raw found
    rw [parse_eq_ok]
    constructor
    · exact fun word => .set found (reads_iff.mpr rfl) word
    · intro sets
      cases sets with
      | unset absent => rw [found] at absent; cases absent
      | set also reads word =>
          cases found.symm.trans also
          rwa [← reads_iff.mp reads]
  · rename_i absent
    constructor
    · rintro ⟨⟩
      exact .unset absent
    · intro sets
      cases sets with
      | unset _ => rfl
      | set found _ _ => rw [absent] at found; cases found

theorem read_eq_error : read lookup name = .error error ↔
    ∃ text, Misspells lookup name text ∧ error = .illegalArgument (.flag name text) := by
  unfold read
  split
  · rename_i raw found
    rw [parse_eq_error]
    constructor
    · rintro ⟨foreign, rfl⟩
      exact ⟨_, ⟨⟨raw, found, reads_iff.mpr rfl⟩, foreign⟩, rfl⟩
    · rintro ⟨text, ⟨⟨_, also, reads⟩, foreign⟩, rfl⟩
      cases found.symm.trans also
      rw [← reads_iff.mp reads]
      exact ⟨foreign, rfl⟩
  · rename_i absent
    constructor
    · rintro ⟨⟩
    · rintro ⟨text, ⟨⟨_, found, _⟩, _⟩, _⟩
      rw [absent] at found
      cases found

/-- A variable is what another one is, up to white space around its text and the case of letters. -/
def Resets : Option String → Option String → Prop := Option.Rel Respells

theorem read_of_resets {again : String → Option String}
    (resets : Resets (again name) (lookup name)) :
    read again name = read lookup name := by
  unfold read
  generalize again name = one at resets ⊢
  generalize lookup name = two at resets ⊢
  cases resets with
  | none => rfl
  | some respells => simp only [parse, normalised_of_respells respells]

end Flag

namespace MemoryConfig

open CursorBuffers.Flag

variable {lookup again : String → Option String} {config : MemoryConfig} {error : MemoryError}

/-- The variables, in the order in which they are read. -/
def variableNames : List String :=
  [checkBoundsVariable, checkAccessibleVariable, forceManagedVariable]

/-- The first of the variables that has no word for a flag is `name`, and `text` is what it has. -/
def FirstMisspelled (lookup : String → Option String) (name text : String) : Prop :=
  ∃ before after, variableNames = before ++ name :: after ∧
    (∀ earlier ∈ before, ∃ on, Sets lookup earlier on) ∧ Misspells lookup name text

theorem ofLookup_eq_ok : ofLookup lookup = .ok config ↔
    read lookup checkBoundsVariable = .ok config.checkBounds ∧
      read lookup checkAccessibleVariable = .ok config.checkAccessible ∧
      read lookup forceManagedVariable = .ok config.forceManaged := by
  obtain ⟨bounds, accessible, managed⟩ := config
  simp only [ofLookup, bind, Except.bind, pure, Except.pure]
  cases read lookup checkBoundsVariable with
  | error first => simp
  | ok one =>
      cases read lookup checkAccessibleVariable with
      | error second => simp
      | ok two => cases read lookup forceManagedVariable <;> simp

/-- Reading ends with the first variable that cannot be read. -/
theorem ofLookup_eq_error : ofLookup lookup = .error error ↔
    ∃ before name after, variableNames = before ++ name :: after ∧
      (∀ earlier ∈ before, ∃ on, read lookup earlier = .ok on) ∧
      read lookup name = .error error := by
  constructor
  · intro failed
    simp only [ofLookup, bind, Except.bind, pure, Except.pure] at failed
    cases one : read lookup checkBoundsVariable with
    | error first =>
        refine ⟨[], checkBoundsVariable, _, rfl, by simp, ?_⟩
        simp_all
    | ok bounds =>
        cases two : read lookup checkAccessibleVariable with
        | error second =>
            refine ⟨[checkBoundsVariable], checkAccessibleVariable, _, rfl, by simp [one], ?_⟩
            simp_all
        | ok accessible =>
            refine ⟨[checkBoundsVariable, checkAccessibleVariable], forceManagedVariable, _, rfl,
              by simp [one, two], ?_⟩
            cases three : read lookup forceManagedVariable <;> simp_all
  · rintro ⟨before, name, after, split, earlier, failed⟩
    simp only [ofLookup, bind, Except.bind]
    rcases before with _ | ⟨first, _ | ⟨second, _ | ⟨third, rest⟩⟩⟩ <;>
      simp only [variableNames, List.nil_append, List.cons_append, List.cons.injEq] at split
    · obtain ⟨rfl, -⟩ := split
      rw [failed]
    · obtain ⟨rfl, rfl, -⟩ := split
      obtain ⟨bounds, one⟩ := earlier checkBoundsVariable (by simp)
      rw [one, failed]
    · obtain ⟨rfl, rfl, rfl, -⟩ := split
      obtain ⟨bounds, one⟩ := earlier checkBoundsVariable (by simp)
      obtain ⟨accessible, two⟩ := earlier checkAccessibleVariable (by simp)
      rw [one, two, failed]
    · exact absurd split.2.2.2 (by simp)

/-- A configuration is read exactly if every variable that is set has a word for a flag, and then
each switch is set by its own variable alone. If not, the first variable that has no such word is
named, and the text that was compared is quoted. White space at the ends of the texts and the case
of their ASCII letters change nothing, and no other variable matters. -/
theorem flags_read_exactly (lookup : String → Option String) :
    ((∃ config, ofLookup lookup = .ok config) ↔ ∀ name ∈ variableNames, ∀ raw text,
      lookup name = some raw → Reads raw text → ∃ on, text ∈ words on) ∧
    (∀ config, ofLookup lookup = .ok config ↔
      Sets lookup checkBoundsVariable config.checkBounds ∧
        Sets lookup checkAccessibleVariable config.checkAccessible ∧
        Sets lookup forceManagedVariable config.forceManaged) ∧
    (∀ error, ofLookup lookup = .error error ↔ ∃ name text,
      FirstMisspelled lookup name text ∧ error = .illegalArgument (.flag name text)) ∧
    ∀ again : String → Option String, (∀ name ∈ variableNames, Resets (again name) (lookup name)) →
      ofLookup again = ofLookup lookup := by
  have accepted : ∀ config, ofLookup lookup = .ok config ↔
      Sets lookup checkBoundsVariable config.checkBounds ∧
        Sets lookup checkAccessibleVariable config.checkAccessible ∧
        Sets lookup forceManagedVariable config.forceManaged := by
    intro config
    rw [ofLookup_eq_ok, read_eq_ok, read_eq_ok, read_eq_ok]
  refine ⟨⟨?_, fun spelt => ?_⟩, accepted, fun error => ?_, fun again resets => ?_⟩
  · rintro ⟨config, done⟩ name inside raw text found reads
    obtain ⟨bounds, accessible, managed⟩ := (accepted config).mp done
    simp only [variableNames, List.mem_cons, List.not_mem_nil, or_false] at inside
    rcases inside with rfl | rfl | rfl
    · exact bounds.word found reads
    · exact accessible.word found reads
    · exact managed.word found reads
  · obtain ⟨bounds, one⟩ := exists_sets (spelt checkBoundsVariable (by simp [variableNames]))
    obtain ⟨accessible, two⟩ :=
      exists_sets (spelt checkAccessibleVariable (by simp [variableNames]))
    obtain ⟨managed, three⟩ := exists_sets (spelt forceManagedVariable (by simp [variableNames]))
    exact ⟨⟨bounds, accessible, managed⟩, (accepted _).mpr ⟨one, two, three⟩⟩
  · rw [ofLookup_eq_error]
    constructor
    · rintro ⟨before, name, after, split, earlier, failed⟩
      obtain ⟨text, misspells, rfl⟩ := read_eq_error.mp failed
      refine ⟨name, text, ⟨before, after, split, fun other inside => ?_, misspells⟩, rfl⟩
      obtain ⟨on, done⟩ := earlier other inside
      exact ⟨on, read_eq_ok.mp done⟩
    · rintro ⟨name, text, ⟨before, after, split, earlier, misspells⟩, rfl⟩
      refine ⟨before, name, after, split, fun other inside => ?_,
        read_eq_error.mpr ⟨text, misspells, rfl⟩⟩
      obtain ⟨on, sets⟩ := earlier other inside
      exact ⟨on, read_eq_ok.mpr sets⟩
  · have same : ∀ name ∈ variableNames, read again name = read lookup name :=
      fun name inside => read_of_resets (resets name inside)
    simp only [ofLookup, same checkBoundsVariable (by simp [variableNames]),
      same checkAccessibleVariable (by simp [variableNames]),
      same forceManagedVariable (by simp [variableNames])]

/-- One variable is given with an ideographic space before it and in mixed case, one is not set, and
a variable that is not asked for is added. -/
theorem flags_read_exactly_padded : ∃ lookup again : String → Option String,
    lookup = (fun name =>
      List.lookup name [(checkBoundsVariable, "yes"), (forceManagedVariable, "off")]) ∧
    again = (fun name => List.lookup name [(checkBoundsVariable, "\u3000yEs\t"),
      (forceManagedVariable, "OFF"), ("SPARK_MEMORY", "maybe")]) ∧
    (∀ name ∈ variableNames, Resets (again name) (lookup name)) ∧
    ofLookup again = ofLookup lookup ∧ ofLookup again = .ok ⟨true, false, false⟩ := by
  let lookup (name : String) : Option String :=
    List.lookup name [(checkBoundsVariable, "yes"), (forceManagedVariable, "off")]
  let again (name : String) : Option String := List.lookup name
    [(checkBoundsVariable, "\u3000yEs\t"), (forceManagedVariable, "OFF"), ("SPARK_MEMORY", "maybe")]
  have resets : ∀ name ∈ variableNames, Resets (again name) (lookup name) := by
    intro name inside
    simp only [variableNames, List.mem_cons, List.not_mem_nil, or_false] at inside
    rcases inside with rfl | rfl | rfl
    · exact .some ⟨['\u3000'], ['y', 'E', 's'], ['\t'], by decide, by simp [Text.isBlank],
        by simp [Text.isBlank], by decide⟩
    · exact .none
    · exact .some ⟨[], ['O', 'F', 'F'], [], by decide, by simp, by simp, by decide⟩
  refine ⟨lookup, again, rfl, rfl, resets, (flags_read_exactly lookup).2.2.2 again resets, ?_⟩
  decide +kernel

end MemoryConfig

end CursorBuffers
