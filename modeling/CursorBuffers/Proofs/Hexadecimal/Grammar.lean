import CursorBuffers.Text.Hex

namespace CursorBuffers.Hex

/-- Pairs of digits, and the bytes that they denote. -/
inductive Pairs : List UInt8 → List UInt8 → Prop
  | nil : Pairs [] []
  | cons {high low : UInt8} {first second : Nat} {codes bytes : List UInt8}
      (left : Denotes high first) (right : Denotes low second) (rest : Pairs codes bytes) :
      Pairs (high :: low :: codes) (UInt8.ofNat (16 * first + second) :: bytes)

/-- Why codes are not pairs of digits: there is an odd number of them, or else this is the first
that is no digit. -/
inductive Faulty : List UInt8 → Fault → Prop
  | odd {codes : List UInt8} (odd : codes.length % 2 = 1) : Faulty codes .oddLength
  | invalid {before behind : List UInt8} {code : UInt8}
      (even : (before ++ code :: behind).length % 2 = 0)
      (digits : ∀ earlier ∈ before, IsDigit earlier) (stray : ¬ IsDigit code) :
      Faulty (before ++ code :: behind) (.invalid code before.length)

variable {codec : Codec} {codes bytes behind : List UInt8} {code : UInt8} {fault : Fault}

theorem Codec.decode_of_pairs (pairs : Pairs codes bytes) :
    codec.decode codes = .ok bytes.toArray := by
  induction pairs with
  | nil => exact codec.decode_nil
  | cons left right rest ih =>
      rw [codec.decode_pair _ _ _ _ _ _ left right ih]
      simp

/-- The first stray byte is reported, whichever place it has in its pair. -/
theorem Codec.decode_of_stray {before : List UInt8}
    (even : (before ++ code :: behind).length % 2 = 0)
    (digits : ∀ earlier ∈ before, IsDigit earlier) (stray : ¬ IsDigit code) :
    codec.decode (before ++ code :: behind) = .error (.invalid code before.length) := by
  -- As the codec goes on by pairs, the stray byte is the first or the second of one.
  match before with
  | [] =>
      cases behind with
      | nil => simp at even
      | cons low rest =>
          have less : rest.length % 2 = 0 := by
            simp only [List.nil_append, List.length_cons] at even
            omega
          exact codec.decode_high _ _ _ less stray
  | [high] =>
      have less : behind.length % 2 = 0 := by
        simp only [List.singleton_append, List.length_cons] at even
        omega
      exact codec.decode_low _ _ _ less (digits high List.mem_cons_self) stray
  | high :: low :: before =>
      have less : (before ++ code :: behind).length % 2 = 0 := by
        simp only [List.cons_append, List.length_cons] at even
        omega
      have later : codec.decode (before ++ code :: behind) =
          .error (.invalid code before.length) :=
        Codec.decode_of_stray less (fun earlier inside => digits earlier (by simp [inside])) stray
      exact codec.decode_behind _ _ _ _ (digits high List.mem_cons_self)
        (digits low (List.mem_cons_of_mem _ List.mem_cons_self)) later

theorem Codec.decode_of_faulty (faulty : Faulty codes fault) :
    codec.decode codes = .error fault := by
  cases faulty with
  | odd odd => exact codec.decode_odd _ odd
  | invalid even digits stray => exact Codec.decode_of_stray even digits stray

theorem Pairs.length (pairs : Pairs codes bytes) : codes.length = 2 * bytes.length := by
  induction pairs with
  | nil => rfl
  | cons left right rest ih =>
      simp only [List.length_cons, ih]
      omega

theorem exists_pairs {codes : List UInt8} (even : codes.length % 2 = 0)
    (digits : ∀ code ∈ codes, IsDigit code) :
    ∃ bytes, Pairs codes bytes := by
  match codes with
  | [] => exact ⟨[], .nil⟩
  | [high] => simp at even
  | high :: low :: rest =>
      obtain ⟨first, left⟩ := isDigit_iff.mp (digits high List.mem_cons_self)
      obtain ⟨second, right⟩ :=
        isDigit_iff.mp (digits low (List.mem_cons_of_mem _ List.mem_cons_self))
      have less : rest.length % 2 = 0 := by
        simp only [List.length_cons] at even
        omega
      obtain ⟨bytes, pairs⟩ := exists_pairs less fun code inside => digits code (by simp [inside])
      exact ⟨_, .cons left right pairs⟩

/-- Codes that are not pairs of digits have a first reason. -/
theorem exists_faulty (none : ¬ ∃ bytes, Pairs codes bytes) : ∃ fault, Faulty codes fault := by
  by_cases odd : codes.length % 2 = 1
  · exact ⟨.oddLength, .odd odd⟩
  · have even : codes.length % 2 = 0 := by omega
    cases found : codes.find? fun code => !IsDigit code with
    | none =>
        rw [List.find?_eq_none] at found
        exact absurd (exists_pairs even fun code inside => by simpa using found code inside) none
    | some code =>
        obtain ⟨stray, before, behind, rfl, digits⟩ := List.find?_eq_some_iff_append.mp found
        exact ⟨.invalid code before.length, .invalid even
          (fun earlier inside => by simpa using digits earlier inside) (by simpa using stray)⟩

/-- Whatever the codec, exactly the pairs of digits are decoded, in order. -/
theorem Codec.decode_eq_ok {content : Bytes} :
    codec.decode codes = .ok content ↔ Pairs codes content.toList := by
  constructor
  · intro decoded
    by_cases denotes : ∃ bytes, Pairs codes bytes
    · obtain ⟨bytes, pairs⟩ := denotes
      rw [decode_of_pairs pairs] at decoded
      cases decoded
      exact pairs
    · obtain ⟨fault, faulty⟩ := exists_faulty denotes
      rw [decode_of_faulty faulty] at decoded
      cases decoded
  · exact fun pairs => decode_of_pairs pairs

/-- Everything else fails for its first fault. -/
theorem Codec.decode_eq_error : codec.decode codes = .error fault ↔ Faulty codes fault := by
  constructor
  · intro failed
    have none : ¬ ∃ bytes, Pairs codes bytes := by
      rintro ⟨bytes, pairs⟩
      rw [decode_of_pairs pairs] at failed
      cases failed
    obtain ⟨also, faulty⟩ := exists_faulty none
    rw [decode_of_faulty faulty] at failed
    cases failed
    exact faulty
  · exact decode_of_faulty

section Texts

variable {text other : String} {content : Bytes}

theorem Codec.read_eq_ok : codec.read text = .ok content ↔
    Pairs (Text.codes (Text.withoutGaps text)) content.toList := Codec.decode_eq_ok

theorem Codec.read_eq_error : codec.read text = .error fault ↔
    Faulty (Text.codes (Text.withoutGaps text)) fault := Codec.decode_eq_error

/-! The digits of bytes. -/

/-- A digit that is written is no gap, and is one byte that denotes its value. -/
theorem digit_denotes {value : Nat} (small : value < 16) :
    Text.isGap (digit value) = false ∧
      String.utf8EncodeChar (digit value) = [(digit value).val.toUInt8] ∧
      Denotes (digit value).val.toUInt8 value := by
  have all : ∀ value < 16, Text.isGap (digit value) = false ∧
      String.utf8EncodeChar (digit value) = [(digit value).val.toUInt8] ∧
      Denotes (digit value).val.toUInt8 value := by decide
  exact all value small

theorem Pairs.digits {byte : UInt8} (rest : Pairs codes bytes) :
    Pairs (((digitPair byte).filter fun c => !Text.isGap c).flatMap String.utf8EncodeChar ++ codes)
      (byte :: bytes) := by
  have small : byte.toNat / 16 < 16 := Nat.div_lt_of_lt_mul byte.toNat_lt_size
  obtain ⟨first, firstCode, firstDenotes⟩ := digit_denotes small
  obtain ⟨second, secondCode, secondDenotes⟩ := digit_denotes (Nat.mod_lt byte.toNat (by decide))
  have pairs := Pairs.cons firstDenotes secondDenotes rest
  rw [Nat.div_add_mod, UInt8.ofNat_toNat] at pairs
  simpa [digitPair, first, second, firstCode, secondCode] using pairs

/-- A text in which gaps were put in and letters have changed their case. -/
inductive Respells : List Char → List Char → Prop
  | nil : Respells [] []
  | gap {gap : Char} {before after : List Char} (blank : Text.isGap gap = true)
      (rest : Respells before after) : Respells before (gap :: after)
  | letter {old new : Char} {before after : List Char} (same : old.toLower = new.toLower)
      (rest : Respells before after) : Respells (old :: before) (new :: after)

theorem toLower_eq_or {c : Char} : c.toLower = c ∨ 65 ≤ c.toNat ∧ c.toNat ≤ 90 := by
  by_cases upper : c.val ≥ 'A'.val ∧ c.val ≤ 'Z'.val
  · exact .inr upper
  · exact .inl (dif_neg upper)

/-- Neither a gap nor what a digit denotes depends on the case. -/
theorem toLower_digits {c : Char} : Text.isGap c.toLower = Text.isGap c ∧
    (String.utf8EncodeChar c.toLower).map Denotes = (String.utf8EncodeChar c).map Denotes := by
  -- The first capital letters denote what the small ones do, and the others denote nothing.
  have all : ∀ n < 91, 65 ≤ n → Text.isGap (Char.ofNat n).toLower = Text.isGap (Char.ofNat n) ∧
      String.utf8EncodeChar (Char.ofNat n).toLower = [(Char.ofNat n).toLower.val.toUInt8] ∧
      String.utf8EncodeChar (Char.ofNat n) = [(Char.ofNat n).val.toUInt8] ∧
      ∀ value < 16, Denotes (Char.ofNat n).toLower.val.toUInt8 value ↔
        Denotes (Char.ofNat n).val.toUInt8 value := by decide +kernel
  rcases toLower_eq_or with same | ⟨low, high⟩
  · rw [same]
    exact ⟨rfl, rfl⟩
  · have here := all c.toNat (Nat.lt_succ_of_le high) low
    rw [Char.ofNat_toNat] at here
    obtain ⟨gap, lower, code, same⟩ := here
    have denotes : Denotes c.toLower.val.toUInt8 = Denotes c.val.toUInt8 := by
      funext value
      exact propext ⟨fun denotes => (same value denotes.lt).mp denotes,
        fun denotes => (same value denotes.lt).mpr denotes⟩
    exact ⟨gap, by rw [lower, code, List.map_singleton, List.map_singleton, denotes]⟩

theorem Respells.digits {before after : List Char} (respells : Respells before after) :
    ((after.filter fun c => !Text.isGap c).flatMap String.utf8EncodeChar).map Denotes =
      ((before.filter fun c => !Text.isGap c).flatMap String.utf8EncodeChar).map Denotes := by
  induction respells with
  | nil => rfl
  | gap blank rest ih => rw [List.filter_cons_of_neg (by simp [blank]), ih]
  | @letter old new before after same rest ih =>
      have gap : Text.isGap new = Text.isGap old := by
        rw [← toLower_digits.1, ← same, toLower_digits.1]
      have code : (String.utf8EncodeChar new).map Denotes =
          (String.utf8EncodeChar old).map Denotes := by
        rw [← toLower_digits.2, ← same, toLower_digits.2]
      by_cases blank : Text.isGap old = true
      · rw [List.filter_cons_of_neg (by simp [gap, blank]),
          List.filter_cons_of_neg (by simp [blank]), ih]
      · rw [List.filter_cons_of_pos (by simp [gap, blank]),
          List.filter_cons_of_pos (by simp [blank]), List.flatMap_cons, List.flatMap_cons,
          List.map_append, List.map_append, ih, code]

end Texts

end CursorBuffers.Hex
