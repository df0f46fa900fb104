import CursorBuffers.Text.Hex
import CursorBuffers.Text.Quoted

namespace CursorBuffers.Hex

variable {code high low : UInt8} {value : Nat} {codes : List UInt8}

def digitValue? (code : UInt8) : Option Nat :=
  if 48 ≤ code ∧ code ≤ 57 then some (code.toNat - 48)
  else if 65 ≤ code ∧ code ≤ 70 then some (code.toNat - 55)
  else if 97 ≤ code ∧ code ≤ 102 then some (code.toNat - 87)
  else none

theorem digitValue?_eq_some : digitValue? code = some value ↔ Denotes code value := by
  constructor
  · have all : ∀ n < 256, ∀ value ∈ digitValue? (UInt8.ofNat n), Denotes (UInt8.ofNat n) value := by
      decide +kernel
    have here := all code.toNat code.toNat_lt_size value
    rwa [UInt8.ofNat_toNat] at here
  · intro denotes
    have all : ∀ digits ∈ [lowerCase, upperCase], ∀ value < 16,
        ∀ code ∈ (Text.codes digits)[value]?, digitValue? code = some value := by decide +kernel
    obtain ⟨digits, either, found⟩ := id denotes
    exact all digits either value denotes.lt code found

theorem digitValue?_eq_none : digitValue? code = none ↔ ¬ IsDigit code := by
  rw [isDigit_iff, Option.eq_none_iff_forall_ne_some, not_exists]
  simp only [← digitValue?_eq_some, ne_eq]

/-- Decodes pair by pair. -/
def decodePairs : List UInt8 → Except Fault (List UInt8)
  | high :: low :: codes =>
      match digitValue? high, digitValue? low with
      | none, _ => .error (.invalid high 0)
      | some _, none => .error (.invalid low 1)
      | some first, some second =>
          match decodePairs codes with
          | .ok bytes => .ok (UInt8.ofNat (16 * first + second) :: bytes)
          | .error fault => .error fault.behindPair
  | _ => .ok []

def decodeDigits (codes : List UInt8) : Except Fault Bytes :=
  if codes.length % 2 = 1 then .error .oddLength
  else (decodePairs codes).map List.toArray

def Fault.text : Fault → String
  | .oddLength => "Odd number of digits"
  | .invalid code position =>
      s!"Invalid character {Text.quotedChar (Char.ofNat code.toNat)} at position {position}"

theorem decodeDigits_of_even (even : codes.length % 2 = 0) :
    decodeDigits (high :: low :: codes) =
      (decodePairs (high :: low :: codes)).map List.toArray := by
  refine if_neg ?_
  simp only [List.length_cons]
  omega

/-- The codec that decodes one digit after the other. -/
def Codec.digitwise : Codec where
  encode bytes := .ofList (bytes.toList.flatMap digitPair)
  decode := decodeDigits
  describe := Fault.text
  encode_eq _ := String.toList_ofList
  decode_odd _ odd := if_pos odd
  decode_nil := rfl
  decode_pair high low first second codes bytes left right decoded := by
    have even : codes.length % 2 = 0 := by
      refine (Nat.mod_two_eq_zero_or_one _).resolve_right fun odd => ?_
      rw [decodeDigits, if_pos odd] at decoded
      contradiction
    rw [decodeDigits, if_neg (by omega)] at decoded
    rw [decodeDigits_of_even even, decodePairs, digitValue?_eq_some.mpr left,
      digitValue?_eq_some.mpr right]
    cases rest : decodePairs codes with
    | error fault =>
        rw [rest] at decoded
        contradiction
    | ok found =>
        rw [rest] at decoded
        cases decoded
        simp [Except.map]
  decode_behind high low codes fault left right failed := by
    obtain ⟨first, left⟩ := isDigit_iff.mp left
    obtain ⟨second, right⟩ := isDigit_iff.mp right
    by_cases odd : codes.length % 2 = 1
    · rw [decodeDigits, if_pos odd] at failed
      cases failed
      refine if_pos ?_
      simp only [List.length_cons]
      omega
    · rw [decodeDigits, if_neg odd] at failed
      rw [decodeDigits_of_even (by omega), decodePairs, digitValue?_eq_some.mpr left,
        digitValue?_eq_some.mpr right]
      cases rest : decodePairs codes with
      | error found =>
          rw [rest] at failed
          cases failed
          rfl
      | ok found =>
          rw [rest] at failed
          contradiction
  decode_high high low codes even stray := by
    rw [decodeDigits_of_even even, decodePairs, digitValue?_eq_none.mpr stray]
    rfl
  decode_low high low codes even left stray := by
    obtain ⟨first, left⟩ := isDigit_iff.mp left
    rw [decodeDigits_of_even even, decodePairs, digitValue?_eq_some.mpr left,
      digitValue?_eq_none.mpr stray]
    rfl

/-- A vertical tab is no gap, and a letter of two bytes is as long as a pair. -/
example : Codec.digitwise.read "0\x0b" = .error (.invalid 11 1) ∧
    Codec.digitwise.read "0a é" = .error (.invalid 195 2) := ⟨rfl, rfl⟩

end CursorBuffers.Hex
