import CursorBuffers.Bytes

/-!
Hexadecimal text. What stands for a byte is fixed here; the codec that writes and reads such text is
a parameter, of which no more is known than how it treats one byte or one pair of digits at a time.
-/

namespace CursorBuffers

namespace Text

/-- The ASCII white space that may stand between digits. -/
def isGap (c : Char) : Bool :=
  c == ' ' || c == '\t' || c == '\n' || c == '\x0c' || c == '\r'

def withoutGaps (text : String) : String := .ofList (text.toList.filter fun c => !isGap c)

/-- The bytes of a text. -/
def codes (text : String) : List UInt8 := text.toUTF8.data.toList

end Text

namespace Hex

/-- The digits in the order of their values. -/
def lowerCase : String := "0123456789abcdef"

def upperCase : String := "0123456789ABCDEF"

/-- A byte is a digit of either case. -/
def IsDigit (code : UInt8) : Prop := ∃ digits ∈ [lowerCase, upperCase], code ∈ Text.codes digits

/-- A byte is the digit with this value. -/
def Denotes (code : UInt8) (value : Nat) : Prop :=
  ∃ digits ∈ [lowerCase, upperCase], (Text.codes digits)[value]? = some code

instance {code : UInt8} : Decidable (IsDigit code) :=
  inferInstanceAs (Decidable (∃ digits ∈ [lowerCase, upperCase], code ∈ Text.codes digits))

instance {code : UInt8} {value : Nat} : Decidable (Denotes code value) :=
  inferInstanceAs (Decidable
    (∃ digits ∈ [lowerCase, upperCase], (Text.codes digits)[value]? = some code))

theorem isDigit_iff {code : UInt8} : IsDigit code ↔ ∃ value, Denotes code value := by
  simp only [IsDigit, Denotes, List.mem_iff_getElem?]
  constructor
  · rintro ⟨digits, either, value, found⟩
    exact ⟨value, digits, either, found⟩
  · rintro ⟨value, digits, either, found⟩
    exact ⟨digits, either, value, found⟩

theorem Denotes.lt {code : UInt8} {value : Nat} (denotes : Denotes code value) : value < 16 := by
  have short : ∀ digits ∈ [lowerCase, upperCase], (Text.codes digits).length = 16 := by decide
  obtain ⟨digits, either, found⟩ := denotes
  have inside := (List.getElem?_eq_some_iff.mp found).1
  rwa [short digits either] at inside

/-- The lower-case digit of a value. -/
def digit (value : Nat) : Char := lowerCase.toList.getD value '0'

/-- The digits of the two halves of a byte. -/
def digitPair (byte : UInt8) : List Char := [digit (byte.toNat / 16), digit (byte.toNat % 16)]

/-- Why a text is not a sequence of pairs of digits. -/
inductive Fault
  | oddLength
  | invalid (code : UInt8) (position : Nat)
  deriving DecidableEq

/-- The same fault if another pair stands before. -/
def Fault.behindPair : Fault → Fault
  | .oddLength => .oddLength
  | .invalid code position => .invalid code (position + 2)

/-- A codec of bytes as pairs of digits. -/
structure Codec where
  encode : Bytes → String
  /-- Decodes the bytes of a text. -/
  decode : List UInt8 → Except Fault Bytes
  /-- The wording of a fault. -/
  describe : Fault → String
  /-- Each byte is written as two digits, in lower case. -/
  encode_eq : ∀ bytes, (encode bytes).toList = bytes.toList.flatMap digitPair
  /-- The length is looked at first. -/
  decode_odd : ∀ codes, codes.length % 2 = 1 → decode codes = .error .oddLength
  decode_nil : decode [] = .ok #[]
  /-- A pair of digits, of either case, is one byte. -/
  decode_pair : ∀ high low first second codes bytes, Denotes high first → Denotes low second →
    decode codes = .ok bytes →
      decode (high :: low :: codes) = .ok (#[UInt8.ofNat (16 * first + second)] ++ bytes)
  /-- The digits are looked at from left to right, so that faults behind digits count last. -/
  decode_behind : ∀ high low codes fault, IsDigit high → IsDigit low →
    decode codes = .error fault → decode (high :: low :: codes) = .error fault.behindPair
  decode_high : ∀ high low codes, codes.length % 2 = 0 → ¬ IsDigit high →
    decode (high :: low :: codes) = .error (.invalid high 0)
  decode_low : ∀ high low codes, codes.length % 2 = 0 → IsDigit high → ¬ IsDigit low →
    decode (high :: low :: codes) = .error (.invalid low 1)

/-- Decodes a text, passing over the gaps between digits. -/
def Codec.read (codec : Codec) (text : String) : Except Fault Bytes :=
  codec.decode (Text.codes (Text.withoutGaps text))

end Hex

end CursorBuffers
