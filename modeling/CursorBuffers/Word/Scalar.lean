import CursorBuffers.Word.Basic

namespace CursorBuffers

inductive ScalarKind
  | unsigned (width : Width)
  | signed (width : Width)
  | float32
  | float64
  | flag
  deriving DecidableEq

def ScalarKind.width : ScalarKind → Width
  | .unsigned width => width
  | .signed width => width
  | .float32 => .four
  | .float64 => .eight
  | .flag => .one

/-- A typed value that a buffer reads and writes. Each kind is a word of its width seen in its own
way: integers in two's complement, floating-point numbers by their bits, and a flag that is written
as 0 or 1 and reads as true from every other byte than 0. -/
inductive Scalar
  | unsigned (width : Width) (value : Word width)
  | signed (width : Width) (value : Word width)
  | float32 (bits : Word .four)
  | float64 (bits : Word .eight)
  | flag (value : Bool)
  deriving DecidableEq

namespace Scalar

def kind : Scalar → ScalarKind
  | .unsigned width _ => .unsigned width
  | .signed width _ => .signed width
  | .float32 _ => .float32
  | .float64 _ => .float64
  | .flag _ => .flag

def toWord : (scalar : Scalar) → Word scalar.kind.width
  | .unsigned _ value => value
  | .signed _ value => value
  | .float32 bits => bits
  | .float64 bits => bits
  | .flag value => if value then 1#8 else 0#8

def ofWord : (kind : ScalarKind) → Word kind.width → Scalar
  | .unsigned width, word => .unsigned width word
  | .signed width, word => .signed width word
  | .float32, word => .float32 word
  | .float64, word => .float64 word
  | .flag, word => .flag (word != 0#8)

@[simp] theorem ofWord_toWord {scalar : Scalar} : ofWord scalar.kind scalar.toWord = scalar := by
  cases scalar with
  | flag value => cases value <;> rfl
  | _ => rfl

end Scalar

end CursorBuffers
