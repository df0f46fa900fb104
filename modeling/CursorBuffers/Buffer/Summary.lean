import CursorBuffers.Buffer.Bounds

namespace CursorBuffers

/-- Addresses are not numbers here: every address has the same text. -/
def addressText : String := "0xADDR"

/-- What is said of a buffer in one line, also inside error messages. -/
structure Summary where
  native : Bool
  bounds : Bounds
  readerIndex : Nat
  writerIndex : Nat
  capacity : Nat
  maxCapacity : Nat
  pooled : Bool
  freed : Bool
  deriving DecidableEq

namespace Summary

def place (summary : Summary) : String :=
  if summary.native then s!"native, address: {addressText}" else "managed"

def cursors (summary : Summary) : String :=
  s!"ridx: {summary.readerIndex}, widx: {summary.writerIndex}, " ++
    s!"cap: {summary.capacity}/{summary.maxCapacity}"

def text (summary : Summary) : String :=
  s!"Buffer({summary.place}, bounds: {summary.bounds.text}, {summary.cursors}, " ++
    s!"pooled: {summary.pooled}, freed: {summary.freed})"

end Summary

end CursorBuffers
