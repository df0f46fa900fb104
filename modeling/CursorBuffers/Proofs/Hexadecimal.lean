import CursorBuffers.Proofs.Hexadecimal.Grammar
import CursorBuffers.Proofs.Wrapping
import CursorBuffers.Text.Hex.Digitwise

namespace CursorBuffers

variable {store : Store} {id : BufferId} {buffer : Buffer} {allocator : Allocator}
variable {codec : Hex.Codec} {text : String} {content : Bytes} {fault : Hex.Fault}
variable {error : MemoryError} {checking : Bool}

namespace Store

theorem run_wrapHex_of_read (read : codec.read text = .ok content) :
    store.run (.wrap (.hex codec allocator text) checking) =
      store.run (.wrap (.bytes allocator content) checking) := by
  simp only [run, Command.perform, WrapCommand.perform, Action.wrapHex, read, Except.mapError,
    Action.check, pure_bind]

theorem run_wrapHex_of_faulty (faulty : codec.read text = .error fault) :
    store.run (.wrap (.hex codec allocator text) checking) =
      (.error (.memory (codec.refusal fault)), store) := by
  simp only [run, Command.perform, WrapCommand.perform, Action.wrapHex, faulty, Except.mapError,
    Action.runOn_bind, Action.runOn_check]

theorem run_wrapBytes_of_long (long : Bytes.lengthLimit < content.size) :
    store.run (.wrap (.bytes allocator content) checking) =
      (.error (.memory (.illegalArgument (.tooLarge content.size))), store) := by
  have checked : content.checkSize = .error (.illegalArgument (.tooLarge content.size)) :=
    if_neg (Nat.not_le.mpr long)
  simp only [run, Command.perform, WrapCommand.perform, Action.wrapBytes, checked,
    Action.runOn_bind, Action.runOn_check, Action.mapError_error]

/-- Why a text is not wrapped: it is not pairs of digits, or there are too many of them. -/
inductive Unwrappable (codec : Hex.Codec) (text : String) : MemoryError → Prop
  | faulty {fault : Hex.Fault} (faulty : Hex.Faulty (Text.codes (Text.withoutGaps text)) fault) :
      Unwrappable codec text (codec.refusal fault)
  | tooLarge {content : Bytes}
      (pairs : Hex.Pairs (Text.codes (Text.withoutGaps text)) content.toList)
      (long : Bytes.lengthLimit < content.size) :
      Unwrappable codec text (.illegalArgument (.tooLarge content.size))

theorem Unwrappable.run (unwrappable : Unwrappable codec text error) :
    store.run (.wrap (.hex codec allocator text) checking) = (.error (.memory error), store) := by
  cases unwrappable with
  | faulty faulty => exact run_wrapHex_of_faulty (Hex.Codec.read_eq_error.mpr faulty)
  | tooLarge pairs long =>
      rw [run_wrapHex_of_read (Hex.Codec.read_eq_ok.mpr pairs), run_wrapBytes_of_long long]

end Store

end CursorBuffers
