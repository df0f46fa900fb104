import CursorBuffers.Config.Memory

namespace CursorBuffers

/-- Whether a buffer checks an indexed access against its capacity. -/
inductive Bounds
  | checked
  | unchecked
  deriving DecidableEq

namespace Bounds

/-- Checks are off only if neither the request nor the configuration wants them. -/
def select (checking : Bool) (config : MemoryConfig) : Bounds :=
  if checking || config.checkBounds then .checked else .unchecked

def text : Bounds → String
  | .checked => "Checked"
  | .unchecked => "Unchecked"

end Bounds

end CursorBuffers
