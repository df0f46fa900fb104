import CursorBuffers.Config.Memory
import CursorBuffers.Error
import CursorBuffers.Text.Blank

/-!
The configuration as three variables, each with a flag in one of eight spellings. White space around
a flag and the case of its ASCII letters do not matter. A variable that is not set leaves its switch
off; of several bad ones the first is reported.
-/

namespace CursorBuffers

namespace Flag

def onWords : List String := ["true", "1", "yes", "on"]

def offWords : List String := ["false", "0", "no", "off"]

def normalised (raw : String) : String := String.ofList (Text.lower (Text.trim raw.toList))

def parse (name raw : String) : Except MemoryError Bool :=
  if normalised raw ∈ onWords then .ok true
  else if normalised raw ∈ offWords then .ok false
  else .error (.illegalArgument (.flag name (normalised raw)))

/-- The flag of a variable that may not be set. -/
def read (lookup : String → Option String) (name : String) : Except MemoryError Bool :=
  match lookup name with
  | some raw => parse name raw
  | none => .ok false

end Flag

namespace MemoryConfig

def checkBoundsVariable : String := "SPARK_MEMORY_CHECK_BOUNDS"

def checkAccessibleVariable : String := "SPARK_MEMORY_CHECK_ACCESSIBLE"

def forceManagedVariable : String := "SPARK_MEMORY_FORCE_MANAGED"

def ofLookup (lookup : String → Option String) : Except MemoryError MemoryConfig := do
  let checkBounds ← Flag.read lookup checkBoundsVariable
  let checkAccessible ← Flag.read lookup checkAccessibleVariable
  let forceManaged ← Flag.read lookup forceManagedVariable
  return ⟨checkBounds, checkAccessible, forceManaged⟩

/-- The same of an environment, whose values are bytes: one that is not UTF-8 counts as not set. -/
def ofEnvironment (lookup : String → Option Bytes) : Except MemoryError MemoryConfig :=
  ofLookup fun name => (lookup name).bind fun value => String.fromUTF8? ⟨value⟩

end MemoryConfig

end CursorBuffers
