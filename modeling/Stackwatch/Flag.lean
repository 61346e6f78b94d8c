/-!
# Flags

A flag is changed only by whoever finds it in the opposite state, which makes starting and stopping
idempotent and lets several samplers agree on which of them is active.
-/

namespace Stackwatch

structure Flag where
  isSet : Bool := false
  deriving DecidableEq, Repr, Inhabited

namespace Flag

/-- Sets the flag; tells whether this changed it. -/
def set (flag : Flag) : Bool × Flag := (!flag.isSet, { isSet := true })

/-- Clears the flag; tells whether this changed it. -/
def unset (flag : Flag) : Bool × Flag := (flag.isSet, { isSet := false })

end Flag

end Stackwatch
