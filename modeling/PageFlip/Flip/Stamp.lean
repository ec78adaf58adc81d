/-!
# Flip stamps

When a flip became visible: the count of vertical blanks and the time in microseconds.
-/

namespace PageFlip

/-- The vertical blank at which a flip completed. -/
structure Stamp where
  frame : UInt64
  usec : UInt64
deriving DecidableEq

end PageFlip
