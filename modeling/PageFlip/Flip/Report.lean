import PageFlip.Flip.Stamp
import PageFlip.Flip.Token

/-!
# Reports of the hardware

What the event channel delivers for a flip that was submitted before.
-/

namespace PageFlip

/-- The hardware's word on a flip. -/
inductive Report
  /-- The flip completed. -/
  | complete (token : Token) (stamp : Stamp)
  /-- The flip was given up. -/
  | abort (token : Token)
deriving DecidableEq

namespace Report

/-- The flip reported on. -/
def token : Report → Token
  | complete t _ => t
  | abort t => t

/-- When the flip completed; none if it was given up. -/
def stamp? : Report → Option Stamp
  | complete _ stamp => some stamp
  | abort _ => none

end Report

/-- What a look at the event channel found. -/
inductive Drained
  /-- Nothing was ready. -/
  | empty
  /-- A batch of so many reports was dispatched. -/
  | handled (count : Nat)
deriving DecidableEq

end PageFlip
