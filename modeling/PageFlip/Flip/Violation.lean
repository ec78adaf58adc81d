import PageFlip.Flip.Token

/-!
# Violations

Uses of the library, or reports of the hardware, that break the rules of exactly-once
resolution. A violation ends the session in which it happens.
-/

namespace PageFlip

/-- A broken rule of resolution. -/
inductive Violation
  /-- A token was resolved although no event is pending for it. -/
  | notPending (token : Token)
  /-- A flip was added to a swap that has its outcome. -/
  | heldAfterOutcome
  /-- A flip or the submitter's hold was resolved after the swap had its outcome. -/
  | resolvedAfterOutcome
  /-- The submitter released its hold a second time. -/
  | releasedTwice
deriving DecidableEq

/-- The message under which a violation is reported. -/
def Violation.message : Violation → String
  | .notPending token => s!"Sequence {token} was resolved but is not pending"
  | .heldAfterOutcome => "Cannot add a flip to a finalized swap"
  | .resolvedAfterOutcome => "A page flip was resolved after its swap was finalized"
  | .releasedTwice => "The local hold of a swap was released twice"

end PageFlip
