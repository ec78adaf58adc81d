/-!
# Explanations

A failure is explained by its own message and the messages of what caused it, nearest cause
first. In full it reads as one line, the messages separated by a colon and a space.
-/

namespace PageFlip

/-- What there is to say about a failure. -/
structure Explanation where
  /-- What failed. -/
  message : String
  /-- Why it failed, nearest cause first. -/
  causes : List String

namespace Explanation

/-- A failure without a further cause. -/
def ofMessage (message : String) : Explanation := ⟨message, []⟩

/-- The failure of something because of the failure `cause`. -/
def because (message : String) (cause : Explanation) : Explanation :=
  ⟨message, cause.message :: cause.causes⟩

/-- The chain of failures with the given messages, the last one being the first cause. -/
def ofMessages : List String → Explanation
  | [] => ofMessage ""
  | message :: causes => ⟨message, causes⟩

/-- The message followed by those of its causes. -/
def full (e : Explanation) : String :=
  ": ".intercalate (e.message :: e.causes)

/-- An explanation that is only a message is written as the message. -/
theorem full_ofMessage (message : String) : (ofMessage message).full = message := by
  simp [full, ofMessage]

end Explanation

end PageFlip
