import PageFlip.Failure.Flip
import PageFlip.Flip.Token
import PageFlip.Log.Level

/-!
# Notices

What the parts of the library have to say to a log: one constructor for each occasion, with its
level, the part that speaks and the text.
-/

namespace PageFlip

/-- A part of the library that speaks to the log. -/
inductive Speaker
  | barrier
  | queue
  | swap
  | screen
  | device
  | log
deriving DecidableEq

/-- Something worth a line in the log. -/
inductive Notice
  /-- A framebuffer could not be given up. -/
  | leaked (fb : Framebuffer) (cause : DeviceError)
  /-- The hardware reported a flip that was aborted before. -/
  | lateEvent (token : Token)
  /-- A swap failed. -/
  | swapFailed (cause : SwapError)
  /-- A swap reached only some of its pipes. -/
  | swapIncomplete (reached targeted : Nat) (cause : SwapError)
  /-- There was no token for a flip. -/
  | noToken
  /-- A flip is submitted again after the channel was full. -/
  | retried
  /-- A flip could not be queued. -/
  | flipFailed (cause : SwapError)
  /-- A pipe was disabled while a flip on it was being queued. -/
  | pipeLost (crtc : Crtc)
  /-- A controller that is to be disabled drives no pipe of the screen. -/
  | unknownDisabled (crtc : Crtc)
  /-- A controller that is to be enabled drives no pipe of the screen. -/
  | unknownEnabled (crtc : Crtc)
  /-- Flips were aborted because their pipe was disabled. -/
  | flipsAborted (count : Nat) (crtc : Crtc)
  /-- The hardware reported a flip that carries no token. -/
  | tokenless (crtc : Crtc)
deriving DecidableEq

namespace Notice

/-- How severe the occasion is. -/
def level : Notice → Log.Level
  | .leaked .. => .error
  | .lateEvent _ | .pipeLost _ | .flipsAborted .. | .tokenless _ => .debug
  | .swapFailed _ | .swapIncomplete .. | .noToken | .retried | .flipFailed _
  | .unknownDisabled _ | .unknownEnabled _ => .warn

/-- The part that speaks. -/
def speaker : Notice → Speaker
  | .leaked .. => .barrier
  | .lateEvent _ => .queue
  | .swapFailed _ | .swapIncomplete .. | .noToken | .retried | .flipFailed _ | .pipeLost _ => .swap
  | .unknownDisabled _ | .unknownEnabled _ | .flipsAborted .. => .screen
  | .tokenless _ => .device

/-- What is said. -/
def text : Notice → String
  | .leaked fb e => s!"Could not delete framebuffer {fb}: {e.explanation.full}"
  | .lateEvent token => s!"Dropping late event for aborted sequence {token}"
  | .swapFailed e => s!"Page flip failed: {e.explanation.full}"
  | .swapIncomplete reached targeted e =>
    s!"Page flip only reached {reached} of {targeted} pipes: {e.explanation.full}"
  | .noToken => "flip queue: could not allocate a sequence"
  | .retried => "flip queue retry"
  | .flipFailed e => s!"flip queue failed: {e.explanation.full}"
  | .pipeLost crtc => s!"Crtc {crtc} was disabled while queueing a page flip"
  | .unknownDisabled crtc => s!"Cannot disable unknown crtc {crtc}"
  | .unknownEnabled crtc => s!"Cannot enable unknown crtc {crtc}"
  | .flipsAborted count crtc => s!"Aborted {count} pending flips on crtc {crtc}"
  | .tokenless crtc => s!"Ignoring flip event on crtc {crtc} without a sequence token"

end Notice

end PageFlip
