import PageFlip.Display.Instant
import PageFlip.Display.Object

/-!
# Display pipes

A display pipe shows a framebuffer on an output. It has a place in the device's numbering of
vertical blanks, and it remembers when a flip was last accepted on it.
-/

namespace PageFlip

/-- One display pipe. -/
structure Pipe where
  crtc : Crtc
  /-- The pipe's number among the vertical blanks of the device. -/
  vblank : UInt32
  enabled : Bool
  /-- When a flip was last accepted on the pipe. -/
  flippedAt : Option Instant
deriving DecidableEq

namespace Pipe

/-- An enabled pipe on which no flip was accepted yet. -/
def new (crtc : Crtc) (vblank : UInt32) : Pipe := ⟨crtc, vblank, true, none⟩

/-- The nanoseconds that have passed at `now` since a flip was last accepted. -/
def flipAge (p : Pipe) (now : Instant) : Option Nat := p.flippedAt.map (·.age now)

/-- The time of the last accepted flip in milliseconds. -/
def flippedAtMsec (p : Pipe) : Option UInt64 := p.flippedAt.map Instant.msec

end Pipe

end PageFlip
