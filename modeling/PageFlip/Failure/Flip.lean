import PageFlip.Display.Object
import PageFlip.Failure.Errno

/-!
# Failures of flips and swaps

What can go wrong with the device that registers framebuffers, with the event channel, with a
single flip and with a whole swap. Each kind of failure has an `explanation` that ends in the
system's error number where there is one.
-/

namespace PageFlip

/-- A failure to register a framebuffer or to give one up. -/
inductive DeviceError
  | addFramebuffer (cause : Errno)
  | removeFramebuffer (cause : Errno)
deriving DecidableEq

/-- What there is to say about a failure of the device. -/
def DeviceError.explanation : DeviceError → Explanation
  | .addFramebuffer e => .because "Could not create a framebuffer" e.explanation
  | .removeFramebuffer e => .because "Could not delete a framebuffer" e.explanation

/-- A failure to read events. -/
inductive ChannelError
  | poll (cause : Errno)
  | read (cause : Errno)
  | invalidRead
deriving DecidableEq

/-- What there is to say about a failure to read events. -/
def ChannelError.explanation : ChannelError → Explanation
  | .poll e => .because "Could not poll the event channel" e.explanation
  | .read e => .because "Could not read from the event channel" e.explanation
  | .invalidRead => .ofMessage "Read invalid data from the event channel"

/-- A failure to submit a flip. -/
inductive SubmitError
  | channelFull
  | rejected (cause : Errno)
deriving DecidableEq

/-- What there is to say about a failure to submit a flip. -/
def SubmitError.explanation : SubmitError → Explanation
  | .channelFull => .ofMessage "The event channel is full"
  | .rejected e => .because "The page flip was rejected" e.explanation

/-- A failure of a swap, or of its flip on one pipe. -/
inductive SwapError
  | importFramebuffer (cause : DeviceError)
  | sequenceExhausted
  | submit (crtc : Crtc) (cause : Errno)
  | drain (cause : ChannelError)
  | channelStalled (crtc : Crtc)
  | noPipes
deriving DecidableEq

/-- What there is to say about a failed swap. -/
def SwapError.explanation : SwapError → Explanation
  | .importFramebuffer e => .because "Could not import the new framebuffer" e.explanation
  | .sequenceExhausted => .ofMessage "Could not allocate a flip sequence"
  | .submit crtc e => .because s!"Could not queue a page flip on crtc {crtc}" e.explanation
  | .drain e => .because "Could not drain the event channel" e.explanation
  | .channelStalled crtc =>
    .ofMessage s!"The event channel stayed full while queueing a page flip on crtc {crtc}"
  | .noPipes => .ofMessage "There are no enabled pipes to flip"

end PageFlip
