import PageFlip.Rehearsal.Stub
import PageFlip.Session.Basic

/-!
# The steps of a rehearsal

A rehearsal is a script for the client of a screen: what it does, and what it does in reply when
one of its handlers is told an outcome or while the channel is taking a flip. `weight` bounds the
number of steps that are ever carried out.
-/

namespace PageFlip.Rehearsal

open Kernel (Result Poll)

mutual

/-- A step under the name that the record of the rehearsal gives it. -/
inductive Cue
  | mk (name : String) (step : Step)

/-- What the client does. -/
inductive Step
  /-- Ask for a swap; the handlers are the steps to take on its success and on its abort. -/
  | swap (request : SwapRequest) (onSuccess onAbort : List Cue)
  /-- Dispatch the reports that are ready. -/
  | drain
  /-- Add to the channel's replies for a controller. -/
  | script (crtc : Crtc) (replies : List Reply)
  /-- Add to the device's script for imports. -/
  | scriptImports (results : List Result)
  /-- Add to the device's script for removals. -/
  | scriptRemovals (results : List Result)
  /-- Add to the channel's script for polls. -/
  | scriptPolls (polls : List Poll)
  /-- Add to the channel's script for reads. -/
  | scriptReads (results : List Result)
  /-- Let the hardware report on a token, by default on the last one that it accepted on the
  controller. -/
  | report (token : Option UInt64) (crtc : Crtc) (stamp : Stamp) (abort : Bool)
  /-- Let the kernel have bytes to be read. -/
  | packet (bytes : List UInt8)
  | disable (crtc : Crtc)
  | enable (crtc : Crtc)
  /-- Put a framebuffer into a slot. -/
  | assign (slot : Slot) (fb : Framebuffer)
  /-- Set whether a pipe is enabled, and nothing else. -/
  | setEnabled (pipe : Nat) (enabled : Bool)
  /-- Wait for so many events of the client's own, each with the same handlers. -/
  | enqueue (crtc : Crtc) (count : Nat) (onSuccess onAbort : List Cue)
  /-- Hand a flip to the channel. -/
  | submit (crtc : Crtc) (fb : Framebuffer) (flags : UInt32) (token : Option Token)
  /-- Resolve a token, with a stamp or by an abort. -/
  | resolve (token : Option Token) (stamp : Option Stamp)
  /-- Hand out the event of a token and leave it unresolved. -/
  | discard (token : Option Token)
  /-- Abort what is pending on a controller. -/
  | abortPipe (crtc : Crtc)
  /-- Look whether a token is pending. -/
  | contains (token : Option Token)
  /-- Forget a retired token. -/
  | forget (token : Option Token)
  /-- Forget the retired tokens of a controller. -/
  | forgetPipe (crtc : Crtc)
  | pipeAt (vblank : UInt32)
  | pipeOf (crtc : Crtc)
  /-- Look how long ago a flip was accepted on each pipe. -/
  | ages
  /-- Set the clock. -/
  | clock (now : Instant)
  /-- Set the level of the log. -/
  | level (level : Log.Level)
  | importFramebuffer (buffer : Buffer)
  | removeFramebuffer (fb : Framebuffer)
  /-- Look at the device node. -/
  | device
  /-- Set up the barrier of a swap from a framebuffer to the one in a slot. -/
  | newBarrier (slot : Slot) (old : Framebuffer) (onSuccess onAbort : List Cue)
  /-- Make a flip of a swap without registering it. -/
  | newFlip (swap : SwapId) (reference : Bool)
  /-- Resolve a flip that was made in this way. -/
  | settle (flip : Nat) (stamp : Option Stamp)
  /-- Look whether such a flip is a reference flip. -/
  | isReference (flip : Nat)
  | hold (swap : SwapId)
  | markSubmitted (swap : SwapId)
  | release (swap : SwapId)
  /-- Describe the barrier of a swap. -/
  | describe (swap : SwapId)

/-- The channel's reply to a flip: the steps that the client takes meanwhile, and the decision. -/
inductive Reply
  | mk (steps : List Cue) (decision : Except SubmitError Unit)

end

instance : Inhabited Step := ⟨.drain⟩

instance : Inhabited Cue := ⟨.mk "" default⟩

instance : Inhabited Reply := ⟨.mk [] (.ok ())⟩

mutual

/-- A bound on the number of steps under a cue. -/
def Cue.weight : Cue → Nat
  | .mk _ step => step.weight

/-- A bound on the number of steps under a step. -/
def Step.weight : Step → Nat
  | .swap _ onSuccess onAbort => 1 + Cue.weights onSuccess + Cue.weights onAbort
  | .newBarrier _ _ onSuccess onAbort => 1 + Cue.weights onSuccess + Cue.weights onAbort
  | .enqueue _ count onSuccess onAbort =>
    1 + count * (1 + Cue.weights onSuccess + Cue.weights onAbort)
  | .script _ replies => 1 + Reply.weights replies
  | _ => 1

/-- A bound on the number of steps under some cues. -/
def Cue.weights : List Cue → Nat
  | [] => 0
  | cue :: rest => cue.weight + Cue.weights rest

/-- A bound on the number of steps under a reply. -/
def Reply.weight : Reply → Nat
  | .mk steps _ => 1 + Cue.weights steps

/-- A bound on the number of steps under some replies. -/
def Reply.weights : List Reply → Nat
  | [] => 0
  | reply :: rest => reply.weight + Reply.weights rest

end

/-- What a step returns. -/
inductive Return
  | nothing
  | ok
  | flag (value : Bool)
  | count (n : Nat)
  | position (i : Option Nat)
  | token (token : Token)
  | field (raw : UInt64)
  | exhausted
  | invalidToken
  | noToken
  | noFlip
  | noBarrier
  | drained (drained : Drained)
  | swapFailed (cause : SwapError)
  | channelFailed (cause : ChannelError)
  | submitFailed (cause : SubmitError)
  | deviceFailed (cause : DeviceError)
  | framebuffer (fb : Framebuffer)
  | barrier (newFb : Framebuffer)
  | ages (ages : List (Option Nat))
  | device (description : String) (descriptor : Nat)
  | text (text : String)

/-- Something that happened during a step. -/
inductive Effect
  /-- The log took a notice. -/
  | notice (notice : Notice)
  /-- A rule was broken. -/
  | violation (violation : Violation)
  /-- A handler of the client was told. -/
  | told (news : News)
  /-- A step within this one began. -/
  | began (name : String)
  /-- A step within this one returned. -/
  | ended (result : Return)
  /-- Stub hardware noted an exchange. -/
  | stub (note : StubNote)
  /-- The kernel was called. -/
  | kernel (call : Kernel.Call)

end PageFlip.Rehearsal
