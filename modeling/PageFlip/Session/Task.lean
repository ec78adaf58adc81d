import PageFlip.Display.Buffer
import PageFlip.Flip.Report
import PageFlip.Log.Notice
import PageFlip.Screen.Basic

/-!
# Operations and their parts

An operation on a screen is carried out in tasks. A task either leads to another task, or it brings
the operation to rest: the operation is over, or it waits for the device, the event channel or a
handler of the client. While it waits, further operations may be started and carried out.

Tasks are chained: those that can be interrupted by a handler name the task to go on with.
-/

namespace PageFlip

/-- The pipes that take part in a swap. -/
inductive Targets
  /-- All enabled pipes. -/
  | all
  /-- Only the pipe with this number among the vertical blanks; all enabled pipes if there is
  none. -/
  | single (vblank : UInt32)
deriving DecidableEq

/-- A client's request to show a buffer. -/
structure SwapRequest where
  buffer : Buffer
  /-- Whether the flips need not wait for the refresh boundary. -/
  async : Bool
  targets : Targets
  /-- The pipe whose completion is reported, by its number among the vertical blanks. By default
  that of a swap's single target. -/
  reference : Option UInt32
  /-- Who is told the outcome. -/
  client : Client
deriving DecidableEq

/-- One flip as it is handed to the event channel. -/
structure Submission where
  crtc : Crtc
  fb : Framebuffer
  flags : UInt32
  token : Token
deriving DecidableEq

/-- The flag of a flip whose completion is to be reported. -/
def Submission.reportFlag : UInt32 := 1

/-- The flag of a flip that does not wait for the refresh boundary. -/
def Submission.asyncFlag : UInt32 := 2

/-- A swap whose framebuffer is being imported. -/
structure Preparation where
  request : SwapRequest
  /-- The position of the swap's single target, if it has one. -/
  target : Option Nat
  slot : Slot
  /-- The framebuffer that the slot held before. -/
  displaced : Framebuffer
deriving DecidableEq

/-- A swap whose flips are being queued, pipe after pipe. -/
structure Fanout where
  swap : SwapId
  fb : Framebuffer
  flags : UInt32
  /-- The pipe whose completion is reported, by its number among the vertical blanks. -/
  reference : Option UInt32
  /-- How many pipes the swap set out to flip. -/
  targeted : Nat
  /-- How many of them accepted their flip. -/
  submitted : Nat
  /-- The positions of the pipes to come. -/
  rest : List Nat
deriving DecidableEq

/-- The flip on one pipe while it is being queued. -/
structure Attempt where
  /-- The swap, with the pipes to come after this one. -/
  fanout : Fanout
  /-- The position of the pipe. -/
  pipe : Nat
  submission : Submission
  /-- How often in a row the channel was full and nothing was ready to be read. -/
  idle : Nat
deriving DecidableEq

/-- What a handler of the client is told: the stamp of a success, or nothing but the end. -/
inductive News
  /-- The outcome of a swap. -/
  | swap (client : Client) (stamp : Option Stamp)
  /-- The outcome of a single event. -/
  | event (client : Client) (stamp : Option Stamp)
deriving DecidableEq

/-- Who is told. -/
def News.client : News → Client
  | swap client _ => client
  | event client _ => client

/-- What an operation returns. -/
inductive Outcome
  | swapped (result : Except SwapError Unit)
  | drained (result : Except ChannelError Drained)
  | submitted (result : Except SubmitError Unit)
  | enqueued (token : Option Token)
  | aborted (count : Nat)
  | done

/-- A part of an operation that needs nobody else. -/
inductive Task
  /-- Go on to the next pipe of a swap. -/
  | fan (f : Fanout)
  /-- Submit a flip again, if its pipe still wants it. -/
  | retry (a : Attempt)
  /-- Give up the submitter's hold on a swap and report how far it came. -/
  | conclude (f : Fanout) (error : Option SwapError)
  /-- Dispatch reports of the hardware. -/
  | dispatch (reports : List Report) (next : Task)
  /-- Abort events that were handed out. -/
  | abort (events : List Event) (next : Task)
  /-- Give up the framebuffer that a swap leaves over. -/
  | reclaim (swap : SwapId) (verdict : Verdict) (next : Task)
  /-- Tell the log. -/
  | say (notice : Notice) (next : Task)
  /-- Return. -/
  | finish (outcome : Outcome)

/-- What an operation waits for. -/
inductive Wait
  /-- The device imports the framebuffer of a swap. -/
  | importing (p : Preparation)
  /-- The channel takes the flip of a swap. -/
  | attempting (a : Attempt)
  /-- The channel takes a flip of a client's own. -/
  | submitting (s : Submission)
  /-- The channel is read: for a full channel's sake by an attempt, or by a client. -/
  | reading (owner : Option Attempt)
  /-- A handler of the client runs. -/
  | telling (news : News) (next : Task)
  /-- The device gives up a framebuffer. -/
  | destroying (fb : Framebuffer) (next : Task)

/-- How an operation comes to rest. -/
inductive Rest
  | waiting (wait : Wait)
  | finished (outcome : Outcome)
  | violated (violation : Violation)

/-- What a client asks of a screen. -/
inductive Operation
  /-- Show a buffer. -/
  | swap (request : SwapRequest)
  /-- Dispatch the reports that are ready. -/
  | drain
  /-- Disable the pipe of a controller and abort the flips pending on it. -/
  | disable (crtc : Crtc)
  /-- Enable the pipe of a controller. -/
  | enable (crtc : Crtc)
  /-- Wait for an event of the client's own. -/
  | enqueue (crtc : Crtc) (client : Client)
  /-- Hand a flip of the client's own to the channel. -/
  | submit (submission : Submission)
  /-- Abort the flips pending on a controller. -/
  | abortPipe (crtc : Crtc)
  /-- Hand out the event of a token and resolve it, with a stamp or by an abort. -/
  | resolve (token : Token) (stamp : Option Stamp)
  /-- Resolve a flip that is in nobody's registry. -/
  | settle (flip : Flip) (stamp : Option Stamp)
  /-- Give up the submitter's hold on a swap. -/
  | release (swap : SwapId)
deriving DecidableEq

/-- What the device, the channel or the client says to a waiting operation. -/
inductive Answer
  | imported (result : Except DeviceError Framebuffer)
  /-- The channel's decision on a flip, and the time at which it came. -/
  | submitted (result : Except SubmitError Unit) (now : Instant)
  /-- The reports that were ready, or that nothing was. -/
  | read (result : Except ChannelError (Option (List Report)))
  /-- The client's handler is done. -/
  | returned
  | destroyed (result : Except DeviceError Unit)

namespace Task

/-- A bound on the number of tasks that follow on a task before the operation comes to rest. -/
def weight : Task → Nat
  | fan f => f.rest.length + 3
  | retry a => a.fanout.rest.length + 4
  | conclude .. => 2
  | dispatch reports next => reports.length + 1 + next.weight
  | abort events next => events.length + 1 + next.weight
  | reclaim _ _ next => 1 + next.weight
  | say _ next => 1 + next.weight
  | finish _ => 0

end Task

end PageFlip
