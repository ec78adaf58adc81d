import PageFlip.Kernel.EventRecord
import PageFlip.Kernel.Script

/-!
# The device node

A device node serves both as the device that registers framebuffers and as the event channel. Its
operations turn into calls to the kernel. Each returns the kernel as it is then, the calls that
were made, and its own result.
-/

namespace PageFlip.Kernel

/-- The result of an operation on the device node. -/
structure Answered (α : Type) where
  script : Script
  calls : List Call
  result : α

/-- The calls of one request that is made until its result is not transient. -/
def requestCalls (request : Request) (s : Settled Result) (fb : Framebuffer) : List Call :=
  (s.transient.map fun e => .request request (some e) .none) ++ [.request request s.result fb]

/-- Registers a buffer as a framebuffer. -/
def importFramebuffer (k : Script) (b : Buffer) : Answered (Except DeviceError Framebuffer) :=
  let s := settle k.imports
  let k := { k with imports := s.rest }
  match s.result with
  | none =>
    ⟨{ k with nextFb := ⟨k.nextFb.id + k.fbStep⟩ },
      requestCalls (.addFramebuffer b) s k.nextFb, .ok k.nextFb⟩
  | some e => ⟨k, requestCalls (.addFramebuffer b) s .none, .error (.addFramebuffer e)⟩

/-- Gives up a framebuffer. -/
def removeFramebuffer (k : Script) (fb : Framebuffer) : Answered (Except DeviceError Unit) :=
  let s := settle k.removals
  ⟨{ k with removals := s.rest }, requestCalls (.removeFramebuffer fb) s .none,
    match s.result with
    | none => .ok ()
    | some e => .error (.removeFramebuffer e)⟩

/-- What the result of a flip request says of the event channel. A busy device and a lack of memory
mean that the channel is full. -/
def submitResult : Result → Except SubmitError Unit
  | none => .ok ()
  | some e =>
    if e == .busy || e == .noMemory then .error .channelFull else .error (.rejected e)

/-- Submits a flip. -/
def submit (k : Script) (s : Submission) : Answered (Except SubmitError Unit) :=
  let settled := settle ((k.flips.find? s.crtc).getD [])
  ⟨{ k with flips := k.flips.insert s.crtc settled.rest }, requestCalls (.flip s) settled .none,
    submitResult settled.result⟩

/-- Whether the node can be read. -/
def pollReadable (k : Script) : Answered (Except ChannelError Bool) :=
  let s := settlePoll k.polls
  let waiting := !k.packets.isEmpty
  let readable := s.result == .ready || waiting
  ⟨{ k with polls := s.rest },
    (s.transient.map fun e => .poll (.failed e) waiting) ++ [.poll s.result readable],
    match s.result with
    | .failed e => .error (.poll e)
    | _ => .ok readable⟩

/-- The most bytes that are read at once. -/
def readSize : Nat := 1024

/-- Takes bytes from the first packet. What does not fit stays in front. -/
def takePacket (packets : List (List UInt8)) : List UInt8 × List (List UInt8) :=
  match packets with
  | [] => ([], [])
  | p :: rest =>
    (p.take readSize, if p.length ≤ readSize then rest else p.drop readSize :: rest)

/-- Reads bytes, at most `readSize`. -/
def read (k : Script) : Answered (Except Errno (List UInt8)) :=
  match k.reads with
  | some e :: rest => ⟨{ k with reads := rest }, [.read readSize (.error e)], .error e⟩
  | scripted =>
    let (bytes, packets) := takePacket k.packets
    ⟨{ k with reads := scripted.drop 1, packets := packets },
      [.read readSize (.ok bytes.length)], .ok bytes⟩

/-- The records that a look at the event channel brought, and how it ended: whether anything was
ready, or why the channel could not be read. -/
structure Events where
  /-- The records read, up to the first malformed one. -/
  records : EventRecords
  outcome : Except ChannelError Bool

namespace Events

/-- Nothing was read. -/
def nothing (outcome : Except ChannelError Bool) : Events := ⟨⟨[], true⟩, outcome⟩

/-- What was read from some bytes. -/
def ofBytes (bytes : List UInt8) : Events :=
  let records := EventRecords.ofBytes bytes
  ⟨records, if records.intact then .ok true else .error .invalidRead⟩

/-- The reports for the reader of the channel. After an error there are none. -/
def answer (e : Events) : Except ChannelError (Option (List Report)) :=
  e.outcome.map fun ready => if ready then some e.records.reports else none

end Events

/-- Reads the events that are ready. -/
def readEvents (k : Script) : Answered Events :=
  let polled := pollReadable k
  match polled.result with
  | .error e => ⟨polled.script, polled.calls, .nothing (.error e)⟩
  | .ok false => ⟨polled.script, polled.calls, .nothing (.ok false)⟩
  | .ok true =>
    let r := read polled.script
    ⟨r.script, polled.calls ++ r.calls,
      match r.result with
      | .ok bytes => .ofBytes bytes
      | .error e => if e = .again then .nothing (.ok false) else .nothing (.error (.read e))⟩

/-- The descriptor of the node. -/
def descriptor : Nat := 500

/-- The device node in words. -/
def describe : String := s!"DrmDevice \x7b fd: {descriptor} \x7d"

end PageFlip.Kernel
