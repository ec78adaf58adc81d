import PageFlip.Rehearsal.Stage

/-!
# Exchanges with the hardware

What a session and its client ask of the hardware during a rehearsal, and how the client adds to
what the hardware is going to answer. Stub hardware and the kernel differ only here.
-/

namespace PageFlip.Rehearsal

/-- Ends the rehearsal because of a broken rule. -/
def violate {α : Type} (v : Violation) : Play α := do
  modify fun s => s.note [.violation v]
  throw (.violated v)

/-- Goes on with a value that may be refused because of a broken rule. -/
def obey {α : Type} (r : Except Violation α) : Play α :=
  match r with
  | .ok a => pure a
  | .error v => violate v

/-- Takes over what follows from a call or an answer. -/
def follow (turn : Turn) : Play Unit := do
  modify fun s => { s.say turn.notices with session := turn.session }
  match turn.session.violation with
  | some v => violate v
  | none => pure ()

/-- Lets the device import a buffer. -/
def importFramebuffer (b : Buffer) : Play (Except DeviceError Framebuffer) := do
  let s ← get
  match s.hardware with
  | .stub h =>
    let a := h.importFramebuffer b
    set { s.note (a.notes.map .stub) with hardware := .stub a.stub }
    pure a.result
  | .kernel k =>
    let a := Kernel.importFramebuffer k b
    set { s.note (a.calls.map .kernel) with hardware := .kernel a.script }
    pure a.result

/-- Lets the device give up a framebuffer. -/
def removeFramebuffer (fb : Framebuffer) : Play (Except DeviceError Unit) := do
  let s ← get
  match s.hardware with
  | .stub h =>
    let a := h.removeFramebuffer fb
    set { s.note (a.notes.map .stub) with hardware := .stub a.stub }
    pure a.result
  | .kernel k =>
    let a := Kernel.removeFramebuffer k fb
    set { s.note (a.calls.map .kernel) with hardware := .kernel a.script }
    pure a.result

/-- Lets the channel be read. -/
def readReports : Play (Except ChannelError (Option (List Report))) := do
  let s ← get
  match s.hardware with
  | .stub h =>
    let a := h.readReports
    set { s.note (a.notes.map .stub) with hardware := .stub a.stub }
    pure a.result
  | .kernel k =>
    let a := Kernel.readEvents k
    let s := s.note (a.calls.map .kernel)
    let s := s.say (a.result.records.tokenless.map .tokenless)
    set { s with hardware := .kernel a.script }
    pure a.result.answer

/-- What stub hardware notes about its decision on a flip. -/
def decisionNote : Except SubmitError Unit → StubNote
  | .ok () => .accepted
  | .error .channelFull => .full
  | .error (.rejected e) => .rejected e

/-- The channel's next reply to a flip on a controller; it accepts when its script has run out. -/
def nextReply (crtc : Crtc) : Play Reply := do
  let s ← get
  match s.replies.find? crtc with
  | some (reply :: rest) =>
    set { s with replies := s.replies.insert crtc rest }
    pure reply
  | _ => pure (.mk [] (.ok ()))

/-- Remembers what the channel decided on a flip. -/
def decided (s : Submission) (decision : Except SubmitError Unit) : Play Unit := do
  match decision with
  | .ok () => modify fun st => { st with accepted := st.accepted.insert s.crtc s.token }
  | .error _ => pure ()

/-- Makes tokens pending for a client's own events, each with the same handlers. -/
def enqueue (crtc : Crtc) (h : Handlers) : Nat → Return → Play Return
  | 0, last => pure last
  | n + 1, _ => do
    let (client, s) := (← get).addHandlers h
    match s.screen.enqueue crtc client with
    | none =>
      set s
      enqueue crtc h n .exhausted
    | some (token, screen) =>
      set ((s.edit fun _ => screen).see token)
      enqueue crtc h n (.token token)

/-- The result of a request to the kernel that a decision of the channel comes from. -/
def resultOf : Reply → Kernel.Result
  | .mk _ (.ok ()) => none
  | .mk _ (.error .channelFull) => some .busy
  | .mk _ (.error (.rejected e)) => if e.code = 0 then none else some e

/-- Adds to the replies of the channel for a controller. -/
def addReplies (s : Stage) (crtc : Crtc) (replies : List Reply) : Stage :=
  match s.hardware with
  | .stub _ =>
    { s with replies := s.replies.insert crtc ((s.replies.find? crtc).getD [] ++ replies) }
  | .kernel k =>
    let results := (k.flips.find? crtc).getD [] ++ replies.map resultOf
    { s with hardware := .kernel { k with flips := k.flips.insert crtc results } }

/-- Adds to the scripts of the hardware: for imports, removals, polls and reads. -/
def addResults (s : Stage) (imports removals : List Kernel.Result) (polls : List Kernel.Poll)
    (reads : List Kernel.Result) : Stage :=
  match s.hardware with
  | .stub h =>
    { s with hardware := .stub { h with
        imports := h.imports ++ imports
        removals := h.removals ++ removals
        polls := h.polls ++ polls
        reads := h.reads ++ reads } }
  | .kernel k =>
    { s with hardware := .kernel { k with
        imports := k.imports ++ imports
        removals := k.removals ++ removals
        polls := k.polls ++ polls
        reads := k.reads ++ reads } }

/-- Lets bytes wait to be read. Stub hardware has no use for them. -/
def addPacket (s : Stage) (bytes : List UInt8) : Stage :=
  match s.hardware with
  | .stub _ => s
  | .kernel k => { s with hardware := .kernel { k with packets := k.packets ++ [bytes] } }

/-- Lets the hardware report on the token with a number. The kernel reports only completions. -/
def addReport (s : Stage) (raw : UInt64) (crtc : Crtc) (stamp : Stamp) (abort : Bool) :
    Return × Stage :=
  match s.hardware with
  | .kernel _ =>
    let record := EventRecord.ofFlip raw stamp.usec.toNat stamp.frame.toNat crtc.id.toNat
    (.field raw, addPacket s record.bytes)
  | .stub h =>
    match Token.ofUInt64? raw with
    | none => (.invalidToken, s)
    | some token =>
      let report := if abort then Report.abort token else .complete token stamp
      (.field raw, { s with hardware := .stub { h with queued := h.queued ++ [report] } })

/-- The barrier of a swap. -/
def barrierOf? (s : Stage) (id : SwapId) : Option Barrier :=
  (s.screen.swaps[id]?).map Swap.barrier

end PageFlip.Rehearsal
