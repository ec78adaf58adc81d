import PageFlip.Session.Run

/-!
# Operations

How an operation begins (`Screen.start`) and how it goes on when it has the answer that it waited
for (`Screen.resume`).

A swap finds its slot and its reference pipe first, then has its framebuffer imported and installed,
and then queues one flip after the other on the enabled pipes that it is meant for. When the channel
is full it is read, so that the flip can be tried again: as often as the reads bring something, and
as often as the configuration says when they do not.
-/

namespace PageFlip

namespace Screen

/-- The position of the single target of a request, if it names a pipe. -/
def target? (s : Screen) (r : SwapRequest) : Option Nat :=
  match r.targets with
  | .all => none
  | .single vblank => s.pipeAt? vblank

/-- What is known of a swap before its framebuffer is imported. -/
def prepare (s : Screen) (r : SwapRequest) : Preparation :=
  let target := s.target? r
  let slot := (target.map pipeSlot).getD sharedSlot
  { request := r, target := target, slot := slot, displaced := s.held slot }

/-- The flags of the flips of a swap. -/
def flipFlags (s : Screen) (r : SwapRequest) : UInt32 :=
  if r.async && s.config.asyncFlips then Submission.reportFlag ||| Submission.asyncFlag
  else Submission.reportFlag

/-- The positions of the enabled pipes among those a swap is meant for. -/
def participants (s : Screen) (target : Option Nat) : List Nat :=
  (List.range s.pipes.length).filter fun i =>
    s.isEnabled i && (target.isNone || target == some i)

/-- The number among the vertical blanks of the pipe whose completion a swap reports. -/
def referenceOf (s : Screen) (p : Preparation) : Option UInt32 :=
  p.request.reference.or ((p.target.bind (s.pipes[·]?)).map Pipe.vblank)

/-- Installs the imported framebuffer of a swap and sets out to flip its pipes. -/
def launch (s : Screen) (p : Preparation) (fb : Framebuffer) : Progress Follow :=
  -- The framebuffer is in its slot before the first flip is tried: a handler that runs meanwhile
  -- finds it there.
  let s := s.assign p.slot fb
  let (id, s) := s.addSwap ⟨.new fb p.displaced, p.slot, p.request.client⟩
  let pipes := s.participants p.target
  s.work []
    (.fan ⟨id, fb, s.flipFlags p.request, s.referenceOf p, pipes.length, 0, pipes⟩)

/-- Goes on after the channel has accepted the flip of a swap. -/
def accepted (s : Screen) (a : Attempt) (now : Instant) : Progress Follow :=
  let s := match s.swaps[a.fanout.swap]? with
    | none => s
    | some w => s.setBarrier a.fanout.swap w.barrier.markSubmitted
  let s := s.setRegistry (s.registry.forgetPipe a.submission.crtc).2
  (s.setFlippedAt a.pipe now).work []
    (.fan { a.fanout with submitted := a.fanout.submitted + 1 })

/-- Goes on after a read of the channel that was made because the channel was full. -/
def afterRead (s : Screen) (a : Attempt) :
    Except ChannelError (Option (List Report)) → Progress Follow
  | .error e => s.fail a (.drain e)
  | .ok none =>
    if a.idle < s.config.maxIdleRetries.toNat then
      s.work [] (.retry { a with idle := a.idle + 1 })
    else
      s.fail a (.channelStalled a.submission.crtc)
  | .ok (some reports) => s.work [] (.dispatch reports (.retry { a with idle := 0 }))

/-- Goes on after a client's own read of the channel. -/
def afterDrain (s : Screen) : Except ChannelError (Option (List Report)) → Progress Follow
  | .error e => s.halt [] (.finished (.drained (.error e)))
  | .ok none => s.halt [] (.finished (.drained (.ok .empty)))
  | .ok (some reports) =>
    s.work [] (.dispatch reports (.finish (.drained (.ok (.handled reports.length)))))

/-- Hands out the events of a controller to abort them, and goes on as their number says. -/
def retirePipe (s : Screen) (crtc : Crtc) (next : Nat → Task) : Progress Follow :=
  let (events, r) := s.registry.retirePipe crtc
  (s.setRegistry r).work [] (.abort events (next events.length))

/-- Disables the pipe of a controller and aborts what is pending on it. -/
def disable (s : Screen) (crtc : Crtc) : Progress Follow :=
  match s.pipeOf? crtc with
  | none => s.halt [.unknownDisabled crtc] (.finished .done)
  | some i =>
    (s.setEnabled i false).retirePipe crtc fun n =>
      if 0 < n then .say (.flipsAborted n crtc) (.finish .done) else .finish .done

/-- Enables the pipe of a controller. -/
def enable (s : Screen) (crtc : Crtc) : Progress Follow :=
  match s.pipeOf? crtc with
  | none => s.halt [.unknownEnabled crtc] (.finished .done)
  | some i => (s.setEnabled i true).halt [] (.finished .done)

/-- The first part of an operation. -/
def start (s : Screen) : Operation → Progress Follow
  | .swap request => s.halt [] (.waiting (.importing (s.prepare request)))
  | .drain => s.halt [] (.waiting (.reading none))
  | .disable crtc => s.disable crtc
  | .enable crtc => s.enable crtc
  | .enqueue crtc client =>
    match s.enqueue crtc client with
    | none => s.halt [] (.finished (.enqueued none))
    | some (token, s) => s.halt [] (.finished (.enqueued (some token)))
  | .submit submission => s.halt [] (.waiting (.submitting submission))
  | .abortPipe crtc => s.retirePipe crtc fun n => .finish (.aborted n)
  | .resolve token stamp => s.resolve token stamp (.finish .done)
  | .settle flip stamp => s.settleFlip flip stamp (.finish .done)
  | .release id => s.release id (.finish .done)

/-- The next part of an operation that has its answer; none if the operation waits for something
else. -/
def resume (s : Screen) : Wait → Answer → Option (Progress Follow)
  | .importing p, .imported (.ok fb) => some (s.launch p fb)
  | .importing _, .imported (.error e) =>
    let e := SwapError.importFramebuffer e
    some (s.halt [.swapFailed e] (.finished (.swapped (.error e))))
  | .attempting a, .submitted (.ok ()) now => some (s.accepted a now)
  | .attempting a, .submitted (.error (.rejected e)) _ =>
    some (s.fail a (.submit a.submission.crtc e))
  | .attempting a, .submitted (.error .channelFull) _ =>
    some (s.halt [] (.waiting (.reading (some a))))
  | .submitting _, .submitted result _ => some (s.halt [] (.finished (.submitted result)))
  | .reading (some a), .read result => some (s.afterRead a result)
  | .reading none, .read result => some (s.afterDrain result)
  | .telling _ next, .returned => some (s.work [] next)
  | .destroying _ next, .destroyed (.ok ()) => some (s.work [] next)
  | .destroying fb next, .destroyed (.error e) => some (s.work [.leaked fb e] next)
  | _, _ => none

end Screen

end PageFlip
