import PageFlip.Rehearsal.Exchange

/-!
# Performances

`rehearse` plays a script on a stage and returns, for each step, what it returned, what happened
and the stage behind it. A broken rule ends the performance.

A step may start an operation; while the operation waits, its waits are served by the hardware and
by the handlers of the client, which take further steps. All of it is bounded by the number of steps
in the script.
-/

namespace PageFlip.Rehearsal

/-- What an operation's outcome is to the step that asked for it. -/
def returned : Outcome → Return
  | .swapped (.ok ()) => .ok
  | .swapped (.error e) => .swapFailed e
  | .drained (.ok d) => .drained d
  | .drained (.error e) => .channelFailed e
  | .submitted (.ok ()) => .ok
  | .submitted (.error e) => .submitFailed e
  | .enqueued (some token) => .token token
  | .enqueued none => .exhausted
  | .aborted n => .count n
  | .done => .nothing

/-- Does something and puts its effects in the order of the clients that were told. When a rule is
broken meanwhile, the effects stay as they happened. -/
def arranging {α : Type} (p : Play α) : Play α := do
  let earlier := (← get).effects.length
  let a ← p
  modify fun s =>
    { s with effects := s.effects.take earlier ++ arrange (s.effects.drop earlier) }
  pure a

/-- Does something with a token, if there is one. -/
def withToken (token : Option Token) (p : Token → Play Return) : Play Return :=
  match token with
  | some t => p t
  | none => pure .invalidToken

/-- Does something with the barrier of a swap, if there is one. -/
def withBarrier (swap : SwapId) (p : Barrier → Play Return) : Play Return := do
  match barrierOf? (← get) swap with
  | some b => p b
  | none => pure .noBarrier

mutual

/-- Carries out an operation. -/
def operate (fuel : Nat) (op : Operation) : Play Outcome := do
  match fuel with
  | 0 => throw .exhausted
  | fuel + 1 => serve fuel ((← get).session.call op)

/-- Answers the operation started last until it is over. -/
def serve (fuel : Nat) (turn : Option Turn) : Play Outcome := do
  match fuel, turn with
  | fuel + 1, some turn =>
    follow turn
    match turn.outcome, turn.session.waits with
    | some outcome, _ => pure outcome
    | none, w :: _ =>
      let a ← answer fuel w
      serve fuel ((← get).session.answer a)
    | none, [] => throw .exhausted
  | _, _ => throw .exhausted

/-- What the hardware or the client says to a waiting operation. -/
def answer (fuel : Nat) (w : Wait) : Play Answer := do
  match fuel with
  | 0 => throw .exhausted
  | fuel + 1 =>
    match w with
    | .importing p => .imported <$> importFramebuffer p.request.buffer
    | .attempting a =>
      let decision ← submit fuel a.submission
      pure (.submitted decision (← get).now)
    | .submitting s =>
      let decision ← submit fuel s
      pure (.submitted decision (← get).now)
    | .reading _ => .read <$> readReports
    | .telling news _ =>
      modify fun s => s.note [.told news]
      performAll fuel ((← get).reactions news)
      pure .returned
    | .destroying fb _ => .destroyed <$> removeFramebuffer fb

/-- Hands a flip to the channel. -/
def submit (fuel : Nat) (submission : Submission) : Play (Except SubmitError Unit) := do
  match fuel with
  | 0 => throw .exhausted
  | fuel + 1 =>
    modify fun s => s.see submission.token
    match (← get).hardware with
    | .kernel k =>
      let a := Kernel.submit k submission
      modify fun s => { s.note (a.calls.map .kernel) with hardware := .kernel a.script }
      decided submission a.result
      pure a.result
    | .stub _ =>
      -- The reply is taken first: the steps that the client takes meanwhile may need the next one.
      let .mk steps decision ← nextReply submission.crtc
      modify fun s => s.note [.stub (.submitted submission)]
      performAll fuel steps
      modify fun s => s.note [.stub (decisionNote decision)]
      decided submission decision
      pure decision

/-- Takes steps within another one. -/
def performAll (fuel : Nat) (cues : List Cue) : Play Unit := do
  match fuel, cues with
  | _, [] => pure ()
  | 0, _ => throw .exhausted
  | fuel + 1, .mk name step :: rest =>
    modify fun s => s.note [.began name]
    let result ← perform fuel step
    modify fun s => s.note [.ended result]
    performAll fuel rest

/-- Takes a step. -/
def perform (fuel : Nat) (step : Step) : Play Return := do
  match fuel with
  | 0 => throw .exhausted
  | fuel + 1 =>
    match step with
    | .swap request onSuccess onAbort =>
      let (client, s) := (← get).addHandlers ⟨onSuccess, onAbort⟩
      set s
      returned <$> operate fuel (.swap { request with client := client })
    | .drain => returned <$> operate fuel .drain
    | .script crtc replies =>
      modify fun s => addReplies s crtc replies
      pure .nothing
    | .scriptImports results =>
      modify fun s => addResults s results [] [] []
      pure .nothing
    | .scriptRemovals results =>
      modify fun s => addResults s [] results [] []
      pure .nothing
    | .scriptPolls polls =>
      modify fun s => addResults s [] [] polls []
      pure .nothing
    | .scriptReads results =>
      modify fun s => addResults s [] [] [] results
      pure .nothing
    | .report token crtc stamp abort =>
      let s ← get
      match token.or ((s.accepted.find? crtc).map fun t => t.raw.toUInt64) with
      | none => pure .noToken
      | some raw =>
        let (result, s) := addReport s raw crtc stamp abort
        set s
        pure result
    | .packet bytes =>
      modify fun s => addPacket s bytes
      pure .nothing
    | .disable crtc => arranging (returned <$> operate fuel (.disable crtc))
    | .enable crtc => returned <$> operate fuel (.enable crtc)
    | .assign slot fb =>
      modify fun s => s.edit (·.assign slot fb)
      pure .nothing
    | .setEnabled pipe enabled =>
      modify fun s => s.edit (·.setEnabled pipe enabled)
      pure .nothing
    | .enqueue crtc count onSuccess onAbort =>
      enqueue crtc ⟨onSuccess, onAbort⟩ count .nothing
    | .submit crtc fb flags token =>
      withToken token fun t => returned <$> operate fuel (.submit ⟨crtc, fb, flags, t⟩)
    | .resolve token stamp =>
      withToken token fun t => do
        let _ ← operate fuel (.resolve t stamp)
        pure .ok
    | .discard token =>
      withToken token fun t => do
        let (_, r) ← obey ((← get).screen.registry.resolve t)
        modify fun s => s.edit (·.setRegistry r)
        pure .ok
    | .abortPipe crtc => arranging (returned <$> operate fuel (.abortPipe crtc))
    | .contains token =>
      withToken token fun t => do
        pure (.flag ((← get).screen.registry.isPending t))
    | .forget token =>
      withToken token fun t => do
        match (← get).screen.registry.forget? t with
        | none => pure (.flag false)
        | some r =>
          modify fun s => s.edit (·.setRegistry r)
          pure (.flag true)
    | .forgetPipe crtc =>
      let (n, r) := (← get).screen.registry.forgetPipe crtc
      modify fun s => s.edit (·.setRegistry r)
      pure (.count n)
    | .pipeAt vblank => pure (.position ((← get).screen.pipeAt? vblank))
    | .pipeOf crtc => pure (.position ((← get).screen.pipeOf? crtc))
    | .ages =>
      let s ← get
      pure (.ages (s.screen.pipes.map (·.flipAge s.now)))
    | .clock now =>
      modify fun s => { s with now := now }
      pure .nothing
    | .level level =>
      modify fun s => { s with level := level }
      pure .nothing
    | .importFramebuffer b =>
      match ← importFramebuffer b with
      | .ok fb => pure (.framebuffer fb)
      | .error e => pure (.deviceFailed e)
    | .removeFramebuffer fb =>
      match ← removeFramebuffer fb with
      | .ok () => pure .ok
      | .error e => pure (.deviceFailed e)
    | .device =>
      match (← get).hardware with
      | .stub _ => pure .nothing
      | .kernel _ => pure (.device Kernel.describe Kernel.descriptor)
    | .newBarrier slot old onSuccess onAbort =>
      let (client, s) := (← get).addHandlers ⟨onSuccess, onAbort⟩
      let fb := s.screen.held slot
      set (s.edit fun screen => (screen.addSwap ⟨.new fb old, slot, client⟩).2)
      pure (.barrier fb)
    | .newFlip swap reference =>
      withBarrier swap fun _ => do
        let s ← get
        set { s with flips := s.flips ++ [some (Flip.mk swap reference)] }
        pure (.count s.flips.length)
    | .settle flip stamp =>
      let s ← get
      match s.flips[flip]? with
      | some (some f) =>
        set { s with flips := s.flips.set flip none }
        let _ ← operate fuel (.settle f stamp)
        pure .ok
      | _ => pure .noFlip
    | .isReference flip =>
      match (← get).flips[flip]? with
      | some (some f) => pure (.flag f.reference)
      | _ => pure .nothing
    | .hold swap =>
      withBarrier swap fun b => do
        let b ← obey b.hold
        modify fun s => s.edit (·.setBarrier swap b)
        pure .ok
    | .markSubmitted swap =>
      withBarrier swap fun b => do
        modify fun s => s.edit (·.setBarrier swap b.markSubmitted)
        pure .ok
    | .release swap =>
      withBarrier swap fun _ => do
        let _ ← operate fuel (.release swap)
        pure .ok
    | .describe swap => withBarrier swap fun b => pure (.text b.describe)

end

/-- What one step of a script came to. -/
structure Scene where
  result : Return
  effects : List Effect
  /-- The stage when the step was over. -/
  stage : Stage

/-- What a script came to: the steps that returned, and what happened in the one that broke a
rule. -/
structure Performance where
  scenes : List Scene
  broken : Option (Violation × List Effect)

/-- Takes the steps of a script one after the other. -/
def rehearseWithin (fuel : Nat) (s : Stage) : List Cue → Performance
  | [] => ⟨[], none⟩
  | .mk _ step :: rest =>
    match (perform fuel step).run { s with effects := [] } with
    | (.ok result, s) =>
      let p := rehearseWithin fuel s rest
      ⟨Scene.mk result s.effects s :: p.scenes, p.broken⟩
    | (.error (.violated v), s) => ⟨[], some (v, s.effects)⟩
    | (.error .exhausted, _) => ⟨[], none⟩

/-- Plays a script on a stage. -/
def rehearse (s : Stage) (script : List Cue) : Performance :=
  rehearseWithin ((4 * s.screen.pipes.length + 16) * (Cue.weights script + 1)) s script

end PageFlip.Rehearsal
