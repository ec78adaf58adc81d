import PageFlip.Session.Task

/-!
# Carrying out a task

`Screen.step` carries out one task of an operation. It returns the screen as it is then, what there
is to say to the log, and either the task to go on with or the operation at rest.
-/

namespace PageFlip

/-- The result of carrying out a part of an operation: the screen as it is then, the notices for
the log and what follows. -/
structure Progress (α : Type) where
  screen : Screen
  notices : List Notice
  next : α

namespace Progress

/-- The same progress after earlier notices. -/
def after {α : Type} (notices : List Notice) (p : Progress α) : Progress α :=
  { p with notices := notices ++ p.notices }

end Progress

/-- A task to go on with, or the operation at rest. -/
abbrev Follow := Task ⊕ Rest

namespace Fanout

/-- The report on a swap whose flips were queued, up to an error if there was one. A swap that
reached a pipe has succeeded. -/
def report (f : Fanout) (error : Option SwapError) : Task :=
  if 0 < f.submitted then
    match error with
    | none => .finish (.swapped (.ok ()))
    | some e => .say (.swapIncomplete f.submitted f.targeted e) (.finish (.swapped (.ok ())))
  else
    let e := error.getD .noPipes
    .say (.swapFailed e) (.finish (.swapped (.error e)))

end Fanout

namespace Screen

/-- Goes on with a task. -/
def work (s : Screen) (notices : List Notice) (next : Task) : Progress Follow :=
  ⟨s, notices, .inl next⟩

/-- Comes to rest. -/
def halt (s : Screen) (notices : List Notice) (rest : Rest) : Progress Follow :=
  ⟨s, notices, .inr rest⟩

/-- Takes over the barrier of a swap after a hold on it was dropped. With the last hold the client
is told the outcome, and afterwards a framebuffer is given up. -/
def settle (s : Screen) (id : SwapId) (result : Except Violation (Barrier × Option Verdict))
    (client : Client) (next : Task) : Progress Follow :=
  match result with
  | .error v => s.halt [] (.violated v)
  | .ok (b, none) => (s.setBarrier id b).work [] next
  | .ok (b, some verdict) =>
    (s.setBarrier id b).halt []
      (.waiting (.telling (.swap client verdict.stamp) (.reclaim id verdict next)))

/-- Resolves a flip of a swap. -/
def settleFlip (s : Screen) (f : Flip) (stamp : Option Stamp) (next : Task) : Progress Follow :=
  match s.swaps[f.swap]? with
  | none => s.work [] next
  | some w => s.settle f.swap (w.barrier.resolve f.reference stamp) w.client next

/-- Gives up the submitter's hold on a swap. -/
def release (s : Screen) (id : SwapId) (next : Task) : Progress Follow :=
  match s.swaps[id]? with
  | none => s.work [] next
  | some w => s.settle id w.barrier.release w.client next

/-- Resolves an event that was handed out. -/
def deliver (s : Screen) (event : Event) (stamp : Option Stamp) (next : Task) :
    Progress Follow :=
  match event with
  | .flip f => s.settleFlip f stamp next
  | .plain client => s.halt [] (.waiting (.telling (.event client stamp) next))

/-- Hands out the event of a pending token and resolves it. -/
def resolve (s : Screen) (token : Token) (stamp : Option Stamp) (next : Task) :
    Progress Follow :=
  match s.registry.resolve token with
  | .error v => s.halt [] (.violated v)
  | .ok (event, r) => (s.setRegistry r).deliver event stamp next

/-- Dispatches one report. The report on a retired token comes late and is dropped. -/
def dispatch (s : Screen) (report : Report) (next : Task) : Progress Follow :=
  match s.registry.forget? report.token with
  | some r => (s.setRegistry r).work [.lateEvent report.token] next
  | none => s.resolve report.token report.stamp? next

/-- Gives up the framebuffer that a swap leaves over, now that the client knows the outcome. -/
def reclaim (s : Screen) (id : SwapId) (verdict : Verdict) (next : Task) : Progress Follow :=
  match s.swaps[id]? with
  | none => s.work [] next
  | some w =>
    -- The slot is read only now: the handler may have started another swap on it.
    let (held, fb) := w.barrier.reclaim verdict (s.held w.slot)
    let s := s.assign w.slot held
    if fb.isNone then s.work [] next else s.halt [] (.waiting (.destroying fb next))

/-- Registers the flip of a swap on an enabled pipe and submits it. -/
def tryPipe (s : Screen) (f : Fanout) (i : Nat) (p : Pipe) : Progress Follow :=
  match s.registry.allocate p.crtc (.flip ⟨f.swap, f.reference == some p.vblank⟩) with
  | none => s.work [.noToken] (.conclude f (some .sequenceExhausted))
  | some (token, r) =>
    let s := s.setRegistry r
    let wait := Rest.waiting (.attempting ⟨f, i, ⟨p.crtc, f.fb, f.flags, token⟩, 0⟩)
    match s.swaps[f.swap]? with
    | none => s.halt [] wait
    | some w =>
      match w.barrier.hold with
      | .error v => s.halt [] (.violated v)
      | .ok b => (s.setBarrier f.swap b).halt [] wait

/-- Goes on to the next pipe of a swap. A pipe that was disabled meanwhile is skipped. -/
def fan (s : Screen) (f : Fanout) : Progress Follow :=
  match f.rest with
  | [] => s.work [] (.conclude f none)
  | i :: rest =>
    let f := { f with rest := rest }
    match s.pipes[i]? with
    | none => s.work [] (.fan f)
    | some p => if p.enabled then s.tryPipe f i p else s.work [] (.fan f)

/-- Gives up the flip on one pipe, and with it the pipes that were to come. -/
def fail (s : Screen) (a : Attempt) (e : SwapError) : Progress Follow :=
  (s.resolve a.submission.token none (.conclude a.fanout (some e))).after [.flipFailed e]

/-- Submits a flip again after the channel was full and was read. The read may have run handlers
that disabled the pipe: then the flip is aborted already, or is aborted now. -/
def retry (s : Screen) (a : Attempt) : Progress Follow :=
  let token := a.submission.token
  -- A handler disabled the pipe, which has aborted the flip and retired its token. The channel was
  -- full whenever it saw the token, so it will not report it.
  if !s.registry.isPending token then
    (s.setRegistry (s.registry.forget token)).work [.pipeLost a.submission.crtc] (.fan a.fanout)
  -- The pipe is disabled, but nothing was aborted with it.
  else if !s.isEnabled a.pipe then
    s.resolve token none (.fan a.fanout)
  else
    s.halt [.retried] (.waiting (.attempting a))

/-- Carries out one task. -/
def step (s : Screen) : Task → Progress Follow
  | .fan f => s.fan f
  | .retry a => s.retry a
  | .conclude f error => s.release f.swap (f.report error)
  | .dispatch [] next => s.work [] next
  | .dispatch (report :: rest) next => s.dispatch report (.dispatch rest next)
  | .abort [] next => s.work [] next
  | .abort (event :: rest) next => s.deliver event none (.abort rest next)
  | .reclaim id verdict next => s.reclaim id verdict next
  | .say notice next => s.work [notice] next
  | .finish outcome => s.halt [] (.finished outcome)

end Screen

end PageFlip
