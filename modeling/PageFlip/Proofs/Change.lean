import PageFlip.Proofs.Agenda
import PageFlip.Proofs.Registry

/-!
# What a part of an operation can do

`Change s g l s' g'` lists the effects that a part of an operation can have on the screen and on the
agenda, with a label `l` for what the surroundings take part in. It is the one place where the
tasks and answers are spelled out: what holds of every run is shown for each of these changes
(`PageFlip.Proofs.Step` shows that there are no others).

A change only touches the front of the agenda; the rest, `k`, is that of the operations below.
-/

namespace PageFlip

/-- What the surroundings take part in when an operation goes on. -/
inductive Label
  /-- Nothing. -/
  | silent
  /-- The flip of a swap is registered, to be submitted. -/
  | registered
  /-- The framebuffer of a swap was imported and is installed. -/
  | launched (p : Preparation) (fb : Framebuffer)
  /-- The channel accepted a flip. -/
  | accepted (f : Submission)
  /-- The channel was read. -/
  | read (reports : List Report)
  /-- The client is told the outcome of a swap. -/
  | told (id : SwapId) (news : News)
  /-- The client knows the outcome of a swap, and a framebuffer is given up. -/
  | reclaimed (id : SwapId) (v : Verdict) (fb : Framebuffer)
  /-- A pipe is disabled. -/
  | disabled
  /-- A pipe is enabled. -/
  | enabled

/-- What becomes known when a hold was dropped: nothing, or with the last hold the outcome. -/
def Label.ofVerdict (id : SwapId) (client : Client) : Option Verdict → Label
  | none => .silent
  | some v => .told id (.swap client v.stamp)

open Agenda in
/-- The effects that a part of an operation can have. -/
inductive Change : Screen → Agenda → Label → Screen → Agenda → Prop
  /-- Nothing but a line for the log, or the next turn. -/
  | pass {s : Screen} {g : Agenda} : Change s g .silent s g
  /-- A pipe's flip is registered. -/
  | register {s : Screen} {k : Agenda} {id : SwapId} {fb : Framebuffer} {f : Submission}
      {reference : Bool} {r : Registry Event} {w : Swap} {b : Barrier} (hfb : f.fb = fb)
      (halloc : s.registry.allocate f.crtc (.flip ⟨id, reference⟩) = some (f.token, r))
      (hw : s.swaps[id]? = some w) (hb : w.barrier.hold = .ok b) :
      Change s (fanning id fb ++ k) .registered ((s.setRegistry r).setBarrier id b)
        (queueing id fb f ++ k)
  /-- The report on a retired token is dropped. -/
  | late {s : Screen} {k : Agenda} {report : Report} {r : Registry Event}
      (hr : s.registry.forget? report.token = some r) :
      Change s (reporting [report] ++ k) .silent (s.setRegistry r) k
  /-- A report resolves the flip of a pending token. -/
  | dispatch {s : Screen} {k : Agenda} {report : Report} {f : Flip} {r : Registry Event}
      {w : Swap} {b : Barrier} {v : Option Verdict}
      (hlate : s.registry.forget? report.token = none)
      (hr : s.registry.resolve report.token = .ok (.flip f, r)) (hw : s.swaps[f.swap]? = some w)
      (hb : w.barrier.resolve f.reference report.stamp? = .ok (b, v)) :
      Change s (reporting [report] ++ k) (.ofVerdict f.swap w.client v)
        ((s.setRegistry r).setBarrier f.swap b) (owing f.swap v ++ k)
  /-- An event that was handed out is aborted. -/
  | abort {s : Screen} {k : Agenda} {f : Flip} {w : Swap} {b : Barrier} {v : Option Verdict}
      (hw : s.swaps[f.swap]? = some w) (hb : w.barrier.resolve f.reference none = .ok (b, v)) :
      Change s (aborting [.flip f] ++ k) (.ofVerdict f.swap w.client v) (s.setBarrier f.swap b)
        (owing f.swap v ++ k)
  /-- A flip that is being queued is given up; its token is pending. -/
  | giveUp {s : Screen} {k : Agenda} {id : SwapId} {fb : Framebuffer} {a : Submission} {f : Flip}
      {r : Registry Event} {w : Swap} {b : Barrier} {v : Option Verdict}
      (hr : s.registry.resolve a.token = .ok (.flip f, r)) (hw : s.swaps[f.swap]? = some w)
      (hb : w.barrier.resolve f.reference none = .ok (b, v)) :
      Change s (queueing id fb a ++ k) (.ofVerdict f.swap w.client v)
        ((s.setRegistry r).setBarrier f.swap b) (owing f.swap v ++ (fanning id fb ++ k))
  /-- A flip that was being queued is gone. -/
  | lose {s : Screen} {k : Agenda} {id : SwapId} {fb : Framebuffer} {a : Submission}
      (hgone : s.registry.isPending a.token = false) :
      Change s (queueing id fb a ++ k) .silent (s.setRegistry (s.registry.forget a.token))
        (fanning id fb ++ k)
  /-- The submitter's hold on a swap is given up. -/
  | release {s : Screen} {k : Agenda} {id : SwapId} {fb : Framebuffer} {w : Swap} {b : Barrier}
      {v : Option Verdict} (hw : s.swaps[id]? = some w)
      (hb : w.barrier.release = .ok (b, v)) :
      Change s (fanning id fb ++ k) (.ofVerdict id w.client v) (s.setBarrier id b)
        (owing id v ++ k)
  /-- The handler is done, and a framebuffer is given up. -/
  | reclaim {s : Screen} {k : Agenda} {id : SwapId} {v : Verdict} {w : Swap}
      (hw : s.swaps[id]? = some w) :
      Change s (owing id (some v) ++ k)
        (.reclaimed id v (w.barrier.reclaim v (s.held w.slot)).2)
        (s.assign w.slot (w.barrier.reclaim v (s.held w.slot)).1) k
  /-- An imported framebuffer is installed. -/
  | launch {s : Screen} {k : Agenda} {p : Preparation} {fb : Framebuffer} :
      Change s k (.launched p fb)
        ((s.assign p.slot fb).addSwap ⟨.new fb p.displaced, p.slot, p.request.client⟩).2
        (fanning s.swaps.length fb ++ k)
  /-- The channel accepts a flip, and the retired tokens of its controller are forgotten. -/
  | accept {s : Screen} {k : Agenda} {id : SwapId} {fb : Framebuffer} {f : Submission} {w : Swap}
      {i : Nat} {now : Instant} (hw : s.swaps[id]? = some w) :
      Change s (queueing id fb f ++ k) (.accepted f)
        (((s.setBarrier id w.barrier.markSubmitted).setRegistry
          (s.registry.forgetPipe f.crtc).2).setFlippedAt i now)
        (fanning id fb ++ k)
  /-- The reports that were read are to be dispatched. -/
  | read {s : Screen} {k : Agenda} {reports : List Report} :
      Change s k (.read reports) s (reporting reports ++ k)
  /-- A pipe is disabled, and what is pending on its controller is to be aborted. -/
  | disable {s : Screen} {k : Agenda} {i : Nat} {crtc : Crtc} :
      Change s k .disabled
        ((s.setEnabled i false).setRegistry (s.registry.retirePipe crtc).2)
        (aborting (s.registry.retirePipe crtc).1 ++ k)
  /-- A pipe is enabled. -/
  | enable {s : Screen} {k : Agenda} {i : Nat} : Change s k .enabled (s.setEnabled i true) k
  /-- The pending tokens are in another order. -/
  | reorder {s : Screen} {k : Agenda} {table : Table Token (Pending Event)}
      (htable : table.entries.Perm s.registry.pending.entries) :
      Change s k .silent (s.setRegistry (s.registry.reorder table)) k

end PageFlip
