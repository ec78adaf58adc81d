import PageFlip.Session.Step

/-!
# What an operation goes on with

The parts of an operation that resolve flips, give up holds and give up framebuffers are all handed
the task to go on with. They do go on with it: at once, when a handler has returned, or when the
device has given up a framebuffer, unless a rule is broken (`Follow.Continues`).
-/

namespace PageFlip

/-- An operation goes on with a task, if no rule is broken. -/
inductive Follow.Continues (next : Task) : Follow → Prop
  /-- It does so at once. -/
  | atOnce : Continues next (.inl next)
  /-- It does so once the client knows the outcome of a swap and a framebuffer is given up. -/
  | told (news : News) (id : SwapId) (v : Verdict) :
      Continues next (.inr (.waiting (.telling news (.reclaim id v next))))
  /-- It does so once the client knows the outcome of an event. -/
  | toldEvent (news : News) : Continues next (.inr (.waiting (.telling news next)))
  /-- It does so once the device has given up a framebuffer. -/
  | destroyed (fb : Framebuffer) : Continues next (.inr (.waiting (.destroying fb next)))
  | violated (v : Violation) : Continues next (.inr (.violated v))

namespace Screen

variable {s : Screen} {next : Task}

/-- Once a hold is dropped the operation goes on. -/
theorem continues_settle {id : SwapId} {result : Except Violation (Barrier × Option Verdict)}
    {client : Client} : (s.settle id result client next).next.Continues next := by
  unfold settle
  split
  · exact .violated _
  · exact .atOnce
  · exact .told _ _ _

/-- Once a flip is resolved the operation goes on. -/
theorem continues_settleFlip {f : Flip} {stamp : Option Stamp} :
    (s.settleFlip f stamp next).next.Continues next := by
  unfold settleFlip
  split
  · exact .atOnce
  · exact continues_settle

/-- Once the submitter's hold is given up the operation goes on. -/
theorem continues_release {id : SwapId} : (s.release id next).next.Continues next := by
  unfold release
  split
  · exact .atOnce
  · exact continues_settle

/-- Once an event is resolved the operation goes on. -/
theorem continues_deliver {event : Event} {stamp : Option Stamp} :
    (s.deliver event stamp next).next.Continues next := by
  cases event with
  | flip f => exact continues_settleFlip
  | plain client => exact .toldEvent _

/-- Once the event of a token is resolved the operation goes on. -/
theorem continues_resolve {token : Token} {stamp : Option Stamp} :
    (s.resolve token stamp next).next.Continues next := by
  unfold resolve
  split
  · exact .violated _
  · exact continues_deliver

/-- Once a report is dispatched the operation goes on. -/
theorem continues_dispatch {report : Report} :
    (s.dispatch report next).next.Continues next := by
  unfold dispatch
  split
  · exact .atOnce
  · exact continues_resolve

/-- Once a framebuffer is given up the operation goes on. -/
theorem continues_reclaim {id : SwapId} {verdict : Verdict} :
    (s.reclaim id verdict next).next.Continues next := by
  unfold reclaim
  split
  · exact .atOnce
  · dsimp only
    split
    · exact .atOnce
    · exact .destroyed _

/-- A swap that took effect gives up the framebuffer that it displaced, and its slot stays as it
is. -/
theorem reclaim_of_tookEffect {id : SwapId} {v : Verdict} {w : Swap}
    (hw : s.swaps[id]? = some w) (hv : v.tookEffect = true) :
    s.reclaim id v next =
      if w.barrier.oldFb.isNone then s.work [] next
      else s.halt [] (.waiting (.destroying w.barrier.oldFb next)) := by
  simp only [Screen.reclaim, hw, Barrier.reclaim, hv, if_true, assign_held]

/-- Once a flip is given up the swap comes to its end. -/
theorem continues_fail {a : Attempt} {e : SwapError} :
    (s.fail a e).next.Continues (.conclude a.fanout (some e)) :=
  continues_resolve

end Screen

end PageFlip
