import PageFlip.Proofs.Course
import PageFlip.Proofs.Run

/-!
# What happens in a course

`Deed conduct m m'` lists all that can happen in one step of a course: to the screen, to the
operation on top, to the history. Below the top nothing changes, but for an operation that starts
above the others or returns. A deed is a `Change` of the screen and of the agenda of all
operations (`Deed.change`); unlike a change it knows the operations apart, what they are going to
return and what is noted in the history.

Every act of a course is a row of deeds (`Course.passage_of_step`), so what each deed keeps holds of
every course that is not broken (`Course.keeps`).
-/

namespace PageFlip

open Relation (ReflTransGen)

namespace Agenda

/-- Nothing more to do makes no difference. -/
@[simp] theorem append_nil (g : Agenda) : g ++ ({} : Agenda) = g := by
  ext1 <;> simp

end Agenda

/-- What an operation is on its way to becomes clearer. -/
inductive Ending.Leads : Ending → Ending → Prop
  /-- Nothing new. -/
  | same (e : Ending) : Leads e e
  /-- The flips of a swap end with an error. -/
  | failed {id : SwapId} {n : Nat} {error : SwapError}
      (he : ∀ x, error ≠ .importFramebuffer x) :
      Leads (.flipping id n none) (.flipping id n (some error))
  /-- A client's own read is answered. -/
  | read {result : Except ChannelError Drained} : Leads .reading (.returning (.drained result))

/-- How far an operation is that only starts and changes nothing. -/
inductive Operation.Opens (s : Screen) : Operation → Ending → Prop
  | swap (r : SwapRequest) : Opens s (.swap r) (.importing (s.prepare r))
  | drain : Opens s .drain .reading
  | disable {crtc : Crtc} (hunknown : s.pipeOf? crtc = none) :
      Opens s (.disable crtc) (.returning .done)
  | enable {crtc : Crtc} (hunknown : s.pipeOf? crtc = none) :
      Opens s (.enable crtc) (.returning .done)

/-- A handler of the operation on top is running, if there is one. -/
def InHandler (ls : List Level) : Prop := ∀ l ∈ ls.head?, l.agenda.reclaims ≠ []

/-- What a swap returns after so many accepted flips and an error, if there was one. -/
def Fanout.outcome (submitted : Nat) (error : Option SwapError) : Outcome :=
  if 0 < submitted then .swapped (.ok ()) else .swapped (.error (error.getD .noPipes))

/-- The client is told of a swap that has its outcome. -/
def Happening.ofVerdict (id : SwapId) (client : Client) (v : Option Verdict) : List Happening :=
  v.toList.map fun v => .told id (.swap client v.stamp)

open Agenda in
/-- What can happen in one step of a course. -/
inductive Deed (conduct : Conduct) : Scene → Scene → Prop
  /-- Nothing but a line for the log, or the next turn. -/
  | pass {s : Screen} {c : Call} {g : Agenda} {e e' : Ending} {ls : List Level}
      {fbs : List Framebuffer} {h : List Happening} (he : e.Leads e') :
      Deed conduct ⟨s, ⟨c, g, e⟩ :: ls, fbs, h⟩ ⟨s, ⟨c, g, e'⟩ :: ls, fbs, h⟩
  /-- A pipe's flip is registered. -/
  | register {s : Screen} {c : Call} {id : SwapId} {fb : Framebuffer} {n : Nat} {f : Submission}
      {reference : Bool} {r : Registry Event} {w : Swap} {b : Barrier} {ls : List Level}
      {fbs : List Framebuffer} {h : List Happening} (hfb : f.fb = fb)
      (halloc : s.registry.allocate f.crtc (.flip ⟨id, reference⟩) = some (f.token, r))
      (hw : s.swaps[id]? = some w) (hb : w.barrier.hold = .ok b) :
      Deed conduct ⟨s, ⟨c, fanning id fb, .flipping id n none⟩ :: ls, fbs, h⟩
        ⟨(s.setRegistry r).setBarrier id b, ⟨c, queueing id fb f, .flipping id n none⟩ :: ls, fbs,
          h⟩
  /-- The report on a retired token is dropped. -/
  | late {s : Screen} {c : Call} {g : Agenda} {e : Ending} {report : Report} {r : Registry Event}
      {ls : List Level} {fbs : List Framebuffer} {h : List Happening}
      (hr : s.registry.forget? report.token = some r) :
      Deed conduct ⟨s, ⟨c, reporting [report] ++ g, e⟩ :: ls, fbs, h⟩
        ⟨s.setRegistry r, ⟨c, g, e⟩ :: ls, fbs, h⟩
  /-- A report resolves the flip of a pending token. -/
  | dispatch {s : Screen} {c : Call} {g : Agenda} {e : Ending} {report : Report} {f : Flip}
      {r : Registry Event} {w : Swap} {b : Barrier} {v : Option Verdict} {ls : List Level}
      {fbs : List Framebuffer} {h : List Happening}
      (hr : s.registry.resolve report.token = .ok (.flip f, r)) (hw : s.swaps[f.swap]? = some w)
      (hlate : s.registry.forget? report.token = none)
      (hb : w.barrier.resolve f.reference report.stamp? = .ok (b, v)) :
      Deed conduct ⟨s, ⟨c, reporting [report] ++ g, e⟩ :: ls, fbs, h⟩
        ⟨(s.setRegistry r).setBarrier f.swap b, ⟨c, owing f.swap v ++ g, e⟩ :: ls, fbs,
          Happening.ofVerdict f.swap w.client v ++ .resolved f.swap report :: h⟩
  /-- An event that was handed out is aborted. -/
  | abort {s : Screen} {c : Call} {g : Agenda} {e : Ending} {f : Flip} {w : Swap} {b : Barrier}
      {v : Option Verdict} {ls : List Level} {fbs : List Framebuffer} {h : List Happening}
      (hw : s.swaps[f.swap]? = some w) (hb : w.barrier.resolve f.reference none = .ok (b, v)) :
      Deed conduct ⟨s, ⟨c, aborting [.flip f] ++ g, e⟩ :: ls, fbs, h⟩
        ⟨s.setBarrier f.swap b, ⟨c, owing f.swap v ++ g, e⟩ :: ls, fbs,
          Happening.ofVerdict f.swap w.client v ++ h⟩
  /-- A flip that is being queued is given up; its token is pending. -/
  | giveUp {s : Screen} {c : Call} {id : SwapId} {fb : Framebuffer} {a : Submission} {e e' : Ending}
      {f : Flip} {r : Registry Event} {w : Swap} {b : Barrier} {v : Option Verdict}
      {ls : List Level} {fbs : List Framebuffer} {h : List Happening} (he : e.Leads e')
      (hr : s.registry.resolve a.token = .ok (.flip f, r)) (hw : s.swaps[f.swap]? = some w)
      (hb : w.barrier.resolve f.reference none = .ok (b, v)) :
      Deed conduct ⟨s, ⟨c, queueing id fb a, e⟩ :: ls, fbs, h⟩
        ⟨(s.setRegistry r).setBarrier f.swap b, ⟨c, owing f.swap v ++ fanning id fb, e'⟩ :: ls, fbs,
          Happening.ofVerdict f.swap w.client v ++ h⟩
  /-- A flip that was being queued is gone. -/
  | lose {s : Screen} {c : Call} {id : SwapId} {fb : Framebuffer} {a : Submission} {e : Ending}
      {ls : List Level} {fbs : List Framebuffer} {h : List Happening}
      (hgone : s.registry.isPending a.token = false) :
      Deed conduct ⟨s, ⟨c, queueing id fb a, e⟩ :: ls, fbs, h⟩
        ⟨s.setRegistry (s.registry.forget a.token), ⟨c, fanning id fb, e⟩ :: ls, fbs, h⟩
  /-- The submitter's hold on a swap is given up, and what the swap returns is settled. -/
  | release {s : Screen} {c : Call} {id : SwapId} {fb : Framebuffer} {n : Nat}
      {error : Option SwapError} {w : Swap} {b : Barrier} {v : Option Verdict} {ls : List Level}
      {fbs : List Framebuffer} {h : List Happening} (hw : s.swaps[id]? = some w)
      (hb : w.barrier.release = .ok (b, v)) :
      Deed conduct ⟨s, ⟨c, fanning id fb, .flipping id n error⟩ :: ls, fbs, h⟩
        ⟨s.setBarrier id b, ⟨c, owing id v, .returning (Fanout.outcome n error)⟩ :: ls, fbs,
          Happening.ofVerdict id w.client v ++ h⟩
  /-- The handler is done, and a framebuffer is given up. -/
  | reclaim {s : Screen} {c : Call} {id : SwapId} {v : Verdict} {g : Agenda} {e : Ending} {w : Swap}
      {ls : List Level} {fbs : List Framebuffer} {h : List Happening}
      (hw : s.swaps[id]? = some w) :
      Deed conduct ⟨s, ⟨c, owing id (some v) ++ g, e⟩ :: ls, fbs, h⟩
        ⟨s.assign w.slot (w.barrier.reclaim v (s.held w.slot)).1, ⟨c, g, e⟩ :: ls, fbs,
          (if (w.barrier.reclaim v (s.held w.slot)).2.isNone then []
            else [.destroyed id (w.barrier.reclaim v (s.held w.slot)).2]) ++ h⟩
  /-- An imported framebuffer is installed. -/
  | launch {s : Screen} {c : Call} {p : Preparation} {fb : Framebuffer} {ls : List Level}
      {fbs : List Framebuffer} {h : List Happening}
      (hfb : conduct.imports ⟨s, ⟨c, {}, .importing p⟩ :: ls, fbs, h⟩ fb = true) :
      Deed conduct ⟨s, ⟨c, {}, .importing p⟩ :: ls, fbs, h⟩
        ⟨((s.assign p.slot fb).addSwap ⟨.new fb p.displaced, p.slot, p.request.client⟩).2,
          ⟨{ c with swap := some s.swaps.length }, fanning s.swaps.length fb,
            .flipping s.swaps.length 0 none⟩ :: ls,
          fb :: fbs, h⟩
  /-- A framebuffer could not be imported, and the swap returns at once. -/
  | refuse {s : Screen} {c : Call} {p : Preparation} {error : DeviceError} {ls : List Level}
      {fbs : List Framebuffer} {h : List Happening} :
      Deed conduct ⟨s, ⟨c, {}, .importing p⟩ :: ls, fbs, h⟩
        ⟨s, ls, fbs, .returned c (.swapped (.error (.importFramebuffer error))) s :: h⟩
  /-- The channel accepts a flip, and the retired tokens of its controller are forgotten. -/
  | accept {s : Screen} {c : Call} {id : SwapId} {fb : Framebuffer} {n : Nat} {f : Submission}
      {w : Swap} {i : Nat} {now : Instant} {ls : List Level} {fbs : List Framebuffer}
      {h : List Happening} (hw : s.swaps[id]? = some w) :
      Deed conduct ⟨s, ⟨c, queueing id fb f, .flipping id n none⟩ :: ls, fbs, h⟩
        ⟨((s.setBarrier id w.barrier.markSubmitted).setRegistry
            (s.registry.forgetPipe f.crtc).2).setFlippedAt i now,
          ⟨c, fanning id fb, .flipping id (n + 1) none⟩ :: ls, fbs, .accepted id f :: h⟩
  /-- Reports were read because the channel was full, and are to be dispatched. -/
  | read {s : Screen} {c : Call} {id : SwapId} {fb : Framebuffer} {a : Submission} {e : Ending}
      {reports : List Report} {ls : List Level} {fbs : List Framebuffer} {h : List Happening}
      (hreads : conduct.reads ⟨s, ⟨c, queueing id fb a, e⟩ :: ls, fbs, h⟩ reports = true) :
      Deed conduct ⟨s, ⟨c, queueing id fb a, e⟩ :: ls, fbs, h⟩
        ⟨s, ⟨c, reporting reports ++ queueing id fb a, e⟩ :: ls, fbs, h⟩
  /-- The reports that a client read are to be dispatched. -/
  | drain {s : Screen} {c : Call} {result : Except ChannelError Drained} {reports : List Report}
      {ls : List Level} {fbs : List Framebuffer} {h : List Happening}
      (hreads : conduct.reads ⟨s, ⟨c, {}, .reading⟩ :: ls, fbs, h⟩ reports = true) :
      Deed conduct ⟨s, ⟨c, {}, .reading⟩ :: ls, fbs, h⟩
        ⟨s, ⟨c, reporting reports ++ {}, .returning (.drained result)⟩ :: ls, fbs, h⟩
  /-- An operation starts. -/
  | call {s : Screen} {op : Operation} {e : Ending} {ls : List Level} {fbs : List Framebuffer}
      {h : List Happening} (hcall : conduct.calls ⟨s, ls, fbs, h⟩ op = true) (htop : InHandler ls)
      (hop : op.Opens s e) :
      Deed conduct ⟨s, ls, fbs, h⟩ ⟨s, ⟨⟨op, s, h.length, none⟩, {}, e⟩ :: ls, fbs, h⟩
  /-- A pipe is disabled, and what is pending on its controller is to be aborted. -/
  | disable {s : Screen} {crtc : Crtc} {i : Nat} {ls : List Level} {fbs : List Framebuffer}
      {h : List Happening} (hcall : conduct.calls ⟨s, ls, fbs, h⟩ (.disable crtc) = true)
      (htop : InHandler ls) (hi : s.pipeOf? crtc = some i) :
      Deed conduct ⟨s, ls, fbs, h⟩
        ⟨(s.setEnabled i false).setRegistry (s.registry.retirePipe crtc).2,
          ⟨⟨.disable crtc, s, h.length, none⟩, aborting (s.registry.retirePipe crtc).1,
            .returning .done⟩ :: ls, fbs, h⟩
  /-- A pipe is enabled. -/
  | enable {s : Screen} {crtc : Crtc} {i : Nat} {ls : List Level} {fbs : List Framebuffer}
      {h : List Happening} (hcall : conduct.calls ⟨s, ls, fbs, h⟩ (.enable crtc) = true)
      (htop : InHandler ls) (hi : s.pipeOf? crtc = some i) :
      Deed conduct ⟨s, ls, fbs, h⟩
        ⟨s.setEnabled i true, ⟨⟨.enable crtc, s, h.length, none⟩, {}, .returning .done⟩ :: ls, fbs,
          h⟩
  /-- An operation returns. -/
  | finish {s : Screen} {c : Call} {outcome : Outcome} {ls : List Level} {fbs : List Framebuffer}
      {h : List Happening} :
      Deed conduct ⟨s, ⟨c, {}, .returning outcome⟩ :: ls, fbs, h⟩
        ⟨s, ls, fbs, .returned c outcome s :: h⟩
  /-- The pending tokens come to be in another order. -/
  | reorder {s : Screen} {table : Table Token (Pending Event)} {ls : List Level}
      {fbs : List Framebuffer} {h : List Happening} (htop : InHandler ls)
      (htable : table.entries.Perm s.registry.pending.entries) :
      Deed conduct ⟨s, ls, fbs, h⟩ ⟨s.setRegistry (s.registry.reorder table), ls, fbs, h⟩

variable {conduct : Conduct}

/-- A deed is a change of the screen and of what is left to do. -/
theorem Deed.change {m m' : Scene} (hd : Deed conduct m m') :
    ∃ l, Change m.screen m.agenda l m'.screen m'.agenda := by
  cases hd with
  | pass => exact ⟨_, .pass⟩
  | register hfb halloc hw hb => exact ⟨_, .register hfb halloc hw hb⟩
  | late hr =>
    simp only [Scene.agenda, Scene.agendaOf, Agenda.append_assoc]
    exact ⟨_, .late hr⟩
  | dispatch hr hw hlate hb =>
    simp only [Scene.agenda, Scene.agendaOf, Agenda.append_assoc]
    exact ⟨_, .dispatch hlate hr hw hb⟩
  | abort hw hb =>
    simp only [Scene.agenda, Scene.agendaOf, Agenda.append_assoc]
    exact ⟨_, .abort hw hb⟩
  | giveUp he hr hw hb =>
    simp only [Scene.agenda, Scene.agendaOf, Agenda.append_assoc]
    exact ⟨_, .giveUp hr hw hb⟩
  | lose hgone => exact ⟨_, .lose hgone⟩
  | release hw hb => exact ⟨_, .release hw hb⟩
  | reclaim hw =>
    simp only [Scene.agenda, Scene.agendaOf, Agenda.append_assoc]
    exact ⟨_, .reclaim hw⟩
  | launch => exact ⟨_, .launch⟩
  | refuse => exact ⟨_, .pass⟩
  | accept hw => exact ⟨_, .accept hw⟩
  | read =>
    simp only [Scene.agenda, Scene.agendaOf, Agenda.append_assoc]
    exact ⟨_, .read⟩
  | drain =>
    simp only [Scene.agenda, Scene.agendaOf, Agenda.append_assoc]
    exact ⟨_, .read⟩
  | call => exact ⟨_, .pass⟩
  | disable => exact ⟨_, .disable⟩
  | enable => exact ⟨_, .enable⟩
  | finish => exact ⟨_, .pass⟩
  | reorder _ htable => exact ⟨_, .reorder htable⟩

/-- Every deed keeps the accounts in order. -/
theorem Deed.accounted {m m' : Scene} (hd : Deed conduct m m')
    (hA : Accounted m.screen m.agenda) : Accounted m'.screen m'.agenda := by
  obtain ⟨l, hc⟩ := hd.change
  exact hA.change hc

/-! ## Steps -/

/-- No framebuffer is given up before the operation comes to rest, unless in the first step. -/
def Task.Proceeds : Task → Prop
  | reclaim _ _ next => next.Keeps
  | t => t.Keeps

/-- A task that gives up no framebuffer does not do so after its first step either. -/
theorem Task.proceeds_of_keeps {t : Task} (h : t.Keeps) : t.Proceeds := by
  cases t with
  | reclaim => exact h.elim
  | _ => exact h

/-- A task that neither dispatches a report nor gives up a framebuffer. -/
def Task.OnlyTells : Task → Prop
  | dispatch (_ :: _) _ => False
  | reclaim .. => False
  | _ => True

/-- Where a part of the operation of `call`, above other operations, leads from `m`. -/
inductive Does (conduct : Conduct) (call : Call) (ls : List Level) (fbs : List Framebuffer)
    (m : Scene) (h : List Happening) (p : Progress Follow) : Prop
  | next {t : Task} (hp : p.next = .inl t) (ht : t.Keeps)
      (hnumber : p.screen.registry.next = m.screen.registry.next)
      (hd : Deed conduct m ⟨p.screen, t.level call :: ls, fbs, h⟩)
  | wait {w : Wait} (hp : p.next = .inr (.waiting w))
      (hd : Deed conduct m ⟨p.screen, w.level call :: ls, fbs, h⟩)
  | finish {outcome : Outcome} (hp : p.next = .inr (.finished outcome))
      (hm : m = ⟨p.screen, ⟨call, {}, .returning outcome⟩ :: ls, fbs, h⟩)
  | violated {v : Violation} (hp : p.next = .inr (.violated v))

namespace Screen

variable {s : Screen} {m : Scene} {call : Call} {ls : List Level} {fbs : List Framebuffer}
  {h : List Happening} {id : SwapId} {client : Client} {b : Barrier} {v : Option Verdict}
  {next : Task}

/-- Only a dispatch and a reclaim note more than what the client is told. -/
theorem happens_eq {t : Task} (ht : t.OnlyTells) : s.happens t = (s.step t).next.tells := by
  have hdestroys : t.destroys (s.step t).next = [] := by
    cases t with
    | reclaim id v next => exact ht.elim
    | _ => rfl
  have hresolves : s.resolves t = [] := by
    cases t with
    | dispatch reports next =>
      cases reports with
      | nil => rfl
      | cons report rest => exact ht.elim
    | _ => rfl
  rw [happens, hdestroys, hresolves, List.append_nil, List.append_nil]

/-- Dropping a hold goes on with the next task, or tells the client the outcome. -/
theorem settle_does (hn : next.Keeps) (hnumber : s.registry.next = m.screen.registry.next)
    (hd : Deed conduct m ⟨s.setBarrier id b,
      ⟨call, .owing id v ++ next.agenda, next.ending⟩ :: ls, fbs,
      Happening.ofVerdict id client v ++ h⟩) :
    Does conduct call ls fbs m ((s.settle id (.ok (b, v)) client next).next.tells ++ h)
      (s.settle id (.ok (b, v)) client next) := by
  cases v with
  | none => exact .next rfl hn hnumber hd
  | some verdict => exact .wait rfl hd

/-- A flip that is being queued is given up. -/
theorem giveUp_does (u : Task) {a : Submission} {fb : Framebuffer} {e : Ending}
    (hA : Accounted s (.queueing id fb a ++ Scene.agendaOf ls))
    (hpending : s.registry.isPending a.token = true) (hu : u.Keeps)
    (hagenda : u.agenda = .fanning id fb) (he : e.Leads u.ending) :
    Does conduct call ls fbs ⟨s, ⟨call, .queueing id fb a, e⟩ :: ls, fbs, h⟩
      ((s.resolve a.token none u).next.tells ++ h) (s.resolve a.token none u) := by
  obtain ⟨f, r, w, b, v, hr, hw, hb⟩ := exists_of_resolve hA hpending none
  rw [resolve_eq hr hw hb]
  refine settle_does hu ?_ ?_
  · obtain ⟨p, -, -, rfl⟩ := Registry.of_resolve_eq_ok hr
    rfl
  · rw [hagenda]
    exact .giveUp he hr hw hb

/-- A flip that the channel rejects is given up, which is one deed. -/
theorem fail_does {a : Attempt} {e : SwapError}
    (hA : Accounted s ((Task.retry a).agenda ++ Scene.agendaOf ls))
    (hpending : s.registry.isPending a.submission.token = true)
    (he : ∀ x, e ≠ .importFramebuffer x) :
    Does conduct call ls fbs ⟨s, (Task.retry a).level call :: ls, fbs, h⟩
      ((s.fail a e).next.tells ++ h) (s.fail a e) := by
  have hdoes : Does conduct call ls fbs ⟨s, (Task.retry a).level call :: ls, fbs, h⟩ _ _ :=
    giveUp_does (.conclude a.fanout (some e)) hA hpending trivial rfl (.failed he)
  unfold fail
  cases hdoes with
  | next hp ht hnumber hd => exact .next hp ht hnumber hd
  | wait hp hd => exact .wait hp hd
  | finish hp hm => exact .finish hp hm
  | violated hp => exact .violated hp

/-- Dispatching a report is one deed, which notes the flip that it resolves. -/
theorem dispatch_does {report : Report} {rest : List Report}
    (hA : Accounted s ((Task.dispatch (report :: rest) next).agenda ++ Scene.agendaOf ls))
    (hn : next.Keeps) :
    Does conduct call ls fbs ⟨s, (Task.dispatch (report :: rest) next).level call :: ls, fbs, h⟩
      (s.happens (.dispatch (report :: rest) next) ++ h)
      (s.step (.dispatch (report :: rest) next)) := by
  have hlevel : (Task.dispatch (report :: rest) next).level call =
      ⟨call, .reporting [report] ++ (Task.dispatch rest next).agenda, next.ending⟩ := rfl
  have hhappens : s.happens (.dispatch (report :: rest) next) =
      (s.dispatch report (.dispatch rest next)).next.tells ++
        s.resolves (.dispatch (report :: rest) next) :=
    congrArg (· ++ s.resolves (.dispatch (report :: rest) next)) (List.append_nil _)
  rw [hlevel, hhappens]
  change Does conduct call ls fbs _ _ (s.dispatch report (.dispatch rest next))
  unfold Screen.dispatch
  -- The report comes late, it resolves a flip, or nothing is known of its token.
  cases hlate : s.registry.forget? report.token with
  | some r =>
    have hnext : r.next = s.registry.next := by rw [Registry.of_forget?_eq_some hlate]
    have hnone : s.resolves (.dispatch (report :: rest) next) = [] := by
      simp only [resolves, hlate]
    rw [hnone]
    exact .next rfl hn hnext (.late hlate)
  | none =>
    cases hpending : s.registry.isPending report.token with
    | true =>
      obtain ⟨f, r, w, b, v, hr, hw, hb⟩ := exists_of_resolve hA hpending report.stamp?
      obtain ⟨p, hp, hevent, hrs⟩ := Registry.of_resolve_eq_ok hr
      have hresolves : s.resolves (.dispatch (report :: rest) next) =
          [.resolved f.swap report] := by
        obtain ⟨crtc, event⟩ := p
        obtain rfl : event = .flip f := hevent
        simp only [resolves, hlate, hp]
      dsimp only
      rw [resolve_eq hr hw hb, hresolves, List.append_assoc]
      refine settle_does hn ?_ (.dispatch hr hw hlate hb)
      rw [hrs]
      rfl
    | false =>
      -- This breaks a rule, and nothing is claimed of what follows.
      have hnone := Registry.isPending_eq_false_iff.1 hpending
      have hviolated : (s.resolve report.token report.stamp? (.dispatch rest next)).next =
          .inr (.violated (.notPending report.token)) := by
        simp [Screen.resolve, Registry.resolve, hnone, halt]
      exact .violated hviolated

/-- Aborting the event of a flip is one deed. -/
theorem abort_does {event : Event} {rest : List Event}
    (hA : Accounted s ((Task.abort (event :: rest) next).agenda ++ Scene.agendaOf ls))
    (hn : next.Keeps) :
    Does conduct call ls fbs ⟨s, (Task.abort (event :: rest) next).level call :: ls, fbs, h⟩
      ((s.deliver event none (.abort rest next)).next.tells ++ h)
      (s.deliver event none (.abort rest next)) := by
  have hlevel : (Task.abort (event :: rest) next).level call =
      ⟨call, .aborting [event] ++ (Task.abort rest next).agenda, next.ending⟩ := rfl
  have hA' : Accounted s (.aborting [event] ++ ((Task.abort rest next).agenda ++
      Scene.agendaOf ls)) := hA
  rw [hlevel]
  -- The event is one of a swap, and its barrier still has a hold for it.
  obtain ⟨f, rfl, -⟩ := hA'.events event (by simp)
  obtain ⟨w, hw, hcounts⟩ := hA'.of_aborting
  obtain ⟨b, v, hb⟩ := hcounts.exists_resolve f.reference none
  rw [deliver, settleFlip_eq hw, hb]
  exact settle_does hn rfl (.abort hw hb)

/-- What a swap returns once its flips were queued. -/
theorem level_report (f : Fanout) (error : Option SwapError) :
    (f.report error).level call = ⟨call, {}, .returning (Fanout.outcome f.submitted error)⟩ := by
  unfold Fanout.report Fanout.outcome
  split_ifs
  · cases error <;> rfl
  · rfl

/-- A swap that has come to its end gives up the hold of its submitter, which is one deed. -/
theorem conclude_does {f : Fanout} {error : Option SwapError}
    (hA : Accounted s ((Task.conclude f error).agenda ++ Scene.agendaOf ls)) :
    Does conduct call ls fbs ⟨s, (Task.conclude f error).level call :: ls, fbs, h⟩
      ((s.release f.swap (f.report error)).next.tells ++ h)
      (s.release f.swap (f.report error)) := by
  have hA' : Accounted s (.fanning f.swap f.fb ++ Scene.agendaOf ls) := hA
  -- The submitter's hold is its only one, and it is still there.
  obtain ⟨w, hw, hcounts⟩ := hA'.of_fanning
  rw [hA'.localHolds_eq_zero] at hcounts
  obtain ⟨b, v, hb⟩ := hcounts.exists_release
  have hlevel : (f.report error).level call = _ := level_report f error
  rw [Task.level, Level.mk.injEq] at hlevel
  rw [release_eq hw, hb]
  refine settle_does (Task.keeps_report f error) rfl ?_
  rw [hlevel.2.1, hlevel.2.2, Agenda.append_nil]
  exact .release hw hb

/-- Trying a pipe is one deed: its flip is registered, or the pipe fails. -/
theorem tryPipe_does {f f' : Fanout} {i : Nat} {p : Pipe} (hswap : f'.swap = f.swap)
    (hfb : f'.fb = f.fb) (hsubmitted : f'.submitted = f.submitted)
    (hA : Accounted s ((Task.fan f).agenda ++ Scene.agendaOf ls)) :
    Does conduct call ls fbs ⟨s, (Task.fan f).level call :: ls, fbs, h⟩
      ((s.tryPipe f' i p).next.tells ++ h) (s.tryPipe f' i p) := by
  have hlevel : (Task.fan f).level call = (Task.fan f').level call := by
    simp only [Task.level, Task.agenda, Task.ending, hswap, hfb, hsubmitted]
  have hA' : Accounted s (.fanning f'.swap f'.fb ++ Scene.agendaOf ls) := by
    rw [hswap, hfb]
    exact hA
  rw [hlevel]
  unfold tryPipe
  split
  · exact .next rfl trivial rfl (.pass (.failed fun _ he => by cases he))
  · rename_i token r halloc
    -- The submitter's hold is still there, so the barrier takes another.
    obtain ⟨w, hw, hcounts⟩ := hA'.of_fanning
    obtain ⟨b, hb, -⟩ := hcounts.exists_hold (Nat.succ_pos _)
    have hswaps : (s.setRegistry r).swaps[f'.swap]? = some w := hw
    simp only [hswaps, hb]
    exact .wait rfl (.register rfl halloc hw hb)

/-- Going on to the next pipe is one deed. -/
theorem fan_does {f : Fanout} (hA : Accounted s ((Task.fan f).agenda ++ Scene.agendaOf ls)) :
    Does conduct call ls fbs ⟨s, (Task.fan f).level call :: ls, fbs, h⟩
      ((s.fan f).next.tells ++ h) (s.fan f) := by
  unfold fan
  split
  · exact .next rfl trivial rfl (.pass (.same _))
  · dsimp only
    split
    · exact .next rfl trivial rfl (.pass (.same _))
    · split
      · exact tryPipe_does rfl rfl rfl hA
      · exact .next rfl trivial rfl (.pass (.same _))

/-- Trying a flip again is one deed, and so is giving it up. -/
theorem retry_does {a : Attempt}
    (hA : Accounted s ((Task.retry a).agenda ++ Scene.agendaOf ls)) :
    Does conduct call ls fbs ⟨s, (Task.retry a).level call :: ls, fbs, h⟩
      ((s.retry a).next.tells ++ h) (s.retry a) := by
  unfold retry
  cases hpending : s.registry.isPending a.submission.token with
  | false =>
    -- The flip was aborted while the channel was read.
    simp only [hpending, Bool.not_false, if_true]
    have hnext : (s.registry.forget a.submission.token).next = s.registry.next := by
      rw [Registry.forget_eq]
    exact .next rfl trivial hnext (.lose hpending)
  | true =>
    simp only [hpending, Bool.not_true, Bool.false_eq_true, if_false]
    split
    · exact giveUp_does (.fan a.fanout) hA hpending trivial rfl (.same _)
    · exact .wait rfl (.pass (.same _))

/-- Giving up the framebuffer that a swap leaves over is one deed. -/
theorem reclaim_does {verdict : Verdict}
    (hA : Accounted s ((Task.reclaim id verdict next).agenda ++ Scene.agendaOf ls))
    (hn : next.Keeps) :
    Does conduct call ls fbs ⟨s, (Task.reclaim id verdict next).level call :: ls, fbs, h⟩
      (s.happens (.reclaim id verdict next) ++ h) (s.step (.reclaim id verdict next)) := by
  have hlt : id < s.swaps.length := hA.reclaims (id, verdict) List.mem_cons_self
  have hw := List.getElem?_eq_getElem hlt
  have hd := @Deed.reclaim conduct s call id verdict next.agenda next.ending _ ls fbs h hw
  have hstep : s.step (.reclaim id verdict next) = s.reclaim id verdict next := rfl
  unfold happens
  rw [hstep]
  simp only [Screen.reclaim, hw]
  split_ifs with hfb
  · rw [if_pos hfb] at hd
    exact .next rfl hn rfl hd
  · rw [if_neg hfb] at hd
    exact .wait rfl hd

/-- Where a step of an operation leads. -/
theorem step_does {t : Task} (hA : Accounted s (t.agenda ++ Scene.agendaOf ls))
    (ht : t.Proceeds) :
    Does conduct call ls fbs ⟨s, t.level call :: ls, fbs, h⟩ (s.happens t ++ h) (s.step t) := by
  cases t with
  | fan f =>
    rw [happens_eq (t := .fan f) trivial]
    exact fan_does hA
  | retry a =>
    rw [happens_eq (t := .retry a) trivial]
    exact retry_does hA
  | conclude f error =>
    rw [happens_eq (t := .conclude f error) trivial]
    exact conclude_does hA
  | dispatch reports next =>
    cases reports with
    | nil => exact .next rfl ht rfl (.pass (.same _))
    | cons report rest => exact dispatch_does hA ht
  | abort events next =>
    rw [happens_eq (t := .abort events next) trivial]
    cases events with
    | nil => exact .next rfl ht rfl (.pass (.same _))
    | cons event rest => exact abort_does hA ht
  | reclaim id verdict next => exact reclaim_does hA ht
  | say notice next => exact .next rfl ht rfl (.pass (.same _))
  | finish outcome => exact .finish rfl rfl

end Screen

end PageFlip
