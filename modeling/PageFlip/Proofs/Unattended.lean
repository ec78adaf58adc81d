import Mathlib.Tactic.SplitIfs
import PageFlip.Proofs.Continues
import PageFlip.Session.Basic

/-!
# Operations whose handlers only return

`Turn.Unattended` says of an operation with nothing below it how it ends if handlers only return,
whatever the device answers: what the clients are told, which framebuffers the device is asked to
give up, the screen in the end and what the operation returns. It is shown step by step
(`Follow.Unattended.turn`). `Screen.Drains` puts together drains that read one batch after the
other.
-/

namespace PageFlip

/-- How an operation goes on to its end where handlers only return: what is told, what is given up,
the screen that it leaves and what it returns. -/
inductive Follow.Unattended :
    Screen → Follow → List News → List Framebuffer → Screen → Outcome → Prop
  | finished {s : Screen} {o : Outcome} : Unattended s (.inr (.finished o)) [] [] s o
  | step {s s' : Screen} {t : Task} {ns : List News} {fbs : List Framebuffer} {o : Outcome}
      (h : Unattended (s.step t).screen (s.step t).next ns fbs s' o) :
      Unattended s (.inl t) ns fbs s' o
  | telling {s s' : Screen} {n : News} {next : Task} {ns : List News} {fbs : List Framebuffer}
      {o : Outcome} (h : Unattended s (.inl next) ns fbs s' o) :
      Unattended s (.inr (.waiting (.telling n next))) (n :: ns) fbs s' o
  | destroying {s s' : Screen} {fb : Framebuffer} {next : Task} {ns : List News}
      {fbs : List Framebuffer} {o : Outcome} (h : Unattended s (.inl next) ns fbs s' o) :
      Unattended s (.inr (.waiting (.destroying fb next))) ns (fb :: fbs) s' o

/-- An operation with nothing below it ends like this where handlers only return, whatever the
device answers when it is asked to give up a framebuffer. -/
inductive Turn.Unattended : Turn → List News → List Framebuffer → Screen → Outcome → Prop
  | ended {s : Screen} {notices : List Notice} {o : Outcome} :
      Unattended ⟨⟨s, [], none⟩, notices, some o⟩ [] [] s o
  | told {t u : Turn} {n : News} {next : Task} {ns : List News} {fbs : List Framebuffer}
      {s : Screen} {o : Outcome} (hwaits : t.session.waits = [.telling n next])
      (hu : t.session.answer .returned = some u) (h : Unattended u ns fbs s o) :
      Unattended t (n :: ns) fbs s o
  | destroyed {t : Turn} {u : Except DeviceError Unit → Turn} {fb : Framebuffer} {next : Task}
      {ns : List News} {fbs : List Framebuffer} {s : Screen} {o : Outcome}
      (hwaits : t.session.waits = [.destroying fb next])
      (hu : ∀ result, t.session.answer (.destroyed result) = some (u result))
      (h : ∀ result, Unattended (u result) ns fbs s o) : Unattended t ns (fb :: fbs) s o

/-- There is only one way in which an operation ends like this. -/
theorem Turn.Unattended.unique {t : Turn} {ns ns' : List News} {fbs fbs' : List Framebuffer}
    {s s' : Screen} {o o' : Outcome} (h : t.Unattended ns fbs s o)
    (h' : t.Unattended ns' fbs' s' o') : ns = ns' ∧ fbs = fbs' ∧ s = s' ∧ o = o' := by
  induction h generalizing ns' fbs' s' o' with
  | ended =>
    cases h' with
    | ended => exact ⟨rfl, rfl, rfl, rfl⟩
    | told hwaits => cases hwaits
    | destroyed hwaits => cases hwaits
  | told hwaits hu _ ih =>
    cases h' with
    | ended => cases hwaits
    | told hwaits' hu' h' =>
      cases hwaits.symm.trans hwaits'
      cases hu.symm.trans hu'
      obtain ⟨rfl, hrest⟩ := ih h'
      exact ⟨rfl, hrest⟩
    | destroyed hwaits' => cases hwaits.symm.trans hwaits'
  | destroyed hwaits hu _ ih =>
    cases h' with
    | ended => cases hwaits
    | told hwaits' => cases hwaits.symm.trans hwaits'
    | destroyed hwaits' hu' h' =>
      cases hwaits.symm.trans hwaits'
      have hsame := Option.some.inj ((hu (.ok ())).symm.trans (hu' (.ok ())))
      obtain ⟨rfl, rfl, hrest⟩ := ih (.ok ()) (hsame ▸ h' (.ok ()))
      exact ⟨rfl, rfl, hrest⟩

/-- A step is part of a run to rest. -/
theorem Screen.proceed_work (s : Screen) (notices : List Notice) (t : Task) :
    proceed (s.work notices t) =
      proceed ⟨(s.step t).screen, notices ++ (s.step t).notices, (s.step t).next⟩ := by
  show (s.run t).after notices = _
  rw [run_eq]
  unfold proceed
  dsimp only
  cases (s.step t).next with
  | inl u => simp only [Progress.after, List.append_assoc]
  | inr r => rfl

/-- The lines on what the device answers when it is asked to give up a framebuffer. -/
def Framebuffer.leaks (fb : Framebuffer) : Except DeviceError Unit → List Notice
  | .ok () => []
  | .error e => [.leaked fb e]

/-- Whatever the device answers then, the operation goes on. -/
theorem Session.answer_destroyed (s : Screen) (waits : List Wait) (fb : Framebuffer) (next : Task)
    (result : Except DeviceError Unit) :
    (Session.mk s (.destroying fb next :: waits) none).answer (.destroyed result) =
      some (settle waits (Screen.proceed ⟨s, fb.leaks result, .inl next⟩)) := by
  cases result with
  | ok => rfl
  | error e => rfl

/-- How an operation goes on from step to step is how it goes on from rest to rest. -/
theorem Follow.Unattended.turn {s s' : Screen} {f : Follow} {ns : List News}
    {fbs : List Framebuffer} {o : Outcome} (h : f.Unattended s ns fbs s' o)
    (notices : List Notice) :
    (Session.settle [] (Screen.proceed ⟨s, notices, f⟩)).Unattended ns fbs s' o := by
  induction h generalizing notices with
  | finished => exact .ended
  | @step s s' t ns fbs o _ ih =>
    have hwork := Screen.proceed_work s notices t
    unfold Screen.work at hwork
    rw [hwork]
    exact ih _
  | @telling s s' n next ns fbs o _ ih => exact .told rfl rfl (ih [])
  | @destroying s s' fb next ns fbs o _ ih =>
    exact .destroyed rfl (Session.answer_destroyed s [] fb next) fun result => ih _

namespace Follow.Unattended

variable {s s' : Screen} {next : Task} {ns : List News} {fbs : List Framebuffer} {o : Outcome}

/-- A swap that took effect gives up what it displaced, and its slot stays as it is. -/
theorem reclaim {id : SwapId} {w : Swap} {v : Verdict} (hw : s.swaps[id]? = some w)
    (hv : v.tookEffect = true) (h : Follow.Unattended s (.inl next) ns fbs s' o) :
    Follow.Unattended s (.inl (.reclaim id v next)) ns
      ((if w.barrier.oldFb.isNone then [] else [w.barrier.oldFb]) ++ fbs) s' o := by
  refine .step ?_
  simp only [Screen.step, Screen.reclaim_of_tookEffect hw hv]
  split_ifs
  · exact h
  · exact .destroying h

end Follow.Unattended

/-- Reports are read by drains, one batch after the other, where handlers only return: what is told,
what is given up, and the screen in the end. -/
inductive Screen.Drains :
    Screen → List (List Report) → List News → List Framebuffer → Screen → Prop
  | nil {s : Screen} : Drains s [] [] [] s
  | cons {s s' s'' : Screen} {reports : List Report} {batches : List (List Report)} {t u : Turn}
      {ns ns' : List News} {fbs fbs' : List Framebuffer}
      (ht : (Session.new s).call .drain = some t)
      (hu : t.session.answer (.read (.ok (some reports))) = some u)
      (h : u.Unattended ns fbs s' (.drained (.ok (.handled reports.length))))
      (hrest : Drains s' batches ns' fbs' s'') :
      Drains s (reports :: batches) (ns ++ ns') (fbs ++ fbs') s''

/-- There is only one way in which the batches are read. -/
theorem Screen.Drains.unique {s s' s'' : Screen} {batches : List (List Report)}
    {ns ns' : List News} {fbs fbs' : List Framebuffer} (h : s.Drains batches ns fbs s')
    (h' : s.Drains batches ns' fbs' s'') : ns = ns' ∧ fbs = fbs' ∧ s' = s'' := by
  induction h generalizing ns' fbs' s'' with
  | nil =>
    cases h'
    exact ⟨rfl, rfl, rfl⟩
  | cons ht hu hend _ ih =>
    cases h' with
    | cons ht' hu' hend' hrest' =>
      cases ht.symm.trans ht'
      cases hu.symm.trans hu'
      obtain ⟨rfl, rfl, rfl, -⟩ := hend.unique hend'
      obtain ⟨rfl, rfl, rfl⟩ := ih hrest'
      exact ⟨rfl, rfl, rfl⟩

end PageFlip
