import PageFlip.Proofs.Unattended

/-!
# Operations in planned surroundings

A `Plan` says for every controller what the channel answers the submissions to it, one after the
other. `Turn.Planned` says how an operation goes on to its end if the channel keeps to a plan, the
channel is found empty whenever it is read because it was full, and handlers only return, whatever
the device answers when it is asked to give up a framebuffer: what is exchanged with the
surroundings on the way, and what holds of the screen and of the result in the end. There is only
one way to go on (`Turn.Planned.unique`). It is shown step by step (`Follow.Planned.turn`).
-/

namespace PageFlip

/-- What the channel answers one submission, and when. -/
structure Decision where
  result : Except SubmitError Unit
  time : Instant

/-- What a decision comes to: the time of an acceptance or the reason of a rejection; none if the
channel was full. -/
def Decision.final? (d : Decision) : Option (Except Errno Instant) :=
  match d.result with
  | .ok () => some (.ok d.time)
  | .error (.rejected e) => some (.error e)
  | .error .channelFull => none

/-- What the channel answers the submissions to each controller, one after the other. -/
abbrev Plan := Crtc → Nat → Decision

/-- What is left of a plan after a submission to a controller. -/
def Plan.pass (plan : Plan) (crtc : Crtc) : Plan :=
  fun c n => plan c (if c = crtc then n + 1 else n)

/-- After a submission the plan goes on with the next answer. -/
theorem Plan.pass_self (plan : Plan) (crtc : Crtc) :
    plan.pass crtc crtc = fun n => plan crtc (n + 1) :=
  funext fun _ => congrArg _ (if_pos rfl)

/-- A submission to one controller is nothing to the others. -/
theorem Plan.pass_of_ne (plan : Plan) {crtc c : Crtc} (h : c ≠ crtc) : plan.pass crtc c = plan c :=
  funext fun _ => congrArg _ (if_neg h)

/-- What the channel answers the first `n` submissions to a controller. -/
def Plan.first (plan : Plan) (crtc : Crtc) (n : Nat) : List Decision :=
  (List.range n).map (plan crtc)

/-- What counts of a plan for a controller are the answers for it. -/
theorem Plan.first_congr {plan plan' : Plan} {crtc : Crtc} (h : plan' crtc = plan crtc) (n : Nat) :
    plan'.first crtc n = plan.first crtc n := by
  simp only [first, h]

/-- The first answers are the next one and those behind it. -/
theorem Plan.first_succ (plan : Plan) (crtc : Crtc) (n : Nat) :
    plan.first crtc (n + 1) = plan crtc 0 :: (plan.pass crtc).first crtc n := by
  simp only [first, pass_self, List.range_succ_eq_map, List.map_cons, List.map_map]
  rfl

/-- What an operation exchanges with its surroundings. -/
inductive Exchange
  /-- A flip is submitted and answered. -/
  | submitted (f : Submission) (result : Except SubmitError Unit)
  /-- The channel is read, and nothing is ready. -/
  | looked
  /-- A handler is told the outcome of a swap or of an event. -/
  | told (news : News)
  /-- The device is asked to give up a framebuffer. -/
  | removed (fb : Framebuffer)

/-- An operation above `waits` goes on to an end for which `post` holds, with these exchanges. -/
inductive Turn.Planned (waits : List Wait) (post : Screen → Outcome → Prop) :
    Plan → Turn → List Exchange → Prop
  | returned {plan : Plan} {s : Screen} {notices : List Notice} {o : Outcome} (h : post s o) :
      Planned waits post plan ⟨⟨s, waits, none⟩, notices, some o⟩ []
  | submitted {plan : Plan} {t u : Turn} {a : Attempt} {es : List Exchange}
      (hwaits : t.session.waits = .attempting a :: waits)
      (hu : t.session.answer (.submitted (plan a.submission.crtc 0).result
        (plan a.submission.crtc 0).time) = some u)
      (h : Planned waits post (plan.pass a.submission.crtc) u es) :
      Planned waits post plan t (.submitted a.submission (plan a.submission.crtc 0).result :: es)
  | looked {plan : Plan} {t u : Turn} {a : Attempt} {es : List Exchange}
      (hwaits : t.session.waits = .reading (some a) :: waits)
      (hu : t.session.answer (.read (.ok none)) = some u) (h : Planned waits post plan u es) :
      Planned waits post plan t (.looked :: es)
  | told {plan : Plan} {t u : Turn} {news : News} {next : Task} {es : List Exchange}
      (hwaits : t.session.waits = .telling news next :: waits)
      (hu : t.session.answer .returned = some u) (h : Planned waits post plan u es) :
      Planned waits post plan t (.told news :: es)
  | destroyed {plan : Plan} {t : Turn} {u : Except DeviceError Unit → Turn} {fb : Framebuffer}
      {next : Task} {es : List Exchange} (hwaits : t.session.waits = .destroying fb next :: waits)
      (hu : ∀ result, t.session.answer (.destroyed result) = some (u result))
      (h : ∀ result, Planned waits post plan (u result) es) :
      Planned waits post plan t (.removed fb :: es)

/-- There is only one way to go on. -/
theorem Turn.Planned.unique {waits : List Wait} {post post' : Screen → Outcome → Prop} {plan : Plan}
    {t : Turn} {es es' : List Exchange} (h : t.Planned waits post plan es)
    (h' : t.Planned waits post' plan es') : es = es' ∧ ∃ s o, post s o ∧ post' s o := by
  have hmore {w : Wait} : waits ≠ w :: waits := fun heq =>
    Nat.ne_of_lt (Nat.lt_succ_self _) (congrArg List.length heq)
  -- What is on top of the waits says which rule applies, and so it is the same one on both sides.
  induction h generalizing es' with
  | @returned plan s notices o h =>
    generalize ht : (⟨⟨s, waits, none⟩, notices, some o⟩ : Turn) = t at h'
    cases h' with
    | returned h' =>
      cases ht
      exact ⟨rfl, s, o, h, h'⟩
    | submitted hwaits => cases ht; exact absurd hwaits hmore
    | looked hwaits => cases ht; exact absurd hwaits hmore
    | told hwaits => cases ht; exact absurd hwaits hmore
    | destroyed hwaits => cases ht; exact absurd hwaits hmore
  | submitted hwaits hu _ ih =>
    cases h' with
    | returned => exact absurd hwaits hmore
    | submitted hwaits' hu' h' =>
      cases hwaits.symm.trans hwaits'
      cases hu.symm.trans hu'
      obtain ⟨rfl, hend⟩ := ih h'
      exact ⟨rfl, hend⟩
    | looked hwaits' => cases hwaits.symm.trans hwaits'
    | told hwaits' => cases hwaits.symm.trans hwaits'
    | destroyed hwaits' => cases hwaits.symm.trans hwaits'
  | looked hwaits hu _ ih =>
    cases h' with
    | returned => exact absurd hwaits hmore
    | submitted hwaits' => cases hwaits.symm.trans hwaits'
    | looked hwaits' hu' h' =>
      cases hu.symm.trans hu'
      obtain ⟨rfl, hend⟩ := ih h'
      exact ⟨rfl, hend⟩
    | told hwaits' => cases hwaits.symm.trans hwaits'
    | destroyed hwaits' => cases hwaits.symm.trans hwaits'
  | told hwaits hu _ ih =>
    cases h' with
    | returned => exact absurd hwaits hmore
    | submitted hwaits' => cases hwaits.symm.trans hwaits'
    | looked hwaits' => cases hwaits.symm.trans hwaits'
    | told hwaits' hu' h' =>
      cases hwaits.symm.trans hwaits'
      cases hu.symm.trans hu'
      obtain ⟨rfl, hend⟩ := ih h'
      exact ⟨rfl, hend⟩
    | destroyed hwaits' => cases hwaits.symm.trans hwaits'
  | destroyed hwaits hu _ ih =>
    cases h' with
    | returned => exact absurd hwaits hmore
    | submitted hwaits' => cases hwaits.symm.trans hwaits'
    | looked hwaits' => cases hwaits.symm.trans hwaits'
    | told hwaits' => cases hwaits.symm.trans hwaits'
    | destroyed hwaits' hu' h' =>
      cases hwaits.symm.trans hwaits'
      have hsame := Option.some.inj ((hu (.ok ())).symm.trans (hu' (.ok ())))
      obtain ⟨rfl, hend⟩ := ih (.ok ()) (hsame ▸ h' (.ok ()))
      exact ⟨rfl, hend⟩

/-- How an operation goes on to its end in the same way, from step to step. -/
inductive Follow.Planned (post : Screen → Outcome → Prop) :
    Plan → Screen → Follow → List Exchange → Prop
  | finished {plan : Plan} {s : Screen} {o : Outcome} (h : post s o) :
      Planned post plan s (.inr (.finished o)) []
  | step {plan : Plan} {s : Screen} {t : Task} {es : List Exchange}
      (h : Planned post plan (s.step t).screen (s.step t).next es) :
      Planned post plan s (.inl t) es
  | submitted {plan : Plan} {s : Screen} {a : Attempt} {p : Progress Follow} {es : List Exchange}
      (hp : s.resume (.attempting a) (.submitted (plan a.submission.crtc 0).result
        (plan a.submission.crtc 0).time) = some p)
      (h : Planned post (plan.pass a.submission.crtc) p.screen p.next es) :
      Planned post plan s (.inr (.waiting (.attempting a)))
        (.submitted a.submission (plan a.submission.crtc 0).result :: es)
  | looked {plan : Plan} {s : Screen} {a : Attempt} {es : List Exchange}
      (h : Planned post plan (s.afterRead a (.ok none)).screen (s.afterRead a (.ok none)).next es) :
      Planned post plan s (.inr (.waiting (.reading (some a)))) (.looked :: es)
  | telling {plan : Plan} {s : Screen} {news : News} {next : Task} {es : List Exchange}
      (h : Planned post plan s (.inl next) es) :
      Planned post plan s (.inr (.waiting (.telling news next))) (.told news :: es)
  | destroying {plan : Plan} {s : Screen} {fb : Framebuffer} {next : Task} {es : List Exchange}
      (h : Planned post plan s (.inl next) es) :
      Planned post plan s (.inr (.waiting (.destroying fb next))) (.removed fb :: es)

/-- How an operation goes on from step to step is how it goes on from rest to rest. -/
theorem Follow.Planned.turn {post : Screen → Outcome → Prop} {plan : Plan} {s : Screen} {f : Follow}
    {es : List Exchange} (h : f.Planned post plan s es) (waits : List Wait)
    (notices : List Notice) :
    (Session.settle waits (Screen.proceed ⟨s, notices, f⟩)).Planned waits post plan es := by
  induction h generalizing notices with
  | finished h => exact .returned h
  | @step plan s t es _ ih =>
    have hwork := Screen.proceed_work s notices t
    unfold Screen.work at hwork
    rw [hwork]
    exact ih _
  | submitted hp _ ih => exact .submitted rfl (congrArg (Option.map _) hp) (ih _)
  | looked _ ih => exact .looked rfl rfl (ih _)
  | telling _ ih => exact .told rfl rfl (ih [])
  | @destroying plan s fb next es _ ih =>
    exact .destroyed rfl (Session.answer_destroyed s waits fb next) fun result => ih _

/-! ## One flip -/

/-- What is exchanged over a flip that is submitted until the channel decides on it, as often as
there are answers. Whenever the channel is full it is read. -/
def Submission.tries (f : Submission) : List Decision → List Exchange
  | [] => []
  | d :: ds => .submitted f d.result :: if d.final?.isNone then .looked :: f.tries ds else []

/-- How a flip goes on after what its submissions came to. -/
def Screen.decided (s : Screen) (a : Attempt) : Option (Except Errno Instant) → Progress Follow
  | some (.ok time) => s.accepted a time
  | some (.error e) => s.fail a (.submit a.submission.crtc e)
  | none => s.fail a (.channelStalled a.submission.crtc)

namespace Decision

variable {d : Decision}

/-- Without a decision the channel was full. -/
theorem result_of_final?_eq_none (h : d.final? = none) : d.result = .error .channelFull := by
  unfold final? at h
  split at h
  · cases h
  · cases h
  · assumption

/-- A flip goes on after the decision on it. -/
theorem resume_of_final?_eq_some {r : Except Errno Instant} (h : d.final? = some r) (s : Screen)
    (a : Attempt) :
    s.resume (.attempting a) (.submitted d.result d.time) = some (s.decided a (some r)) := by
  unfold final? at h
  split at h
  · rename_i hresult
    cases h
    rw [hresult]
    rfl
  · rename_i e hresult
    cases h
    rw [hresult]
    rfl
  · cases h

end Decision

namespace Follow.Planned

variable {post : Screen → Outcome → Prop} {plan : Plan} {s : Screen}

/-- The channel is full, and read. -/
theorem full {a : Attempt} {es : List Exchange}
    (hfull : (plan a.submission.crtc 0).final? = none)
    (h : Follow.Planned post (plan.pass a.submission.crtc) (s.afterRead a (.ok none)).screen
      (s.afterRead a (.ok none)).next es) :
    Follow.Planned post plan s (.inr (.waiting (.attempting a)))
      (.submitted a.submission (plan a.submission.crtc 0).result :: .looked :: es) := by
  refine .submitted (p := s.halt [] (.waiting (.reading (some a)))) ?_ (.looked h)
  rw [Decision.result_of_final?_eq_none hfull]
  rfl

/-- A flip whose pipe still wants it is submitted again. -/
theorem retry {a : Attempt} {es : List Exchange}
    (hpending : s.registry.isPending a.submission.token = true)
    (henabled : s.isEnabled a.pipe = true)
    (h : Follow.Planned post plan s (.inr (.waiting (.attempting a))) es) :
    Follow.Planned post plan s (.inl (.retry a)) es := by
  refine .step ?_
  show Follow.Planned post plan (s.retry a).screen (s.retry a).next es
  simp only [Screen.retry, hpending, henabled, Bool.not_true, Bool.false_eq_true, if_false]
  exact h

/-- A flip that is still wanted is submitted until the channel decides on it, `n + 1` times at
most. -/
theorem attempting {a : Attempt} {es : List Exchange} {n : Nat}
    (hpending : s.registry.isPending a.submission.token = true)
    (henabled : s.isEnabled a.pipe = true) (hidle : a.idle + n = s.config.maxIdleRetries.toNat)
    (hnext : ∀ plan' : Plan, (∀ c, c ≠ a.submission.crtc → plan' c = plan c) →
      let p := s.decided a ((plan.first a.submission.crtc (n + 1)).findSome? Decision.final?)
      Follow.Planned post plan' p.screen p.next es) :
    Follow.Planned post plan s (.inr (.waiting (.attempting a)))
      (a.submission.tries (plan.first a.submission.crtc (n + 1)) ++ es) := by
  induction n generalizing a plan with
  | zero =>
    have hdecided := hnext _ fun c hc => plan.pass_of_ne hc
    rw [Plan.first_succ, List.findSome?_cons] at hdecided
    rw [Plan.first_succ, Submission.tries]
    cases hfinal : (plan a.submission.crtc 0).final? with
    | some r =>
      rw [hfinal] at hdecided
      exact .submitted (Decision.resume_of_final?_eq_some hfinal s a) hdecided
    | none =>
      rw [hfinal] at hdecided
      refine full hfinal ?_
      have hstalled : s.afterRead a (.ok none) = s.decided a none := if_neg (by omega)
      rw [hstalled]
      exact hdecided
  | succ n ih =>
    rw [Plan.first_succ, Submission.tries]
    cases hfinal : (plan a.submission.crtc 0).final? with
    | some r =>
      have hdecided := hnext _ fun c hc => plan.pass_of_ne hc
      rw [Plan.first_succ, List.findSome?_cons, hfinal] at hdecided
      exact .submitted (Decision.resume_of_final?_eq_some hfinal s a) hdecided
    | none =>
      refine full hfinal ?_
      -- The rest of the answers is for the same flip, with one more fruitless read behind it.
      let b : Attempt := { a with idle := a.idle + 1 }
      have hagain : s.afterRead a (.ok none) = s.work [] (.retry b) := if_pos (by omega)
      rw [hagain]
      refine retry hpending henabled (ih (a := b) hpending henabled ?_ fun plan' hplan' => ?_)
      · show a.idle + 1 + n = _
        omega
      · have hdecided := hnext plan' fun c hc => (hplan' c hc).trans (plan.pass_of_ne hc)
        rw [Plan.first_succ, List.findSome?_cons, hfinal] at hdecided
        exact hdecided

end Follow.Planned

end PageFlip
