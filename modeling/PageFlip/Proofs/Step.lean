import Mathlib.Logic.Relation
import PageFlip.Proofs.Accounting

/-!
# Operations proceed by changes

A step of an operation carries out one change (`step_stepped`), and what follows until the operation
comes to rest is a row of silent changes with one last change that the surroundings may take part
in (`ends_of_stepped`). The only rule that can be broken on the way is that of the registry, by a
report on a token that is neither pending nor retired: the account of the holds rules out all
others.
-/

namespace PageFlip

/-- A change in which the surroundings take no part. -/
def Silent (a b : Screen × Agenda) : Prop := Change a.1 a.2 .silent b.1 b.2

/-- Any number of silent changes. -/
abbrev Silently : Screen × Agenda → Screen × Agenda → Prop := Relation.ReflTransGen Silent

/-- What the surroundings do not notice keeps the accounts in order. -/
theorem Accounted.silently {a b : Screen × Agenda} (h : Accounted a.1 a.2) (hp : Silently a b) :
    Accounted b.1 b.2 := by
  induction hp with
  | refl => exact h
  | tail _ hc ih => exact ih.change hc

/-- What the surroundings see when an operation comes to rest on its own. -/
def Rest.Shows (s : Screen) (l : Label) : Rest → Prop
  | .waiting (.attempting a) =>
    (l = .silent ∨ l = .registered) ∧ s.registry.isPending a.submission.token = true
  | .waiting (.telling news (.reclaim id v next)) =>
    l = .told id news ∧ (∃ client, news = .swap client v.stamp) ∧ next.Keeps
  | .finished _ => l = .silent
  | _ => False

/-- A step is one change, above operations with the agenda `k`, or it meets a report on a token that
is neither pending nor retired. -/
inductive Stepped (s : Screen) (g k : Agenda) (p : Progress Follow) : Prop
  | next {t : Task} (hp : p.next = .inl t) (ht : t.Keeps)
      (hc : Change s g .silent p.screen (t.agenda ++ k))
  | rest {r : Rest} {l : Label} (hp : p.next = .inr r) (hr : r.Shows p.screen l)
      (hc : Change s g l p.screen (r.agenda ++ k))
  | stray {report : Report} {h : Agenda} (hg : g = .reporting [report] ++ (h ++ k))
      (hs : p.screen = s) (hp : p.next = .inr (.violated (.notPending report.token)))
      (hfree : s.registry.occupies report.token = false)

namespace Screen

variable {s s₀ : Screen} {g k : Agenda} {id : SwapId} {client : Client} {f : Flip} {b : Barrier}
  {v : Option Verdict} {stamp : Option Stamp} {next : Task}

/-- Dropping a hold goes on with the next task, or tells the client the outcome. -/
theorem settle_stepped
    (hc : Change s₀ g (.ofVerdict id client v) (s.setBarrier id b)
      (.owing id v ++ (next.agenda ++ k))) (hn : next.Keeps) :
    Stepped s₀ g k (s.settle id (.ok (b, v)) client next) := by
  -- With the last hold the operation rests in the handler, else it goes on.
  cases v with
  | none => exact .next rfl hn hc
  | some verdict => exact .rest rfl ⟨rfl, ⟨client, rfl⟩, hn⟩ hc

/-- A flip of a swap that is there is resolved on its barrier. -/
theorem settleFlip_eq {w : Swap} (hw : s.swaps[f.swap]? = some w) :
    s.settleFlip f stamp next =
      s.settle f.swap (w.barrier.resolve f.reference stamp) w.client next := by
  simp only [settleFlip, hw]

/-- The submitter of a swap that is there gives up its hold on the barrier. -/
theorem release_eq {w : Swap} (hw : s.swaps[id]? = some w) :
    s.release id next = s.settle id w.barrier.release w.client next := by
  simp only [release, hw]

/-- The event of a pending token belongs to a swap, whose barrier has a hold for it. -/
theorem exists_of_resolve {t : Token} (h : Accounted s g)
    (hpending : s.registry.isPending t = true) (stamp : Option Stamp) :
    ∃ f r w b v, s.registry.resolve t = .ok (.flip f, r) ∧ s.swaps[f.swap]? = some w ∧
      w.barrier.resolve f.reference stamp = .ok (b, v) := by
  cases hr : s.registry.resolve t with
  | error v =>
    have := (Registry.of_resolve_eq_error hr).1
    rw [hpending] at this
    cases this
  | ok er =>
    obtain ⟨event, r⟩ := er
    have hout := h.of_resolve hr
    obtain ⟨f, rfl, -⟩ := hout.events event (by simp)
    obtain ⟨w, hw, hcounts⟩ := hout.of_aborting
    obtain ⟨b, v, hb⟩ := hcounts.exists_resolve f.reference stamp
    exact ⟨f, r, w, b, v, rfl, hw, hb⟩

/-- The flip of a pending token is resolved on the barrier of its swap. -/
theorem resolve_eq {t : Token} {r : Registry Event} {w : Swap}
    (hr : s.registry.resolve t = .ok (.flip f, r)) (hw : s.swaps[f.swap]? = some w)
    (hb : w.barrier.resolve f.reference stamp = .ok (b, v)) :
    s.resolve t stamp next = (s.setRegistry r).settle f.swap (.ok (b, v)) w.client next := by
  simp only [Screen.resolve, hr, deliver]
  rw [settleFlip_eq (s := s.setRegistry r) hw, hb]

/-- A flip that is being queued is given up. -/
theorem giveUp_stepped (u : Task) {a : Submission} {fb : Framebuffer}
    (h : Accounted s (.queueing id fb a ++ k)) (hpending : s.registry.isPending a.token = true)
    (hn : u.Keeps) (hagenda : u.agenda = .fanning id fb) :
    Stepped s (.queueing id fb a ++ k) k (s.resolve a.token none u) := by
  obtain ⟨f, r, w, b, v, hr, hw, hb⟩ := exists_of_resolve h hpending none
  rw [resolve_eq hr hw hb]
  apply settle_stepped _ hn
  rw [hagenda]
  exact .giveUp hr hw hb

/-- A flip that the channel rejects is given up. -/
theorem fail_stepped {a : Attempt} {e : SwapError}
    (h : Accounted s ((Task.retry a).agenda ++ k))
    (hpending : s.registry.isPending a.submission.token = true) :
    Stepped s ((Task.retry a).agenda ++ k) k (s.fail a e) := by
  have hstep := giveUp_stepped (.conclude a.fanout (some e)) h hpending trivial rfl
  unfold fail
  cases hstep with
  | next hp ht hc => exact .next hp ht hc
  | rest hp hr hc => exact .rest hp hr hc
  | stray hg hs hp hfree => exact .stray hg hs hp hfree

/-- A report is dispatched, on time or late. -/
theorem dispatch_stepped {report : Report} {rest : List Report}
    (h : Accounted s ((Task.dispatch (report :: rest) next).agenda ++ k)) (hn : next.Keeps) :
    Stepped s ((Task.dispatch (report :: rest) next).agenda ++ k) k
      (s.dispatch report (.dispatch rest next)) := by
  have hg : (Task.dispatch (report :: rest) next).agenda ++ k =
      .reporting [report] ++ ((Task.dispatch rest next).agenda ++ k) := rfl
  rw [hg] at h ⊢
  unfold Screen.dispatch
  split
  · rename_i r hr
    exact .next rfl hn (.late hr)
  · rename_i hlate
    cases hpending : s.registry.isPending report.token with
    | true =>
      obtain ⟨f, r, w, b, v, hr, hw, hb⟩ := exists_of_resolve h hpending report.stamp?
      rw [resolve_eq hr hw hb]
      exact settle_stepped (.dispatch hlate hr hw hb) hn
    | false =>
      have hnone := Registry.isPending_eq_false_iff.1 hpending
      -- Neither pending nor retired: the registry's rule is broken by this report.
      have hretired := Registry.forget?_eq_none_iff.1 hlate
      refine .stray rfl ?_ ?_ ?_
      · simp [Screen.resolve, Registry.resolve, hnone, halt]
      · simp [Screen.resolve, Registry.resolve, hnone, halt]
      · simp [Registry.occupies_eq, hnone, hretired]

/-- The event of a flip is aborted. -/
theorem abort_stepped {event : Event} {rest : List Event}
    (h : Accounted s ((Task.abort (event :: rest) next).agenda ++ k)) (hn : next.Keeps) :
    Stepped s ((Task.abort (event :: rest) next).agenda ++ k) k
      (s.deliver event none (.abort rest next)) := by
  have hg : (Task.abort (event :: rest) next).agenda ++ k =
      .aborting [event] ++ ((Task.abort rest next).agenda ++ k) := rfl
  rw [hg] at h ⊢
  -- The event is one of a swap, and its barrier still has a hold for it.
  obtain ⟨f, rfl, -⟩ := h.events event (by simp)
  obtain ⟨w, hw, hcounts⟩ := h.of_aborting
  obtain ⟨b, v, hb⟩ := hcounts.exists_resolve f.reference none
  rw [deliver, settleFlip_eq hw, hb]
  exact settle_stepped (.abort hw hb) hn

/-- A swap that has come to its end gives up the hold of its submitter. -/
theorem conclude_stepped {f : Fanout} {error : Option SwapError}
    (h : Accounted s ((Task.conclude f error).agenda ++ k)) :
    Stepped s ((Task.conclude f error).agenda ++ k) k (s.release f.swap (f.report error)) := by
  have hg : (Task.conclude f error).agenda ++ k = .fanning f.swap f.fb ++ k := rfl
  rw [hg] at h ⊢
  -- The submitter's hold is its only one, and it is still there.
  obtain ⟨w, hw, hcounts⟩ := h.of_fanning
  rw [h.localHolds_eq_zero] at hcounts
  obtain ⟨b, v, hb⟩ := hcounts.exists_release
  rw [release_eq hw, hb]
  apply settle_stepped _ (Task.keeps_report f error)
  rw [Task.agenda_report]
  exact .release hw hb

/-- A pipe is tried. -/
theorem tryPipe_stepped {f f' : Fanout} {i : Nat} {p : Pipe} (hswap : f'.swap = f.swap)
    (hfb : f'.fb = f.fb) (h : Accounted s ((Task.fan f).agenda ++ k)) :
    Stepped s ((Task.fan f).agenda ++ k) k (s.tryPipe f' i p) := by
  have hg : (Task.fan f).agenda ++ k = .fanning f'.swap f'.fb ++ k := by
    rw [hswap, hfb]; rfl
  rw [hg] at h ⊢
  unfold tryPipe
  split
  · exact .next rfl trivial .pass
  · rename_i token r halloc
    obtain ⟨w, hw, hcounts⟩ := h.of_fanning
    obtain ⟨b, hb, -⟩ := hcounts.exists_hold (Nat.succ_pos _)
    have hswaps : (s.setRegistry r).swaps[f'.swap]? = some w := hw
    simp only [hswaps, hb]
    refine .rest rfl ⟨.inr rfl, ?_⟩ (.register rfl halloc hw hb)
    have hfind := Registry.pending_of_allocate halloc token
    rw [if_pos rfl] at hfind
    exact Registry.isPending_iff.2 ⟨_, hfind⟩

/-- The swap goes on to the next pipe. -/
theorem fan_stepped {f : Fanout} (h : Accounted s ((Task.fan f).agenda ++ k)) :
    Stepped s ((Task.fan f).agenda ++ k) k (s.fan f) := by
  unfold fan
  split
  · exact .next rfl trivial .pass
  · dsimp only
    split
    · exact .next rfl trivial .pass
    · split
      · exact tryPipe_stepped rfl rfl h
      · exact .next rfl trivial .pass

/-- A flip is tried again, or it is given up because its pipe is disabled. -/
theorem retry_stepped {a : Attempt} (h : Accounted s ((Task.retry a).agenda ++ k)) :
    Stepped s ((Task.retry a).agenda ++ k) k (s.retry a) := by
  unfold retry
  cases hpending : s.registry.isPending a.submission.token with
  | false =>
    -- The flip was aborted while the channel was read.
    simp only [hpending, Bool.not_false, if_true]
    exact .next rfl trivial (.lose hpending)
  | true =>
    simp only [hpending, Bool.not_true, Bool.false_eq_true, if_false]
    split
    · exact giveUp_stepped (.fan a.fanout) h hpending trivial rfl
    · exact .rest rfl ⟨.inl rfl, hpending⟩ .pass

/-- A step of an operation that gives up no framebuffer is one change. -/
theorem step_stepped {t : Task} (h : Accounted s (t.agenda ++ k)) (ht : t.Keeps) :
    Stepped s (t.agenda ++ k) k (s.step t) := by
  cases t with
  | fan f => exact fan_stepped h
  | retry a => exact retry_stepped h
  | conclude f error => exact conclude_stepped h
  | dispatch reports next =>
    cases reports with
    | nil => exact .next rfl ht .pass
    | cons report rest => exact dispatch_stepped h ht
  | abort events next =>
    cases events with
    | nil => exact .next rfl ht .pass
    | cons event rest => exact abort_stepped h ht
  | reclaim id v next => exact ht.elim
  | say notice next => exact .next rfl ht .pass
  | finish outcome => exact .rest rfl rfl .pass

end Screen

/-- How an operation comes to rest from a screen and an agenda `g`, above operations with the agenda
`k`. -/
inductive Ends (s : Screen) (g k : Agenda) (p : Progress Rest) : Prop
  | rest {s₁ : Screen} {g₁ : Agenda} {l : Label} (hpath : Silently (s, g) (s₁, g₁))
      (hr : p.next.Shows p.screen l) (hc : Change s₁ g₁ l p.screen (p.next.agenda ++ k))
  | stray {report : Report} {h : Agenda}
      (hpath : Silently (s, g) (p.screen, .reporting [report] ++ (h ++ k)))
      (hp : p.next = .violated (.notPending report.token))
      (hfree : p.screen.registry.occupies report.token = false)

/-- Silent changes may come before. -/
theorem Ends.after_silent {s s₁ : Screen} {g g₁ k : Agenda} {p : Progress Rest}
    (hc : Change s g .silent s₁ g₁) (h : Ends s₁ g₁ k p) : Ends s g k p := by
  have hfirst : Silent (s, g) (s₁, g₁) := hc
  cases h with
  | rest hpath hr hlast => exact .rest (.head hfirst hpath) hr hlast
  | stray hpath hp hfree => exact .stray (.head hfirst hpath) hp hfree

/-- Notices make no difference. -/
theorem Ends.after {s : Screen} {g k : Agenda} {p : Progress Rest} (h : Ends s g k p)
    (notices : List Notice) : Ends s g k (p.after notices) := by
  cases h with
  | rest hpath hr hlast => exact .rest hpath hr hlast
  | stray hpath hp hfree => exact .stray hpath hp hfree

namespace Screen

variable {s : Screen} {g k : Agenda}

/-- What follows on a step ends by changes if the run of the next task does. -/
theorem ends_of_run {p : Progress Follow} (hp : Stepped s g k p)
    (hrun : ∀ t, p.next = .inl t → t.Keeps → Change s g .silent p.screen (t.agenda ++ k) →
      Ends p.screen (t.agenda ++ k) k (p.screen.run t)) :
    Ends s g k (proceed p) := by
  cases hp with
  | @next t hnext ht hc =>
    have hproceed : proceed p = (p.screen.run t).after p.notices := by
      simp only [proceed, hnext]
    rw [hproceed]
    exact ((hrun t hnext ht hc).after p.notices).after_silent hc
  | @rest r l hr hshows hc =>
    have hproceed : proceed p = ⟨p.screen, p.notices, r⟩ := by simp only [proceed, hr]
    rw [hproceed]
    exact .rest .refl hshows hc
  | @stray report h hg hs hv hfree =>
    have hproceed : proceed p = ⟨p.screen, p.notices, .violated (.notPending report.token)⟩ := by
      simp only [proceed, hv]
    rw [hproceed, hg, hs]
    exact .stray .refl rfl hfree

/-- The run of a task ends by changes. -/
theorem run_ends (n : Nat) : ∀ {s : Screen} {t : Task}, t.weight < n → t.Keeps →
    Accounted s (t.agenda ++ k) → Ends s (t.agenda ++ k) k (s.run t) := by
  induction n with
  | zero => intro s t hn; exact absurd hn (Nat.not_lt_zero _)
  | succ n ih =>
    intro s t hn ht hA
    rw [run_eq]
    apply ends_of_run (step_stepped hA ht)
    intro u hu hkeeps hc
    -- Each task leads to a lighter one.
    have hlight := weight_lt_of_step hu
    exact ih (by omega) hkeeps (hA.change hc)

/-- Whatever follows on a step ends by changes. -/
theorem ends_of_stepped {p : Progress Follow} (h : Accounted s g) (hp : Stepped s g k p) :
    Ends s g k (proceed p) := by
  apply ends_of_run hp
  intro t _ ht hc
  exact run_ends _ (Nat.lt_succ_self _) ht (h.change hc)

end Screen

end PageFlip
