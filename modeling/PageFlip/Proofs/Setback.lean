import PageFlip.Proofs.Beside

/-!
# A swap without success on its own

A swap none of whose flips was accepted goes on from one pipe to the next without a look at
anything but its own flip. It comes to queue a flip, or it gives up: then its client is told that it
was aborted, and no token, hold or record of it is left (`Alone`). In either case the screen stays
beside the one on which the swap was never called for.
-/

namespace PageFlip

/-- A task that returns, perhaps with a word to the log before. -/
def Task.Closes : Task → Prop
  | say _ next => next.Closes
  | finish _ => True
  | _ => False

/-- What a swap reports is the last that it does. -/
theorem Task.closes_report (f : Fanout) (error : Option SwapError) : (f.report error).Closes := by
  unfold Fanout.report
  split_ifs
  · cases error <;> trivial
  · trivial

/-- An operation that closes returns, and nothing happens any more. -/
theorem Task.Closes.runs {t : Task} (ht : t.Closes) (s : Screen) :
    ∃ outcome, s.Runs t s (.finished outcome) [] := by
  induction t with
  | finish outcome => exact ⟨outcome, Screen.runs_of_step (t := .finish outcome) rfl⟩
  | say notice next ih =>
    obtain ⟨outcome, hruns⟩ := ih ht
    have hleads : s.Leads (.say notice next) s next [] := Screen.leads_of_step rfl
    exact ⟨outcome, hleads _ _ _ hruns⟩
  | _ => exact ht.elim

namespace Screen

variable {s s' : Screen} {t t' : Task} {notices : List Notice} {r : Rest}

/-- A step that only has a line for the log leads to the next task, and nothing happens. -/
theorem leads_of_work (hstep : s.step t = s'.work notices t')
    (ht : t.OnlyTells) : s.Leads t s' t' [] := by
  have hleads := leads_of_step (congrArg Progress.next hstep)
  rwa [happens_eq ht, hstep] at hleads

/-- A step that rests tells at most the client something. -/
theorem runs_of_halt (hstep : s.step t = s'.halt notices r)
    (ht : t.OnlyTells) : s.Runs t s' r (Follow.tells (.inr r)) := by
  have hruns := runs_of_step (congrArg Progress.next hstep)
  rwa [happens_eq ht, hstep] at hruns

end Screen

/-- Where a swap without an accepted flip comes to rest, beside the screen `u`: it queues a flip, or
its client is told that it was aborted. -/
inductive Alone (own : SwapId) (w : Swap) (s u : Screen) (t : Task) : Prop
  | attempts {n : Nat} {s' : Screen} {a : Attempt}
      (hruns : s.Runs t s' (.waiting (.attempting a)) [])
      (hb : Beside own (w.holding n) (some a.submission.token) s' u) (hswap : a.fanout.swap = own)
      (hnone : a.fanout.submitted = 0)
  | aborts {s' : Screen} {next : Task}
      (hruns : s.Runs t s'
        (.waiting (.telling (.swap w.client none) (.reclaim own ⟨none, false⟩ next)))
        [.told own (.swap w.client none)])
      (hnext : next.Closes) (hb : Beside own w.settled none s' u)

namespace Alone

variable {own : SwapId} {w : Swap} {s s' u : Screen} {t t' : Task}

/-- Where a swap comes to rest alone depends on the task that it comes by. -/
theorem of_leads (hleads : s.Leads t s' t' []) (h : Alone own w s' u t') : Alone own w s u t := by
  cases h with
  | attempts hruns hb hswap hnone => exact .attempts (hleads _ _ _ hruns) hb hswap hnone
  | aborts hruns hnext hb => exact .aborts (hleads _ _ _ hruns) hnext hb

end Alone

namespace Beside

variable {own : SwapId} {w : Swap} {s u : Screen} {n : Nat} {f : Fanout} {a : Attempt}

/-- No record of the swap is left when no flip of it is being queued. -/
theorem records_eq_zero (h : Beside own w none s u) : s.records {} own = 0 := by
  refine List.countP_eq_zero.2 fun e he hown => ?_
  rw [List.append_nil] at he
  obtain ⟨t, p, hp, rfl⟩ := Registry.mem_events_iff.1 he
  cases (h.own t p hp).1 hown

/-- The swap gives up: the submitter's hold was the last one. -/
theorem alone_conclude {error : Option SwapError} (h : Beside own (w.holding n) none s u)
    (hswap : f.swap = own) (hA : Accounted s ((Task.conclude f error).agenda ++ {})) :
    Alone own w s u (.conclude f error) := by
  subst hswap
  have hA' : Accounted s (.fanning f.swap f.fb ++ {}) := hA
  obtain ⟨w', hw', hcounts⟩ := hA'.of_fanning
  obtain rfl := Option.some.inj (h.getElem?_own.symm.trans hw')
  rw [h.records_eq_zero] at hcounts
  obtain rfl : n = 1 := hcounts.1
  have hstep : s.step (.conclude f error) = (s.setBarrier f.swap w.settled.barrier).halt []
      (.waiting (.telling (.swap w.client none)
        (.reclaim f.swap ⟨none, false⟩ (f.report error)))) := by
    show s.release f.swap (f.report error) = _
    rw [Screen.release_eq h.getElem?_own, Swap.release_holding]
    rfl
  exact .aborts (Screen.runs_of_halt hstep trivial)
    (Task.closes_report f error) (h.setOwn w.settled rfl rfl rfl rfl)

/-- A flip of the swap is registered on a pipe, if there is a token for it. -/
theorem alone_tryPipe {t : Task} {i : Nat} {p : Pipe} (h : Beside own (w.holding n) none s u)
    (hswap : f.swap = own) (hnone : f.submitted = 0) (ht : s.step t = s.tryPipe f i p)
    (honly : t.OnlyTells)
    (hA : Accounted s ((Task.fan f).agenda ++ {})) : Alone own w s u t := by
  subst hswap
  unfold Screen.tryPipe at ht
  cases halloc : s.registry.allocate p.crtc (.flip ⟨f.swap, f.reference == some p.vblank⟩) with
  | none =>
    rw [halloc] at ht
    exact .of_leads (Screen.leads_of_work ht honly) (h.alone_conclude rfl hA)
  | some allocated =>
    obtain ⟨token, r⟩ := allocated
    rw [halloc] at ht
    have hown : (s.setRegistry r).swaps[f.swap]? = some (w.holding n) := h.getElem?_own
    simp only [hown, Swap.hold_holding] at ht
    refine .attempts (n := n + 1) (Screen.runs_of_halt ht honly) ?_ rfl hnone
    -- The new token is the hidden one from now on.
    have hb : Beside f.swap (w.holding n) (some token) (s.setRegistry r) u :=
      { h with
        registry := h.registry.allocate halloc
        own := by
          intro t q hq
          have hq : r.pending.find? t = some q := hq
          rw [Registry.pending_of_allocate halloc] at hq
          split_ifs at hq with heq
          · cases hq
            rw [heq]
            exact iff_of_true (beq_self_eq_true _) rfl
          · rw [h.own t q hq]
            exact iff_of_false (fun hnone => by cases hnone)
              fun hsome => heq (Option.some.inj hsome).symm
        apart := by
          intro t ht
          cases ht
          have hfree := (Registry.of_allocate_eq_some halloc).2.1
          right
          show r.retired.find? token = none
          rw [Registry.retired_of_allocate halloc]
          rw [Registry.occupies_eq, Bool.or_eq_false_iff] at hfree
          simpa using hfree.2 }
    exact hb.setOwn (w.holding (n + 1)) rfl rfl rfl rfl

/-- The swap goes on with the pipes to come. -/
theorem alone_fan : ∀ {rest : List Nat} {f : Fanout}, f.rest = rest →
    Beside own (w.holding n) none s u → f.swap = own → f.submitted = 0 →
    Accounted s ((Task.fan f).agenda ++ {}) → Alone own w s u (.fan f)
  | [], f, hrest, h, hswap, hnone, hA => by
    have hstep : s.step (.fan f) = s.work [] (.conclude f none) := by
      simp only [Screen.step, Screen.fan, hrest]
    exact .of_leads (Screen.leads_of_work hstep trivial) (h.alone_conclude hswap hA)
  | i :: rest, f, hrest, h, hswap, hnone, hA => by
    have hskip : s.step (.fan f) = s.work [] (.fan { f with rest := rest }) →
        Alone own w s u (.fan f) := by
      intro hstep
      exact .of_leads (Screen.leads_of_work hstep trivial)
        (alone_fan (f := { f with rest := rest }) rfl h hswap hnone hA)
    cases hp : s.pipes[i]? with
    | none => exact hskip (by simp only [Screen.step, Screen.fan, hrest, hp])
    | some p =>
      cases henabled : p.enabled with
      | true =>
        refine h.alone_tryPipe (f := { f with rest := rest }) (i := i) (p := p) hswap hnone ?_
          trivial hA
        simp only [Screen.step, Screen.fan, hrest, hp, henabled, if_true]
      | false =>
        exact hskip (by
          simp only [Screen.step, Screen.fan, hrest, hp, henabled, Bool.false_eq_true, if_false])

/-- The flip of the swap that is being queued is given up. -/
theorem giveUp {fb : Framebuffer} {b : Submission} (h : Beside own (w.holding n) (some b.token) s u)
    (hA : Accounted s (.queueing own fb b ++ {}))
    (hpending : s.registry.isPending b.token = true) (next : Task) :
    ∃ s', s.resolve b.token none next = s'.work [] next ∧
      Beside own (w.holding (n - 1)) none s' u ∧ Accounted s' (.fanning own fb ++ {}) := by
  obtain ⟨f, r, x, c, v, hr, hx, hc⟩ := Screen.exists_of_resolve hA hpending none
  obtain ⟨p, hp, hevent, hrest⟩ := Registry.of_resolve_eq_ok hr
  -- The event is the record of the swap.
  obtain rfl : f.swap = own := by
    have hof := (h.own _ p hp).2 rfl
    rw [hevent] at hof
    exact beq_iff_eq.1 hof
  obtain rfl := Option.some.inj (h.getElem?_own.symm.trans hx)
  -- One hold for the flip and one of the submitter: this is not the last.
  have hn : 2 ≤ n := by
    have hrecords : 0 < s.records (.queueing f.swap fb b ++ {}) f.swap := by
      refine List.countP_pos_iff.2 ⟨p.event, ?_, (h.own _ p hp).2 rfl⟩
      exact List.mem_append_left _ (Registry.mem_events_iff.2 ⟨_, p, hp, rfl⟩)
    have hlocal : (Agenda.queueing f.swap fb b ++ {}).localHolds f.swap = 1 := by
      simp [Agenda.localHolds, Agenda.unreleased]
    have hholds : n = _ := (hA.counts h.getElem?_own).1
    omega
  rw [Swap.resolve_holding hn] at hc
  cases hc
  have hretired : s.registry.retired.find? b.token = none :=
    (h.apart b.token rfl).resolve_left fun hnone => by
      rw [hnone] at hp
      cases hp
  have hb : Beside f.swap (w.holding n) none (s.setRegistry r) u :=
    { h with
      registry := hrest ▸ h.registry.resolve hretired
      own := by
        intro t q hq
        obtain ⟨heq, hq⟩ := Registry.find?_of_resolve hr hq
        rw [h.own t q hq]
        exact iff_of_false (fun hsome => heq (Option.some.inj hsome).symm)
          (fun hnone => by cases hnone)
      apart := fun _ hnone => by cases hnone }
  have hA' := hA.change (.giveUp hr hx (Swap.resolve_holding hn f.reference))
  exact ⟨_, Screen.resolve_eq hr hx (Swap.resolve_holding hn f.reference),
    hb.setOwn (w.holding (n - 1)) rfl rfl rfl rfl, hA'⟩

/-- After a read of the channel the flip is queued again, or it is gone. -/
theorem alone_retry (h : Beside own (w.holding n) (some a.submission.token) s u)
    (hswap : a.fanout.swap = own) (hnone : a.fanout.submitted = 0)
    (hA : Accounted s ((Task.retry a).agenda ++ {})) : Alone own w s u (.retry a) := by
  subst hswap
  have hstep : s.step (.retry a) = s.retry a := rfl
  unfold Screen.retry at hstep
  cases hpending : s.registry.isPending a.submission.token with
  | false =>
    -- The read resolved the flip, so its token is hidden no more and its record is gone.
    simp only [hpending, Bool.not_false, if_true] at hstep
    have hgone := Registry.isPending_eq_false_iff.1 hpending
    have hb : Beside a.fanout.swap (w.holding n) none
        (s.setRegistry (s.registry.forget a.submission.token)) u :=
      { h with
        registry := h.registry.forget hpending
        own := by
          intro t q hq
          have hq : (s.registry.forget a.submission.token).pending.find? t = some q := hq
          rw [Registry.forget_eq] at hq
          rw [h.own t q hq]
          refine iff_of_false (fun hsome => ?_) nofun
          rw [← Option.some.inj hsome, hgone] at hq
          cases hq
        apart := nofun }
    exact .of_leads (Screen.leads_of_work hstep trivial)
      (hb.alone_fan rfl rfl hnone (hA.change (.lose hpending)))
  | true =>
    simp only [hpending, Bool.not_true, Bool.false_eq_true, if_false] at hstep
    split_ifs at hstep with henabled
    -- The flip is dropped where its pipe was disabled meanwhile, and queued again elsewhere.
    · obtain ⟨s', hresolve, hb, hA'⟩ := h.giveUp hA hpending (.fan a.fanout)
      rw [hresolve] at hstep
      exact .of_leads (Screen.leads_of_work hstep trivial) (hb.alone_fan rfl rfl hnone hA')
    · exact .attempts (Screen.runs_of_halt hstep trivial) h rfl hnone

/-- The flip is given up, and with it the pipes that were to come. -/
theorem alone_fail (h : Beside own (w.holding n) (some a.submission.token) s u)
    (hswap : a.fanout.swap = own) (hA : Accounted s ((Task.retry a).agenda ++ {}))
    (hpending : s.registry.isPending a.submission.token = true) (e : SwapError) :
    ∃ s', s.fail a e = s'.work [.flipFailed e] (.conclude a.fanout (some e)) ∧
      Alone own w s' u (.conclude a.fanout (some e)) := by
  subst hswap
  obtain ⟨s', hresolve, hb, hA'⟩ := h.giveUp hA hpending (.conclude a.fanout (some e))
  refine ⟨s', ?_, hb.alone_conclude rfl hA'⟩
  unfold Screen.fail
  rw [hresolve]
  rfl

end Beside

end PageFlip
