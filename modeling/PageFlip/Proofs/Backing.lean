import PageFlip.Proofs.Accounting
import PageFlip.Proofs.Continues
import PageFlip.Proofs.Course

/-!
# Every pending flip was accepted

Here clients may also wait for events of their own and resolve or abort what is pending, and nothing
is expected of the device or the channel. In every session that is not broken the barriers count the
holds on their swaps, no token is both pending and retired, and a pending flip is one of a swap that
has an accepted flip, unless it is being queued (`Session.backed_of_reaches`). So while no operation
is unfinished all pending flips are of swaps that will take effect.

Nothing is said of the numbers of tokens: it does not matter which of the flips under one token was
accepted, as long as each of them is given up or has its swap marked.
-/

namespace PageFlip

namespace Barrier

variable {b c : Barrier} {v : Option Verdict}

/-- A pipe has accepted a flip of the swap, unless the swap has its outcome. -/
def IsSubmitted (b : Barrier) : Prop := ∀ t, b.tally = some t → t.submitted = true

/-- A swap of which a flip was just accepted has an accepted flip. -/
theorem isSubmitted_markSubmitted (b : Barrier) : b.markSubmitted.IsSubmitted := by
  intro t ht
  obtain ⟨t', -, rfl⟩ := Option.map_eq_some_iff.1 ht
  rfl

/-- A dropped hold takes no accepted flip away. -/
theorem isSubmitted_drop {t : Tally} (ht : t.submitted = true) : (b.drop t).1.IsSubmitted := by
  unfold drop
  split
  · exact fun t' ht' => by cases ht'
  · rintro t' ⟨⟩
    exact ht

/-- One more hold takes no accepted flip away. -/
theorem IsSubmitted.hold (h : b.IsSubmitted) (hc : b.hold = .ok c) : c.IsSubmitted := by
  obtain ⟨t, ht, rfl⟩ := of_hold_eq_ok hc
  rintro t' ⟨⟩
  exact h t ht

/-- Resolving a flip takes no accepted flip away. -/
theorem IsSubmitted.resolve (h : b.IsSubmitted) {reference : Bool} {stamp : Option Stamp}
    (hc : b.resolve reference stamp = .ok (c, v)) : c.IsSubmitted := by
  obtain ⟨t, ht, hdrop⟩ := of_resolve_eq_ok hc
  have hsubmitted := isSubmitted_drop (b := b) ((t.submitted_record reference stamp).trans (h t ht))
  rwa [hdrop] at hsubmitted

/-- Releasing the submitter's hold takes no accepted flip away. -/
theorem IsSubmitted.release (h : b.IsSubmitted) (hc : b.release = .ok (c, v)) :
    c.IsSubmitted := by
  obtain ⟨t, ht, -, hdrop⟩ := of_release_eq_ok hc
  have hsubmitted := isSubmitted_drop (b := b) (t := { t with localHold := false }) (h t ht)
  rwa [hdrop] at hsubmitted

end Barrier

/-- A pipe has accepted a flip of the swap, unless the swap has its outcome. -/
def Screen.IsSubmitted (s : Screen) (id : SwapId) : Prop :=
  ∀ w, s.swaps[id]? = some w → w.barrier.IsSubmitted

/-- Using the barrier of a swap takes no accepted flip from any swap, if it takes none from this
one. -/
theorem Screen.IsSubmitted.setBarrier {s : Screen} {id j : SwapId} {w : Swap} {b : Barrier}
    (h : s.IsSubmitted j) (hw : s.swaps[id]? = some w)
    (hb : w.barrier.IsSubmitted → b.IsSubmitted) : (s.setBarrier id b).IsSubmitted j := by
  intro x hx
  rw [Screen.getElem?_setBarrier hw] at hx
  split_ifs at hx with hj
  · cases hx
    exact hb (h w (hj ▸ hw))
  · exact h x hx

/-- Each barrier counts the holds on its swap, no token is both pending and retired, and a pending
flip is one of a swap that has an accepted flip, or it is being queued. -/
structure Backed (s : Screen) (g : Agenda) : Prop where
  counted : Counted s g
  disjoint : s.registry.Disjoint
  submitted : ∀ {t : Token} {e : Pending Event} {f : Flip},
    s.registry.pending.find? t = some e → e.event = .flip f →
      s.IsSubmitted f.swap ∨ ∃ u ∈ g.fanouts, u.swap = f.swap ∧ ∃ a, u.flip = some a ∧ a.token = t

namespace Backed

variable {s s' : Screen} {g g' k : Agenda} {id : SwapId} {fb : Framebuffer} {f : Flip} {w : Swap}
  {b : Barrier} {a : Submission} {event : Event} {r : Registry Event} {t : Token}
  {v : Option Verdict}

/-- No token becomes pending, and no swap loses its mark. -/
theorem mono (h : Backed s g) (hcounted : Counted s' g') (hdisjoint : s'.registry.Disjoint)
    (hpending : ∀ t e, s'.registry.pending.find? t = some e →
      s.registry.pending.find? t = some e)
    (hsubmitted : ∀ id, s.IsSubmitted id → s'.IsSubmitted id)
    (hfanouts : ∀ u ∈ g.fanouts, ∀ a, u.flip = some a →
      s'.registry.isPending a.token = true → u ∈ g'.fanouts ∨ s'.IsSubmitted u.swap) :
    Backed s' g' where
  counted := hcounted
  disjoint := hdisjoint
  submitted := by
    intro t e f he hf
    rcases h.submitted (hpending t e he) hf with hs | ⟨u, hu, hswap, a, ha, rfl⟩
    · exact .inl (hsubmitted _ hs)
    · rcases hfanouts u hu a ha (Registry.isPending_iff.2 ⟨e, he⟩) with hu | hs
      · exact .inr ⟨u, hu, hswap, a, ha, rfl⟩
      · exact .inl (hswap ▸ hs)

/-- Neither the rest of the screen nor the rest of the agenda makes a difference. -/
theorem congr (h : Backed s g) (hswaps : s'.swaps = s.swaps) (hregistry : s'.registry = s.registry)
    (hfanouts : g'.fanouts = g.fanouts) (hevents : g'.events = g.events) : Backed s' g' := by
  obtain ⟨pipes, slots, config, registry, swaps⟩ := s
  obtain ⟨pipes', slots', config', registry', swaps'⟩ := s'
  obtain ⟨fanouts, reports, events, reclaims⟩ := g
  obtain ⟨fanouts', reports', events', reclaims'⟩ := g'
  dsimp only at hswaps hregistry hfanouts hevents
  subst hswaps hregistry hfanouts hevents
  exact ⟨⟨h.counted.counts, h.counted.beyond⟩, h.disjoint, h.submitted⟩

/-- The event of a pending token is handed out. -/
theorem resolve (h : Backed s g) (hr : s.registry.resolve t = .ok (event, r)) :
    Backed (s.setRegistry r) (.aborting [event] ++ g) := by
  exact h.mono (h.counted.of_resolve hr) (h.disjoint.resolve hr)
    (fun u e he => (Registry.find?_of_resolve hr he).2) (fun _ hs => hs)
    fun u hu _ _ _ => .inl hu

/-- A flip whose token is not pending is no longer being queued. -/
theorem unqueue (h : Backed s (.queueing id fb a ++ k))
    (ha : s.registry.isPending a.token = false) : Backed s (.fanning id fb ++ k) := by
  refine h.mono (h.counted.congr rfl (fun _ => rfl) fun _ => rfl) h.disjoint (fun _ _ he => he)
    (fun _ hs => hs) fun u hu a' ha' hpending => .inl ?_
  rcases List.mem_cons.1 hu with rfl | hu
  · cases ha'
    rw [ha] at hpending
    cases hpending
  · exact List.mem_cons_of_mem _ hu

/-- The token of a flip that is being queued is handed out. -/
theorem giveUp (h : Backed s (.queueing id fb a ++ k))
    (hr : s.registry.resolve a.token = .ok (event, r)) :
    Backed (s.setRegistry r) (.aborting [event] ++ (.fanning id fb ++ k)) := by
  have hgone : r.isPending a.token = false := Registry.isPending_of_resolve hr
  refine (h.resolve hr).mono ((h.counted.of_resolve hr).congr rfl (fun _ => rfl) fun _ => rfl)
    (h.disjoint.resolve hr) (fun _ _ he => he) (fun _ hs => hs) fun u hu a' ha' hpending => .inl ?_
  rcases List.mem_cons.1 hu with rfl | hu
  · cases ha'
    rw [Screen.registry_setRegistry, hgone] at hpending
    cases hpending
  · exact List.mem_cons_of_mem _ hu

/-- A flip that was handed out is resolved. -/
theorem settle (h : Backed s (.aborting [.flip f] ++ k)) (hw : s.swaps[f.swap]? = some w)
    {stamp : Option Stamp} (hb : w.barrier.resolve f.reference stamp = .ok (b, v)) :
    Backed (s.setBarrier f.swap b) k :=
  h.mono (h.counted.resolve hw hb) h.disjoint (fun _ _ he => he)
    (fun _ hs => hs.setBarrier hw fun hx => hx.resolve hb) fun _ hu _ _ _ => .inl hu

/-- An event of a client that was handed out concerns no swap. -/
theorem of_plain {client : Client} (h : Backed s (.aborting [.plain client] ++ k)) :
    Backed s k := by
  refine h.mono (h.counted.congr rfl (fun _ => rfl) fun id => ?_) h.disjoint (fun _ _ he => he)
    (fun _ hs => hs) fun _ hu _ _ _ => .inl hu
  rw [Screen.records_aborting]
  rfl

/-- The submitter's hold is given up. -/
theorem release (h : Backed s (.fanning id fb ++ k)) (hw : s.swaps[id]? = some w)
    (hb : w.barrier.release = .ok (b, v)) : Backed (s.setBarrier id b) k := by
  refine h.mono (h.counted.release hw hb) h.disjoint (fun _ _ he => he)
    (fun _ hs => hs.setBarrier hw fun hx => hx.release hb) fun u hu a' ha' _ => .inl ?_
  rcases List.mem_cons.1 hu with rfl | hu
  · cases ha'
  · exact hu

/-- A pipe's flip is registered. -/
theorem register (h : Backed s (.fanning id fb ++ k)) {reference : Bool}
    (halloc : s.registry.allocate a.crtc (.flip ⟨id, reference⟩) = some (a.token, r))
    (hw : s.swaps[id]? = some w) (hb : w.barrier.hold = .ok b) :
    Backed ((s.setRegistry r).setBarrier id b) (.queueing id fb a ++ k) where
  counted := h.counted.register halloc hw hb
  disjoint := h.disjoint.allocate halloc
  submitted := by
    intro t e f he hf
    have he : r.pending.find? t = some e := he
    rw [Registry.pending_of_allocate halloc] at he
    split_ifs at he with ht
    · obtain rfl := Option.some.inj he
      cases hf
      exact .inr ⟨_, List.mem_cons_self, rfl, a, rfl, ht.symm⟩
    · rcases h.submitted he hf with hs | ⟨u, hu, hswap, a', ha', htoken⟩
      · exact .inl (Screen.IsSubmitted.setBarrier (s := s.setRegistry r) hs hw fun hx => hx.hold hb)
      · rcases List.mem_cons.1 hu with rfl | hu
        · cases ha'
        · exact .inr ⟨u, List.mem_cons_of_mem _ hu, hswap, a', ha', htoken⟩

/-- The channel accepted a flip of a swap. -/
theorem accept (h : Backed s (.queueing id fb a ++ k)) (hw : s.swaps[id]? = some w) :
    Backed (s.setBarrier id w.barrier.markSubmitted) (.fanning id fb ++ k) := by
  have hmark : (s.setBarrier id w.barrier.markSubmitted).IsSubmitted id := by
    intro x hx
    rw [Screen.getElem?_setBarrier hw, if_pos rfl] at hx
    cases hx
    exact Barrier.isSubmitted_markSubmitted _
  refine h.mono (h.counted.accept hw) h.disjoint (fun _ _ he => he)
    (fun _ hs => hs.setBarrier hw fun _ => Barrier.isSubmitted_markSubmitted _)
    fun u hu a' ha' _ => ?_
  rcases List.mem_cons.1 hu with rfl | hu
  · exact .inr hmark
  · exact .inl (List.mem_cons_of_mem _ hu)

/-- A swap is added. -/
theorem launch (h : Backed s k) (p : Preparation) (fb : Framebuffer) :
    Backed ((s.assign p.slot fb).addSwap ⟨.new fb p.displaced, p.slot, p.request.client⟩).2
      (.fanning s.swaps.length fb ++ k) where
  counted := h.counted.launch p fb
  disjoint := h.disjoint
  submitted := by
    intro t e f he hf
    have he : s.registry.pending.find? t = some e := he
    rcases h.submitted he hf with hs | ⟨u, hu, hswap, a, ha, ht⟩
    · -- The swap of the flip is one of those before.
      have hevent : .flip f ∈ s.registry.events ++ k.events :=
        List.mem_append_left _ (Registry.mem_events_iff.2 ⟨t, e, he, hf⟩)
      have hpos : 0 < s.records k f.swap := List.countP_pos_iff.2 ⟨_, hevent, by simp⟩
      obtain ⟨w, hw, -⟩ := h.counted.exists_swap (Nat.add_pos_right _ hpos)
      refine .inl fun x hx => hs x ?_
      rcases Screen.of_getElem?_append_swap (s := s) hx with hx | ⟨hlength, -⟩
      · exact hx
      · have hlt := (List.getElem?_eq_some_iff.1 hw).1
        rw [hlength] at hlt
        exact absurd hlt (Nat.lt_irrefl _)
    · exact .inr ⟨u, List.mem_cons_of_mem _ hu, hswap, a, ha, ht⟩

/-- The events of a controller are handed out. -/
theorem retirePipe (h : Backed s k) (crtc : Crtc) :
    Backed (s.setRegistry (s.registry.retirePipe crtc).2)
      (.aborting (s.registry.retirePipe crtc).1 ++ k) :=
  h.mono (h.counted.of_retirePipe crtc) (h.disjoint.retirePipe crtc)
    (fun _ _ he => (Registry.pending_retirePipe_iff.1 he).1) (fun _ hs => hs)
    fun _ hu _ _ _ => .inl hu

/-- A client waits for an event of its own. -/
theorem enqueue (h : Backed s k) {crtc : Crtc} {client : Client}
    (halloc : s.registry.allocate crtc (.plain client) = some (t, r)) :
    Backed (s.setRegistry r) k where
  counted := by
    refine h.counted.congr rfl (fun _ => rfl) fun id => ?_
    simp [Screen.records, Registry.events_of_allocate halloc, Event.isOf]
  disjoint := h.disjoint.allocate halloc
  submitted := by
    intro u e f he hf
    rw [Screen.registry_setRegistry, Registry.pending_of_allocate halloc] at he
    split_ifs at he
    · obtain rfl := Option.some.inj he
      cases hf
    · exact h.submitted he hf

end Backed

/-! ## From step to step -/

/-- What is known of a part of an operation above others, of which `k` is left to do, unless it
breaks a rule. -/
def Progress.Backs (k : Agenda) (p : Progress Follow) : Prop :=
  (∀ v, p.next ≠ .inr (.violated v)) → Backed p.screen (p.next.agenda ++ k)

namespace Backed

variable {s s' : Screen} {k : Agenda} {t next : Task} {f : Fanout} {a : Attempt} {i : Nat}

/-- A part of an operation that goes on with a task has no other flips or events left than the
task. -/
theorem of_continues {p : Progress Follow} (h : Backed p.screen (next.agenda ++ k))
    (hp : p.next.Continues next) : p.Backs k := by
  intro hunbroken
  obtain ⟨s, notices, f⟩ := p
  cases hp with
  | violated v => exact absurd rfl (hunbroken v)
  | told => exact h.congr rfl rfl rfl rfl
  | _ => exact h

/-- A hold on a swap was dropped. -/
theorem backs_settle {id : SwapId} {result : Except Violation (Barrier × Option Verdict)}
    {client : Client}
    (h : ∀ b v, result = .ok (b, v) → Backed (s.setBarrier id b) (next.agenda ++ k)) :
    (s.settle id result client next).Backs k := by
  unfold Screen.settle
  split
  · exact fun hunbroken => absurd rfl (hunbroken _)
  · exact fun _ => h _ _ rfl
  · exact fun _ => (h _ _ rfl).congr rfl rfl rfl rfl

/-- A flip that was handed out is resolved. -/
theorem backs_settleFlip {f : Flip} {stamp : Option Stamp}
    (h : Backed s (.aborting [.flip f] ++ (next.agenda ++ k))) :
    (s.settleFlip f stamp next).Backs k := by
  obtain ⟨w, hw, -⟩ := h.counted.of_aborting
  have hq : s.settleFlip f stamp next =
      s.settle f.swap (w.barrier.resolve f.reference stamp) w.client next := by
    rw [Screen.settleFlip, hw]
  rw [hq]
  exact backs_settle fun b v hb => h.settle hw hb

/-- An event that was handed out is resolved, be it the flip of a swap or of a client. -/
theorem backs_deliver {event : Event} {stamp : Option Stamp}
    (h : Backed s (.aborting [event] ++ (next.agenda ++ k))) :
    (s.deliver event stamp next).Backs k := by
  cases event with
  | flip f => exact backs_settleFlip h
  | plain client => exact fun _ => h.of_plain

/-- The event of a token is handed out and resolved. -/
theorem backs_resolve {token : Token} {stamp : Option Stamp}
    (h : ∀ event r, s.registry.resolve token = .ok (event, r) →
      Backed (s.setRegistry r) (.aborting [event] ++ (next.agenda ++ k))) :
    (s.resolve token stamp next).Backs k := by
  unfold Screen.resolve
  split
  · exact fun hunbroken => absurd rfl (hunbroken _)
  · rename_i event r hr
    exact backs_deliver (h event r hr)

/-- A report is dispatched, on time or late. -/
theorem backs_dispatch {report : Report} (h : Backed s (next.agenda ++ k)) :
    (s.dispatch report next).Backs k := by
  unfold Screen.dispatch
  split
  · rename_i r hr
    rw [Registry.of_forget?_eq_some hr]
    exact fun _ => h.mono (h.counted.congr rfl (fun _ => rfl) fun _ => rfl)
      (h.disjoint.erase_retired _) (fun _ _ he => he) (fun _ hs => hs) fun _ hu _ _ _ => .inl hu
  · exact backs_resolve fun _ _ hr => h.resolve hr

/-- The submitter of a swap gives up its hold. -/
theorem backs_release {id : SwapId} {fb : Framebuffer}
    (h : Backed s (.fanning id fb ++ (next.agenda ++ k))) : (s.release id next).Backs k := by
  obtain ⟨w, hw, -⟩ := h.counted.of_fanning
  have hq : s.release id next = s.settle id w.barrier.release w.client next := by
    rw [Screen.release, hw]
  rw [hq]
  exact backs_settle fun b v hb => h.release hw hb

/-- What a swap leaves over is given up, and its slot may be put back. -/
theorem backs_reclaim {id : SwapId} {verdict : Verdict} (h : Backed s (next.agenda ++ k)) :
    (s.reclaim id verdict next).Backs k := by
  refine of_continues ?_ Screen.continues_reclaim
  unfold Screen.reclaim
  split
  · exact h
  · dsimp only
    split
    · exact h.congr rfl rfl rfl rfl
    · exact h.congr rfl rfl rfl rfl

/-- A pipe is tried. -/
theorem backs_tryPipe {p : Pipe} (h : Backed s (.fanning f.swap f.fb ++ k)) :
    (s.tryPipe f i p).Backs k := by
  obtain ⟨w, hw, -⟩ := h.counted.of_fanning
  unfold Screen.tryPipe
  split
  · exact fun _ => h
  · rename_i token r halloc
    dsimp only
    rw [show (s.setRegistry r).swaps = s.swaps from rfl, hw]
    dsimp only
    split
    · exact fun hunbroken => absurd rfl (hunbroken _)
    · rename_i b hb
      exact fun _ => h.register (a := ⟨p.crtc, f.fb, f.flags, token⟩) halloc hw hb

/-- The swap goes on to the next pipe. -/
theorem backs_fan (h : Backed s (.fanning f.swap f.fb ++ k)) : (s.fan f).Backs k := by
  unfold Screen.fan
  split
  · exact fun _ => h
  · dsimp only
    split
    · exact fun _ => h
    · split_ifs
      · exact backs_tryPipe h
      · exact fun _ => h

/-- A flip that is being queued is given up. -/
theorem backs_giveUp {stamp : Option Stamp}
    (h : Backed s (.queueing a.fanout.swap a.fanout.fb a.submission ++ k))
    (hnext : next.agenda = .fanning a.fanout.swap a.fanout.fb) :
    (s.resolve a.submission.token stamp next).Backs k := by
  refine backs_resolve fun event r hr => ?_
  rw [hnext]
  exact h.giveUp hr

/-- A flip is tried again, or it is given up because its pipe is disabled. -/
theorem backs_retry (h : Backed s (.queueing a.fanout.swap a.fanout.fb a.submission ++ k)) :
    (s.retry a).Backs k := by
  unfold Screen.retry
  dsimp only
  split
  · rename_i hgone
    have hgone : s.registry.isPending a.submission.token = false := by simpa using hgone
    rw [Registry.forget_eq]
    have hfan := h.unqueue hgone
    exact fun _ => hfan.mono (hfan.counted.congr rfl (fun _ => rfl) fun _ => rfl)
      (hfan.disjoint.erase_retired _) (fun _ _ he => he) (fun _ hs => hs)
      fun _ hu _ _ _ => .inl hu
  · split
    · exact backs_giveUp h rfl
    · exact fun _ => h

/-- A flip that the channel rejects is given up, and the swap comes to its end. -/
theorem backs_fail {e : SwapError}
    (h : Backed s (.queueing a.fanout.swap a.fanout.fb a.submission ++ k)) :
    (s.fail a e).Backs k :=
  fun hunbroken => backs_giveUp h rfl hunbroken

/-- Each step keeps what is known. -/
theorem step (h : Backed s (t.agenda ++ k)) : (s.step t).Backs k := by
  cases t with
  | fan f => exact backs_fan h
  | retry a => exact backs_retry h
  | conclude f error =>
    have hconclude : Backed s (.fanning f.swap f.fb ++ ((f.report error).agenda ++ k)) := by
      rw [Task.agenda_report]
      exact h
    exact backs_release hconclude
  | dispatch reports next =>
    cases reports with
    | nil => exact fun _ => h
    | cons report rest => exact backs_dispatch (h.congr rfl rfl rfl rfl)
  | abort events next =>
    cases events with
    | nil => exact fun _ => h
    | cons event rest => exact backs_deliver (h.congr rfl rfl rfl rfl)
  | reclaim id verdict next => exact backs_reclaim (h.congr rfl rfl rfl rfl)
  | say notice next => exact fun _ => h
  | finish outcome => exact fun _ => h

end Backed

/-- The same until the operation comes to rest. -/
theorem Progress.Backs.proceed {k : Agenda} {p : Progress Follow} (h : p.Backs k)
    (hunbroken : ∀ v, (Screen.proceed p).next ≠ .violated v) :
    Backed (Screen.proceed p).screen ((Screen.proceed p).next.agenda ++ k) :=
  Screen.proceed_induct (P := fun s f _ => Progress.Backs k ⟨s, [], f⟩)
    (fun _ _ _ ht => Backed.step (ht fun _ hv => by cases hv)) (h := []) h
    fun v hv => hunbroken v (Sum.inr.inj hv)

/-! ## From rest to rest -/

/-- Whether the operation uses no flip that is in nobody's registry, and leaves the holds of the
submitters of swaps to the library. -/
def Operation.isFair : Operation → Bool
  | settle .. | release _ => false
  | _ => true

namespace Backed

variable {s : Screen} {k : Agenda} {w : Wait} {a : Attempt} {p : Progress Follow}

/-- The events of a controller are handed out and aborted. -/
theorem backs_retirePipe (h : Backed s k) (crtc : Crtc) {next : Nat → Task}
    (hnext : ∀ n, (next n).agenda = {}) : (s.retirePipe crtc next).Backs k := by
  intro _
  refine (h.retirePipe crtc).congr rfl rfl ?_ ?_
  · show [] ++ (next _).agenda.fanouts ++ k.fanouts = [] ++ k.fanouts
    rw [hnext]
    rfl
  · show (s.registry.retirePipe crtc).1 ++ (next _).agenda.events ++ k.events = _
    rw [hnext, List.append_nil]
    rfl

/-- An operation starts. -/
theorem start {op : Operation} (h : Backed s k) (hop : op.isFair = true) :
    (s.start op).Backs k := by
  cases op with
  | swap r => exact fun _ => h
  | drain => exact fun _ => h
  | disable crtc =>
    simp only [Screen.start, Screen.disable]
    split
    · exact fun _ => h
    · rename_i i hi
      have hdisabled : Backed (s.setEnabled i false) k := h.congr rfl rfl rfl rfl
      refine hdisabled.backs_retirePipe crtc fun n => ?_
      split_ifs
      · rfl
      · rfl
  | enable crtc =>
    simp only [Screen.start, Screen.enable]
    split
    · exact fun _ => h
    · exact fun _ => h.congr rfl rfl rfl rfl
  | enqueue crtc client =>
    simp only [Screen.start, Screen.enqueue]
    cases halloc : s.registry.allocate crtc (.plain client) with
    | none => exact fun _ => h
    | some tr => exact fun _ => h.enqueue halloc
  | submit f => exact fun _ => h
  | abortPipe crtc => exact h.backs_retirePipe crtc fun _ => rfl
  | resolve token stamp => exact backs_resolve fun _ _ hr => h.resolve hr
  | settle f stamp => cases hop
  | release id => cases hop

/-- The channel accepted a flip. -/
theorem backs_accepted {now : Instant}
    (h : Backed s (.queueing a.fanout.swap a.fanout.fb a.submission ++ k)) :
    (s.accepted a now).Backs k := by
  intro _
  have hfanning : Counted s (.fanning a.fanout.swap a.fanout.fb ++ k) :=
    h.counted.congr rfl (fun _ => rfl) fun _ => rfl
  obtain ⟨w, hw, -⟩ := hfanning.of_fanning
  have hmarked := h.accept hw
  have hscreen : (s.accepted a now).screen =
      ((s.setBarrier a.fanout.swap w.barrier.markSubmitted).setRegistry
        (s.registry.forgetPipe a.submission.crtc).2).setFlippedAt a.pipe now := by
    simp only [Screen.accepted, hw]
    rfl
  rw [hscreen]
  exact hmarked.mono (hmarked.counted.congr rfl (fun _ => rfl) fun _ => rfl)
    (hmarked.disjoint.forgetPipe _) (fun _ _ he => he) (fun _ hs => hs)
    fun _ hu _ _ _ => .inl hu

/-- The channel was read because it was full. -/
theorem backs_afterRead {result : Except ChannelError (Option (List Report))}
    (h : Backed s (.queueing a.fanout.swap a.fanout.fb a.submission ++ k)) :
    (s.afterRead a result).Backs k := by
  rcases result with e | _ | reports
  · exact backs_fail h
  · simp only [Screen.afterRead]
    split_ifs
    · exact fun _ => h
    · exact backs_fail h
  · exact fun _ => h.congr rfl rfl rfl rfl

/-- An operation that waits has its answer. -/
theorem resume {answer : Answer} (h : Backed s (w.agenda ++ k))
    (hp : s.resume w answer = some p) : p.Backs k := by
  unfold Screen.resume at hp
  split at hp
  all_goals cases hp
  · exact fun _ => h.launch _ _
  · exact fun _ => h
  · exact backs_accepted h
  · exact backs_fail h
  · exact fun _ => h
  · exact fun _ => h
  · exact backs_afterRead h
  · rename_i result
    rcases result with e | _ | reports
    · exact fun _ => h
    · exact fun _ => h
    · exact fun _ => h.congr rfl rfl rfl rfl
  · exact fun _ => h
  · exact fun _ => h
  · exact fun _ => h

end Backed

namespace Session

variable {s s' s'' : Session} {act : Act} {acts : List Act} {p : Progress Follow}
  {waits : List Wait} {table : Table Token (Pending Event)}

/-- The session after an act; none if the act is not possible. Clients call while nothing is carried
out and from handlers. The table of the pending tokens is in no certain order: it may be in another
one at any time. -/
def step (s : Session) : Act → Option Session
  | .call op => if op.isFair && s.yields then (s.call op).map Turn.session else none
  | .answer a => (s.answer a).map Turn.session
  | .reorder table => s.reorder? table

/-- The session after a row of acts; none if one of them is not possible. -/
def play (s : Session) : List Act → Option Session
  | [] => some s
  | act :: acts => (s.step act).bind fun s => s.play acts

/-- The sessions to which acts lead. -/
inductive Reaches (s : Session) : Session → Prop
  | refl : Reaches s s
  | act {u v : Session} {a : Act} (h : Reaches s u) (hstep : u.step a = some v) : Reaches s v

/-- A row of acts leads on. -/
theorem Reaches.play (h : s.Reaches s') (hplay : s'.play acts = some s'') : s.Reaches s'' := by
  induction acts generalizing s' with
  | nil =>
    obtain rfl : s' = s'' := Option.some.inj hplay
    exact h
  | cons act acts ih =>
    obtain ⟨u, hstep, hplay⟩ := Option.bind_eq_some_iff.1 hplay
    exact ih (h.act hstep) hplay

/-- What is known of a session that is not broken. -/
def Backs (s : Session) : Prop := s.violation = none → Backed s.screen s.agenda

/-- What is known of an operation that comes to rest is known of the session. -/
theorem backs_settle (hp : p.Backs (agendaOf waits)) :
    (settle waits (Screen.proceed p)).session.Backs := by
  have hproceed := hp.proceed
  unfold settle
  split
  · rename_i w hw
    rw [hw] at hproceed
    exact fun _ => hproceed fun v hv => by cases hv
  · rename_i outcome hw
    rw [hw] at hproceed
    exact fun _ => hproceed fun v hv => by cases hv
  · exact fun hv => by cases hv

/-- Another order of the tokens makes no difference to what backs them. -/
theorem Backs.reorder (h : s.Backs)
    (htable : table.entries.Perm s.screen.registry.pending.entries) : (s.reorder table).Backs := by
  intro hunbroken
  have hbacked := h hunbroken
  have hfind := Registry.find?_reorder htable
  refine hbacked.mono (hbacked.counted.congr rfl (fun _ => rfl) fun id => ?_) (fun t => ?_)
    (fun t e he => (hfind t).symm.trans he) (fun _ hs => hs) fun _ hu _ _ _ => .inl hu
  · exact ((Registry.events_reorder htable).append_right _).countP_eq _
  · exact hbacked.disjoint.reorder htable t

/-- Every act keeps what is known. -/
theorem Backs.step (h : s.Backs) (hstep : s.step act = some s') : s'.Backs := by
  cases act with
  | call op =>
    simp only [Session.step] at hstep
    split_ifs at hstep with hop
    obtain ⟨t, ht, rfl⟩ := Option.map_eq_some_iff.1 hstep
    obtain ⟨hv, rfl⟩ := Session.of_call_eq_some ht
    exact backs_settle ((h hv).start ((Bool.and_eq_true _ _).mp hop).1)
  | answer a =>
    obtain ⟨t, ht, rfl⟩ := Option.map_eq_some_iff.1 hstep
    obtain ⟨w, waits, p, hv, hwaits, hp, rfl⟩ := Session.of_answer_eq_some ht
    have hbacked := h hv
    rw [Session.agenda, hwaits] at hbacked
    exact backs_settle (hbacked.resume hp)
  | reorder table =>
    obtain ⟨-, htable, rfl⟩ := of_reorder? hstep
    exact h.reorder htable

/-- Whatever acts there are, what is known stays so. -/
theorem Backs.reaches (h : s.Backs) (hreaches : s.Reaches s') : s'.Backs := by
  induction hreaches with
  | refl => exact h
  | act _ hstep ih => exact ih.step hstep

/-- In every session that is not broken, what is pending is backed by accepted flips. -/
theorem backed_of_reaches {pipes : List Pipe} {slots : List Framebuffer} {config : Config}
    (hreaches : (new { Screen.new pipes config with slots := slots }).Reaches s)
    (hunbroken : s.violation = none) : Backed s.screen s.agenda := by
  refine Backs.reaches (fun _ => ⟨⟨fun hw => ?_, fun _ => ⟨rfl, rfl⟩⟩, Registry.disjoint_new _,
    fun he => ?_⟩) hreaches hunbroken
  · cases hw
  · cases he

end Session

end PageFlip
