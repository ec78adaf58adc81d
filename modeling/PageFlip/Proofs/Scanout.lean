import PageFlip.Proofs.Ownership

/-!
# Framebuffers that are given up while they are shown

Without calls from handlers, a framebuffer that was given up is never submitted again, and it can
only be in flight while the swap that brought it up has no outcome
(`World.removed_in_flight_iff`): a later swap displaced it, which some of its pipes rejected and
which completed on the others before this swap did.
-/

namespace PageFlip

namespace Screen

/-- The event is the flip of a swap that brought up the framebuffer. -/
def Brings (s : Screen) (fb : Framebuffer) (e : Event) : Prop :=
  ∃ f w, e = .flip f ∧ s.swaps[f.swap]? = some w ∧ w.barrier.newFb = fb

variable {s s' : Screen} {g g' : Agenda} {l : Label} {fb : Framebuffer} {e : Event}

/-- A swap keeps bringing up its framebuffer. -/
theorem Brings.change (h : s.Brings fb e) (hc : Change s g l s' g') : s'.Brings fb e := by
  obtain ⟨f, w, he, hw, hfb⟩ := h
  obtain ⟨w', hw', hcont⟩ := hc.swap_after hw
  exact ⟨f, w', he, hw', by rw [hcont.newFb, hfb]⟩

end Screen

/-- A flip that the channel accepted with the framebuffer is not resolved: its event is pending
under its token, or was handed out to be aborted. -/
def Moment.InFlight (m : Moment) (fb : Framebuffer) : Prop :=
  ∃ f ∈ m.ledger.accepted, f.fb = fb ∧
    ((∃ p, m.screen.registry.pending.find? f.token = some p ∧ m.screen.Brings fb p.event) ∨
      ∃ e ∈ m.agenda.events, m.screen.Brings fb e)

/-- Flips are made with the framebuffers of their swaps, and what the registry knows of was accepted
or is being queued. The framebuffer of a swap in the middle of its flips was not displaced. -/
structure Flying (s : Screen) (g : Agenda) (l : Ledger) : Prop where
  fanouts : ∀ e ∈ g.fanouts, ∃ w, s.swaps[e.swap]? = some w ∧ w.barrier.newFb = e.fb
  attempts : ∀ e ∈ g.fanouts, ∀ f ∈ e.flip, f.fb = e.fb
  apart : ∀ e ∈ g.fanouts, ∀ {j : SwapId} {w : Swap}, s.swaps[j]? = some w →
    w.barrier.oldFb ≠ e.fb
  pending : ∀ {t : Token} {p : Pending Event}, s.registry.pending.find? t = some p →
    ∃ f, f.token = t ∧ s.Brings f.fb p.event ∧ (f ∈ l.accepted ∨ f ∈ g.attempts)
  events : ∀ e ∈ g.events, ∃ f ∈ l.accepted, s.Brings f.fb e

namespace Flying

variable {s s' : Screen} {g g' k : Agenda} {l l' : Ledger} {label : Label}

/-- A change that starts no swap. -/
theorem step (h : Flying s g l) (hc : Change s g label s' g')
    (hlaunched : ∀ p fb, label ≠ .launched p fb)
    (hfanouts : ∀ e' ∈ g'.fanouts, (∃ e ∈ g.fanouts, e.swap = e'.swap ∧ e.fb = e'.fb) ∧
      ∀ f ∈ e'.flip, f.fb = e'.fb)
    (hpending : ∀ {t : Token} {p : Pending Event}, s'.registry.pending.find? t = some p →
      ∃ f, f.token = t ∧ s.Brings f.fb p.event ∧ (f ∈ l'.accepted ∨ f ∈ g'.attempts))
    (hevents : ∀ e ∈ g'.events, ∃ f ∈ l'.accepted, s.Brings f.fb e) : Flying s' g' l' where
  fanouts := by
    intro e' he'
    obtain ⟨⟨e, he, hswap, hfb⟩, -⟩ := hfanouts e' he'
    obtain ⟨w, hw, hnew⟩ := h.fanouts e he
    obtain ⟨w', hw', hcont⟩ := hc.swap_after hw
    exact ⟨w', hswap ▸ hw', by rw [hcont.newFb, hnew, hfb]⟩
  attempts := fun e' he' => (hfanouts e' he').2
  apart := by
    intro e' he' j w' hw'
    obtain ⟨⟨e, he, -, hfb⟩, -⟩ := hfanouts e' he'
    obtain ⟨w, hw, hcont⟩ := hc.swap_continues hlaunched hw'
    rw [hcont.oldFb, ← hfb]
    exact h.apart e he hw
  pending := by
    intro t p hp
    obtain ⟨f, hf, hbrings, hknown⟩ := hpending hp
    exact ⟨f, hf, hbrings.change hc, hknown⟩
  events := by
    intro e he
    obtain ⟨f, hf, hbrings⟩ := hevents e he
    exact ⟨f, hf, hbrings.change hc⟩

/-- A change that starts no swap and keeps the swaps that are in the middle of their flips, the
registry and what the channel accepted. -/
theorem congr (h : Flying s g l) (hc : Change s g label s' g')
    (hlaunched : ∀ p fb, label ≠ .launched p fb)
    (hfanouts : ∀ e ∈ g'.fanouts, e ∈ g.fanouts)
    (hattempts : g'.attempts = g.attempts)
    (hpending : ∀ {t : Token} {p : Pending Event}, s'.registry.pending.find? t = some p →
      s.registry.pending.find? t = some p)
    (hevents : ∀ e ∈ g'.events, e ∈ g.events) (haccepted : l'.accepted = l.accepted) :
    Flying s' g' l' := by
  refine h.step hc hlaunched (fun e he => ?_) (fun hp => ?_) fun e he => ?_
  · exact ⟨⟨e, hfanouts e he, rfl, rfl⟩, h.attempts e (hfanouts e he)⟩
  · rw [haccepted, hattempts]
    exact h.pending (hpending hp)
  · rw [haccepted]
    exact h.events e (hevents e he)

/-- The flip that a swap was queueing is not queued any more. -/
theorem unqueue {id : SwapId} {fb : Framebuffer} {a : Submission}
    (h : Flying s (.queueing id fb a ++ k) l) (hc : Change s (.queueing id fb a ++ k) label s' g')
    (hlaunched : ∀ p fb, label ≠ .launched p fb)
    (hfanouts : g'.fanouts = (Agenda.fanning id fb ++ k).fanouts)
    (hpending : ∀ {t : Token} {p : Pending Event}, s'.registry.pending.find? t = some p →
      s.registry.pending.find? t = some p ∧ (t = a.token → a ∈ l'.accepted))
    (hevents : g'.events = k.events) (haccepted : ∀ f ∈ l.accepted, f ∈ l'.accepted) :
    Flying s' g' l' := by
  refine h.step hc hlaunched (fun e he => ?_) (fun {t p} hp => ?_) fun e he => ?_
  · rw [hfanouts] at he
    rcases List.mem_cons.1 he with rfl | he
    · exact ⟨⟨_, List.mem_cons_self, rfl, rfl⟩, fun f hf => by cases hf⟩
    · exact ⟨⟨e, List.mem_cons_of_mem _ he, rfl, rfl⟩, h.attempts e (List.mem_cons_of_mem _ he)⟩
  · obtain ⟨hbefore, ha⟩ := hpending hp
    obtain ⟨f, hf, hbrings, hknown | hqueued⟩ := h.pending hbefore
    · exact ⟨f, hf, hbrings, .inl (haccepted f hknown)⟩
    · rcases List.mem_cons.1 hqueued with rfl | hqueued
      · exact ⟨f, hf, hbrings, .inl (ha hf.symm)⟩
      · refine ⟨f, hf, hbrings, .inr ?_⟩
        rw [Agenda.attempts, hfanouts]
        exact hqueued
  · rw [hevents] at he
    obtain ⟨f, hf, hbrings⟩ := h.events e he
    exact ⟨f, haccepted f hf, hbrings⟩

/-- A flip of a swap in the middle of its flips is registered. -/
theorem register {id : SwapId} {fb : Framebuffer} {f : Submission} {reference : Bool}
    {r : Registry Event} (h : Flying s (.fanning id fb ++ k) l)
    (hc : Change s (.fanning id fb ++ k) .registered s' (.queueing id fb f ++ k)) (hfb : f.fb = fb)
    (halloc : s.registry.allocate f.crtc (.flip ⟨id, reference⟩) = some (f.token, r))
    (hregistry : s'.registry = r) : Flying s' (.queueing id fb f ++ k) l := by
  refine h.step hc (fun _ _ he => by cases he) (fun e he => ?_) (fun {t p} hp => ?_) h.events
  · rcases List.mem_cons.1 he with rfl | he
    · refine ⟨⟨_, List.mem_cons_self, rfl, rfl⟩, fun f' hf' => ?_⟩
      cases hf'
      exact hfb
    · exact ⟨⟨e, List.mem_cons_of_mem _ he, rfl, rfl⟩, h.attempts e (List.mem_cons_of_mem _ he)⟩
  · rw [hregistry, Registry.pending_of_allocate halloc] at hp
    -- The new event is that of the flip that is being queued.
    split_ifs at hp with ht
    · cases hp
      obtain ⟨x, hx, hnew⟩ := h.fanouts _ List.mem_cons_self
      exact ⟨f, ht.symm, ⟨⟨id, reference⟩, x, rfl, hx, by rw [hnew, hfb]⟩,
        .inr List.mem_cons_self⟩
    · obtain ⟨f', hf', hbrings, hknown | hqueued⟩ := h.pending hp
      · exact ⟨f', hf', hbrings, .inl hknown⟩
      · exact ⟨f', hf', hbrings, .inr (List.mem_cons_of_mem _ hqueued)⟩

/-- A pipe is disabled while nothing else is left to do. Nothing is being queued then, so all that
is handed out was accepted. -/
theorem disable {i : Nat} {crtc : Crtc} (h : Flying s {} l)
    (hc : Change s {} .disabled ((s.setEnabled i false).setRegistry (s.registry.retirePipe crtc).2)
      (.aborting (s.registry.retirePipe crtc).1 ++ {})) :
    Flying ((s.setEnabled i false).setRegistry (s.registry.retirePipe crtc).2)
      (.aborting (s.registry.retirePipe crtc).1 ++ {}) l := by
  refine h.step hc (fun _ _ he => by cases he) (fun e he => by cases he) (fun {t p} hp => ?_)
    fun e he => ?_
  · exact h.pending (Registry.pending_retirePipe_iff.1 hp).1
  · rcases List.mem_append.1 he with he | he
    · obtain ⟨t, p, hp, rfl⟩ := Registry.exists_of_mem_retirePipe he
      obtain ⟨f, -, hbrings, hknown | hqueued⟩ := h.pending hp
      · exact ⟨f, hknown, hbrings⟩
      · cases hqueued
    · cases he

/-- A swap is started while nothing else is left to do. -/
theorem launch {p : Preparation} {fb : Framebuffer} (h : Flying s {} l)
    (hbrought : Brought s l.framebuffers) (hdisplaced : p.displaced = s.held p.slot)
    (hfb : fb ≠ .none) (hfresh : fb ∉ l.framebuffers) (hc : Change s {} (.launched p fb)
      ((s.assign p.slot fb).addSwap ⟨.new fb p.displaced, p.slot, p.request.client⟩).2
      (.fanning s.swaps.length fb ++ {})) :
    Flying ((s.assign p.slot fb).addSwap ⟨.new fb p.displaced, p.slot, p.request.client⟩).2
      (.fanning s.swaps.length fb ++ {}) (l.bring fb) where
  fanouts := by
    intro e he
    obtain rfl := List.mem_singleton.1 he
    exact ⟨_, List.getElem?_concat_length, rfl⟩
  attempts := by
    intro e he f hf
    obtain rfl := List.mem_singleton.1 he
    cases hf
  apart := by
    intro e he j w hw hold
    obtain rfl := List.mem_singleton.1 he
    have hold : w.barrier.oldFb = fb := hold
    rcases Screen.of_getElem?_append_swap (s := s) hw with hw | ⟨-, rfl⟩
    · exact hfresh (hold ▸ hbrought.oldFb hw (hold ▸ hfb))
    · have hheld : s.held p.slot = fb := hdisplaced ▸ hold
      exact hfresh (hheld ▸ hbrought.held p.slot (hheld ▸ hfb))
  pending := by
    intro t q hq
    obtain ⟨f, hf, hbrings, hknown | hqueued⟩ := h.pending hq
    · exact ⟨f, hf, hbrings.change hc, .inl hknown⟩
    · cases hqueued
  events := fun e he => by cases he

/-- Every move keeps it that what flies is not given up, if handlers do not call and the device
brings new framebuffers only. What differs from move to move is which flips fly: a flip begins to
fly when it is accepted, and it ends with its report or with its pipe. -/
theorem evolves {rules : Rules} {apart : Moment → Prop} {m m' : Moment} (hfresh : rules.Fresh)
    (hinert : rules.nested = false) (hbooked : m.IsBooked)
    (h : Flying m.screen m.agenda m.ledger) (he : Evolves rules apart m m') :
    Flying m'.screen m'.agenda m'.ledger := by
  cases he with
  | @change s s' g g' l label hc hl =>
    dsimp only at h ⊢
    cases id hc with
    | pass => exact h
    | @register k id fb f reference r w b hfb halloc hw hb =>
      exact h.register hc hfb halloc rfl
    | @late k report r hr =>
      obtain rfl := Registry.of_forget?_eq_some hr
      exact h.congr hc (fun _ _ he => by cases he) (fun _ he => he) rfl (fun hp => hp)
        (fun _ he => he) rfl
    | @dispatch k report f r w b v hlate hr hw hb =>
      rw [Label.write_ofVerdict]
      exact h.congr hc (Label.ofVerdict_ne_launched _ _ _) (fun _ he => he) rfl
        (fun hp => (Registry.find?_of_resolve hr hp).2) (fun _ he => he) rfl
    | @abort k f w b v hw hb =>
      rw [Label.write_ofVerdict]
      exact h.congr hc (Label.ofVerdict_ne_launched _ _ _) (fun _ he => he) rfl (fun hp => hp)
        (fun _ he => List.mem_cons_of_mem _ he) rfl
    | @giveUp k id fb a f r w b v hr hw hb =>
      rw [Label.write_ofVerdict]
      refine h.unqueue hc (Label.ofVerdict_ne_launched _ _ _) rfl (fun {t p} hp => ?_) rfl
        fun _ hf => hf
      obtain ⟨ht, hp⟩ := Registry.find?_of_resolve hr hp
      exact ⟨hp, fun he => absurd he ht⟩
    | @lose k id fb a hgone =>
      refine h.unqueue hc (fun _ _ he => by cases he) rfl (fun {t p} hp => ?_) rfl fun _ hf => hf
      rw [Screen.registry_setRegistry, Registry.forget_eq] at hp
      have hp : s.registry.pending.find? t = some p := hp
      refine ⟨hp, fun ht => ?_⟩
      have hpending := Registry.isPending_iff.2 ⟨p, ht ▸ hp⟩
      rw [hgone] at hpending
      cases hpending
    | @release k id fb w b v hw hb =>
      rw [Label.write_ofVerdict]
      exact h.congr hc (Label.ofVerdict_ne_launched _ _ _) (fun _ he => List.mem_cons_of_mem _ he)
        rfl (fun hp => hp) (fun _ he => he) rfl
    | reclaim =>
      rw [Label.write_reclaimed]
      exact h.congr hc (fun _ _ he => by cases he) (fun _ he => he) rfl (fun hp => hp)
        (fun _ he => he) rfl
    | @launch p fb =>
      obtain ⟨himport, hdisplaced, hidle⟩ := hl
      -- Without calls from handlers nothing else is left to do.
      obtain rfl := hidle hinert
      obtain ⟨hne, hnew⟩ := hfresh _ _ himport
      exact h.launch hbooked.brought hdisplaced hne hnew hc
    | accept =>
      exact h.unqueue hc (fun _ _ he => by cases he) rfl
        (fun hp => ⟨hp, fun _ => List.mem_cons_self⟩) rfl fun _ hf => List.mem_cons_of_mem _ hf
    | read =>
      exact h.congr hc (fun _ _ he => by cases he) (fun _ he => he) rfl (fun hp => hp)
        (fun _ he => he) rfl
    | @disable _ i crtc =>
      obtain rfl := hl hinert
      exact h.disable hc
    | enable =>
      exact h.congr hc (fun _ _ he => by cases he) (fun _ he => he) rfl (fun hp => hp)
        (fun _ he => he) rfl
    | reorder htable =>
      exact h.congr hc (fun _ _ he => by cases he) (fun _ he => he) rfl
        (fun {t _} hp => (Registry.find?_reorder htable t).symm.trans hp) (fun _ he => he) rfl
  | report => exact ⟨h.fanouts, h.attempts, h.apart, h.pending, h.events⟩
  | lose => exact ⟨h.fanouts, h.attempts, h.apart, h.pending, h.events⟩

end Flying

namespace Moment

variable {m : Moment} {fb : Framebuffer}

/-- A framebuffer that was given up was displaced, or its swap has its outcome. -/
theorem IsBooked.of_removed (h : m.IsBooked) (hfb : fb ∈ m.ledger.removed) :
    ∃ (j : SwapId) (w : Swap), m.screen.swaps[j]? = some w ∧ w.barrier.isFinal = true ∧
      (w.barrier.oldFb = fb ∨ w.barrier.newFb = fb) := by
  rw [h.settled.removed] at hfb
  obtain ⟨⟨j, v⟩, hmem, rfl⟩ := List.mem_map.1 (List.mem_of_mem_filter hfb)
  obtain ⟨w, hw, hfinal⟩ := h.settled.final (j, v) (List.mem_append_right _ hmem)
  refine ⟨j, w, hw, hfinal, ?_⟩
  rw [Screen.givenUp_of_swap hw]
  split_ifs
  · exact .inl rfl
  · exact .inr rfl

variable (hA : Accounted m.screen m.agenda) (hbooked : m.IsBooked)
  (hflying : Flying m.screen m.agenda m.ledger)

include hA hbooked hflying

/-- The framebuffer of a swap in the middle of its flips was not given up. -/
theorem not_removed_of_fanout {e : Underway} (he : e ∈ m.agenda.fanouts) :
    e.fb ∉ m.ledger.removed := by
  intro hremoved
  -- It was not displaced, and its own swap has no outcome.
  obtain ⟨j, w, hw, hfinal, hold | hnew⟩ := hbooked.of_removed hremoved
  · exact hflying.apart e he hw hold
  · obtain ⟨x, hx, hfb⟩ := hflying.fanouts e he
    obtain rfl := hbooked.brought.once hw hx (hnew.trans hfb.symm)
    have hzero := (hA.counts hw).isFinal_iff.1 hfinal
    have hpos : 0 < m.agenda.localHolds e.swap :=
      List.count_pos_iff.2 (List.mem_map_of_mem he)
    omega

/-- A swap whose framebuffer was given up is past its flips. -/
theorem localHolds_eq_zero_of_removed {id : SwapId} {w : Swap} (hw : m.screen.swaps[id]? = some w)
    (hremoved : w.barrier.newFb ∈ m.ledger.removed) : m.agenda.localHolds id = 0 := by
  refine List.count_eq_zero.2 fun hmem => ?_
  obtain ⟨u, hu, rfl⟩ := List.mem_map.1 hmem
  obtain ⟨x, hx, hfb⟩ := hflying.fanouts u hu
  rw [hw] at hx
  cases hx
  exact not_removed_of_fanout hA hbooked hflying hu (hfb ▸ hremoved)

/-- If a framebuffer was given up before its own swap has an outcome, it is in flight. -/
theorem inFlight_of_removed {id : SwapId} {w : Swap} (hw : m.screen.swaps[id]? = some w)
    (hopen : w.barrier.isFinal = false) (hremoved : w.barrier.newFb ∈ m.ledger.removed) :
    m.InFlight w.barrier.newFb := by
  -- The submitter of the swap is done, so a record must be left.
  have hlocal := localHolds_eq_zero_of_removed hA hbooked hflying hw hremoved
  have hrecords : 0 < m.screen.records m.agenda id := by
    by_contra hzero
    have hfinal := (hA.counts hw).isFinal_iff.2 (by omega)
    rw [hopen] at hfinal
    cases hfinal
  obtain ⟨e, he, hof⟩ := List.countP_pos_iff.1 hrecords
  have hmade : ∀ f : Submission, m.screen.Brings f.fb e → f.fb = w.barrier.newFb := by
    rintro f ⟨fl, x, rfl, hx, hfb⟩
    obtain rfl : fl.swap = id := by simpa using hof
    rw [hw] at hx
    cases hx
    exact hfb.symm
  rcases List.mem_append.1 he with he | he
  · obtain ⟨t, p, hp, rfl⟩ := Registry.mem_events_iff.1 he
    obtain ⟨f, rfl, hbrings, hknown | hqueued⟩ := hflying.pending hp
    · exact ⟨f, hknown, hmade f hbrings, .inl ⟨p, hp, hmade f hbrings ▸ hbrings⟩⟩
    · -- A flip with this framebuffer is not being queued any more.
      obtain ⟨u, hu, hflip⟩ := List.mem_filterMap.1 hqueued
      have hfb : u.fb = w.barrier.newFb :=
        (hflying.attempts u hu f hflip).symm.trans (hmade f hbrings)
      exact absurd (hfb ▸ hremoved) (not_removed_of_fanout hA hbooked hflying hu)
  · obtain ⟨f, hknown, hbrings⟩ := hflying.events e he
    exact ⟨f, hknown, hmade f hbrings, .inr ⟨e, he, hmade f hbrings ▸ hbrings⟩⟩

omit hbooked hflying in
/-- A framebuffer in flight is that of a swap without outcome. -/
theorem InFlight.exists_swap (h : m.InFlight fb) :
    ∃ (id : SwapId) (w : Swap), m.screen.swaps[id]? = some w ∧ w.barrier.newFb = fb ∧
      w.barrier.isFinal = false := by
  obtain ⟨f, -, -, hevent⟩ := h
  obtain ⟨e, he, hbrings⟩ : ∃ e ∈ m.screen.registry.events ++ m.agenda.events,
      m.screen.Brings fb e := by
    rcases hevent with ⟨p, hp, hbrings⟩ | ⟨e, he, hbrings⟩
    · exact ⟨p.event, List.mem_append_left _ (Registry.mem_events_iff.2 ⟨_, p, hp, rfl⟩), hbrings⟩
    · exact ⟨e, List.mem_append_right _ he, hbrings⟩
  obtain ⟨fl, w, rfl, hw, hnew⟩ := hbrings
  refine ⟨fl.swap, w, hw, hnew, Bool.eq_false_iff.2 fun hfinal => ?_⟩
  -- The record is one of the holds that keep the swap from its outcome.
  have hzero := (hA.counts hw).isFinal_iff.1 hfinal
  have hpos : 0 < m.screen.records m.agenda fl.swap := List.countP_pos_iff.2 ⟨_, he, by simp⟩
  omega

/-- A framebuffer that was given up is in flight while its own swap has no outcome. -/
theorem inFlight_iff (hremoved : fb ∈ m.ledger.removed) :
    m.InFlight fb ↔ ∃ (id : SwapId) (w : Swap), m.screen.swaps[id]? = some w ∧
      w.barrier.newFb = fb ∧ w.barrier.isFinal = false := by
  constructor
  · exact InFlight.exists_swap hA
  · rintro ⟨id, w, hw, rfl, hopen⟩
    exact inFlight_of_removed hA hbooked hflying hw hopen hremoved

end Moment

namespace World

variable {pipes : List Pipe} {slots : List Framebuffer} {config : Config} {moves : List Move}
  {w : World}

/-- At first nothing flies. -/
theorem flying_new (pipes : List Pipe) (slots : List Framebuffer) (config : Config) :
    Flying (new pipes slots config).moment.screen (new pipes slots config).moment.agenda
      (new pipes slots config).moment.ledger where
  fanouts := fun _ he => by cases he
  attempts := fun _ he => by cases he
  apart := fun _ he => by cases he
  pending := fun hp => by cases hp
  events := fun _ he => by cases he

/-- Without calls from handlers, a framebuffer that was given up is in flight exactly while the swap
that brought it up has no outcome, and it is not submitted any more. -/
theorem removed_in_flight_iff (hplay : (new pipes slots config).play .inert moves = some w)
    (hunbroken : w.session.violation = none) :
    (∀ fb ∈ w.ledger.removed, w.moment.InFlight fb ↔
      ∃ (id : SwapId) (x : Swap), w.session.screen.swaps[id]? = some x ∧
        x.barrier.newFb = fb ∧ x.barrier.isFinal = false) ∧
    ∀ a waits, w.session.waits = .attempting a :: waits →
      a.submission.fb ∉ w.ledger.removed := by
  cases reached hplay with
  | sound hpath hs =>
    obtain ⟨hbooked, hflying⟩ := hpath.keeps
      (p := fun m => m.IsBooked ∧ Flying m.screen m.agenda m.ledger)
      (fun _ _ h he => ⟨h.1.evolves Rules.inert_fresh he,
        h.2.evolves Rules.inert_fresh rfl h.1 he⟩)
      ⟨Moment.isBooked_new pipes slots config, flying_new pipes slots config⟩
    refine ⟨fun fb hfb => Moment.inFlight_iff hs.accounted hbooked hflying hfb, ?_⟩
    intro a waits hwaits
    have hfanout : (⟨a.fanout.swap, a.fanout.fb, some a.submission⟩ : Underway) ∈
        w.moment.agenda.fanouts := by
      rw [moment, Session.agenda, hwaits]
      exact List.mem_cons_self
    have hfb : a.submission.fb = a.fanout.fb := hflying.attempts _ hfanout _ rfl
    rw [hfb]
    exact Moment.not_removed_of_fanout hs.accounted hbooked hflying hfanout
  | stray _ _ _ _ _ hv =>
    rw [hunbroken] at hv
    cases hv

open Sample in
/-- A swap is on two pipes, and has its outcome on one of them. The next swap reaches only this one:
the other pipe is busy. -/
def partialSwap : List Move :=
  [swap 0, brings 100, accepts, accepts, .report first, .call .drain, reads first, swap 1,
    brings 101, accepts, rejects, .report third, .call .drain, reads third, returns]

/-- When the second swap completes, the framebuffer of the first is given up, while its flip on the
busy pipe is unresolved. -/
theorem partialSwap_removes_in_flight :
    ∃ w, (new Sample.pipes Sample.slots .default).play .inert partialSwap = some w ∧
      w.session.violation = none ∧ w.ledger.removed = [⟨100⟩] ∧ w.moment.InFlight ⟨100⟩ := by
  have hflight {w : World}
      (hplay : (new Sample.pipes Sample.slots .default).play .inert partialSwap = some w)
      (hunbroken : w.session.violation = none) (hremoved : ⟨100⟩ ∈ w.ledger.removed)
      (hfinal : ∃ (id : SwapId) (x : Swap), w.session.screen.swaps[id]? = some x ∧
        x.barrier.newFb = ⟨100⟩ ∧ x.barrier.isFinal = false) : w.moment.InFlight ⟨100⟩ :=
    ((removed_in_flight_iff hplay hunbroken).1 _ hremoved).2 hfinal
  exact ⟨_, rfl, by decide, by decide,
    hflight rfl (by decide) (by decide) ⟨0, _, rfl, by decide, by decide⟩⟩

end World

end PageFlip
