import PageFlip.Proofs.Effects
import PageFlip.Proofs.Story

/-!
# Where the flips of unfinished operations come from

Every flip that is pending, or was handed out to be aborted, is one of a swap whose flip the channel
has accepted, or of a swap that is still queueing it (`Sources`). So a swap that has no outcome and
whose submitter has given up its hold has an accepted flip (`Sources.accepted`), and when a swap
gets its outcome from anything but its own release, it took effect
(`Sources.tookEffect_of_resolve`).

Two things are known of the operations on each other: an operation does not abort events of the
swaps whose flips are queued above it (`Separate`), and if the channel only reports flips that are
not being queued, no report is dispatched on a flip that is being queued in its own operation or
below (`Unmixed`). Then a completed flip was accepted (`Earned`).
-/

namespace PageFlip

variable {conduct : Conduct} {m m' : Scene}

namespace Deed

/-- What happened remains. -/
theorem exists_history (hd : Deed conduct m m') : ∃ hs, m'.history = hs ++ m.history := by
  cases hd with
  | @dispatch s c g e report f r w b v =>
    exact ⟨Happening.ofVerdict f.swap w.client v ++ [.resolved f.swap report], by simp⟩
  | abort => exact ⟨_, rfl⟩
  | giveUp => exact ⟨_, rfl⟩
  | release => exact ⟨_, rfl⟩
  | reclaim => exact ⟨_, rfl⟩
  | @accept s c id fb n f => exact ⟨[.accepted id f], rfl⟩
  | refuse => exact ⟨[.returned _ _ _], rfl⟩
  | finish => exact ⟨[.returned _ _ _], rfl⟩
  | _ => exact ⟨[], rfl⟩

/-- A swap that had an accepted flip still has. -/
theorem accepted_mono (hd : Deed conduct m m') {id : SwapId}
    (h : (recordOf id m.history).accepted = true) : (recordOf id m'.history).accepted = true := by
  obtain ⟨hs, hhistory⟩ := hd.exists_history
  rw [accepted_recordOf_iff] at h ⊢
  obtain ⟨f, hf⟩ := h
  exact ⟨f, by rw [hhistory]; exact List.mem_append_right _ hf⟩

end Deed

/-! ## The operations on each other -/

/-- No operation aborts events of a swap whose flips are queued above it. -/
def Separate : List Level → Prop
  | [] => True
  | l :: ls =>
    (∀ id ∈ l.agenda.unreleased, ∀ f, .flip f ∈ (Scene.agendaOf ls).events → f.swap ≠ id) ∧
      Separate ls

/-- Every deed keeps the events of an operation apart from the flips above it. -/
theorem Separate.deed (h : Separate m.levels) (hA : Accounted m.screen m.agenda)
    (hd : Deed conduct m m') : Separate m'.levels := by
  cases hd with
  | @launch s c p fb ls fbs h' hfb =>
    -- The swap is new, so no event is one of it.
    refine ⟨?_, h.2⟩
    intro id hid f hf
    obtain rfl := List.mem_singleton.1 hid
    obtain ⟨f', hf', hlt⟩ := hA.events (.flip f) (List.mem_append_right _ hf)
    cases hf'
    exact Nat.ne_of_lt hlt
  | release => exact ⟨fun _ hid => absurd hid List.not_mem_nil, h.2⟩
  | call => exact ⟨fun _ hid => absurd hid List.not_mem_nil, h⟩
  | disable => exact ⟨fun _ hid => absurd hid List.not_mem_nil, h⟩
  | enable => exact ⟨fun _ hid => absurd hid List.not_mem_nil, h⟩
  | refuse => exact h.2
  | finish => exact h.2
  | _ => exact h

/-- No report is dispatched on a flip that is being queued in its own operation or below. -/
def Unmixed : List Level → Prop
  | [] => True
  | l :: ls =>
    (∀ r ∈ l.agenda.reports,
      r.token ∉ (Scene.agendaOf (l :: ls)).attempts.map Submission.token) ∧ Unmixed ls

/-- The channel never reports a flip that is still being queued. -/
def Conduct.Truthful (conduct : Conduct) : Prop :=
  ∀ m reports, conduct.reads m reports = true → ∀ r ∈ reports, r.token ∉ m.queued

/-- Every deed keeps reports off the flips that are being queued, if the channel does. -/
theorem Unmixed.deed (h : Unmixed m.levels) (hconduct : conduct.Truthful)
    (hd : Deed conduct m m') : Unmixed m'.levels := by
  cases hd with
  | pass => exact h
  | register => exact ⟨fun _ hr => absurd hr List.not_mem_nil, h.2⟩
  | late => exact ⟨fun r hr => h.1 r (List.mem_cons_of_mem _ hr), h.2⟩
  | dispatch => exact ⟨fun r hr => h.1 r (List.mem_cons_of_mem _ hr), h.2⟩
  | abort => exact h
  | giveUp => exact ⟨fun _ hr => absurd hr List.not_mem_nil, h.2⟩
  | lose => exact ⟨fun _ hr => absurd hr List.not_mem_nil, h.2⟩
  | release => exact ⟨fun _ hr => absurd hr List.not_mem_nil, h.2⟩
  | reclaim => exact h
  | launch => exact ⟨fun _ hr => absurd hr List.not_mem_nil, h.2⟩
  | refuse => exact h.2
  | accept => exact ⟨fun _ hr => absurd hr List.not_mem_nil, h.2⟩
  | read hreads =>
    refine ⟨fun r hr => ?_, h.2⟩
    rcases List.mem_append.1 hr with hr | hr
    · exact hconduct _ _ hreads r hr
    · exact h.1 r hr
  | drain hreads =>
    refine ⟨fun r hr => ?_, h.2⟩
    rcases List.mem_append.1 hr with hr | hr
    · exact hconduct _ _ hreads r hr
    · exact h.1 r hr
  | call => exact ⟨fun _ hr => absurd hr List.not_mem_nil, h⟩
  | disable => exact ⟨fun _ hr => absurd hr List.not_mem_nil, h⟩
  | enable => exact ⟨fun _ hr => absurd hr List.not_mem_nil, h⟩
  | finish => exact h.2
  | reorder => exact h

/-! ## Flips -/

/-- Each flip that is pending or to be aborted is one of a swap that has an accepted flip, or that
is still queueing this one. -/
structure Sources (s : Screen) (g : Agenda) (h : List Happening) : Prop where
  pending : ∀ {t : Token} {e : Pending Event} {f : Flip},
    s.registry.pending.find? t = some e → e.event = .flip f →
    (recordOf f.swap h).accepted = true ∨
      ∃ u ∈ g.fanouts, u.swap = f.swap ∧ ∃ a, u.flip = some a ∧ a.token = t
  events : ∀ {f : Flip}, .flip f ∈ g.events →
    (recordOf f.swap h).accepted = true ∨ f.swap ∈ g.unreleased

namespace Sources

variable {s s' : Screen} {g g' : Agenda} {h h' : List Happening}

/-- Nothing is registered, handed out or released. -/
theorem mono (hS : Sources s g h)
    (hpending : ∀ t e, s'.registry.pending.find? t = some e → s.registry.pending.find? t = some e)
    (hfanouts : ∀ u ∈ g.fanouts, ∀ a, u.flip = some a → u ∈ g'.fanouts ∨
      (recordOf u.swap h').accepted = true ∨ s'.registry.pending.find? a.token = none)
    (hevents : ∀ e ∈ g'.events, e ∈ g.events)
    (hunreleased : ∀ id ∈ g.unreleased, id ∈ g'.unreleased)
    (haccepted : ∀ id, (recordOf id h).accepted = true → (recordOf id h').accepted = true) :
    Sources s' g' h' where
  pending := by
    intro t e f he hf
    rcases hS.pending (hpending t e he) hf with hacc | ⟨u, hu, huf, a, ha, rfl⟩
    · exact .inl (haccepted _ hacc)
    · rcases hfanouts u hu a ha with hu' | hacc | hnone
      · exact .inr ⟨u, hu', huf, a, ha, rfl⟩
      · exact .inl (huf ▸ hacc)
      · rw [hnone] at he
        cases he
  events := fun hf => (hS.events (hevents _ hf)).imp (haccepted _) (hunreleased _)

/-- A flip that is pending or to be aborted is one of a swap that has an accepted flip or whose
submitter has its hold. -/
theorem of_pending (hS : Sources s g h) {t : Token} {e : Pending Event} {f : Flip}
    (he : s.registry.pending.find? t = some e) (hf : e.event = .flip f) :
    (recordOf f.swap h).accepted = true ∨ f.swap ∈ g.unreleased := by
  refine (hS.pending he hf).imp_right ?_
  rintro ⟨u, hu, huf, -⟩
  exact huf ▸ List.mem_map_of_mem hu

/-- Nothing is registered, handed out or released, and no swap goes on. -/
theorem congr (hS : Sources s g h)
    (hpending : ∀ t e, s'.registry.pending.find? t = some e → s.registry.pending.find? t = some e)
    (hfanouts : g'.fanouts = g.fanouts) (hevents : ∀ e ∈ g'.events, e ∈ g.events)
    (haccepted : ∀ id, (recordOf id h).accepted = true → (recordOf id h').accepted = true) :
    Sources s' g' h' := by
  refine hS.mono hpending (fun u hu _ _ => .inl (hfanouts ▸ hu)) hevents (fun id hid => ?_)
    haccepted
  rw [Agenda.unreleased, hfanouts]
  exact hid

section Queueing

variable {k : Agenda} {id : SwapId} {fb : Framebuffer} {a : Submission}

/-- A flip is registered and is being queued. -/
theorem register (hS : Sources s (.fanning id fb ++ k) h) {reference : Bool} {r : Registry Event}
    (halloc : s.registry.allocate a.crtc (.flip ⟨id, reference⟩) = some (a.token, r))
    (hregistry : s'.registry = r) : Sources s' (.queueing id fb a ++ k) h where
  pending := by
    intro t e f he hf
    rw [hregistry, Registry.pending_of_allocate halloc] at he
    split_ifs at he with ht
    · -- The new record is that of the flip that is being queued.
      cases he
      cases hf
      exact .inr ⟨⟨id, fb, some a⟩, List.mem_cons_self, rfl, a, rfl, ht.symm⟩
    · refine (hS.pending he hf).imp_right ?_
      rintro ⟨u, hu, huf, a', ha, hat⟩
      rcases List.mem_cons.1 hu with rfl | hu
      · cases ha
      · exact ⟨u, List.mem_cons_of_mem _ hu, huf, a', ha, hat⟩
  events := hS.events

/-- A flip is no longer being queued: it was accepted, or its token is not pending any more. -/
theorem unqueue (hS : Sources s (.queueing id fb a ++ k) h)
    (hpending : ∀ t e, s'.registry.pending.find? t = some e → s.registry.pending.find? t = some e)
    (hgone : (recordOf id h').accepted = true ∨ s'.registry.pending.find? a.token = none)
    (hfanouts : g'.fanouts = ⟨id, fb, none⟩ :: k.fanouts) (hevents : ∀ e ∈ g'.events, e ∈ k.events)
    (haccepted : ∀ id, (recordOf id h).accepted = true → (recordOf id h').accepted = true) :
    Sources s' g' h' := by
  refine hS.mono hpending (fun u hu a' ha' => ?_) hevents (fun id' hid => ?_) haccepted
  · rw [hfanouts]
    rcases List.mem_cons.1 hu with rfl | hu
    · cases ha'
      exact .inr hgone
    · exact .inl (List.mem_cons_of_mem _ hu)
  · rw [Agenda.unreleased, hfanouts]
    exact hid

/-- The submitter of a swap gives up its hold, and no event of the swap is left to abort below. -/
theorem release (hS : Sources s (.fanning id fb ++ k) h) (hregistry : s'.registry = s.registry)
    (hfanouts : g'.fanouts = k.fanouts) (hevents : g'.events = k.events)
    (hapart : ∀ f, .flip f ∈ k.events → f.swap ≠ id)
    (haccepted : ∀ id, (recordOf id h).accepted = true → (recordOf id h').accepted = true) :
    Sources s' g' h' where
  pending := by
    intro t e f he hf
    rw [hregistry] at he
    rw [hfanouts]
    rcases hS.pending he hf with hacc | ⟨u, hu, huf, a', ha, hat⟩
    · exact .inl (haccepted _ hacc)
    · rcases List.mem_cons.1 hu with rfl | hu
      · cases ha
      · exact .inr ⟨u, hu, huf, a', ha, hat⟩
  events := by
    intro f hf
    rw [hevents] at hf
    rw [Agenda.unreleased, hfanouts]
    rcases hS.events hf with hacc | hid
    · exact .inl (haccepted _ hacc)
    · rcases List.mem_cons.1 hid with hid | hid
      · exact absurd hid (hapart f hf)
      · exact .inr hid

end Queueing

/-- The events of a controller are handed out, all of which were pending until now. -/
theorem retirePipe (hS : Sources s g h) (crtc : Crtc) :
    Sources (s.setRegistry (s.registry.retirePipe crtc).2)
      (.aborting (s.registry.retirePipe crtc).1 ++ g) h where
  pending := fun he hf => hS.pending (Registry.pending_retirePipe_iff.1 he).1 hf
  events := by
    intro f hf
    rcases List.mem_append.1 hf with hf | hf
    · obtain ⟨t, e, he, hevent⟩ := Registry.exists_of_mem_retirePipe hf
      exact hS.of_pending he hevent
    · exact hS.events hf

/-- Each deed keeps the sources of flips. -/
theorem deed (hS : Sources m.screen m.agenda m.history) (hsep : Separate m.levels)
    (hd : Deed conduct m m') : Sources m'.screen m'.agenda m'.history := by
  have haccepted : ∀ id, (recordOf id m.history).accepted = true →
      (recordOf id m'.history).accepted = true := fun _ => hd.accepted_mono
  cases hd with
  | pass => exact hS
  | register _ halloc => exact hS.register halloc rfl
  | late hr =>
    rw [Registry.of_forget?_eq_some hr]
    exact hS.congr (fun _ _ he => he) rfl (fun _ he => he) haccepted
  | dispatch hr =>
    simp only [Scene.agenda, Scene.agendaOf, Agenda.append_assoc] at hS ⊢
    exact hS.congr (fun _ _ hp => (Registry.find?_of_resolve hr hp).2) rfl (fun _ he => he)
      haccepted
  | abort =>
    simp only [Scene.agenda, Scene.agendaOf, Agenda.append_assoc] at hS ⊢
    exact hS.congr (fun _ _ he => he) rfl (fun _ he => List.mem_cons_of_mem _ he) haccepted
  | giveUp he hr =>
    simp only [Scene.agenda, Scene.agendaOf, Agenda.append_assoc] at hS ⊢
    exact hS.unqueue (fun _ _ hp => (Registry.find?_of_resolve hr hp).2)
      (.inr (Registry.isPending_eq_false_iff.1 (Registry.isPending_of_resolve hr))) rfl
      (fun _ he => he) haccepted
  | lose hgone =>
    rw [Registry.forget_eq]
    exact hS.unqueue (fun _ _ he => he) (.inr (Registry.isPending_eq_false_iff.1 hgone)) rfl
      (fun _ he => he) haccepted
  | @release s c id fb n error w b v ls fbs h hw hb =>
    exact hS.release rfl rfl rfl (fun f hf => hsep.1 id List.mem_cons_self f hf) haccepted
  | reclaim =>
    simp only [Scene.agenda, Scene.agendaOf, Agenda.append_assoc] at hS ⊢
    exact hS.congr (fun _ _ he => he) rfl (fun _ he => he) haccepted
  | launch =>
    exact hS.mono (fun _ _ he => he) (fun u hu _ _ => .inl (List.mem_cons_of_mem _ hu))
      (fun _ he => he) (fun _ hid => List.mem_cons_of_mem _ hid) haccepted
  | refuse => exact hS.congr (fun _ _ he => he) rfl (fun _ he => he) haccepted
  | @accept s c id fb n f =>
    exact hS.unqueue (fun _ _ he => he) (.inl (by simp [recordOf])) rfl (fun _ he => he) haccepted
  | read =>
    simp only [Scene.agenda, Scene.agendaOf, Agenda.append_assoc] at hS ⊢
    exact ⟨hS.pending, hS.events⟩
  | drain =>
    simp only [Scene.agenda, Scene.agendaOf, Agenda.append_assoc] at hS ⊢
    exact ⟨hS.pending, hS.events⟩
  | call => exact hS
  | @disable s crtc => exact ⟨(hS.retirePipe crtc).pending, (hS.retirePipe crtc).events⟩
  | enable => exact ⟨hS.pending, hS.events⟩
  | finish => exact hS.congr (fun _ _ he => he) rfl (fun _ he => he) haccepted
  | reorder _ htable =>
    exact hS.congr (fun t _ he => (Registry.find?_reorder htable t).symm.trans he) rfl
      (fun _ he => he) haccepted

/-- A swap that has no outcome and whose submitter has given up its hold has an accepted flip. -/
theorem accepted (hS : Sources s g h) (hA : Accounted s g) {id : SwapId} {w : Swap}
    (hw : s.swaps[id]? = some w) (hopen : w.barrier.isFinal = false)
    (hreleased : id ∉ g.unreleased) : (recordOf id h).accepted = true := by
  have hcounts := hA.counts hw
  have hlocal : g.localHolds id = 0 := List.count_eq_zero.2 hreleased
  -- What holds the swap is a record of it.
  have hrecords : 0 < s.records g id := by
    rw [Nat.pos_iff_ne_zero]
    intro hzero
    rw [hcounts.isFinal_iff.2 (by rw [hlocal, hzero])] at hopen
    cases hopen
  obtain ⟨e, he, hid⟩ := List.countP_pos_iff.1 hrecords
  obtain ⟨f, rfl, -⟩ := hA.events e he
  obtain rfl : f.swap = id := beq_iff_eq.1 hid
  rcases List.mem_append.1 he with he | he
  · obtain ⟨t, p, hp, hevent⟩ := Registry.mem_events_iff.1 he
    exact (hS.of_pending hp hevent).resolve_right hreleased
  · exact (hS.events he).resolve_right hreleased

/-- A swap that gets its outcome when a flip is resolved took effect: its submitter has given up its
hold before, and so a flip of it was accepted. -/
theorem tookEffect_of_resolve {rs : List (SwapId × Verdict)} {f : Flip} {w : Swap} {b : Barrier}
    {v : Verdict} {stamp : Option Stamp} {n : Nat} (hS : Sources s g h) (hA : Accounted s g)
    (hC : Chronicled s rs h) (hw : s.swaps[f.swap]? = some w)
    (hb : w.barrier.resolve f.reference stamp = .ok (b, some v))
    (hcounts : b.Counts (g.localHolds f.swap) n) : v.tookEffect = true := by
  have hopen : w.barrier.isFinal = false := (Barrier.sameFbs_of_resolve hb).2.1
  have hfinal : b.isFinal = true := (Barrier.sameFbs_of_resolve hb).2.2
  have hreleased : f.swap ∉ g.unreleased := by
    rw [hcounts.isFinal_iff] at hfinal
    exact List.count_eq_zero.1 (Nat.eq_zero_of_add_eq_zero_right hfinal)
  have haccepted := hS.accepted hA hw hopen hreleased
  obtain ⟨-, hstory⟩ := (hC.story hw).resolve hb
  unfold Swap.Story at hstory
  rw [Option.isNone_iff_eq_none.1 hfinal] at hstory
  obtain ⟨v', hsubmitted, -, -, ⟨howed, -⟩ | ⟨howed, -⟩⟩ := hstory
  · cases howed
    rw [Verdict.tookEffect, hsubmitted]
    simp [Record.hear, haccepted]
  · cases howed

end Sources

/-- A completed flip was accepted before. -/
def Earned (h : List Happening) : Prop :=
  ∀ id, (recordOf id h).completed = true → (recordOf id h).accepted = true

/-- After every deed the completed flips were accepted before: a report is on a flip of a swap that
has an accepted one, or of one that is still being queued, which it is kept off. -/
theorem Earned.deed (hE : Earned m.history) (hS : Sources m.screen m.agenda m.history)
    (hmixed : Unmixed m.levels) (hd : Deed conduct m m') : Earned m'.history := by
  have haccepted : ∀ id, (recordOf id m.history).accepted = true →
      (recordOf id m'.history).accepted = true := fun _ => hd.accepted_mono
  -- Only a report that is dispatched completes a flip.
  have hother : ∀ {hs : List Happening}, m'.history = hs ++ m.history →
      (∀ id t stamp, .resolved id (.complete t stamp) ∉ hs) → Earned m'.history := by
    intro hs hhistory hnone id hid
    obtain ⟨t, stamp, hmem⟩ := completed_recordOf_iff.1 hid
    rw [hhistory] at hmem
    rcases List.mem_append.1 hmem with hmem | hmem
    · exact absurd hmem (hnone id t stamp)
    · exact haccepted id (hE id (completed_recordOf_iff.2 ⟨t, stamp, hmem⟩))
  have hverdict : ∀ (j : SwapId) (client : Client) (v : Option Verdict) (id : SwapId) (t : Token)
      (stamp : Stamp), .resolved id (.complete t stamp) ∉ Happening.ofVerdict j client v := by
    intro j client v id t stamp hmem
    cases v <;> simp [Happening.ofVerdict] at hmem
  have hreturned : ∀ (c : Call) (o : Outcome) (s : Screen) (id : SwapId) (t : Token)
      (stamp : Stamp), .resolved id (.complete t stamp) ∉ [Happening.returned c o s] := by simp
  cases hd with
  | @dispatch s c g e report f r w b v ls fbs h hr hw hlate hb =>
    obtain ⟨p, hp, hevent, -⟩ := Registry.of_resolve_eq_ok hr
    -- The flip is not being queued, so it was accepted.
    have hacc : (recordOf f.swap h).accepted = true := by
      refine (hS.pending hp hevent).resolve_right ?_
      rintro ⟨u, hu, -, a, ha, hat⟩
      refine hmixed.1 report (List.mem_append_left _ List.mem_cons_self) ?_
      rw [← hat]
      exact List.mem_map_of_mem (List.mem_filterMap.2 ⟨u, hu, ha⟩)
    intro id hid
    by_cases hid' : id = f.swap
    · subst hid'
      exact haccepted _ hacc
    · obtain ⟨t, stamp, hmem⟩ := completed_recordOf_iff.1 hid
      refine haccepted id (hE id (completed_recordOf_iff.2 ⟨t, stamp, ?_⟩))
      rcases List.mem_append.1 hmem with hmem | hmem
      · exact absurd hmem (hverdict _ _ _ _ _ _)
      · rcases List.mem_cons.1 hmem with hmem | hmem
        · cases hmem
          exact absurd rfl hid'
        · exact hmem
  | abort => exact hother rfl (hverdict _ _ _)
  | giveUp => exact hother rfl (hverdict _ _ _)
  | release => exact hother rfl (hverdict _ _ _)
  | reclaim =>
    refine hother rfl fun id t stamp hmem => ?_
    split_ifs at hmem
    · cases hmem
    · simp at hmem
  | @accept s c id fb n f =>
    have hnone : ∀ j t stamp, .resolved j (.complete t stamp) ∉ [Happening.accepted id f] := by simp
    exact hother rfl hnone
  | refuse => exact hother rfl (hreturned _ _ _)
  | finish => exact hother rfl (hreturned _ _ _)
  | _ => exact hE

end PageFlip
