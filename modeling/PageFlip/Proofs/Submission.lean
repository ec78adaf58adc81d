import PageFlip.Proofs.Channel
import PageFlip.Proofs.Errand

/-!
# Every flip is submitted for its swap

Whatever the device and the channel say and the handlers call: a flip is handed to the channel only
while its swap has no outcome and its pipe is enabled, with the framebuffer that was imported for
the swap and the flags that were asked for, and the attempts, holds and tokens of a swap are
disciplined (`Course.submissions_disciplined`). As long as no two flips are being queued under one
token, the token of the flip is pending for just this swap and controller.

The first part follows from what is noted of errands: an answer keeps them as a step does, so a
session is `Tidy` after every act. For the second each change is shown to leave the tokens of the
flips that are being queued to their swaps (`Screen.Owns`).
-/

namespace PageFlip

/-! ## From rest to rest -/

namespace Errands

variable {s : Screen} {es : List Errand} {l : List Mark} {a : Attempt} {p : Progress Follow}

/-- The framebuffer of a swap was imported. -/
theorem launch {prep : Preparation} {fb : Framebuffer} (h : Errands s es l) :
    (s.launch prep fb).Orderly es (.brought s.swaps.length prep.request fb :: l) := by
  have hlength : (s.launch prep fb).screen.swaps.length = s.swaps.length + 1 :=
    Screen.length_addSwap_assign s prep.slot fb _
  have hremains : s.Remains (s.launch prep fb).screen :=
    ⟨rfl, rfl, hlength ▸ Nat.le_succ _⟩
  -- The swap is new, so nothing was noted of it.
  have hnew : ∀ m ∈ l, m.swap ≠ s.swaps.length := fun m hm => Nat.ne_of_lt (h.known m hm)
  refine ⟨⟨?_, ?_, ?_, ?_, ?_⟩, .of_submits rfl⟩
  · exact h.order.cons fun n hn hswap => absurd hswap (hnew n hn)
  · intro id i f hf
    rcases List.mem_cons.1 hf with hf | hf
    · cases hf
    · exact List.mem_cons_of_mem _ (h.token id i f hf)
  · rw [hlength]
    exact List.forall_mem_cons.2 ⟨Nat.lt_succ_self _,
      fun m hm => Nat.lt_succ_of_lt (h.known m hm)⟩
  · refine List.forall_mem_cons.2 ⟨⟨?_, ?_, ?_, ?_, fun a ha => by cases ha⟩, fun e he => ?_⟩
    · rw [hlength]
      exact Nat.lt_succ_self _
    · exact ⟨prep.request, List.mem_cons_self, rfl⟩
    · exact (List.pairwise_lt_range (n := s.pipes.length)).filter _
    · intro m hm hswap
      rcases List.mem_cons.1 hm with rfl | hm
      · exact fun i hi => ⟨rfl, Nat.zero_le _⟩
      · exact absurd hswap (hnew m hm)
    · refine (h.kept e he).mono (k := [_]) hremains fun m hm hswap => ?_
      rw [List.mem_singleton.1 hm] at hswap
      exact Nat.ne_of_gt (h.kept e he).lt hswap
  · refine List.nodup_cons.2 ⟨fun hmem => ?_, h.apart⟩
    obtain ⟨e, he, hswap⟩ := List.mem_map.1 hmem
    exact Nat.ne_of_lt (h.kept e he).lt hswap

/-- The channel accepted a flip. -/
theorem accepted {now : Instant} (h : Errands s (.trying a :: es) l) :
    (s.accepted a now).Orderly es
      (s.takes a.fanout.swap a.pipe (s.accepted a now) ++ [.accepted a.fanout.swap a.pipe] ++
        l) := by
  have hkept := h.kept _ List.mem_cons_self
  obtain ⟨w, hw⟩ : ∃ w, s.swaps[a.fanout.swap]? = some w :=
    ⟨_, List.getElem?_eq_getElem hkept.lt⟩
  -- Apart from the time of the flip, the screen only gives up retired tokens.
  have heases : s.Eases (s.setBarrier a.fanout.swap w.barrier.markSubmitted) :=
    Screen.eases_setBarrier hw (Nat.le_of_eq (Barrier.outstanding_markSubmitted _))
  have hscreen : (s.accepted a now).screen =
      ((s.setBarrier a.fanout.swap w.barrier.markSubmitted).setRegistry
        (s.registry.forgetPipe a.submission.crtc).2).setFlippedAt a.pipe now := by
    simp only [Screen.accepted, hw]
    rfl
  have hremains : s.Remains (s.accepted a now).screen := by
    rw [hscreen]
    exact ⟨Screen.crtcs_setFlippedAt _ _ _, rfl, Nat.le_of_eq (Screen.length_setBarrier s _ _).symm⟩
  have htakes : s.takes a.fanout.swap a.pipe (s.accepted a now) = [] := by
    have hsame : s.takes a.fanout.swap a.pipe (s.accepted a now) =
        s.takes a.fanout.swap a.pipe ((s.setBarrier a.fanout.swap w.barrier.markSubmitted).work []
          (.fan a.fanout)) := by
      rw [Screen.takes, Screen.takes, hscreen]
      rfl
    rw [hsame, Screen.takes_of_eases heases]
    rfl
  rw [htakes]
  have hbehind := hkept.behind
  refine ⟨?_, .of_submits rfl⟩
  refine h.advance (k := [_]) (o := some _) hremains ?_ ?_ ?_ ?_
  · exact fun m hm => by rw [List.mem_singleton.1 hm]; rfl
  · refine h.order.cons fun m hm hswap => ?_
    have hprecedes : m.Precedes (.submitted a.fanout.swap a.pipe a.submission) :=
      hbehind m hm hswap
    exact Mark.precedes_of_lt hprecedes.unfailed (Nat.lt_succ_of_le hprecedes.place_le)
  · exact fun id i f hf => by cases List.mem_singleton.1 hf
  · rintro e' ⟨⟩
    have hnext := (hkept.next (n := a.fanout.submitted + 1)).mono (k := []) hremains
      (List.forall_mem_nil _)
    refine ⟨rfl, hnext.note fun i hi => ⟨rfl, ?_⟩⟩
    have hlt : a.pipe < i := (List.pairwise_cons.1 hkept.ascending).1 i hi
    show 4 * a.pipe + 4 ≤ 4 * i
    omega

/-- The flip of a swap failed. -/
theorem failed {e : SwapError} (h : Errands s (.trying a :: es) l) :
    (s.fail a e).Orderly es (s.takes a.fanout.swap a.pipe (s.fail a e) ++ l) := by
  have hcontinues : (s.fail a e).next.Continues (.conclude a.fanout (some e)) :=
    Screen.continues_fail
  have heases : s.Eases (s.fail a e).screen := Screen.eases_fail
  have herrand : (s.fail a e).next.errand? = none := hcontinues.errand?.elim id id
  rw [Screen.takes_of_eases heases, hcontinues.submits, List.append_nil]
  refine ⟨?_, fun b hb => absurd hb (hcontinues.ne_attempting b)⟩
  rw [herrand]
  split_ifs
  · refine h.fail heases.remains rfl fun m hm hswap => ?_
    have hprecedes : m.Precedes (.submitted a.fanout.swap a.pipe a.submission) :=
      (h.kept _ List.mem_cons_self).behind m hm hswap
    exact ⟨hprecedes.unfailed, Nat.lt_succ_of_le hprecedes.place_le⟩
  · exact h.mono heases.remains (List.sublist_cons_self _ _)

/-- The channel is read, or was read and had nothing, and the flip is kept. -/
theorem idle (h : Errands s (.trying a :: es) l) (n : Nat) :
    Errands s (.trying { a with idle := n } :: es) l :=
  h.replace (.refl s) rfl ((h.kept _ List.mem_cons_self).idle n)

/-- An operation starts. -/
theorem start {op : Operation} (h : Errands s es l) (hop : op.isRegular = true) :
    (s.start op).Orderly es l := by
  cases op with
  | swap r => exact ⟨h, .of_submits rfl⟩
  | drain => exact ⟨h, .of_submits rfl⟩
  | disable crtc =>
    simp only [Screen.start, Screen.disable]
    split
    · exact ⟨h, .of_submits rfl⟩
    · rename_i i hi
      have hremains : s.Remains ((s.setEnabled i false).setRegistry
          (s.registry.retirePipe crtc).2) :=
        ⟨Screen.crtcs_setEnabled s i false, rfl, Nat.le_refl _⟩
      refine ⟨?_, .of_submits rfl⟩
      -- Nothing but a line for the log comes after the events.
      dsimp only [Screen.retirePipe, Screen.work, Follow.errand?, Task.errand?]
      split_ifs
      · exact h.mono hremains (.refl _)
      · exact h.mono hremains (.refl _)
  | enable crtc =>
    simp only [Screen.start, Screen.enable]
    split
    · exact ⟨h, .of_submits rfl⟩
    · rename_i i hi
      have hremains : s.Remains (s.setEnabled i true) :=
        ⟨Screen.crtcs_setEnabled s i true, rfl, Nat.le_refl _⟩
      exact ⟨h.mono hremains (.refl _), .of_submits rfl⟩
  | _ => cases hop

/-- An operation that waits has its answer. -/
theorem resume {w : Wait} {answer : Answer} (h : Errands s (w.errand?.toList ++ es) l)
    (hp : s.resume w answer = some p) : p.Orderly es (answer.marks s p w ++ l) := by
  unfold Screen.resume at hp
  split at hp
  all_goals cases hp
  · exact h.launch
  · exact ⟨h, .of_submits rfl⟩
  · exact h.accepted
  · exact h.failed
  · rename_i a now
    show Progress.Orderly es (s.takes a.fanout.swap a.pipe _ ++ l) _
    rw [Screen.takes_of_eases (.refl s)]
    exact ⟨h, .of_submits rfl⟩
  · exact ⟨h, .of_submits rfl⟩
  · -- The channel was read because it was full.
    rename_i a result
    show (s.afterRead a result).Orderly es
      (s.takes a.fanout.swap a.pipe (s.afterRead a result) ++ l)
    rcases result with e | _ | reports
    · exact h.failed
    · simp only [Screen.afterRead]
      split_ifs
      · rw [Screen.takes_of_eases (.refl s)]
        exact ⟨h.idle _, .of_submits rfl⟩
      · exact h.failed
    · simp only [Screen.afterRead]
      rw [Screen.takes_of_eases (.refl s)]
      exact ⟨h.idle 0, .of_submits rfl⟩
  · rename_i result
    rcases result with e | _ | reports
    · exact ⟨h, .of_submits rfl⟩
    · exact ⟨h, .of_submits rfl⟩
    · exact ⟨h, .of_submits rfl⟩
  · exact ⟨h, .of_submits rfl⟩
  · exact ⟨h, .of_submits rfl⟩
  · exact ⟨h, .of_submits rfl⟩

end Errands

/-! ## Sessions and their marks -/

/-- The client hears of a swap or of an event. -/
def Wait.IsTelling (w : Wait) : Prop := ∃ news next, w = telling news next

/-- Where a client may call, all operations wait for handlers. -/
theorem Session.telling_of_yields {s : Session} (h : s.yields = true)
    (hbeneath : ∀ w ∈ s.waits.tail, w.IsTelling) : ∀ w ∈ s.waits, w.IsTelling := by
  obtain ⟨s, waits, violation⟩ := s
  cases waits with
  | nil => exact List.forall_mem_nil _
  | cons w waits =>
    cases w with
    | telling news next => exact List.forall_mem_cons.2 ⟨⟨news, next, rfl⟩, hbeneath⟩
    | _ => cases h

/-- What is known of a session while nothing is carried out, where `l` are the marks. -/
structure Session.Tidy (s : Session) (l : List Mark) : Prop where
  errands : Errands s.screen (s.waits.filterMap Wait.errand?) l
  /-- A flip is only handed to the channel while its pipe is enabled. -/
  ready : ∀ a waits, s.waits = .attempting a :: waits → s.violation = none ∧
    s.screen.isEnabled a.pipe = true ∧ .submitted a.fanout.swap a.pipe a.submission ∈ l
  beneath : ∀ w ∈ s.waits.tail, w.IsTelling

namespace Course

open Session (Tidy)

variable {c d : Course} {conduct : Conduct} {act : Act} {acts : List Act} {l : List Mark}

/-- At first nothing is noted. -/
theorem tidy_new (pipes : List Pipe) (slots : List Framebuffer) (config : Config) :
    (new pipes slots config).session.Tidy [] where
  errands :=
    { order := .nil
      token := fun _ _ _ hf => absurd hf List.not_mem_nil
      known := List.forall_mem_nil _
      kept := List.forall_mem_nil _
      apart := .nil }
  ready := fun a waits hw => by cases hw
  beneath := List.forall_mem_nil _

/-- An operation above others, all of which hear of an outcome, has come to rest. -/
theorem tidy_resting {call : Call} {calls : List Call} {fbs : List Framebuffer}
    {h : List Happening} {s : Screen} {waits : List Wait} {r : Rest}
    (hwaits : ∀ w ∈ waits, w.IsTelling)
    (hrest : Progress.Orderly (waits.filterMap Wait.errand?) l ⟨s, [], .inr r⟩) :
    (resting call calls fbs h s waits r).session.Tidy l := by
  obtain ⟨herrands, hready⟩ := hrest
  have hbelow : ∀ a rest, waits ≠ .attempting a :: rest := by
    rintro a rest rfl
    obtain ⟨news, next, hw⟩ := hwaits _ List.mem_cons_self
    cases hw
  cases r with
  | waiting w =>
    refine ⟨?_, ?_, hwaits⟩
    · show Errands s ((w :: waits).filterMap Wait.errand?) l
      have hcons : (w :: waits).filterMap Wait.errand? =
          w.errand?.toList ++ waits.filterMap Wait.errand? := by
        rw [List.filterMap_cons]
        cases w.errand? <;> rfl
      rw [hcons]
      exact herrands
    · rintro a rest hw
      obtain ⟨rfl, rfl⟩ := List.cons.inj hw
      exact ⟨rfl, hready a rfl⟩
  | finished outcome =>
    exact ⟨herrands, fun a rest hw => absurd hw (hbelow a rest),
      fun w hw => hwaits w (List.mem_of_mem_tail hw)⟩
  | violated v =>
    exact ⟨herrands, fun a rest hw => absurd hw (hbelow a rest),
      fun w hw => hwaits w (List.mem_of_mem_tail hw)⟩

/-- An act keeps a session tidy, with what is noted of it. -/
theorem tidy_of_step (h : c.session.Tidy l) (hstep : c.step conduct act = some d) :
    d.session.Tidy (c.noted act ++ l) := by
  cases act with
  | call op =>
    obtain ⟨hop, htop, -, rfl⟩ := of_step_call hstep
    exact tidy_resting (Session.telling_of_yields htop h.beneath)
      (Progress.Orderly.proceed (h.errands.start hop))
  | answer a =>
    obtain ⟨wait, waits, call, calls, p, hw, -, -, hresume, rfl⟩ := of_step_answer hstep
    have herrands := h.errands
    have hbeneath := h.beneath
    rw [hw] at herrands hbeneath
    have hcons : (wait :: waits).filterMap Wait.errand? =
        wait.errand?.toList ++ waits.filterMap Wait.errand? := by
      rw [List.filterMap_cons]
      cases wait.errand? <;> rfl
    rw [hcons] at herrands
    have hnoted : c.noted (.answer a) =
        marking.notes p ++ a.marks c.session.screen p wait := by
      simp only [noted, hw, hresume]
    rw [hnoted, List.append_assoc]
    exact tidy_resting hbeneath (Progress.Orderly.proceed (herrands.resume hresume))
  | reorder table =>
    obtain ⟨-, -, rfl⟩ := of_step_reorder hstep
    have hremains : c.session.screen.Remains (c.session.reorder table).screen :=
      ⟨rfl, rfl, Nat.le_refl _⟩
    exact ⟨h.errands.mono hremains (List.Sublist.refl _), h.ready, h.beneath⟩

/-- A row of acts keeps a session tidy, with what is noted of it. -/
theorem tidy_of_play (h : c.session.Tidy l) (hplay : c.play conduct acts = some d) :
    d.session.Tidy (c.marks conduct acts ++ l) := by
  induction acts generalizing c l with
  | nil =>
    obtain rfl : c = d := Option.some.inj hplay
    exact h
  | cons act acts ih =>
    obtain ⟨e, hact, hplay⟩ := Option.bind_eq_some_iff.1 hplay
    have hmarks : c.marks conduct (act :: acts) = e.marks conduct acts ++ c.noted act := by
      simp only [marks, hact]
    rw [hmarks, List.append_assoc]
    exact ih (tidy_of_step h hact) hplay

end Course

/-! ## Tokens of flips that are being queued -/

/-- A token under which a flip is being queued stands for just this flip, if it is pending. -/
def Screen.Owns (s : Screen) (g : Agenda) : Prop :=
  ∀ u ∈ g.fanouts, ∀ f, u.flip = some f → ∀ e, s.registry.pending.find? f.token = some e →
    ∃ reference, e = ⟨f.crtc, .flip ⟨u.swap, reference⟩⟩

namespace Screen.Owns

variable {s s' : Screen} {g g' k : Agenda} {m m' : Moment} {rules : Rules} {id : SwapId}
  {fb : Framebuffer} {r : Registry Event} {t : Token} {event : Event}

/-- No flip and no token comes. -/
theorem mono (h : s.Owns g)
    (hpending : ∀ t e, s'.registry.pending.find? t = some e →
      s.registry.pending.find? t = some e)
    (hfanouts : ∀ u ∈ g'.fanouts, u.flip ≠ none → u ∈ g.fanouts) : s'.Owns g' :=
  fun u hu f hf e he => h u (hfanouts u hu (by rw [hf]; exact Option.some_ne_none f)) f hf e
    (hpending _ e he)

/-- A swap that is between two pipes is queueing no flip. -/
theorem between (h : s.Owns g)
    (hpending : ∀ t e, s'.registry.pending.find? t = some e →
      s.registry.pending.find? t = some e)
    (hfanouts : k.fanouts ⊆ g.fanouts) : s'.Owns (.fanning id fb ++ k) := by
  refine h.mono hpending fun u hu hf => ?_
  rcases List.mem_cons.1 hu with rfl | hu
  · exact absurd rfl hf
  · exact hfanouts hu

/-- A token is handed out. -/
theorem resolve (hr : s.registry.resolve t = .ok (event, r)) (hs' : s'.registry = r) (u : Token)
    (e : Pending Event) (he : s'.registry.pending.find? u = some e) :
    s.registry.pending.find? u = some e := by
  rw [hs'] at he
  exact (Registry.find?_of_resolve hr he).2

/-- As long as no two flips are being queued under one token, each token stands for its flip. -/
theorem evolves (h : m.screen.Owns m.agenda)
    (he : Evolves rules (fun m => m.queued.Nodup) m m') : m'.screen.Owns m'.agenda := by
  cases he with
  | @change s s' g g' l _ hc hl =>
    cases hc with
    | @register k id fb f reference r w b hfb halloc hw hb =>
      obtain ⟨hnew, -⟩ := List.nodup_cons.1 hl
      intro u hu f' hf' e he'
      have he' : r.pending.find? f'.token = some e := he'
      rw [Registry.pending_of_allocate halloc] at he'
      rcases List.mem_cons.1 hu with rfl | hu
      · cases hf'
        rw [if_pos rfl] at he'
        exact ⟨reference, (Option.some.inj he').symm⟩
      · -- The flips that are queued below have other tokens.
        rw [if_neg] at he'
        · exact h u (List.mem_cons_of_mem _ hu) f' hf' e he'
        · intro htoken
          have hmem : f' ∈ k.attempts := List.mem_filterMap.2 ⟨u, hu, hf'⟩
          exact hnew (htoken ▸ List.mem_map_of_mem hmem)
    | late hr =>
      rw [Registry.of_forget?_eq_some hr]
      exact h.mono (fun _ _ he => he) fun _ hu _ => hu
    | dispatch _ hr => exact h.mono (resolve hr rfl) fun _ hu _ => hu
    | giveUp hr => exact h.between (resolve hr rfl) (List.subset_cons_self _ _)
    | lose =>
      rw [Registry.forget_eq]
      exact h.between (fun _ _ he => he) (List.subset_cons_self _ _)
    | accept => exact h.between (fun _ _ he => he) (List.subset_cons_self _ _)
    | release => exact h.mono (fun _ _ he => he) fun u hu _ => List.mem_cons_of_mem _ hu
    | launch => exact h.between (fun _ _ he => he) (List.Subset.refl _)
    | disable =>
      exact h.mono (fun t e he => (Registry.pending_retirePipe_iff.1 he).1) fun _ hu _ => hu
    | reorder htable =>
      exact h.mono (fun t _ he => (Registry.find?_reorder htable t).symm.trans he) fun _ hu _ => hu
    | _ => exact h.mono (fun _ _ he => he) fun _ hu _ => hu
  | report ht => exact h
  | lose ht => exact h

end Screen.Owns

namespace Course

variable {pipes : List Pipe} {slots : List Framebuffer} {config : Config} {c d : Course}
  {conduct : Conduct} {act : Act} {acts : List Act}

/-- The tokens under which flips are being queued stand for them, if at no time two flips were being
queued under one token. -/
theorem owns_of_play (hplay : (new pipes slots config).play conduct acts = some c)
    (hunbroken : c.session.violation = none)
    (hnodup : ∀ before after d, acts = before ++ after →
      (new pipes slots config).play conduct before = some d → d.session.violation = none →
        d.scene.queued.Nodup) :
    c.Sound ∧ c.session.screen.Owns c.session.agenda := by
  induction acts using List.reverseRecOn generalizing c with
  | nil =>
    obtain rfl : new pipes slots config = c := Option.some.inj hplay
    exact ⟨sound_new _ _ _, fun u hu => absurd hu List.not_mem_nil⟩
  | append_singleton acts act ih =>
    obtain ⟨d, hbefore, hstep⟩ := exists_of_play_concat hplay
    obtain ⟨hs, hd⟩ := ih hbefore (unbroken_of_step hstep) fun before after e hacts =>
      hnodup before (after ++ [act]) e (by rw [hacts, List.append_assoc])
    obtain ⟨-, hc⟩ := passage_of_step hs hstep hunbroken
    have hqueued := hnodup _ [] _ (List.append_nil _).symm hplay hunbroken
    have hagenda : c.scene.agenda = c.session.agenda := agendaOf_zipWith hc.length
    rw [Scene.queued, hagenda] at hqueued
    obtain ⟨-, l, l', hpath⟩ := evolution_of_step (fun m => m.queued.Nodup) hs.session hstep
      hunbroken fun _ => hqueued
    exact ⟨hc, hpath.keeps (p := fun m => m.screen.Owns m.agenda)
      (fun _ _ => Screen.Owns.evolves) hd⟩

/-- Whatever the device and the channel say and the handlers call: the submissions of all swaps are
disciplined. A flip is handed to the channel while its swap has no outcome, for an enabled pipe,
with the framebuffer that was imported for the swap and the flags that were asked for. Its token is
pending, and it is so for just this controller and swap, unless the numbers run out and two flips
are being queued under one. -/
theorem submissions_disciplined (hplay : (new pipes slots config).play .free acts = some c) :
    Mark.Disciplined ((new pipes slots config).marks .free acts) ∧
    ∀ a waits, c.session.waits = .attempting a :: waits →
      (∃ w, c.session.screen.swaps[a.fanout.swap]? = some w ∧ w.barrier.isFinal = false) ∧
      (∃ p, c.session.screen.pipes[a.pipe]? = some p ∧ p.enabled = true ∧
        p.crtc = a.submission.crtc) ∧
      (∃ r, .brought a.fanout.swap r a.submission.fb ∈ (new pipes slots config).marks .free acts ∧
        a.submission.flags = c.session.screen.flipFlags r) ∧
      .submitted a.fanout.swap a.pipe a.submission ∈ (new pipes slots config).marks .free acts ∧
      c.session.screen.registry.isPending a.submission.token = true ∧
      (acts.length + 2 < UInt32.size ∨
        (∀ before after d, acts = before ++ after →
          (new pipes slots config).play .free before = some d → d.scene.queued.Nodup) →
        ∃ reference, c.session.screen.registry.pending.find? a.submission.token =
          some ⟨a.submission.crtc, .flip ⟨a.fanout.swap, reference⟩⟩) := by
  have htidy := tidy_of_play (tidy_new pipes slots config) hplay
  rw [List.append_nil] at htidy
  refine ⟨htidy.errands.order.disciplined htidy.errands.token, fun a waits hw => ?_⟩
  obtain ⟨hunbroken, henabled, hsubmitted⟩ := htidy.ready a waits hw
  have hkept := htidy.errands.kept (.trying a) (by rw [hw]; exact List.mem_cons_self)
  obtain ⟨haims, hfb, hflags, -⟩ := hkept.flip a rfl
  obtain ⟨r, hbrought, hasked⟩ := hkept.brought
  obtain ⟨hs, -⟩ := keeps (I := fun _ => True) (fun _ _ _ _ _ => trivial) (sound_new _ _ _) trivial
    hplay hunbroken
  -- The submitter still has its hold, so the swap has no outcome.
  have hfanout : (⟨a.fanout.swap, a.fanout.fb, some a.submission⟩ : Underway) ∈
      c.session.agenda.fanouts := by
    rw [Session.agenda, hw]
    exact List.mem_cons_self
  have hunreleased : a.fanout.swap ∈ c.session.agenda.unreleased := List.mem_map_of_mem hfanout
  have hpending : c.session.screen.registry.isPending a.submission.token = true :=
    hs.session.top (.attempting a) (by rw [hw]; rfl)
  refine ⟨?_, ?_, ⟨r, hfb ▸ hbrought, hflags.trans hasked⟩, hsubmitted, hpending, fun hapart => ?_⟩
  · have hx := List.getElem?_eq_getElem (hs.session.accounted.unreleased _ hunreleased)
    refine ⟨_, hx, Bool.eq_false_iff.2 fun hfinal => ?_⟩
    have hcounts := hs.session.accounted.counts hx
    have hlocal : 0 < c.session.agenda.localHolds a.fanout.swap := List.count_pos_iff.2 hunreleased
    have hnone := hcounts.isFinal_iff.1 hfinal
    omega
  · rw [Attempt.Aims, List.getElem?_map, Option.map_eq_some_iff] at haims
    obtain ⟨p, hp, hcrtc⟩ := haims
    rw [Screen.isEnabled, hp] at henabled
    exact ⟨p, hp, henabled, hcrtc⟩
  · have howns : c.session.screen.Owns c.session.agenda := by
      refine (owns_of_play hplay hunbroken fun before after d hacts hbefore hd => ?_).2
      rcases hapart with hlength | hnodup
      · have hshort : before.length + 2 < UInt32.size := by
          rw [hacts, List.length_append] at hlength
          omega
        exact (numbered_of_length_lt hshort hbefore hd).2.1.nodup
      · exact hnodup before after d hacts hbefore
    obtain ⟨e, he⟩ := Registry.isPending_iff.1 hpending
    obtain ⟨reference, rfl⟩ := howns _ hfanout a.submission rfl e he
    exact ⟨reference, he⟩

open Sample in
/-- The channel is full for the second swap; the read completes the first one, and its handler
starts a third one, which is accepted on one pipe and rejected on the other. -/
def swapInRetry : List Act :=
  [swap 0, brings 100, accepts, accepts, swap 1, brings 101, isFull,
    .answer (.read (.ok (some [.complete first ⟨1, 10⟩, .complete second ⟨1, 10⟩]))),
    swap 2, brings 102, accepts, rejects, returns, destroys].filterMap Move.act?

/-- Then the second swap is tried again, with the same flip under its own token. -/
theorem swapInRetry_tries_again :
    ∃ c a, (new Sample.pipes Sample.slots .default).play .free swapInRetry = some c ∧
      c.session.waits = [.attempting a] ∧ a.fanout.swap = 1 ∧
      Mark.Disciplined ((new Sample.pipes Sample.slots .default).marks .free swapInRetry) ∧
      ((new Sample.pipes Sample.slots .default).marks .free swapInRetry).count
        (.submitted 1 0 a.submission) = 2 ∧
      ∃ reference, c.session.screen.registry.pending.find? a.submission.token =
        some ⟨⟨31⟩, .flip ⟨1, reference⟩⟩ := by
  have hlength : swapInRetry.length + 2 < UInt32.size := by decide
  have htoken {c : Course} {a : Attempt}
      (hplay : (new Sample.pipes Sample.slots .default).play .free swapInRetry = some c)
      (hwaits : c.session.waits = [.attempting a]) (hswap : a.fanout.swap = 1)
      (hcrtc : a.submission.crtc = ⟨31⟩) :
      Mark.Disciplined ((new Sample.pipes Sample.slots .default).marks .free swapInRetry) ∧
      ∃ reference, c.session.screen.registry.pending.find? a.submission.token =
        some ⟨⟨31⟩, .flip ⟨1, reference⟩⟩ := by
    obtain ⟨hdisciplined, hattempts⟩ := submissions_disciplined hplay
    obtain ⟨-, -, -, -, -, hpending⟩ := hattempts a [] hwaits
    rw [← hswap, ← hcrtc]
    exact ⟨hdisciplined, hpending (.inl hlength)⟩
  exact ⟨_, _, rfl, rfl, rfl, (htoken rfl rfl rfl rfl).1, by decide, (htoken rfl rfl rfl rfl).2⟩

end Course

end PageFlip
