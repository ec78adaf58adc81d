import PageFlip.Proofs.Run

/-!
# What a change does to the swaps and the slots

A swap keeps its framebuffers, its slot and its client for good; a change only adds a swap
(`Change.swap_before`) or brings one closer to its outcome, and it has the outcome exactly when its
client is told. Slots are only written when a framebuffer is installed and when one is given up
(`Change.slots`).
-/

namespace PageFlip

/-- The same swap at another time. -/
structure Swap.Continues (w' w : Swap) : Prop where
  slot : w'.slot = w.slot
  client : w'.client = w.client
  newFb : w'.barrier.newFb = w.barrier.newFb
  oldFb : w'.barrier.oldFb = w.barrier.oldFb

/-- A swap continues itself. -/
theorem Swap.Continues.refl (w : Swap) : w.Continues w := ⟨rfl, rfl, rfl, rfl⟩

namespace Barrier

variable {b c : Barrier} {v : Option Verdict}

/-- A barrier keeps its framebuffers. -/
def SameFbs (c b : Barrier) : Prop := c.newFb = b.newFb ∧ c.oldFb = b.oldFb

/-- With one more hold a barrier keeps its framebuffers, and it is as final as before. -/
theorem sameFbs_of_hold (h : b.hold = .ok c) : c.SameFbs b ∧ c.isFinal = b.isFinal := by
  obtain ⟨t, ht, rfl⟩ := of_hold_eq_ok h
  simp [SameFbs, isFinal, ht]

/-- A barrier that is marked keeps its framebuffers, and it is as final as before. -/
theorem sameFbs_markSubmitted (b : Barrier) :
    b.markSubmitted.SameFbs b ∧ b.markSubmitted.isFinal = b.isFinal := by
  simp [SameFbs, markSubmitted, isFinal]

/-- With one hold less a barrier keeps its framebuffers. -/
theorem sameFbs_drop (b : Barrier) (t : Tally) : (b.drop t).1.SameFbs b := by
  unfold drop
  split
  · exact ⟨rfl, rfl⟩
  · exact ⟨rfl, rfl⟩

/-- Resolving a flip brings the outcome or does not. -/
theorem sameFbs_of_resolve {reference : Bool} {stamp : Option Stamp}
    (h : b.resolve reference stamp = .ok (c, v)) :
    c.SameFbs b ∧ b.isFinal = false ∧ c.isFinal = v.isSome := by
  obtain ⟨t, ht, hdrop⟩ := of_resolve_eq_ok h
  have hfbs := sameFbs_drop b (t.record reference stamp)
  have hfinal := (isFinal_drop b (t.record reference stamp)).1
  rw [hdrop] at hfbs hfinal
  exact ⟨hfbs, by simp [isFinal, ht], hfinal⟩

/-- Giving up the submitter's hold brings the outcome or does not. -/
theorem sameFbs_of_release (h : b.release = .ok (c, v)) :
    c.SameFbs b ∧ b.isFinal = false ∧ c.isFinal = v.isSome := by
  obtain ⟨t, ht, -, hdrop⟩ := of_release_eq_ok h
  have hfbs := sameFbs_drop b { t with localHold := false }
  have hfinal := (isFinal_drop b { t with localHold := false }).1
  rw [hdrop] at hfbs hfinal
  exact ⟨hfbs, by simp [isFinal, ht], hfinal⟩

end Barrier

/-- The label tells no outcome and brings no swap. -/
def Label.Quiet (l : Label) : Prop :=
  (∀ id news, l ≠ .told id news) ∧ ∀ p fb, l ≠ .launched p fb

/-- While there is no outcome none is told. -/
theorem Label.quiet_ofVerdict_none (id : SwapId) (client : Client) :
    (Label.ofVerdict id client none).Quiet := by
  simp [Quiet, ofVerdict]

/-- What a change does to the swaps. -/
inductive SwapsChange (s : Screen) (l : Label) (s' : Screen) : Prop
  /-- Nothing. -/
  | same (h : s'.swaps = s.swaps) (hl : l.Quiet)
  /-- One barrier is used, but the swap does not get its outcome by that. -/
  | used {id : SwapId} {w : Swap} {b : Barrier} (hw : s.swaps[id]? = some w)
      (h : s'.swaps = (s.setBarrier id b).swaps) (hfbs : b.SameFbs w.barrier)
      (hfinal : b.isFinal = w.barrier.isFinal) (hl : l.Quiet)
  /-- A swap gets its outcome, and its client is told. -/
  | settled {id : SwapId} {w : Swap} {b : Barrier} {v : Verdict} (hw : s.swaps[id]? = some w)
      (h : s'.swaps = (s.setBarrier id b).swaps) (hfbs : b.SameFbs w.barrier)
      (hbefore : w.barrier.isFinal = false) (hafter : b.isFinal = true)
      (hl : l = .told id (.swap w.client v.stamp))
  /-- A swap is added. -/
  | launched {p : Preparation} {fb : Framebuffer}
      (h : s'.swaps = s.swaps ++ [⟨.new fb p.displaced, p.slot, p.request.client⟩])
      (hl : l = .launched p fb)

section

variable {s s' : Screen} {g g' : Agenda} {l : Label}

/-- Dropping a hold on a swap. -/
theorem swapsChange_ofVerdict {id : SwapId} {w : Swap} {b : Barrier} {v : Option Verdict}
    (hw : s.swaps[id]? = some w) (h : s'.swaps = (s.setBarrier id b).swaps)
    (hb : b.SameFbs w.barrier ∧ w.barrier.isFinal = false ∧ b.isFinal = v.isSome) :
    SwapsChange s (.ofVerdict id w.client v) s' := by
  obtain ⟨hfbs, hbefore, hafter⟩ := hb
  cases v with
  | none => exact .used hw h hfbs (by rw [hbefore, hafter]; rfl) (Label.quiet_ofVerdict_none _ _)
  | some v => exact .settled hw h hfbs hbefore hafter rfl

/-- A change does one of these things to the swaps. -/
theorem Change.swaps (hc : Change s g l s' g') : SwapsChange s l s' := by
  cases hc with
  | register _ _ hw hb =>
    exact .used hw rfl (Barrier.sameFbs_of_hold hb).1 (Barrier.sameFbs_of_hold hb).2
      (by simp [Label.Quiet])
  | dispatch _ _ hw hb => exact swapsChange_ofVerdict hw rfl (Barrier.sameFbs_of_resolve hb)
  | abort hw hb => exact swapsChange_ofVerdict hw rfl (Barrier.sameFbs_of_resolve hb)
  | giveUp _ hw hb => exact swapsChange_ofVerdict hw rfl (Barrier.sameFbs_of_resolve hb)
  | release hw hb => exact swapsChange_ofVerdict hw rfl (Barrier.sameFbs_of_release hb)
  | accept hw =>
    exact .used hw rfl (Barrier.sameFbs_markSubmitted _).1 (Barrier.sameFbs_markSubmitted _).2
      (by simp [Label.Quiet])
  | launch => exact .launched rfl rfl
  | _ => exact .same rfl (by simp [Label.Quiet])

/-- Where a swap comes from: it was there, with its outcome unless its client is told now, or it is
new. -/
theorem Change.swap_before (hc : Change s g l s' g') {j : SwapId} {w' : Swap}
    (hw' : s'.swaps[j]? = some w') :
    (∃ w, s.swaps[j]? = some w ∧ w'.Continues w ∧
      (((∀ news, l ≠ .told j news) ∧ w'.barrier.isFinal = w.barrier.isFinal) ∨
        ((∃ stamp, l = .told j (.swap w.client stamp)) ∧ w.barrier.isFinal = false ∧
          w'.barrier.isFinal = true))) ∨
    ∃ p fb, l = .launched p fb ∧ j = s.swaps.length ∧
      w' = ⟨.new fb p.displaced, p.slot, p.request.client⟩ := by
  cases hc.swaps with
  | same h hl =>
    rw [h] at hw'
    exact .inl ⟨w', hw', .refl w', .inl ⟨hl.1 j, rfl⟩⟩
  | @used id w b hw h hfbs hfinal hl =>
    rw [h, Screen.getElem?_setBarrier hw] at hw'
    split_ifs at hw' with hj
    · subst hj
      cases hw'
      exact .inl ⟨w, hw, ⟨rfl, rfl, hfbs.1, hfbs.2⟩, .inl ⟨hl.1 j, hfinal⟩⟩
    · exact .inl ⟨w', hw', .refl w', .inl ⟨hl.1 j, rfl⟩⟩
  | @settled id w b v hw h hfbs hbefore hafter hl =>
    rw [h, Screen.getElem?_setBarrier hw] at hw'
    split_ifs at hw' with hj
    · subst hj
      cases hw'
      exact .inl ⟨w, hw, ⟨rfl, rfl, hfbs.1, hfbs.2⟩, .inr ⟨⟨v.stamp, hl⟩, hbefore, hafter⟩⟩
    · -- The client that is told is that of another swap.
      refine .inl ⟨w', hw', .refl w', .inl ⟨fun news hnews => ?_, rfl⟩⟩
      rw [hl, Label.told.injEq] at hnews
      exact hj hnews.1.symm
  | @launched p fb h hl =>
    rw [h] at hw'
    rcases Screen.of_getElem?_append_swap hw' with hw' | ⟨hj, rfl⟩
    · refine .inl ⟨w', hw', .refl w', .inl ⟨fun news hnews => ?_, rfl⟩⟩
      rw [hl] at hnews
      cases hnews
    · exact .inr ⟨p, fb, hl, hj, rfl⟩

/-- Swaps only come with a launch. -/
theorem Change.swap_continues (hc : Change s g l s' g') (hl : ∀ p fb, l ≠ .launched p fb)
    {j : SwapId} {w' : Swap} (hw' : s'.swaps[j]? = some w') :
    ∃ w, s.swaps[j]? = some w ∧ w'.Continues w := by
  rcases hc.swap_before hw' with ⟨w, hw, hcont, -⟩ | ⟨p, fb, hlaunch, -⟩
  · exact ⟨w, hw, hcont⟩
  · exact absurd hlaunch (hl p fb)

/-- Swaps stay. -/
theorem Change.swap_after (hc : Change s g l s' g') {j : SwapId} {w : Swap}
    (hw : s.swaps[j]? = some w) : ∃ w', s'.swaps[j]? = some w' ∧ w'.Continues w := by
  have hset : ∀ {id : SwapId} {x : Swap} {b : Barrier}, s.swaps[id]? = some x →
      b.SameFbs x.barrier → ∃ w', (s.setBarrier id b).swaps[j]? = some w' ∧ w'.Continues w := by
    intro id x b hx hfbs
    rw [Screen.getElem?_setBarrier hx]
    split_ifs with hj
    · subst hj
      rw [hx] at hw
      cases hw
      exact ⟨_, rfl, ⟨rfl, rfl, hfbs.1, hfbs.2⟩⟩
    · exact ⟨w, hw, .refl w⟩
  cases hc.swaps with
  | same h _ => exact ⟨w, by rw [h, hw], .refl w⟩
  | used hx h hfbs _ _ => rw [h]; exact hset hx hfbs
  | settled hx h hfbs _ _ _ => rw [h]; exact hset hx hfbs
  | launched h _ =>
    refine ⟨w, ?_, .refl w⟩
    rw [h, List.getElem?_append_left (Accounted.lt_length hw), hw]

/-- A swap whose client is told is there, and has its outcome from then on. -/
theorem Change.of_told {id : SwapId} {news : News} (hc : Change s g (.told id news) s' g') :
    ∃ w w', s.swaps[id]? = some w ∧ s'.swaps[id]? = some w' ∧ w.barrier.isFinal = false ∧
      w'.barrier.isFinal = true ∧ ∃ stamp, news = .swap w.client stamp := by
  cases hc.swaps with
  | same _ hl => exact absurd rfl (hl.1 id news)
  | used _ _ _ _ hl => exact absurd rfl (hl.1 id news)
  | @settled id' w b v hw h hfbs hbefore hafter hl =>
    cases hl
    refine ⟨w, { w with barrier := b }, hw, ?_, hbefore, hafter, v.stamp, rfl⟩
    rw [h, Screen.getElem?_setBarrier hw, if_pos rfl]
  | launched _ hl => cases hl

/-- A swap that has its outcome keeps it. -/
theorem Change.final_after (hc : Change s g l s' g') {j : SwapId} {w : Swap}
    (hw : s.swaps[j]? = some w) (hfinal : w.barrier.isFinal = true) :
    ∃ w', s'.swaps[j]? = some w' ∧ w'.Continues w ∧ w'.barrier.isFinal = true := by
  obtain ⟨w', hw', hcont⟩ := hc.swap_after hw
  refine ⟨w', hw', hcont, ?_⟩
  rcases hc.swap_before hw' with ⟨x, hx, -, ⟨-, hsame⟩ | ⟨-, -, hafter⟩⟩ | ⟨_, _, -, rfl, -⟩
  · rw [hw] at hx
    cases hx
    rw [hsame, hfinal]
  · exact hafter
  · exact absurd (Accounted.lt_length hw) (Nat.lt_irrefl _)

/-! ## Slots and outcomes -/

/-- What a change does to the slots and to the outcomes whose handler is running. -/
inductive SlotsChange (s : Screen) (g : Agenda) (l : Label) (s' : Screen) (g' : Agenda) : Prop
  /-- Nothing. -/
  | same (hslots : s'.slots = s.slots) (hreclaims : g'.reclaims = g.reclaims) (hl : l.Quiet)
      (hreclaimed : ∀ id v fb, l ≠ .reclaimed id v fb)
  /-- A swap has its outcome. -/
  | told {id : SwapId} {news : News} {v : Verdict} (hslots : s'.slots = s.slots)
      (hreclaims : g'.reclaims = (id, v) :: g.reclaims) (hl : l = .told id news)
  /-- A framebuffer is installed. -/
  | launched {p : Preparation} {fb : Framebuffer}
      (hs : s' = ((s.assign p.slot fb).addSwap ⟨.new fb p.displaced, p.slot, p.request.client⟩).2)
      (hreclaims : g'.reclaims = g.reclaims) (hl : l = .launched p fb)
  /-- A framebuffer is given up. -/
  | reclaimed {id : SwapId} {v : Verdict} {w : Swap} (hw : s.swaps[id]? = some w)
      (hs : s' = s.assign w.slot (w.barrier.reclaim v (s.held w.slot)).1)
      (hreclaims : g.reclaims = (id, v) :: g'.reclaims)
      (hl : l = .reclaimed id v (w.barrier.reclaim v (s.held w.slot)).2)

/-- Dropping a hold on a swap. -/
theorem slotsChange_ofVerdict {id : SwapId} {client : Client} {v : Option Verdict}
    (hslots : s'.slots = s.slots)
    (hreclaims : g'.reclaims = (Agenda.owing id v).reclaims ++ g.reclaims) :
    SlotsChange s g (.ofVerdict id client v) s' g' := by
  cases v with
  | none =>
    exact .same hslots hreclaims (Label.quiet_ofVerdict_none _ _) (by simp [Label.ofVerdict])
  | some v => exact .told hslots hreclaims rfl

/-- A change does one of these things to the slots and the outcomes. -/
theorem Change.slots (hc : Change s g l s' g') : SlotsChange s g l s' g' := by
  cases hc with
  | dispatch => exact slotsChange_ofVerdict rfl rfl
  | abort => exact slotsChange_ofVerdict rfl rfl
  | giveUp => exact slotsChange_ofVerdict rfl rfl
  | release => exact slotsChange_ofVerdict rfl rfl
  | reclaim hw => exact .reclaimed hw rfl rfl rfl
  | launch => exact .launched rfl rfl rfl
  | _ => exact .same rfl rfl (by simp [Label.Quiet]) (by simp)

end

end PageFlip
