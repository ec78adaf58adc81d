import Mathlib.Data.List.Nodup
import PageFlip.Proofs.Effects

/-!
# Who owns a framebuffer

The ledger of framebuffers: every swap that has its outcome gives up one framebuffer, the one it
displaced or, if it did not take effect, its own (`Settled`). A framebuffer is in one slot at most,
and one that was displaced is in none, nor displaced twice, until the swap that displaced it is
rolled back (`Owned`).

What is left is one way to give up a framebuffer twice: a swap displaced the framebuffer of another
one that is rolled back later, and takes effect itself (`World.framebuffers_removed_once_iff`).
-/

namespace PageFlip

namespace Screen

/-- The framebuffer that a swap gives up with an outcome. -/
def givenUp (s : Screen) (e : SwapId × Verdict) : Framebuffer :=
  match s.swaps[e.1]? with
  | none => .none
  | some w => if e.2.tookEffect then w.barrier.oldFb else w.barrier.newFb

/-- A swap that took effect gives up what it displaced, any other its own framebuffer. -/
theorem givenUp_of_swap {s : Screen} {id : SwapId} {w : Swap} (hw : s.swaps[id]? = some w)
    (v : Verdict) :
    s.givenUp (id, v) = if v.tookEffect then w.barrier.oldFb else w.barrier.newFb := by
  simp only [givenUp, hw]

/-- What the barrier of a swap reclaims is what the swap gives up. -/
theorem reclaim_eq_givenUp {s : Screen} {id : SwapId} {w : Swap} (hw : s.swaps[id]? = some w)
    (v : Verdict) (held : Framebuffer) : (w.barrier.reclaim v held).2 = s.givenUp (id, v) := by
  rw [givenUp_of_swap hw, Barrier.reclaim]
  by_cases hv : v.tookEffect = true
  · rw [if_pos hv, if_pos hv]
  · rw [if_neg hv, if_neg hv]

/-- A framebuffer is only found in a slot that is there. -/
theorem lt_of_held_ne_none {s : Screen} {slot : Slot} (h : s.held slot ≠ .none) :
    slot < s.slots.length := by
  by_contra hge
  exact h (by rw [held, List.getElem?_eq_none (Nat.le_of_not_lt hge)]; rfl)

end Screen

/-! ## Outcomes -/

/-- Every swap has at most one outcome, and with it gives up one framebuffer. -/
structure Settled (s : Screen) (g : Agenda) (l : Ledger) : Prop where
  once : ((g.reclaims ++ l.reclaimed).map Prod.fst).Nodup
  final : ∀ e ∈ g.reclaims ++ l.reclaimed,
    ∃ w, s.swaps[e.1]? = some w ∧ w.barrier.isFinal = true
  removed : l.removed = (l.reclaimed.map s.givenUp).filter fun fb => !fb.isNone

namespace Settled

variable {s s' : Screen} {g g' : Agenda} {l l' : Ledger} {label : Label}

/-- A swap that is there gives up the same framebuffer after a change. -/
theorem givenUp_eq (h : Settled s g l) (hc : Change s g label s' g') :
    l.reclaimed.map s'.givenUp = l.reclaimed.map s.givenUp := by
  apply List.map_congr_left
  rintro ⟨id, v⟩ he
  obtain ⟨w, hw, -⟩ := h.final (id, v) (List.mem_append_right _ he)
  obtain ⟨w', hw', hcont⟩ := hc.swap_after hw
  rw [Screen.givenUp_of_swap hw, Screen.givenUp_of_swap hw', hcont.newFb, hcont.oldFb]

/-- Each outcome stays the outcome of its swap. -/
theorem final_after (h : Settled s g l) (hc : Change s g label s' g') :
    ∀ e ∈ g.reclaims ++ l.reclaimed, ∃ w, s'.swaps[e.1]? = some w ∧ w.barrier.isFinal = true := by
  intro e he
  obtain ⟨w, hw, hfinal⟩ := h.final e he
  obtain ⟨w', hw', -, hfinal'⟩ := hc.final_after hw hfinal
  exact ⟨w', hw', hfinal'⟩

/-- Outcomes that concern nobody else's. -/
theorem congr (h : Settled s g l) (hc : Change s g label s' g')
    (hreclaims : g'.reclaims = g.reclaims) (hreclaimed : l'.reclaimed = l.reclaimed)
    (hremoved : l'.removed = l.removed) : Settled s' g' l' where
  once := by rw [hreclaims, hreclaimed]; exact h.once
  final := by rw [hreclaims, hreclaimed]; exact h.final_after hc
  removed := by rw [hremoved, hreclaimed, h.givenUp_eq hc]; exact h.removed

/-- Every change keeps it that a swap has one outcome and gives up one framebuffer with it. -/
theorem change (h : Settled s g l) (hc : Change s g label s' g') :
    Settled s' g' (label.write ⟨s, g, l⟩) := by
  cases hc.slots with
  | same _ hreclaims _ hreclaimed =>
    obtain ⟨hr, hremoved⟩ := Label.write_of_not_reclaimed ⟨s, g, l⟩ hreclaimed
    exact h.congr hc hreclaims hr hremoved
  | @told id news v _ hreclaims hl =>
    subst hl
    obtain ⟨w, w', hw, hw', hbefore, hafter, -⟩ := hc.of_told
    -- Its barrier had holds until now, unlike those of the swaps with an outcome.
    have hnew : id ∉ (g.reclaims ++ l.reclaimed).map Prod.fst := by
      intro hmem
      obtain ⟨e, he, rfl⟩ := List.mem_map.1 hmem
      obtain ⟨x, hx, hfinal⟩ := h.final e he
      rw [hw] at hx
      cases hx
      rw [hbefore] at hfinal
      cases hfinal
    refine ⟨?_, ?_, ?_⟩
    · rw [hreclaims]
      exact List.nodup_cons.2 ⟨hnew, h.once⟩
    · rw [hreclaims, List.cons_append, List.forall_mem_cons]
      exact ⟨⟨w', hw', hafter⟩, h.final_after hc⟩
    · change l.removed = (l.reclaimed.map s'.givenUp).filter _
      rw [h.givenUp_eq hc]
      exact h.removed
  | launched _ hreclaims hl =>
    subst hl
    exact h.congr hc hreclaims rfl rfl
  | @reclaimed id v w hw hs hreclaims hl =>
    subst hl
    have hperm : (g'.reclaims ++ (id, v) :: l.reclaimed).Perm (g.reclaims ++ l.reclaimed) := by
      rw [hreclaims]
      exact List.perm_middle
    have hgiven := h.givenUp_eq hc
    have hfb : s'.givenUp (id, v) = (w.barrier.reclaim v (s.held w.slot)).2 := by
      rw [Screen.reclaim_eq_givenUp (s := s') (by rw [hs]; exact hw)]
    rw [Label.write_reclaimed]
    refine ⟨(hperm.map _).nodup_iff.2 h.once,
      fun e he => h.final_after hc e (hperm.mem_iff.1 he), ?_⟩
    rw [List.map_cons, hgiven, hfb]
    dsimp only
    split_ifs with hnone
    · rw [List.filter_cons_of_neg (by simp [hnone])]
      exact h.removed
    · rw [List.filter_cons_of_pos (by simp [hnone])]
      exact congrArg _ h.removed

end Settled

/-! ## Slots -/

/-- The framebuffers of slots and swaps are known, and each swap brought up its own. -/
structure Brought (s : Screen) (known : List Framebuffer) : Prop where
  held : ∀ a, s.held a ≠ .none → s.held a ∈ known
  newFb : ∀ {id : SwapId} {w : Swap}, s.swaps[id]? = some w →
    w.barrier.newFb ≠ .none ∧ w.barrier.newFb ∈ known
  oldFb : ∀ {id : SwapId} {w : Swap}, s.swaps[id]? = some w → w.barrier.oldFb ≠ .none →
    w.barrier.oldFb ∈ known
  once : ∀ {i j : SwapId} {x y : Swap}, s.swaps[i]? = some x → s.swaps[j]? = some y →
    x.barrier.newFb = y.barrier.newFb → i = j

/-- A framebuffer is in one slot at most, and one that was displaced is in none, nor was it
displaced twice, until the swap that displaced it is rolled back. -/
structure Owned (s : Screen) (back : SwapId → Prop) : Prop where
  held_once : ∀ {a b : Slot}, s.held a ≠ .none → s.held a = s.held b → a = b
  old_gone : ∀ {id : SwapId} {w : Swap}, s.swaps[id]? = some w → ¬back id →
    w.barrier.oldFb ≠ .none → ∀ a, s.held a ≠ w.barrier.oldFb
  old_once : ∀ {i j : SwapId} {x y : Swap}, s.swaps[i]? = some x → s.swaps[j]? = some y →
    ¬back i → ¬back j → x.barrier.oldFb ≠ .none → x.barrier.oldFb = y.barrier.oldFb → i = j

section

variable {s s' : Screen} {known : List Framebuffer} {back back' : SwapId → Prop} {id : SwapId}
  {w : Swap} {fb : Framebuffer}

/-- The slots say what is held. -/
theorem Screen.held_eq_of_slots (h : s'.slots = s.slots) : s'.held = s.held := by
  funext a
  rw [Screen.held, Screen.held, h]

/-- A slot that gets what it holds stays as it is. -/
theorem Screen.held_assign_self (s : Screen) (slot : Slot) :
    (s.assign slot (s.held slot)).held = s.held := by
  funext a
  rw [Screen.held_assign]
  split_ifs with ha
  · rw [ha.1]
  · rfl

/-- A slot is written, and no other. -/
theorem Screen.held_assign_cases (s : Screen) (slot : Slot) (fb : Framebuffer) (a : Slot) :
    ((s.assign slot fb).held a = fb ∧ a = slot) ∨
      ((s.assign slot fb).held a = s.held a ∧ ¬(a = slot ∧ slot < s.slots.length)) := by
  rw [Screen.held_assign]
  split_ifs with ha
  · exact .inl ⟨rfl, ha.1⟩
  · exact .inr ⟨rfl, ha⟩

namespace Brought

/-- The same swaps at another time. -/
theorem congr (h : Brought s known) (hheld : s'.held = s.held)
    (hswaps : ∀ {id : SwapId} {w' : Swap}, s'.swaps[id]? = some w' →
      ∃ w, s.swaps[id]? = some w ∧ w'.Continues w) : Brought s' known where
  held := by rw [hheld]; exact h.held
  newFb := by
    intro id w' hw'
    obtain ⟨w, hw, hcont⟩ := hswaps hw'
    rw [hcont.newFb]
    exact h.newFb hw
  oldFb := by
    intro id w' hw'
    obtain ⟨w, hw, hcont⟩ := hswaps hw'
    rw [hcont.oldFb]
    exact h.oldFb hw
  once := by
    intro i j x' y' hx' hy'
    obtain ⟨x, hx, hcontx⟩ := hswaps hx'
    obtain ⟨y, hy, hconty⟩ := hswaps hy'
    rw [hcontx.newFb, hconty.newFb]
    exact h.once hx hy

/-- A known framebuffer is put into a slot. -/
theorem assign (h : Brought s known) (hfb : fb ≠ .none → fb ∈ known) (slot : Slot) :
    Brought (s.assign slot fb) known where
  held := by
    intro a ha
    rcases s.held_assign_cases slot fb a with ⟨heq, -⟩ | ⟨heq, -⟩
    · rw [heq] at ha ⊢
      exact hfb ha
    · rw [heq] at ha ⊢
      exact h.held a ha
  newFb := h.newFb
  oldFb := h.oldFb
  once := h.once

/-- A new framebuffer is installed by a swap. -/
theorem launch (h : Brought s known) (hfb : fb ≠ .none) (hfresh : fb ∉ known) (slot : Slot)
    (client : Client) :
    Brought ((s.assign slot fb).addSwap ⟨.new fb (s.held slot), slot, client⟩).2 (fb :: known) where
  held := by
    intro a ha
    change (s.assign slot fb).held a ≠ .none at ha
    change (s.assign slot fb).held a ∈ fb :: known
    rcases s.held_assign_cases slot fb a with ⟨heq, -⟩ | ⟨heq, -⟩
    · rw [heq]
      exact List.mem_cons_self
    · rw [heq] at ha ⊢
      exact List.mem_cons_of_mem _ (h.held a ha)
  newFb := by
    intro id w hw
    rcases Screen.of_getElem?_append_swap (s := s) hw with hw | ⟨-, rfl⟩
    · exact ⟨(h.newFb hw).1, List.mem_cons_of_mem _ (h.newFb hw).2⟩
    · exact ⟨hfb, List.mem_cons_self⟩
  oldFb := by
    intro id w hw hold
    rcases Screen.of_getElem?_append_swap (s := s) hw with hw | ⟨-, rfl⟩
    · exact List.mem_cons_of_mem _ (h.oldFb hw hold)
    · exact List.mem_cons_of_mem _ (h.held slot hold)
  once := by
    intro i j x y hx hy he
    rcases Screen.of_getElem?_append_swap (s := s) hx with hx | ⟨hi, rfl⟩ <;>
      rcases Screen.of_getElem?_append_swap (s := s) hy with hy | ⟨hj, rfl⟩
    · exact h.once hx hy he
    · -- No swap has brought up the new framebuffer before.
      have he : x.barrier.newFb = fb := he
      exact absurd (he ▸ (h.newFb hx).2) hfresh
    · have he : fb = y.barrier.newFb := he
      exact absurd (he ▸ (h.newFb hy).2) hfresh
    · exact hi.trans hj.symm

end Brought

namespace Owned

/-- The same swaps at another time, of which more may have been rolled back. -/
theorem congr (h : Owned s back) (hheld : s'.held = s.held)
    (hswaps : ∀ {id : SwapId} {w' : Swap}, s'.swaps[id]? = some w' →
      ∃ w, s.swaps[id]? = some w ∧ w'.Continues w)
    (hback : ∀ id, back id → back' id) : Owned s' back' where
  held_once := by rw [hheld]; exact h.held_once
  old_gone := by
    intro id w' hw' hid
    obtain ⟨w, hw, hcont⟩ := hswaps hw'
    rw [hcont.oldFb, hheld]
    exact h.old_gone hw fun hb => hid (hback id hb)
  old_once := by
    intro i j x' y' hx' hy' hi hj
    obtain ⟨x, hx, hcontx⟩ := hswaps hx'
    obtain ⟨y, hy, hconty⟩ := hswaps hy'
    rw [hcontx.oldFb, hconty.oldFb]
    exact h.old_once hx hy (fun hb => hi (hback i hb)) fun hb => hj (hback j hb)

/-- A swap is rolled back that finds its own framebuffer in the slot: the one that it displaced
comes back. -/
theorem rollBack (h : Owned s back) (hw : s.swaps[id]? = some w) (hid : ¬back id)
    (hback : ∀ j, back j ∨ j = id → back' j) (slot : Slot) :
    Owned (s.assign slot w.barrier.oldFb) back' where
  held_once := by
    intro a b ha hab
    -- The framebuffer that comes back was in no slot.
    rcases s.held_assign_cases slot w.barrier.oldFb a with ⟨heqa, hata⟩ | ⟨heqa, -⟩ <;>
      rcases s.held_assign_cases slot w.barrier.oldFb b with ⟨heqb, hatb⟩ | ⟨heqb, -⟩
    · exact hata.trans hatb.symm
    · rw [heqa] at ha
      exact absurd (heqb.symm.trans (hab.symm.trans heqa)) (h.old_gone hw hid ha b)
    · rw [heqa] at ha hab
      exact absurd (hab.trans heqb) (h.old_gone hw hid (by rwa [← heqb, ← hab]) a)
    · rw [heqa] at ha hab
      exact h.held_once ha (hab.trans heqb)
  old_gone := by
    intro j y hy hj hne a
    have hj' : ¬back j := fun hb => hj (hback j (.inl hb))
    rcases s.held_assign_cases slot w.barrier.oldFb a with ⟨heq, -⟩ | ⟨heq, -⟩
    · rw [heq]
      intro he
      exact hj (hback j (.inr (h.old_once hy hw hj' hid hne he.symm)))
    · rw [heq]
      exact h.old_gone hy hj' hne a
  old_once := fun hx hy hi hj =>
    h.old_once hx hy (fun hb => hi (hback _ (.inl hb))) fun hb => hj (hback _ (.inl hb))

/-- A new framebuffer is installed by a swap. -/
theorem launch (h : Owned s back) (hknown : Brought s known) (hfresh : fb ∉ known) (slot : Slot)
    (client : Client) :
    Owned ((s.assign slot fb).addSwap ⟨.new fb (s.held slot), slot, client⟩).2 back where
  held_once := by
    intro a b ha hab
    change (s.assign slot fb).held a ≠ .none at ha
    change (s.assign slot fb).held a = (s.assign slot fb).held b at hab
    rcases s.held_assign_cases slot fb a with ⟨heqa, hata⟩ | ⟨heqa, -⟩ <;>
      rcases s.held_assign_cases slot fb b with ⟨heqb, hatb⟩ | ⟨heqb, -⟩
    · exact hata.trans hatb.symm
    · rw [heqa, heqb] at hab
      rw [heqa, hab] at ha
      exact absurd (hab ▸ hknown.held b ha) hfresh
    · rw [heqa] at ha
      rw [heqa, heqb] at hab
      exact absurd (hab ▸ hknown.held a ha) hfresh
    · rw [heqa] at ha hab
      exact h.held_once ha (hab.trans heqb)
  old_gone := by
    intro id w hw hid hold a
    change (s.assign slot fb).held a ≠ w.barrier.oldFb
    rcases Screen.of_getElem?_append_swap (s := s) hw with hw | ⟨-, rfl⟩
    · rcases s.held_assign_cases slot fb a with ⟨heq, -⟩ | ⟨heq, -⟩
      · rw [heq]
        exact fun he => hfresh (he ▸ hknown.oldFb hw hold)
      · rw [heq]
        exact h.old_gone hw hid hold a
    · -- What the new swap displaced was in its slot only, and it is gone from there.
      rcases s.held_assign_cases slot fb a with ⟨heq, -⟩ | ⟨heq, hat⟩
      · rw [heq]
        exact fun he => hfresh (he ▸ hknown.held slot hold)
      · rw [heq]
        exact fun he => hat ⟨(h.held_once hold he.symm).symm, Screen.lt_of_held_ne_none hold⟩
  old_once := by
    intro i j x y hx hy hi hj hold he
    rcases Screen.of_getElem?_append_swap (s := s) hx with hx | ⟨hi', rfl⟩ <;>
      rcases Screen.of_getElem?_append_swap (s := s) hy with hy | ⟨hj', rfl⟩
    · exact h.old_once hx hy hi hj hold he
    · exact absurd he.symm (h.old_gone hx hi hold slot)
    · exact absurd he (h.old_gone hy hj (he ▸ hold) slot)
    · exact hi'.trans hj'.symm

end Owned

end

/-! ## Runs -/

/-- A swap that did not take effect has given up its framebuffer. -/
def Ledger.RolledBack (l : Ledger) (id : SwapId) : Prop :=
  ∃ v, (id, v) ∈ l.reclaimed ∧ v.tookEffect = false

/-- The device imports buffers as framebuffers that it has not used before. -/
def Rules.Fresh (rules : Rules) : Prop :=
  ∀ m fb, rules.imports m fb = true → fb ≠ .none ∧ fb ∉ m.ledger.framebuffers

/-- By these rules the device brings new framebuffers only. -/
theorem Rules.fresh_fresh : fresh.Fresh := by
  intro m fb h
  have h := Bool.and_eq_true_iff.1 h
  refine ⟨fun he => ?_, by simpa using h.2⟩
  rw [Framebuffer.isNone_iff.2 he] at h
  exact Bool.false_ne_true h.1

/-- The same where handlers do not call. -/
theorem Rules.inert_fresh : inert.Fresh := Rules.fresh_fresh

namespace Moment

/-- The outcomes and the framebuffers of a moment are booked. -/
structure IsBooked (m : Moment) : Prop where
  settled : Settled m.screen m.agenda m.ledger
  brought : Brought m.screen m.ledger.framebuffers

/-- The framebuffers of a moment are owned. -/
structure IsOwned (m : Moment) : Prop where
  booked : m.IsBooked
  owned : Owned m.screen m.ledger.RolledBack

variable {rules : Rules} {apart : Moment → Prop} {m m' : Moment}

/-- What a swap leaves in its slot when a framebuffer is given up. -/
theorem reclaim_fst_cases {s : Screen} {w : Swap} (v : Verdict) :
    (w.barrier.reclaim v (s.held w.slot)).1 = s.held w.slot ∨
      (v.tookEffect = false ∧ (w.barrier.reclaim v (s.held w.slot)).1 = w.barrier.oldFb) := by
  rw [Barrier.reclaim]
  split_ifs with heffect hsame
  · exact .inl rfl
  · exact .inr ⟨Bool.eq_false_iff.2 heffect, rfl⟩
  · exact .inl rfl

/-- Every move keeps the ledger in order, if the device brings new framebuffers only. -/
theorem IsBooked.evolves (hfresh : rules.Fresh) (h : m.IsBooked) (he : Evolves rules apart m m') :
    m'.IsBooked := by
  obtain ⟨hsettled, hbrought⟩ := h
  cases he with
  | @change s s' g g' l label hc hl =>
    refine ⟨hsettled.change hc, ?_⟩
    dsimp only at hbrought ⊢
    cases hc.slots with
    | same hslots _ hquiet _ =>
      rw [Label.write_of_not_launched _ hquiet.2]
      exact hbrought.congr (Screen.held_eq_of_slots hslots) (hc.swap_continues hquiet.2)
    | told hslots _ htold =>
      subst htold
      exact hbrought.congr (Screen.held_eq_of_slots hslots)
        (hc.swap_continues fun p fb he => by cases he)
    | @launched p fb hs _ hlaunched =>
      subst hlaunched hs
      obtain ⟨himport, hdisplaced, -⟩ := hl
      obtain ⟨hne, hnew⟩ := hfresh _ _ himport
      rw [hdisplaced]
      exact hbrought.launch hne hnew p.slot p.request.client
    | @reclaimed id v w hw hs _ hlabel =>
      subst hlabel hs
      rw [Label.write_of_not_launched _ fun p fb he => by cases he]
      refine hbrought.assign (fun hne => ?_) w.slot
      rcases reclaim_fst_cases (s := s) (w := w) v with heq | ⟨-, heq⟩
      · rw [heq] at hne ⊢
        exact hbrought.held _ hne
      · rw [heq] at hne ⊢
        exact hbrought.oldFb hw hne
  | report => exact ⟨⟨hsettled.once, hsettled.final, hsettled.removed⟩, hbrought⟩
  | lose => exact ⟨⟨hsettled.once, hsettled.final, hsettled.removed⟩, hbrought⟩

/-- Every move keeps each framebuffer where it belongs, if the device brings new ones only: a slot
is written when a new framebuffer is installed in it, and when a swap is rolled back that finds its
own one there. -/
theorem IsOwned.evolves (hfresh : rules.Fresh) (h : m.IsOwned) (he : Evolves rules apart m m') :
    m'.IsOwned := by
  have hbooked' := h.booked.evolves hfresh he
  obtain ⟨⟨hsettled, hbrought⟩, howned⟩ := h
  refine ⟨hbooked', ?_⟩
  cases he with
  | @change s s' g g' l label hc hl =>
    dsimp only at howned ⊢
    cases hc.slots with
    | same hslots _ hquiet hreclaimed =>
      refine howned.congr (Screen.held_eq_of_slots hslots) (hc.swap_continues hquiet.2)
        fun id hid => ?_
      rwa [Ledger.RolledBack, (Label.write_of_not_reclaimed _ hreclaimed).1]
    | told hslots _ htold =>
      subst htold
      exact howned.congr (Screen.held_eq_of_slots hslots)
        (hc.swap_continues fun p fb he => by cases he) fun _ hid => hid
    | @launched p fb hs _ hlaunched =>
      subst hlaunched hs
      obtain ⟨himport, hdisplaced, -⟩ := hl
      rw [hdisplaced]
      exact howned.launch hbrought (hfresh _ _ himport).2 p.slot p.request.client
    | @reclaimed id v w hw hs hreclaims hlabel =>
      subst hlabel hs
      rw [Label.write_reclaimed]
      have hback {removed : List Framebuffer} : ∀ j, l.RolledBack j →
          Ledger.RolledBack { l with reclaimed := (id, v) :: l.reclaimed, removed := removed } j :=
        fun j ⟨u, hu, hverdict⟩ => ⟨u, List.mem_cons_of_mem _ hu, hverdict⟩
      -- Either the slot keeps what it has, or the swap is rolled back.
      rcases reclaim_fst_cases (s := s) (w := w) v with heq | ⟨hverdict, heq⟩
      · rw [heq]
        exact howned.congr (s.held_assign_self w.slot) (fun {j x} hx => ⟨x, hx, .refl x⟩) hback
      · have hnot : ¬l.RolledBack id := by
          rintro ⟨u, hu, -⟩
          have honce := hsettled.once
          rw [hreclaims, List.cons_append, List.map_cons, List.nodup_cons] at honce
          exact honce.1 (List.mem_map.2 ⟨(id, u), List.mem_append_right _ hu, rfl⟩)
        rw [heq]
        refine howned.rollBack hw hnot (fun j hj => ?_) w.slot
        rcases hj with hj | rfl
        · exact hback j hj
        · exact ⟨v, List.mem_cons_self, hverdict⟩
  | report => exact howned
  | lose => exact howned

/-- Slots that are filled with different framebuffers. -/
theorem held_once_of_nodup {s : Screen} (hslots : (s.slots.filter fun fb => !fb.isNone).Nodup)
    {a b : Slot} (ha : s.held a ≠ .none) (hab : s.held a = s.held b) : a = b := by
  have hlta := Screen.lt_of_held_ne_none ha
  have hltb := Screen.lt_of_held_ne_none (hab ▸ ha)
  have hpair := List.pairwise_iff_getElem.1 (List.pairwise_filter.1 hslots)
  simp only [Screen.held, List.getElem?_eq_getElem hlta, List.getElem?_eq_getElem hltb,
    Option.getD_some] at ha hab
  have hsome : (!(s.slots[a]).isNone) = true := by
    rw [Bool.not_eq_true', ← Bool.not_eq_true, Framebuffer.isNone_iff]
    exact ha
  rcases Nat.lt_trichotomy a b with hlt | heq | hlt
  · exact absurd hab (hpair a b hlta hltb hlt hsome (hab ▸ hsome))
  · exact heq
  · exact absurd hab.symm (hpair b a hltb hlta hlt (hab ▸ hsome) hsome)

/-- At first there is nothing to book. -/
theorem isBooked_new (pipes : List Pipe) (slots : List Framebuffer) (config : Config) :
    (World.new pipes slots config).moment.IsBooked where
  settled := ⟨List.nodup_nil, fun e he => (by cases he), rfl⟩
  brought :=
    { held := fun a ha => by
        have hlt := Screen.lt_of_held_ne_none ha
        rw [Screen.held, List.getElem?_eq_getElem hlt]
        exact List.getElem_mem hlt
      newFb := fun hw => by cases hw
      oldFb := fun hw => by cases hw
      once := fun hw => by cases hw }

/-- At first the slots hold different framebuffers, and none is displaced. -/
theorem isOwned_new (pipes : List Pipe) {slots : List Framebuffer} (config : Config)
    (hslots : (slots.filter fun fb => !fb.isNone).Nodup) :
    (World.new pipes slots config).moment.IsOwned where
  booked := isBooked_new pipes slots config
  owned :=
    { held_once := held_once_of_nodup hslots
      old_gone := fun hw => by cases hw
      old_once := fun hw => by cases hw }

/-- What a swap that was rolled back brought up is what another one displaced that took effect. -/
def GivenUpTwice (m : Moment) : Prop :=
  ∃ i v x j u y, (i, v) ∈ m.ledger.reclaimed ∧ m.screen.swaps[i]? = some x ∧
    v.tookEffect = false ∧ (j, u) ∈ m.ledger.reclaimed ∧ m.screen.swaps[j]? = some y ∧
    u.tookEffect = true ∧ x.barrier.newFb = y.barrier.oldFb

variable {i j : SwapId} {v u : Verdict} {x y : Swap}

/-- A swap has one outcome. -/
theorem IsOwned.eq_of_reclaimed (h : m.IsOwned) (hv : (i, v) ∈ m.ledger.reclaimed)
    (hu : (i, u) ∈ m.ledger.reclaimed) : v = u := by
  have honce := h.booked.settled.once
  rw [List.map_append] at honce
  have := List.inj_on_of_nodup_map (List.nodup_append.1 honce).2.1 hv hu rfl
  exact (Prod.mk.inj this).2

/-- A swap that took effect is not rolled back. -/
theorem IsOwned.not_rolledBack (h : m.IsOwned) (hv : (i, v) ∈ m.ledger.reclaimed)
    (heffect : v.tookEffect = true) : ¬m.ledger.RolledBack i := by
  rintro ⟨u, hu, hfalse⟩
  rw [← h.eq_of_reclaimed hv hu, heffect] at hfalse
  cases hfalse

/-- One framebuffer is given up with two outcomes. -/
theorem IsOwned.exists_of_givenUpTwice (h : m.IsOwned) (htwice : m.GivenUpTwice) :
    ∃ e ∈ m.ledger.reclaimed, ∃ e' ∈ m.ledger.reclaimed, e ≠ e' ∧
      m.screen.givenUp e ≠ .none ∧ m.screen.givenUp e = m.screen.givenUp e' := by
  obtain ⟨i, v, x, j, u, y, hi, hx, hv, hj, hy, hu, hfbs⟩ := htwice
  have hgivenx : m.screen.givenUp (i, v) = x.barrier.newFb := by
    rw [Screen.givenUp_of_swap hx, hv, if_neg Bool.false_ne_true]
  have hgiveny : m.screen.givenUp (j, u) = x.barrier.newFb := by
    rw [Screen.givenUp_of_swap hy, hu, if_pos rfl, hfbs]
  refine ⟨(i, v), hi, (j, u), hj, fun he => ?_, ?_, hgivenx.trans hgiveny.symm⟩
  · rw [(Prod.mk.inj he).2, hu] at hv
    cases hv
  · rw [hgivenx]
    exact (h.booked.brought.newFb hx).1

/-- Otherwise two swaps do not give up one framebuffer. -/
theorem IsOwned.eq_of_givenUp (h : m.IsOwned) (htwice : ¬m.GivenUpTwice)
    (hi : (i, v) ∈ m.ledger.reclaimed) (hj : (j, u) ∈ m.ledger.reclaimed)
    (hsome : m.screen.givenUp (i, v) ≠ .none)
    (heq : m.screen.givenUp (i, v) = m.screen.givenUp (j, u)) : i = j := by
  obtain ⟨x, hx, -⟩ := h.booked.settled.final (i, v) (List.mem_append_right _ hi)
  obtain ⟨y, hy, -⟩ := h.booked.settled.final (j, u) (List.mem_append_right _ hj)
  rw [Screen.givenUp_of_swap hx, Screen.givenUp_of_swap hy] at heq
  rw [Screen.givenUp_of_swap hx] at hsome
  cases hv : v.tookEffect with
  | true =>
    rw [hv, if_pos rfl] at heq hsome
    cases hu : u.tookEffect with
    | true =>
      -- Both displaced it, and neither was rolled back.
      rw [hu, if_pos rfl] at heq
      exact h.owned.old_once hx hy (h.not_rolledBack hi hv) (h.not_rolledBack hj hu) hsome heq
    | false =>
      rw [hu, if_neg Bool.false_ne_true] at heq
      exact absurd ⟨j, u, y, i, v, x, hj, hy, hu, hi, hx, hv, heq.symm⟩ htwice
  | false =>
    rw [hv, if_neg Bool.false_ne_true] at heq
    cases hu : u.tookEffect with
    | true =>
      rw [hu, if_pos rfl] at heq
      exact absurd ⟨i, v, x, j, u, y, hi, hx, hv, hj, hy, hu, heq⟩ htwice
    | false =>
      -- Both brought it up.
      rw [hu, if_neg Bool.false_ne_true] at heq
      exact h.booked.brought.once hx hy heq

/-- Framebuffers are given up once, but for one way to give one up twice. -/
theorem IsOwned.removed_nodup_iff (h : m.IsOwned) :
    m.ledger.removed.Nodup ↔ ¬m.GivenUpTwice := by
  have hsome : ∀ e, ((fun fb : Framebuffer => !fb.isNone) ∘ m.screen.givenUp) e = true ↔
      m.screen.givenUp e ≠ .none := by
    intro e
    rw [Function.comp_apply, Bool.not_eq_true', ← Bool.not_eq_true, Framebuffer.isNone_iff]
  have honce := h.booked.settled.once
  rw [List.map_append] at honce
  have hids := (List.nodup_append.1 honce).2.1
  rw [h.booked.settled.removed, List.filter_map,
    List.nodup_map_iff_inj_on ((List.Nodup.of_map _ hids).filter _)]
  constructor
  · intro hinj htwice
    obtain ⟨e, he, e', he', hne, hgiven, heq⟩ := h.exists_of_givenUpTwice htwice
    exact hne (hinj e (List.mem_filter.2 ⟨he, (hsome e).2 hgiven⟩)
      e' (List.mem_filter.2 ⟨he', (hsome e').2 (heq ▸ hgiven)⟩) heq)
  · rintro htwice ⟨i, v⟩ hi ⟨j, u⟩ hj heq
    obtain ⟨hi, hgiven⟩ := List.mem_filter.1 hi
    obtain ⟨hj, -⟩ := List.mem_filter.1 hj
    obtain rfl := h.eq_of_givenUp htwice hi hj ((hsome _).1 hgiven) heq
    rw [h.eq_of_reclaimed hi hj]

end Moment

namespace World

variable {rules : Rules} {pipes : List Pipe} {slots : List Framebuffer} {config : Config}
  {moves : List Move} {w : World}

/-- The framebuffers of a world are owned, also when it ended with a violation. -/
theorem exists_isOwned (hfresh : rules.Fresh) (hslots : (slots.filter fun fb => !fb.isNone).Nodup)
    (hplay : (new pipes slots config).play rules moves = some w) :
    ∃ g, (Moment.mk w.session.screen g w.ledger).IsOwned := by
  have hnew := Moment.isOwned_new pipes config hslots
  cases reached hplay with
  | sound hpath hs => exact ⟨_, hpath.keeps (fun _ _ => Moment.IsOwned.evolves hfresh) hnew⟩
  | @stray m _ _ hpath hscreen hledger =>
    refine ⟨m.agenda, ?_⟩
    rw [← hscreen, ← hledger]
    exact hpath.keeps (fun _ _ => Moment.IsOwned.evolves hfresh) hnew

/-- With a device that brings new framebuffers, one is only given up twice if a swap that was rolled
back brought it up and another swap, which took effect, displaced it. -/
theorem framebuffers_removed_once_iff (hslots : (slots.filter fun fb => !fb.isNone).Nodup)
    (hplay : (new pipes slots config).play .fresh moves = some w) :
    w.ledger.removed.Nodup ↔ ¬w.moment.GivenUpTwice := by
  obtain ⟨g, hg⟩ := exists_isOwned Rules.fresh_fresh hslots hplay
  exact hg.removed_nodup_iff

open Sample in
/-- A swap is rejected, and its handler queues another one, which displaces the framebuffer that the
first is about to give up. -/
def retryFromHandler : List Move :=
  [swap 0, brings 100, rejects, swap 1, brings 101, accepts, returns, destroys, .report second,
    .call .drain, reads second, returns, destroys]

/-- The framebuffer of the first swap is given up twice. -/
theorem retryFromHandler_gives_up_twice :
    ∃ w, (new Sample.pipe Sample.slots .default).play .fresh retryFromHandler = some w ∧
      (Sample.slots.filter fun fb => !fb.isNone).Nodup ∧
      w.ledger.removed = [⟨100⟩, ⟨100⟩] ∧ w.moment.GivenUpTwice := by
  have hslots : (Sample.slots.filter fun fb => !fb.isNone).Nodup := by decide
  have htwice {w : World}
      (hplay : (new Sample.pipe Sample.slots .default).play .fresh retryFromHandler = some w)
      (hremoved : ¬w.ledger.removed.Nodup) : w.moment.GivenUpTwice := by
    by_contra hnot
    exact hremoved ((framebuffers_removed_once_iff hslots hplay).2 hnot)
  exact ⟨_, rfl, hslots, by decide, htwice rfl (by decide)⟩

end World

end PageFlip
