import PageFlip.Proofs.Change
import PageFlip.Proofs.Registry

/-!
# The holds on a swap are accounted for

`Counted s g` says of a screen and an agenda that each barrier counts what it should: one hold for
the submitter while the swap is in the middle of its flips, and one for each of its records, which
is either registered or was handed out to be aborted. A barrier without holds has its outcome, and
only then (`Barrier.Counts`). `Accounted s g` says besides that there are no events but flips.

Every change keeps the account (`Accounted.change`). It also makes every use of a barrier good:
nothing is added to, resolved for or released from a swap that has its outcome.
-/

namespace PageFlip

/-! ## One barrier -/

namespace Barrier

/-- The barrier counts `l` holds of the submitter and `r` records, and it has its outcome exactly if
there are none. -/
def Counts (b : Barrier) (l r : Nat) : Prop :=
  match b.tally with
  | some t => t.holds = l + r ∧ l = t.localHold.toNat ∧ 0 < t.holds
  | none => l = 0 ∧ r = 0

variable {b c : Barrier} {l r : Nat}

/-- The holds that are outstanding are those of the submitter and of the records. -/
theorem Counts.outstanding_eq (h : b.Counts l r) : b.outstanding = l + r := by
  unfold Counts at h
  cases ht : b.tally with
  | none => simp only [ht] at h; simp [outstanding, ht, h]
  | some t => simp only [ht] at h; simp [outstanding, ht, h]

/-- A swap has its outcome as soon as nothing holds it. -/
theorem Counts.isFinal_iff (h : b.Counts l r) : b.isFinal = true ↔ l + r = 0 := by
  unfold Counts at h
  cases ht : b.tally with
  | none => simp only [ht] at h; simp [isFinal, ht, h]
  | some t =>
    simp only [ht] at h
    simp only [isFinal, ht, Option.isNone_some, Bool.false_eq_true, false_iff]
    omega

/-- While something holds a swap its barrier is still counting. -/
theorem Counts.exists_tally (h : b.Counts l r) (hpos : 0 < l + r) :
    ∃ t, b.tally = some t ∧ t.holds = l + r ∧ l = t.localHold.toNat := by
  unfold Counts at h
  cases ht : b.tally with
  | none => simp only [ht] at h; omega
  | some t => simp only [ht] at h; exact ⟨t, rfl, h.1, h.2.1⟩

/-- The submitter has at most one hold. -/
theorem Counts.local_le_one (h : b.Counts l r) : l ≤ 1 := by
  unfold Counts at h
  cases ht : b.tally with
  | none => simp only [ht] at h; omega
  | some t =>
    simp only [ht] at h
    have := Bool.toNat_le t.localHold
    omega

/-- A new swap is held by its submitter alone. -/
theorem counts_new (newFb oldFb : Framebuffer) : (new newFb oldFb).Counts 1 0 :=
  ⟨rfl, rfl, Nat.one_pos⟩

/-- That a flip was accepted changes no hold. -/
theorem Counts.markSubmitted (h : b.Counts l r) : b.markSubmitted.Counts l r := by
  unfold Counts at h ⊢
  cases ht : b.tally with
  | none => simp only [ht] at h; simpa [Barrier.markSubmitted, ht] using h
  | some t => simp only [ht] at h; simpa [Barrier.markSubmitted, ht] using h

/-- A hold is added to a barrier that has one of the submitter. -/
theorem Counts.exists_hold (h : b.Counts l r) (hl : 0 < l) :
    ∃ c, b.hold = .ok c ∧ c.Counts l (r + 1) := by
  obtain ⟨t, ht, hholds, hlocal⟩ := h.exists_tally (by omega)
  refine ⟨{ b with tally := some { t with holds := t.holds + 1 } }, by simp [hold, ht], ?_⟩
  unfold Counts
  dsimp only
  omega

/-- A record more holds the swap. -/
theorem Counts.of_hold (h : b.Counts l r) (hl : 0 < l) (hc : b.hold = .ok c) :
    c.Counts l (r + 1) := by
  obtain ⟨c', hc', hcounts⟩ := h.exists_hold hl
  rw [hc] at hc'
  cases hc'
  exact hcounts

/-- Dropping a hold leaves the others, and the outcome is there when none is left. -/
theorem drop_counts {t : Tally} (hholds : t.holds = l + r + 1) (hlocal : l = t.localHold.toNat) :
    (b.drop t).1.Counts l r ∧ ((b.drop t).2.isSome ↔ (b.drop t).1.isFinal = true) := by
  unfold drop
  split
  · exact ⟨⟨by omega, by omega⟩, by simp [isFinal]⟩
  · refine ⟨?_, by simp [isFinal]⟩
    unfold Counts
    dsimp only
    omega

/-- A record of a barrier is resolved. -/
theorem Counts.exists_resolve (h : b.Counts l (r + 1)) (reference : Bool)
    (stamp : Option Stamp) : ∃ c v, b.resolve reference stamp = .ok (c, v) := by
  obtain ⟨t, ht, -, -⟩ := h.exists_tally (by omega)
  exact ⟨(b.drop (t.record reference stamp)).1, (b.drop (t.record reference stamp)).2,
    by simp only [Barrier.resolve, ht]⟩

/-- A record less holds the swap when its flip is resolved. -/
theorem Counts.of_resolve (h : b.Counts l (r + 1)) {reference : Bool} {stamp : Option Stamp}
    {v : Option Verdict} (hc : b.resolve reference stamp = .ok (c, v)) :
    c.Counts l r ∧ (v.isSome ↔ c.isFinal = true) := by
  obtain ⟨t, ht, hholds, hlocal⟩ := h.exists_tally (by omega)
  -- What is recorded of the stamp leaves the holds as they are.
  have hdrop := drop_counts (b := b) (t := t.record reference stamp) (l := l) (r := r)
    (by rw [Tally.holds_record]; omega) (by rw [Tally.localHold_record]; exact hlocal)
  simp only [Barrier.resolve, ht, Except.ok.injEq] at hc
  rw [hc] at hdrop
  exact hdrop

/-- The submitter's hold on a barrier is given up. -/
theorem Counts.exists_release (h : b.Counts 1 r) : ∃ c v, b.release = .ok (c, v) := by
  obtain ⟨t, ht, -, hlocal⟩ := h.exists_tally (by omega)
  have hl : t.localHold = true := by
    cases hl : t.localHold with
    | true => rfl
    | false => rw [hl] at hlocal; cases hlocal
  exact ⟨(b.drop { t with localHold := false }).1, (b.drop { t with localHold := false }).2,
    by simp only [Barrier.release, ht, hl, if_true]⟩

/-- Only the records hold the swap when its submitter is done. -/
theorem Counts.of_release (h : b.Counts 1 r) {v : Option Verdict}
    (hc : b.release = .ok (c, v)) : c.Counts 0 r ∧ (v.isSome ↔ c.isFinal = true) := by
  obtain ⟨t, ht, hholds, hlocal⟩ := h.exists_tally (by omega)
  have hdrop := drop_counts (b := b) (t := { t with localHold := false }) (l := 0) (r := r)
    (by dsimp only; omega) rfl
  simp only [Barrier.release, ht] at hc
  split_ifs at hc
  simp only [Except.ok.injEq] at hc
  rw [hc] at hdrop
  exact hdrop

end Barrier

/-! ## All barriers of a screen -/

namespace Event

/-- Whether an event is a record of the swap. -/
def isOf (id : SwapId) : Event → Bool
  | flip f => f.swap == id
  | plain _ => false

/-- An event is of the swap whose flip it is. -/
@[simp] theorem isOf_flip (f : Flip) (id : SwapId) : (flip f).isOf id = (f.swap == id) := rfl

end Event

namespace Screen

/-- The records of a swap that are registered or were handed out to be aborted. -/
def records (s : Screen) (g : Agenda) (id : SwapId) : Nat :=
  (s.registry.events ++ g.events).countP (Event.isOf id)

/-- Using a barrier changes one swap and no other. -/
theorem getElem?_setBarrier {s : Screen} {id : SwapId} {w : Swap} (hw : s.swaps[id]? = some w)
    (b : Barrier) (j : SwapId) :
    (s.setBarrier id b).swaps[j]? =
      if j = id then some { w with barrier := b } else s.swaps[j]? := by
  simp only [setBarrier, List.getElem?_modify]
  by_cases h : j = id
  · subst h; simp [hw]
  · simp [h, Ne.symm h]

/-- Using a barrier brings no swap. -/
@[simp] theorem length_setBarrier (s : Screen) (id : SwapId) (b : Barrier) :
    (s.setBarrier id b).swaps.length = s.swaps.length := by
  simp [setBarrier]

/-- A swap that is launched is one swap more. -/
theorem length_addSwap_assign (s : Screen) (slot : Slot) (fb : Framebuffer) (w : Swap) :
    ((s.assign slot fb).addSwap w).2.swaps.length = s.swaps.length + 1 := by
  simp [addSwap, assign]

/-- A swap was there before another one was added, or it is that one. -/
theorem of_getElem?_append_swap {s : Screen} {w x : Swap} {j : SwapId}
    (h : (s.swaps ++ [w])[j]? = some x) :
    s.swaps[j]? = some x ∨ (j = s.swaps.length ∧ x = w) := by
  rw [List.getElem?_append] at h
  split_ifs at h with hlt
  · exact .inl h
  · rw [List.getElem?_singleton] at h
    split_ifs at h with hj
    cases h
    exact .inr ⟨Nat.le_antisymm (Nat.sub_eq_zero_iff_le.1 hj) (Nat.le_of_not_lt hlt), rfl⟩

/-- The registry that was put in is there. -/
@[simp] theorem registry_setRegistry (s : Screen) (r : Registry Event) :
    (s.setRegistry r).registry = r := rfl

end Screen

namespace Agenda

/-- A swap that goes on with its pipes has the hold of its submitter. -/
theorem localHolds_fanning (id : SwapId) (fb : Framebuffer) (k : Agenda) (j : SwapId) :
    (fanning id fb ++ k).localHolds j = k.localHolds j + if id = j then 1 else 0 := by
  simp [localHolds, unreleased, List.count_cons]

/-- A swap that queues a flip has the hold of its submitter. -/
theorem localHolds_queueing (id : SwapId) (fb : Framebuffer) (a : Submission) (k : Agenda)
    (j : SwapId) :
    (queueing id fb a ++ k).localHolds j = k.localHolds j + if id = j then 1 else 0 := by
  simp [localHolds, unreleased, List.count_cons]

end Agenda

/-- An event that is to be aborted is a record of its swap. -/
theorem Screen.records_aborting (s : Screen) (e : Event) (k : Agenda) (j : SwapId) :
    s.records (.aborting [e] ++ k) j = s.records k j + if e.isOf j then 1 else 0 := by
  simp only [records, Agenda.events_append, Agenda.aborting, List.countP_append, List.countP_cons,
    List.countP_nil]
  omega

/-- Each barrier counts the holds on its swap, and there is none on a swap that the screen does not
have. -/
structure Counted (s : Screen) (g : Agenda) : Prop where
  counts : ∀ {id : SwapId} {w : Swap}, s.swaps[id]? = some w →
    w.barrier.Counts (g.localHolds id) (s.records g id)
  beyond : ∀ {id : SwapId}, s.swaps[id]? = none → g.localHolds id = 0 ∧ s.records g id = 0

namespace Counted

variable {s s' : Screen} {g g' k : Agenda} {id : SwapId} {fb : Framebuffer} {f : Flip} {w : Swap}
  {b : Barrier} {event : Event} {r : Registry Event}

/-- Only the swaps and the holds on them make a difference. -/
theorem congr (h : Counted s g) (hswaps : s'.swaps = s.swaps)
    (hlocal : ∀ id, g'.localHolds id = g.localHolds id)
    (hrecords : ∀ id, s'.records g' id = s.records g id) : Counted s' g' where
  counts := by
    intro id w hw
    rw [hswaps] at hw
    rw [hlocal, hrecords]
    exact h.counts hw
  beyond := by
    intro id hnone
    rw [hswaps] at hnone
    rw [hlocal, hrecords]
    exact h.beyond hnone

/-- Replacing one barrier, when the holds on no other swap change. -/
theorem setBarrier (h : Counted s g) (hw : s.swaps[id]? = some w) (hswaps : s'.swaps = s.swaps)
    (hb : b.Counts (g'.localHolds id) (s'.records g' id))
    (hlocal : ∀ j, j ≠ id → g'.localHolds j = g.localHolds j)
    (hrecords : ∀ j, j ≠ id → s'.records g' j = s.records g j) :
    Counted (s'.setBarrier id b) g' := by
  have hswap := Screen.getElem?_setBarrier (hswaps ▸ hw : s'.swaps[id]? = some w) b
  -- Records are counted on the registry and the agenda, where barriers are nothing.
  have hrec : ∀ j, (s'.setBarrier id b).records g' j = s'.records g' j := fun _ => rfl
  refine ⟨?_, ?_⟩
  · intro j x hx
    rw [hswap] at hx
    rw [hrec]
    by_cases hj : j = id
    · subst hj
      rw [if_pos rfl] at hx
      cases hx
      exact hb
    · rw [if_neg hj, hswaps] at hx
      rw [hlocal j hj, hrecords j hj]
      exact h.counts hx
  · intro j hnone
    rw [hswap] at hnone
    by_cases hj : j = id
    · rw [if_pos hj] at hnone
      cases hnone
    · rw [if_neg hj, hswaps] at hnone
      rw [hrec, hlocal j hj, hrecords j hj]
      exact h.beyond hnone

/-- A swap on which there is a hold is one of the screen. -/
theorem exists_swap (h : Counted s g) (hpos : 0 < g.localHolds id + s.records g id) :
    ∃ w, s.swaps[id]? = some w ∧ w.barrier.Counts (g.localHolds id) (s.records g id) := by
  cases hw : s.swaps[id]? with
  | none =>
    obtain ⟨hlocal, hrecords⟩ := h.beyond hw
    omega
  | some w => exact ⟨w, rfl, h.counts hw⟩

/-- The swap whose flips are being queued, with its barrier. -/
theorem of_fanning (h : Counted s (.fanning id fb ++ k)) :
    ∃ w, s.swaps[id]? = some w ∧ w.barrier.Counts (k.localHolds id + 1) (s.records k id) := by
  have hlocal := Agenda.localHolds_fanning id fb k id
  rw [if_pos rfl] at hlocal
  rw [← hlocal]
  exact h.exists_swap (Nat.add_pos_left (hlocal ▸ Nat.succ_pos _) _)

/-- A swap is not in the middle of its flips twice. -/
theorem localHolds_eq_zero (h : Counted s (.fanning id fb ++ k)) : k.localHolds id = 0 := by
  obtain ⟨w, -, hcounts⟩ := h.of_fanning
  have := hcounts.local_le_one
  omega

/-- The swap of an event that was handed out, with its barrier. -/
theorem of_aborting (h : Counted s (.aborting [.flip f] ++ k)) :
    ∃ w, s.swaps[f.swap]? = some w ∧
      w.barrier.Counts (k.localHolds f.swap) (s.records k f.swap + 1) := by
  have hrecords := s.records_aborting (.flip f) k f.swap
  rw [Event.isOf_flip, beq_self_eq_true, if_pos rfl] at hrecords
  rw [← hrecords]
  exact h.exists_swap (Nat.add_pos_right _ (hrecords ▸ Nat.succ_pos _))

/-- Handing out the event of a pending token leaves it to be aborted. -/
theorem of_resolve {t : Token} (h : Counted s g) (hr : s.registry.resolve t = .ok (event, r)) :
    Counted (s.setRegistry r) (.aborting [event] ++ g) := by
  refine h.congr rfl (fun _ => rfl) fun id => ?_
  have hperm := (Registry.events_of_resolve hr).append_right g.events
  exact (List.perm_middle.trans hperm).countP_eq _

/-- The events of a controller are handed out to be aborted. -/
theorem of_retirePipe (h : Counted s g) (crtc : Crtc) :
    Counted (s.setRegistry (s.registry.retirePipe crtc).2)
      (.aborting (s.registry.retirePipe crtc).1 ++ g) := by
  refine h.congr rfl (fun _ => rfl) fun id => ?_
  have hperm := (Registry.events_retirePipe s.registry crtc).append_right g.events
  rw [List.append_assoc] at hperm
  exact ((List.perm_append_comm_assoc _ _ _).trans hperm).countP_eq _

/-- A record that was handed out is resolved. -/
theorem resolve (h : Counted s (.aborting [.flip f] ++ k)) (hw : s.swaps[f.swap]? = some w)
    {stamp : Option Stamp} {v : Option Verdict}
    (hb : w.barrier.resolve f.reference stamp = .ok (b, v)) :
    Counted (s.setBarrier f.swap b) k := by
  obtain ⟨w', hw', hcounts⟩ := h.of_aborting
  rw [hw] at hw'
  cases hw'
  refine h.setBarrier hw rfl (hcounts.of_resolve hb).1 (fun _ _ => rfl) fun j hj => ?_
  rw [Screen.records_aborting, Event.isOf_flip, if_neg]
  · rfl
  · simpa using Ne.symm hj

/-- A pipe's flip is registered. -/
theorem register (h : Counted s (.fanning id fb ++ k)) {a : Submission} {reference : Bool}
    (halloc : s.registry.allocate a.crtc (.flip ⟨id, reference⟩) = some (a.token, r))
    (hw : s.swaps[id]? = some w) (hb : w.barrier.hold = .ok b) :
    Counted ((s.setRegistry r).setBarrier id b) (.queueing id fb a ++ k) := by
  obtain ⟨w', hw', hcounts⟩ := h.of_fanning
  rw [hw] at hw'
  cases hw'
  -- The swap gains one record, and no other does.
  have hrec : ∀ j, (s.setRegistry r).records (.queueing id fb a ++ k) j =
      s.records k j + if id = j then 1 else 0 := by
    intro j
    simp only [Screen.records, Screen.registry_setRegistry, Registry.events_of_allocate halloc,
      Agenda.events_append, Agenda.queueing, List.nil_append, List.countP_append, List.countP_cons,
      List.countP_nil, Event.isOf_flip, beq_iff_eq]
    omega
  refine h.setBarrier hw rfl ?_ (fun j _ => rfl) fun j hj => ?_
  · rw [hrec, if_pos rfl, Agenda.localHolds_queueing, if_pos rfl]
    exact hcounts.of_hold (Nat.succ_pos _) hb
  · rw [hrec, if_neg (Ne.symm hj)]
    rfl

/-- The submitter's hold is given up. -/
theorem release (h : Counted s (.fanning id fb ++ k)) (hw : s.swaps[id]? = some w)
    {v : Option Verdict} (hb : w.barrier.release = .ok (b, v)) : Counted (s.setBarrier id b) k := by
  -- No operation below has a hold of this swap's submitter.
  have hzero := h.localHolds_eq_zero
  obtain ⟨w', hw', hcounts⟩ := h.of_fanning
  rw [hw] at hw'
  cases hw'
  rw [hzero] at hcounts
  refine h.setBarrier hw rfl ?_ (fun j hj => ?_) fun _ _ => rfl
  · rw [hzero]
    exact (hcounts.of_release hb).1
  · rw [Agenda.localHolds_fanning, if_neg (Ne.symm hj), Nat.add_zero]

/-- The channel accepted a flip of a swap. -/
theorem accept {a : Submission} (h : Counted s (.queueing id fb a ++ k))
    (hw : s.swaps[id]? = some w) :
    Counted (s.setBarrier id w.barrier.markSubmitted) (.fanning id fb ++ k) :=
  h.setBarrier hw rfl (h.counts hw).markSubmitted (fun _ _ => rfl) fun _ _ => rfl

/-- A swap is added, which its submitter holds. -/
theorem launch (h : Counted s k) (p : Preparation) (fb : Framebuffer) :
    Counted ((s.assign p.slot fb).addSwap ⟨.new fb p.displaced, p.slot, p.request.client⟩).2
      (.fanning s.swaps.length fb ++ k) := by
  obtain ⟨hlocal, hrecords⟩ := h.beyond (List.getElem?_eq_none_iff.2 (Nat.le_refl s.swaps.length))
  refine ⟨?_, ?_⟩
  · intro id w hw
    show w.barrier.Counts _ (s.records k id)
    rw [Agenda.localHolds_fanning]
    rcases Screen.of_getElem?_append_swap (s := s) hw with hw | ⟨rfl, rfl⟩
    · have hlt : id < s.swaps.length := (List.getElem?_eq_some_iff.1 hw).1
      rw [if_neg (Nat.ne_of_gt hlt)]
      exact h.counts hw
    · -- Nothing is known of the new swap yet.
      rw [hlocal, hrecords, if_pos rfl]
      exact Barrier.counts_new fb p.displaced
  · intro id hnone
    show _ ∧ s.records k id = 0
    rw [List.getElem?_eq_none_iff, Screen.length_addSwap_assign] at hnone
    obtain ⟨hlocal', hrecords'⟩ :=
      h.beyond (List.getElem?_eq_none_iff.2 (Nat.le_of_succ_le hnone))
    rw [Agenda.localHolds_fanning, if_neg (Nat.ne_of_lt hnone), hlocal']
    exact ⟨rfl, hrecords'⟩

end Counted

/-- Each barrier counts the holds on its swap, and whatever is left to do concerns swaps of the
screen. -/
structure Accounted (s : Screen) (g : Agenda) : Prop where
  counts : ∀ {id : SwapId} {w : Swap}, s.swaps[id]? = some w →
    w.barrier.Counts (g.localHolds id) (s.records g id)
  unreleased : ∀ id ∈ g.unreleased, id < s.swaps.length
  reclaims : ∀ e ∈ g.reclaims, e.1 < s.swaps.length
  events : ∀ e ∈ s.registry.events ++ g.events, ∃ f, e = .flip f ∧ f.swap < s.swaps.length

/-- If there are no events but flips, the holds account for all that is left to do. -/
theorem Counted.accounted {s : Screen} {g : Agenda} (h : Counted s g)
    (hreclaims : ∀ e ∈ g.reclaims, e.1 < s.swaps.length)
    (hevents : ∀ e ∈ s.registry.events ++ g.events, ∃ f, e = .flip f) : Accounted s g := by
  have hlt {id : SwapId} (hpos : 0 < g.localHolds id + s.records g id) : id < s.swaps.length := by
    obtain ⟨w, hw, -⟩ := h.exists_swap hpos
    exact (List.getElem?_eq_some_iff.1 hw).1
  refine ⟨h.counts, fun id hid => hlt ?_, hreclaims, fun e he => ?_⟩
  · exact Nat.add_pos_left (List.count_pos_iff.2 hid) _
  · obtain ⟨f, rfl⟩ := hevents e he
    refine ⟨f, rfl, hlt (Nat.add_pos_right _ (List.countP_pos_iff.2 ⟨_, he, ?_⟩))⟩
    simp

namespace Accounted

variable {s s' : Screen} {g g' k : Agenda} {id : SwapId} {fb : Framebuffer} {f : Flip} {w : Swap}
  {b : Barrier}

/-- What is accounted for is counted. -/
theorem counted (h : Accounted s g) : Counted s g where
  counts := h.counts
  beyond := by
    intro id hnone
    rw [List.getElem?_eq_none_iff] at hnone
    refine ⟨List.count_eq_zero.2 fun hmem => Nat.not_lt.2 hnone (h.unreleased id hmem), ?_⟩
    rw [Screen.records, List.countP_eq_zero]
    intro e he
    obtain ⟨f, rfl, hlt⟩ := h.events e he
    simpa using Nat.ne_of_lt (Nat.lt_of_lt_of_le hlt hnone)

/-- Every event that is registered or to be aborted is that of a flip. -/
theorem isFlip (h : Accounted s g) {e : Event} (he : e ∈ s.registry.events ++ g.events) :
    ∃ f, e = .flip f := by
  obtain ⟨f, hf, -⟩ := h.events e he
  exact ⟨f, hf⟩

/-- A swap that is there has a place among the swaps. -/
theorem lt_length (hw : s.swaps[id]? = some w) : id < s.swaps.length := by
  rw [List.getElem?_eq_some_iff] at hw
  exact hw.1

/-- The account does not change with the rest of the screen, nor with the order of the events. -/
theorem congr (h : Accounted s g) (hswaps : s'.swaps = s.swaps)
    (hevents : (s'.registry.events ++ g'.events).Perm (s.registry.events ++ g.events))
    (hlocal : g'.unreleased = g.unreleased) (hreclaims : ∀ e ∈ g'.reclaims, e ∈ g.reclaims) :
    Accounted s' g' := by
  refine (h.counted.congr hswaps ?_ fun id => hevents.countP_eq _).accounted ?_ ?_
  · exact fun id => congrArg (List.count id) hlocal
  · rw [hswaps]
    exact fun e he => h.reclaims e (hreclaims e he)
  · exact fun e he => h.isFlip (hevents.mem_iff.1 he)

/-- The swap whose flips are being queued, with its barrier. -/
theorem of_fanning (h : Accounted s (.fanning id fb ++ k)) :
    ∃ w, s.swaps[id]? = some w ∧
      w.barrier.Counts (k.localHolds id + 1) (s.records k id) :=
  h.counted.of_fanning

/-- A swap is not in the middle of its flips twice. -/
theorem localHolds_eq_zero (h : Accounted s (.fanning id fb ++ k)) : k.localHolds id = 0 :=
  h.counted.localHolds_eq_zero

/-- The swap of an event that was handed out, with its barrier. -/
theorem of_aborting (h : Accounted s (.aborting [.flip f] ++ k)) :
    ∃ w, s.swaps[f.swap]? = some w ∧
      w.barrier.Counts (k.localHolds f.swap) (s.records k f.swap + 1) :=
  h.counted.of_aborting

/-- Handing out the event of a pending token leaves it to be aborted. -/
theorem of_resolve {t : Token} {event : Event} {r : Registry Event} (h : Accounted s g)
    (hr : s.registry.resolve t = .ok (event, r)) :
    Accounted (s.setRegistry r) (.aborting [event] ++ g) := by
  refine (h.counted.of_resolve hr).accounted h.reclaims fun e he => h.isFlip ?_
  have hperm := (Registry.events_of_resolve hr).append_right g.events
  exact (List.perm_middle.trans hperm).mem_iff.1 he

/-- What a swap leaves over concerns the swap. -/
theorem reclaims_owing (h : ∀ e ∈ k.reclaims, e.1 < s.swaps.length) (hw : s.swaps[id]? = some w)
    {v : Option Verdict} (b : Barrier) :
    ∀ e ∈ (Agenda.owing id v ++ k).reclaims, e.1 < (s.setBarrier id b).swaps.length := by
  intro e he
  rw [Screen.length_setBarrier]
  rcases List.mem_append.1 he with he | he
  · obtain ⟨u, -, rfl⟩ := List.mem_map.1 he
    exact lt_length hw
  · exact h e he

/-- A record that was handed out is resolved. -/
theorem resolve (h : Accounted s (.aborting [.flip f] ++ k)) (hw : s.swaps[f.swap]? = some w)
    {stamp : Option Stamp} {v : Option Verdict}
    (hb : w.barrier.resolve f.reference stamp = .ok (b, v)) :
    Accounted (s.setBarrier f.swap b) (.owing f.swap v ++ k) := by
  have hcounted : Counted (s.setBarrier f.swap b) (.owing f.swap v ++ k) :=
    (h.counted.resolve hw hb).congr rfl (fun _ => rfl) fun _ => rfl
  refine hcounted.accounted (reclaims_owing h.reclaims hw b) fun e he => h.isFlip ?_
  exact (List.Sublist.append_left (List.sublist_cons_self _ _) _).subset he

/-- A pipe's flip is registered. -/
theorem register (h : Accounted s (.fanning id fb ++ k)) {a : Submission} {reference : Bool}
    {r : Registry Event}
    (halloc : s.registry.allocate a.crtc (.flip ⟨id, reference⟩) = some (a.token, r))
    (hw : s.swaps[id]? = some w) (hb : w.barrier.hold = .ok b) :
    Accounted ((s.setRegistry r).setBarrier id b) (.queueing id fb a ++ k) := by
  refine (h.counted.register halloc hw hb).accounted ?_ fun e he => ?_
  · rw [Screen.length_setBarrier]
    exact h.reclaims
  · have he : e ∈ r.events ++ k.events := he
    rw [Registry.events_of_allocate halloc, List.append_assoc, List.mem_append] at he
    rcases he with he | he
    · exact h.isFlip (List.mem_append_left _ he)
    · rcases List.mem_cons.1 he with rfl | he
      · exact ⟨_, rfl⟩
      · exact h.isFlip (List.mem_append_right _ he)

/-- The submitter's hold is given up. -/
theorem release (h : Accounted s (.fanning id fb ++ k)) (hw : s.swaps[id]? = some w)
    {v : Option Verdict} (hb : w.barrier.release = .ok (b, v)) :
    Accounted (s.setBarrier id b) (.owing id v ++ k) := by
  have hcounted : Counted (s.setBarrier id b) (.owing id v ++ k) :=
    (h.counted.release hw hb).congr rfl (fun _ => rfl) fun _ => rfl
  exact hcounted.accounted (reclaims_owing h.reclaims hw b) fun e he => h.isFlip he

/-- A swap is added, which its submitter holds. -/
theorem launch (h : Accounted s k) (p : Preparation) (fb : Framebuffer) :
    Accounted ((s.assign p.slot fb).addSwap ⟨.new fb p.displaced, p.slot, p.request.client⟩).2
      (.fanning s.swaps.length fb ++ k) := by
  refine (h.counted.launch p fb).accounted (fun e he => ?_) fun e he => h.isFlip he
  rw [Screen.length_addSwap_assign]
  exact Nat.lt_succ_of_lt (h.reclaims e he)

/-- Every change keeps the account. -/
theorem change {l : Label} (h : Accounted s g) (hc : Change s g l s' g') : Accounted s' g' := by
  cases hc with
  | pass => exact h
  | register _ halloc hw hb => exact h.register halloc hw hb
  | late hr =>
    rw [Registry.of_forget?_eq_some hr]
    exact h.congr rfl (List.Perm.refl _) rfl (fun _ he => he)
  | @dispatch k report f r w b v _ hr hw hb =>
    -- The event is handed out first and then resolved.
    have hout : Accounted (s.setRegistry r) (.aborting [.flip f] ++ k) :=
      (h.of_resolve hr).congr rfl (List.Perm.refl _) rfl (fun _ he => he)
    exact hout.resolve hw hb
  | abort hw hb => exact h.resolve hw hb
  | @giveUp k id fb a f r w b v hr hw hb =>
    have hout : Accounted (s.setRegistry r) (.aborting [.flip f] ++ (.fanning id fb ++ k)) :=
      (h.of_resolve hr).congr rfl (List.Perm.refl _) rfl (fun _ he => he)
    exact hout.resolve hw hb
  | lose _ =>
    rw [Registry.forget_eq]
    exact h.congr rfl (List.Perm.refl _) rfl (fun _ he => he)
  | release hw hb => exact h.release hw hb
  | reclaim _ =>
    exact h.congr rfl (List.Perm.refl _) rfl (fun _ he => List.mem_append_right _ he)
  | launch => exact h.launch _ _
  | @accept k id fb f w i now hw =>
    have hmark : Accounted (s.setBarrier id w.barrier.markSubmitted) (.fanning id fb ++ k) := by
      refine (h.counted.accept hw).accounted ?_ fun e he => h.isFlip he
      rw [Screen.length_setBarrier]
      exact h.reclaims
    exact hmark.congr rfl (List.Perm.refl _) rfl (fun _ he => he)
  | read => exact h.congr rfl (List.Perm.refl _) rfl (fun _ he => he)
  | @disable _ i crtc =>
    have hout : Counted ((s.setEnabled i false).setRegistry (s.registry.retirePipe crtc).2)
        (.aborting (s.registry.retirePipe crtc).1 ++ g) :=
      (h.counted.of_retirePipe crtc).congr rfl (fun _ => rfl) fun _ => rfl
    refine hout.accounted h.reclaims fun e he => ?_
    -- What is handed out was pending, so it is the flip of a swap.
    have hperm := (Registry.events_retirePipe s.registry crtc).append_right g.events
    rw [List.append_assoc] at hperm
    exact h.isFlip (((List.perm_append_comm_assoc _ _ _).trans hperm).mem_iff.1 he)
  | enable => exact h.congr rfl (List.Perm.refl _) rfl (fun _ he => he)
  | reorder htable =>
    exact h.congr rfl ((Registry.events_reorder htable).append_right _) rfl (fun _ he => he)

end Accounted

end PageFlip
