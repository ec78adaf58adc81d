import PageFlip.Proofs.Faithful

/-!
# What the slots hold

If no swap is called for on a slot before the last one on it has returned, each slot holds what the
last successful swap on it brought up (`showing`), but for a slot whose swap is still unfinished:
that one holds the new framebuffer from its import on, unless the swap was rolled back
(`Scene.Shelved`).
-/

namespace PageFlip

/-- A framebuffer that is not none is one. -/
theorem Framebuffer.isNone_eq_false_iff {fb : Framebuffer} : fb.isNone = false ↔ fb ≠ none := by
  rw [← Bool.not_eq_true, Framebuffer.isNone_iff]

/-- The framebuffer that the last successful swap on a slot brought up. -/
def shown (slot : Slot) : List Happening → Option Framebuffer
  | [] => none
  | .returned call (.swapped (.ok ())) left :: h =>
    if call.slot? = some slot then
      (call.swap.bind (left.swaps[·]?)).map fun w => w.barrier.newFb
    else shown slot h
  | _ :: h => shown slot h

/-- The framebuffer that belongs into a slot: the one that the last successful swap brought up, or
else the one that was there at the start. -/
def showing (slots : List Framebuffer) (slot : Slot) (h : List Happening) : Framebuffer :=
  (shown slot h).getD (slots.getD slot .none)

/-- A swap was rolled back: no flip of it was accepted, and a framebuffer was given up for it. -/
def RolledBack (id : SwapId) (h : List Happening) : Prop :=
  (recordOf id h).accepted = false ∧ (recordOf id h).destroyed ≠ []

namespace Conduct

/-- No swap is called for on a slot before the last one on it has returned. -/
def Solo (conduct : Conduct) : Prop :=
  ∀ m op slot, conduct.calls m op = true → op.slot? m.screen = some slot →
    ∀ l ∈ m.levels, l.call.slot? ≠ some slot

/-- The device imports buffers as framebuffers that were not there before. -/
def Fresh (conduct : Conduct) : Prop :=
  ∀ m fb, conduct.imports m fb = true → fb ≠ .none ∧ fb ∉ m.framebuffers

end Conduct

variable {conduct : Conduct}

section History

variable {id j : SwapId} {h hs : List Happening} {slot : Slot}

/-- Only returns of calls change what a slot shows. -/
theorem shown_append (hnone : hs.filterMap Happening.call? = []) :
    shown slot (hs ++ h) = shown slot h := by
  induction hs with
  | nil => rfl
  | cons x hs ih =>
    cases x with
    | returned call outcome left => cases hnone
    | _ => exact ih hnone

/-- A call that is not for the slot does not change what it shows. -/
theorem shown_returned {call : Call} (outcome : Outcome) (left : Screen)
    (hslot : call.slot? ≠ some slot) : shown slot (.returned call outcome left :: h) =
      shown slot h := by
  cases outcome with
  | swapped result =>
    cases result with
    | ok => exact if_neg hslot
    | error e => rfl
  | _ => rfl

/-- No swap is rolled back when a client is told an outcome. -/
theorem rolledBack_ofVerdict (client : Client) (v : Option Verdict) :
    RolledBack j (Happening.ofVerdict id client v ++ h) ↔ RolledBack j h := by
  unfold RolledBack
  rw [recordOf_ofVerdict]
  split_ifs
  · rfl
  · rfl

/-- No swap is rolled back when a flip is resolved. -/
theorem rolledBack_resolved (report : Report) :
    RolledBack j (.resolved id report :: h) ↔ RolledBack j h := by
  unfold RolledBack
  rw [recordOf]
  split_ifs
  · rfl
  · rfl

/-- An accepted flip makes no difference to swaps for which nothing was given up. -/
theorem rolledBack_accepted (f : Submission) (hdestroyed : (recordOf id h).destroyed = []) :
    RolledBack j (.accepted id f :: h) ↔ RolledBack j h := by
  unfold RolledBack
  rw [recordOf]
  split_ifs with hj
  · subst hj
    simp [hdestroyed]
  · rfl

/-- A swap without an accepted flip is rolled back when a framebuffer is given up for it. -/
theorem rolledBack_destroyed (fb : Framebuffer) :
    RolledBack j (.destroyed id fb :: h) ↔
      RolledBack j h ∨ id = j ∧ (recordOf j h).accepted = false := by
  unfold RolledBack
  rw [recordOf]
  split_ifs with hj
  · simp only [ne_eq, List.cons_ne_nil, not_false_eq_true, and_true, hj, true_and]
    exact ⟨.inr, fun h => h.elim And.left fun h => h⟩
  · simp [hj]

end History

namespace Screen

/-- The slot of a swap is one of those of the screen. -/
theorem slot_prepare_lt (s : Screen) (r : SwapRequest) :
    (s.prepare r).slot < s.pipes.length + 1 := by
  have hslot : (s.prepare r).slot = ((s.target? r).map pipeSlot).getD sharedSlot := rfl
  rw [hslot]
  cases ht : s.target? r with
  | none => exact Nat.succ_pos _
  | some i =>
    -- The target is a pipe of the screen.
    have hlt : i < s.pipes.length := by
      unfold target? at ht
      split at ht
      · cases ht
      · exact (List.findIdx?_eq_some_iff_getElem.1 ht).1
    exact Nat.succ_lt_succ hlt

end Screen

namespace Scene

/-- The calls of the unfinished operations. -/
def calls (m : Scene) : List Call := m.levels.map Level.call

/-- What is known of the slot of an unfinished swap. -/
def Shelves (slots : List Framebuffer) (m : Scene) (call : Call) (slot : Slot) : Prop :=
  match call.swap with
  | none => m.screen.held slot = showing slots slot m.history
  | some id =>
    ∀ w, m.screen.swaps[id]? = some w → w.barrier.oldFb = showing slots slot m.history ∧
      (¬RolledBack id m.history → m.screen.held slot = w.barrier.newFb) ∧
      (RolledBack id m.history → m.screen.held slot = showing slots slot m.history)

/-- Each slot holds what it should. -/
structure Shelved (slots : List Framebuffer) (m : Scene) : Prop where
  length : m.screen.slots.length = slots.length
  pipes : m.screen.pipes.length + 1 = slots.length
  brought : ∀ {id : SwapId} {w : Swap}, m.screen.swaps[id]? = some w → w.barrier.newFb ≠ .none
  apart : (m.calls.filterMap Call.slot?).Nodup
  range : ∀ call ∈ m.calls, ∀ slot, call.slot? = some slot → slot < slots.length
  rest : ∀ slot, (∀ call ∈ m.calls, call.slot? ≠ some slot) →
    m.screen.held slot = showing slots slot m.history
  busy : ∀ call ∈ m.calls, ∀ slot, call.slot? = some slot → Shelves slots m call slot

namespace Shelved

variable {slots : List Framebuffer} {m m' : Scene}

/-- The slots and the calls are as they were. -/
theorem keep (h : Shelved slots m) (hslots : m'.screen.slots = m.screen.slots)
    (hpipes : m'.screen.pipes.length = m.screen.pipes.length) (hcalls : m'.calls = m.calls)
    (hswaps : ∀ (id : SwapId) (w' : Swap), m'.screen.swaps[id]? = some w' →
      ∃ w, m.screen.swaps[id]? = some w ∧ w'.Continues w)
    (hshown : ∀ slot, shown slot m'.history = shown slot m.history)
    (hrolled : ∀ id, RolledBack id m'.history ↔ RolledBack id m.history) : Shelved slots m' := by
  have hheld : ∀ slot, m'.screen.held slot = m.screen.held slot := by
    intro slot
    rw [Screen.held, hslots]
    rfl
  have hshowing : ∀ slot, showing slots slot m'.history = showing slots slot m.history := by
    intro slot
    rw [showing, hshown]
    rfl
  refine ⟨by rw [hslots, h.length], by rw [hpipes, h.pipes], ?_, by rw [hcalls]; exact h.apart,
    by rw [hcalls]; exact h.range, ?_, ?_⟩
  · intro id w' hw'
    obtain ⟨w, hw, hcont⟩ := hswaps id w' hw'
    rw [hcont.newFb]
    exact h.brought hw
  · intro slot hfree
    rw [hheld, hshowing]
    exact h.rest slot (hcalls ▸ hfree)
  · intro call hcall slot hslot
    have hbusy := h.busy call (hcalls ▸ hcall) slot hslot
    -- The slot of an unfinished swap holds what it held.
    unfold Shelves at hbusy ⊢
    cases hswap : call.swap with
    | none =>
      rw [hswap] at hbusy
      dsimp only at hbusy ⊢
      rw [hheld, hshowing, hbusy]
    | some id =>
      rw [hswap] at hbusy
      intro w' hw'
      obtain ⟨w, hw, hcont⟩ := hswaps id w' hw'
      rw [hheld, hshowing, hrolled, hcont.oldFb, hcont.newFb]
      exact hbusy w hw

/-- The slots say what is held. -/
theorem held_congr {s s' : Screen} (hslots : s'.slots = s.slots) (slot : Slot) :
    s'.held slot = s.held slot := by
  rw [Screen.held, hslots]
  rfl

/-- An operation starts. -/
theorem push {s s' : Screen} {ls : List Level} {fbs : List Framebuffer} {hist : List Happening}
    (h : Shelved slots ⟨s, ls, fbs, hist⟩) {l : Level} (hlevel : l.call.swap = none)
    (hslot : ∀ slot, l.call.slot? = some slot → slot < slots.length ∧
      ∀ k ∈ ls, k.call.slot? ≠ some slot)
    (hslots : s'.slots = s.slots) (hpipes : s'.pipes.length = s.pipes.length)
    (hswaps : s'.swaps = s.swaps) : Shelved slots ⟨s', l :: ls, fbs, hist⟩ := by
  have hkeep : Shelved slots ⟨s', ls, fbs, hist⟩ :=
    h.keep hslots hpipes rfl (fun id w hw => ⟨w, hswaps ▸ hw, .refl w⟩) (fun _ => rfl)
      fun _ => .rfl
  refine ⟨hkeep.length, hkeep.pipes, hkeep.brought, ?_, ?_, ?_, ?_⟩
  · change (List.filterMap Call.slot? (l.call :: ls.map Level.call)).Nodup
    cases hs : l.call.slot? with
    | none =>
      rw [List.filterMap_cons_none hs]
      exact hkeep.apart
    | some slot =>
      rw [List.filterMap_cons_some hs, List.nodup_cons]
      refine ⟨fun hmem => ?_, hkeep.apart⟩
      obtain ⟨call, hcall, hcs⟩ := List.mem_filterMap.1 hmem
      obtain ⟨k, hk, rfl⟩ := List.mem_map.1 hcall
      exact (hslot slot hs).2 k hk hcs
  · exact List.forall_mem_cons.2 ⟨fun slot hs => (hslot slot hs).1, hkeep.range⟩
  · exact fun slot hfree => hkeep.rest slot fun call hcall =>
      hfree call (List.mem_cons_of_mem _ hcall)
  · refine List.forall_mem_cons.2 ⟨fun slot hs => ?_, hkeep.busy⟩
    unfold Shelves
    rw [hlevel]
    refine hkeep.rest slot fun call hcall => ?_
    obtain ⟨k, hk, rfl⟩ := List.mem_map.1 hcall
    exact (hslot slot hs).2 k hk

/-- The slot of one unfinished operation is not that of another. -/
theorem slot_ne {s : Screen} {l : Level} {ls : List Level} {fbs : List Framebuffer}
    {hist : List Happening} (h : Shelved slots ⟨s, l :: ls, fbs, hist⟩) {slot : Slot}
    (hslot : l.call.slot? = some slot) : ∀ call ∈ ls.map Level.call, call.slot? ≠ some slot := by
  intro call hcall hcs
  have hapart : (List.filterMap Call.slot? (l.call :: ls.map Level.call)).Nodup := h.apart
  rw [List.filterMap_cons_some hslot, List.nodup_cons] at hapart
  exact hapart.1 (List.mem_filterMap.2 ⟨call, hcall, hcs⟩)

/-- An operation returns. -/
theorem pop {s : Screen} {l : Level} {ls : List Level} {fbs : List Framebuffer}
    {hist : List Happening} {outcome : Outcome} (h : Shelved slots ⟨s, l :: ls, fbs, hist⟩)
    (hlast : ∀ slot, l.call.slot? = some slot →
      s.held slot = showing slots slot (.returned l.call outcome s :: hist)) :
    Shelved slots ⟨s, ls, fbs, .returned l.call outcome s :: hist⟩ := by
  have hother : ∀ slot, l.call.slot? ≠ some slot →
      showing slots slot (.returned l.call outcome s :: hist) = showing slots slot hist := by
    intro slot hs
    rw [showing, shown_returned outcome s hs]
    rfl
  have hrolled : ∀ id, RolledBack id (.returned l.call outcome s :: hist) ↔ RolledBack id hist :=
    fun _ => .rfl
  refine ⟨h.length, h.pipes, h.brought, ?_, ?_, ?_, ?_⟩
  · exact h.apart.sublist ((List.sublist_cons_self _ _).filterMap _)
  · exact fun call hcall => h.range call (List.mem_cons_of_mem _ hcall)
  · intro slot hfree
    by_cases hs : l.call.slot? = some slot
    · exact hlast slot hs
    · dsimp only
      rw [hother slot hs]
      exact h.rest slot (List.forall_mem_cons.2 ⟨hs, hfree⟩)
  · intro call hcall slot hcs
    have hs : l.call.slot? ≠ some slot := fun hs => h.slot_ne hs call hcall hcs
    have hbusy := h.busy call (List.mem_cons_of_mem _ hcall) slot hcs
    unfold Shelves at hbusy ⊢
    dsimp only at hbusy ⊢
    simp only [hother slot hs, hrolled]
    exact hbusy

/-- The slot of the operation on top is written. -/
theorem write {s s' : Screen} {l l' : Level} {ls : List Level} {fbs fbs' : List Framebuffer}
    (hs : List Happening) {hist : List Happening} {slot : Slot} {fb : Framebuffer}
    (h : Shelved slots ⟨s, l :: ls, fbs, hist⟩) (hF : Filed ⟨s, l :: ls, fbs, hist⟩)
    (hslot : l.call.slot? = some slot) (hslot' : l'.call.slot? = some slot)
    (hslots : s'.slots = (s.assign slot fb).slots) (hpipes : s'.pipes = s.pipes)
    (hbrought : ∀ {id : SwapId} {w : Swap}, s'.swaps[id]? = some w → w.barrier.newFb ≠ .none)
    (hswaps : ∀ id w, id < s.swaps.length → s'.swaps[id]? = some w → s.swaps[id]? = some w)
    (hnone : hs.filterMap Happening.call? = [])
    (hrolled : ∀ id, l.call.swap ≠ some id → id < s.swaps.length →
      (RolledBack id (hs ++ hist) ↔ RolledBack id hist))
    (htop : Shelves slots ⟨s', l' :: ls, fbs', hs ++ hist⟩ l'.call slot) :
    Shelved slots ⟨s', l' :: ls, fbs', hs ++ hist⟩ := by
  have hshowing : ∀ slot, showing slots slot (hs ++ hist) = showing slots slot hist := by
    intro slot
    rw [showing, shown_append hnone]
    rfl
  have hheld : ∀ other, other ≠ slot → s'.held other = s.held other := by
    intro other hne
    rw [held_congr hslots, Screen.held_assign, if_neg fun he => hne he.1]
  have hapart : (List.filterMap Call.slot? (l.call :: ls.map Level.call)).Nodup := h.apart
  rw [List.filterMap_cons_some hslot] at hapart
  refine ⟨?_, ?_, hbrought, ?_, ?_, ?_, ?_⟩
  · dsimp only
    rw [hslots, Screen.assign, List.length_set]
    exact h.length
  · dsimp only
    rw [hpipes]
    exact h.pipes
  · change (List.filterMap Call.slot? (l'.call :: ls.map Level.call)).Nodup
    rw [List.filterMap_cons_some hslot']
    exact hapart
  · refine List.forall_mem_cons.2 ⟨fun other hother => ?_, fun call hcall =>
      h.range call (List.mem_cons_of_mem _ hcall)⟩
    obtain rfl : slot = other := Option.some.inj (hslot'.symm.trans hother)
    exact h.range l.call List.mem_cons_self slot hslot
  · intro other hfree
    obtain ⟨htop, hfree⟩ := List.forall_mem_cons.1 hfree
    have hne : other ≠ slot := fun he => htop (he ▸ hslot')
    dsimp only
    rw [hheld other hne, hshowing]
    refine h.rest other (List.forall_mem_cons.2 ⟨fun he => hne ?_, hfree⟩)
    exact Option.some.inj (he.symm.trans hslot)
  · refine List.forall_mem_cons.2 ⟨fun other hother => ?_, fun call hcall other hother => ?_⟩
    · obtain rfl : slot = other := Option.some.inj (hslot'.symm.trans hother)
      exact htop
    · have hne : other ≠ slot := fun he => h.slot_ne hslot call hcall (he ▸ hother)
      have hbusy := h.busy call (List.mem_cons_of_mem _ hcall) other hother
      unfold Shelves at hbusy ⊢
      dsimp only at hbusy ⊢
      rw [hheld other hne, hshowing]
      cases hswap : call.swap with
      | none =>
        rw [hswap] at hbusy
        exact hbusy
      | some id =>
        rw [hswap] at hbusy
        -- The swap was there before, and it is not the one on top.
        obtain ⟨r, w, -, hw, -⟩ := hF.made call
          (List.mem_append_left _ (List.mem_cons_of_mem _ hcall)) id hswap
        have hlt := Accounted.lt_length hw
        have hother : l.call.swap ≠ some id :=
          hF.swap_ne (List.mem_append_left _ hcall) hswap
        intro w' hw'
        rw [hrolled id hother hlt]
        exact hbusy w' (hswaps id w' hlt hw')

/-- A swap whose framebuffer is being imported found its slot as it is. -/
theorem of_importing {s : Screen} {c : Call} {p : Preparation} {ls : List Level}
    {fbs : List Framebuffer} {hist : List Happening}
    (h : Shelved slots ⟨s, ⟨c, {}, .importing p⟩ :: ls, fbs, hist⟩)
    (hm : Faithful ⟨s, ⟨c, {}, .importing p⟩ :: ls, fbs, hist⟩) :
    c.swap = none ∧ c.slot? = some p.slot ∧ p.slot < s.slots.length ∧
      p.displaced = s.held p.slot := by
  obtain ⟨hop, hp, hswap, -⟩ := (hm.filed.levels _ List.mem_cons_self).ending
  have hslot : c.slot? = some p.slot := by
    rw [Call.slot?, show c.op = _ from hop]
    exact congrArg (fun p => some p.slot) hp.symm
  refine ⟨hswap, hslot, ?_, ?_⟩
  · have hlength : s.slots.length = slots.length := h.length
    rw [hlength]
    exact h.range c List.mem_cons_self p.slot hslot
  · -- Nothing has happened since the call.
    have huntouched := (hm.filed.untouched _ rfl ⟨_, hop⟩ hswap).1
    rw [show s = c.found from huntouched, show p = _ from hp]
    rfl

/-- A swap that took effect had an accepted flip, and its slot is left alone. Any other is that of
the operation on top, and the displaced framebuffer takes the place of its own. -/
theorem of_owing {s : Screen} {c : Call} {id : SwapId} {v : Verdict} {g : Agenda} {e : Ending}
    {w : Swap} {ls : List Level} {fbs : List Framebuffer} {hist : List Happening}
    (h : Shelved slots ⟨s, ⟨c, .owing id (some v) ++ g, e⟩ :: ls, fbs, hist⟩)
    (hm : Faithful ⟨s, ⟨c, .owing id (some v) ++ g, e⟩ :: ls, fbs, hist⟩)
    (hw : s.swaps[id]? = some w) :
    ((recordOf id hist).accepted = true ∧
      w.barrier.reclaim v (s.held w.slot) = (s.held w.slot, w.barrier.oldFb)) ∨
    ((recordOf id hist).accepted = false ∧ c.swap = some id ∧ c.slot? = some w.slot ∧
      w.slot < s.slots.length ∧ s.held w.slot = w.barrier.newFb ∧
      w.barrier.oldFb = showing slots w.slot hist ∧
      w.barrier.reclaim v (s.held w.slot) = (w.barrier.oldFb, w.barrier.newFb)) := by
  have hchronicled := hm.chronicled
  simp only [Scene.agenda, Scene.agendaOf, Agenda.append_assoc] at hchronicled
  obtain ⟨hdestroyed, hsubmitted, hstamp⟩ := hchronicled.of_owed hw
  cases hv : v.tookEffect with
  | true =>
    -- By an acceptance, or by a completion, which needs one.
    refine .inl ⟨?_, if_pos hv⟩
    rw [Verdict.tookEffect, hstamp, hsubmitted, Bool.or_eq_true] at hv
    exact hv.elim (hm.earned id) fun haccepted => haccepted
  | false =>
    have htop := (hm.filed.levels _ List.mem_cons_self).reclaims (id, v) List.mem_cons_self hv
    have htop : c.swap = some id := htop
    obtain ⟨r, w', hop, hw', -, hslot, -⟩ := hm.filed.made c List.mem_cons_self id htop
    obtain rfl : w = w' := Option.some.inj (hw.symm.trans hw')
    have hslot : c.slot? = some w.slot := by
      rw [Call.slot?, hop, hslot]
      rfl
    have hbusy := h.busy c List.mem_cons_self w.slot hslot
    unfold Shelves at hbusy
    rw [htop] at hbusy
    obtain ⟨hold, hinstalled, -⟩ := hbusy w hw
    have hheld : s.held w.slot = w.barrier.newFb := hinstalled fun hr => hr.2 hdestroyed
    refine .inr ⟨?_, htop, hslot, ?_, hheld, hold, ?_⟩
    · rw [Verdict.tookEffect, hsubmitted, Bool.or_eq_false_iff] at hv
      exact hv.2
    · have hlength : s.slots.length = slots.length := h.length
      rw [hlength]
      exact h.range c List.mem_cons_self w.slot hslot
    · rw [Barrier.reclaim, hv, if_neg Bool.false_ne_true, if_pos hheld]

/-- Each swap has brought up a framebuffer. -/
theorem isNone_newFb (h : Shelved slots m) {id : SwapId} {w : Swap}
    (hw : m.screen.swaps[id]? = some w) : w.barrier.newFb.isNone = false :=
  Framebuffer.isNone_eq_false_iff.2 (h.brought hw)

section Deeds

variable {s : Screen} {c : Call} {ls : List Level} {fbs : List Framebuffer}
  {hist : List Happening} {id : SwapId} {w : Swap}

/-- A framebuffer is installed. -/
theorem launch {p : Preparation} {fb : Framebuffer}
    (h : Shelved slots ⟨s, ⟨c, {}, .importing p⟩ :: ls, fbs, hist⟩)
    (hm : Faithful ⟨s, ⟨c, {}, .importing p⟩ :: ls, fbs, hist⟩) (hfb : fb ≠ .none) :
    Shelved slots ⟨((s.assign p.slot fb).addSwap ⟨.new fb p.displaced, p.slot, p.request.client⟩).2,
      ⟨{ c with swap := some s.swaps.length }, .fanning s.swaps.length fb,
        .flipping s.swaps.length 0 none⟩ :: ls, fb :: fbs, hist⟩ := by
  obtain ⟨hswap, hslot, hlt, hdisplaced⟩ := h.of_importing hm
  have hnew : recordOf s.swaps.length hist = {} := (hm.chronicled.beyond (Nat.le_refl _)).1
  refine h.write [] hm.filed hslot hslot rfl rfl ?_ ?_ rfl (fun _ _ _ => .rfl) ?_
  · intro j x hx
    rcases Screen.of_getElem?_append_swap (s := s) hx with hx | ⟨-, rfl⟩
    · exact h.brought hx
    · exact hfb
  · intro j x hj hx
    refine (Screen.of_getElem?_append_swap (s := s) hx).resolve_right ?_
    exact fun he => Nat.ne_of_lt hj he.1
  · intro x hx
    obtain rfl : x = ⟨.new fb p.displaced, p.slot, p.request.client⟩ := by
      rcases Screen.of_getElem?_append_swap (s := s) hx with hx | ⟨-, rfl⟩
      · exact absurd (Accounted.lt_length hx) (Nat.lt_irrefl _)
      · rfl
    have hrolled : ¬RolledBack s.swaps.length hist := fun hr => hr.2 (by rw [hnew])
    refine ⟨?_, fun _ => ?_, fun hr => absurd hr hrolled⟩
    · have hbusy := h.busy c List.mem_cons_self p.slot hslot
      unfold Shelves at hbusy
      rw [hswap] at hbusy
      exact hdisplaced.trans hbusy
    · change (s.assign p.slot fb).held p.slot = fb
      rw [Screen.held_assign, if_pos ⟨rfl, hlt⟩]

/-- The handler of a swap is done. If the swap is rolled back, its slot gets back what it held
before. -/
theorem reclaim {v : Verdict} {g : Agenda} {e : Ending}
    (h : Shelved slots ⟨s, ⟨c, .owing id (some v) ++ g, e⟩ :: ls, fbs, hist⟩)
    (hm : Faithful ⟨s, ⟨c, .owing id (some v) ++ g, e⟩ :: ls, fbs, hist⟩)
    (hw : s.swaps[id]? = some w) :
    Shelved slots ⟨s.assign w.slot (w.barrier.reclaim v (s.held w.slot)).1, ⟨c, g, e⟩ :: ls, fbs,
      (if (w.barrier.reclaim v (s.held w.slot)).2.isNone then []
        else [.destroyed id (w.barrier.reclaim v (s.held w.slot)).2]) ++ hist⟩ := by
  have hnone : (if (w.barrier.reclaim v (s.held w.slot)).2.isNone then []
      else [Happening.destroyed id (w.barrier.reclaim v (s.held w.slot)).2]).filterMap
        Happening.call? = [] := by
    split_ifs
    · rfl
    · rfl
  rcases h.of_owing hm hw with ⟨haccepted, hreclaim⟩ | ⟨haccepted, htop, hslot, hlt, -, hold,
    hreclaim⟩
  · -- The displaced framebuffer is given up, which is no rollback of an accepted swap.
    refine h.keep ?_ rfl rfl (fun id w hw => ⟨w, hw, .refl w⟩) (fun slot => shown_append hnone)
      fun j => ?_
    · rw [hreclaim]
      exact congrArg Screen.slots (s.assign_held w.slot)
    · split_ifs
      · rfl
      · rw [List.singleton_append, rolledBack_destroyed]
        refine or_iff_left ?_
        rintro ⟨rfl, haccepted'⟩
        rw [haccepted] at haccepted'
        cases haccepted'
  · -- The swap is rolled back, and its slot is that of the operation on top.
    rw [hreclaim, h.isNone_newFb hw, if_neg Bool.false_ne_true] at hnone ⊢
    refine h.write _ hm.filed hslot hslot rfl rfl h.brought (fun _ _ _ hx => hx) hnone ?_ ?_
    · intro j hj _
      rw [List.singleton_append, rolledBack_destroyed]
      exact or_iff_left fun hid => hj (hid.1 ▸ htop)
    · unfold Shelves
      simp only [htop]
      intro x hx
      obtain rfl : w = x := Option.some.inj (hw.symm.trans hx)
      have hshowing : showing slots w.slot ([.destroyed id w.barrier.newFb] ++ hist) =
          showing slots w.slot hist := by
        rw [showing, shown_append hnone]
        rfl
      have hrolled : RolledBack id ([.destroyed id w.barrier.newFb] ++ hist) :=
        (rolledBack_destroyed _).2 (.inr ⟨rfl, haccepted⟩)
      refine ⟨hold.trans hshowing.symm, fun hnot => absurd hrolled hnot, fun _ => ?_⟩
      rw [hshowing, Screen.held_assign, if_pos ⟨rfl, hlt⟩]
      exact hold

/-- When a swap returns, its slot holds its framebuffer if it succeeded, and else what it held
before. -/
theorem held_of_returning {outcome : Outcome} {slot : Slot}
    (h : Shelved slots ⟨s, ⟨c, {}, .returning outcome⟩ :: ls, fbs, hist⟩)
    (hA : Accounted s (agendaOf ls))
    (hm : Faithful ⟨s, ⟨c, {}, .returning outcome⟩ :: ls, fbs, hist⟩)
    (hm' : Faithful ⟨s, ls, fbs, .returned c outcome s :: hist⟩) (hslot : c.slot? = some slot) :
    s.held slot = showing slots slot (.returned c outcome s :: hist) := by
  obtain ⟨hagrees, -, hbrought⟩ := (hm.filed.levels _ List.mem_cons_self).ending
  dsimp only at hagrees hbrought
  obtain ⟨r, hop⟩ : ∃ r, c.op = .swap r := by
    rw [Call.slot?] at hslot
    cases hop : c.op with
    | swap r => exact ⟨r, rfl⟩
    | _ => rw [hop] at hslot; cases hslot
  obtain ⟨id, hswap⟩ := Option.ne_none_iff_exists'.1 (hbrought ⟨r, hop⟩)
  obtain ⟨r', w, -, hw, -⟩ := hm.filed.made c List.mem_cons_self id hswap
  have hbusy := h.busy c List.mem_cons_self slot hslot
  unfold Shelves at hbusy
  rw [hswap] at hbusy
  obtain ⟨-, hinstalled, hrestored⟩ := hbusy w hw
  cases outcome with
  | swapped result =>
    have hresult := hagrees.2
    rw [hswap] at hresult
    cases result with
    | ok =>
      -- The framebuffer of a successful swap stays in its slot.
      have haccepted : (recordOf id hist).accepted = true := hresult
      have hnot : ¬RolledBack id hist := by
        rintro ⟨hno, -⟩
        rw [haccepted] at hno
        cases hno
      have hheld : s.held slot = w.barrier.newFb := hinstalled hnot
      rw [hheld]
      simp [showing, shown, hslot, hswap, hw]
    | error e =>
      -- A swap that failed has given up its own framebuffer, so it was rolled back.
      have hundone := hm'.undone hA List.mem_cons_self hswap hw hresult.1
      have hrolled : RolledBack id hist := by
        refine ⟨hresult.1, ?_⟩
        have hdestroyed : (recordOf id hist).destroyed = _ := hundone.destroyed
        rw [hdestroyed, List.filter_cons_of_pos (by simp [h.isNone_newFb hw])]
        exact List.cons_ne_nil _ _
      exact hrestored hrolled
  | _ => exact absurd hop (hagrees.1 r)

end Deeds

/-- Every deed leaves in each slot what it should hold. -/
theorem deed (h : Shelved slots m) (hsolo : conduct.Solo) (hfresh : conduct.Fresh)
    (hA : Accounted m.screen m.agenda) (hm : m.Faithful) (hm' : m'.Faithful)
    (hd : Deed conduct m m') : Shelved slots m' := by
  -- Unless a swap is added, those of the later scene were there before.
  have hcont : m'.screen.swaps.length = m.screen.swaps.length →
      ∀ (id : SwapId) (w' : Swap), m'.screen.swaps[id]? = some w' →
        ∃ w, m.screen.swaps[id]? = some w ∧ w'.Continues w := by
    intro hlength id w' hw'
    obtain ⟨l, hc⟩ := hd.change
    have hlt : id < m.screen.swaps.length := hlength ▸ Accounted.lt_length hw'
    obtain ⟨w'', hw'', hcont⟩ := hc.swap_after (List.getElem?_eq_getElem hlt)
    obtain rfl : w'' = w' := Option.some.inj (hw''.symm.trans hw')
    exact ⟨_, List.getElem?_eq_getElem hlt, hcont⟩
  have hsame : ∀ (id : SwapId) (w : Swap), m.screen.swaps[id]? = some w →
      ∃ w', m.screen.swaps[id]? = some w' ∧ w.Continues w' :=
    fun id w hw => ⟨w, hw, .refl w⟩
  cases hd with
  | pass => exact h.keep rfl rfl rfl hsame (fun _ => rfl) fun _ => .rfl
  | register =>
    exact h.keep rfl rfl rfl (hcont (Screen.length_setBarrier _ _ _)) (fun _ => rfl) fun _ => .rfl
  | late => exact h.keep rfl rfl rfl hsame (fun _ => rfl) fun _ => .rfl
  | dispatch =>
    refine h.keep rfl rfl rfl (hcont (Screen.length_setBarrier _ _ _)) (fun slot => ?_) fun id => ?_
    · exact shown_append (call?_ofVerdict _ _ _)
    · exact (rolledBack_ofVerdict _ _).trans (rolledBack_resolved _)
  | abort =>
    exact h.keep rfl rfl rfl (hcont (Screen.length_setBarrier _ _ _))
      (fun slot => shown_append (call?_ofVerdict _ _ _)) fun id => rolledBack_ofVerdict _ _
  | giveUp =>
    exact h.keep rfl rfl rfl (hcont (Screen.length_setBarrier _ _ _))
      (fun slot => shown_append (call?_ofVerdict _ _ _)) fun id => rolledBack_ofVerdict _ _
  | lose => exact h.keep rfl rfl rfl hsame (fun _ => rfl) fun _ => .rfl
  | release =>
    exact h.keep rfl rfl rfl (hcont (Screen.length_setBarrier _ _ _))
      (fun slot => shown_append (call?_ofVerdict _ _ _)) fun id => rolledBack_ofVerdict _ _
  | reclaim hw => exact h.reclaim hm hw
  | launch hfb => exact h.launch hm (hfresh _ _ hfb).1
  | @refuse s c p error ls fbs hist =>
    obtain ⟨hswap, -⟩ := h.of_importing hm
    refine h.pop fun slot hslot => ?_
    have hbusy := h.busy c List.mem_cons_self slot hslot
    unfold Shelves at hbusy
    rw [hswap] at hbusy
    exact hbusy
  | @accept s c id fb n f w i now ls fbs hist hw =>
    refine h.keep rfl ?_ rfl (hcont (Screen.length_setBarrier _ _ _)) (fun _ => rfl) fun j => ?_
    · exact List.length_modify _ _ _
    · -- While the submitter has its hold nothing was given up for the swap.
      have hopen := hA.open_of_unreleased hw List.mem_cons_self
      exact rolledBack_accepted f (hm.chronicled.of_open hw hopen).2.1
  | read => exact h.keep rfl rfl rfl hsame (fun _ => rfl) fun _ => .rfl
  | drain => exact h.keep rfl rfl rfl hsame (fun _ => rfl) fun _ => .rfl
  | @call s op e ls fbs hist hcall htop hop =>
    refine h.push rfl (fun slot hslot => ⟨?_, hsolo _ op slot hcall hslot⟩) rfl rfl rfl
    cases op with
    | swap r =>
      cases hslot
      rw [← h.pipes]
      exact s.slot_prepare_lt r
    | _ => cases hslot
  | disable =>
    exact h.push rfl (fun slot hslot => by cases hslot) rfl (List.length_modify _ _ _) rfl
  | enable => exact h.push rfl (fun slot hslot => by cases hslot) rfl (List.length_modify _ _ _) rfl
  | reorder => exact h.keep rfl rfl rfl hsame (fun _ => rfl) fun _ => .rfl
  | finish => exact h.pop fun slot hslot => h.held_of_returning (hA.change .pass) hm hm' hslot

end Shelved

/-- At first each slot holds what was there at the start. -/
theorem shelved_new {pipes : List Pipe} {slots : List Framebuffer} (config : Config)
    (hlength : slots.length = pipes.length + 1) :
    Shelved slots (Course.new pipes slots config).scene where
  length := rfl
  pipes := hlength.symm
  brought := fun hw => by cases hw
  apart := List.nodup_nil
  range := fun _ hcall => by cases hcall
  rest := fun slot _ => (List.getD_eq_getElem?_getD).symm
  busy := fun _ hcall => by cases hcall

end Scene

end PageFlip
