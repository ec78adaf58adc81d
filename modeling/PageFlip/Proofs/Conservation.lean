import PageFlip.Proofs.Slots

/-!
# Framebuffers are conserved

If no swap is called for on a slot before the last one on it has returned, and the device brings new
framebuffers only, then every framebuffer is at any time in exactly one place: in a slot, displaced
by a swap that has no outcome or whose handler is running, or given up (`Scene.Conserved`). When
nothing is being carried out no handler is running, and the slots hold what the last successful
swaps brought up (`Course.framebuffers_conserved`).
-/

namespace PageFlip

/-- A swap has displaced the framebuffer and has no outcome yet. -/
def Swap.keeps (fb : Framebuffer) (w : Swap) : Bool :=
  !w.barrier.isFinal && w.barrier.oldFb == fb

/-- The framebuffer was given up. -/
def Happening.givesUp (fb : Framebuffer) : Happening → Bool
  | destroyed _ fb' => fb' == fb
  | _ => false

/-- The swap has displaced the framebuffer. -/
def Screen.displaces (s : Screen) (fb : Framebuffer) (id : SwapId) : Bool :=
  (s.swaps[id]?).any fun w => w.barrier.oldFb == fb

/-- The number of places at which a framebuffer is. -/
def Scene.places (m : Scene) (fb : Framebuffer) : Nat :=
  m.screen.slots.count fb + m.screen.swaps.countP (Swap.keeps fb) +
    m.agenda.reclaims.countP (fun e => m.screen.displaces fb e.1) +
    m.history.countP (Happening.givesUp fb)

variable {conduct : Conduct}

namespace Screen

variable {s : Screen} {id : SwapId} {w : Swap} {b : Barrier} {fb : Framebuffer}

/-- Whether a swap has displaced a framebuffer is kept by its barrier. -/
theorem displaces_eq (hw : s.swaps[id]? = some w) :
    s.displaces fb id = (w.barrier.oldFb == fb) := by
  rw [displaces, hw]
  rfl

/-- A barrier that keeps its framebuffers has displaced the same one. -/
theorem displaces_setBarrier (hw : s.swaps[id]? = some w) (hfbs : b.SameFbs w.barrier) :
    (s.setBarrier id b).displaces fb = s.displaces fb := by
  funext j
  rw [displaces, displaces, getElem?_setBarrier hw]
  split_ifs with hj
  · subst hj
    rw [hw]
    exact congrArg (· == fb) hfbs.2
  · rfl

/-- A barrier is replaced. -/
theorem countP_setBarrier (hw : s.swaps[id]? = some w) (p : Swap → Bool) :
    (s.setBarrier id b).swaps.countP p + (if p w then 1 else 0) =
      s.swaps.countP p + if p { w with barrier := b } then 1 else 0 := by
  obtain ⟨hlt, hget⟩ := List.getElem?_eq_some_iff.1 hw
  have hset : (s.setBarrier id b).swaps = s.swaps.set id { w with barrier := b } := by
    rw [setBarrier, List.modify_eq_set_getElem?, hw]
    rfl
  have hpos : p w = true → 0 < s.swaps.countP p := fun hp =>
    List.countP_pos_iff.2 ⟨w, List.mem_of_getElem? hw, hp⟩
  rw [hset, List.countP_set hlt, hget]
  split_ifs with h1 h2 h2
  · have := hpos h1
    omega
  · have := hpos h1
    omega
  · omega
  · omega

end Screen

namespace Scene

/-- When a client is told an outcome no framebuffer is given up. -/
theorem countP_ofVerdict (fb : Framebuffer) (id : SwapId) (client : Client) (v : Option Verdict) :
    (Happening.ofVerdict id client v).countP (Happening.givesUp fb) = 0 := by
  cases v <;> rfl

/-- A hold on a swap is dropped: with the outcome the displaced framebuffer is owed. -/
theorem places_settle {s s' : Screen} {ls ls' : List Level} {fbs : List Framebuffer}
    {h h' : List Happening} {fb : Framebuffer} {id : SwapId} {client : Client} {w : Swap}
    {b : Barrier} {v : Option Verdict} (hw : s.swaps[id]? = some w)
    (hb : b.SameFbs w.barrier ∧ w.barrier.isFinal = false ∧ b.isFinal = v.isSome)
    (hslots : s'.slots = s.slots) (hswaps : s'.swaps = (s.setBarrier id b).swaps)
    (hreclaims : (agendaOf ls').reclaims = (Agenda.owing id v).reclaims ++ (agendaOf ls).reclaims)
    (hhistory : h'.countP (Happening.givesUp fb) = h.countP (Happening.givesUp fb)) :
    places ⟨s', ls', fbs, Happening.ofVerdict id client v ++ h'⟩ fb =
      places ⟨s, ls, fbs, h⟩ fb := by
  obtain ⟨hfbs, hopen, hfinal⟩ := hb
  have hdisplaces : s'.displaces fb = s.displaces fb := by
    rw [← Screen.displaces_setBarrier hw hfbs]
    funext j
    rw [Screen.displaces, hswaps]
    rfl
  have hcount := Screen.countP_setBarrier (b := b) hw (Swap.keeps fb)
  have hbefore : w.keeps fb = (w.barrier.oldFb == fb) := by
    rw [Swap.keeps, hopen]
    rfl
  have hafter : Swap.keeps fb { w with barrier := b } =
      (!v.isSome && w.barrier.oldFb == fb) := by
    rw [Swap.keeps, hfinal, hfbs.2]
  rw [hbefore, hafter] at hcount
  simp only [places, agenda, hslots, hswaps, hreclaims, hdisplaces, List.countP_append,
    countP_ofVerdict, hhistory]
  -- With the outcome the swap keeps its framebuffer no more, and its handler owes it instead.
  cases v with
  | none =>
    simp only [Option.isSome_none, Bool.not_false, Bool.true_and] at hcount
    simp
    omega
  | some v =>
    simp only [Option.isSome_some, Bool.not_true, Bool.false_and] at hcount
    simp [Screen.displaces_eq hw]
    simp at hcount
    omega

/-- A hold is added to a swap, or a flip of it is accepted. -/
theorem places_use {s s' : Screen} {ls ls' : List Level} {fbs : List Framebuffer}
    {h h' : List Happening} {fb : Framebuffer} {id : SwapId} {w : Swap} {b : Barrier}
    (hw : s.swaps[id]? = some w) (hfbs : b.SameFbs w.barrier)
    (hfinal : b.isFinal = w.barrier.isFinal) (hslots : s'.slots = s.slots)
    (hswaps : s'.swaps = (s.setBarrier id b).swaps)
    (hreclaims : (agendaOf ls').reclaims = (agendaOf ls).reclaims)
    (hhistory : h'.countP (Happening.givesUp fb) = h.countP (Happening.givesUp fb)) :
    places ⟨s', ls', fbs, h'⟩ fb = places ⟨s, ls, fbs, h⟩ fb := by
  have hdisplaces : s'.displaces fb = s.displaces fb := by
    rw [← Screen.displaces_setBarrier hw hfbs]
    funext j
    rw [Screen.displaces, hswaps]
    rfl
  have hcount := Screen.countP_setBarrier (b := b) hw (Swap.keeps fb)
  have hsame : Swap.keeps fb { w with barrier := b } = w.keeps fb := by
    rw [Swap.keeps, Swap.keeps, hfinal, hfbs.2]
  rw [hsame] at hcount
  simp only [places, agenda, hslots, hswaps, hreclaims, hdisplaces, hhistory]
  omega

/-- A framebuffer is put into a slot, and the displaced one is held by its swap. -/
theorem places_launch {s : Screen} {c c' : Call} {p : Preparation} {fb x : Framebuffer}
    {g : Agenda} {e : Ending} {ls : List Level} {fbs : List Framebuffer} {h : List Happening}
    (hA : Accounted s (agendaOf ls)) (hlt : p.slot < s.slots.length)
    (hdisplaced : p.displaced = s.held p.slot) (hg : g.reclaims = []) :
    places ⟨((s.assign p.slot fb).addSwap ⟨.new fb p.displaced, p.slot, p.request.client⟩).2,
        ⟨c', g, e⟩ :: ls, fb :: fbs, h⟩ x =
      places ⟨s, ⟨c, {}, .importing p⟩ :: ls, fbs, h⟩ x + if fb == x then 1 else 0 := by
  have hheld : s.slots[p.slot] = p.displaced := by
    rw [hdisplaced, Screen.held, List.getElem?_eq_getElem hlt]
    rfl
  have hpos : (s.slots[p.slot] == x) = true → 0 < s.slots.count x := fun hx =>
    List.count_pos_iff.2 (beq_iff_eq.1 hx ▸ List.getElem_mem hlt)
  -- The outcomes whose handlers are running are those of earlier swaps.
  have hreclaims : (agendaOf ls).reclaims.countP (fun e =>
      ((s.assign p.slot fb).addSwap ⟨.new fb p.displaced, p.slot, p.request.client⟩).2.displaces x
        e.1) = (agendaOf ls).reclaims.countP fun e => s.displaces x e.1 := by
    refine List.countP_congr fun e he => ?_
    have hold : ((s.assign p.slot fb).addSwap
        ⟨.new fb p.displaced, p.slot, p.request.client⟩).2.swaps[e.1]? = s.swaps[e.1]? :=
      List.getElem?_append_left (hA.reclaims e he)
    rw [Screen.displaces, hold]
    rfl
  -- What leaves the slot is kept by the new swap.
  have hset : (s.slots.set p.slot fb).count x =
      s.slots.count x - (if (s.slots[p.slot] == x) = true then 1 else 0) +
        if (fb == x) = true then 1 else 0 := List.count_set hlt
  have hlevels : ∀ (k : Agenda), k.reclaims = [] →
      (k ++ agendaOf ls).reclaims = (agendaOf ls).reclaims := by
    intro k hk
    rw [Agenda.reclaims_append, hk, List.nil_append]
  simp only [places, agenda, agendaOf, hlevels g hg, hlevels {} rfl, hreclaims]
  simp only [Screen.addSwap, Screen.assign, List.countP_append, hset, List.countP_singleton]
  have hkeeps : Swap.keeps x ⟨.new fb p.displaced, p.slot, p.request.client⟩ =
      (s.slots[p.slot] == x) := by
    rw [hheld]
    rfl
  rw [hkeeps]
  split_ifs with h1 h2 h2
  · have := hpos h1
    omega
  · have := hpos h1
    omega
  · omega
  · omega

/-- A framebuffer is given up. -/
theorem places_reclaim {s : Screen} {c : Call} {g : Agenda} {e : Ending} {ls : List Level}
    {fbs : List Framebuffer} {h : List Happening} {id : SwapId} {v : Verdict} {w : Swap}
    {x held gone : Framebuffer} (hw : s.swaps[id]? = some w) (hx : x ≠ .none)
    (hslots : (s.slots.set w.slot held).count x + (if gone == x then 1 else 0) =
      s.slots.count x + if w.barrier.oldFb == x then 1 else 0) :
    places ⟨s.assign w.slot held, ⟨c, g, e⟩ :: ls, fbs,
        (if gone.isNone then [] else [.destroyed id gone]) ++ h⟩ x =
      places ⟨s, ⟨c, .owing id (some v) ++ g, e⟩ :: ls, fbs, h⟩ x := by
  have hgone : (if gone.isNone then [] else [Happening.destroyed id gone]).countP
      (Happening.givesUp x) = if gone == x then 1 else 0 := by
    split_ifs with hnone hsame hsame
    · rw [Framebuffer.isNone_iff] at hnone
      exact absurd ((beq_iff_eq.1 hsame).symm.trans hnone) hx
    · rfl
    · exact List.countP_singleton.trans (if_pos hsame)
    · exact List.countP_singleton.trans (if_neg hsame)
  have hdisplaces : (s.assign w.slot held).displaces x = s.displaces x := rfl
  simp only [places, agenda, agendaOf, List.countP_append, hgone, hdisplaces,
    Agenda.reclaims_append, Agenda.owing, Option.toList_some, List.map_cons, List.map_nil,
    List.countP_cons, List.countP_nil, Screen.displaces_eq hw]
  simp only [Screen.assign]
  omega

/-- Each framebuffer is in as many places as it was brought up, which is once. -/
structure Conserved (m : Scene) : Prop where
  places : ∀ fb, fb ≠ .none → m.places fb = m.framebuffers.count fb
  nodup : (m.framebuffers.filter fun fb => !fb.isNone).Nodup

namespace Conserved

variable {slots : List Framebuffer} {m m' : Scene}

/-- Every deed keeps every framebuffer in one place. -/
theorem deed (h : m.Conserved) (hslots : Shelved slots m) (hfresh : conduct.Fresh)
    (hA : Accounted m.screen m.agenda) (hm : m.Faithful) (hd : Deed conduct m m') :
    m'.Conserved := by
  have hsame (hplaces : ∀ x, x ≠ .none → m'.places x = m.places x)
      (hfbs : m'.framebuffers = m.framebuffers) : m'.Conserved :=
    ⟨fun x hx => by rw [hplaces x hx, h.places x hx, hfbs], hfbs ▸ h.nodup⟩
  cases hd with
  | register hfb halloc hw hb =>
    exact hsame (fun x _ => places_use hw (Barrier.sameFbs_of_hold hb).1
      (Barrier.sameFbs_of_hold hb).2 rfl rfl rfl rfl) rfl
  | dispatch hr hw hlate hb =>
    refine hsame (fun x _ => places_settle hw (Barrier.sameFbs_of_resolve hb) rfl rfl ?_ rfl) rfl
    exact List.append_assoc _ _ _
  | abort hw hb =>
    refine hsame (fun x _ => places_settle hw (Barrier.sameFbs_of_resolve hb) rfl rfl ?_ rfl) rfl
    exact List.append_assoc _ _ _
  | giveUp he hr hw hb =>
    refine hsame (fun x _ => places_settle hw (Barrier.sameFbs_of_resolve hb) rfl rfl ?_ rfl) rfl
    exact List.append_assoc _ _ _
  | release hw hb =>
    exact hsame (fun x _ => places_settle hw (Barrier.sameFbs_of_release hb) rfl rfl rfl rfl) rfl
  | @reclaim s c id v g e w ls fbs hist hw =>
    refine hsame (fun x hx => places_reclaim hw hx ?_) rfl
    rcases hslots.of_owing hm hw with ⟨-, hreclaim⟩ | ⟨-, -, -, hlt, hheld, -, hreclaim⟩
    · -- The slots are left alone, and the displaced framebuffer is given up.
      rw [hreclaim]
      exact congrArg (fun s' => List.count x s'.slots + _) (s.assign_held w.slot)
    · -- The displaced framebuffer takes the place of the swap's own.
      have hget : s.slots[w.slot] = w.barrier.newFb := by
        rw [← hheld, Screen.held, List.getElem?_eq_getElem hlt]
        rfl
      have hpos : (w.barrier.newFb == x) = true → 0 < s.slots.count x := fun hx =>
        List.count_pos_iff.2 (beq_iff_eq.1 hx ▸ hget ▸ List.getElem_mem hlt)
      rw [hreclaim, List.count_set hlt, hget]
      split_ifs with h1 h2 h2
      · have := hpos h1
        omega
      · have := hpos h1
        omega
      · omega
      · omega
  | @launch s c p fb ls fbs hist hfb =>
    -- What was in the slot is displaced, and the new framebuffer takes its place.
    obtain ⟨-, -, hlt, hdisplaced⟩ := hslots.of_importing hm
    obtain ⟨hsome, hnew⟩ := hfresh _ fb hfb
    refine ⟨fun x hx => ?_, ?_⟩
    · have hA : Accounted s (agendaOf ls) := hA
      rw [places_launch hA hlt hdisplaced rfl, h.places x hx]
      exact List.count_cons.symm
    · dsimp only
      rw [List.filter_cons_of_pos, List.nodup_cons]
      · exact ⟨fun hmem => hnew (List.mem_of_mem_filter hmem), h.nodup⟩
      · exact (Bool.not_eq_true' _).mpr (Framebuffer.isNone_eq_false_iff.2 hsome)
  | accept hw =>
    exact hsame (fun x _ => places_use hw (Barrier.sameFbs_markSubmitted _).1
      (Barrier.sameFbs_markSubmitted _).2 rfl rfl rfl rfl) rfl
  | _ => exact hsame (fun x _ => rfl) rfl

end Conserved

end Scene

namespace Conduct

/-- No swap is called for on a slot before the last one on it has returned, the device imports
buffers as framebuffers that were not there before, and the channel only reports flips that it has
accepted. -/
def solo : Conduct where
  calls := fun m op => m.levels.all fun l =>
    (op.slot? m.screen).isNone || l.call.slot? != op.slot? m.screen
  imports := fun m fb => !fb.isNone && !m.framebuffers.contains fb
  reads := honest.reads

/-- With this conduct swaps on one slot are called for one after the other. -/
theorem solo_solo : solo.Solo := by
  intro m op slot hcalls hslot l hl hsame
  have hl := List.all_eq_true.1 hcalls l hl
  simp [hslot, hsame] at hl

/-- With this conduct the device brings new framebuffers only. -/
theorem fresh_solo : solo.Fresh := by
  intro m fb himports
  obtain ⟨hsome, hnew⟩ := (Bool.and_eq_true _ _).mp himports
  refine ⟨Framebuffer.isNone_eq_false_iff.1 ?_, by simpa using hnew⟩
  exact (Bool.not_eq_true' _).mp hsome

end Conduct

namespace Course

variable {pipes : List Pipe} {slots : List Framebuffer} {config : Config} {c : Course}
  {acts : List Act}

/-- If no swap is called for on a slot before the last one on it has returned, then whenever nothing
is being carried out each framebuffer is in one slot, displaced by one swap that has no outcome, or
given up once, and each slot holds what the last successful swap on it brought up. -/
theorem framebuffers_conserved (hlength : slots.length = pipes.length + 1)
    (hslots : (slots.filter fun fb => !fb.isNone).Nodup)
    (hplay : (new pipes slots config).play .solo acts = some c)
    (hapart : acts.length + 2 < UInt32.size ∨
      (new pipes slots config).play Conduct.solo.apart acts = some c)
    (hidle : c.isIdle = true) :
    (∀ fb ∈ c.framebuffers, fb ≠ .none →
      c.session.screen.slots.count fb + c.session.screen.swaps.countP (Swap.keeps fb) +
        c.history.countP (Happening.givesUp fb) = 1) ∧
    ∀ slot, c.session.screen.held slot = showing slots slot c.history := by
  have htruthful : (new pipes slots config).play Conduct.solo.apart acts = some c :=
    hapart.elim (fun hlength => play_apart Conduct.tellsAccepted_honest hlength hplay) id
  obtain ⟨hwaits, hunbroken⟩ := (Bool.and_eq_true _ _).mp hidle
  -- Nothing is carried out, so no handler is running.
  have hlevels : c.scene.levels = [] := by
    simp [scene, List.isEmpty_iff.1 hwaits]
  have hsolo : Conduct.solo.apart.Solo := Conduct.solo_solo
  have hfresh : Conduct.solo.apart.Fresh := Conduct.fresh_solo
  have hnew : (new pipes slots config).scene.Conserved := ⟨fun fb _ => rfl, hslots⟩
  obtain ⟨-, -, hshelved, hconserved⟩ := keeps
    (I := fun m => m.Faithful ∧ Scene.Shelved slots m ∧ m.Conserved)
    (fun m m' hA h hd => by
      have hfaithful := h.1.deed (Conduct.truthful_apart _) hA hd
      exact ⟨hfaithful, h.2.1.deed hsolo hfresh hA h.1 hfaithful hd,
        h.2.2.deed h.2.1 hfresh hA h.1 hd⟩)
    (sound_new _ _ _)
    ⟨Scene.faithful_new _ _ _, Scene.shelved_new config hlength, hnew⟩
    htruthful (Option.isNone_iff_eq_none.1 hunbroken)
  refine ⟨fun fb hfb hsome => ?_, fun slot => ?_⟩
  · -- A framebuffer is in as many places as it was brought up.
    have hcount : c.framebuffers.count fb = 1 := by
      have hkept : (!fb.isNone) = true :=
        (Bool.not_eq_true' _).mpr (Framebuffer.isNone_eq_false_iff.2 hsome)
      rw [← List.count_filter (p := fun fb => !fb.isNone) hkept]
      exact hconserved.nodup.count.trans (if_pos (List.mem_filter.2 ⟨hfb, hkept⟩))
    have hplaces := hconserved.places fb hsome
    simp only [Scene.places, Scene.agenda, hlevels, Scene.agendaOf, List.countP_nil,
      Nat.add_zero] at hplaces
    exact hplaces.trans hcount
  · refine hshelved.rest slot fun call hcall => ?_
    rw [Scene.calls, hlevels] at hcall
    cases hcall

open Sample in
/-- A swap succeeds, another one is rejected, and when the first one completes its handler starts a
third one. -/
def threeSwaps : List Act :=
  [swap 0, brings 100, accepts, swap 1, brings 101, rejects, returns, destroys, .call .drain,
    reads first, swap 2, brings 102, accepts, returns, destroys].filterMap Move.act?

/-- The third framebuffer is in the slot, the first one is displaced, and the others were given
up. -/
theorem threeSwaps_conserves :
    ∃ c, (new Sample.pipe [⟨7⟩, .none] .default).play .solo threeSwaps = some c ∧
      [(⟨7⟩ : Framebuffer), .none].length = Sample.pipe.length + 1 ∧
      ([(⟨7⟩ : Framebuffer), .none].filter fun fb => !fb.isNone).Nodup ∧
      threeSwaps.length + 2 < UInt32.size ∧ c.isIdle = true ∧
      (∀ fb ∈ [⟨7⟩, ⟨100⟩, ⟨101⟩, ⟨102⟩], c.session.screen.slots.count fb +
        c.session.screen.swaps.countP (Swap.keeps fb) +
        c.history.countP (Happening.givesUp fb) = 1) ∧
      c.session.screen.held 0 = showing [⟨7⟩, .none] 0 c.history ∧
      c.session.screen.held 0 = ⟨102⟩ := by
  have hslots : ([(⟨7⟩ : Framebuffer), .none].filter fun fb => !fb.isNone).Nodup := by decide
  have hlength : threeSwaps.length + 2 < UInt32.size := by decide
  have hconserved {c : Course}
      (hplay : (new Sample.pipe [⟨7⟩, .none] .default).play .solo threeSwaps = some c)
      (hidle : c.isIdle = true) := framebuffers_conserved rfl hslots hplay (.inl hlength) hidle
  refine ⟨_, rfl, rfl, hslots, hlength, rfl, fun fb hfb => ?_, ?_, rfl⟩
  · refine (hconserved rfl rfl).1 fb ?_ ?_
    · revert fb hfb
      decide
    · revert fb hfb
      decide
  · exact (hconserved rfl rfl).2 0

end Course

end PageFlip
