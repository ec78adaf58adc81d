import PageFlip.Proofs.Continues
import PageFlip.Proofs.Hiding
import PageFlip.Proofs.Slots

/-!
# Two runs side by side

`Beside own w hidden s u` compares a screen `s` in the middle of a swap with a screen `u` on which
the swap was never called for. The swap `w`, with the place `own`, comes last on `s`; its
framebuffer is in its slot, and the flip that it is queueing has the hidden token. In all else, but
for the number at which the search for tokens starts, the screens are the same.

The two screens stay side by side while they carry out tasks that are alike (`Alike`): the same
reports are dispatched and the same handlers run. Only an event of the swap, aborted by a handler
that disables its pipe, is a matter of the first screen alone (`Beside.abort_own`). So the tasks
rest in the same handler, or both come to what follows on them (`Meets`, `Beside.meets`).
-/

namespace PageFlip

/-! ## Runs -/

namespace Screen

variable {s s' s'' u : Screen} {t t' t'' : Task} {r : Rest} {h h' : List Happening}

/-- Where a run of tasks comes to rest, and what happens on the way. -/
def Runs (s : Screen) (t : Task) (s' : Screen) (r : Rest) (h : List Happening) : Prop :=
  (s.run t).screen = s' ∧ (s.run t).next = r ∧ s.trace t = h

/-- A run of tasks comes by another task, and what happens on the way. -/
def Leads (s : Screen) (t : Task) (s' : Screen) (t' : Task) (h : List Happening) : Prop :=
  ∀ s'' r h', s'.Runs t' s'' r h' → s.Runs t s'' r (h' ++ h)

/-- Without a step nothing happens. -/
theorem Leads.refl (s : Screen) (t : Task) : s.Leads t s t [] := by
  intro s'' r h' hruns
  rwa [List.append_nil]

/-- One part of a run follows on another. -/
theorem Leads.trans (hfirst : s.Leads t s' t' h) (hthen : s'.Leads t' s'' t'' h') :
    s.Leads t s'' t'' (h' ++ h) := by
  intro s₃ r h'' hruns
  rw [← List.append_assoc]
  exact hfirst _ _ _ (hthen _ _ _ hruns)

/-- A step leads to the next task. -/
theorem leads_of_step (hnext : (s.step t).next = .inl t') :
    s.Leads t (s.step t).screen t' (s.happens t) := by
  rintro s'' r h' ⟨hscreen, hrest, htrace⟩
  refine ⟨?_, ?_, ?_⟩
  · rw [run_eq, proceed, hnext]
    exact hscreen
  · rw [run_eq, proceed, hnext]
    exact hrest
  · rw [trace_eq, hnext, ← htrace]

/-- A step that rests is where the run comes to rest. -/
theorem runs_of_step (hnext : (s.step t).next = .inr r) :
    s.Runs t (s.step t).screen r (s.happens t) := by
  refine ⟨?_, ?_, ?_⟩
  · rw [run_eq, proceed, hnext]
  · rw [run_eq, proceed, hnext]
  · rw [trace_eq, hnext]
    rfl

end Screen

/-- What is left to do is accounted for after a step that leads to another task. -/
theorem Accounted.of_step {s : Screen} {t t' : Task} {k : Agenda} (hA : Accounted s (t.agenda ++ k))
    (ht : t.Keeps) (hnext : (s.step t).next = .inl t') :
    Accounted (s.step t).screen (t'.agenda ++ k) ∧ t'.Keeps := by
  cases Screen.step_stepped hA ht with
  | next hp hkeeps hc =>
    cases hp.symm.trans hnext
    exact ⟨hA.change hc, hkeeps⟩
  | rest hp => cases hp.symm.trans hnext
  | stray _ _ hp => cases hp.symm.trans hnext

/-! ## Swaps without success -/

namespace Swap

/-- The swap with so many holds on it, while none of its flips has been accepted or completed. -/
def holding (w : Swap) (n : Nat) : Swap :=
  { w with barrier := { w.barrier with tally := some { Tally.start with holds := n } } }

/-- The swap once it has its outcome. -/
def settled (w : Swap) : Swap := { w with barrier := { w.barrier with tally := none } }

/-- A swap that has no outcome has an accepted flip. -/
def Effective (w : Swap) : Prop := ∀ t, w.barrier.tally = some t → t.submitted = true

end Swap

namespace Barrier

variable {b c : Barrier} {reference : Bool} {stamp : Option Stamp} {v : Option Verdict}

/-- The flips of a swap that has an accepted flip are resolved: it took effect. -/
theorem effective_of_resolve (hb : ∀ t, b.tally = some t → t.submitted = true)
    (hc : b.resolve reference stamp = .ok (c, v)) :
    (∀ t, c.tally = some t → t.submitted = true) ∧ ∀ x ∈ v, x.tookEffect = true := by
  obtain ⟨t, ht, hdrop⟩ := of_resolve_eq_ok hc
  have hsubmitted : (t.record reference stamp).submitted = true :=
    (t.submitted_record reference stamp).trans (hb t ht)
  rcases of_drop_eq hdrop with ⟨-, rfl, rfl⟩ | ⟨-, rfl, rfl⟩
  · refine ⟨nofun, fun x hx => ?_⟩
    cases hx
    exact (Bool.or_eq_true _ _).mpr (.inr hsubmitted)
  · refine ⟨fun t' ht' => ?_, nofun⟩
    cases ht'
    exact hsubmitted

end Barrier

/-! ## Screens side by side -/

namespace Screen

variable {s : Screen} {swaps : List Swap} {w : Swap} {id : SwapId}

/-- With the barrier of another swap the last one stays as it is. -/
theorem swaps_setBarrier_of_lt (hswaps : s.swaps = swaps ++ [w]) (hid : id < swaps.length)
    (b : Barrier) :
    (s.setBarrier id b).swaps = swaps.modify id (fun w => { w with barrier := b }) ++ [w] := by
  refine List.ext_getElem? fun j => ?_
  simp only [setBarrier, hswaps, List.getElem?_modify, List.getElem?_append, List.length_modify]
  by_cases hj : j < swaps.length
  · rw [if_pos hj, if_pos hj]
  · -- From the last swap on nothing is modified.
    simp [if_neg hj, Nat.ne_of_lt (Nat.lt_of_lt_of_le hid (Nat.le_of_not_lt hj))]

/-- With the barrier of the last swap the others stay as they are. -/
theorem swaps_setBarrier_last (hswaps : s.swaps = swaps ++ [w]) (b : Barrier) :
    (s.setBarrier swaps.length b).swaps = swaps ++ [{ w with barrier := b }] := by
  refine List.ext_getElem? fun j => ?_
  simp only [setBarrier, hswaps, List.getElem?_modify, List.getElem?_append]
  rcases Nat.lt_trichotomy j swaps.length with hj | rfl | hj
  · simp [hj, Nat.ne_of_gt hj]
  · simp
  · have hbeyond : ∀ x : Swap, [x][j - swaps.length]? = none := fun x =>
      List.getElem?_eq_none (Nat.sub_pos_of_lt hj)
    simp [hbeyond, Nat.ne_of_lt hj]

end Screen

/-- The screen `s` is in the middle of the swap `w` with the place `own`, whose flip that is being
queued has the hidden token. The screen `u` is the same without this swap. -/
structure Beside (own : SwapId) (w : Swap) (hidden : Option Token) (s u : Screen) : Prop where
  pipes : s.pipes = u.pipes
  config : s.config = u.config
  slots : s.slots = u.slots.set w.slot w.barrier.newFb
  displaced : u.held w.slot = w.barrier.oldFb
  length : u.swaps.length = own
  swaps : s.swaps = u.swaps ++ [w]
  registry : s.registry.Without hidden u.registry
  own : ∀ t p, s.registry.pending.find? t = some p → (p.event.isOf own = true ↔ hidden = some t)
  apart : ∀ t, hidden = some t → s.registry.pending.find? t = none ∨
    s.registry.retired.find? t = none
  effective : ∀ x ∈ u.swaps, x.Effective

namespace Beside

variable {own : SwapId} {w w' x : Swap} {hidden : Option Token} {s u : Screen} {id : SwapId}
  {b : Barrier}

/-- The swap has its place on the first screen. -/
theorem getElem?_own (h : Beside own w hidden s u) : s.swaps[own]? = some w := by
  rw [h.swaps, ← h.length, List.getElem?_concat_length]

/-- The other swaps are the same on both screens. -/
theorem getElem?_of_ne (h : Beside own w hidden s u) (hid : id ≠ own) :
    s.swaps[id]? = u.swaps[id]? := by
  rw [h.swaps]
  rcases Nat.lt_or_gt_of_ne hid with hlt | hgt
  · exact List.getElem?_append_left (by rw [h.length]; exact hlt)
  · rw [List.getElem?_eq_none, List.getElem?_eq_none]
    · rw [h.length]
      exact Nat.le_of_lt hgt
    · rw [List.length_append, h.length]
      exact hgt

/-- Each swap that both screens have and that has no outcome has an accepted flip. -/
theorem effective_of_getElem? (h : Beside own w hidden s u) (hx : u.swaps[id]? = some x) :
    x.Effective := h.effective x (List.mem_of_getElem? hx)

/-- No token is new to either registry. -/
theorem setRegistry {r r' : Registry Event} (h : Beside own w hidden s u)
    (hr : r.Without hidden r')
    (hpending : ∀ t p, r.pending.find? t = some p → s.registry.pending.find? t = some p)
    (hapart : ∀ t, hidden = some t → r.pending.find? t = none ∨ r.retired.find? t = none) :
    Beside own w hidden (s.setRegistry r) (u.setRegistry r') :=
  { h with
    registry := hr
    own := fun t p hp => h.own t p (hpending t p hp)
    apart := hapart }

/-- The barrier of another swap is used. -/
theorem setBarrier (h : Beside own w hidden s u) (hx : u.swaps[id]? = some x)
    (hb : ∀ t, b.tally = some t → t.submitted = true) :
    Beside own w hidden (s.setBarrier id b) (u.setBarrier id b) :=
  { h with
    length := (Screen.length_setBarrier u id b).trans h.length
    swaps := Screen.swaps_setBarrier_of_lt h.swaps (Accounted.lt_length hx) b
    effective := by
      intro y hy
      obtain ⟨j, hj⟩ := List.getElem?_of_mem hy
      rw [Screen.getElem?_setBarrier hx] at hj
      split_ifs at hj
      · cases hj
        exact hb
      · exact h.effective y (List.mem_of_getElem? hj) }

/-- The barrier of the swap itself is used. -/
theorem setOwn (h : Beside own w hidden s u) (w' : Swap) (hslot : w'.slot = w.slot)
    (hnew : w'.barrier.newFb = w.barrier.newFb) (hold : w'.barrier.oldFb = w.barrier.oldFb)
    (hw' : { w with barrier := w'.barrier } = w') :
    Beside own w' hidden (s.setBarrier own w'.barrier) u :=
  { h with
    slots := by
      rw [hslot, hnew]
      exact h.slots
    displaced := by
      rw [hslot, hold]
      exact h.displaced
    swaps := by
      rw [← h.length, Screen.swaps_setBarrier_last h.swaps, hw'] }

/-- A pipe is enabled or disabled. -/
theorem setEnabled (h : Beside own w hidden s u) (i : Nat) (enabled : Bool) :
    Beside own w hidden (s.setEnabled i enabled) (u.setEnabled i enabled) :=
  { h with pipes := congrArg (List.modify · i _) h.pipes }

/-- The tokens of a controller are retired, and their events are handed out: on the first screen
perhaps also that of the swap itself. -/
theorem retirePipe (h : Beside own w hidden s u) (crtc : Crtc) :
    Beside own w hidden (s.setRegistry (s.registry.retirePipe crtc).2)
        (u.setRegistry (u.registry.retirePipe crtc).2) ∧
      (u.registry.retirePipe crtc).1 =
        (s.registry.retirePipe crtc).1.filter fun e => !e.isOf own := by
  refine ⟨h.setRegistry (h.registry.retirePipe crtc) (fun t p hp => ?_)
    (fun t ht => Registry.apart_retirePipe (h.apart t ht) crtc), ?_⟩
  · exact (Registry.pending_retirePipe_iff.1 hp).1
  · refine h.registry.events_retirePipe crtc fun t p hp => ?_
    rw [Bool.not_eq_true', ← Bool.not_eq_true]
    exact not_congr (h.own t p hp)

/-- The pending tokens come to be in another order: on both screens in the same one, but for that of
the swap itself. -/
theorem reorder (h : Beside own w hidden s u) {table : Table Token (Pending Event)}
    (htable : table.entries.Perm s.registry.pending.entries) :
    (table.keep fun _ p => !p.event.isOf own).entries.Perm u.registry.pending.entries ∧
      Beside own w hidden (s.setRegistry (s.registry.reorder table))
        (u.setRegistry (u.registry.reorder (table.keep fun _ p => !p.event.isOf own))) := by
  have hfind := Registry.find?_reorder htable
  obtain ⟨hperm, hwithout⟩ := h.registry.reorder htable (p := fun e => !e.isOf own)
    fun t p hp => by
      rw [Bool.not_eq_true', ← Bool.not_eq_true]
      exact not_congr (h.own t p hp)
  exact ⟨hperm, h.setRegistry hwithout (fun t p hp => (hfind t).symm.trans hp)
    fun t ht => (hfind t).symm ▸ h.apart t ht⟩

end Beside

/-! ## Tasks that are alike -/

/-- Two tasks that dispatch the same reports, abort the same events but those of one swap and give
up the same framebuffers, until they come to different ends. -/
inductive Task.Alike (own : SwapId) (hidden : Option Token) (ends : Task → Task → Prop) :
    Task → Task → Prop
  | ends {t t' : Task} (h : ends t t') : Alike own hidden ends t t'
  | dispatch {reports : List Report} {next next' : Task}
      (hreports : ∀ r ∈ reports, hidden ≠ some r.token) (h : Alike own hidden ends next next') :
      Alike own hidden ends (.dispatch reports next) (.dispatch reports next')
  | abort {events : List Event} {next next' : Task} (h : Alike own hidden ends next next') :
      Alike own hidden ends (.abort events next)
        (.abort (events.filter fun e => !e.isOf own) next')
  | reclaim {id : SwapId} {v : Verdict} {next next' : Task} (hv : v.tookEffect = true)
      (hid : id ≠ own) (h : Alike own hidden ends next next') :
      Alike own hidden ends (.reclaim id v next) (.reclaim id v next')

/-- Two operations that wait for the same and go on with tasks that are alike. -/
inductive Wait.Alike (own : SwapId) (hidden : Option Token) (ends : Task → Task → Prop) :
    Wait → Wait → Prop
  | telling {news : News} {next next' : Task} (h : Task.Alike own hidden ends next next') :
      Alike own hidden ends (.telling news next) (.telling news next')
  | destroying {fb : Framebuffer} {next next' : Task} (h : Task.Alike own hidden ends next next') :
      Alike own hidden ends (.destroying fb next) (.destroying fb next')

/-- Two runs come to the same wait, or to the ends of their tasks, and the same happens on the way;
or a rule is broken. `k` is what is left to do below. -/
inductive Meets (own : SwapId) (w : Swap) (hidden : Option Token) (ends : Task → Task → Prop)
    (k : Agenda) (s u : Screen) (t t' : Task) : Prop
  | wait {n : Nat} {x x' : Wait} {s' u' : Screen} {h : List Happening}
      (hs : s.Runs t s' (.waiting x) h) (hu : u.Runs t' u' (.waiting x') h)
      (hb : Beside own (w.holding n) hidden s' u') (hx : Wait.Alike own hidden ends x x')
  | ends {n : Nat} {e e' : Task} {s' u' : Screen} {h : List Happening} (hs : s.Leads t s' e h)
      (hu : u.Leads t' u' e' h) (hb : Beside own (w.holding n) hidden s' u')
      (hA : Accounted s' (e.agenda ++ k)) (he : ends e e')
  | violated {v : Violation} {s' : Screen} {h : List Happening} (hs : s.Runs t s' (.violated v) h)

/-- Two steps go on with the next tasks, or rest in the same handler; or a rule is broken. -/
inductive Together (own : SwapId) (w : Swap) (hidden : Option Token) (next next' : Task)
    (p p' : Progress Follow) : Prop
  | work {n : Nat} (hp : p.next = .inl next) (hp' : p'.next = .inl next')
      (hb : Beside own (w.holding n) hidden p.screen p'.screen)
  | tell {n : Nat} {news : News} {id : SwapId} {v : Verdict}
      (hp : p.next = .inr (.waiting (.telling news (.reclaim id v next))))
      (hp' : p'.next = .inr (.waiting (.telling news (.reclaim id v next'))))
      (hv : v.tookEffect = true) (hid : id ≠ own)
      (hb : Beside own (w.holding n) hidden p.screen p'.screen)
  | violated {v : Violation} (hp : p.next = .inr (.violated v))

namespace Swap

variable {w : Swap} {n : Nat}

/-- A hold more on the swap is one that is counted. -/
theorem hold_holding : (w.holding n).barrier.hold = .ok (w.holding (n + 1)).barrier := rfl

/-- A flip is aborted that is not the last hold. -/
theorem resolve_holding (hn : 2 ≤ n) (reference : Bool) :
    (w.holding n).barrier.resolve reference none = .ok ((w.holding (n - 1)).barrier, none) :=
  congrArg Except.ok (if_neg (Nat.not_le_of_lt hn))

/-- With the submitter's hold as the last one, the swap is aborted. -/
theorem release_holding :
    (w.holding 1).barrier.release = .ok (w.settled.barrier, some ⟨none, false⟩) := rfl

end Swap

section Meets

variable {own : SwapId} {w : Swap} {hidden : Option Token} {ends : Task → Task → Prop}
  {k : Agenda} {s s' u u' : Screen} {t t' next next' : Task} {h : List Happening} {n : Nat}

/-- Two runs meet if they do so from the tasks that they come by. -/
theorem Meets.of_leads (hs : s.Leads t s' next h) (hu : u.Leads t' u' next' h)
    (hmeets : Meets own w hidden ends k s' u' next next') :
    Meets own w hidden ends k s u t t' := by
  cases hmeets with
  | wait hs' hu' hb hx => exact .wait (hs _ _ _ hs') (hu _ _ _ hu') hb hx
  | ends hs' hu' hb hA he => exact .ends (hs.trans hs') (hu.trans hu') hb hA he
  | violated hs' => exact .violated (hs _ _ _ hs')

/-- Two runs meet if their first steps stay together and the next tasks meet. -/
theorem Meets.of_together (htogether : Together own w hidden next next' (s.step t) (u.step t'))
    (hhappens : (s.step t).next.tells = (u.step t').next.tells → s.happens t = u.happens t')
    (halike : Task.Alike own hidden ends next next')
    (hwork : ∀ n, (s.step t).next = .inl next →
      Beside own (w.holding n) hidden (s.step t).screen (u.step t').screen →
      Meets own w hidden ends k (s.step t).screen (u.step t').screen next next') :
    Meets own w hidden ends k s u t t' := by
  cases htogether with
  | @work n hp hp' hb =>
    have hsame := hhappens (by rw [hp, hp']; rfl)
    exact .of_leads (Screen.leads_of_step hp) (hsame ▸ Screen.leads_of_step hp') (hwork n hp hb)
  | tell hp hp' hv hid hb =>
    have hsame := hhappens (by rw [hp, hp']; rfl)
    exact .wait (Screen.runs_of_step hp) (hsame ▸ Screen.runs_of_step hp') hb
      (.telling (.reclaim hv hid halike))
  | violated hp => exact .violated (Screen.runs_of_step hp)

end Meets

namespace Beside

variable {own : SwapId} {w : Swap} {hidden : Option Token} {ends : Task → Task → Prop}
  {k g : Agenda} {s u : Screen} {t t' next next' : Task} {n : Nat} {id : SwapId} {v : Verdict}

/-- A flip of another swap is resolved. -/
theorem settleFlip (h : Beside own (w.holding n) hidden s u) {f : Flip} (hf : f.swap ≠ own)
    (stamp : Option Stamp) (next next' : Task) :
    Together own w hidden next next' (s.settleFlip f stamp next) (u.settleFlip f stamp next') := by
  unfold Screen.settleFlip
  rw [h.getElem?_of_ne hf]
  cases hx : u.swaps[f.swap]? with
  | none => exact .work rfl rfl h
  | some x =>
    dsimp only
    cases hb : x.barrier.resolve f.reference stamp with
    | error v => exact .violated rfl
    | ok bv =>
      obtain ⟨b, v⟩ := bv
      obtain ⟨hsubmitted, htook⟩ := Barrier.effective_of_resolve (h.effective_of_getElem? hx) hb
      cases v with
      | none => exact .work rfl rfl (h.setBarrier hx hsubmitted)
      | some v => exact .tell rfl rfl (htook v rfl) hf (h.setBarrier hx hsubmitted)

/-- A report on another token is dispatched. -/
theorem dispatch (h : Beside own (w.holding n) hidden s u) (hA : Accounted s g) {report : Report}
    (hr : hidden ≠ some report.token) (next next' : Task) :
    Together own w hidden next next' (s.dispatch report next) (u.dispatch report next') := by
  have hne : ∀ t, hidden = some t → t ≠ report.token := fun t ht heq => hr (heq ▸ ht)
  unfold Screen.dispatch
  rcases h.registry.forget? hr with ⟨hs, hu⟩ | ⟨r, r', hs, hu, hwithout⟩
  · rw [hs, hu]
    dsimp only [Screen.resolve, Registry.resolve]
    rw [h.registry.find?_pending hr]
    cases hp : s.registry.pending.find? report.token with
    | none => exact .violated rfl
    | some p =>
      -- The event under the token is one of another swap.
      obtain ⟨f, hf, -⟩ := hA.events p.event
        (List.mem_append_left _ (Registry.mem_events_iff.2 ⟨_, p, hp, rfl⟩))
      have hother : f.swap ≠ own := by
        intro hown
        refine hr ((h.own _ _ hp).1 ?_)
        rw [hf, Event.isOf_flip, hown, beq_self_eq_true]
      obtain ⟨crtc, event⟩ := p
      obtain rfl : event = .flip f := hf
      refine settleFlip (h.setRegistry (h.registry.erase_pending _) ?_ ?_) hother _ _ _
      · intro t q hq
        rw [Table.find?_erase] at hq
        split_ifs at hq
        exact hq
      · intro t ht
        rw [Table.find?_erase, if_neg (hne t ht)]
        exact h.apart t ht
  · rw [hs, hu]
    refine .work rfl rfl (h.setRegistry hwithout ?_ ?_)
    · rw [Registry.of_forget?_eq_some hs]
      exact fun _ _ hp => hp
    · intro t ht
      rw [Registry.of_forget?_eq_some hs, Table.find?_erase, if_neg (hne t ht)]
      exact h.apart t ht

/-- A report on another token resolves the same flip on both screens. -/
theorem resolves_eq (h : Beside own w hidden s u) {report : Report} {rest : List Report}
    (hr : hidden ≠ some report.token) :
    s.resolves (.dispatch (report :: rest) next) =
      u.resolves (.dispatch (report :: rest) next') := by
  simp only [Screen.resolves, h.registry.find?_pending hr]
  rcases h.registry.forget? hr with ⟨hs, hu⟩ | ⟨r, r', hs, hu, -⟩
  · rw [hs, hu]
  · rw [hs, hu]

/-- An event of the swap itself is aborted: its submitter still has its hold, so this is not the
last one. -/
theorem abort_own (h : Beside own (w.holding n) hidden s u) {f : Flip} (hf : f.swap = own)
    {events : List Event}
    (hA : Accounted s ((Task.abort (.flip f :: events) next).agenda ++ k))
    (hown : own ∈ (next.agenda ++ k).unreleased) :
    (s.step (.abort (.flip f :: events) next)).next = .inl (.abort events next) ∧
      s.happens (.abort (.flip f :: events) next) = [] ∧
      Beside own (w.holding (n - 1)) hidden (s.step (.abort (.flip f :: events) next)).screen
        u := by
  subst hf
  have hA' : Accounted s (.aborting [.flip f] ++ ((Task.abort events next).agenda ++ k)) := hA
  obtain ⟨w', hw', hcounts⟩ := hA'.of_aborting
  obtain rfl := Option.some.inj (h.getElem?_own.symm.trans hw')
  have hlocal : 0 < ((Task.abort events next).agenda ++ k).localHolds f.swap :=
    List.count_pos_iff.2 hown
  have hn : 2 ≤ n := by
    have hholds : n = _ := hcounts.1
    omega
  have hstep : s.step (.abort (.flip f :: events) next) =
      (s.setBarrier f.swap (w.holding (n - 1)).barrier).work [] (.abort events next) := by
    show s.settleFlip f none _ = _
    rw [Screen.settleFlip_eq h.getElem?_own, Swap.resolve_holding hn]
    rfl
  rw [Screen.happens_eq (t := .abort _ _) trivial, hstep]
  exact ⟨rfl, rfl, h.setOwn (w.holding (n - 1)) rfl rfl rfl rfl⟩

/-- What follows on the same reports. -/
theorem meets_dispatch (halike : Task.Alike own hidden ends next next')
    (ih : ∀ {n : Nat} {s u : Screen}, Beside own (w.holding n) hidden s u →
      Accounted s (next.agenda ++ k) → Meets own w hidden ends k s u next next')
    (ht : next.Keeps) :
    ∀ {reports : List Report} {n : Nat} {s u : Screen}, (∀ r ∈ reports, hidden ≠ some r.token) →
      Beside own (w.holding n) hidden s u →
      Accounted s ((Task.dispatch reports next).agenda ++ k) →
      Meets own w hidden ends k s u (.dispatch reports next) (.dispatch reports next')
  | [], n, s, u, _, h, hA =>
    .of_leads (Screen.leads_of_step rfl) (Screen.leads_of_step rfl) (ih h hA)
  | report :: rest, n, s, u, hreports, h, hA => by
    rw [List.forall_mem_cons] at hreports
    refine .of_together (h.dispatch hA hreports.1 _ _) (fun htells => ?_)
      (.dispatch hreports.2 halike) fun m hnext hb => ?_
    · rw [Screen.happens, Screen.happens, htells, h.resolves_eq hreports.1]
      rfl
    · exact meets_dispatch halike ih ht hreports.2 hb (hA.of_step ht hnext).1

/-- What follows on the same events, and perhaps some of the swap itself. -/
theorem meets_abort (halike : Task.Alike own hidden ends next next')
    (ih : ∀ {n : Nat} {s u : Screen}, Beside own (w.holding n) hidden s u →
      Accounted s (next.agenda ++ k) → Meets own w hidden ends k s u next next')
    (ht : next.Keeps) (hown : own ∈ (next.agenda ++ k).unreleased) :
    ∀ {events : List Event} {n : Nat} {s u : Screen}, Beside own (w.holding n) hidden s u →
      Accounted s ((Task.abort events next).agenda ++ k) →
      Meets own w hidden ends k s u (.abort events next)
        (.abort (events.filter fun e => !e.isOf own) next')
  | [], n, s, u, h, hA =>
    .of_leads (Screen.leads_of_step rfl) (Screen.leads_of_step rfl) (ih h hA)
  | event :: rest, n, s, u, h, hA => by
    obtain ⟨f, rfl, -⟩ := hA.events event (List.mem_append_right _ List.mem_cons_self)
    by_cases hf : f.swap = own
    · -- The first screen goes on alone, and nothing happens there.
      obtain ⟨hnext, hhappens, hb⟩ := h.abort_own hf hA hown
      have hleads := Screen.leads_of_step hnext
      rw [hhappens] at hleads
      rw [List.filter_cons_of_neg (by simp [hf])]
      exact .of_leads hleads (.refl _ _) (meets_abort halike ih ht hown hb (hA.of_step ht hnext).1)
    · rw [List.filter_cons_of_pos (by simp [hf])]
      refine .of_together (h.settleFlip hf none _ _) (fun htells => ?_) (.abort halike)
        fun m hnext hb => ?_
      · rw [Screen.happens_eq (t := .abort _ _) trivial,
          Screen.happens_eq (t := .abort _ _) trivial, htells]
      · exact meets_abort halike ih ht hown hb (hA.of_step ht hnext).1

/-- Tasks that are alike stay so until they rest or come to their ends. -/
theorem meets (halike : Task.Alike own hidden ends t t') :
    ∀ {n : Nat} {s u : Screen}, Beside own (w.holding n) hidden s u →
      Accounted s (t.agenda ++ k) → own ∈ (t.agenda ++ k).unreleased → t.Proceeds →
      Meets own w hidden ends k s u t t' := by
  induction halike with
  | ends he => exact fun h hA _ _ => .ends (.refl _ _) (.refl _ _) h hA he
  | dispatch hreports halike ih =>
    intro n s u h hA hown ht
    exact meets_dispatch halike (fun h hA => ih h hA hown (Task.proceeds_of_keeps ht)) ht hreports
      h hA
  | abort halike ih =>
    intro n s u h hA hown ht
    exact meets_abort halike (fun h hA => ih h hA hown (Task.proceeds_of_keeps ht)) ht hown h hA
  | @reclaim id v next next' hv hid halike ih =>
    intro n s u h hA hown ht
    have hlt : id < s.swaps.length := hA.reclaims (id, v) List.mem_cons_self
    have hs := List.getElem?_eq_getElem hlt
    have hu := (h.getElem?_of_ne hid).symm.trans hs
    -- The other swap took effect, so both screens keep what is in its slot.
    have hstep : s.step (.reclaim id v next) = s.reclaim id v next := rfl
    have hstep' : u.step (.reclaim id v next') = u.reclaim id v next' := rfl
    rw [Screen.reclaim_of_tookEffect hs hv] at hstep
    rw [Screen.reclaim_of_tookEffect hu hv] at hstep'
    have hsame : s.happens (.reclaim id v next) = u.happens (.reclaim id v next') := by
      rw [Screen.happens, Screen.happens, hstep, hstep']
      split_ifs
      · rfl
      · rfl
    split_ifs at hstep hstep' with hfb
    · have hs' := Screen.leads_of_step (congrArg Progress.next hstep)
      have hu' := Screen.leads_of_step (congrArg Progress.next hstep')
      rw [hstep] at hs'
      rw [hstep', ← hsame] at hu'
      have hA' : Accounted s (next.agenda ++ k) :=
        hA.congr rfl (List.Perm.refl _) rfl fun _ he => List.mem_cons_of_mem _ he
      exact .of_leads hs' hu' (ih h hA' hown (Task.proceeds_of_keeps ht))
    · have hs' := Screen.runs_of_step (congrArg Progress.next hstep)
      have hu' := Screen.runs_of_step (congrArg Progress.next hstep')
      rw [hstep] at hs'
      rw [hstep', ← hsame] at hu'
      exact .wait hs' hu' h (.destroying halike)

end Beside

end PageFlip
