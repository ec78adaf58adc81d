import PageFlip.Proofs.Backing

/-!
# What aborting events comes to

An `Aftermath` is what remains of the aborts of some events: the swaps as they are then, what the
clients were told and the framebuffers that were given up. Aborting one event (`Event.abort`)
concerns the client of the event, or one swap, on which a hold goes. So the order of any number of
events makes no difference but to the order of what is told and given up (`Aftermath.of_perm`).

`Abortable` says of swaps that all of some events can be aborted: there are holds for all of them,
and each swap has an accepted flip, so that no slot is written.
-/

namespace PageFlip

namespace Swap

/-- The outcome that comes with the abort of a flip. -/
def abortVerdict? (w : Swap) : Option Verdict :=
  w.barrier.tally.bind fun t => (w.barrier.drop t).2

/-- The swap after a flip was aborted; as it is, if it has its outcome. -/
def aborted (w : Swap) : Swap :=
  match w.barrier.tally with
  | none => w
  | some t => { w with barrier := (w.barrier.drop t).1 }

/-- What the client is told when a flip is aborted. -/
def abortNews (w : Swap) : List News :=
  w.abortVerdict?.toList.map fun v => .swap w.client v.stamp

/-- The framebuffer that is given up when a flip is aborted, where another one was accepted. -/
def abortRemoved (w : Swap) : List Framebuffer :=
  if w.abortVerdict?.isNone || w.barrier.oldFb.isNone then [] else [w.barrier.oldFb]

end Swap

/-- What remains of aborts. -/
structure Aftermath where
  swaps : List Swap
  /-- What the clients were told. -/
  news : List News
  /-- The framebuffers that the device was asked to give up. -/
  removed : List Framebuffer

namespace Event

/-- What aborting one event comes to. -/
def abort (swaps : List Swap) : Event → Aftermath
  | plain client => ⟨swaps, [.event client none], []⟩
  | flip f =>
    ⟨swaps.modify f.swap Swap.aborted, (swaps[f.swap]?.map Swap.abortNews).getD [],
      (swaps[f.swap]?.map Swap.abortRemoved).getD []⟩

/-- Two events that are flips of one swap. -/
def Mates (e e' : Event) : Prop := ∃ f g, e = flip f ∧ e' = flip g ∧ f.swap = g.swap

variable {swaps : List Swap} {e e' : Event}

/-- It makes no difference which flip of a swap is aborted. -/
theorem abort_of_mates (h : e.Mates e') (swaps : List Swap) : e.abort swaps = e'.abort swaps := by
  obtain ⟨f, g, rfl, rfl, hswap⟩ := h
  simp only [abort, hswap]

/-- The order of two aborts makes no difference to the swaps. -/
theorem swaps_abort_comm (h : ¬ e.Mates e') :
    (e'.abort (e.abort swaps).swaps).swaps = (e.abort (e'.abort swaps).swaps).swaps := by
  cases e with
  | plain client => rfl
  | flip f =>
    cases e' with
    | plain client => rfl
    | flip g => exact List.modify_modify_ne _ _ _ fun hswap => h ⟨f, g, rfl, rfl, hswap⟩

/-- An abort makes no difference to what is told and given up with another one. -/
theorem abort_abort (swaps : List Swap) (h : ¬ e.Mates e') :
    (e'.abort (e.abort swaps).swaps).news = (e'.abort swaps).news ∧
      (e'.abort (e.abort swaps).swaps).removed = (e'.abort swaps).removed := by
  cases e with
  | plain client => exact ⟨rfl, rfl⟩
  | flip f =>
    cases e' with
    | plain client => exact ⟨rfl, rfl⟩
    | flip g =>
      have hne : f.swap ≠ g.swap := fun hswap => h ⟨f, g, rfl, rfl, hswap⟩
      have hsame := List.getElem?_modify_ne Swap.aborted swaps hne
      exact ⟨by simp only [abort, hsame], by simp only [abort, hsame]⟩

end Event

namespace Aftermath

variable {k k' k'' : Aftermath} {swaps : List Swap} {events events' : List Event}

/-- What aborting some events comes to, one after the other. -/
def of (swaps : List Swap) : List Event → Aftermath
  | [] => ⟨swaps, [], []⟩
  | e :: events =>
    ⟨(of (e.abort swaps).swaps events).swaps,
      (e.abort swaps).news ++ (of (e.abort swaps).swaps events).news,
      (e.abort swaps).removed ++ (of (e.abort swaps).swaps events).removed⟩

/-- The same swaps remain, and the same is told and given up, in any order. -/
structure Alike (k k' : Aftermath) : Prop where
  swaps : k.swaps = k'.swaps
  news : k.news.Perm k'.news
  removed : k.removed.Perm k'.removed

/-- The order of the events makes no difference but to the order of what is told and given up. -/
theorem of_perm (h : events.Perm events') : (of swaps events).Alike (of swaps events') := by
  induction h generalizing swaps with
  | nil => exact ⟨rfl, .refl _, .refl _⟩
  | cons e _ ih =>
    obtain ⟨hswaps, hnews, hremoved⟩ := @ih (e.abort swaps).swaps
    exact ⟨hswaps, hnews.append_left _, hremoved.append_left _⟩
  | swap e e' events =>
    by_cases h : e.Mates e'
    · -- Two flips of one swap are aborted alike.
      have hsame : of swaps (e' :: e :: events) = of swaps (e :: e' :: events) := by
        simp only [of, Event.abort_of_mates h]
      rw [hsame]
      exact ⟨rfl, .refl _, .refl _⟩
    · have h' : ¬ e'.Mates e := fun ⟨f, g, hf, hg, hswap⟩ => h ⟨g, f, hg, hf, hswap.symm⟩
      obtain ⟨hnews, hremoved⟩ := Event.abort_abort swaps h
      obtain ⟨hnews', hremoved'⟩ := Event.abort_abort swaps h'
      refine ⟨?_, ?_, ?_⟩
      · simp only [of, Event.swaps_abort_comm h]
      · simp only [of, Event.swaps_abort_comm h, hnews, hnews']
        exact List.perm_append_comm_assoc _ _ _
      · simp only [of, Event.swaps_abort_comm h, hremoved, hremoved']
        exact List.perm_append_comm_assoc _ _ _
  | trans _ _ ih ih' =>
    exact ⟨ih.swaps.trans ih'.swaps, ih.news.trans ih'.news, ih.removed.trans ih'.removed⟩

end Aftermath

/-- All these flips and events of clients can be aborted: there is a hold for each flip, and its
swap has an accepted one. -/
def Abortable (swaps : List Swap) (events : List Event) : Prop :=
  ∀ f, .flip f ∈ events → ∃ w t, swaps[f.swap]? = some w ∧ w.barrier.tally = some t ∧
    events.countP (Event.isOf f.swap) ≤ t.holds ∧ t.submitted = true

namespace Abortable

variable {swaps : List Swap} {events events' : List Event} {e : Event}

/-- Fewer events, in another order, can be aborted as well. -/
theorem subperm (h : Abortable swaps events) (hsub : events'.Subperm events) :
    Abortable swaps events' := by
  intro f hf
  obtain ⟨w, t, hw, ht, hholds, hsubmitted⟩ := h f (hsub.subset hf)
  exact ⟨w, t, hw, ht, Nat.le_trans (hsub.countP_le _) hholds, hsubmitted⟩

/-- The others can still be aborted after one was. -/
theorem abort (h : Abortable swaps (e :: events)) : Abortable (e.abort swaps).swaps events := by
  intro g hg
  obtain ⟨w, t, hw, ht, hholds, hsubmitted⟩ := h g (List.mem_cons_of_mem _ hg)
  rw [List.countP_cons] at hholds
  cases e with
  | plain client => exact ⟨w, t, hw, ht, Nat.le_of_add_right_le hholds, hsubmitted⟩
  | flip f =>
    show ∃ w t, (swaps.modify f.swap Swap.aborted)[g.swap]? = some w ∧ _
    by_cases hswap : f.swap = g.swap
    · -- There is a hold for the other flip, so the outcome does not come yet.
      have hpos : 0 < events.countP (Event.isOf g.swap) := List.countP_pos_iff.2 ⟨_, hg, by simp⟩
      rw [Event.isOf_flip, hswap, beq_self_eq_true, if_pos rfl] at hholds
      refine ⟨w.aborted, { t with holds := t.holds - 1 }, ?_, ?_, ?_, hsubmitted⟩
      · rw [hswap, List.getElem?_modify_eq, hw]
        rfl
      · have hmany : ¬ t.holds ≤ 1 := by omega
        simp only [Swap.aborted, ht, Barrier.drop, if_neg hmany]
      · dsimp only
        omega
    · rw [List.getElem?_modify_ne _ _ hswap]
      exact ⟨w, t, hw, ht, Nat.le_of_add_right_le hholds, hsubmitted⟩

/-- The others can still be aborted after some were. -/
theorem of_append (h : Abortable swaps (events ++ events')) :
    Abortable (Aftermath.of swaps events).swaps events' := by
  induction events generalizing swaps with
  | nil => exact h
  | cons e events ih => exact ih h.abort

end Abortable

/-- What is pending while nothing is left to do can be aborted. -/
theorem Backed.abortable {s : Screen} (h : Backed s {}) :
    Abortable s.swaps s.registry.events := by
  intro f hf
  have hrecords : s.records {} f.swap = s.registry.events.countP (Event.isOf f.swap) := by
    rw [Screen.records]
    exact congrArg _ (List.append_nil _)
  have hpos : 0 < s.registry.events.countP (Event.isOf f.swap) :=
    List.countP_pos_iff.2 ⟨_, hf, by simp⟩
  rw [← hrecords] at hpos
  obtain ⟨w, hw, hcounts⟩ := h.counted.exists_swap (Nat.add_pos_right _ hpos)
  obtain ⟨t, ht, hholds, -⟩ := hcounts.exists_tally (by omega)
  refine ⟨w, t, hw, ht, by omega, ?_⟩
  obtain ⟨token, e, he, hevent⟩ := Registry.mem_events_iff.1 hf
  rcases h.submitted he hevent with hs | ⟨u, hu, -⟩
  · exact hs w hw t ht
  · cases hu

end PageFlip
