import PageFlip.Proofs.Passage

/-!
# The history of a swap and its barrier

A `Record` is what a history notes of one swap: whether a flip of it was accepted, whether one was
completed by a report, what its client was told, and which framebuffers were given up for it. The
record agrees with the barrier of the swap at all times (`Swap.Story`), in whatever order its flips
are accepted, completed and aborted: as long as the swap has no outcome its client is told nothing
and nothing is given up; with the outcome the client is told once, a stamp exactly if a flip was
completed, and when the handler returns one framebuffer is given up, the displaced one exactly if a
flip was accepted or completed.
-/

namespace PageFlip

/-- What a history notes of one swap. -/
structure Record where
  /-- Whether the channel accepted a flip of it. -/
  accepted : Bool := false
  /-- Whether a report completed a flip of it. -/
  completed : Bool := false
  /-- What its client was told, the last first. -/
  told : List News := []
  /-- The framebuffers that were given up for it, the last first. -/
  destroyed : List Framebuffer := []
deriving DecidableEq

/-- What a history notes of a swap. -/
def recordOf (id : SwapId) : List Happening → Record
  | [] => {}
  | .accepted j _ :: h =>
    if j = id then { recordOf id h with accepted := true } else recordOf id h
  | .resolved j report :: h =>
    if j = id then
      { recordOf id h with
        completed := (recordOf id h).completed || report.stamp?.isSome }
    else recordOf id h
  | .told j news :: h =>
    if j = id then { recordOf id h with told := news :: (recordOf id h).told } else recordOf id h
  | .destroyed j fb :: h =>
    if j = id then { recordOf id h with destroyed := fb :: (recordOf id h).destroyed }
    else recordOf id h
  | .returned .. :: h => recordOf id h

/-- A record once the client was told the outcome, if there is one. -/
def Record.hear (r : Record) (client : Client) (v : Option Verdict) : Record :=
  { r with told := v.toList.map (fun v => .swap client v.stamp) ++ r.told }

section Record

variable {id j : SwapId} {h : List Happening}

/-- An outcome is on the record of its swap, if there is one. -/
theorem recordOf_ofVerdict (client : Client) (v : Option Verdict) :
    recordOf j (Happening.ofVerdict id client v ++ h) =
      if id = j then (recordOf j h).hear client v else recordOf j h := by
  cases v with
  | none => simp [Happening.ofVerdict, Record.hear]
  | some v => simp [Happening.ofVerdict, Record.hear, recordOf]

/-- The record of a swap says whether a flip of it was accepted. -/
theorem accepted_recordOf_iff :
    (recordOf id h).accepted = true ↔ ∃ f, .accepted id f ∈ h := by
  induction h with
  | nil => simp [recordOf]
  | cons x h ih =>
    cases x with
    | accepted j f =>
      by_cases hj : j = id
      · subst hj
        simp [recordOf]
      · simp [recordOf, hj, ih, Ne.symm hj]
    | returned call outcome left => simpa [recordOf] using ih
    | _ => rw [recordOf]; split_ifs <;> simpa using ih

/-- The record of a swap says whether a flip of it was completed. -/
theorem completed_recordOf_iff :
    (recordOf id h).completed = true ↔ ∃ t stamp, .resolved id (.complete t stamp) ∈ h := by
  induction h with
  | nil => simp [recordOf]
  | cons x h ih =>
    cases x with
    | resolved j report =>
      by_cases hj : j = id
      · subst hj
        cases report with
        | complete t stamp =>
          exact iff_of_true (by simp [recordOf, Report.stamp?]) ⟨t, stamp, List.mem_cons_self⟩
        | abort t => simp [recordOf, ih, Report.stamp?]
      · simp [recordOf, hj, ih, Ne.symm hj]
    | returned call outcome left => simpa [recordOf] using ih
    | _ => rw [recordOf]; split_ifs <;> simpa using ih

/-- What a client was told is on the record. -/
theorem mem_told_recordOf {news : News} (htold : .told id news ∈ h) :
    news ∈ (recordOf id h).told := by
  induction h with
  | nil => cases htold
  | cons x h ih =>
    rcases List.mem_cons.1 htold with rfl | hrest
    · simp [recordOf]
    · cases x with
      | returned call outcome left => exact ih hrest
      | told j other =>
        rw [recordOf]
        split_ifs
        · exact List.mem_cons_of_mem _ (ih hrest)
        · exact ih hrest
      | _ => rw [recordOf]; split_ifs <;> exact ih hrest

end Record

/-- The outcomes of a swap whose handler is running. -/
def owed (reclaims : List (SwapId × Verdict)) (id : SwapId) : List Verdict :=
  (reclaims.filter fun e => e.1 == id).map Prod.snd

/-- One more outcome is owed for its own swap. -/
theorem owed_cons (reclaims : List (SwapId × Verdict)) (id j : SwapId) (v : Verdict) :
    owed ((id, v) :: reclaims) j = if id = j then v :: owed reclaims j else owed reclaims j := by
  by_cases hj : id = j
  · simp [owed, hj]
  · simp [owed, hj]

/-- The same of an outcome that there may be or not. -/
theorem owed_owing (reclaims : List (SwapId × Verdict)) (id j : SwapId) (v : Option Verdict) :
    owed ((Agenda.owing id v).reclaims ++ reclaims) j =
      if id = j then v.toList ++ owed reclaims j else owed reclaims j := by
  cases v with
  | none => simp
  | some v => exact owed_cons reclaims id j v

/-- The framebuffers that a swap leaves over with an outcome: one, or none if it is no framebuffer
at all. -/
def Barrier.leftover (b : Barrier) (v : Verdict) : List Framebuffer :=
  [if v.tookEffect then b.oldFb else b.newFb].filter fun fb => !fb.isNone

/-- What a barrier reclaims is what the swap leaves over. -/
theorem Barrier.leftover_eq (b : Barrier) (v : Verdict) (held : Framebuffer) :
    (if (b.reclaim v held).2.isNone then [] else [(b.reclaim v held).2]) = b.leftover v := by
  have hgiven : (b.reclaim v held).2 = if v.tookEffect then b.oldFb else b.newFb := by
    unfold Barrier.reclaim
    by_cases hv : v.tookEffect = true
    · rw [if_pos hv, if_pos hv]
    · rw [if_neg hv, if_neg hv]
  rw [hgiven, leftover]
  by_cases hnone : (if v.tookEffect then b.oldFb else b.newFb).isNone = true
  · simp [hnone]
  · simp [hnone]

/-- What is noted of a swap agrees with its barrier; `owed` are its outcomes whose handler is
running. -/
def Swap.Story (w : Swap) (r : Record) (owed : List Verdict) : Prop :=
  match w.barrier.tally with
  | some t =>
    t.submitted = r.accepted ∧ (t.referenceStamp.or t.firstStamp).isSome = r.completed ∧
      r.told = [] ∧ r.destroyed = [] ∧ owed = []
  | none =>
    ∃ v : Verdict, v.submitted = r.accepted ∧ v.stamp.isSome = r.completed ∧
      r.told = [.swap w.client v.stamp] ∧
      (owed = [v] ∧ r.destroyed = [] ∨ owed = [] ∧ r.destroyed = w.barrier.leftover v)

namespace Swap.Story

variable {w : Swap} {r : Record} {os : List Verdict} {b : Barrier} {v : Option Verdict}

/-- A swap without an outcome is owed nothing. -/
theorem of_tally {t : Tally} (h : w.Story r os) (ht : w.barrier.tally = some t) :
    t.submitted = r.accepted ∧ (t.referenceStamp.or t.firstStamp).isSome = r.completed ∧
      r.told = [] ∧ r.destroyed = [] ∧ os = [] := by
  unfold Story at h
  rwa [ht] at h

/-- At first a swap has no story. -/
theorem start (newFb oldFb : Framebuffer) (slot : Slot) (client : Client) :
    Story ⟨.new newFb oldFb, slot, client⟩ {} [] :=
  ⟨rfl, rfl, rfl, rfl, rfl⟩

/-- One more hold is no part of the story. -/
theorem hold (h : w.Story r os) (hb : w.barrier.hold = .ok b) :
    Story { w with barrier := b } r os := by
  obtain ⟨t, ht, rfl⟩ := Barrier.of_hold_eq_ok hb
  have hstory := h.of_tally ht
  exact hstory

/-- That a flip was accepted is part of the story as long as there is no outcome. -/
theorem markSubmitted (h : w.Story r os) (hopen : w.barrier.isFinal = false) :
    Story { w with barrier := w.barrier.markSubmitted } { r with accepted := true } os := by
  cases ht : w.barrier.tally with
  | none => simp [Barrier.isFinal, ht] at hopen
  | some t =>
    obtain ⟨-, hstamp, htold, hdestroyed, howed⟩ := h.of_tally ht
    have htally : w.barrier.markSubmitted.tally = some { t with submitted := true } := by
      simp [Barrier.markSubmitted, ht]
    unfold Story
    dsimp only
    rw [htally]
    exact ⟨rfl, hstamp, htold, hdestroyed, howed⟩

/-- A hold is dropped, and with the last one the client is told the outcome. -/
theorem drop {t : Tally} (hsubmitted : t.submitted = r.accepted)
    (hstamp : (t.referenceStamp.or t.firstStamp).isSome = r.completed) (htold : r.told = [])
    (hdestroyed : r.destroyed = []) (hb : w.barrier.drop t = (b, v)) :
    Story { w with barrier := b } (r.hear w.client v) v.toList := by
  rcases Barrier.of_drop_eq hb with ⟨-, rfl, rfl⟩ | ⟨-, rfl, rfl⟩
  · refine ⟨t.verdict, hsubmitted, hstamp, ?_, .inl ⟨rfl, hdestroyed⟩⟩
    simp [Record.hear, htold]
  · exact ⟨hsubmitted, hstamp, htold, hdestroyed, rfl⟩

/-- A flip is resolved. -/
theorem resolve {reference : Bool} {stamp : Option Stamp} (h : w.Story r os)
    (hb : w.barrier.resolve reference stamp = .ok (b, v)) :
    os = [] ∧
      Story { w with barrier := b }
        (Record.hear { r with completed := r.completed || stamp.isSome } w.client v) v.toList := by
  obtain ⟨t, ht, hdrop⟩ := Barrier.of_resolve_eq_ok hb
  obtain ⟨hsubmitted, hstamp, htold, hdestroyed, howed⟩ := h.of_tally ht
  -- A stamp is kept whichever pipe it is from, so there is one exactly if one was reported.
  have hrecord : ((t.record reference stamp).referenceStamp.or
      (t.record reference stamp).firstStamp).isSome =
        ((t.referenceStamp.or t.firstStamp).isSome || stamp.isSome) := by
    unfold Tally.record
    cases stamp with
    | none => simp
    | some stamp =>
      dsimp only
      split_ifs with href hfirst
      · simp
      · simp
      · simp only [Option.isNone_iff_eq_none] at hfirst
        cases hf : t.firstStamp <;> simp_all
  exact ⟨howed, drop ((t.submitted_record reference stamp).trans hsubmitted)
    (by rw [hrecord, hstamp]) htold hdestroyed hdrop⟩

/-- The submitter's hold is given up. -/
theorem release (h : w.Story r os) (hb : w.barrier.release = .ok (b, v)) :
    os = [] ∧ Story { w with barrier := b } (r.hear w.client v) v.toList := by
  obtain ⟨t, ht, -, hdrop⟩ := Barrier.of_release_eq_ok hb
  obtain ⟨hsubmitted, hstamp, htold, hdestroyed, howed⟩ := h.of_tally ht
  exact ⟨howed, drop (t := { t with localHold := false }) hsubmitted hstamp htold hdestroyed hdrop⟩

/-- The handler is done, and a framebuffer is given up. -/
theorem reclaim {vd : Verdict} (h : w.Story r (vd :: os)) (held : Framebuffer) :
    os = [] ∧
      Story w { r with destroyed :=
        (if (w.barrier.reclaim vd held).2.isNone then [] else [(w.barrier.reclaim vd held).2]) ++
          r.destroyed } os := by
  unfold Story at h
  split at h
  · cases h.2.2.2.2
  · rename_i ht
    obtain ⟨v, hsubmitted, hstamp, htold, ⟨howed, hdestroyed⟩ | ⟨howed, -⟩⟩ := h
    · obtain ⟨rfl, rfl⟩ := List.cons.inj howed
      refine ⟨rfl, ?_⟩
      unfold Story
      rw [ht]
      refine ⟨vd, hsubmitted, hstamp, htold, .inr ⟨rfl, ?_⟩⟩
      rw [hdestroyed, List.append_nil, Barrier.leftover_eq]
    · cases howed

end Swap.Story

/-! ## All swaps of a screen -/

/-- A swap whose submitter still has its hold has no outcome. -/
theorem Accounted.open_of_unreleased {s : Screen} {g : Agenda} {id : SwapId} {w : Swap}
    (hA : Accounted s g) (hw : s.swaps[id]? = some w) (hid : id ∈ g.unreleased) :
    w.barrier.isFinal = false := by
  have hlocal : 0 < g.localHolds id := List.count_pos_iff.2 hid
  rw [← Bool.not_eq_true, (hA.counts hw).isFinal_iff]
  exact fun hzero => Nat.ne_of_gt hlocal (Nat.eq_zero_of_add_eq_zero_right hzero)

/-- What a history notes of each swap agrees with its barrier, and nothing is noted of others. -/
structure Chronicled (s : Screen) (reclaims : List (SwapId × Verdict)) (h : List Happening) :
    Prop where
  story : ∀ {id : SwapId} {w : Swap}, s.swaps[id]? = some w →
    w.Story (recordOf id h) (owed reclaims id)
  beyond : ∀ {id : SwapId}, s.swaps.length ≤ id → recordOf id h = {} ∧ owed reclaims id = []

namespace Chronicled

variable {s s' : Screen} {rs rs' : List (SwapId × Verdict)} {h h' : List Happening} {id : SwapId}
  {w w' : Swap}

/-- Nothing is noted, and no barrier is used. -/
theorem congr (hC : Chronicled s rs h) (hswaps : s'.swaps = s.swaps)
    (hrecord : ∀ j, recordOf j h' = recordOf j h) (howed : ∀ j, owed rs' j = owed rs j) :
    Chronicled s' rs' h' where
  story := by
    intro j x hx
    rw [hrecord, howed]
    exact hC.story (hswaps ▸ hx)
  beyond := by
    intro j hj
    rw [hrecord, howed]
    exact hC.beyond (hswaps ▸ hj)

/-- One swap is concerned. -/
theorem touch (hC : Chronicled s rs h) (hw : s.swaps[id]? = some w)
    (hswaps : ∀ j, s'.swaps[j]? = if j = id then some w' else s.swaps[j]?)
    (hrecord : ∀ j, id ≠ j → recordOf j h' = recordOf j h)
    (howed : ∀ j, id ≠ j → owed rs' j = owed rs j)
    (hstory : w'.Story (recordOf id h') (owed rs' id)) : Chronicled s' rs' h' where
  story := by
    intro j x hx
    rw [hswaps] at hx
    split_ifs at hx with hj
    · cases hx
      rw [hj]
      exact hstory
    · rw [hrecord j (Ne.symm hj), howed j (Ne.symm hj)]
      exact hC.story hx
  beyond := by
    intro j hj
    have hlt := Accounted.lt_length hw
    have hlength : s.swaps.length ≤ j := by
      rw [← List.getElem?_eq_none_iff] at hj ⊢
      rw [hswaps] at hj
      split_ifs at hj
      exact hj
    have hne : id ≠ j := Nat.ne_of_lt (Nat.lt_of_lt_of_le hlt hlength)
    rw [hrecord j hne, howed j hne]
    exact hC.beyond hlength

/-- A hold on a swap is dropped. -/
theorem settle {b : Barrier} {v : Option Verdict} (hC : Chronicled s rs h)
    (hw : s.swaps[id]? = some w)
    (hswaps : s'.swaps = (s.setBarrier id b).swaps)
    (hrecord : ∀ j, id ≠ j → recordOf j h' = recordOf j h)
    (hstory : owed rs id = [] ∧
      Swap.Story { w with barrier := b } ((recordOf id h').hear w.client v) v.toList) :
    Chronicled s' ((Agenda.owing id v).reclaims ++ rs)
      (Happening.ofVerdict id w.client v ++ h') := by
  refine hC.touch hw (fun j => by rw [hswaps, Screen.getElem?_setBarrier hw]) ?_ ?_ ?_
  · intro j hj
    rw [recordOf_ofVerdict, if_neg hj]
    exact hrecord j hj
  · intro j hj
    rw [owed_owing, if_neg hj]
  · rw [recordOf_ofVerdict, if_pos rfl, owed_owing, if_pos rfl, hstory.1, List.append_nil]
    exact hstory.2

/-- A framebuffer is installed. -/
theorem launch (hC : Chronicled s rs h) {newFb oldFb : Framebuffer} {slot : Slot}
    {client : Client} (hswaps : s'.swaps = s.swaps ++ [⟨.new newFb oldFb, slot, client⟩]) :
    Chronicled s' rs h where
  story := by
    intro j x hx
    rw [hswaps] at hx
    rcases Screen.of_getElem?_append_swap hx with hx | ⟨hj, rfl⟩
    · exact hC.story hx
    · -- The new swap, of which nothing was noted.
      obtain ⟨hrecord, howed⟩ := hC.beyond (Nat.le_of_eq hj.symm)
      rw [hrecord, howed]
      exact .start newFb oldFb slot client
  beyond := by
    intro j hj
    rw [hswaps, List.length_append] at hj
    exact hC.beyond (Nat.le_of_lt hj)

/-- The handler of a swap is done. -/
theorem reclaim {v : Verdict} (hC : Chronicled s ((id, v) :: rs) h) (hw : s.swaps[id]? = some w)
    (hswaps : s'.swaps = s.swaps) (held : Framebuffer) :
    Chronicled s' rs
      ((if (w.barrier.reclaim v held).2.isNone then []
        else [.destroyed id (w.barrier.reclaim v held).2]) ++ h) := by
  have hstory := hC.story hw
  rw [owed_cons, if_pos rfl] at hstory
  obtain ⟨-, hstory⟩ := hstory.reclaim held
  -- The outcome of this swap is no longer owed.
  have hsame : ∀ j, s'.swaps[j]? = if j = id then some w else s.swaps[j]? := by
    intro j
    split_ifs with hj
    · rw [hswaps, hj, hw]
    · rw [hswaps]
  refine hC.touch hw hsame ?_ ?_ ?_
  · intro j hj
    split_ifs
    · rfl
    · exact if_neg hj
  · intro j hj
    rw [owed_cons, if_neg hj]
  · split_ifs with hfb
    · simpa [hfb] using hstory
    · simpa [hfb, recordOf] using hstory

/-- A swap without an outcome. -/
theorem of_open (hC : Chronicled s rs h) (hw : s.swaps[id]? = some w)
    (hopen : w.barrier.isFinal = false) :
    (recordOf id h).told = [] ∧ (recordOf id h).destroyed = [] ∧ owed rs id = [] := by
  cases ht : w.barrier.tally with
  | none => simp [Barrier.isFinal, ht] at hopen
  | some t => exact ((hC.story hw).of_tally ht).2.2

/-- A swap whose handler is running. -/
theorem of_owed {v : Verdict} (hC : Chronicled s ((id, v) :: rs) h) (hw : s.swaps[id]? = some w) :
    (recordOf id h).destroyed = [] ∧ v.submitted = (recordOf id h).accepted ∧
      v.stamp.isSome = (recordOf id h).completed := by
  have hstory := hC.story hw
  rw [owed_cons, if_pos rfl] at hstory
  unfold Swap.Story at hstory
  split at hstory
  · cases hstory.2.2.2.2
  · obtain ⟨u, hsubmitted, hstamp, -, ⟨howed, hdestroyed⟩ | ⟨howed, -⟩⟩ := hstory
    · obtain ⟨rfl, -⟩ := List.cons.inj howed
      exact ⟨hdestroyed, hsubmitted, hstamp⟩
    · cases howed

/-- Every deed keeps the record of every swap in agreement with its barrier. -/
theorem deed {conduct : Conduct} {m m' : Scene}
    (hC : Chronicled m.screen m.agenda.reclaims m.history)
    (hA : Accounted m.screen m.agenda) (hd : Deed conduct m m') :
    Chronicled m'.screen m'.agenda.reclaims m'.history := by
  cases hd with
  | pass => exact hC
  | register hfb halloc hw hb =>
    exact hC.touch hw (Screen.getElem?_setBarrier hw _) (fun _ _ => rfl) (fun _ _ => rfl)
      ((hC.story hw).hold hb)
  | late =>
    simp only [Scene.agenda, Scene.agendaOf, Agenda.append_assoc] at hC ⊢
    exact hC.congr rfl (fun _ => rfl) (fun _ => rfl)
  | @dispatch s c g e report f r w b v ls fbs h hr hw hlate hb =>
    simp only [Scene.agenda, Scene.agendaOf, Agenda.append_assoc] at hC ⊢
    -- Only the record of the swap itself has one more entry.
    have hrecord : ∀ j, f.swap ≠ j → recordOf j (.resolved f.swap report :: h) = recordOf j h :=
      fun j hj => if_neg hj
    refine hC.settle hw rfl hrecord ?_
    rw [recordOf, if_pos rfl]
    exact (hC.story hw).resolve hb
  | abort hw hb =>
    simp only [Scene.agenda, Scene.agendaOf, Agenda.append_assoc] at hC ⊢
    have hstory := (hC.story hw).resolve hb
    simp only [Option.isSome_none, Bool.or_false] at hstory
    exact hC.settle hw rfl (fun _ _ => rfl) hstory
  | giveUp he hr hw hb =>
    simp only [Scene.agenda, Scene.agendaOf, Agenda.append_assoc] at hC ⊢
    have hstory := (hC.story hw).resolve hb
    simp only [Option.isSome_none, Bool.or_false] at hstory
    exact hC.settle hw rfl (fun _ _ => rfl) hstory
  | lose => exact hC.congr rfl (fun _ => rfl) (fun _ => rfl)
  | release hw hb =>
    exact hC.settle hw rfl (fun _ _ => rfl) ((hC.story hw).release hb)
  | reclaim hw =>
    simp only [Scene.agenda, Scene.agendaOf, Agenda.append_assoc] at hC ⊢
    refine Chronicled.reclaim hC hw ?_ _
    rfl
  | launch => exact hC.launch rfl
  | refuse => exact hC.congr rfl (fun _ => rfl) (fun _ => rfl)
  | @accept s c id fb n f w i now ls fbs h hw =>
    -- While the submitter has its hold there is no outcome that the mark could come after.
    have hopen : w.barrier.isFinal = false := hA.open_of_unreleased hw List.mem_cons_self
    refine hC.touch hw (Screen.getElem?_setBarrier hw _) (fun j hj => if_neg hj) (fun _ _ => rfl) ?_
    dsimp only
    rw [recordOf, if_pos rfl]
    exact (hC.story hw).markSubmitted hopen
  | read => exact hC
  | drain => exact hC
  | call => exact hC
  | disable => exact hC.congr rfl (fun _ => rfl) (fun _ => rfl)
  | enable => exact hC.congr rfl (fun _ => rfl) (fun _ => rfl)
  | finish => exact hC.congr rfl (fun _ => rfl) (fun _ => rfl)
  | reorder => exact hC.congr rfl (fun _ => rfl) (fun _ => rfl)

end Chronicled

/-- At first there is nothing to tell. -/
theorem chronicled_new (pipes : List Pipe) (slots : List Framebuffer) (config : Config) :
    Chronicled (Course.new pipes slots config).scene.screen
      (Course.new pipes slots config).scene.agenda.reclaims
      (Course.new pipes slots config).scene.history where
  story := fun hw => by cases hw
  beyond := fun _ => ⟨rfl, rfl⟩

end PageFlip
