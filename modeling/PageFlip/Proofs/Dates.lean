import PageFlip.Proofs.Backing
import PageFlip.Proofs.Observer

/-!
# When swaps were shown

A `Completion` is noted when a stamp resolves a flip of a swap. From the completions alone
`Completion.shown` says when a swap was shown: at the last completion of a reference flip, or else
at its first completion. What a barrier keeps while its swap has no outcome is just this (`Dated`),
after every step of an operation and so in every session that is not broken
(`Session.dated_of_completes`).
-/

namespace PageFlip

/-- A flip of a swap that completed. -/
structure Completion where
  swap : SwapId
  /-- Whether its stamp is the one to report. -/
  reference : Bool
  stamp : Stamp
deriving DecidableEq

namespace Completion

/-- Whether a flip of the swap completed, on the reference pipe or on another one. -/
def isOf (id : SwapId) (reference : Bool) (c : Completion) : Bool :=
  c.swap == id && c.reference == reference

/-- The stamp of the reference flip of a swap that completed last, where completions come the last
first. -/
def lastReference (l : List Completion) (id : SwapId) : Option Stamp :=
  (l.find? (isOf id true)).map stamp

/-- The stamp of the other flip of a swap that completed first. -/
def firstOther (l : List Completion) (id : SwapId) : Option Stamp :=
  (l.reverse.find? (isOf id false)).map stamp

/-- When a swap was shown that had these completions; none if it had none. -/
def shown (l : List Completion) (id : SwapId) : Option Stamp :=
  (lastReference l id).or (firstOther l id)

variable {l l' : List Completion} {id : SwapId} {c : Completion}

/-- A later completion of a reference flip is the last one. -/
theorem lastReference_cons (c : Completion) (l : List Completion) (id : SwapId) :
    lastReference (c :: l) id =
      if c.isOf id true then some c.stamp else lastReference l id := by
  rw [lastReference, List.find?_cons]
  cases c.isOf id true <;> rfl

/-- An earlier completion stays the first one. -/
theorem firstOther_cons (c : Completion) (l : List Completion) (id : SwapId) :
    firstOther (c :: l) id =
      (firstOther l id).or (if c.isOf id false then some c.stamp else none) := by
  rw [firstOther, List.reverse_cons, List.find?_append, Option.map_or, List.find?_singleton]
  cases c.isOf id false <;> rfl

/-- Completions of other swaps make no difference. -/
theorem shown_append (h : ∀ c ∈ l', c.swap ≠ id) : shown (l' ++ l) id = shown l id := by
  induction l' with
  | nil => rfl
  | cons c l' ih =>
    obtain ⟨hc, hl'⟩ := List.forall_mem_cons.1 h
    have hnot (reference : Bool) : c.isOf id reference = false := by simp [isOf, hc]
    have hrest := ih hl'
    rw [List.cons_append, shown, lastReference_cons, firstOther_cons, hnot, hnot, if_neg (by simp),
      if_neg (by simp), Option.or_none]
    exact hrest

/-- A swap was shown exactly if one of its flips completed. -/
theorem isSome_shown : (shown l id).isSome = l.any fun c => c.swap == id := by
  have hreference : (lastReference l id).isSome = l.any (isOf id true) := by
    rw [lastReference, Option.isSome_map, List.isSome_find?]
  have hother : (firstOther l id).isSome = l.any (isOf id false) := by
    rw [firstOther, Option.isSome_map, List.isSome_find?, List.any_reverse]
  rw [shown, Option.isSome_or, hreference, hother, Bool.eq_iff_iff, Bool.or_eq_true,
    List.any_eq_true, List.any_eq_true, List.any_eq_true]
  simp only [isOf, Bool.and_eq_true, beq_iff_eq]
  constructor
  · rintro (⟨c, hc, hid, -⟩ | ⟨c, hc, hid, -⟩)
    · exact ⟨c, hc, hid⟩
    · exact ⟨c, hc, hid⟩
  · rintro ⟨c, hc, hid⟩
    cases hr : c.reference with
    | true => exact .inl ⟨c, hc, hid, hr⟩
    | false => exact .inr ⟨c, hc, hid, hr⟩

/-- A swap with only one completed reference flip was shown at its completion. -/
theorem shown_of_reference (h : l.filter (isOf id true) = [c]) : shown l id = some c.stamp := by
  have hfind : l.find? (isOf id true) = some c := by
    rw [← List.head?_filter, h]
    rfl
  rw [shown, lastReference, hfind]
  rfl

/-- A swap without a completed reference flip was shown at its first completion. -/
theorem shown_of_no_reference (h : l.filter (isOf id true) = []) :
    shown l id = (l.reverse.find? fun c => c.swap == id).map stamp := by
  have hnone : ∀ c ∈ l, c.isOf id true = false := fun c hc =>
    Bool.eq_false_iff.2 (List.filter_eq_nil_iff.1 h c hc)
  have hreference : lastReference l id = none := by
    rw [lastReference, Option.map_eq_none_iff, List.find?_eq_none]
    exact fun c hc => Bool.eq_false_iff.1 (hnone c hc)
  have hsame : l.reverse.find? (isOf id false) = l.reverse.find? fun c => c.swap == id := by
    rw [← List.head?_filter, ← List.head?_filter]
    refine congrArg _ (List.filter_congr fun c hc => ?_)
    have hc := hnone c (List.mem_reverse.1 hc)
    simp only [isOf] at hc ⊢
    cases hid : c.swap == id with
    | false => rfl
    | true =>
      rw [hid, Bool.true_and] at hc
      rw [Bool.true_and]
      cases hr : c.reference with
      | true => rw [hr] at hc; cases hc
      | false => rfl
  rw [shown, hreference, Option.none_or, firstOther, hsame]

end Completion

/-! ## What barriers keep -/

namespace Tally

variable {l : List Completion} {id : SwapId} {t : Tally}

/-- The barrier of a swap keeps the stamps that its outcome depends on. -/
def Dated (t : Tally) (l : List Completion) (id : SwapId) : Prop :=
  t.referenceStamp = Completion.lastReference l id ∧ t.firstStamp = Completion.firstOther l id

/-- The outcome tells when the swap was shown. -/
theorem Dated.verdict (h : t.Dated l id) : t.verdict.stamp = Completion.shown l id := by
  show t.referenceStamp.or t.firstStamp = _
  rw [h.1, h.2]
  rfl

/-- A flip of the swap completes. -/
theorem Dated.record (h : t.Dated l id) (reference : Bool) (stamp : Stamp) :
    (t.record reference (some stamp)).Dated (⟨id, reference, stamp⟩ :: l) id := by
  obtain ⟨hreference, hfirst⟩ := h
  rw [Dated, Completion.lastReference_cons, Completion.firstOther_cons, ← hreference, ← hfirst]
  simp only [Completion.isOf, beq_self_eq_true, Bool.true_and]
  cases reference with
  | true => exact ⟨rfl, (Option.or_none).symm⟩
  | false =>
    unfold Tally.record
    cases hnone : t.firstStamp with
    | none => exact ⟨rfl, rfl⟩
    | some first => exact ⟨rfl, hnone⟩

/-- A flip of another swap completes. -/
theorem Dated.other {c : Completion} (h : t.Dated l id) (hc : c.swap ≠ id) :
    t.Dated (c :: l) id := by
  obtain ⟨hreference, hfirst⟩ := h
  have hnot (reference : Bool) : c.isOf id reference = false := by simp [Completion.isOf, hc]
  rw [Dated, Completion.lastReference_cons, Completion.firstOther_cons, hnot, hnot,
    if_neg Bool.false_ne_true, if_neg Bool.false_ne_true, Option.or_none]
  exact ⟨hreference, hfirst⟩

end Tally

namespace Barrier

variable {b c : Barrier} {l : List Completion} {id : SwapId} {v : Option Verdict}

/-- The barrier of a swap keeps what the outcome depends on, as long as there is none. -/
def Dated (b : Barrier) (l : List Completion) (id : SwapId) : Prop :=
  ∀ t, b.tally = some t → t.Dated l id

/-- The completion of another swap is nothing to a barrier. -/
theorem Dated.other {e : Completion} (h : b.Dated l id) (he : e.swap ≠ id) : b.Dated (e :: l) id :=
  fun t ht => (h t ht).other he

/-- That a flip was accepted is nothing to the stamps. -/
theorem Dated.markSubmitted (h : b.Dated l id) : b.markSubmitted.Dated l id := by
  intro t ht
  obtain ⟨t', ht', rfl⟩ := Option.map_eq_some_iff.1 ht
  exact h t' ht'

/-- One more hold is nothing to the stamps. -/
theorem Dated.hold (h : b.Dated l id) (hc : b.hold = .ok c) : c.Dated l id := by
  obtain ⟨t, ht, rfl⟩ := of_hold_eq_ok hc
  rintro t' ⟨⟩
  exact h t ht

/-- A hold less is nothing to the stamps. -/
theorem dated_drop {t : Tally} (ht : t.Dated l id) : (b.drop t).1.Dated l id := by
  unfold drop
  split
  · exact fun t' ht' => by cases ht'
  · rintro t' ⟨⟩
    exact ht

/-- The end of the submitter's hold is nothing to the stamps. -/
theorem Dated.release (h : b.Dated l id) (hc : b.release = .ok (c, v)) : c.Dated l id := by
  obtain ⟨t, ht, -, hdrop⟩ := of_release_eq_ok hc
  have hdated := dated_drop (b := b) (t := { t with localHold := false }) (h t ht)
  rwa [hdrop] at hdated

end Barrier

/-- The completion that a stamp for a flip tells of. -/
def Flip.completions (f : Flip) (stamp : Option Stamp) : List Completion :=
  stamp.toList.map fun stamp => ⟨f.swap, f.reference, stamp⟩

/-- The completion that a stamp for an event tells of, if it is the flip of a swap. -/
def Event.completions (event : Event) (stamp : Option Stamp) : List Completion :=
  match event with
  | flip f => f.completions stamp
  | plain _ => []

/-- The completion that a stamp for a pending token tells of. -/
def Screen.completions (s : Screen) (t : Token) (stamp : Option Stamp) : List Completion :=
  ((s.registry.pending.find? t).map fun p => p.event.completions stamp).getD []

/-- A flip that is resolved brings its stamp, if it has one. -/
theorem Barrier.Dated.resolve {b c : Barrier} {l : List Completion} {f : Flip}
    {stamp : Option Stamp} {v : Option Verdict} (h : b.Dated l f.swap)
    (hc : b.resolve f.reference stamp = .ok (c, v)) :
    c.Dated (f.completions stamp ++ l) f.swap := by
  obtain ⟨t, ht, hdrop⟩ := of_resolve_eq_ok hc
  have hrecord : (t.record f.reference stamp).Dated (f.completions stamp ++ l) f.swap := by
    cases stamp with
    | none => exact h t ht
    | some stamp => exact (h t ht).record f.reference stamp
  have hdated := dated_drop (b := b) hrecord
  rwa [hdrop] at hdated

/-- Each barrier keeps the stamps of the completions of its swap, and they are completions of swaps
that are there. -/
structure Dated (swaps : List Swap) (l : List Completion) : Prop where
  barrier : ∀ {id : SwapId} {w : Swap}, swaps[id]? = some w → w.barrier.Dated l id
  known : ∀ c ∈ l, c.swap < swaps.length

namespace Dated

variable {s : Screen} {l : List Completion} {id : SwapId} {w : Swap} {b : Barrier}

/-- A barrier that keeps its stamps takes the place of another. -/
theorem setBarrier (h : Dated s.swaps l) (hw : s.swaps[id]? = some w) (hb : b.Dated l id) :
    Dated (s.setBarrier id b).swaps l where
  barrier := by
    intro j x hx
    rw [Screen.getElem?_setBarrier hw] at hx
    split_ifs at hx with hj
    · cases hx
      exact hj ▸ hb
    · exact h.barrier hx
  known := by
    rw [Screen.length_setBarrier]
    exact h.known

/-- Only one swap has changed, of which a flip was resolved. -/
theorem of_resolve {swaps swaps' : List Swap} {f : Flip} {stamp : Option Stamp}
    (h : Dated swaps l) (hlt : f.swap < swaps.length) (hlength : swaps'.length = swaps.length)
    (hf : ∀ w, swaps'[f.swap]? = some w → w.barrier.Dated (f.completions stamp ++ l) f.swap)
    (hothers : ∀ id, id ≠ f.swap → swaps'[id]? = swaps[id]?) :
    Dated swaps' (f.completions stamp ++ l) where
  barrier := by
    intro id w hw
    by_cases hid : id = f.swap
    · subst hid
      exact hf w hw
    · have hdated := h.barrier ((hothers id hid).symm.trans hw)
      cases stamp with
      | none => exact hdated
      | some stamp => exact hdated.other (Ne.symm hid)
  known := by
    rw [hlength]
    intro c hc
    rcases List.mem_append.1 hc with hc | hc
    · obtain ⟨stamp, -, rfl⟩ := List.mem_map.1 hc
      exact hlt
    · exact h.known c hc

/-- A flip of a swap is resolved. -/
theorem resolve {f : Flip} {stamp : Option Stamp} {v : Option Verdict} (h : Dated s.swaps l)
    (hw : s.swaps[f.swap]? = some w) (hb : w.barrier.resolve f.reference stamp = .ok (b, v)) :
    Dated (s.setBarrier f.swap b).swaps (f.completions stamp ++ l) := by
  refine h.of_resolve (List.getElem?_eq_some_iff.1 hw).1 (Screen.length_setBarrier _ _ _)
    (fun x hx => ?_) fun id hid => ?_
  · rw [Screen.getElem?_setBarrier hw, if_pos rfl] at hx
    cases hx
    exact (h.barrier hw).resolve hb
  · rw [Screen.getElem?_setBarrier hw, if_neg hid]

/-- A swap is added, of which no flip has completed. -/
theorem launch (h : Dated s.swaps l) (newFb oldFb : Framebuffer) (slot : Slot) (client : Client) :
    Dated (s.swaps ++ [⟨.new newFb oldFb, slot, client⟩]) l where
  barrier := by
    intro j x hx
    rcases Screen.of_getElem?_append_swap hx with hx | ⟨rfl, rfl⟩
    · exact h.barrier hx
    · -- All completions are of swaps that were there before.
      have hnone (reference : Bool) (c : Completion) (hc : c ∈ l) :
          ¬ c.isOf s.swaps.length reference = true := by
        intro his
        have hswap : c.swap = s.swaps.length :=
          beq_iff_eq.1 (Bool.and_eq_true _ _ ▸ his).1
        exact Nat.ne_of_lt (h.known c hc) hswap
      rintro t ⟨⟩
      constructor
      · show none = _
        rw [Completion.lastReference, List.find?_eq_none.2 (hnone true)]
        rfl
      · show none = _
        rw [Completion.firstOther,
          List.find?_eq_none.2 fun c hc => hnone false c (List.mem_reverse.1 hc)]
        rfl
  known := by
    rw [List.length_append]
    exact fun c hc => Nat.lt_add_right _ (h.known c hc)

end Dated

/-! ## From step to step -/

/-- Notes are taken of the reports that are dispatched, unless they come late. -/
def completing : Observer Completion where
  step s t :=
    match t with
    | .dispatch (report :: _) _ =>
      match s.registry.forget? report.token with
      | some _ => []
      | none => s.completions report.token report.stamp?
    | _ => []

/-- The barriers are kept up to date in a part of an operation, unless it breaks a rule. -/
def Progress.Dates (l : List Completion) (p : Progress Follow) : Prop :=
  (∀ v, p.next ≠ .inr (.violated v)) → Dated p.screen.swaps l

/-- Without a stamp nothing has completed. -/
theorem Screen.completions_none (s : Screen) (t : Token) : s.completions t none = [] := by
  unfold completions
  cases s.registry.pending.find? t with
  | none => rfl
  | some p =>
    obtain ⟨crtc, _ | _⟩ := p
    · rfl
    · rfl

namespace Dated

variable {s : Screen} {l : List Completion} {k : Agenda} {t next : Task} {f : Fanout} {a : Attempt}
  {p : Progress Follow}

/-- A hold on a swap was dropped. -/
theorem dates_settle {id : SwapId} {result : Except Violation (Barrier × Option Verdict)}
    {client : Client} (h : ∀ b v, result = .ok (b, v) → Dated (s.setBarrier id b).swaps l) :
    (s.settle id result client next).Dates l := by
  unfold Screen.settle
  split
  · exact fun hunbroken => absurd rfl (hunbroken _)
  · exact fun _ => h _ _ rfl
  · exact fun _ => h _ _ rfl

/-- An event that was handed out is resolved. -/
theorem dates_deliver {event : Event} {stamp : Option Stamp} (h : Dated s.swaps l)
    (hb : Backed s (.aborting [event] ++ k)) :
    (s.deliver event stamp next).Dates (event.completions stamp ++ l) := by
  cases event with
  | plain client => exact fun _ => h
  | flip f =>
    obtain ⟨w, hw, -⟩ := hb.counted.of_aborting
    have hq : s.deliver (.flip f) stamp next =
        s.settle f.swap (w.barrier.resolve f.reference stamp) w.client next := by
      simp only [Screen.deliver, Screen.settleFlip, hw]
    rw [hq]
    exact dates_settle fun b v hresolve => h.resolve hw hresolve

/-- The event of a token is handed out and resolved. -/
theorem dates_resolve {token : Token} {stamp : Option Stamp} (h : Dated s.swaps l)
    (hb : Backed s k) : (s.resolve token stamp next).Dates (s.completions token stamp ++ l) := by
  unfold Screen.resolve
  split
  · exact fun hunbroken => absurd rfl (hunbroken _)
  · rename_i event r hr
    obtain ⟨p, hp, rfl, -⟩ := Registry.of_resolve_eq_ok hr
    have hevent : s.completions token stamp = p.event.completions stamp := by
      rw [Screen.completions, hp]
      rfl
    rw [hevent]
    exact dates_deliver (s := s.setRegistry r) h (hb.resolve hr)

/-- The event of a token is aborted. -/
theorem dates_abort {token : Token} (h : Dated s.swaps l) (hb : Backed s k) :
    (s.resolve token none next).Dates l := by
  have hresolve : (s.resolve token none next).Dates (s.completions token none ++ l) :=
    dates_resolve h hb
  rwa [Screen.completions_none] at hresolve

/-- The submitter of a swap gives up its hold. -/
theorem dates_release {id : SwapId} (h : Dated s.swaps l) : (s.release id next).Dates l := by
  unfold Screen.release
  split
  · exact fun _ => h
  · rename_i w hw
    exact dates_settle fun b v hb => h.setBarrier hw ((h.barrier hw).release hb)

/-- What a swap leaves over is given up. -/
theorem dates_reclaim {id : SwapId} {verdict : Verdict} (h : Dated s.swaps l) :
    (s.reclaim id verdict next).Dates l := by
  unfold Screen.reclaim
  split
  · exact fun _ => h
  · dsimp only
    split
    · exact fun _ => h
    · exact fun _ => h

/-- A pipe is tried. -/
theorem dates_tryPipe {i : Nat} {p : Pipe} (h : Dated s.swaps l) : (s.tryPipe f i p).Dates l := by
  unfold Screen.tryPipe
  split
  · exact fun _ => h
  · rename_i token r hallocate
    dsimp only
    split
    · exact fun _ => h
    · rename_i w hw
      have hw : s.swaps[f.swap]? = some w := hw
      split
      · exact fun hunbroken => absurd rfl (hunbroken _)
      · rename_i b hb
        exact fun _ => h.setBarrier hw ((h.barrier hw).hold hb)

/-- The swap goes on to the next pipe. -/
theorem dates_fan (h : Dated s.swaps l) : (s.fan f).Dates l := by
  unfold Screen.fan
  split
  · exact fun _ => h
  · dsimp only
    split
    · exact fun _ => h
    · split_ifs
      · exact dates_tryPipe h
      · exact fun _ => h

/-- A flip is tried again, or it is given up because its pipe is disabled. -/
theorem dates_retry (h : Dated s.swaps l) (hb : Backed s k) : (s.retry a).Dates l := by
  unfold Screen.retry
  dsimp only
  split_ifs
  · exact fun _ => h
  · exact dates_abort h hb
  · exact fun _ => h

/-- Each step keeps the barriers up to date, with what is noted of it. -/
theorem step (h : Dated s.swaps l) (hb : Backed s (t.agenda ++ k)) :
    (s.step t).Dates (completing.step s t ++ l) := by
  cases t with
  | fan f => exact dates_fan h
  | retry a => exact dates_retry h hb
  | conclude f error => exact dates_release h
  | dispatch reports next =>
    cases reports with
    | nil => exact fun _ => h
    | cons report rest =>
      show (s.dispatch report _).Dates (completing.step s (.dispatch (report :: rest) next) ++ l)
      unfold Screen.dispatch completing
      dsimp only
      cases s.registry.forget? report.token with
      | some r => exact fun _ => h
      | none => exact dates_resolve h hb
  | abort events next =>
    cases events with
    | nil => exact fun _ => h
    | cons event rest =>
      -- An abort has no stamp, so nothing is noted of it.
      have hbacked : Backed s (.aborting [event] ++ ((Task.abort rest next).agenda ++ k)) :=
        hb.congr rfl rfl rfl rfl
      have hdeliver : (s.deliver event none (.abort rest next)).Dates
        (event.completions none ++ l) := dates_deliver h hbacked
      cases event with
      | flip f => exact hdeliver
      | plain client => exact hdeliver
  | reclaim id verdict next => exact dates_reclaim h
  | say notice next => exact fun _ => h
  | finish outcome => exact fun _ => h

end Dated

/-- The same until the operation comes to rest. -/
theorem Progress.Dates.proceed {k : Agenda} {l : List Completion} {p : Progress Follow}
    (h : p.Dates l) (hb : p.Backs k) (hunbroken : ∀ v, (Screen.proceed p).next ≠ .violated v) :
    Dated (Screen.proceed p).screen.swaps (completing.notes p ++ l) :=
  -- A step resolves only flips that are backed, so both invariants are carried at once.
  (completing.notes_induct
    (P := fun s f l => Progress.Backs k ⟨s, [], f⟩ ∧ Progress.Dates l ⟨s, [], f⟩)
    (fun _ _ _ ht => by
      have hbacked := ht.1 fun _ hv => by cases hv
      exact ⟨Backed.step hbacked, Dated.step (ht.2 fun _ hv => by cases hv) hbacked⟩)
    ⟨hb, h⟩).2 fun v hv => hunbroken v (Sum.inr.inj hv)

/-! ## From rest to rest -/

/-- What is noted of an operation before its first step. -/
def Operation.completions (s : Screen) : Operation → List Completion
  | resolve token stamp => s.completions token stamp
  | _ => []

namespace Dated

variable {s : Screen} {l : List Completion} {k : Agenda} {a : Attempt} {w : Wait}
  {p : Progress Follow}

/-- An operation starts. -/
theorem start {op : Operation} (h : Dated s.swaps l) (hb : Backed s k) (hop : op.isFair = true) :
    (s.start op).Dates (op.completions s ++ l) := by
  cases op with
  | disable crtc =>
    simp only [Screen.start, Screen.disable]
    split
    · exact fun _ => h
    · exact fun _ => h
  | enable crtc =>
    simp only [Screen.start, Screen.enable]
    split
    · exact fun _ => h
    · exact fun _ => h
  | enqueue crtc client =>
    simp only [Screen.start, Screen.enqueue]
    cases s.registry.allocate crtc (.plain client) with
    | none => exact fun _ => h
    | some tr => exact fun _ => h
  | resolve token stamp => exact dates_resolve h hb
  | settle f stamp => cases hop
  | release id => cases hop
  | _ => exact fun _ => h

/-- The channel accepted a flip. -/
theorem dates_accepted {now : Instant} (h : Dated s.swaps l) : (s.accepted a now).Dates l := by
  intro _
  cases hw : s.swaps[a.fanout.swap]? with
  | none =>
    simp only [Screen.accepted, hw]
    exact h
  | some w =>
    simp only [Screen.accepted, hw]
    exact h.setBarrier hw (h.barrier hw).markSubmitted

/-- The channel was read because it was full. -/
theorem dates_afterRead {result : Except ChannelError (Option (List Report))}
    (h : Dated s.swaps l) (hb : Backed s k) : (s.afterRead a result).Dates l := by
  rcases result with e | _ | reports
  · exact dates_abort h hb
  · simp only [Screen.afterRead]
    split_ifs
    · exact fun _ => h
    · exact dates_abort h hb
  · exact fun _ => h

/-- An operation that waits has its answer. -/
theorem resume {answer : Answer} (h : Dated s.swaps l) (hb : Backed s k)
    (hp : s.resume w answer = some p) : p.Dates l := by
  unfold Screen.resume at hp
  split at hp
  all_goals cases hp
  · exact fun _ => h.launch _ _ _ _
  · exact fun _ => h
  · exact dates_accepted h
  · exact dates_abort h hb
  · exact fun _ => h
  · exact fun _ => h
  · exact dates_afterRead h hb
  · rename_i result
    rcases result with e | _ | reports
    · exact fun _ => h
    · exact fun _ => h
    · exact fun _ => h
  · exact fun _ => h
  · exact fun _ => h
  · exact fun _ => h

end Dated

namespace Session

variable {s s' u : Session} {l : List Completion} {act : Act} {waits : List Wait}
  {p : Progress Follow}

/-- The completions that are noted of an act, the last first. -/
def completions (s : Session) : Act → List Completion
  | .call op => completing.notes (s.screen.start op) ++ op.completions s.screen
  | .answer a =>
    match s.waits with
    | [] => []
    | w :: _ => ((s.screen.resume w a).map completing.notes).getD []
  | .reorder _ => []

/-- The sessions to which acts lead, with the completions that are noted on the way, the last
first. -/
inductive Completes (s : Session) : List Completion → Session → Prop
  | refl : Completes s [] s
  | act {l : List Completion} {u v : Session} {a : Act} (h : Completes s l u)
      (hstep : u.step a = some v) : Completes s (u.completions a ++ l) v

/-- The completions that are noted of a row of acts, the last first. -/
def completionsOf (s : Session) : List Act → List Completion
  | [] => []
  | act :: acts =>
    match s.step act with
    | none => []
    | some u => u.completionsOf acts ++ s.completions act

/-- A row of acts adds its completions. -/
theorem Completes.play {acts : List Act} {v : Session} (h : s.Completes l u)
    (hplay : u.play acts = some v) : s.Completes (u.completionsOf acts ++ l) v := by
  induction acts generalizing u l with
  | nil =>
    obtain rfl : u = v := Option.some.inj hplay
    exact h
  | cons act acts ih =>
    obtain ⟨w, hstep, hplay⟩ := Option.bind_eq_some_iff.1 hplay
    have hnoted : u.completionsOf (act :: acts) = w.completionsOf acts ++ u.completions act := by
      simp only [completionsOf, hstep]
    rw [hnoted, List.append_assoc]
    exact ih (h.act hstep) hplay

/-- Completions can be noted of all that leads to a session. -/
theorem reaches_iff_completes : s.Reaches u ↔ ∃ l, s.Completes l u := by
  constructor
  · intro h
    induction h with
    | refl => exact ⟨[], .refl⟩
    | act _ hstep ih =>
      obtain ⟨l, h⟩ := ih
      exact ⟨_, h.act hstep⟩
  · rintro ⟨l, h⟩
    induction h with
    | refl => exact .refl
    | act _ hstep ih => exact ih.act hstep

/-- The barriers of a session that is not broken are up to date. -/
def Dates (s : Session) (l : List Completion) : Prop := s.violation = none → Dated s.screen.swaps l

/-- What is known of an operation that comes to rest is known of the session. -/
theorem dates_settle (h : p.Dates l) (hb : p.Backs (agendaOf waits)) :
    (settle waits (Screen.proceed p)).session.Dates (completing.notes p ++ l) := by
  have hproceed := h.proceed hb
  unfold settle
  split
  · rename_i w hw
    rw [hw] at hproceed
    exact fun _ => hproceed fun v hv => by cases hv
  · rename_i outcome hw
    rw [hw] at hproceed
    exact fun _ => hproceed fun v hv => by cases hv
  · exact fun hv => by cases hv

/-- Every act keeps the barriers up to date, with the completions that are noted of it. -/
theorem Dates.step (h : s.Dates l) (hb : s.Backs) (hstep : s.step act = some s') :
    s'.Dates (s.completions act ++ l) := by
  cases act with
  | call op =>
    simp only [Session.step] at hstep
    split_ifs at hstep with hop
    obtain ⟨t, ht, rfl⟩ := Option.map_eq_some_iff.1 hstep
    obtain ⟨hv, rfl⟩ := Session.of_call_eq_some ht
    have hop := ((Bool.and_eq_true _ _).mp hop).1
    show Dates _ (_ ++ _ ++ l)
    rw [List.append_assoc]
    exact dates_settle ((h hv).start (hb hv) hop) ((hb hv).start hop)
  | answer a =>
    obtain ⟨t, ht, rfl⟩ := Option.map_eq_some_iff.1 hstep
    obtain ⟨w, waits, p, hv, hwaits, hp, rfl⟩ := Session.of_answer_eq_some ht
    have hbacked := hb hv
    have hcompletions : s.completions (.answer a) = completing.notes p := by
      simp only [completions, hwaits, hp, Option.map_some, Option.getD_some]
    rw [hcompletions]
    refine dates_settle ((h hv).resume hbacked hp) ?_
    rw [Session.agenda, hwaits] at hbacked
    exact hbacked.resume hp
  | reorder table =>
    obtain ⟨-, -, rfl⟩ := of_reorder? hstep
    exact h

/-- In every session that is not broken, the barriers keep the stamps of the completions. -/
theorem dated_of_completes {pipes : List Pipe} {slots : List Framebuffer} {config : Config}
    (h : (new { Screen.new pipes config with slots := slots }).Completes l s)
    (hunbroken : s.violation = none) : Dated s.screen.swaps l := by
  have hbacks {l : List Completion} {u : Session}
      (h : (new { Screen.new pipes config with slots := slots }).Completes l u) : u.Backs :=
    fun hv => backed_of_reaches (reaches_iff_completes.2 ⟨l, h⟩) hv
  have hdates : s.Dates l := by
    clear hunbroken
    induction h with
    | refl => exact fun _ => ⟨nofun, List.forall_mem_nil _⟩
    | act hbefore hstep ih => exact ih.step (hbacks hbefore) hstep
  exact hdates hunbroken

end Session

end PageFlip
