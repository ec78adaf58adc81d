import PageFlip.Proofs.Aftermath
import PageFlip.Proofs.Unattended

/-!
# What resolving events comes to

A `Resolution` is an event that was handed out, with the stamp of its completion or none to abort
it, and `Aftermath.after` is what remains of some of them. With a stamp the same holds go and the
same framebuffers are given up as without: only what the barrier keeps of the stamps and what the
client is told is different. So but for the stamps (`Swap.unstamped`) the aftermath of resolutions
is that of the aborts of their events (`Aftermath.unstamped_after`).

Drains that read reports on pending tokens, where handlers only return, lead to this aftermath
(`Screen.drains_reports`).
-/

namespace PageFlip

/-- Only the stamps change when the result of a flip is noted. -/
theorem Tally.exists_record (t : Tally) (reference : Bool) (stamp : Option Stamp) :
    ∃ last first, t.record reference stamp =
      { t with referenceStamp := last, firstStamp := first } := by
  unfold record
  split
  · exact ⟨_, _, rfl⟩
  · split_ifs <;> exact ⟨_, _, rfl⟩

namespace Swap

/-- The swap without the stamps of its completed flips. -/
def unstamped (w : Swap) : Swap :=
  { w with barrier := { w.barrier with tally := w.barrier.tally.map fun t =>
      { t with referenceStamp := none, firstStamp := none } } }

/-- The outcome that comes with the resolution of a flip. -/
def verdict? (w : Swap) (reference : Bool) (stamp : Option Stamp) : Option Verdict :=
  w.barrier.tally.bind fun t => (w.barrier.drop (t.record reference stamp)).2

/-- The swap after a flip was resolved; as it is, if it has its outcome. -/
def resolved (w : Swap) (reference : Bool) (stamp : Option Stamp) : Swap :=
  match w.barrier.tally with
  | none => w
  | some t => { w with barrier := (w.barrier.drop (t.record reference stamp)).1 }

variable {w : Swap} {t : Tally} {reference : Bool} {stamp : Option Stamp}

/-- But for the stamps, it makes no difference whether a flip completes or is aborted. -/
theorem unstamped_resolved (w : Swap) (reference : Bool) (stamp : Option Stamp) :
    (w.resolved reference stamp).unstamped = w.unstamped.aborted := by
  obtain ⟨⟨newFb, oldFb, _ | t⟩, slot, client⟩ := w
  · rfl
  · obtain ⟨last, first, hrecord⟩ := t.exists_record reference stamp
    by_cases hlast : t.holds ≤ 1
    · simp only [resolved, unstamped, aborted, Option.map_some, Barrier.drop, hrecord, if_pos hlast,
        Option.map_none]
    · simp only [resolved, unstamped, aborted, Option.map_some, Barrier.drop, hrecord, if_neg hlast]

/-- The outcome comes whether the last flip completes or is aborted. -/
theorem isNone_verdict? (w : Swap) (reference : Bool) (stamp : Option Stamp) :
    (w.verdict? reference stamp).isNone = w.unstamped.abortVerdict?.isNone := by
  obtain ⟨⟨newFb, oldFb, _ | t⟩, slot, client⟩ := w
  · rfl
  · obtain ⟨last, first, hrecord⟩ := t.exists_record reference stamp
    by_cases hlast : t.holds ≤ 1
    · simp only [verdict?, unstamped, abortVerdict?, Option.map_some, Option.bind_some,
        Barrier.drop, hrecord, if_pos hlast, Option.isNone_some]
    · simp only [verdict?, unstamped, abortVerdict?, Option.map_some, Option.bind_some,
        Barrier.drop, hrecord, if_neg hlast, Option.isNone_none]

/-- What the client is told when a flip is resolved. -/
def resolvedNews (w : Swap) (reference : Bool) (stamp : Option Stamp) : List News :=
  (w.verdict? reference stamp).toList.map fun v => .swap w.client v.stamp

/-- The framebuffer that is given up when a flip is resolved, where another one was accepted. -/
def resolvedRemoved (w : Swap) (reference : Bool) (stamp : Option Stamp) : List Framebuffer :=
  if (w.verdict? reference stamp).isNone || w.barrier.oldFb.isNone then [] else [w.barrier.oldFb]

/-- The same framebuffer is given up whether the last flip completes or is aborted. -/
theorem resolvedRemoved_eq (w : Swap) (reference : Bool) (stamp : Option Stamp) :
    w.resolvedRemoved reference stamp = w.unstamped.abortRemoved := by
  rw [resolvedRemoved, isNone_verdict?]
  rfl

end Swap

/-- An event that was handed out, with the stamp of its completion; none if it is aborted. -/
structure Resolution where
  event : Event
  stamp : Option Stamp

namespace Resolution

/-- What resolving one event comes to. -/
def apply (x : Resolution) (swaps : List Swap) : Aftermath :=
  match x.event with
  | .plain client => ⟨swaps, [.event client x.stamp], []⟩
  | .flip f =>
    ⟨swaps.modify f.swap fun w => w.resolved f.reference x.stamp,
      (swaps[f.swap]?.map fun w => w.resolvedNews f.reference x.stamp).getD [],
      (swaps[f.swap]?.map fun w => w.resolvedRemoved f.reference x.stamp).getD []⟩

/-- To resolve an event without a stamp is to abort it. -/
theorem apply_none (event : Event) (swaps : List Swap) :
    (⟨event, none⟩ : Resolution).apply swaps = event.abort swaps := by
  cases event <;> rfl

/-- But for the stamps, to resolve an event comes to the same as to abort it. -/
theorem unstamped_apply (x : Resolution) (swaps : List Swap) :
    (x.apply swaps).swaps.map Swap.unstamped =
        (x.event.abort (swaps.map Swap.unstamped)).swaps ∧
      (x.apply swaps).removed = (x.event.abort (swaps.map Swap.unstamped)).removed := by
  obtain ⟨event, stamp⟩ := x
  cases event with
  | plain client => exact ⟨rfl, rfl⟩
  | flip f =>
    constructor
    · refine List.ext_getElem? fun j => ?_
      show ((swaps.modify f.swap _).map _)[j]? = ((swaps.map _).modify f.swap _)[j]?
      simp only [List.getElem?_map, List.getElem?_modify]
      cases swaps[j]? with
      | none => rfl
      | some w =>
        by_cases hj : f.swap = j
        · simp only [if_pos hj, Option.map_eq_map, Option.map_some, Swap.unstamped_resolved]
        · simp only [if_neg hj, Option.map_eq_map, Option.map_some]
    · show (swaps[f.swap]?.map _).getD [] = ((swaps.map _)[f.swap]?.map _).getD []
      rw [List.getElem?_map, Option.map_map]
      exact congrArg (fun f => (Option.map f _).getD [])
        (funext fun w => w.resolvedRemoved_eq f.reference stamp)

end Resolution

namespace Aftermath

variable {swaps : List Swap} {xs ys : List Resolution}

/-- What resolving some events comes to, one after the other. -/
def after (swaps : List Swap) : List Resolution → Aftermath
  | [] => ⟨swaps, [], []⟩
  | x :: xs =>
    ⟨(after (x.apply swaps).swaps xs).swaps,
      (x.apply swaps).news ++ (after (x.apply swaps).swaps xs).news,
      (x.apply swaps).removed ++ (after (x.apply swaps).swaps xs).removed⟩

/-- Events are resolved up to any of them and then from there. -/
theorem after_append : after swaps (xs ++ ys) =
    ⟨(after (after swaps xs).swaps ys).swaps,
      (after swaps xs).news ++ (after (after swaps xs).swaps ys).news,
      (after swaps xs).removed ++ (after (after swaps xs).swaps ys).removed⟩ := by
  induction xs generalizing swaps with
  | nil => rfl
  | cons x xs ih =>
    rw [List.cons_append, after, ih]
    simp only [after, List.append_assoc]

/-- To resolve events without stamps is to abort them. -/
theorem after_none (swaps : List Swap) (events : List Event) :
    after swaps (events.map fun event => ⟨event, none⟩) = of swaps events := by
  induction events generalizing swaps with
  | nil => rfl
  | cons event events ih =>
    simp only [List.map_cons, after, of, Resolution.apply_none, ih]

/-- But for the stamps, the swaps are as they are after aborts, and the same is given up. -/
theorem unstamped_after (swaps : List Swap) (xs : List Resolution) :
    (after swaps xs).swaps.map Swap.unstamped =
        (of (swaps.map Swap.unstamped) (xs.map Resolution.event)).swaps ∧
      (after swaps xs).removed =
        (of (swaps.map Swap.unstamped) (xs.map Resolution.event)).removed := by
  induction xs generalizing swaps with
  | nil => exact ⟨rfl, rfl⟩
  | cons x xs ih =>
    obtain ⟨hswaps, hremoved⟩ := x.unstamped_apply swaps
    obtain ⟨hswaps', hremoved'⟩ := ih (x.apply swaps).swaps
    rw [hswaps] at hswaps' hremoved'
    refine ⟨hswaps', ?_⟩
    simp only [after, of, List.map_cons, hremoved, hremoved']

end Aftermath

namespace Abortable

variable {swaps : List Swap} {events : List Event} {x : Resolution} {xs ys : List Resolution}

/-- Whether events can be aborted does not depend on stamps. -/
theorem unstamped_iff : Abortable (swaps.map Swap.unstamped) events ↔ Abortable swaps events := by
  refine forall₂_congr fun f _ => ?_
  simp only [List.getElem?_map]
  constructor
  · rintro ⟨_, _, hunstamped, htally, hholds, hsubmitted⟩
    obtain ⟨w, hw, rfl⟩ := Option.map_eq_some_iff.1 hunstamped
    obtain ⟨t, ht, rfl⟩ := Option.map_eq_some_iff.1 htally
    exact ⟨w, t, hw, ht, hholds, hsubmitted⟩
  · rintro ⟨w, t, hw, ht, hholds, hsubmitted⟩
    exact ⟨w.unstamped, { t with referenceStamp := none, firstStamp := none }, by rw [hw]; rfl,
      Option.map_eq_some_iff.2 ⟨t, ht, rfl⟩, hholds, hsubmitted⟩

/-- The others can still be resolved after one was. -/
theorem apply (h : Abortable swaps (x.event :: events)) :
    Abortable (x.apply swaps).swaps events := by
  rw [← unstamped_iff, (x.unstamped_apply swaps).1]
  exact (unstamped_iff.2 h).abort

/-- The others can still be resolved after some were. -/
theorem of_append_map (h : Abortable swaps ((xs ++ ys).map Resolution.event)) :
    Abortable (Aftermath.after swaps xs).swaps (ys.map Resolution.event) := by
  rw [← unstamped_iff, (Aftermath.unstamped_after swaps xs).1]
  rw [List.map_append] at h
  exact (unstamped_iff.2 h).of_append

end Abortable

namespace Screen

/-- The screen with its swaps as they are after some events were resolved. -/
def settled (s : Screen) (k : Aftermath) : Screen := { s with swaps := k.swaps }

/-- The barrier of a swap after one of its flips was resolved. -/
theorem setBarrier_drop {s : Screen} {f : Flip} {stamp : Option Stamp} {w : Swap} {t : Tally}
    (hw : s.swaps[f.swap]? = some w) (ht : w.barrier.tally = some t) :
    s.setBarrier f.swap (w.barrier.drop (t.record f.reference stamp)).1 =
      s.settled ((⟨.flip f, stamp⟩ : Resolution).apply s.swaps) := by
  have hswaps : s.swaps.modify f.swap
        (fun x => { x with barrier := (w.barrier.drop (t.record f.reference stamp)).1 }) =
      s.swaps.modify f.swap fun x => x.resolved f.reference stamp := by
    refine List.ext_getElem? fun j => ?_
    rw [List.getElem?_modify, List.getElem?_modify]
    by_cases hj : f.swap = j
    · subst hj
      rw [hw]
      simp only [Option.map_eq_map, Option.map_some, if_true, Swap.resolved, ht]
    · simp only [if_neg hj]
  rw [setBarrier, hswaps]
  rfl

end Screen

namespace Registry

variable {α : Type} {r : Registry α} {t u : Token} {tokens : List Token}

/-- The events that wait under some tokens. -/
def eventsAt (r : Registry α) (tokens : List Token) : List α :=
  tokens.filterMap fun t => (r.pending.find? t).map Pending.event

/-- The registry in which some tokens are no longer pending. -/
def without (r : Registry α) (tokens : List Token) : Registry α :=
  { r with pending := tokens.foldl Table.erase r.pending }

/-- The other tokens are pending as they were. -/
theorem pending_without (r : Registry α) (tokens : List Token) (u : Token) :
    (r.without tokens).pending.find? u = if u ∈ tokens then none else r.pending.find? u := by
  show (tokens.foldl Table.erase r.pending).find? u = _
  generalize r.pending = pending
  induction tokens generalizing pending with
  | nil => rfl
  | cons t tokens ih =>
    rw [List.foldl_cons, ih, Table.find?_erase]
    by_cases hmem : u ∈ tokens
    · rw [if_pos hmem, if_pos (List.mem_cons_of_mem t hmem)]
    · by_cases hu : u = t
      · rw [if_neg hmem, if_pos hu, if_pos (hu ▸ List.mem_cons_self)]
      · rw [if_neg hmem, if_neg hu, if_neg fun h => (List.mem_cons.1 h).elim hu hmem]

/-- Other tokens are as pending as they were. -/
theorem isPending_without (h : u ∉ tokens) : (r.without tokens).isPending u = r.isPending u := by
  rw [isPending, isPending, Table.contains_eq_isSome_find?, Table.contains_eq_isSome_find?,
    pending_without, if_neg h]

/-- Tokens are left out up to any of them and then from there. -/
theorem without_append (r : Registry α) (tokens more : List Token) :
    r.without (tokens ++ more) = (r.without tokens).without more := by
  simp only [without, List.foldl_append]

/-- A pending token that is not retired is handed out. -/
theorem exists_resolve (hdisjoint : r.Disjoint) (ht : r.isPending t = true) :
    ∃ p, r.pending.find? t = some p ∧ r.forget? t = none ∧
      r.resolve t = .ok (p.event, r.without [t]) := by
  obtain ⟨p, hp⟩ := isPending_iff.1 ht
  refine ⟨p, hp, ?_, ?_⟩
  · rw [forget?_eq_none_iff]
    refine (hdisjoint t).resolve_left ?_
    rw [hp]
    exact Option.some_ne_none p
  · simp only [resolve, hp]
    rfl

/-- No token comes to be both pending and retired. -/
theorem Disjoint.without (h : r.Disjoint) (tokens : List Token) : (r.without tokens).Disjoint := by
  intro u
  rw [pending_without]
  split_ifs
  · exact .inl rfl
  · exact h u

/-- The events that wait under the tokens of some reports, with the stamps that are reported. -/
def resolutions (r : Registry Event) (reports : List Report) : List Resolution :=
  reports.filterMap fun report =>
    (r.pending.find? report.token).map fun p => ⟨p.event, report.stamp?⟩

/-- Other tokens make no difference to what some reports resolve. -/
theorem resolutions_without {r : Registry Event} {reports : List Report}
    (h : ∀ report ∈ reports, report.token ∉ tokens) :
    (r.without tokens).resolutions reports = r.resolutions reports := by
  refine List.filterMap_congr fun report hreport => ?_
  rw [pending_without, if_neg (h report hreport)]

/-- Reports that tokens were aborted resolve their events without stamps. -/
theorem resolutions_abort (r : Registry Event) (tokens : List Token) :
    r.resolutions (tokens.map .abort) = (r.eventsAt tokens).map fun event => ⟨event, none⟩ := by
  rw [resolutions, eventsAt, List.filterMap_map, List.map_filterMap]
  refine List.filterMap_congr fun t _ => ?_
  simp only [Function.comp_apply, Report.token, Report.stamp?, Option.map_map]
  rfl

/-- What is resolved are the events of the tokens. -/
theorem events_resolutions (r : Registry Event) (reports : List Report) :
    (r.resolutions reports).map Resolution.event = r.eventsAt (reports.map Report.token) := by
  rw [resolutions, eventsAt, List.map_filterMap, List.filterMap_map]
  refine List.filterMap_congr fun report _ => ?_
  simp only [Function.comp_apply, Option.map_map]
  rfl

end Registry

namespace Follow.Unattended

variable {s s' : Screen} {x : Resolution} {next : Task} {ns : List News} {fbs : List Framebuffer}
  {o : Outcome} {events : List Event} {reports : List Report}

/-- An event that was handed out is resolved. -/
theorem deliver (habort : Abortable s.swaps (x.event :: events))
    (h : Follow.Unattended (s.settled (x.apply s.swaps)) (.inl next) ns fbs s' o) :
    Follow.Unattended (s.deliver x.event x.stamp next).screen (s.deliver x.event x.stamp next).next
      ((x.apply s.swaps).news ++ ns) ((x.apply s.swaps).removed ++ fbs) s' o := by
  obtain ⟨event, stamp⟩ := x
  cases event with
  | plain client => exact .telling h
  | flip f =>
    obtain ⟨w, t, hw, ht, -, hsubmitted⟩ := habort f List.mem_cons_self
    rw [← Screen.setBarrier_drop hw ht] at h
    have hq : s.deliver (.flip f) stamp next =
        s.settle f.swap (.ok (w.barrier.drop (t.record f.reference stamp))) w.client next := by
      simp only [Screen.deliver, Screen.settleFlip, hw, Barrier.resolve, ht]
    show Follow.Unattended (s.deliver (.flip f) stamp next).screen _ _ _ _ _
    rw [hq]
    simp only [Resolution.apply, hw, Option.map_some, Option.getD_some, Swap.resolvedNews,
      Swap.resolvedRemoved, Swap.verdict?, ht, Option.bind_some]
    cases hdrop : w.barrier.drop (t.record f.reference stamp) with
    | mk b v =>
      rw [hdrop] at h
      cases v with
      | none => exact h
      | some v =>
        -- The swap has an accepted flip, so it took effect.
        have hb : b.oldFb = w.barrier.oldFb ∧ v.tookEffect = true := by
          obtain ⟨-, rfl, hv⟩ | ⟨-, -, hv⟩ := Barrier.of_drop_eq hdrop
          · cases hv
            refine ⟨rfl, (Bool.or_eq_true _ _).mpr (.inr ?_)⟩
            exact (t.submitted_record _ _).trans hsubmitted
          · cases hv
        have hw' : (s.setBarrier f.swap b).swaps[f.swap]? = some { w with barrier := b } := by
          rw [Screen.getElem?_setBarrier hw, if_pos rfl]
        have hreclaim := reclaim hw' hb.2 h
        rw [hb.1] at hreclaim
        exact .telling hreclaim

/-- Reports on pending tokens are dispatched, one after the other. -/
theorem dispatch (hdisjoint : s.registry.Disjoint) (hnodup : (reports.map Report.token).Nodup)
    (hpending : ∀ report ∈ reports, s.registry.isPending report.token = true)
    (habort : Abortable s.swaps ((s.registry.resolutions reports).map Resolution.event))
    (h : Follow.Unattended
      ((s.setRegistry (s.registry.without (reports.map Report.token))).settled
        (.after s.swaps (s.registry.resolutions reports))) (.inl next) ns fbs s' o) :
    Follow.Unattended s (.inl (.dispatch reports next))
      ((Aftermath.after s.swaps (s.registry.resolutions reports)).news ++ ns)
      ((Aftermath.after s.swaps (s.registry.resolutions reports)).removed ++ fbs) s' o := by
  induction reports generalizing s with
  | nil => exact .step h
  | cons report reports ih =>
    obtain ⟨hnew, hnodup⟩ := List.nodup_cons.1 hnodup
    obtain ⟨ht, hrest⟩ := List.forall_mem_cons.1 hpending
    obtain ⟨p, hp, hforget, hresolve⟩ := Registry.exists_resolve hdisjoint ht
    let x : Resolution := ⟨p.event, report.stamp?⟩
    have hx : s.registry.resolutions (report :: reports) = x :: s.registry.resolutions reports := by
      rw [Registry.resolutions, List.filterMap_cons, hp]
      rfl
    rw [hx] at h habort ⊢
    -- The other reports are on other tokens, so they resolve what they would have resolved before.
    have hothers : ∀ r ∈ reports, r.token ∉ [report.token] := by
      intro r hr hmem
      rw [List.mem_singleton] at hmem
      exact hnew (hmem ▸ List.mem_map_of_mem hr)
    have hsame := Registry.resolutions_without (r := s.registry) hothers
    have hq : s.step (.dispatch (report :: reports) next) =
        (s.setRegistry (s.registry.without [report.token])).deliver x.event x.stamp
          (.dispatch reports next) := by
      show s.dispatch report (.dispatch reports next) = _
      simp only [Screen.dispatch, hforget, Screen.resolve, hresolve]
      rfl
    refine .step ?_
    rw [hq]
    simp only [Aftermath.after, List.append_assoc]
    refine deliver (s := s.setRegistry (s.registry.without [report.token])) habort ?_
    rw [← hsame]
    refine ih (hdisjoint.without _) hnodup (fun r hr => ?_) ?_ ?_
    · exact (Registry.isPending_without (hothers r hr)).trans (hrest r hr)
    · show Abortable (x.apply s.swaps).swaps
        (((s.registry.without [report.token]).resolutions reports).map Resolution.event)
      rw [hsame]
      exact habort.apply
    · show Follow.Unattended
        ((s.setRegistry (s.registry.without ((report :: reports).map Report.token))).settled
          (.after (x.apply s.swaps).swaps
            ((s.registry.without [report.token]).resolutions reports))) _ _ _ _ _
      rw [hsame]
      exact h

end Follow.Unattended

namespace Screen

variable {s : Screen} {reports : List Report} {batches : List (List Report)}

/-- A drain reads reports on pending tokens. -/
theorem unattended_drain (hdisjoint : s.registry.Disjoint)
    (hnodup : (reports.map Report.token).Nodup)
    (hpending : ∀ report ∈ reports, s.registry.isPending report.token = true)
    (habort : Abortable s.swaps ((s.registry.resolutions reports).map Resolution.event)) :
    ∃ t u, (Session.new s).call .drain = some t ∧
      t.session.answer (.read (.ok (some reports))) = some u ∧
      u.Unattended (Aftermath.after s.swaps (s.registry.resolutions reports)).news
        (Aftermath.after s.swaps (s.registry.resolutions reports)).removed
        ((s.setRegistry (s.registry.without (reports.map Report.token))).settled
          (.after s.swaps (s.registry.resolutions reports)))
        (.drained (.ok (.handled reports.length))) := by
  let o : Outcome := .drained (.ok (.handled reports.length))
  have hfinish (s' : Screen) : Follow.Unattended s' (.inl (.finish o)) [] [] s' o :=
    .step .finished
  have hend := Follow.Unattended.dispatch hdisjoint hnodup hpending habort (hfinish _)
  rw [List.append_nil, List.append_nil] at hend
  exact ⟨_, _, rfl, rfl, hend.turn _⟩

/-- Drains read reports on pending tokens, in some batches. -/
theorem drains_reports (hdisjoint : s.registry.Disjoint)
    (hnodup : (batches.flatten.map Report.token).Nodup)
    (hpending : ∀ report ∈ batches.flatten, s.registry.isPending report.token = true)
    (habort : Abortable s.swaps
      ((s.registry.resolutions batches.flatten).map Resolution.event)) :
    s.Drains batches (Aftermath.after s.swaps (s.registry.resolutions batches.flatten)).news
      (Aftermath.after s.swaps (s.registry.resolutions batches.flatten)).removed
      ((s.setRegistry (s.registry.without (batches.flatten.map Report.token))).settled
        (.after s.swaps (s.registry.resolutions batches.flatten))) := by
  induction batches generalizing s with
  | nil => exact .nil
  | cons reports batches ih =>
    rw [List.flatten_cons, List.map_append] at hnodup
    rw [List.flatten_cons] at hpending habort ⊢
    obtain ⟨hfirst, hlater, hapart⟩ := List.nodup_append.1 hnodup
    have happend : s.registry.resolutions (reports ++ batches.flatten) =
        s.registry.resolutions reports ++ s.registry.resolutions batches.flatten :=
      List.filterMap_append
    rw [happend] at habort ⊢
    have hothers : ∀ r ∈ batches.flatten, r.token ∉ reports.map Report.token :=
      fun r hr hmem => hapart _ hmem _ (List.mem_map_of_mem hr) rfl
    have hsame := Registry.resolutions_without (r := s.registry) hothers
    let s₁ := (s.setRegistry (s.registry.without (reports.map Report.token))).settled
      (.after s.swaps (s.registry.resolutions reports))
    obtain ⟨t, u, ht, hu, hend⟩ := unattended_drain hdisjoint hfirst
      (fun r hr => hpending r (List.mem_append_left _ hr))
      (habort.subperm ((List.sublist_append_left _ _).map _).subperm)
    have hrest := ih (s := s₁) (hdisjoint.without _) hlater (fun r hr => ?_) ?_
    · rw [show s₁.registry = s.registry.without (reports.map Report.token) from rfl, hsame,
        ← Registry.without_append, ← List.map_append] at hrest
      rw [Aftermath.after_append]
      exact .cons ht hu hend hrest
    · exact (Registry.isPending_without (hothers r hr)).trans
        (hpending r (List.mem_append_right _ hr))
    · show Abortable (Aftermath.after s.swaps (s.registry.resolutions reports)).swaps
        (((s.registry.without (reports.map Report.token)).resolutions batches.flatten).map
          Resolution.event)
      rw [hsame]
      exact habort.of_append_map

end Screen

end PageFlip
