import Mathlib.Data.List.Nodup
import PageFlip.Proofs.Dates
import PageFlip.Proofs.Hiding
import PageFlip.Proofs.Marks
import PageFlip.Proofs.Resolving

/-!
# The order of reports makes no difference

Reports on pending tokens are read by some drains, where handlers only return. In whatever order
they come and however they are divided among the drains, the same tokens, slots and holds are left,
the same swaps have their outcome and the same framebuffers are given up
(`Session.drains_alike_in_any_order`). Only a swap with several completed reference flips, or with
none, can be told to have been shown at another stamp.

The swaps are followed without their stamps, for which the order of aborts is known to make no
difference (`Aftermath.of_perm`). What the clients are told is read off the swaps that got their
outcome (`finalized`) and off the completions of each (`Aftermath.news_after`).
-/

namespace PageFlip

/-! ## Swaps that get their outcome -/

/-- Whether a swap has its outcome. -/
def HasOutcome (swaps : List Swap) (id : SwapId) : Bool :=
  (swaps[id]?).any fun w => w.barrier.isFinal

/-- The swaps that have their outcome only afterwards. -/
def finalized (before after : List Swap) : List SwapId :=
  (List.range before.length).filter fun id => !HasOutcome before id && HasOutcome after id

section Finalized

variable {a b c : List Swap} {id : SwapId} {w : Swap}

/-- No swap gets its outcome twice. -/
theorem nodup_finalized (a b : List Swap) : (finalized a b).Nodup :=
  List.nodup_range.filter _

/-- A swap gets its outcome if it had none before. -/
theorem mem_finalized_iff : id ∈ finalized a b ↔
    id < a.length ∧ HasOutcome a id = false ∧ HasOutcome b id = true := by
  simp [finalized]

/-- A swap has its outcome if its barrier says so. -/
theorem hasOutcome_of_getElem? (hw : a[id]? = some w) : HasOutcome a id = w.barrier.isFinal := by
  rw [HasOutcome, hw]
  rfl

/-- Stamps make no difference to the holds. -/
theorem outstanding_unstamped (w : Swap) :
    w.unstamped.barrier.outstanding = w.barrier.outstanding := by
  obtain ⟨⟨newFb, oldFb, _ | t⟩, slot, client⟩ := w <;> rfl

/-- Stamps make no difference to whether a swap has its outcome. -/
theorem hasOutcome_unstamped (swaps : List Swap) (id : SwapId) :
    HasOutcome (swaps.map Swap.unstamped) id = HasOutcome swaps id := by
  rw [HasOutcome, HasOutcome, List.getElem?_map, Option.any_map]
  congr 1
  funext w
  exact Option.isNone_map

/-- No swap gets its outcome if nothing changes. -/
theorem finalized_self (a : List Swap) : finalized a a = [] := by
  refine List.eq_nil_iff_forall_not_mem.2 fun id hid => ?_
  obtain ⟨-, hbefore, hafter⟩ := mem_finalized_iff.1 hid
  cases hbefore.symm.trans hafter

/-- If only one swap changes, no other one gets its outcome. -/
theorem finalized_of_single (hlt : id < a.length) (hopen : HasOutcome a id = false)
    (hothers : ∀ j, j ≠ id → HasOutcome b j = HasOutcome a j) :
    finalized a b = if HasOutcome b id then [id] else [] := by
  have hmem (j : SwapId) : j ∈ finalized a b ↔ j = id ∧ HasOutcome b id = true := by
    rw [mem_finalized_iff]
    constructor
    · rintro ⟨-, hbefore, hafter⟩
      by_cases hj : j = id
      · exact ⟨hj, hj ▸ hafter⟩
      · rw [hothers j hj, hbefore] at hafter
        cases hafter
    · rintro ⟨rfl, hafter⟩
      exact ⟨hlt, hopen, hafter⟩
  split_ifs with houtcome
  · refine List.perm_singleton.1 ((List.perm_ext_iff_of_nodup (nodup_finalized _ _)
      (List.nodup_singleton id)).2 fun j => ?_)
    rw [hmem, List.mem_singleton, and_iff_left houtcome]
  · exact List.eq_nil_iff_forall_not_mem.2 fun j hj => houtcome ((hmem j).1 hj).2

/-- The swaps that get their outcome one after the other. -/
theorem finalized_trans (hlength : b.length = a.length)
    (hab : ∀ id, HasOutcome a id = true → HasOutcome b id = true)
    (hbc : ∀ id, HasOutcome b id = true → HasOutcome c id = true) :
    (finalized a b ++ finalized b c).Perm (finalized a c) := by
  have hnodup : (finalized a b ++ finalized b c).Nodup := by
    refine List.nodup_append.2 ⟨nodup_finalized a b, nodup_finalized b c, ?_⟩
    rintro id hid _ hid' rfl
    have hb := (mem_finalized_iff.1 hid).2.2
    rw [(mem_finalized_iff.1 hid').2.1] at hb
    cases hb
  refine (List.perm_ext_iff_of_nodup hnodup (nodup_finalized a c)).2 fun id => ?_
  rw [List.mem_append, mem_finalized_iff, mem_finalized_iff, mem_finalized_iff, hlength]
  constructor
  · rintro (⟨hlt, ha, hb⟩ | ⟨hlt, hb, hc⟩)
    · exact ⟨hlt, ha, hbc id hb⟩
    · refine ⟨hlt, Bool.eq_false_iff.2 fun ha => ?_, hc⟩
      rw [hab id ha] at hb
      cases hb
  · rintro ⟨hlt, ha, hc⟩
    cases hb : HasOutcome b id with
    | true => exact .inl ⟨hlt, ha, rfl⟩
    | false => exact .inr ⟨hlt, rfl, hc⟩

end Finalized

/-- What the client of a swap is told, given the completions of all swaps. -/
def newsOf (swaps : List Swap) (l : List Completion) (id : SwapId) : Option News :=
  swaps[id]?.map fun w => .swap w.client (Completion.shown l id)

/-! ## One event -/

namespace Resolution

variable {x : Resolution} {swaps : List Swap} {l : List Completion} {id : SwapId}

/-- The completion that a resolution tells of, if it does. -/
def completions (x : Resolution) : List Completion := x.event.completions x.stamp

/-- What the client of an event of its own is told. -/
def told? (x : Resolution) : Option News :=
  match x.event with
  | .plain client => some (.event client x.stamp)
  | .flip _ => none

/-- Only the swap of the flip that is resolved changes. -/
theorem getElem?_apply (x : Resolution) (swaps : List Swap) (id : SwapId) :
    (x.apply swaps).swaps[id]? = swaps[id]?.map fun w =>
      match x.event with
      | .flip f => if f.swap = id then w.resolved f.reference x.stamp else w
      | .plain _ => w := by
  obtain ⟨event, stamp⟩ := x
  cases event with
  | plain client => exact Option.map_id'.symm
  | flip f =>
    show (swaps.modify f.swap _)[id]? = _
    rw [List.getElem?_modify]
    by_cases hid : f.swap = id
    · simp only [if_pos hid, Option.map_eq_map]
    · simp only [if_neg hid, Option.map_eq_map]

/-- No swap comes or goes. -/
theorem length_apply (x : Resolution) (swaps : List Swap) :
    (x.apply swaps).swaps.length = swaps.length := by
  obtain ⟨event, stamp⟩ := x
  cases event with
  | plain client => rfl
  | flip f => exact List.length_modify _ _ _

/-- A swap that has its outcome keeps it. -/
theorem hasOutcome_apply (h : HasOutcome swaps id = true) :
    HasOutcome (x.apply swaps).swaps id = true := by
  rw [HasOutcome, Option.any_eq_true] at h
  obtain ⟨w, hw, hfinal⟩ := h
  rw [HasOutcome, getElem?_apply, hw]
  obtain ⟨event, stamp⟩ := x
  cases event with
  | plain client => exact hfinal
  | flip f =>
    simp only [Option.map_some, Option.any_some]
    split_ifs
    · rw [Barrier.isFinal, Option.isNone_iff_eq_none] at hfinal
      rw [Swap.resolved, hfinal]
      dsimp only
      rw [Barrier.isFinal, hfinal]
      rfl
    · exact hfinal

/-- The client of a swap stays the same. -/
theorem newsOf_apply (x : Resolution) (swaps : List Swap) (l : List Completion) :
    newsOf (x.apply swaps).swaps l = newsOf swaps l := by
  funext id
  rw [newsOf, newsOf, getElem?_apply, Option.map_map]
  congr 1
  funext w
  obtain ⟨event, stamp⟩ := x
  cases event with
  | plain client => rfl
  | flip f =>
    simp only [Function.comp_apply]
    split_ifs
    · unfold Swap.resolved
      split <;> rfl
    · rfl

/-- The barriers stay up to date when an event is resolved. -/
theorem dated_apply (h : Dated swaps l) (habort : Abortable swaps [x.event]) :
    Dated (x.apply swaps).swaps (x.completions ++ l) := by
  obtain ⟨event, stamp⟩ := x
  cases event with
  | plain client => exact h
  | flip f =>
    obtain ⟨w, t, hw, ht, -, -⟩ := habort f List.mem_cons_self
    have hb : w.barrier.resolve f.reference stamp =
        .ok (w.barrier.drop (t.record f.reference stamp)) := by
      simp only [Barrier.resolve, ht]
    refine h.of_resolve (List.getElem?_eq_some_iff.1 hw).1 (length_apply _ _) (fun x hx => ?_)
      fun id hid => ?_
    · rw [getElem?_apply, hw] at hx
      simp only [Option.map_some, if_true, Swap.resolved, ht, Option.some.injEq] at hx
      subst hx
      exact (h.barrier hw).resolve (v := (w.barrier.drop (t.record f.reference stamp)).2) hb
    · rw [getElem?_apply]
      simp only [if_neg (Ne.symm hid), Option.map_id']

/-- The swap of a flip gets its outcome with it, if the flip was the last hold. -/
theorem finalized_flip {f : Flip} {w : Swap} {t : Tally} (hw : swaps[f.swap]? = some w)
    (ht : w.barrier.tally = some t) (stamp : Option Stamp) :
    finalized swaps ((⟨.flip f, stamp⟩ : Resolution).apply swaps).swaps =
      if (w.barrier.drop (t.record f.reference stamp)).2.isSome then [f.swap] else [] := by
  let x : Resolution := ⟨.flip f, stamp⟩
  have hw' : (x.apply swaps).swaps[f.swap]? =
      some { w with barrier := (w.barrier.drop (t.record f.reference stamp)).1 } := by
    rw [getElem?_apply, hw]
    simp only [x, Option.map_some, if_pos, Swap.resolved, ht]
  have hbefore : HasOutcome swaps f.swap = false := by
    rw [hasOutcome_of_getElem? hw, Barrier.isFinal, ht]
    rfl
  have hafter : HasOutcome (x.apply swaps).swaps f.swap =
      (w.barrier.drop (t.record f.reference stamp)).2.isSome := by
    rw [hasOutcome_of_getElem? hw']
    exact (Barrier.isFinal_drop _ _).1
  rw [← hafter]
  refine finalized_of_single (List.getElem?_eq_some_iff.1 hw).1 hbefore fun id hid => ?_
  rw [HasOutcome, HasOutcome, getElem?_apply]
  simp only [if_neg (Ne.symm hid), Option.map_id']

/-- A client hears of an event of its own, or of the outcome of the swap that gets it. -/
theorem news_apply (h : Dated swaps l) (habort : Abortable swaps [x.event]) :
    (x.apply swaps).news.Perm (x.told?.toList ++
      (finalized swaps (x.apply swaps).swaps).filterMap (newsOf swaps (x.completions ++ l))) := by
  obtain ⟨event, stamp⟩ := x
  cases event with
  | plain client =>
    show [News.event client stamp].Perm
      ([News.event client stamp] ++ (finalized swaps swaps).filterMap _)
    rw [finalized_self]
    exact .refl _
  | flip f =>
    obtain ⟨w, t, hw, ht, -, -⟩ := habort f List.mem_cons_self
    have hfinalized := finalized_flip hw ht stamp
    show ((swaps[f.swap]?.map _).getD []).Perm
      ([] ++ (finalized swaps ((⟨.flip f, stamp⟩ : Resolution).apply swaps).swaps).filterMap _)
    rw [hw, Option.map_some, Option.getD_some, List.nil_append, Swap.resolvedNews, Swap.verdict?,
      ht, Option.bind_some, hfinalized]
    cases hverdict : (w.barrier.drop (t.record f.reference stamp)).2 with
    | none => exact .refl _
    | some v =>
      have hv : (t.record f.reference stamp).verdict = v := by
        unfold Barrier.drop at hverdict
        split_ifs at hverdict
        exact Option.some.inj hverdict
      -- The barrier keeps the stamps, and this one is noted before the hold goes.
      have hdated : (t.record f.reference stamp).Dated (f.completions stamp ++ l) f.swap := by
        cases stamp with
        | none => exact h.barrier hw t ht
        | some stamp => exact (h.barrier hw t ht).record f.reference stamp
      have hstamp : v.stamp = Completion.shown (f.completions stamp ++ l) f.swap :=
        hv ▸ hdated.verdict
      have hnews : newsOf swaps (f.completions stamp ++ l) f.swap =
          some (.swap w.client v.stamp) := by
        rw [newsOf, hw, Option.map_some, hstamp]
      show [News.swap w.client v.stamp].Perm
        ([f.swap].filterMap (newsOf swaps (f.completions stamp ++ l)))
      rw [List.filterMap_cons_some hnews]
      exact .refl _

end Resolution

/-! ## Many events -/

/-- The completions that some resolutions tell of, the last first. -/
def Completion.among (xs : List Resolution) : List Completion :=
  (xs.flatMap Resolution.completions).reverse

namespace Aftermath

variable {swaps : List Swap} {l : List Completion} {xs xs' : List Resolution} {id : SwapId}

/-- A swap that has its outcome keeps it, whatever is resolved. -/
theorem hasOutcome_after (h : HasOutcome swaps id = true) :
    HasOutcome (after swaps xs).swaps id = true := by
  induction xs generalizing swaps with
  | nil => exact h
  | cons x xs ih => exact ih (Resolution.hasOutcome_apply h)

/-- Nothing more is resolved of a swap that has its outcome. -/
theorem ne_of_hasOutcome (habort : Abortable swaps (xs.map Resolution.event))
    (h : HasOutcome swaps id = true) : ∀ c ∈ Completion.among xs, c.swap ≠ id := by
  rintro c hc rfl
  obtain ⟨⟨event, stamp⟩, hx, hc⟩ := List.mem_flatMap.1 (List.mem_reverse.1 hc)
  cases event with
  | plain client => cases hc
  | flip f =>
    obtain ⟨stamp, -, rfl⟩ := List.mem_map.1 hc
    obtain ⟨w, t, hw, ht, -, -⟩ := habort f (List.mem_map_of_mem hx)
    rw [hasOutcome_of_getElem? hw, Barrier.isFinal, ht] at h
    cases h

/-- The clients hear of their own events, and of the outcomes of the swaps that get them. -/
theorem news_after (h : Dated swaps l) (habort : Abortable swaps (xs.map Resolution.event)) :
    (after swaps xs).news.Perm (xs.filterMap Resolution.told? ++
      (finalized swaps (after swaps xs).swaps).filterMap
        (newsOf swaps (Completion.among xs ++ l))) := by
  induction xs generalizing swaps l with
  | nil =>
    show [].Perm ([] ++ (finalized swaps swaps).filterMap _)
    rw [finalized_self]
    exact .refl _
  | cons x xs ih =>
    let mid := (x.apply swaps).swaps
    let last := (after mid xs).swaps
    have hone : Abortable swaps [x.event] :=
      habort.subperm (List.singleton_sublist.2 List.mem_cons_self).subperm
    have hfirst := Resolution.news_apply h hone
    have hrest := ih (Resolution.dated_apply h hone) (habort : Abortable swaps (_ :: _)).apply
    have hlist : Completion.among (x :: xs) ++ l =
        Completion.among xs ++ (x.completions ++ l) := by
      have hreverse : x.completions.reverse = x.completions := by
        obtain ⟨_ | f, _ | stamp⟩ := x <;> rfl
      rw [Completion.among, List.flatMap_cons, List.reverse_append, hreverse, List.append_assoc]
      rfl
    -- Of a swap that has its outcome no further flip completes.
    have hsame : (finalized swaps mid).filterMap (newsOf swaps (x.completions ++ l)) =
        (finalized swaps mid).filterMap (newsOf swaps (Completion.among (x :: xs) ++ l)) := by
      refine List.filterMap_congr fun id hid => ?_
      have houtcome := (mem_finalized_iff.1 hid).2.2
      rw [newsOf, newsOf, hlist, Completion.shown_append
        (ne_of_hasOutcome (habort : Abortable swaps (_ :: _)).apply houtcome)]
    rw [hsame] at hfirst
    rw [Resolution.newsOf_apply, ← hlist] at hrest
    have hfinalized : (finalized swaps mid ++ finalized mid last).Perm (finalized swaps last) :=
      finalized_trans (x.length_apply swaps) (fun _ => Resolution.hasOutcome_apply)
        fun _ => hasOutcome_after
    have htold : (x :: xs).filterMap Resolution.told? =
        x.told?.toList ++ xs.filterMap Resolution.told? := by
      rw [List.filterMap_cons]
      cases x.told? <;> rfl
    let news := newsOf swaps (Completion.among (x :: xs) ++ l)
    let later := xs.filterMap Resolution.told?
    calc
      List.Perm (after swaps (x :: xs)).news
          (x.told?.toList ++ (finalized swaps mid).filterMap news ++
            (later ++ (finalized mid last).filterMap news)) := hfirst.append hrest
      List.Perm _ (x.told?.toList ++ later ++
          ((finalized swaps mid).filterMap news ++ (finalized mid last).filterMap news)) := by
        rw [List.append_assoc, List.append_assoc]
        exact (List.perm_append_comm_assoc _ _ _).append_left _
      List.Perm _ ((x :: xs).filterMap Resolution.told? ++
          (finalized swaps last).filterMap news) := by
        rw [htold, ← List.filterMap_append]
        exact (hfinalized.filterMap _).append_left _

end Aftermath

namespace Registry

variable {α : Type} {r : Registry α} {tokens tokens' : List Token}

/-- The entry of a pending token. -/
def entryAt (r : Registry α) (t : Token) : Option (Token × Pending α) :=
  (r.pending.find? t).map fun p => (t, p)

/-- Different tokens have different entries. -/
theorem eventsAt_subperm (h : tokens.Nodup) : (r.eventsAt tokens).Subperm r.events := by
  have hfst : ((tokens.filterMap r.entryAt).map Prod.fst).Sublist tokens := by
    induction tokens with
    | nil => exact List.nil_sublist _
    | cons t tokens ih =>
      have ih := ih (List.nodup_cons.1 h).2
      cases hp : r.pending.find? t with
      | none =>
        rw [List.filterMap_cons_none (by simp only [entryAt, hp, Option.map_none])]
        exact ih.cons t
      | some p =>
        rw [List.filterMap_cons_some (by simp only [entryAt, hp, Option.map_some]; rfl)]
        exact ih.cons_cons t
  have hsubset : tokens.filterMap r.entryAt ⊆ r.pending.entries := by
    intro e he
    obtain ⟨t, -, ht⟩ := List.mem_filterMap.1 he
    obtain ⟨p, hp, rfl⟩ := Option.map_eq_some_iff.1 ht
    exact Table.find?_eq_some_iff.1 hp
  have hentries : (tokens.filterMap r.entryAt).Nodup := List.Nodup.of_map _ (h.sublist hfst)
  obtain ⟨l, hperm, hsub⟩ := hentries.subperm hsubset
  have hevents : (tokens.filterMap r.entryAt).map (fun e => e.2.event) = r.eventsAt tokens := by
    rw [List.map_filterMap, eventsAt]
    refine List.filterMap_congr fun t _ => ?_
    simp only [entryAt, Option.map_map]
    rfl
  exact ⟨l.map fun e => e.2.event, hevents ▸ hperm.map _, hsub.map _⟩

/-- The order of the tokens makes no difference to the registry that is left. -/
theorem without_perm (h : tokens.Perm tokens') : r.without tokens = r.without tokens' := by
  have hpending := h.foldl_eq' (f := Table.erase) (fun t _ u _ table => table.erase_comm t u)
    r.pending
  simp only [without, hpending]

end Registry

/-! ## Any order -/

/-- What two ways of reading the same reports come to alike, and where they differ. The completions
of all swaps are `l` in the first way and `l'` in the second, the last first. -/
structure Screen.EndsAlike (before : Screen) (xs xs' : List Resolution) (l l' : List Completion)
    (news news' : List News) (removed removed' : List Framebuffer) (after after' : Screen) :
    Prop where
  /-- The same tokens are pending and retired. -/
  registry : after.registry = after'.registry
  slots : after.slots = after'.slots
  pipes : after.pipes = after'.pipes
  config : after.config = after'.config
  /-- The swaps are the same but for the stamps that their barriers keep. -/
  swaps : after.swaps.map Swap.unstamped = after'.swaps.map Swap.unstamped
  holds : ∀ id, after.holds id = after'.holds id
  finalized : finalized before.swaps after.swaps = PageFlip.finalized before.swaps after'.swaps
  removed : removed.Perm removed'
  /-- The clients hear of their own events, and of the outcomes of the swaps that get them. -/
  news : news.Perm (xs.filterMap Resolution.told? ++
    (PageFlip.finalized before.swaps after.swaps).filterMap (newsOf before.swaps l))
  news' : news'.Perm (xs'.filterMap Resolution.told? ++
    (PageFlip.finalized before.swaps after'.swaps).filterMap (newsOf before.swaps l'))
  /-- The events of clients are resolved alike. -/
  told : (xs.filterMap Resolution.told?).Perm (xs'.filterMap Resolution.told?)
  /-- The same swaps were shown, and the same were aborted. -/
  shown : ∀ id, (Completion.shown l id).isSome = (Completion.shown l' id).isSome
  /-- A swap with only one completed reference flip was shown at its completion in both cases. -/
  reference : ∀ id c, l.filter (Completion.isOf id true) = [c] →
    Completion.shown l id = some c.stamp ∧ Completion.shown l' id = some c.stamp
  /-- A swap without a completed reference flip was shown at its first completion. -/
  first : ∀ id, l.filter (Completion.isOf id true) = [] →
    Completion.shown l id = (l.reverse.find? fun c => c.swap == id).map Completion.stamp ∧
      Completion.shown l' id = (l'.reverse.find? fun c => c.swap == id).map Completion.stamp

namespace Session

variable {s : Session} {pipes : List Pipe} {slots : List Framebuffer} {config : Config}
  {earlier : List Completion} {batches batches' : List (List Report)}

/-- In every session without an unfinished operation, whatever clients did before, and also from
handlers: it makes no difference in what order reports on pending tokens come and how they are
divided among the drains that read them, but to the stamps of swaps with several completed reference
flips, or with none. `earlier` are the completions up to then. -/
theorem drains_alike_in_any_order
    (hcompletes : (new { Screen.new pipes config with slots := slots }).Completes earlier s)
    (hidle : s.isIdle = true) (hunbroken : s.violation = none)
    (hbatches : batches.flatten.Perm batches'.flatten)
    (hnodup : (batches.flatten.map Report.token).Nodup)
    (hpending : ∀ report ∈ batches.flatten, s.screen.registry.isPending report.token = true) :
    ∃ news removed after news' removed' after',
      s.screen.Drains batches news removed after ∧
      s.screen.Drains batches' news' removed' after' ∧
      s.screen.EndsAlike (s.screen.registry.resolutions batches.flatten)
        (s.screen.registry.resolutions batches'.flatten)
        (Completion.among (s.screen.registry.resolutions batches.flatten) ++ earlier)
        (Completion.among (s.screen.registry.resolutions batches'.flatten) ++ earlier)
        news news' removed removed' after after' := by
  have hbacked : Backed s.screen {} := by
    have h := backed_of_reaches (reaches_iff_completes.2 ⟨_, hcompletes⟩) hunbroken
    rwa [Session.agenda, List.isEmpty_iff.1 hidle] at h
  have hdated := dated_of_completes hcompletes hunbroken
  let r := s.screen.registry
  let xs := r.resolutions batches.flatten
  let xs' := r.resolutions batches'.flatten
  have hxs : xs.Perm xs' := hbatches.filterMap _
  have htokens := hbatches.map Report.token
  have habort : Abortable s.screen.swaps (xs.map Resolution.event) := by
    rw [Registry.events_resolutions]
    exact hbacked.abortable.subperm (Registry.eventsAt_subperm hnodup)
  have habort' : Abortable s.screen.swaps (xs'.map Resolution.event) :=
    habort.subperm (hxs.symm.map _).subperm
  -- But for the stamps, the two ways are two orders of the same aborts.
  obtain ⟨hswaps, hremoved⟩ := Aftermath.unstamped_after s.screen.swaps xs
  obtain ⟨hswaps', hremoved'⟩ := Aftermath.unstamped_after s.screen.swaps xs'
  have halike : (Aftermath.of (s.screen.swaps.map Swap.unstamped)
      (xs.map Resolution.event)).Alike (Aftermath.of (s.screen.swaps.map Swap.unstamped)
        (xs'.map Resolution.event)) := Aftermath.of_perm (hxs.map Resolution.event)
  have hunstamped := hswaps.trans (halike.swaps.trans hswaps'.symm)
  refine ⟨_, _, _, _, _, _, Screen.drains_reports hbacked.disjoint hnodup hpending habort,
    Screen.drains_reports hbacked.disjoint (htokens.nodup_iff.1 hnodup)
      (fun report hreport => hpending report (hbatches.mem_iff.2 hreport)) habort', ?_⟩
  have hlists : (Completion.among xs ++ earlier).Perm (Completion.among xs' ++ earlier) := by
    refine List.Perm.append_right _ ?_
    exact (List.reverse_perm _).trans ((hxs.flatMap_right _).trans (List.reverse_perm _).symm)
  exact
    { registry := Registry.without_perm htokens
      slots := rfl
      pipes := rfl
      config := rfl
      swaps := hunstamped
      holds := fun id => by
        have hsame := congrArg (fun swaps : List Swap =>
          (swaps[id]?.map fun w => w.barrier.outstanding).getD 0) hunstamped
        simp only [List.getElem?_map, Option.map_map, Function.comp_def, outstanding_unstamped]
          at hsame
        exact hsame
      finalized := by
        refine List.filter_congr fun id _ => ?_
        have hsame : HasOutcome (Aftermath.after s.screen.swaps xs).swaps id =
            HasOutcome (Aftermath.after s.screen.swaps xs').swaps id := by
          rw [← hasOutcome_unstamped, hunstamped, hasOutcome_unstamped]
        exact congrArg _ hsame
      removed := by
        rw [hremoved, hremoved']
        exact halike.removed
      news := Aftermath.news_after hdated habort
      news' := Aftermath.news_after hdated habort'
      told := hxs.filterMap _
      shown := fun id => by
        rw [Completion.isSome_shown, Completion.isSome_shown]
        exact hlists.any_eq
      reference := fun id c hc => by
        have hc' : (Completion.among xs' ++ earlier).filter (Completion.isOf id true) = [c] :=
          List.perm_singleton.1 (hc ▸ (hlists.filter _).symm)
        exact ⟨Completion.shown_of_reference hc, Completion.shown_of_reference hc'⟩
      first := fun id hnone => by
        have hnone' : (Completion.among xs' ++ earlier).filter (Completion.isOf id true) = [] :=
          List.perm_nil.1 (hnone ▸ (hlists.filter _).symm)
        exact ⟨Completion.shown_of_no_reference hnone, Completion.shown_of_no_reference hnone'⟩ }

open Sample in
/-- Two swaps are accepted on both controllers: the first one is to be reported as shown on the
second controller, the other one has no such wish. Then the first flip completes. -/
def overlapping : List Act :=
  [.call (.swap ⟨.linear 64 64 0 1 256, false, .all, some 1, 0⟩), brings 100, accepts, accepts,
    swap 1, brings 101, accepts, accepts, .call .drain, reads first].filterMap Move.act?

open Sample in
/-- The first swap is reported at the stamp of its reference flip in both orders, and the second one
at the stamp that comes first. -/
theorem overlapping_alike :
    ∃ s news removed after news' removed' after',
      (new { Screen.new Sample.pipes .default with slots := Sample.slots }).play overlapping =
        some s ∧
      s.screen.Drains [[.complete second ⟨2, 20⟩, .complete third ⟨3, 30⟩],
        [.complete fourth ⟨4, 40⟩]] news removed after ∧
      s.screen.Drains [[.complete fourth ⟨4, 40⟩], [],
        [.complete third ⟨3, 30⟩, .complete second ⟨2, 20⟩]] news' removed' after' ∧
      s.screen.EndsAlike
        [⟨.flip ⟨0, true⟩, some ⟨2, 20⟩⟩, ⟨.flip ⟨1, false⟩, some ⟨3, 30⟩⟩,
          ⟨.flip ⟨1, false⟩, some ⟨4, 40⟩⟩]
        [⟨.flip ⟨1, false⟩, some ⟨4, 40⟩⟩, ⟨.flip ⟨1, false⟩, some ⟨3, 30⟩⟩,
          ⟨.flip ⟨0, true⟩, some ⟨2, 20⟩⟩]
        [⟨1, false, ⟨4, 40⟩⟩, ⟨1, false, ⟨3, 30⟩⟩, ⟨0, true, ⟨2, 20⟩⟩, ⟨0, false, ⟨1, 10⟩⟩]
        [⟨0, true, ⟨2, 20⟩⟩, ⟨1, false, ⟨3, 30⟩⟩, ⟨1, false, ⟨4, 40⟩⟩, ⟨0, false, ⟨1, 10⟩⟩]
        news news' removed removed' after after' := by
  obtain ⟨s, hplay, hidle, hunbroken, hpending⟩ :
      ∃ s, (new { Screen.new Sample.pipes .default with slots := Sample.slots }).play overlapping =
        some s ∧ s.isIdle = true ∧ s.violation = none ∧
        s.screen.registry.pending.entries = [(second, ⟨⟨32⟩, .flip ⟨0, true⟩⟩),
          (third, ⟨⟨31⟩, .flip ⟨1, false⟩⟩), (fourth, ⟨⟨32⟩, .flip ⟨1, false⟩⟩)] :=
    ⟨_, rfl, rfl, rfl, rfl⟩
  have hearlier :
      (new { Screen.new Sample.pipes .default with slots := Sample.slots }).completionsOf
        overlapping = [⟨0, false, ⟨1, 10⟩⟩] := rfl
  have hcompletes := Completes.play .refl hplay
  rw [List.append_nil, hearlier] at hcompletes
  have hbatches : List.Perm (α := Report)
      [[.complete second ⟨2, 20⟩, .complete third ⟨3, 30⟩], [.complete fourth ⟨4, 40⟩]].flatten
      [[.complete fourth ⟨4, 40⟩], [],
        [.complete third ⟨3, 30⟩, .complete second ⟨2, 20⟩]].flatten := by decide
  obtain ⟨news, removed, after, news', removed', after', hdrains, hdrains', halike⟩ :=
    drains_alike_in_any_order hcompletes hidle hunbroken hbatches (by decide) (by
      simp only [Registry.isPending, Table.contains, hpending]
      decide)
  refine ⟨s, news, removed, after, news', removed', after', hplay, hdrains, hdrains', ?_⟩
  simp only [Registry.resolutions, Table.find?, hpending] at halike
  exact halike

end Session

end PageFlip
