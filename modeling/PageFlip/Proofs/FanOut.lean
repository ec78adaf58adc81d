import PageFlip.Proofs.Beside
import PageFlip.Proofs.Capacity
import PageFlip.Proofs.Planned
import PageFlip.Proofs.Request
import PageFlip.Proofs.Step

/-!
# A swap on its pipes

What a swap comes to is computed from what its screen is like and from what the channel is going to
answer, pipe by pipe and without any account of tokens, holds or retries (`Screen.fate`,
`Screen.fanOut`). `Session.swap_fans_out` says that this is what happens: which flips are accepted,
what the channel sees of them, what becomes of the screen and what the swap returns.

The screen in the middle of a swap is `Screen.Fanning`; its lemmas say how it changes when a flip is
registered, accepted or given up. `Follow.Fans` is the whole statement for the pipes to come, with a
lemma for each way in which the next one fares, and `Follow.Fans.fan` is the induction on them.
-/

namespace PageFlip

/-! ## What is to come out -/

/-- A flip that the channel accepts: the pipe, its position, and when. -/
structure Acceptance where
  pipe : Pipe
  position : Nat
  time : Instant

/-- The controller of the pipe. -/
def Acceptance.crtc (a : Acceptance) : Crtc := a.pipe.crtc

namespace Screen

variable (s : Screen) (r : SwapRequest) (fb : Framebuffer) (plan : Plan)

/-- The number of pending and retired tokens after flips were accepted on some controllers: each
flip has its token, and the retired tokens of the controllers are forgotten. -/
def occupiedAfter (crtcs : List Crtc) : Nat :=
  s.registry.pending.size + crtcs.length +
    (s.registry.retired.entries.filter fun e => e.2 ∉ crtcs).length

/-- What the channel answers the submissions of one flip, as long as it is full. -/
def window (crtc : Crtc) : List Decision := plan.first crtc (s.config.maxIdleRetries.toNat + 1)

/-- How a pipe fares after flips were accepted on some controllers: when its flip is accepted, or
what it fails with. -/
def fate (crtcs : List Crtc) (p : Pipe) : Except SwapError Instant :=
  if s.registry.capacity ≤ s.occupiedAfter crtcs then .error .sequenceExhausted
  else
    match (s.window plan p.crtc).findSome? Decision.final? with
    | some (.ok time) => .ok time
    | some (.error e) => .error (.submit p.crtc e)
    | none => .error (.channelStalled p.crtc)

/-- The flips that are accepted on some pipes, one after the other, and the first pipe that fails
with its error. The pipes behind it are not tried. -/
def fanOut (crtcs : List Crtc) : List (Pipe × Nat) → List Acceptance × Option (Pipe × SwapError)
  | [] => ([], none)
  | (p, i) :: rest =>
    match s.fate plan crtcs p with
    | .error e => ([], some (p, e))
    | .ok time =>
      let later := fanOut (crtcs ++ [p.crtc]) rest
      (⟨p, i, time⟩ :: later.1, later.2)

/-- The flip of a swap on a pipe, as it is submitted under a token. -/
def submissionOf (p : Pipe) (t : Token) : Submission := ⟨p.crtc, fb, s.flagsFor r, t⟩

/-- The same flip, as it is registered. -/
def pendingOf (p : Pipe) (t : Token) : Token × Pending Event :=
  (t, ⟨p.crtc, .flip ⟨s.swaps.length, s.referenceFor r == some p.vblank⟩⟩)

/-- The accepted flips of the swap, as they are registered. -/
def flipsOf (accepted : List Acceptance) (tokens : List Token) : List (Token × Pending Event) :=
  (accepted.zip tokens).map fun a => s.pendingOf r a.1.pipe a.2

/-- What the barrier of a swap counts after so many flips were accepted and none resolved. -/
def tallyOf (holds accepted : Nat) (submitting : Bool) : Tally :=
  ⟨holds, submitting, decide (0 < accepted), none, none⟩

/-- The swap, with what its barrier counts. -/
def swapOf (tally : Option Tally) : Swap :=
  ⟨⟨fb, s.held (s.slotFor r), tally⟩, s.slotFor r, r.client⟩

/-- A swap that has so many accepted flips and these pipes to come. -/
def fanoutOf (submitted : Nat) (rest : List Nat) : Fanout :=
  ⟨s.swaps.length, fb, s.flagsFor r, s.referenceFor r, (s.targeted r).length, submitted, rest⟩

/-- What is exchanged over the flips of a swap: first over those that are accepted, each under its
token, then over the one that fails, unless there is no token for it. -/
def exchanges (accepted : List (Acceptance × Token)) (failed : Option (Pipe × SwapError))
    (spare : Token) : List Exchange :=
  (accepted.flatMap fun a =>
      (s.submissionOf r fb a.1.pipe a.2).tries (s.window plan a.1.pipe.crtc)) ++
    match failed with
    | none => []
    | some (p, e) =>
      if e = .sequenceExhausted then []
      else (s.submissionOf r fb p spare).tries (s.window plan p.crtc)

/-- The screen after flips of the swap were accepted: their pipes are stamped, their tokens are
pending, and the retired tokens of their controllers are forgotten. Nothing else has changed but
the slots, the swap itself and the place at which the next token is looked for. -/
structure FannedOut (w : Swap) (slots : List Framebuffer) (accepted : List Acceptance)
    (flips : List (Token × Pending Event)) (u : Screen) : Prop where
  config : u.config = s.config
  slots : u.slots = slots
  swaps : u.swaps = s.swaps ++ [w]
  pipes : ∀ i : Nat, u.pipes[i]? = (s.pipes[i]?).map fun p =>
    { p with flippedAt := ((accepted.find? (·.position == i)).map (·.time)).or p.flippedAt }
  max : u.registry.max = s.registry.max
  pending : u.registry.pending.entries = s.registry.pending.entries ++ flips
  retired : u.registry.retired.entries =
    s.registry.retired.entries.filter fun e => e.2 ∉ accepted.map Acceptance.crtc

/-- What a swap comes to: it succeeds if a flip was accepted, and keeps its framebuffer in its slot
then. Otherwise all is as it was before, and the error is that of the pipe that failed. -/
structure SwapEnds (accepted : List Acceptance) (tokens : List Token)
    (failed : Option (Pipe × SwapError)) (spare : Token) (u : Screen) (o : Outcome) : Prop where
  outcome : o = .swapped
    (if accepted.isEmpty then .error ((failed.map Prod.snd).getD .noPipes) else .ok ())
  screen : s.FannedOut
    (s.swapOf r fb
      (if accepted.isEmpty then none else some (tallyOf accepted.length accepted.length false)))
    (if accepted.isEmpty then s.slots else s.slots.set (s.slotFor r) fb)
    accepted (s.flipsOf r accepted tokens) u
  /-- The token of a flip that failed is free again, if there was one. -/
  spare : ∀ p e, failed = some (p, e) → e ≠ .sequenceExhausted → u.registry.isPending spare = false

/-- What is exchanged at the end of a swap of which no flip was accepted: the client is told, and
the framebuffer is given up. -/
def rejection (accepted : List Acceptance) : List Exchange :=
  if accepted.isEmpty then
    .told (.swap r.client none) :: if fb.isNone then [] else [.removed fb]
  else []

/-- The screen in the middle of the swap. -/
abbrev Fanning (tally : Tally) (accepted : List Acceptance) (flips : List (Token × Pending Event))
    (u : Screen) : Prop :=
  s.FannedOut (s.swapOf r fb (some tally)) (s.slots.set (s.slotFor r) fb) accepted flips u

variable {accepted : List Acceptance} {tokens : List Token}

/-- There is a flip for each acceptance. -/
theorem length_flipsOf (htokens : tokens.length = accepted.length) :
    (s.flipsOf r accepted tokens).length = accepted.length := by
  rw [flipsOf, List.length_map, List.length_zip, htokens, Nat.min_self]

/-- One more flip was accepted, under a token of its own. -/
theorem flipsOf_concat (htokens : tokens.length = accepted.length) (x : Acceptance) (t : Token) :
    s.flipsOf r accepted tokens ++ [s.pendingOf r x.pipe t] =
      s.flipsOf r (accepted ++ [x]) (tokens ++ [t]) := by
  simp only [flipsOf, List.zip_append htokens.symm, List.map_append]
  rfl

end Screen

namespace Screen.FannedOut

variable {s u : Screen} {r : SwapRequest} {fb : Framebuffer} {w : Swap} {slots : List Framebuffer}
  {accepted : List Acceptance} {flips : List (Token × Pending Event)}

/-- The number of pending and retired tokens is what was to be expected. -/
theorem occupied (h : s.FannedOut w slots accepted flips u)
    (hlength : flips.length = accepted.length) :
    u.registry.occupied = s.occupiedAfter (accepted.map Acceptance.crtc) := by
  unfold Registry.occupied occupiedAfter Table.size
  rw [h.pending, h.retired, List.length_append, List.length_map, hlength]

/-- There is no further token for the swap when there was to be none. -/
theorem full_iff (h : s.FannedOut w slots accepted flips u)
    (hlength : flips.length = accepted.length) :
    u.registry.capacity ≤ u.registry.occupied ↔
      s.registry.capacity ≤ s.occupiedAfter (accepted.map Acceptance.crtc) := by
  unfold Registry.capacity
  rw [h.max, h.occupied hlength]

/-- The swap is the last one. -/
theorem getElem?_own (h : s.FannedOut w slots accepted flips u) :
    u.swaps[s.swaps.length]? = some w := by
  rw [h.swaps]
  exact List.getElem?_concat_length

/-- The barrier of the swap is used. -/
theorem setBarrier (h : s.FannedOut w slots accepted flips u) (b : Barrier) :
    s.FannedOut { w with barrier := b } slots accepted flips (u.setBarrier s.swaps.length b) :=
  { h with swaps := swaps_setBarrier_last h.swaps b }

/-- A flip is registered. -/
theorem allocate (h : s.FannedOut w slots accepted flips u) {crtc : Crtc} {event : Event}
    {t : Token} {r' : Registry Event} (halloc : u.registry.allocate crtc event = some (t, r')) :
    s.FannedOut w slots accepted (flips ++ [(t, ⟨crtc, event⟩)]) (u.setRegistry r') := by
  obtain ⟨-, hfree, rfl⟩ := Registry.of_allocate_eq_some halloc
  have hnew : u.registry.pending.contains t = false := by
    simp only [Registry.occupies, Bool.or_eq_false_iff] at hfree
    exact hfree.1
  refine { h with pending := ?_ }
  show (u.registry.pending.insert t ⟨crtc, event⟩).entries = _
  rw [Table.entries_insert, ← Table.entries_erase, Table.erase_eq_self hnew, h.pending,
    List.append_assoc]

/-- The flip registered last is pending, under a token that no other one has. -/
theorem find?_last {t : Token} {p : Pending Event}
    (h : s.FannedOut w slots accepted (flips ++ [(t, p)]) u) :
    u.registry.pending.find? t = some p ∧ ∀ e ∈ s.registry.pending.entries ++ flips, e.1 ≠ t := by
  have hentries : u.registry.pending.entries = (s.registry.pending.entries ++ flips) ++ [(t, p)] :=
    h.pending.trans (List.append_assoc _ _ _).symm
  constructor
  · rw [Table.find?_eq_some_iff, hentries]
    exact List.mem_append_right _ (List.mem_singleton_self _)
  · have hnodup := u.registry.pending.nodup
    rw [hentries, List.map_append, List.nodup_append] at hnodup
    exact fun e he => hnodup.2.2 _ (List.mem_map_of_mem he) _ (List.mem_singleton_self _)

/-- The flip registered last can be handed out again. -/
theorem resolve {t : Token} {p : Pending Event}
    (h : s.FannedOut w slots accepted (flips ++ [(t, p)]) u) :
    ∃ r', u.registry.resolve t = .ok (p.event, r') ∧
      s.FannedOut w slots accepted flips (u.setRegistry r') := by
  obtain ⟨hfind, hothers⟩ := h.find?_last
  refine ⟨{ u.registry with pending := u.registry.pending.erase t }, ?_, { h with pending := ?_ }⟩
  · unfold Registry.resolve
    rw [hfind]
  · show (u.registry.pending.erase t).entries = _
    have hkept : ∀ e ∈ s.registry.pending.entries ++ flips, (e.1 != t) = true :=
      fun e he => bne_iff_ne.2 (hothers e he)
    rw [Table.entries_erase, h.pending, ← List.append_assoc, List.filter_append,
      List.filter_eq_self.2 hkept, List.filter_cons_of_neg (by simp), List.filter_nil,
      List.append_nil]

/-- A pipe stays as it was but for its stamp. -/
theorem isEnabled (h : s.FannedOut w slots accepted flips u) (i : Nat) :
    u.isEnabled i = s.isEnabled i := by
  unfold Screen.isEnabled
  rw [h.pipes, Option.any_map]

/-- A pipe on which no flip was accepted is as it was. -/
theorem getElem?_pipe (h : s.FannedOut w slots accepted flips u) {i : Nat}
    (hnew : i ∉ accepted.map Acceptance.position) : u.pipes[i]? = s.pipes[i]? := by
  have hnone : accepted.find? (·.position == i) = none :=
    List.find?_eq_none.2 fun a ha hai => hnew (List.mem_map.2 ⟨a, ha, beq_iff_eq.1 hai⟩)
  rw [h.pipes, hnone]
  exact Option.map_id'

/-- A flip is accepted on a pipe that has not been tried before. -/
theorem accept (h : s.FannedOut w slots accepted flips u) {a : Acceptance}
    (hnew : a.position ∉ accepted.map Acceptance.position) :
    s.FannedOut w slots (accepted ++ [a]) flips
      ((u.setRegistry (u.registry.forgetPipe a.crtc).2).setFlippedAt a.position a.time) := by
  refine { h with pipes := fun i => ?_, retired := ?_ }
  · show (u.pipes.modify a.position _)[i]? = _
    rw [List.getElem?_modify, h.pipes, Option.map_eq_map, Option.map_map]
    refine congrArg (Option.map · _) (funext fun p => ?_)
    by_cases hi : a.position = i
    · -- The stamp of this flip is the first one at its position.
      have hbefore : accepted.find? (·.position == i) = none :=
        List.find?_eq_none.2 fun b hb hbi =>
          hnew (hi ▸ List.mem_map.2 ⟨b, hb, beq_iff_eq.1 hbi⟩)
      rw [Function.comp_apply, List.find?_append, hbefore]
      simp [hi]
    · rw [Function.comp_apply, List.find?_append, List.find?_cons_of_neg (by simpa using hi)]
      simp [hi]
  · show (u.registry.retired.entries.filter _) = _
    rw [h.retired, List.filter_filter, List.map_append, List.map_singleton]
    refine List.filter_congr fun e _ => ?_
    rw [Bool.eq_iff_iff]
    simp only [Bool.and_eq_true, Bool.not_eq_true', beq_eq_false_iff_ne, decide_eq_true_eq,
      List.mem_append, List.mem_singleton, not_or, and_comm]

end Screen.FannedOut

namespace Follow.Planned

variable {post : Screen → Outcome → Prop} {plan : Plan} {s u : Screen} {r : SwapRequest}
  {fb : Framebuffer} {accepted : List Acceptance} {tokens : List Token}
  {failed : Option (Pipe × SwapError)} {spare : Token}

/-- The submitter gives up its hold, and a swap of which a flip was accepted has succeeded. -/
theorem conclude_accepted {rest : List Nat} (hsome : accepted.isEmpty = false)
    (h : s.Fanning r fb (Screen.tallyOf (accepted.length + 1) accepted.length true) accepted
      (s.flipsOf r accepted tokens) u)
    (hspare : ∀ p e, failed = some (p, e) → e ≠ .sequenceExhausted →
      u.registry.isPending spare = false) :
    Follow.Planned (s.SwapEnds r fb accepted tokens failed spare) plan u
      (.inl (.conclude (s.fanoutOf r fb accepted.length rest) (failed.map Prod.snd))) [] := by
  have hlength : 0 < accepted.length := by
    rw [List.length_pos_iff, ← List.isEmpty_eq_false_iff]
    exact hsome
  let f := s.fanoutOf r fb accepted.length rest
  let b : Barrier := ⟨fb, s.held (s.slotFor r),
    some (Screen.tallyOf accepted.length accepted.length false)⟩
  have hrelease (next : Task) :
      u.release s.swaps.length next = (u.setBarrier s.swaps.length b).work [] next := by
    -- The accepted flips keep the swap open once its submitter has let go.
    have hmore : ¬ accepted.length + 1 ≤ 1 := by omega
    rw [Screen.release_eq h.getElem?_own]
    simp only [Screen.swapOf, Screen.tallyOf, Barrier.release, Barrier.drop, if_true, hmore,
      if_false, Nat.add_sub_cancel]
    rfl
  have hends : s.SwapEnds r fb accepted tokens failed spare (u.setBarrier s.swaps.length b)
      (.swapped (.ok ())) := by
    refine ⟨by rw [hsome]; rfl, ?_, hspare⟩
    rw [hsome]
    exact h.setBarrier b
  refine .step ?_
  show Follow.Planned _ plan (u.release s.swaps.length (f.report (failed.map Prod.snd))).screen
    (u.release s.swaps.length (f.report (failed.map Prod.snd))).next []
  rw [hrelease]
  show Follow.Planned _ plan _ (.inl (f.report (failed.map Prod.snd))) []
  unfold Fanout.report
  rw [if_pos (show 0 < f.submitted from hlength)]
  cases failed with
  | none => exact .step (.finished hends)
  | some p => exact .step (.step (.finished hends))

/-- A slot that still holds the framebuffer of a failed swap gets back what it held before. -/
theorem slots_restored {slot : Slot} (hslots : u.slots = s.slots.set slot fb) :
    (u.assign slot (if u.held slot = fb then s.held slot else u.held slot)).slots = s.slots := by
  show u.slots.set slot _ = s.slots
  rw [hslots, List.set_set]
  by_cases hslot : slot < s.slots.length
  · have hheld : u.held slot = fb := by
      rw [Screen.held, hslots, List.getElem?_set_self hslot, Option.getD_some]
    rw [if_pos hheld]
    exact congrArg Screen.slots (s.assign_held slot)
  · exact List.set_eq_of_length_le (Nat.le_of_not_lt hslot)

/-- The submitter gives up its hold, and a swap of which no flip was accepted has failed. -/
theorem conclude_failed {rest : List Nat} (h : s.Fanning r fb (Screen.tallyOf 1 0 true) [] [] u)
    (hspare : ∀ p e, failed = some (p, e) → e ≠ .sequenceExhausted →
      u.registry.isPending spare = false) :
    Follow.Planned (s.SwapEnds r fb [] [] failed spare) plan u
      (.inl (.conclude (s.fanoutOf r fb 0 rest) (failed.map Prod.snd)))
      (Screen.rejection r fb []) := by
  let f := s.fanoutOf r fb 0 rest
  let e := (failed.map Prod.snd).getD .noPipes
  let v : Verdict := ⟨none, false⟩
  let u₁ := u.setBarrier s.swaps.length ⟨fb, s.held (s.slotFor r), none⟩
  have h₁ : s.FannedOut (s.swapOf r fb none) (s.slots.set (s.slotFor r) fb) [] [] u₁ :=
    h.setBarrier _
  have hrelease (next : Task) : u.release s.swaps.length next =
      u₁.halt []
        (.waiting (.telling (.swap r.client none) (.reclaim s.swaps.length v next))) := by
    rw [Screen.release_eq h.getElem?_own]
    rfl
  have hreport : f.report (failed.map Prod.snd) =
      .say (.swapFailed e) (.finish (.swapped (.error e))) := if_neg (Nat.lt_irrefl 0)
  -- The handler only returns, so the slot holds what the swap has put there.
  let held := if u₁.held (s.slotFor r) = fb then s.held (s.slotFor r)
    else u₁.held (s.slotFor r)
  have hreclaim (next : Task) : u₁.reclaim s.swaps.length v next =
      if fb.isNone then (u₁.assign (s.slotFor r) held).work [] next
      else (u₁.assign (s.slotFor r) held).halt [] (.waiting (.destroying fb next)) := by
    unfold Screen.reclaim
    rw [h₁.getElem?_own]
    rfl
  have hends : s.SwapEnds r fb [] [] failed spare (u₁.assign (s.slotFor r) held)
      (.swapped (.error e)) :=
    ⟨rfl, { h₁ with slots := slots_restored h₁.slots }, hspare⟩
  refine .step ?_
  show Follow.Planned _ plan (u.release s.swaps.length (f.report (failed.map Prod.snd))).screen
    (u.release s.swaps.length (f.report (failed.map Prod.snd))).next _
  rw [hrelease, hreport]
  refine .telling (.step ?_)
  show Follow.Planned _ plan (u₁.reclaim s.swaps.length v _).screen
    (u₁.reclaim s.swaps.length v _).next _
  rw [hreclaim]
  split_ifs with hnone
  · exact .step (.step (.finished hends))
  · exact .destroying (.step (.step (.finished hends)))

/-- The submitter gives up its hold. -/
theorem conclude {rest : List Nat}
    (h : s.Fanning r fb (Screen.tallyOf (accepted.length + 1) accepted.length true) accepted
      (s.flipsOf r accepted tokens) u) (htokens : tokens.length = accepted.length)
    (hspare : ∀ p e, failed = some (p, e) → e ≠ .sequenceExhausted →
      u.registry.isPending spare = false) :
    Follow.Planned (s.SwapEnds r fb accepted tokens failed spare) plan u
      (.inl (.conclude (s.fanoutOf r fb accepted.length rest) (failed.map Prod.snd)))
      (Screen.rejection r fb accepted) := by
  cases accepted with
  | nil =>
    obtain rfl : tokens = [] := List.length_eq_zero_iff.1 htokens
    exact conclude_failed h hspare
  | cons a later => exact conclude_accepted rfl h hspare

/-- The flip on a pipe has failed, and its token is handed out again. -/
theorem fail {a : Attempt} {p : Pipe} {e : SwapError} {rest : List Nat}
    (hfanout : a.fanout = s.fanoutOf r fb accepted.length rest)
    (htoken : a.submission.token = spare)
    (h : s.Fanning r fb (Screen.tallyOf (accepted.length + 2) accepted.length true) accepted
      (s.flipsOf r accepted tokens ++ [s.pendingOf r p spare]) u)
    (htokens : tokens.length = accepted.length) :
    Follow.Planned (s.SwapEnds r fb accepted tokens (some (p, e)) spare) plan (u.fail a e).screen
      (u.fail a e).next (Screen.rejection r fb accepted) := by
  obtain ⟨r', hresolve, hfree⟩ := h.resolve
  let b : Barrier := ⟨fb, s.held (s.slotFor r),
    some (Screen.tallyOf (accepted.length + 1) accepted.length true)⟩
  let u₁ := (u.setRegistry r').setBarrier s.swaps.length b
  have hbarrier (reference : Bool) : (s.swapOf r fb (some (Screen.tallyOf (accepted.length + 2)
      accepted.length true))).barrier.resolve reference none = .ok (b, none) := by
    -- The failed flip's hold is dropped; the submitter's own is still there.
    have hmore : ¬ accepted.length + 2 ≤ 1 := by omega
    simp only [Screen.swapOf, Screen.tallyOf, Barrier.resolve, Tally.record, Barrier.drop, hmore,
      if_false, Nat.reduceSubDiff]
    rfl
  have hgiven (next : Task) : u.resolve spare none next = u₁.work [] next :=
    Screen.resolve_eq hresolve hfree.getElem?_own (hbarrier _)
  have hspare : u₁.registry.isPending spare = false := Registry.isPending_of_resolve hresolve
  unfold Screen.fail
  rw [htoken, hfanout, hgiven]
  exact conclude (hfree.setBarrier b) htokens fun _ _ _ _ => hspare

end Follow.Planned

/-- The flip on a pipe is registered, and the swap is held for it. -/
theorem Screen.FannedOut.exists_tried {s u : Screen} {r : SwapRequest} {fb : Framebuffer}
    {accepted : List Acceptance} {flips : List (Token × Pending Event)} {p : Pipe} {n : Nat}
    {t : Token} {r' : Registry Event} (rest : List Nat) (i : Nat)
    (h : s.Fanning r fb (tallyOf n accepted.length true) accepted flips u)
    (halloc : u.registry.allocate p.crtc
      (.flip ⟨s.swaps.length, s.referenceFor r == some p.vblank⟩) = some (t, r')) :
    ∃ u', s.Fanning r fb (tallyOf (n + 1) accepted.length true) accepted
        (flips ++ [s.pendingOf r p t]) u' ∧
      u.tryPipe (s.fanoutOf r fb accepted.length rest) i p =
        u'.halt [] (.waiting (.attempting ⟨s.fanoutOf r fb accepted.length rest, i,
          s.submissionOf r fb p t, 0⟩)) := by
  have hheld := (h.allocate halloc).setBarrier
    ⟨fb, s.held (s.slotFor r), some (tallyOf (n + 1) accepted.length true)⟩
  refine ⟨_, hheld, ?_⟩
  have hown : (u.setRegistry r').swaps[s.swaps.length]? = _ := (h.allocate halloc).getElem?_own
  unfold tryPipe fanoutOf
  dsimp only
  rw [halloc]
  dsimp only
  rw [hown]
  rfl

/-- The flip on a pipe is accepted, and the next pipe is to come. -/
theorem Screen.FannedOut.exists_accepted {s u : Screen} {r : SwapRequest} {fb : Framebuffer}
    {accepted : List Acceptance} {flips : List (Token × Pending Event)} (rest : List Nat)
    (x : Acceptance) (t : Token) (idle : Nat)
    (h : s.Fanning r fb (tallyOf (accepted.length + 2) accepted.length true) accepted flips u)
    (hnew : x.position ∉ accepted.map Acceptance.position) :
    ∃ u', s.Fanning r fb (tallyOf ((accepted ++ [x]).length + 1) (accepted ++ [x]).length true)
        (accepted ++ [x]) flips u' ∧
      u.accepted ⟨s.fanoutOf r fb accepted.length rest, x.position, s.submissionOf r fb x.pipe t,
        idle⟩ x.time = u'.work [] (.fan (s.fanoutOf r fb (accepted ++ [x]).length rest)) := by
  have hlength : (accepted ++ [x]).length = accepted.length + 1 := by
    rw [List.length_append, List.length_singleton]
  rw [hlength]
  have hmarked := h.setBarrier ⟨fb, s.held (s.slotFor r),
    some (tallyOf (accepted.length + 2) (accepted.length + 1) true)⟩
  refine ⟨_, hmarked.accept hnew, ?_⟩
  have hown : u.swaps[(s.fanoutOf r fb accepted.length rest).swap]? = _ := h.getElem?_own
  unfold Screen.accepted
  dsimp only
  rw [hown]
  rfl

namespace Follow.Planned

variable {plan : Plan} {s u : Screen} {r : SwapRequest} {fb : Framebuffer}

/-- The flip on an enabled pipe is submitted as the plan has it, until there is a decision. -/
theorem attempted {post : Screen → Outcome → Prop} {plan' : Plan} {tally : Tally} {p : Pipe}
    {i : Nat} {t : Token} {f : Fanout} {accepted : List Acceptance}
    {flips : List (Token × Pending Event)} {es : List Exchange}
    (h : s.Fanning r fb tally accepted (flips ++ [s.pendingOf r p t]) u)
    (henabled : s.isEnabled i = true) (hplan : plan' p.crtc = plan p.crtc)
    (hnext : ∀ plan'' : Plan, (∀ c, c ≠ p.crtc → plan'' c = plan' c) →
      let q := u.decided ⟨f, i, s.submissionOf r fb p t, 0⟩
        ((s.window plan p.crtc).findSome? Decision.final?)
      Follow.Planned post plan'' q.screen q.next es) :
    Follow.Planned post plan' u
      (.inr (.waiting (.attempting ⟨f, i, s.submissionOf r fb p t, 0⟩)))
      ((s.submissionOf r fb p t).tries (s.window plan p.crtc) ++ es) := by
  have hpending : u.registry.isPending t = true := Registry.isPending_iff.2 ⟨_, h.find?_last.1⟩
  have hwindow : s.window plan p.crtc = plan'.first p.crtc (u.config.maxIdleRetries.toNat + 1) := by
    rw [h.config, Plan.first_congr hplan]
    rfl
  rw [hwindow] at hnext ⊢
  exact attempting hpending ((h.isEnabled i).trans henabled) (Nat.zero_add _) hnext

end Follow.Planned

/-! ## All pipes, one after the other -/

/-- After flips were accepted under tokens, the pipes to come fare as they should if the swap goes
on like this: in all surroundings that are as planned for these pipes. -/
def Follow.Fans (s : Screen) (r : SwapRequest) (fb : Framebuffer) (plan : Plan)
    (accepted : List Acceptance) (tokens : List Token) (rest : List (Pipe × Nat)) (u : Screen)
    (f : Follow) : Prop :=
  let later := s.fanOut plan (accepted.map Acceptance.crtc) rest
  ∃ tokens' spare, tokens'.length = later.1.length ∧
    ∀ plan' : Plan, (∀ p ∈ rest, plan' p.1.crtc = plan p.1.crtc) →
      f.Planned (s.SwapEnds r fb (accepted ++ later.1) (tokens ++ tokens') later.2 spare) plan' u
        (s.exchanges r fb plan (later.1.zip tokens') later.2 spare ++
          Screen.rejection r fb (accepted ++ later.1))

namespace Follow.Fans

variable {s u : Screen} {r : SwapRequest} {fb : Framebuffer} {plan : Plan}
  {accepted : List Acceptance} {tokens : List Token} {rest : List (Pipe × Nat)} {p : Pipe} {i : Nat}

/-- A step is part of the way. -/
theorem step {t : Task}
    (h : Follow.Fans s r fb plan accepted tokens rest (u.step t).screen (u.step t).next) :
    Follow.Fans s r fb plan accepted tokens rest u (.inl t) := by
  obtain ⟨tokens', spare, htokens', hplanned⟩ := h
  exact ⟨tokens', spare, htokens', fun plan' hplan' => .step (hplanned plan' hplan')⟩

/-- There is no pipe to come. -/
theorem nil (h : s.Fanning r fb (Screen.tallyOf (accepted.length + 1) accepted.length true) accepted
      (s.flipsOf r accepted tokens) u) (htokens : tokens.length = accepted.length) :
    Follow.Fans s r fb plan accepted tokens [] u
      (.inl (.conclude (s.fanoutOf r fb accepted.length []) none)) := by
  refine ⟨[], ⟨1, by decide⟩, rfl, fun plan' _ => ?_⟩
  show Follow.Planned (s.SwapEnds r fb (accepted ++ []) (tokens ++ []) none _) plan' u _
    (Screen.rejection r fb (accepted ++ []))
  rw [List.append_nil, List.append_nil]
  exact .conclude h htokens nofun

/-- There is no token for a pipe. -/
theorem exhausted
    (h : s.Fanning r fb (Screen.tallyOf (accepted.length + 1) accepted.length true) accepted
      (s.flipsOf r accepted tokens) u) (htokens : tokens.length = accepted.length)
    (hfull : s.registry.capacity ≤ s.occupiedAfter (accepted.map Acceptance.crtc))
    (later : List Nat) :
    Follow.Fans s r fb plan accepted tokens ((p, i) :: rest) u
      (.inl (.conclude (s.fanoutOf r fb accepted.length later) (some .sequenceExhausted))) := by
  have hfan : s.fanOut plan (accepted.map Acceptance.crtc) ((p, i) :: rest) =
      ([], some (p, .sequenceExhausted)) := by
    simp only [Screen.fanOut, Screen.fate, hfull, if_true]
  unfold Follow.Fans
  rw [hfan]
  refine ⟨[], ⟨1, by decide⟩, rfl, fun plan' _ => ?_⟩
  rw [List.append_nil, List.append_nil]
  exact .conclude h htokens fun _ _ heq hne =>
    absurd (Prod.mk.inj (Option.some.inj heq)).2.symm hne

/-- A pipe fails with an error. -/
theorem failed {t : Token} {e : SwapError} {later : List Nat}
    (h : s.Fanning r fb (Screen.tallyOf (accepted.length + 2) accepted.length true) accepted
      (s.flipsOf r accepted tokens ++ [s.pendingOf r p t]) u)
    (htokens : tokens.length = accepted.length) (henabled : s.isEnabled i = true)
    (hfate : s.fate plan (accepted.map Acceptance.crtc) p = .error e)
    (hne : e ≠ .sequenceExhausted)
    (hdecided : u.decided ⟨s.fanoutOf r fb accepted.length later, i, s.submissionOf r fb p t, 0⟩
        ((s.window plan p.crtc).findSome? Decision.final?) =
      u.fail ⟨s.fanoutOf r fb accepted.length later, i, s.submissionOf r fb p t, 0⟩ e) :
    Follow.Fans s r fb plan accepted tokens ((p, i) :: rest) u (.inr (.waiting
      (.attempting ⟨s.fanoutOf r fb accepted.length later, i, s.submissionOf r fb p t, 0⟩))) := by
  have hfan : s.fanOut plan (accepted.map Acceptance.crtc) ((p, i) :: rest) =
      ([], some (p, e)) := by
    simp only [Screen.fanOut, hfate]
  have hexchanges : s.exchanges r fb plan [] (some (p, e)) t =
      (s.submissionOf r fb p t).tries (s.window plan p.crtc) := if_neg hne
  unfold Follow.Fans
  rw [hfan]
  refine ⟨[], t, rfl, fun plan' hplan' => ?_⟩
  rw [List.append_nil, List.append_nil]
  show Follow.Planned _ _ _ _ (s.exchanges r fb plan [] (some (p, e)) t ++ _)
  rw [hexchanges]
  refine .attempted h henabled (hplan' _ List.mem_cons_self) fun plan'' _ => ?_
  rw [hdecided]
  exact .fail rfl rfl h htokens

/-- A pipe accepts its flip, and the others follow. -/
theorem cons {t : Token} {time : Instant} {later : List Nat}
    (h : s.Fanning r fb (Screen.tallyOf (accepted.length + 2) accepted.length true) accepted
      (s.flipsOf r accepted tokens ++ [s.pendingOf r p t]) u)
    (henabled : s.isEnabled i = true) (hcrtc : p.crtc ∉ rest.map fun p => p.1.crtc)
    (hfate : s.fate plan (accepted.map Acceptance.crtc) p = .ok time)
    (hdecided : u.decided ⟨s.fanoutOf r fb accepted.length later, i, s.submissionOf r fb p t, 0⟩
        ((s.window plan p.crtc).findSome? Decision.final?) =
      u.accepted ⟨s.fanoutOf r fb accepted.length later, i, s.submissionOf r fb p t, 0⟩ time)
    (hlater :
      let q := u.accepted
        ⟨s.fanoutOf r fb accepted.length later, i, s.submissionOf r fb p t, 0⟩ time
      Follow.Fans s r fb plan (accepted ++ [⟨p, i, time⟩]) (tokens ++ [t]) rest q.screen q.next) :
    Follow.Fans s r fb plan accepted tokens ((p, i) :: rest) u (.inr (.waiting
      (.attempting ⟨s.fanoutOf r fb accepted.length later, i, s.submissionOf r fb p t, 0⟩))) := by
  let x : Acceptance := ⟨p, i, time⟩
  obtain ⟨tokens', spare, htokens', hplanned⟩ := hlater
  rw [List.map_append, List.map_singleton] at htokens' hplanned
  have hfan : s.fanOut plan (accepted.map Acceptance.crtc) ((p, i) :: rest) =
      (x :: (s.fanOut plan (accepted.map Acceptance.crtc ++ [x.crtc]) rest).1,
        (s.fanOut plan (accepted.map Acceptance.crtc ++ [x.crtc]) rest).2) := by
    simp only [Screen.fanOut, hfate]
    rfl
  unfold Follow.Fans
  rw [hfan]
  generalize s.fanOut plan (accepted.map Acceptance.crtc ++ [x.crtc]) rest = result at *
  refine ⟨t :: tokens', spare, congrArg Nat.succ htokens', fun plan' hplan' => ?_⟩
  obtain ⟨hplanp, hplanrest⟩ := List.forall_mem_cons.1 hplan'
  have hexchanges : s.exchanges r fb plan ((x :: result.1).zip (t :: tokens')) result.2 spare =
      (s.submissionOf r fb p t).tries (s.window plan p.crtc) ++
        s.exchanges r fb plan (result.1.zip tokens') result.2 spare :=
    List.append_assoc _ _ _
  rw [hexchanges, List.append_assoc]
  refine .attempted h henabled hplanp fun plan'' hplan'' => ?_
  rw [hdecided, List.append_cons accepted, List.append_cons tokens]
  -- The submissions for this pipe leave the plan for the others as it was.
  refine hplanned plan'' fun p' hp' => (hplan'' _ fun heq => hcrtc ?_).trans (hplanrest p' hp')
  exact heq ▸ List.mem_map_of_mem (f := fun p : Pipe × Nat => p.1.crtc) hp'

/-- The next pipe is tried. If it accepts its flip, `hlater` says how the others fare. -/
theorem tryPipe
    (h : s.Fanning r fb (Screen.tallyOf (accepted.length + 1) accepted.length true) accepted
      (s.flipsOf r accepted tokens) u) (htokens : tokens.length = accepted.length)
    (henabled : s.isEnabled i = true) (hnew : i ∉ accepted.map Acceptance.position)
    (hcrtc : p.crtc ∉ rest.map fun p => p.1.crtc) {later : List Nat}
    (hlater : ∀ time t u',
      let x : Acceptance := ⟨p, i, time⟩
      s.Fanning r fb (Screen.tallyOf ((accepted ++ [x]).length + 1) (accepted ++ [x]).length true)
        (accepted ++ [x]) (s.flipsOf r (accepted ++ [x]) (tokens ++ [t])) u' →
      Follow.Fans s r fb plan (accepted ++ [x]) (tokens ++ [t]) rest u'
        (.inl (.fan (s.fanoutOf r fb (accepted ++ [x]).length later)))) :
    Follow.Fans s r fb plan accepted tokens ((p, i) :: rest)
      (u.tryPipe (s.fanoutOf r fb accepted.length later) i p).screen
      (u.tryPipe (s.fanoutOf r fb accepted.length later) i p).next := by
  have hroom := h.full_iff (s.length_flipsOf r htokens)
  cases halloc : u.registry.allocate p.crtc
      (.flip ⟨s.swaps.length, s.referenceFor r == some p.vblank⟩) with
  | none =>
    have htry : u.tryPipe (s.fanoutOf r fb accepted.length later) i p = u.work [.noToken]
        (.conclude (s.fanoutOf r fb accepted.length later) (some .sequenceExhausted)) := by
      unfold Screen.tryPipe Screen.fanoutOf
      dsimp only
      rw [halloc]
    rw [htry]
    exact exhausted h htokens (hroom.1 (Registry.allocate_eq_none_iff.1 halloc)) later
  | some tr =>
    obtain ⟨t, r'⟩ := tr
    obtain ⟨u', h', htry⟩ := h.exists_tried later i halloc
    have hempty : ¬ s.registry.capacity ≤ s.occupiedAfter (accepted.map Acceptance.crtc) := by
      rw [← hroom, ← Registry.allocate_eq_none_iff, halloc]
      nofun
    rw [htry]
    -- The answers in the window of the pipe decide on its fate.
    rcases hdecision : (s.window plan p.crtc).findSome? Decision.final? with _ | e | time
    · refine failed (e := .channelStalled p.crtc) h' htokens henabled ?_ nofun
        (by rw [hdecision]; rfl)
      simp only [Screen.fate, hempty, if_false, hdecision]
    · refine failed (e := .submit p.crtc e) h' htokens henabled ?_ nofun (by rw [hdecision]; rfl)
      simp only [Screen.fate, hempty, if_false, hdecision]
    · refine cons h' henabled hcrtc ?_ (by rw [hdecision]; rfl) ?_
      · simp only [Screen.fate, hempty, if_false, hdecision]
      · let x : Acceptance := ⟨p, i, time⟩
        obtain ⟨u'', h'', haccepted⟩ := h'.exists_accepted later x t 0 hnew
        have hflips : s.flipsOf r accepted tokens ++ [s.pendingOf r p t] =
            s.flipsOf r (accepted ++ [x]) (tokens ++ [t]) := s.flipsOf_concat r htokens x t
        rw [hflips] at h''
        show Follow.Fans s r fb plan (accepted ++ [x]) (tokens ++ [t]) rest
          (u'.accepted _ x.time).screen (u'.accepted _ x.time).next
        rw [haccepted]
        exact hlater time t u'' h''

/-- The pipes to come are tried, one after the other. -/
theorem fan (rest : List (Pipe × Nat)) {accepted : List Acceptance} {tokens : List Token}
    (h : s.Fanning r fb (Screen.tallyOf (accepted.length + 1) accepted.length true) accepted
      (s.flipsOf r accepted tokens) u) (htokens : tokens.length = accepted.length)
    (hrest : ∀ p ∈ rest, s.pipes[p.2]? = some p.1 ∧ p.1.enabled = true)
    (hpositions : (accepted.map Acceptance.position ++ rest.map Prod.snd).Nodup)
    (hcrtcs : (accepted.map Acceptance.crtc ++ rest.map fun p => p.1.crtc).Nodup) :
    Follow.Fans s r fb plan accepted tokens rest u
      (.inl (.fan (s.fanoutOf r fb accepted.length (rest.map Prod.snd)))) := by
  refine step ?_
  -- On the pipes still to come: each accepted flip moves one pipe to `accepted`.
  induction rest generalizing accepted tokens u with
  | nil => exact nil h htokens
  | cons pi rest ih =>
    obtain ⟨p, i⟩ := pi
    obtain ⟨⟨hp, henabled⟩, hrest⟩ := List.forall_mem_cons.1 hrest
    have hnew : i ∉ accepted.map Acceptance.position := fun hmem =>
      (List.nodup_append.1 hpositions).2.2 i hmem i List.mem_cons_self rfl
    have hcrtc : p.crtc ∉ rest.map fun p => p.1.crtc :=
      (List.nodup_cons.1 (List.nodup_append.1 hcrtcs).2.1).1
    have hi : s.isEnabled i = true := by
      rw [Screen.isEnabled, hp]
      exact henabled
    have hfan : u.fan (s.fanoutOf r fb accepted.length (i :: rest.map Prod.snd)) =
        u.tryPipe (s.fanoutOf r fb accepted.length (rest.map Prod.snd)) i p := by
      have hpipe : u.pipes[i]? = some p := (h.getElem?_pipe hnew).trans hp
      simp only [Screen.fan, Screen.fanoutOf, hpipe]
      exact if_pos henabled
    show Follow.Fans s r fb plan accepted tokens _ (u.fan _).screen (u.fan _).next
    rw [List.map_cons, hfan]
    refine tryPipe h htokens hi hnew hcrtc fun time t u' h' => step (ih h' ?_ hrest ?_ ?_)
    · rw [List.length_append, List.length_append, htokens]
      rfl
    · rw [List.map_append, List.append_assoc]
      exact hpositions
    · rw [List.map_append, List.append_assoc]
      exact hcrtcs

end Follow.Fans

namespace Session

variable {s : Session}

/-- A swap on a screen whose pipes have controllers of their own, at any moment, whatever else is
unfinished, registered or displayed, for every request and every plan: if its buffer is imported,
the channel keeps to the plan and is found empty whenever it is read, and handlers only return, then
the flips that are accepted are those of the fan-out, each under a token of its own, the exchanges
are just those over these flips, over the one that failed, and over a swap of which no flip was
accepted, and the screen and the result are as they should be. Nothing else can happen. -/
theorem swap_fans_out (r : SwapRequest) (fb : Framebuffer) (plan : Plan)
    (hunbroken : s.violation = none)
    (hcrtcs : (s.screen.pipes.map Pipe.crtc).Nodup) :
    let fanned := s.screen.fanOut plan [] (s.screen.targeted r)
    ∃ t u tokens spare, s.call (.swap r) = some t ∧
      t.session.waits = .importing (s.screen.prepare r) :: s.waits ∧
      t.session.answer (.imported (.ok fb)) = some u ∧ tokens.length = fanned.1.length ∧
      let exchanges := s.screen.exchanges r fb plan (fanned.1.zip tokens) fanned.2 spare ++
        Screen.rejection r fb fanned.1
      let ends := s.screen.SwapEnds r fb fanned.1 tokens fanned.2 spare
      u.Planned s.waits ends plan exchanges ∧
      ∀ post es, u.Planned s.waits post plan es →
        es = exchanges ∧ ∃ s' o, post s' o ∧ ends s' o := by
  let prep := s.screen.prepare r
  let slot := s.screen.slotFor r
  let s₁ := ((s.screen.assign slot fb).addSwap ⟨.new fb (s.screen.held slot), slot, r.client⟩).2
  have hcall : s.call (.swap r) =
      some ⟨⟨s.screen, .importing prep :: s.waits, none⟩, [], none⟩ := by
    unfold call
    rw [hunbroken]
    rfl
  have hlaunch : s.screen.launch prep fb = s₁.work []
      (.fan (s.screen.fanoutOf r fb 0 ((s.screen.targeted r).map Prod.snd))) := by
    have hcount : (s.screen.targeted r).length = (s.screen.participants prep.target).length := by
      rw [← Screen.map_targeted, List.length_map]
    simp only [s₁, slot, Screen.fanoutOf, hcount, Screen.map_targeted, Screen.slotFor_eq,
      Screen.flagsFor_eq, Screen.referenceFor_eq]
    rfl
  -- At first only the submitter has a hold on the swap.
  have h₁ : s.screen.Fanning r fb (Screen.tallyOf 1 0 true) [] (s.screen.flipsOf r [] []) s₁ :=
    { config := rfl
      slots := rfl
      swaps := rfl
      pipes := fun i => Option.map_id'.symm
      max := rfl
      pending := (List.append_nil _).symm
      retired := (List.filter_eq_self.2 fun e _ => decide_eq_true List.not_mem_nil).symm }
  have hpositions : ((s.screen.targeted r).map Prod.snd).Nodup := by
    rw [Screen.map_targeted]
    exact List.nodup_range.filter _
  have hcrtcs : ((s.screen.targeted r).map fun p => p.1.crtc).Nodup := by
    have hall : (s.screen.pipes.zipIdx.map fun p => p.1.crtc) = s.screen.pipes.map Pipe.crtc :=
      calc (s.screen.pipes.zipIdx.map fun p => p.1.crtc)
          = (s.screen.pipes.zipIdx.map Prod.fst).map Pipe.crtc := List.map_map.symm
        _ = s.screen.pipes.map Pipe.crtc := by rw [List.zipIdx_map_fst]
    exact (hall ▸ hcrtcs).sublist (List.filter_sublist.map _)
  have hfans : Follow.Fans s.screen r fb plan [] [] (s.screen.targeted r) s₁
      (.inl (.fan (s.screen.fanoutOf r fb 0 ((s.screen.targeted r).map Prod.snd)))) :=
    .fan _ h₁ rfl (fun _ => Screen.mem_targeted) hpositions hcrtcs
  obtain ⟨tokens, spare, htokens, hplanned⟩ := hfans
  have hturn := (hplanned plan fun _ _ => rfl).turn s.waits []
  change (settle s.waits (Screen.proceed (s₁.work [] _))).Planned s.waits _ plan _ at hturn
  rw [← hlaunch] at hturn
  exact ⟨_, _, tokens, spare, hcall, rfl, rfl, htokens, hturn, fun post es h => h.unique hturn⟩

/-- The first pipe takes its flip on the second attempt, and the second pipe rejects its flip. -/
def halfway : Plan := fun crtc n =>
  if crtc = ⟨31⟩ then ⟨if n = 0 then .error .channelFull else .ok (), ⟨2, 0⟩⟩
  else ⟨.error (.rejected .busy), ⟨3, 0⟩⟩

/-- The screen with two pipes and nothing in flight. -/
def twoPipes : Session := new { Screen.new Sample.pipes .default with slots := Sample.slots }

/-- The request of a swap to both. -/
def everywhere : SwapRequest := ⟨.linear 64 64 0 1 256, false, .all, none, 1⟩

/-- The second attempt brings the framebuffer up on the first pipe, so the swap has succeeded when
the second pipe fails. -/
theorem halfway_fans_out :
    (twoPipes.screen.pipes.map Pipe.crtc).Nodup ∧ ∃ t u token spare,
      twoPipes.call (.swap everywhere) = some t ∧
      t.session.answer (.imported (.ok ⟨100⟩)) = some u ∧
      u.Planned []
        (twoPipes.screen.SwapEnds everywhere ⟨100⟩ [⟨.new ⟨31⟩ 0, 0, ⟨2, 0⟩⟩] [token]
          (some (.new ⟨32⟩ 1, .submit ⟨32⟩ .busy)) spare) halfway
        [.submitted ⟨⟨31⟩, ⟨100⟩, 1, token⟩ (.error .channelFull), .looked,
          .submitted ⟨⟨31⟩, ⟨100⟩, 1, token⟩ (.ok ()),
          .submitted ⟨⟨32⟩, ⟨100⟩, 1, spare⟩ (.error (.rejected .busy))] := by
  have hcrtcs : (twoPipes.screen.pipes.map Pipe.crtc).Nodup := by decide
  have hfanned : twoPipes.screen.fanOut halfway [] (twoPipes.screen.targeted everywhere) =
      ([⟨.new ⟨31⟩ 0, 0, ⟨2, 0⟩⟩], some (.new ⟨32⟩ 1, .submit ⟨32⟩ .busy)) := rfl
  obtain ⟨t, u, tokens, spare, ht, -, hu, htokens, hplanned, -⟩ :=
    swap_fans_out (s := twoPipes) everywhere ⟨100⟩ halfway rfl hcrtcs
  rw [hfanned] at htokens hplanned
  obtain ⟨token, rfl⟩ := List.length_eq_one_iff.1 htokens
  exact ⟨hcrtcs, t, u, token, spare, ht, hu, hplanned⟩

end Session

end PageFlip
