import PageFlip.Proofs.Effects
import PageFlip.Proofs.Unbroken

/-!
# Every swap completes once

While a swap is in the middle of its flips or one of them is unresolved, its client is told nothing;
when the last hold goes the client is told the outcome, in the same move, and never again
(`World.swap_completes_once`).
-/

namespace PageFlip

/-- A change that tells nothing of a swap adds nothing to what its client was told. -/
theorem Label.count_news {l : Label} {id : SwapId} (h : ∀ news, l ≠ .told id news) :
    (l.news.map Prod.fst).count id = 0 := by
  cases l with
  | told id' news =>
    have hne : id' ≠ id := fun he => h news (he ▸ rfl)
    simp [Label.news, hne]
  | _ => rfl

/-- The ledger has what was told before and what a change tells. -/
theorem Label.told_write (m : Moment) (l : Label) :
    (l.write m).told = l.news ++ m.ledger.told := by
  cases l with
  | reclaimed id v fb =>
    rw [Label.write_reclaimed]
    rfl
  | _ => rfl

/-- The client of each swap was told its outcome once, if it has one. -/
structure Told (s : Screen) (told : List (SwapId × News)) : Prop where
  count : ∀ {id : SwapId} {w : Swap}, s.swaps[id]? = some w →
    (told.map Prod.fst).count id = if w.barrier.isFinal then 1 else 0
  client : ∀ e ∈ told, ∃ w, s.swaps[e.1]? = some w ∧ ∃ stamp, e.2 = .swap w.client stamp

namespace Told

variable {s s' : Screen} {g g' : Agenda} {told : List (SwapId × News)} {l : Label}

/-- A change tells the client of a swap its outcome when the swap has it, and no other client. -/
theorem change (h : Told s told) (hc : Change s g l s' g') : Told s' (l.news ++ told) where
  count := by
    intro id w' hw'
    rw [List.map_append, List.count_append]
    rcases hc.swap_before hw' with ⟨w, hw, -, ⟨hno, hfinal⟩ | ⟨⟨stamp, rfl⟩, hbefore, hafter⟩⟩ |
      ⟨p, fb, rfl, hid, rfl⟩
    · rw [Label.count_news hno, h.count hw, hfinal, Nat.zero_add]
    · rw [h.count hw, hbefore, hafter]
      simp [Label.news]
    · -- Nothing was told of a swap that is only added now.
      have hzero : (told.map Prod.fst).count id = 0 := by
        rw [List.count_eq_zero]
        intro hmem
        obtain ⟨e, he, rfl⟩ := List.mem_map.1 hmem
        obtain ⟨w, hw, -⟩ := h.client e he
        exact absurd hid (Nat.ne_of_lt (Accounted.lt_length hw))
      rw [hzero]
      rfl
  client := by
    intro e he
    rcases List.mem_append.1 he with he | he
    · cases l with
      | told id news =>
        obtain rfl := List.mem_singleton.1 he
        obtain ⟨w, w', hw, hw', -, -, stamp, hnews⟩ := hc.of_told
        obtain ⟨w'', hw'', hcont⟩ := hc.swap_after hw
        rw [hw'] at hw''
        cases hw''
        exact ⟨w', hw', stamp, by rw [hcont.client]; exact hnews⟩
      | _ => cases he
    · obtain ⟨w, hw, stamp, hnews⟩ := h.client e he
      obtain ⟨w', hw', hcont⟩ := hc.swap_after hw
      exact ⟨w', hw', stamp, by rw [hcont.client]; exact hnews⟩

/-- Every move keeps it that a client was told the outcome once. -/
theorem evolves {rules : Rules} {apart : Moment → Prop} {m m' : Moment}
    (h : Told m.screen m.ledger.told) (he : Evolves rules apart m m') :
    Told m'.screen m'.ledger.told := by
  cases he with
  | change hc _ =>
    rw [Label.told_write]
    exact h.change hc
  | report => exact h
  | lose => exact h

end Told

namespace World

variable {pipes : List Pipe} {slots : List Framebuffer} {config : Config} {moves : List Move}
  {w : World}

/-- In a session that is not broken, the holds on a swap are accounted for, and its client was told
its outcome once if there are none. -/
theorem told_of_not_broken {rules : Rules} {id : SwapId} {x : Swap}
    (hplay : (new pipes slots config).play rules moves = some w)
    (hunbroken : w.session.violation = none) (hx : w.session.screen.swaps[id]? = some x) :
    x.barrier.outstanding =
        (if id ∈ w.session.agenda.unreleased then 1 else 0) +
          w.session.screen.records w.session.agenda id ∧
      (w.ledger.told.map Prod.fst).count id = (if x.barrier.outstanding = 0 then 1 else 0) ∧
      ∀ news, (id, news) ∈ w.ledger.told → ∃ stamp, news = .swap x.client stamp := by
  cases reached hplay with
  | sound hpath hs =>
    have htold := hpath.keeps (p := fun m => Told m.screen m.ledger.told)
      (fun _ _ => Told.evolves) ⟨fun hw => (by cases hw), fun _ he => (by cases he)⟩
    have hcounts := hs.accounted.counts hx
    -- A swap has its outcome exactly if nothing holds it.
    have hfinal : (x.barrier.isFinal = true) = (x.barrier.outstanding = 0) := by
      rw [hcounts.isFinal_iff, hcounts.outstanding_eq]
    refine ⟨?_, ?_, fun news hnews => ?_⟩
    · have hlocal := hcounts.local_le_one
      rw [hcounts.outstanding_eq]
      congr 1
      split_ifs with hmem
      · exact Nat.le_antisymm hlocal (List.count_pos_iff.2 hmem)
      · exact List.count_eq_zero.2 hmem
    · rw [← if_congr (iff_of_eq hfinal) rfl rfl]
      exact htold.count hx
    · obtain ⟨y, hy, hnews⟩ := htold.client _ hnews
      have hy : w.session.screen.swaps[id]? = some y := hy
      rw [hx] at hy
      cases hy
      exact hnews
  | stray _ _ _ _ _ hv =>
    rw [hunbroken] at hv
    cases hv

/-- With a channel that waits for the reports on retired tokens no rule is broken, unless the
numbers run out and two flips are being queued under one. A swap has one hold of its submitter, as
long as that has not given it up, and one for each of its flips that is pending or to be aborted.
Its client was told the outcome once if there are none, and nothing before. -/
theorem swap_completes_once (hplay : (new pipes slots config).play .clean moves = some w) :
    (moves.length + 2 < UInt32.size ∨
        (∀ u ∈ (new pipes slots config).visits .clean moves, u.moment.queued.Nodup) →
      w.session.violation = none) ∧
    (w.session.violation = none → ∀ {id : SwapId} {x : Swap},
      w.session.screen.swaps[id]? = some x →
        x.barrier.outstanding =
            (if id ∈ w.session.agenda.unreleased then 1 else 0) +
              w.session.screen.records w.session.agenda id ∧
          (w.ledger.told.map Prod.fst).count id = (if x.barrier.outstanding = 0 then 1 else 0) ∧
          ∀ news, (id, news) ∈ w.ledger.told → ∃ stamp, news = .swap x.client stamp) :=
  ⟨fun hqueued => unbroken_of_clean hplay hqueued,
    fun hunbroken _ _ hx => told_of_not_broken hplay hunbroken hx⟩

open Sample in
/-- The first of two flips is reported while the second one waits for room in the channel; then a
pipe is disabled and a swap is queued from the handler. -/
def swapFromHandler : List Move :=
  [swap 0, brings 100, accepts, isFull, .report first, reads first, accepts,
    .call (.disable ⟨32⟩), swap 1, brings 101, accepts]

/-- In it the first client was told the outcome once, and the second swap has its flip ahead. -/
theorem swapFromHandler_completes :
    ∃ w, (new Sample.pipes Sample.slots .default).play .clean swapFromHandler = some w ∧
      w.session.violation = none ∧
      (∀ {id : SwapId} {x : Swap}, w.session.screen.swaps[id]? = some x →
        (w.ledger.told.map Prod.fst).count id = if x.barrier.outstanding = 0 then 1 else 0) ∧
      (w.session.screen.swaps.map fun x => x.barrier.outstanding) = [0, 1] ∧
      w.ledger.told = [(0, .swap 0 (some ⟨1, 10⟩))] := by
  have hlength : swapFromHandler.length + 2 < UInt32.size := by decide
  have hcompletes {w : World}
      (hplay : (new Sample.pipes Sample.slots .default).play .clean swapFromHandler = some w) :
      w.session.violation = none ∧
        ∀ {id : SwapId} {x : Swap}, w.session.screen.swaps[id]? = some x →
          (w.ledger.told.map Prod.fst).count id = if x.barrier.outstanding = 0 then 1 else 0 := by
    obtain ⟨hunbroken, htold⟩ := swap_completes_once hplay
    have hunbroken := hunbroken (.inl hlength)
    exact ⟨hunbroken, fun hx => (htold hunbroken hx).2.1⟩
  exact ⟨_, rfl, (hcompletes rfl).1, (hcompletes rfl).2, by decide, by decide⟩

end World

end PageFlip
