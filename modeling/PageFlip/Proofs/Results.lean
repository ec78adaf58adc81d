import PageFlip.Proofs.Imports
import PageFlip.Proofs.Request

/-!
# What a swap returns and what its client is told

What a call for a swap returns agrees with everything else that is known of the swap
(`Course.result_agrees`). A call whose framebuffer could not be imported consists of the call and
the failed import alone, and there is no swap of which a client could be told. A call that returns
another error has left nothing behind: its client was told so before, and the framebuffer that was
imported for it is given up, not the one that it displaced. A call that succeeds has an accepted
flip, gives up the displaced framebuffer and no other, and its client is told a stamp exactly if a
flip was completed.
-/

namespace PageFlip

namespace Course

variable {pipes : List Pipe} {slots : List Framebuffer} {config : Config} {c d : Course}
  {acts : List Act} {call : Call} {left : Screen} {later earlier : List Happening}

/-- A client is only told of a swap that one call has brought. -/
theorem count_of_told (hs : c.Sound) (hc : c.scene.Faithful) {id : SwapId} {news : News}
    (htold : .told id news ∈ c.history) : (c.allCalls.map Call.swap).count (some id) = 1 := by
  have hlt : id < c.session.screen.swaps.length := by
    by_contra hnot
    have hrecord := (hc.chronicled.beyond (Nat.le_of_not_lt hnot)).1
    have hmem := mem_told_recordOf htold
    rw [show recordOf id c.history = {} from hrecord] at hmem
    cases hmem
  have hbrought : (c.allCalls.filterMap Call.swap).Perm
      (List.range c.session.screen.swaps.length) := callsOf_scene hs ▸ hc.filed.brought
  have hcount := hbrought.count_eq id
  rw [List.nodup_range.count, if_pos (List.mem_range.2 hlt)] at hcount
  rw [← hcount]
  generalize c.allCalls = calls
  induction calls with
  | nil => rfl
  | cons call calls ih =>
    cases hswap : call.swap with
    | none => simpa [hswap] using ih
    | some j => simp [hswap, List.count_cons, ih]

/-- If the channel only reports flips that it has accepted, then what a call for a swap returns
agrees with what its client is told and with what becomes of its framebuffers: the one that the
device imported for this call, right after it, and the one that the slot of the request held then.
Handlers may call. -/
theorem result_agrees (hplay : (new pipes slots config).play .honest acts = some c)
    (hapart : acts.length + 2 < UInt32.size ∨
      (new pipes slots config).play Conduct.honest.apart acts = some c)
    (hunbroken : c.session.violation = none) {result : Except SwapError Unit}
    (hhistory : c.history = later ++ .returned call (.swapped result) left :: earlier) :
    (∀ id news, .told id news ∈ c.history → (c.allCalls.map Call.swap).count (some id) = 1) ∧
    ∃ r, call.op = .swap r ∧
      match call.swap with
      | none =>
        ∃ e before after d, result = .error (.importFramebuffer e) ∧
          acts = before ++ .call call.op :: .answer (.imported (.error e)) :: after ∧
          (new pipes slots config).play .honest before = some d ∧
          left = d.session.screen ∧ earlier = d.history
      | some id =>
        ∃ before fb after d,
          acts = before ++ .call call.op :: .answer (.imported (.ok fb)) :: after ∧
          (new pipes slots config).play .honest before = some d ∧
          call.found = d.session.screen ∧ id = d.session.screen.swaps.length ∧
          ∃ w, c.session.screen.swaps[id]? = some w ∧ w.client = r.client ∧
          w.slot = call.found.slotFor r ∧
          w.barrier.newFb = fb ∧ w.barrier.oldFb = call.found.held w.slot ∧
          match result with
          | .error e => (∀ x, e ≠ .importFramebuffer x) ∧ Undone left earlier id w ∧
              Undone c.session.screen c.history id w
          | .ok () => (∃ f, .accepted id f ∈ earlier) ∧
              Done c.session.screen c.scene.agenda.reclaims c.history id w := by
  -- Either way the channel keeps off the flips that are being queued.
  have htruthful : (new pipes slots config).play Conduct.honest.apart acts = some c :=
    hapart.elim (fun hlength => play_apart Conduct.tellsAccepted_honest hlength hplay) id
  obtain ⟨hs, hc, harchived⟩ := faithful (Conduct.truthful_apart _) htruthful hunbroken
  refine ⟨fun id news => count_of_told hs hc, ?_⟩
  have hreturned : .returned call (.swapped result) left ∈ c.history := by
    rw [hhistory]
    exact List.mem_append_right _ List.mem_cons_self
  obtain ⟨r, hop⟩ := (hc.filed.returned _ _ _ hreturned).1
  refine ⟨r, hop, ?_⟩
  rcases hc.of_returned hreturned with ⟨hswap, e, rfl⟩ | ⟨r', id, w, hop', hswap, hw, hclient,
    hslot, hold, hresult⟩
  · -- Without a swap the call could not import its framebuffer.
    rw [hswap]
    obtain ⟨before, after, d, hacts, hbefore, hleft, hearlier⟩ :=
      refused_of_play (Conduct.truthful_apart _) htruthful hunbroken hhistory
    exact ⟨e, before, after, d, rfl, hacts, play_of_apart hbefore, hleft, hearlier⟩
  · rw [hswap]
    obtain rfl : r = r' := Operation.swap.inj (hop.symm.trans hop')
    have hcall : call ∈ c.allCalls :=
      List.mem_append_right _ (List.mem_filterMap.2 ⟨_, hreturned, rfl⟩)
    -- The act behind the call has brought the framebuffer of its swap.
    obtain ⟨before, fb, after, d, hacts, hbefore, hfound, -, hid, hfb⟩ :=
      imported_of_play (Conduct.truthful_apart _) htruthful hunbroken hcall hswap
    have hw : c.session.screen.swaps[id]? = some w := hw
    rw [hw] at hfb
    have hslotFor : w.slot = call.found.slotFor r := hslot.trans (Screen.slotFor_eq _ _).symm
    refine ⟨before, fb, after, d, hacts, play_of_apart hbefore, hfound, hid, w, hw, hclient,
      hslotFor, Option.some.inj hfb, hold, ?_⟩
    -- The scene in which the call returned.
    obtain ⟨⟨ls, fbs, hthen, hA⟩, hswaps⟩ := harchived later call _ left earlier hhistory
    rcases hthen.of_returned List.mem_cons_self with ⟨hnone, -⟩ | ⟨r', id', w', -, hswap', hw', -,
      -, -, hresult'⟩
    · rw [hswap] at hnone
      cases hnone
    · obtain rfl := Option.some.inj (hswap.symm.trans hswap')
      obtain ⟨w'', hw'', hcont⟩ := hswaps id w' hw'
      obtain rfl : w = w'' := Option.some.inj (hw.symm.trans hw'')
      cases result with
      | ok =>
        obtain ⟨f, hf⟩ := accepted_recordOf_iff.1 hresult'
        refine ⟨⟨f, (List.mem_cons.1 hf).resolve_left nofun⟩, hc.done hw hresult⟩
      | error e =>
        have hundone := hthen.undone hA List.mem_cons_self hswap hw' hresult'.1
        have hdestroyed : (recordOf id earlier).destroyed =
            [w.barrier.newFb].filter fun fb => !fb.isNone := by
          rw [hcont.newFb]
          exact hundone.destroyed
        refine ⟨hresult.2,
          ⟨?_, hundone.unregistered, ?_, hdestroyed, not_mem_of_destroyed hdestroyed⟩,
          hc.undone hs.accounted hreturned hswap hw hresult.1⟩
        · exact fun f hf => hundone.accepted f (List.mem_cons_of_mem _ hf)
        · rw [hcont.client]
          exact hundone.told

open Sample in
/-- A swap completes, and its handler starts another one, which the kernel rejects. -/
def rejectedInHandler : List Act :=
  [swap 0, brings 100, accepts, .call .drain, reads first, swap 1, brings 101, rejects, returns,
    destroys, returns, destroys].filterMap Move.act?

/-- The first swap returned a success and its client was told a stamp; the second one returned an
error after its client was told that it was aborted. The framebuffer 101 that was imported for the
second one is given up, not the one of the first that it displaced. -/
theorem rejectedInHandler_agrees :
    ∃ c, (new Sample.pipe Sample.slots .default).play .honest rejectedInHandler = some c ∧
      rejectedInHandler.length + 2 < UInt32.size ∧ c.session.violation = none ∧
      (∃ w, c.session.screen.swaps[0]? = some w ∧
        Done c.session.screen c.scene.agenda.reclaims c.history 0 w) ∧
      ∃ w, c.session.screen.swaps[1]? = some w ∧ w.barrier.newFb = ⟨101⟩ ∧
        w.barrier.oldFb = ⟨100⟩ ∧ Undone c.session.screen c.history 1 w := by
  have hlength : rejectedInHandler.length + 2 < UInt32.size := by decide
  have hdone {c : Course} (later : List Happening) {call : Call} {left : Screen}
      {earlier : List Happening} {id : SwapId}
      (hplay : (new Sample.pipe Sample.slots .default).play .honest rejectedInHandler = some c)
      (hunbroken : c.session.violation = none)
      (hhistory : c.history = later ++ .returned call (.swapped (.ok ())) left :: earlier)
      (hswap : call.swap = some id) : ∃ w, c.session.screen.swaps[id]? = some w ∧
        Done c.session.screen c.scene.agenda.reclaims c.history id w := by
    obtain ⟨-, r, -, hresult⟩ := result_agrees hplay (.inl hlength) hunbroken hhistory
    rw [hswap] at hresult
    obtain ⟨-, -, -, -, -, -, -, -, w, hw, -, -, -, -, -, h⟩ := hresult
    exact ⟨w, hw, h⟩
  have hundone {c : Course} (later : List Happening) {call : Call} {e : SwapError} {left : Screen}
      {earlier : List Happening} {id : SwapId} {newFb oldFb : Framebuffer}
      (hplay : (new Sample.pipe Sample.slots .default).play .honest rejectedInHandler = some c)
      (hunbroken : c.session.violation = none)
      (hhistory : c.history = later ++ .returned call (.swapped (.error e)) left :: earlier)
      (hswap : call.swap = some id)
      (hfbs : (c.session.screen.swaps[id]?).map (fun w => (w.barrier.newFb, w.barrier.oldFb)) =
        some (newFb, oldFb)) : ∃ w, c.session.screen.swaps[id]? = some w ∧
        w.barrier.newFb = newFb ∧ w.barrier.oldFb = oldFb ∧
        Undone c.session.screen c.history id w := by
    obtain ⟨-, r, -, hresult⟩ := result_agrees hplay (.inl hlength) hunbroken hhistory
    rw [hswap] at hresult
    obtain ⟨-, -, -, -, -, -, -, -, w, hw, -, -, -, -, -, -, h⟩ := hresult
    rw [hw] at hfbs
    obtain ⟨hnew, hold⟩ := Prod.mk.inj (Option.some.inj hfbs)
    exact ⟨w, hw, hnew, hold, h⟩
  refine ⟨_, rfl, hlength, rfl, ?_, ?_⟩
  · exact hdone [_, _, _, _, _, _, _] rfl rfl rfl rfl
  · exact hundone [_, _] rfl rfl rfl rfl rfl

end Course

end PageFlip
