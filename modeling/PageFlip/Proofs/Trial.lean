import PageFlip.Proofs.Step
import PageFlip.Proofs.Tallying
import PageFlip.Proofs.Unattended

/-!
# A barrier is a function of its history

Whatever is done to a fresh barrier, in whatever order and however often, what it counts, what it
refuses and how it ends can be read off the history of what was done (`Fresh.follows_history`). The
history may break the rules: a refused use is caught, and the next one follows.

A `Trial` plays a history, with a record of what was told, what was to be given up and which rules
were broken. It has two parts. Up to the touch that brings the balance of the history to zero the
barrier counts (`Fresh.Counting`); from then on it refuses every use but a mark, also while the
handler runs, and the operation that brought the outcome waits for the handler and then for the
device (`Fresh.Settled`).

The proof writes down the whole trial as a function of its history, once for each part
(`Fresh.counting`, `Fresh.settled`), and shows that each touch leads from one such trial to the next
(`Fresh.Reaches`).
-/

namespace PageFlip

/-- What was seen of a swap and its barrier. -/
structure Trial where
  session : Session
  swap : SwapId
  /-- The slot that the swap writes. -/
  slot : Slot
  /-- What handlers were told. -/
  told : List News
  /-- The framebuffers that the device was asked to give up. -/
  removed : List Framebuffer
  /-- The rules that were broken. -/
  refused : List Violation

namespace Trial

/-- The barrier of the swap. -/
def barrier? (t : Trial) : Option Barrier :=
  (t.session.screen.swaps[t.swap]?).map Swap.barrier

/-- What is in the slot of the swap. -/
def held (t : Trial) : Framebuffer := t.session.screen.held t.slot

/-- Changes the screen, and nothing else. -/
def edit (t : Trial) (s : Screen) : Trial := { t with session := { t.session with screen := s } }

/-- Notes a broken rule. -/
def refuse (t : Trial) (v : Violation) : Trial := { t with refused := t.refused ++ [v] }

/-- Notes what follows from a call or an answer. If a rule was broken, that is caught: the session
goes on as it was left. -/
def after (t : Trial) (u : Turn) : Trial :=
  let t := { t with session := { u.session with violation := none } }
  match u.session.violation, u.outcome, u.session.waits with
  | some v, _, _ => t.refuse v
  | none, none, .telling news _ :: _ => { t with told := t.told ++ [news] }
  | none, none, .destroying fb _ :: _ => { t with removed := t.removed ++ [fb] }
  | _, _, _ => t

/-- Carries out a touch; none if it is an answer that nothing waits for. -/
def step (t : Trial) : Touch → Option Trial
  | .hold => t.barrier?.map fun b =>
    match b.hold with
    | .ok c => t.edit (t.session.screen.setBarrier t.swap c)
    | .error v => t.refuse v
  | .mark => t.barrier?.map fun b => t.edit (t.session.screen.setBarrier t.swap b.markSubmitted)
  | .resolve reference stamp =>
    (t.session.call (.settle ⟨t.swap, reference⟩ stamp)).map t.after
  | .release => (t.session.call (.release t.swap)).map t.after
  | .assign fb => some (t.edit (t.session.screen.assign t.slot fb))
  | .returned => (t.session.answer .returned).map t.after
  | .destroyed result => (t.session.answer (.destroyed result)).map t.after

/-- Carries out the touches of a history, one after the other. -/
def play (t : Trial) (h : List Touch) : Option Trial := h.foldlM step t

/-- The last touch of a history is carried out on what the others led to. -/
theorem play_concat (t : Trial) (h : List Touch) (x : Touch) :
    t.play (h ++ [x]) = (t.play h).bind (·.step x) := by
  simp only [play, List.foldlM_append, List.foldlM_cons, List.foldlM_nil]
  cases h.foldlM step t with
  | none => rfl
  | some u => exact Option.bind_fun_some (u.step x)

section Calls

variable {t : Trial} {w : Swap}

/-- A flip is resolved in an operation of its own. -/
theorem step_resolve (hbroken : t.session.violation = none)
    (hw : t.session.screen.swaps[t.swap]? = some w) (reference : Bool) (stamp : Option Stamp) :
    t.step (.resolve reference stamp) =
      some (t.after (Session.settle t.session.waits (Screen.proceed
        (t.session.screen.settle t.swap (w.barrier.resolve reference stamp) w.client
          (.finish .done))))) := by
  simp only [step, Session.call, hbroken, Option.map_some, Screen.start]
  rw [Screen.settleFlip_eq hw]

/-- The submitter's hold is released in an operation of its own. -/
theorem step_release (hbroken : t.session.violation = none)
    (hw : t.session.screen.swaps[t.swap]? = some w) :
    t.step .release =
      some (t.after (Session.settle t.session.waits (Screen.proceed
        (t.session.screen.settle t.swap w.barrier.release w.client (.finish .done))))) := by
  simp only [step, Session.call, hbroken, Option.map_some, Screen.start]
  rw [Screen.release_eq hw]

/-- A broken rule changes nothing but the record. -/
theorem after_error (hbroken : t.session.violation = none) (v : Violation) (client : Client)
    (next : Task) :
    t.after (Session.settle t.session.waits (Screen.proceed
      (t.session.screen.settle t.swap (.error v) client next))) = t.refuse v := by
  obtain ⟨⟨screen, waits, violation⟩, swap, slot, told, removed, refused⟩ := t
  cases hbroken
  rfl

/-- The operation that was going on is over. -/
theorem after_finish (t : Trial) (s : Screen) (notices : List Notice) :
    t.after (Session.settle [] (Screen.proceed (s.work notices (.finish .done)))) =
      { t with session := .new s } := by
  rw [Screen.proceed_work]
  rfl

end Calls

end Trial

/-- A swap that is about to be set up on a screen. -/
structure Fresh where
  screen : Screen
  slot : Slot
  /-- The framebuffer that the swap displaces. -/
  oldFb : Framebuffer
  client : Client
  /-- The screen has the slot. -/
  hslot : slot < screen.slots.length

namespace Fresh

open Touch

section Statement

variable (f : Fresh)

/-- The framebuffer that the swap brings up is in the slot already. -/
def newFb : Framebuffer := f.screen.held f.slot

/-- The place that the swap gets. -/
def swap : SwapId := f.screen.swaps.length

/-- The swap with its barrier. -/
def record (b : Barrier) : Swap := ⟨b, f.slot, f.client⟩

/-- The trial of the fresh barrier. -/
def trial : Trial :=
  let (id, s) := f.screen.addSwap (f.record (.new f.newFb f.oldFb))
  ⟨.new s, id, f.slot, [], [], []⟩

/-- The framebuffer that is left over at the outcome. -/
def spare (h : List Touch) : Framebuffer := if tookEffect h then f.oldFb else f.newFb

/-- What is in the slot after the outcome. -/
def content (first later : List Touch) : Framebuffer :=
  later.foldl (put f.newFb f.oldFb (tookEffect first)) (written f.newFb first)

/-- What a trial shows while holds remain. -/
structure Counting (h : List Touch) (t : Trial) : Prop where
  unfinished : Open h
  barrier : ∃ b, t.barrier? = some b ∧ b.isFinal = false ∧ (b.outstanding : Int) = balance h
  told : t.told = []
  removed : t.removed = []
  refused : t.refused = repeated h
  held : t.held = written f.newFb h
  /-- Nothing waits for an answer, and all else can be done. -/
  possible : ∀ x, (t.step x).isSome = !x.isAnswer

/-- What a trial shows after the outcome, which the last touch of `first` has brought. -/
structure Settled (first later : List Touch) (t : Trial) : Prop where
  closing : Closing first
  barrier : ∃ b, t.barrier? = some b ∧ b.isFinal = true ∧ b.outstanding = 0
  /-- One handler was told, and once. -/
  told : t.told = [.swap f.client (shownAt first)]
  /-- Once the handler has returned, the device was asked once, unless nothing is left over. -/
  removed : t.removed =
    if later.any isReturned && !(f.spare first).isNone then [f.spare first] else []
  refused : t.refused = repeated first ++ later.filterMap refusal?
  held : t.held = f.content first later
  possible : ∀ x, x.isAnswer = false → (t.step x).isSome
  /-- The handler returns once. -/
  returned : (t.step .returned).isSome = !later.any isReturned
  /-- The device answers once. -/
  destroyed : ∀ result, (t.step (.destroyed result)).isSome =
    (!t.removed.isEmpty && !later.any isDestroyed)

end Statement

/-! ## Trials as functions of their histories -/

section ClosedForm

variable (f : Fresh)

/-- The screen with the swap on it and a framebuffer in the slot. -/
def carrying (b : Barrier) (fb : Framebuffer) : Screen :=
  { f.screen with
    slots := f.screen.slots.set f.slot fb
    swaps := f.screen.swaps ++ [f.record b] }

/-- The swap is there. -/
@[simp] theorem getElem?_carrying (b : Barrier) (fb : Framebuffer) :
    (f.carrying b fb).swaps[f.swap]? = some (f.record b) := by
  simp [carrying, swap]

/-- Another barrier takes the place of that of the swap. -/
@[simp] theorem setBarrier_carrying (b c : Barrier) (fb : Framebuffer) :
    (f.carrying b fb).setBarrier f.swap c = f.carrying c fb := by
  simp [carrying, swap, Screen.setBarrier, record, List.modify_eq_take_drop]

/-- Another framebuffer takes the place of that in the slot. -/
@[simp] theorem assign_carrying (b : Barrier) (fb fb' : Framebuffer) :
    (f.carrying b fb).assign f.slot fb' = f.carrying b fb' := by
  simp [carrying, Screen.assign]

/-- The slot holds the framebuffer. -/
@[simp] theorem held_carrying (b : Barrier) (fb : Framebuffer) :
    (f.carrying b fb).held f.slot = fb := by
  simp [carrying, Screen.held, f.hslot]

/-- The barrier while holds remain. -/
def counted (h : List Touch) : Barrier := ⟨f.newFb, f.oldFb, some (tally h)⟩

/-- The barrier with its outcome. -/
def finished : Barrier := ⟨f.newFb, f.oldFb, none⟩

/-- The trial while holds remain. -/
def counting (h : List Touch) : Trial :=
  ⟨.new (f.carrying (f.counted h) (written f.newFb h)), f.swap, f.slot, [], [], repeated h⟩

/-- What the operation that brought the outcome waits for. -/
def waits (first later : List Touch) : List Wait :=
  if later.any isReturned then
    if (f.spare first).isNone || later.any isDestroyed then []
    else [.destroying (f.spare first) (.finish .done)]
  else [.telling (.swap f.client (shownAt first)) (.reclaim f.swap (verdict first) (.finish .done))]

/-- The trial after the outcome. -/
def settled (first later : List Touch) : Trial where
  session := ⟨f.carrying f.finished (f.content first later), f.waits first later, none⟩
  swap := f.swap
  slot := f.slot
  told := [.swap f.client (shownAt first)]
  removed := if later.any isReturned && !(f.spare first).isNone then [f.spare first] else []
  refused := repeated first ++ later.filterMap refusal?

/-- The trial after a use that broke no rule: with the last hold the swap has its outcome. -/
def counts (h : List Touch) : Trial :=
  if balance h = 0 then f.settled h [] else f.counting h

/-- A trial begins with the empty history. -/
theorem trial_eq : f.trial = f.counting [] := by
  -- The slot holds the new framebuffer from the start.
  have hslots : f.screen.slots.set f.slot f.newFb = f.screen.slots :=
    congrArg Screen.slots (f.screen.assign_held f.slot)
  show _ = (⟨.new { f.screen with
    slots := f.screen.slots.set f.slot f.newFb
    swaps := f.screen.swaps ++ [f.record (f.counted [])] }, f.swap, f.slot, [], [], []⟩ : Trial)
  rw [hslots]
  rfl

end ClosedForm

/-! ## While holds remain -/

section Counting

variable (f : Fresh) {h : List Touch} {x : Touch}

/-- While holds remain, the swap is there with its tally. -/
theorem swaps_counting (h : List Touch) :
    (f.counting h).session.screen.swaps[(f.counting h).swap]? = some (f.record (f.counted h)) :=
  f.getElem?_carrying _ _

/-- While holds remain, its barrier has the tally of the history. -/
theorem barrier?_counting (h : List Touch) : (f.counting h).barrier? = some (f.counted h) :=
  congrArg (Option.map Swap.barrier) (f.swaps_counting h)

/-- A barrier that is replaced, in a touch that is noted nowhere else. -/
theorem edit_counting (hwritten : x.written? = none) (hrelease : x.isRelease = false) :
    (f.counting h).edit ((f.counting h).session.screen.setBarrier (f.counting h).swap
      (f.counted (h ++ [x]))) = f.counting (h ++ [x]) := by
  simp [Trial.edit, counting, Session.new, written_concat _ _ hwritten,
    repeated_of_not_release hrelease]

/-- A hold is added while holds remain. -/
theorem counting_hold (hpos : 0 < balance h) :
    (f.counting h).step .hold = some (f.counting (h ++ [.hold])) := by
  have hhold : (f.counted h).hold = .ok (f.counted (h ++ [.hold])) := by
    rw [counted, counted, tally_hold hpos]
    rfl
  simp only [Trial.step, f.barrier?_counting, Option.map_some, hhold]
  rw [f.edit_counting rfl rfl]

/-- The swap is marked while holds remain. -/
theorem counting_mark (h : List Touch) :
    (f.counting h).step .mark = some (f.counting (h ++ [.mark])) := by
  have hmark : (f.counted h).markSubmitted = f.counted (h ++ [.mark]) := by
    rw [counted, counted, tally_mark]
    rfl
  simp only [Trial.step, f.barrier?_counting, Option.map_some, hmark]
  rw [f.edit_counting rfl rfl]

/-- The slot is written while holds remain. -/
theorem counting_assign (h : List Touch) (fb : Framebuffer) :
    (f.counting h).step (.assign fb) = some (f.counting (h ++ [.assign fb])) := by
  have hcounted : f.counted (h ++ [.assign fb]) = f.counted h := by
    rw [counted, counted, tally_assign]
  have hwritten : written f.newFb (h ++ [.assign fb]) = fb := by simp [written, written?]
  have hrepeated : repeated (h ++ [.assign fb]) = repeated h := repeated_of_not_release rfl h
  simp only [Trial.step, Trial.edit, counting, Session.new, assign_carrying, hcounted, hwritten,
    hrepeated]

/-- Taking a hold away leaves the barrier that the longer history says. -/
theorem drop_counted {t : Tally} (ht : tally (h ++ [x]) = { t with holds := t.holds - 1 })
    (hpos : 0 < t.holds) (hbalance : 0 ≤ balance (h ++ [x])) :
    (f.counted h).drop t =
      if balance (h ++ [x]) = 0 then (f.finished, some (verdict (h ++ [x])))
      else (f.counted (h ++ [x]), none) := by
  have hverdict : t.verdict = verdict (h ++ [x]) := by rw [← verdict_tally, ht]; rfl
  -- The tally `t` counts the hold that goes, the balance of the longer history does not.
  have hholds : (balance (h ++ [x])).toNat = t.holds - 1 := congrArg Tally.holds ht
  unfold Barrier.drop
  by_cases hzero : balance (h ++ [x]) = 0
  · rw [if_pos (by omega), if_pos hzero, hverdict]
    rfl
  · rw [if_neg (by omega), if_neg hzero]
    simp only [counted, ht]

/-- The turn in which a hold was taken away. -/
theorem settle_carrying (waits : List Wait) (b c : Barrier) (fb : Framebuffer)
    (v : Option Verdict) :
    Session.settle waits (Screen.proceed
        ((f.carrying b fb).settle f.swap (.ok (c, v)) f.client (.finish .done))) =
      match v with
      | none => ⟨⟨f.carrying c fb, waits, none⟩, [], some .done⟩
      | some v =>
        let wait := Wait.telling (.swap f.client v.stamp) (.reclaim f.swap v (.finish .done))
        ⟨⟨f.carrying c fb, wait :: waits, none⟩, [], none⟩ := by
  cases v with
  | none =>
    simp only [Screen.settle, setBarrier_carrying]
    rw [Screen.proceed_work]
    rfl
  | some v =>
    simp only [Screen.settle, setBarrier_carrying]
    rfl

/-- A hold goes while holds remain: if it is the last one, the outcome comes. -/
theorem after_drop {t : Tally} (ht : tally (h ++ [x]) = { t with holds := t.holds - 1 })
    (hpos : 0 < t.holds) (hbalance : 0 ≤ balance (h ++ [x])) (hx : x.written? = none)
    (hrepeated : repeated (h ++ [x]) = repeated h) :
    (f.counting h).after (Session.settle [] (Screen.proceed
        ((f.carrying (f.counted h) (written f.newFb h)).settle f.swap
          (.ok ((f.counted h).drop t)) f.client (.finish .done)))) = f.counts (h ++ [x]) := by
  have hwritten := written_concat f.newFb h hx
  rw [f.drop_counted ht hpos hbalance, counts]
  split_ifs
  · -- The last hold: the operation rests in the handler.
    rw [settle_carrying]
    simp [Trial.after, counting, settled, content, waits, hwritten, hrepeated, verdict]
  · rw [settle_carrying]
    simp [Trial.after, counting, Session.new, hwritten, hrepeated]

/-- A flip is resolved while holds remain. -/
theorem counting_resolve (hpos : 0 < balance h) (reference : Bool) (stamp : Option Stamp) :
    (f.counting h).step (.resolve reference stamp) =
      some (f.counts (h ++ [.resolve reference stamp])) := by
  let t := (tally h).record reference stamp
  have hrecord : t.holds = (tally h).holds := by
    unfold t Tally.record
    cases stamp with
    | none => rfl
    | some stamp => dsimp only; split_ifs <;> rfl
  have hholds : 0 < (tally h).holds := Int.lt_toNat.2 hpos
  have ht : tally (h ++ [.resolve reference stamp]) = { t with holds := t.holds - 1 } := by
    rw [tally_resolve, hrecord]
  have hbalance : 0 ≤ balance (h ++ [.resolve reference stamp]) := by
    rw [balance_resolve]
    omega
  rw [Trial.step_resolve rfl (f.swaps_counting h)]
  exact congrArg some (f.after_drop ht (hrecord ▸ hholds) hbalance rfl
    (repeated_of_not_release rfl h))

/-- A second release breaks a rule. -/
theorem counting_release_again (hagain : h.any isRelease = true) :
    (f.counting h).step .release = some (f.counting (h ++ [.release])) := by
  have hrelease : (f.record (f.counted h)).barrier.release = .error .releasedTwice := by
    simp [Barrier.release, record, counted, tally, hagain]
  have hrefused : f.counting (h ++ [.release]) = (f.counting h).refuse .releasedTwice := by
    rw [counting, counted, tally_release_again hagain, written_concat _ _ rfl,
      repeated_release_again hagain]
    rfl
  rw [Trial.step_release rfl (f.swaps_counting h), hrelease, hrefused]
  exact congrArg some (Trial.after_error rfl _ _ _)

/-- The submitter's hold is released while holds remain, or released again. -/
theorem counting_release (hpos : 0 < balance h) :
    (f.counting h).step .release = some (f.counts (h ++ [.release])) := by
  cases hany : h.any isRelease with
  | false =>
    let t : Tally := { tally h with localHold := false }
    have hrelease : (f.record (f.counted h)).barrier.release = .ok ((f.counted h).drop t) := by
      simp [Barrier.release, record, counted, tally, hany, t]
    have hholds : 0 < t.holds := Int.lt_toNat.2 hpos
    have hbalance : 0 ≤ balance (h ++ [.release]) := by
      rw [balance_release, hany, if_neg Bool.false_ne_true]
      omega
    rw [Trial.step_release rfl (f.swaps_counting h), hrelease]
    exact congrArg some (f.after_drop (tally_release hany) hholds hbalance rfl
      (repeated_release hany))
  | true =>
    have hcounts : f.counts (h ++ [.release]) = f.counting (h ++ [.release]) := by
      refine if_neg ?_
      rw [balance_release, hany, if_pos rfl]
      omega
    rw [counting_release_again f hany, hcounts]

/-- All that nothing has to wait for leads on as the history says. -/
theorem step_counting (hpos : 0 < balance h) (hx : x.isAnswer = false) :
    (f.counting h).step x = some (f.counts (h ++ [x])) := by
  have hcounts (h : List Touch) (hne : balance h ≠ 0) : f.counts h = f.counting h := if_neg hne
  cases x with
  | hold =>
    rw [counting_hold f hpos, hcounts]
    rw [balance_hold]
    omega
  | mark =>
    rw [counting_mark, hcounts]
    rw [balance_of_neutral rfl rfl rfl]
    omega
  | resolve reference stamp => exact counting_resolve f hpos reference stamp
  | release => exact counting_release f hpos
  | assign fb =>
    rw [counting_assign, hcounts]
    rw [balance_of_neutral rfl rfl rfl]
    omega
  | returned => cases hx
  | destroyed => cases hx

/-- Nothing waits for an answer. -/
theorem step_counting_answer (hx : x.isAnswer = true) : (f.counting h).step x = none := by
  cases x with
  | returned => rfl
  | destroyed => rfl
  | _ => cases hx

end Counting

/-! ## After the outcome -/

section Settled

variable (f : Fresh) {first later : List Touch} {x : Touch}

/-- The swap is there after the outcome. -/
theorem swaps_settled (first later : List Touch) :
    (f.settled first later).session.screen.swaps[(f.settled first later).swap]? =
      some (f.record f.finished) :=
  f.getElem?_carrying _ _

/-- Its barrier has no tally then. -/
theorem barrier?_settled (first later : List Touch) :
    (f.settled first later).barrier? = some f.finished :=
  congrArg (Option.map Swap.barrier) (f.swaps_settled first later)

/-- What is in the slot after one more touch. -/
theorem content_concat (first later : List Touch) (x : Touch) :
    f.content first (later ++ [x]) =
      put f.newFb f.oldFb (tookEffect first) (f.content first later) x := by
  simp [content]

/-- The trial after a further touch that nothing has waited for. -/
theorem settled_concat (hx : x.isAnswer = false) :
    f.settled first (later ++ [x]) =
      { f.settled first later with
        session := ⟨f.carrying f.finished (put f.newFb f.oldFb (tookEffect first)
          (f.content first later) x), f.waits first later, none⟩
        refused := (f.settled first later).refused ++ x.refusal?.toList } := by
  obtain ⟨hreturned, hdestroyed⟩ := Bool.or_eq_false_iff.1 hx
  cases hv : x.refusal? <;> simp [settled, content_concat, waits, hreturned, hdestroyed, hv]

/-- After the outcome, a touch that nothing has waited for changes the slot or is refused. -/
theorem step_settled (first later : List Touch) (hx : x.isAnswer = false) :
    (f.settled first later).step x = some (f.settled first (later ++ [x])) := by
  rw [settled_concat f hx]
  cases x with
  | hold =>
    simp only [Trial.step, f.barrier?_settled]
    rfl
  | mark =>
    have hmark : f.finished.markSubmitted = f.finished := rfl
    simp only [Trial.step, f.barrier?_settled, Option.map_some, hmark]
    simp [Trial.edit, settled, put, refusal?]
  | resolve reference stamp =>
    rw [Trial.step_resolve rfl (f.swaps_settled first later)]
    exact congrArg some (Trial.after_error rfl _ _ _)
  | release =>
    rw [Trial.step_release rfl (f.swaps_settled first later)]
    exact congrArg some (Trial.after_error rfl _ _ _)
  | assign fb => simp [Trial.step, Trial.edit, settled, put, refusal?]
  | returned => cases hx
  | destroyed => cases hx

/-- What happens once the handler has returned. -/
theorem reclaim_carrying (first : List Touch) (fb : Framebuffer) (next : Task) :
    (f.carrying f.finished fb).reclaim f.swap (verdict first) next =
      let s := f.carrying f.finished (put f.newFb f.oldFb (tookEffect first) fb .returned)
      if (f.spare first).isNone then s.work [] next
      else s.halt [] (.waiting (.destroying (f.spare first) next)) := by
  have hreclaim : f.finished.reclaim (verdict first) fb =
      (put f.newFb f.oldFb (tookEffect first) fb .returned, f.spare first) := by
    unfold Barrier.reclaim put spare
    rw [tookEffect_verdict]
    cases tookEffect first with
    | true => rfl
    | false => rfl
  simp only [Screen.reclaim, getElem?_carrying, record, held_carrying, hreclaim, assign_carrying]

/-- The operation waits for the handler first. -/
theorem waits_of_running (first : List Touch) (hrunning : later.any isReturned = false) :
    f.waits first later = [.telling (.swap f.client (shownAt first))
      (.reclaim f.swap (verdict first) (.finish .done))] := by
  simp only [waits, hrunning, Bool.false_eq_true, if_false]

/-- Then it waits for the device, if it asks it for anything. -/
theorem waits_of_asking (first : List Touch) (hreturned : later.any isReturned = true)
    (hasking : ((f.spare first).isNone || later.any isDestroyed) = false) :
    f.waits first later = [.destroying (f.spare first) (.finish .done)] := by
  simp only [waits, hreturned, hasking, if_true, Bool.false_eq_true, if_false]

/-- Then it is over. -/
theorem waits_of_over (first : List Touch) (hreturned : later.any isReturned = true)
    (hover : ((f.spare first).isNone || later.any isDestroyed) = true) :
    f.waits first later = [] := by
  simp only [waits, hreturned, hover, if_true]

/-- The handler returns, and the device is asked if there is anything to give up. -/
theorem settled_returned (first : List Touch) (hrunning : later.any isReturned = false)
    (hunanswered : later.any isDestroyed = false) :
    (f.settled first later).step .returned = some (f.settled first (later ++ [.returned])) := by
  have hreturned : (later ++ [Touch.returned]).any isReturned = true := by simp [isReturned]
  have hdestroyed : (later ++ [Touch.returned]).any isDestroyed = false := by
    simp [isDestroyed, hunanswered]
  have hstep : (f.settled first later).step .returned =
      some ((f.settled first later).after (Session.settle [] (Screen.proceed
        ((f.carrying f.finished (f.content first later)).work []
          (.reclaim f.swap (verdict first) (.finish .done)))))) := by
    simp only [Trial.step, settled, Session.answer, f.waits_of_running first hrunning]
    rfl
  rw [hstep, Screen.proceed_work, Screen.step, reclaim_carrying, ← content_concat]
  cases hnone : (f.spare first).isNone with
  | true =>
    -- Nothing is left over, and the operation ends.
    have hwaits := f.waits_of_over first hreturned (by rw [hnone, hdestroyed]; rfl)
    have hend := (f.settled first later).after_finish
      (f.carrying f.finished (f.content first (later ++ [.returned]))) []
    refine congrArg some (hend.trans ?_)
    simp [settled, hwaits, hnone, refusal?, Session.new]
  | false =>
    have hwaits := f.waits_of_asking first hreturned (by rw [hnone, hdestroyed]; rfl)
    simp [settled, hwaits, hnone, refusal?, Trial.after, Session.settle, Screen.proceed,
      Screen.halt, hrunning, isReturned]

/-- The handler does not return twice. -/
theorem settled_returned_again (first : List Touch) (hreturned : later.any isReturned = true) :
    (f.settled first later).step .returned = none := by
  cases hasking : (f.spare first).isNone || later.any isDestroyed with
  | true =>
    simp only [Trial.step, settled, Session.answer, f.waits_of_over first hreturned hasking]
    rfl
  | false =>
    simp only [Trial.step, settled, Session.answer, f.waits_of_asking first hreturned hasking]
    rfl

/-- The device answers once it was asked. -/
theorem settled_destroyed (hreturned : later.any isReturned = true)
    (hasking : ((f.spare first).isNone || later.any isDestroyed) = false)
    (result : Except DeviceError Unit) :
    (f.settled first later).step (.destroyed result) =
      some (f.settled first (later ++ [.destroyed result])) := by
  have hanswer := Session.answer_destroyed (f.carrying f.finished (f.content first later)) []
    (f.spare first) (.finish .done) result
  rw [← f.waits_of_asking first hreturned hasking] at hanswer
  have hwaits : f.waits first (later ++ [.destroyed result]) = [] :=
    f.waits_of_over first (by simp [hreturned]) (by simp [isDestroyed])
  have hend := (f.settled first later).after_finish
    (f.carrying f.finished (f.content first later)) ((f.spare first).leaks result)
  show Option.map _ ((f.settled first later).session.answer (.destroyed result)) = _
  refine (congrArg (Option.map _) hanswer).trans (congrArg some (hend.trans ?_))
  simp [settled, hwaits, content_concat, put, refusal?, hreturned, Session.new]

/-- The device does not answer before it is asked, nor twice. -/
theorem settled_destroyed_unasked
    (hover : later.any isReturned = false ∨
      ((f.spare first).isNone || later.any isDestroyed) = true)
    (result : Except DeviceError Unit) :
    (f.settled first later).step (.destroyed result) = none := by
  cases hreturned : later.any isReturned with
  | false =>
    simp only [Trial.step, settled, Session.answer, f.waits_of_running first hreturned]
    rfl
  | true =>
    have hover := hover.resolve_left (by simp [hreturned])
    simp only [Trial.step, settled, Session.answer, f.waits_of_over first hreturned hover]
    rfl

end Settled

/-! ## The whole history -/

/-- The device does not answer before the handler has returned. -/
def InOrder (later : List Touch) : Prop :=
  later.any isReturned = false → later.any isDestroyed = false

/-- What the trial has come to after a history. -/
inductive Reaches (f : Fresh) (h : List Touch) (t : Trial) : Prop
  | counting (hopen : Open h) (ht : t = f.counting h)
  | settled (first later : List Touch) (hh : h = first ++ later) (hclosing : Closing first)
    (horder : InOrder later) (ht : t = f.settled first later)

section Reaches

variable {f : Fresh} {h first later : List Touch} {x : Touch} {t u : Trial}

/-- Only an answer can come out of order. -/
theorem InOrder.concat (horder : InOrder later) (hx : x.isAnswer = false) :
    InOrder (later ++ [x]) := by
  obtain ⟨-, hdestroyed⟩ := Bool.or_eq_false_iff.1 hx
  intro h
  have hbefore : later.any isReturned = false := (Bool.or_eq_false_iff.1 (List.any_append ▸ h)).1
  simp [hdestroyed, horder hbefore]

/-- A touch leads on while holds remain. -/
theorem Reaches.step_counting (hopen : Open h) (hstep : (f.counting h).step x = some u) :
    f.Reaches (h ++ [x]) u := by
  cases hx : x.isAnswer with
  | true => cases (f.step_counting_answer hx).symm.trans hstep
  | false =>
    cases (f.step_counting hopen.balance_pos hx).symm.trans hstep
    by_cases hzero : balance (h ++ [x]) = 0
    · exact .settled (h ++ [x]) [] (List.append_nil _).symm (hopen.closing hzero) (fun _ => rfl)
        (if_pos hzero)
    · exact .counting (hopen.concat hzero) (if_neg hzero)

/-- A touch leads on after the outcome. -/
theorem Reaches.step_settled (hclosing : Closing first) (horder : InOrder later)
    (hstep : (f.settled first later).step x = some u) : f.Reaches (first ++ later ++ [x]) u := by
  suffices h : u = f.settled first (later ++ [x]) ∧ InOrder (later ++ [x]) from
    .settled first (later ++ [x]) (List.append_assoc ..) hclosing h.2 h.1
  cases x with
  | returned =>
    cases hreturned : later.any isReturned with
    | true => cases (f.settled_returned_again first hreturned).symm.trans hstep
    | false =>
      cases (f.settled_returned first hreturned (horder hreturned)).symm.trans hstep
      exact ⟨rfl, fun h => by simp [isReturned] at h⟩
  | destroyed result =>
    by_cases hasking : later.any isReturned = true ∧
        ((f.spare first).isNone || later.any isDestroyed) = false
    · cases (f.settled_destroyed hasking.1 hasking.2 result).symm.trans hstep
      exact ⟨rfl, fun h => by simp [hasking.1] at h⟩
    · have hunasked : later.any isReturned = false ∨
          ((f.spare first).isNone || later.any isDestroyed) = true := by
        cases hreturned : later.any isReturned with
        | false => exact .inl rfl
        | true => exact .inr ((Bool.not_eq_false _).mp fun h => hasking ⟨hreturned, h⟩)
      cases (f.settled_destroyed_unasked hunasked result).symm.trans hstep
  | _ =>
    cases (f.step_settled first later rfl).symm.trans hstep
    exact ⟨rfl, horder.concat rfl⟩

/-- Every trial is the one that its history says. -/
theorem reaches_of_play (h : List Touch) (ht : f.trial.play h = some t) : f.Reaches h t := by
  -- On the last touch: it was carried out on the trial that the history before it says.
  induction h using List.reverseRecOn generalizing t with
  | nil =>
    cases ht
    exact .counting .nil f.trial_eq
  | append_singleton h x ih =>
    rw [Trial.play_concat] at ht
    obtain ⟨u, hu, hstep⟩ := Option.bind_eq_some_iff.1 ht
    obtain ⟨hopen, rfl⟩ | ⟨first, later, rfl, hclosing, horder, rfl⟩ := ih hu
    · exact .step_counting hopen hstep
    · exact .step_settled hclosing horder hstep

/-- While holds remain, all that is seen is what the history says. -/
theorem Counting.of_open (hopen : Open h) : f.Counting h (f.counting h) where
  unfinished := hopen
  barrier := ⟨f.counted h, f.barrier?_counting h, rfl,
    Int.toNat_of_nonneg (Int.le_of_lt hopen.balance_pos)⟩
  told := rfl
  removed := rfl
  refused := rfl
  held := f.held_carrying _ _
  possible x := by
    cases hx : x.isAnswer with
    | true => rw [f.step_counting_answer hx]; rfl
    | false => rw [f.step_counting hopen.balance_pos hx]; rfl

/-- After the outcome, all that is seen is what the history says. -/
theorem Settled.of_closing (hclosing : Closing first) (horder : InOrder later) :
    f.Settled first later (f.settled first later) where
  closing := hclosing
  barrier := ⟨f.finished, f.barrier?_settled first later, rfl, rfl⟩
  told := rfl
  removed := rfl
  refused := rfl
  held := f.held_carrying _ _
  possible x hx := by rw [f.step_settled first later hx]; rfl
  returned := by
    cases hreturned : later.any isReturned with
    | true => rw [f.settled_returned_again first hreturned]; rfl
    | false => rw [f.settled_returned first hreturned (horder hreturned)]; rfl
  destroyed result := by
    show _ = (!(if _ then _ else _ : List Framebuffer).isEmpty && _)
    cases hreturned : later.any isReturned with
    | false =>
      rw [f.settled_destroyed_unasked (.inl hreturned)]
      rfl
    | true =>
      cases hasking : (f.spare first).isNone || later.any isDestroyed with
      | true =>
        rw [f.settled_destroyed_unasked (.inr hasking)]
        obtain hnone | hanswered := (Bool.or_eq_true _ _).mp hasking
        · rw [hnone]
          rfl
        · rw [hanswered, Bool.not_true, Bool.and_false]
          rfl
      | false =>
        rw [f.settled_destroyed hreturned hasking]
        obtain ⟨hspare, hunanswered⟩ := Bool.or_eq_false_iff.1 hasking
        rw [hspare, hunanswered]
        rfl

/-- Uses are never stuck: what breaks a rule is refused, and all else is carried out. -/
theorem exists_play (huses : ∀ x ∈ h, x.isAnswer = false) : ∃ t, f.trial.play h = some t := by
  induction h using List.reverseRecOn with
  | nil => exact ⟨_, rfl⟩
  | append_singleton h x ih =>
    obtain ⟨hbefore, hlast⟩ := List.forall_mem_append.1 huses
    have hx : x.isAnswer = false := hlast x List.mem_cons_self
    obtain ⟨t, ht⟩ := ih hbefore
    rw [Trial.play_concat, ht]
    obtain ⟨hopen, rfl⟩ | ⟨first, later, rfl, hclosing, horder, rfl⟩ := reaches_of_play h ht
    · exact ⟨_, f.step_counting hopen.balance_pos hx⟩
    · exact ⟨_, f.step_settled first later hx⟩

end Reaches

/-- For every swap that is set up on a screen and every history of its barrier, its slot, its
handler and the device, also one that breaks the rules: as long as holds have remained, the barrier
counts what the history says and refuses only releases after the first. The first touch with which
no hold remains brings the outcome that the history says, to one handler and once, and from then on
every hold, resolved flip and release is refused. When the handler returns the slot is put back and
the device is asked to give up what is left over, as the history says and once. All uses can be
played, in any order. -/
theorem follows_history (f : Fresh) (h : List Touch) :
    ((∀ x ∈ h, x.isAnswer = false) → ∃ t, f.trial.play h = some t) ∧
      ∀ t, f.trial.play h = some t →
        f.Counting h t ∨ ∃ first later, h = first ++ later ∧ f.Settled first later t := by
  refine ⟨exists_play, fun t ht => ?_⟩
  obtain ⟨hopen, rfl⟩ | ⟨first, later, rfl, hclosing, horder, rfl⟩ := reaches_of_play h ht
  · exact .inl (.of_open hopen)
  · exact .inr ⟨first, later, rfl, .of_closing hclosing horder⟩

/-- A swap from framebuffer 5 to framebuffer 7. -/
def sample : Fresh where
  screen := { Screen.new [] .default with slots := [⟨7⟩] }
  slot := 0
  oldFb := ⟨5⟩
  client := 1
  hslot := Nat.one_pos

/-- The submitter releases its hold twice, and after the abort of the only flip the handler adds
another one. -/
def misuse : List Touch := [.hold, .release, .release, .resolve true none, .hold]

/-- The misuse is refused, and the displaced framebuffer is put back. -/
theorem misuse_follows_history :
    (∃ t, sample.trial.play misuse = some t) ∧
      ∃ t, sample.trial.play (misuse ++ [.returned, .destroyed (.ok ())]) = some t ∧
        t.held = ⟨5⟩ ∧ t.told = [.swap 1 none] ∧ t.removed = [⟨7⟩] ∧
        t.refused = [.releasedTwice, .heldAfterOutcome] ∧
        (sample.Counting (misuse ++ [.returned, .destroyed (.ok ())]) t ∨
          ∃ first later, misuse ++ [.returned, .destroyed (.ok ())] = first ++ later ∧
            sample.Settled first later t) :=
  ⟨(follows_history sample misuse).1 (by decide),
    _, rfl, rfl, rfl, rfl, rfl, (follows_history sample _).2 _ rfl⟩

end Fresh

end PageFlip
