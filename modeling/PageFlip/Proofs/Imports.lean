import Mathlib.Data.List.Induction
import PageFlip.Proofs.Faithful

/-!
# What a call for a swap has imported

The act behind a call for a swap is the answer to its import: no handler runs meanwhile, and nothing
else happens (`Course.opened_of_play`). So a call that returns that its framebuffer could not be
imported consists of these two acts (`Course.refused_of_play`). A call that brought a swap imported
the framebuffer of that swap by these two acts (`Course.imported_of_play`): the framebuffers that
were imported are those of the swaps, in their order (`Scene.Bears`).
-/

namespace PageFlip

variable {conduct : Conduct}

/-! ## Imports -/

/-- The operation waits for an import. -/
def Follow.Imports : Follow → Prop
  | .inr (.waiting (.importing _)) => True
  | _ => False

namespace Screen

variable {s : Screen} {next : Task} {client : Client}

/-- Dropping a hold does not lead to an import. -/
theorem not_imports_settle {id : SwapId} {result : Except Violation (Barrier × Option Verdict)} :
    ¬(s.settle id result client next).next.Imports := by
  unfold settle
  split
  · exact not_false
  · exact not_false
  · exact not_false

/-- Resolving an event does not lead to an import. -/
theorem not_imports_deliver {event : Event} {stamp : Option Stamp} :
    ¬(s.deliver event stamp next).next.Imports := by
  unfold deliver settleFlip
  split
  · split
    · exact not_false
    · exact not_imports_settle
  · exact not_false

/-- Handing out the event of a token does not lead to an import. -/
theorem not_imports_resolve {token : Token} {stamp : Option Stamp} :
    ¬(s.resolve token stamp next).next.Imports := by
  unfold resolve
  split
  · exact not_false
  · exact not_imports_deliver

/-- Going on to the next pipe does not lead to an import. -/
theorem not_imports_fan {f : Fanout} : ¬(s.fan f).next.Imports := by
  unfold fan
  split
  · exact not_false
  · dsimp only
    split
    · exact not_false
    · split_ifs
      · unfold tryPipe
        split
        · exact not_false
        · dsimp only
          split
          · exact not_false
          · split
            · exact not_false
            · exact not_false
      · exact not_false

/-- No task leads to an import. -/
theorem not_imports_step (t : Task) : ¬(s.step t).next.Imports := by
  cases t with
  | fan f => exact not_imports_fan
  | retry a =>
    simp only [step, retry]
    split_ifs
    · exact not_false
    · exact not_imports_resolve
    · exact not_false
  | conclude f error =>
    simp only [step, release]
    split
    · exact not_false
    · exact not_imports_settle
  | dispatch reports next =>
    cases reports with
    | nil => exact not_false
    | cons report rest =>
      simp only [step, dispatch]
      split
      · exact not_false
      · exact not_imports_resolve
  | abort events next =>
    cases events with
    | nil => exact not_false
    | cons event rest => exact not_imports_deliver
  | reclaim id verdict next =>
    simp only [step, reclaim]
    split
    · exact not_false
    · split_ifs
      · exact not_false
      · exact not_false
  | say notice next => exact not_false
  | finish outcome => exact not_false

/-- What does not lead to an import at once does not do so until the operation comes to rest. -/
theorem not_imports_proceed {p : Progress Follow} (hp : ¬p.next.Imports) :
    ¬Follow.Imports (.inr (proceed p).next) :=
  proceed_induct (P := fun _ f _ => ¬f.Imports) (fun _ t _ _ => not_imports_step t) (h := []) hp

/-- No answer leads to an import. -/
theorem not_imports_resume {wait : Wait} {a : Answer} {p : Progress Follow}
    (h : s.resume wait a = some p) : ¬p.next.Imports := by
  unfold resume at h
  split at h
  all_goals cases h
  · exact not_false
  · exact not_false
  · exact not_false
  · exact not_imports_resolve
  · exact not_false
  · exact not_false
  · unfold afterRead
    split
    · exact not_imports_resolve
    · split_ifs
      · exact not_false
      · exact not_imports_resolve
    · exact not_false
  · unfold afterDrain
    split
    · exact not_false
    · exact not_false
    · exact not_false
  · exact not_false
  · exact not_false
  · exact not_false

/-- Only a swap begins with an import. -/
theorem of_imports_start {op : Operation} (hop : op.isRegular = true)
    (h : (s.start op).next.Imports) : ∃ r, op = .swap r := by
  cases op with
  | swap r => exact ⟨r, rfl⟩
  | drain => exact h.elim
  | disable crtc =>
    simp only [start, disable] at h
    split at h
    · exact h.elim
    · exact h.elim
  | enable crtc =>
    simp only [start, enable] at h
    split at h
    · exact h.elim
    · exact h.elim
  | _ => cases hop

/-- No call returns in the middle of an operation. -/
theorem call?_traceOf (p : Progress Follow) : (traceOf p).filterMap Happening.call? = [] := by
  have htells : ∀ f : Follow, f.tells.filterMap Happening.call? = [] := by
    intro f
    unfold Follow.tells
    split
    · rfl
    · rfl
  have hhappens : ∀ (s : Screen) (t : Task), (s.happens t).filterMap Happening.call? = [] := by
    intro s t
    rw [happens, List.filterMap_append, List.filterMap_append, htells]
    have hdestroys : (t.destroys (s.step t).next).filterMap Happening.call? = [] := by
      unfold Task.destroys
      split
      · rfl
      · rfl
    have hresolves : (s.resolves t).filterMap Happening.call? = [] := by
      unfold resolves
      split
      · split
        · rfl
        · rfl
      · rfl
    rw [hdestroys, hresolves]
    rfl
  have hrun := proceed_induct (P := fun _ _ h => h.filterMap Happening.call? = []) (p := p)
    (h := []) (fun s t h ht => by rw [List.filterMap_append, hhappens, ht]; rfl)
    (by rw [List.append_nil]; exact htells _)
  rwa [List.append_nil] at hrun

end Screen

/-! ## The framebuffers of the swaps -/

/-- The framebuffers that were imported are those of the swaps, in their order. -/
def Scene.Bears (slots : List Framebuffer) (m : Scene) : Prop :=
  m.framebuffers = (m.screen.swaps.map fun w => w.barrier.newFb).reverse ++ slots

/-- A framebuffer is imported where a swap is brought, and swaps keep their framebuffers. -/
theorem Scene.Bears.deed {slots : List Framebuffer} {m m' : Scene} (h : m.Bears slots)
    (hd : Deed conduct m m') : m'.Bears slots := by
  have hkeep : m'.framebuffers = m.framebuffers →
      m'.screen.swaps.length = m.screen.swaps.length → m'.Bears slots := by
    intro hfbs hlength
    obtain ⟨l, hc⟩ := hd.change
    have hsame : (m'.screen.swaps.map fun w => w.barrier.newFb) =
        m.screen.swaps.map fun w => w.barrier.newFb := by
      refine List.ext_getElem (by simpa using hlength) fun i hi' hi => ?_
      rw [List.length_map] at hi hi'
      obtain ⟨w', hw', hcont⟩ := hc.swap_after (List.getElem?_eq_getElem hi)
      obtain rfl := Option.some.inj ((List.getElem?_eq_getElem hi').symm.trans hw')
      rw [List.getElem_map, List.getElem_map]
      exact hcont.newFb
    rw [Bears, hsame, hfbs]
    exact h
  cases hd with
  | @launch s c p fb ls fbs hist hfb =>
    have hbefore : fbs = (s.swaps.map fun w => w.barrier.newFb).reverse ++ slots := h
    show fb :: fbs = ((s.swaps ++ [_]).map _).reverse ++ slots
    rw [List.map_append, List.reverse_append, hbefore]
    rfl
  | register | dispatch | abort | giveUp | release | accept =>
    exact hkeep rfl (Screen.length_setBarrier _ _ _)
  | _ => exact h

/-! ## Calls -/

namespace Course

variable {pipes : List Pipe} {slots : List Framebuffer} {config : Config} {c d : Course}
  {act : Act} {acts : List Act} {call : Call} {calls : List Call} {waits : List Wait}
  {p : Preparation} {e : DeviceError} {left : Screen} {later earlier : List Happening}

/-- The call was the last act, and nothing has happened since. -/
structure Opened (c d : Course) (call : Call) : Prop where
  screen : d.session.screen = c.session.screen
  history : d.history = c.history
  found : call.found = c.session.screen
  since : call.since = c.history.length

/-- Where a framebuffer is being imported, the call for it was the last act. -/
theorem opened_of_step (hd : d.scene.Faithful)
    (hstep : d.step conduct act = some c) (hunbroken : c.session.violation = none)
    (hwaits : c.session.waits = .importing p :: waits) (hcalls : c.calls = call :: calls) :
    act = .call call.op ∧ d.Opened c call := by
  cases act with
  | call op =>
    obtain ⟨hop, htop, -, rfl⟩ := of_step_call hstep
    cases hnext : (Screen.proceed (d.session.screen.start op)).next with
    | waiting w =>
      rw [hnext] at hwaits hcalls
      cases hwaits
      cases hcalls
      -- Only the start itself leads to an import.
      have himports : (d.session.screen.start op).next.Imports := by
        by_contra hnot
        have hrest := Screen.not_imports_proceed hnot
        rw [hnext] at hrest
        exact hrest trivial
      obtain ⟨r, rfl⟩ := Screen.of_imports_start hop himports
      exact ⟨rfl, rfl, rfl, rfl, rfl⟩
    | finished outcome =>
      -- The client may not call while a framebuffer is being imported.
      rw [hnext] at hwaits
      have hwaits : d.session.waits = _ := hwaits
      rw [Session.yields, hwaits] at htop
      cases htop
    | violated v => exact absurd hnext (ne_violated_of_resting hunbroken v)
  | answer a =>
    obtain ⟨wait, waits', call', calls', q, hw, hc, -, hresume, rfl⟩ := of_step_answer hstep
    cases hnext : (Screen.proceed q).next with
    | waiting w =>
      rw [hnext] at hwaits
      cases hwaits
      have hrest := Screen.not_imports_proceed (Screen.not_imports_resume hresume)
      rw [hnext] at hrest
      exact absurd trivial hrest
    | finished outcome =>
      -- A handler runs in every operation below the top.
      rw [hnext] at hwaits hcalls
      have hwaits : waits' = _ := hwaits
      have hcalls : calls' = _ := hcalls
      have hmem : Wait.level (.importing p) call ∈ d.scene.levels.tail := by
        simp only [scene, hw, hc, hwaits, hcalls]
        exact List.mem_cons_self
      exact absurd rfl (hd.filed.beneath _ hmem)
    | violated v => exact absurd hnext (ne_violated_of_resting hunbroken v)
  | reorder table =>
    -- The order of the tokens does not change while a framebuffer is being imported.
    obtain ⟨htop, -, rfl⟩ := of_step_reorder hstep
    have hwaits : d.session.waits = _ := hwaits
    rw [Session.yields, hwaits] at htop
    cases htop

/-- A wait of an operation that is importing. -/
theorem eq_importing_of_ending {wait : Wait} (h : wait.ending = .importing p) :
    wait = .importing p := by
  have htask : ∀ t : Task, t.ending ≠ .importing p := by
    intro t
    induction t with
    | dispatch _ _ ih => exact ih
    | abort _ _ ih => exact ih
    | reclaim _ _ _ ih => exact ih
    | say _ _ ih => exact ih
    | _ => exact nofun
  cases wait with
  | importing p' => cases h; rfl
  | attempting a => cases h
  | submitting f => cases h
  | reading owner => cases owner <;> cases h
  | telling news next => exact absurd h (htask next)
  | destroying fb next => exact absurd h (htask next)

/-- A call that has returned did so before the last operation, or it is that of the last
operation, which returns at its end. -/
theorem returned_of_resting {s : Screen} {call' : Call} {fbs : List Framebuffer}
    {h hs : List Happening} {r : Rest} {outcome : Outcome}
    (hnone : hs.filterMap Happening.call? = []) (hr : ∀ v, r ≠ .violated v)
    (hhistory : (resting call' calls fbs (hs ++ h) s waits r).history =
      later ++ .returned call outcome left :: earlier) :
    (∃ later', h = later' ++ .returned call outcome left :: earlier) ∨
      r = .finished outcome ∧ call' = call ∧ left = s ∧ earlier = hs ++ h := by
  cases r with
  | waiting w => exact .inl (exists_of_append_eq hnone hhistory)
  | finished outcome' =>
    cases later with
    | nil =>
      cases hhistory
      exact .inr ⟨rfl, rfl, rfl, rfl⟩
    | cons x later => exact .inl (exists_of_append_eq hnone (List.cons.inj hhistory).2)
  | violated v => exact absurd rfl (hr v)

/-- A call that returns that its framebuffer could not be imported does so with the answer of the
device, and leaves everything as it is. -/
theorem refused_of_step (hd : d.scene.Faithful) (hc : c.scene.Faithful)
    (hstep : d.step conduct act = some c) (hunbroken : c.session.violation = none)
    (hhistory : c.history = later ++
      .returned call (.swapped (.error (.importFramebuffer e))) left :: earlier) :
    (∃ later', d.history = later' ++
      .returned call (.swapped (.error (.importFramebuffer e))) left :: earlier) ∨
    act = .answer (.imported (.error e)) ∧ left = d.session.screen ∧ earlier = d.history ∧
      ∃ p waits calls, d.session.waits = .importing p :: waits ∧ d.calls = call :: calls := by
  have hreturned : .returned call (.swapped (.error (.importFramebuffer e))) left ∈ c.history := by
    rw [hhistory]
    exact List.mem_append_right _ List.mem_cons_self
  obtain ⟨hop, hagrees⟩ := hc.filed.returned _ _ _ hreturned
  have hswap : call.swap = none := by
    cases hswap : call.swap with
    | none => rfl
    | some id =>
      rw [hswap] at hagrees
      exact absurd rfl (hagrees.2 e)
  cases act with
  | call op =>
    obtain ⟨-, -, -, rfl⟩ := of_step_call hstep
    have hnone := Screen.call?_traceOf (d.session.screen.start op)
    rcases returned_of_resting hnone (ne_violated_of_resting hunbroken) hhistory with
      hbefore | ⟨hnext, rfl, -⟩
    · exact .inl hbefore
    · -- A swap does not return at once.
      obtain ⟨r, rfl⟩ := hop
      cases hnext
  | answer a =>
    obtain ⟨wait, waits, call', calls, q, hw, hcs, -, hresume, rfl⟩ := of_step_answer hstep
    have hnone : (Screen.traceOf q ++ a.happens wait).filterMap Happening.call? = [] := by
      rw [List.filterMap_append, Screen.call?_traceOf, List.nil_append]
      unfold Answer.happens
      split
      · rfl
      · rfl
    rw [← List.append_assoc] at hhistory
    rcases returned_of_resting hnone (ne_violated_of_resting hunbroken) hhistory with
      hbefore | ⟨hnext, rfl, rfl, rfl⟩
    · exact .inl hbefore
    · right
      -- The operation on top has brought no swap, so it was importing.
      have hcall : call'.op = (call'.hear d.session.screen wait a).op ∧ call'.swap = none := by
        unfold Call.hear at hswap ⊢
        split at hswap
        · cases hswap
        · exact ⟨rfl, hswap⟩
      have hmem : wait.level call' ∈ d.scene.levels := by
        simp only [scene, hw, hcs]
        exact List.mem_cons_self
      rw [← hcall.1] at hop
      obtain ⟨-, p, hp⟩ := (hd.filed.levels _ hmem).ending.of_swap_eq_none hop hcall.2
      obtain rfl := eq_importing_of_ending hp
      cases a with
      | imported result =>
        cases result with
        | ok fb => cases hswap
        | error e' =>
          obtain rfl := Option.some.inj hresume
          cases hnext
          exact ⟨rfl, rfl, rfl, p, waits, calls, hw, hcs⟩
      | _ => cases hresume
  | reorder table =>
    obtain ⟨-, -, rfl⟩ := of_step_reorder hstep
    exact .inl ⟨later, hhistory⟩

/-- Before a framebuffer is imported there is the call for it. -/
theorem opened_of_play (hconduct : conduct.Truthful)
    (hplay : (new pipes slots config).play conduct acts = some c)
    (hunbroken : c.session.violation = none)
    (hwaits : c.session.waits = .importing p :: waits) (hcalls : c.calls = call :: calls) :
    ∃ before d, acts = before ++ [.call call.op] ∧
      (new pipes slots config).play conduct before = some d ∧ d.Opened c call := by
  rcases List.eq_nil_or_concat acts with rfl | ⟨before, act, rfl⟩
  · obtain rfl : new pipes slots config = c := Option.some.inj hplay
    cases hwaits
  · rw [List.concat_eq_append] at hplay ⊢
    obtain ⟨d, hbefore, hstep⟩ := exists_of_play_concat hplay
    have hd := faithful hconduct hbefore (unbroken_of_step hstep)
    obtain ⟨rfl, hopened⟩ := opened_of_step hd.2.1 hstep hunbroken hwaits hcalls
    exact ⟨before, d, rfl, hbefore, hopened⟩

/-- A call whose framebuffer could not be imported consists of the call and the failed import. -/
theorem refused_of_play (hconduct : conduct.Truthful)
    (hplay : (new pipes slots config).play conduct acts = some c)
    (hunbroken : c.session.violation = none)
    (hhistory : c.history = later ++
      .returned call (.swapped (.error (.importFramebuffer e))) left :: earlier) :
    ∃ before after d, acts = before ++ .call call.op :: .answer (.imported (.error e)) :: after ∧
      (new pipes slots config).play conduct before = some d ∧ left = d.session.screen ∧
      earlier = d.history := by
  induction acts using List.reverseRecOn generalizing c later with
  | nil =>
    obtain rfl : new pipes slots config = c := Option.some.inj hplay
    cases later with
    | nil => cases hhistory
    | cons => cases hhistory
  | append_singleton acts act ih =>
    have hc := faithful hconduct hplay hunbroken
    obtain ⟨d, hbefore, hstep⟩ := exists_of_play_concat hplay
    have hd := faithful hconduct hbefore (unbroken_of_step hstep)
    rcases refused_of_step hd.2.1 hc.2.1 hstep hunbroken hhistory with
      ⟨later', hd'⟩ | ⟨rfl, rfl, rfl, p, waits, calls, hwaits, hcalls⟩
    · obtain ⟨before, after, d', rfl, hplay', hleft, hearlier⟩ :=
        ih hbefore (unbroken_of_step hstep) hd'
      exact ⟨before, after ++ [act], d', by simp, hplay', hleft, hearlier⟩
    · obtain ⟨first, d', rfl, hfirst, hopened⟩ :=
        opened_of_play hconduct hbefore (unbroken_of_step hstep) hwaits hcalls
      exact ⟨first, [], d', by simp, hfirst, hopened.screen.symm ▸ rfl, hopened.history⟩

/-- In every course that is not broken the framebuffers are those of the swaps, in their order. -/
theorem bears (hplay : (new pipes slots config).play conduct acts = some c)
    (hunbroken : c.session.violation = none) : c.scene.Bears slots :=
  (keeps (I := Scene.Bears slots) (fun _ _ _ h hd => h.deed hd) (sound_new _ _ _) rfl hplay
    hunbroken).2

/-- The swaps that are brought between two courses have the framebuffers that are imported. -/
theorem newFbs_eq {fbs : List Framebuffer} (hd : d.scene.Bears slots) (hc : c.scene.Bears slots)
    (hfbs : c.framebuffers = fbs ++ d.framebuffers) :
    (c.session.screen.swaps.map fun w => w.barrier.newFb) =
      (d.session.screen.swaps.map fun w => w.barrier.newFb) ++ fbs.reverse := by
  have hreverse : (c.session.screen.swaps.map fun w => w.barrier.newFb).reverse ++ slots =
      fbs ++ ((d.session.screen.swaps.map fun w => w.barrier.newFb).reverse ++ slots) :=
    hc.symm.trans (hfbs.trans (congrArg (fbs ++ ·) hd))
  rw [← List.append_assoc] at hreverse
  have happend := congrArg List.reverse (List.append_cancel_right hreverse)
  rwa [List.reverse_reverse, List.reverse_append, List.reverse_reverse] at happend

/-- The calls of a course, unfinished and returned. -/
def allCalls (c : Course) : List Call := c.calls ++ c.history.filterMap Happening.call?

/-- The calls of the scene are those that are unfinished and those that returned. -/
theorem callsOf_scene (hs : c.Sound) : callsOf c.scene.levels c.history = c.allCalls := by
  have hmap : ∀ (waits : List Wait) (calls : List Call), calls.length = waits.length →
      (List.zipWith Wait.level waits calls).map Level.call = calls := by
    intro waits
    induction waits with
    | nil => exact fun calls hlength => (List.length_eq_zero_iff.1 hlength).symm
    | cons w waits ih =>
      intro calls hlength
      cases calls with
      | nil => cases hlength
      | cons call calls => exact congrArg (call :: ·) (ih calls (Nat.succ.inj hlength))
  exact congrArg (· ++ c.history.filterMap Happening.call?) (hmap _ _ hs.length)

/-- Once an operation has come to rest its call is one of the calls, wherever that is. -/
theorem mem_allCalls_resting {call' : Call} {fbs : List Framebuffer} {h : List Happening}
    {s : Screen} {r : Rest} (hr : ∀ v, r ≠ .violated v) :
    call ∈ (resting call' calls fbs h s waits r).allCalls ↔
      call = call' ∨ call ∈ calls ∨ call ∈ h.filterMap Happening.call? := by
  cases r with
  | waiting w => simp [allCalls, resting]
  | finished outcome =>
    have hreturned : Happening.call? (.returned call' outcome s) = some call' := rfl
    simp [allCalls, resting, hreturned, or_left_comm]
  | violated v => exact absurd rfl (hr v)

/-- An operation that brings a swap was importing before, and its import succeeded. -/
theorem imported_of_step {id : SwapId} (hstep : d.step conduct act = some c)
    (hunbroken : c.session.violation = none) (hcall : call ∈ c.allCalls)
    (hswap : call.swap = some id) :
    call ∈ d.allCalls ∨
    ∃ fb p waits call' calls, act = .answer (.imported (.ok fb)) ∧
      d.session.waits = .importing p :: waits ∧ d.calls = call' :: calls ∧
      call = { call' with swap := some id } ∧ id = d.session.screen.swaps.length ∧
      c.framebuffers = fb :: d.framebuffers := by
  cases act with
  | call op =>
    obtain ⟨-, -, -, rfl⟩ := of_step_call hstep
    rw [mem_allCalls_resting (ne_violated_of_resting hunbroken), List.filterMap_append,
      Screen.call?_traceOf] at hcall
    left
    -- The call on top, one below it, or one that returned.
    rcases hcall with rfl | hcall | hcall
    · cases hswap
    · exact List.mem_append_left _ hcall
    · exact List.mem_append_right _ hcall
  | answer a =>
    obtain ⟨wait, waits, call', calls, q, hw, hcs, -, hresume, rfl⟩ := of_step_answer hstep
    have hnone : (a.happens wait).filterMap Happening.call? = [] := by
      unfold Answer.happens
      split
      · rfl
      · rfl
    rw [mem_allCalls_resting (ne_violated_of_resting hunbroken), List.filterMap_append,
      List.filterMap_append, Screen.call?_traceOf, hnone] at hcall
    rcases hcall with rfl | hcall | hcall
    · -- The operation on top has brought its swap before, or it brings it now.
      unfold Call.hear at hswap ⊢
      split at hswap
      · rename_i p fb
        obtain rfl := Option.some.inj hswap
        exact .inr ⟨fb, p, waits, call', calls, rfl, hw, hcs, rfl, rfl, framebuffers_resting⟩
      · left
        rw [allCalls, hcs]
        exact List.mem_append_left _ List.mem_cons_self
    · left
      rw [allCalls, hcs]
      exact List.mem_append_left _ (List.mem_cons_of_mem _ hcall)
    · exact .inl (List.mem_append_right _ hcall)
  | reorder table =>
    obtain ⟨-, -, rfl⟩ := of_step_reorder hstep
    exact .inl hcall

/-- Framebuffers that were imported stay known. -/
theorem exists_framebuffers_of_step (hstep : d.step conduct act = some c) :
    ∃ fbs, c.framebuffers = fbs ++ d.framebuffers := by
  cases act with
  | call op =>
    obtain ⟨-, -, -, rfl⟩ := of_step_call hstep
    exact ⟨[], framebuffers_resting⟩
  | answer a =>
    obtain ⟨wait, -, -, -, -, -, -, -, -, rfl⟩ := of_step_answer hstep
    exact ⟨a.brings wait, framebuffers_resting⟩
  | reorder table =>
    obtain ⟨-, -, rfl⟩ := of_step_reorder hstep
    exact ⟨[], rfl⟩

/-- A call that brought a swap was answered with its framebuffer at once. -/
theorem imported_of_play {id : SwapId} (hconduct : conduct.Truthful)
    (hplay : (new pipes slots config).play conduct acts = some c)
    (hunbroken : c.session.violation = none) (hcall : call ∈ c.allCalls)
    (hswap : call.swap = some id) :
    ∃ before fb after d, acts = before ++ .call call.op :: .answer (.imported (.ok fb)) :: after ∧
      (new pipes slots config).play conduct before = some d ∧ call.found = d.session.screen ∧
      call.since = d.history.length ∧ id = d.session.screen.swaps.length ∧
      (c.session.screen.swaps[id]?).map (fun w => w.barrier.newFb) = some fb := by
  induction acts using List.reverseRecOn generalizing c with
  | nil =>
    obtain rfl : new pipes slots config = c := Option.some.inj hplay
    cases hcall
  | append_singleton acts act ih =>
    obtain ⟨d, hbefore, hstep⟩ := exists_of_play_concat hplay
    have hopen := unbroken_of_step hstep
    have hbears := bears hbefore hopen
    have hbears' := bears hplay hunbroken
    rcases imported_of_step hstep hunbroken hcall hswap with
      hcall | ⟨fb, p, waits, call', calls, rfl, hwaits, hcalls, rfl, rfl, hfbs⟩
    · obtain ⟨before, fb, after, d', rfl, hplay', hfound, hsince, hid, hfb⟩ :=
        ih hbefore hopen hcall
      obtain ⟨fbs, hfbs⟩ := exists_framebuffers_of_step hstep
      refine ⟨before, fb, after ++ [act], d', by simp, hplay', hfound, hsince, hid, ?_⟩
      rw [← List.getElem?_map] at hfb ⊢
      rw [newFbs_eq hbears hbears' hfbs,
        List.getElem?_append_left (List.getElem?_eq_some_iff.1 hfb).1, hfb]
    · obtain ⟨first, d', rfl, hfirst, hopened⟩ :=
        opened_of_play hconduct hbefore hopen hwaits hcalls
      refine ⟨first, fb, [], d', by simp, hfirst, hopened.found, hopened.since,
        by rw [hopened.screen], ?_⟩
      have hone : c.framebuffers = [fb] ++ d.framebuffers := hfbs
      rw [← List.getElem?_map, newFbs_eq hbears hbears' hone,
        List.getElem?_append_right (by simp), List.length_map, Nat.sub_self]
      rfl

end Course

end PageFlip
