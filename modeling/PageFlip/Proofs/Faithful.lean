import PageFlip.Proofs.Calls
import PageFlip.Proofs.Channel

/-!
# What is known of a course

`Scene.Faithful` gathers what holds of a course at all times if its channel keeps off the flips that
are being queued: the barriers, the history, the calls and the operations agree. From this it
follows what has become of a swap whose call returned (`Scene.Faithful.undone`,
`Scene.Faithful.done`). A call returned in a scene of its own (`Scene.Archived`), so the same is
known of the time of its return.
-/

namespace PageFlip

variable {conduct : Conduct}

/-! ## Operations and their agendas -/

namespace Scene

/-- What operations are busy with is what one of them is busy with. -/
theorem mem_fanouts_agendaOf {u : Underway} : ∀ {ls : List Level},
    u ∈ (agendaOf ls).fanouts ↔ ∃ l ∈ ls, u ∈ l.agenda.fanouts
  | [] => by simp [agendaOf]
  | l :: ls => by simp [agendaOf, @mem_fanouts_agendaOf u ls]

/-- The outcomes whose handler is running are those of the operations. -/
theorem mem_reclaims_agendaOf {e : SwapId × Verdict} : ∀ {ls : List Level},
    e ∈ (agendaOf ls).reclaims ↔ ∃ l ∈ ls, e ∈ l.agenda.reclaims
  | [] => by simp [agendaOf]
  | l :: ls => by simp [agendaOf, @mem_reclaims_agendaOf e ls]

end Scene

/-- What is owed for a swap are its outcomes. -/
theorem mem_owed_iff {rs : List (SwapId × Verdict)} {id : SwapId} {v : Verdict} :
    v ∈ owed rs id ↔ (id, v) ∈ rs := by
  simp only [owed, List.mem_map, List.mem_filter, beq_iff_eq, Prod.exists]
  constructor
  · rintro ⟨j, u, ⟨hmem, rfl⟩, rfl⟩
    exact hmem
  · exact fun hmem => ⟨id, v, ⟨hmem, rfl⟩, rfl⟩

/-! ## A swap whose call returned -/

/-- A swap that failed has left nothing behind: no flip of it was accepted and none is registered,
its client was told once that it was aborted, and its own framebuffer was given up, not the one that
it displaced. -/
structure Undone (s : Screen) (h : List Happening) (id : SwapId) (w : Swap) : Prop where
  accepted : ∀ f, .accepted id f ∉ h
  unregistered : ∀ t p f, s.registry.pending.find? t = some p → p.event = .flip f → f.swap ≠ id
  told : (recordOf id h).told = [.swap w.client none]
  destroyed : (recordOf id h).destroyed = [w.barrier.newFb].filter fun fb => !fb.isNone
  spared : w.barrier.oldFb ≠ w.barrier.newFb → w.barrier.oldFb ∉ (recordOf id h).destroyed

/-- A swap that succeeded: until it has its outcome the client is told nothing and nothing is given
up; with the outcome the client is told once, a stamp exactly if a flip was completed, and when the
handler returns the displaced framebuffer is given up. Its own one never is. -/
structure Done (s : Screen) (rs : List (SwapId × Verdict)) (h : List Happening) (id : SwapId)
    (w : Swap) : Prop where
  accepted : ∃ f, .accepted id f ∈ h
  unsettled : w.barrier.isFinal = false →
    (recordOf id h).told = [] ∧ (recordOf id h).destroyed = []
  told : w.barrier.isFinal = true → ∃ stamp, (recordOf id h).told = [.swap w.client stamp] ∧
    (stamp.isSome = true ↔ ∃ t stamp', .resolved id (.complete t stamp') ∈ h)
  destroyed : w.barrier.isFinal = true →
    (∃ v, (id, v) ∈ rs) ∧ (recordOf id h).destroyed = [] ∨
    (recordOf id h).destroyed = [w.barrier.oldFb].filter fun fb => !fb.isNone
  spared : w.barrier.newFb ≠ w.barrier.oldFb → w.barrier.newFb ∉ (recordOf id h).destroyed

/-- Where only one framebuffer is given up, if that, no other one is. -/
theorem not_mem_of_destroyed {fb gone : Framebuffer} {h : List Happening} {id : SwapId}
    (hdestroyed : (recordOf id h).destroyed = [gone].filter fun fb => !fb.isNone)
    (hne : fb ≠ gone) : fb ∉ (recordOf id h).destroyed := by
  rw [hdestroyed]
  exact fun hmem => hne (List.mem_singleton.1 (List.mem_of_mem_filter hmem))

namespace Scene

/-- The barriers, the history, the calls and the operations of a course agree. -/
structure Faithful (m : Scene) : Prop where
  chronicled : Chronicled m.screen m.agenda.reclaims m.history
  separate : Separate m.levels
  sources : Sources m.screen m.agenda m.history
  filed : Filed m
  unmixed : Unmixed m.levels
  earned : Earned m.history

namespace Faithful

variable {m m' : Scene} {call : Call} {result : Except SwapError Unit} {left : Screen}
  {id : SwapId} {w : Swap}

/-- Every deed keeps the agreement, if the channel keeps off the flips that are being queued. -/
theorem deed (h : m.Faithful) (hconduct : conduct.Truthful) (hA : Accounted m.screen m.agenda)
    (hd : Deed conduct m m') : m'.Faithful where
  chronicled := h.chronicled.deed hA hd
  separate := h.separate.deed hA hd
  sources := h.sources.deed h.separate hd
  filed := h.filed.deed hA h.chronicled h.sources hd
  unmixed := h.unmixed.deed hconduct hd
  earned := h.earned.deed h.sources h.unmixed hd

/-- The swap of a call that returned is not one of an unfinished operation. -/
theorem swap_ne (h : m.Faithful) {outcome : Outcome}
    (hreturned : .returned call outcome left ∈ m.history) (hid : call.swap = some id) :
    ∀ l ∈ m.levels, l.call.swap ≠ some id := by
  intro l hl hlid
  have hnodup := h.filed.brought.nodup_iff.2 List.nodup_range
  rw [callsOf, List.filterMap_append, List.nodup_append] at hnodup
  refine hnodup.2.2 id ?_ id ?_ rfl
  · exact List.mem_filterMap.2 ⟨l.call, List.mem_map_of_mem hl, hlid⟩
  · exact List.mem_filterMap.2 ⟨call, List.mem_filterMap.2 ⟨_, hreturned, rfl⟩, hid⟩

/-- The submitter of a swap whose call returned has given up its hold. -/
theorem not_unreleased (h : m.Faithful) {outcome : Outcome}
    (hreturned : .returned call outcome left ∈ m.history) (hid : call.swap = some id) :
    id ∉ m.agenda.unreleased := by
  intro hmem
  obtain ⟨u, hu, rfl⟩ := List.mem_map.1 hmem
  obtain ⟨l, hl, hu⟩ := mem_fanouts_agendaOf.1 hu
  exact h.swap_ne hreturned hid l hl ((h.filed.levels l hl).fanouts u hu)

/-- What a call for a swap that returned brought. -/
theorem of_returned (h : m.Faithful)
    (hreturned : .returned call (.swapped result) left ∈ m.history) :
    (call.swap = none ∧ ∃ e, result = .error (.importFramebuffer e)) ∨
    ∃ r id w, call.op = .swap r ∧ call.swap = some id ∧ m.screen.swaps[id]? = some w ∧
      w.client = r.client ∧ w.slot = (call.found.prepare r).slot ∧
      w.barrier.oldFb = call.found.held w.slot ∧
      (match result with
        | .ok () => (recordOf id m.history).accepted = true
        | .error e =>
          (recordOf id m.history).accepted = false ∧ ∀ x, e ≠ .importFramebuffer x) := by
  obtain ⟨-, hagrees⟩ := h.filed.returned _ _ _ hreturned
  cases hswap : call.swap with
  | none =>
    rw [hswap] at hagrees
    exact .inl ⟨rfl, hagrees⟩
  | some id =>
    obtain ⟨r, w, hop, hw, hclient, hslot, hold⟩ :=
      h.filed.made call (Filed.mem_callsOf_of_returned hreturned) id hswap
    rw [hswap] at hagrees
    refine .inr ⟨r, id, w, hop, rfl, hw, hclient, hslot, hold, ?_⟩
    cases result with
    | ok => exact hagrees
    | error e => exact hagrees

/-- A swap whose call returned an error has left nothing behind. -/
theorem undone (h : m.Faithful) (hA : Accounted m.screen m.agenda) {outcome : Outcome}
    (hreturned : .returned call outcome left ∈ m.history) (hid : call.swap = some id)
    (hw : m.screen.swaps[id]? = some w) (haccepted : (recordOf id m.history).accepted = false) :
    Undone m.screen m.history id w := by
  have hreleased := h.not_unreleased hreturned hid
  -- A swap with no accepted flip is not held by anything but its submitter.
  have hfinal : w.barrier.isFinal = true := by
    by_contra hopen
    rw [h.sources.accepted hA hw (Bool.eq_false_iff.2 hopen) hreleased] at haccepted
    cases haccepted
  have hcounts := hA.counts hw
  rw [hcounts.isFinal_iff] at hfinal
  have hrecords : m.screen.records m.agenda id = 0 := Nat.eq_zero_of_add_eq_zero_left hfinal
  -- None was completed either, so the client can only have been told that it was aborted.
  have hcompleted : (recordOf id m.history).completed = false := by
    by_contra hcompleted
    rw [h.earned id (Bool.not_eq_false _ ▸ hcompleted)] at haccepted
    cases haccepted
  have hstory := h.chronicled.story hw
  unfold Swap.Story at hstory
  rw [Option.isNone_iff_eq_none.1 (hcounts.isFinal_iff.2 hfinal)] at hstory
  obtain ⟨v, hsubmitted, hstamp, htold, hdestroyed⟩ := hstory
  rw [hcompleted] at hstamp
  have hno : v.tookEffect = false := by
    rw [Verdict.tookEffect, hstamp, hsubmitted, haccepted]
    rfl
  have hgone : (recordOf id m.history).destroyed =
      [w.barrier.newFb].filter fun fb => !fb.isNone := by
    rcases hdestroyed with ⟨howed, -⟩ | ⟨-, hdestroyed⟩
    · -- Its handler would run in its own operation.
      have hmem : (id, v) ∈ m.agenda.reclaims := mem_owed_iff.1 (howed ▸ List.mem_singleton_self v)
      obtain ⟨l, hl, hmem⟩ := mem_reclaims_agendaOf.1 hmem
      exact absurd ((h.filed.levels l hl).reclaims _ hmem hno) (h.swap_ne hreturned hid l hl)
    · rw [hdestroyed, Barrier.leftover, hno, if_neg Bool.false_ne_true]
  refine ⟨?_, ?_, ?_, hgone, not_mem_of_destroyed hgone⟩
  · intro f hf
    rw [accepted_recordOf_iff.2 ⟨f, hf⟩] at haccepted
    cases haccepted
  · intro t p f hp hevent hf
    have hevents := List.countP_eq_zero.1 hrecords (.flip f)
      (List.mem_append_left _ (Registry.mem_events_iff.2 ⟨t, p, hp, hevent⟩))
    exact hevents (beq_iff_eq.2 hf)
  · rw [htold]
    cases hv : v.stamp with
    | none => rfl
    | some stamp =>
      rw [hv] at hstamp
      cases hstamp

/-- What a swap with an accepted flip leads to. -/
theorem done (h : m.Faithful) (hw : m.screen.swaps[id]? = some w)
    (haccepted : (recordOf id m.history).accepted = true) :
    Done m.screen m.agenda.reclaims m.history id w := by
  have hstory := h.chronicled.story hw
  unfold Swap.Story at hstory
  -- An open barrier owes nobody anything yet; a final one owes its client the swap's leftover.
  have hopen : w.barrier.isFinal = false →
      (recordOf id m.history).told = [] ∧ (recordOf id m.history).destroyed = [] := by
    intro hopen
    cases ht : w.barrier.tally with
    | none => simp [Barrier.isFinal, ht] at hopen
    | some t =>
      rw [ht] at hstory
      exact ⟨hstory.2.2.1, hstory.2.2.2.1⟩
  have hfinal : w.barrier.isFinal = true →
      (∃ v, (id, v) ∈ m.agenda.reclaims) ∧ (recordOf id m.history).destroyed = [] ∨
      (recordOf id m.history).destroyed = [w.barrier.oldFb].filter fun fb => !fb.isNone := by
    intro hfinal
    rw [Option.isNone_iff_eq_none.1 hfinal] at hstory
    obtain ⟨v, hsubmitted, -, -, ⟨howed, hdestroyed⟩ | ⟨-, hdestroyed⟩⟩ := hstory
    · exact .inl ⟨⟨v, mem_owed_iff.1 (howed ▸ List.mem_singleton_self v)⟩, hdestroyed⟩
    · right
      rw [hdestroyed, Barrier.leftover, Verdict.tookEffect, hsubmitted, haccepted, Bool.or_true,
        if_pos rfl]
  refine ⟨accepted_recordOf_iff.1 haccepted, hopen, ?_, hfinal, fun hne => ?_⟩
  · intro hfinal
    rw [Option.isNone_iff_eq_none.1 hfinal] at hstory
    obtain ⟨v, -, hstamp, htold, -⟩ := hstory
    exact ⟨v.stamp, htold, by rw [hstamp, completed_recordOf_iff]⟩
  · cases hend : w.barrier.isFinal with
    | false => exact (hopen hend).2 ▸ List.not_mem_nil
    | true =>
      rcases hfinal hend with ⟨-, hnone⟩ | hdestroyed
      · exact hnone ▸ List.not_mem_nil
      · exact not_mem_of_destroyed hdestroyed hne

end Faithful

/-- At first there is nothing to disagree on. -/
theorem faithful_new (pipes : List Pipe) (slots : List Framebuffer) (config : Config) :
    (Course.new pipes slots config).scene.Faithful where
  chronicled := chronicled_new pipes slots config
  separate := trivial
  sources :=
    { pending := fun he => by cases he
      events := fun hf => by cases hf }
  filed := filed_new pipes slots config
  unmixed := trivial
  earned := fun _ hid => by cases hid

end Scene

/-! ## Scenes of the past -/

/-- A deed notes that a call returned, or it does not. -/
theorem Deed.history_cases {m m' : Scene} (hd : Deed conduct m m') :
    (∃ hs, m'.history = hs ++ m.history ∧ hs.filterMap Happening.call? = []) ∨
    ∃ call outcome, m'.history = .returned call outcome m'.screen :: m.history := by
  cases hd with
  | @dispatch s c g e report f r w b v ls fbs h =>
    refine .inl ⟨Happening.ofVerdict f.swap w.client v ++ [.resolved f.swap report], by simp, ?_⟩
    rw [List.filterMap_append, call?_ofVerdict]
    rfl
  | abort => exact .inl ⟨_, rfl, call?_ofVerdict _ _ _⟩
  | giveUp => exact .inl ⟨_, rfl, call?_ofVerdict _ _ _⟩
  | release => exact .inl ⟨_, rfl, call?_ofVerdict _ _ _⟩
  | reclaim =>
    refine .inl ⟨_, rfl, ?_⟩
    split_ifs
    · rfl
    · rfl
  | accept => exact .inl ⟨[.accepted _ _], rfl, rfl⟩
  | refuse => exact .inr ⟨_, _, rfl⟩
  | finish => exact .inr ⟨_, _, rfl⟩
  | _ => exact .inl ⟨[], rfl, rfl⟩

/-- A call returned before something else happened that is not a return. -/
theorem exists_of_append_eq {hs h later earlier : List Happening} {call : Call} {outcome : Outcome}
    {left : Screen} (hnone : hs.filterMap Happening.call? = [])
    (heq : hs ++ h = later ++ .returned call outcome left :: earlier) :
    ∃ later', h = later' ++ .returned call outcome left :: earlier := by
  rcases List.append_eq_append_iff.1 heq with ⟨later', -, hh⟩ | ⟨rest, hhs, hrest⟩
  · exact ⟨later', hh⟩
  · cases rest with
    | nil => exact ⟨[], hrest.symm⟩
    | cons x rest =>
      obtain ⟨rfl, -⟩ := List.cons.inj hrest
      rw [hhs, List.filterMap_append, List.append_eq_nil_iff] at hnone
      cases hnone.2

namespace Scene

/-- The scene in which a call returned is known. -/
def Archived (m : Scene) : Prop :=
  ∀ later call outcome left earlier, m.history = later ++ .returned call outcome left :: earlier →
    (∃ ls fbs, Faithful ⟨left, ls, fbs, .returned call outcome left :: earlier⟩ ∧
      Accounted left (agendaOf ls)) ∧
    ∀ (id : SwapId) (w : Swap), left.swaps[id]? = some w →
      ∃ w', m.screen.swaps[id]? = some w' ∧ w'.Continues w

/-- Every deed keeps the scenes of the past. -/
theorem Archived.deed {m m' : Scene} (h : m.Archived) (hfaithful : m'.Faithful)
    (hA : Accounted m'.screen m'.agenda) (hd : Deed conduct m m') : m'.Archived := by
  intro later call outcome left earlier heq
  have hbefore : ∀ later', m.history = later' ++ .returned call outcome left :: earlier →
      (∃ ls fbs, Faithful ⟨left, ls, fbs, .returned call outcome left :: earlier⟩ ∧
        Accounted left (agendaOf ls)) ∧
      ∀ (id : SwapId) (w : Swap), left.swaps[id]? = some w →
        ∃ w', m'.screen.swaps[id]? = some w' ∧ w'.Continues w := by
    intro later' heq'
    obtain ⟨hscene, hswaps⟩ := h later' call outcome left earlier heq'
    refine ⟨hscene, fun id w hw => ?_⟩
    obtain ⟨w', hw', hcont⟩ := hswaps id w hw
    obtain ⟨l, hc⟩ := hd.change
    obtain ⟨w'', hw'', hcont'⟩ := hc.swap_after hw'
    exact ⟨w'', hw'', hcont'.slot.trans hcont.slot, hcont'.client.trans hcont.client,
      hcont'.newFb.trans hcont.newFb, hcont'.oldFb.trans hcont.oldFb⟩
  rcases hd.history_cases with ⟨hs, hhistory, hnone⟩ | ⟨call', outcome', hhistory⟩
  · obtain ⟨later', heq'⟩ := exists_of_append_eq hnone (hhistory ▸ heq)
    exact hbefore later' heq'
  · -- The return that is looked for is this one or an earlier one.
    rw [hhistory] at heq
    cases later with
    | nil =>
      obtain ⟨hreturned, rfl⟩ := List.cons.inj heq
      cases hreturned
      obtain ⟨s, ls, fbs, history⟩ := m'
      have hhistory : history = .returned call outcome s :: m.history := hhistory
      subst hhistory
      exact ⟨⟨ls, fbs, hfaithful, hA⟩, fun id w hw => ⟨w, hw, .refl w⟩⟩
    | cons x later => exact hbefore later (List.cons.inj heq).2

end Scene

namespace Course

variable {pipes : List Pipe} {slots : List Framebuffer} {config : Config} {c : Course}
  {acts : List Act}

/-- What is known of every course that is not broken, if its channel keeps off the flips that are
being queued. -/
theorem faithful (hconduct : conduct.Truthful)
    (hplay : (new pipes slots config).play conduct acts = some c)
    (hunbroken : c.session.violation = none) :
    c.Sound ∧ c.scene.Faithful ∧ c.scene.Archived := by
  refine keeps (I := fun m => m.Faithful ∧ m.Archived) (fun m m' hA h hd => ?_) (sound_new _ _ _)
    ⟨Scene.faithful_new _ _ _, fun later _ _ _ _ heq => ?_⟩ hplay hunbroken
  · have hfaithful := h.1.deed hconduct hA hd
    exact ⟨hfaithful, h.2.deed hfaithful (hd.accounted hA) hd⟩
  · cases later with
    | nil => cases heq
    | cons => cases heq

end Course

end PageFlip
