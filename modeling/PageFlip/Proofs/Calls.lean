import PageFlip.Proofs.Levels

/-!
# The calls of a course

Every swap was brought by one call, unfinished or returned (`Filed.brought`), for the client and the
slot of its request. How far an operation is agrees with what happened to the swap of its call
(`Ending.Agrees`): a swap that returns an error has no accepted flip, any other has one. A call
whose framebuffer was not imported leaves everything as it found it.
-/

namespace PageFlip

/-- The call of an operation that returned. -/
def Happening.call? : Happening → Option Call
  | returned call _ _ => some call
  | _ => none

/-! ## Something is left to do -/

namespace Agenda

/-- While a flip is being queued something is left to do. -/
theorem queueing_ne (id : SwapId) (fb : Framebuffer) (f : Submission) : queueing id fb f ≠ {} :=
  fun h => List.cons_ne_nil _ _ (congrArg fanouts h)

/-- While a report is to be dispatched something is left to do. -/
theorem reporting_append_ne (report : Report) (g : Agenda) : reporting [report] ++ g ≠ {} :=
  fun h => List.cons_ne_nil _ _ (congrArg reports h)

end Agenda

/-! ## Calls and what they return -/

/-- The calls of the unfinished operations and of those that returned. -/
def callsOf (ls : List Level) (h : List Happening) : List Call :=
  ls.map Level.call ++ h.filterMap Happening.call?

/-- What an operation returns agrees with what happened to the swap of its call. -/
def Outcome.Agrees (call : Call) (h : List Happening) : Outcome → Prop
  | swapped result =>
    (∃ r, call.op = .swap r) ∧
      match call.swap, result with
      | none, result => ∃ e, result = .error (.importFramebuffer e)
      | some id, .ok _ => (recordOf id h).accepted = true
      | some id, .error e => (recordOf id h).accepted = false ∧ ∀ x, e ≠ .importFramebuffer x
  | _ => (∀ r, call.op ≠ .swap r) ∧ call.swap = none

/-- How far an operation with the agenda `g` is agrees with what happened to the swap of its
call. -/
def Ending.Agrees (call : Call) (g : Agenda) (h : List Happening) : Ending → Prop
  | importing p =>
    call.op = .swap p.request ∧ p = call.found.prepare p.request ∧ call.swap = none ∧ g = {}
  | reading => (∀ r, call.op ≠ .swap r) ∧ call.swap = none ∧ g = {}
  | flipping id n error =>
    (∃ r, call.op = .swap r) ∧ call.swap = some id ∧
      decide (0 < n) = (recordOf id h).accepted ∧ ∀ x, error ≠ some (.importFramebuffer x)
  | returning outcome =>
    outcome.Agrees call h ∧ g.fanouts = [] ∧ ((∃ r, call.op = .swap r) → call.swap ≠ none)

/-- An unfinished operation is busy with the swap of its call. Only this swap can have an outcome
there without having taken effect. -/
structure Level.Agrees (h : List Happening) (l : Level) : Prop where
  fanouts : ∀ u ∈ l.agenda.fanouts, l.call.swap = some u.swap
  reclaims : ∀ e ∈ l.agenda.reclaims, e.2.tookEffect = false → l.call.swap = some e.1
  ending : l.ending.Agrees l.call l.agenda h

/-- An operation that is no swap is about to return. -/
theorem Level.agrees_done {h : List Happening} {op : Operation} {s : Screen} {n : Nat} {g : Agenda}
    (hop : ∀ r, op ≠ .swap r) (hfanouts : g.fanouts = []) (hreclaims : g.reclaims = []) :
    Level.Agrees h ⟨⟨op, s, n, none⟩, g, .returning .done⟩ where
  fanouts := by simp [hfanouts]
  reclaims := by simp [hreclaims]
  ending := ⟨⟨hop, rfl⟩, hfanouts, fun hswap => absurd hswap (not_exists.2 hop)⟩

/-- The swap of a call has the client and the slot of the request, and displaced what the slot held
when it was called for. -/
def Call.Made (s : Screen) (call : Call) : Prop :=
  ∀ id, call.swap = some id → ∃ r w, call.op = .swap r ∧ s.swaps[id]? = some w ∧
    w.client = r.client ∧ w.slot = (call.found.prepare r).slot ∧
    w.barrier.oldFb = call.found.held w.slot

section Agrees

variable {call : Call} {g g' : Agenda} {h h' : List Happening} {e e' : Ending} {o : Outcome}

/-- Only what happens to the swap of the call makes a difference. -/
theorem Outcome.Agrees.congr (ho : o.Agrees call h)
    (hrecord : ∀ id, call.swap = some id →
      (recordOf id h').accepted = (recordOf id h).accepted) : o.Agrees call h' := by
  cases o with
  | swapped result =>
    refine ⟨ho.1, ?_⟩
    have ho := ho.2
    cases hswap : call.swap with
    | none =>
      rw [hswap] at ho
      exact ho
    | some id =>
      rw [hswap] at ho
      cases result with
      | ok => exact (hrecord id hswap).trans ho
      | error e => exact ⟨(hrecord id hswap).trans ho.1, ho.2⟩
  | _ => exact ho

/-- Only what happens to the swap of the call makes a difference to how far it is. -/
theorem Ending.Agrees.congr (he : e.Agrees call g h)
    (hrecord : ∀ id, call.swap = some id →
      (recordOf id h').accepted = (recordOf id h).accepted) : e.Agrees call g h' := by
  cases e with
  | importing p => exact he
  | reading => exact he
  | flipping id n error =>
    obtain ⟨hop, hswap, haccepted, herror⟩ := he
    exact ⟨hop, hswap, haccepted.trans (hrecord id hswap).symm, herror⟩
  | returning outcome => exact ⟨he.1.congr hrecord, he.2⟩

/-- The same of an unfinished operation. -/
theorem Level.Agrees.congr {l : Level} (hl : l.Agrees h)
    (hrecord : ∀ id, l.call.swap = some id →
      (recordOf id h').accepted = (recordOf id h).accepted) : l.Agrees h' :=
  ⟨hl.fanouts, hl.reclaims, hl.ending.congr hrecord⟩

/-- An operation that has something left to do goes on with something else to do. -/
theorem Ending.Agrees.agenda (he : e.Agrees call g h) (hg : g ≠ {})
    (hfanouts : g.fanouts = [] → g'.fanouts = []) : e.Agrees call g' h := by
  cases e with
  | importing p => exact absurd he.2.2.2 hg
  | reading => exact absurd he.2.2 hg
  | flipping id n error => exact he
  | returning outcome =>
    exact ⟨he.1, hfanouts he.2.1, he.2.2⟩

/-- The operation comes further. -/
theorem Ending.Agrees.leads (he : e.Agrees call g h) (hlead : e.Leads e') :
    e'.Agrees call g h := by
  cases hlead with
  | same => exact he
  | failed hx =>
    refine ⟨he.1, he.2.1, he.2.2.1, fun x hx' => hx x (Option.some.inj hx')⟩
  | read =>
    obtain ⟨hop, hswap, rfl⟩ := he
    exact ⟨⟨hop, hswap⟩, rfl, fun ⟨r, hr⟩ => absurd hr (hop r)⟩

/-- What a swap returns is settled by the number of its accepted flips. -/
theorem Ending.Agrees.outcome {id : SwapId} {n : Nat} {error : Option SwapError}
    (he : (Ending.flipping id n error).Agrees call g h) :
    (Fanout.outcome n error).Agrees call h := by
  obtain ⟨hop, hswap, haccepted, herror⟩ := he
  unfold Fanout.outcome
  split_ifs with hn
  · refine ⟨hop, ?_⟩
    rw [hswap]
    exact haccepted.symm.trans (decide_eq_true hn)
  · refine ⟨hop, ?_⟩
    rw [hswap]
    refine ⟨haccepted.symm.trans (decide_eq_false hn), fun x hx => ?_⟩
    cases error with
    | none => cases hx
    | some e => exact herror x (congrArg some hx)

/-- An operation that has brought no swap yet is importing its framebuffer. -/
theorem Ending.Agrees.of_swap_eq_none (he : e.Agrees call g h) (hop : ∃ r, call.op = .swap r)
    (hswap : call.swap = none) : g = {} ∧ ∃ p, e = .importing p := by
  cases e with
  | importing p => exact ⟨he.2.2.2, p, rfl⟩
  | reading =>
    obtain ⟨r, hr⟩ := hop
    exact absurd hr (he.1 r)
  | flipping id n error =>
    rw [he.2.1] at hswap
    cases hswap
  | returning outcome => exact absurd hswap (he.2.2 hop)

end Agrees

/-- Only an acceptance makes a swap one with an accepted flip. -/
theorem accepted_append {id : SwapId} {hs h : List Happening} (hnone : ∀ f, .accepted id f ∉ hs) :
    (recordOf id (hs ++ h)).accepted = (recordOf id h).accepted := by
  rw [Bool.eq_iff_iff, accepted_recordOf_iff, accepted_recordOf_iff]
  refine exists_congr fun f => ?_
  rw [List.mem_append, or_iff_right (hnone f)]

/-- When a client is told an outcome no flip is accepted. -/
theorem accepted_not_mem_ofVerdict (j : SwapId) (client : Client) (v : Option Verdict)
    (id : SwapId) (f : Submission) : .accepted id f ∉ Happening.ofVerdict j client v := by
  cases v <;> simp [Happening.ofVerdict]

/-- When a client is told an outcome no call returns. -/
theorem call?_ofVerdict (id : SwapId) (client : Client) (v : Option Verdict) :
    (Happening.ofVerdict id client v).filterMap Happening.call? = [] := by
  cases v <;> simp [Happening.ofVerdict, Happening.call?]

/-! ## All calls of a course -/

/-- The calls and the swaps of a course agree. -/
structure Filed (m : Scene) : Prop where
  levels : ∀ l ∈ m.levels, l.Agrees m.history
  returned : ∀ call outcome left, .returned call outcome left ∈ m.history →
    outcome.Agrees call m.history
  made : ∀ call ∈ callsOf m.levels m.history, call.Made m.screen
  /-- Each swap was brought by one call. -/
  brought : ((callsOf m.levels m.history).filterMap Call.swap).Perm
    (List.range m.screen.swaps.length)
  /-- A call for a swap whose framebuffer is not imported found everything as it is. -/
  untouched : ∀ l ∈ m.levels.head?, (∃ r, l.call.op = .swap r) → l.call.swap = none →
    m.screen = l.call.found ∧ m.history.length = l.call.since
  beneath : ∀ l ∈ m.levels.tail, l.agenda.reclaims ≠ []

namespace Filed

variable {s s' : Screen} {l l' : Level} {ls : List Level} {fbs fbs' : List Framebuffer}
  {h : List Happening} {m m' : Scene} {conduct : Conduct}

/-- The swap of a call stays what it was made as. -/
theorem made_of_continues (hswaps : ∀ (id : SwapId) (w : Swap), s.swaps[id]? = some w →
    ∃ w', s'.swaps[id]? = some w' ∧ w'.Continues w) {call : Call} (hc : call.Made s) :
    call.Made s' := by
  intro id hid
  obtain ⟨r, w, hop, hw, hclient, hslot, hold⟩ := hc id hid
  obtain ⟨w', hw', hcont⟩ := hswaps id w hw
  exact ⟨r, w', hop, hw', hcont.client.trans hclient, hcont.slot.trans hslot,
    by rw [hcont.oldFb, hcont.slot, hold]⟩

/-- A call below, or one that returned, has not brought the swap of the call on top. -/
theorem swap_ne (hF : Filed ⟨s, l :: ls, fbs, h⟩) {call : Call}
    (hcall : call ∈ callsOf ls h) {id : SwapId} (hid : call.swap = some id) :
    l.call.swap ≠ some id := by
  intro htop
  have hnodup := hF.brought.nodup_iff.2 List.nodup_range
  have hsplit : callsOf (l :: ls) h = l.call :: callsOf ls h := rfl
  rw [hsplit, List.filterMap_cons_some htop, List.nodup_cons] at hnodup
  exact hnodup.1 (List.mem_filterMap.2 ⟨call, hcall, hid⟩)

/-- A call that returned is one of the calls. -/
theorem mem_callsOf_of_returned {call : Call} {outcome : Outcome} {left : Screen}
    (hmem : .returned call outcome left ∈ h) : call ∈ callsOf ls h :=
  List.mem_append_right _ (List.mem_filterMap.2 ⟨_, hmem, rfl⟩)

/-- The operation on top goes on. -/
theorem advance (hs : List Happening) (hF : Filed ⟨s, l :: ls, fbs, h⟩) (hcall : l'.call = l.call)
    (hreturned : hs.filterMap Happening.call? = [])
    (hrecord : ∀ id, l.call.swap ≠ some id →
      (recordOf id (hs ++ h)).accepted = (recordOf id h).accepted)
    (hl' : l'.Agrees (hs ++ h)) (hlength : s'.swaps.length = s.swaps.length)
    (hmade : ∀ call : Call, call.Made s → call.Made s')
    (huntouched : (∃ r, l.call.op = .swap r) → l.call.swap = none → s' = s ∧ hs = []) :
    Filed ⟨s', l' :: ls, fbs', hs ++ h⟩ := by
  have hcalls : callsOf (l' :: ls) (hs ++ h) = callsOf (l :: ls) h := by
    simp only [callsOf, List.map_cons, hcall, List.filterMap_append, hreturned, List.nil_append]
  refine ⟨?_, ?_, ?_, ?_, ?_, hF.beneath⟩
  · refine List.forall_mem_cons.2 ⟨hl', fun k hk => ?_⟩
    -- The other calls brought other swaps, of which nothing new is known.
    refine (hF.levels k (List.mem_cons_of_mem _ hk)).congr fun id hid => hrecord id ?_
    exact hF.swap_ne (List.mem_append_left _ (List.mem_map_of_mem hk)) hid
  · intro call outcome left hmem
    have hmem : .returned call outcome left ∈ h := by
      refine (List.mem_append.1 hmem).resolve_left fun hmem => ?_
      have : call ∈ hs.filterMap Happening.call? := List.mem_filterMap.2 ⟨_, hmem, rfl⟩
      rw [hreturned] at this
      cases this
    refine (hF.returned call outcome left hmem).congr fun id hid => hrecord id ?_
    exact hF.swap_ne (mem_callsOf_of_returned hmem) hid
  · rw [hcalls]
    exact fun call hmem => hmade call (hF.made call hmem)
  · change ((callsOf (l' :: ls) (hs ++ h)).filterMap Call.swap).Perm (List.range s'.swaps.length)
    rw [hcalls, hlength]
    exact hF.brought
  · rintro k ⟨⟩ hop hswap
    rw [hcall] at hop hswap ⊢
    obtain ⟨rfl, rfl⟩ := huntouched hop hswap
    exact hF.untouched l rfl hop hswap

/-- An operation starts. -/
theorem push (hF : Filed ⟨s, ls, fbs, h⟩) (htop : InHandler ls) {op : Operation} {g : Agenda}
    {e : Ending} (hl : Level.Agrees h ⟨⟨op, s, h.length, none⟩, g, e⟩)
    (hswaps : s'.swaps = s.swaps) (hsame : (∃ r, op = .swap r) → s' = s) :
    Filed ⟨s', ⟨⟨op, s, h.length, none⟩, g, e⟩ :: ls, fbs, h⟩ := by
  refine ⟨List.forall_mem_cons.2 ⟨hl, hF.levels⟩, hF.returned, ?_, ?_, ?_, ?_⟩
  · refine List.forall_mem_cons.2 ⟨fun _ => nofun, fun call hmem => ?_⟩
    exact made_of_continues (fun id w hw => ⟨w, by rw [hswaps, hw], .refl w⟩)
      (hF.made call hmem)
  · change ((callsOf ls h).filterMap Call.swap).Perm (List.range s'.swaps.length)
    rw [hswaps]
    exact hF.brought
  · rintro k ⟨⟩ hop -
    exact ⟨hsame hop, rfl⟩
  · intro k hk
    cases ls with
    | nil => cases hk
    | cons k' ls =>
      rcases List.mem_cons.1 hk with rfl | hk
      · exact htop _ rfl
      · exact hF.beneath k hk

/-- An operation returns. -/
theorem pop {outcome : Outcome} (hF : Filed ⟨s, l :: ls, fbs, h⟩)
    (houtcome : outcome.Agrees l.call h) :
    Filed ⟨s, ls, fbs, .returned l.call outcome s :: h⟩ := by
  have hperm : (callsOf ls (.returned l.call outcome s :: h)).Perm (callsOf (l :: ls) h) :=
    List.perm_middle
  refine ⟨?_, ?_, ?_, ?_, ?_, ?_⟩
  · exact fun k hk => (hF.levels k (List.mem_cons_of_mem _ hk)).congr fun _ _ => rfl
  · intro c o left hmem
    rcases List.mem_cons.1 hmem with hmem | hmem
    · cases hmem
      exact houtcome.congr fun _ _ => rfl
    · exact (hF.returned c o left hmem).congr fun _ _ => rfl
  · exact fun c hmem => hF.made c (hperm.mem_iff.1 hmem)
  · exact (hperm.filterMap _).trans hF.brought
  · intro k hk hop hswap
    have hmem : k ∈ ls := List.mem_of_mem_head? hk
    -- An operation below has a handler running, unlike one that is importing.
    have hnonempty := hF.beneath k hmem
    have hend := (hF.levels k (List.mem_cons_of_mem _ hmem)).ending.of_swap_eq_none hop hswap
    rw [hend.1] at hnonempty
    exact absurd rfl hnonempty
  · exact fun k hk => hF.beneath k (List.mem_of_mem_tail hk)

/-- A framebuffer is installed. -/
theorem launch {call : Call} {p : Preparation} {fb : Framebuffer}
    (hF : Filed ⟨s, ⟨call, {}, .importing p⟩ :: ls, fbs, h⟩)
    (hnew : recordOf s.swaps.length h = {}) :
    Filed ⟨((s.assign p.slot fb).addSwap ⟨.new fb p.displaced, p.slot, p.request.client⟩).2,
      ⟨{ call with swap := some s.swaps.length }, .fanning s.swaps.length fb,
        .flipping s.swaps.length 0 none⟩ :: ls, fbs', h⟩ := by
  obtain ⟨hop, hp, hswap, -⟩ := (hF.levels _ List.mem_cons_self).ending
  have hcontinues : ∀ (id : SwapId) (w : Swap), s.swaps[id]? = some w → ∃ w',
      ((s.assign p.slot fb).addSwap
        ⟨.new fb p.displaced, p.slot, p.request.client⟩).2.swaps[id]? = some w' ∧
        w'.Continues w := by
    intro id w hw
    refine ⟨w, ?_, .refl w⟩
    exact (List.getElem?_append_left (Accounted.lt_length hw)).trans hw
  refine ⟨?_, hF.returned, ?_, ?_, ?_, hF.beneath⟩
  · refine List.forall_mem_cons.2 ⟨⟨?_, fun _ => nofun, ⟨_, hop⟩, rfl, ?_, fun _ => nofun⟩,
      fun k hk => hF.levels k (List.mem_cons_of_mem _ hk)⟩
    · exact List.forall_mem_singleton.2 rfl
    · rw [hnew]
      rfl
  · refine List.forall_mem_cons.2 ⟨?_, fun c hmem => ?_⟩
    · rintro id ⟨⟩
      refine ⟨p.request, _, hop, List.getElem?_concat_length, rfl, ?_, ?_⟩
      · exact congrArg Preparation.slot hp
      · change p.displaced = call.found.held p.slot
        rw [hp]
        rfl
    · exact made_of_continues hcontinues (hF.made c (List.mem_cons_of_mem _ hmem))
  · have hbrought := hF.brought
    have hbefore : (callsOf (⟨call, {}, .importing p⟩ :: ls) h).filterMap Call.swap =
        (callsOf ls h).filterMap Call.swap := List.filterMap_cons_none hswap
    rw [hbefore] at hbrought
    -- The call on top had no swap before, and has the last one now.
    change (s.swaps.length :: (callsOf ls h).filterMap Call.swap).Perm (List.range _)
    rw [Screen.length_addSwap_assign, List.range_succ]
    exact (hbrought.cons _).trans (List.perm_append_singleton _ _).symm
  · rintro k ⟨⟩ - hnone
    cases hnone

/-- A flip of a swap is resolved in an operation with something left to do. -/
theorem settle {call : Call} {g g' : Agenda} {e e' : Ending} {id : SwapId} {client : Client}
    {v : Option Verdict} (hs : List Happening) (hF : Filed ⟨s, ⟨call, g, e⟩ :: ls, fbs, h⟩)
    (hg : g ≠ {}) (hhs : ∀ x ∈ hs, ∃ j report, x = .resolved j report)
    (hfanouts : ∀ u ∈ g'.fanouts, call.swap = some u.swap)
    (hempty : g.fanouts = [] → g'.fanouts = [])
    (hreclaims : ∀ x ∈ g'.reclaims, x ∈ g.reclaims) (he : e.Leads e')
    (hv : ∀ vd ∈ v, vd.tookEffect = true) (hlength : s'.swaps.length = s.swaps.length)
    (hmade : ∀ call : Call, call.Made s → call.Made s') :
    Filed ⟨s', ⟨call, .owing id v ++ g', e'⟩ :: ls, fbs,
      Happening.ofVerdict id client v ++ (hs ++ h)⟩ := by
  have hl := hF.levels _ List.mem_cons_self
  have hending : e.Agrees call (.owing id v ++ g') h := hl.ending.agenda hg hempty
  -- Nothing is accepted, so what agreed before still does.
  have hrecord : ∀ j, (recordOf j (Happening.ofVerdict id client v ++ (hs ++ h))).accepted =
      (recordOf j h).accepted := by
    intro j
    rw [accepted_append (accepted_not_mem_ofVerdict id client v j), accepted_append]
    intro f hf
    obtain ⟨i, report, hx⟩ := hhs _ hf
    cases hx
  have hcalls : hs.filterMap Happening.call? = [] := by
    rw [List.filterMap_eq_nil_iff]
    intro x hx
    obtain ⟨i, report, rfl⟩ := hhs x hx
    rfl
  rw [← List.append_assoc] at hrecord ⊢
  refine hF.advance _ rfl ?_ (fun j _ => hrecord j) ⟨hfanouts, ?_, ?_⟩ hlength hmade ?_
  · rw [List.filterMap_append, call?_ofVerdict, hcalls, List.append_nil]
  · intro x hx hno
    rcases List.mem_append.1 hx with hx | hx
    · obtain ⟨vd, hvd, rfl⟩ := List.mem_map.1 hx
      rw [hv vd (Option.mem_toList.1 hvd)] at hno
      cases hno
    · exact hl.reclaims x (hreclaims x hx) hno
  · exact (hending.leads he).congr fun j _ => hrecord j
  · exact fun hop hswap => absurd (hl.ending.of_swap_eq_none hop hswap).1 hg

section Deeds

variable {call : Call} {g : Agenda} {e : Ending} {id : SwapId} {fb : Framebuffer} {n : Nat}

/-- A swap goes on while nothing else happens, and it is still busy with its own flips. -/
theorem goOn {l l' : Level} (hF : Filed ⟨s, l :: ls, fbs, h⟩) (hcall : l'.call = l.call)
    (hl' : l'.Agrees h) (hswap : l.call.swap = some id) (hlength : s'.swaps.length = s.swaps.length)
    (hmade : ∀ call : Call, call.Made s → call.Made s') : Filed ⟨s', l' :: ls, fbs, h⟩ := by
  refine hF.advance [] hcall rfl (fun _ _ => rfl) hl' hlength hmade fun _ hnone => ?_
  rw [hswap] at hnone
  cases hnone

/-- The submitter gives up its hold: what the swap returns is settled by its accepted flips. -/
theorem release {error : Option SwapError} {v : Option Verdict}
    (hF : Filed ⟨s, ⟨call, .fanning id fb, .flipping id n error⟩ :: ls, fbs, h⟩) (client : Client)
    (hlength : s'.swaps.length = s.swaps.length)
    (hmade : ∀ call : Call, call.Made s → call.Made s') :
    Filed ⟨s', ⟨call, .owing id v, .returning (Fanout.outcome n error)⟩ :: ls, fbs,
      Happening.ofVerdict id client v ++ h⟩ := by
  have hl := hF.levels _ List.mem_cons_self
  have hswap : call.swap = some id := hl.ending.2.1
  have hrecord : ∀ j, (recordOf j (Happening.ofVerdict id client v ++ h)).accepted =
      (recordOf j h).accepted :=
    fun j => accepted_append (accepted_not_mem_ofVerdict id client v j)
  refine hF.advance _ rfl (call?_ofVerdict _ _ _) (fun j _ => hrecord j)
    ⟨List.forall_mem_nil _, ?_, ?_⟩ hlength hmade fun _ hnone => ?_
  · -- An outcome that comes now is one of the swap of the call, so it need not have taken effect.
    intro x hx _
    obtain ⟨vd, -, rfl⟩ := List.mem_map.1 hx
    exact hswap
  · refine ⟨hl.ending.outcome.congr fun j _ => hrecord j, rfl, fun _ => ?_⟩
    rw [hswap]
    exact Option.some_ne_none _
  · have hnone : call.swap = none := hnone
    rw [hswap] at hnone
    cases hnone

/-- A framebuffer is given up, or none if the swap leaves none over. -/
theorem reclaim {v : Verdict} {gone : Framebuffer}
    (hF : Filed ⟨s, ⟨call, .owing id (some v) ++ g, e⟩ :: ls, fbs, h⟩)
    (hlength : s'.swaps.length = s.swaps.length)
    (hmade : ∀ call : Call, call.Made s → call.Made s') :
    Filed ⟨s', ⟨call, g, e⟩ :: ls, fbs,
      (if gone.isNone then [] else [.destroyed id gone]) ++ h⟩ := by
  have hl := hF.levels _ List.mem_cons_self
  have hg : Agenda.owing id (some v) ++ g ≠ {} :=
    fun hg => absurd (congrArg Agenda.reclaims hg) (List.cons_ne_nil _ _)
  have hrecord : ∀ j, (recordOf j ((if gone.isNone then [] else [.destroyed id gone]) ++
      h)).accepted = (recordOf j h).accepted := by
    intro j
    refine accepted_append fun f hf => ?_
    split_ifs at hf
    · cases hf
    · simp at hf
  refine hF.advance _ rfl ?_ (fun j _ => hrecord j)
    ⟨hl.fanouts, fun x hx => hl.reclaims x (List.mem_cons_of_mem _ hx), ?_⟩ hlength hmade ?_
  · split_ifs <;> rfl
  · have hending : e.Agrees call g h := hl.ending.agenda hg fun hnil => hnil
    exact hending.congr fun j _ => hrecord j
  · exact fun hop hswap => absurd (hl.ending.of_swap_eq_none hop hswap).1 hg

/-- The channel accepts a flip, which only concerns the swap of the call. -/
theorem accept {f : Submission}
    (hF : Filed ⟨s, ⟨call, .queueing id fb f, .flipping id n none⟩ :: ls, fbs, h⟩)
    (hlength : s'.swaps.length = s.swaps.length)
    (hmade : ∀ call : Call, call.Made s → call.Made s') :
    Filed ⟨s', ⟨call, .fanning id fb, .flipping id (n + 1) none⟩ :: ls, fbs,
      .accepted id f :: h⟩ := by
  have hl := hF.levels _ List.mem_cons_self
  obtain ⟨hop, hswap, -, herror⟩ := hl.ending
  have hswap : call.swap = some id := hswap
  refine hF.advance [.accepted id f] rfl rfl ?_ ⟨?_, hl.reclaims, hop, hswap, ?_, herror⟩
    hlength hmade fun _ hnone => ?_
  · intro j hj
    have hj : id ≠ j := fun he => hj (he ▸ hswap)
    exact congrArg Record.accepted (if_neg hj)
  · exact List.forall_mem_singleton.2 hswap
  · simp [recordOf]
  · have hnone : call.swap = none := hnone
    rw [hswap] at hnone
    cases hnone

/-- The pending tokens come to be in another order. This happens while a handler runs, not while a
framebuffer is imported. -/
theorem reorder (hF : Filed ⟨s, ls, fbs, h⟩) (htop : InHandler ls)
    (hswaps : s'.swaps.length = s.swaps.length)
    (hmade : ∀ call : Call, call.Made s → call.Made s') : Filed ⟨s', ls, fbs, h⟩ where
  levels := hF.levels
  returned := hF.returned
  made := fun call hmem => hmade call (hF.made call hmem)
  brought := hswaps.symm ▸ hF.brought
  untouched := by
    intro l hl hop hswap
    have hl' := hF.levels l (List.mem_of_mem_head? hl)
    have hnothing := (hl'.ending.of_swap_eq_none hop hswap).1
    exact absurd (congrArg Agenda.reclaims hnothing) (htop l hl)
  beneath := hF.beneath

end Deeds

/-- Every deed keeps the calls and the swaps in agreement. -/
theorem deed (hF : Filed m) (hA : Accounted m.screen m.agenda)
    (hC : Chronicled m.screen m.agenda.reclaims m.history)
    (hS : Sources m.screen m.agenda m.history) (hd : Deed conduct m m') : Filed m' := by
  have hA' := hd.accounted hA
  have hmade : ∀ call : Call, call.Made m.screen → call.Made m'.screen := by
    obtain ⟨l, hc⟩ := hd.change
    exact fun call => made_of_continues fun id w hw => hc.swap_after hw
  -- An outcome that comes with the resolution of a flip is one that took effect.
  have heffect : ∀ {f : Flip} {w : Swap} {b : Barrier} {v : Option Verdict} {stamp : Option Stamp},
      m.screen.swaps[f.swap]? = some w →
      w.barrier.resolve f.reference stamp = .ok (b, v) →
      m'.screen.swaps[f.swap]? = some { w with barrier := b } →
      m'.agenda.unreleased = m.agenda.unreleased →
      ∀ vd ∈ v, vd.tookEffect = true := by
    rintro f w b v stamp hw hb hw' hunreleased vd rfl
    have hcounts := hA'.counts hw'
    rw [Agenda.localHolds, hunreleased] at hcounts
    exact hS.tookEffect_of_resolve hA hC hw hb hcounts
  cases hd with
  | @pass s c g e e' ls fbs h he =>
    have hl := hF.levels _ List.mem_cons_self
    exact hF.advance [] rfl rfl (fun _ _ => rfl)
      ⟨hl.fanouts, hl.reclaims, hl.ending.leads he⟩ rfl hmade fun _ _ => ⟨rfl, rfl⟩
  | @register s c id fb n f reference r w b ls fbs h hfb halloc hw hb =>
    have hl := hF.levels _ List.mem_cons_self
    have hswap : c.swap = some id := hl.ending.2.1
    exact hF.goOn rfl ⟨List.forall_mem_singleton.2 hswap, hl.reclaims, hl.ending⟩ hswap
      (Screen.length_setBarrier _ _ _) hmade
  | @late s c g e report r ls fbs h hr =>
    have hl := hF.levels _ List.mem_cons_self
    have hg := Agenda.reporting_append_ne report g
    exact hF.advance [] rfl rfl (fun _ _ => rfl)
      ⟨hl.fanouts, hl.reclaims, hl.ending.agenda hg id⟩ rfl hmade
      fun hop hswap => absurd (hl.ending.of_swap_eq_none hop hswap).1 hg
  | @dispatch s c g e report f r w b v ls fbs h hr hw hlate hb =>
    have hl := hF.levels _ List.mem_cons_self
    have hg := Agenda.reporting_append_ne report g
    have hv := heffect hw hb ((Screen.getElem?_setBarrier (s := s.setRegistry r) hw b _).trans
      (if_pos rfl)) (by simp [Scene.agenda, Scene.agendaOf, Agenda.unreleased])
    exact hF.settle [.resolved f.swap report] hg
      (List.forall_mem_singleton.2 ⟨_, _, rfl⟩) hl.fanouts id (fun _ hx => hx) (.same _) hv
      (Screen.length_setBarrier _ _ _) hmade
  | @abort s c g e f w b v ls fbs h hw hb =>
    have hl := hF.levels _ List.mem_cons_self
    have hg : Agenda.aborting [.flip f] ++ g ≠ {} :=
      fun hg => absurd (congrArg Agenda.events hg) (List.cons_ne_nil _ _)
    have hv := heffect hw hb ((Screen.getElem?_setBarrier hw b _).trans (if_pos rfl))
      (by simp [Scene.agenda, Scene.agendaOf, Agenda.unreleased])
    exact hF.settle [] hg (fun _ hx => by cases hx) hl.fanouts id (fun _ hx => hx) (.same _) hv
      (Screen.length_setBarrier _ _ _) hmade
  | @giveUp s c id fb a e e' f r w b v ls fbs h he hr hw hb =>
    have hl := hF.levels _ List.mem_cons_self
    have hg := Agenda.queueing_ne id fb a
    have hv := heffect hw hb ((Screen.getElem?_setBarrier (s := s.setRegistry r) hw b _).trans
      (if_pos rfl)) (by simp [Scene.agenda, Scene.agendaOf, Agenda.unreleased])
    have hswap : c.swap = some id := hl.fanouts _ List.mem_cons_self
    exact hF.settle [] hg (fun _ hx => by cases hx) (List.forall_mem_singleton.2 hswap)
      (fun hnil => absurd hnil (List.cons_ne_nil _ _)) (fun _ hx => hx) he hv
      (Screen.length_setBarrier _ _ _) hmade
  | @lose s c id fb a e ls fbs h hgone =>
    have hl := hF.levels _ List.mem_cons_self
    have hswap : c.swap = some id := hl.fanouts _ List.mem_cons_self
    have hending : e.Agrees c (.fanning id fb) h :=
      hl.ending.agenda (Agenda.queueing_ne id fb a) fun hnil => absurd hnil (List.cons_ne_nil _ _)
    exact hF.goOn rfl ⟨List.forall_mem_singleton.2 hswap, hl.reclaims, hending⟩ hswap rfl hmade
  | release => exact hF.release _ (Screen.length_setBarrier _ _ _) hmade
  | reclaim => exact hF.reclaim rfl hmade
  | launch => exact hF.launch (hC.beyond (Nat.le_refl _)).1
  | @refuse s c p error ls fbs h =>
    obtain ⟨hop, -, hswap, -⟩ := (hF.levels _ List.mem_cons_self).ending
    refine hF.pop ⟨⟨_, hop⟩, ?_⟩
    have hswap : c.swap = none := hswap
    rw [hswap]
    exact ⟨error, rfl⟩
  | accept => exact hF.accept (Screen.length_setBarrier _ _ _) hmade
  | @read s c id fb a e reports ls fbs h hreads =>
    have hl := hF.levels _ List.mem_cons_self
    have hg := Agenda.queueing_ne id fb a
    exact hF.advance [] rfl rfl (fun _ _ => rfl)
      ⟨hl.fanouts, hl.reclaims, hl.ending.agenda hg fun hnil => hnil⟩ rfl hmade
      fun hop hswap => absurd (hl.ending.of_swap_eq_none hop hswap).1 hg
  | @drain s c result reports ls fbs h hreads =>
    have hl := hF.levels _ List.mem_cons_self
    obtain ⟨hop, hswap, -⟩ := hl.ending
    have hother : ¬∃ r, c.op = .swap r := not_exists.2 hop
    exact hF.advance [] rfl rfl (fun _ _ => rfl)
      ⟨hl.fanouts, hl.reclaims, ⟨hop, hswap⟩, rfl, fun h => absurd h hother⟩ rfl hmade
      fun h => absurd h hother
  | @call s op e ls fbs h hcall htop hop =>
    refine hF.push htop ?_ rfl fun _ => rfl
    cases hop with
    | swap r => exact ⟨List.forall_mem_nil _, List.forall_mem_nil _, rfl, rfl, rfl, rfl⟩
    | drain =>
      have hop : ∀ r, Operation.drain ≠ .swap r := fun _ hop => by cases hop
      exact ⟨List.forall_mem_nil _, List.forall_mem_nil _, hop, rfl, rfl⟩
    | disable => exact Level.agrees_done (fun _ hop => by cases hop) rfl rfl
    | enable => exact Level.agrees_done (fun _ hop => by cases hop) rfl rfl
  | @disable s crtc i ls fbs h hcall htop =>
    have hop : ∀ r, Operation.disable crtc ≠ .swap r := fun _ hop => by cases hop
    exact hF.push htop (Level.agrees_done hop rfl rfl) rfl fun hr => absurd hr (not_exists.2 hop)
  | @enable s crtc i ls fbs h hcall htop =>
    have hop : ∀ r, Operation.enable crtc ≠ .swap r := fun _ hop => by cases hop
    exact hF.push htop (Level.agrees_done hop rfl rfl) rfl fun hr => absurd hr (not_exists.2 hop)
  | finish => exact hF.pop (hF.levels _ List.mem_cons_self).ending.1
  | reorder htop => exact hF.reorder htop rfl hmade

end Filed

/-- At first there are neither calls nor swaps. -/
theorem filed_new (pipes : List Pipe) (slots : List Framebuffer) (config : Config) :
    Filed (Course.new pipes slots config).scene where
  levels := fun l hl => by cases hl
  returned := fun _ _ _ hmem => by cases hmem
  made := fun _ hmem => by cases hmem
  brought := .refl _
  untouched := fun l hl => by cases hl
  beneath := fun l hl => by cases hl

end PageFlip
