import PageFlip.Proofs.Drains

/-!
# A failed swap leaves nothing but its drains

If a swap that a client called for while nothing was carried out returns an error, the screen is as
it would be after the drains alone that the swap made: the slots, the pipes, the tokens and the
barriers of all other swaps. The swap itself is settled, its framebuffer was given up and its client
was told once that it was aborted (`Course.failed_swap_undone`). If not even the framebuffer could
be imported, nothing changed at all.

A pipe that is disabled hands out its pending events in no specified order, and a handler may do
other things when it runs before another one. So the drains alone lead to the same screen if they
hand out the events of the other swaps in the same order: each `Act.reorder` of the failing run is
one of its drains, without the token of the swap itself. The failing run may have any orders.
-/

namespace PageFlip

namespace Conduct

/-- Handlers of other swaps than `own` may enable and disable pipes, and no one else calls. The
device imports buffers as framebuffers, and the channel only reports flips that it has accepted. -/
def bystanding (own : SwapId) : Conduct where
  calls := fun m op => op.switches && m.agenda.reclaims.head?.any fun e => e.1 != own
  imports := fun _ fb => !fb.isNone
  reads := honest.reads

/-- With this conduct only handlers of other swaps call, and only to switch pipes. -/
theorem modest_bystanding (own : SwapId) : (bystanding own).Modest own := by
  intro m op hcalls
  obtain ⟨hop, htop⟩ := (Bool.and_eq_true _ _).mp hcalls
  refine ⟨hop, ?_⟩
  obtain ⟨e, he, hne⟩ := Option.any_eq_true _ _ |>.1 htop
  exact ⟨e, he, bne_iff_ne.1 hne⟩

end Conduct

/-- Whether the act only brings the pending tokens into another order. -/
def Act.isReorder : Act → Bool
  | .reorder _ => true
  | _ => false

namespace Screen.FreeOf

variable {s : Screen} {own : SwapId} {table : Table Token (Pending Event)}

/-- The swap has nothing pending in any order. -/
theorem reorder (h : s.FreeOf own) (htable : table.entries.Perm s.registry.pending.entries) :
    Screen.FreeOf (s.setRegistry (s.registry.reorder table)) own :=
  fun t p hp => h t p ((Registry.find?_reorder htable t).symm.trans hp)

/-- Where no token is pending for the swap, the order is that of the other swaps. -/
theorem drains_reorder (h : s.FreeOf own)
    (htable : table.entries.Perm s.registry.pending.entries) :
    (Act.reorder table).drains own = [.reorder table] := by
  have hkeep : (table.keep fun _ p => !p.event.isOf own) = table := by
    refine Table.ext (List.filter_eq_self.2 fun e he => ?_)
    have hother := h e.1 e.2 (Table.find?_eq_some_iff.2 (htable.subset he))
    simp only [hother, Bool.not_false]
  rw [Act.drains, hkeep]

end Screen.FreeOf

namespace Course

/-- How far a swap that fails has come after some acts, told by the course of its drains from `c`
on. -/
inductive Stage (own : SwapId) (w : Swap) (c : Course) (acts : List Act) (d : Course) : Prop
  | tracks {e : Course} (hplay : c.play .free (acts.flatMap (Act.drains own)) = some e)
      (h : d.Tracks own w e)
  | destroys {body : List Act} {e : Course} {next : Task}
      (hacts : acts = body ++ [.answer .returned])
      (hplay : c.play .free (body.flatMap (Act.drains own)) = some e) (hidle : e.isIdle = true)
      (h : d.Undoes own w e) (hfree : d.session.screen.FreeOf own)
      (hwaits : d.session.waits = [.destroying w.barrier.newFb next]) (hnext : next.Closes)
  | undone {body last : List Act} {e : Course} {result : Except DeviceError Unit}
      (hacts : acts = body ++ .answer .returned :: .answer (.destroyed result) :: last)
      (hlast : ∀ act ∈ last, act.isReorder = true)
      (hplay : c.play .free ((body ++ last).flatMap (Act.drains own)) = some e)
      (hidle : e.isIdle = true) (h : d.Undoes own w e) (hfree : d.session.screen.FreeOf own)
      (hwaits : d.session.waits = [])

variable {own : SwapId} {w : Swap} {c d d' e : Course} {act : Act} {acts more : List Act}
  {conduct : Conduct}

/-- Once nothing is carried out nobody calls. Only the order of the pending tokens may change. -/
theorem reorder_of_step {s : Screen} {calls : List Call} {fbs : List Framebuffer}
    {h : List Happening} (hmodest : conduct.Modest own)
    (hstep : (mk ⟨s, [], none⟩ calls fbs h).step conduct act = some d') :
    ∃ table, act = .reorder table ∧ table.entries.Perm s.registry.pending.entries ∧
      d' = mk ⟨s.setRegistry (s.registry.reorder table), [], none⟩ calls fbs h := by
  cases act with
  | call op =>
    obtain ⟨-, -, hcalls, -⟩ := of_step_call hstep
    obtain ⟨-, e, he, -⟩ := hmodest _ _ hcalls
    cases he
  | answer a => cases hstep
  | reorder table =>
    obtain ⟨-, htable, rfl⟩ := of_step_reorder hstep
    exact ⟨table, rfl, htable, rfl⟩

/-- From the same screen on, the same orders lead to the same session where no token is pending for
the swap. -/
theorem reorders_of_play {s : Screen} {calls calls' : List Call} {fbs fbs' : List Framebuffer}
    {h h' : List Happening} (hmodest : conduct.Modest own) (hfree : s.FreeOf own)
    (hplay : (mk ⟨s, [], none⟩ calls fbs h).play conduct more = some d) :
    (∀ act ∈ more, act.isReorder = true) ∧ d.framebuffers = fbs ∧ d.history = h ∧
      ∃ e, (mk ⟨s, [], none⟩ calls' fbs' h').play .free (more.flatMap (Act.drains own)) = some e ∧
        e.session = d.session := by
  induction more generalizing s with
  | nil =>
    obtain rfl := Option.some.inj hplay
    exact ⟨fun _ => nofun, rfl, rfl, _, rfl, rfl⟩
  | cons act more ih =>
    obtain ⟨b, hstep, hrest⟩ := Option.bind_eq_some_iff.1 hplay
    obtain ⟨table, rfl, htable, rfl⟩ := reorder_of_step hmodest hstep
    obtain ⟨hmore, hfbs, hhistory, e, he, hsession⟩ := ih (hfree.reorder htable) hrest
    refine ⟨List.forall_mem_cons.2 ⟨rfl, hmore⟩, hfbs, hhistory, e, ?_, hsession⟩
    rw [List.flatMap_cons, hfree.drains_reorder htable, List.singleton_append, play,
      step_reorder rfl htable]
    exact he

/-- The device gives up the framebuffer of the aborted swap, and the swap returns. -/
theorem Stage.of_destroys {body : List Act} {e : Course} {next : Task} (hsound : d.Sound)
    (hacts : acts = body ++ [.answer .returned])
    (hplay : c.play .free (body.flatMap (Act.drains own)) = some e) (hidle : e.isIdle = true)
    (h : d.Undoes own w e) (hfree : d.session.screen.FreeOf own)
    (hwaits : d.session.waits = [.destroying w.barrier.newFb next]) (hnext : next.Closes)
    (hstep : d.step conduct act = some d') : Stage own w c (acts ++ [act]) d' := by
  obtain ⟨⟨s, ws, violation⟩, calls, fbs, hist⟩ := d
  obtain rfl : violation = none := hsound.session.unbroken
  obtain rfl : ws = [_] := hwaits
  obtain ⟨call, rfl⟩ : ∃ call, calls = [call] := List.length_eq_one_iff.1 hsound.length
  -- Nobody calls while the device is asked, and its answer ends the operation.
  cases act with
  | call op =>
    obtain ⟨-, htop, -⟩ := of_step_call hstep
    cases htop
  | answer a =>
    obtain ⟨_, _, _, _, p, ⟨⟩, ⟨⟩, -, hresume, rfl⟩ := of_step_answer hstep
    cases a with
    | destroyed result =>
      obtain ⟨outcome, hscreen, hrest, htrace⟩ := hnext.runs s
      obtain ⟨notices, rfl⟩ : ∃ notices, p = s.work notices next := by
        cases result with
        | ok => exact ⟨_, (Option.some.inj hresume).symm⟩
        | error error => exact ⟨_, (Option.some.inj hresume).symm⟩
      have hover : acts ++ [.answer (.destroyed result)] =
          body ++ [.answer .returned, .answer (.destroyed result)] := by
        rw [hacts, List.append_assoc]
        rfl
      have hplay' : c.play .free ((body ++ []).flatMap (Act.drains own)) = some e := by
        rwa [List.append_nil]
      refine .undone hover (fun _ => nofun) hplay' hidle ⟨?_, ?_, ?_⟩ ?_ ?_
      · rw [screen_resting]
        exact hscreen.symm ▸ h.screen
      · exact framebuffers_resting.trans h.framebuffers
      · have hnothing : Screen.traceOf (s.work notices next) = [] := htrace
        rw [doings_resting, hnothing]
        exact h.history
      · rw [screen_resting]
        exact hscreen.symm ▸ hfree
      · have hfinished : (Screen.proceed (s.work notices next)).next = _ := hrest
        rw [waits_resting, hfinished]
        rfl
    | _ => cases hresume
  | reorder table =>
    obtain ⟨htop, -, -⟩ := of_step_reorder hstep
    cases htop

/-- Once the swap has returned, only the order of the pending tokens changes, and the drains end
with the same one. -/
theorem Stage.of_undone {body last : List Act} {e : Course} {result : Except DeviceError Unit}
    (hsound : d.Sound) (hmodest : conduct.Modest own)
    (hacts : acts = body ++ .answer .returned :: .answer (.destroyed result) :: last)
    (hlast : ∀ act ∈ last, act.isReorder = true)
    (hplay : c.play .free ((body ++ last).flatMap (Act.drains own)) = some e)
    (hidle : e.isIdle = true) (h : d.Undoes own w e) (hfree : d.session.screen.FreeOf own)
    (hwaits : d.session.waits = []) (hstep : d.step conduct act = some d') :
    Stage own w c (acts ++ [act]) d' := by
  obtain ⟨⟨s, ws, violation⟩, calls, fbs, hist⟩ := d
  obtain rfl : violation = none := hsound.session.unbroken
  obtain rfl : ws = [] := hwaits
  obtain ⟨table, rfl, htable, rfl⟩ := reorder_of_step hmodest hstep
  obtain ⟨⟨u, us, violation⟩, ucalls, ufbs, uh⟩ := e
  obtain ⟨hempty, hunbroken'⟩ := (Bool.and_eq_true _ _).mp hidle
  obtain rfl : us = [] := List.isEmpty_iff.1 hempty
  obtain rfl : violation = none := Option.isNone_iff_eq_none.1 hunbroken'
  have htable' : table.entries.Perm u.registry.pending.entries := h.screen.pending ▸ htable
  have hscreen := h.screen
  have hover : acts ++ [.reorder table] =
      body ++ .answer .returned :: .answer (.destroyed result) :: (last ++ [.reorder table]) := by
    rw [hacts, List.append_assoc]
    rfl
  refine .undone (e := mk ⟨u.setRegistry (u.registry.reorder table), [], none⟩ ucalls ufbs uh)
    hover ?_ ?_ rfl ⟨⟨hscreen.pipes, hscreen.slots, hscreen.config, hscreen.max, rfl,
      hscreen.retired, hscreen.swaps⟩, h.framebuffers, h.history⟩ (hfree.reorder htable) rfl
  · rw [List.forall_mem_append]
    exact ⟨hlast, List.forall_mem_singleton.2 rfl⟩
  · rw [← List.append_assoc, List.flatMap_append, play_append, hplay, List.flatMap_singleton,
      hfree.drains_reorder htable]
    exact play_one (step_reorder rfl htable')

/-- An act of the failing run leads to the next stage: a drain goes on in both courses, the handler
of the aborted swap returns, the device gives up its framebuffer, and from then on only the order of
the tokens changes. -/
theorem Stage.step (h : Stage own w c acts d) (hsound : d.Sound) (htruthful : conduct.Truthful)
    (hmodest : conduct.Modest own) (hfb : w.barrier.newFb.isNone = false)
    (hstep : d.step conduct act = some d') (hunbroken : d'.session.violation = none)
    (haccepted : ∀ f, .accepted own f ∉ d'.history) : Stage own w c (acts ++ [act]) d' := by
  cases h with
  | @tracks e hplay h =>
    rcases h.step hsound htruthful hmodest hfb hstep hunbroken haccepted with
      ⟨e', he', h'⟩ | ⟨rfl, hidle, h', hfree, next, hwaits, hnext⟩
    · refine .tracks ?_ h'
      rw [List.flatMap_append, play_append, hplay, List.flatMap_singleton]
      exact he'
    · exact .destroys rfl hplay hidle h' hfree hwaits hnext
  | destroys hacts hplay hidle h hfree hwaits hnext =>
    exact .of_destroys hsound hacts hplay hidle h hfree hwaits hnext hstep
  | undone hacts hlast hplay hidle h hfree hwaits =>
    exact .of_undone hsound hmodest hacts hlast hplay hidle h hfree hwaits hstep

/-- What happened remains. -/
theorem exists_history_of_step (hstep : d.step conduct act = some d') :
    ∃ hs, d'.history = hs ++ d.history := by
  have hresting : ∀ {call calls fbs h s waits} {r : Rest},
      ∃ hs, (resting call calls fbs h s waits r).history = hs ++ h := by
    intro call calls fbs h s waits r
    cases r with
    | finished outcome => exact ⟨[_], rfl⟩
    | _ => exact ⟨[], rfl⟩
  cases act with
  | call op =>
    obtain ⟨-, -, -, rfl⟩ := of_step_call hstep
    obtain ⟨hs, hhs⟩ := hresting
    exact ⟨_, hhs.trans (List.append_assoc _ _ _).symm⟩
  | answer a =>
    obtain ⟨wait, waits, call, calls, p, -, -, -, -, rfl⟩ := of_step_answer hstep
    obtain ⟨hs, hhs⟩ := hresting
    rw [hhs, ← List.append_assoc, ← List.append_assoc]
    exact ⟨_, rfl⟩
  | reorder table =>
    obtain ⟨-, -, rfl⟩ := of_step_reorder hstep
    exact ⟨[], rfl⟩

/-- What holds of the end of a row of acts held of its start: no rule was broken, and no more had
happened. -/
theorem of_play (hplay : d.play conduct acts = some d') :
    (d'.session.violation = none → d.session.violation = none) ∧
      ∃ hs, d'.history = hs ++ d.history := by
  refine play_induct (P := fun e => (e.session.violation = none → d.session.violation = none) ∧
    ∃ hs, e.history = hs ++ d.history) ?_ ⟨id, [], rfl⟩ hplay
  intro e e' act he hstep
  obtain ⟨hs, hhs⟩ := he.2
  obtain ⟨hs', hhs'⟩ := exists_history_of_step hstep
  exact ⟨fun _ => he.1 (unbroken_of_step hstep), hs' ++ hs, by rw [hhs', hhs, List.append_assoc]⟩

/-- A row of acts of the failing run leads from stage to stage. -/
theorem Stage.play (h : Stage own w c acts d) (hsound : d.Sound) (htruthful : conduct.Truthful)
    (hmodest : conduct.Modest own) (hfb : w.barrier.newFb.isNone = false)
    (hplay : d.play conduct more = some d') (hunbroken : d'.session.violation = none)
    (haccepted : ∀ f, .accepted own f ∉ d'.history) : Stage own w c (acts ++ more) d' := by
  induction more generalizing acts d with
  | nil =>
    obtain rfl : d = d' := Option.some.inj hplay
    rwa [List.append_nil]
  | cons act more ih =>
    obtain ⟨e, hstep, hplay⟩ := Option.bind_eq_some_iff.1 hplay
    obtain ⟨hunbroken', hs, hhistory⟩ := of_play hplay
    have hnone : ∀ f, .accepted own f ∉ e.history := fun f hf =>
      haccepted f (hhistory ▸ List.mem_append_right _ hf)
    have hstage := h.step hsound htruthful hmodest hfb hstep (hunbroken' hunbroken) hnone
    have hsound' := (passage_of_step hsound hstep (hunbroken' hunbroken)).2
    have hall := ih hstage hsound' hplay
    rwa [List.append_assoc] at hall

/-! ## The call of the swap -/

/-- The call of the swap is unfinished and lies below all others, or it was the last one to
return. -/
def Owns (own : SwapId) (d : Course) : Prop :=
  ∃ call : Call, call.swap = some own ∧
    ((∃ calls, d.calls = calls ++ [call]) ∨
      d.calls = [] ∧ ∃ outcome left h, d.history = .returned call outcome left :: h)

/-- Where the operation comes to rest, its call is the one of the swap. -/
theorem owns_resting {fbs : List Framebuffer} {h : List Happening} {s : Screen}
    {waits : List Wait} {rest : Rest} {call : Call} (hswap : call.swap = some own) :
    Owns own (resting call [] fbs h s waits rest) := by
  refine ⟨call, hswap, ?_⟩
  cases rest with
  | finished outcome => exact .inr ⟨rfl, _, _, _, rfl⟩
  | _ => exact .inl ⟨[], rfl⟩

/-- No act lets another call begin below that of the swap, or after it. -/
theorem Owns.step (h : Owns own d) (hsound : d.Sound) (hfaithful : d.scene.Faithful)
    (hmodest : conduct.Modest own) (hstep : d.step conduct act = some d') : Owns own d' := by
  obtain ⟨⟨s, ws, violation⟩, calls, fbs, hist⟩ := d
  obtain rfl : violation = none := hsound.session.unbroken
  obtain ⟨call, hswap, ⟨calls, rfl⟩ | ⟨rfl, hlast⟩⟩ := h
  · cases act with
    | call op =>
      obtain ⟨-, -, -, rfl⟩ := of_step_call hstep
      refine ⟨call, hswap, .inl ?_⟩
      cases (Screen.proceed (s.start op)).next with
      | finished outcome => exact ⟨calls, rfl⟩
      | _ => exact ⟨_ :: calls, rfl⟩
    | answer a =>
      cases ws with
      | nil => cases calls <;> cases hsound.length
      | cons x ws =>
        cases calls with
        | nil =>
          obtain ⟨_, _, _, _, p, ⟨⟩, ⟨⟩, -, -, rfl⟩ := of_step_answer hstep
          -- Its framebuffer was imported before.
          have hear : (call.hear s x a).swap = some own := by
            have hlevel := (hfaithful.filed.levels (x.level call) List.mem_cons_self).ending
            unfold Call.hear
            split
            · cases hswap.symm.trans hlevel.2.2.1
            · exact hswap
          exact owns_resting hear
        | cons top calls =>
          obtain ⟨_, _, _, _, p, ⟨⟩, ⟨⟩, -, -, rfl⟩ := of_step_answer hstep
          refine ⟨call, hswap, .inl ?_⟩
          cases (Screen.proceed p).next with
          | finished outcome => exact ⟨calls, rfl⟩
          | _ => exact ⟨_ :: calls, rfl⟩
    | reorder table =>
      obtain ⟨-, -, rfl⟩ := of_step_reorder hstep
      exact ⟨call, hswap, .inl ⟨calls, rfl⟩⟩
  · obtain rfl : ws = [] := List.length_eq_zero_iff.1 hsound.length.symm
    obtain ⟨table, -, -, rfl⟩ := reorder_of_step hmodest hstep
    exact ⟨call, hswap, .inr ⟨rfl, hlast⟩⟩

/-- An act leaves the course sound and faithful. -/
theorem faithful_of_step (hsound : d.Sound) (hfaithful : d.scene.Faithful)
    (htruthful : conduct.Truthful) (hstep : d.step conduct act = some d')
    (hunbroken : d'.session.violation = none) : d'.Sound ∧ d'.scene.Faithful := by
  obtain ⟨hpassage, hsound'⟩ := passage_of_step hsound hstep hunbroken
  exact ⟨hsound', hpassage.keeps (fun m m' hA hm hd => hm.deed htruthful hA hd) hsound.accounted
    hfaithful⟩

/-- Neither does a row of acts. -/
theorem Owns.play (h : Owns own d) (hsound : d.Sound) (hfaithful : d.scene.Faithful)
    (htruthful : conduct.Truthful) (hmodest : conduct.Modest own)
    (hplay : d.play conduct acts = some d') (hunbroken : d'.session.violation = none) :
    Owns own d' ∧ d'.Sound ∧ d'.scene.Faithful := by
  refine play_induct (P := fun e => e.session.violation = none →
    Owns own e ∧ e.Sound ∧ e.scene.Faithful) ?_ (fun _ => ⟨h, hsound, hfaithful⟩) hplay hunbroken
  intro e e' act he hstep hunbroken'
  obtain ⟨howns, hsound, hfaithful⟩ := he (unbroken_of_step hstep)
  exact ⟨howns.step hsound hfaithful hmodest hstep,
    faithful_of_step hsound hfaithful htruthful hstep hunbroken'⟩

/-! ## The swap as a whole -/

/-- While nothing is carried out, every swap that has no outcome has an accepted flip. -/
theorem effective_of_idle (hsound : d.Sound) (hfaithful : d.scene.Faithful)
    (hwaits : d.session.waits = []) : ∀ x ∈ d.session.screen.swaps, x.Effective := by
  intro x hx t ht
  obtain ⟨id, hid⟩ := List.getElem?_of_mem hx
  have hagenda : d.scene.agenda = {} := by
    rw [Scene.agenda, scene, hwaits]
    rfl
  have hreleased : id ∉ d.scene.agenda.unreleased := by
    rw [hagenda]
    exact List.not_mem_nil
  have hopen : x.barrier.isFinal = false := by
    rw [Barrier.isFinal, ht]
    rfl
  have haccepted := hfaithful.sources.accepted hsound.accounted hid hopen hreleased
  exact ((hfaithful.chronicled.story hid).of_tally ht).1.trans haccepted

section Launch

variable {s : Screen} {fbs : List Framebuffer} {h : List Happening}

/-- With its framebuffer imported, a swap sets out beside the course that it started from. -/
theorem tracks_of_launch (call : Call) (hsound : (mk ⟨s, [], none⟩ [] fbs h).Sound)
    (hfaithful : (mk ⟨s, [], none⟩ [] fbs h).scene.Faithful) (prep : Preparation)
    (hprep : prep.displaced = s.held prep.slot) (fb : Framebuffer) :
    (resting call [] (fb :: fbs) (Screen.traceOf (s.launch prep fb) ++ h)
      (Screen.proceed (s.launch prep fb)).screen []
      (Screen.proceed (s.launch prep fb)).next).Tracks s.swaps.length
      ⟨.new fb prep.displaced, prep.slot, prep.request.client⟩ (mk ⟨s, [], none⟩ [] fbs h) := by
  have hA : Accounted s {} := hsound.accounted
  have hb : Beside s.swaps.length
      (Swap.holding ⟨.new fb prep.displaced, prep.slot, prep.request.client⟩ 1) none
      ((s.assign prep.slot fb).addSwap
        ⟨.new fb prep.displaced, prep.slot, prep.request.client⟩).2 s :=
    { pipes := rfl
      config := rfl
      slots := rfl
      displaced := hprep.symm
      length := rfl
      swaps := rfl
      registry := .refl _
      own := fun t p hp => iff_of_false (Bool.eq_false_iff.1 (hA.freeOf_length t p hp)) nofun
      apart := nofun
      effective := effective_of_idle hsound hfaithful rfl }
  exact tracks_of_alone [] (hb.alone_fan rfl rfl rfl (hA.launch prep fb)) rfl rfl rfl rfl rfl

end Launch

section Failed

variable {pipes : List Pipe} {slots : List Framebuffer} {config : Config} {b : Course}
  {before : List Act} {r : SwapRequest} {call : Call} {error : SwapError} {left : Screen}
  {earlier : List Happening}

/-- What was accepted of a swap that failed: nothing. -/
theorem not_accepted_of_owns (hfaithful : d.scene.Faithful) (howns : Owns own d)
    (hsound : d.Sound) (hwaits : d.session.waits = [])
    (hreturned : d.history = .returned call (.swapped (.error error)) left :: earlier) :
    (∀ f, .accepted own f ∉ d.history) ∧ ∀ x, error ≠ .importFramebuffer x := by
  obtain ⟨call', hswap, ⟨calls, hcalls⟩ | ⟨-, outcome, left', earlier', hhistory⟩⟩ := howns
  · have hlength := hsound.length
    rw [hcalls, hwaits, List.length_append] at hlength
    cases hlength
  · cases hreturned.symm.trans hhistory
    have hmem : .returned call (.swapped (.error error)) left ∈ d.history :=
      hreturned ▸ List.mem_cons_self
    rcases hfaithful.of_returned hmem with ⟨hnone, -⟩ | ⟨r, id, w, -, hid, -, -, -, -, haccepted,
      hne⟩
    · cases hswap.symm.trans hnone
    · obtain rfl := Option.some.inj (hswap.symm.trans hid)
      refine ⟨fun f hf => ?_, hne⟩
      cases (accepted_recordOf_iff.2 ⟨f, hf⟩).symm.trans haccepted

/-- What follows on the call for a swap is the answer to its import. -/
theorem exists_import {s : Screen} {calls : List Call} {fbs : List Framebuffer} {h : List Happening}
    {prep : Preparation}
    (hplay : (mk ⟨s, [.importing prep], none⟩ calls fbs h).play conduct acts = some d)
    (hover : d.isIdle = true) : ∃ result more b, acts = .answer (.imported result) :: more ∧
      (mk ⟨s, [.importing prep], none⟩ calls fbs h).step conduct (.answer (.imported result)) =
        some b ∧ b.play conduct more = some d := by
  cases acts with
  | nil =>
    obtain rfl := Option.some.inj hplay
    cases hover
  | cons act more =>
    obtain ⟨b, hstep, hrest⟩ := Option.bind_eq_some_iff.1 hplay
    cases act with
    | call op =>
      obtain ⟨-, htop, -⟩ := of_step_call hstep
      cases htop
    | answer a =>
      obtain ⟨_, _, _, _, p, ⟨⟩, -, -, hresume, -⟩ := of_step_answer hstep
      cases a with
      | imported result => exact ⟨result, more, b, rfl, hstep, hrest⟩
      | _ => cases hresume
    | reorder table =>
      obtain ⟨htop, -, -⟩ := of_step_reorder hstep
      cases htop

/-- With its framebuffer imported, a swap that returns an error leaves nothing but its drains. -/
theorem undone_of_launch {s : Screen} {fbs : List Framebuffer} {h : List Happening} {call' : Call}
    {prep : Preparation} {fb : Framebuffer} (hconduct : conduct.Truthful)
    (hmodest : conduct.Modest s.swaps.length) (hsound : (mk ⟨s, [], none⟩ [] fbs h).Sound)
    (hfaithful : (mk ⟨s, [], none⟩ [] fbs h).scene.Faithful)
    (hprep : prep.displaced = s.held prep.slot) (hfb : fb.isNone = false)
    (hb : b = resting call' [] (fb :: fbs) (Screen.traceOf (s.launch prep fb) ++ h)
      (Screen.proceed (s.launch prep fb)).screen [] (Screen.proceed (s.launch prep fb)).next)
    (hswap : call'.swap = some s.swaps.length) (hsound' : b.Sound)
    (hfaithful' : b.scene.Faithful) (hplay : b.play conduct acts = some d)
    (hover : d.isIdle = true)
    (hreturned : d.history = .returned call (.swapped (.error error)) left :: earlier) :
    (∀ x, error ≠ .importFramebuffer x) ∧ ∃ body result last e,
      acts = body ++ .answer .returned :: .answer (.destroyed result) :: last ∧
      (∀ act ∈ last, act.isReorder = true) ∧
      (mk ⟨s, [], none⟩ [] fbs h).play .free
        ((body ++ last).flatMap (Act.drains s.swaps.length)) = some e ∧ e.isIdle = true ∧
      d.Undoes s.swaps.length ⟨.new fb prep.displaced, prep.slot, prep.request.client⟩ e := by
  obtain ⟨hwaits, hunbroken⟩ := (Bool.and_eq_true _ _).mp hover
  have hwaits : d.session.waits = [] := List.isEmpty_iff.1 hwaits
  have hunbroken := Option.isNone_iff_eq_none.1 hunbroken
  have htracks := tracks_of_launch call' hsound hfaithful prep hprep fb
  rw [← hb] at htracks
  have howns : Owns s.swaps.length b := hb ▸ owns_resting hswap
  -- No flip of it was accepted, for it returns an error.
  obtain ⟨howns, hsound₂, hfaithful₂⟩ :=
    howns.play hsound' hfaithful' hconduct hmodest hplay hunbroken
  obtain ⟨haccepted, hne⟩ := not_accepted_of_owns hfaithful₂ howns hsound₂ hwaits hreturned
  refine ⟨hne, ?_⟩
  have hstart : Stage s.swaps.length _ (mk ⟨s, [], none⟩ [] fbs h) [] b := .tracks rfl htracks
  cases hstart.play hsound' hconduct hmodest hfb hplay hunbroken haccepted with
  | tracks _ h => exact absurd hwaits h.waits_ne_nil
  | destroys _ _ _ _ _ hwaits' =>
    rw [hwaits] at hwaits'
    cases hwaits'
  | undone hacts hlast hdrains hidle h => exact ⟨_, _, _, _, hacts, hlast, hdrains, hidle, h⟩

/-- While the numbers of tokens do not run out, the channel keeps off the flips that are being
queued, before the swap and in it. -/
theorem plays_apart (hbefore : (new pipes slots config).play .honest before = some c)
    (hcall : c.step .honest (.call (.swap r)) = some b)
    (hplay : b.play (.bystanding own) acts = some d) (hover : d.isIdle = true)
    (hlength : before.length + acts.length + 3 < UInt32.size) :
    (new pipes slots config).play Conduct.honest.apart before = some c ∧
      b.play (Conduct.bystanding own).apart acts = some d := by
  have hunbroken : b.session.violation = none :=
    (of_play hplay).1 (Option.isNone_iff_eq_none.1 ((Bool.and_eq_true _ _).mp hover).2)
  have hplay' : (new pipes slots config).play .honest (before ++ [.call (.swap r)]) = some b := by
    rw [play_append, hbefore]
    exact play_one hcall
  have hnext : (new pipes slots config).session.screen.registry.next.toNat = 1 := rfl
  obtain ⟨hapart, hnumbered⟩ := numbered_of_play Conduct.tellsAccepted_honest (sound_new _ _ _)
    (Scene.isNumbered_new _ _ _) (by rw [hnext, List.length_append, List.length_singleton]; omega)
    hplay'
  obtain ⟨hb, hlast⟩ := hnumbered hunbroken
  obtain ⟨c', hc', -⟩ := exists_of_play_concat hapart
  obtain rfl : c' = c := Option.some.inj ((play_of_apart hc').symm.trans hbefore)
  obtain ⟨hsound, -⟩ := faithful (Conduct.truthful_apart _) hapart hunbroken
  rw [hnext, List.length_append, List.length_singleton] at hlast
  have htells : (Conduct.bystanding own).TellsAccepted := Conduct.tellsAccepted_honest
  exact ⟨hc', (numbered_of_play htells hsound hb (by omega) hplay).1⟩

/-- If a swap that a client calls for while nothing is carried out returns an error, only its drains
matter. If the channel only reports flips that it has accepted and the handlers of other swaps at
most enable or disable pipes, then the same drains, with the same batches of reports and the same
calls of handlers, lead from the same start to the same screen without the swap. The events that
disabled pipes hand out may be in any order in the failing run; in the drains those of the other
swaps are in the same one. The swap itself is settled: one framebuffer was imported and given up,
and its client was told once that it was aborted. If no framebuffer could be imported, nothing
changed but perhaps the order. -/
theorem failed_swap_undone (hbefore : (new pipes slots config).play .honest before = some c)
    (hidle : c.isIdle = true) (hcall : c.step .honest (.call (.swap r)) = some b)
    (hplay : b.play (.bystanding c.session.screen.swaps.length) acts = some d)
    (hapart : before.length + acts.length + 3 < UInt32.size ∨
      (new pipes slots config).play Conduct.honest.apart before = some c ∧
        b.play (Conduct.bystanding c.session.screen.swaps.length).apart acts = some d)
    (hover : d.isIdle = true)
    (hreturned : d.history = .returned call (.swapped (.error error)) left :: earlier) :
    (∃ x last e, error = .importFramebuffer x ∧ acts = .answer (.imported (.error x)) :: last ∧
      (∀ act ∈ last, act.isReorder = true) ∧
      c.play .free (last.flatMap (Act.drains c.session.screen.swaps.length)) = some e ∧
      d.session = e.session ∧ d.framebuffers = c.framebuffers ∧ earlier = c.history) ∨
    ∃ fb body result last e, (∀ x, error ≠ .importFramebuffer x) ∧
      acts = .answer (.imported (.ok fb)) ::
        (body ++ .answer .returned :: .answer (.destroyed result) :: last) ∧
      (∀ act ∈ last, act.isReorder = true) ∧
      c.play .free ((body ++ last).flatMap (Act.drains c.session.screen.swaps.length)) = some e ∧
      e.isIdle = true ∧
      d.Undoes c.session.screen.swaps.length
        ⟨.new fb (c.session.screen.prepare r).displaced, (c.session.screen.prepare r).slot,
          r.client⟩ e := by
  have htruthful : (new pipes slots config).play Conduct.honest.apart before = some c ∧
      b.play (Conduct.bystanding c.session.screen.swaps.length).apart acts = some d :=
    hapart.elim (fun hlength => plays_apart hbefore hcall hplay hover hlength) id
  obtain ⟨hbefore, hplay⟩ := htruthful
  have hcall : c.step Conduct.honest.apart (.call (.swap r)) = some b := hcall
  have hmodest : (Conduct.bystanding c.session.screen.swaps.length).apart.Modest
      c.session.screen.swaps.length := Conduct.modest_bystanding _
  clear hapart
  obtain ⟨hwaits, hunbroken⟩ := (Bool.and_eq_true _ _).mp hidle
  have hunbroken := Option.isNone_iff_eq_none.1 hunbroken
  have hunbroken' := Option.isNone_iff_eq_none.1 ((Bool.and_eq_true _ _).mp hover).2
  obtain ⟨hsound, hfaithful, -⟩ := faithful (Conduct.truthful_apart _) hbefore hunbroken
  obtain ⟨⟨s, ws, violation⟩, calls, fbs, h⟩ := c
  obtain rfl : violation = none := hunbroken
  obtain rfl : ws = [] := List.isEmpty_iff.1 hwaits
  obtain rfl : calls = [] := List.length_eq_zero_iff.1 hsound.length
  obtain ⟨-, -, -, rfl⟩ := of_step_call hcall
  obtain ⟨result, more, b, rfl, hstep, hrest⟩ := exists_import hplay hover
  obtain ⟨_, _, _, _, p, ⟨⟩, ⟨⟩, hallows, hresume, hb⟩ := of_step_answer hstep
  cases result with
  | error x =>
    -- The swap has returned, and nobody calls after that.
    left
    obtain rfl := Option.some.inj hresume
    subst hb
    have hA : Accounted s {} := hsound.accounted
    obtain ⟨hmore, hfbs, hhistory, e, he, hsession⟩ :=
      reorders_of_play hmodest hA.freeOf_length hrest
    cases hreturned.symm.trans hhistory
    exact ⟨x, more, e, rfl, rfl, hmore, he, hsession.symm, hfbs, rfl⟩
  | ok fb =>
    right
    obtain rfl : s.launch (s.prepare r) fb = p := Option.some.inj hresume
    have hfb : fb.isNone = false := (Bool.not_eq_true' _).mp hallows
    obtain ⟨hsound₁, hfaithful₁⟩ :=
      faithful_of_step hsound hfaithful (Conduct.truthful_apart _) hcall rfl
    obtain ⟨hsound₂, hfaithful₂⟩ := faithful_of_step hsound₁ hfaithful₁
      (Conduct.truthful_apart _) hstep ((of_play hrest).1 hunbroken')
    obtain ⟨hne, body, result, last, e, hacts, hlast, hdrains, he, hundoes⟩ :=
      undone_of_launch (Conduct.truthful_apart _) hmodest hsound hfaithful rfl hfb hb rfl hsound₂
        hfaithful₂ hrest hover hreturned
    exact ⟨fb, body, result, last, e, hne, congrArg (_ :: ·) hacts, hlast, hdrains, he, hundoes⟩

end Failed

/-- The last that happened is that a swap returned an error. -/
def isFailed (c : Course) : Bool :=
  match c.history with
  | .returned _ (.swapped (.error _)) _ :: _ => true
  | _ => false

/-- A course that has just failed ends with the error that a swap returned. -/
theorem of_isFailed (h : d.isFailed = true) :
    ∃ call error left earlier,
      d.history = .returned call (.swapped (.error error)) left :: earlier := by
  unfold isFailed at h
  split at h
  · rename_i hreturned
    exact ⟨_, _, _, _, hreturned⟩
  · cases h

open Sample in
/-- A swap whose flips the channel has accepted. -/
def acceptedSwap : List Act := [swap 0, brings 100, accepts, accepts].filterMap Move.act?

/-- The request of another swap. -/
def anotherSwap : SwapRequest := ⟨.linear 64 64 0 1 256, false, .all, none, 1⟩

open Sample in
/-- The channel is full, so the swap reads it twice. The second report completes the other swap,
whose handler disables the pipe, and the kernel rejects the flip on the other pipe. -/
def disabledThenRejected : List Act :=
  [brings 101, isFull, reads first, isFull, reads second, .call (.disable ⟨31⟩), returns, destroys,
    rejects, returns, destroys].filterMap Move.act?

/-- The swap leaves nothing but its two drains and what the handler did in the second one. -/
theorem disabledThenRejected_undone :
    ∃ c b d, (new Sample.pipes Sample.slots .default).play .honest acceptedSwap = some c ∧
      c.isIdle = true ∧ c.step .honest (.call (.swap anotherSwap)) = some b ∧
      b.play (.bystanding c.session.screen.swaps.length) disabledThenRejected = some d ∧
      acceptedSwap.length + disabledThenRejected.length + 3 < UInt32.size ∧ d.isIdle = true ∧
      (∃ call error left earlier,
        d.history = .returned call (.swapped (.error error)) left :: earlier) ∧
      ∃ fb e, e.isIdle = true ∧ d.Undoes c.session.screen.swaps.length
        ⟨.new fb (c.session.screen.prepare anotherSwap).displaced,
          (c.session.screen.prepare anotherSwap).slot, 1⟩ e := by
  have hlength : acceptedSwap.length + disabledThenRejected.length + 3 < UInt32.size := by decide
  have hruns : (((new Sample.pipes Sample.slots .default).play .honest acceptedSwap).any fun c =>
      c.isIdle && (c.step .honest (.call (.swap anotherSwap))).any fun b =>
        (b.play (.bystanding c.session.screen.swaps.length) disabledThenRejected).any fun d =>
          d.isIdle && d.isFailed) = true := rfl
  obtain ⟨c, hc, hruns⟩ := Option.any_eq_true _ _ |>.1 hruns
  obtain ⟨hidle, hruns⟩ := (Bool.and_eq_true _ _).mp hruns
  obtain ⟨b, hb, hruns⟩ := Option.any_eq_true _ _ |>.1 hruns
  obtain ⟨d, hd, hruns⟩ := Option.any_eq_true _ _ |>.1 hruns
  obtain ⟨hover, hfailed⟩ := (Bool.and_eq_true _ _).mp hruns
  obtain ⟨call, error, left, earlier, hreturned⟩ := of_isFailed hfailed
  refine ⟨c, b, d, hc, hidle, hb, hd, hlength, hover, ⟨call, error, left, earlier, hreturned⟩, ?_⟩
  rcases failed_swap_undone hc hidle hb hd (.inl hlength) hover hreturned with
    ⟨x, last, e, -, hacts, -⟩ | ⟨fb, body, result, last, e, -, -, -, -, he, hundoes⟩
  · cases hacts
  · exact ⟨fb, e, he, hundoes⟩

end Course

end PageFlip
