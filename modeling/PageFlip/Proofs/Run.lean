import PageFlip.Proofs.Step
import PageFlip.Proofs.World

/-!
# What holds of every run

`Evolves` is what one change does to a moment of a world, with the part that the surroundings have
in it, or one move of the channel. Every moment of a run is reached by such changes
(`World.reached_of_play`), so an invariant of `Evolves` holds of it. A run only ends in a violation
by a report on a token that is neither pending nor retired (`World.Reached.stray`).
-/

namespace PageFlip

open Relation (ReflTransGen)

/-- The ledger after a change. -/
def Label.write (m : Moment) : Label → Ledger
  | launched _ fb => m.ledger.bring fb
  | accepted f => m.ledger.accept f (m.undispatched.filter (m.isRetiredOn f.crtc))
  | read reports => m.ledger.read (reports.map Report.token)
  | told id news => m.ledger.tell id news
  | reclaimed id v fb =>
    if fb.isNone then m.ledger.reclaim id v else (m.ledger.reclaim id v).remove fb
  | _ => m.ledger

/-- What a label adds to what the client was told. -/
def Label.news : Label → List (SwapId × News)
  | told id news => [(id, news)]
  | _ => []

/-- Dropping a hold on a swap only concerns the client. -/
theorem Label.write_ofVerdict (m : Moment) (id : SwapId) (client : Client) (v : Option Verdict) :
    (Label.ofVerdict id client v).write m =
      { m.ledger with told := (Label.ofVerdict id client v).news ++ m.ledger.told } := by
  cases v <;> rfl

/-- Where an outcome is told no swap is launched. -/
theorem Label.ofVerdict_ne_launched (id : SwapId) (client : Client) (v : Option Verdict)
    (p : Preparation) (fb : Framebuffer) : Label.ofVerdict id client v ≠ .launched p fb := by
  cases v <;> exact Label.noConfusion

/-- Only a reclaim gives up a framebuffer. -/
theorem Label.write_of_not_reclaimed (m : Moment) {l : Label}
    (h : ∀ id v fb, l ≠ .reclaimed id v fb) :
    (l.write m).reclaimed = m.ledger.reclaimed ∧ (l.write m).removed = m.ledger.removed := by
  cases l with
  | reclaimed id v fb => exact absurd rfl (h id v fb)
  | _ => exact ⟨rfl, rfl⟩

/-- A reclaim only concerns the outcomes and the framebuffers that were given up. -/
theorem Label.write_reclaimed (m : Moment) (id : SwapId) (v : Verdict) (fb : Framebuffer) :
    (Label.reclaimed id v fb).write m =
      { m.ledger with
        reclaimed := (id, v) :: m.ledger.reclaimed
        removed := if fb.isNone then m.ledger.removed else fb :: m.ledger.removed } := by
  rw [Label.write]
  split_ifs
  · rfl
  · rfl

/-- Only a launch brings a framebuffer. -/
theorem Label.write_of_not_launched (m : Moment) {l : Label} (h : ∀ p fb, l ≠ .launched p fb) :
    (l.write m).framebuffers = m.ledger.framebuffers := by
  cases l with
  | launched p fb => exact absurd rfl (h p fb)
  | reclaimed id v fb =>
    rw [Label.write_reclaimed]
  | _ => rfl

/-- What the surroundings abide by in a change from `m` to `m'`. `apart` is what is known of the
moment after a flip was registered. -/
def Label.Allowed (rules : Rules) (apart : Moment → Prop) (m m' : Moment) : Label → Prop
  | registered => apart m'
  | launched p fb =>
    rules.imports m fb = true ∧ p.displaced = m.screen.held p.slot ∧
      (rules.nested = false → m.agenda = {})
  | accepted f => rules.accepts m f = true ∧ m.screen.registry.isPending f.token = true
  | read reports => (reports.map Report.token).Subperm m.ledger.readable
  | disabled => rules.nested = false → m.agenda = {}
  | _ => True

/-- What one change, or one move of the channel, does to a moment. -/
inductive Evolves (rules : Rules) (apart : Moment → Prop) : Moment → Moment → Prop
  | change {s s' : Screen} {g g' : Agenda} {l : Ledger} {label : Label}
      (hc : Change s g label s' g')
      (hl : label.Allowed rules apart ⟨s, g, l⟩ ⟨s', g', label.write ⟨s, g, l⟩⟩) :
      Evolves rules apart ⟨s, g, l⟩ ⟨s', g', label.write ⟨s, g, l⟩⟩
  | report {s : Screen} {g : Agenda} {l : Ledger} {t : Token} (ht : ∃ f ∈ l.flips, f.token = t) :
      Evolves rules apart ⟨s, g, l⟩ ⟨s, g, l.report t⟩
  | lose {s : Screen} {g : Agenda} {l : Ledger} {t : Token} (ht : ∃ f ∈ l.flips, f.token = t) :
      Evolves rules apart ⟨s, g, l⟩ ⟨s, g, l.lose t⟩

/-- Any number of changes and moves of the channel. -/
abbrev Evolution (rules : Rules) (apart : Moment → Prop) : Moment → Moment → Prop :=
  ReflTransGen (Evolves rules apart)

variable {rules : Rules} {apart : Moment → Prop}

/-- What holds at the start and is kept by each change holds in the end. -/
theorem Evolution.keeps {p : Moment → Prop}
    (hstep : ∀ a b, p a → Evolves rules apart a b → p b) {a b : Moment}
    (h : Evolution rules apart a b) (ha : p a) : p b := by
  induction h with
  | refl => exact ha
  | tail _ hb ih => exact hstep _ _ ih hb

/-- What the surroundings do not notice is an evolution with the same ledger. -/
theorem evolution_of_silently {a b : Screen × Agenda} (h : Silently a b) (l : Ledger) :
    Evolution rules apart ⟨a.1, a.2, l⟩ ⟨b.1, b.2, l⟩ := by
  induction h with
  | refl => exact .refl
  | tail _ hc ih => exact ih.tail (.change hc trivial)

/-! ## Sound sessions -/

/-- What is known of the operation on top while it waits. -/
def Wait.Sound (s : Screen) : Wait → Prop
  | importing p => p.displaced = s.held p.slot
  | attempting a => s.registry.isPending a.submission.token = true
  | submitting _ => False
  | reading owner => ∀ a ∈ owner, s.registry.isPending a.submission.token = true
  | telling news next => (telling news next).Tells
  | destroying _ next => next.Keeps

/-- An operation that waits for a handler is as it should be. -/
theorem Wait.sound_of_tells {s : Screen} {w : Wait} (h : w.Tells) : w.Sound s := by
  cases w with
  | telling news next => exact h
  | _ => exact h.elim

namespace Session

/-- What is known of the operations below the one on top: they tell their client an outcome, and if
handlers do not call there are none. -/
def Beneath (nested : Bool) (waits : List Wait) : Prop :=
  (∀ w ∈ waits, w.Tells) ∧ (nested = false → waits = [])

/-- No rule is broken, and what waits is as it should be. -/
structure Sound (nested : Bool) (s : Session) : Prop where
  unbroken : s.violation = none
  accounted : Accounted s.screen s.agenda
  top : ∀ w ∈ s.waits.head?, w.Sound s.screen
  beneath : Beneath nested s.waits.tail

/-- Another order of the pending tokens leaves a session sound. -/
theorem Sound.reorder {nested : Bool} {s : Session} {table : Table Token (Pending Event)}
    (hs : s.Sound nested) (htable : table.entries.Perm s.screen.registry.pending.entries) :
    (s.reorder table).Sound nested where
  unbroken := hs.unbroken
  accounted := hs.accounted.change (.reorder htable)
  top := by
    intro w hw
    have htop := hs.top w hw
    have hpending := Registry.isPending_reorder htable
    cases w with
    | importing p => exact htop
    | attempting a => exact (hpending _).trans htop
    | submitting f => exact htop
    | reading owner => exact fun a ha => (hpending _).trans (htop a ha)
    | telling news next => exact htop
    | destroying fb next => exact htop
  beneath := hs.beneath

end Session

/-- How the surroundings find a world that came from the moment `m₀`. -/
inductive World.Reached (rules : Rules) (apart : Moment → Prop) (m₀ : Moment) (w : World) : Prop
  | sound (hpath : Evolution rules apart m₀ w.moment) (hs : w.session.Sound rules.nested)
  | stray {m : Moment} {report : Report} {g : Agenda} (hpath : Evolution rules apart m₀ m)
      (hscreen : m.screen = w.session.screen) (hledger : m.ledger = w.ledger)
      (hagenda : m.agenda = .reporting [report] ++ (g ++ w.session.agenda))
      (hA : Accounted m.screen m.agenda)
      (hv : w.session.violation = some (.notPending report.token))
      (hfree : m.screen.registry.occupies report.token = false)

namespace World

/-- Operations that lie beneath are found as they were left. -/
theorem sound_of_beneath {s : Screen} {waits : List Wait}
    (hA : Accounted s (Session.agendaOf waits)) (hbeneath : Session.Beneath rules.nested waits) :
    Session.Sound rules.nested ⟨s, waits, none⟩ where
  unbroken := rfl
  accounted := hA
  top := fun w hw => Wait.sound_of_tells (hbeneath.1 w (List.mem_of_mem_head? hw))
  beneath := by
    refine ⟨fun w hw => hbeneath.1 w (List.mem_of_mem_tail hw), fun hn => ?_⟩
    rw [hbeneath.2 hn, List.tail_nil]

/-- An operation that came to rest with a wait. -/
theorem sound_of_waiting {s : Screen} {w : Wait} {waits : List Wait}
    (hA : Accounted s (w.agenda ++ Session.agendaOf waits)) (hw : w.Sound s)
    (hbeneath : Session.Beneath rules.nested waits) :
    Session.Sound rules.nested ⟨s, w :: waits, none⟩ where
  unbroken := rfl
  accounted := hA
  top := by
    intro w' hw'
    cases hw'
    exact hw
  beneath := hbeneath

variable {m₀ : Moment} {s : Screen} {g : Agenda} {l : Ledger} {waits : List Wait}
  {p : Progress Rest}

/-- The world in which an operation has come to rest by changes. -/
theorem reached_of_ends (hpath : Evolution rules apart m₀ ⟨s, g, l⟩) (hA : Accounted s g)
    (hbeneath : Session.Beneath rules.nested waits)
    (hends : Ends s g (Session.agendaOf waits) p)
    (hapart : apart (after l (Session.settle waits p)).moment) :
    Reached rules apart m₀ (after l (Session.settle waits p)) := by
  obtain ⟨s', notices, rest⟩ := p
  cases hends with
  | @rest s₁ g₁ lab hsilent hshows hc =>
    -- Only the last change has a label, which the wait at rest shows.
    have hrun := hpath.trans (evolution_of_silently hsilent l)
    have hA' := (hA.silently hsilent).change hc
    cases rest with
    | waiting w =>
      cases w with
      | attempting a =>
        obtain ⟨hlab, hpending⟩ := hshows
        have hs := sound_of_waiting hA' hpending hbeneath
        rcases hlab with rfl | rfl
        · exact .sound (hrun.tail (.change hc trivial)) hs
        · exact .sound (hrun.tail (.change hc hapart)) hs
      | telling news next =>
        cases next with
        | reclaim id v next =>
          obtain ⟨rfl, hnews, hkeeps⟩ := hshows
          exact .sound (hrun.tail (.change hc trivial))
            (sound_of_waiting hA' ⟨hnews, hkeeps⟩ hbeneath)
        | _ => exact hshows.elim
      | _ => exact hshows.elim
    | finished outcome =>
      obtain rfl : lab = .silent := hshows
      exact .sound (hrun.tail (.change hc trivial)) (sound_of_beneath hA' hbeneath)
    | violated v => exact hshows.elim
  | stray hsilent hv hfree =>
    obtain rfl := hv
    exact .stray (hpath.trans (evolution_of_silently hsilent l)) rfl rfl rfl (hA.silently hsilent)
      rfl hfree

/-- The world in which a task, and those that follow on it, have led to rest. -/
theorem reached_of_work {t : Task} (notices : List Notice)
    (hpath : Evolution rules apart m₀ ⟨s, t.agenda ++ Session.agendaOf waits, l⟩)
    (hA : Accounted s (t.agenda ++ Session.agendaOf waits))
    (hbeneath : Session.Beneath rules.nested waits) (ht : t.Keeps)
    (hapart : apart (after l (Session.settle waits (Screen.proceed (s.work notices t)))).moment) :
    Reached rules apart m₀ (after l (Session.settle waits (Screen.proceed (s.work notices t)))) :=
  reached_of_ends hpath hA hbeneath ((Screen.run_ends _ (Nat.lt_succ_self _) ht hA).after notices)
    hapart

/-! ## Moves -/

variable {w w' : World} {t : Turn}

/-- Where a client may call, all unfinished operations tell their client an outcome. -/
theorem beneath_of_allowsCall {op : Operation} (hs : w.session.Sound rules.nested)
    (hcall : w.allowsCall rules op = true) : Session.Beneath rules.nested w.session.waits := by
  unfold allowsCall at hcall
  have hcall := (Bool.and_eq_true _ _ ▸ hcall).2
  cases hwaits : w.session.waits with
  | nil => exact ⟨fun _ hw => absurd hw List.not_mem_nil, fun _ => rfl⟩
  | cons wait waits =>
    rw [hwaits] at hcall
    have htop := hs.top wait (by simp [hwaits])
    have hbelow := hs.beneath
    rw [hwaits, List.tail_cons] at hbelow
    cases wait with
    | telling news next =>
      -- The operation that tells the handler lies beneath from now on.
      refine ⟨?_, fun hn => ?_⟩
      · rw [List.forall_mem_cons]
        exact ⟨htop, hbelow.1⟩
      · rw [hn] at hcall
        cases hcall
    | _ => cases hcall

/-- If handlers do not call, nothing is left to do beneath. -/
theorem agendaOf_of_beneath (hbeneath : Session.Beneath rules.nested waits)
    (hn : rules.nested = false) : Session.agendaOf waits = {} := by
  rw [hbeneath.2 hn]
  rfl

/-- What follows when a pipe is disabled. -/
theorem reached_of_disable {i : Nat} {crtc : Crtc} {next : Nat → Task}
    (hA : Accounted s (Session.agendaOf waits)) (hbeneath : Session.Beneath rules.nested waits)
    (hagenda : ∀ n, (next n).agenda = {}) (hkeeps : ∀ n, (next n).Keeps)
    (hapart : apart (after l (Session.settle waits
      (Screen.proceed ((s.setEnabled i false).retirePipe crtc next)))).moment) :
    Reached rules apart ⟨s, Session.agendaOf waits, l⟩ (after l (Session.settle waits
      (Screen.proceed ((s.setEnabled i false).retirePipe crtc next)))) := by
  have hc : Change s (Session.agendaOf waits) .disabled
      ((s.setEnabled i false).setRegistry (s.registry.retirePipe crtc).2)
      ((Task.abort (s.registry.retirePipe crtc).1
        (next (s.registry.retirePipe crtc).1.length)).agenda ++ Session.agendaOf waits) := by
    rw [Task.agenda, hagenda, Agenda.append_assoc, Agenda.nil_append]
    exact .disable
  exact reached_of_work []
    (.single (.change hc (agendaOf_of_beneath hbeneath))) (hA.change hc) hbeneath
    (hkeeps _) hapart

/-- The start of an operation. -/
theorem reached_of_call {op : Operation} (hs : w.session.Sound rules.nested)
    (hallows : w.allowsCall rules op = true) (hcall : w.session.call op = some t)
    (hapart : apart (after w.ledger t).moment) :
    Reached rules apart w.moment (after w.ledger t) := by
  have hbeneath := beneath_of_allowsCall hs hallows
  have hA := hs.accounted
  obtain ⟨⟨s, waits, violation⟩, l⟩ := w
  obtain rfl : violation = none := hs.unbroken
  simp only [Session.call, Option.some.injEq] at hcall
  subst hcall
  cases op with
  | swap request => exact .sound .refl (sound_of_waiting hA rfl hbeneath)
  | drain =>
    exact .sound .refl
      (sound_of_waiting hA (fun _ ha => absurd ha (Option.not_mem_none _)) hbeneath)
  | disable crtc =>
    cases hpipe : s.pipeOf? crtc with
    | none =>
      simp only [Screen.start, Screen.disable, hpipe]
      exact .sound .refl (sound_of_beneath hA hbeneath)
    | some i =>
      simp only [Screen.start, Screen.disable, hpipe] at hapart ⊢
      refine reached_of_disable hA hbeneath (fun n => ?_) (fun n => ?_) hapart
      · split_ifs <;> rfl
      · split_ifs <;> trivial
  | enable crtc =>
    cases hpipe : s.pipeOf? crtc with
    | none =>
      simp only [Screen.start, Screen.enable, hpipe]
      exact .sound .refl (sound_of_beneath hA hbeneath)
    | some i =>
      simp only [Screen.start, Screen.enable, hpipe]
      exact .sound (.single (.change .enable trivial))
        (sound_of_beneath (hA.change .enable) hbeneath)
  | _ => cases hallows

/-- A framebuffer was imported: the swap sets out to flip its pipes. -/
theorem reached_of_launch {a : Preparation} {fb : Framebuffer}
    (hA : Accounted s (Session.agendaOf waits)) (hbeneath : Session.Beneath rules.nested waits)
    (hfb : rules.imports ⟨s, Session.agendaOf waits, l⟩ fb = true)
    (ha : a.displaced = s.held a.slot)
    (hapart : apart (after (l.bring fb) (Session.settle waits
      (Screen.proceed (s.launch a fb)))).moment) :
    Reached rules apart ⟨s, Session.agendaOf waits, l⟩
      (after (l.bring fb) (Session.settle waits (Screen.proceed (s.launch a fb)))) := by
  have hc : Change s (Session.agendaOf waits) (.launched a fb) _ _ := .launch
  exact reached_of_work []
    (.single (.change hc ⟨hfb, ha, agendaOf_of_beneath hbeneath⟩)) (hA.change hc) hbeneath
    trivial hapart

/-- The channel accepted a flip: the swap goes on to its next pipe. -/
theorem reached_of_accept {m : Moment} {a : Attempt} {now : Instant}
    (hagenda : m.agenda = (Task.retry a).agenda ++ Session.agendaOf waits)
    (hA : Accounted m.screen m.agenda) (hbeneath : Session.Beneath rules.nested waits)
    (hpending : m.screen.registry.isPending a.submission.token = true)
    (hf : rules.accepts m a.submission = true)
    (hl : l = m.ledger.accept a.submission
      (m.undispatched.filter (m.isRetiredOn a.submission.crtc)))
    (hapart : apart (after l (Session.settle waits
      (Screen.proceed (m.screen.accepted a now)))).moment) :
    Reached rules apart m
      (after l (Session.settle waits (Screen.proceed (m.screen.accepted a now)))) := by
  subst hl
  -- The swap is in the middle of its flips, so it is one of the screen's.
  have hlt : a.fanout.swap < m.screen.swaps.length := by
    refine hA.unreleased a.fanout.swap ?_
    rw [hagenda]
    exact List.mem_cons_self
  have hw := List.getElem?_eq_getElem hlt
  have hc : Change m.screen m.agenda (.accepted a.submission)
      (((m.screen.setBarrier a.fanout.swap (m.screen.swaps[a.fanout.swap]).barrier.markSubmitted
        ).setRegistry (m.screen.registry.forgetPipe a.submission.crtc).2).setFlippedAt a.pipe now)
      ((Task.fan { a.fanout with submitted := a.fanout.submitted + 1 }).agenda ++
        Session.agendaOf waits) := by
    rw [hagenda]
    exact .accept hw
  simp only [Screen.accepted, hw] at hapart ⊢
  exact reached_of_work []
    (.single (.change hc ⟨hf, hpending⟩)) (hA.change hc) hbeneath trivial hapart

/-- A flip that is being queued is given up. -/
theorem reached_of_fail {a : Attempt} {e : SwapError}
    (hA : Accounted s ((Task.retry a).agenda ++ Session.agendaOf waits))
    (hbeneath : Session.Beneath rules.nested waits)
    (hpending : s.registry.isPending a.submission.token = true)
    (hapart : apart (after l (Session.settle waits (Screen.proceed (s.fail a e)))).moment) :
    Reached rules apart ⟨s, (Task.retry a).agenda ++ Session.agendaOf waits, l⟩
      (after l (Session.settle waits (Screen.proceed (s.fail a e)))) :=
  reached_of_ends .refl hA hbeneath
    (Screen.ends_of_stepped hA (Screen.fail_stepped hA hpending)) hapart

/-- Reports were read and are dispatched. -/
theorem reached_of_read {reports : List Report} (next : Task)
    (hA : Accounted s (next.agenda ++ Session.agendaOf waits))
    (hbeneath : Session.Beneath rules.nested waits) (hnext : next.Keeps)
    (hread : (reports.map Report.token).Subperm l.readable)
    (hapart : apart (after (l.read (reports.map Report.token)) (Session.settle waits
      (Screen.proceed (s.work [] (.dispatch reports next))))).moment) :
    Reached rules apart ⟨s, next.agenda ++ Session.agendaOf waits, l⟩
      (after (l.read (reports.map Report.token)) (Session.settle waits
        (Screen.proceed (s.work [] (.dispatch reports next))))) := by
  have hc : Change s (next.agenda ++ Session.agendaOf waits) (.read reports) s
      ((Task.dispatch reports next).agenda ++ Session.agendaOf waits) := by
    rw [Task.agenda_dispatch_append]
    exact .read
  exact reached_of_work [] (.single (.change hc hread)) (hA.change hc) hbeneath hnext hapart

/-- The channel was read because it was full. -/
theorem reached_of_afterRead {a : Attempt} {result : Except ChannelError (Option (List Report))}
    (hA : Accounted s ((Task.retry a).agenda ++ Session.agendaOf waits))
    (hbeneath : Session.Beneath rules.nested waits)
    (hpending : s.registry.isPending a.submission.token = true)
    (m : Moment) (hm : m = ⟨s, (Task.retry a).agenda ++ Session.agendaOf waits, l⟩)
    (hread : ∀ reports, result = .ok (some reports) →
      (reports.map Report.token).Subperm l.readable)
    (hapart : apart (after (Ledger.hear m (.reading (some a)) (.read result))
      (Session.settle waits (Screen.proceed (s.afterRead a result)))).moment) :
    Reached rules apart m (after (Ledger.hear m (.reading (some a)) (.read result))
      (Session.settle waits (Screen.proceed (s.afterRead a result)))) := by
  subst hm
  cases result with
  | error e => exact reached_of_fail hA hbeneath hpending hapart
  | ok reports? =>
    cases reports? with
    | none =>
      simp only [Screen.afterRead] at hapart ⊢
      split_ifs at hapart ⊢
      · exact reached_of_work [] .refl hA hbeneath trivial hapart
      · exact reached_of_fail hA hbeneath hpending hapart
    | some reports =>
      exact reached_of_read (.retry { a with idle := 0 }) hA hbeneath trivial
        (hread reports rfl) hapart

/-- The client read the channel. -/
theorem reached_of_afterDrain {result : Except ChannelError (Option (List Report))}
    (hA : Accounted s (Session.agendaOf waits)) (hbeneath : Session.Beneath rules.nested waits)
    (m : Moment) (hm : m = ⟨s, Session.agendaOf waits, l⟩)
    (hread : ∀ reports, result = .ok (some reports) →
      (reports.map Report.token).Subperm l.readable)
    (hapart : apart (after (Ledger.hear m (.reading none) (.read result))
      (Session.settle waits (Screen.proceed (s.afterDrain result)))).moment) :
    Reached rules apart m (after (Ledger.hear m (.reading none) (.read result))
      (Session.settle waits (Screen.proceed (s.afterDrain result)))) := by
  subst hm
  cases result with
  | error e => exact .sound .refl (sound_of_beneath hA hbeneath)
  | ok reports? =>
    cases reports? with
    | none => exact .sound .refl (sound_of_beneath hA hbeneath)
    | some reports =>
      exact reached_of_read (.finish (.drained (.ok (.handled reports.length)))) hA hbeneath trivial
        (hread reports rfl) hapart

/-- The handler of a swap has returned: a framebuffer is given up, and the operation goes on. -/
theorem reached_of_returned {id : SwapId} {v : Verdict} {next : Task}
    (hA : Accounted s ((Task.reclaim id v next).agenda ++ Session.agendaOf waits))
    (hbeneath : Session.Beneath rules.nested waits) (hnext : next.Keeps)
    (hapart : apart (after (l.reclaim id v) (Session.settle waits
      (Screen.proceed (s.work [] (.reclaim id v next))))).moment) :
    Reached rules apart ⟨s, (Task.reclaim id v next).agenda ++ Session.agendaOf waits, l⟩
      (after (l.reclaim id v) (Session.settle waits
        (Screen.proceed (s.work [] (.reclaim id v next))))) := by
  have hlt : id < s.swaps.length := hA.reclaims (id, v) List.mem_cons_self
  obtain ⟨w, hw⟩ : ∃ w, s.swaps[id]? = some w := ⟨_, List.getElem?_eq_getElem hlt⟩
  have hg : (Task.reclaim id v next).agenda ++ Session.agendaOf waits =
      .owing id (some v) ++ (next.agenda ++ Session.agendaOf waits) := Agenda.append_assoc _ _ _
  rw [hg] at hA ⊢
  have hc := Change.reclaim (k := next.agenda ++ Session.agendaOf waits) (v := v) hw
  have hA' := hA.change hc
  have hproceed : Screen.proceed (s.work [] (.reclaim id v next)) =
      Screen.proceed (s.reclaim id v next) := Screen.run_eq s (.reclaim id v next)
  rw [hproceed] at hapart ⊢
  simp only [Screen.reclaim, hw] at hapart ⊢
  have hstep : Evolves rules apart ⟨s, _, l⟩ _ := .change hc trivial
  -- Without a framebuffer to give up the operation goes on at once.
  by_cases hnone : (w.barrier.reclaim v (s.held w.slot)).2.isNone
  · simp only [hnone, if_true] at hapart ⊢
    simp only [Label.write, hnone, if_true] at hstep
    exact reached_of_work [] (.single hstep) hA' hbeneath hnext hapart
  · simp only [hnone] at hapart ⊢
    simp only [Label.write, hnone] at hstep
    exact .sound (.single hstep) (sound_of_waiting hA' hnext hbeneath)

/-- The operation on top has its answer. -/
theorem reached_of_resume {wait : Wait} {a : Answer} {p : Progress Follow}
    (hA : Accounted s (wait.agenda ++ Session.agendaOf waits)) (hwait : wait.Sound s)
    (hbeneath : Session.Beneath rules.nested waits) (m : Moment)
    (hm : m = ⟨s, wait.agenda ++ Session.agendaOf waits, l⟩)
    (hallows : allowsAnswer ⟨⟨s, wait :: waits, none⟩, l⟩ rules wait a = true)
    (hresume : s.resume wait a = some p)
    (hapart : apart (after (Ledger.hear m wait a)
      (Session.settle waits (Screen.proceed p))).moment) :
    Reached rules apart m (after (Ledger.hear m wait a)
      (Session.settle waits (Screen.proceed p))) := by
  subst hm
  cases wait with
  | importing q =>
    cases a with
    | imported result =>
      cases result with
      | ok fb =>
        obtain rfl : s.launch q fb = p := Option.some.inj hresume
        exact reached_of_launch hA hbeneath hallows hwait hapart
      | error e =>
        cases hresume
        -- Nothing was begun, so nothing is left to do.
        exact .sound .refl (sound_of_beneath hA hbeneath)
    | _ => cases hresume
  | attempting b =>
    cases a with
    | submitted result now =>
      cases result with
      | ok =>
        obtain rfl : s.accepted b now = p := Option.some.inj hresume
        exact reached_of_accept rfl hA hbeneath hwait hallows rfl hapart
      | error e =>
        cases e with
        | rejected e =>
          obtain rfl : s.fail b (.submit b.submission.crtc e) = p := Option.some.inj hresume
          exact reached_of_fail hA hbeneath hwait hapart
        | channelFull =>
          cases hresume
          -- The flip stays queued while the channel is read.
          refine .sound .refl (sound_of_waiting hA (fun a ha => ?_) hbeneath)
          cases ha
          exact hwait
    | _ => cases hresume
  | submitting f => exact hwait.elim
  | reading owner =>
    cases a with
    | read result =>
      -- What is read was readable.
      have hread : ∀ reports, result = .ok (some reports) →
          (reports.map Report.token).Subperm l.readable := by
        rintro reports rfl
        exact of_decide_eq_true hallows
      cases owner with
      | none =>
        obtain rfl : s.afterDrain result = p := Option.some.inj hresume
        exact reached_of_afterDrain hA hbeneath _ rfl hread hapart
      | some b =>
        obtain rfl : s.afterRead b result = p := Option.some.inj hresume
        exact reached_of_afterRead hA hbeneath (hwait b rfl) _ rfl hread hapart
    | _ => cases owner <;> cases hresume
  | telling news next =>
    cases a with
    | returned =>
      obtain rfl : s.work [] next = p := Option.some.inj hresume
      cases next with
      | reclaim id v next => exact reached_of_returned hA hbeneath hwait.2 hapart
      | _ => exact hwait.elim
    | _ => cases hresume
  | destroying fb next =>
    cases a with
    | destroyed result =>
      cases result with
      | ok =>
        obtain rfl : s.work [] next = p := Option.some.inj hresume
        exact reached_of_work [] .refl hA hbeneath hwait hapart
      | error e =>
        obtain rfl : s.work [.leaked fb e] next = p := Option.some.inj hresume
        exact reached_of_work _ .refl hA hbeneath hwait hapart
    | _ => cases hresume

/-- A move leads on by changes. -/
theorem reached_of_step (apart : Moment → Prop) {move : Move} (hs : w.session.Sound rules.nested)
    (hstep : w.step rules move = some w') (hapart : apart w'.moment) :
    Reached rules apart w.moment w' := by
  cases move with
  | call op =>
    simp only [step] at hstep
    split_ifs at hstep with hallows
    obtain ⟨t, hcall, rfl⟩ := Option.map_eq_some_iff.1 hstep
    exact reached_of_call hs hallows hcall hapart
  | answer a =>
    obtain ⟨⟨s, waits, violation⟩, l⟩ := w
    obtain rfl : violation = none := hs.unbroken
    cases waits with
    | nil => cases hstep
    | cons wait waits =>
      simp only [step] at hstep
      split_ifs at hstep with hallows
      obtain ⟨t, hanswer, rfl⟩ := Option.map_eq_some_iff.1 hstep
      obtain ⟨p, hresume, rfl⟩ := Option.map_eq_some_iff.1 hanswer
      exact reached_of_resume hs.accounted (hs.top wait rfl) hs.beneath _ rfl hallows hresume hapart
  | report t =>
    simp only [step] at hstep
    split_ifs at hstep with h
    cases hstep
    obtain ⟨f, hf, hft⟩ := List.any_eq_true.1 (Bool.and_eq_true_iff.1 h).2
    exact .sound (.single (.report ⟨f, hf, beq_iff_eq.1 hft⟩)) ⟨hs.1, hs.2, hs.3, hs.4⟩
  | lose t =>
    simp only [step] at hstep
    split_ifs at hstep with h
    cases hstep
    obtain ⟨f, hf, hft⟩ := List.any_eq_true.1 (Bool.and_eq_true_iff.1 h).2
    exact .sound (.single (.lose ⟨f, hf, beq_iff_eq.1 hft⟩)) ⟨hs.1, hs.2, hs.3, hs.4⟩
  | reorder table =>
    obtain ⟨s, hs', rfl⟩ := Option.map_eq_some_iff.1 hstep
    obtain ⟨-, htable, rfl⟩ := Session.of_reorder? hs'
    exact .sound (.single (.change (.reorder htable) trivial)) (hs.reorder htable)

/-- Nothing happens after a violation. -/
theorem step_eq_none {v : Violation} {move : Move} (hv : w.session.violation = some v) :
    w.step rules move = none := by
  cases move with
  | call op => simp [step, Session.call, hv]
  | answer a =>
    cases hwaits : w.session.waits with
    | nil => simp [step, hwaits]
    | cons wait waits => simp [step, hwaits, Session.answer, hv]
  | report t => simp [step, hv]
  | lose t => simp [step, hv]
  | reorder table => simp [step, Session.reorder?, hv]

/-- A move of a world that was reached before. -/
theorem Reached.step {move : Move} (h : w.Reached rules apart m₀)
    (hstep : w.step rules move = some w') (hapart : apart w'.moment) :
    w'.Reached rules apart m₀ := by
  cases h with
  | sound hpath hs =>
    cases reached_of_step apart hs hstep hapart with
    | sound hpath' hs' => exact .sound (hpath.trans hpath') hs'
    | stray hpath' hscreen hledger hagenda hA hv hfree =>
      exact .stray (hpath.trans hpath') hscreen hledger hagenda hA hv hfree
  | stray _ _ _ _ _ hv =>
    rw [step_eq_none hv] at hstep
    cases hstep

/-- A row of moves leads from where the surroundings find one world to where they find another. -/
theorem Reached.play {moves : List Move} (h : w.Reached rules apart m₀)
    (hplay : w.play rules moves = some w')
    (hapart : ∀ u ∈ w.visits rules moves, apart u.moment) : w'.Reached rules apart m₀ := by
  induction moves generalizing w with
  | nil =>
    obtain rfl : w = w' := Option.some.inj hplay
    exact h
  | cons move moves ih =>
    obtain ⟨u, hstep, hplay⟩ := Option.bind_eq_some_iff.1 hplay
    -- `hapart` is needed where the move ends, and from there on.
    simp only [visits, hstep, List.forall_mem_cons] at hapart
    exact ih (h.step hstep (hapart.2 u (self_mem_visits u))) hplay hapart.2

/-- A world in which nothing has happened yet is sound. -/
theorem sound_new (pipes : List Pipe) (slots : List Framebuffer) (config : Config) :
    (new pipes slots config).session.Sound rules.nested where
  unbroken := rfl
  accounted :=
    { counts := fun hw => by cases hw
      unreleased := fun e he => by cases he
      reclaims := fun e he => by cases he
      events := fun e he => by cases he }
  top := fun w hw => by cases hw
  beneath := ⟨fun w hw => (by cases hw), fun _ => rfl⟩

/-- Every run leads on by changes from its start. -/
theorem reached_of_play {pipes : List Pipe} {slots : List Framebuffer} {config : Config}
    {moves : List Move} (hplay : (new pipes slots config).play rules moves = some w)
    (hapart : ∀ u ∈ (new pipes slots config).visits rules moves, apart u.moment) :
    w.Reached rules apart (new pipes slots config).moment :=
  Reached.play (.sound .refl (sound_new pipes slots config)) hplay hapart

/-- Every world of a run is found so. -/
theorem reached {pipes : List Pipe} {slots : List Framebuffer} {config : Config}
    {moves : List Move} (hplay : (new pipes slots config).play rules moves = some w) :
    w.Reached rules (fun _ => True) (new pipes slots config).moment :=
  reached_of_play hplay fun _ _ => trivial

end World

end PageFlip
