import PageFlip.Proofs.Faithful
import PageFlip.Proofs.Setback

/-!
# A swap and its drains

While a swap has no accepted flip, what it does is a row of drains and nothing else: `Tracks` goes
on beside a course that is asked for these drains alone (`Act.drains`), with the same batches of
reports and the same calls of handlers. A drain is over when the swap goes on to its own flip, and
the next one starts when it reads the channel again.
-/

namespace PageFlip

/-! ## What happened in a course -/

namespace Course

/-- What happened besides the returns of calls. -/
def doings (h : List Happening) : List Happening := h.filter fun x => x.call?.isNone

/-- What happened first and what happened then is gathered one by one. -/
theorem doings_append (h h' : List Happening) : doings (h ++ h') = doings h ++ doings h' :=
  List.filter_append ..

section Resting

variable {conduct : Conduct} {call : Call} {calls : List Call} {fbs : List Framebuffer}
  {h : List Happening} {s : Screen} {waits : List Wait} {r : Rest} {op : Operation} {a : Answer}
  {wait : Wait}

/-- The return of a call adds nothing besides itself. -/
@[simp] theorem doings_resting :
    doings (resting call calls fbs h s waits r).history = doings h := by
  cases r <;> rfl

/-- Nothing that happened is forgotten. -/
theorem mem_history_resting {x : Happening} (hx : x ∈ h) :
    x ∈ (resting call calls fbs h s waits r).history := by
  cases r with
  | finished outcome => exact List.mem_cons_of_mem _ hx
  | _ => exact hx

/-- What a call leads to, as far as its operation goes by itself. -/
theorem step_call (hop : op.isRegular = true) (htop : Session.yields ⟨s, waits, none⟩ = true)
    (hcalls : conduct.calls (mk ⟨s, waits, none⟩ calls fbs h).scene op = true) :
    (mk ⟨s, waits, none⟩ calls fbs h).step conduct (.call op) =
      some (resting ⟨op, s, h.length, none⟩ calls fbs (Screen.traceOf (s.start op) ++ h)
        (Screen.proceed (s.start op)).screen waits (Screen.proceed (s.start op)).next) := by
  have hallows : (mk ⟨s, waits, none⟩ calls fbs h).allowsCall conduct op = true := by
    simp only [allowsCall, hop, htop, hcalls, Bool.and_self]
  rw [← after_settle]
  exact if_pos hallows

/-- What an answer leads to, as far as the operation goes by itself. -/
theorem step_answer {p : Progress Follow} (hresume : s.resume wait a = some p)
    (hallows : (mk ⟨s, wait :: waits, none⟩ (call :: calls) fbs h).allowsAnswer conduct wait a =
      true) :
    (mk ⟨s, wait :: waits, none⟩ (call :: calls) fbs h).step conduct (.answer a) =
      some (resting (call.hear s wait a) calls (a.brings wait ++ fbs)
        (Screen.traceOf p ++ (a.happens wait ++ h)) (Screen.proceed p).screen waits
        (Screen.proceed p).next) := by
  rw [← after_settle]
  refine (if_pos hallows).trans ?_
  simp only [Session.answer, hresume, Option.map_some, Option.getD_some]

/-- Nothing is expected of answers here. -/
theorem allowsAnswer_free {c : Course} : c.allowsAnswer .free wait a = true := by
  unfold allowsAnswer
  split
  · rfl
  · rfl
  · rfl

end Resting

end Course

/-! ## Operations side by side -/

/-- What follows on a drain: the swap goes on with its flip, and the client's own read returns. -/
def Queues (own : SwapId) (token : Token) (t t' : Task) : Prop :=
  ∃ a outcome, t = .retry a ∧ t' = .finish outcome ∧ a.fanout.swap = own ∧
    a.fanout.submitted = 0 ∧ a.submission.token = token

/-- Both operations return. -/
def Close (t t' : Task) : Prop := t.Closes ∧ t'.Closes

/-- The operations of two courses that are in the same handlers: above a drain, which the swap makes
in one of them and the client in the other, there are operations of handlers. -/
inductive Stacked (own : SwapId) (token : Token) : List Wait → List Wait → Prop
  | drain {x x' : Wait} (hx : Wait.Alike own (some token) (Queues own token) x x') :
      Stacked own token [x] [x']
  | handler {x x' : Wait} {ws ws' : List Wait} (hx : Wait.Alike own (some token) Close x x')
      (hws : Stacked own token ws ws') : Stacked own token (x :: ws) (x' :: ws')

/-- What lies below an operation of either kind, and what it comes to in the end. -/
inductive Stacked.Below (own : SwapId) (token : Token) :
    (Task → Task → Prop) → List Wait → List Wait → Prop
  | drain : Below own token (Queues own token) [] []
  | handler {ws ws' : List Wait} (hws : Stacked own token ws ws') : Below own token Close ws ws'

/-- How far the swap is: it queues a flip, it makes a drain, or its client is told that it was
aborted. `ws` is what waits then, `ws'` what waits in the course of the drains, and `hs` what
happened in the swap alone. -/
inductive Phase (own : SwapId) (w : Swap) (s u : Screen) :
    List Wait → List Wait → List Happening → Prop
  | queues {n : Nat} {a : Attempt} {x : Wait} (hx : x = .attempting a ∨ x = .reading (some a))
      (hb : Beside own (w.holding n) (some a.submission.token) s u) (hswap : a.fanout.swap = own)
      (hnone : a.fanout.submitted = 0) : Phase own w s u [x] [] []
  | drains {n : Nat} {token : Token} {ws ws' : List Wait}
      (hb : Beside own (w.holding n) (some token) s u) (hws : Stacked own token ws ws') :
      Phase own w s u ws ws' []
  | aborts {next : Task} (hb : Beside own w.settled none s u) (hnext : next.Closes) :
      Phase own w s u [.telling (.swap w.client none) (.reclaim own ⟨none, false⟩ next)] []
        [.told own (.swap w.client none)]

/-- No call returns in what happened in the swap alone. -/
theorem Phase.doings_eq {own : SwapId} {w : Swap} {s u : Screen} {ws ws' : List Wait}
    {hs : List Happening} (h : Phase own w s u ws ws' hs) : Course.doings hs = hs := by
  cases h <;> rfl

section Operations

variable {own : SwapId} {w : Swap} {token : Token} {hidden : Option Token}
  {ends : Task → Task → Prop} {s s' u u' : Screen} {t t' : Task} {ws ws' : List Wait}
  {h hs : List Happening} {r : Rest} {n : Nat} {x x' : Wait} {k : Agenda}

/-- When an operation closes nothing is left to do. -/
theorem Task.Closes.agenda_eq {t : Task} (ht : t.Closes) : t.agenda = {} := by
  induction t with
  | finish outcome => rfl
  | say notice next ih => exact ih ht
  | _ => exact ht.elim

/-- An operation that closes gives up no framebuffer before it comes to rest. -/
theorem Task.Closes.keeps {t : Task} (ht : t.Closes) : t.Keeps := by
  induction t with
  | finish outcome => trivial
  | say notice next ih => exact ih ht
  | _ => exact ht.elim

/-- The submitter has its hold all the way if it has it in the end. -/
theorem Task.Alike.mem_unreleased (hends : ∀ t t', ends t t' → own ∈ t.agenda.unreleased)
    (h : Task.Alike own hidden ends t t') : own ∈ t.agenda.unreleased := by
  induction h with
  | ends he => exact hends _ _ he
  | dispatch _ _ ih => exact ih
  | abort _ ih => exact ih
  | reclaim _ _ _ ih => exact ih

/-- In a drain that the swap makes its submitter has its hold. -/
theorem Stacked.mem_unreleased (h : Stacked own token ws ws') :
    own ∈ (Session.agendaOf ws).unreleased := by
  induction h with
  | drain hx =>
    have hends : ∀ t t', Queues own token t t' → own ∈ t.agenda.unreleased := by
      rintro _ _ ⟨a, outcome, rfl, -, rfl, -⟩
      exact List.mem_cons_self
    cases hx with
    | telling halike => exact Agenda.unreleased_append _ _ ▸
        List.mem_append_left _ (halike.mem_unreleased hends)
    | destroying halike => exact Agenda.unreleased_append _ _ ▸
        List.mem_append_left _ (halike.mem_unreleased hends)
  | handler hx hws ih =>
    exact Agenda.unreleased_append _ _ ▸ List.mem_append_right _ ih

/-- Handlers run in both sessions or in neither. -/
theorem Stacked.yields (h : Stacked own token ws ws') :
    Session.yields ⟨s, ws, none⟩ = Session.yields ⟨u, ws', none⟩ := by
  cases h with
  | drain hx => cases hx <;> rfl
  | handler hx => cases hx <;> rfl

/-- A run comes to rest in one way. -/
theorem Screen.Runs.unique {s₁ s₂ : Screen} {r₁ r₂ : Rest} {h₁ h₂ : List Happening}
    (h : s.Runs t s₁ r₁ h₁) (h' : s.Runs t s₂ r₂ h₂) : s₁ = s₂ ∧ r₁ = r₂ ∧ h₁ = h₂ :=
  ⟨h.1.symm.trans h'.1, h.2.1.symm.trans h'.2.1, h.2.2.symm.trans h'.2.2⟩

/-- The swap goes on for itself. -/
theorem Alone.phase (halone : Alone own w s u t) (hruns : s.Runs t s' r h) :
    Phase own w s' u (r.above []) [] h ∧ ∀ v, r ≠ .violated v := by
  cases halone with
  | attempts hruns' hb hswap hnone =>
    obtain ⟨rfl, rfl, rfl⟩ := hruns.unique hruns'
    exact ⟨.queues (.inl rfl) hb hswap hnone, nofun⟩
  | aborts hruns' hnext hb =>
    obtain ⟨rfl, rfl, rfl⟩ := hruns.unique hruns'
    exact ⟨.aborts hb hnext, nofun⟩

/-- The drain goes on, or it is over and the swap goes on for itself. -/
theorem Meets.phase_drain
    (hmeets : Meets own w (some token) (Queues own token) {} s u t t') (hruns : s.Runs t s' r h)
    (hr : ∀ v, r ≠ .violated v) :
    ∃ u' r' h' hs, u.Runs t' u' r' h' ∧ h = hs ++ h' ∧ (∀ v, r' ≠ .violated v) ∧
      Phase own w s' u' (r.above []) (r'.above []) hs := by
  cases hmeets with
  | wait hs hu hb hx =>
    obtain ⟨rfl, rfl, rfl⟩ := hruns.unique hs
    exact ⟨_, _, _, [], hu, rfl, nofun, .drains hb (.drain hx)⟩
  | @ends n e e' s₁ u₁ h₁ hs hu hb hA he =>
    -- The client's own read returns, while the swap goes on to where it rests alone.
    obtain ⟨a, outcome, rfl, rfl, hswap, hnone, htoken⟩ := he
    rw [← htoken] at hb
    have halone := hb.alone_retry hswap hnone hA
    have hfinish := hu _ _ _ (Screen.runs_of_step (t := .finish outcome) rfl)
    obtain ⟨hphase, -⟩ := halone.phase ⟨rfl, rfl, rfl⟩
    obtain ⟨rfl, rfl, rfl⟩ := hruns.unique (hs _ _ _ ⟨rfl, rfl, rfl⟩)
    exact ⟨_, _, _, _, hfinish, rfl, nofun, hphase⟩
  | violated hs =>
    obtain ⟨-, rfl, -⟩ := hruns.unique hs
    exact absurd rfl (hr _)

/-- The operation of a handler goes on, or it returns in both courses. -/
theorem Meets.phase_handler (hmeets : Meets own w (some token) Close k s u t t')
    (hws : Stacked own token ws ws') (hruns : s.Runs t s' r h) (hr : ∀ v, r ≠ .violated v) :
    ∃ u' r', u.Runs t' u' r' h ∧ (∀ v, r' ≠ .violated v) ∧
      Phase own w s' u' (r.above ws) (r'.above ws') [] := by
  cases hmeets with
  | wait hs hu hb hx =>
    obtain ⟨rfl, rfl, rfl⟩ := hruns.unique hs
    exact ⟨_, _, hu, nofun, .drains hb (.handler hx hws)⟩
  | @ends n e e' s₁ u₁ h₁ hs hu hb hA he =>
    -- The operation of the handler returns in both courses, to those below.
    obtain ⟨outcome, hfinish⟩ := he.1.runs s₁
    obtain ⟨outcome', hfinish'⟩ := he.2.runs u₁
    obtain ⟨rfl, rfl, rfl⟩ := hruns.unique (hs _ _ _ hfinish)
    exact ⟨_, _, hu _ _ _ hfinish', nofun, .drains hb hws⟩
  | violated hs =>
    obtain ⟨-, rfl, -⟩ := hruns.unique hs
    exact absurd rfl (hr _)

/-- What follows on an operation in both courses. -/
theorem Beside.phase (hb : Beside own (w.holding n) (some token) s u)
    (hbelow : Stacked.Below own token ends ws ws')
    (halike : Task.Alike own (some token) ends t t')
    (hA : Accounted s (t.agenda ++ Session.agendaOf ws)) (ht : t.Proceeds)
    (hruns : s.Runs t s' r h) (hr : ∀ v, r ≠ .violated v) :
    ∃ u' r' h' hs, u.Runs t' u' r' h' ∧ h = hs ++ h' ∧ (∀ v, r' ≠ .violated v) ∧
      Phase own w s' u' (r.above ws) (r'.above ws') hs := by
  cases hbelow with
  | drain =>
    have hown : own ∈ (t.agenda ++ {}).unreleased := by
      refine Agenda.unreleased_append _ _ ▸ List.mem_append_left _ (halike.mem_unreleased ?_)
      rintro _ _ ⟨a, outcome, rfl, -, rfl, -⟩
      exact List.mem_cons_self
    exact (hb.meets halike hA hown ht).phase_drain hruns hr
  | handler hws =>
    have hown : own ∈ (t.agenda ++ Session.agendaOf ws).unreleased :=
      Agenda.unreleased_append _ _ ▸ List.mem_append_right _ hws.mem_unreleased
    obtain ⟨u', r', hu, hr', hphase⟩ :=
      (hb.meets halike hA hown ht).phase_handler hws hruns hr
    exact ⟨u', r', h, [], hu, rfl, hr', hphase⟩

end Operations

/-! ## Acts side by side -/

/-- The acts of the drains of a swap alone: each read of the channel is a client's own, and what the
swap hears of the import and of its flips is left out. The pending tokens of the other swaps are in
the same order. -/
def Act.drains (own : SwapId) : Act → List Act
  | .answer (.imported _) => []
  | .answer (.submitted ..) => []
  | .answer (.read result) => [.call .drain, .answer (.read result)]
  | .reorder table => [.reorder (table.keep fun _ p => !p.event.isOf own)]
  | act => [act]

/-- Whether the operation enables or disables a pipe. -/
def Operation.switches : Operation → Bool
  | enable _ | disable _ => true
  | _ => false

/-- Only handlers call, they only enable or disable pipes, and that of the swap is inert. -/
def Conduct.Modest (own : SwapId) (conduct : Conduct) : Prop :=
  ∀ m op, conduct.calls m op = true →
    op.switches = true ∧ ∃ e ∈ m.agenda.reclaims.head?, e.1 ≠ own

/-- The course `d` is in the middle of the swap `w` with the place `own`. The course `u` came from
the same start by the drains alone. -/
structure Course.Tracks (own : SwapId) (w : Swap) (d u : Course) : Prop where
  unbroken : u.session.violation = none
  length : u.calls.length = u.session.waits.length
  framebuffers : d.framebuffers = w.barrier.newFb :: u.framebuffers
  phase : ∃ hs, Phase own w d.session.screen u.session.screen d.session.waits u.session.waits hs ∧
    doings d.history = hs ++ doings u.history

section Acts

variable {own : SwapId} {w : Swap} {token : Token} {ends : Task → Task → Prop}
  {s s' u u' : Screen} {ws ws' : List Wait} {h h' hs : List Happening} {r r' : Rest} {n : Nat}
  {x x' : Wait} {a : Answer} {op : Operation} {p : Progress Follow} {conduct : Conduct}

/-- The operation on top, and what lies below it. -/
theorem Stacked.uncons (hws : Stacked own token ws ws') :
    ∃ ends x x' xs xs', ws = x :: xs ∧ ws' = x' :: xs' ∧ Below own token ends xs xs' ∧
      Wait.Alike own (some token) ends x x' := by
  cases hws with
  | drain hx => exact ⟨_, _, _, _, _, rfl, rfl, .drain, hx⟩
  | handler hx hws => exact ⟨_, _, _, _, _, rfl, rfl, .handler hws, hx⟩

/-- The answer to a handler or to the device leads two operations on to tasks that are alike. -/
theorem Wait.Alike.resume (hx : Wait.Alike own (some token) ends x x')
    (hsound : x.Sound s) (hp : s.resume x a = some p) :
    ∃ notices t t', Task.Alike own (some token) ends t t' ∧ t.Proceeds ∧ x.agenda = t.agenda ∧
      p = s.work notices t ∧ (∀ u : Screen, u.resume x' a = some (u.work notices t')) ∧
      a.happens x = [] ∧ a.happens x' = [] ∧ a.brings x = [] ∧ a.brings x' = [] ∧
      (Act.answer a).drains own = [.answer a] := by
  cases hx with
  | @telling news t t' halike =>
    cases a with
    | returned =>
      -- Handlers are only told of swaps, and after that a framebuffer is given up.
      have ht : t.Proceeds := by
        cases t with
        | reclaim id v next => exact hsound.2
        | _ => exact hsound.elim
      exact ⟨[], t, t', halike, ht, rfl, (Option.some.inj hp).symm, fun u => rfl, rfl, rfl, rfl,
        rfl, rfl⟩
    | _ => cases hp
  | @destroying fb t t' halike =>
    cases a with
    | destroyed result =>
      have ht : t.Proceeds := Task.proceeds_of_keeps hsound
      cases result with
      | ok =>
        exact ⟨[], t, t', halike, ht, rfl, (Option.some.inj hp).symm, fun u => rfl, rfl, rfl, rfl,
          rfl, rfl⟩
      | error e =>
        exact ⟨[.leaked fb e], t, t', halike, ht, rfl, (Option.some.inj hp).symm, fun u => rfl, rfl,
          rfl, rfl, rfl, rfl⟩
    | _ => cases hp

/-- The flips of a controller are aborted in both courses. -/
theorem Beside.phase_retirePipe {crtc : Crtc} {next : Nat → Task}
    (hb : Beside own (w.holding n) (some token) s u) (hws : Stacked own token ws ws')
    (hA : Accounted (s.setRegistry (s.registry.retirePipe crtc).2)
      (.aborting (s.registry.retirePipe crtc).1 ++ Session.agendaOf ws))
    (hnext : ∀ n, (next n).Closes)
    (hr : ∀ v, (Screen.proceed (s.retirePipe crtc next)).next ≠ .violated v) :
    Screen.traceOf (s.retirePipe crtc next) = Screen.traceOf (u.retirePipe crtc next) ∧
      (∀ v, (Screen.proceed (u.retirePipe crtc next)).next ≠ .violated v) ∧
      Phase own w (Screen.proceed (s.retirePipe crtc next)).screen
        (Screen.proceed (u.retirePipe crtc next)).screen
        ((Screen.proceed (s.retirePipe crtc next)).next.above ws)
        ((Screen.proceed (u.retirePipe crtc next)).next.above ws') [] := by
  obtain ⟨hb', hevents⟩ := hb.retirePipe crtc
  -- The first course may have an event more, that of the swap itself.
  have halike : Task.Alike own (some token) Close
      (.abort (s.registry.retirePipe crtc).1 (next (s.registry.retirePipe crtc).1.length))
      (.abort (u.registry.retirePipe crtc).1 (next (u.registry.retirePipe crtc).1.length)) := by
    rw [hevents]
    exact .abort (.ends ⟨hnext _, hnext _⟩)
  rw [← Agenda.append_nil (.aborting _), ← (hnext _).agenda_eq] at hA
  have hown : own ∈ ((Task.abort (s.registry.retirePipe crtc).1
      (next (s.registry.retirePipe crtc).1.length)).agenda ++ Session.agendaOf ws).unreleased :=
    Agenda.unreleased_append _ _ ▸ List.mem_append_right _ hws.mem_unreleased
  obtain ⟨u', r', ⟨rfl, rfl, htrace⟩, hr', hphase⟩ :=
    (hb'.meets halike hA hown (hnext _).keeps).phase_handler hws ⟨rfl, rfl, rfl⟩ hr
  exact ⟨htrace.symm, hr', hphase⟩

/-- A handler enables or disables a pipe in both courses. -/
theorem Beside.phase_switch (hb : Beside own (w.holding n) (some token) s u)
    (hws : Stacked own token ws ws') (hA : Accounted s (Session.agendaOf ws))
    (hop : op.switches = true) (hr : ∀ v, (Screen.proceed (s.start op)).next ≠ .violated v) :
    Screen.traceOf (s.start op) = Screen.traceOf (u.start op) ∧
      (∀ v, (Screen.proceed (u.start op)).next ≠ .violated v) ∧
      Phase own w (Screen.proceed (s.start op)).screen (Screen.proceed (u.start op)).screen
        ((Screen.proceed (s.start op)).next.above ws)
        ((Screen.proceed (u.start op)).next.above ws') [] := by
  -- The screens have the same pipes, so the call finds the same one on both.
  have hsame : ∀ crtc, s.pipeOf? crtc = u.pipeOf? crtc := fun crtc =>
    congrArg (List.findIdx? _) hb.pipes
  have hfinished : ∀ outcome v, Rest.finished outcome ≠ .violated v := by
    intro outcome v hv
    cases hv
  cases op with
  | enable crtc =>
    simp only [Screen.start, Screen.enable, hsame]
    cases hi : u.pipeOf? crtc with
    | none => exact ⟨rfl, hfinished _, .drains hb hws⟩
    | some i => exact ⟨rfl, hfinished _, .drains (hb.setEnabled i true) hws⟩
  | disable crtc =>
    simp only [Screen.start, Screen.disable, hsame] at hr ⊢
    cases hi : u.pipeOf? crtc with
    | none => exact ⟨rfl, hfinished _, .drains hb hws⟩
    | some i =>
      rw [hi] at hr
      refine (hb.setEnabled i false).phase_retirePipe hws (hA.change .disable) (fun n => ?_) hr
      split_ifs <;> trivial
  | _ => cases hop

end Acts

namespace Course

variable {own : SwapId} {w : Swap} {token : Token} {s u : Screen} {ws ws' : List Wait}
  {h uh hs : List Happening} {fbs ufbs : List Framebuffer} {call : Call} {calls ucalls : List Call}
  {r : Rest} {n : Nat} {x : Wait} {b : Attempt} {act : Act} {conduct : Conduct} {d d' e : Course}

/-- Courses stay on one track if the operations come to rest in the same phase. -/
theorem tracks_resting (hunbroken : e.session.violation = none)
    (hlength : e.calls.length = e.session.waits.length)
    (hfbs : fbs = w.barrier.newFb :: e.framebuffers)
    (hphase : Phase own w s e.session.screen (r.above ws) e.session.waits hs)
    (hh : doings h = hs ++ doings e.history) :
    (resting call calls fbs h s ws r).Tracks own w e :=
  { unbroken := hunbroken
    length := hlength
    framebuffers := framebuffers_resting.trans hfbs
    phase := ⟨hs, by rwa [screen_resting, waits_resting], doings_resting.trans hh⟩ }

/-- Both courses have gone on, and the same happened but for what happened in the swap alone. -/
theorem tracks_of_phase {r' : Rest} {call' : Call} {trace utrace : List Happening}
    (hphase : Phase own w s u (r.above ws) (r'.above ws') hs) (hr : ∀ v, r' ≠ .violated v)
    (hlength : ucalls.length = ws'.length) (hfbs : fbs = w.barrier.newFb :: ufbs)
    (htrace : trace = hs ++ utrace) (hh : doings h = doings uh) :
    (resting call calls fbs (trace ++ h) s ws r).Tracks own w
      (resting call' ucalls ufbs (utrace ++ uh) u ws' r') := by
  have hphase' : Phase own w s (resting call' ucalls ufbs (utrace ++ uh) u ws' r').session.screen
      (r.above ws) (resting call' ucalls ufbs (utrace ++ uh) u ws' r').session.waits hs := by
    rwa [screen_resting, waits_resting]
  refine tracks_resting (unbroken_resting hr) (length_resting hr hlength)
    (hfbs.trans (congrArg _ framebuffers_resting.symm)) hphase' ?_
  rw [doings_resting, htrace, doings_append, doings_append, doings_append, hphase.doings_eq, hh,
    List.append_assoc]

/-- The swap goes on for itself while nothing is carried out in the other course. -/
theorem tracks_of_alone {t : Task} (notices : List Notice)
    (halone : Alone own w s e.session.screen t) (hunbroken : e.session.violation = none)
    (hwaits : e.session.waits = []) (hcalls : e.calls = [])
    (hfbs : fbs = w.barrier.newFb :: e.framebuffers) (hh : doings h = doings e.history) :
    (resting call calls fbs (Screen.traceOf (s.work notices t) ++ h)
      (Screen.proceed (s.work notices t)).screen [] (Screen.proceed (s.work notices t)).next).Tracks
      own w e := by
  have hphase : Phase own w (Screen.proceed (s.work notices t)).screen e.session.screen
      ((Screen.proceed (s.work notices t)).next.above []) [] (Screen.traceOf (s.work notices t)) :=
    (halone.phase ⟨rfl, rfl, rfl⟩).1
  refine tracks_resting hunbroken (by rw [hcalls, hwaits]; rfl) hfbs (by rwa [hwaits]) ?_
  rw [doings_append, hphase.doings_eq, hh]

/-- One act is a row of acts. -/
theorem play_one (hstep : d.step conduct act = some e) : d.play conduct [act] = some e := by
  rw [play, hstep]
  rfl

/-- The pending tokens come to be in another order while nothing or a handler is carried out. -/
theorem step_reorder {table : Table Token (Pending Event)}
    (htop : Session.yields ⟨u, ws, none⟩ = true)
    (htable : table.entries.Perm u.registry.pending.entries) :
    (mk ⟨u, ws, none⟩ ucalls ufbs uh).step conduct (.reorder table) =
      some (mk ⟨u.setRegistry (u.registry.reorder table), ws, none⟩ ucalls ufbs uh) := by
  have hsession : Session.reorder? ⟨u, ws, none⟩ table =
      some (Session.reorder ⟨u, ws, none⟩ table) := if_pos ⟨rfl, htable⟩
  simp only [step, htop, if_true, hsession, Option.map_some]
  rfl

/-- A drain of a client that is called for while nothing is carried out. -/
theorem play_drain (result : Except ChannelError (Option (List Report))) :
    (mk ⟨u, [], none⟩ [] ufbs uh).play .free [.call .drain, .answer (.read result)] =
      some (resting ⟨.drain, u, uh.length, none⟩ [] ufbs
        (Screen.traceOf (u.afterDrain result) ++ uh) (Screen.proceed (u.afterDrain result)).screen
        [] (Screen.proceed (u.afterDrain result)).next) := by
  have hcall : (mk ⟨u, [], none⟩ [] ufbs uh).step .free (.call .drain) =
      some (mk ⟨u, [.reading none], none⟩ [⟨.drain, u, uh.length, none⟩] ufbs uh) :=
    step_call rfl rfl rfl
  rw [play, hcall, Option.bind_some, play, step_answer rfl allowsAnswer_free]
  rfl

/-- A swap that queues a flip goes on. The reads that it makes are the drains of the other
course. -/
theorem step_queues (hx : x = .attempting b ∨ x = .reading (some b))
    (hb : Beside own (w.holding n) (some b.submission.token) s u) (hswap : b.fanout.swap = own)
    (hnone : b.fanout.submitted = 0) (hfbs : fbs = w.barrier.newFb :: ufbs)
    (hh : doings h = doings uh) (hsound : (mk ⟨s, [x], none⟩ [call] fbs h).Sound)
    (hconduct : conduct.Truthful)
    (hstep : (mk ⟨s, [x], none⟩ [call] fbs h).step conduct act = some d)
    (hunbroken : d.session.violation = none) (haccepted : ∀ f, .accepted own f ∉ d.history) :
    ∃ e, (mk ⟨u, [], none⟩ [] ufbs uh).play .free (act.drains own) = some e ∧
      d.Tracks own w e := by
  have hA : Accounted s ((Task.retry b).agenda ++ {}) := by
    rcases hx with rfl | rfl <;> exact hsound.session.accounted
  have hpending : s.registry.isPending b.submission.token = true := by
    rcases hx with rfl | rfl
    · exact hsound.session.top _ rfl
    · exact hsound.session.top _ rfl b rfl
  -- The read did not bring anything, and the drain of the other course is over at once.
  have hempty : ∀ {result notices s' t}, Alone own w s' u t →
      (∃ outcome, u.afterDrain result = u.halt [] (.finished outcome)) →
      ∃ e, (mk ⟨u, [], none⟩ [] ufbs uh).play .free ((Act.answer (.read result)).drains own) =
          some e ∧
        (resting call [] fbs (Screen.traceOf (s'.work notices t) ++ h)
          (Screen.proceed (s'.work notices t)).screen []
          (Screen.proceed (s'.work notices t)).next).Tracks own w e := by
    intro result notices s' t halone ⟨outcome, hdrain⟩
    refine ⟨_, play_drain result, ?_⟩
    rw [hdrain]
    exact tracks_of_alone notices halone rfl rfl rfl hfbs hh
  cases act with
  | call op =>
    obtain ⟨-, htop, -⟩ := of_step_call hstep
    rcases hx with rfl | rfl <;> cases htop
  | answer a =>
    obtain ⟨_, _, _, _, p, ⟨⟩, ⟨⟩, hallows, hresume, rfl⟩ := of_step_answer hstep
    rcases hx with rfl | rfl
    · cases a with
      | submitted result now =>
        refine ⟨_, rfl, ?_⟩
        -- The channel is full, it refuses the flip, or it accepts it, which is ruled out.
        rcases result with (_ | error) | _
        · obtain rfl := Option.some.inj hresume
          exact tracks_resting rfl rfl hfbs (.queues (.inr rfl) hb hswap hnone) hh
        · obtain ⟨s', hfail, halone⟩ := hb.alone_fail hswap hA hpending
            (.submit b.submission.crtc error)
          obtain rfl : s'.work _ _ = p := hfail.symm.trans (Option.some.inj hresume)
          exact tracks_of_alone _ halone rfl rfl rfl hfbs hh
        · refine absurd (mem_history_resting (List.mem_append_right _ ?_)) (haccepted b.submission)
          rw [← hswap]
          exact List.mem_cons_self
      | _ => cases hresume
    · cases a with
      | read result =>
        -- The channel has an error, nothing or some reports.
        rcases result with error | _ | reports
        · obtain ⟨s', hfail, halone⟩ := hb.alone_fail hswap hA hpending (.drain error)
          obtain rfl : s'.work _ _ = p := hfail.symm.trans (Option.some.inj hresume)
          exact hempty halone ⟨_, rfl⟩
        · obtain rfl : s.afterRead b (.ok none) = p := Option.some.inj hresume
          simp only [Screen.afterRead]
          split_ifs with hidle
          · exact hempty (hb.alone_retry (a := { b with idle := b.idle + 1 }) hswap hnone hA)
              ⟨_, rfl⟩
          · obtain ⟨s', hfail, halone⟩ := hb.alone_fail hswap hA hpending
              (.channelStalled b.submission.crtc)
            rw [hfail]
            exact hempty halone ⟨_, rfl⟩
        · obtain rfl : s.afterRead b (.ok (some reports)) = p := Option.some.inj hresume
          -- The channel does not report the flip that is being queued.
          have hreports : ∀ report ∈ reports, some b.submission.token ≠ some report.token := by
            intro report hreport hsame
            refine hconduct _ _ hallows report hreport ?_
            rw [← Option.some.inj hsame]
            exact List.mem_cons_self
          have hA' := hA.change (.read : Change s _ (.read reports) s _)
          rw [← Task.agenda_dispatch_append] at hA'
          obtain ⟨u', r', h', hs, ⟨rfl, rfl, rfl⟩, htrace, hr', hphase⟩ := hb.phase .drain
            (.dispatch hreports (.ends ⟨{ b with idle := 0 },
              .drained (.ok (.handled reports.length)), rfl, rfl, hswap, hnone, rfl⟩)) hA' trivial
            ⟨rfl, rfl, rfl⟩ (ne_violated_of_resting hunbroken)
          exact ⟨_, play_drain (.ok (some reports)), tracks_of_phase hphase hr' rfl hfbs htrace hh⟩
      | _ => cases hresume
  | reorder table =>
    obtain ⟨htop, -, -⟩ := of_step_reorder hstep
    rcases hx with rfl | rfl <;> cases htop

/-- In a drain the other course does the same. -/
theorem step_drains (hb : Beside own (w.holding n) (some token) s u)
    (hws : Stacked own token ws ws') (hfbs : fbs = w.barrier.newFb :: ufbs)
    (hh : doings h = doings uh) (hsound : (mk ⟨s, ws, none⟩ calls fbs h).Sound)
    (hlength : ucalls.length = ws'.length) (hconduct : conduct.Modest own)
    (hstep : (mk ⟨s, ws, none⟩ calls fbs h).step conduct act = some d)
    (hunbroken : d.session.violation = none) :
    ∃ e, (mk ⟨u, ws', none⟩ ucalls ufbs uh).play .free (act.drains own) = some e ∧
      d.Tracks own w e := by
  cases act with
  | call op =>
    obtain ⟨hop, htop, hcalls, rfl⟩ := of_step_call hstep
    -- A handler that calls in one course does so in the other.
    obtain ⟨htrace, hr, hphase⟩ := hb.phase_switch hws hsound.session.accounted
      (hconduct _ _ hcalls).1 (ne_violated_of_resting hunbroken)
    exact ⟨_, play_one (step_call hop (hws.yields.symm.trans htop) rfl),
      tracks_of_phase hphase hr hlength hfbs htrace hh⟩
  | answer a =>
    obtain ⟨ends, x, x', ws, ws', rfl, rfl, hbelow, halike⟩ := hws.uncons
    cases ucalls with
    | nil => cases hlength
    | cons call' ucalls =>
      obtain ⟨_, _, call, calls, p, ⟨⟩, rfl, -, hresume, rfl⟩ := of_step_answer hstep
      obtain ⟨notices, t, t', ht, hproceeds, hagenda, rfl, hresume', hs, hs', hbrings, hbrings',
        hdrains⟩ := halike.resume (hsound.session.top x rfl) hresume
      have hA : Accounted s (x.agenda ++ Session.agendaOf ws) := hsound.session.accounted
      rw [hagenda] at hA
      obtain ⟨u', r', h', hs₁, ⟨rfl, rfl, rfl⟩, htrace, hr', hphase⟩ := hb.phase hbelow ht hA
        hproceeds ⟨rfl, rfl, rfl⟩ (ne_violated_of_resting hunbroken)
      rw [hs, hbrings, hdrains]
      refine ⟨_, play_one (step_answer (hresume' u) allowsAnswer_free), ?_⟩
      rw [hs', hbrings']
      exact tracks_of_phase hphase hr' (Nat.succ.inj hlength) hfbs htrace hh
  | reorder table =>
    obtain ⟨htop, htable, rfl⟩ := of_step_reorder hstep
    -- The order of the other tokens is the same in both courses.
    obtain ⟨htable', hb'⟩ := hb.reorder htable
    exact ⟨_, play_one (step_reorder (hws.yields.symm.trans htop) htable'),
      ⟨rfl, hlength, hfbs, [], .drains hb' hws, hh⟩⟩

end Course

/-! ## The end of the swap -/

/-- No token is pending for the swap. -/
def Screen.FreeOf (s : Screen) (own : SwapId) : Prop :=
  ∀ t p, s.registry.pending.find? t = some p → p.event.isOf own = false

/-- No token is pending for a swap that is not there. -/
theorem Accounted.freeOf_length {s : Screen} {k : Agenda} (h : Accounted s k) :
    s.FreeOf s.swaps.length := by
  intro t p hp
  obtain ⟨f, hf, hlt⟩ := h.events p.event
    (List.mem_append_left _ (Registry.mem_events_iff.2 ⟨t, p, hp, rfl⟩))
  rw [hf, Event.isOf_flip, beq_eq_false_iff_ne]
  exact Nat.ne_of_lt hlt

/-- The screen has what `u` has and one more swap. Only the number at which the search for tokens
starts may be another one. -/
structure Screen.Extends (s u : Screen) (w : Swap) : Prop where
  pipes : s.pipes = u.pipes
  slots : s.slots = u.slots
  config : s.config = u.config
  max : s.registry.max = u.registry.max
  pending : s.registry.pending = u.registry.pending
  retired : s.registry.retired = u.registry.retired
  swaps : s.swaps = u.swaps ++ [w]

/-- The course `d` is as `e` but for a swap that was undone: its framebuffer was imported and given
up, and its client was told that it was aborted. -/
structure Course.Undoes (own : SwapId) (w : Swap) (d e : Course) : Prop where
  screen : d.session.screen.Extends e.session.screen w.settled
  framebuffers : d.framebuffers = w.barrier.newFb :: e.framebuffers
  history : doings d.history =
    .destroyed own w.barrier.newFb :: .told own (.swap w.client none) :: doings e.history

/-- When the handler of an aborted swap returns, the slot gets back what it held before, and the
framebuffer of the swap is given up. -/
theorem Beside.reclaim_own {own : SwapId} {w : Swap} {s u : Screen}
    (h : Beside own w.settled none s u) (hfb : w.barrier.newFb.isNone = false) (next : Task) :
    ∃ s', s.Runs (.reclaim own ⟨none, false⟩ next) s' (.waiting (.destroying w.barrier.newFb next))
      [.destroyed own w.barrier.newFb] ∧ s'.Extends u w.settled ∧ s'.FreeOf own := by
  have hslots : s.slots = u.slots.set w.slot w.barrier.newFb := h.slots
  have hstep : s.step (.reclaim own ⟨none, false⟩ next) =
      (s.assign w.slot (if s.held w.slot = w.barrier.newFb then w.barrier.oldFb
        else s.held w.slot)).halt [] (.waiting (.destroying w.barrier.newFb next)) := by
    simp only [Screen.step, Screen.reclaim, h.getElem?_own]
    exact if_neg (by rw [Bool.not_eq_true]; exact hfb)
  have hruns := Screen.runs_of_step (congrArg Progress.next hstep)
  rw [Screen.happens, hstep] at hruns
  refine ⟨_, hruns,
    { h with slots := ?_, max := h.registry.max.symm, pending := ?_, retired := ?_ },
    fun t p hp => Bool.eq_false_iff.2 fun hown => ?_⟩
  · -- The slot holds the framebuffer of the swap, unless the screen has no such slot.
    have hset : ∀ fb, (s.assign w.slot fb).slots = u.slots.set w.slot fb := by
      intro fb
      show s.slots.set w.slot fb = _
      rw [hslots, List.set_set]
    show (s.assign w.slot _).slots = u.slots
    rw [hset]
    by_cases hlt : w.slot < u.slots.length
    · have hheld : s.held w.slot = w.barrier.newFb := by
        rw [Screen.held, hslots, List.getElem?_set_self hlt]
        rfl
      have hold : u.held w.slot = w.barrier.oldFb := h.displaced
      rw [if_pos hheld, ← hold]
      exact congrArg Screen.slots (u.assign_held w.slot)
    · exact List.set_eq_of_length_le (Nat.le_of_not_lt hlt)
  · exact h.registry.pending.symm
  · exact h.registry.retired.symm
  · cases (h.own t p hp).1 hown

namespace Course

variable {own : SwapId} {w : Swap} {act : Act} {conduct : Conduct} {d d' e : Course}

/-- A swap that is tracked is not over. -/
theorem Tracks.waits_ne_nil (h : d.Tracks own w e) : d.session.waits ≠ [] := by
  obtain ⟨hs, hphase, -⟩ := h.phase
  generalize d.session.waits = ws, e.session.waits = ws' at hphase ⊢
  cases hphase with
  | drains _ hws => cases hws <;> exact List.cons_ne_nil _ _
  | _ => exact List.cons_ne_nil _ _

/-- The swap goes on, and the other course follows with a drain, or the handler of the aborted swap
returns. -/
theorem Tracks.step (h : d.Tracks own w e) (hsound : d.Sound) (htruthful : conduct.Truthful)
    (hmodest : conduct.Modest own) (hfb : w.barrier.newFb.isNone = false)
    (hstep : d.step conduct act = some d') (hunbroken : d'.session.violation = none)
    (haccepted : ∀ f, .accepted own f ∉ d'.history) :
    (∃ e', e.play .free (act.drains own) = some e' ∧ d'.Tracks own w e') ∨
    act = .answer .returned ∧ e.isIdle = true ∧ d'.Undoes own w e ∧
      d'.session.screen.FreeOf own ∧
        ∃ next, d'.session.waits = [.destroying w.barrier.newFb next] ∧ next.Closes := by
  obtain ⟨⟨s, ws, violation⟩, calls, fbs, hist⟩ := d
  obtain rfl : violation = none := hsound.session.unbroken
  obtain ⟨hunbroken', hlength, hfbs, hs, hphase, hh⟩ := h
  obtain ⟨⟨u, ws', violation⟩, ucalls, ufbs, uh⟩ := e
  obtain rfl : violation = none := hunbroken'
  dsimp only at hphase hh hfbs hlength
  cases hphase with
  | queues hx hb hswap hnone =>
    obtain rfl : ucalls = [] := List.length_eq_zero_iff.1 hlength
    obtain ⟨call, rfl⟩ : ∃ call, calls = [call] := List.length_eq_one_iff.1 hsound.length
    exact .inl (step_queues hx hb hswap hnone hfbs hh hsound htruthful hstep hunbroken haccepted)
  | drains hb hws =>
    exact .inl (step_drains hb hws hfbs hh hsound hlength hmodest hstep hunbroken)
  | @aborts next hb hnext =>
    obtain ⟨call, rfl⟩ : ∃ call, calls = [call] := List.length_eq_one_iff.1 hsound.length
    cases act with
    | reorder table =>
      left
      obtain ⟨-, htable, rfl⟩ := of_step_reorder hstep
      obtain ⟨htable', hb'⟩ := hb.reorder htable
      exact ⟨_, play_one (step_reorder rfl htable'),
        ⟨rfl, hlength, hfbs, [.told own (.swap w.client none)], .aborts hb' hnext, hh⟩⟩
    | call op =>
      -- The handler is that of the swap.
      obtain ⟨-, -, hcalls, -⟩ := of_step_call hstep
      obtain ⟨-, e, he, hne⟩ := hmodest _ _ hcalls
      cases he
      exact absurd rfl hne
    | answer a =>
      right
      obtain ⟨_, _, _, _, p, ⟨⟩, ⟨⟩, -, hresume, rfl⟩ := of_step_answer hstep
      cases a with
      | returned =>
        obtain rfl := Option.some.inj hresume
        obtain ⟨s', ⟨hscreen, hrest, htrace⟩, hextends, hfree⟩ := hb.reclaim_own hfb next
        refine ⟨rfl, rfl, ⟨?_, ?_, ?_⟩, ?_, next, ?_, hnext⟩
        · rw [screen_resting]
          exact hscreen ▸ hextends
        · exact framebuffers_resting.trans hfbs
        · have hdestroyed : Screen.traceOf (s.work [] (.reclaim own ⟨none, false⟩ next)) =
              [.destroyed own w.barrier.newFb] := htrace
          rw [doings_resting, doings_append, hdestroyed]
          exact congrArg (_ :: ·) hh
        · rw [screen_resting]
          exact hscreen ▸ hfree
        · have hwaits : (Screen.proceed (s.work [] (.reclaim own ⟨none, false⟩ next))).next = _ :=
            hrest
          rw [waits_resting, hwaits]
          rfl
      | _ => cases hresume

end Course

end PageFlip
