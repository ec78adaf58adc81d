import PageFlip.Proofs.Deed

/-!
# Acts proceed by deeds

Every act of a course is a row of deeds, of which at most the last one registers a flip
(`Course.passage_of_step`). So what each deed keeps holds of every course that is not broken
(`Course.keeps`).
-/

namespace PageFlip

open Relation (ReflTransGen ReflGen)

variable {conduct : Conduct}

/-- Any number of deeds that register no flip. -/
abbrev Plainly (conduct : Conduct) : Scene → Scene → Prop :=
  ReflTransGen fun a b => Deed conduct a b ∧ b.screen.registry.next = a.screen.registry.next

/-- A row of deeds of which at most the last one registers a flip. -/
def Passage (conduct : Conduct) (m₀ m : Scene) : Prop :=
  ∃ m₁, Plainly conduct m₀ m₁ ∧ ReflGen (Deed conduct) m₁ m

/-- Deeds keep the accounts in order. -/
theorem Plainly.accounted {m₀ m : Scene} (h : Plainly conduct m₀ m)
    (hA : Accounted m₀.screen m₀.agenda) : Accounted m.screen m.agenda := by
  induction h with
  | refl => exact hA
  | tail _ hd ih => exact hd.1.accounted ih

/-- What each deed keeps, a row of deeds keeps. -/
theorem Plainly.keeps {I : Scene → Prop}
    (hI : ∀ m m', Accounted m.screen m.agenda → I m → Deed conduct m m' → I m') {m₀ m : Scene}
    (h : Plainly conduct m₀ m) (hA : Accounted m₀.screen m₀.agenda) (h₀ : I m₀) : I m := by
  induction h with
  | refl => exact h₀
  | tail hpath hd ih => exact hI _ _ (Plainly.accounted hpath hA) ih hd.1

/-- What each deed keeps, a row of them keeps. -/
theorem Passage.keeps {I : Scene → Prop}
    (hI : ∀ m m', Accounted m.screen m.agenda → I m → Deed conduct m m' → I m') {m₀ m : Scene}
    (h : Passage conduct m₀ m) (hA : Accounted m₀.screen m₀.agenda) (h₀ : I m₀) : I m := by
  obtain ⟨m₁, hplain, hlast⟩ := h
  have h₁ := hplain.keeps hI hA h₀
  cases hlast with
  | refl => exact h₁
  | single hd => exact hI _ _ (hplain.accounted hA) h₁ hd

/-! ## From a task to rest -/

/-- Where an operation is that has come from the scene `m₀` by deeds: it goes on with a task, it
waits, or it has returned. -/
def Arrives (conduct : Conduct) (call : Call) (ls : List Level) (fbs : List Framebuffer)
    (m₀ : Scene) (s : Screen) (f : Follow) (h : List Happening) : Prop :=
  match f with
  | .inl t => t.Proceeds ∧ Plainly conduct m₀ ⟨s, t.level call :: ls, fbs, h⟩
  | .inr (.waiting w) => Passage conduct m₀ ⟨s, w.level call :: ls, fbs, h⟩
  | .inr (.finished outcome) =>
    Passage conduct m₀ ⟨s, ls, fbs, .returned call outcome s :: h⟩
  | .inr (.violated _) => True

section Arrives

variable {call : Call} {ls : List Level} {fbs : List Framebuffer} {m₀ m : Scene}
  {h : List Happening} {p : Progress Follow}

/-- After a part of an operation the operation is where that part leads. -/
theorem arrives_of_does (hpath : Plainly conduct m₀ m) (hdoes : Does conduct call ls fbs m h p) :
    Arrives conduct call ls fbs m₀ p.screen p.next h := by
  cases hdoes with
  | next hp ht hnumber hd =>
    rw [hp]
    exact ⟨Task.proceeds_of_keeps ht, hpath.tail ⟨hd, hnumber⟩⟩
  | wait hp hd =>
    rw [hp]
    exact ⟨m, hpath, .single hd⟩
  | finish hp hm =>
    rw [hp]
    exact ⟨m, hpath, .single (hm ▸ .finish)⟩
  | violated hp =>
    rw [hp]
    trivial

/-- What follows on a part of an operation until it comes to rest is a row of deeds. -/
theorem arrives_of_proceed (hA : Accounted m₀.screen m₀.agenda)
    (hp : Arrives conduct call ls fbs m₀ p.screen p.next (p.next.tells ++ h)) :
    Arrives conduct call ls fbs m₀ (Screen.proceed p).screen (.inr (Screen.proceed p).next)
      (Screen.traceOf p ++ h) := by
  -- What is left to do stays accounted for along the deeds, as each step needs it.
  refine Screen.proceed_induct (fun s t h ht => ?_) hp
  exact arrives_of_does ht.2 (Screen.step_does (ht.2.accounted hA) ht.1)

end Arrives

/-! ## From rest to rest -/

/-- The tokens of the reports in an answer. -/
def Answer.reported : Answer → List Token
  | read (.ok (some reports)) => reports.map Report.token
  | _ => []

/-- A move after which no rule is broken leads by changes to a sound session. -/
theorem World.evolution_of_step (apart : Moment → Prop) {w w' : World} {move : Move}
    (hs : w.session.Sound true) (hstep : w.step .free move = some w')
    (hunbroken : w'.session.violation = none) (hapart : apart w'.moment) :
    w'.session.Sound true ∧ Evolution .free apart w.moment w'.moment := by
  cases World.reached_of_step apart hs hstep hapart with
  | sound hpath hs' => exact ⟨hs', hpath⟩
  | stray _ _ _ _ _ hv =>
    rw [hunbroken] at hv
    cases hv

namespace Session

variable {s : Session} {t : Turn} (apart : Moment → Prop)

/-- Nobody but the session itself makes a difference to whether it is sound. -/
theorem Sound.call {op : Operation} (hs : s.Sound true)
    (hop : op.isRegular = true) (htop : s.yields = true)
    (hcall : s.call op = some t) (hunbroken : t.session.violation = none)
    (hapart : ∀ l, apart ⟨t.session.screen, t.session.agenda, l⟩) :
    t.session.Sound true ∧ ∃ l l', Evolution .free apart ⟨s.screen, s.agenda, l⟩
      ⟨t.session.screen, t.session.agenda, l'⟩ := by
  let w : World := ⟨s, { framebuffers := [] }⟩
  have hallows : w.allowsCall .free op = true := by
    simp only [World.allowsCall, Bool.and_eq_true]
    exact ⟨hop, htop⟩
  have hstep : w.step .free (.call op) = some (World.after { framebuffers := [] } t) := by
    simp only [w, World.step, hallows, if_true, hcall, Option.map_some]
  obtain ⟨hs', hpath⟩ := World.evolution_of_step apart (w := w) hs hstep hunbroken (hapart _)
  exact ⟨hs', _, _, hpath⟩

/-- An answer after which no rule is broken leads by changes to a sound session. -/
theorem Sound.answer {a : Answer} (hs : s.Sound true) (hanswer : s.answer a = some t)
    (hunbroken : t.session.violation = none)
    (hapart : ∀ l, apart ⟨t.session.screen, t.session.agenda, l⟩) :
    t.session.Sound true ∧ ∃ l l', Evolution .free apart ⟨s.screen, s.agenda, l⟩
      ⟨t.session.screen, t.session.agenda, l'⟩ := by
  -- The channel of the world has just the reports that are read.
  let w : World := ⟨s, { framebuffers := [], readable := a.reported }⟩
  cases hwaits : s.waits with
  | nil =>
    simp only [Session.answer, hwaits] at hanswer
    cases hv : s.violation <;> simp [hv] at hanswer
  | cons wait waits =>
    have hallows : w.allowsAnswer .free wait a = true := by
      unfold World.allowsAnswer
      split
      · rfl
      · rfl
      · exact decide_eq_true (List.Subperm.refl _)
      · rfl
    have hstep : w.step .free (.answer a) =
        some (World.after (Ledger.hear w.moment wait a) t) := by
      simp only [w, World.step, hwaits, hallows, if_true, hanswer, Option.map_some]
    obtain ⟨hs', hpath⟩ := World.evolution_of_step apart (w := w) hs hstep hunbroken (hapart _)
    exact ⟨hs', _, _, hpath⟩

end Session

namespace Course

/-- No rule is broken, what waits is as it should be, and each unfinished operation has its call. -/
structure Sound (c : Course) : Prop where
  session : c.session.Sound true
  length : c.calls.length = c.session.waits.length

variable {c d : Course} {act : Act} {acts : List Act}

/-- At first nothing waits. -/
theorem sound_new (pipes : List Pipe) (slots : List Framebuffer) (config : Config) :
    (new pipes slots config).Sound :=
  ⟨(World.sound_new pipes slots config : Session.Sound Rules.free.nested _), rfl⟩

/-- What is left to do says nothing of the calls. -/
theorem agendaOf_zipWith : ∀ {waits : List Wait} {calls : List Call},
    calls.length = waits.length →
    Scene.agendaOf (List.zipWith Wait.level waits calls) = Session.agendaOf waits
  | [], _, _ => rfl
  | w :: waits, [], hlength => by cases hlength
  | w :: waits, call :: calls, hlength =>
    congrArg (w.agenda ++ ·) (agendaOf_zipWith (Nat.succ.inj hlength))

/-- In a sound course the accounts are in order. -/
theorem Sound.accounted (hs : c.Sound) : Accounted c.session.screen c.scene.agenda := by
  have hagenda : c.scene.agenda = c.session.agenda := agendaOf_zipWith hs.length
  rw [hagenda]
  exact hs.session.accounted

/-- The end of an operation in which no rule is broken. -/
theorem passage_of_arrives {m₀ : Scene} {call : Call} {calls : List Call} {waits : List Wait}
    {fbs : List Framebuffer} {h : List Happening} {s : Screen} {r : Rest}
    (harrives : Arrives conduct call (List.zipWith Wait.level waits calls) fbs m₀ s (.inr r) h)
    (hr : ∀ v, r ≠ .violated v) :
    Passage conduct m₀ (resting call calls fbs h s waits r).scene := by
  cases r with
  | waiting w => exact harrives
  | finished outcome => exact harrives
  | violated v => exact absurd rfl (hr v)

/-- A client that may call does so while nothing is carried out, or from a handler. -/
theorem inHandler_of_yields {s : Session} (hs : s.Sound true) (htop : s.yields = true)
    (calls : List Call) : InHandler (List.zipWith Wait.level s.waits calls) := by
  intro l hl
  obtain ⟨s, waits, violation⟩ := s
  cases waits with
  | nil => cases hl
  | cons wait waits =>
    cases calls with
    | nil => cases hl
    | cons call calls =>
      cases hl
      have hwait := hs.top wait rfl
      cases wait with
      | telling news next =>
        cases next with
        | reclaim id v next => exact List.cons_ne_nil _ _
        | _ => exact hwait.elim
      | _ => cases htop

/-- The end of an operation that disables a pipe. -/
theorem level_disabled (call : Call) (events : List Event) (notice : Notice) (n : Nat) :
    (Task.abort events (if 0 < n then .say notice (.finish .done) else .finish .done)).level call =
      ⟨call, .aborting events, .returning .done⟩ := by
  split_ifs <;> exact congrArg (fun g => Level.mk call g _) (Agenda.append_nil _)

section Acts

variable {s : Screen} {ls : List Level} {fbs : List Framebuffer} {h : List Happening} {call : Call}
  {p : Progress Follow} {wait : Wait}

/-- The start of an operation is a deed. -/
theorem arrives_of_start {op : Operation}
    (hop : op.isRegular = true)
    (hcall : conduct.calls ⟨s, ls, fbs, h⟩ op = true) (htop : InHandler ls) :
    Arrives conduct ⟨op, s, h.length, none⟩ ls fbs ⟨s, ls, fbs, h⟩ (s.start op).screen
      (s.start op).next ((s.start op).next.tells ++ h) := by
  cases op with
  | swap r => exact ⟨_, .refl, .single (.call hcall htop (.swap r))⟩
  | drain => exact ⟨_, .refl, .single (.call hcall htop .drain)⟩
  | disable crtc =>
    cases hi : s.pipeOf? crtc with
    | none =>
      simp only [Screen.start, Screen.disable, hi]
      exact ⟨_, .single ⟨.call hcall htop (.disable hi), rfl⟩, .single .finish⟩
    | some i =>
      -- What was pending is to be aborted, and a line follows if there was anything.
      simp only [Screen.start, Screen.disable, hi]
      refine ⟨?_, ?_⟩
      · dsimp only [Task.Proceeds, Task.Keeps]
        split_ifs <;> trivial
      · refine .single ⟨?_, rfl⟩
        rw [level_disabled]
        exact .disable hcall htop hi
  | enable crtc =>
    cases hi : s.pipeOf? crtc with
    | none =>
      simp only [Screen.start, Screen.enable, hi]
      exact ⟨_, .single ⟨.call hcall htop (.enable hi), rfl⟩, .single .finish⟩
    | some i =>
      simp only [Screen.start, Screen.enable, hi]
      exact ⟨_, .single ⟨.enable hcall htop hi, rfl⟩, .single .finish⟩
  | _ => cases hop

/-- The answer to a read that was made because the channel was full. -/
theorem arrives_of_afterRead {a : Attempt} {result : Except ChannelError (Option (List Report))}
    (hA : Accounted s ((Task.retry a).agenda ++ Scene.agendaOf ls))
    (hpending : s.registry.isPending a.submission.token = true)
    (hreads : ∀ reports, result = .ok (some reports) →
      conduct.reads ⟨s, (Task.retry a).level call :: ls, fbs, h⟩ reports = true) :
    Arrives conduct call ls fbs ⟨s, (Task.retry a).level call :: ls, fbs, h⟩
      (s.afterRead a result).screen (s.afterRead a result).next
      ((s.afterRead a result).next.tells ++ h) := by
  rcases result with e | _ | reports
  · exact arrives_of_does .refl (Screen.fail_does hA hpending fun _ he => by cases he)
  · -- Too many reads without a report make the flip fail.
    simp only [Screen.afterRead]
    split_ifs with hidle
    · exact ⟨trivial, .refl⟩
    · exact arrives_of_does .refl (Screen.fail_does hA hpending fun _ he => by cases he)
  · exact ⟨trivial, .single ⟨.read (hreads reports rfl), rfl⟩⟩

/-- The answer to a client's own read. -/
theorem arrives_of_afterDrain {result : Except ChannelError (Option (List Report))}
    (hreads : ∀ reports, result = .ok (some reports) →
      conduct.reads ⟨s, ⟨call, {}, .reading⟩ :: ls, fbs, h⟩ reports = true) :
    Arrives conduct call ls fbs ⟨s, ⟨call, {}, .reading⟩ :: ls, fbs, h⟩
      (s.afterDrain result).screen (s.afterDrain result).next
      ((s.afterDrain result).next.tells ++ h) := by
  rcases result with e | _ | reports
  · exact ⟨_, .single ⟨.pass .read, rfl⟩, .single .finish⟩
  · exact ⟨_, .single ⟨.pass .read, rfl⟩, .single .finish⟩
  · exact ⟨trivial, .single ⟨.drain (hreads reports rfl), rfl⟩⟩

/-- The channel accepted a flip. -/
theorem arrives_of_accepted {a : Attempt} {now : Instant}
    (hA : Accounted s ((Task.retry a).agenda ++ Scene.agendaOf ls)) :
    Arrives conduct call ls fbs ⟨s, (Task.retry a).level call :: ls, fbs, h⟩
      (s.accepted a now).screen (s.accepted a now).next
      ((s.accepted a now).next.tells ++ .accepted a.fanout.swap a.submission :: h) := by
  have hlt : a.fanout.swap < s.swaps.length := hA.unreleased a.fanout.swap List.mem_cons_self
  have hw := List.getElem?_eq_getElem hlt
  simp only [Screen.accepted, hw]
  exact ⟨trivial, .single ⟨.accept hw, rfl⟩⟩

/-- Where an answer leads the operation that it is given to. -/
theorem arrives_of_resume {a : Answer} (hA : Accounted s (wait.agenda ++ Scene.agendaOf ls))
    (hwait : wait.Sound s)
    (himports : ∀ p fb, wait = .importing p → a = .imported (.ok fb) →
      conduct.imports ⟨s, wait.level call :: ls, fbs, h⟩ fb = true)
    (hreads : ∀ owner reports, wait = .reading owner → a = .read (.ok (some reports)) →
      conduct.reads ⟨s, wait.level call :: ls, fbs, h⟩ reports = true)
    (hresume : s.resume wait a = some p) :
    Arrives conduct (call.hear s wait a) ls (a.brings wait ++ fbs)
      ⟨s, wait.level call :: ls, fbs, h⟩ p.screen p.next
      (p.next.tells ++ (a.happens wait ++ h)) := by
  cases wait with
  | importing prep =>
    cases a with
    | imported result =>
      cases result with
      | ok fb =>
        obtain rfl : s.launch prep fb = p := Option.some.inj hresume
        exact ⟨trivial, .single ⟨.launch (himports prep fb rfl rfl), rfl⟩⟩
      | error e =>
        obtain rfl := Option.some.inj hresume
        -- Without a framebuffer the call returns at once.
        exact ⟨_, .refl, .single .refuse⟩
    | _ => cases hresume
  | attempting b =>
    cases a with
    | submitted result now =>
      -- The channel is full, it refuses the flip, or it accepts it.
      rcases result with (_ | e) | _
      · obtain rfl := Option.some.inj hresume
        exact ⟨_, .refl, .refl⟩
      · obtain rfl := Option.some.inj hresume
        exact arrives_of_does .refl (Screen.fail_does hA hwait fun _ => nofun)
      · obtain rfl : s.accepted b now = p := Option.some.inj hresume
        exact arrives_of_accepted hA
    | _ => cases hresume
  | submitting f => exact hwait.elim
  | reading owner =>
    cases a with
    | read result =>
      cases owner with
      | none =>
        obtain rfl : s.afterDrain result = p := Option.some.inj hresume
        exact arrives_of_afterDrain fun reports hr => hreads none reports rfl (by rw [hr])
      | some b =>
        obtain rfl : s.afterRead b result = p := Option.some.inj hresume
        exact arrives_of_afterRead hA (hwait b rfl) fun reports hr =>
          hreads (some b) reports rfl (by rw [hr])
    | _ => cases owner <;> cases hresume
  | telling news next =>
    cases a with
    | returned =>
      obtain rfl : s.work [] next = p := Option.some.inj hresume
      cases next with
      | reclaim id v next =>
        -- Handlers are only told of swaps here.
        exact ⟨hwait.2, .refl⟩
      | _ => exact hwait.elim
    | _ => cases hresume
  | destroying fb next =>
    cases a with
    | destroyed result =>
      cases result with
      | ok =>
        obtain rfl : s.work [] next = p := Option.some.inj hresume
        exact ⟨Task.proceeds_of_keeps hwait, .refl⟩
      | error e =>
        obtain rfl : s.work [.leaked fb e] next = p := Option.some.inj hresume
        exact ⟨Task.proceeds_of_keeps hwait, .refl⟩
    | _ => cases hresume

end Acts

/-- An act leads by changes to a sound session, unless it breaks a rule. -/
theorem evolution_of_step (apart : Moment → Prop) (hs : c.session.Sound true)
    (hstep : c.step conduct act = some d) (hunbroken : d.session.violation = none)
    (hapart : ∀ l, apart ⟨d.session.screen, d.session.agenda, l⟩) :
    d.session.Sound true ∧ ∃ l l', Evolution .free apart ⟨c.session.screen, c.session.agenda, l⟩
      ⟨d.session.screen, d.session.agenda, l'⟩ := by
  have hsession := session_step hstep
  cases act with
  | call op =>
    obtain ⟨hop, htop, -, -⟩ := of_step_call hstep
    obtain ⟨t, hturn, ht⟩ := Option.map_eq_some_iff.1 hsession
    rw [← ht] at hunbroken hapart ⊢
    exact hs.call apart hop htop hturn hunbroken hapart
  | answer a =>
    obtain ⟨t, hturn, ht⟩ := Option.map_eq_some_iff.1 hsession
    rw [← ht] at hunbroken hapart ⊢
    exact hs.answer apart hturn hunbroken hapart
  | reorder table =>
    obtain ⟨-, htable, rfl⟩ := of_step_reorder hstep
    let l : Ledger := { framebuffers := [] }
    exact ⟨hs.reorder htable, l, l, .single (.change (.reorder htable) trivial)⟩

/-- An act is a row of deeds, and the course is sound afterwards, unless it is broken. -/
theorem passage_of_step (hs : c.Sound) (hstep : c.step conduct act = some d)
    (hunbroken : d.session.violation = none) : Passage conduct c.scene d.scene ∧ d.Sound := by
  have hA := hs.accounted
  obtain ⟨hsound, -⟩ :=
    evolution_of_step (fun _ => True) hs.session hstep hunbroken fun _ => trivial
  obtain ⟨⟨s, waits, violation⟩, calls, fbs, h⟩ := c
  obtain rfl : violation = none := unbroken_of_step hstep
  cases act with
  | call op =>
    obtain ⟨hop, htop, hcalls, rfl⟩ := of_step_call hstep
    have hr := ne_violated_of_resting hunbroken
    have hhandler := inHandler_of_yields hs.session htop calls
    have harrives := arrives_of_proceed (h := h) hA (arrives_of_start hop hcalls hhandler)
    exact ⟨passage_of_arrives harrives hr, hsound, length_resting hr hs.length⟩
  | answer a =>
    obtain ⟨wait, waits, call, calls, p, rfl, rfl, hallows, hresume, rfl⟩ := of_step_answer hstep
    have hr := ne_violated_of_resting hunbroken
    have hrest : Arrives conduct (call.hear s wait a) _ (a.brings wait ++ fbs)
        ⟨s, wait.level call :: List.zipWith Wait.level waits calls, fbs, h⟩ p.screen p.next _ :=
      arrives_of_resume hA (hs.session.top wait rfl)
        (fun prep fb hw ha => by subst hw ha; exact hallows)
        (fun owner reports hw ha => by subst hw ha; exact hallows) hresume
    exact ⟨passage_of_arrives (arrives_of_proceed hA hrest) hr, hsound,
      length_resting hr (Nat.succ.inj hs.length)⟩
  | reorder table =>
    obtain ⟨htop, htable, rfl⟩ := of_step_reorder hstep
    have hhandler := inHandler_of_yields hs.session htop calls
    exact ⟨⟨_, .refl, .single (.reorder hhandler htable)⟩, hsound, hs.length⟩

/-- What each deed keeps holds of every course that is not broken. -/
theorem keeps {I : Scene → Prop}
    (hI : ∀ m m', Accounted m.screen m.agenda → I m → Deed conduct m m' → I m')
    (hs : c.Sound) (hc : I c.scene) (hplay : c.play conduct acts = some d)
    (hunbroken : d.session.violation = none) : d.Sound ∧ I d.scene := by
  refine play_induct (P := fun e => e.session.violation = none → e.Sound ∧ I e.scene) ?_
    (fun _ => ⟨hs, hc⟩) hplay hunbroken
  intro e e' act he hstep hunbroken'
  obtain ⟨hs, hI₀⟩ := he (unbroken_of_step hstep)
  obtain ⟨hpassage, hs'⟩ := passage_of_step hs hstep hunbroken'
  exact ⟨hs', hpassage.keeps hI hs.accounted hI₀⟩

end Course

end PageFlip
