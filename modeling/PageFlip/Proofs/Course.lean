import PageFlip.Proofs.World

/-!
# Courses of a session

A `Course` is a session with its unfinished calls and with everything that has happened in it: the
flips that the channel accepted, the flips that a report resolved, what the client was told, the
framebuffers that the device was asked to give up, and the calls that returned.
`Course.step` carries out one act of the surroundings, a call or an answer, and `Course.play` a row
of acts. The session of a course moves on by `Session.call` and `Session.answer` alone
(`Course.session_step`).

In every course the client calls while no operation is unfinished or from a handler, and the device
and the channel do not call. A `Conduct` says what else is expected of the surroundings. Unlike the
channel of a `World`, that of a course may say anything at any time, if its conduct lets it.

The table of the pending tokens may come to be in another order whenever the client may call. At
other times that would make no difference, because only a pipe that is disabled shows the order.
-/

namespace PageFlip

/-- A call of the client. -/
structure Call where
  op : Operation
  /-- The screen that the call found. -/
  found : Screen
  /-- How much had happened before. -/
  since : Nat
  /-- The swap that the call brought, once its framebuffer was imported. -/
  swap : Option SwapId

/-- The slot that an operation writes. -/
def Operation.slot? (s : Screen) : Operation → Option Slot
  | swap r => some (s.prepare r).slot
  | _ => none

/-- The slot that a call writes. -/
def Call.slot? (call : Call) : Option Slot := call.op.slot? call.found

/-- Something that happened in a session. -/
inductive Happening
  /-- The channel accepted a flip of a swap. -/
  | accepted (id : SwapId) (f : Submission)
  /-- A report resolved a flip of a swap. -/
  | resolved (id : SwapId) (report : Report)
  /-- The client was told the outcome of a swap. -/
  | told (id : SwapId) (news : News)
  /-- The device was asked to give up the framebuffer that a swap left over. -/
  | destroyed (id : SwapId) (fb : Framebuffer)
  /-- A call returned and left the screen as it is here. -/
  | returned (call : Call) (outcome : Outcome) (left : Screen)

/-! ## What happens in an operation -/

/-- A handler is told the outcome of a swap. -/
def Follow.tells : Follow → List Happening
  | .inr (.waiting (.telling news (.reclaim id _ _))) => [.told id news]
  | _ => []

/-- A task gives up a framebuffer that a swap leaves over. -/
def Task.destroys : Task → Follow → List Happening
  | .reclaim id _ _, .inr (.waiting (.destroying fb _)) => [.destroyed id fb]
  | _, _ => []

/-- One step more than a task needs is enough. -/
theorem Task.weight_lt_succ (t : Task) : t.weight < t.weight + 1 := Nat.lt_succ_self _

namespace Screen

/-- A report that is dispatched resolves the flip of its token, unless it comes late. -/
def resolves (s : Screen) : Task → List Happening
  | .dispatch (report :: _) _ =>
    match s.registry.forget? report.token, s.registry.pending.find? report.token with
    | none, some ⟨_, .flip f⟩ => [.resolved f.swap report]
    | _, _ => []
  | _ => []

/-- What happens in one step, the last first. -/
def happens (s : Screen) (t : Task) : List Happening :=
  (s.step t).next.tells ++ t.destroys (s.step t).next ++ s.resolves t

/-- A step that leads to another task needs one more to come to rest. -/
theorem weight_lt_of_next {s : Screen} {t u : Task} {fuel : Nat}
    (hp : (s.step t).next = .inl u) (h : t.weight < fuel + 1) : u.weight < fuel :=
  Nat.lt_of_lt_of_le (weight_lt_of_step hp) (Nat.le_of_lt_succ h)

/-- What happens until the operation comes to rest, in at most `fuel` steps. -/
def traceWithin (fuel : Nat) (s : Screen) (t : Task) (h : t.weight < fuel) : List Happening :=
  match fuel, h with
  | fuel + 1, h =>
    match hp : (s.step t).next with
    | .inl u =>
      (s.step t).screen.traceWithin fuel u (weight_lt_of_next hp h) ++ s.happens t
    | .inr _ => s.happens t

/-- What happens until the operation comes to rest. -/
def trace (s : Screen) (t : Task) : List Happening :=
  s.traceWithin (t.weight + 1) t t.weight_lt_succ

/-- What happens from a progress until the operation comes to rest. -/
def traceOf (p : Progress Follow) : List Happening :=
  match p.next with
  | .inl t => p.screen.trace t
  | .inr r => Follow.tells (.inr r)

/-- The number of steps that are allowed makes no difference. -/
theorem traceWithin_eq {s : Screen} {t : Task} {m n : Nat} (hm : t.weight < m)
    (hn : t.weight < n) : s.traceWithin m t hm = s.traceWithin n t hn := by
  induction m generalizing n s t with
  | zero => omega
  | succ m ih =>
    cases n with
    | zero => omega
    | succ n =>
      simp only [traceWithin]
      split
      · rw [ih]
      · rfl

/-- What happens from a task on is what happens in its step and what happens from there on. -/
theorem trace_eq (s : Screen) (t : Task) :
    s.trace t =
      (match (s.step t).next with
        | .inl u => (s.step t).screen.trace u
        | .inr _ => []) ++ s.happens t := by
  rw [trace, traceWithin]
  split <;> rename_i u hu
  · conv => rhs; rw [hu]
    exact congrArg (· ++ _) (traceWithin_eq _ _)
  · conv => rhs; rw [hu]
    rfl

/-- What holds at the start of a row of steps and is kept by each of them holds where the operation
comes to rest. -/
theorem proceed_induct {P : Screen → Follow → List Happening → Prop}
    (hstep : ∀ s t h, P s (.inl t) h → P (s.step t).screen (s.step t).next (s.happens t ++ h))
    {p : Progress Follow} {h : List Happening}
    (hp : P p.screen p.next (p.next.tells ++ h)) :
    P (proceed p).screen (.inr (proceed p).next) (traceOf p ++ h) := by
  -- Each step makes the task lighter, so the induction is on a bound of its weight.
  have hrun : ∀ n s t h, t.weight < n → P s (.inl t) h →
      P (s.run t).screen (.inr (s.run t).next) (s.trace t ++ h) := by
    intro n
    induction n with
    | zero => exact fun s t h hn => absurd hn (Nat.not_lt_zero _)
    | succ n ih =>
      intro s t h hn ht
      have hnext := hstep s t h ht
      rw [run_eq, trace_eq, List.append_assoc]
      cases hu : (s.step t).next with
      | inl u =>
        rw [hu] at hnext
        have hlight := weight_lt_of_step hu
        simp only [proceed, hu, Progress.after]
        exact ih _ _ _ (by omega) hnext
      | inr r =>
        rw [hu] at hnext
        simp only [proceed, hu]
        exact hnext
  unfold proceed traceOf
  cases hnext : p.next with
  | inl t =>
    rw [hnext] at hp
    exact hrun _ _ _ _ (Nat.lt_succ_self _) hp
  | inr r =>
    rw [hnext] at hp
    exact hp

end Screen

/-! ## Unfinished operations -/

/-- How far an operation is on its way to what it returns. -/
inductive Ending
  /-- The framebuffer of a swap is being imported. -/
  | importing (p : Preparation)
  /-- A client's own read of the channel is under way. -/
  | reading
  /-- The flips of a swap are being queued. So many were accepted, and the last one met an error. -/
  | flipping (id : SwapId) (submitted : Nat) (error : Option SwapError)
  /-- What the operation returns is settled. -/
  | returning (outcome : Outcome)

/-- How far an operation is that goes on with a task. -/
def Task.ending : Task → Ending
  | fan f => .flipping f.swap f.submitted none
  | retry a => .flipping a.fanout.swap a.fanout.submitted none
  | conclude f error => .flipping f.swap f.submitted error
  | dispatch _ next => next.ending
  | abort _ next => next.ending
  | reclaim _ _ next => next.ending
  | say _ next => next.ending
  | finish outcome => .returning outcome

/-- How far an operation is that waits. -/
def Wait.ending : Wait → Ending
  | importing p => .importing p
  | attempting a => (Task.retry a).ending
  | submitting _ => .reading
  | reading none => .reading
  | reading (some a) => (Task.retry a).ending
  | telling _ next => next.ending
  | destroying _ next => next.ending

/-- An unfinished operation: the call, what it has left to do and how far it is. -/
structure Level where
  call : Call
  agenda : Agenda
  ending : Ending

/-- The operation of a call that waits. -/
def Wait.level (w : Wait) (call : Call) : Level := ⟨call, w.agenda, w.ending⟩

/-- The operation of a call that goes on with a task. -/
def Task.level (t : Task) (call : Call) : Level := ⟨call, t.agenda, t.ending⟩

/-- What there is of a course at any time, also in the middle of an operation. -/
structure Scene where
  screen : Screen
  /-- The unfinished operations, the one started last first. -/
  levels : List Level
  /-- The framebuffers that filled the slots at the start or were imported. -/
  framebuffers : List Framebuffer
  /-- What has happened, the last first. -/
  history : List Happening

namespace Scene

/-- What is left to do of some operations. -/
def agendaOf : List Level → Agenda
  | [] => {}
  | l :: levels => l.agenda ++ agendaOf levels

/-- What is left to do of all unfinished operations. -/
def agenda (m : Scene) : Agenda := agendaOf m.levels

/-- The tokens of the flips that are being queued. -/
def queued (m : Scene) : List Token := m.agenda.attempts.map Submission.token

end Scene

/-! ## Acts -/

/-- What is expected of the surroundings besides what is expected of all. -/
structure Conduct where
  /-- Whether the client may start the operation. -/
  calls : Scene → Operation → Bool
  /-- Whether the device may import a buffer as the framebuffer. -/
  imports : Scene → Framebuffer → Bool
  /-- Whether the channel may have the reports. -/
  reads : Scene → List Report → Bool

/-- An act of the surroundings, or of the table of the pending tokens. -/
inductive Act
  /-- The client starts an operation. -/
  | call (op : Operation)
  /-- The operation started last is answered. -/
  | answer (a : Answer)
  /-- The pending tokens come to be in another order. -/
  | reorder (table : Table Token (Pending Event))

/-- A move of the surroundings that a session notices. -/
def Move.act? : Move → Option Act
  | .call op => some (.call op)
  | .answer a => some (.answer a)
  | .reorder table => some (.reorder table)
  | _ => none

/-- A session with its unfinished calls and all that has happened. -/
structure Course where
  session : Session
  /-- The calls of the unfinished operations, the one started last first. -/
  calls : List Call
  /-- The framebuffers that filled the slots at the start or were imported. -/
  framebuffers : List Framebuffer
  /-- What has happened, the last first. -/
  history : List Happening

/-- The call of an operation after an answer. -/
def Call.hear (call : Call) (s : Screen) : Wait → Answer → Call
  | .importing _, .imported (.ok _) => { call with swap := some s.swaps.length }
  | _, _ => call

/-- The framebuffer that an answer brings. -/
def Answer.brings : Wait → Answer → List Framebuffer
  | .importing _, .imported (.ok fb) => [fb]
  | _, _ => []

/-- What happens with an answer. -/
def Answer.happens : Wait → Answer → List Happening
  | .attempting a, .submitted (.ok ()) _ => [.accepted a.fanout.swap a.submission]
  | _, _ => []

/-- Whether the operation is one of those that clients start here. -/
def Operation.isRegular : Operation → Bool
  | swap _ | drain | disable _ | enable _ => true
  | _ => false

/-- Whether nothing is being carried out, or nothing but a handler. -/
def Session.yields (s : Session) : Bool :=
  match s.waits with
  | [] => true
  | .telling .. :: _ => true
  | _ => false

/-- What waits when an operation above others has come to rest. -/
def Rest.above (waits : List Wait) : Rest → List Wait
  | waiting w => w :: waits
  | _ => waits

namespace Course

/-- A course in which nothing has happened yet. -/
def new (pipes : List Pipe) (slots : List Framebuffer) (config : Config) : Course where
  session := .new { Screen.new pipes config with slots := slots }
  calls := []
  framebuffers := slots
  history := []

/-- What there is of a course. -/
def scene (c : Course) : Scene :=
  ⟨c.session.screen, List.zipWith Wait.level c.session.waits c.calls, c.framebuffers, c.history⟩

/-- Whether the client may start the operation. -/
def allowsCall (c : Course) (conduct : Conduct) (op : Operation) : Bool :=
  op.isRegular && c.session.yields && conduct.calls c.scene op

/-- Whether the answer is one that the surroundings may give. -/
def allowsAnswer (c : Course) (conduct : Conduct) : Wait → Answer → Bool
  | .importing _, .imported (.ok fb) => conduct.imports c.scene fb
  | .reading _, .read (.ok (some reports)) => conduct.reads c.scene reports
  | _, _ => true

/-- The course after a turn of its session in the operation of `call`, above those of `calls`. -/
def after (call : Call) (calls : List Call) (framebuffers : List Framebuffer)
    (history : List Happening) (t : Turn) : Course :=
  match t.outcome with
  | none => ⟨t.session, call :: calls, framebuffers, history⟩
  | some outcome =>
    ⟨t.session, calls, framebuffers, .returned call outcome t.session.screen :: history⟩

/-- One act within the conduct; none if the act is not possible. -/
def step (c : Course) (conduct : Conduct) : Act → Option Course
  | .call op =>
    if c.allowsCall conduct op then
      (c.session.call op).map
        (after ⟨op, c.session.screen, c.history.length, none⟩ c.calls c.framebuffers
          (Screen.traceOf (c.session.screen.start op) ++ c.history))
    else none
  | .answer a =>
    match c.session.waits, c.calls with
    | wait :: _, call :: calls =>
      if c.allowsAnswer conduct wait a then
        (c.session.answer a).map
          (after (call.hear c.session.screen wait a) calls (a.brings wait ++ c.framebuffers)
            (((c.session.screen.resume wait a).map Screen.traceOf).getD [] ++
              (a.happens wait ++ c.history)))
      else none
    | _, _ => none
  | .reorder table =>
    if c.session.yields then (c.session.reorder? table).map fun s => { c with session := s }
    else none

/-- A row of acts within the conduct; none if one of them is not possible. -/
def play (c : Course) (conduct : Conduct) : List Act → Option Course
  | [] => some c
  | act :: acts => (c.step conduct act).bind fun d => d.play conduct acts

/-- Whether no operation is unfinished and no rule is broken. -/
def isIdle (c : Course) : Bool := c.session.isIdle && c.session.violation.isNone

variable {c d e : Course} {conduct : Conduct} {act : Act} {acts more : List Act}

/-- The session of a course is the one that the operation left. -/
@[simp] theorem session_after (call : Call) (calls : List Call) (framebuffers : List Framebuffer)
    (history : List Happening) (t : Turn) :
    (after call calls framebuffers history t).session = t.session := by
  unfold after
  split
  · rfl
  · rfl

/-- The session of a course moves on by calls and answers, and its tokens may come to be in another
order. -/
theorem session_step (h : c.step conduct act = some d) :
    (match act with
      | .call op => (c.session.call op).map Turn.session
      | .answer a => (c.session.answer a).map Turn.session
      | .reorder table => c.session.reorder? table) = some d.session := by
  cases act with
  | call op =>
    simp only [step] at h
    split_ifs at h
    obtain ⟨t, ht, rfl⟩ := Option.map_eq_some_iff.1 h
    simp only [ht, Option.map_some, session_after]
  | answer a =>
    simp only [step] at h
    split at h
    · split_ifs at h
      obtain ⟨t, ht, rfl⟩ := Option.map_eq_some_iff.1 h
      simp only [ht, Option.map_some, session_after]
    · cases h
  | reorder table =>
    simp only [step] at h
    split_ifs at h
    obtain ⟨s, hs, rfl⟩ := Option.map_eq_some_iff.1 h
    exact hs

/-- Nothing happens after a violation. -/
theorem unbroken_of_step (h : c.step conduct act = some d) : c.session.violation = none := by
  have hsession := session_step h
  cases act with
  | reorder table => exact (Session.of_reorder? hsession).1
  | _ =>
    cases hv : c.session.violation with
    | none => rfl
    | some v => simp [Session.call, Session.answer, hv] at hsession

/-! ### From rest to rest -/

/-- The course after the operation of `call`, above others, has come to rest. -/
def resting (call : Call) (calls : List Call) (framebuffers : List Framebuffer)
    (history : List Happening) (s : Screen) (waits : List Wait) : Rest → Course
  | .waiting w => ⟨⟨s, w :: waits, none⟩, call :: calls, framebuffers, history⟩
  | .finished outcome =>
    ⟨⟨s, waits, none⟩, calls, framebuffers, .returned call outcome s :: history⟩
  | .violated v => ⟨⟨s, waits, some v⟩, call :: calls, framebuffers, history⟩

section Resting

variable {call : Call} {calls : List Call} {framebuffers : List Framebuffer}
  {history : List Happening} {s : Screen} {waits : List Wait} {r : Rest} {op : Operation}
  {a : Answer}

/-- What a course is after an operation, by where this comes to rest. -/
theorem after_settle (p : Progress Rest) :
    after call calls framebuffers history (Session.settle waits p) =
      resting call calls framebuffers history p.screen waits p.next := by
  obtain ⟨s, notices, r⟩ := p
  cases r <;> rfl

/-- The screen of a course at rest is the one that the operation left. -/
@[simp] theorem screen_resting :
    (resting call calls framebuffers history s waits r).session.screen = s := by
  cases r <;> rfl

/-- An operation that waits does so above the others. -/
@[simp] theorem waits_resting :
    (resting call calls framebuffers history s waits r).session.waits = r.above waits := by
  cases r <;> rfl

/-- Where an operation comes to rest is nothing to the framebuffers that were brought. -/
@[simp] theorem framebuffers_resting :
    (resting call calls framebuffers history s waits r).framebuffers = framebuffers := by
  cases r <;> rfl

/-- A session in which no rule was broken is not broken. -/
theorem unbroken_resting (hr : ∀ v, r ≠ .violated v) :
    (resting call calls framebuffers history s waits r).session.violation = none := by
  cases r with
  | violated v => exact absurd rfl (hr v)
  | _ => rfl

/-- In a session that is not broken the operation did not rest on a broken rule. -/
theorem ne_violated_of_resting
    (hunbroken : (resting call calls framebuffers history s waits r).session.violation = none) :
    ∀ v, r ≠ .violated v := by
  rintro v rfl
  cases hunbroken

/-- There is a call for each operation that waits, if there was one before. -/
theorem length_resting (hr : ∀ v, r ≠ .violated v) (hlength : calls.length = waits.length) :
    (resting call calls framebuffers history s waits r).calls.length =
      (resting call calls framebuffers history s waits r).session.waits.length := by
  cases r with
  | waiting w => exact congrArg Nat.succ hlength
  | finished outcome => exact hlength
  | violated v => exact absurd rfl (hr v)

/-- What another order of the pending tokens does. -/
theorem of_step_reorder {table : Table Token (Pending Event)}
    (h : c.step conduct (.reorder table) = some d) :
    c.session.yields = true ∧ table.entries.Perm c.session.screen.registry.pending.entries ∧
      d = { c with session := c.session.reorder table } := by
  simp only [step] at h
  split_ifs at h with htop
  obtain ⟨s, hs, rfl⟩ := Option.map_eq_some_iff.1 h
  obtain ⟨-, htable, rfl⟩ := Session.of_reorder? hs
  exact ⟨htop, htable, rfl⟩

/-- What a call does. -/
theorem of_step_call (h : c.step conduct (.call op) = some d) :
    op.isRegular = true ∧ c.session.yields = true ∧ conduct.calls c.scene op = true ∧
      d = resting ⟨op, c.session.screen, c.history.length, none⟩ c.calls c.framebuffers
        (Screen.traceOf (c.session.screen.start op) ++ c.history)
        (Screen.proceed (c.session.screen.start op)).screen c.session.waits
        (Screen.proceed (c.session.screen.start op)).next := by
  obtain ⟨⟨s, waits, violation⟩, calls, framebuffers, history⟩ := c
  obtain rfl : violation = none := unbroken_of_step h
  simp only [step] at h
  split_ifs at h with hallows
  simp only [allowsCall, Bool.and_eq_true] at hallows
  obtain ⟨⟨hop, htop⟩, hcalls⟩ := hallows
  exact ⟨hop, htop, hcalls, (Option.some.inj h).symm.trans (after_settle _)⟩

/-- What an answer does. -/
theorem of_step_answer (h : c.step conduct (.answer a) = some d) :
    ∃ wait waits call calls p, c.session.waits = wait :: waits ∧ c.calls = call :: calls ∧
      c.allowsAnswer conduct wait a = true ∧ c.session.screen.resume wait a = some p ∧
      d = resting (call.hear c.session.screen wait a) calls (a.brings wait ++ c.framebuffers)
        (Screen.traceOf p ++ (a.happens wait ++ c.history)) (Screen.proceed p).screen waits
        (Screen.proceed p).next := by
  obtain ⟨⟨s, waits, violation⟩, calls, framebuffers, history⟩ := c
  obtain rfl : violation = none := unbroken_of_step h
  simp only [step] at h
  split at h
  · rename_i wait waits call calls
    split_ifs at h with hallows
    obtain ⟨t, hanswer, rfl⟩ := Option.map_eq_some_iff.1 h
    obtain ⟨p, hresume, rfl⟩ := Option.map_eq_some_iff.1 hanswer
    refine ⟨wait, waits, call, calls, p, rfl, rfl, hallows, hresume, ?_⟩
    simp only [hresume, Option.map_some, Option.getD_some]
    exact after_settle _
  · cases h

end Resting

/-! ### Rows of acts -/

/-- A row of acts is played up to any of them and then from there. -/
theorem play_append :
    c.play conduct (acts ++ more) = (c.play conduct acts).bind fun d => d.play conduct more := by
  induction acts generalizing c with
  | nil => rfl
  | cons act acts ih =>
    rw [List.cons_append, play, play, Option.bind_assoc]
    exact congrArg _ (funext fun d => ih)

/-- The last act of a row. -/
theorem exists_of_play_concat (hplay : c.play conduct (acts ++ [act]) = some e) :
    ∃ d, c.play conduct acts = some d ∧ d.step conduct act = some e := by
  rw [play_append] at hplay
  obtain ⟨d, hbefore, hact⟩ := Option.bind_eq_some_iff.1 hplay
  obtain ⟨e', hstep, hsame⟩ := Option.bind_eq_some_iff.1 hact
  exact ⟨d, hbefore, hstep.trans hsame⟩

/-- What each act keeps, a row of acts keeps. -/
theorem play_induct {P : Course → Prop}
    (hstep : ∀ c d act, P c → c.step conduct act = some d → P d) (hc : P c)
    (hplay : c.play conduct acts = some d) : P d := by
  induction acts generalizing c with
  | nil =>
    obtain rfl : c = d := Option.some.inj hplay
    exact hc
  | cons act acts ih =>
    obtain ⟨e, hact, hplay⟩ := Option.bind_eq_some_iff.1 hplay
    exact ih (hstep _ _ _ hc hact) hplay

end Course

namespace Conduct

/-- Nothing more is expected. -/
def free : Conduct := ⟨fun _ _ => true, fun _ _ => true, fun _ _ => true⟩

end Conduct

end PageFlip
