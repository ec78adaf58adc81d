import Mathlib.Data.List.Perm.Subperm
import PageFlip.Proofs.Agenda
import PageFlip.Proofs.Registry

/-!
# Sessions and their surroundings

A `World` is a session with a `Ledger` of what passed between it and its surroundings: the channel
with the flips that it accepted, the device with the framebuffers, and the client with what it was
told. `World.step` carries out one move of a client, of the device or of the channel, within some
`Rules`, and `World.play` a row of moves.

In every world the channel only reports flips that it accepted, each at most once, and nobody calls
while the device, the channel or the library itself is at work: calls come when no operation is
unfinished, and from the handlers of swaps. The `Rules` say what else is expected of the
surroundings.

The table of the pending tokens is in no specified order, and the events of a pipe that is disabled
are handed out in the order of the table. So the table may come to be in another order at any time
(`Session.reorder?`), and what holds of every run holds whatever the orders are.
-/

namespace PageFlip

/-- What passed between a session and its surroundings. What came last stands first. -/
structure Ledger where
  /-- The flips that the channel has accepted and neither reported nor dropped so far. -/
  flips : List Submission := []
  /-- The tokens whose reports are ready to be read. -/
  readable : List Token := []
  /-- All flips that the channel has accepted. -/
  accepted : List Submission := []
  /-- The framebuffers that filled the slots at the start or were imported. -/
  framebuffers : List Framebuffer
  /-- What the client was told of swaps. -/
  told : List (SwapId × News) := []
  /-- The outcomes of the swaps whose handler has returned. -/
  reclaimed : List (SwapId × Verdict) := []
  /-- The framebuffers that the device was asked to give up. -/
  removed : List Framebuffer := []
  /-- The retired tokens that an accepted flip had forgotten before their report was dispatched. -/
  forgotten : List Token := []

/-- What there is of a world while nothing is being carried out. -/
structure Moment where
  screen : Screen
  agenda : Agenda
  ledger : Ledger

namespace Moment

/-- The tokens of the flips that are being queued. -/
def queued (m : Moment) : List Token := m.agenda.attempts.map Submission.token

/-- The tokens of the flips that the channel may still report. -/
def unreported (m : Moment) : List Token := m.ledger.flips.map Submission.token

/-- The tokens that were reported and whose report is not dispatched. -/
def undispatched (m : Moment) : List Token :=
  m.agenda.reports.map Report.token ++ m.ledger.readable

/-- Whether the token is retired on the controller. -/
def isRetiredOn (m : Moment) (crtc : Crtc) (t : Token) : Bool :=
  m.screen.registry.retired.find? t == some crtc

end Moment

namespace Ledger

/-- A framebuffer is imported. -/
def bring (l : Ledger) (fb : Framebuffer) : Ledger :=
  { l with framebuffers := fb :: l.framebuffers }

/-- The channel accepts a flip. The undispatched tokens in `late` are forgotten with that. -/
def accept (l : Ledger) (f : Submission) (late : List Token) : Ledger :=
  { l with flips := f :: l.flips, accepted := f :: l.accepted, forgotten := late ++ l.forgotten }

/-- The channel has nothing more to say on a flip with the token. -/
def lose (l : Ledger) (t : Token) : Ledger :=
  { l with flips := l.flips.eraseP fun f => f.token == t }

/-- The channel makes the report on a flip with the token ready to be read. -/
def report (l : Ledger) (t : Token) : Ledger :=
  { l.lose t with readable := t :: l.readable }

/-- Reports on some tokens are read. -/
def read (l : Ledger) (tokens : List Token) : Ledger :=
  { l with readable := l.readable.diff tokens }

/-- The client is told the outcome of a swap. -/
def tell (l : Ledger) (id : SwapId) (news : News) : Ledger :=
  { l with told := (id, news) :: l.told }

/-- The client knows the outcome of a swap. -/
def reclaim (l : Ledger) (id : SwapId) (v : Verdict) : Ledger :=
  { l with reclaimed := (id, v) :: l.reclaimed }

/-- The device is asked to give up a framebuffer. -/
def remove (l : Ledger) (fb : Framebuffer) : Ledger :=
  { l with removed := fb :: l.removed }

/-- What an answer to a wait changes. -/
def hear (m : Moment) : Wait → Answer → Ledger
  | .importing _, .imported (.ok fb) => m.ledger.bring fb
  | .attempting a, .submitted (.ok ()) _ =>
    m.ledger.accept a.submission (m.undispatched.filter (m.isRetiredOn a.submission.crtc))
  | .reading _, .read (.ok (some reports)) => m.ledger.read (reports.map Report.token)
  | .telling _ (.reclaim id v _), .returned => m.ledger.reclaim id v
  | _, _ => m.ledger

/-- What a new wait changes. -/
def enter (l : Ledger) : Option Wait → Ledger
  | some (.telling news (.reclaim id _ _)) => l.tell id news
  | some (.destroying fb _) => l.remove fb
  | _ => l

end Ledger

namespace Session

/-- The session with its pending tokens in another table. -/
def reorder (s : Session) (table : Table Token (Pending Event)) : Session :=
  { s with screen := s.screen.setRegistry (s.screen.registry.reorder table) }

/-- The session with its pending tokens in another order; none if the table has other entries, or a
rule is broken. -/
def reorder? (s : Session) (table : Table Token (Pending Event)) : Option Session :=
  if s.violation.isNone ∧ table.entries.Perm s.screen.registry.pending.entries then
    some (s.reorder table)
  else none

/-- The tokens come to be in another order only while no rule is broken. -/
theorem of_reorder? {s s' : Session} {table : Table Token (Pending Event)}
    (h : s.reorder? table = some s') :
    s.violation = none ∧ table.entries.Perm s.screen.registry.pending.entries ∧
      s' = s.reorder table := by
  unfold reorder? at h
  split_ifs at h with hallows
  exact ⟨Option.isNone_iff_eq_none.1 hallows.1, hallows.2, (Option.some.inj h).symm⟩

end Session

/-- The wait at which an operation has come to rest. -/
def Turn.entered (t : Turn) : Option Wait :=
  match t.session.violation, t.outcome with
  | none, none => t.session.waits.head?
  | _, _ => none

/-- What is expected of the surroundings besides what is expected of all. -/
structure Rules where
  /-- Whether handlers call. -/
  nested : Bool
  /-- Whether the device may import a buffer as the framebuffer. -/
  imports : Moment → Framebuffer → Bool
  /-- Whether the channel may accept the flip. -/
  accepts : Moment → Submission → Bool

/-- A move of the surroundings, or of the table of the pending tokens. -/
inductive Move
  /-- The client starts an operation. -/
  | call (op : Operation)
  /-- The operation started last is answered. -/
  | answer (a : Answer)
  /-- The channel reports a flip that it accepted. -/
  | report (t : Token)
  /-- The channel drops a flip that it accepted, for good. -/
  | lose (t : Token)
  /-- The pending tokens come to be in another order. -/
  | reorder (table : Table Token (Pending Event))

/-- A session and its surroundings. -/
structure World where
  session : Session
  ledger : Ledger

namespace World

/-- A world in which nothing has happened yet. -/
def new (pipes : List Pipe) (slots : List Framebuffer) (config : Config) : World where
  session := .new { Screen.new pipes config with slots := slots }
  ledger := { framebuffers := slots }

/-- The world after a turn of its session. -/
def after (l : Ledger) (t : Turn) : World := ⟨t.session, l.enter t.entered⟩

/-- What there is of a world. -/
def moment (w : World) : Moment := ⟨w.session.screen, w.session.agenda, w.ledger⟩

/-- Whether the client may start the operation. -/
def allowsCall (w : World) (rules : Rules) (op : Operation) : Bool :=
  (match op with
    | .swap _ | .drain | .disable _ | .enable _ => true
    | _ => false) &&
  match w.session.waits with
  | [] => true
  | .telling .. :: _ => rules.nested
  | _ => false

/-- Whether the answer is one that the surroundings may give. -/
def allowsAnswer (w : World) (rules : Rules) : Wait → Answer → Bool
  | .importing _, .imported (.ok fb) => rules.imports w.moment fb
  | .attempting a, .submitted (.ok ()) _ => rules.accepts w.moment a.submission
  | .reading _, .read (.ok (some reports)) =>
    decide ((reports.map Report.token).Subperm w.ledger.readable)
  | _, _ => true

/-- A move within the rules; none if the move is not possible. -/
def step (w : World) (rules : Rules) : Move → Option World
  | .call op =>
    if w.allowsCall rules op then
      (w.session.call op).map (after w.ledger)
    else none
  | .answer a =>
    match w.session.waits with
    | [] => none
    | wait :: _ =>
      if w.allowsAnswer rules wait a then
        (w.session.answer a).map (after (Ledger.hear w.moment wait a))
      else none
  | .report t =>
    if w.session.violation.isNone && w.ledger.flips.any (·.token == t) then
      some { w with ledger := w.ledger.report t }
    else none
  | .lose t =>
    if w.session.violation.isNone && w.ledger.flips.any (·.token == t) then
      some { w with ledger := w.ledger.lose t }
    else none
  | .reorder table => (w.session.reorder? table).map fun s => { w with session := s }

/-- A row of moves within the rules; none if one of them is not possible. -/
def play (w : World) (rules : Rules) : List Move → Option World
  | [] => some w
  | m :: moves => (w.step rules m).bind fun u => u.play rules moves

/-- The worlds that a row of moves leads through. -/
def visits (w : World) (rules : Rules) : List Move → List World
  | [] => [w]
  | m :: moves =>
    w :: match w.step rules m with
      | none => []
      | some u => u.visits rules moves

/-- A row of moves leads through the world that it starts from. -/
theorem self_mem_visits (w : World) {rules : Rules} {moves : List Move} :
    w ∈ w.visits rules moves := by
  cases moves <;> simp [visits]

/-- A world that is visited is the last one of a shorter row of moves. -/
theorem exists_play_of_mem_visits {w u : World} {rules : Rules} {moves : List Move}
    (hu : u ∈ w.visits rules moves) : ∃ first, w.play rules first = some u := by
  induction moves generalizing w with
  | nil =>
    obtain rfl := List.mem_singleton.1 hu
    exact ⟨[], rfl⟩
  | cons m moves ih =>
    rcases List.mem_cons.1 hu with rfl | hu
    · exact ⟨[], rfl⟩
    · cases hstep : w.step rules m with
      | none =>
        rw [hstep] at hu
        cases hu
      | some v =>
        rw [hstep] at hu
        obtain ⟨first, hfirst⟩ := ih hu
        exact ⟨m :: first, by rw [play, hstep, Option.bind_some, hfirst]⟩

end World

namespace Rules

/-- Handlers may call, and nothing more is expected of the device or the channel. -/
def free : Rules := ⟨true, fun _ _ => true, fun _ _ => true⟩

/-- The channel accepts a flip only after it has reported or dropped all earlier ones of the
controller. -/
def orderly : Rules :=
  { free with accepts := fun m f => m.ledger.flips.all fun g => g.crtc != f.crtc }

/-- The channel accepts a flip only when no report on a retired token of the controller is or will
be left to dispatch. -/
def clean : Rules :=
  { free with
    accepts := fun m f => (m.unreported ++ m.undispatched).all fun t => !m.isRetiredOn f.crtc t }

/-- The device imports buffers as framebuffers that it has not used before. -/
def fresh : Rules :=
  { free with imports := fun m fb => !fb.isNone && !m.ledger.framebuffers.contains fb }

/-- The same, and handlers do not call. -/
def inert : Rules := { fresh with nested := false }

end Rules

/-! ## Sample runs

The witnesses of the main results are runs of a client that shows one framebuffer after the other on
one controller, or on two. -/

namespace Sample

def pipe : List Pipe := [.new ⟨31⟩ 0]

def pipes : List Pipe := [.new ⟨31⟩ 0, .new ⟨32⟩ 1]

/-- The primary plane shows the framebuffer 7. -/
def slots : List Framebuffer := [⟨7⟩, .none, .none]

/-- The token of the first flip. -/
def first : Token := ⟨1, by decide⟩

/-- The token of the second flip. -/
def second : Token := ⟨2, by decide⟩

/-- The token of the third flip. -/
def third : Token := ⟨3, by decide⟩

/-- The token of the fourth flip. -/
def fourth : Token := ⟨4, by decide⟩

/-- The client starts a swap of a new buffer. -/
def swap (client : Client) : Move :=
  .call (.swap ⟨.linear 64 64 0 1 256, false, .all, none, client⟩)

/-- The device imports the buffer. -/
def brings (id : UInt32) : Move := .answer (.imported (.ok ⟨id⟩))

def accepts : Move := .answer (.submitted (.ok ()) ⟨1, 0⟩)

/-- The kernel rejects the flip: the controller is busy. -/
def rejects : Move := .answer (.submitted (.error (.rejected ⟨16⟩)) ⟨1, 0⟩)

def isFull : Move := .answer (.submitted (.error .channelFull) ⟨1, 0⟩)

/-- The library reads the report on one flip. -/
def reads (t : Token) : Move := .answer (.read (.ok (some [.complete t ⟨1, 10⟩])))

def returns : Move := .answer .returned

def destroys : Move := .answer (.destroyed (.ok ()))

end Sample

end PageFlip
