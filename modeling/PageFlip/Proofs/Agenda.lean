import PageFlip.Session.Basic

/-!
# What unfinished operations have left to do

The tasks and waits of a session name what is still to come. An `Agenda` lists it by kind, for all
unfinished operations together: the swaps in the middle of their flips, the reports to dispatch, the
events to abort, and the framebuffers to give up once a handler returns. The statements about runs
speak of a session through its screen and its agenda.

The operation on top comes first in each list, and what a task does next comes first in the
agenda of the task, so a step of an operation only touches the front.
-/

namespace PageFlip

/-- A swap in the middle of its flips: its submitter still has its hold. -/
structure Underway where
  swap : SwapId
  fb : Framebuffer
  /-- The flip that is being queued. -/
  flip : Option Submission

/-- What is left to do, by kind. -/
@[ext] structure Agenda where
  /-- The swaps in the middle of their flips. -/
  fanouts : List Underway := []
  /-- The reports that were read and are not dispatched yet. -/
  reports : List Report := []
  /-- The events that were handed out to be aborted and are not aborted yet. -/
  events : List Event := []
  /-- The swaps with an outcome whose handler is running. -/
  reclaims : List (SwapId × Verdict) := []

namespace Agenda

instance : Append Agenda where
  append g k :=
    { fanouts := g.fanouts ++ k.fanouts
      reports := g.reports ++ k.reports
      events := g.events ++ k.events
      reclaims := g.reclaims ++ k.reclaims }

/-- The swaps under way are those of either agenda. -/
@[simp] theorem fanouts_append (g k : Agenda) : (g ++ k).fanouts = g.fanouts ++ k.fanouts := rfl

/-- The reports to dispatch are those of either agenda. -/
@[simp] theorem reports_append (g k : Agenda) : (g ++ k).reports = g.reports ++ k.reports := rfl

/-- The events to abort are those of either agenda. -/
@[simp] theorem events_append (g k : Agenda) : (g ++ k).events = g.events ++ k.events := rfl

/-- The handlers to return are those of either agenda. -/
@[simp] theorem reclaims_append (g k : Agenda) : (g ++ k).reclaims = g.reclaims ++ k.reclaims := rfl

/-- A swap is in the middle of its flips. -/
@[simp] def fanning (id : SwapId) (fb : Framebuffer) : Agenda :=
  { fanouts := [⟨id, fb, none⟩] }

/-- A swap is queueing one of its flips. -/
@[simp] def queueing (id : SwapId) (fb : Framebuffer) (f : Submission) : Agenda :=
  { fanouts := [⟨id, fb, some f⟩] }

/-- Reports are to be dispatched. -/
@[simp] def reporting (reports : List Report) : Agenda := { reports := reports }

/-- Events are to be aborted. -/
@[simp] def aborting (events : List Event) : Agenda := { events := events }

/-- A swap that has its outcome, if it has one, is to give up a framebuffer. -/
@[simp] def owing (id : SwapId) (verdict : Option Verdict) : Agenda :=
  { reclaims := verdict.toList.map fun v => (id, v) }

/-- Agendas are put together in any grouping. -/
@[simp] theorem append_assoc (g h k : Agenda) : g ++ h ++ k = g ++ (h ++ k) := by
  ext1 <;> simp

/-- The empty agenda adds nothing. -/
@[simp] theorem nil_append (g : Agenda) : ({} : Agenda) ++ g = g := rfl

/-- The swaps whose submitter still has its hold. -/
def unreleased (g : Agenda) : List SwapId := g.fanouts.map Underway.swap

/-- The swaps whose submitter has its hold are those of either agenda. -/
@[simp] theorem unreleased_append (g k : Agenda) :
    (g ++ k).unreleased = g.unreleased ++ k.unreleased := by
  simp [unreleased]

/-- The flips that are being queued. -/
def attempts (g : Agenda) : List Submission := g.fanouts.filterMap Underway.flip

/-- The flips that are being queued are those of either agenda. -/
@[simp] theorem attempts_append (g k : Agenda) : (g ++ k).attempts = g.attempts ++ k.attempts := by
  simp [attempts]

/-- How often a swap's submitter still has its hold: once at most, in a run. -/
def localHolds (g : Agenda) (id : SwapId) : Nat := g.unreleased.count id

/-- The holds of submitters are those in either agenda. -/
@[simp] theorem localHolds_append (g k : Agenda) (id : SwapId) :
    (g ++ k).localHolds id = g.localHolds id + k.localHolds id := by
  simp [localHolds]

end Agenda

namespace Task

/-- What a task and those that follow on it have left to do. -/
def agenda : Task → Agenda
  | fan f => .fanning f.swap f.fb
  | retry a => .queueing a.fanout.swap a.fanout.fb a.submission
  | conclude f _ => .fanning f.swap f.fb
  | dispatch reports next => .reporting reports ++ next.agenda
  | abort events next => .aborting events ++ next.agenda
  | reclaim id v next => .owing id (some v) ++ next.agenda
  | say _ next => next.agenda
  | finish _ => {}

/-- The reports of a dispatch come before what follows on it. -/
theorem agenda_dispatch_append (reports : List Report) (next : Task) (k : Agenda) :
    (dispatch reports next).agenda ++ k = .reporting reports ++ (next.agenda ++ k) :=
  Agenda.append_assoc _ _ _

/-- No framebuffer is given up before the operation comes to rest. -/
def Keeps : Task → Prop
  | dispatch _ next => next.Keeps
  | abort _ next => next.Keeps
  | say _ next => next.Keeps
  | reclaim .. => False
  | _ => True

/-- Nothing is left to do when a swap reports what it returns. -/
@[simp] theorem agenda_report (f : Fanout) (error : Option SwapError) :
    (f.report error).agenda = {} := by
  unfold Fanout.report
  split
  · cases error <;> rfl
  · rfl

/-- A swap that reports what it returns gives up no framebuffer. -/
@[simp] theorem keeps_report (f : Fanout) (error : Option SwapError) :
    (f.report error).Keeps := by
  unfold Fanout.report
  split
  · cases error <;> simp [Keeps]
  · simp [Keeps]

end Task

namespace Wait

/-- What an operation that waits has left to do. -/
def agenda : Wait → Agenda
  | attempting a => (Task.retry a).agenda
  | reading (some a) => (Task.retry a).agenda
  | telling _ next => next.agenda
  | destroying _ next => next.agenda
  | _ => {}

/-- A handler is being told the outcome of a swap. -/
def Tells : Wait → Prop
  | telling news (.reclaim _ v next) => (∃ client, news = .swap client v.stamp) ∧ next.Keeps
  | _ => False

end Wait

namespace Rest

/-- What an operation at rest has left to do. -/
def agenda : Rest → Agenda
  | waiting w => w.agenda
  | _ => {}

end Rest

/-- What is left to do of an operation, in the middle of it or at rest. -/
def Follow.agenda : Follow → Agenda
  | .inl t => t.agenda
  | .inr r => r.agenda

namespace Session

/-- What is left to do behind waits. -/
def agendaOf : List Wait → Agenda
  | [] => {}
  | w :: waits => w.agenda ++ agendaOf waits

/-- What is left to do of all unfinished operations. -/
def agenda (s : Session) : Agenda := agendaOf s.waits

end Session

end PageFlip
