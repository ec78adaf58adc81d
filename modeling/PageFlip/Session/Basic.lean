import PageFlip.Session.Operation

/-!
# Sessions

A session is a screen together with the operations that wait on it, the one started last on top.
`call` starts an operation, at any moment at which nothing is being carried out; `answer` goes on
with the operation on top. A handler of the client runs while the operation on top is in
`Wait.telling`: what it calls is stacked on top and is over when the handler returns.
-/

namespace PageFlip

/-- A screen and the operations that wait on it. -/
structure Session where
  screen : Screen
  /-- What the unfinished operations wait for, the one started last first. -/
  waits : List Wait
  /-- The broken rule that ended the session. -/
  violation : Option Violation

/-- What follows from a call or an answer. -/
structure Turn where
  session : Session
  /-- What there is to say to the log. -/
  notices : List Notice
  /-- What an operation that is over returns. -/
  outcome : Option Outcome

namespace Session

/-- A session in which nothing has happened yet. -/
def new (s : Screen) : Session := ⟨s, [], none⟩

/-- Whether no operation is unfinished. -/
def isIdle (s : Session) : Bool := s.waits.isEmpty

/-- The session after the operation above `waits` came to rest. -/
def settle (waits : List Wait) (p : Progress Rest) : Turn :=
  match p.next with
  | .waiting w => ⟨⟨p.screen, w :: waits, none⟩, p.notices, none⟩
  | .finished outcome => ⟨⟨p.screen, waits, none⟩, p.notices, some outcome⟩
  | .violated v => ⟨⟨p.screen, waits, some v⟩, p.notices, none⟩

/-- Starts an operation; none once a rule was broken. -/
def call (s : Session) (op : Operation) : Option Turn :=
  match s.violation with
  | some _ => none
  | none => some (settle s.waits (Screen.proceed (s.screen.start op)))

/-- Goes on with the operation started last; none if it does not wait for such an answer, if there
is none, or once a rule was broken. -/
def answer (s : Session) (a : Answer) : Option Turn :=
  match s.violation, s.waits with
  | none, w :: waits => (s.screen.resume w a).map fun p => settle waits (Screen.proceed p)
  | _, _ => none

/-- An operation is started only while no rule is broken, above all that waits. -/
theorem of_call_eq_some {s : Session} {op : Operation} {t : Turn} (h : s.call op = some t) :
    s.violation = none ∧ t = settle s.waits (Screen.proceed (s.screen.start op)) := by
  unfold call at h
  split at h
  · cases h
  · rename_i hv
    exact ⟨hv, (Option.some.inj h).symm⟩

/-- Only the operation that was started last goes on, with an answer that it waits for. -/
theorem of_answer_eq_some {s : Session} {a : Answer} {t : Turn} (h : s.answer a = some t) :
    ∃ w waits p, s.violation = none ∧ s.waits = w :: waits ∧ s.screen.resume w a = some p ∧
      t = settle waits (Screen.proceed p) := by
  unfold answer at h
  split at h
  · rename_i w waits hv hwaits
    obtain ⟨p, hp, rfl⟩ := Option.map_eq_some_iff.1 h
    exact ⟨w, waits, p, hv, hwaits, hp, rfl⟩
  · cases h

end Session

end PageFlip
