import PageFlip.Kernel.Device
import PageFlip.Rehearsal.Step

/-!
# The stage of a rehearsal

The session under rehearsal with the hardware it runs on, the clock, the level of the log and what
the client remembers. What happens is noted as a list of effects.
-/

namespace PageFlip.Rehearsal

/-- The hardware under a session. -/
inductive Hardware
  | stub (stub : Stub)
  | kernel (script : Kernel.Script)

/-- The steps that the handlers of a client take. -/
structure Handlers where
  onSuccess : List Cue
  onAbort : List Cue

/-- Everything that plays a part in a rehearsal. -/
structure Stage where
  session : Session
  hardware : Hardware
  /-- The stub channel's replies to the flips to come. -/
  replies : Table Crtc (List Reply)
  now : Instant
  level : Log.Level
  /-- The handlers of each client, in the order of their numbers. -/
  handlers : List Handlers
  /-- The flips that were made without registering them; none in the place of one that was
  resolved. -/
  flips : List (Option Flip)
  /-- The tokens the client has seen. -/
  seen : List Token
  /-- The token that was accepted last on each controller. -/
  accepted : Table Crtc Token
  /-- What has happened since the current step of the script began. -/
  effects : List Effect

/-- Why a rehearsal stops early. -/
inductive Stop
  | violated (violation : Violation)
  /-- The rehearsal took more steps than its script allows for; this does not happen. -/
  | exhausted

/-- What is done on a stage. -/
abbrev Play := ExceptT Stop (StateM Stage)

namespace Stage

/-- A stage on which nothing has happened yet. -/
def new (screen : Screen) (hardware : Hardware) (now : Instant) (level : Log.Level) : Stage where
  session := .new screen
  hardware := hardware
  replies := .empty
  now := now
  level := level
  handlers := []
  flips := []
  seen := []
  accepted := .empty
  effects := []

/-- The screen of the session. -/
def screen (s : Stage) : Screen := s.session.screen

/-- The tokens that the client has seen and that are pending, in ascending order. -/
def live (s : Stage) : List Token :=
  (s.seen.filter s.screen.registry.isPending).mergeSort fun a b => a.raw ≤ b.raw

/-- Notes effects. -/
def note (s : Stage) (effects : List Effect) : Stage :=
  { s with effects := s.effects ++ effects }

/-- Notes what the log takes of some notices. -/
def say (s : Stage) (notices : List Notice) : Stage :=
  s.note ((notices.filter fun n => s.level.takes n.level).map .notice)

/-- Changes the screen behind the session's back. -/
def edit (s : Stage) (f : Screen → Screen) : Stage :=
  { s with session := { s.session with screen := f s.screen } }

/-- Remembers that the client has seen a token. -/
def see (s : Stage) (token : Token) : Stage :=
  if s.seen.contains token then s else { s with seen := token :: s.seen }

/-- Adds handlers for a new client. -/
def addHandlers (s : Stage) (h : Handlers) : Client × Stage :=
  (s.handlers.length, { s with handlers := s.handlers ++ [h] })

/-- The steps that a client takes on some news. -/
def reactions (s : Stage) (news : News) : List Cue :=
  match s.handlers[news.client]? with
  | none => []
  | some h =>
    match news with
    | .swap _ stamp | .event _ stamp => if stamp.isSome then h.onSuccess else h.onAbort

end Stage

/-- The parts of the effects of an abort: what came first, and then one part for each handler that
the aborting call itself told. `depth` counts the steps within the call that are not over. -/
def partsByClient (depth : Nat) : List Effect → List Effect × List (Client × List Effect)
  | [] => ([], [])
  | .began name :: rest =>
    let (head, parts) := partsByClient (depth + 1) rest
    (.began name :: head, parts)
  | .ended result :: rest =>
    let (head, parts) := partsByClient (depth - 1) rest
    (.ended result :: head, parts)
  | .told news :: rest =>
    let (head, parts) := partsByClient depth rest
    if depth = 0 then ([], (news.client, .told news :: head) :: parts)
    else (.told news :: head, parts)
  | effect :: rest =>
    let (head, parts) := partsByClient depth rest
    (effect :: head, parts)

/-- The effects of an abort with its parts in the order of the clients. -/
def inOrderOfClients (effects : List Effect) : List Effect :=
  let (head, parts) := partsByClient 0 effects
  head ++ ((parts.mergeSort fun a b => a.1 ≤ b.1).map Prod.snd).flatten

/-- The same, with the closing notice on the number of aborted flips kept last. -/
def arrange (effects : List Effect) : List Effect :=
  match effects.getLast? with
  | some (.notice (.flipsAborted n crtc)) =>
    inOrderOfClients effects.dropLast ++ [.notice (.flipsAborted n crtc)]
  | _ => inOrderOfClients effects

end PageFlip.Rehearsal
