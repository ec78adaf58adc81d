import PageFlip.Display.Buffer
import PageFlip.Flip.Report
import PageFlip.Kernel.Script

/-!
# Stub hardware

A device and an event channel that answer as their script says and keep note of what they were
asked. Reports that were queued are delivered by the next successful read, all at once.
-/

namespace PageFlip.Rehearsal

open Kernel (Result Poll)

/-- What stub hardware notes about one exchange. -/
inductive StubNote
  | imported (buffer : Buffer) (fb : Framebuffer)
  | importFailed (buffer : Buffer) (cause : Errno)
  | removed (fb : Framebuffer) (result : Result)
  | submitted (submission : Submission)
  | accepted
  | full
  | rejected (cause : Errno)
  | pollFailed (cause : Errno)
  | nothingReady
  | readFailed (cause : Errno)
  | read (count : Nat)

/-- The hardware's script. -/
structure Stub where
  nextFb : Framebuffer
  fbStep : UInt32
  imports : List Result
  removals : List Result
  polls : List Poll
  reads : List Result
  queued : List Report

namespace Stub

/-- The result of an exchange: the hardware then, what it notes and what it answers. -/
structure Answered (α : Type) where
  stub : Stub
  notes : List StubNote
  result : α

/-- The next result of a script; a script that has run out goes on with successes. -/
def nextResult : List Result → Result × List Result
  | [] => (none, [])
  | r :: rest => (r, rest)

/-- The next poll of a script. -/
def nextPoll : List Poll → Poll × List Poll
  | [] => (.natural, [])
  | p :: rest => (p, rest)

/-- Imports a buffer. -/
def importFramebuffer (h : Stub) (b : Buffer) : Answered (Except DeviceError Framebuffer) :=
  let (result, rest) := nextResult h.imports
  let h := { h with imports := rest }
  match result with
  | none => ⟨{ h with nextFb := ⟨h.nextFb.id + h.fbStep⟩ }, [.imported b h.nextFb], .ok h.nextFb⟩
  | some e => ⟨h, [.importFailed b e], .error (.addFramebuffer e)⟩

/-- Gives up a framebuffer. -/
def removeFramebuffer (h : Stub) (fb : Framebuffer) : Answered (Except DeviceError Unit) :=
  let (result, rest) := nextResult h.removals
  ⟨{ h with removals := rest }, [.removed fb result],
    match result with
    | none => .ok ()
    | some e => .error (.removeFramebuffer e)⟩

/-- The error number that stands for data that cannot be read. -/
def invalidData : Errno := ⟨-1⟩

/-- Reads the reports that were queued. -/
def readReports (h : Stub) : Answered (Except ChannelError (Option (List Report))) :=
  let (poll, polls) := nextPoll h.polls
  let h := { h with polls := polls }
  match poll, h.queued with
  | .failed e, _ => ⟨h, [.pollFailed e], .error (.poll e)⟩
  | .natural, [] => ⟨h, [.nothingReady], .ok none⟩
  | _, queued =>
    let (result, reads) := nextResult h.reads
    let h := { h with reads := reads }
    match result with
    | some e =>
      ⟨h, [.readFailed e], .error (if e = invalidData then .invalidRead else .read e)⟩
    | none => ⟨{ h with queued := [] }, [.read queued.length], .ok (some queued)⟩

end Stub

end PageFlip.Rehearsal
