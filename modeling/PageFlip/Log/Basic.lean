import PageFlip.Files
import PageFlip.Log.Notice
import PageFlip.Log.Timestamp
import PageFlip.Text.Utf8

/-!
# The log

A log takes records up to its level and writes each as a line: the time, the level and the origin
in brackets, then the text. A program has one log, which is installed once.
-/

namespace PageFlip

namespace Log

/-- One record. -/
structure Record where
  level : Level
  /-- Where the record comes from, if that is known. -/
  origin : Option String
  text : String

namespace Record

/-- What stands in brackets behind the time. -/
def heading (r : Record) : String :=
  match r.origin with
  | some origin => s!"{r.level.column} {origin}"
  | none => r.level.column

/-- The record without the time. -/
def body (r : Record) : String := s!"[{r.heading}] {r.text}"

/-- The record as a line. Outside the years that have timestamps the line breaks off where the time
should stand. -/
def line (r : Record) (now : Instant) : String :=
  match timestamp? now with
  | some time => s!"[{time} {r.heading}] {r.text}\n"
  | none => "["

end Record

/-- The record of a notice, given the names of the parts that speak. -/
def ofNotice (origin : Speaker → String) (n : Notice) : Record :=
  ⟨n.level, some (origin n.speaker), n.text⟩

/-- The records of a fatal error: where it happened and, if it comes with a text, what it says. -/
def fatal (origin : Speaker → String) (location : String) (message : Option String) :
    List Record :=
  let record := Record.mk .error (some (origin .log))
  record s!"Panic at {location}" :: (message.map fun m => record s!"Message: {m}").toList

/-- Why a log could not be installed. -/
inductive InstallError
  | standardError (cause : Errno)
  | file (path : Path) (cause : Errno)
  | nulInPath
  | alreadyInstalled
deriving DecidableEq

/-- What there is to say about a log that could not be installed. -/
def InstallError.explanation : InstallError → Explanation
  | .standardError e => .because "Could not dup stderr" e.explanation
  | .file path e =>
    .because s!"Could not open log file {Text.decodeLossy path}" e.explanation
  | .nulInPath => .ofMessage "Log path contains a nul byte"
  | .alreadyInstalled => .ofMessage "A logger has already been installed"

/-- Where a log writes its lines. -/
inductive Target
  | standardError
  | file (path : Path)
deriving DecidableEq

end Log

/-- An installed log. -/
structure Log where
  level : Log.Level
  target : Log.Target

namespace Log

/-- Whether the log takes records of a level. -/
def takes (log : Log) (l : Level) : Bool := log.level.takes l

/-- What the log writes on a record. -/
def write (log : Log) (now : Instant) (r : Record) : String :=
  if log.takes r.level then r.line now else ""

/-- Makes sure that a target can be written to. -/
def openTarget (place : Place) : Target → Except InstallError Unit
  | .standardError => .ok ()
  | .file path =>
    if path.contains Path.nul then .error .nulInPath
    else (place.canWrite path).mapError (.file path)

/-- Installs a log, unless there is one. The target is opened first in any case. -/
def install (place : Place) (current : Option Log) (level : Level) (target : Target) :
    Except InstallError Log := do
  openTarget place target
  match current with
  | some _ => throw .alreadyInstalled
  | none => pure ⟨level, target⟩

end Log

end PageFlip
