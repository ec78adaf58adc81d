import PageFlip.Text.Padded

/-!
# Log levels

The five levels of a log, the most severe first. A log that is set to a level takes the records of
that level and of all more severe ones.
-/

namespace PageFlip.Log

/-- How severe a record is, and up to what severity a log takes records. -/
inductive Level
  | error
  | warn
  | info
  | debug
  | trace
deriving DecidableEq

namespace Level

/-- The levels from the most severe on. -/
def all : List Level := [.error, .warn, .info, .debug, .trace]

/-- The place of the level in the order, from one. -/
def rank : Level → Nat
  | .error => 1
  | .warn => 2
  | .info => 3
  | .debug => 4
  | .trace => 5

/-- Whether a log that is set to `level` takes records of level `l`. -/
def takes (level l : Level) : Bool := l.rank ≤ level.rank

/-- The level as it is written in a configuration. -/
def name : Level → String
  | .error => "error"
  | .warn => "warn"
  | .info => "info"
  | .debug => "debug"
  | .trace => "trace"

/-- The level as it is written in a log. -/
def label : Level → String
  | .error => "ERROR"
  | .warn => "WARN"
  | .info => "INFO"
  | .debug => "DEBUG"
  | .trace => "TRACE"

/-- The level with the given name. -/
def ofName? (s : String) : Option Level := all.find? fun l => l.name == s

/-- The name of a level is read back as the level. -/
@[simp] theorem ofName?_name (l : Level) : ofName? l.name = some l := by
  cases l <;> decide

/-- A level's label in a column as wide as the longest of them. -/
def column (l : Level) : String := Text.padEnd 5 ' ' l.label

/-- A log takes the lines of its own level. -/
theorem takes_self (l : Level) : l.takes l = true := by
  simp [takes]

end Level

end PageFlip.Log
