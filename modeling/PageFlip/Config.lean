import PageFlip.Log.Level

/-!
# Configuration

The settings of the library and their default values.
-/

namespace PageFlip

/-- The settings. -/
structure Config where
  /-- Whether requests for flips that do not wait for the refresh boundary are honoured. -/
  asyncFlips : Bool
  /-- The most flips that may be in flight. -/
  maxPending : UInt64
  /-- How often a flip is tried again on a full channel after a read that found nothing. -/
  maxIdleRetries : UInt32
  /-- Up to what severity the log takes records. -/
  logLevel : Log.Level
deriving DecidableEq

namespace Config

/-- The settings in use where nothing else is said. -/
def default : Config := ⟨true, 1024, 4, .info⟩

instance : Inhabited Config := ⟨default⟩

end Config

end PageFlip
