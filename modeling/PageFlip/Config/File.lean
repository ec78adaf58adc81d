import PageFlip.Config.Reader
import PageFlip.Files
import PageFlip.Text.Utf8

/-!
# Configuration files

A configuration is loaded from the text of a file.
-/

namespace PageFlip.Config

/-- The configuration that the bytes of a file give. -/
def ofBytes (bytes : List UInt8) : Except LoadError Config :=
  match Text.decode? bytes with
  | none => .error (.read .notText)
  | some text => (parse text).mapError .parse

/-- The configuration in the file at a path that is followed from a place. -/
def load (place : Place) (path : Path) : Except LoadError Config := do
  if path.contains Path.nul then throw (.read .nulInName)
  let bytes ← (place.read path).mapError fun e => .read (.system e)
  ofBytes bytes

end PageFlip.Config
