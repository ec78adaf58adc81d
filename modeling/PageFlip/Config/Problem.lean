import PageFlip.Config
import PageFlip.Decimal.Shortest
import PageFlip.Failure.Errno
import PageFlip.Text.Quoted

/-!
# Problems of configuration texts

What can be wrong with the text of a configuration, and what is said about it. A text that ends too
early, a text that is not well-formed, and a well-formed text that says something else than
settings are three categories of problems.
-/

namespace PageFlip.Config

/-- The settings that a text may give, in the order in which a list gives them. -/
inductive Field
  | asyncFlips
  | maxPending
  | maxIdleRetries
  | logLevel
deriving DecidableEq

namespace Field

/-- The settings in their order. -/
def all : List Field := [.asyncFlips, .maxPending, .maxIdleRetries, .logLevel]

/-- The setting as a text names it. -/
def name : Field → String
  | .asyncFlips => "async_flips"
  | .maxPending => "max_pending_sequences"
  | .maxIdleRetries => "max_idle_retries"
  | .logLevel => "log_level"

/-- The setting with a name. -/
def ofName? (s : String) : Option Field := all.find? fun f => f.name == s

/-- The name of a field is read back as the field. -/
@[simp] theorem ofName?_name (f : Field) : ofName? f.name = some f := by
  cases f <;> decide

end Field

/-- A value that stands where another kind of value was expected. -/
inductive Found
  | boolean (b : Bool)
  | integer (n : Int)
  | float (x : Float)
  | string (s : String)
  | null
  | list
  | map

/-- What was expected. -/
inductive Expected
  | boolean
  | word64
  | word32
  | settings
  | nothing
deriving DecidableEq

/-- A problem of a text. -/
inductive Problem
  /-- The text ends too early. -/
  | endOfText
  /-- The text is not well-formed. -/
  | malformed
  | unknownField (name : String)
  | duplicateField (field : Field)
  | unknownLevel (name : String)
  /-- A value of the wrong kind. -/
  | wrongKind (found : Found) (expected : Expected)
  /-- A number out of range. -/
  | outOfRange (found : Found) (expected : Expected)

/-- How numbers are written that are not whole: with an exponent from 10^16 on and below 10^-5. -/
def floatStyle : Decimal.Style := ⟨-5, 15, "+"⟩

/-- What is said about a value. -/
def Found.text : Found → String
  | .boolean b => s!"boolean `{b}`"
  | .integer n => s!"integer `{n}`"
  | .float x => s!"floating point `{floatStyle.writeFloat x}`"
  | .string s => s!"string {Text.quoted s}"
  | .null => "null"
  | .list => "sequence"
  | .map => "map"

/-- What is said about an expectation. -/
def Expected.text : Expected → String
  | .boolean => "a boolean"
  | .word64 => "usize"
  | .word32 => "u32"
  | .settings => "struct FlipConfig"
  | .nothing => "unit"

/-- Names in backticks, one after the other. -/
def choices (names : List String) : String :=
  ", ".intercalate (names.map fun name => s!"`{name}`")

/-- What is said about a problem of the content; nothing about a text that ends too early or is not
well-formed. -/
def Problem.detail : Problem → Option String
  | .endOfText => none
  | .malformed => none
  | .unknownField name =>
    some s!"unknown field `{name}`, expected one of {choices (Field.all.map Field.name)}"
  | .duplicateField field => some s!"duplicate field `{field.name}`"
  | .unknownLevel name =>
    some s!"unknown variant `{name}`, expected one of {choices (Log.Level.all.map Log.Level.name)}"
  | .wrongKind found expected =>
    some s!"invalid type: {found.text}, expected {expected.text}"
  | .outOfRange found expected =>
    some s!"invalid value: {found.text}, expected {expected.text}"

/-- The category of a problem. -/
inductive Problem.Category
  | endOfText
  | form
  | content
deriving DecidableEq

/-- The category of a problem. -/
def Problem.category : Problem → Problem.Category
  | .endOfText => .endOfText
  | .malformed => .form
  | _ => .content

/-- A failure to read the file of a configuration. -/
inductive ReadFailure
  | system (cause : Errno)
  | notText
  | nulInName
deriving DecidableEq

/-- What there is to say about a file that could not be read. -/
def ReadFailure.explanation : ReadFailure → Explanation
  | .system e => e.explanation
  | .notText => .ofMessage "stream did not contain valid UTF-8"
  | .nulInName => .ofMessage "file name contained an unexpected NUL byte"

/-- Why there is no configuration. -/
inductive LoadError
  | read (cause : ReadFailure)
  | parse (problem : Problem)

/-- What there is to say about a missing configuration. The problem of a text is reported by its
category and detail instead of a cause. -/
def LoadError.explanation : LoadError → Explanation
  | .read cause => .because "Could not read the config file" cause.explanation
  | .parse _ => .ofMessage "Could not parse the config"

end PageFlip.Config
