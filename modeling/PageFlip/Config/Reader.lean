import PageFlip.Config.Literal

/-!
# Reading configuration texts

A configuration text is a map from names of settings to their values, or the list of the values in
the order of the settings. Settings that are not given keep their default values. The text is read
from the left, and the first problem met is the one reported.
-/

namespace PageFlip.Config

/-- The settings given so far. -/
structure Draft where
  asyncFlips : Option Bool
  maxPending : Option UInt64
  maxIdleRetries : Option UInt32
  logLevel : Option Log.Level
deriving DecidableEq

namespace Draft

/-- No settings. -/
def empty : Draft := ⟨none, none, none, none⟩

/-- Whether a setting was given. -/
def has (d : Draft) : Field → Bool
  | .asyncFlips => d.asyncFlips.isSome
  | .maxPending => d.maxPending.isSome
  | .maxIdleRetries => d.maxIdleRetries.isSome
  | .logLevel => d.logLevel.isSome

/-- The settings that were given, completed by the default values. -/
def config (d : Draft) : Config where
  asyncFlips := d.asyncFlips.getD default.asyncFlips
  maxPending := d.maxPending.getD default.maxPending
  maxIdleRetries := d.maxIdleRetries.getD default.maxIdleRetries
  logLevel := d.logLevel.getD default.logLevel

end Draft

namespace Reader

/-- Stops at a value of another kind than expected. The value is read as far as its kind and what
is said about it require. -/
def wrongKind {α : Type} (expected : Expected) : Reader α := do
  let found ← do
    match ← peek with
    | some 'n' =>
      word "null".toList
      pure Found.null
    | some 't' =>
      word "true".toList
      pure (Found.boolean true)
    | some 'f' =>
      word "false".toList
      pure (Found.boolean false)
    | some '"' =>
      skip
      Found.string <$> string
    | some '[' => pure Found.list
    | some '{' => pure Found.map
    | some '-' =>
      skip
      Number.found <$> number true
    | some c => if (digit? c).isSome then Number.found <$> number false else stop .malformed
    | none => stop .endOfText
  stop (.wrongKind found expected)

/-- Reads a truth value. -/
def boolean : Reader Bool := do
  match ← peekPart with
  | none => stop .endOfText
  | some 't' =>
    word "true".toList
    pure true
  | some 'f' =>
    word "false".toList
    pure false
  | some _ => wrongKind .boolean

/-- Takes a number for a natural number below a limit. -/
def natural (limit : Nat) (expected : Expected) (n : Number) : Reader Nat :=
  match n with
  | .whole (.ofNat n) =>
    if n < limit then pure n else stop (.outOfRange (.integer n) expected)
  | .whole n => stop (.outOfRange (.integer n) expected)
  | .float x => stop (.wrongKind (.float x) expected)

/-- Reads a natural number below a limit. -/
def bounded (limit : Nat) (expected : Expected) : Reader Nat := do
  match ← peekPart with
  | none => stop .endOfText
  | some '-' =>
    skip
    natural limit expected (← number true)
  | some c =>
    if (digit? c).isSome then natural limit expected (← number false) else wrongKind expected

/-- Reads the colon between a name and its value. -/
def colon : Reader Unit := do
  match ← peekPart with
  | some ':' => skip
  | some _ => stop .malformed
  | none => stop .endOfText

/-- Reads the name of a level behind its opening quotation mark. -/
def levelName : Reader Log.Level := do
  let name ← string
  match Log.Level.ofName? name with
  | some level => pure level
  | none => stop (.unknownLevel name)

/-- Reads the word for nothing. -/
def nothing : Reader Unit := do
  match ← peekPart with
  | none => stop .endOfText
  | some 'n' => word "null".toList
  | some _ => wrongKind .nothing

/-- Reads a level inside a map, behind the opening brace: its name, with nothing as its value. -/
def wrappedLevel : Reader Log.Level := do
  match ← peekPart with
  | none => stop .endOfText
  | some '"' =>
    skip
    let level ← levelName
    colon
    nothing
    match ← peekPart with
    | some '}' =>
      skip
      pure level
    | some _ => stop .malformed
    | none => stop .endOfText
  -- Like the names of settings, the name of a level inside a map is quoted, or the text is not
  -- well-formed.
  | some _ => stop .malformed

/-- Reads a level: its name, alone or inside a map. -/
def level : Reader Log.Level := do
  match ← peekPart with
  | none => stop .endOfText
  | some '{' =>
    skip
    wrappedLevel
  | some '"' =>
    skip
    levelName
  | some _ => stop .malformed

/-- Reads the value of a setting. -/
def value (d : Draft) : Field → Reader Draft
  | .asyncFlips => do return { d with asyncFlips := some (← boolean) }
  | .maxPending => do
    return { d with maxPending := some (UInt64.ofNat (← bounded UInt64.size .word64)) }
  | .maxIdleRetries => do
    return { d with maxIdleRetries := some (UInt32.ofNat (← bounded UInt32.size .word32)) }
  | .logLevel => do return { d with logLevel := some (← level) }

/-- Whether another part of a map or list follows, up to its `closing` bracket. Parts are separated
by commas, and a comma must be followed by a part. -/
def hasNext (closing : Char) (first : Bool) : Reader Bool := do
  match ← peekPart with
  | none => stop .endOfText
  | some c =>
    if c = closing then pure false
    else if first then pure true
    else if c = ',' then
      skip
      match ← peekPart with
      | none => stop .endOfText
      | some c => if c = closing then stop .malformed else pure true
    else stop .malformed

/-- Reads the name of a setting that was not given yet, and the colon behind it. -/
def field (d : Draft) : Reader Field := do
  match ← peekPart with
  | some '"' =>
    skip
    let name ← string
    match Field.ofName? name with
    | none => stop (.unknownField name)
    | some field =>
      if d.has field then stop (.duplicateField field)
      colon
      pure field
  | some _ => stop .malformed
  | none => stop .endOfText

/-- Reads the settings of a map up to its closing brace. No more than `left` settings are left to
be given. -/
def fields (left : Nat) (first : Bool) (d : Draft) : Reader Draft := do
  if ← hasNext '}' first then
    let f ← field d
    let d ← value d f
    match left with
    | 0 => pure d
    | left + 1 => fields left false d
  else
    skip
    pure d

/-- Reads the settings of a list in their order, as many as there are. -/
def elements (first : Bool) (d : Draft) : List Field → Reader Draft
  | [] => pure d
  | f :: rest => do
    if ← hasNext ']' first then
      let d ← value d f
      elements false d rest
    else pure d

/-- Reads the closing bracket of a list. -/
def closeList : Reader Unit := do
  match ← peekPart with
  | some ']' => skip
  | some _ => stop .malformed
  | none => stop .endOfText

/-- Reads the settings, as a map or as a list. -/
def settings : Reader Draft := do
  match ← peekPart with
  | none => stop .endOfText
  | some '{' =>
    skip
    fields Field.all.length true .empty
  | some '[' =>
    skip
    let d ← elements true .empty Field.all
    closeList
    pure d
  | some _ => wrongKind .settings

/-- Reads a whole text. -/
def whole : Reader Config := do
  let d ← settings
  match ← peekPart with
  | none => pure d.config
  | some _ => stop .malformed

end Reader

/-- The configuration that a text gives. -/
def parse (text : String) : Except Problem Config :=
  (Reader.whole.run text.toList).map Prod.fst

end PageFlip.Config
