import PageFlip.Config.Problem

/-!
# Literals in configuration texts

The smallest parts of a configuration text, read from the left: blanks, words, strings and
numbers. A reader takes characters from the front of the text and leaves the rest, or stops at the
first problem.

A number is a whole number if it is written without a point and an exponent and fits a word; minus
zero and any other number is a floating-point number, computed by scaling its first digits by a
power of ten.
-/

namespace PageFlip.Config

/-- Reads a part of a text. -/
abbrev Reader := StateT (List Char) (Except Problem)

namespace Reader

/-- Stops at a problem. -/
def stop {α : Type} (p : Problem) : Reader α := throw p

/-- The next character; none at the end. -/
def peek : Reader (Option Char) := do return (← get).head?

/-- Skips the next character. -/
def skip : Reader Unit := modify (·.drop 1)

/-- The characters that may stand between the parts of a text. -/
def isBlank (c : Char) : Bool := c == ' ' || c == '\n' || c == '\t' || c == '\r'

/-- Skips blanks and returns the character behind them. -/
def peekPart : Reader (Option Char) := do
  modify (·.dropWhile isBlank)
  peek

/-- Reads the given characters. -/
def word : List Char → Reader Unit
  | [] => pure ()
  | c :: rest => do
    match ← peek with
    | none => stop .endOfText
    | some d =>
      skip
      if d = c then word rest else stop .malformed

end Reader

/-- The value of a hexadecimal digit. -/
def hexDigit? (c : Char) : Option Nat :=
  if '0' ≤ c ∧ c ≤ '9' then some (c.toNat - '0'.toNat)
  else if 'a' ≤ c ∧ c ≤ 'f' then some (c.toNat - 'a'.toNat + 10)
  else if 'A' ≤ c ∧ c ≤ 'F' then some (c.toNat - 'A'.toNat + 10)
  else none

/-- The value of a decimal digit. -/
def digit? (c : Char) : Option Nat :=
  if '0' ≤ c ∧ c ≤ '9' then some (c.toNat - '0'.toNat) else none

/-- Whether a text begins with a digit. -/
def startsWithDigit (text : List Char) : Bool :=
  text.head?.any fun c => (digit? c).isSome

/-- The number of bytes in which a text is stored. -/
def byteLength (text : List Char) : Nat := text.foldr (fun c n => c.utf8Size + n) 0

/-- Reads the four hexadecimal digits of an escaped code unit. -/
def readUnit (text : List Char) : Except Problem (Nat × List Char) :=
  if byteLength text < 4 then .error .endOfText
  else
    match (text.take 4).mapM hexDigit? with
    | some [a, b, c, d] => .ok (((a * 16 + b) * 16 + c) * 16 + d, text.drop 4)
    | _ => .error .malformed

/-- Whether a code unit is the first of a pair. -/
def isLeading (unit : Nat) : Bool := 0xd800 ≤ unit && unit < 0xdc00

/-- Whether a code unit is the second of a pair. -/
def isTrailing (unit : Nat) : Bool := 0xdc00 ≤ unit && unit < 0xe000

/-- The character of a pair of code units. -/
def pairedChar (leading trailing : Nat) : Char :=
  Char.ofNat (0x10000 + (leading - 0xd800) * 0x400 + (trailing - 0xdc00))

/-- Reads what follows on the mark of an escaped code unit. Units that do not form a character
must come as a pair. -/
def readEscapedChar (text : List Char) : Except Problem (Char × List Char) := do
  let (unit, text) ← readUnit text
  if isTrailing unit then throw .malformed
  else if isLeading unit then
    match text with
    | [] => throw .endOfText
    | '\\' :: [] => throw .endOfText
    | '\\' :: 'u' :: rest =>
      let (second, rest) ← readUnit rest
      if isTrailing second then pure (pairedChar unit second, rest) else throw .malformed
    | _ => throw .malformed
  else pure (Char.ofNat unit, text)

/-- Reading a code unit leaves no more text than there was. -/
theorem length_le_of_readUnit {text rest : List Char} {unit : Nat}
    (h : readUnit text = .ok (unit, rest)) : rest.length ≤ text.length := by
  unfold readUnit at h
  split at h
  · simp at h
  · split at h
    · simp only [Except.ok.injEq, Prod.mk.injEq] at h
      simp [← h.2]
    · simp at h

/-- Reading a character that is escaped by its code leaves no more text than there was. -/
theorem length_le_of_readEscapedChar {text rest : List Char} {c : Char}
    (h : readEscapedChar text = .ok (c, rest)) : rest.length ≤ text.length := by
  unfold readEscapedChar at h
  cases hu : readUnit text with
  | error e => simp [hu, bind, Except.bind] at h
  | ok r =>
    obtain ⟨unit, mid⟩ := r
    have hmid := length_le_of_readUnit hu
    simp only [hu, bind, Except.bind] at h
    split at h
    · simp [throw, throwThe, MonadExceptOf.throw] at h
    · split at h
      · split at h
        · simp [throw, throwThe, MonadExceptOf.throw] at h
        · simp [throw, throwThe, MonadExceptOf.throw] at h
        · rename_i tail
          cases hs : readUnit tail with
          | error e => simp [hs] at h
          | ok r =>
            obtain ⟨second, last⟩ := r
            have hlast := length_le_of_readUnit hs
            simp only [hs] at h
            split at h
            · simp only [pure, Except.pure, Except.ok.injEq, Prod.mk.injEq] at h
              simp only [← h.2, List.length_cons] at hmid ⊢
              omega
            · simp [throw, throwThe, MonadExceptOf.throw] at h
        · simp [throw, throwThe, MonadExceptOf.throw] at h
      · simp only [pure, Except.pure, Except.ok.injEq, Prod.mk.injEq] at h
        simpa [← h.2] using hmid

/-- The character for which a letter stands behind a backslash. -/
def escape? : Char → Option Char
  | '"' => some '"'
  | '\\' => some '\\'
  | '/' => some '/'
  | 'b' => some '\x08'
  | 'f' => some '\x0c'
  | 'n' => some '\n'
  | 'r' => some '\r'
  | 't' => some '\t'
  | _ => none

/-- Reads what follows on a backslash: the character that it stands for. -/
def readEscape (text : List Char) : Except Problem (Char × List Char) :=
  match text with
  | [] => .error .endOfText
  | 'u' :: rest => readEscapedChar rest
  | c :: rest =>
    match escape? c with
    | none => .error .malformed
    | some c => .ok (c, rest)

/-- Reading an escape leaves no more text than there was. -/
theorem length_le_of_readEscape {text rest : List Char} {c : Char}
    (h : readEscape text = .ok (c, rest)) : rest.length ≤ text.length := by
  unfold readEscape at h
  split at h
  · simp at h
  · have := length_le_of_readEscapedChar h
    simp only [List.length_cons]
    omega
  · split at h
    · simp at h
    · simp only [Except.ok.injEq, Prod.mk.injEq] at h
      simp [← h.2]

/-- Reads the rest of a string, up to its closing quotation mark. Control characters must not stand
in it. -/
def readString (text : List Char) : Except Problem (List Char × List Char) :=
  match text with
  | [] => .error .endOfText
  | '"' :: rest => .ok ([], rest)
  | '\\' :: rest =>
    match h : readEscape rest with
    | .error p => .error p
    | .ok (c, tail) =>
      have : tail.length < rest.length + 1 := Nat.lt_succ_of_le (length_le_of_readEscape h)
      (readString tail).map fun s => (c :: s.1, s.2)
  | c :: rest =>
    if c < ' ' then .error .malformed else (readString rest).map fun s => (c :: s.1, s.2)
termination_by text.length

/-- Reads the rest of a string behind its opening quotation mark. -/
def Reader.string : Reader String := do
  let (s, rest) ← readString (← get)
  set rest
  pure (String.ofList s)

/-- A number that was read. -/
inductive Number
  | whole (n : Int)
  | float (x : Float)

/-- What is said about a number. -/
def Number.found : Number → Found
  | .whole n => .integer n
  | .float x => .float x

/-- Goes on with a number as long as digits follow and it fits a word. Returns the number, how many
digits were taken and the rest. -/
def takeDigits (n : Nat) : List Char → Nat × Nat × List Char
  | [] => (n, 0, [])
  | c :: rest =>
    match digit? c with
    | none => (n, 0, c :: rest)
    | some d =>
      if 10 * n + d < UInt64.size then
        let (m, count, rest) := takeDigits (10 * n + d) rest
        (m, count + 1, rest)
      else (n, 0, c :: rest)

/-- Skips digits and counts them. -/
def skipDigits : List Char → Nat × List Char
  | [] => (0, [])
  | c :: rest =>
    if (digit? c).isSome then
      let (count, rest) := skipDigits rest
      (count + 1, rest)
    else (0, c :: rest)

/-- Takes digits of any number. Returns their value and the rest. -/
def takeAllDigits (n : Nat) : List Char → Nat × List Char
  | [] => (n, [])
  | c :: rest =>
    match digit? c with
    | none => (n, c :: rest)
    | some d => takeAllDigits (10 * n + d) rest

/-- A power of ten. -/
def powerOfTen (e : Nat) : Float := Float.ofScientific 1 false e

/-- Divides by a power of ten, at most by 10^308 at once. -/
def scaleDown (x : Float) (e : Nat) : Float :=
  if e ≤ 308 then x / powerOfTen e
  else if x == 0 then x
  else scaleDown (x / powerOfTen 308) (e - 308)
termination_by e

/-- The number with the given first digits and exponent of ten; none if it is too large. -/
def scaled? (digits : Nat) (e : Int) : Option Float :=
  let x := digits.toUInt64.toFloat
  if 0 ≤ e then
    if e ≤ 308 then
      let y := x * powerOfTen e.toNat
      if y.isInf then none else some y
    else if x == 0 then some x else none
  else some (scaleDown x e.natAbs)

/-- A number with its sign. -/
def signed (negative : Bool) (x : Float) : Number := .float (if negative then -x else x)

/-- The floating-point number with the given first digits and exponent of ten. -/
def finishFloat (negative : Bool) (digits : Nat) (e : Int) (text : List Char) :
    Except Problem (Number × List Char) :=
  match scaled? digits e with
  | none => .error .malformed
  | some x => .ok (signed negative x, text)

/-- The greatest exponent that is told from a greater one. -/
def exponentLimit : Nat := UInt32.size / 2 - 1

/-- Keeps an exponent within the limits. -/
def clampExponent (e : Int) : Int := max (-(exponentLimit : Int) - 1) (min e exponentLimit)

/-- Reads what follows on the letter of an exponent. -/
def readExponent (negative : Bool) (digits : Nat) (start : Int) (text : List Char) :
    Except Problem (Number × List Char) :=
  let (down, text) := match text with
    | '+' :: rest => (false, rest)
    | '-' :: rest => (true, rest)
    | _ => (false, text)
  match text with
  | [] => .error .endOfText
  | c :: _ =>
    if (digit? c).isNone then .error .malformed
    else
      let (e, rest) := takeAllDigits 0 text
      -- Such an exponent makes any number but zero too large, or zero.
      if exponentLimit < e then
        if digits ≠ 0 ∧ !down then .error .malformed else .ok (signed negative 0, rest)
      else
        finishFloat negative digits (clampExponent (if down then start - e else start + e)) rest

/-- Reads what follows on the whole part and the fraction of a number. -/
def readScale (negative : Bool) (digits : Nat) (e : Int) (text : List Char) :
    Except Problem (Number × List Char) :=
  match text with
  | 'e' :: rest | 'E' :: rest => readExponent negative digits e rest
  | _ => finishFloat negative digits e text

/-- Reads what follows on the point of a number. Digits that no longer fit a word are ignored. -/
def readFraction (negative : Bool) (digits : Nat) (start : Int) (text : List Char) :
    Except Problem (Number × List Char) :=
  let (digits, count, rest) := takeDigits digits text
  if startsWithDigit rest then
    readScale negative digits (start - count) (skipDigits rest).2
  else if count = 0 then
    .error (if rest.isEmpty then .endOfText else .malformed)
  else readScale negative digits (start - count) rest

/-- The whole number with the given digits, if it fits a signed or unsigned word and is not minus
zero. -/
def finishWhole (negative : Bool) (digits : Nat) : Number :=
  if !negative then .whole digits
  else if digits = 0 ∨ UInt64.size / 2 < digits then signed true digits.toUInt64.toFloat
  else .whole (-digits)

/-- Reads what follows on the whole part of a number. `more` digits of it did not fit a word. -/
def readTail (negative : Bool) (digits : Nat) (more : Option Nat) (text : List Char) :
    Except Problem (Number × List Char) :=
  match text with
  | '.' :: rest => readFraction negative digits (more.getD 0) rest
  | 'e' :: rest | 'E' :: rest => readExponent negative digits (more.getD 0) rest
  | _ =>
    match more with
    | none => .ok (finishWhole negative digits, text)
    | some n => finishFloat negative digits n text

/-- Reads a number behind its sign. A zero at the front stands alone. -/
def readNumber (negative : Bool) (text : List Char) : Except Problem (Number × List Char) :=
  match text with
  | [] => .error .endOfText
  | '0' :: rest =>
    if startsWithDigit rest then .error .malformed else readTail negative 0 none rest
  | c :: _ =>
    if (digit? c).isNone then .error .malformed
    else
      let (digits, _, rest) := takeDigits 0 text
      if startsWithDigit rest then
        let (more, rest) := skipDigits rest
        readTail negative digits (some more) rest
      else readTail negative digits none rest

/-- Reads a number behind its sign. -/
def Reader.number (negative : Bool) : Reader Number := do
  let (n, rest) ← readNumber negative (← get)
  set rest
  pure n

end PageFlip.Config
