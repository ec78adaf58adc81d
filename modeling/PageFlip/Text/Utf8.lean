/-!
# UTF-8

Bytes as text. A sequence of bytes that encodes no character is broken off where it first goes
wrong; `decode?` refuses it and `decodeLossy` puts the replacement character in its place.
-/

namespace PageFlip.Text

/-- How many bytes follow on a leading byte, and in what range the first of them must be; none if
the byte leads no character of more than one byte. -/
def followers? (lead : UInt8) : Option (Nat × UInt8 × UInt8) :=
  if 0xc2 ≤ lead ∧ lead ≤ 0xdf then some (1, 0x80, 0xbf)
  else if lead = 0xe0 then some (2, 0xa0, 0xbf)
  else if lead = 0xed then some (2, 0x80, 0x9f)
  else if 0xe1 ≤ lead ∧ lead ≤ 0xef then some (2, 0x80, 0xbf)
  else if lead = 0xf0 then some (3, 0x90, 0xbf)
  else if 0xf1 ≤ lead ∧ lead ≤ 0xf3 then some (3, 0x80, 0xbf)
  else if lead = 0xf4 then some (3, 0x80, 0x8f)
  else none

/-- Takes the `count` bytes that follow on a leading byte, the first in the given range, and adds
their bits to `code`. Returns the code if they are complete, and how many were taken. -/
def takeFollowers (code : Nat) : Nat → UInt8 → UInt8 → List UInt8 → Option Nat × Nat
  | 0, _, _, _ => (some code, 0)
  | _ + 1, _, _, [] => (none, 0)
  | count + 1, low, high, b :: rest =>
    if low ≤ b ∧ b ≤ high then
      let (result, taken) :=
        takeFollowers (code * 64 + (b.toNat &&& 0x3f)) count 0x80 0xbf rest
      (result, taken + 1)
    else (none, 0)

/-- The first character and how many bytes follow on its leading byte. No character stands for a
broken sequence. -/
def firstChar (lead : UInt8) (rest : List UInt8) : Option Char × Nat :=
  if lead < 0x80 then (some (Char.ofNat lead.toNat), 0)
  else
    match followers? lead with
    | none => (none, 0)
    | some (count, low, high) =>
      let bits := lead.toNat &&& (0x3f >>> count)
      let (code, taken) := takeFollowers bits count low high rest
      (code.map Char.ofNat, taken)

/-- The characters that bytes encode, none in the place of each broken sequence. -/
def decode (bytes : List UInt8) : List (Option Char) :=
  match bytes with
  | [] => []
  | lead :: rest =>
    let (c, taken) := firstChar lead rest
    c :: decode (rest.drop taken)
termination_by bytes.length
decreasing_by simp only [List.length_cons, List.length_drop]; omega

/-- The text that bytes encode, if no sequence is broken. -/
def decode? (bytes : List UInt8) : Option String :=
  ((decode bytes).mapM id).map String.ofList

/-- The character in the place of a broken sequence. -/
def replacement : Char := '\uFFFD'

/-- The text that bytes encode, with the replacement character for each broken sequence. -/
def decodeLossy (bytes : List UInt8) : String :=
  String.ofList ((decode bytes).map fun c => c.getD replacement)

end PageFlip.Text
