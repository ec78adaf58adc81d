import PageFlip.Display.Object
import PageFlip.Flip.Report
import PageFlip.Kernel.LittleEndian

/-!
# Event records

The kernel delivers events as records, one after the other: eight bytes of header, the kind and
the length of the whole record as 32-bit little-endian numbers, and then the body. A record of
`flipKind` reports a completed flip: the user's 64-bit field, the time in seconds and microseconds,
the count of vertical blanks and the controller. Records of other kinds are skipped.
-/

namespace PageFlip

/-- One record as the kernel delivers it. -/
structure EventRecord where
  kind : Nat
  /-- The bytes behind the header. -/
  body : List UInt8
deriving DecidableEq

namespace EventRecord

/-- The length of a header. -/
def headerLength : Nat := 8

/-- The least length of the body of a record on a flip. -/
def flipBodyLength : Nat := 24

/-- The kind of the records on completed flips. -/
def flipKind : Nat := 2

/-- The length of the whole record. -/
def length (r : EventRecord) : Nat := headerLength + r.body.length

/-- Whether the body is long enough for what the kind says it holds. -/
def isComplete (r : EventRecord) : Bool :=
  r.kind != flipKind || flipBodyLength ≤ r.body.length

/-- The bytes of the record. -/
def bytes (r : EventRecord) : List UInt8 :=
  LittleEndian.toBytes 4 r.kind ++ LittleEndian.toBytes 4 r.length ++ r.body

/-- The record on the completion of a flip at `usec` microseconds. -/
def ofFlip (field : UInt64) (usec frame crtc : Nat) : EventRecord where
  kind := flipKind
  body := LittleEndian.toBytes 8 field.toNat ++ LittleEndian.toBytes 4 (usec / 1000000) ++
    LittleEndian.toBytes 4 (usec % 1000000) ++ LittleEndian.toBytes 4 frame ++
    LittleEndian.toBytes 4 crtc

/-- The first record in the bytes and the bytes behind it. There is none if the header is cut
short, if its length is less than its own or more than there is, or if the body is too short. -/
def ofBytes? (bytes : List UInt8) : Option (EventRecord × List UInt8) :=
  let length := LittleEndian.field bytes 4 4
  let record := EventRecord.mk (LittleEndian.field bytes 0 4)
    ((bytes.take length).drop headerLength)
  if headerLength ≤ length ∧ length ≤ bytes.length ∧ record.isComplete then
    some (record, bytes.drop length)
  else none

/-- Reading a record takes some bytes, so it comes to an end. -/
theorem length_lt_of_ofBytes? {bytes rest : List UInt8} {r : EventRecord}
    (h : ofBytes? bytes = some (r, rest)) : rest.length < bytes.length := by
  simp only [ofBytes?] at h
  split at h
  · rename_i hc
    simp only [Option.some.injEq, Prod.mk.injEq] at h
    simp only [← h.2, List.length_drop]
    have : headerLength = 8 := rfl
    omega
  · simp at h

/-- The user's field of a record on a flip. -/
def field (r : EventRecord) : UInt64 := UInt64.ofNat (LittleEndian.field r.body 0 8)

/-- The vertical blank of a record on a flip. -/
def stamp (r : EventRecord) : Stamp where
  frame := UInt64.ofNat (LittleEndian.field r.body 16 4)
  usec := UInt64.ofNat
    (LittleEndian.field r.body 8 4 * 1000000 + LittleEndian.field r.body 12 4)

/-- The controller of a record on a flip. -/
def crtc (r : EventRecord) : Crtc := ⟨UInt32.ofNat (LittleEndian.field r.body 20 4)⟩

/-- What a record means to the reader of the channel. -/
inductive Meaning
  /-- A flip completed. -/
  | report (report : Report)
  /-- A flip completed that was submitted without a token. -/
  | tokenless (crtc : Crtc)
  /-- Nothing. -/
  | other
deriving DecidableEq

/-- What the record means. -/
def meaning (r : EventRecord) : Meaning :=
  if r.kind = flipKind then
    match Token.ofUInt64? r.field with
    | some token => .report (.complete token r.stamp)
    | none => .tokenless r.crtc
  else .other

end EventRecord

/-- The records at the start of some bytes, and whether they are all there is. -/
structure EventRecords where
  records : List EventRecord
  /-- Whether the bytes end with the last of the records. -/
  intact : Bool
deriving DecidableEq

namespace EventRecords

/-- Reads records up to the end of the bytes or to the first malformed one. -/
def ofBytes (bytes : List UInt8) : EventRecords :=
  if bytes = [] then ⟨[], true⟩
  else
    match h : EventRecord.ofBytes? bytes with
    | none => ⟨[], false⟩
    | some (r, rest) =>
      have : rest.length < bytes.length := EventRecord.length_lt_of_ofBytes? h
      let tail := ofBytes rest
      ⟨r :: tail.records, tail.intact⟩
termination_by bytes.length

/-- The completed flips that the records report. -/
def reports (rs : EventRecords) : List Report :=
  rs.records.filterMap fun r =>
    match r.meaning with
    | .report report => some report
    | _ => none

/-- The controllers of the completed flips that carry no token. -/
def tokenless (rs : EventRecords) : List Crtc :=
  rs.records.filterMap fun r =>
    match r.meaning with
    | .tokenless crtc => some crtc
    | _ => none

end EventRecords

end PageFlip
