/-!
# Flip tokens

A token is a non-zero 32-bit number that identifies a submitted flip while it is in flight. The
hardware reports it back in a 64-bit field; `ofUInt64?` accepts the fields that hold a token.
-/

namespace PageFlip

/-- The identity of a flip in flight. -/
@[ext] structure Token where
  raw : UInt32
  raw_ne_zero : raw ≠ 0
deriving DecidableEq

namespace Token

/-- The token with the given number, if it is not zero. -/
def ofUInt32? (raw : UInt32) : Option Token :=
  if h : raw ≠ 0 then some ⟨raw, h⟩ else none

/-- The token held by a 64-bit field: its number must be non-zero and fit 32 bits. -/
def ofUInt64? (field : UInt64) : Option Token :=
  if field.toUInt32.toUInt64 = field then ofUInt32? field.toUInt32 else none

instance : ToString Token := ⟨fun t => toString t.raw.toNat⟩

instance : Ord Token := ⟨fun a b => compare a.raw b.raw⟩

/-- A token is read back from its number. -/
@[simp] theorem ofUInt32?_raw (t : Token) : ofUInt32? t.raw = some t := by
  simp [ofUInt32?, t.raw_ne_zero]

/-- Every number but 0 is that of a token. -/
@[simp] theorem ofUInt32?_eq_none_iff {raw : UInt32} : ofUInt32? raw = none ↔ raw = 0 := by
  simp [ofUInt32?]

/-- The token of a number has this number. -/
theorem ofUInt32?_eq_some_iff {raw : UInt32} {t : Token} :
    ofUInt32? raw = some t ↔ raw = t.raw := by
  constructor
  · intro h
    simp only [ofUInt32?] at h
    split at h
    · cases h; rfl
    · simp at h
  · rintro rfl; simp

/-- A token is read back from the field that holds its number. -/
@[simp] theorem ofUInt64?_toUInt64 (t : Token) : ofUInt64? t.raw.toUInt64 = some t := by
  simp [ofUInt64?]

end Token

end PageFlip
