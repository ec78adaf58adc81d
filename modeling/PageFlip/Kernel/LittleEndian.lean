/-!
# Little-endian numbers

A natural number as a given number of bytes, the least significant first. Reading back what was
written gives the number, as far as the bytes could hold it: `ofBytes_toBytes`.
-/

namespace PageFlip.LittleEndian

/-- The lowest `width` bytes of `n`. -/
def toBytes : Nat → Nat → List UInt8
  | 0, _ => []
  | width + 1, n => UInt8.ofNat (n % 256) :: toBytes width (n / 256)

/-- The number with the given bytes. -/
def ofBytes : List UInt8 → Nat
  | [] => 0
  | b :: rest => b.toNat + 256 * ofBytes rest

/-- The number in `width` bytes from position `start` on. -/
def field (bytes : List UInt8) (start width : Nat) : Nat :=
  ofBytes ((bytes.drop start).take width)

/-- A number is written in as many bytes as it is said to have. -/
@[simp] theorem length_toBytes (width n : Nat) : (toBytes width n).length = width := by
  induction width generalizing n with
  | zero => rfl
  | succ width ih => simp [toBytes, ih]

/-- A number is read back from its bytes up to what does not fit into them. -/
theorem ofBytes_toBytes (width n : Nat) : ofBytes (toBytes width n) = n % Nat.pow 256 width := by
  induction width generalizing n with
  | zero => simp [toBytes, ofBytes, Nat.mod_one]
  | succ width ih =>
    have h : n % 256 % 2 ^ 8 = n % 256 := Nat.mod_eq_of_lt (Nat.mod_lt n (by decide))
    have hpow : Nat.pow 256 (width + 1) = 256 * Nat.pow 256 width := Nat.mul_comm _ _
    rw [toBytes, ofBytes, ih, UInt8.toNat_ofNat', h, hpow, Nat.mod_mul]

/-- The number that is read fits into its bytes. -/
theorem ofBytes_lt (bytes : List UInt8) : ofBytes bytes < Nat.pow 256 bytes.length := by
  induction bytes with
  | nil => simp [ofBytes]
  | cons b rest ih =>
    have hb : b.toNat < 256 := b.toNat_lt
    have hpow : Nat.pow 256 (rest.length + 1) = Nat.pow 256 rest.length * 256 := rfl
    rw [ofBytes, List.length_cons, hpow]
    omega

end PageFlip.LittleEndian
