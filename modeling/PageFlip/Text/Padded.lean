/-!
# Padded text

Text set in a column of a least width. Text that is already as wide as its column is left alone:
`padStart_eq_self` and `padEnd_eq_self`.
-/

namespace PageFlip.Text

/-- The characters that bring a text of `length` characters to `width`. -/
def padding (width length : Nat) (fill : Char) : String :=
  String.ofList (List.replicate (width - length) fill)

/-- Sets the text at the right edge of a column of `width` characters. -/
def padStart (width : Nat) (fill : Char) (s : String) : String :=
  padding width s.length fill ++ s

/-- Sets the text at the left edge of a column of `width` characters. -/
def padEnd (width : Nat) (fill : Char) (s : String) : String :=
  s ++ padding width s.length fill

/-- A text that is long enough needs no padding. -/
theorem padding_of_le {width length : Nat} (fill : Char) (h : width ≤ length) :
    padding width length fill = "" := by
  simp [padding, Nat.sub_eq_zero_of_le h]

/-- A text that is long enough is not padded in front. -/
theorem padStart_eq_self {width : Nat} {fill : Char} {s : String} (h : width ≤ s.length) :
    padStart width fill s = s := by
  simp [padStart, padding_of_le fill h]

/-- A text that is long enough is not padded behind. -/
theorem padEnd_eq_self {width : Nat} {fill : Char} {s : String} (h : width ≤ s.length) :
    padEnd width fill s = s := by
  simp [padEnd, padding_of_le fill h]

/-- A number in decimal with at least `width` digits. -/
def digits (width n : Nat) : String :=
  padStart width '0' (toString n)

end PageFlip.Text
