import Mathlib.Data.List.Forall2
import PageFlip.Config.Literal

/-!
# The spelling of literals

How the smallest parts of a configuration text may be written, without a word about how they are
read: blanks (`Blank`), the characters of a string as they are or behind a backslash (`Spells`) and
whole numbers by their decimal digits. What is written in this way is read as what it spells,
whatever follows on the closing quotation mark of a string (`readString_of_spells`) and on a number
that does not go on (`readNumber_toDigits`).
-/

namespace PageFlip.Config

/-- The text consists of characters that may stand between two parts. -/
def Blank (text : List Char) : Prop := ∀ c ∈ text, c = ' ' ∨ c = '\n' ∨ c = '\t' ∨ c = '\r'

/-! ## Strings -/

/-- A hexadecimal digit, small or capital, and its value. -/
def IsHexDigit (c : Char) (v : Nat) : Prop :=
  v < 16 ∧ (c = Nat.digitChar v ∨ c = (Nat.digitChar v).toUpper)

/-- Four hexadecimal digits spell a code unit. -/
def SpellsUnit (text : List Char) (unit : Nat) : Prop :=
  ∃ values, List.Forall₂ IsHexDigit text values ∧ values.length = 4 ∧
    unit = values.foldl (fun n v => n * 16 + v) 0

/-- The letters that may follow a backslash and the characters for which they stand. -/
def escapeLetters : List (Char × Char) :=
  [('"', '"'), ('\\', '\\'), ('/', '/'), ('b', '\x08'), ('f', '\x0c'), ('n', '\n'), ('r', '\r'),
    ('t', '\t')]

/-- How the characters of a string may be written between its quotation marks. -/
inductive Spells : List Char → List Char → Prop
  | nil : Spells [] []
  /-- A character stands for itself. -/
  | plain {c : Char} {text s : List Char} (hcontrol : ' ' ≤ c) (hquote : c ≠ '"')
      (hbackslash : c ≠ '\\') (h : Spells text s) : Spells (c :: text) (c :: s)
  /-- A letter behind a backslash stands for a character. -/
  | letter {l c : Char} {text s : List Char} (hletter : (l, c) ∈ escapeLetters)
      (h : Spells text s) : Spells ('\\' :: l :: text) (c :: s)
  /-- A character that is one code unit may be written by its digits. -/
  | unit {c : Char} {digits text s : List Char} (hunit : SpellsUnit digits c.toNat)
      (h : Spells text s) : Spells ('\\' :: 'u' :: (digits ++ text)) (c :: s)
  /-- Other characters may be written as two code units. -/
  | pair {c : Char} {first second : Nat} {digits digits' text s : List Char}
      (hfirst : SpellsUnit digits (0xd800 + first)) (hsecond : SpellsUnit digits' (0xdc00 + second))
      (hfirst_lt : first < 0x400) (hsecond_lt : second < 0x400)
      (hchar : c.toNat = 0x10000 + first * 0x400 + second) (h : Spells text s) :
      Spells ('\\' :: 'u' :: (digits ++ '\\' :: 'u' :: (digits' ++ text))) (c :: s)

variable {c l : Char} {text rest s tail : List Char} {v unit n : Nat}

/-- Characters that need no backslash may be written as they are. -/
theorem spells_self (h : s.all fun c => ' '.toNat ≤ c.toNat && c != '"' && c != '\\') :
    Spells s s := by
  induction s with
  | nil => exact .nil
  | cons c s ih =>
    simp only [List.all_cons, Bool.and_eq_true, decide_eq_true_eq, bne_iff_ne] at h
    obtain ⟨⟨⟨hcontrol, hquote⟩, hbackslash⟩, hs⟩ := h
    exact .plain hcontrol hquote hbackslash (ih hs)

/-- A hexadecimal digit has its value. -/
theorem hexDigit?_of_isHexDigit (h : IsHexDigit c v) : hexDigit? c = some v := by
  have hread : ∀ v < 16, hexDigit? (Nat.digitChar v) = some v ∧
      hexDigit? (Nat.digitChar v).toUpper = some v := by decide
  obtain ⟨hv, rfl | rfl⟩ := h
  · exact (hread v hv).1
  · exact (hread v hv).2

/-- So have several of them. -/
theorem mapM_hexDigit? {values : List Nat} (h : List.Forall₂ IsHexDigit text values) :
    text.mapM hexDigit? = some values := by
  induction h with
  | nil => rfl
  | cons hc _ ih => simp [List.mapM_cons, hexDigit?_of_isHexDigit hc, ih]

/-- Each character takes a byte at least. -/
theorem length_le_byteLength (text : List Char) : text.length ≤ byteLength text := by
  induction text with
  | nil => exact Nat.zero_le _
  | cons c text ih =>
    have hc : 0 < c.utf8Size := c.utf8Size_pos
    simp only [byteLength, List.foldr_cons, List.length_cons] at ih ⊢
    omega

/-- A code unit is read from its digits. -/
theorem readUnit_of_spellsUnit (h : SpellsUnit text unit) (rest : List Char) :
    readUnit (text ++ rest) = .ok (unit, rest) := by
  obtain ⟨values, hvalues, hfour, rfl⟩ := h
  have hlength : text.length = 4 := hvalues.length_eq.trans hfour
  have hlong : ¬ byteLength (text ++ rest) < 4 := by
    have := length_le_byteLength (text ++ rest)
    rw [List.length_append] at this
    omega
  have htake : (text ++ rest).take 4 = text := List.take_left' hlength
  have hdrop : (text ++ rest).drop 4 = rest := List.drop_left' hlength
  match values, hfour with
  | [a, b, c, d], _ => simp [readUnit, hlong, htake, hdrop, mapM_hexDigit? hvalues]

/-- A letter behind a backslash is read as the character for which it stands. -/
theorem readEscape_letter (h : (l, c) ∈ escapeLetters) (rest : List Char) :
    readEscape (l :: rest) = .ok (c, rest) := by
  have htable : escape? l = some c ∧ l ≠ 'u' := by
    revert h
    simp only [escapeLetters, List.mem_cons, List.not_mem_nil, Prod.mk.injEq, or_false]
    rintro (⟨rfl, rfl⟩ | ⟨rfl, rfl⟩ | ⟨rfl, rfl⟩ | ⟨rfl, rfl⟩ | ⟨rfl, rfl⟩ | ⟨rfl, rfl⟩ |
      ⟨rfl, rfl⟩ | ⟨rfl, rfl⟩) <;> decide
  simp [readEscape, htable]

/-- No character is half of a pair of code units. -/
theorem not_half (c : Char) : isTrailing c.toNat = false ∧ isLeading c.toNat = false := by
  have hvalid : c.toNat < 0xd800 ∨ 0xdfff < c.toNat ∧ c.toNat < 0x110000 := c.valid
  constructor
  · simp only [isTrailing, Bool.and_eq_false_iff, decide_eq_false_iff_not]
    omega
  · simp only [isLeading, Bool.and_eq_false_iff, decide_eq_false_iff_not]
    omega

/-- A character is read from its code unit. -/
theorem readEscape_unit (h : SpellsUnit text c.toNat) (rest : List Char) :
    readEscape ('u' :: (text ++ rest)) = .ok (c, rest) := by
  obtain ⟨htrailing, hleading⟩ := not_half c
  simp [readEscape, readEscapedChar, readUnit_of_spellsUnit h, htrailing, hleading, bind,
    Except.bind, pure, Except.pure]

/-- A character is read from its two code units. -/
theorem readEscape_pair {first second : Nat} {digits digits' : List Char}
    (hfirst : SpellsUnit digits (0xd800 + first)) (hsecond : SpellsUnit digits' (0xdc00 + second))
    (hfirst_lt : first < 0x400) (hsecond_lt : second < 0x400)
    (hchar : c.toNat = 0x10000 + first * 0x400 + second) (rest : List Char) :
    readEscape ('u' :: (digits ++ '\\' :: 'u' :: (digits' ++ rest))) = .ok (c, rest) := by
  have hnot_trailing : isTrailing (0xd800 + first) = false := by
    simp only [isTrailing, Bool.and_eq_false_iff, decide_eq_false_iff_not]
    omega
  have hleading : isLeading (0xd800 + first) = true := by
    simp only [isLeading, Bool.and_eq_true, decide_eq_true_iff]
    omega
  have htrailing : isTrailing (0xdc00 + second) = true := by
    simp only [isTrailing, Bool.and_eq_true, decide_eq_true_iff]
    omega
  have hpaired : pairedChar (0xd800 + first) (0xdc00 + second) = c := by
    rw [pairedChar, Nat.add_sub_cancel_left, Nat.add_sub_cancel_left, ← hchar, Char.ofNat_toNat]
  simp [readEscape, readEscapedChar, readUnit_of_spellsUnit hfirst, readUnit_of_spellsUnit hsecond,
    hnot_trailing, hleading, htrailing, hpaired, bind, Except.bind, pure, Except.pure]

/-- A string goes on behind an escaped character. -/
theorem readString_escape (h : readEscape text = .ok (c, tail)) :
    readString ('\\' :: text) = (readString tail).map fun s => (c :: s.1, s.2) := by
  rw [readString]
  split
  · rename_i hread
    rw [h] at hread
    cases hread
  · rename_i hread
    rw [h] at hread
    cases hread
    rfl

/-- A string is read from any of its spellings, up to its closing quotation mark. -/
theorem readString_of_spells (h : Spells text s) (rest : List Char) :
    readString (text ++ '"' :: rest) = .ok (s, rest) := by
  induction h with
  | nil => rw [List.nil_append, readString]
  | @plain c text s hcontrol hquote hbackslash _ ih =>
    have hpassed : ¬ c < ' ' := Char.not_lt.mpr hcontrol
    rw [List.cons_append, readString.eq_4 c _ hquote hbackslash, if_neg hpassed, ih]
    rfl
  | @letter l c text s hletter _ ih =>
    have hread := readString_escape (readEscape_letter hletter (text ++ '"' :: rest))
    rw [List.cons_append, List.cons_append, hread, ih]
    rfl
  | @unit c digits text s hunit _ ih =>
    have hread := readString_escape (readEscape_unit hunit (text ++ '"' :: rest))
    rw [List.cons_append, List.cons_append, List.append_assoc, hread, ih]
    rfl
  | @pair c first second digits digits' text s hfirst hsecond hfirst_lt hsecond_lt hchar _ ih =>
    have hread := readString_escape
      (readEscape_pair hfirst hsecond hfirst_lt hsecond_lt hchar (text ++ '"' :: rest))
    simp only [List.cons_append, List.append_assoc, hread, ih]
    rfl

/-! ## Numbers -/

/-- A number ends before this text. -/
def EndsNumber (rest : List Char) : Prop :=
  ∀ c ∈ rest.head?, digit? c = none ∧ c ≠ '.' ∧ c ≠ 'e' ∧ c ≠ 'E'

/-- A decimal digit has its value. -/
theorem digit?_digitChar : ∀ d < 10, digit? (Nat.digitChar d) = some d := by
  decide

/-- One more digit of a number that fits a word is taken. -/
theorem takeDigits_digit {d m : Nat} (hd : d < 10) (hfits : 10 * m + d < UInt64.size)
    (rest : List Char) :
    takeDigits m (Nat.digitChar d :: rest) =
      ((takeDigits (10 * m + d) rest).1, (takeDigits (10 * m + d) rest).2.1 + 1,
        (takeDigits (10 * m + d) rest).2.2) := by
  rw [takeDigits, digit?_digitChar d hd]
  simp only [hfits, if_true]

/-- The digits of a number that fits a word are taken together, whatever follows. -/
theorem takeDigits_toDigits (hn : n < UInt64.size) (rest : List Char) :
    takeDigits 0 (Nat.toDigits 10 n ++ rest) =
      ((takeDigits n rest).1, (takeDigits n rest).2.1 + (Nat.toDigits 10 n).length,
        (takeDigits n rest).2.2) := by
  induction n using Nat.strongRecOn generalizing rest with
  | ind n ih =>
    by_cases hsmall : n < 10
    · rw [Nat.toDigits_of_lt_base hsmall, List.singleton_append,
        takeDigits_digit hsmall (by omega)]
      simp
    · -- The last digit is taken after all digits of the tenth part.
      have hsplit := Nat.toDigits_of_base_le (b := 10) (n := n) (by omega) (by omega)
      have hn' : 10 * (n / 10) + n % 10 = n := Nat.div_add_mod n 10
      rw [hsplit, List.append_assoc, List.singleton_append, ih (n / 10) (by omega) (by omega),
        takeDigits_digit (by omega) (by omega), hn', List.length_append, List.length_singleton,
        Nat.add_assoc, Nat.add_comm 1]

/-- The first digit of a number is zero for zero only. -/
theorem toDigits_first (n : Nat) :
    ∃ d tail, Nat.toDigits 10 n = Nat.digitChar d :: tail ∧ d < 10 ∧ (n ≠ 0 → d ≠ 0) := by
  induction n using Nat.strongRecOn with
  | ind n ih =>
    by_cases hsmall : n < 10
    · exact ⟨n, [], Nat.toDigits_of_lt_base hsmall, hsmall, id⟩
    · obtain ⟨d, tail, hdigits, hd, hzero⟩ := ih (n / 10) (by omega)
      have hsplit := Nat.toDigits_of_base_le (b := 10) (n := n) (by omega) (by omega)
      rw [hdigits, List.cons_append] at hsplit
      exact ⟨d, _, hsplit, hd, fun _ => hzero (by omega)⟩

/-- Where a number ends no digit is taken. -/
theorem takeDigits_of_endsNumber (h : EndsNumber rest) (n : Nat) :
    takeDigits n rest = (n, 0, rest) := by
  cases rest with
  | nil => rfl
  | cons c rest => rw [takeDigits, (h c rfl).1]

/-- Where a number ends no digit follows. -/
theorem startsWithDigit_of_endsNumber (h : EndsNumber rest) : startsWithDigit rest = false := by
  cases rest with
  | nil => rfl
  | cons c rest => simp [startsWithDigit, (h c rfl).1]

/-- A number without a fraction and an exponent is whole. -/
theorem readTail_of_endsNumber (h : EndsNumber rest) (n : Nat) :
    readTail false n none rest = .ok (.whole n, rest) := by
  unfold readTail
  split
  · exact absurd rfl (h _ rfl).2.1
  · exact absurd rfl (h _ rfl).2.2.1
  · exact absurd rfl (h _ rfl).2.2.2
  · rfl

/-- A number that fits a word is read from its digits. -/
theorem readNumber_toDigits (hn : n < UInt64.size) (h : EndsNumber rest) :
    readNumber false (Nat.toDigits 10 n ++ rest) = .ok (.whole n, rest) := by
  have hstop := startsWithDigit_of_endsNumber h
  have htail := readTail_of_endsNumber h n
  -- A zero in front ends a number, so only zero may begin with it.
  by_cases hzero : n = 0
  · subst hzero
    rw [Nat.toDigits_zero, List.singleton_append, readNumber, hstop]
    exact htail
  · obtain ⟨d, tail, hdigits, hd, hfirst⟩ := toDigits_first n
    have htaken := takeDigits_toDigits hn rest
    rw [takeDigits_of_endsNumber h] at htaken
    have hnot_zero : Nat.digitChar d ≠ '0' := fun h => hfirst hzero (Nat.digitChar_eq_zero.mp h)
    rw [hdigits, List.cons_append] at htaken ⊢
    rw [readNumber.eq_3 false _ _ hnot_zero]
    simp [digit?_digitChar d hd, htaken, hstop, htail]

end PageFlip.Config
