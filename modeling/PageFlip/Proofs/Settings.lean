import Mathlib.Data.List.Perm.Subperm
import PageFlip.Config.Reader
import PageFlip.Proofs.Spelling

/-!
# Configuration texts say what they mean

How an object or a list of settings may be written (`objectText`, `listText`), again without a word
about how it is read: members in any order, the elements of a list in the order of the settings,
blanks between any two parts, and each value as `Written` has it. `parse_written` says that the
configuration is read from such a text which has the settings that the text gives and the default
values of all others; and that an object fails for its content if one more member stands in it,
wherever that is, which names no setting or a setting that is there.

Each part is read by one lemma that says what is read and what is left, for any text that follows.
An object is read member by member (`Reader.fields_entry`), so that a problem with the name of a
member is met behind all members before it (`parse_stops`) and what follows does not matter.
-/

namespace PageFlip.Config

/-! ## Settings -/

/-- A setting with its value. -/
inductive Setting
  | asyncFlips (b : Bool)
  | maxPending (n : UInt64)
  | maxIdleRetries (n : UInt32)
  | logLevel (l : Log.Level)
deriving DecidableEq

/-- Which setting it is. -/
def Setting.field : Setting → Field
  | .asyncFlips _ => .asyncFlips
  | .maxPending _ => .maxPending
  | .maxIdleRetries _ => .maxIdleRetries
  | .logLevel _ => .logLevel

/-- A setting of a configuration. -/
def setting (c : Config) : Field → Setting
  | .asyncFlips => .asyncFlips c.asyncFlips
  | .maxPending => .maxPending c.maxPending
  | .maxIdleRetries => .maxIdleRetries c.maxIdleRetries
  | .logLevel => .logLevel c.logLevel

/-- A configuration is given by its settings. -/
theorem ext_setting {c c' : Config} (h : ∀ f, c.setting f = c'.setting f) : c = c' := by
  have hasync := h .asyncFlips
  have hpending := h .maxPending
  have hidle := h .maxIdleRetries
  have hlevel := h .logLevel
  simp only [setting, Setting.asyncFlips.injEq, Setting.maxPending.injEq,
    Setting.maxIdleRetries.injEq, Setting.logLevel.injEq] at hasync hpending hidle hlevel
  cases c
  cases c'
  simp_all

namespace Draft

/-- The draft with one more setting. -/
def give (d : Draft) : Setting → Draft
  | .asyncFlips b => { d with asyncFlips := some b }
  | .maxPending n => { d with maxPending := some n }
  | .maxIdleRetries n => { d with maxIdleRetries := some n }
  | .logLevel l => { d with logLevel := some l }

/-- A setting that is given is there, besides those that were there. -/
theorem has_give (d : Draft) (x : Setting) (f : Field) :
    (d.give x).has f = true ↔ f = x.field ∨ d.has f = true := by
  cases x <;> cases f <;> simp [give, has, Setting.field]

/-- A setting that is given takes the place of the same one, and of no other. -/
theorem setting_give (d : Draft) (x : Setting) (f : Field) :
    (d.give x).config.setting f = if f = x.field then x else d.config.setting f := by
  cases x <;> cases f <;> rfl

/-- After a row of settings those of the row are there, besides the earlier ones. -/
theorem has_foldl (xs : List Setting) (d : Draft) (f : Field) :
    (xs.foldl give d).has f = true ↔ f ∈ xs.map Setting.field ∨ d.has f = true := by
  induction xs generalizing d with
  | nil => simp
  | cons x xs ih =>
    rw [List.foldl_cons, ih, has_give, List.map_cons, List.mem_cons]
    tauto

/-- Settings of a configuration that are given replace those of the draft. -/
theorem setting_foldl {c : Config} {xs : List Setting} (hxs : ∀ x ∈ xs, x = c.setting x.field)
    (d : Draft) (f : Field) :
    (xs.foldl give d).config.setting f =
      if f ∈ xs.map Setting.field then c.setting f else d.config.setting f := by
  induction xs generalizing d with
  | nil => simp
  | cons x xs ih =>
    have hx : x = c.setting x.field := hxs x List.mem_cons_self
    rw [List.foldl_cons, ih (fun y hy => hxs y (List.mem_cons_of_mem x hy)), setting_give]
    by_cases hrest : f ∈ xs.map Setting.field
    · simp [hrest]
    · by_cases hf : f = x.field
      · subst hf
        simp [hrest, ← hx]
      · simp [hrest, hf]

end Draft

/-! ## Texts -/

/-- How the value of a setting may be written. -/
inductive Written : List Char → Setting → Prop
  | yes : Written "true".toList (.asyncFlips true)
  | no : Written "false".toList (.asyncFlips false)
  | maxPending (n : UInt64) : Written (Nat.toDigits 10 n.toNat) (.maxPending n)
  | maxIdleRetries (n : UInt32) : Written (Nat.toDigits 10 n.toNat) (.maxIdleRetries n)
  /-- The name of a level is quoted. -/
  | level {l : Log.Level} {name : List Char} (hname : Spells name l.name.toList) :
      Written ('"' :: (name ++ ['"'])) (.logLevel l)
  /-- The quoted name may also stand in an object of its own, with nothing as its value. -/
  | wrapped {l : Log.Level} {name before between gap after : List Char}
      (hname : Spells name l.name.toList) (hbefore : Blank before) (hbetween : Blank between)
      (hgap : Blank gap) (hafter : Blank after) :
      Written ('{' :: (before ++ '"' :: (name ++ '"' :: (between ++ ':' :: (gap ++
        ("null".toList ++ (after ++ ['}']))))))) (.logLevel l)

/-- A member of an object, as its parts are written. -/
structure Entry where
  before : List Char
  name : List Char
  between : List Char
  gap : List Char
  value : List Char
  after : List Char

namespace Entry

/-- The member from the opening quotation mark of its name on. -/
def body (e : Entry) : List Char :=
  '"' :: (e.name ++ '"' :: (e.between ++ ':' :: (e.gap ++ (e.value ++ e.after))))

/-- The whole member. -/
def text (e : Entry) : List Char := e.before ++ e.body

/-- The member has a name. -/
structure Names (e : Entry) (name : String) : Prop where
  before : Blank e.before
  name : Spells e.name name.toList
  between : Blank e.between
  gap : Blank e.gap
  after : Blank e.after

/-- The member gives a setting. -/
structure Gives (e : Entry) (x : Setting) : Prop extends e.Names x.field.name where
  value : Written e.value x

end Entry

/-- An element of a list, as its parts are written. -/
structure Item where
  before : List Char
  value : List Char
  after : List Char

namespace Item

/-- The whole element. -/
def text (i : Item) : List Char := i.before ++ (i.value ++ i.after)

/-- The element gives a setting. -/
structure Gives (i : Item) (x : Setting) : Prop where
  before : Blank i.before
  value : Written i.value x
  after : Blank i.after

end Item

/-- An object of some members. -/
def objectText (lead gap : List Char) (entries : List Entry) (tail : List Char) : List Char :=
  lead ++ '{' :: (gap ++ ([','].intercalate (entries.map Entry.text) ++ '}' :: tail))

/-- A list of some elements. -/
def listText (lead gap : List Char) (items : List Item) (tail : List Char) : List Char :=
  lead ++ '[' :: (gap ++ ([','].intercalate (items.map Item.text) ++ ']' :: tail))

/-- What stands in front of a part that is the first one or not. -/
def separator (first : Bool) : List Char := if first then [] else [',']

/-- The parts that are left of a row, with their separators. -/
def row (first : Bool) : List (List Char) → List Char
  | [] => []
  | part :: parts => separator first ++ (part ++ row false parts)

/-- Parts with commas between them are a row. -/
theorem intercalate_eq_row (parts : List (List Char)) :
    [','].intercalate parts = row true parts := by
  induction parts with
  | nil => rfl
  | cons part parts ih =>
    cases parts with
    | nil => simp [row, separator]
    | cons next parts => rw [List.intercalate_cons_cons, ih]; simp [row, separator]

/-- A row goes on with what follows on its first parts. -/
theorem row_append (parts more : List (List Char)) (first : Bool) :
    row first (parts ++ more) = row first parts ++ row (first && parts.isEmpty) more := by
  induction parts generalizing first with
  | nil => simp [row]
  | cons part parts ih => simp [row, ih false]

/-- The text goes on behind a value. -/
def Closes (rest : List Char) : Prop := ∃ c ∈ rest.head?, c = ',' ∨ c = '}' ∨ c = ']'

/-- A number ends before the comma or the bracket behind it. -/
theorem EndsNumber.of_closes {after rest : List Char} (hafter : Blank after) (h : Closes rest) :
    EndsNumber (after ++ rest) := by
  intro c hc
  cases after with
  | nil =>
    obtain ⟨c', hc', h⟩ := h
    obtain rfl : c' = c := by simpa [Option.mem_def.mp hc'] using hc
    rcases h with rfl | rfl | rfl <;> decide
  | cons c' after =>
    obtain rfl : c' = c := by simpa using hc
    rcases hafter c' List.mem_cons_self with rfl | rfl | rfl | rfl <;> decide

/-- The text goes on behind a value whether it was the last one or not. -/
theorem closes_row {parts : List (List Char)} {rest : List Char} (h : Closes rest) :
    Closes (row false parts ++ rest) := by
  cases parts with
  | nil => exact h
  | cons part parts => exact ⟨',', rfl, .inl rfl⟩

/-! ## Reading the parts -/

namespace Reader

variable {b rest text : List Char} {c : Char}

/-- No text is blank, too. -/
theorem blank_nil : Blank [] := fun _ hc => absurd hc List.not_mem_nil

/-- In a blank each character is one. -/
theorem isBlank_of_blank (hb : Blank b) (hc : c ∈ b) : isBlank c = true := by
  rcases hb c hc with rfl | rfl | rfl | rfl <;> rfl

/-- Blanks in front of a part are skipped. -/
theorem peekPart_run (hb : Blank b) (hc : isBlank c = false) (rest : List Char) :
    peekPart.run (b ++ c :: rest) = .ok (some c, c :: rest) := by
  have hdropped : (b ++ c :: rest).dropWhile isBlank = c :: rest := by
    rw [List.dropWhile_append_of_pos fun c hc => isBlank_of_blank hb hc,
      List.dropWhile_cons_of_neg (by simp [hc])]
  simp only [peekPart, peek, StateT.run_bind, StateT.run_modify, StateT.run_get, hdropped,
    pure_bind, StateT.run_pure, List.head?_cons]
  rfl

/-- A part without blanks in front begins at once. -/
theorem peekPart_here (hc : isBlank c = false) (rest : List Char) :
    peekPart.run (c :: rest) = .ok (some c, c :: rest) :=
  peekPart_run blank_nil hc rest

/-- Behind the last blanks nothing begins. -/
theorem peekPart_end (hb : Blank b) : peekPart.run b = .ok (none, []) := by
  have hdropped : b.dropWhile isBlank = [] := by
    have hall : ∀ c ∈ b, isBlank c = true := fun c hc => isBlank_of_blank hb hc
    rw [← List.append_nil b, List.dropWhile_append_of_pos hall, List.dropWhile_nil]
  simp only [peekPart, peek, StateT.run_bind, StateT.run_modify, StateT.run_get, hdropped,
    pure_bind, StateT.run_pure, List.head?_nil]
  rfl

/-- One character is skipped. -/
@[simp] theorem skip_run (c : Char) (rest : List Char) : skip.run (c :: rest) = .ok ((), rest) :=
  rfl

/-- A problem ends the reading. -/
@[simp] theorem stop_run {α : Type} (p : Problem) : (stop p : Reader α).run text = .error p :=
  rfl

section

variable {ε α β : Type}

/-- What was read is used by what follows. -/
@[simp] theorem ok_bind (a : α) (f : α → Except ε β) : (Except.ok a >>= f) = f a := rfl

/-- A problem stays one, whatever would follow. -/
@[simp] theorem error_bind (e : ε) (f : α → Except ε β) : (Except.error e >>= f) = .error e := rfl

/-- What was read is used. -/
@[simp] theorem map_ok (a : α) (f : α → β) : f <$> (Except.ok a : Except ε α) = .ok (f a) := rfl

/-- What is returned was read. -/
@[simp] theorem pure_eq_ok (a : α) : (pure a : Except ε α) = .ok a := rfl

end

/-- A word is read from its text. -/
theorem word_run (w rest : List Char) : (word w).run (w ++ rest) = .ok ((), rest) := by
  induction w with
  | nil => rfl
  | cons c w ih => simpa [word, peek] using ih

/-- A string is read from what spells it. -/
theorem string_run {s : String} (h : Spells text s.toList) (rest : List Char) :
    string.run (text ++ '"' :: rest) = .ok (s, rest) := by
  simp [string, readString_of_spells h]

/-- A number is read from its digits. -/
theorem number_run {n : Nat} (hn : n < UInt64.size) (hrest : EndsNumber rest) :
    (number false).run (Nat.toDigits 10 n ++ rest) = .ok (.whole n, rest) := by
  simp [number, readNumber_toDigits hn hrest]

/-- The value of `async_flips` is read from its text. -/
theorem boolean_run (hb : Blank b) {v : Bool} (h : Written text (.asyncFlips v))
    (rest : List Char) : boolean.run (b ++ (text ++ rest)) = .ok (v, rest) := by
  cases h with
  | yes =>
    have hword : (word ['t', 'r', 'u', 'e']).run ('t' :: 'r' :: 'u' :: 'e' :: rest) =
        .ok ((), rest) := word_run _ rest
    simp [boolean, peekPart_run hb (c := 't') rfl, hword]
  | no =>
    have hword : (word ['f', 'a', 'l', 's', 'e']).run ('f' :: 'a' :: 'l' :: 's' :: 'e' :: rest) =
        .ok ((), rest) := word_run _ rest
    simp [boolean, peekPart_run hb (c := 'f') rfl, hword]

/-- A number below a limit is read from its digits. -/
theorem bounded_run {n limit : Nat} (hn : n < limit) (hlimit : limit ≤ UInt64.size)
    (hb : Blank b) (hrest : EndsNumber rest) (expected : Expected) :
    (bounded limit expected).run (b ++ (Nat.toDigits 10 n ++ rest)) = .ok (n, rest) := by
  obtain ⟨d, tail, hdigits, hd, -⟩ := toDigits_first n
  have hnumber := number_run (Nat.lt_of_lt_of_le hn hlimit) hrest
  have hfirst : ∀ d < 10, isBlank (Nat.digitChar d) = false := by decide
  rw [hdigits, List.cons_append] at hnumber ⊢
  simp [bounded, peekPart_run hb (hfirst d hd), digit?_digitChar d hd, hnumber, natural, hn]

/-- The colon behind a name is read. -/
theorem colon_run (hb : Blank b) (rest : List Char) :
    colon.run (b ++ ':' :: rest) = .ok ((), rest) := by
  simp [colon, peekPart_run hb (c := ':') rfl]

/-- The value of a level that stands in an object is read. -/
theorem nothing_run (hb : Blank b) (rest : List Char) :
    nothing.run (b ++ 'n' :: 'u' :: 'l' :: 'l' :: rest) = .ok ((), rest) := by
  have hword : (word ['n', 'u', 'l', 'l']).run ('n' :: 'u' :: 'l' :: 'l' :: rest) =
      .ok ((), rest) := word_run _ rest
  simp [nothing, peekPart_run hb (c := 'n') rfl, hword]

/-- A level is read from what spells its name. -/
theorem levelName_run {l : Log.Level} (h : Spells text l.name.toList) (rest : List Char) :
    levelName.run (text ++ '"' :: rest) = .ok (l, rest) := by
  simp [levelName, string_run h]

/-- A level is read from any of its texts. -/
theorem level_run (hb : Blank b) {l : Log.Level} (h : Written text (.logLevel l))
    (rest : List Char) : level.run (b ++ (text ++ rest)) = .ok (l, rest) := by
  cases h with
  | level hname => simp [level, peekPart_run hb (c := '"') rfl, levelName_run hname]
  | wrapped hname hbefore hbetween hgap hafter =>
    simp [level, peekPart_run hb (c := '{') rfl, wrappedLevel, peekPart_run hbefore (c := '"') rfl,
      levelName_run hname, colon_run hbetween, nothing_run hgap,
      peekPart_run hafter (c := '}') rfl]

/-- The value of a setting is read from any of its texts. -/
theorem value_run (hb : Blank b) {x : Setting} (h : Written text x) (hrest : EndsNumber rest)
    (d : Draft) : (value d x.field).run (b ++ (text ++ rest)) = .ok (d.give x, rest) := by
  cases x with
  | asyncFlips v => simp [value, Setting.field, boolean_run hb h, Draft.give]
  | maxPending n =>
    cases h
    simp [value, Setting.field, bounded_run n.toNat_lt Nat.le.refl hb hrest, Draft.give]
  | maxIdleRetries n =>
    cases h
    simp [value, Setting.field, bounded_run n.toNat_lt (by decide) hb hrest, Draft.give]
  | logLevel l => simp [value, Setting.field, level_run hb h, Draft.give]

/-- A value begins with a character of its own. -/
theorem written_first {x : Setting} (h : Written text x) :
    ∃ c tail, text = c :: tail ∧ isBlank c = false ∧ c ≠ ']' := by
  have hdigits : ∀ n, ∃ c tail, Nat.toDigits 10 n = c :: tail ∧ isBlank c = false ∧ c ≠ ']' := by
    intro n
    have hfirst : ∀ d < 10, isBlank (Nat.digitChar d) = false ∧ Nat.digitChar d ≠ ']' := by decide
    obtain ⟨d, tail, htext, hd, -⟩ := toDigits_first n
    exact ⟨_, tail, htext, hfirst d hd⟩
  cases h with
  | yes => exact ⟨'t', _, rfl, by decide⟩
  | no => exact ⟨'f', _, rfl, by decide⟩
  | maxPending n => exact hdigits n.toNat
  | maxIdleRetries n => exact hdigits n.toNat
  | level _ => exact ⟨'"', _, rfl, by decide⟩
  | wrapped _ _ _ _ _ => exact ⟨'{', _, rfl, by decide⟩

/-! ## Reading objects and lists -/

variable {first : Bool} {b' : List Char} {d : Draft}

/-- Another part follows if one begins behind the separator. -/
theorem hasNext_part {closing : Char} (hclosing : closing ≠ ',') (first : Bool) (hb : Blank b)
    (hb' : Blank b') (hc : isBlank c = false) (hne : c ≠ closing) (rest : List Char) :
    (hasNext closing first).run (b ++ (separator first ++ (b' ++ c :: rest))) =
      .ok (true, c :: rest) := by
  cases first with
  | true =>
    have hblank : Blank (b ++ b') := fun c hc => (List.mem_append.mp hc).elim (hb c) (hb' c)
    have hpeek := peekPart_run hblank hc rest
    rw [List.append_assoc] at hpeek
    simp [hasNext, separator, hpeek, hne]
  | false =>
    simp [hasNext, separator, peekPart_run hb (c := ',') rfl, peekPart_run hb' hc, hne,
      hclosing.symm]

/-- No other part follows at the closing bracket. -/
theorem hasNext_end {closing : Char} (hclosing : isBlank closing = false) (hb : Blank b)
    (first : Bool) (rest : List Char) :
    (hasNext closing first).run (b ++ closing :: rest) = .ok (false, closing :: rest) := by
  simp [hasNext, peekPart_run hb hclosing]

/-- Another member follows if a quoted name begins behind the separator. -/
theorem hasNext_member (first : Bool) (hb : Blank b) (hb' : Blank b') (rest : List Char) :
    (hasNext '}' first).run (b ++ (separator first ++ (b' ++ '"' :: rest))) =
      .ok (true, '"' :: rest) :=
  hasNext_part (by decide) first hb hb' rfl (by decide) rest

/-- The name of a setting that was not given yet is read with the colon behind it. -/
theorem field_run {f : Field} (hname : Spells text f.name.toList) (hd : d.has f = false)
    (hb : Blank b) (rest : List Char) :
    (field d).run ('"' :: (text ++ '"' :: (b ++ ':' :: rest))) = .ok (f, rest) := by
  simp [field, peekPart_here (c := '"') rfl, string_run hname, hd, colon_run hb]

/-- A name that is no setting's ends the reading, whatever follows. -/
theorem field_unknown {name : String} (hname : Spells text name.toList)
    (hunknown : ∀ f : Field, name ≠ f.name) (rest : List Char) :
    (field d).run ('"' :: (text ++ '"' :: rest)) = .error (.unknownField name) := by
  have hnone : Field.ofName? name = none :=
    List.find?_eq_none.mpr fun f _ => by simpa using (hunknown f).symm
  simp [field, peekPart_here (c := '"') rfl, string_run hname, hnone]

/-- The name of a setting that was given ends the reading, whatever follows. -/
theorem field_duplicate {f : Field} (hname : Spells text f.name.toList) (hd : d.has f = true)
    (rest : List Char) :
    (field d).run ('"' :: (text ++ '"' :: rest)) = .error (.duplicateField f) := by
  simp [field, peekPart_here (c := '"') rfl, string_run hname, hd]

/-- The settings of an object end at its closing brace. -/
theorem fields_end (hb : Blank b) (left : Nat) (first : Bool) (d : Draft) (rest : List Char) :
    (fields left first d).run (b ++ '}' :: rest) = .ok (d, rest) := by
  have hclosing : isBlank '}' = false := rfl
  unfold fields
  simp [hasNext_end hclosing hb]

/-- A member that gives a setting is read, and the object goes on behind it. -/
theorem fields_entry (first : Bool) {e : Entry} {x : Setting} (he : e.Gives x)
    (hd : d.has x.field = false) (hb : Blank b) (hrest : Closes rest) (left : Nat) :
    (fields (left + 1) first d).run (b ++ (separator first ++ (e.text ++ rest))) =
      (fields left false (d.give x)).run (e.after ++ rest) := by
  have hends : EndsNumber (e.after ++ rest) := .of_closes he.after hrest
  rw [fields]
  simp [Entry.text, Entry.body, hasNext_member first hb he.before, field_run he.name hd he.between,
    value_run he.gap he.value hends]

/-- Members that give different settings are read one after the other. -/
theorem fields_entries {entries : List Entry} {xs : List Setting}
    (h : List.Forall₂ Entry.Gives entries xs) (first : Bool) (hnodup : (xs.map Setting.field).Nodup)
    (hd : ∀ f ∈ xs.map Setting.field, d.has f = false) (hb : Blank b)
    (hrest : entries ≠ [] → Closes rest) (left : Nat) :
    ∃ b', Blank b' ∧
      (fields (left + entries.length) first d).run
          (b ++ (row first (entries.map Entry.text) ++ rest)) =
        (fields left (first && entries.isEmpty) (xs.foldl Draft.give d)).run (b' ++ rest) := by
  induction h generalizing first d b with
  | nil => exact ⟨b, hb, by simp [row]⟩
  | @cons e x entries xs he _ ih =>
    rw [List.map_cons, List.nodup_cons] at hnodup
    have hx : d.has x.field = false := hd _ (List.mem_cons_self ..)
    -- The settings to come are not the one of the first member either.
    have hd' : ∀ f ∈ xs.map Setting.field, (d.give x).has f = false := by
      intro f hf
      have hne : f ≠ x.field := fun h => hnodup.1 (h ▸ hf)
      have hfree : d.has f = false := hd f (List.mem_cons_of_mem _ hf)
      rw [← Bool.not_eq_true, Draft.has_give, hfree]
      simp [hne]
    have hcloses : Closes rest := hrest (List.cons_ne_nil e entries)
    obtain ⟨b', hb', hrun⟩ := ih false hnodup.2 hd' he.after fun _ => hcloses
    refine ⟨b', hb', ?_⟩
    have hrow : Closes (row false (entries.map Entry.text) ++ rest) := closes_row hcloses
    have hentry := fields_entry first he hx hb hrow (left + entries.length)
    simp only [List.map_cons, row, List.append_assoc, List.length_cons, List.foldl_cons,
      List.isEmpty_cons, Bool.and_false] at hrun hentry ⊢
    exact hentry.trans hrun

/-- The elements of a list give the settings in their order. -/
theorem elements_run {items : List Item} {xs : List Setting}
    (h : List.Forall₂ Item.Gives items xs) (first : Bool) (d : Draft) (hb : Blank b)
    (fields : List Field) (tail : List Char) :
    ∃ b', Blank b' ∧
      (elements first d (xs.map Setting.field ++ fields)).run
          (b ++ (row first (items.map Item.text) ++ ']' :: tail)) =
        .ok (xs.foldl Draft.give d, b' ++ ']' :: tail) := by
  induction h generalizing first d b with
  | nil =>
    cases fields with
    | nil => exact ⟨b, hb, rfl⟩
    | cons f fields =>
      have hclosing : isBlank ']' = false := rfl
      exact ⟨[], blank_nil, by simp [elements, row, hasNext_end hclosing hb]⟩
  | @cons i x items xs hi _ ih =>
    have hcloses : Closes (row false (items.map Item.text) ++ ']' :: tail) :=
      closes_row ⟨']', rfl, .inr (.inr rfl)⟩
    have hends := EndsNumber.of_closes hi.after hcloses
    obtain ⟨b', hb', hrun⟩ := ih false (d.give x) hi.after
    -- The look for another element stops at its first character, so the value is read from there.
    obtain ⟨c, rest, hvalue, hc, hne⟩ := written_first hi.value
    have hpart := hasNext_part (by decide) first hb hi.before hc hne
    have hread := value_run blank_nil hi.value hends d
    refine ⟨b', hb', ?_⟩
    simp only [hvalue, List.nil_append, List.cons_append] at hread
    simp [elements, row, Item.text, hvalue, hpart, hread, hrun]

end Reader

/-! ## Reading whole texts -/

/-- There are no other fields. -/
theorem Field.mem_all (f : Field) : f ∈ Field.all := by
  cases f <;> decide

/-- At first no setting was given. -/
theorem Draft.has_empty (f : Field) : Draft.empty.has f = false := by
  cases f <;> rfl

/-- A setting that was not given has its default value. -/
theorem Draft.setting_empty (f : Field) :
    Draft.empty.config.setting f = Config.default.setting f := by
  cases f <;> rfl

/-- The settings that are given and the defaults of the others make up the configuration. -/
theorem config_foldl {c : Config} {xs : List Setting} (hxs : ∀ x ∈ xs, x = c.setting x.field)
    (hdefault : ∀ f, f ∉ xs.map Setting.field → c.setting f = Config.default.setting f) :
    (xs.foldl Draft.give .empty).config = c := by
  apply ext_setting
  intro f
  rw [Draft.setting_foldl hxs]
  split
  · rfl
  · rename_i hf
    rw [Draft.setting_empty, hdefault f hf]

open Reader

section

variable {lead gap tail : List Char} {entries : List Entry} {xs : List Setting}

/-- An object of members with different settings is read up to where it goes on. -/
theorem settings_entries (hlead : Blank lead) (hgap : Blank gap)
    (h : List.Forall₂ Entry.Gives entries xs) (hnodup : (xs.map Setting.field).Nodup)
    {rest : List Char} (hrest : entries ≠ [] → Closes rest) :
    ∃ left b, Blank b ∧
      settings.run (lead ++ '{' :: (gap ++ (row true (entries.map Entry.text) ++ rest))) =
        (fields left entries.isEmpty (xs.foldl Draft.give .empty)).run (b ++ rest) := by
  have hlength : entries.length ≤ Field.all.length := by
    have hsub := List.subperm_of_subset hnodup fun f _ => Field.mem_all f
    rw [h.length_eq, ← List.length_map (f := Setting.field)]
    exact hsub.length_le
  obtain ⟨b, hb, hrun⟩ := fields_entries h true hnodup (fun f _ => Draft.has_empty f) hgap hrest
    (Field.all.length - entries.length)
  rw [Nat.sub_add_cancel hlength, Bool.true_and] at hrun
  refine ⟨Field.all.length - entries.length, b, hb, ?_⟩
  simp [settings, peekPart_run hlead (c := '{') rfl, hrun]

/-- An object is read as the configuration that it gives. -/
theorem parse_objectText {c : Config} (hlead : Blank lead) (hgap : Blank gap) (htail : Blank tail)
    (h : List.Forall₂ Entry.Gives entries xs) (hnodup : (xs.map Setting.field).Nodup)
    (hxs : ∀ x ∈ xs, x = c.setting x.field)
    (hdefault : ∀ f, f ∉ xs.map Setting.field → c.setting f = Config.default.setting f) :
    parse (String.ofList (objectText lead gap entries tail)) = .ok c := by
  have hcloses : Closes ('}' :: tail) := ⟨'}', rfl, .inr (.inl rfl)⟩
  obtain ⟨left, b, hb, hrun⟩ := settings_entries hlead hgap h hnodup fun _ => hcloses
  rw [fields_end hb] at hrun
  simp [parse, whole, objectText, intercalate_eq_row, hrun, peekPart_end htail,
    config_foldl hxs hdefault, Except.map]

/-- A list is read as the configuration that it gives. -/
theorem parse_listText {items : List Item} {c : Config} (hlead : Blank lead) (hgap : Blank gap)
    (htail : Blank tail) (h : List.Forall₂ Item.Gives items xs)
    (hfront : xs.map Setting.field <+: Field.all) (hxs : ∀ x ∈ xs, x = c.setting x.field)
    (hdefault : ∀ f, f ∉ xs.map Setting.field → c.setting f = Config.default.setting f) :
    parse (String.ofList (listText lead gap items tail)) = .ok c := by
  obtain ⟨fields, hfields⟩ := hfront
  obtain ⟨b, hb, hrun⟩ := elements_run h true .empty hgap fields tail
  rw [hfields] at hrun
  simp [parse, whole, settings, listText, intercalate_eq_row, peekPart_run hlead (c := '[') rfl,
    hrun, closeList, peekPart_run hb (c := ']') rfl, peekPart_end htail,
    config_foldl hxs hdefault, Except.map]

/-- A text fails for what it says, and not for how it is formed. -/
def FailsFor (text : List Char) (p : Problem) : Prop :=
  parse (String.ofList text) = .error p ∧ p.category = .content

/-- A problem with the name of a member is the problem of the text, whatever follows. -/
theorem parse_stops {before rest : List Char} {p : Problem} (hlead : Blank lead) (hgap : Blank gap)
    (h : List.Forall₂ Entry.Gives entries xs) (hnodup : (xs.map Setting.field).Nodup)
    (hbefore : Blank before)
    (hstop : (field (xs.foldl Draft.give .empty)).run ('"' :: rest) = .error p) :
    parse (String.ofList (lead ++ '{' :: (gap ++ (row true (entries.map Entry.text) ++
      (separator entries.isEmpty ++ (before ++ '"' :: rest)))))) = .error p := by
  have hcloses : entries ≠ [] → Closes (separator entries.isEmpty ++ (before ++ '"' :: rest)) := by
    intro hne
    exact ⟨',', by simp [separator, hne], .inl rfl⟩
  obtain ⟨left, b, hb, hrun⟩ := settings_entries hlead hgap h hnodup hcloses
  unfold fields at hrun
  simp only [StateT.run_bind, hasNext_member entries.isEmpty hb hbefore, ok_bind, if_true, hstop,
    error_bind] at hrun
  simp [parse, whole, hrun, Except.map]

/-- An object fails for the name of a member, whatever stands behind the name. -/
theorem failsFor_of_stop {e : Entry} {name : String} {p : Problem} (hlead : Blank lead)
    (hgap : Blank gap) (h : List.Forall₂ Entry.Gives entries xs)
    (hnodup : (xs.map Setting.field).Nodup) (he : e.Names name) (hp : p.category = .content)
    (hstop : ∀ rest, (field (xs.foldl Draft.give .empty)).run ('"' :: (e.name ++ '"' :: rest)) =
      .error p) (after : List Entry) (tail : List Char) :
    FailsFor (objectText lead gap (entries ++ e :: after) tail) p := by
  refine ⟨?_, hp⟩
  have hrun := parse_stops hlead hgap h hnodup he.before
    (hstop (e.between ++ ':' :: (e.gap ++ (e.value ++ (e.after ++
      (row false (after.map Entry.text) ++ '}' :: tail))))))
  rw [objectText, intercalate_eq_row, List.map_append, row_append, List.map_cons]
  simpa [row, Entry.text, Entry.body] using hrun

/-- An object fails where it names the setting of a member for the second time. -/
theorem failsFor_duplicate {before middle : List Entry} {e e' : Entry} {ys zs : List Setting}
    {x : Setting} (hlead : Blank lead) (hgap : Blank gap)
    (hbefore : List.Forall₂ Entry.Gives before ys) (he : e.Gives x)
    (hmiddle : List.Forall₂ Entry.Gives middle zs) (he' : e'.Names x.field.name)
    (hnodup : ((ys ++ x :: zs).map Setting.field).Nodup) (after : List Entry) (tail : List Char) :
    FailsFor (objectText lead gap (before ++ e :: (middle ++ e' :: after)) tail)
      (.duplicateField x.field) := by
  have hrow : List.Forall₂ Entry.Gives (before ++ e :: middle) (ys ++ x :: zs) :=
    List.rel_append hbefore (.cons he hmiddle)
  have hgiven : ((ys ++ x :: zs).foldl Draft.give .empty).has x.field = true := by
    rw [Draft.has_foldl]
    exact .inl (by simp)
  have hfails := failsFor_of_stop hlead hgap hrow hnodup he' rfl (field_duplicate he'.name hgiven)
    after tail
  rwa [List.append_assoc, List.cons_append] at hfails

/-- The member that gives a setting, among members that give some settings. -/
theorem exists_entry (h : List.Forall₂ Entry.Gives entries xs) {f : Field}
    (hf : f ∈ xs.map Setting.field) :
    ∃ before e after ys x zs, entries = before ++ e :: after ∧ xs = ys ++ x :: zs ∧
      List.Forall₂ Entry.Gives before ys ∧ e.Gives x ∧ List.Forall₂ Entry.Gives after zs ∧
      x.field = f := by
  induction h with
  | nil => cases hf
  | @cons e x entries xs he h ih =>
    rw [List.map_cons, List.mem_cons] at hf
    rcases hf with rfl | hf
    · exact ⟨[], e, entries, [], x, xs, rfl, rfl, .nil, he, h, rfl⟩
    · obtain ⟨before, e', after, ys, x', zs, rfl, rfl, hbefore, he', hafter, hf⟩ := ih hf
      exact ⟨e :: before, e', after, x :: ys, x', zs, rfl, rfl, .cons he hbefore, he', hafter, hf⟩

/-- An object fails if one of its settings is given once more, wherever that is. -/
theorem failsFor_repeated {before after : List Entry} {e : Entry} {ys zs : List Setting}
    {x : Setting} (hlead : Blank lead) (hgap : Blank gap)
    (hbefore : List.Forall₂ Entry.Gives before ys) (he : e.Gives x)
    (hafter : List.Forall₂ Entry.Gives after zs) (hnodup : ((ys ++ zs).map Setting.field).Nodup)
    (hx : x.field ∈ (ys ++ zs).map Setting.field) (tail : List Char) :
    FailsFor (objectText lead gap (before ++ e :: after) tail) (.duplicateField x.field) := by
  rw [List.map_append, List.mem_append] at hx
  rcases hx with hx | hx
  · -- The new member is the second one.
    obtain ⟨first, e', middle, ys, x', ms, rfl, rfl, hfirst, he', hmiddle, hfield⟩ :=
      exists_entry hbefore hx
    rw [List.map_append, List.nodup_append] at hnodup
    have hnames : e.Names x'.field.name := hfield ▸ he.toNames
    rw [List.append_assoc, List.cons_append, ← hfield]
    exact failsFor_duplicate hlead hgap hfirst he' hmiddle hnames hnodup.1 after tail
  · -- The new member is the first one.
    obtain ⟨middle, e', last, ms, x', zs, rfl, rfl, hmiddle, he', -, hfield⟩ :=
      exists_entry hafter hx
    have hnames : e'.Names x.field.name := hfield ▸ he'.toNames
    have hnodup' : ((ys ++ x :: ms).map Setting.field).Nodup := by
      have hperm : (ys ++ (ms ++ [x'])).Perm (ys ++ x' :: ms) :=
        (List.perm_append_singleton x' ms).append_left ys
      have hsub : (ys ++ (ms ++ [x'])).Sublist (ys ++ (ms ++ x' :: zs)) := by simp
      have := (hperm.map Setting.field).nodup_iff.mp (hnodup.sublist (hsub.map _))
      simpa [hfield] using this
    exact failsFor_duplicate hlead hgap hbefore he hmiddle hnames hnodup' last tail

end

/-- Settings of a configuration, each of them once, such that all others have their default
values. -/
structure Selects (c : Config) (xs : List Setting) : Prop where
  of_config : ∀ x ∈ xs, x = c.setting x.field
  once : (xs.map Setting.field).Nodup
  others : ∀ f, f ∉ xs.map Setting.field → c.setting f = Config.default.setting f

/-- Every configuration is read from every text that gives some of its settings, if the others have
their default values: as an object, once each and in any order, or as a list, the first ones in
their order. One more member anywhere in the object makes it fail for its content if it names no
setting or gives one of those that are there. -/
theorem parse_written (c : Config) {lead gap tail : List Char} (hlead : Blank lead)
    (hgap : Blank gap) (htail : Blank tail) {xs : List Setting} (hxs : c.Selects xs) :
    (∀ entries, List.Forall₂ Entry.Gives entries xs →
      parse (String.ofList (objectText lead gap entries tail)) = .ok c ∧
      ∀ before after e, before ++ after = entries →
        (∀ name, e.Names name → (∀ f : Field, name ≠ f.name) →
          FailsFor (objectText lead gap (before ++ e :: after) tail) (.unknownField name)) ∧
        ∀ x, e.Gives x → x.field ∈ xs.map Setting.field →
          FailsFor (objectText lead gap (before ++ e :: after) tail) (.duplicateField x.field)) ∧
    ∀ items, List.Forall₂ Item.Gives items xs → xs.map Setting.field <+: Field.all →
      parse (String.ofList (listText lead gap items tail)) = .ok c := by
  refine ⟨fun entries h => ⟨?_, ?_⟩, fun items h hfront => ?_⟩
  · exact parse_objectText hlead hgap htail h hxs.once hxs.of_config hxs.others
  · rintro before after e rfl
    have hbefore : List.Forall₂ Entry.Gives before (xs.take before.length) := by
      simpa using List.forall₂_take before.length h
    have hafter : List.Forall₂ Entry.Gives after (xs.drop before.length) := by
      simpa using List.forall₂_drop before.length h
    have hxs' : xs.take before.length ++ xs.drop before.length = xs := List.take_append_drop ..
    generalize xs.take before.length = ys at hbefore hxs'
    generalize xs.drop before.length = zs at hafter hxs'
    subst hxs'
    refine ⟨fun name he hunknown => ?_, fun x he hx => ?_⟩
    · have honce := hxs.once
      rw [List.map_append, List.nodup_append] at honce
      exact failsFor_of_stop hlead hgap hbefore honce.1 he rfl (field_unknown he.name hunknown)
        after tail
    · exact failsFor_repeated hlead hgap hbefore he hafter hxs.once hx tail
  · exact parse_listText hlead hgap htail h hfront hxs.of_config hxs.others

/-- A member without blanks whose name is written as it is. -/
def Entry.plain (name value : String) : Entry := ⟨[], name.toList, [], [], value.toList, []⟩

/-- A plain member has its name if none of the characters has to be escaped. -/
theorem Entry.plain_names {name : String}
    (h : name.toList.all fun c => ' '.toNat ≤ c.toNat && c != '"' && c != '\\')
    (value : String) :
    (Entry.plain name value).Names name where
  before := blank_nil
  name := spells_self h
  between := blank_nil
  gap := blank_nil
  after := blank_nil

/-- Two settings as an object, as an object with a member that is one too many, and as a list. -/
theorem two_settings_written :
    Config.Selects ⟨false, 7, 4, .info⟩ [.asyncFlips false, .maxPending 7] ∧
      parse "\x7b\"async_flips\":false,\"max_pending_sequences\":7\x7d" = .ok ⟨false, 7, 4, .info⟩ ∧
      parse "\x7b\"async_flips\":false,\"depth\":2,\"max_pending_sequences\":7\x7d" =
        .error (.unknownField "depth") ∧
      parse "\x7b\"max_pending_sequences\":8,\"async_flips\":false,\"max_pending_sequences\":7\x7d"
        = .error (.duplicateField .maxPending) ∧
      parse "[false,7]" = .ok ⟨false, 7, 4, .info⟩ := by
  have hselects : Config.Selects ⟨false, 7, 4, .info⟩ [.asyncFlips false, .maxPending 7] := by
    refine ⟨by decide, by decide, fun f hf => ?_⟩
    revert hf
    cases f <;> decide
  have hasync : (Entry.plain "async_flips" "false").Gives (.asyncFlips false) :=
    ⟨Entry.plain_names (by decide) _, .no⟩
  have hpending (n : UInt64) (value : String) (h : value.toList = Nat.toDigits 10 n.toNat) :
      (Entry.plain "max_pending_sequences" value).Gives (.maxPending n) := by
    have hvalue : Written value.toList (.maxPending n) := by
      rw [h]
      exact .maxPending n
    exact ⟨Entry.plain_names (by decide) _, hvalue⟩
  have hdepth : (Entry.plain "depth" "2").Names "depth" := Entry.plain_names (by decide) _
  obtain ⟨hobjects, hlists⟩ :=
    parse_written ⟨false, 7, 4, .info⟩ blank_nil blank_nil blank_nil hselects
  obtain ⟨hread, hmore⟩ := hobjects
    [Entry.plain "async_flips" "false", Entry.plain "max_pending_sequences" "7"]
    (.cons hasync (.cons (hpending 7 "7" (by decide)) .nil))
  refine ⟨hselects, ?_, ?_, ?_, ?_⟩
  · simpa [objectText, Entry.text, Entry.body, Entry.plain] using hread
  · have hunknown := (hmore [_] [_] (Entry.plain "depth" "2") rfl).1
    have hfails := (hunknown "depth" hdepth (by intro f; cases f <;> decide)).1
    simpa [objectText, Entry.text, Entry.body, Entry.plain] using hfails
  · have hrepeated := (hmore [] [_, _] (Entry.plain "max_pending_sequences" "8") rfl).2
    have hfails := (hrepeated (.maxPending 8) (hpending 8 "8" (by decide)) (by decide)).1
    simpa [objectText, Entry.text, Entry.body, Entry.plain, Setting.field] using hfails
  · have hlist := hlists [⟨[], "false".toList, []⟩, ⟨[], "7".toList, []⟩]
      (.cons ⟨blank_nil, .no, blank_nil⟩ (.cons ⟨blank_nil, .maxPending 7, blank_nil⟩ .nil))
      (by decide)
    simpa [listText, Item.text] using hlist

end PageFlip.Config
