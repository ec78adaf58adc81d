/-!
# Tables

A finite map as the list of its entries; no key stands twice. `find?` is the view: `find?_insert`,
`find?_erase` and `find?_keep` say what the operations do to it. The operations leave the entries in
the order in which their keys were inserted, but no one may rely on that: the entries of a table are
in no specified order.
-/

namespace PageFlip

/-- A finite map from keys to values. -/
structure Table (κ : Type) (α : Type) where
  /-- The entries, the one inserted last at the end. -/
  entries : List (κ × α)
  /-- No key stands twice. -/
  nodup : (entries.map Prod.fst).Nodup

namespace Table

variable {κ α : Type}

/-- The table without entries. -/
def empty : Table κ α := ⟨[], List.nodup_nil⟩

instance : Inhabited (Table κ α) := ⟨empty⟩

/-- The keys, in the order of the entries. -/
def keys (t : Table κ α) : List κ := t.entries.map Prod.fst

/-- The number of entries. -/
def size (t : Table κ α) : Nat := t.entries.length

/-- Whether there are no entries. -/
def isEmpty (t : Table κ α) : Bool := t.entries.isEmpty

/-- The entries that satisfy `p`. -/
def select (t : Table κ α) (p : κ → α → Bool) : List (κ × α) :=
  t.entries.filter fun e => p e.1 e.2

/-- The table with only the entries that satisfy `p`. -/
def keep (t : Table κ α) (p : κ → α → Bool) : Table κ α where
  entries := t.select p
  nodup := t.nodup.sublist (List.filter_sublist.map _)

/-- Tables with the same entries are the same. -/
@[ext] theorem ext {t u : Table κ α} (h : t.entries = u.entries) : t = u := by
  cases t; cases u; cases h; rfl

/-- The empty table has no entries. -/
@[simp] theorem entries_empty : (empty : Table κ α).entries = [] := rfl

/-- The entries that are kept are those that satisfy the condition, in their order. -/
@[simp] theorem entries_keep (t : Table κ α) (p : κ → α → Bool) :
    (t.keep p).entries = t.entries.filter fun e => p e.1 e.2 := rfl

/-- Removes the entries that satisfy `p` and returns them, in no specified order: here in that of
the table. -/
def take (t : Table κ α) (p : κ → α → Bool) : List (κ × α) × Table κ α :=
  (t.select p, t.keep fun k v => !p k v)

/-- The entries taken and the entries left are all the entries there were. -/
theorem take_perm (t : Table κ α) (p : κ → α → Bool) :
    ((t.take p).1 ++ (t.take p).2.entries).Perm t.entries :=
  List.filter_append_perm _ _

variable [DecidableEq κ]

/-- The value at a key. -/
def find? (t : Table κ α) (k : κ) : Option α :=
  (t.entries.find? fun e => e.1 == k).map Prod.snd

/-- Whether there is an entry with the key. -/
def contains (t : Table κ α) (k : κ) : Bool :=
  t.entries.any fun e => e.1 == k

/-- Removes the entry with the key, if there is one. -/
def erase (t : Table κ α) (k : κ) : Table κ α :=
  t.keep fun k' _ => k' != k

/-- Puts a value at a key, in place of any that is there. -/
def insert (t : Table κ α) (k : κ) (v : α) : Table κ α where
  entries := (t.erase k).entries ++ [(k, v)]
  nodup := by
    have h := (t.erase k).nodup
    simp only [List.map_append, List.map_cons, List.map_nil, List.nodup_append]
    refine ⟨h, by simp, ?_⟩
    simp [erase, List.mem_filter]

/-- Erasing a key takes away its entry and keeps the order of the others. -/
@[simp] theorem entries_erase (t : Table κ α) (k : κ) :
    (t.erase k).entries = t.entries.filter fun e => e.1 != k := rfl

/-- Inserting a key puts its entry last, in place of any that it has. -/
@[simp] theorem entries_insert (t : Table κ α) (k : κ) (v : α) :
    (t.insert k v).entries = (t.entries.filter fun e => e.1 != k) ++ [(k, v)] := rfl

/-- A table contains its keys. -/
theorem contains_iff {t : Table κ α} {k : κ} : t.contains k = true ↔ k ∈ t.keys := by
  simp [contains, keys, List.any_eq_true]

/-- There is no value at what is no key. -/
theorem find?_eq_none_iff {t : Table κ α} {k : κ} : t.find? k = none ↔ k ∉ t.keys := by
  simp only [find?, Option.map_eq_none_iff, List.find?_eq_none, keys, List.mem_map]
  grind

/-- The value at a key is that of its entry. -/
theorem find?_eq_some_iff {t : Table κ α} {k : κ} {v : α} :
    t.find? k = some v ↔ (k, v) ∈ t.entries := by
  obtain ⟨entries, nodup⟩ := t
  simp only [find?]
  induction entries with
  | nil => simp
  | cons e rest ih =>
    simp only [List.map_cons, List.nodup_cons] at nodup
    have ih := ih nodup.2
    by_cases h : e.1 = k
    · grind
    · grind

/-- There is no value in the empty table. -/
@[simp] theorem find?_empty (k : κ) : (empty : Table κ α).find? k = none := rfl

/-- Inserting changes the value at one key. -/
@[simp] theorem find?_insert (t : Table κ α) (k l : κ) (v : α) :
    (t.insert k v).find? l = if l = k then some v else t.find? l := by
  refine Option.ext fun w => ?_
  rw [find?_eq_some_iff, entries_insert, List.mem_append, List.mem_filter]
  by_cases h : l = k
  · simp [h, eq_comm]
  · simp [h, find?_eq_some_iff]

/-- Erasing takes away the value at one key. -/
@[simp] theorem find?_erase (t : Table κ α) (k l : κ) :
    (t.erase k).find? l = if l = k then none else t.find? l := by
  refine Option.ext fun w => ?_
  rw [find?_eq_some_iff, entries_erase, List.mem_filter]
  by_cases h : l = k
  · simp [h]
  · simp [h, find?_eq_some_iff]

/-- A table contains the keys that have values. -/
theorem contains_eq_isSome_find? (t : Table κ α) (k : κ) : t.contains k = (t.find? k).isSome := by
  rw [Bool.eq_iff_iff, contains_iff, Option.isSome_iff_ne_none, ne_eq, find?_eq_none_iff,
    Decidable.not_not]

/-- Inserting adds one key. -/
@[simp] theorem contains_insert (t : Table κ α) (k l : κ) (v : α) :
    (t.insert k v).contains l = (l == k || t.contains l) := by
  by_cases h : l = k <;> simp [contains_eq_isSome_find?, h]

/-- Erasing takes away one key. -/
@[simp] theorem contains_erase (t : Table κ α) (k l : κ) :
    (t.erase k).contains l = (l != k && t.contains l) := by
  by_cases h : l = k <;> simp [contains_eq_isSome_find?, h]

/-- A table is not changed by erasing a key that it does not have. -/
theorem erase_eq_self {t : Table κ α} {k : κ} (h : t.contains k = false) : t.erase k = t := by
  ext1
  rw [entries_erase, List.filter_eq_self]
  simpa [contains] using h

/-- A new key makes a table larger by one. -/
theorem size_insert {t : Table κ α} {k : κ} (v : α) (h : t.contains k = false) :
    (t.insert k v).size = t.size + 1 := by
  simp [size, ← entries_erase, erase_eq_self h]

/-- An entry is kept if it satisfies the test. -/
theorem find?_keep (t : Table κ α) (p : κ → α → Bool) (k : κ) :
    (t.keep p).find? k = (t.find? k).filter (p k) := by
  refine Option.ext fun v => ?_
  rw [find?_eq_some_iff, entries_keep, List.mem_filter, Option.filter_eq_some_iff,
    find?_eq_some_iff]

end Table

end PageFlip
