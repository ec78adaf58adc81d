import PageFlip.Proofs.Registry

/-!
# Registries without a token

`Registry.Without hidden r r'` says that `r'` has all tokens of `r` but the hidden one, if there is
one. What a registry does with other tokens it does without the hidden one as well: it forgets them,
hands out their events and retires them.
-/

namespace PageFlip

namespace Table

variable {κ α : Type} [DecidableEq κ]

/-- Two keys are erased in either order. -/
theorem erase_comm (t : Table κ α) (k l : κ) : (t.erase k).erase l = (t.erase l).erase k := by
  ext1
  rw [entries_erase, entries_erase, entries_erase, entries_erase, List.filter_filter,
    List.filter_filter]
  exact List.filter_congr fun e _ => Bool.and_comm _ _

/-- An entry that is inserted and erased might as well not have been inserted. -/
theorem erase_insert_self (t : Table κ α) (k : κ) (v : α) : (t.insert k v).erase k = t.erase k := by
  ext1
  simp

/-- Erasing one key and inserting another comes to the same in either order. -/
theorem erase_insert_of_ne (t : Table κ α) {k l : κ} (v : α) (h : k ≠ l) :
    (t.insert k v).erase l = (t.erase l).insert k v := by
  ext1
  rw [entries_erase, entries_insert, entries_insert, entries_erase, List.filter_append,
    List.filter_filter, List.filter_filter]
  congr 1
  · exact List.filter_congr fun e _ => Bool.and_comm _ _
  · simp [h]

/-- Of many entries only those with other keys remain. -/
theorem erase_foldl_insert {β : Type} (l : List (κ × β)) (f : β → α) (t : Table κ α) (k : κ) :
    (l.foldl (fun t e => t.insert e.1 (f e.2)) t).erase k =
      (l.filter fun e => e.1 != k).foldl (fun t e => t.insert e.1 (f e.2)) (t.erase k) := by
  induction l generalizing t with
  | nil => rfl
  | cons e rest ih =>
    rw [List.foldl_cons, ih, List.filter_cons]
    split_ifs with he
    · rw [List.foldl_cons, erase_insert_of_ne _ _ (by simpa using he)]
    · -- An entry that is inserted under the key itself is lost again.
      obtain rfl : e.1 = k := by simpa using he
      rw [erase_insert_self]

/-- The table without the key, if there is one. -/
def hide (t : Table κ α) : Option κ → Table κ α
  | none => t
  | some k => t.erase k

section Hide

variable {t : Table κ α} {hidden : Option κ} {k : κ}

/-- Other keys are found as before. -/
theorem find?_hide (h : hidden ≠ some k) : (t.hide hidden).find? k = t.find? k := by
  cases hidden with
  | none => rfl
  | some l => exact (find?_erase t l k).trans (if_neg fun hkl => h (congrArg some hkl.symm))

/-- Other keys are there as before. -/
theorem contains_hide (h : hidden ≠ some k) : (t.hide hidden).contains k = t.contains k := by
  rw [contains_eq_isSome_find?, contains_eq_isSome_find?, find?_hide h]

/-- A key is hidden as well when another one is erased. -/
theorem hide_erase : (t.erase k).hide hidden = (t.hide hidden).erase k := by
  cases hidden with
  | none => rfl
  | some l => exact erase_comm t k l

/-- Where entries are inserted, the table without the key gets those with other keys. -/
theorem hide_foldl_insert {β : Type} (l : List (κ × β)) (f : β → α) :
    (l.foldl (fun t e => t.insert e.1 (f e.2)) t).hide hidden =
      (l.filter fun e => hidden != some e.1).foldl (fun t e => t.insert e.1 (f e.2))
        (t.hide hidden) := by
  cases hidden with
  | none =>
    have hall : (l.filter fun e => (none : Option κ) != some e.1) = l :=
      List.filter_eq_self.2 fun e _ => rfl
    rw [hall]
    rfl
  | some k =>
    refine (erase_foldl_insert l f t k).trans ?_
    congr 1
    refine List.filter_congr fun e _ => ?_
    rw [bne_comm]
    rfl

/-- The entries are those with other keys. -/
theorem entries_hide : (t.hide hidden).entries = t.entries.filter fun e => hidden != some e.1 := by
  cases hidden with
  | none => exact (List.filter_eq_self.2 fun e _ => rfl).symm
  | some k =>
    refine List.filter_congr fun e _ => ?_
    rw [bne_comm]
    rfl

/-- The entries taken are those that are taken from the whole table, without the hidden one. -/
theorem select_hide (p : κ → α → Bool) :
    (t.hide hidden).select p = (t.select p).filter fun e => hidden != some e.1 := by
  rw [select, entries_hide, select, List.filter_filter, List.filter_filter]
  exact List.filter_congr fun e _ => Bool.and_comm _ _

/-- Of the entries with other keys the same ones are kept. -/
theorem keep_hide (p : κ → α → Bool) : (t.hide hidden).keep p = (t.keep p).hide hidden := by
  ext1
  rw [entries_hide]
  exact select_hide p

end Hide

end Table

namespace Registry

variable {α : Type}

/-- The second registry has the tokens of the first one but the hidden one. -/
structure Without (hidden : Option Token) (r r' : Registry α) : Prop where
  max : r'.max = r.max
  pending : r'.pending = r.pending.hide hidden
  retired : r'.retired = r.retired.hide hidden

namespace Without

variable {hidden : Option Token} {r r' : Registry α} {t : Token}

/-- With nothing to hide the registries are the same. -/
theorem refl (r : Registry α) : r.Without none r := ⟨rfl, rfl, rfl⟩

/-- The event of another token is handed out. -/
theorem erase_pending (h : r.Without hidden r') (t : Token) :
    Without hidden { r with pending := r.pending.erase t }
      { r' with pending := r'.pending.erase t } :=
  ⟨h.max, by rw [h.pending, Table.hide_erase], h.retired⟩

/-- Another token is forgotten, if it is retired. -/
theorem forget? (h : r.Without hidden r') (ht : hidden ≠ some t) :
    (r.forget? t = none ∧ r'.forget? t = none) ∨
    ∃ s s', r.forget? t = some s ∧ r'.forget? t = some s' ∧ s.Without hidden s' := by
  have hsame : r'.retired.contains t = r.retired.contains t := by
    rw [h.retired, Table.contains_hide ht]
  unfold Registry.forget?
  rw [hsame]
  split_ifs
  · exact .inr ⟨_, _, rfl, rfl, h.max, h.pending, by rw [h.retired, Table.hide_erase]⟩
  · exact .inl ⟨rfl, rfl⟩

/-- Other tokens are pending in both registries. -/
theorem find?_pending (h : r.Without hidden r') (ht : hidden ≠ some t) :
    r'.pending.find? t = r.pending.find? t := by
  rw [h.pending, Table.find?_hide ht]

/-- The tokens of a controller are retired. -/
theorem retirePipe (h : r.Without hidden r') (crtc : Crtc) :
    (r.retirePipe crtc).2.Without hidden (r'.retirePipe crtc).2 where
  max := h.max
  pending := by
    rw [retirePipe_pending, retirePipe_pending, h.pending, Table.keep_hide]
  retired := by
    simp only [Registry.retirePipe, Table.take]
    rw [h.pending, h.retired, Table.select_hide, Table.hide_foldl_insert]

/-- The events that are handed out are the same ones but that of the hidden token. -/
theorem events_retirePipe (h : r.Without hidden r') {p : α → Bool} (crtc : Crtc)
    (hp : ∀ t e, r.pending.find? t = some e → (p e.event = true ↔ hidden ≠ some t)) :
    (r'.retirePipe crtc).1 = (r.retirePipe crtc).1.filter p := by
  simp only [Registry.retirePipe, Table.take]
  rw [h.pending, Table.select_hide, List.filter_map]
  congr 1
  refine List.filter_congr fun e he => ?_
  have hmem : e ∈ r.pending.entries := List.mem_of_mem_filter he
  have hiff := hp e.1 e.2 (Table.find?_eq_some_iff.2 hmem)
  rw [Bool.eq_iff_iff, bne_iff_ne]
  exact hiff.symm

/-- The tokens come to be in another order, in both registries the same one. -/
theorem reorder (h : r.Without hidden r') {table : Table Token (Pending α)}
    (htable : table.entries.Perm r.pending.entries) {p : α → Bool}
    (hp : ∀ t e, r.pending.find? t = some e → (p e.event = true ↔ hidden ≠ some t)) :
    (table.keep fun _ e => p e.event).entries.Perm r'.pending.entries ∧
      (r.reorder table).Without hidden (r'.reorder (table.keep fun _ e => p e.event)) := by
  have hkeep : (table.keep fun _ e => p e.event) = table.hide hidden := by
    ext1
    rw [Table.entries_hide]
    refine List.filter_congr fun e he => ?_
    rw [Bool.eq_iff_iff, bne_iff_ne]
    exact hp e.1 e.2 (Table.find?_eq_some_iff.2 (htable.subset he))
  refine ⟨?_, h.max, hkeep, h.retired⟩
  rw [hkeep, h.pending, Table.entries_hide, Table.entries_hide]
  exact htable.filter _

/-- A hidden token is allocated. -/
theorem allocate (h : r.Without none r') {crtc : Crtc} {event : α} {s : Registry α}
    (hs : r.allocate crtc event = some (t, s)) : s.Without (some t) r' := by
  obtain ⟨-, hfree, rfl⟩ := of_allocate_eq_some hs
  obtain ⟨hpending, hretired⟩ := Bool.or_eq_false_iff.1 hfree
  refine ⟨h.max, ?_, ?_⟩
  · refine h.pending.trans ?_
    exact ((Table.erase_insert_self _ _ _).trans (Table.erase_eq_self hpending)).symm
  · exact h.retired.trans (Table.erase_eq_self hretired).symm

/-- The event of the hidden token is handed out, and the token is not retired. -/
theorem resolve (h : r.Without (some t) r') (hretired : r.retired.find? t = none) :
    Without none { r with pending := r.pending.erase t } r' := by
  refine ⟨h.max, h.pending, h.retired.trans (Table.erase_eq_self ?_)⟩
  rw [Table.contains_eq_isSome_find?, hretired]
  rfl

/-- The hidden token is forgotten, and it is not pending. -/
theorem forget (h : r.Without (some t) r') (hpending : r.isPending t = false) :
    (r.forget t).Without none r' := by
  rw [forget_eq]
  exact ⟨h.max, h.pending.trans (Table.erase_eq_self hpending), h.retired⟩

end Without

end Registry

end PageFlip
