import Mathlib.Data.List.Perm.Basic
import PageFlip.Screen.Basic

/-!
# What the registry's operations do

One lemma for each operation and each view of a registry: the events that wait in it, as a list up
to order, and the tokens that it occupies. `retirePipe` keeps every token occupied
(`occupies_retirePipe`); `forgetPipe` frees the retired tokens of its controller and no others
(`occupies_forgetPipe`).
-/

namespace PageFlip

namespace Table

variable {κ α : Type} [DecidableEq κ]

/-- An entry and the others are all the entries there were. -/
theorem perm_erase {t : Table κ α} {k : κ} {v : α} (h : t.find? k = some v) :
    ((k, v) :: (t.erase k).entries).Perm t.entries := by
  obtain ⟨entries, nodup⟩ := t
  rw [find?_eq_some_iff] at h
  simp only [entries_erase] at h ⊢
  induction entries with
  | nil => simp at h
  | cons e rest ih =>
    simp only [List.map_cons, List.nodup_cons] at nodup
    by_cases he : e.1 = k
    · -- The key stands in front, and so it does not stand in the rest.
      have hrest : rest.filter (fun e => e.1 != k) = rest := by
        rw [List.filter_eq_self]
        intro e' he'
        have : e'.1 ≠ k := fun h' => nodup.1 (he ▸ h' ▸ List.mem_map_of_mem he')
        simpa using this
      have hv : e = (k, v) := by
        rcases List.mem_cons.1 h with h | h
        · exact h.symm
        · exact absurd (List.mem_map_of_mem (f := Prod.fst) h) (he ▸ nodup.1)
      subst hv
      simp [hrest]
    · have hmem : (k, v) ∈ rest := by
        rcases List.mem_cons.1 h with h | h
        · exact absurd (congrArg Prod.fst h.symm) he
        · exact h
      have hkeep : (e :: rest).filter (fun e => e.1 != k) =
          e :: rest.filter (fun e => e.1 != k) := by
        simp [he]
      rw [hkeep]
      exact (List.Perm.swap _ _ _).trans ((ih nodup.2 hmem).cons e)

/-- Inserting entries that all have one value. -/
theorem find?_foldl_insert {β : Type} (l : List (κ × β)) (f : β → α) {v : α}
    (h : ∀ e ∈ l, f e.2 = v) (t : Table κ α) (k : κ) :
    (l.foldl (fun t e => t.insert e.1 (f e.2)) t).find? k =
      if k ∈ l.map Prod.fst then some v else t.find? k := by
  induction l generalizing t with
  | nil => simp
  | cons e rest ih =>
    rw [List.foldl_cons, ih fun e he => h e (List.mem_cons_of_mem _ he), find?_insert,
      h e List.mem_cons_self]
    by_cases hk : k ∈ rest.map Prod.fst
    · simp [hk]
    · by_cases he : k = e.1 <;> simp [hk, he]

/-- The order of the entries makes no difference to the values. -/
theorem find?_of_perm {t u : Table κ α} (h : t.entries.Perm u.entries) (k : κ) :
    t.find? k = u.find? k := by
  refine Option.ext fun v => ?_
  rw [find?_eq_some_iff, find?_eq_some_iff, h.mem_iff]

end Table

namespace Registry

variable {α : Type} {r s : Registry α} {t u : Token} {crtc : Crtc} {event : α}

/-- The events that wait, in the order of their registration. -/
def events (r : Registry α) : List α := r.pending.entries.map fun e => e.2.event

/-- An event waits under a token. -/
theorem mem_events_iff : event ∈ r.events ↔
    ∃ t p, r.pending.find? t = some p ∧ p.event = event := by
  simp only [events, List.mem_map]
  constructor
  · rintro ⟨⟨t, p⟩, hmem, rfl⟩
    exact ⟨t, p, Table.find?_eq_some_iff.2 hmem, rfl⟩
  · rintro ⟨t, p, hp, rfl⟩
    exact ⟨(t, p), Table.find?_eq_some_iff.1 hp, rfl⟩

/-- A token is occupied while it is pending or retired. -/
theorem occupies_eq (r : Registry α) (t : Token) :
    r.occupies t = ((r.pending.find? t).isSome || (r.retired.find? t).isSome) := by
  simp only [occupies, Table.contains_eq_isSome_find?]

/-- An occupied token has an event or a controller. -/
theorem occupies_iff : r.occupies t = true ↔
    (∃ p, r.pending.find? t = some p) ∨ ∃ c, r.retired.find? t = some c := by
  simp [occupies_eq, Option.isSome_iff_exists]

/-- A pending token has an event. -/
theorem isPending_iff : r.isPending t = true ↔ ∃ p, r.pending.find? t = some p := by
  simp [isPending, Table.contains_eq_isSome_find?, Option.isSome_iff_exists]

/-- A token that is not pending has no event. -/
theorem isPending_eq_false_iff : r.isPending t = false ↔ r.pending.find? t = none := by
  simp [isPending, Table.contains_eq_isSome_find?]

/-- If neither table has gained a token, no token is occupied that was not. -/
theorem occupies_of_occupies (hu : s.occupies u = true)
    (hp : s.pending.find? u = none ∨ s.pending.find? u = r.pending.find? u)
    (hr : s.retired.find? u = none ∨ s.retired.find? u = r.retired.find? u) :
    r.occupies u = true := by
  rw [occupies_eq, Bool.or_eq_true] at hu ⊢
  refine hu.imp (fun hu => ?_) fun hu => ?_
  · rcases hp with hp | hp
    · rw [hp] at hu
      cases hu
    · rwa [hp] at hu
  · rcases hr with hr | hr
    · rw [hr] at hu
      cases hu
    · rwa [hr] at hu

/-! ## The order of the pending tokens -/

/-- The registry with its pending tokens in another table. -/
def reorder (r : Registry α) (table : Table Token (Pending α)) : Registry α :=
  { r with pending := table }

section Reorder

variable {table : Table Token (Pending α)}

/-- Another order of the table does not change what is pending. -/
theorem find?_reorder (h : table.entries.Perm r.pending.entries) (t : Token) :
    (r.reorder table).pending.find? t = r.pending.find? t :=
  Table.find?_of_perm h t

/-- Another order of the table does not change whether a token is pending. -/
theorem isPending_reorder (h : table.entries.Perm r.pending.entries) (t : Token) :
    (r.reorder table).isPending t = r.isPending t := by
  rw [isPending, isPending, Table.contains_eq_isSome_find?, Table.contains_eq_isSome_find?,
    find?_reorder h]

/-- Another order of the table does not change which tokens are in flight. -/
theorem occupies_reorder (h : table.entries.Perm r.pending.entries) (t : Token) :
    (r.reorder table).occupies t = r.occupies t := by
  rw [occupies_eq, occupies_eq, find?_reorder h]
  rfl

/-- The events that wait only change their order with the table. -/
theorem events_reorder (h : table.entries.Perm r.pending.entries) :
    (r.reorder table).events.Perm r.events :=
  h.map _

end Reorder

/-! ## Allocation -/

/-- Allocating a token adds its event. -/
theorem events_of_allocate (h : r.allocate crtc event = some (t, s)) :
    s.events = r.events ++ [event] := by
  obtain ⟨-, hfree, rfl⟩ := of_allocate_eq_some h
  have hp : r.pending.contains t = false := by
    simp only [occupies, Bool.or_eq_false_iff] at hfree
    exact hfree.1
  simp only [events, Table.entries_insert, ← Table.entries_erase, Table.erase_eq_self hp,
    List.map_append, List.map_cons, List.map_nil]

/-- Only the allocated token is newly pending. -/
theorem pending_of_allocate (h : r.allocate crtc event = some (t, s)) (u : Token) :
    s.pending.find? u = if u = t then some ⟨crtc, event⟩ else r.pending.find? u := by
  obtain ⟨-, -, rfl⟩ := of_allocate_eq_some h
  simp

/-- Allocating a token retires none. -/
theorem retired_of_allocate (h : r.allocate crtc event = some (t, s)) : s.retired = r.retired := by
  obtain ⟨-, -, rfl⟩ := of_allocate_eq_some h
  rfl

/-- Only the allocated token is newly occupied. -/
theorem occupies_of_allocate (h : r.allocate crtc event = some (t, s)) (u : Token) :
    s.occupies u = (u == t || r.occupies u) := by
  rw [occupies_eq, occupies_eq, pending_of_allocate h, retired_of_allocate h]
  by_cases hu : u = t <;> simp [hu]

/-- If the number at which the search starts is free, it is the one handed out. -/
theorem raw_of_allocate (h : r.allocate crtc event = some (t, s)) (hnext : r.next ≠ 0)
    (hfree : r.occupies ⟨r.next, hnext⟩ = false) : t.raw = r.next ∧ s.next = r.next + 1 := by
  have hcandidate : r.candidate? 0 = some ⟨r.next, hnext⟩ := by
    simp [candidate?, Token.ofUInt32?, hnext, hfree]
  have hfound : r.free? = some ⟨r.next, hnext⟩ := by
    rw [free?, List.range_succ_eq_map, List.findSome?_cons, hcandidate]
  unfold allocate at h
  split at h
  · cases h
  · rw [hfound] at h
    cases h
    exact ⟨rfl, rfl⟩

/-! ## Resolution -/

/-- Resolving a token hands out its event, and the token is not pending any more. -/
theorem of_resolve_eq_ok (h : r.resolve t = .ok (event, s)) :
    ∃ p, r.pending.find? t = some p ∧ p.event = event ∧
      s = { r with pending := r.pending.erase t } := by
  unfold resolve at h
  split at h
  · rename_i p hp
    simp only [Except.ok.injEq, Prod.mk.injEq] at h
    exact ⟨p, hp, h.1, h.2.symm⟩
  · simp at h

/-- A token is only stray if it is not pending. -/
theorem of_resolve_eq_error {v : Violation} (h : r.resolve t = .error v) :
    r.isPending t = false ∧ v = .notPending t := by
  unfold resolve at h
  split at h
  · simp at h
  · rename_i hp
    simp only [Except.error.injEq] at h
    exact ⟨by simp [isPending, Table.contains_eq_isSome_find?, hp], h.symm⟩

/-- Resolving a token takes one event away. -/
theorem events_of_resolve (h : r.resolve t = .ok (event, s)) :
    (event :: s.events).Perm r.events := by
  obtain ⟨p, hp, rfl, rfl⟩ := of_resolve_eq_ok h
  exact (Table.perm_erase hp).map fun e => e.2.event

/-- Resolving a token leaves the other tokens pending. -/
theorem pending_of_resolve (h : r.resolve t = .ok (event, s)) (u : Token) :
    s.pending.find? u = if u = t then none else r.pending.find? u := by
  obtain ⟨p, -, -, rfl⟩ := of_resolve_eq_ok h
  simp

/-- What is pending after a token was resolved was pending before, under another token. -/
theorem find?_of_resolve (h : r.resolve t = .ok (event, s)) {u : Token} {p : Pending α}
    (hp : s.pending.find? u = some p) : u ≠ t ∧ r.pending.find? u = some p := by
  rw [pending_of_resolve h] at hp
  split_ifs at hp with hu
  exact ⟨hu, hp⟩

/-- A token that was resolved is no longer pending. -/
theorem isPending_of_resolve (h : r.resolve t = .ok (event, s)) : s.isPending t = false := by
  rw [isPending_eq_false_iff, pending_of_resolve h, if_pos rfl]

/-- Resolving a token retires none. -/
theorem retired_of_resolve (h : r.resolve t = .ok (event, s)) : s.retired = r.retired := by
  obtain ⟨p, -, -, rfl⟩ := of_resolve_eq_ok h
  rfl

/-- Resolving a token occupies none. -/
theorem occupies_of_occupies_resolve (h : r.resolve t = .ok (event, s))
    (hu : s.occupies u = true) : r.occupies u = true := by
  refine occupies_of_occupies hu ?_ (.inr (by rw [retired_of_resolve h]))
  rw [pending_of_resolve h]
  exact ite_eq_or_eq _ _ _

/-! ## Retirement -/

/-- The tokens that are pending on a controller. -/
def pendingOn (r : Registry α) (crtc : Crtc) : List Token :=
  (r.pending.select fun _ p => p.crtc == crtc).map Prod.fst

/-- The tokens that are pending on a controller are those of its events. -/
theorem mem_pendingOn_iff :
    t ∈ r.pendingOn crtc ↔ ∃ p, r.pending.find? t = some p ∧ p.crtc = crtc := by
  simp only [pendingOn, Table.select, List.mem_map, List.mem_filter, beq_iff_eq,
    Table.find?_eq_some_iff]
  constructor
  · rintro ⟨⟨u, p⟩, h, rfl⟩
    exact ⟨p, h⟩
  · rintro ⟨p, h⟩
    exact ⟨(t, p), h, rfl⟩

/-- No token is pending twice on a controller. -/
theorem nodup_pendingOn (r : Registry α) (crtc : Crtc) : (r.pendingOn crtc).Nodup :=
  (r.pending.keep fun _ p => p.crtc == crtc).nodup

/-- Retiring the tokens of a controller keeps those of other controllers pending. -/
theorem retirePipe_pending (r : Registry α) (crtc : Crtc) :
    (r.retirePipe crtc).2.pending = r.pending.keep fun _ p => !(p.crtc == crtc) := rfl

/-- What is pending on other controllers stays pending. -/
theorem pending_retirePipe_iff {u : Token} {p : Pending α} :
    (r.retirePipe crtc).2.pending.find? u = some p ↔
      r.pending.find? u = some p ∧ p.crtc ≠ crtc := by
  rw [retirePipe_pending, Table.find?_keep, Option.filter_eq_some_iff]
  simp

/-- Retiring the tokens of a controller takes away the events of just these. -/
theorem pending_retirePipe (r : Registry α) (crtc : Crtc) (t : Token) :
    (r.retirePipe crtc).2.pending.find? t =
      if t ∈ r.pendingOn crtc then none else r.pending.find? t := by
  refine Option.ext fun p => ?_
  rw [pending_retirePipe_iff]
  split_ifs with h
  · obtain ⟨q, hq, hcrtc⟩ := mem_pendingOn_iff.1 h
    simp only [hq, Option.some.injEq, iff_false, not_and, not_not]
    rintro rfl
    exact hcrtc
  · exact and_iff_left_of_imp fun hp hcrtc => h (mem_pendingOn_iff.2 ⟨p, hp, hcrtc⟩)

/-- The events that are handed out and those that stay are all there were. -/
theorem events_retirePipe (r : Registry α) (crtc : Crtc) :
    ((r.retirePipe crtc).1 ++ (r.retirePipe crtc).2.events).Perm r.events := by
  have h := r.pending.take_perm fun _ p => p.crtc == crtc
  have := h.map fun e => e.2.event
  simpa [events, retirePipe, Table.take] using this

/-- Only events that waited are handed out. -/
theorem exists_of_mem_retirePipe (h : event ∈ (r.retirePipe crtc).1) :
    ∃ t p, r.pending.find? t = some p ∧ p.event = event := by
  rw [← mem_events_iff]
  exact (events_retirePipe r crtc).mem_iff.1 (List.mem_append_left _ h)

/-- Just the tokens that were pending on the controller are newly retired. -/
theorem retired_retirePipe (r : Registry α) (crtc : Crtc) (t : Token) :
    (r.retirePipe crtc).2.retired.find? t =
      if ∃ p, r.pending.find? t = some p ∧ p.crtc = crtc then some crtc
      else r.retired.find? t := by
  have hcrtc : ∀ e ∈ r.pending.select fun _ p => p.crtc == crtc, e.2.crtc = crtc := by
    intro e he
    simpa using (List.mem_filter.1 he).2
  simp only [retirePipe, Table.take]
  rw [Table.find?_foldl_insert _ Pending.crtc hcrtc]
  exact if_congr mem_pendingOn_iff rfl rfl

/-- A token that is pending or retired stays so when a pipe is disabled. -/
theorem occupies_retirePipe (r : Registry α) (crtc : Crtc) (t : Token) :
    (r.retirePipe crtc).2.occupies t = r.occupies t := by
  rw [occupies_eq, occupies_eq, retirePipe_pending, retired_retirePipe, Table.find?_keep]
  cases h : r.pending.find? t with
  | none => simp
  | some p =>
    by_cases hc : p.crtc = crtc
    · simp [hc]
    · simp [hc]

/-! ## Forgetting -/

/-- A token can be forgotten just while it is retired. -/
theorem forget?_eq_none_iff : r.forget? t = none ↔ r.retired.find? t = none := by
  simp only [forget?, Table.contains_eq_isSome_find?]
  cases r.retired.find? t <;> simp

/-- Forgetting a retired token erases it and does nothing else. -/
theorem of_forget?_eq_some (h : r.forget? t = some s) :
    s = { r with retired := r.retired.erase t } := by
  simp only [forget?] at h
  split at h
  · exact (Option.some.inj h).symm
  · simp at h

/-- Forgetting a token erases it among the retired ones. -/
theorem forget_eq (r : Registry α) (t : Token) :
    r.forget t = { r with retired := r.retired.erase t } := by
  simp only [forget, forget?]
  cases h : r.retired.contains t with
  | true => simp
  | false => simp [Table.erase_eq_self h]

/-- Forgetting the retired tokens of a controller leaves the pending ones. -/
@[simp] theorem pending_forgetPipe (r : Registry α) (crtc : Crtc) :
    (r.forgetPipe crtc).2.pending = r.pending := rfl

/-- Just the retired tokens of the controller are forgotten. -/
theorem retired_forgetPipe (r : Registry α) (crtc : Crtc) (t : Token) :
    (r.forgetPipe crtc).2.retired.find? t =
      if r.retired.find? t = some crtc then none else r.retired.find? t := by
  simp only [forgetPipe, Table.take]
  rw [Table.find?_keep]
  cases h : r.retired.find? t with
  | none => simp
  | some c => by_cases hc : c = crtc <;> simp [hc]

/-- A token stays pending or retired unless it is retired on the controller in question. -/
theorem occupies_forgetPipe (r : Registry α) (h : r.retired.find? t ≠ some crtc) :
    (r.forgetPipe crtc).2.occupies t = r.occupies t := by
  rw [occupies_eq, occupies_eq, retired_forgetPipe, if_neg h]
  rfl

/-- Erasing a retired token occupies none. -/
theorem occupies_of_occupies_erase
    (hu : occupies { r with retired := r.retired.erase t } u = true) : r.occupies u = true := by
  refine occupies_of_occupies hu (.inr rfl) ?_
  rw [Table.find?_erase]
  exact ite_eq_or_eq _ _ _

/-- Forgetting the retired tokens of a controller occupies none. -/
theorem occupies_of_occupies_forgetPipe (hu : (r.forgetPipe crtc).2.occupies u = true) :
    r.occupies u = true := by
  refine occupies_of_occupies hu (.inr rfl) ?_
  rw [retired_forgetPipe]
  exact ite_eq_or_eq _ _ _

/-! ## Disjointness -/

/-- No token is both pending and retired. -/
def Disjoint (r : Registry α) : Prop :=
  ∀ t, r.pending.find? t = none ∨ r.retired.find? t = none

/-- Nothing is pending or retired at first. -/
theorem disjoint_new (max : Nat) : (new max : Registry α).Disjoint := fun _ => .inl rfl

/-- A token that is allocated is not retired. -/
theorem Disjoint.allocate (hr : r.Disjoint) (h : r.allocate crtc event = some (t, s)) :
    s.Disjoint := by
  intro u
  rw [pending_of_allocate h, retired_of_allocate h]
  by_cases hu : u = t
  · have hfree := (of_allocate_eq_some h).2.1
    rw [occupies_eq, Bool.or_eq_false_iff] at hfree
    right
    rw [hu]
    simpa using hfree.2
  · rw [if_neg hu]
    exact hr u

/-- Resolving a token keeps the two tables apart. -/
theorem Disjoint.resolve (hr : r.Disjoint) (h : r.resolve t = .ok (event, s)) : s.Disjoint := by
  intro u
  rw [pending_of_resolve h, retired_of_resolve h]
  by_cases hu : u = t
  · exact .inl (if_pos hu)
  · rw [if_neg hu]
    exact hr u

/-- Forgetting a token keeps the two tables apart. -/
theorem Disjoint.erase_retired (hr : r.Disjoint) (t : Token) :
    Disjoint { r with retired := r.retired.erase t } := by
  intro u
  rw [Table.find?_erase]
  by_cases hu : u = t
  · exact .inr (if_pos hu)
  · rw [if_neg hu]
    exact hr u

/-- A token that is not both pending and retired is not so when a pipe is disabled. -/
theorem apart_retirePipe (h : r.pending.find? t = none ∨ r.retired.find? t = none) (crtc : Crtc) :
    (r.retirePipe crtc).2.pending.find? t = none ∨
      (r.retirePipe crtc).2.retired.find? t = none := by
  rw [pending_retirePipe, retired_retirePipe]
  by_cases hc : t ∈ r.pendingOn crtc
  · exact .inl (if_pos hc)
  · rw [if_neg hc, if_neg (mt mem_pendingOn_iff.2 hc)]
    exact h

/-- Tokens that are retired are not pending any more. -/
theorem Disjoint.retirePipe (hr : r.Disjoint) (crtc : Crtc) : (r.retirePipe crtc).2.Disjoint :=
  fun t => apart_retirePipe (hr t) crtc

/-- Another order of the pending tokens keeps pending and retired tokens apart. -/
theorem Disjoint.reorder (hr : r.Disjoint) {table : Table Token (Pending α)}
    (h : table.entries.Perm r.pending.entries) : (r.reorder table).Disjoint :=
  fun t => (hr t).imp_left (find?_reorder h t).trans

/-- Forgetting the retired tokens of a controller keeps the two tables apart. -/
theorem Disjoint.forgetPipe (hr : r.Disjoint) (crtc : Crtc) : (r.forgetPipe crtc).2.Disjoint := by
  intro u
  rw [pending_forgetPipe, retired_forgetPipe]
  rcases hr u with hp | hretired
  · exact .inl hp
  · right
    rw [hretired, ite_self]

end Registry

end PageFlip
