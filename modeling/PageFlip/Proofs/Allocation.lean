import Mathlib.Algebra.Group.Nat.Defs
import PageFlip.Proofs.Capacity
import PageFlip.Proofs.Custody
import PageFlip.Proofs.World

/-!
# The search for a free token

A search for a free token looks at one number after the other, from the counter on and at zero
behind the largest, until it comes to one that is not taken (`Registry.Finds`). Nothing in this says
that it ends. `Registry.allocate_exact` says that it does whenever a token may be handed out, where
it ends and what the registry is then; and that in a row of requests for which fewer numbers are
looked at than there are no token is handed out twice.

That a search ends is a matter of counting (`Registry.exists_free`). That tokens are not repeated
follows from where the counter stands: as many numbers behind its start as were looked at, and
behind each token by as many as were looked at up to it (`Registry.Leads.counted`).
-/

namespace PageFlip

namespace Registry

variable {α : Type} {r s : Registry α} {t u : Token} {crtc : Crtc} {event : α} {n : UInt32}
  {i j k : Nat}

/-! ## One search -/

/-- The search that has come to a number passes over `j` numbers and finds a token behind them. -/
inductive Finds (r : Registry α) : UInt32 → Nat → Token → Prop
  | found {t : Token} (hfree : r.occupies t = false) : Finds r t.raw 0 t
  | pass {n : UInt32} {j : Nat} {t : Token} (htaken : n ∈ r.taken) (h : Finds r (n + 1) j t) :
      Finds r n (j + 1) t

/-- The number of a token is taken if the token is in flight. -/
theorem raw_mem_taken_iff : t.raw ∈ r.taken ↔ r.occupies t = true := by
  have hin_flight : t.raw ∈ r.taken ↔ t ∈ r.pending.keys ++ r.retired.keys := by
    rw [taken, List.mem_cons, or_iff_right t.raw_ne_zero, List.mem_map]
    constructor
    · rintro ⟨u, hu, hraw⟩
      rwa [← Token.ext hraw]
    · exact fun ht => ⟨t, ht, rfl⟩
  rw [hin_flight, List.mem_append, occupies, Bool.or_eq_true, Table.contains_iff,
    Table.contains_iff]

/-- The next number is the one that is one place further. -/
theorem add_ofNat_succ (n : UInt32) (i : Nat) :
    n + UInt32.ofNat (i + 1) = n + 1 + UInt32.ofNat i := by
  rw [UInt32.ofNat_add, UInt32.add_assoc, UInt32.add_comm (UInt32.ofNat i)]
  rfl

/-- What a search has found, and what it has passed over. -/
theorem Finds.facts (h : r.Finds n j t) :
    t.raw = n + UInt32.ofNat j ∧ r.occupies t = false ∧
      ∀ i < j, n + UInt32.ofNat i ∈ r.taken := by
  induction h with
  | found hfree =>
    exact ⟨(UInt32.add_zero _).symm, hfree, fun i hi => absurd hi (Nat.not_lt_zero i)⟩
  | @pass n j t htaken _ ih =>
    obtain ⟨hraw, hfree, hpassed⟩ := ih
    refine ⟨?_, hfree, fun i hi => ?_⟩
    · rw [hraw, add_ofNat_succ]
    · cases i with
      | zero =>
        have hzero : n + UInt32.ofNat 0 = n := UInt32.add_zero n
        rwa [hzero]
      | succ i =>
        rw [add_ofNat_succ]
        exact hpassed i (Nat.lt_of_succ_lt_succ hi)

/-- A search from a number finds one token. -/
theorem Finds.unique (h : r.Finds n j t) (h' : r.Finds n k u) : k = j ∧ u = t := by
  induction h generalizing k u with
  | @found t hfree =>
    generalize hn : t.raw = n at h'
    cases h' with
    | found => exact ⟨rfl, (Token.ext hn).symm⟩
    | pass htaken =>
      rw [← hn, raw_mem_taken_iff, hfree] at htaken
      cases htaken
  | @pass n j t htaken _ ih =>
    cases h' with
    | found hfree =>
      rw [raw_mem_taken_iff, hfree] at htaken
      cases htaken
    | pass _ h' =>
      obtain ⟨rfl, rfl⟩ := ih h'
      exact ⟨rfl, rfl⟩

/-- A place in the search that is not passed over has a free token. -/
theorem of_candidate?_eq_some (h : r.candidate? i = some t) :
    t.raw = r.next + UInt32.ofNat i ∧ r.occupies t = false := by
  have hfree := occupies_of_candidate? h
  simp only [candidate?, Option.filter_eq_some_iff] at h
  exact ⟨(Token.ofUInt32?_eq_some_iff.1 h.1).symm, hfree⟩

/-- The first free place in a row is the one that a search finds. -/
theorem exists_finds {start length : Nat}
    (h : (List.range' start length).findSome? r.candidate? = some t) :
    ∃ j < length, r.Finds (r.next + UInt32.ofNat start) j t := by
  induction length generalizing start with
  | zero => cases h
  | succ length ih =>
    rw [List.range'_succ, List.findSome?_cons] at h
    cases hplace : r.candidate? start with
    | some u =>
      rw [hplace] at h
      obtain rfl : u = t := Option.some.inj h
      obtain ⟨hraw, hfree⟩ := of_candidate?_eq_some hplace
      exact ⟨0, Nat.succ_pos _, hraw ▸ .found hfree⟩
    | none =>
      rw [hplace] at h
      obtain ⟨j, hj, hfinds⟩ := ih h
      have hbehind : r.next + UInt32.ofNat (start + 1) = r.next + UInt32.ofNat start + 1 := by
        rw [UInt32.ofNat_add, UInt32.add_assoc]
        rfl
      rw [hbehind] at hfinds
      exact ⟨j + 1, Nat.succ_lt_succ hj, .pass (mem_taken_of_candidate? hplace) hfinds⟩

/-- The token that is handed out is the one that the search finds, before it has looked at more
numbers than can be taken. -/
theorem finds_of_free? (h : r.free? = some t) : ∃ j ≤ r.occupied + 1, r.Finds r.next j t := by
  rw [free?, List.range_eq_range'] at h
  obtain ⟨j, hj, hfinds⟩ := exists_finds h
  have hstart : r.next + UInt32.ofNat 0 = r.next := UInt32.add_zero r.next
  rw [hstart] at hfinds
  exact ⟨j, Nat.le_of_lt_succ hj, hfinds⟩

/-! ## One allocation -/

/-- The registry `r` makes the token `t` pending, which is `j` places behind the counter, and is
`s` then. -/
structure Registers (r : Registry α) (crtc : Crtc) (event : α) (j : Nat) (t : Token)
    (s : Registry α) : Prop where
  /-- The search ends, and in no other way. -/
  finds : ∀ j' t', r.Finds r.next j' t' ↔ j' = j ∧ t' = t
  /-- It passes over the tokens in flight and zero, and nothing else. -/
  passed : j ≤ r.pending.size + r.retired.size + 1
  raw : t.raw.toNat = (r.next.toNat + j) % 2 ^ 32
  free : r.pending.find? t = none ∧ r.retired.find? t = none
  /-- No free token is nearer to the counter. -/
  first : ∀ i < j, ∀ u : Token, u.raw.toNat = (r.next.toNat + i) % 2 ^ 32 →
    r.occupies u = true
  next : s.next.toNat = (t.raw.toNat + 1) % 2 ^ 32
  pending : s.pending.entries = r.pending.entries ++ [(t, ⟨crtc, event⟩)]
  retired : s.retired = r.retired
  max : s.max = r.max

/-- A number that is some places behind another one. -/
theorem toNat_add_ofNat (n : UInt32) (i : Nat) :
    (n + UInt32.ofNat i).toNat = (n.toNat + i) % 2 ^ 32 := by
  rw [UInt32.toNat_add, UInt32.toNat_ofNat', Nat.add_mod_mod]

/-- An allocation that succeeds registers the token that the search finds. -/
theorem exists_registers (h : r.allocate crtc event = some (t, s)) :
    ∃ j, r.Registers crtc event j t s := by
  obtain ⟨-, hoccupies, hs⟩ := of_allocate_eq_some h
  have hfree : r.free? = some t := by
    simp only [allocate] at h
    split_ifs at h
    obtain ⟨u, hu, hut⟩ := Option.map_eq_some_iff.1 h
    rw [hu, (Prod.mk.inj hut).1]
  -- The token that is handed out is the one that the search finds.
  obtain ⟨j, hj, hfinds⟩ := finds_of_free? hfree
  obtain ⟨hraw, -, hpassed⟩ := hfinds.facts
  have htables : r.pending.find? t = none ∧ r.retired.find? t = none := by
    rw [occupies_eq, Bool.or_eq_false_iff] at hoccupies
    simpa using hoccupies
  refine ⟨j, ?_, hj, ?_, htables, ?_, ?_, ?_, ?_, ?_⟩
  · intro j' t'
    constructor
    · exact hfinds.unique
    · rintro ⟨rfl, rfl⟩
      exact hfinds
  · rw [hraw, toNat_add_ofNat]
  · intro i hi u hu
    have hplace : u.raw = r.next + UInt32.ofNat i := by
      rw [← UInt32.toNat_inj, hu, toNat_add_ofNat]
    rw [← raw_mem_taken_iff, hplace]
    exact hpassed i hi
  · rw [hs, UInt32.toNat_add]
    rfl
  · have hnew : r.pending.contains t = false := by
      rw [Table.contains_eq_isSome_find?, htables.1]
      rfl
    rw [hs, Table.entries_insert, ← Table.entries_erase, Table.erase_eq_self hnew]
  · rw [hs]
  · rw [hs]

/-! ## Rows of requests -/

/-- Requests lead from one registry to another: the tokens that were handed out for them, the last
first, and how many numbers the searches looked at. A request that is refused leads nowhere. -/
inductive Leads (r : Registry α) : List Token → Nat → Registry α → Prop
  | refl : Leads r [] 0 r
  | allocate {tokens : List Token} {n j : Nat} {s s' : Registry α} {t : Token} {crtc : Crtc}
      {event : α} (h : Leads r tokens n s) (hfinds : s.Finds s.next j t)
      (hs : s.allocate crtc event = some (t, s')) : Leads r (t :: tokens) (n + (j + 1)) s'
  | resolve {tokens : List Token} {n : Nat} {s s' : Registry α} {t : Token} {event : α}
      (h : Leads r tokens n s) (hs : s.resolve t = .ok (event, s')) : Leads r tokens n s'
  | retirePipe {tokens : List Token} {n : Nat} {s : Registry α} (h : Leads r tokens n s)
      (crtc : Crtc) : Leads r tokens n (s.retirePipe crtc).2
  | forget {tokens : List Token} {n : Nat} {s : Registry α} (h : Leads r tokens n s)
      (t : Token) : Leads r tokens n (s.forget t)
  | forgetPipe {tokens : List Token} {n : Nat} {s : Registry α} (h : Leads r tokens n s)
      (crtc : Crtc) : Leads r tokens n (s.forgetPipe crtc).2

variable {tokens : List Token}

/-- As long as fewer numbers were looked at than there are, the counter is as many places behind its
start as were looked at, the tokens are nearer to the start, and no token was handed out twice. -/
theorem Leads.counted {m : Nat} (h : r.Leads tokens m s) (hm : m < 2 ^ 32) :
    s.next = r.next + UInt32.ofNat m ∧ (∀ t ∈ tokens, (t.raw - r.next).toNat < m) ∧
      tokens.Nodup := by
  induction h with
  | refl => exact ⟨(UInt32.add_zero _).symm, List.forall_mem_nil _, List.nodup_nil⟩
  | @allocate tokens m j s s' t crtc event _ hfinds hs ih =>
    obtain ⟨hnext, hnear, hnodup⟩ := ih (by omega)
    obtain ⟨-, -, rfl⟩ := of_allocate_eq_some hs
    have hraw : t.raw = r.next + UInt32.ofNat (m + j) := by
      rw [hfinds.facts.1, hnext, UInt32.add_assoc, UInt32.ofNat_add]
    -- The new token is as far from the start as the counter was when the search came to it.
    have hplace : (t.raw - r.next).toNat = m + j := by
      have hmj : m + j < 2 ^ 32 := by omega
      rw [hraw, UInt32.add_comm, UInt32.add_sub_cancel, UInt32.toNat_ofNat_of_lt' hmj]
    refine ⟨?_, ?_, ?_⟩
    · show t.raw + 1 = _
      rw [hraw, UInt32.add_assoc, ← Nat.add_assoc, UInt32.ofNat_add (m + j)]
      rfl
    · rw [List.forall_mem_cons]
      refine ⟨by omega, fun u hu => ?_⟩
      have := hnear u hu
      omega
    · refine List.nodup_cons.2 ⟨fun ht => ?_, hnodup⟩
      have := hnear t ht
      omega
  | resolve _ hs ih =>
    obtain ⟨p, -, -, rfl⟩ := of_resolve_eq_ok hs
    exact ih hm
  | retirePipe _ crtc ih => exact ih hm
  | forget _ t ih =>
    rw [forget_eq]
    exact ih hm
  | forgetPipe _ crtc ih => exact ih hm

/-- In every registry and for every counter: a token is refused exactly if as many tokens are
pending or retired as may be, and then nothing changes. Otherwise the search ends, also across the
largest number, at the first number from the counter on that is not zero and whose token is neither
pending nor retired; this token becomes pending, the counter goes behind it, and nothing else
changes. In a row of requests for which fewer numbers are looked at than there are, no token is
handed out twice, also if it was resolved or forgotten meanwhile. -/
theorem allocate_exact (r : Registry α) (crtc : Crtc) (event : α) (history : List (Note α)) :
    (r.allocate crtc event = none ↔
      min r.max (2 ^ 31 - 1) ≤ r.pending.size + r.retired.size) ∧
    (r.pending.size + r.retired.size < min r.max (2 ^ 31 - 1) →
      ∃ j t s, r.allocate crtc event = some (t, s) ∧ r.Registers crtc event j t s ∧
        Custody.serve ⟨r, history⟩ (.allocate crtc event) =
          some ⟨s, .deposited t ⟨crtc, event⟩ :: history⟩) ∧
    (min r.max (2 ^ 31 - 1) ≤ r.pending.size + r.retired.size →
      Custody.serve ⟨r, history⟩ (.allocate crtc event) = some ⟨r, history⟩) ∧
    ∀ tokens n s, r.Leads tokens n s → n < 2 ^ 32 → tokens.Nodup := by
  have hnone : r.allocate crtc event = none ↔
      min r.max (2 ^ 31 - 1) ≤ r.pending.size + r.retired.size := allocate_eq_none_iff
  refine ⟨hnone, fun hroom => ?_, fun hfull => ?_, fun tokens n s h hn => ?_⟩
  · have hsome : r.allocate crtc event ≠ none := fun h => Nat.not_le_of_lt hroom (hnone.1 h)
    obtain ⟨⟨t, s⟩, hts⟩ := Option.ne_none_iff_exists'.1 hsome
    obtain ⟨j, hregisters⟩ := exists_registers hts
    refine ⟨j, t, s, hts, hregisters, ?_⟩
    simp only [Custody.serve, hts]
  · simp only [Custody.serve, hnone.2 hfull]
  · exact (h.counted hn).2.2

/-- The largest number is one of a token. -/
theorem largest_ne_zero : (4294967295 : UInt32) ≠ 0 := by decide

/-- A registry whose counter is at the largest number, with that token and the first one pending and
the second one retired. -/
def wrapping : Registry Nat where
  next := 4294967295
  max := 4
  pending := .insert (.insert .empty ⟨4294967295, largest_ne_zero⟩ ⟨⟨31⟩, 0⟩) Sample.first ⟨⟨31⟩, 1⟩
  retired := .insert .empty Sample.second ⟨32⟩

/-- The search passes over the largest number, zero and two more. When the token that it finds is
free again, the next search finds another one. -/
theorem wrapping_allocates :
    wrapping.pending.size + wrapping.retired.size < min wrapping.max (2 ^ 31 - 1) ∧
    (∃ s, wrapping.allocate ⟨31⟩ 2 = some (Sample.third, s) ∧
      wrapping.Registers ⟨31⟩ 2 4 Sample.third s) ∧
    ∃ s, wrapping.Leads [Sample.fourth, Sample.third] 6 s ∧
      s.isPending Sample.third = false ∧
      List.Nodup [Sample.fourth, Sample.third] := by
  have hroom : wrapping.pending.size + wrapping.retired.size <
      min wrapping.max (2 ^ 31 - 1) := by decide
  obtain ⟨-, hallocates, -, hleads⟩ := allocate_exact wrapping ⟨31⟩ 2 []
  obtain ⟨j, t, s, hs, hregisters, -⟩ := hallocates hroom
  obtain ⟨s₁, hs₁, s₂, hs₂, s₃, hs₃, hgone, hnext⟩ :
      ∃ s₁, wrapping.allocate ⟨31⟩ 2 = some (Sample.third, s₁) ∧
      ∃ s₂, s₁.resolve Sample.third = .ok (2, s₂) ∧
      ∃ s₃, s₂.allocate ⟨31⟩ 3 = some (Sample.fourth, s₃) ∧
        s₃.isPending Sample.third = false ∧ s₂.next = 4 := ⟨_, rfl, _, rfl, _, rfl, rfl, rfl⟩
  obtain ⟨rfl, rfl⟩ := Prod.mk.inj (Option.some.inj (hs.symm.trans hs₁))
  -- The search passes over the last number, over 0 and over two tokens that are in flight.
  have hthree : wrapping.Finds 3 0 Sample.third := .found (t := Sample.third) (by decide)
  have hone : wrapping.Finds 1 2 Sample.third := .pass (by decide) (.pass (by decide) hthree)
  have hfinds : wrapping.Finds 4294967295 4 Sample.third :=
    .pass (by decide) (.pass (by decide) hone)
  obtain ⟨rfl, -⟩ := (hregisters.finds _ _).1 hfinds
  have hfinds' : s₂.Finds s₂.next 0 Sample.fourth := by
    obtain ⟨-, hfree, -⟩ := of_allocate_eq_some hs₃
    rw [hnext]
    exact .found hfree
  have hrow : wrapping.Leads [Sample.fourth, Sample.third] 6 s₃ :=
    .allocate (.resolve (.allocate .refl hfinds hs₁) hs₂) hfinds' hs₃
  exact ⟨hroom, ⟨s, hs₁, hregisters⟩, s₃, hrow, hgone, hleads _ _ _ hrow (by decide)⟩

end Registry

end PageFlip
