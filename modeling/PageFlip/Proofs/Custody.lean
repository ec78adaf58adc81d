import PageFlip.Proofs.Registry

/-!
# Events in the custody of a registry

Whoever makes a token pending leaves an event with the registry until the token is resolved or the
pipe of its controller is retired. A `Custody` is a registry with the history of what was left with
it and what it handed out. Handlers of the events that a request hands out may make requests in
turn: a `Use` is a request together with those, to any depth.

`Custody.events_in_custody` says of every row of uses in which no rule is broken that the registry
stays within its capacity and keeps pending and retired tokens apart, that it knows each token as it
was allocated, and that no event is lost, overwritten or handed out twice. Each request keeps all of
this (`Custody.Kept.serve`); a request is over before the handlers run, so a use keeps it too
(`Custody.useAll_induct`).
-/

namespace PageFlip

/-! ## Sizes -/

namespace Table

variable {κ α β : Type} [DecidableEq κ]

/-- Inserting entries under new keys. -/
theorem size_foldl_insert {l : List (κ × β)} {f : β → α} {t : Table κ α}
    (hnodup : (l.map Prod.fst).Nodup) (hnew : ∀ e ∈ l, t.contains e.1 = false) :
    (l.foldl (fun t e => t.insert e.1 (f e.2)) t).size = t.size + l.length := by
  induction l generalizing t with
  | nil => rfl
  | cons e rest ih =>
    rw [List.map_cons, List.nodup_cons] at hnodup
    rw [List.forall_mem_cons] at hnew
    have hrest : ∀ e' ∈ rest, (t.insert e.1 (f e.2)).contains e'.1 = false := by
      intro e' he'
      have hne : e'.1 ≠ e.1 := fun heq => hnodup.1 (heq ▸ List.mem_map_of_mem he')
      simp [hne, hnew.2 e' he']
    rw [List.foldl_cons, ih hnodup.2 hrest, size_insert _ hnew.1, List.length_cons]
    omega

/-- A table is no longer when an entry is erased. -/
theorem size_erase_le (t : Table κ α) (k : κ) : (t.erase k).size ≤ t.size :=
  List.length_filter_le _ _

end Table

namespace Registry

variable {α : Type} {r s : Registry α} {t u : Token} {crtc : Crtc} {event : α}

/-- Disabling a pipe frees no token. -/
theorem occupied_retirePipe (h : r.Disjoint) : (r.retirePipe crtc).2.occupied = r.occupied := by
  have hnew : ∀ e ∈ r.pending.select fun _ p => p.crtc == crtc, r.retired.contains e.1 = false := by
    rintro ⟨t, p⟩ he
    have hp : r.pending.find? t = some p := Table.find?_eq_some_iff.2 (List.mem_filter.1 he).1
    rcases h t with hnone | hnone
    · rw [hp] at hnone
      cases hnone
    · rw [Table.contains_eq_isSome_find?, hnone]
      rfl
  have hretired := Table.size_foldl_insert (f := Pending.crtc) (r.nodup_pendingOn crtc) hnew
  have htaken := (r.pending.take_perm fun _ p => p.crtc == crtc).length_eq
  simp only [Table.take, List.length_append] at htaken
  simp only [occupied, retirePipe, Table.take, hretired]
  simp only [Table.size] at htaken ⊢
  omega

/-! ## Requests and their history -/

/-- What may be asked of a registry. -/
inductive Request (α : Type)
  /-- Make a token pending for an event. -/
  | allocate (crtc : Crtc) (event : α)
  /-- Hand out the event of a token. -/
  | resolve (t : Token)
  /-- Retire the tokens of a controller and hand out their events. -/
  | retirePipe (crtc : Crtc)
  /-- Forget a retired token. -/
  | forget (t : Token)
  /-- Forget the retired tokens of a controller. -/
  | forgetPipe (crtc : Crtc)

/-- A request that asks for what was left under the token for the controller. -/
def Request.asksFor (t : Token) (crtc : Crtc) : Request α → Bool
  | resolve u => u == t
  | retirePipe c => c == crtc
  | _ => false

/-- What is noted of a request. -/
inductive Note (α : Type)
  /-- An event was left under a token. -/
  | deposited (t : Token) (p : Pending α)
  /-- A request was answered with events. -/
  | released (q : Request α) (events : List α)

namespace Note

/-- Whether events were handed out to a request for what was left under the token. -/
def answers (t : Token) (crtc : Crtc) : Note α → Bool
  | released q _ => q.asksFor t crtc
  | deposited .. => false

/-- The event that was left. -/
def deposit? : Note α → Option α
  | deposited _ p => some p.event
  | released .. => none

/-- The events that were handed out. -/
def events : Note α → List α
  | released _ events => events
  | deposited .. => []

/-- What was left under the token. -/
def under? (t : Token) : Note α → Option (Pending α)
  | deposited u p => if u = t then some p else none
  | released .. => none

end Note

/-- A request, and the uses that the handlers of the events it hands out make of the registry in
turn, one after the other. -/
inductive Use (α : Type)
  | mk (request : Request α) (handlers : List (Use α))

end Registry

open Registry (Request Note Use)

/-- A registry with the history of its events. -/
structure Custody (α : Type) where
  registry : Registry α
  /-- What was left with the registry and what it handed out, the last first. -/
  history : List (Note α)

namespace Custody

variable {α : Type} {k k' : Custody α} {q : Request α} {t u : Token} {crtc : Crtc} {event : α}
  {p : Pending α} {max : Nat}

/-- A registry that nobody has used yet. -/
def new (max : Nat) : Custody α := ⟨.new max, []⟩

/-- Carries out a request; none if that breaks a rule. -/
def serve (k : Custody α) (q : Request α) : Option (Custody α) :=
  match q with
  | .allocate crtc event =>
    match k.registry.allocate crtc event with
    | none => some k
    | some (t, r) => some ⟨r, .deposited t ⟨crtc, event⟩ :: k.history⟩
  | .resolve t =>
    match k.registry.resolve t with
    | .error _ => none
    | .ok (event, r) => some ⟨r, .released q [event] :: k.history⟩
  | .retirePipe crtc =>
    let (events, r) := k.registry.retirePipe crtc
    some ⟨r, .released q events :: k.history⟩
  | .forget t => some ⟨k.registry.forget t, k.history⟩
  | .forgetPipe crtc => some ⟨(k.registry.forgetPipe crtc).2, k.history⟩

mutual

/-- Carries out a request, and then what handlers ask for. -/
def use : Use α → Custody α → Option (Custody α)
  | .mk q handlers, k => (k.serve q).bind (useAll handlers)

/-- The same for one use after the other. -/
def useAll : List (Use α) → Custody α → Option (Custody α)
  | [], k => some k
  | use₁ :: uses, k => (use use₁ k).bind (useAll uses)

end

/-- The events that were left with the registry, the last first. -/
def deposits (k : Custody α) : List α := k.history.filterMap Note.deposit?

/-- The events that it handed out. -/
def released (k : Custody α) : List α := k.history.flatMap Note.events

/-- What was left under a token when it was allocated last. -/
def latest? (k : Custody α) (t : Token) : Option (Pending α) := k.history.findSome? (Note.under? t)

/-- What became of an event that was left under a token, by the history since then: it waits, or the
first request that asked for it was answered with it. -/
def Fate (r : Registry α) (later : List (Note α)) (t : Token) (p : Pending α) : Prop :=
  ((∀ n ∈ later, n.answers t p.crtc = false) ∧ r.pending.find? t = some p) ∨
    ∃ after q events before, later = after ++ .released q events :: before ∧
      (∀ n ∈ before, n.answers t p.crtc = false) ∧ q.asksFor t p.crtc = true ∧ p.event ∈ events

/-- What holds of a registry for at most `max` tokens however it is used. -/
structure Kept (max : Nat) (k : Custody α) : Prop where
  max_eq : k.registry.max = max
  disjoint : k.registry.Disjoint
  room : k.registry.occupied ≤ k.registry.capacity
  pending : ∀ t p, k.registry.pending.find? t = some p → k.latest? t = some p
  retired : ∀ t c, k.registry.retired.find? t = some c → ∃ p, k.latest? t = some p ∧ p.crtc = c
  fate : ∀ later t p earlier, k.history = later ++ .deposited t p :: earlier →
    Fate k.registry later t p
  conserved : k.deposits.Perm (k.registry.events ++ k.released)

/-- At first nothing is kept. -/
theorem kept_new (max : Nat) : (new max : Custody α).Kept max where
  max_eq := rfl
  disjoint := Registry.disjoint_new max
  room := Nat.zero_le _
  pending := fun _ _ hp => by cases hp
  retired := fun _ _ hc => by cases hc
  fate := fun later _ _ _ h => by cases later <;> cases h
  conserved := .refl _

/-! ## One request -/

/-- An event that waits keeps waiting if its token stays as it is. -/
theorem Fate.congr {r r' : Registry α} {later : List (Note α)} (h : Fate r later t p)
    (hsame : r.pending.find? t = some p → r'.pending.find? t = some p) : Fate r' later t p :=
  h.imp (fun hwaits => ⟨hwaits.1, hsame hwaits.2⟩) id

/-- After another note an event still waits, unless the note answers for it: then it was handed
out. -/
theorem Fate.note {r r' : Registry α} {later : List (Note α)} {n : Note α} (h : Fate r later t p)
    (hsame : r.pending.find? t = some p → n.answers t p.crtc = false →
      r'.pending.find? t = some p)
    (hout : r.pending.find? t = some p → n.answers t p.crtc = true → p.event ∈ n.events) :
    Fate r' (n :: later) t p := by
  rcases h with ⟨hnone, hp⟩ | ⟨after, q, events, before, rfl, hbefore, hq, hevent⟩
  · cases hn : n.answers t p.crtc with
    | false => exact .inl ⟨List.forall_mem_cons.2 ⟨hn, hnone⟩, hsame hp hn⟩
    | true =>
      have hevent := hout hp hn
      cases n with
      | deposited => cases hn
      | released q events => exact .inr ⟨[], q, events, later, rfl, hnone, hn, hevent⟩
  · exact .inr ⟨n :: after, q, events, before, rfl, hbefore, hq, hevent⟩

namespace Kept

/-- Retired tokens are forgotten, and nothing else changes. -/
theorem forget (h : k.Kept max) {r : Registry α} (hmax : r.max = k.registry.max)
    (hpending : r.pending = k.registry.pending) (hdisjoint : r.Disjoint)
    (hsize : r.retired.size ≤ k.registry.retired.size)
    (hretired : ∀ t c, r.retired.find? t = some c → k.registry.retired.find? t = some c) :
    Kept max ⟨r, k.history⟩ where
  max_eq := hmax.trans h.max_eq
  disjoint := hdisjoint
  room := by
    have hroom := h.room
    simp only [Registry.occupied, Registry.capacity, hpending, hmax] at hroom ⊢
    omega
  pending := by
    intro t p hp
    rw [hpending] at hp
    exact h.pending t p hp
  retired := fun t c hc => h.retired t c (hretired t c hc)
  fate := fun later t p earlier hhistory =>
    (h.fate later t p earlier hhistory).congr fun hp => by rw [hpending]; exact hp
  conserved := by
    have hevents : r.events = k.registry.events := by
      rw [Registry.events, Registry.events, hpending]
    show k.deposits.Perm (r.events ++ k.released)
    rw [hevents]
    exact h.conserved

/-- An event is left with the registry. -/
theorem allocate (h : k.Kept max) {r : Registry α}
    (halloc : k.registry.allocate crtc event = some (t, r)) :
    Kept max ⟨r, .deposited t ⟨crtc, event⟩ :: k.history⟩ := by
  have hpending := Registry.pending_of_allocate halloc
  have hretired := Registry.retired_of_allocate halloc
  have hoccupied := Registry.occupied_of_allocate halloc
  obtain ⟨hlt, hfree, hr⟩ := Registry.of_allocate_eq_some halloc
  rw [Registry.occupies_eq, Bool.or_eq_false_iff] at hfree
  simp only [Option.isSome_eq_false_iff, Option.isNone_iff_eq_none] at hfree
  have hmax : r.max = k.registry.max := by rw [hr]
  -- Of a token other than the new one the same is known as before.
  have hlatest : ∀ u, u ≠ t → latest? ⟨r, .deposited t ⟨crtc, event⟩ :: k.history⟩ u =
      k.latest? u := by
    intro u hu
    rw [latest?, List.findSome?_cons, Note.under?, if_neg (Ne.symm hu)]
    rfl
  refine ⟨hmax.trans h.max_eq, h.disjoint.allocate halloc, ?_, ?_, ?_, ?_, ?_⟩
  · show r.occupied ≤ r.capacity
    rw [hoccupied, Registry.capacity, hmax]
    exact hlt
  · intro u p (hp : r.pending.find? u = some p)
    rw [hpending] at hp
    split_ifs at hp with hu
    · cases hp
      rw [latest?, List.findSome?_cons, Note.under?, if_pos hu.symm]
    · rw [hlatest u hu]
      exact h.pending u p hp
  · intro u c (hc : r.retired.find? u = some c)
    rw [hretired] at hc
    have hu : u ≠ t := by
      rintro rfl
      rw [hfree.2] at hc
      cases hc
    rw [hlatest u hu]
    exact h.retired u c hc
  · intro later u p earlier hhistory
    cases later with
    | nil =>
      simp only [List.nil_append, List.cons.injEq, Note.deposited.injEq] at hhistory
      obtain ⟨⟨rfl, rfl⟩, -⟩ := hhistory
      exact .inl ⟨fun _ hn => absurd hn List.not_mem_nil, (hpending t).trans (if_pos rfl)⟩
    | cons n later =>
      obtain ⟨rfl, hrest⟩ := List.cons.inj hhistory
      refine (h.fate later u p earlier hrest).note (fun hp _ => ?_) fun _ hsame => ?_
      · -- The new token was free, so it is not the one under which the event waits.
        have hu : u ≠ t := by
          rintro rfl
          rw [hfree.1] at hp
          cases hp
        exact (hpending u).trans ((if_neg hu).trans hp)
      · cases hsame
  · show (event :: k.deposits).Perm (r.events ++ k.released)
    rw [Registry.events_of_allocate halloc, List.append_assoc]
    exact (h.conserved.cons event).trans List.perm_middle.symm

/-- The event of a token is handed out. -/
theorem resolve (h : k.Kept max) {r : Registry α}
    (hr : k.registry.resolve t = .ok (event, r)) :
    Kept max ⟨r, .released (.resolve t) [event] :: k.history⟩ := by
  have hpending := Registry.pending_of_resolve hr
  have hretired := Registry.retired_of_resolve hr
  obtain ⟨p₀, hp₀, hevent, hrs⟩ := Registry.of_resolve_eq_ok hr
  have hroom := h.room
  have hsize : r.pending.size ≤ k.registry.pending.size := by
    rw [hrs]
    exact Table.size_erase_le _ _
  refine ⟨?_, h.disjoint.resolve hr, ?_, ?_, ?_, ?_, ?_⟩
  · show r.max = max
    rw [hrs]
    exact h.max_eq
  · show r.occupied ≤ r.capacity
    simp only [hrs, Registry.occupied, Registry.capacity] at hroom hsize ⊢
    omega
  · intro u p (hp : r.pending.find? u = some p)
    rw [hpending] at hp
    split_ifs at hp
    exact h.pending u p hp
  · intro u c (hc : r.retired.find? u = some c)
    rw [hretired] at hc
    exact h.retired u c hc
  · intro later u p earlier hhistory
    cases later with
    | nil => cases hhistory
    | cons n later =>
      obtain ⟨rfl, hrest⟩ := List.cons.inj hhistory
      -- An event under another token waits on, and this one is handed out.
      refine (h.fate later u p earlier hrest).note (fun hp hother => ?_) (fun hp hsame => ?_)
      · have hu : u ≠ t := fun hut => by
          simp [Note.answers, Request.asksFor, hut] at hother
        exact (hpending u).trans ((if_neg hu).trans hp)
      · have htu : t = u := by simpa [Note.answers, Request.asksFor] using hsame
        subst htu
        rw [hp₀] at hp
        cases hp
        rw [← hevent]
        exact List.mem_singleton_self _
  · show k.deposits.Perm (r.events ++ (event :: k.released))
    calc
      k.deposits.Perm (k.registry.events ++ k.released) := h.conserved
      List.Perm _ ((event :: r.events) ++ k.released) :=
        (Registry.events_of_resolve hr).symm.append_right k.released
      List.Perm _ (r.events ++ (event :: k.released)) := List.perm_middle.symm

/-- The tokens of a controller are retired. -/
theorem retirePipe (h : k.Kept max) (crtc : Crtc) :
    Kept max ⟨(k.registry.retirePipe crtc).2,
      .released (.retirePipe crtc) (k.registry.retirePipe crtc).1 :: k.history⟩ := by
  -- What is pending afterwards was pending before, for another controller.
  have hpending : ∀ u p, (k.registry.retirePipe crtc).2.pending.find? u = some p ↔
      k.registry.pending.find? u = some p ∧ p.crtc ≠ crtc :=
    fun u p => Registry.pending_retirePipe_iff
  refine ⟨h.max_eq, h.disjoint.retirePipe crtc, ?_, ?_, ?_, ?_, ?_⟩
  · show (k.registry.retirePipe crtc).2.occupied ≤ k.registry.capacity
    rw [Registry.occupied_retirePipe h.disjoint]
    exact h.room
  · intro u p hp
    exact h.pending u p ((hpending u p).1 hp).1
  · intro u c (hc : (k.registry.retirePipe crtc).2.retired.find? u = some c)
    rw [Registry.retired_retirePipe] at hc
    split_ifs at hc with hmoved
    · obtain ⟨p, hp, hcrtc⟩ := hmoved
      cases hc
      exact ⟨p, h.pending u p hp, hcrtc⟩
    · exact h.retired u c hc
  · intro later u p earlier hhistory
    cases later with
    | nil => cases hhistory
    | cons n later =>
      obtain ⟨rfl, hrest⟩ := List.cons.inj hhistory
      refine (h.fate later u p earlier hrest).note (fun hp hother => ?_) (fun hp hsame => ?_)
      · refine (hpending u p).2 ⟨hp, fun hcrtc => ?_⟩
        simp [Note.answers, Request.asksFor, hcrtc] at hother
      · have hcrtc : crtc = p.crtc := by simpa [Note.answers, Request.asksFor] using hsame
        refine List.mem_map.2 ⟨(u, p), List.mem_filter.2 ⟨Table.find?_eq_some_iff.1 hp, ?_⟩, rfl⟩
        simp [hcrtc]
  · show k.deposits.Perm ((k.registry.retirePipe crtc).2.events ++
      ((k.registry.retirePipe crtc).1 ++ k.released))
    have hout := Registry.events_retirePipe k.registry crtc
    calc
      k.deposits.Perm (k.registry.events ++ k.released) := h.conserved
      List.Perm _ ((k.registry.retirePipe crtc).1 ++ (k.registry.retirePipe crtc).2.events ++
          k.released) := hout.symm.append_right k.released
      List.Perm _ ((k.registry.retirePipe crtc).2.events ++ (k.registry.retirePipe crtc).1 ++
          k.released) := List.perm_append_comm.append_right k.released
      _ = (k.registry.retirePipe crtc).2.events ++
          ((k.registry.retirePipe crtc).1 ++ k.released) := List.append_assoc _ _ _

/-- What holds of a registry is kept by each request. -/
theorem serve (h : k.Kept max) (hserve : k.serve q = some k') : k'.Kept max := by
  cases q with
  | allocate crtc event =>
    simp only [Custody.serve] at hserve
    cases halloc : k.registry.allocate crtc event with
    | none =>
      rw [halloc] at hserve
      cases hserve
      exact h
    | some a =>
      rw [halloc] at hserve
      cases hserve
      exact h.allocate halloc
  | resolve t =>
    simp only [Custody.serve] at hserve
    cases hr : k.registry.resolve t with
    | error v =>
      rw [hr] at hserve
      cases hserve
    | ok a =>
      rw [hr] at hserve
      cases hserve
      exact h.resolve hr
  | retirePipe crtc =>
    cases hserve
    exact h.retirePipe crtc
  | forget t =>
    cases hserve
    rw [Registry.forget_eq]
    refine h.forget rfl rfl (h.disjoint.erase_retired t) (Table.size_erase_le _ _) fun u c hc => ?_
    rw [Table.find?_erase] at hc
    split_ifs at hc
    exact hc
  | forgetPipe crtc =>
    cases hserve
    refine h.forget rfl rfl (h.disjoint.forgetPipe crtc) (List.length_filter_le _ _)
      fun u c hc => ?_
    rw [Registry.retired_forgetPipe] at hc
    split_ifs at hc
    exact hc

end Kept

/-! ## Rows of uses -/

mutual

/-- What each request keeps, a use keeps, -/
theorem use_induct {P : Custody α → Prop}
    (hserve : ∀ k q k', P k → k.serve q = some k' → P k') :
    ∀ (use₁ : Use α) {k k' : Custody α}, P k → use use₁ k = some k' → P k'
  | .mk q handlers, k, k', hk, huse => by
    rw [use] at huse
    obtain ⟨k₁, hq, hhandlers⟩ := Option.bind_eq_some_iff.1 huse
    exact useAll_induct hserve handlers (hserve _ _ _ hk hq) hhandlers

/-- and so does a row of uses. -/
theorem useAll_induct {P : Custody α → Prop}
    (hserve : ∀ k q k', P k → k.serve q = some k' → P k') :
    ∀ (uses : List (Use α)) {k k' : Custody α}, P k → useAll uses k = some k' → P k'
  | [], k, k', hk, huses => by
    rw [useAll] at huses
    cases huses
    exact hk
  | use₁ :: uses, k, k', hk, huses => by
    rw [useAll] at huses
    obtain ⟨k₁, huse, hrest⟩ := Option.bind_eq_some_iff.1 huses
    exact useAll_induct hserve uses (use_induct hserve use₁ hk huse) hrest

end

/-- However a registry for at most `max` tokens is used, also by the handlers of its events, as long
as no rule is broken: no token is both pending and retired, there are never more tokens than `max`
and never more than `2 ^ 31 - 1`, and each token stands for the controller and the event that it was
last allocated for. An allocation takes a free token. The events left with the registry are those
that wait and those that it handed out; each waits under its token until the first request to
resolve the token or to retire the pipe of its controller, which is answered with it. -/
theorem events_in_custody {uses : List (Use α)} (huses : useAll uses (new max) = some k) :
    k.registry.Disjoint ∧ k.registry.occupied ≤ min max 2147483647 ∧
      (∀ t p, k.registry.pending.find? t = some p → k.latest? t = some p) ∧
      (∀ t c, k.registry.retired.find? t = some c → ∃ p, k.latest? t = some p ∧ p.crtc = c) ∧
      (∀ crtc event t r, k.registry.allocate crtc event = some (t, r) →
        k.registry.occupies t = false) ∧
      k.deposits.Perm (k.registry.events ++ k.released) ∧
      ∀ later t p earlier, k.history = later ++ .deposited t p :: earlier →
        Fate k.registry later t p := by
  have hk : k.Kept max := useAll_induct (fun _ _ _ hk hserve => hk.serve hserve) uses
    (kept_new max) huses
  have hroom : k.registry.occupied ≤ min max 2147483647 := by
    have hroom := hk.room
    rw [Registry.capacity, hk.max_eq] at hroom
    exact hroom
  exact ⟨hk.disjoint, hroom, hk.pending, hk.retired,
    fun _ _ _ _ halloc => (Registry.of_allocate_eq_some halloc).2.1, hk.conserved, hk.fate⟩

/-- An event waits when its pipe is retired; its handler leaves another one and forgets the retired
token, and the other event is handed out at last. -/
def retiredInTurn : List (Use Nat) :=
  [.mk (.allocate ⟨31⟩ 7) [],
    .mk (.retirePipe ⟨31⟩) [.mk (.allocate ⟨31⟩ 8) [], .mk (.forgetPipe ⟨31⟩) []],
    .mk (.retirePipe ⟨31⟩) [.mk (.forgetPipe ⟨31⟩) []]]

/-- Both events were handed out once, and no token is left. -/
theorem retiredInTurn_released :
    ∃ k, useAll retiredInTurn (new 2) = some k ∧ k.deposits.Perm (k.registry.events ++ k.released) ∧
      k.registry.occupied ≤ min 2 2147483647 ∧ k.released = [8, 7] ∧ k.registry.occupied = 0 := by
  have hcustody {k : Custody Nat} (huses : useAll retiredInTurn (new 2) = some k) :
      k.deposits.Perm (k.registry.events ++ k.released) ∧
        k.registry.occupied ≤ min 2 2147483647 := by
    obtain ⟨-, hroom, -, -, -, hconserved, -⟩ := events_in_custody huses
    exact ⟨hconserved, hroom⟩
  exact ⟨_, rfl, (hcustody rfl).1, (hcustody rfl).2, rfl, rfl⟩

end Custody

end PageFlip
