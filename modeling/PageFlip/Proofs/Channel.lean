import Mathlib.Data.List.Induction
import PageFlip.Proofs.Levels
import PageFlip.Proofs.Numbering

/-!
# Reports of accepted flips

A channel that only reports flips which it has accepted never reports one that is still being
queued, as long as the numbers of tokens do not run out: tokens are numbered in the order of their
flips, so a flip that is being queued has another number than all accepted ones
(`Scene.IsNumbered`). Every act registers one flip at most. Hence in a row of fewer acts than there
are numbers the channel keeps off the flips that are being queued (`Course.play_apart`).
-/

namespace PageFlip

/-- The token of a flip that was accepted. -/
def Happening.token? : Happening → Option Token
  | accepted _ f => some f.token
  | _ => none

/-- The tokens of the flips that the channel has accepted. -/
def Scene.accepted (m : Scene) : List Token := m.history.filterMap Happening.token?

namespace Conduct

/-- The channel only reports flips that it has accepted. -/
def TellsAccepted (conduct : Conduct) : Prop :=
  ∀ m reports, conduct.reads m reports = true → ∀ r ∈ reports, r.token ∈ m.accepted

/-- The same conduct, and the channel keeps off the flips that are being queued. -/
def apart (conduct : Conduct) : Conduct :=
  { conduct with
    reads := fun m reports =>
      conduct.reads m reports && reports.all fun r => !m.queued.contains r.token }

/-- Nothing more is expected than a channel that only reports flips which it has accepted. -/
def honest : Conduct :=
  { free with reads := fun m reports => reports.all fun r => m.accepted.contains r.token }

/-- An honest channel only reports flips that it has accepted. -/
theorem tellsAccepted_honest : honest.TellsAccepted := by
  intro m reports hreads r hr
  simpa using List.all_eq_true.1 hreads r hr

/-- A channel that keeps off the flips that are being queued is a truthful one. -/
theorem truthful_apart (conduct : Conduct) : conduct.apart.Truthful := by
  intro m reports hreads r hr
  have hall := (Bool.and_eq_true _ _ ▸ hreads : _ ∧ _).2
  simpa using List.all_eq_true.1 hall r hr

end Conduct

variable {conduct : Conduct}

namespace Scene

/-- The tokens of a course have numbers below the one at which the search starts, and those that are
being queued were not accepted. -/
structure IsNumbered (m : Scene) : Prop where
  next_ne_zero : m.screen.registry.next ≠ 0
  occupied : ∀ t, m.screen.registry.occupies t = true →
    t.raw.toNat < m.screen.registry.next.toNat
  known : ∀ t ∈ m.queued ++ m.accepted, t.raw.toNat < m.screen.registry.next.toNat
  nodup : m.queued.Nodup
  disjoint : ∀ t ∈ m.queued, t ∉ m.accepted

/-- At first no token is in flight, and the search starts at 1. -/
theorem isNumbered_new (pipes : List Pipe) (slots : List Framebuffer) (config : Config) :
    (Course.new pipes slots config).scene.IsNumbered where
  next_ne_zero := by
    show (1 : UInt32) ≠ 0
    decide
  occupied := fun t ht => by cases ht
  known := fun t ht => by cases ht
  nodup := List.nodup_nil
  disjoint := fun t ht => by cases ht

/-- What is no acceptance adds no token to the accepted ones. -/
theorem accepted_append {s : Screen} {ls : List Level} {fbs : List Framebuffer}
    {hs h : List Happening} (hnone : hs.filterMap Happening.token? = []) :
    accepted ⟨s, ls, fbs, hs ++ h⟩ = h.filterMap Happening.token? := by
  rw [accepted, List.filterMap_append, hnone, List.nil_append]

/-- When a client is told an outcome no flip is accepted, and so no token is. -/
theorem token?_ofVerdict (id : SwapId) (client : Client) (v : Option Verdict) :
    (Happening.ofVerdict id client v).filterMap Happening.token? = [] := by
  cases v <;> rfl

namespace IsNumbered

variable {m m' : Scene}

/-- Tokens only go. -/
theorem shrink (h : m.IsNumbered) (hnext : m'.screen.registry.next = m.screen.registry.next)
    (hocc : ∀ t, m'.screen.registry.occupies t = true → m.screen.registry.occupies t = true)
    (hq : m'.queued.Sublist m.queued) (ha : m'.accepted = m.accepted) : m'.IsNumbered where
  next_ne_zero := by
    rw [hnext]
    exact h.next_ne_zero
  occupied := by
    intro t ht
    rw [hnext]
    exact h.occupied t (hocc t ht)
  known := by
    intro t ht
    rw [hnext]
    refine h.known t ?_
    rw [ha, List.mem_append] at ht
    exact List.mem_append.2 (ht.imp_left fun ht => hq.subset ht)
  nodup := h.nodup.sublist hq
  disjoint := by
    intro t ht
    rw [ha]
    exact h.disjoint t (hq.subset ht)

/-- A flip is registered, under the number at which the search started. -/
theorem register {t : Token} {event : Event} {crtc : Crtc} (h : m.IsNumbered)
    (hroom : m.screen.registry.next.toNat + 1 < UInt32.size)
    (halloc : m.screen.registry.allocate crtc event = some (t, m'.screen.registry))
    (hq : m'.queued = t :: m.queued) (ha : m'.accepted = m.accepted) :
    m'.IsNumbered ∧ m'.screen.registry.next.toNat = m.screen.registry.next.toNat + 1 := by
  have hfree : m.screen.registry.occupies ⟨_, h.next_ne_zero⟩ = false := by
    rw [← Bool.not_eq_true]
    exact fun hocc => Nat.lt_irrefl _ (h.occupied _ hocc)
  obtain ⟨hraw, hnext⟩ := Registry.raw_of_allocate halloc h.next_ne_zero hfree
  have hnat : m'.screen.registry.next.toNat = m.screen.registry.next.toNat + 1 := by
    rw [hnext, UInt32.toNat_add]
    exact Nat.mod_eq_of_lt hroom
  -- All others have smaller numbers.
  have hnew : t ∉ m.queued ++ m.accepted := by
    intro hmem
    have := h.known t hmem
    rw [hraw] at this
    exact Nat.lt_irrefl _ this
  rw [List.mem_append, not_or] at hnew
  refine ⟨⟨?_, ?_, ?_, ?_, ?_⟩, hnat⟩
  · intro hzero
    rw [hzero] at hnat
    cases hnat
  · intro u hu
    rw [Registry.occupies_of_allocate halloc, Bool.or_eq_true, beq_iff_eq] at hu
    rw [hnat]
    rcases hu with rfl | hu
    · rw [hraw]
      exact Nat.lt_succ_self _
    · exact Nat.lt_succ_of_lt (h.occupied u hu)
  · intro u hu
    rw [hq, ha, List.cons_append, List.mem_cons] at hu
    rw [hnat]
    rcases hu with rfl | hu
    · rw [hraw]
      exact Nat.lt_succ_self _
    · exact Nat.lt_succ_of_lt (h.known u hu)
  · rw [hq, List.nodup_cons]
    exact ⟨hnew.1, h.nodup⟩
  · rw [hq, ha, List.forall_mem_cons]
    exact ⟨hnew.2, h.disjoint⟩

/-- The channel accepts a flip. -/
theorem accept {t : Token} (h : m.IsNumbered)
    (hnext : m'.screen.registry.next = m.screen.registry.next)
    (hocc : ∀ t, m'.screen.registry.occupies t = true → m.screen.registry.occupies t = true)
    (hq : m.queued = t :: m'.queued) (ha : m'.accepted = t :: m.accepted) : m'.IsNumbered := by
  have hnodup := h.nodup
  have hdisjoint := h.disjoint
  have hknown := h.known
  rw [hq, List.nodup_cons] at hnodup
  rw [hq, List.forall_mem_cons] at hdisjoint
  rw [hq, List.cons_append, List.forall_mem_cons] at hknown
  refine ⟨?_, ?_, ?_, hnodup.2, ?_⟩
  · rw [hnext]
    exact h.next_ne_zero
  · intro u hu
    rw [hnext]
    exact h.occupied u (hocc u hu)
  · intro u hu
    rw [ha, List.mem_append, List.mem_cons] at hu
    rw [hnext]
    rcases hu with hu | rfl | hu
    · exact hknown.2 u (List.mem_append_left _ hu)
    · exact hknown.1
    · exact hknown.2 u (List.mem_append_right _ hu)
  · intro u hu
    rw [ha, List.mem_cons, not_or]
    exact ⟨fun hut => hnodup.1 (hut ▸ hu), hdisjoint.2 u hu⟩

/-- A deed that registers no flip leaves the number at which the search starts where it is. Any
other moves it on by one. -/
theorem deed (h : m.IsNumbered) (hroom : m.screen.registry.next.toNat + 1 < UInt32.size)
    (hd : Deed conduct m m') :
    m'.IsNumbered ∧ m'.screen.registry.next.toNat ≤ m.screen.registry.next.toNat + 1 := by
  -- All deeds but two leave the search where it is and make no token known.
  have hshrink (hnext : m'.screen.registry.next = m.screen.registry.next)
      (hocc : ∀ t, m'.screen.registry.occupies t = true → m.screen.registry.occupies t = true)
      (hq : m'.queued.Sublist m.queued) (ha : m'.accepted = m.accepted) :
      m'.IsNumbered ∧ m'.screen.registry.next.toNat ≤ m.screen.registry.next.toNat + 1 :=
    ⟨h.shrink hnext hocc hq ha, by rw [hnext]; exact Nat.le_succ _⟩
  cases hd with
  | @register s c id fb n f reference r w b ls fbs hist hfb halloc hw hb =>
    obtain ⟨h', hnext⟩ : IsNumbered ⟨(s.setRegistry r).setBarrier id b,
        ⟨c, .queueing id fb f, .flipping id n none⟩ :: ls, fbs, hist⟩ ∧ _ :=
      h.register hroom halloc rfl rfl
    exact ⟨h', Nat.le_of_eq hnext⟩
  | late hr =>
    rw [Registry.of_forget?_eq_some hr] at hshrink ⊢
    exact hshrink rfl (fun t => Registry.occupies_of_occupies_erase) (.refl _) rfl
  | dispatch hr =>
    obtain ⟨p, -, -, rfl⟩ := Registry.of_resolve_eq_ok hr
    exact hshrink rfl (fun t => Registry.occupies_of_occupies_resolve hr) (.refl _)
      (accepted_append (token?_ofVerdict _ _ _))
  | abort =>
    exact hshrink rfl (fun t ht => ht) (.refl _) (accepted_append (token?_ofVerdict _ _ _))
  | giveUp he hr =>
    obtain ⟨p, -, -, rfl⟩ := Registry.of_resolve_eq_ok hr
    exact hshrink rfl (fun t => Registry.occupies_of_occupies_resolve hr)
      (List.sublist_cons_self _ _) (accepted_append (token?_ofVerdict _ _ _))
  | lose =>
    rw [Registry.forget_eq] at hshrink ⊢
    exact hshrink rfl (fun t => Registry.occupies_of_occupies_erase)
      (List.sublist_cons_self _ _) rfl
  | release =>
    exact hshrink rfl (fun t ht => ht) (.refl _) (accepted_append (token?_ofVerdict _ _ _))
  | reclaim =>
    refine hshrink rfl (fun t ht => ht) (.refl _) (accepted_append ?_)
    split_ifs
    · rfl
    · rfl
  | accept =>
    exact ⟨h.accept rfl (fun t => Registry.occupies_of_occupies_forgetPipe) rfl rfl,
      Nat.le_succ _⟩
  | disable =>
    -- Retired tokens are in flight as before.
    refine hshrink rfl (fun t ht => ?_) (.refl _) rfl
    exact (Registry.occupies_retirePipe _ _ t).symm.trans ht
  | reorder _ htable =>
    refine hshrink rfl (fun t ht => ?_) (.refl _) rfl
    exact (Registry.occupies_reorder htable t).symm.trans ht
  | _ => exact hshrink rfl (fun t ht => ht) (.refl _) rfl

/-- A row of deeds moves the number at which the search starts on by one at most. -/
theorem passage (h : m.IsNumbered) (hroom : m.screen.registry.next.toNat + 1 < UInt32.size)
    (hpath : Passage conduct m m') :
    m'.IsNumbered ∧ m'.screen.registry.next.toNat ≤ m.screen.registry.next.toNat + 1 := by
  obtain ⟨m₁, hplain, hlast⟩ := hpath
  -- The room is needed for the last deed alone, so the others are gone through without it.
  have h₁ : m₁.IsNumbered ∧ m₁.screen.registry.next = m.screen.registry.next := by
    clear hlast
    induction hplain with
    | refl => exact ⟨h, rfl⟩
    | tail _ hd ih => exact ⟨(ih.1.deed (by rwa [ih.2]) hd.1).1, hd.2.trans ih.2⟩
  rw [← h₁.2] at hroom ⊢
  cases hlast with
  | refl => exact ⟨h₁.1, Nat.le_succ _⟩
  | single hd => exact h₁.1.deed hroom hd

end IsNumbered

end Scene

namespace Course

variable {c d : Course} {act : Act} {acts : List Act}

/-- A channel that only reports accepted flips keeps off those that are being queued. -/
theorem step_apart (hconduct : conduct.TellsAccepted) (hc : c.scene.IsNumbered)
    (hstep : c.step conduct act = some d) : c.step conduct.apart act = some d := by
  cases act with
  | call op => exact hstep
  | reorder table => exact hstep
  | answer a =>
    simp only [step] at hstep ⊢
    split at hstep
    · rename_i wait waits call calls
      split_ifs at hstep with hallows
      refine (if_pos ?_).trans hstep
      unfold allowsAnswer at hallows ⊢
      split
      · exact hallows
      · -- What the channel reports it has accepted, so it is not being queued.
        rename_i reports
        refine (Bool.and_eq_true _ _).mpr ⟨hallows, List.all_eq_true.2 fun r hr => ?_⟩
        have haccepted := hconduct _ _ hallows r hr
        simpa using fun hq => hc.disjoint _ hq haccepted
      · rfl
    · cases hstep

/-- What is possible with a channel that keeps off some flips is possible with one that does not. -/
theorem step_of_apart (hstep : c.step conduct.apart act = some d) :
    c.step conduct act = some d := by
  cases act with
  | call op => exact hstep
  | reorder table => exact hstep
  | answer a =>
    simp only [step] at hstep ⊢
    split at hstep
    · split_ifs at hstep with hallows
      refine (if_pos ?_).trans hstep
      unfold allowsAnswer at hallows ⊢
      split
      · exact hallows
      · exact ((Bool.and_eq_true _ _).mp hallows).1
      · rfl
    · cases hstep

/-- A channel may keep off more flips than it has to. -/
theorem play_of_apart (hplay : c.play conduct.apart acts = some d) :
    c.play conduct acts = some d := by
  induction acts generalizing c with
  | nil => exact hplay
  | cons act acts ih =>
    obtain ⟨e, hact, hplay⟩ := Option.bind_eq_some_iff.1 hplay
    rw [play, step_of_apart hact]
    exact ih hplay

/-- The tokens stay numbered, and the search moves on by one number at most. -/
theorem numbered_of_step (hs : c.Sound) (hc : c.scene.IsNumbered)
    (hroom : c.session.screen.registry.next.toNat + 1 < UInt32.size)
    (hstep : c.step conduct act = some d) (hunbroken : d.session.violation = none) :
    d.Sound ∧ d.scene.IsNumbered ∧
      d.session.screen.registry.next.toNat ≤ c.session.screen.registry.next.toNat + 1 := by
  obtain ⟨hpassage, hd⟩ := passage_of_step hs hstep hunbroken
  obtain ⟨hnumbered, hnext⟩ := hc.passage hroom hpassage
  exact ⟨hd, hnumbered, hnext⟩

/-- While the numbers do not run out, a channel that only reports accepted flips keeps off those
that are being queued. -/
theorem numbered_of_play (hconduct : conduct.TellsAccepted) (hs : c.Sound)
    (hc : c.scene.IsNumbered)
    (hroom : c.session.screen.registry.next.toNat + acts.length < UInt32.size)
    (hplay : c.play conduct acts = some d) :
    c.play conduct.apart acts = some d ∧
      (d.session.violation = none → d.scene.IsNumbered ∧
        d.session.screen.registry.next.toNat ≤
          c.session.screen.registry.next.toNat + acts.length) := by
  induction acts generalizing c with
  | nil =>
    obtain rfl : c = d := Option.some.inj hplay
    exact ⟨rfl, fun _ => ⟨hc, Nat.le_refl _⟩⟩
  | cons act acts ih =>
    rw [List.length_cons] at hroom
    obtain ⟨e, hact, hplay⟩ := Option.bind_eq_some_iff.1 hplay
    have hact' := step_apart hconduct hc hact
    cases hv : e.session.violation with
    | none =>
      obtain ⟨he, hnumbered, hnext⟩ := numbered_of_step hs hc (by omega) hact hv
      obtain ⟨hapart, hrest⟩ := ih he hnumbered (by omega) hplay
      refine ⟨by rw [play, hact']; exact hapart, fun hunbroken => ?_⟩
      obtain ⟨hd, hlast⟩ := hrest hunbroken
      rw [List.length_cons]
      exact ⟨hd, by omega⟩
    | some v =>
      -- After a violation there are no more acts.
      cases acts with
      | nil =>
        obtain rfl : e = d := Option.some.inj hplay
        refine ⟨by rw [play, hact']; rfl, fun hunbroken => ?_⟩
        rw [hunbroken] at hv
        cases hv
      | cons act' acts =>
        obtain ⟨e', hact', -⟩ := Option.bind_eq_some_iff.1 hplay
        rw [unbroken_of_step hact'] at hv
        cases hv

/-- In a row of fewer acts than there are numbers, a channel that only reports accepted flips keeps
off those that are being queued. -/
theorem play_apart {pipes : List Pipe} {slots : List Framebuffer} {config : Config}
    (hconduct : conduct.TellsAccepted) (hlength : acts.length + 2 < UInt32.size)
    (hplay : (new pipes slots config).play conduct acts = some c) :
    (new pipes slots config).play conduct.apart acts = some c := by
  refine (numbered_of_play hconduct (sound_new _ _ _) (Scene.isNumbered_new _ _ _) ?_ hplay).1
  have hnext : (new pipes slots config).session.screen.registry.next.toNat = 1 := rfl
  rw [hnext]
  omega

/-- In a row of fewer acts than there are numbers, the tokens are numbered in the order of their
flips, whatever the channel reports. -/
theorem numbered_of_length_lt {pipes : List Pipe} {slots : List Framebuffer} {config : Config}
    (hlength : acts.length + 2 < UInt32.size)
    (hplay : (new pipes slots config).play conduct acts = some c)
    (hunbroken : c.session.violation = none) :
    c.Sound ∧ c.scene.IsNumbered ∧
      c.session.screen.registry.next.toNat ≤ acts.length + 1 := by
  induction acts using List.reverseRecOn generalizing c with
  | nil =>
    obtain rfl : new pipes slots config = c := Option.some.inj hplay
    exact ⟨sound_new _ _ _, Scene.isNumbered_new _ _ _, Nat.le_refl 1⟩
  | append_singleton acts act ih =>
    rw [List.length_append, List.length_singleton] at hlength ⊢
    obtain ⟨d, hbefore, hstep⟩ := exists_of_play_concat hplay
    obtain ⟨hs, hd, hnext⟩ := ih (by omega) hbefore (unbroken_of_step hstep)
    obtain ⟨hc, hnumbered, hlast⟩ := numbered_of_step hs hd (by omega) hstep hunbroken
    exact ⟨hc, hnumbered, by omega⟩

end Course

end PageFlip
