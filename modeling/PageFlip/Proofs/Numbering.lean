import PageFlip.Proofs.Tracking

/-!
# The numbers of tokens

The search for a free token starts behind the last one handed out, so until the numbers run out
tokens are numbered in the order of their flips and none is handed out twice. A move registers one
flip at most; hence in a row of fewer moves than there are numbers the flips that are being queued
stay apart (`World.apart_of_length_lt`).
-/

namespace PageFlip

namespace Moment

/-- The tokens of flips that were handed to the channel. -/
def handed (m : Moment) : List Token := m.unreported ++ (m.undispatched ++ m.ledger.forgotten)

/-- The tokens of a moment have numbers below the one at which the search starts, and those that are
being queued are in no other place. -/
structure IsNumbered (m : Moment) : Prop where
  next_ne_zero : m.screen.registry.next ≠ 0
  occupied : ∀ t, m.screen.registry.occupies t = true →
    t.raw.toNat < m.screen.registry.next.toNat
  known : ∀ t ∈ m.queued ++ m.handed, t.raw.toNat < m.screen.registry.next.toNat
  nodup : m.queued.Nodup
  disjoint : ∀ t ∈ m.queued, t ∉ m.handed

/-- At first no token is in flight, and the search starts at 1. -/
theorem isNumbered_new (pipes : List Pipe) (slots : List Framebuffer) (config : Config) :
    (World.new pipes slots config).moment.IsNumbered where
  next_ne_zero := by
    show (1 : UInt32) ≠ 0
    decide
  occupied := fun t ht => by cases ht
  known := fun t ht => by cases ht
  nodup := List.nodup_nil
  disjoint := fun t ht => by cases ht

/-- What is reported was handed to the channel before. -/
theorem handed_report {s : Screen} {g : Agenda} {l : Ledger} {t : Token}
    (ht : ∃ f ∈ l.flips, f.token = t) : handed ⟨s, g, l.report t⟩ ⊆ handed ⟨s, g, l⟩ := by
  intro u hu
  simp only [handed, unreported, undispatched, Ledger.report, Ledger.lose, List.mem_append,
    List.mem_cons] at hu ⊢
  rcases hu with hu | (hu | rfl | hu) | hu
  · exact .inl ((List.eraseP_sublist.map _).subset hu)
  · exact .inr (.inl (.inl hu))
  · obtain ⟨f, hf, rfl⟩ := ht
    exact .inl (List.mem_map_of_mem hf)
  · exact .inr (.inl (.inr hu))
  · exact .inr (.inr hu)

namespace IsNumbered

variable {m m' : Moment}

/-- Tokens that are numbered in the order of their flips are apart. -/
theorem apart (h : m.IsNumbered) : m.Apart := by
  refine ⟨h.nodup, fun t ht hfo => h.disjoint t ht ?_⟩
  exact List.mem_append_right _ (List.mem_append_right _ hfo)

/-- Tokens only go. -/
theorem shrink (h : m.IsNumbered) (hnext : m'.screen.registry.next = m.screen.registry.next)
    (hocc : ∀ t, m'.screen.registry.occupies t = true → m.screen.registry.occupies t = true)
    (hq : m'.queued.Sublist m.queued) (hh : m'.handed ⊆ m.handed) : m'.IsNumbered where
  next_ne_zero := by
    rw [hnext]
    exact h.next_ne_zero
  occupied := by
    intro t ht
    rw [hnext]
    exact h.occupied t (hocc t ht)
  known := by
    intro t ht
    rw [hnext]
    refine h.known t ?_
    rw [List.mem_append] at ht ⊢
    exact ht.imp (fun ht => hq.subset ht) fun ht => hh ht
  nodup := h.nodup.sublist hq
  disjoint := fun t ht hmem => h.disjoint t (hq.subset ht) (hh hmem)

/-- A flip is registered, under the number at which the search started. -/
theorem register {t : Token} {event : Event} {crtc : Crtc} (h : m.IsNumbered)
    (hroom : m.screen.registry.next.toNat + 1 < UInt32.size)
    (halloc : m.screen.registry.allocate crtc event = some (t, m'.screen.registry))
    (hq : m'.queued = t :: m.queued) (hh : m'.handed = m.handed) :
    m'.IsNumbered ∧ m'.screen.registry.next.toNat = m.screen.registry.next.toNat + 1 := by
  have hfree : m.screen.registry.occupies ⟨_, h.next_ne_zero⟩ = false := by
    rw [← Bool.not_eq_true]
    exact fun hocc => Nat.lt_irrefl _ (h.occupied _ hocc)
  obtain ⟨hraw, hnext⟩ := Registry.raw_of_allocate halloc h.next_ne_zero hfree
  have hnat : m'.screen.registry.next.toNat = m.screen.registry.next.toNat + 1 := by
    rw [hnext, UInt32.toNat_add]
    exact Nat.mod_eq_of_lt hroom
  -- All others have smaller numbers.
  have hnew : t ∉ m.queued ++ m.handed := by
    intro hmem
    have := h.known t hmem
    rw [hraw] at this
    exact Nat.lt_irrefl _ this
  rw [List.mem_append, not_or] at hnew
  refine ⟨⟨?_, ?_, ?_, ?_, ?_⟩, hnat⟩
  · intro hzero
    rw [hzero] at hnat
    cases hnat
  · intro u hu
    rw [Registry.occupies_of_allocate halloc, Bool.or_eq_true, beq_iff_eq] at hu
    rw [hnat]
    rcases hu with rfl | hu
    · rw [hraw]
      exact Nat.lt_succ_self _
    · exact Nat.lt_succ_of_lt (h.occupied u hu)
  · intro u hu
    rw [hq, hh, List.cons_append, List.mem_cons] at hu
    rw [hnat]
    rcases hu with rfl | hu
    · rw [hraw]
      exact Nat.lt_succ_self _
    · exact Nat.lt_succ_of_lt (h.known u hu)
  · rw [hq, List.nodup_cons]
    exact ⟨hnew.1, h.nodup⟩
  · rw [hq, hh, List.forall_mem_cons]
    exact ⟨hnew.2, h.disjoint⟩

/-- The channel accepts a flip, and some tokens are forgotten. -/
theorem accept {t : Token} {late : List Token} (h : m.IsNumbered)
    (hnext : m'.screen.registry.next = m.screen.registry.next)
    (hocc : ∀ t, m'.screen.registry.occupies t = true → m.screen.registry.occupies t = true)
    (hq : m.queued = t :: m'.queued) (hunreported : m'.unreported = t :: m.unreported)
    (hrest : m'.undispatched ++ m'.ledger.forgotten =
      m.undispatched ++ (late ++ m.ledger.forgotten)) (hlate : late ⊆ m.undispatched) :
    m'.IsNumbered := by
  have hnodup := h.nodup
  have hdisjoint := h.disjoint
  rw [hq, List.nodup_cons] at hnodup
  rw [hq, List.forall_mem_cons] at hdisjoint
  -- Only the accepted token was not handed to the channel before.
  have hhanded : ∀ u ∈ m'.handed, u = t ∨ u ∈ m.handed := by
    intro u hu
    rw [handed, hunreported, hrest, List.cons_append, List.mem_cons] at hu
    refine hu.imp_right fun hu => ?_
    simp only [handed, List.mem_append] at hu ⊢
    rcases hu with hu | hu | hu | hu
    · exact .inl hu
    · exact .inr (.inl hu)
    · exact .inr (.inl (hlate hu))
    · exact .inr (.inr hu)
  refine ⟨?_, ?_, ?_, hnodup.2, ?_⟩
  · rw [hnext]
    exact h.next_ne_zero
  · intro u hu
    rw [hnext]
    exact h.occupied u (hocc u hu)
  · intro u hu
    rw [hnext]
    refine h.known u ?_
    rw [hq, List.cons_append, List.mem_cons]
    rcases List.mem_append.1 hu with hu | hu
    · exact .inr (List.mem_append_left _ hu)
    · exact (hhanded u hu).imp_right (List.mem_append_right _)
  · intro u hu hmem
    rcases hhanded u hmem with rfl | hmem
    · exact hnodup.1 hu
    · exact hdisjoint.2 u hu hmem

/-- The number at which the search starts goes up by one with a flip that is registered, and stays
where it is otherwise. -/
theorem evolves {rules : Rules} {known : Moment → Prop} (h : m.IsNumbered)
    (hroom : m.screen.registry.next.toNat + 1 < UInt32.size) (he : Evolves rules known m m') :
    m'.IsNumbered ∧ (m'.screen.registry.next = m.screen.registry.next ∨
      (m'.screen.registry.next.toNat = m.screen.registry.next.toNat + 1 ∧ known m')) := by
  cases he with
  | @change s s' g g' l _ hc hl =>
    cases hc with
    | @register k id fb f reference r w b hfb halloc hw hb =>
      -- Only this takes a number.
      obtain ⟨h', hnext⟩ :
          IsNumbered ⟨(s.setRegistry r).setBarrier id b, .queueing id fb f ++ k, l⟩ ∧ _ :=
        h.register hroom halloc rfl rfl
      exact ⟨h', .inr ⟨hnext, hl⟩⟩
    | @late k report r hr =>
      rw [Registry.of_forget?_eq_some hr]
      refine ⟨h.shrink rfl (fun t => Registry.occupies_of_occupies_erase) (.refl _) ?_, .inl rfl⟩
      exact ((List.sublist_cons_self _ _).append_left _).subset
    | @dispatch k report f r w b v hlate hr hw hb =>
      obtain ⟨p, -, -, rfl⟩ := Registry.of_resolve_eq_ok hr
      rw [Label.write_ofVerdict]
      refine ⟨h.shrink rfl (fun t => Registry.occupies_of_occupies_resolve hr) (.refl _) ?_,
        .inl rfl⟩
      exact ((List.sublist_cons_self _ _).append_left _).subset
    | @giveUp k id fb a f r w b v hr hw hb =>
      obtain ⟨p, -, -, rfl⟩ := Registry.of_resolve_eq_ok hr
      rw [Label.write_ofVerdict]
      exact ⟨h.shrink rfl (fun t => Registry.occupies_of_occupies_resolve hr)
        (List.sublist_cons_self _ _) (List.Subset.refl _), .inl rfl⟩
    | @lose k id fb a hgone =>
      rw [Registry.forget_eq]
      exact ⟨h.shrink rfl (fun t => Registry.occupies_of_occupies_erase)
        (List.sublist_cons_self _ _) (List.Subset.refl _), .inl rfl⟩
    | @accept k id fb f w i now hw =>
      exact ⟨h.accept rfl (fun t => Registry.occupies_of_occupies_forgetPipe) rfl rfl rfl
        (List.filter_subset_self _), .inl rfl⟩
    | @read k reports =>
      -- What is read was readable, and so it was handed to the channel.
      refine ⟨h.shrink rfl (fun t ht => ht) (.refl _) ?_, .inl rfl⟩
      exact (((undispatched_read hl).append_right _).append_left _).subset
    | @disable k i crtc =>
      refine ⟨h.shrink rfl (fun t ht => ?_) (.refl _) (List.Subset.refl _), .inl rfl⟩
      exact (Registry.occupies_retirePipe _ _ t).symm.trans ht
    | pass => exact ⟨h, .inl rfl⟩
    | abort =>
      rw [Label.write_ofVerdict]
      exact ⟨h.shrink rfl (fun t ht => ht) (.refl _) (List.Subset.refl _), .inl rfl⟩
    | release =>
      rw [Label.write_ofVerdict]
      exact ⟨h.shrink rfl (fun t ht => ht) (.refl _) (List.Subset.refl _), .inl rfl⟩
    | reclaim hw =>
      rw [Label.write_reclaimed]
      exact ⟨h.shrink rfl (fun t ht => ht) (.refl _) (List.Subset.refl _), .inl rfl⟩
    | launch => exact ⟨h.shrink rfl (fun t ht => ht) (.refl _) (List.Subset.refl _), .inl rfl⟩
    | enable => exact ⟨h.shrink rfl (fun t ht => ht) (.refl _) (List.Subset.refl _), .inl rfl⟩
    | reorder htable =>
      refine ⟨h.shrink rfl (fun t ht => ?_) (.refl _) (List.Subset.refl _), .inl rfl⟩
      exact (Registry.occupies_reorder htable t).symm.trans ht
  | report ht =>
    exact ⟨h.shrink rfl (fun t ht => ht) (.refl _) (handed_report ht), .inl rfl⟩
  | lose ht =>
    refine ⟨h.shrink rfl (fun t ht => ht) (.refl _) ?_, .inl rfl⟩
    exact ((List.eraseP_sublist.map _).append_right _).subset

end IsNumbered

/-- One move starts from the number `n`, and where a flip was registered the search starts at `last`
from then on. -/
theorem IsNumbered.evolution {rules : Rules} {n : Nat} {last : UInt32} {m m' : Moment}
    (h : m.IsNumbered) (hn : m.screen.registry.next.toNat = n) (hroom : n + 2 < UInt32.size)
    (hpath : Evolution rules (fun k => k.screen.registry.next = last) m m') :
    m'.IsNumbered ∧ m'.screen.registry.next.toNat ≤ n + 1 := by
  have hkeeps := hpath.keeps (p := fun k => k.IsNumbered ∧ (k.screen.registry.next.toNat = n ∨
    (k.screen.registry.next.toNat = n + 1 ∧ k.screen.registry.next = last))) ?_ ⟨h, .inl hn⟩
  · refine ⟨hkeeps.1, ?_⟩
    rcases hkeeps.2 with hnext | ⟨hnext, -⟩
    · rw [hnext]
      exact Nat.le_succ n
    · exact Nat.le_of_eq hnext
  · rintro a b ⟨ha, hnext⟩ he
    obtain ⟨hb, hsame | ⟨hmore, hlast⟩⟩ := ha.evolves (by omega) he
    · rw [hsame]
      exact ⟨hb, hnext⟩
    · refine ⟨hb, .inr ⟨?_, hlast⟩⟩
      rcases hnext with hnext | ⟨hnext, hbefore⟩
      · rw [hmore, hnext]
      · -- The search would start at the same number before and after.
        rw [hbefore, hlast] at hmore
        omega

end Moment

namespace World

variable {rules : Rules} {w w' : World} {move : Move} {moves : List Move}

/-- After a move the tokens are numbered as before, or the run is broken. -/
theorem numbered_of_step (hs : w.session.Sound rules.nested) (h : w.moment.IsNumbered)
    (hroom : w.session.screen.registry.next.toNat + 2 < UInt32.size)
    (hstep : w.step rules move = some w') :
    (w'.session.Sound rules.nested ∧ w'.moment.IsNumbered ∧
      w'.session.screen.registry.next.toNat ≤ w.session.screen.registry.next.toNat + 1) ∨
    (w'.session.violation ≠ none ∧ w'.moment.Apart) := by
  cases reached_of_step (fun k => k.screen.registry.next = w'.session.screen.registry.next) hs hstep
    rfl with
  | sound hpath hs' => exact .inl ⟨hs', h.evolution rfl hroom hpath⟩
  | @stray m report g hpath hscreen hledger hagenda hA hv hfree =>
    obtain ⟨hnodup, hforgotten⟩ := (h.evolution rfl hroom hpath).1.apart
    have hqueued : w'.moment.queued.Sublist m.queued := by
      simp [Moment.queued, hagenda, World.moment]
    refine .inr ⟨by rw [hv]; exact Option.some_ne_none _, hnodup.sublist hqueued, fun t ht => ?_⟩
    have := hforgotten t (hqueued.subset ht)
    rwa [hledger] at this

/-- While the numbers do not run out, the flips that are being queued stay apart. -/
theorem apart_of_sound (hs : w.session.Sound rules.nested) (h : w.moment.IsNumbered)
    (hroom : w.session.screen.registry.next.toNat + moves.length + 1 < UInt32.size) {u : World}
    (hu : u ∈ w.visits rules moves) : u.moment.Apart := by
  induction moves generalizing w with
  | nil =>
    obtain rfl := List.mem_singleton.1 hu
    exact h.apart
  | cons move moves ih =>
    rw [List.length_cons] at hroom
    rcases List.mem_cons.1 hu with rfl | hu
    · exact h.apart
    · cases hstep : w.step rules move with
      | none =>
        rw [hstep] at hu
        cases hu
      | some v =>
        rw [hstep] at hu
        rcases numbered_of_step hs h (by omega) hstep with ⟨hs', h', hnext⟩ | ⟨hv, hapart⟩
        · exact ih hs' h' (by omega) hu
        · -- After a violation there are no more moves.
          obtain ⟨v', hv'⟩ := Option.ne_none_iff_exists'.1 hv
          cases moves with
          | nil =>
            obtain rfl := List.mem_singleton.1 hu
            exact hapart
          | cons move' moves =>
            have hu : u ∈ v :: [] := by simpa [visits, step_eq_none hv'] using hu
            obtain rfl := List.mem_singleton.1 hu
            exact hapart

/-- In a run of fewer moves than there are numbers, the flips that are being queued stay apart. -/
theorem apart_of_length_lt {pipes : List Pipe} {slots : List Framebuffer} {config : Config}
    (hlength : moves.length + 2 < UInt32.size) {u : World}
    (hu : u ∈ (new pipes slots config).visits rules moves) : u.moment.Apart := by
  refine apart_of_sound (sound_new pipes slots config) (Moment.isNumbered_new _ _ _) ?_ hu
  have hnext : (new pipes slots config).session.screen.registry.next.toNat = 1 := rfl
  rw [hnext]
  omega

end World

end PageFlip
