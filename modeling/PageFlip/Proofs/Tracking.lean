import PageFlip.Proofs.Run

/-!
# Where the tokens are

A token is on its way from a flip that is being queued, to the channel, to a report that waits to be
dispatched. `Tracked` says that it is in one of these places only, and that the registry holds on
to it: a flip that the channel has keeps its token pending or retired, and an undispatched report
finds its token so, unless the token was forgotten before (`Tracked.evolves`).

This takes a channel that accepts a flip only when no unreported flip is retired on its controller
(`Rules.Guarded`), and tokens that are not handed out again while they are in use
(`Moment.Apart`): the search for a free token starts behind the last one handed out, so this is a
matter of the numbers running out.
-/

namespace PageFlip

namespace Registry

variable {r r' : Registry Event} {t u : Token} {crtc crtc' : Crtc} {event : Event}

/-- The token is pending for the controller, or it is retired there. -/
def Holds (r : Registry Event) (t : Token) (crtc : Crtc) : Prop :=
  (∃ p, r.pending.find? t = some p ∧ p.crtc = crtc) ∨
    (r.pending.find? t = none ∧ r.retired.find? t = some crtc)

/-- The two registries differ at most in what they say of the token `t`. -/
def AgreeOff (t : Token) (r' r : Registry Event) : Prop :=
  ∀ u, u ≠ t → r'.pending.find? u = r.pending.find? u ∧ r'.retired.find? u = r.retired.find? u

/-- A token that the registry holds on to is in flight. -/
theorem Holds.occupies (h : r.Holds t crtc) : r.occupies t = true := by
  rw [occupies_iff]
  rcases h with ⟨p, hp, -⟩ | ⟨-, hretired⟩
  · exact .inl ⟨p, hp⟩
  · exact .inr ⟨crtc, hretired⟩

/-- Registries that differ in one token hold on to the same other ones. -/
theorem AgreeOff.holds (h : AgreeOff t r' r) (hu : u ≠ t) (hr : r.Holds u crtc) :
    r'.Holds u crtc := by
  unfold Holds
  rwa [(h u hu).1, (h u hu).2]

/-- The same of the tokens in flight. -/
theorem AgreeOff.occupies (h : AgreeOff t r' r) (hu : u ≠ t) : r'.occupies u = r.occupies u := by
  rw [occupies_eq, occupies_eq, (h u hu).1, (h u hu).2]

/-- To allocate a token is nothing to the others. -/
theorem agreeOff_of_allocate (h : r.allocate crtc event = some (t, r')) : AgreeOff t r' r := by
  intro u hu
  rw [pending_of_allocate h, if_neg hu, retired_of_allocate h]
  exact ⟨rfl, rfl⟩

/-- To hand out the event of a token is nothing to the others. -/
theorem agreeOff_of_resolve (h : r.resolve t = .ok (event, r')) : AgreeOff t r' r := by
  intro u hu
  rw [pending_of_resolve h, if_neg hu, retired_of_resolve h]
  exact ⟨rfl, rfl⟩

/-- To forget a token is nothing to the others. -/
theorem agreeOff_erase_retired (r : Registry Event) (t : Token) :
    AgreeOff t { r with retired := r.retired.erase t } r := by
  intro u hu
  simp [hu]

/-- Disabling a pipe holds on to every token. -/
theorem Holds.retirePipe (h : r.Holds t crtc) (crtc' : Crtc) :
    (r.retirePipe crtc').2.Holds t crtc := by
  unfold Holds
  rw [retirePipe_pending, Table.find?_keep, retired_retirePipe]
  -- A pending token of the pipe's controller is retired there, and all others stay what they are.
  rcases h with ⟨p, hp, rfl⟩ | ⟨hp, hretired⟩
  · by_cases hc : p.crtc = crtc'
    · right
      simp [hp, hc]
    · left
      exact ⟨p, by simp [hp, hc], rfl⟩
  · right
    simp [hp, hretired]

/-- An accepted flip holds on to the tokens that are not retired on its controller. -/
theorem Holds.forgetPipe (h : r.Holds t crtc) (hne : r.retired.find? t ≠ some crtc') :
    (r.forgetPipe crtc').2.Holds t crtc := by
  unfold Holds
  rwa [pending_forgetPipe, retired_forgetPipe, if_neg hne]

end Registry

/-- Every token is in one place, and the registry holds on to it. -/
structure Tracked (r : Registry Event) (queued flips : List Submission)
    (undispatched forgotten : List Token) : Prop where
  nodup : (queued.map Submission.token ++ (flips.map Submission.token ++ undispatched)).Nodup
  crtc : ∀ f ∈ queued, ∀ p, r.pending.find? f.token = some p → p.crtc = f.crtc
  held : ∀ f ∈ flips, r.Holds f.token f.crtc
  known : ∀ t ∈ undispatched, r.occupies t = true ∨ t ∈ forgotten
  free : ∀ t ∈ forgotten, t ∈ undispatched ∧ r.occupies t = false

namespace Tracked

variable {r r' : Registry Event} {q fl : List Submission} {ud ud' fo : List Token}
  {f : Submission} {t : Token} {crtc : Crtc} {event : Event}

/-- Flips that the channel has and undispatched reports have tokens of their own. -/
theorem nodup_rest (h : Tracked r q fl ud fo) : (fl.map Submission.token ++ ud).Nodup :=
  (List.nodup_append.1 h.nodup).2.1

/-- A token that is neither pending nor retired, and was not forgotten, is at most queued. -/
theorem not_mem_of_free (h : Tracked r q fl ud fo) (hfree : r.occupies t = false) (ht : t ∉ fo) :
    t ∉ fl.map Submission.token ++ ud := by
  intro hmem
  rcases List.mem_append.1 hmem with hmem | hmem
  · obtain ⟨f, hf, rfl⟩ := List.mem_map.1 hmem
    rw [(h.held f hf).occupies] at hfree
    cases hfree
  · rcases h.known t hmem with hocc | hfo
    · rw [hocc] at hfree
      cases hfree
    · exact ht hfo

/-- What is neither queued nor forgotten does not notice a change of one queued token. -/
theorem agree (h : Tracked r q fl ud fo) (hagree : Registry.AgreeOff t r' r)
    (ht : t ∉ fl.map Submission.token ++ ud) :
    (∀ f ∈ fl, r'.Holds f.token f.crtc) ∧ (∀ u ∈ ud, r'.occupies u = true ∨ u ∈ fo) ∧
      ∀ u ∈ fo, u ∈ ud ∧ r'.occupies u = false := by
  rw [List.mem_append, not_or] at ht
  have hud : ∀ u ∈ ud, r'.occupies u = r.occupies u :=
    fun u hu => hagree.occupies fun he => ht.2 (he ▸ hu)
  refine ⟨fun f hf => ?_, fun u hu => ?_, fun u hu => ?_⟩
  · exact hagree.holds (fun he => ht.1 (he ▸ List.mem_map_of_mem hf)) (h.held f hf)
  · rw [hud u hu]
    exact h.known u hu
  · obtain ⟨hmem, hfree⟩ := h.free u hu
    exact ⟨hmem, by rw [hud u hmem, hfree]⟩

/-- A flip is registered. -/
theorem register (h : Tracked r q fl ud fo)
    (halloc : r.allocate f.crtc event = some (f.token, r'))
    (hq : f.token ∉ q.map Submission.token) (hfo : f.token ∉ fo) :
    Tracked r' (f :: q) fl ud fo := by
  have hnew := h.not_mem_of_free (Registry.of_allocate_eq_some halloc).2.1 hfo
  obtain ⟨hheld, hknown, hfree⟩ := h.agree (Registry.agreeOff_of_allocate halloc) hnew
  refine ⟨?_, ?_, hheld, hknown, hfree⟩
  · rw [List.map_cons, List.cons_append, List.nodup_cons, List.mem_append, not_or]
    exact ⟨⟨hq, hnew⟩, h.nodup⟩
  · rw [List.forall_mem_cons]
    refine ⟨fun p hp => ?_, fun g hg p hp => ?_⟩
    · rw [Registry.pending_of_allocate halloc, if_pos rfl] at hp
      cases hp
      rfl
    · rw [Registry.pending_of_allocate halloc, if_neg] at hp
      · exact h.crtc g hg p hp
      · exact fun he => hq (he ▸ List.mem_map_of_mem hg)

/-- A flip that was being queued is not any more. -/
theorem unqueue (h : Tracked r (f :: q) fl ud fo) (hagree : Registry.AgreeOff f.token r' r) :
    Tracked r' q fl ud fo := by
  have hnodup := h.nodup
  rw [List.map_cons, List.cons_append, List.nodup_cons, List.mem_append, not_or] at hnodup
  obtain ⟨⟨hq, hrest⟩, hnodup⟩ := hnodup
  obtain ⟨hheld, hknown, hfree⟩ := h.agree hagree hrest
  refine ⟨hnodup, fun g hg p hp => ?_, hheld, hknown, hfree⟩
  rw [(hagree g.token fun he => hq (he ▸ List.mem_map_of_mem hg)).1] at hp
  exact h.crtc g (List.mem_cons_of_mem _ hg) p hp

/-- A report is dispatched. -/
theorem dispatch (h : Tracked r q fl (t :: ud) fo) (hocc : r.occupies t = true)
    (hagree : Registry.AgreeOff t r' r) : Tracked r' q fl ud fo := by
  have hperm : (q.map Submission.token ++ (fl.map Submission.token ++ t :: ud)).Perm
      (t :: (q.map Submission.token ++ (fl.map Submission.token ++ ud))) :=
    ((List.perm_middle.append_left _).trans List.perm_middle)
  have hnodup := hperm.nodup_iff.1 h.nodup
  rw [List.nodup_cons, List.mem_append, not_or] at hnodup
  obtain ⟨⟨hq, hrest⟩, hnodup⟩ := hnodup
  -- The token was not forgotten, since the registry knows it.
  have hfo : ∀ u ∈ fo, u ∈ ud := by
    intro u hu
    obtain ⟨hmem, hfree⟩ := h.free u hu
    rcases List.mem_cons.1 hmem with rfl | hmem
    · rw [hocc] at hfree
      cases hfree
    · exact hmem
  have h' : Tracked r q fl ud fo :=
    ⟨hnodup, h.crtc, h.held, fun u hu => h.known u (List.mem_cons_of_mem _ hu),
      fun u hu => ⟨hfo u hu, (h.free u hu).2⟩⟩
  obtain ⟨hheld, hknown, hfree⟩ := h'.agree hagree hrest
  refine ⟨hnodup, fun g hg p hp => ?_, hheld, hknown, hfree⟩
  rw [(hagree g.token fun he => hq (he ▸ List.mem_map_of_mem hg)).1] at hp
  exact h.crtc g hg p hp

/-- The same tokens in another order. -/
theorem perm (h : Tracked r q fl ud fo) (hud : ud'.Perm ud) : Tracked r q fl ud' fo where
  nodup := ((hud.append_left _).append_left _).nodup_iff.2 h.nodup
  crtc := h.crtc
  held := h.held
  known := fun t ht => h.known t (hud.mem_iff.1 ht)
  free := fun t ht => ⟨hud.mem_iff.2 (h.free t ht).1, (h.free t ht).2⟩

/-- The pending tokens come to be in another order. -/
theorem reorder (h : Tracked r q fl ud fo) {table : Table Token (Pending Event)}
    (htable : table.entries.Perm r.pending.entries) : Tracked (r.reorder table) q fl ud fo where
  nodup := h.nodup
  crtc := fun f hf p hp => h.crtc f hf p ((Registry.find?_reorder htable _).symm.trans hp)
  held := by
    intro f hf
    unfold Registry.Holds
    rw [Registry.find?_reorder htable]
    exact h.held f hf
  known := by
    intro t ht
    rw [Registry.occupies_reorder htable]
    exact h.known t ht
  free := by
    intro t ht
    rw [Registry.occupies_reorder htable]
    exact h.free t ht

/-- A pipe is disabled. -/
theorem retire (h : Tracked r q fl ud fo) (crtc : Crtc) :
    Tracked (r.retirePipe crtc).2 q fl ud fo where
  nodup := h.nodup
  crtc := by
    intro f hf p hp
    exact h.crtc f hf p (Registry.pending_retirePipe_iff.1 hp).1
  held := fun f hf => (h.held f hf).retirePipe crtc
  known := by
    intro t ht
    rw [Registry.occupies_retirePipe]
    exact h.known t ht
  free := by
    intro t ht
    rw [Registry.occupies_retirePipe]
    exact h.free t ht

/-- The channel accepts a flip, and the undispatched tokens of its controller are forgotten. -/
theorem accept (h : Tracked r (f :: q) fl ud fo) (hdisjoint : r.Disjoint)
    (hpending : r.isPending f.token = true)
    (hguard : ∀ g ∈ fl, r.retired.find? g.token ≠ some f.crtc) :
    Tracked (r.forgetPipe f.crtc).2 q (f :: fl) ud
      (ud.filter (fun t => r.retired.find? t == some f.crtc) ++ fo) where
  nodup := by
    rw [List.map_cons, List.cons_append]
    exact List.perm_middle.nodup_iff.2 h.nodup
  crtc := fun g hg p hp => h.crtc g (List.mem_cons_of_mem _ hg) p hp
  held := by
    rw [List.forall_mem_cons]
    refine ⟨?_, fun g hg => (h.held g hg).forgetPipe (hguard g hg)⟩
    obtain ⟨p, hp⟩ := Registry.isPending_iff.1 hpending
    exact .inl ⟨p, hp, h.crtc f List.mem_cons_self p hp⟩
  known := by
    intro t ht
    by_cases hretired : r.retired.find? t = some f.crtc
    · exact .inr (List.mem_append_left _ (List.mem_filter.2 ⟨ht, by simp [hretired]⟩))
    · rw [Registry.occupies_forgetPipe r hretired]
      exact (h.known t ht).imp_right (List.mem_append_right _)
  free := by
    intro t ht
    rcases List.mem_append.1 ht with ht | ht
    · -- A token that was retired is not pending, and so it is free when it is forgotten.
      obtain ⟨hmem, hretired⟩ := List.mem_filter.1 ht
      have hretired := eq_of_beq hretired
      have hp := (hdisjoint t).resolve_right (by rw [hretired]; exact Option.some_ne_none _)
      refine ⟨hmem, ?_⟩
      rw [Registry.occupies_eq, Registry.pending_forgetPipe, hp, Registry.retired_forgetPipe,
        if_pos hretired]
      rfl
    · obtain ⟨hmem, hfree⟩ := h.free t ht
      refine ⟨hmem, ?_⟩
      rw [Registry.occupies_forgetPipe, hfree]
      intro hretired
      rw [Registry.occupies_eq, hretired] at hfree
      simp at hfree

/-- The channel drops a flip. -/
theorem lose (h : Tracked r q fl ud fo) (t : Token) :
    Tracked r q (fl.eraseP fun f => f.token == t) ud fo where
  nodup := h.nodup.sublist (((List.eraseP_sublist.map _).append_right _).append_left _)
  crtc := h.crtc
  held := fun f hf => h.held f (List.mem_of_mem_eraseP hf)
  known := h.known
  free := h.free

/-- The channel reports a flip. -/
theorem report (h : Tracked r q fl ud fo) (ht : ∃ f ∈ fl, f.token = t) :
    Tracked r q (fl.eraseP fun f => f.token == t) (t :: ud) fo := by
  obtain ⟨f, hf, hft⟩ := ht
  obtain ⟨f', l₁, l₂, -, htoken, hsplit, herase⟩ :=
    List.exists_of_eraseP (p := fun f => f.token == t) hf (by simp [hft])
  have htoken : f'.token = t := eq_of_beq htoken
  have hperm : ((fl.eraseP fun f => f.token == t).map Submission.token ++ t :: ud).Perm
      (fl.map Submission.token ++ ud) := by
    rw [herase, hsplit, ← htoken]
    simp only [List.map_append, List.map_cons, List.append_assoc, List.cons_append]
    exact (List.perm_middle.append_left _)
  refine ⟨(hperm.append_left _).nodup_iff.2 h.nodup, h.crtc,
    fun g hg => h.held g (List.mem_of_mem_eraseP hg), ?_, ?_⟩
  · rw [List.forall_mem_cons]
    refine ⟨.inl ?_, h.known⟩
    rw [← hft]
    exact (h.held f hf).occupies
  · exact fun u hu => ⟨List.mem_cons_of_mem _ (h.free u hu).1, (h.free u hu).2⟩

end Tracked

/-! ## Runs -/

/-- The channel accepts a flip only when no flip that it may still report is retired on the
controller. -/
def Rules.Guarded (rules : Rules) : Prop :=
  ∀ m f, rules.accepts m f = true → ∀ g ∈ m.ledger.flips,
    g.crtc ≠ f.crtc ∨ m.isRetiredOn f.crtc g.token = false

namespace Moment

/-- The flips that are being queued have different tokens, and none that was forgotten too early. -/
def Apart (m : Moment) : Prop := m.queued.Nodup ∧ ∀ t ∈ m.queued, t ∉ m.ledger.forgotten

instance (m : Moment) : Decidable m.Apart := inferInstanceAs (Decidable (_ ∧ _))

/-- Every token of a moment is tracked. -/
structure IsTracked (m : Moment) : Prop where
  disjoint : m.screen.registry.Disjoint
  tracked : Tracked m.screen.registry m.agenda.attempts m.ledger.flips
    m.undispatched m.ledger.forgotten

/-- At first no token is anywhere. -/
theorem isTracked_new (pipes : List Pipe) (slots : List Framebuffer) (config : Config) :
    (World.new pipes slots config).moment.IsTracked where
  disjoint := Registry.disjoint_new _
  tracked :=
    { nodup := List.nodup_nil
      crtc := fun f hf => by cases hf
      held := fun f hf => by cases hf
      known := fun t ht => by cases ht
      free := fun t ht => by cases ht }

variable {rules : Rules} {m m' : Moment}

/-- A report that is read is not dispatched yet. -/
theorem undispatched_read {s : Screen} {g : Agenda} {l : Ledger} {reports : List Report}
    (hreports : (reports.map Report.token).Subperm l.readable) :
    (undispatched ⟨s, .reporting reports ++ g, l.read (reports.map Report.token)⟩).Perm
      (undispatched ⟨s, g, l⟩) := by
  have hdiff := List.subperm_append_diff_self_of_count_le fun t _ =>
    List.Subperm.count_le hreports t
  refine List.Perm.trans ?_ (hdiff.append_left (g.reports.map Report.token))
  simp only [undispatched, Ledger.read, Agenda.reports_append, Agenda.reporting, List.map_append,
    List.append_assoc]
  exact List.perm_append_comm_assoc _ _ _

/-- What is tracked only depends on the registry, the agenda and the channel. -/
theorem IsTracked.congr (h : m.IsTracked) (hregistry : m'.screen.registry = m.screen.registry)
    (hattempts : m'.agenda.attempts = m.agenda.attempts)
    (hreports : m'.agenda.reports = m.agenda.reports)
    (hflips : m'.ledger.flips = m.ledger.flips)
    (hreadable : m'.ledger.readable = m.ledger.readable)
    (hforgotten : m'.ledger.forgotten = m.ledger.forgotten) : m'.IsTracked := by
  obtain ⟨hdisjoint, htracked⟩ := h
  refine ⟨by rw [hregistry]; exact hdisjoint, ?_⟩
  rw [hregistry, hattempts, hflips, hforgotten, undispatched, hreports, hreadable]
  exact htracked

/-- Every token stays tracked. -/
theorem IsTracked.evolves (hguarded : rules.Guarded) (h : m.IsTracked)
    (he : Evolves rules Apart m m') : m'.IsTracked := by
  obtain ⟨hdisjoint, htracked⟩ := id h
  cases he with
  | @change s s' g g' l _ hc hl =>
    cases hc with
    | @register k id fb f reference r w b hfb halloc hw hb =>
      obtain ⟨hnodup, hfo⟩ := hl
      have hq := (List.nodup_cons.1 hnodup).1
      exact ⟨hdisjoint.allocate halloc,
        htracked.register halloc hq (hfo f.token List.mem_cons_self)⟩
    | @late k report r hr =>
      have hretired : s.registry.forget? report.token ≠ none := by
        rw [hr]
        exact Option.some_ne_none _
      rw [Ne, Registry.forget?_eq_none_iff] at hretired
      rw [Registry.of_forget?_eq_some hr]
      refine ⟨hdisjoint.erase_retired _, htracked.dispatch ?_ (Registry.agreeOff_erase_retired _ _)⟩
      exact Registry.occupies_iff.2 (.inr (Option.ne_none_iff_exists'.1 hretired))
    | @dispatch k report f r w b v hlate hr hw hb =>
      obtain ⟨p, hp, -, -⟩ := Registry.of_resolve_eq_ok hr
      have hocc := Registry.occupies_iff.2 (.inl ⟨p, hp⟩)
      rw [Label.write_ofVerdict]
      exact ⟨hdisjoint.resolve hr, htracked.dispatch hocc (Registry.agreeOff_of_resolve hr)⟩
    | @giveUp k id fb a f r w b v hr hw hb =>
      rw [Label.write_ofVerdict]
      exact ⟨hdisjoint.resolve hr, htracked.unqueue (Registry.agreeOff_of_resolve hr)⟩
    | @lose k id fb a hgone =>
      rw [Registry.forget_eq]
      exact ⟨hdisjoint.erase_retired _, htracked.unqueue (Registry.agreeOff_erase_retired _ _)⟩
    | @accept k id fb f w i now hw =>
      obtain ⟨hf, hpending⟩ := hl
      refine ⟨hdisjoint.forgetPipe _, htracked.accept hdisjoint hpending fun g hg => ?_⟩
      -- A flip that the channel still has can only be retired on its own controller.
      rcases hguarded _ _ hf g hg with hne | hretired
      · rcases htracked.held g hg with ⟨p, hp, -⟩ | ⟨-, hcrtc⟩
        · rw [(hdisjoint g.token).resolve_left (by rw [hp]; exact Option.some_ne_none p)]
          exact (Option.some_ne_none _).symm
        · rw [hcrtc]
          exact fun he => hne (Option.some.inj he)
      · exact ne_of_beq_false hretired
    | @read k reports =>
      exact ⟨hdisjoint, htracked.perm (undispatched_read hl)⟩
    | @disable k i crtc => exact ⟨hdisjoint.retirePipe _, htracked.retire _⟩
    | reorder htable => exact ⟨hdisjoint.reorder htable, htracked.reorder htable⟩
    | pass => exact h
    | abort =>
      rw [Label.write_ofVerdict]
      exact h.congr rfl rfl rfl rfl rfl rfl
    | release =>
      rw [Label.write_ofVerdict]
      exact h.congr rfl rfl rfl rfl rfl rfl
    | reclaim hw =>
      rw [Label.write_reclaimed]
      exact h.congr rfl rfl rfl rfl rfl rfl
    | launch => exact h.congr rfl rfl rfl rfl rfl rfl
    | enable => exact h.congr rfl rfl rfl rfl rfl rfl
  | report ht => exact ⟨hdisjoint, (htracked.report ht).perm List.perm_middle⟩
  | lose ht => exact ⟨hdisjoint, htracked.lose _⟩

end Moment

namespace Rules

/-- A channel that accepts one flip after the other on each controller is guarded. -/
theorem orderly_guarded : orderly.Guarded := by
  intro m f hf g hg
  left
  simpa using List.all_eq_true.1 hf g hg

/-- A channel that waits for the reports on retired tokens is guarded. -/
theorem clean_guarded : clean.Guarded := by
  intro m f hf g hg
  right
  have hmem : g.token ∈ m.unreported ++ m.undispatched :=
    List.mem_append_left _ (List.mem_map_of_mem hg)
  simpa using List.all_eq_true.1 hf g.token hmem

end Rules

namespace World

variable {rules : Rules} {m₀ : Moment} {w : World}

/-- A run is broken only by a report whose token had been forgotten, and which is gone. -/
theorem Reached.of_violation (hguarded : rules.Guarded) (hnew : m₀.IsTracked)
    (h : w.Reached rules Moment.Apart m₀) {v : Violation} (hv : w.session.violation = some v) :
    ∃ t ∈ w.ledger.forgotten, t ∉ w.moment.undispatched ∧ v = .notPending t := by
  cases h with
  | sound hpath hs =>
    rw [hs.unbroken] at hv
    cases hv
  | @stray m report g hpath hscreen hledger hagenda hA hv' hfree =>
    have htracked := hpath.keeps (fun _ _ => Moment.IsTracked.evolves hguarded) hnew
    have hperm : m.undispatched.Perm
        (report.token :: (g.reports.map Report.token ++ w.moment.undispatched)) := by
      simp [Moment.undispatched, hagenda, hledger, World.moment]
    have hforgotten : report.token ∈ w.ledger.forgotten := by
      rw [← hledger]
      refine (htracked.tracked.known _ (hperm.mem_iff.2 List.mem_cons_self)).resolve_left ?_
      rw [hfree]
      exact Bool.false_ne_true
    -- A token stands for one report only, and this one is being dispatched.
    have hnodup := hperm.nodup_iff.1 (List.nodup_append.1 htracked.tracked.nodup_rest).2.1
    have hgone := (List.nodup_cons.1 hnodup).1
    rw [List.mem_append, not_or] at hgone
    rw [hv'] at hv
    exact ⟨report.token, hforgotten, hgone.2, (Option.some.inj hv).symm⟩

/-- A run is broken exactly if a report was dispatched whose token had been forgotten. -/
theorem Reached.violation_eq_none_iff (hguarded : rules.Guarded) (hnew : m₀.IsTracked)
    (h : w.Reached rules Moment.Apart m₀) :
    w.session.violation = none ↔ ∀ t ∈ w.ledger.forgotten, t ∈ w.moment.undispatched := by
  constructor
  · intro hnone
    cases h with
    | sound hpath hs =>
      have htracked := hpath.keeps (fun _ _ => Moment.IsTracked.evolves hguarded) hnew
      exact fun t ht => (htracked.tracked.free t ht).1
    | stray _ _ _ _ _ hv =>
      rw [hnone] at hv
      cases hv
  · intro hall
    by_contra hne
    obtain ⟨v, hv⟩ := Option.ne_none_iff_exists'.1 hne
    obtain ⟨t, ht, hgone, -⟩ := h.of_violation hguarded hnew hv
    exact hgone (hall t ht)

end World

end PageFlip
