import PageFlip.Proofs.Resolving

/-!
# Reports on tokens in flight

A drain dispatches reports on tokens that are pending or retired. The report on a pending token
resolves its event, the one on a retired token comes late and is dropped, and in both cases the
token is no longer in flight (`Registry.clear`). So what remains of the swaps is what
resolving the pending ones comes to (`Follow.Unattended.dispatch_occupied`).
-/

namespace PageFlip

namespace Registry

variable {α : Type} {r : Registry α} {t u : Token} {tokens : List Token}

/-- The registry in which some tokens are no longer in flight. -/
def clear (r : Registry α) (tokens : List Token) : Registry α :=
  { r with
    pending := tokens.foldl Table.erase r.pending
    retired := tokens.foldl Table.erase r.retired }

/-- Several entries are erased at once. -/
theorem find?_foldl_erase {β : Type} (tokens : List Token) (table : Table Token β) (u : Token) :
    (tokens.foldl Table.erase table).find? u = if u ∈ tokens then none else table.find? u := by
  induction tokens generalizing table with
  | nil => rfl
  | cons t tokens ih =>
    rw [List.foldl_cons, ih, Table.find?_erase]
    by_cases hmem : u ∈ tokens
    · rw [if_pos hmem, if_pos (List.mem_cons_of_mem t hmem)]
    · by_cases hu : u = t
      · rw [if_neg hmem, if_pos hu, if_pos (hu ▸ List.mem_cons_self)]
      · rw [if_neg hmem, if_neg hu, if_neg fun h => (List.mem_cons.1 h).elim hu hmem]

/-- Of the tokens that are pending only the others stay so. -/
theorem pending_clear (r : Registry α) (tokens : List Token) (u : Token) :
    (r.clear tokens).pending.find? u = if u ∈ tokens then none else r.pending.find? u :=
  find?_foldl_erase tokens r.pending u

/-- Of the tokens that are retired only the others stay so. -/
theorem retired_clear (r : Registry α) (tokens : List Token) (u : Token) :
    (r.clear tokens).retired.find? u = if u ∈ tokens then none else r.retired.find? u :=
  find?_foldl_erase tokens r.retired u

/-- The other tokens are in flight as they were. -/
theorem occupies_clear (r : Registry α) (tokens : List Token) (u : Token) :
    (r.clear tokens).occupies u = (decide (u ∉ tokens) && r.occupies u) := by
  rw [occupies_eq, occupies_eq, pending_clear, retired_clear]
  by_cases hu : u ∈ tokens <;> simp [hu]

/-- No token comes to be both pending and retired. -/
theorem Disjoint.clear (h : r.Disjoint) (tokens : List Token) : (r.clear tokens).Disjoint := by
  intro u
  rw [pending_clear, retired_clear]
  split_ifs
  · exact .inl rfl
  · exact h u

/-- Other tokens make no difference to what some reports resolve. -/
theorem resolutions_clear {r : Registry Event} {reports : List Report}
    (h : ∀ report ∈ reports, report.token ∉ tokens) :
    (r.clear tokens).resolutions reports = r.resolutions reports := by
  refine List.filterMap_congr fun report hreport => ?_
  rw [pending_clear, if_neg (h report hreport)]

/-- A retired token is forgotten, and nothing is pending under it. -/
theorem forget?_of_retired (hdisjoint : r.Disjoint) (ht : r.retired.contains t = true) :
    r.pending.find? t = none ∧ r.forget? t = some (r.clear [t]) := by
  have hretired : r.retired.find? t ≠ none := by
    rw [Table.contains_eq_isSome_find?, Option.isSome_iff_ne_none] at ht
    exact ht
  have hpending : r.pending.find? t = none := (hdisjoint t).resolve_right hretired
  have herase : r.pending.erase t = r.pending := by
    refine Table.erase_eq_self ?_
    rw [Table.contains_eq_isSome_find?, hpending]
    rfl
  refine ⟨hpending, ?_⟩
  simp only [forget?, ht, if_true, clear, List.foldl_cons, List.foldl_nil, herase]

/-- A pending token is handed out, and it is not retired. -/
theorem resolve_of_pending (hdisjoint : r.Disjoint) (ht : r.isPending t = true) :
    ∃ p, r.pending.find? t = some p ∧ r.forget? t = none ∧
      r.resolve t = .ok (p.event, r.clear [t]) := by
  obtain ⟨p, hp, hforget, hresolve⟩ := exists_resolve hdisjoint ht
  have herase : r.retired.erase t = r.retired := by
    rw [forget?_eq_none_iff] at hforget
    refine Table.erase_eq_self ?_
    rw [Table.contains_eq_isSome_find?, hforget]
    rfl
  refine ⟨p, hp, hforget, ?_⟩
  rw [hresolve]
  simp only [without, clear, List.foldl_cons, List.foldl_nil, herase]

end Registry

namespace Screen

variable {s : Screen} {report : Report} {reports : List Report}

/-- The event of a pending token is delivered. -/
theorem step_dispatch_pending (hdisjoint : s.registry.Disjoint)
    (ht : s.registry.isPending report.token = true) (next : Task) :
    ∃ p, s.registry.pending.find? report.token = some p ∧
      s.step (.dispatch (report :: reports) next) =
        (s.setRegistry (s.registry.clear [report.token])).deliver p.event report.stamp?
          (.dispatch reports next) := by
  obtain ⟨p, hp, hforget, hresolve⟩ := Registry.resolve_of_pending hdisjoint ht
  refine ⟨p, hp, ?_⟩
  show s.dispatch report (.dispatch reports next) = _
  simp only [dispatch, hforget, resolve, hresolve]

/-- Of a retired token only the log hears. -/
theorem step_dispatch_retired (hdisjoint : s.registry.Disjoint)
    (ht : s.registry.retired.contains report.token = true) (next : Task) :
    s.registry.pending.find? report.token = none ∧
      s.step (.dispatch (report :: reports) next) =
        (s.setRegistry (s.registry.clear [report.token])).work [.lateEvent report.token]
          (.dispatch reports next) := by
  obtain ⟨hpending, hforget⟩ := Registry.forget?_of_retired hdisjoint ht
  refine ⟨hpending, ?_⟩
  show s.dispatch report (.dispatch reports next) = _
  simp only [dispatch, hforget]

end Screen

namespace Follow.Unattended

variable {s s' : Screen} {next : Task} {ns : List News} {fbs : List Framebuffer} {o : Outcome}
  {reports : List Report}

/-- Reports on tokens in flight are dispatched, one after the other. -/
theorem dispatch_occupied (hdisjoint : s.registry.Disjoint)
    (hnodup : (reports.map Report.token).Nodup)
    (hoccupied : ∀ report ∈ reports, s.registry.occupies report.token = true)
    (habort : Abortable s.swaps ((s.registry.resolutions reports).map Resolution.event))
    (h : Follow.Unattended
      ((s.setRegistry (s.registry.clear (reports.map Report.token))).settled
        (.after s.swaps (s.registry.resolutions reports))) (.inl next) ns fbs s' o) :
    Follow.Unattended s (.inl (.dispatch reports next))
      ((Aftermath.after s.swaps (s.registry.resolutions reports)).news ++ ns)
      ((Aftermath.after s.swaps (s.registry.resolutions reports)).removed ++ fbs) s' o := by
  induction reports generalizing s with
  | nil => exact .step h
  | cons report reports ih =>
    obtain ⟨hnew, hnodup⟩ := List.nodup_cons.1 hnodup
    obtain ⟨ht, hrest⟩ := List.forall_mem_cons.1 hoccupied
    -- The other reports are on other tokens, so they come to what they would have come to before.
    have hothers : ∀ r ∈ reports, r.token ∉ [report.token] := by
      intro r hr hmem
      rw [List.mem_singleton] at hmem
      exact hnew (hmem ▸ List.mem_map_of_mem hr)
    have hsame := Registry.resolutions_clear (r := s.registry) hothers
    have hoccupied' : ∀ r ∈ reports,
        (s.registry.clear [report.token]).occupies r.token = true := by
      intro r hr
      rw [Registry.occupies_clear, hrest r hr]
      simp [hothers r hr]
    have hdisjoint' := hdisjoint.clear [report.token]
    rcases (Bool.or_eq_true _ _).mp ht with hpending | hretired
    · obtain ⟨p, hp, hstep⟩ := Screen.step_dispatch_pending hdisjoint hpending next
      let x : Resolution := ⟨p.event, report.stamp?⟩
      have hx : s.registry.resolutions (report :: reports) =
          x :: s.registry.resolutions reports := by
        rw [Registry.resolutions, List.filterMap_cons, hp]
        rfl
      rw [hx] at h habort ⊢
      refine .step ?_
      rw [hstep]
      simp only [Aftermath.after, List.append_assoc]
      refine deliver (s := s.setRegistry (s.registry.clear [report.token])) habort ?_
      rw [← hsame]
      refine ih hdisjoint' hnodup hoccupied' ?_ ?_
      · show Abortable (x.apply s.swaps).swaps
          (((s.registry.clear [report.token]).resolutions reports).map Resolution.event)
        rw [hsame]
        exact habort.apply
      · show Follow.Unattended
          ((s.setRegistry (s.registry.clear ((report :: reports).map Report.token))).settled
            (.after (x.apply s.swaps).swaps
              ((s.registry.clear [report.token]).resolutions reports))) _ _ _ _ _
        rw [hsame]
        exact h
    · obtain ⟨hpending, hstep⟩ := Screen.step_dispatch_retired hdisjoint hretired next
      have hx : s.registry.resolutions (report :: reports) = s.registry.resolutions reports := by
        rw [Registry.resolutions, List.filterMap_cons, hpending]
        rfl
      rw [hx, ← hsame] at h habort ⊢
      refine .step ?_
      rw [hstep]
      exact ih hdisjoint' hnodup hoccupied' habort h

end Follow.Unattended

namespace Screen

variable {s : Screen} {reports : List Report}

/-- A drain that reads reports on tokens in flight ends well, and the tokens are no longer in flight
then. -/
theorem unattended_drain_occupied (hdisjoint : s.registry.Disjoint)
    (hnodup : (reports.map Report.token).Nodup)
    (hoccupied : ∀ report ∈ reports, s.registry.occupies report.token = true)
    (habort : Abortable s.swaps ((s.registry.resolutions reports).map Resolution.event)) :
    ∃ u ns fbs s', Session.answer ⟨s, [.reading none], none⟩ (.read (.ok (some reports))) = some u ∧
      u.Unattended ns fbs s' (.drained (.ok (.handled reports.length))) ∧
      s'.registry = s.registry.clear (reports.map Report.token) := by
  let o : Outcome := .drained (.ok (.handled reports.length))
  have hfinish (s' : Screen) : Follow.Unattended s' (.inl (.finish o)) [] [] s' o :=
    .step .finished
  have hend := Follow.Unattended.dispatch_occupied hdisjoint hnodup hoccupied habort (hfinish _)
  exact ⟨_, _, _, _, rfl, hend.turn _, rfl⟩

end Screen

end PageFlip
