import PageFlip.Proofs.Agenda
import PageFlip.Proofs.Registry

/-!
# Operations that are spared late reports

A report on a retired token comes late and is dropped. Here two operations do the same, but the
second one is spared some late reports (`Task.Spares`). Their screens are the same, but that the
tokens of late reports which the first operation has dropped are retired on the second screen only
(`Lags`).

The first operation drops a late report alone, and nothing but a line for the log comes of it. In
any other step the two operations match (`Progress.Matches`): what they do does not depend on
retired tokens. So they come to rest alike (`Task.Spares.run`).
-/

namespace PageFlip

/-- The screen with other tokens retired. -/
def Screen.withRetired (s : Screen) (retired : Table Token Crtc) : Screen :=
  s.setRegistry { s.registry with retired := retired }

/-- Other retired tokens are nothing to the swaps. -/
@[simp] theorem Screen.swaps_withRetired (s : Screen) (retired : Table Token Crtc) :
    (s.withRetired retired).swaps = s.swaps := rfl

/-- The retired tokens are the other ones. -/
@[simp] theorem Screen.retired_withRetired (s : Screen) (retired : Table Token Crtc) :
    (s.withRetired retired).registry.retired = retired := rfl

/-- Other retired tokens are nothing to the pending ones. -/
@[simp] theorem Screen.pending_withRetired (s : Screen) (retired : Table Token Crtc) :
    (s.withRetired retired).registry.pending = s.registry.pending := rfl

/-- The tokens of the reports that are left to dispatch. -/
def Agenda.coming (g : Agenda) : List Token := g.reports.map Report.token

/-- Whether the line is about a late report on one of some tokens. -/
def Notice.isLate (late : List Token) : Notice → Bool
  | lateEvent t => late.contains t
  | _ => false

/-- Only a line on a late report is on one. -/
theorem Notice.isLate_eq_false {late : List Token} {notice : Notice}
    (h : ∀ t, notice ≠ .lateEvent t) : notice.isLate late = false := by
  cases notice with
  | lateEvent t => exact absurd rfl (h t)
  | _ => rfl

/-- Of some tokens that are retired in a registry, others retain only those whose reports are still
to come. -/
structure Lags (late coming : List Token) (retired : Table Token Crtc) (r : Registry Event) :
    Prop where
  agree : ∀ t, retired.find? t = if t ∈ late ∧ t ∉ coming then none else r.retired.find? t
  kept : ∀ t ∈ late, r.retired.find? t ≠ none
  apart : ∀ t ∈ late, r.pending.find? t = none

/-! ## Operations side by side -/

/-- Two tasks that do the same and return `o` and `o'` in the end, but the second one is spared the
reports on some tokens. -/
inductive Task.Spares (late : List Token) (o o' : Outcome) : Task → Task → Prop
  | finish : Spares late o o' (.finish o) (.finish o')
  | say {notice : Notice} {next next' : Task} (hnotice : ∀ t, notice ≠ .lateEvent t)
      (h : Spares late o o' next next') : Spares late o o' (.say notice next) (.say notice next')
  | dispatch {reports : List Report} {next next' : Task} (h : Spares late o o' next next') :
      Spares late o o' (.dispatch reports next)
        (.dispatch (reports.filter fun report => !late.contains report.token) next')
  | abort {events : List Event} {next next' : Task} (h : Spares late o o' next next') :
      Spares late o o' (.abort events next) (.abort events next')
  | reclaim {id : SwapId} {v : Verdict} {next next' : Task} (h : Spares late o o' next next') :
      Spares late o o' (.reclaim id v next) (.reclaim id v next')

/-- Two operations that wait for the same, of which the second one is spared some reports. -/
inductive Wait.Spares (late : List Token) (o o' : Outcome) : Wait → Wait → Prop
  | telling {news : News} {next next' : Task} (h : next.Spares late o o' next') :
      Spares late o o' (.telling news next) (.telling news next')
  | destroying {fb : Framebuffer} {next next' : Task} (h : next.Spares late o o' next') :
      Spares late o o' (.destroying fb next) (.destroying fb next')

/-- Two operations that came to rest alike, of which the second one is spared some reports. -/
inductive Rest.Spares (late : List Token) (o o' : Outcome) : Rest → Rest → Prop
  | waiting {w w' : Wait} (h : w.Spares late o o' w') : Spares late o o' (.waiting w) (.waiting w')
  | finished : Spares late o o' (.finished o) (.finished o')
  | violated (v : Violation) : Spares late o o' (.violated v) (.violated v)

/-- Two operations have come to rest alike, where other operations lie below that have reports on
the tokens `below` left to dispatch. -/
structure Progress.Spares (late : List Token) (o o' : Outcome) (below : List Token)
    (p p' : Progress Rest) : Prop where
  next : p.next.Spares late o o' p'.next
  screen : p.screen = p'.screen.withRetired p.screen.registry.retired
  notices : p'.notices = p.notices.filter fun notice => !notice.isLate late
  lags : ∃ coming, Lags late (coming ++ below) p.screen.registry.retired p'.screen.registry ∧
    (coming ++ below).Nodup ∧ ((∀ v, p.next ≠ .violated v) → coming = p.next.agenda.coming)

namespace Lags

variable {late coming : List Token} {retired : Table Token Crtc} {r r' : Registry Event}
  {t : Token} {crtc : Crtc}

/-- Tokens that are not late make no difference. -/
theorem drop (h : Lags late (t :: coming) retired r) (ht : t ∉ late) :
    Lags late coming retired r where
  agree := by
    intro u
    rw [h.agree]
    refine if_congr (and_congr_right fun hu => ?_) rfl rfl
    rw [List.mem_cons, not_or, and_iff_right]
    rintro rfl
    exact ht hu
  kept := h.kept
  apart := h.apart

/-- A token whose report is still to come is retired in both or in neither. -/
theorem find?_of_coming (h : Lags late coming retired r) (ht : t ∈ coming) :
    retired.find? t = r.retired.find? t := by
  rw [h.agree, if_neg fun hlate => hlate.2 ht]

/-- A late report is dropped. -/
theorem forget (h : Lags late (t :: coming) retired r) (hlate : t ∈ late) (hnew : t ∉ coming) :
    Lags late coming (retired.erase t) r where
  agree := by
    intro u
    rw [Table.find?_erase, h.agree]
    by_cases hu : u = t
    · rw [if_pos hu, hu, if_pos ⟨hlate, hnew⟩]
    · rw [if_neg hu]
      refine if_congr (and_congr_right fun _ => ?_) rfl rfl
      rw [List.mem_cons, not_or, and_iff_right hu]
  kept := h.kept
  apart := h.apart

/-- A report that is late for both operations is dropped. -/
theorem forget_both (h : Lags late (t :: coming) retired r) (hlate : t ∉ late) :
    Lags late coming (retired.erase t) { r with retired := r.retired.erase t } where
  agree := by
    intro u
    rw [Table.find?_erase, Table.find?_erase, (h.drop hlate).agree]
    by_cases hu : u = t
    · rw [if_pos hu, if_pos hu, ite_self]
    · rw [if_neg hu, if_neg hu]
  kept := by
    intro u hu
    rw [Table.find?_erase, if_neg]
    · exact h.kept u hu
    · rintro rfl
      exact hlate hu
  apart := h.apart

/-- No token becomes pending or is retired or forgotten. -/
theorem mono (h : Lags late coming retired r) (hretired : r'.retired = r.retired)
    (hpending : ∀ t, r.pending.find? t = none → r'.pending.find? t = none) :
    Lags late coming retired r' where
  agree := by
    rw [hretired]
    exact h.agree
  kept := by
    rw [hretired]
    exact h.kept
  apart := fun t ht => hpending t (h.apart t ht)

/-- The tokens of a controller are retired, and the late ones are not among them. -/
theorem retirePipe (h : Lags late coming retired r) (crtc : Crtc) :
    Lags late coming (({ r with retired := retired } : Registry Event).retirePipe crtc).2.retired
      (r.retirePipe crtc).2 where
  agree := by
    intro t
    rw [Registry.retired_retirePipe, Registry.retired_retirePipe, h.agree]
    by_cases ht : ∃ p, r.pending.find? t = some p ∧ p.crtc = crtc
    · rw [if_pos ht, if_pos ht, if_neg]
      rintro ⟨hlate, -⟩
      obtain ⟨p, hp, -⟩ := ht
      cases (h.apart t hlate).symm.trans hp
    · rw [if_neg ht, if_neg ht]
  kept := by
    intro t ht
    rw [Registry.retired_retirePipe]
    split_ifs
    · exact Option.some_ne_none _
    · exact h.kept t ht
  apart := by
    intro t ht
    rw [Registry.pending_retirePipe, h.apart t ht, ite_self]

end Lags

/-! ## Steps that match -/

/-- Two parts of operations go on with the next tasks in the same way. -/
inductive Follow.Matches (next next' : Task) : Follow → Follow → Prop
  | work : Matches next next' (.inl next) (.inl next')
  | told (news : News) (id : SwapId) (v : Verdict) :
      Matches next next' (.inr (.waiting (.telling news (.reclaim id v next))))
        (.inr (.waiting (.telling news (.reclaim id v next'))))
  | toldEvent (news : News) :
      Matches next next' (.inr (.waiting (.telling news next)))
        (.inr (.waiting (.telling news next')))
  | destroyed (fb : Framebuffer) :
      Matches next next' (.inr (.waiting (.destroying fb next)))
        (.inr (.waiting (.destroying fb next')))
  | violated (v : Violation) : Matches next next' (.inr (.violated v)) (.inr (.violated v))

/-- Two parts of operations match: all is the same but for the retired tokens, of which there are
`retired` in the first operation and those of `r` in the second. -/
structure Progress.Matches (retired : Table Token Crtc) (r : Registry Event) (next next' : Task)
    (p p' : Progress Follow) : Prop where
  follow : p.next.Matches next next' p'.next
  screen : p.screen = p'.screen.withRetired retired
  notices : p.notices = [] ∧ p'.notices = []
  kept : p'.screen.registry.retired = r.retired
  pending : ∀ t, r.pending.find? t = none → p'.screen.registry.pending.find? t = none

namespace Screen

variable {s : Screen} {retired : Table Token Crtc} {next next' : Task}

/-- A hold is dropped alike. -/
theorem matches_settle {id : SwapId} {result : Except Violation (Barrier × Option Verdict)}
    {client : Client} :
    Progress.Matches retired s.registry next next'
      ((s.withRetired retired).settle id result client next) (s.settle id result client next') := by
  rcases result with v | ⟨b, _ | v⟩
  · exact ⟨.violated v, rfl, ⟨rfl, rfl⟩, rfl, fun _ ht => ht⟩
  · exact ⟨.work, rfl, ⟨rfl, rfl⟩, rfl, fun _ ht => ht⟩
  · exact ⟨.told _ _ _, rfl, ⟨rfl, rfl⟩, rfl, fun _ ht => ht⟩

/-- A flip is resolved alike. -/
theorem matches_settleFlip {f : Flip} {stamp : Option Stamp} :
    Progress.Matches retired s.registry next next'
      ((s.withRetired retired).settleFlip f stamp next) (s.settleFlip f stamp next') := by
  simp only [settleFlip, swaps_withRetired]
  cases s.swaps[f.swap]? with
  | none => exact ⟨.work, rfl, ⟨rfl, rfl⟩, rfl, fun _ ht => ht⟩
  | some w => exact matches_settle

/-- An event is resolved alike. -/
theorem matches_deliver {event : Event} {stamp : Option Stamp} :
    Progress.Matches retired s.registry next next'
      ((s.withRetired retired).deliver event stamp next) (s.deliver event stamp next') := by
  cases event with
  | flip f => exact matches_settleFlip
  | plain client => exact ⟨.toldEvent _, rfl, ⟨rfl, rfl⟩, rfl, fun _ ht => ht⟩

/-- The event of a token is handed out and resolved alike. -/
theorem matches_resolve {token : Token} {stamp : Option Stamp} :
    Progress.Matches retired s.registry next next'
      ((s.withRetired retired).resolve token stamp next) (s.resolve token stamp next') := by
  simp only [resolve, Registry.resolve, pending_withRetired]
  cases s.registry.pending.find? token with
  | none => exact ⟨.violated _, rfl, ⟨rfl, rfl⟩, rfl, fun _ ht => ht⟩
  | some p =>
    let r : Registry Event := { s.registry with pending := s.registry.pending.erase token }
    have hdeliver : Progress.Matches retired (s.setRegistry r).registry next next'
        (((s.setRegistry r).withRetired retired).deliver p.event stamp next)
        ((s.setRegistry r).deliver p.event stamp next') := matches_deliver
    refine ⟨hdeliver.follow, hdeliver.screen, hdeliver.notices, hdeliver.kept, fun t ht => ?_⟩
    refine hdeliver.pending t ?_
    show (s.registry.pending.erase token).find? t = none
    rw [Table.find?_erase, ht, ite_self]

/-- What a swap leaves over is given up alike. -/
theorem matches_reclaim {id : SwapId} {verdict : Verdict} :
    Progress.Matches retired s.registry next next'
      ((s.withRetired retired).reclaim id verdict next) (s.reclaim id verdict next') := by
  simp only [reclaim, swaps_withRetired]
  cases s.swaps[id]? with
  | none => exact ⟨.work, rfl, ⟨rfl, rfl⟩, rfl, fun _ ht => ht⟩
  | some w =>
    -- Both slots hold the same, so both give up the same framebuffer or none.
    let fb := (w.barrier.reclaim verdict (s.held w.slot)).2
    have hheld : (w.barrier.reclaim verdict ((s.withRetired retired).held w.slot)).2 = fb := rfl
    dsimp only
    by_cases hnone : fb.isNone = true
    · rw [if_pos (hheld ▸ hnone), if_pos hnone]
      exact ⟨.work, rfl, ⟨rfl, rfl⟩, rfl, fun _ ht => ht⟩
    · rw [if_neg (hheld ▸ hnone), if_neg hnone]
      exact ⟨.destroyed _, rfl, ⟨rfl, rfl⟩, rfl, fun _ ht => ht⟩

end Screen

namespace Screen

variable {s : Screen} {report : Report} {reports : List Report} {next : Task}

/-- Of a late report only the log hears. -/
theorem step_dispatch_late (h : s.registry.retired.find? report.token ≠ none) :
    s.step (.dispatch (report :: reports) next) =
      (s.withRetired (s.registry.retired.erase report.token)).work [.lateEvent report.token]
        (.dispatch reports next) := by
  have hretired : s.registry.retired.contains report.token = true := by
    rwa [Table.contains_eq_isSome_find?, Option.isSome_iff_ne_none]
  show s.dispatch report _ = _
  simp only [dispatch, Registry.forget?, hretired, if_true]
  rfl

/-- A report that is not late resolves the event of its token. -/
theorem step_dispatch_resolve (h : s.registry.retired.find? report.token = none) :
    s.step (.dispatch (report :: reports) next) =
      s.resolve report.token report.stamp? (.dispatch reports next) := by
  have hforget := Registry.forget?_eq_none_iff.2 h
  show s.dispatch report _ = _
  simp only [dispatch, hforget]

end Screen

/-! ## Runs -/

variable {late below coming : List Token} {o o' : Outcome} {t t' next next' : Task}

/-- A line that both operations write is not about a report that one of them is spared. -/
theorem Progress.Spares.after {p p' : Progress Rest} (h : p.Spares late o o' below p')
    {notices : List Notice} (hnotices : ∀ notice ∈ notices, notice.isLate late = false) :
    (p.after notices).Spares late o o' below (p'.after notices) where
  next := h.next
  screen := h.screen
  notices := by
    have hall : (notices.filter fun notice => !notice.isLate late) = notices :=
      List.filter_eq_self.2 fun notice hnotice => by rw [hnotices notice hnotice]; rfl
    show notices ++ p'.notices = (notices ++ p.notices).filter _
    rw [List.filter_append, hall, h.notices]
  lags := h.lags

/-- The first operation alone writes a line about a late report. -/
theorem Progress.Spares.after_late {p p' : Progress Rest} (h : p.Spares late o o' below p')
    {t : Token} (ht : t ∈ late) : (p.after [.lateEvent t]).Spares late o o' below p' where
  next := h.next
  screen := h.screen
  notices := by
    have hlate : (Notice.lateEvent t).isLate late = true := List.contains_iff_mem.2 ht
    show p'.notices = (.lateEvent t :: p.notices).filter _
    rw [List.filter_cons, hlate, h.notices]
    rfl
  lags := h.lags

/-- The operations rest here, or they go on with the next tasks and come to rest alike. -/
theorem Progress.Matches.spares {retired : Table Token Crtc} {r : Registry Event}
    {p p' : Progress Follow} (hmatch : p.Matches retired r next next' p')
    (hnext : next.Spares late o o' next')
    (hlags : Lags late (next.agenda.coming ++ below) retired r)
    (hnodup : (next.agenda.coming ++ below).Nodup)
    (hrun : ∀ {s : Screen}, Lags late (next.agenda.coming ++ below) retired s.registry →
      ((s.withRetired retired).run next).Spares late o o' below (s.run next')) :
    (Screen.proceed p).Spares late o o' below (Screen.proceed p') := by
  obtain ⟨s, notices, f⟩ := p
  obtain ⟨s', notices', f'⟩ := p'
  obtain ⟨hfollow, rfl, ⟨rfl, rfl⟩, hkept, hpending⟩ := hmatch
  have hlags' := hlags.mono hkept hpending
  dsimp only at hfollow hlags'
  cases hfollow with
  | work => exact hrun hlags'
  | told news id v =>
    exact ⟨.waiting (.telling (.reclaim hnext)), rfl, rfl, _, hlags', hnodup, fun _ => rfl⟩
  | toldEvent news => exact ⟨.waiting (.telling hnext), rfl, rfl, _, hlags', hnodup, fun _ => rfl⟩
  | destroyed fb => exact ⟨.waiting (.destroying hnext), rfl, rfl, _, hlags', hnodup, fun _ => rfl⟩
  | violated v =>
    exact ⟨.violated v, rfl, rfl, _, hlags', hnodup, fun hv => absurd rfl (hv v)⟩

namespace Task.Spares

/-- Reports are dispatched: the late ones on some tokens by the first operation alone. -/
theorem run_dispatch (hnext : next.Spares late o o' next')
    (hrun : ∀ {s : Screen} {retired : Table Token Crtc},
      Lags late (next.agenda.coming ++ below) retired s.registry →
      (next.agenda.coming ++ below).Nodup →
      ((s.withRetired retired).run next).Spares late o o' below (s.run next'))
    {reports : List Report} {s : Screen} {retired : Table Token Crtc}
    (hlags : Lags late ((Task.dispatch reports next).agenda.coming ++ below) retired s.registry)
    (hnodup : ((Task.dispatch reports next).agenda.coming ++ below).Nodup) :
    ((s.withRetired retired).run (.dispatch reports next)).Spares late o o' below
      (s.run (.dispatch (reports.filter fun report => !late.contains report.token) next')) := by
  induction reports generalizing s retired with
  | nil =>
    rw [Screen.run_eq, List.filter_nil, Screen.run_eq]
    exact hrun hlags hnodup
  | cons report reports ih =>
    have hcoming : (Task.dispatch (report :: reports) next).agenda.coming ++ below =
        report.token :: ((Task.dispatch reports next).agenda.coming ++ below) := rfl
    rw [hcoming] at hlags hnodup
    obtain ⟨hnew, hnodup⟩ := List.nodup_cons.1 hnodup
    by_cases hlate : report.token ∈ late
    · -- The first operation drops the report, which the second one is spared.
      have hretired : retired.find? report.token ≠ none := by
        rw [hlags.find?_of_coming List.mem_cons_self]
        exact hlags.kept _ hlate
      have hspared : ((report :: reports).filter fun report => !late.contains report.token) =
          reports.filter fun report => !late.contains report.token :=
        List.filter_cons_of_neg (by simp [hlate])
      rw [Screen.run_eq, Screen.step_dispatch_late hretired, hspared]
      exact (ih (hlags.forget hlate hnew) hnodup).after_late hlate
    · have hspared : ((report :: reports).filter fun report => !late.contains report.token) =
          report :: reports.filter fun report => !late.contains report.token :=
        List.filter_cons_of_pos (by simp [hlate])
      have hsame := hlags.find?_of_coming List.mem_cons_self
      rw [hspared, Screen.run_eq, Screen.run_eq s]
      by_cases hretired : s.registry.retired.find? report.token = none
      · -- Both operations resolve the token.
        rw [Screen.step_dispatch_resolve hretired,
          Screen.step_dispatch_resolve (s := s.withRetired retired) (hsame.trans hretired)]
        exact Screen.matches_resolve.spares (.dispatch hnext) (hlags.drop hlate) hnodup
          fun hlags => ih hlags hnodup
      · -- Both drop the report.
        rw [Screen.step_dispatch_late hretired,
          Screen.step_dispatch_late (s := s.withRetired retired) (by rwa [← hsame] at hretired)]
        have hrest := ih (s := s.withRetired _) (hlags.forget_both hlate) hnodup
        refine hrest.after fun notice hnotice => ?_
        rw [List.mem_singleton.1 hnotice]
        simpa [Notice.isLate] using hlate

/-- Events are aborted by both operations. -/
theorem run_abort (hnext : next.Spares late o o' next')
    (hrun : ∀ {s : Screen} {retired : Table Token Crtc},
      Lags late (next.agenda.coming ++ below) retired s.registry →
      (next.agenda.coming ++ below).Nodup →
      ((s.withRetired retired).run next).Spares late o o' below (s.run next'))
    {events : List Event} {s : Screen} {retired : Table Token Crtc}
    (hlags : Lags late (next.agenda.coming ++ below) retired s.registry)
    (hnodup : (next.agenda.coming ++ below).Nodup) :
    ((s.withRetired retired).run (.abort events next)).Spares late o o' below
      (s.run (.abort events next')) := by
  induction events generalizing s retired with
  | nil =>
    rw [Screen.run_eq, Screen.run_eq]
    exact hrun hlags hnodup
  | cons event events ih =>
    rw [Screen.run_eq, Screen.run_eq]
    exact Screen.matches_deliver.spares (.abort hnext) hlags hnodup fun hlags => ih hlags

/-- Two operations of which the second one is spared some late reports come to rest alike. -/
theorem run (h : t.Spares late o o' t') {s : Screen} {retired : Table Token Crtc}
    (hlags : Lags late (t.agenda.coming ++ below) retired s.registry)
    (hnodup : (t.agenda.coming ++ below).Nodup) :
    ((s.withRetired retired).run t).Spares late o o' below (s.run t') := by
  induction h generalizing s retired with
  | finish =>
    rw [Screen.run_eq, Screen.run_eq]
    exact ⟨.finished, rfl, rfl, _, hlags, hnodup, fun _ => rfl⟩
  | say hnotice _ ih =>
    rw [Screen.run_eq, Screen.run_eq]
    refine (ih hlags hnodup).after fun notice hmem => ?_
    rw [List.mem_singleton.1 hmem]
    exact Notice.isLate_eq_false hnotice
  | dispatch hnext ih => exact run_dispatch hnext ih hlags hnodup
  | abort hnext ih => exact run_abort hnext ih hlags hnodup
  | reclaim hnext ih =>
    rw [Screen.run_eq, Screen.run_eq]
    exact Screen.matches_reclaim.spares hnext hlags hnodup fun hlags => ih hlags hnodup

end Task.Spares

end PageFlip
