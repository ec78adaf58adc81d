import PageFlip.Proofs.Numbering

/-!
# Which runs break a rule

The hardware is said to accept a flip only after it has reported or dropped all earlier ones of the
controller, and so the library forgets the retired tokens of a controller when a flip is accepted.
A report that was made before may still be unread then, or read and not dispatched. What follows
from the two rules for the channel is shown here: with the rule above a run is broken exactly when
the library comes to a report whose token it has forgotten in this way
(`World.orderly_unbroken_iff`); a channel that also waits for its reports to be dispatched leaves
nothing to come to (`World.unbroken_of_clean`).
-/

namespace PageFlip

/-- If the channel waits for the reports on retired tokens, none is forgotten too early. -/
theorem forgotten_eq_nil_of_evolves {apart : Moment → Prop} {m m' : Moment}
    (h : m.ledger.forgotten = []) (he : Evolves .clean apart m m') : m'.ledger.forgotten = [] := by
  cases he with
  | @change s s' g g' l label hc hl =>
    cases label with
    | accepted f =>
      have hlate : (Moment.undispatched ⟨s, g, l⟩).filter (Moment.isRetiredOn ⟨s, g, l⟩ f.crtc) =
          [] := by
        rw [List.filter_eq_nil_iff]
        intro t ht
        have := List.all_eq_true.1 hl.1 t (List.mem_append_right _ ht)
        simpa using this
      simp only [Label.write, Ledger.accept, hlate, List.nil_append]
      exact h
    | reclaimed id v fb =>
      rw [Label.write_reclaimed]
      exact h
    | _ => exact h
  | report => exact h
  | lose => exact h

namespace World

variable {pipes : List Pipe} {slots : List Framebuffer} {config : Config} {moves : List Move}
  {w : World}

/-- A channel that waits for the reports on retired tokens has none of them forgotten. -/
theorem forgotten_eq_nil (hplay : (new pipes slots config).play .clean moves = some w) :
    w.ledger.forgotten = [] := by
  cases reached hplay with
  | sound hpath hs =>
    exact hpath.keeps (p := fun m => m.ledger.forgotten = [])
      (fun _ _ => forgotten_eq_nil_of_evolves) rfl
  | stray hpath _ hledger =>
    rw [← hledger]
    exact hpath.keeps (p := fun m => m.ledger.forgotten = [])
      (fun _ _ => forgotten_eq_nil_of_evolves) rfl

/-- If the channel waits for the reports on retired tokens, no report meets a token that is neither
pending nor retired. -/
theorem unbroken_of_clean (hplay : (new pipes slots config).play .clean moves = some w)
    (hqueued : moves.length + 2 < UInt32.size ∨
      ∀ u ∈ (new pipes slots config).visits .clean moves, u.moment.queued.Nodup) :
    w.session.violation = none := by
  have hapart : ∀ u ∈ (new pipes slots config).visits .clean moves, u.moment.Apart := by
    intro u hu
    rcases hqueued with hlength | hqueued
    · exact apart_of_length_lt hlength hu
    · obtain ⟨first, hfirst⟩ := exists_play_of_mem_visits hu
      refine ⟨hqueued u hu, fun t _ => ?_⟩
      rw [moment, forgotten_eq_nil hfirst]
      exact List.not_mem_nil
  have hreached := reached_of_play hplay hapart
  rw [hreached.violation_eq_none_iff Rules.clean_guarded (Moment.isTracked_new _ _ _),
    forgotten_eq_nil hplay]
  exact fun t ht => absurd ht List.not_mem_nil

/-- If the channel accepts a flip when all earlier ones of the controller are reported or dropped, a
run is broken exactly by the report on a token that was forgotten when a flip was accepted. -/
theorem orderly_unbroken_iff (hplay : (new pipes slots config).play .orderly moves = some w)
    (hapart : moves.length + 2 < UInt32.size ∨
      ∀ u ∈ (new pipes slots config).visits .orderly moves, u.moment.Apart) :
    (w.session.violation = none ↔ ∀ t ∈ w.ledger.forgotten, t ∈ w.moment.undispatched) ∧
      ∀ v, w.session.violation = some v →
        ∃ t ∈ w.ledger.forgotten, t ∉ w.moment.undispatched ∧ v = .notPending t := by
  have hreached := reached_of_play hplay fun u hu =>
    hapart.elim (fun hlength => apart_of_length_lt hlength hu) fun hapart => hapart u hu
  have hnew := Moment.isTracked_new pipes slots config
  exact ⟨hreached.violation_eq_none_iff Rules.orderly_guarded hnew,
    fun v hv => hreached.of_violation Rules.orderly_guarded hnew hv⟩

open Sample in
/-- A pipe is disabled and enabled while the report on its flip is unread, and the next flip is
accepted; then the report is read. -/
def lateReport : List Move :=
  [swap 0, brings 100, accepts, .report first, .call (.disable ⟨31⟩), returns, destroys,
    .call (.enable ⟨31⟩), swap 0, brings 101, accepts, .call .drain, reads first]

/-- The late report breaks the run, though the channel accepted the flip by the rule. -/
theorem lateReport_breaks :
    ∃ w, (new Sample.pipe Sample.slots .default).play .orderly lateReport = some w ∧
      lateReport.length + 2 < UInt32.size ∧
      w.session.violation = some (.notPending Sample.first) ∧
      ∃ t ∈ w.ledger.forgotten, t ∉ w.moment.undispatched := by
  have hlength : lateReport.length + 2 < UInt32.size := by decide
  have hforgotten {w : World} {v : Violation}
      (hplay : (new Sample.pipe Sample.slots .default).play .orderly lateReport = some w)
      (hv : w.session.violation = some v) :
      ∃ t ∈ w.ledger.forgotten, t ∉ w.moment.undispatched := by
    obtain ⟨t, ht, hgone, -⟩ := (orderly_unbroken_iff hplay (.inl hlength)).2 v hv
    exact ⟨t, ht, hgone⟩
  exact ⟨_, rfl, hlength, by decide, hforgotten rfl (v := .notPending Sample.first) (by decide)⟩

end World

end PageFlip
