import PageFlip.Display.Object
import PageFlip.Flip.Stamp
import PageFlip.Flip.Violation

/-!
# The barrier of a swap

A barrier counts the holds on one swap: one of the submitter and one for each flip that is
registered and not yet resolved. When the last hold goes, the swap has its outcome: it was shown,
at the stamp of its reference flip or else of its first completed flip, or it was aborted. From
then on the barrier refuses every use but a mark.
-/

namespace PageFlip

/-- What a barrier keeps while its swap has no outcome. -/
structure Tally where
  /-- The unresolved flips, and one for the submitter's hold. -/
  holds : Nat
  /-- Whether the submitter still has its hold. -/
  localHold : Bool
  /-- Whether a pipe has accepted a flip of the swap. -/
  submitted : Bool
  /-- The stamp of the reference flip completed last. -/
  referenceStamp : Option Stamp
  /-- The stamp of the other flip completed first. -/
  firstStamp : Option Stamp
deriving DecidableEq

/-- The outcome of a swap. -/
structure Verdict where
  /-- When the swap was shown; none if it was aborted. -/
  stamp : Option Stamp
  /-- Whether a pipe had accepted a flip of the swap. -/
  submitted : Bool
deriving DecidableEq

/-- The barrier of one swap. -/
structure Barrier where
  /-- The framebuffer that the swap brings up. -/
  newFb : Framebuffer
  /-- The framebuffer that it displaces. -/
  oldFb : Framebuffer
  /-- What is still to be counted; none once the swap has its outcome. -/
  tally : Option Tally
deriving DecidableEq

namespace Tally

/-- Only the submitter's hold. -/
def start : Tally := ⟨1, true, false, none, none⟩

/-- Notes the result of one flip: a reference flip's stamp replaces an earlier one, the stamp of
any other flip stays. -/
def record (t : Tally) (reference : Bool) : Option Stamp → Tally
  | none => t
  | some stamp =>
    if reference then { t with referenceStamp := some stamp }
    else if t.firstStamp.isNone then { t with firstStamp := some stamp }
    else t

/-- The outcome, should no further flip be resolved. -/
def verdict (t : Tally) : Verdict :=
  ⟨t.referenceStamp.or t.firstStamp, t.submitted⟩

/-- Nothing but a stamp is noted of a flip. -/
theorem record_eq (t : Tally) (reference : Bool) (stamp : Option Stamp) :
    t.record reference stamp =
      { t with
        referenceStamp := (t.record reference stamp).referenceStamp
        firstStamp := (t.record reference stamp).firstStamp } := by
  cases stamp with
  | none => rfl
  | some stamp =>
    simp only [record]
    split
    · rfl
    · split
      · rfl
      · rfl

/-- Noting a stamp takes no hold away. -/
@[simp] theorem holds_record (t : Tally) (reference : Bool) (stamp : Option Stamp) :
    (t.record reference stamp).holds = t.holds := by
  rw [record_eq]

/-- Noting a stamp leaves the submitter's hold alone. -/
@[simp] theorem localHold_record (t : Tally) (reference : Bool) (stamp : Option Stamp) :
    (t.record reference stamp).localHold = t.localHold := by
  rw [record_eq]

/-- A stamp says nothing of what was accepted. -/
@[simp] theorem submitted_record (t : Tally) (reference : Bool) (stamp : Option Stamp) :
    (t.record reference stamp).submitted = t.submitted := by
  rw [record_eq]

end Tally

namespace Verdict

/-- Whether the swap took effect on the hardware, so that the displaced framebuffer is no longer
needed rather than the new one. -/
def tookEffect (v : Verdict) : Bool := v.stamp.isSome || v.submitted

end Verdict

namespace Barrier

/-- A barrier that only the submitter holds. -/
def new (newFb oldFb : Framebuffer) : Barrier := ⟨newFb, oldFb, some .start⟩

/-- Whether the swap has its outcome. -/
def isFinal (b : Barrier) : Bool := b.tally.isNone

/-- The number of holds. -/
def outstanding (b : Barrier) : Nat := (b.tally.map Tally.holds).getD 0

/-- Adds the hold of a flip. -/
def hold (b : Barrier) : Except Violation Barrier :=
  match b.tally with
  | some t => .ok { b with tally := some { t with holds := t.holds + 1 } }
  | none => .error .heldAfterOutcome

/-- A new barrier has the hold of the submitter. -/
@[simp] theorem outstanding_new (newFb oldFb : Framebuffer) :
    (new newFb oldFb).outstanding = 1 := rfl

/-- A barrier with an outcome has no holds. -/
theorem outstanding_of_isFinal {b : Barrier} (h : b.isFinal = true) : b.outstanding = 0 := by
  simp only [isFinal, Option.isNone_iff_eq_none] at h
  simp [outstanding, h]

/-- Only a barrier without an outcome gets one more hold. -/
theorem of_hold_eq_ok {b c : Barrier} (h : b.hold = .ok c) :
    ∃ t, b.tally = some t ∧ c = { b with tally := some { t with holds := t.holds + 1 } } := by
  unfold hold at h
  split at h
  · rename_i t ht
    exact ⟨t, ht, (Except.ok.inj h).symm⟩
  · cases h

/-- Each hold counts. -/
theorem outstanding_of_hold {b c : Barrier} (h : b.hold = .ok c) :
    c.outstanding = b.outstanding + 1 := by
  obtain ⟨t, ht, rfl⟩ := of_hold_eq_ok h
  simp [outstanding, ht]

/-- Notes that a pipe accepted a flip of the swap. -/
def markSubmitted (b : Barrier) : Barrier :=
  { b with tally := b.tally.map fun t => { t with submitted := true } }

/-- Takes one hold away; with the last one the swap has its outcome. -/
def drop (b : Barrier) (t : Tally) : Barrier × Option Verdict :=
  if t.holds ≤ 1 then ({ b with tally := none }, some t.verdict)
  else ({ b with tally := some { t with holds := t.holds - 1 } }, none)

/-- The last hold brings the outcome. Any other one is only taken from the tally. -/
theorem of_drop_eq {b c : Barrier} {t : Tally} {v : Option Verdict} (h : b.drop t = (c, v)) :
    t.holds ≤ 1 ∧ c = { b with tally := none } ∧ v = some t.verdict ∨
      1 < t.holds ∧ c = { b with tally := some { t with holds := t.holds - 1 } } ∧ v = none := by
  unfold drop at h
  split at h
  · rename_i hlast
    cases h
    exact .inl ⟨hlast, rfl, rfl⟩
  · rename_i hmore
    cases h
    exact .inr ⟨Nat.lt_of_not_le hmore, rfl, rfl⟩

/-- That a flip was accepted changes no hold. -/
@[simp] theorem outstanding_markSubmitted (b : Barrier) :
    b.markSubmitted.outstanding = b.outstanding := by
  cases h : b.tally <;> simp [markSubmitted, outstanding, h]

/-- The outcome comes exactly with the last hold. -/
theorem isFinal_drop (b : Barrier) (t : Tally) :
    (b.drop t).1.isFinal = (b.drop t).2.isSome ∧
      (b.drop t).1.outstanding = t.holds - 1 := by
  unfold drop
  split
  · exact ⟨rfl, by simp [outstanding]; omega⟩
  · exact ⟨rfl, by simp [outstanding]⟩

/-- Resolves one flip; without a stamp it was aborted. -/
def resolve (b : Barrier) (reference : Bool) (stamp : Option Stamp) :
    Except Violation (Barrier × Option Verdict) :=
  match b.tally with
  | some t => .ok (b.drop (t.record reference stamp))
  | none => .error .resolvedAfterOutcome

/-- Gives up the submitter's hold. -/
def release (b : Barrier) : Except Violation (Barrier × Option Verdict) :=
  match b.tally with
  | some t => if t.localHold then .ok (b.drop { t with localHold := false })
    else .error .releasedTwice
  | none => .error .resolvedAfterOutcome

/-- A flip is resolved only before the outcome: its stamp is noted and its hold dropped. -/
theorem of_resolve_eq_ok {b : Barrier} {reference : Bool} {stamp : Option Stamp}
    {r : Barrier × Option Verdict} (h : b.resolve reference stamp = .ok r) :
    ∃ t, b.tally = some t ∧ b.drop (t.record reference stamp) = r := by
  unfold resolve at h
  split at h
  · rename_i t ht
    exact ⟨t, ht, Except.ok.inj h⟩
  · cases h

/-- The submitter gives up its hold only before the outcome, and only once. -/
theorem of_release_eq_ok {b : Barrier} {r : Barrier × Option Verdict} (h : b.release = .ok r) :
    ∃ t, b.tally = some t ∧ t.localHold = true ∧ b.drop { t with localHold := false } = r := by
  unfold release at h
  split at h
  · rename_i t ht
    split at h
    · rename_i hlocal
      exact ⟨t, ht, hlocal, Except.ok.inj h⟩
    · cases h
  · cases h

/-- What becomes of the framebuffers once the client knows the outcome, given what its slot holds
then: the new content of the slot and the framebuffer to give up. A swap that took effect gives up
the framebuffer it displaced. Any other gives up its own and puts the displaced one back, unless
the slot holds a third one by now. -/
def reclaim (b : Barrier) (v : Verdict) (held : Framebuffer) : Framebuffer × Framebuffer :=
  if v.tookEffect then (held, b.oldFb)
  else (if held = b.newFb then b.oldFb else held, b.newFb)

/-- The state of a barrier in words. -/
def describe (b : Barrier) : String :=
  match b.tally with
  | some t =>
    s!"FlipBarrier \x7b new_fb: {b.newFb.describe}, holds: {t.holds}, " ++
      s!"local_hold: {t.localHold}, old_fb: {b.oldFb.describe}, .. \x7d"
  | none => s!"FlipBarrier \x7b new_fb: {b.newFb.describe}, finalized: true, .. \x7d"

end Barrier

end PageFlip
