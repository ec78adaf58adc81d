import Mathlib.Data.List.Basic
import Mathlib.Data.List.Induction
import Mathlib.Tactic.SplitIfs
import PageFlip.Session.Operation

/-!
# What the history of a barrier says

A history lists what happened to a barrier, in the order in which it happened: holds, marks,
resolved flips, releases, and besides what was put into the slot of its swap, when the handler
returned and when the device answered. This module reads off such a list the holds that remain
(`Touch.balance`), the stamp to report (`Touch.shownAt`), whether the swap took effect
(`Touch.tookEffect`) and which releases were too many (`Touch.repeated`). A barrier keeps no list
but a `Tally`. `Touch.tally` is the tally of a history, and each use of a barrier leads from the
tally of the history before to that of the history after.
-/

namespace PageFlip

/-- What may happen to a barrier, to the slot of its swap and to the operation that brings its
outcome. -/
inductive Touch
  | hold
  | mark
  /-- A flip of the swap is completed, or without a stamp aborted. -/
  | resolve (reference : Bool) (stamp : Option Stamp)
  | release
  /-- Something puts a framebuffer into the slot. -/
  | assign (fb : Framebuffer)
  /-- The handler that was told returns. -/
  | returned
  /-- The device answers the request to give up a framebuffer. -/
  | destroyed (result : Except DeviceError Unit)

namespace Touch

def isHold : Touch → Bool
  | hold => true
  | _ => false

def isMark : Touch → Bool
  | mark => true
  | _ => false

def isResolve : Touch → Bool
  | resolve _ _ => true
  | _ => false

def isRelease : Touch → Bool
  | release => true
  | _ => false

def isReturned : Touch → Bool
  | returned => true
  | _ => false

def isDestroyed : Touch → Bool
  | destroyed _ => true
  | _ => false

/-- Whether an unfinished operation waits for this. All else can happen at any time. -/
def isAnswer (x : Touch) : Bool := x.isReturned || x.isDestroyed

/-- The stamp of a completed flip. -/
def stamp? : Touch → Option Stamp
  | resolve _ stamp => stamp
  | _ => none

/-- The stamp of a completed reference flip. -/
def referenceStamp? : Touch → Option Stamp
  | resolve true stamp => stamp
  | _ => none

/-- The stamp of a completed flip that is no reference flip. -/
def otherStamp? : Touch → Option Stamp
  | resolve false stamp => stamp
  | _ => none

/-- The framebuffer that is put into the slot. -/
def written? : Touch → Option Framebuffer
  | assign fb => some fb
  | _ => none

/-- The rule that is broken if this is done to a barrier with an outcome. -/
def refusal? : Touch → Option Violation
  | hold => some .heldAfterOutcome
  | resolve _ _ | release => some .resolvedAfterOutcome
  | _ => none

/-- The holds that remain after a history: the submitter's, one more for each that was added and
one less for each resolved flip. However often the submitter releases its hold, it had only one. -/
def balance (h : List Touch) : Int :=
  1 + h.countP isHold - h.countP isResolve - if h.any isRelease then 1 else 0

/-- A history at no time of which no hold remained. -/
def Open (h : List Touch) : Prop := ∀ p, p <+: h → balance p ≠ 0

/-- A history with whose last touch, and not before, no hold remains. -/
structure Closing (h : List Touch) : Prop where
  balance_eq : balance h = 0
  first : ∀ p, p <+: h → p ≠ h → balance p ≠ 0

/-- When the swap was shown: with the last reference flip that was completed, or if there is none
with the first flip that was. -/
def shownAt (h : List Touch) : Option Stamp :=
  (h.filterMap referenceStamp?).getLast?.or (h.filterMap stamp?).head?

/-- Whether a flip was completed, or accepted by a pipe. -/
def tookEffect (h : List Touch) : Bool := h.any fun x => x.stamp?.isSome || x.isMark

/-- What is in a slot after a history in which no handler returns. -/
def written (fb : Framebuffer) (h : List Touch) : Framebuffer :=
  (h.filterMap written?).getLast?.getD fb

/-- What a touch makes of the framebuffer in the slot once the swap has its outcome. When the
handler returns the displaced framebuffer is put back, unless the swap took effect or the slot
holds a third one. -/
def put (newFb oldFb : Framebuffer) (effect : Bool) (fb : Framebuffer) : Touch → Framebuffer
  | assign fb' => fb'
  | returned => if effect then fb else if fb = newFb then oldFb else fb
  | _ => fb

/-- The refusals while holds remain: one for every release but the first. -/
def repeated (h : List Touch) : List Violation :=
  List.replicate (h.countP isRelease - 1) .releasedTwice

variable {h : List Touch} {x : Touch}

/-! ## The balance -/

/-- A hold adds one. -/
theorem balance_hold (h : List Touch) : balance (h ++ [hold]) = balance h + 1 := by
  simp only [balance, List.countP_append, List.countP_singleton, List.any_append, List.any_cons,
    List.any_nil, isHold, isResolve, isRelease, Bool.or_false, Bool.false_eq_true, if_true,
    if_false]
  omega

/-- A flip that is resolved takes one. -/
theorem balance_resolve (h : List Touch) (reference : Bool) (stamp : Option Stamp) :
    balance (h ++ [resolve reference stamp]) = balance h - 1 := by
  simp only [balance, List.countP_append, List.countP_singleton, List.any_append, List.any_cons,
    List.any_nil, isHold, isResolve, isRelease, Bool.or_false, Bool.false_eq_true, if_true,
    if_false]
  omega

/-- The first release takes one, and any other none. -/
theorem balance_release (h : List Touch) :
    balance (h ++ [release]) = balance h - if h.any isRelease then 0 else 1 := by
  simp only [balance, List.countP_append, List.countP_singleton, List.any_append, List.any_cons,
    List.any_nil, isHold, isResolve, isRelease, Bool.or_false, Bool.or_true]
  split_ifs <;> omega

/-- Nothing else makes a difference. -/
theorem balance_of_neutral (hhold : x.isHold = false) (hresolve : x.isResolve = false)
    (hrelease : x.isRelease = false) (h : List Touch) : balance (h ++ [x]) = balance h := by
  simp [balance, hhold, hresolve, hrelease]

/-- No touch takes away more than one hold. -/
theorem balance_concat_ge (h : List Touch) (x : Touch) : balance h - 1 ≤ balance (h ++ [x]) := by
  cases x with
  | hold => rw [balance_hold]; omega
  | resolve reference stamp => exact Int.le_of_eq (balance_resolve h reference stamp).symm
  | release => rw [balance_release]; split_ifs <;> omega
  | _ => rw [balance_of_neutral rfl rfl rfl]; omega

/-- At first the submitter's hold remains. -/
theorem Open.nil : Open [] := by
  intro p hp
  rw [List.prefix_nil.1 hp]
  decide

/-- A history stays open while holds remain. -/
theorem Open.concat (hopen : Open h) (hne : balance (h ++ [x]) ≠ 0) : Open (h ++ [x]) := by
  intro p hp
  obtain rfl | hp := List.prefix_concat_iff.1 hp
  · exact hne
  · exact hopen p hp

/-- With the last hold an open history closes. -/
theorem Open.closing (hopen : Open h) (hzero : balance (h ++ [x]) = 0) : Closing (h ++ [x]) := by
  refine ⟨hzero, fun p hp hne => ?_⟩
  obtain rfl | hp := List.prefix_concat_iff.1 hp
  · exact absurd rfl hne
  · exact hopen p hp

/-- In an open history holds remain. -/
theorem Open.balance_pos (hopen : Open h) : 0 < balance h := by
  -- The balance begins with one and falls by steps of one, so it cannot have passed by zero.
  induction h using List.reverseRecOn with
  | nil => decide
  | append_singleton h x ih =>
    have hbefore := ih fun p hp => hopen p (hp.trans (List.prefix_append h [x]))
    have hge := balance_concat_ge h x
    have hne := hopen (h ++ [x]) List.prefix_rfl
    omega

/-! ## The refusals -/

/-- Only a release is refused. -/
theorem repeated_of_not_release (hx : x.isRelease = false) (h : List Touch) :
    repeated (h ++ [x]) = repeated h := by
  simp [repeated, hx]

/-- The first release is not refused. -/
theorem repeated_release (hfirst : h.any isRelease = false) :
    repeated (h ++ [release]) = repeated h := by
  have hcount : h.countP isRelease = 0 :=
    List.countP_eq_zero.2 fun x hx => List.any_eq_false.1 hfirst x hx
  simp [repeated, isRelease, hcount]

/-- Any other release is refused. -/
theorem repeated_release_again (hagain : h.any isRelease = true) :
    repeated (h ++ [release]) = repeated h ++ [.releasedTwice] := by
  have hbefore : 0 < h.countP isRelease := List.countP_pos_iff.2 (List.any_eq_true.1 hagain)
  have hafter : (h ++ [release]).countP isRelease = h.countP isRelease + 1 :=
    List.countP_append
  have hcount : (h ++ [release]).countP isRelease - 1 = h.countP isRelease - 1 + 1 := by omega
  rw [repeated, hcount, List.replicate_succ']
  rfl

/-- Only what is put into the slot changes it. -/
theorem written_concat (fb : Framebuffer) (h : List Touch) (hx : x.written? = none) :
    written fb (h ++ [x]) = written fb h := by
  simp [written, hx]

/-! ## The tally -/

/-- The tally that a history leaves. -/
def tally (h : List Touch) : Tally where
  holds := (balance h).toNat
  localHold := !h.any isRelease
  submitted := h.any isMark
  referenceStamp := (h.filterMap referenceStamp?).getLast?
  firstStamp := (h.filterMap otherStamp?).head?

/-- The outcome that a history brings. -/
def verdict (h : List Touch) : Verdict := ⟨shownAt h, h.any isMark⟩

/-- A stamp is that of a reference flip or of another one. -/
theorem stamp?_eq (x : Touch) : x.stamp? = x.referenceStamp?.or x.otherStamp? := by
  cases x with
  | resolve reference stamp => cases reference <;> simp [stamp?, referenceStamp?, otherStamp?]
  | _ => rfl

/-- A tally keeps all that the outcome takes from the history. -/
theorem verdict_tally (h : List Touch) : (tally h).verdict = verdict h := by
  unfold tally Tally.verdict verdict shownAt
  cases hr : (h.filterMap referenceStamp?).getLast? with
  | some stamp => rfl
  | none =>
    -- Without a completed reference flip the first completed flip is one of the others.
    have hnone : ∀ x ∈ h, referenceStamp? x = none :=
      List.filterMap_eq_nil_iff.1 (List.getLast?_eq_none_iff.1 hr)
    have hsame : h.filterMap otherStamp? = h.filterMap stamp? :=
      List.filterMap_congr fun x hx => by rw [stamp?_eq, hnone x hx, Option.none_or]
    rw [hsame]

/-- A swap was shown if any of its flips was completed. -/
theorem isSome_shownAt (h : List Touch) : (shownAt h).isSome = h.any fun x => x.stamp?.isSome := by
  unfold shownAt
  cases hs : h.filterMap stamp? with
  | nil =>
    have hnone : ∀ x ∈ h, stamp? x = none := List.filterMap_eq_nil_iff.1 hs
    have hreference : h.filterMap referenceStamp? = [] :=
      List.filterMap_eq_nil_iff.2 fun x hx =>
        (Option.or_eq_none_iff.1 ((stamp?_eq x).symm.trans (hnone x hx))).1
    rw [hreference]
    exact (List.any_eq_false.2 fun x hx => by simp [hnone x hx]).symm
  | cons stamp stamps =>
    have hmem : stamp ∈ h.filterMap stamp? := hs ▸ List.mem_cons_self
    obtain ⟨x, hx, hstamp⟩ := List.mem_filterMap.1 hmem
    have hany : (h.any fun x => x.stamp?.isSome) = true :=
      List.any_eq_true.2 ⟨x, hx, by rw [hstamp]; rfl⟩
    rw [hany, List.head?_cons, Option.isSome_or, Option.isSome_some, Bool.or_true]

/-- Whether a swap took effect is part of its outcome. -/
theorem tookEffect_verdict (h : List Touch) : (verdict h).tookEffect = tookEffect h := by
  unfold verdict Verdict.tookEffect tookEffect
  rw [isSome_shownAt]
  -- Both sides ask the same of each touch, in another order.
  induction h with
  | nil => rfl
  | cons x h ih => simp only [List.any_cons, ← ih]; ac_rfl

/-- What a further touch does to the tally. -/
theorem tally_concat (h : List Touch) (x : Touch) :
    tally (h ++ [x]) =
      { holds := (balance (h ++ [x])).toNat
        localHold := (tally h).localHold && !x.isRelease
        submitted := (tally h).submitted || x.isMark
        referenceStamp := x.referenceStamp?.or (tally h).referenceStamp
        firstStamp := (tally h).firstStamp.or x.otherStamp? } := by
  simp [tally]

/-- A hold is counted. -/
theorem tally_hold (hpos : 0 < balance h) :
    tally (h ++ [hold]) = { tally h with holds := (tally h).holds + 1 } := by
  have hholds : (balance h + 1).toNat = (balance h).toNat + 1 := by omega
  rw [tally_concat, balance_hold, hholds]
  simp [isRelease, isMark, referenceStamp?, otherStamp?, tally]

/-- A mark is noted. -/
theorem tally_mark (h : List Touch) :
    tally (h ++ [mark]) = { tally h with submitted := true } := by
  rw [tally_concat, balance_of_neutral rfl rfl rfl]
  simp [isRelease, isMark, referenceStamp?, otherStamp?, tally]

/-- The slot is nothing to the tally. -/
theorem tally_assign (h : List Touch) (fb : Framebuffer) : tally (h ++ [assign fb]) = tally h := by
  rw [tally_concat, balance_of_neutral rfl rfl rfl]
  simp [isRelease, isMark, referenceStamp?, otherStamp?, tally]

/-- A flip that is resolved is noted, and its hold goes. -/
theorem tally_resolve (h : List Touch) (reference : Bool) (stamp : Option Stamp) :
    tally (h ++ [resolve reference stamp]) =
      { (tally h).record reference stamp with holds := (tally h).holds - 1 } := by
  have hholds : (balance h - 1).toNat = (tally h).holds - 1 := by simp only [tally]; omega
  rw [tally_concat, balance_resolve, hholds]
  cases stamp with
  | none => cases reference <;> simp [isRelease, isMark, referenceStamp?, otherStamp?, Tally.record]
  | some stamp =>
    cases reference with
    | true => simp [isRelease, isMark, referenceStamp?, otherStamp?, Tally.record]
    | false =>
      -- Only the first of the other stamps is kept.
      cases hs : (tally h).firstStamp <;>
        simp [isRelease, isMark, referenceStamp?, otherStamp?, Tally.record, hs]

/-- The first release gives up a hold. -/
theorem tally_release (hfirst : h.any isRelease = false) :
    tally (h ++ [release]) =
      { tally h with localHold := false, holds := (tally h).holds - 1 } := by
  have hholds : (balance h - 1).toNat = (tally h).holds - 1 := by simp only [tally]; omega
  rw [tally_concat, balance_release, hfirst, if_neg Bool.false_ne_true, hholds]
  simp [isRelease, isMark, referenceStamp?, otherStamp?]

/-- A further one does not. -/
theorem tally_release_again (hagain : h.any isRelease = true) :
    tally (h ++ [release]) = tally h := by
  rw [tally_concat, balance_release, hagain, if_pos rfl, Int.sub_zero]
  simp [isRelease, isMark, referenceStamp?, otherStamp?, tally, hagain]

end Touch

end PageFlip
