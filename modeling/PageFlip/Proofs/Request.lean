import PageFlip.Session.Operation

/-!
# What a request asks for

A request for a swap says which pipes are meant, whether it must wait, and of which pipe the
completion is reported. Here this is said in terms of the pipes of the screen, without the positions
at which an operation looks them up: the pipe that is named (`Screen.named?`), the pipes that are
meant (`Screen.targeted`), and the slot, the flags and the reference of the swap. The lemmas below
say that a swap is prepared with just these.
-/

namespace PageFlip

namespace Screen

section Definitions

variable (s : Screen) (r : SwapRequest)

/-- The pipe that a request names, with its position: the first one with that number among the
vertical blanks, if there is one. -/
def named? : Option (Pipe × Nat) :=
  match r.targets with
  | .all => none
  | .single vblank => s.pipes.zipIdx.find? fun p => p.1.vblank == vblank

/-- The enabled pipes that a swap is meant for, with their positions: the one that is named, or all.
A request for a pipe that does not exist is meant for all. -/
def targeted : List (Pipe × Nat) :=
  s.pipes.zipIdx.filter fun p => p.1.enabled && (s.named? r).all (· == p)

/-- The slot of a swap: the pipes have the slots from 1 on, and a swap that names none of them has
the slot 0. -/
def slotFor : Slot :=
  match s.named? r with
  | none => 0
  | some (_, i) => i + 1

/-- The flags of the flips of a swap. Each flip asks for a report, by the flag 1. It does not wait
for the refresh boundary, by the flag 2, if the request allows this and the configuration, too. -/
def flagsFor : UInt32 := if r.async = true ∧ s.config.asyncFlips = true then 1 ||| 2 else 1

/-- The number among the vertical blanks of the pipe whose completion a swap reports: the one that
the request says, or that of the pipe that it names. -/
def referenceFor : Option UInt32 :=
  match r.reference, s.named? r with
  | some vblank, _ => some vblank
  | none, some (p, _) => some p.vblank
  | none, none => none

end Definitions

variable {s : Screen} {r : SwapRequest}

/-- The target that a swap prepares for is the position of the pipe that is named. -/
theorem map_named? (s : Screen) (r : SwapRequest) :
    (s.named? r).map Prod.snd = (s.prepare r).target := by
  show _ = s.target? r
  unfold named? target?
  cases r.targets with
  | all => rfl
  | single vblank =>
    exact (List.findIdx?_eq_fst_find?_zipIdx (p := fun p : Pipe => p.vblank == vblank)).symm

/-- The pipe that is named stands at its position. -/
theorem getElem?_named? {p : Pipe × Nat} (h : s.named? r = some p) : s.pipes[p.2]? = some p.1 := by
  unfold named? at h
  split at h
  · cases h
  · exact List.mem_zipIdx_iff_getElem?.1 (List.mem_of_find?_eq_some h)

/-- A swap is prepared for this slot. -/
theorem slotFor_eq (s : Screen) (r : SwapRequest) : s.slotFor r = (s.prepare r).slot := by
  show _ = ((s.prepare r).target.map pipeSlot).getD sharedSlot
  rw [← map_named?, slotFor]
  cases s.named? r <;> rfl

/-- The flips of a swap are submitted with these flags. -/
theorem flagsFor_eq (s : Screen) (r : SwapRequest) : s.flagsFor r = s.flipFlags r := by
  simp only [flagsFor, flipFlags, Bool.and_eq_true]
  rfl

/-- The pipe with this number is the one that a swap takes as its reference. -/
theorem referenceFor_eq (s : Screen) (r : SwapRequest) :
    s.referenceFor r = s.referenceOf (s.prepare r) := by
  have htarget : ((s.prepare r).target.bind (s.pipes[·]?)).map Pipe.vblank =
      (s.named? r).map fun p => p.1.vblank := by
    rw [← map_named?]
    cases hp : s.named? r with
    | none => rfl
    | some p =>
      rw [Option.map_some, Option.bind_some, getElem?_named? hp]
      rfl
  show _ = r.reference.or _
  rw [htarget, referenceFor]
  cases r.reference with
  | some vblank => rfl
  | none => cases s.named? r <;> rfl

/-- The positions of the pipes that a swap is meant for. -/
theorem map_targeted (s : Screen) (r : SwapRequest) :
    (s.targeted r).map Prod.snd = s.participants (s.prepare r).target := by
  have hrange : List.range s.pipes.length = s.pipes.zipIdx.map Prod.snd := by
    rw [List.zipIdx_map_snd, List.range_eq_range']
  unfold targeted participants
  rw [hrange, List.filter_map, ← map_named?]
  refine congrArg _ (List.filter_congr fun p hp => ?_)
  have hpipe : s.pipes[p.2]? = some p.1 := List.mem_zipIdx_iff_getElem?.1 hp
  simp only [Function.comp_apply, isEnabled, hpipe, Option.any_some]
  cases hq : s.named? r with
  | none => rfl
  | some q =>
    -- No two pipes stand at the same position.
    have hsame : q = p ↔ q.2 = p.2 := by
      refine ⟨congrArg Prod.snd, fun hposition => Prod.ext ?_ hposition⟩
      exact Option.some.inj ((getElem?_named? hq).symm.trans (hposition ▸ hpipe))
    rw [Bool.eq_iff_iff]
    simp [hsame]

/-- A pipe that a swap is meant for stands at its position and is enabled. -/
theorem mem_targeted {p : Pipe × Nat} (h : p ∈ s.targeted r) :
    s.pipes[p.2]? = some p.1 ∧ p.1.enabled = true := by
  obtain ⟨hmem, hp⟩ := List.mem_filter.1 h
  exact ⟨List.mem_zipIdx_iff_getElem?.1 hmem, (Bool.and_eq_true_iff.1 hp).1⟩

end Screen

end PageFlip
