import PageFlip.Proofs.Accounting
import PageFlip.Proofs.Course
import PageFlip.Proofs.Observer

/-!
# What is noted of the flips of a swap

A `Mark` is what an observer notes of a swap and of its flip on one pipe: that a token became
pending for it, that it got a hold on the swap, that it was handed to the channel, that the channel
accepted it, or that it failed. Tokens and holds are not read off the program but off the screens
before and after it (`Screen.takes`).

The marks of a swap come in the order of their places (`Mark.place`): pipe after pipe, and for each
pipe in the order above, where only the attempts of one flip may come again. `Mark.Precedes` says so
of two marks, and `Mark.InOrder` of all.
-/

namespace PageFlip

/-- What can be noted of a swap, and of its flip on the pipe at a position. -/
inductive Mark
  /-- The framebuffer of the swap was imported for a request. -/
  | brought (id : SwapId) (r : SwapRequest) (fb : Framebuffer)
  /-- A token became pending for the flip. -/
  | allocated (id : SwapId) (pipe : Nat) (t : Token)
  /-- The flip got a hold on the swap. -/
  | held (id : SwapId) (pipe : Nat)
  /-- The flip is handed to the channel. -/
  | submitted (id : SwapId) (pipe : Nat) (f : Submission)
  /-- The channel accepted the flip. -/
  | accepted (id : SwapId) (pipe : Nat)
  /-- The flip failed, and no other pipe is to be tried. -/
  | failed (id : SwapId) (pipe : Nat)
deriving DecidableEq

namespace Mark

/-- The swap that is spoken of. -/
def swap : Mark → SwapId
  | brought id _ _ => id
  | allocated id _ _ => id
  | held id _ => id
  | submitted id _ _ => id
  | accepted id _ => id
  | failed id _ => id

/-- The place among the marks of a swap: pipe after pipe, and for each as far as its flip is. -/
def place : Mark → Nat
  | brought .. => 0
  | allocated _ i _ => 4 * i + 1
  | held _ i => 4 * i + 2
  | submitted _ i _ => 4 * i + 3
  | accepted _ i => 4 * i + 4
  | failed _ i => 4 * i + 4

/-- Whether a flip failed. -/
def isFailed : Mark → Bool
  | failed .. => true
  | _ => false

/-- Whether a token became pending for the flip of a swap on a pipe. -/
def allocates (id : SwapId) (i : Nat) : Mark → Bool
  | allocated id' i' _ => id' == id && i' == i
  | _ => false

/-- A mark may come before another one of the same swap: nothing comes after a failure, and only the
attempts of one flip come again. -/
structure Precedes (m m' : Mark) : Prop where
  unfailed : m.isFailed = false
  ordered : m.place < m'.place ∨ ∃ id i f, m = submitted id i f ∧ m' = submitted id i f

/-- What may come before has no larger place. -/
theorem Precedes.place_le {m m' : Mark} (h : m.Precedes m') : m.place ≤ m'.place := by
  rcases h.ordered with hlt | ⟨id, i, f, rfl, rfl⟩
  · exact Nat.le_of_lt hlt
  · exact Nat.le_refl _

/-- Marks, the last first, come in order if of any two of one swap the earlier may come before the
later. -/
def InOrder (l : List Mark) : Prop :=
  l.Pairwise fun m' m => m.swap = m'.swap → m.Precedes m'

/-- The submissions of all swaps are disciplined, where the marks come the last first. -/
structure Disciplined (l : List Mark) : Prop where
  /-- A swap was brought by one request, with one framebuffer. -/
  brought : ∀ id r r' fb fb', brought id r fb ∈ l → brought id r' fb' ∈ l → r = r' ∧ fb = fb'
  /-- All attempts of a swap on a pipe are the same, -/
  attempts : ∀ id i f g, submitted id i f ∈ l → submitted id i g ∈ l → f = g
  /-- with the token that was allocated for it. -/
  token : ∀ id i f, submitted id i f ∈ l → allocated id i f.token ∈ l
  allocated_once : ∀ id i, l.countP (allocates id i) ≤ 1
  held_once : ∀ id i, l.count (held id i) ≤ 1
  accepted_once : ∀ id i, l.count (accepted id i) ≤ 1
  /-- No attempt comes after an accepted one. -/
  accepted_last : ∀ id i later earlier, l = later ++ accepted id i :: earlier →
    ∀ f, submitted id i f ∉ later
  /-- The pipes are tried in the order of the screen. -/
  ascending : ∀ id i f later earlier, l = later ++ submitted id i f :: earlier →
    ∀ j g, submitted id j g ∈ later → i ≤ j
  /-- No pipe is tried after one that failed. -/
  failed_last : ∀ id i later earlier, l = later ++ failed id i :: earlier →
    ∀ j g, submitted id j g ∉ later

namespace InOrder

variable {l later earlier : List Mark} {m m' : Mark}

/-- A mark is in order if those before it may come before it. -/
theorem cons (h : InOrder l) (hm : ∀ n ∈ l, n.swap = m.swap → n.Precedes m) : InOrder (m :: l) :=
  List.pairwise_cons.2 ⟨hm, h⟩

/-- Of two marks of one swap, one may come before the other. -/
theorem comparable (h : InOrder l) (hm : m ∈ l) (hm' : m' ∈ l) (hswap : m.swap = m'.swap) :
    m = m' ∨ m.Precedes m' ∨ m'.Precedes m := by
  induction l with
  | nil => cases hm
  | cons n l ih =>
    obtain ⟨hn, hrest⟩ := List.pairwise_cons.1 h
    rcases List.mem_cons.1 hm with rfl | hl
    · rcases List.mem_cons.1 hm' with rfl | hl'
      · exact .inl rfl
      · exact .inr (.inr (hn m' hl' hswap.symm))
    · rcases List.mem_cons.1 hm' with rfl | hl'
      · exact .inr (.inl (hn m hl hswap))
      · exact ih hrest hl hl'

/-- Marks of which none may come before another one come once at most. -/
theorem countP_le_one (h : InOrder l) {p : Mark → Bool}
    (hp : ∀ m m', p m = true → p m' = true → m.swap = m'.swap ∧ ¬ m.Precedes m') :
    l.countP p ≤ 1 := by
  induction l with
  | nil => exact Nat.zero_le 1
  | cons n l ih =>
    obtain ⟨hn, hrest⟩ := List.pairwise_cons.1 h
    by_cases hpn : p n = true
    · have hnone : l.countP p = 0 := by
        rw [List.countP_eq_zero]
        intro m hm hpm
        obtain ⟨hswap, hnot⟩ := hp m n hpm hpn
        exact hnot (hn m hm hswap)
      have hone : (n :: l).countP p = 1 := by rw [List.countP_cons, hnone, if_pos hpn]
      exact Nat.le_of_eq hone
    · rw [List.countP_cons, if_neg hpn]
      exact ih hrest

/-- What comes later has no smaller place, and no failure comes earlier. -/
theorem of_append (h : InOrder (later ++ m :: earlier)) (hm' : m' ∈ later)
    (hswap : m.swap = m'.swap) : m.isFailed = false ∧ m.place ≤ m'.place := by
  have hprecedes := (List.pairwise_append.1 h).2.2 m' hm' m List.mem_cons_self hswap
  exact ⟨hprecedes.unfailed, hprecedes.place_le⟩

/-- A mark that is no submission does not come again. -/
theorem not_precedes_self (hm : ∀ id i f, m ≠ submitted id i f) : ¬ m.Precedes m := by
  intro hprecedes
  rcases hprecedes.ordered with hlt | ⟨id, i, f, rfl, -⟩
  · exact Nat.lt_irrefl _ hlt
  · exact hm id i f rfl

/-- A mark that is no submission comes once at most. -/
theorem count_le_one (h : InOrder l) (hm : ∀ id i f, m ≠ submitted id i f) : l.count m ≤ 1 := by
  refine h.countP_le_one fun n n' hn hn' => ?_
  rw [beq_iff_eq] at hn hn'
  subst hn hn'
  exact ⟨rfl, not_precedes_self hm⟩

/-- Two marks of a swap at one place are the same. -/
theorem eq_of_place_eq (h : InOrder l) (hm : m ∈ l) (hm' : m' ∈ l) (hswap : m.swap = m'.swap)
    (hplace : m.place = m'.place) : m = m' := by
  rcases h.comparable hm hm' hswap with heq | hprecedes | hprecedes
  · exact heq
  · rcases hprecedes.ordered with hlt | ⟨id, i, f, rfl, rfl⟩
    · exact absurd hplace (Nat.ne_of_lt hlt)
    · rfl
  · rcases hprecedes.ordered with hlt | ⟨id, i, f, rfl, rfl⟩
    · exact absurd hplace (Nat.ne_of_gt hlt)
    · rfl

/-- Marks that come in order tell of disciplined submissions. -/
theorem disciplined (h : InOrder l)
    (htoken : ∀ id i f, submitted id i f ∈ l → allocated id i f.token ∈ l) : Disciplined l where
  brought := by
    intro id r r' fb fb' hm hm'
    cases h.eq_of_place_eq hm hm' rfl rfl
    exact ⟨rfl, rfl⟩
  attempts := by
    intro id i f g hf hg
    cases h.eq_of_place_eq hf hg rfl rfl
    rfl
  token := htoken
  allocated_once := by
    intro id i
    -- Two allocations for one pipe have one place, so neither may come before the other.
    refine h.countP_le_one fun m m' hm hm' => ?_
    cases m with
    | allocated id₁ i₁ t =>
      cases m' with
      | allocated id₂ i₂ u =>
        simp only [allocates, Bool.and_eq_true, beq_iff_eq] at hm hm'
        obtain ⟨rfl, rfl⟩ := hm
        obtain ⟨rfl, rfl⟩ := hm'
        refine ⟨rfl, fun hprecedes => ?_⟩
        rcases hprecedes.ordered with hlt | ⟨_, _, _, heq, -⟩
        · exact Nat.lt_irrefl _ hlt
        · cases heq
      | _ => cases hm'
    | _ => cases hm
  held_once := fun _ _ => h.count_le_one fun _ _ _ hm => by cases hm
  accepted_once := fun _ _ => h.count_le_one fun _ _ _ hm => by cases hm
  accepted_last := by
    rintro id i later earlier rfl f hf
    -- An acceptance has a later place than the submissions of its pipe.
    have := (h.of_append hf rfl).2
    simp only [place] at this
    omega
  ascending := by
    rintro id i f later earlier rfl j g hg
    have := (h.of_append hg rfl).2
    simp only [place] at this
    omega
  failed_last := by
    rintro id i later earlier rfl j g hg
    -- Nothing comes after a failure.
    have := (h.of_append hg rfl).1
    cases this

end InOrder

end Mark

/-! ## Taking notes -/

/-- The error that an operation met in the middle of a swap. -/
def Ending.error? : Ending → Option SwapError
  | flipping _ _ error => error
  | _ => none

/-- The error that a swap met, in the middle of an operation or at rest. -/
def Follow.error? : Follow → Option SwapError
  | .inl t => t.ending.error?
  | .inr (.waiting w) => w.ending.error?
  | .inr _ => none

/-- A flip is handed to the channel. -/
def Follow.submits : Follow → List Mark
  | .inr (.waiting (.attempting a)) => [.submitted a.fanout.swap a.pipe a.submission]
  | _ => []

namespace Screen

/-- The number of holds on a swap. -/
def holds (s : Screen) (id : SwapId) : Nat :=
  (s.swaps[id]?.map fun w => w.barrier.outstanding).getD 0

/-- What a part of an operation does to the flip of a swap on the pipe at hand, the last first. -/
def takes (s : Screen) (id : SwapId) (i : Nat) (p : Progress Follow) : List Mark :=
  (if p.next.error?.isSome then [.failed id i] else []) ++ p.next.submits ++
    (if s.holds id < p.screen.holds id then [.held id i] else []) ++
    (p.screen.registry.pending.keys.filter fun t => !s.registry.isPending t).map (.allocated id i)

end Screen

/-- Notes are taken of the steps that try a pipe or try it again. -/
def marking : Observer Mark where
  step s t :=
    match t with
    | .fan f =>
      match f.rest with
      | [] => []
      | i :: _ => s.takes f.swap i (s.step t)
    | .retry a => s.takes a.fanout.swap a.pipe (s.step t)
    | _ => []

/-- What is noted of an answer that leads on to `p`. -/
def Answer.marks (s : Screen) (p : Progress Follow) : Wait → Answer → List Mark
  | .importing prep, .imported (.ok fb) => [.brought s.swaps.length prep.request fb]
  | .attempting a, .submitted (.ok ()) _ =>
    s.takes a.fanout.swap a.pipe p ++ [.accepted a.fanout.swap a.pipe]
  | .attempting a, _ => s.takes a.fanout.swap a.pipe p
  | .reading (some a), _ => s.takes a.fanout.swap a.pipe p
  | _, _ => []

namespace Course

/-- What is noted of an act, the last first. -/
def noted (c : Course) : Act → List Mark
  | .call op => marking.notes (c.session.screen.start op)
  | .answer a =>
    match c.session.waits with
    | [] => []
    | w :: _ =>
      match c.session.screen.resume w a with
      | none => []
      | some p => marking.notes p ++ a.marks c.session.screen p w
  | .reorder _ => []

/-- What is noted of a row of acts, the last first. -/
def marks (c : Course) (conduct : Conduct) : List Act → List Mark
  | [] => []
  | act :: acts =>
    match c.step conduct act with
    | none => []
    | some d => d.marks conduct acts ++ c.noted act

end Course

end PageFlip
