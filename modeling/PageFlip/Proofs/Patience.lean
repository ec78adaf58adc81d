import PageFlip.Kernel.Device
import PageFlip.Proofs.Capacity
import PageFlip.Proofs.Drains
import PageFlip.Proofs.Submission
import PageFlip.Proofs.Unattended

/-!
# How often a flip is tried

A flip that meets a full channel is tried again after each read of the channel: as often as the
reads bring a batch of reports, and as often in a row as the configuration says when nothing is
ready. An attempt that is under way has a budget (`Errand.Budget`): what the batches that were read
for it allow, and the reads in a row that found nothing. Each step keeps within it (`Thrifty.step`),
and each answer (`Thrifty.resume`).

A batch need not have a report in it. It counts all the same, and so nothing bounds the number of
attempts if the channel brings such batches without end (`Course.Patient`,
`Course.attempts_bounded`).
-/

namespace PageFlip

/-- Whether a mark is an attempt of a swap on a pipe. -/
def Mark.isAttempt (id : SwapId) (i : Nat) : Mark → Bool
  | submitted id' i' _ => id' == id && i' == i
  | _ => false

/-- How often a swap was tried on a pipe. -/
def attempts (id : SwapId) (i : Nat) (l : List Mark) : Nat := l.countP (Mark.isAttempt id i)

/-- The reports that were read while the flip of a swap on a pipe met a full channel. -/
structure Batch where
  swap : SwapId
  pipe : Nat
  reports : List Report
deriving DecidableEq

namespace Batch

/-- Whether the batch was read for the flip of a swap on a pipe. -/
def isFor (id : SwapId) (i : Nat) (b : Batch) : Bool := b.swap == id && b.pipe == i

/-- Whether the batch was read for a flip and has a report in it. -/
def helps (id : SwapId) (i : Nat) (b : Batch) : Bool := b.isFor id i && !b.reports.isEmpty

/-- Whether the batch was read for a flip and has no report in it. -/
def idles (id : SwapId) (i : Nat) (b : Batch) : Bool := b.isFor id i && b.reports.isEmpty

/-- A batch has a report in it, or it has none. -/
theorem countP_isFor (id : SwapId) (i : Nat) (k : List Batch) :
    k.countP (isFor id i) = k.countP (helps id i) + k.countP (idles id i) := by
  induction k with
  | nil => rfl
  | cons b k ih =>
    rw [List.countP_cons, List.countP_cons, List.countP_cons, ih]
    cases hfor : b.isFor id i <;> cases hempty : b.reports.isEmpty <;>
      simp only [helps, idles, hfor, hempty, Bool.and_true, Bool.and_false, Bool.not_true,
        Bool.not_false, if_true, Bool.false_eq_true, if_false] <;> omega

end Batch

/-- The batch that comes with an answer. -/
def Wait.batch : Wait → Answer → List Batch
  | .reading (some a), .read (.ok (some reports)) => [⟨a.fanout.swap, a.pipe, reports⟩]
  | _, _ => []

namespace Course

/-- The batch that comes with an act. -/
def batch (c : Course) : Act → List Batch
  | .call _ | .reorder _ => []
  | .answer a =>
    match c.session.waits with
    | [] => []
    | w :: _ => w.batch a

/-- The batches that come with a row of acts, the last first. -/
def batches (c : Course) (conduct : Conduct) : List Act → List Batch
  | [] => []
  | act :: acts =>
    match c.step conduct act with
    | none => []
    | some d => d.batches conduct acts ++ c.batch act

end Course

/-! ## Attempts and their marks -/

section Attempts

variable {s : Screen} {id j : SwapId} {i n : Nat} {l k : List Mark} {p : Progress Follow} {t : Task}

/-- Attempts before and later are counted one by one. -/
theorem attempts_append : attempts id i (l ++ k) = attempts id i l + attempts id i k :=
  List.countP_append

/-- Without an attempt there is none to count. -/
theorem attempts_eq_zero (h : ∀ m ∈ l, m.isAttempt id i = false) : attempts id i l = 0 :=
  List.countP_eq_zero.2 fun m hm => by rw [h m hm]; exact Bool.false_ne_true

/-- What is noted of a pipe has an attempt if its flip is handed to the channel now. -/
theorem attempts_takes : attempts id i (s.takes j n p) = attempts id i p.next.submits := by
  unfold Screen.takes
  have hfailed : attempts id i (if p.next.error?.isSome then [.failed j n] else []) = 0 := by
    split_ifs <;> rfl
  have hheld : attempts id i (if s.holds j < p.screen.holds j then [.held j n] else []) = 0 := by
    split_ifs <;> rfl
  have hallocated (ts : List Token) : attempts id i (ts.map (.allocated j n)) = 0 := by
    refine attempts_eq_zero fun m hm => ?_
    obtain ⟨t, -, rfl⟩ := List.mem_map.1 hm
    rfl
  rw [attempts_append, attempts_append, attempts_append, hfailed, hheld, hallocated, Nat.zero_add]
  rfl

/-- No flip is handed to the channel unless an attempt is under way. -/
theorem Follow.submits_eq_nil {f : Follow}
    (h : ∀ a, f ≠ .inr (.waiting (.attempting a))) : f.submits = [] := by
  unfold Follow.submits
  split
  · rename_i a
    exact absurd rfl (h a)
  · rfl

end Attempts

/-- What an operation at rest owes its attempt: the one that is under way. -/
def Wait.pledge : Wait → Nat
  | attempting _ => 1
  | reading (some _) => 1
  | _ => 0

/-- The same in the middle of an operation, too. -/
def Follow.pledge : Follow → Nat
  | .inr (.waiting w) => w.pledge
  | _ => 0

/-- A part that goes on with a task owes no attempt. -/
theorem Follow.Continues.pledge {next : Task} {f : Follow} (hf : f.Continues next) :
    f.pledge = 0 := by
  cases hf <;> rfl

/-- How a task leads on to an attempt. -/
inductive Task.Tries (t : Task) (f : Follow) (a : Attempt) : Prop
  /-- The attempt goes on after this part of the operation. -/
  | goesOn (hf : f.submits = []) (hpledge : f.pledge = 0) (ht : t.errand? = some (.trying a))
  | again (hf : f = .inr (.waiting (.attempting a))) (ht : t = .retry a)
  | first {g : Fanout} {rest : List Nat} (hf : f = .inr (.waiting (.attempting a)))
      (ht : t = .fan g) (hrest : g.rest = a.pipe :: rest) (hswap : a.fanout.swap = g.swap)
      (hidle : a.idle = 0)

/-- A part that goes on with a task leaves the attempt of the task for later. -/
theorem Follow.Continues.tries {t next : Task} {f : Follow} {a : Attempt} (hf : f.Continues next)
    (ht : t.errand? = next.errand?) (ha : f.errand? = some (.trying a)) : t.Tries f a := by
  refine .goesOn hf.submits hf.pledge ?_
  rcases hf.errand? with hsame | hnone
  · rw [ht, ← hsame, ha]
  · cases hnone.symm.trans ha

/-- A swap that goes on to the next pipe may try it. -/
theorem Screen.tries_fan {s : Screen} {f : Fanout} {a : Attempt}
    (ha : (s.fan f).next.errand? = some (.trying a)) : (Task.fan f).Tries (s.fan f).next a := by
  cases hrest : f.rest with
  | nil =>
    simp only [Screen.fan, hrest] at ha
    cases ha
  | cons i rest =>
    cases hp : s.pipes[i]? with
    | none =>
      simp only [Screen.fan, hrest, hp] at ha
      cases ha
    | some p =>
      cases henabled : p.enabled with
      | false =>
        simp only [Screen.fan, hrest, hp, henabled] at ha
        cases ha
      | true =>
        have hfan : s.fan f = s.tryPipe { f with rest := rest } i p := by
          simp only [Screen.fan, hrest, hp, henabled, if_true]
        rw [hfan] at ha ⊢
        unfold Screen.tryPipe at ha ⊢
        split at ha
        · cases ha
        · dsimp only at ha ⊢
          split at ha
          · cases ha
            exact .first rfl rfl hrest rfl rfl
          · split at ha
            · cases ha
            · cases ha
              exact .first rfl rfl hrest rfl rfl

/-- A flip that is tried again makes the next attempt, unless its pipe is disabled. -/
theorem Screen.tries_retry {s : Screen} {a b : Attempt}
    (ha : (s.retry b).next.errand? = some (.trying a)) :
    (Task.retry b).Tries (s.retry b).next a := by
  unfold Screen.retry at ha ⊢
  dsimp only at ha ⊢
  split_ifs at ha ⊢
  · cases ha
  · have hcontinues : (s.resolve b.submission.token none (.fan b.fanout)).next.Continues
        (.fan b.fanout) := continues_resolve
    rcases hcontinues.errand? with hsame | hnone
    · cases hsame.symm.trans ha
    · cases hnone.symm.trans ha
  · cases ha
    exact .again rfl rfl

/-- Every attempt is a first one or comes from one before. -/
theorem Screen.tries_step {s : Screen} {t : Task} {a : Attempt}
    (ha : (s.step t).next.errand? = some (.trying a)) : t.Tries (s.step t).next a := by
  cases t with
  | fan f => exact tries_fan ha
  | retry b => exact tries_retry ha
  | conclude f error =>
    have hcontinues : (s.release f.swap (f.report error)).next.Continues (f.report error) :=
      continues_release
    refine hcontinues.tries ?_ ha
    exact (Task.errand?_report f error).symm
  | dispatch reports next =>
    cases reports with
    | nil => exact .goesOn rfl rfl ha
    | cons report rest =>
      have hcontinues : (s.dispatch report (.dispatch rest next)).next.Continues
        (.dispatch rest next) := continues_dispatch
      exact hcontinues.tries rfl ha
  | abort events next =>
    cases events with
    | nil => exact .goesOn rfl rfl ha
    | cons event rest =>
      have hcontinues : (s.deliver event none (.abort rest next)).next.Continues
        (.abort rest next) := continues_deliver
      exact hcontinues.tries rfl ha
  | reclaim id verdict next => exact (continues_reclaim (s := s)).tries rfl ha
  | say notice next => exact .goesOn rfl rfl ha
  | finish outcome => cases ha

/-! ## Budgets -/

/-- An attempt has not come more often than the batches that were read for it allow, where the
channel may be found with nothing `most` times in a row. -/
def Errand.Budget (most extra : Nat) (l : List Mark) (k : List Batch) : Errand → Prop
  | between _ => True
  | trying a => a.idle ≤ most ∧ attempts a.fanout.swap a.pipe l ≤
      k.countP (Batch.isFor a.fanout.swap a.pipe) * (most + 1) + a.idle + extra

/-- What is known of the attempts of an operation, above others with the errands `es`, where `l` are
the marks and `k` the batches. -/
structure Thrifty (most : Nat) (k : List Batch) (es : List Errand) (l : List Mark) (f : Follow) :
    Prop where
  own : ∀ e, f.errand? = some e → e.Budget most f.pledge l k
  beneath : ∀ e ∈ es, e.Budget most 0 l k
  all : ∀ id i, attempts id i l ≤ (k.countP (Batch.isFor id i) + 1) * (most + 1)

section Budget

variable {s : Screen} {es : List Errand} {l : List Mark} {k : List Batch} {most : Nat} {t : Task}
  {id : SwapId} {i : Nat} {p : Progress Follow}

/-- Nothing was noted of the attempts of a swap on a pipe that is to come. -/
theorem Errands.attempts_eq_zero {f : Fanout} {rest : List Nat}
    (h : Errands s (.between f :: es) l) (hrest : f.rest = i :: rest) :
    attempts f.swap i l = 0 := by
  refine PageFlip.attempts_eq_zero fun m hm => Bool.eq_false_iff.2 fun hattempt => ?_
  cases m with
  | submitted id j g =>
    simp only [Mark.isAttempt, Bool.and_eq_true, beq_iff_eq] at hattempt
    obtain ⟨rfl, rfl⟩ := hattempt
    have hplace := (h.behind hrest _ hm rfl).2
    simp only [Mark.place] at hplace
    omega
  | _ => cases hattempt

/-- What is noted of a step has an attempt if it leads to one. -/
theorem attempts_step :
    attempts id i (marking.step s t) = attempts id i (s.step t).next.submits := by
  cases t with
  | fan f =>
    have hstep : s.step (.fan f) = s.fan f := rfl
    unfold marking
    dsimp only
    cases hrest : f.rest with
    | nil =>
      have hfan : s.fan f = s.work [] (.conclude f none) := by simp only [Screen.fan, hrest]
      rw [hstep, hfan]
      rfl
    | cons i rest => exact attempts_takes
  | retry a => exact attempts_takes
  | conclude f error =>
    have hcontinues : (s.release f.swap (f.report error)).next.Continues (f.report error) :=
      Screen.continues_release
    exact congrArg _ hcontinues.submits.symm
  | dispatch reports next =>
    cases reports with
    | nil => rfl
    | cons report rest =>
      have hcontinues : (s.dispatch report (.dispatch rest next)).next.Continues
        (.dispatch rest next) := Screen.continues_dispatch
      exact congrArg _ hcontinues.submits.symm
  | abort events next =>
    cases events with
    | nil => rfl
    | cons event rest =>
      have hcontinues : (s.deliver event none (.abort rest next)).next.Continues
        (.abort rest next) := Screen.continues_deliver
      exact congrArg _ hcontinues.submits.symm
  | reclaim id verdict next => exact congrArg _ (Screen.continues_reclaim (s := s)).submits.symm
  | say notice next => rfl
  | finish outcome => rfl

/-- A flip that is handed to the channel is one attempt. -/
theorem attempts_submits {f : Follow} {a : Attempt} (hf : f = .inr (.waiting (.attempting a))) :
    attempts id i f.submits = if a.fanout.swap = id ∧ a.pipe = i then 1 else 0 := by
  subst hf
  show attempts id i [.submitted a.fanout.swap a.pipe a.submission] = _
  rw [attempts, List.countP_singleton]
  simp only [Mark.isAttempt, Bool.and_eq_true, beq_iff_eq]

/-- The marks of an operation are about none of the swaps below it. -/
theorem Errands.attempts_beneath {f : Follow} (h : Errands s (f.errand?.toList ++ es) l)
    {e : Errand} (he : e ∈ es) : attempts e.swap i f.submits = 0 := by
  by_cases hf : ∃ a, f = .inr (.waiting (.attempting a))
  · obtain ⟨a, rfl⟩ := hf
    have hnot : a.fanout.swap ∉ es.map Errand.swap := (List.nodup_cons.1 h.apart).1
    rw [attempts_submits rfl, if_neg]
    rintro ⟨hswap, -⟩
    exact hnot (hswap ▸ List.mem_map_of_mem he)
  · rw [Follow.submits_eq_nil (not_exists.1 hf)]
    rfl

/-- If an operation keeps within its budget, no swap is tried too often. -/
theorem Thrifty.of_own {f : Follow} {m : List Mark} (hb : Thrifty most k es l (.inl t))
    (h : Errands s (f.errand?.toList ++ es) (m ++ l))
    (hm : ∀ id i, attempts id i m = attempts id i f.submits)
    (hown : ∀ e, f.errand? = some e → e.Budget most f.pledge (m ++ l) k) :
    Thrifty most k es (m ++ l) f where
  own := hown
  beneath := by
    intro e he
    cases e with
    | between f => trivial
    | trying a =>
      -- The operations below are of other swaps, of which nothing is noted.
      obtain ⟨hidle, hbudget⟩ := hb.beneath _ he
      refine ⟨hidle, ?_⟩
      have hnone : attempts a.fanout.swap a.pipe f.submits = 0 := h.attempts_beneath he
      rwa [attempts_append, hm, hnone, Nat.zero_add]
  all := by
    intro id i
    by_cases hf : ∃ a, f = .inr (.waiting (.attempting a)) ∧ a.fanout.swap = id ∧ a.pipe = i
    · obtain ⟨a, rfl, rfl, rfl⟩ := hf
      obtain ⟨hidle, hbudget⟩ := hown (.trying a) rfl
      have hpledge : Follow.pledge (.inr (.waiting (.attempting a))) = 1 := rfl
      rw [hpledge] at hbudget
      calc attempts a.fanout.swap a.pipe (m ++ l)
          ≤ k.countP (Batch.isFor a.fanout.swap a.pipe) * (most + 1) + a.idle + 1 := hbudget
        _ ≤ k.countP (Batch.isFor a.fanout.swap a.pipe) * (most + 1) + (most + 1) := by omega
        _ = (k.countP (Batch.isFor a.fanout.swap a.pipe) + 1) * (most + 1) :=
          (Nat.succ_mul _ _).symm
    · have hnone : attempts id i f.submits = 0 := by
        by_cases hattempt : ∃ a, f = .inr (.waiting (.attempting a))
        · obtain ⟨a, ha⟩ := hattempt
          rw [attempts_submits ha, if_neg fun hsame => hf ⟨a, ha, hsame⟩]
        · rw [Follow.submits_eq_nil (not_exists.1 hattempt)]
          rfl
      rw [attempts_append, hm, hnone, Nat.zero_add]
      exact hb.all id i

/-- A step keeps within the budgets. -/
theorem Thrifty.step (hb : Thrifty most k es l (.inl t)) (h : Errands s (t.errand?.toList ++ es) l)
    (hnext : (s.step t).Orderly es (marking.step s t ++ l)) :
    Thrifty most k es (marking.step s t ++ l) (s.step t).next := by
  refine hb.of_own hnext.1 (fun _ _ => attempts_step) fun e he => ?_
  cases e with
  | between f => trivial
  | trying a =>
    show _ ∧ attempts _ _ (marking.step s t ++ l) ≤ _
    rw [attempts_append, attempts_step]
    cases Screen.tries_step he with
    | goesOn hf hpledge ht =>
      rw [hf, hpledge]
      obtain ⟨hidle, hbudget⟩ := hb.own _ ht
      refine ⟨hidle, ?_⟩
      show 0 + _ ≤ _
      rw [Nat.zero_add]
      exact hbudget
    | again hf ht =>
      obtain ⟨hidle, hbudget⟩ := hb.own (.trying a) (by rw [ht]; rfl)
      have hbudget : attempts a.fanout.swap a.pipe l ≤
        k.countP (Batch.isFor a.fanout.swap a.pipe) * (most + 1) + a.idle := hbudget
      rw [attempts_submits hf, if_pos ⟨rfl, rfl⟩, hf]
      refine ⟨hidle, ?_⟩
      show 1 + _ ≤ _ + 1
      omega
    | first hf ht hrest hswap hidle =>
      -- Nothing was noted of the pipe before its first attempt.
      rw [ht] at h
      have hnone := h.attempts_eq_zero hrest
      rw [← hswap] at hnone
      rw [attempts_submits hf, if_pos ⟨rfl, rfl⟩, hnone, hidle, hf]
      exact ⟨Nat.zero_le _, Nat.le_add_left _ _⟩

/-- The same until the operation comes to rest. -/
theorem Thrifty.proceed (hb : Thrifty most k es l p.next) (h : p.Orderly es l) :
    Thrifty most k es (marking.notes p ++ l) (.inr (Screen.proceed p).next) :=
  (marking.notes_induct (P := fun s f l => Progress.Orderly es l ⟨s, [], f⟩ ∧ Thrifty most k es l f)
    (fun _ _ _ ht => ⟨ht.1.1.step, ht.2.step ht.1.1 ht.1.1.step⟩) (l := l) ⟨h, hb⟩).2

/-- What is noted until an operation comes to rest has an attempt if it comes to rest with one. -/
theorem attempts_notes (hp : p.next.submits = []) :
    attempts id i (marking.notes p) =
      attempts id i (Follow.submits (.inr (Screen.proceed p).next)) := by
  have hnotes := marking.notes_induct
    (P := fun _ f l => attempts id i l = attempts id i f.submits) (p := p) (l := [])
    (fun s t l ht => by
      rw [attempts_append, attempts_step, ht]
      rfl)
    (by rw [hp])
  rwa [List.append_nil] at hnotes

/-- More batches allow more attempts. -/
theorem Errand.Budget.mono {e : Errand} {extra : Nat} {m : List Mark} (h : e.Budget most extra l k)
    (b : List Batch) (hm : ∀ id i, attempts id i m = 0) :
    e.Budget most extra (m ++ l) (b ++ k) := by
  cases e with
  | between f => trivial
  | trying a =>
    obtain ⟨hidle, hbudget⟩ := h
    refine ⟨hidle, ?_⟩
    rw [attempts_append, hm, Nat.zero_add, List.countP_append, Nat.add_mul]
    omega

/-- Nothing that is noted of an answer is an attempt. -/
theorem attempts_marks {w : Wait} {a : Answer} (hp : p.next.submits = []) :
    attempts id i (a.marks s p w) = 0 := by
  have htakes (j : SwapId) (n : Nat) : attempts id i (s.takes j n p) = 0 := by
    rw [attempts_takes, hp]
    rfl
  unfold Answer.marks
  split
  · rfl
  · rw [attempts_append, htakes]
    rfl
  · exact htakes _ _
  · exact htakes _ _
  · rfl

/-- No operation starts with a flip. -/
theorem Screen.errand?_start {op : Operation} (hop : op.isRegular = true) :
    (s.start op).next.errand? = none := by
  cases op with
  | swap r => rfl
  | drain => rfl
  | disable crtc =>
    show (s.disable crtc).next.errand? = none
    unfold disable
    split
    · rfl
    · dsimp only [retirePipe, work, Follow.errand?, Task.errand?]
      split_ifs
      · rfl
      · rfl
  | enable crtc =>
    show (s.enable crtc).next.errand? = none
    unfold enable
    split
    · rfl
    · rfl
  | _ => cases hop

/-- An answer does not lead to an attempt at once. -/
theorem Screen.submits_resume {w : Wait} {a : Answer} (hp : s.resume w a = some p) :
    p.next.submits = [] := by
  unfold Screen.resume at hp
  split at hp
  all_goals cases hp
  · rfl
  · rfl
  · rfl
  · exact continues_fail.submits
  · rfl
  · rfl
  · rename_i a result
    rcases result with e | _ | reports
    · exact continues_fail.submits
    · unfold afterRead
      dsimp only
      split_ifs
      · rfl
      · exact continues_fail.submits
    · rfl
  · rename_i result
    rcases result with e | _ | reports
    · rfl
    · rfl
    · rfl
  · rfl
  · rfl
  · rfl

/-- The attempt of an operation that was answered keeps within its budget. -/
theorem Errand.Budget.resume {w : Wait} {a : Answer}
    (hb : ∀ e, w.errand? = some e → e.Budget most w.pledge l k) (hp : s.resume w a = some p)
    (hmost : s.config.maxIdleRetries.toNat = most) :
    ∀ e, p.next.errand? = some e → e.Budget most p.next.pledge l (w.batch a ++ k) := by
  -- A flip that fails leaves no attempt.
  have hfail {b : Attempt} {error : SwapError} {e : Errand}
      (he : (s.fail b error).next.errand? = some e) : False := by
    have hcontinues : (s.fail b error).next.Continues (.conclude b.fanout (some error)) :=
      Screen.continues_fail
    cases (hcontinues.errand?.elim id id).symm.trans he
  unfold Screen.resume at hp
  split at hp
  all_goals cases hp
  · rintro e ⟨⟩
    trivial
  · exact fun e he => by cases he
  · rintro e ⟨⟩
    trivial
  · exact fun e he => (hfail he).elim
  · exact hb
  · exact fun e he => by cases he
  · -- The channel was read because it was full.
    rename_i b result
    obtain ⟨hidle, hbudget⟩ := hb (.trying b) rfl
    rcases result with x | _ | reports
    · exact fun e he => (hfail he).elim
    · unfold Screen.afterRead
      dsimp only
      -- One more read that found nothing, or one too many.
      split_ifs with hless
      · rintro e ⟨⟩
        exact ⟨hmost ▸ hless, hbudget⟩
      · exact fun e he => (hfail he).elim
    · -- The batch allows for as many attempts as may come to nothing in a row, and one more.
      rintro e ⟨⟩
      refine ⟨Nat.zero_le _, ?_⟩
      have hfor : Batch.isFor b.fanout.swap b.pipe ⟨b.fanout.swap, b.pipe, reports⟩ = true := by
        simp [Batch.isFor]
      show attempts b.fanout.swap b.pipe l ≤
        (⟨b.fanout.swap, b.pipe, reports⟩ :: k).countP (Batch.isFor b.fanout.swap b.pipe) *
          (most + 1) + 0 + 0
      rw [List.countP_cons_of_pos hfor, Nat.succ_mul]
      have hbudget : attempts b.fanout.swap b.pipe l ≤
        k.countP (Batch.isFor b.fanout.swap b.pipe) * (most + 1) + b.idle + 1 := hbudget
      omega
  · rename_i result
    rcases result with e | _ | reports
    · exact fun e he => by cases he
    · exact fun e he => by cases he
    · exact fun e he => by cases he
  · exact hb
  · exact hb
  · exact hb

/-- An answer keeps within the budgets. -/
theorem Thrifty.resume {w : Wait} {a : Answer} (hb : Thrifty most k es l (.inr (.waiting w)))
    (hp : s.resume w a = some p) (hmost : s.config.maxIdleRetries.toNat = most) :
    Thrifty most (w.batch a ++ k) es (a.marks s p w ++ l) p.next where
  own := fun e he => (Errand.Budget.resume hb.own hp hmost e he).mono [] fun _ _ =>
    attempts_marks (Screen.submits_resume hp)
  beneath := fun e he => (hb.beneath e he).mono _ fun _ _ =>
    attempts_marks (Screen.submits_resume hp)
  all := by
    intro id i
    rw [attempts_append, attempts_marks (Screen.submits_resume hp), Nat.zero_add,
      List.countP_append]
    exact Nat.le_trans (hb.all id i)
      (Nat.mul_le_mul_right _ (Nat.succ_le_succ (Nat.le_add_left _ _)))

end Budget

/-! ## Courses -/

/-- What is known of the attempts of a session, where `l` are the marks and `k` the batches. -/
structure Session.Thrifts (most : Nat) (k : List Batch) (l : List Mark) (s : Session) : Prop where
  own : ∀ w ∈ s.waits, ∀ e, w.errand? = some e → e.Budget most w.pledge l k
  all : ∀ id i, attempts id i l ≤ (k.countP (Batch.isFor id i) + 1) * (most + 1)

namespace Course

variable {pipes : List Pipe} {slots : List Framebuffer} {config : Config} {c d : Course}
  {conduct : Conduct} {act : Act} {acts : List Act} {l : List Mark} {k : List Batch} {most : Nat}

/-- Waits that hear of an outcome owe nothing. -/
theorem beneath_of_own {waits : List Wait} (hwaits : ∀ w ∈ waits, w.IsTelling)
    (hown : ∀ w ∈ waits, ∀ e, w.errand? = some e → e.Budget most w.pledge l k) :
    ∀ e ∈ waits.filterMap Wait.errand?, e.Budget most 0 l k := by
  intro e he
  obtain ⟨w, hw, he⟩ := List.mem_filterMap.1 he
  obtain ⟨news, next, rfl⟩ := hwaits w hw
  exact hown _ hw e he

/-- An operation that keeps within its budget comes to rest so. -/
theorem thrifts_resting {call : Call} {calls : List Call} {fbs : List Framebuffer}
    {h : List Happening} {s : Screen} {waits : List Wait} {r : Rest}
    (hwaits : ∀ w ∈ waits, w.IsTelling)
    (hrest : Thrifty most k (waits.filterMap Wait.errand?) l (.inr r)) :
    (resting call calls fbs h s waits r).session.Thrifts most k l := by
  refine ⟨fun w hw e he => ?_, hrest.all⟩
  have hbelow : ∀ w ∈ waits, ∀ e, w.errand? = some e → e.Budget most w.pledge l k := by
    intro w hw e he
    have hbudget := hrest.beneath e (List.mem_filterMap.2 ⟨w, hw, he⟩)
    obtain ⟨news, next, rfl⟩ := hwaits w hw
    exact hbudget
  rw [waits_resting] at hw
  cases r with
  | waiting v =>
    rcases List.mem_cons.1 hw with rfl | hw
    · exact hrest.own e he
    · exact hbelow w hw e he
  | _ => exact hbelow w hw e he

/-- No act changes the settings. -/
theorem settings_step (h : c.step conduct act = some d) :
    d.session.screen.settings = c.session.screen.settings := by
  have hsession := session_step h
  cases act with
  | call op =>
    obtain ⟨t, ht, hd⟩ := Option.map_eq_some_iff.1 hsession
    rw [← hd]
    exact Session.settings_call ht
  | answer a =>
    obtain ⟨t, ht, hd⟩ := Option.map_eq_some_iff.1 hsession
    rw [← hd]
    exact Session.settings_answer ht
  | reorder table =>
    obtain ⟨-, -, rfl⟩ := of_step_reorder h
    rfl

/-- An act keeps within the budgets, with what is noted of it. -/
theorem thrifts_of_step (h : c.session.Thrifts most k l) (htidy : c.session.Tidy l)
    (hmost : c.session.screen.config.maxIdleRetries.toNat = most)
    (hstep : c.step conduct act = some d) :
    d.session.Thrifts most (c.batch act ++ k) (c.noted act ++ l) := by
  cases act with
  | call op =>
    obtain ⟨hop, htop, -, rfl⟩ := of_step_call hstep
    have hwaits := Session.telling_of_yields htop htidy.beneath
    have hstart : Thrifty most k (c.session.waits.filterMap Wait.errand?) l
        (c.session.screen.start op).next := by
      refine ⟨fun e he => ?_, beneath_of_own hwaits h.own, h.all⟩
      cases (Screen.errand?_start hop).symm.trans he
    exact thrifts_resting hwaits (hstart.proceed (htidy.errands.start hop))
  | answer a =>
    obtain ⟨wait, waits, call, calls, p, hw, -, -, hresume, rfl⟩ := of_step_answer hstep
    have herrands := htidy.errands
    have hbeneath := htidy.beneath
    have hown := h.own
    rw [hw] at herrands hbeneath hown
    -- The attempt of the operation on top comes before those below.
    have hcons : (wait :: waits).filterMap Wait.errand? =
        wait.errand?.toList ++ waits.filterMap Wait.errand? := by
      rw [List.filterMap_cons]
      cases wait.errand? <;> rfl
    rw [hcons] at herrands
    have hnoted : c.noted (.answer a) = marking.notes p ++ a.marks c.session.screen p wait := by
      simp only [noted, hw, hresume]
    have hbatch : c.batch (.answer a) = wait.batch a := by
      simp only [batch, hw]
    have hthrifty : Thrifty most k (waits.filterMap Wait.errand?) l (.inr (.waiting wait)) :=
      ⟨hown wait List.mem_cons_self,
        beneath_of_own hbeneath fun w hmem => hown w (List.mem_cons_of_mem _ hmem), h.all⟩
    rw [hnoted, hbatch, List.append_assoc]
    exact thrifts_resting hbeneath
      ((hthrifty.resume hresume hmost).proceed (herrands.resume hresume))
  | reorder table =>
    obtain ⟨-, -, rfl⟩ := of_step_reorder hstep
    exact ⟨h.own, h.all⟩

/-- A row of acts keeps within the budgets, with what is noted of it. -/
theorem thrifts_of_play (h : c.session.Thrifts most k l) (htidy : c.session.Tidy l)
    (hmost : c.session.screen.config.maxIdleRetries.toNat = most)
    (hplay : c.play conduct acts = some d) :
    d.session.Thrifts most (c.batches conduct acts ++ k) (c.marks conduct acts ++ l) := by
  induction acts generalizing c k l with
  | nil =>
    obtain rfl : c = d := Option.some.inj hplay
    exact h
  | cons act acts ih =>
    obtain ⟨e, hact, hplay⟩ := Option.bind_eq_some_iff.1 hplay
    have hmarks : c.marks conduct (act :: acts) = e.marks conduct acts ++ c.noted act := by
      simp only [marks, hact]
    have hbatches : c.batches conduct (act :: acts) = e.batches conduct acts ++ c.batch act := by
      simp only [batches, hact]
    have hconfig : e.session.screen.config = c.session.screen.config :=
      congrArg Prod.fst (settings_step hact)
    rw [hmarks, hbatches, List.append_assoc, List.append_assoc]
    exact ih (thrifts_of_step h htidy hmost hact) (tidy_of_step htidy hact) (hconfig ▸ hmost) hplay

/-- What is noted of a row of acts is noted up to any of them and from there. -/
theorem marks_append (hplay : c.play conduct acts = some d) (more : List Act) :
    c.marks conduct (acts ++ more) = d.marks conduct more ++ c.marks conduct acts := by
  induction acts generalizing c with
  | nil =>
    obtain rfl : c = d := Option.some.inj hplay
    exact (List.append_nil _).symm
  | cons act acts ih =>
    obtain ⟨e, hact, hplay⟩ := Option.bind_eq_some_iff.1 hplay
    simp only [List.cons_append, marks, hact]
    rw [ih hplay, List.append_assoc]

/-- The batches come up to any act and from there. -/
theorem batches_append (hplay : c.play conduct acts = some d) (more : List Act) :
    c.batches conduct (acts ++ more) = d.batches conduct more ++ c.batches conduct acts := by
  induction acts generalizing c with
  | nil =>
    obtain rfl : c = d := Option.some.inj hplay
    exact (List.append_nil _).symm
  | cons act acts ih =>
    obtain ⟨e, hact, hplay⟩ := Option.bind_eq_some_iff.1 hplay
    simp only [List.cons_append, batches, hact]
    rw [ih hplay, List.append_assoc]

/-! ### Rounds without a report -/

/-- The bytes of a device node that are read are a batch without a report exactly if each record in
them is intact and none is on a flip of this library. No bytes at all are such a batch, too. -/
theorem answer_ofBytes_eq_nil_iff {bytes : List UInt8} :
    (Kernel.Events.ofBytes bytes).answer = .ok (some []) ↔
      (EventRecords.ofBytes bytes).intact = true ∧ (EventRecords.ofBytes bytes).reports = [] := by
  unfold Kernel.Events.ofBytes Kernel.Events.answer
  dsimp only
  cases hintact : (EventRecords.ofBytes bytes).intact with
  | false => simp [Except.map]
  | true => simp [Except.map]

/-- The channel answers that it is full. -/
def isFull : Act := .answer (.submitted (.error .channelFull) ⟨0, 0⟩)

/-- The channel is full, and then it is read. -/
def fullRound (result : Option (List Report)) : List Act := [isFull, .answer (.read (.ok result))]

/-- Such rounds, one after the other. -/
def fullRounds (n : Nat) (result : Option (List Report)) : List Act :=
  (List.replicate n (fullRound result)).flatten

/-- A flip is handed to the channel, in an operation above `waits`. -/
structure Trying (c : Course) (s : Screen) (a : Attempt) (waits : List Wait) : Prop where
  session : c.session = ⟨s, .attempting a :: waits, none⟩
  calls : c.calls ≠ []
  pending : s.registry.isPending a.submission.token = true
  enabled : s.isEnabled a.pipe = true

/-- Whenever a flip is handed to the channel, it is pending and its pipe is enabled. -/
theorem trying_of_play {a : Attempt} {waits : List Wait}
    (hplay : (new pipes slots config).play .free acts = some c)
    (hw : c.session.waits = .attempting a :: waits) : c.Trying c.session.screen a waits := by
  have htidy := tidy_of_play (tidy_new pipes slots config) hplay
  obtain ⟨hunbroken, henabled, -⟩ := htidy.ready a waits hw
  obtain ⟨hs, -⟩ := keeps (I := fun _ => True) (fun _ _ _ _ _ => trivial) (sound_new _ _ _)
    trivial hplay hunbroken
  refine ⟨?_, ?_, hs.session.top (.attempting a) (by rw [hw]; rfl), henabled⟩
  · rw [← hw, ← hunbroken]
  · intro hnil
    have hlength := hs.length
    rw [hnil, hw] at hlength
    cases hlength

/-- A flip that stays pending on an enabled pipe is tried again. -/
theorem proceed_retry {s : Screen} {a : Attempt}
    (hpending : s.registry.isPending a.submission.token = true)
    (henabled : s.isEnabled a.pipe = true) :
    Screen.proceed (s.work [] (.retry a)) = ⟨s, [.retried], .waiting (.attempting a)⟩ := by
  have hretry : s.step (.retry a) = s.halt [.retried] (.waiting (.attempting a)) := by
    simp only [Screen.step, Screen.retry, hpending, henabled, Bool.not_true, Bool.false_eq_true,
      if_false]
  rw [Screen.proceed_work, hretry]
  rfl

section Trying

variable {s : Screen} {a : Attempt} {waits : List Wait} {result : Option (List Report)}

/-- The channel is full, and so it will be read. -/
theorem Trying.full (h : c.Trying s a waits) :
    ∃ d, c.step .free isFull = some d ∧ d.session = ⟨s, .reading (some a) :: waits, none⟩ ∧
      d.calls ≠ [] ∧ (∀ id i, attempts id i (c.noted isFull) = 0) ∧ c.batch isFull = [] := by
  obtain ⟨session, calls, fbs, h'⟩ := c
  obtain rfl : session = ⟨s, .attempting a :: waits, none⟩ := h.session
  obtain ⟨call, calls, rfl⟩ := List.exists_cons_of_ne_nil h.calls
  have hresume : s.resume (.attempting a) (.submitted (.error .channelFull) ⟨0, 0⟩) =
      some (s.halt [] (.waiting (.reading (some a)))) := rfl
  refine ⟨_, step_answer hresume allowsAnswer_free, rfl, List.cons_ne_nil _ _, fun id i => ?_, rfl⟩
  simp only [isFull, noted, hresume]
  rw [attempts_append, attempts_marks (Screen.submits_resume hresume), attempts_notes rfl]
  rfl

/-- The read changes nothing but how often nothing was found, and so the flip is tried once more. -/
theorem Trying.round {k : Nat} (h : c.Trying s a waits) (hresult : result.getD [] = [])
    (hread : Screen.proceed (s.afterRead a (.ok result)) =
      ⟨s, [.retried], .waiting (.attempting { a with idle := k })⟩) :
    ∃ d, c.play .free (fullRound result) = some d ∧ d.Trying s { a with idle := k } waits ∧
      attempts a.fanout.swap a.pipe (c.marks .free (fullRound result)) = 1 ∧
      ∀ id i, (c.batches .free (fullRound result)).countP (Batch.helps id i) = 0 := by
  obtain ⟨d, hfull, hsession, hcalls, hnone, hbatch⟩ := h.full
  obtain ⟨session, calls, fbs, h'⟩ := d
  obtain rfl : session = ⟨s, .reading (some a) :: waits, none⟩ := hsession
  obtain ⟨call, calls, rfl⟩ := List.exists_cons_of_ne_nil hcalls
  have hresume : s.resume (.reading (some a)) (.read (.ok result)) =
      some (s.afterRead a (.ok result)) := rfl
  obtain ⟨e, hstep, he⟩ : ∃ e, (Course.mk ⟨s, .reading (some a) :: waits, none⟩ (call :: calls) fbs
      h').step .free (.answer (.read (.ok result))) = some e ∧
        e.Trying s { a with idle := k } waits := by
    refine ⟨_, step_answer hresume allowsAnswer_free, ?_⟩
    rw [hread]
    exact ⟨rfl, List.cons_ne_nil _ _, h.pending, h.enabled⟩
  refine ⟨e, ?_, he, ?_, fun id i => ?_⟩
  · simp only [fullRound, play, hfull, hstep, Option.bind_some]
  · -- The attempt is noted when the flip is handed to the channel again, after the read.
    have hone : attempts a.fanout.swap a.pipe ((Course.mk ⟨s, .reading (some a) :: waits, none⟩
        (call :: calls) fbs h').noted (.answer (.read (.ok result)))) = 1 := by
      simp only [noted, hresume]
      rw [attempts_append, attempts_marks (Screen.submits_resume hresume),
        attempts_notes (Screen.submits_resume hresume), hread, attempts_submits rfl]
      exact if_pos ⟨rfl, rfl⟩
    simp only [marks, fullRound, hfull, hstep, List.nil_append]
    rw [attempts_append, hnone, hone]
  · have hread : (Course.mk ⟨s, .reading (some a) :: waits, none⟩ (call :: calls) fbs h').batch
        (.answer (.read (.ok result))) = (Wait.reading (some a)).batch (.read (.ok result)) := rfl
    simp only [batches, fullRound, hfull, hstep, hbatch, hread, List.nil_append, List.append_nil]
    cases result with
    | none => rfl
    | some reports =>
      obtain rfl : reports = [] := hresult
      simp [Wait.batch, Batch.helps]

/-- As many such rounds bring as many attempts, where `idle` says how often nothing was found before
each of them. -/
theorem Trying.rounds (idle : Nat → Nat) (result : Option (List Report))
    (hresult : result.getD [] = []) (h : c.Trying s { a with idle := idle 0 } waits) (n : Nat)
    (hread : ∀ m < n, Screen.proceed (s.afterRead { a with idle := idle m } (.ok result)) =
      ⟨s, [.retried], .waiting (.attempting { a with idle := idle (m + 1) })⟩) :
    ∃ d, c.play .free (fullRounds n result) = some d ∧ d.Trying s { a with idle := idle n } waits ∧
      attempts a.fanout.swap a.pipe (c.marks .free (fullRounds n result)) = n ∧
      ∀ id i, (c.batches .free (fullRounds n result)).countP (Batch.helps id i) = 0 := by
  -- The last round is split off, since `idle` counts from the first one.
  induction n with
  | zero => exact ⟨c, rfl, h, rfl, fun _ _ => rfl⟩
  | succ n ih =>
    obtain ⟨d, hrounds, hd, hmany, hnever⟩ := ih fun m hm => hread m (Nat.lt_succ_of_lt hm)
    obtain ⟨e, hround, he, hone, hnone⟩ := hd.round hresult (hread n (Nat.lt_succ_self n))
    have hsplit : fullRounds (n + 1) result = fullRounds n result ++ fullRound result := by
      rw [fullRounds, List.replicate_succ', List.flatten_append, List.flatten_singleton]
      rfl
    rw [hsplit]
    refine ⟨e, ?_, he, ?_, fun id i => ?_⟩
    · rw [play_append, hrounds]
      exact hround
    · rw [marks_append hrounds, attempts_append, hmany]
      rw [show attempts a.fanout.swap a.pipe (d.marks .free (fullRound result)) = 1 from hone,
        Nat.add_comm]
    · rw [batches_append hrounds, List.countP_append, hnever, hnone]

/-- Batches without a report bring any number of attempts. -/
theorem Trying.fruitless (h : c.Trying s a waits) (n : Nat) :
    ∃ d, c.play .free (fullRounds n (some [])) = some d ∧
      attempts a.fanout.swap a.pipe (c.marks .free (fullRounds n (some []))) = n ∧
      ∀ id i, (c.batches .free (fullRounds n (some []))).countP (Batch.helps id i) = 0 := by
  -- Each of these batches sets the count of reads that found nothing back to zero.
  have hread (m : Nat) : Screen.proceed (s.afterRead { a with idle := m } (.ok (some []))) =
      ⟨s, [.retried], .waiting (.attempting { a with idle := 0 })⟩ := by
    show Screen.proceed (s.work [] (.dispatch [] (.retry { a with idle := 0 }))) = _
    rw [Screen.proceed_work]
    exact proceed_retry h.pending h.enabled
  obtain ⟨d, hplay, -, hrest⟩ := Trying.rounds (fun m => if m = 0 then a.idle else 0) (some [])
    rfl h n fun m _ => hread _
  exact ⟨d, hplay, hrest⟩

/-- Reads that find nothing bring as many attempts as the configuration says. -/
theorem Trying.idles (h : c.Trying s a waits) {n : Nat}
    (hmost : a.idle + n ≤ s.config.maxIdleRetries.toNat) :
    ∃ d, c.play .free (fullRounds n none) = some d ∧
      d.Trying s { a with idle := a.idle + n } waits ∧
      attempts a.fanout.swap a.pipe (c.marks .free (fullRounds n none)) = n ∧
      ∀ id i, (c.batches .free (fullRounds n none)).countP (Batch.helps id i) = 0 :=
  Trying.rounds (fun m => a.idle + m) none rfl h n fun m hm => by
    have hless : a.idle + m < s.config.maxIdleRetries.toNat := by omega
    simp only [Screen.afterRead, if_pos hless]
    exact proceed_retry h.pending h.enabled

end Trying

/-- Whatever clients do, the configuration stays. -/
theorem config_of_play (hplay : (new pipes slots config).play conduct acts = some c) :
    c.session.screen.config = config :=
  play_induct (P := fun c => c.session.screen.config = config)
    (fun _ _ _ h hstep => (congrArg Prod.fst (settings_step hstep)).trans h) rfl hplay

/-- How patient a course is with a full channel: what is known of the attempts in a row of acts that
leads from `first` to `c`, where the configuration lets `most` retries come to nothing in a row. -/
structure Patient (first : Course) (most : Nat) (acts : List Act) (c : Course) : Prop where
  /-- A flip may be tried `most` times and once, and as often again with each batch that is read for
  it, whether there is a report in it or not. -/
  bounded : ∀ id i, attempts id i (first.marks .free acts) ≤
    ((first.batches .free acts).countP (Batch.helps id i) +
      (first.batches .free acts).countP (Batch.idles id i) + 1) * (most + 1)
  /-- If the channel stays full and nothing is found in it, the flip is given up as soon as `most`
  retries have come to nothing in a row. -/
  stalled : ∀ a waits, c.session.waits = .attempting a :: waits →
    ∃ d b, c.play .free (fullRounds (most - a.idle) none ++ [isFull]) = some d ∧
      attempts a.fanout.swap a.pipe
        (c.marks .free (fullRounds (most - a.idle) none ++ [isFull])) = most - a.idle ∧
      d.session.waits = .reading (some b) :: waits ∧ b.fanout = a.fanout ∧ b.pipe = a.pipe ∧
      d.session.screen.resume (.reading (some b)) (.read (.ok none)) =
        some (d.session.screen.fail b (.channelStalled a.submission.crtc))
  /-- While a flip is being tried, batches without a report can bring any number of attempts. -/
  unbounded : ∀ a waits, c.session.waits = .attempting a :: waits → ∀ n, ∃ more d,
    first.play .free (acts ++ more) = some d ∧
      attempts a.fanout.swap a.pipe (first.marks .free (acts ++ more)) =
        n + attempts a.fanout.swap a.pipe (first.marks .free acts) ∧
      ∀ id i, (first.batches .free (acts ++ more)).countP (Batch.helps id i) =
        (first.batches .free acts).countP (Batch.helps id i)

/-- Whatever the device and the channel say and the handlers call: the attempts are bounded by the
batches that are read for them, but not by those with a report in them. -/
theorem attempts_bounded (hplay : (new pipes slots config).play .free acts = some c) :
    (new pipes slots config).Patient config.maxIdleRetries.toNat acts c := by
  have hnew : (new pipes slots config).session.Thrifts config.maxIdleRetries.toNat [] [] :=
    ⟨fun w hw => absurd hw List.not_mem_nil, fun _ _ => Nat.zero_le _⟩
  have hthrifts := thrifts_of_play hnew (tidy_new pipes slots config) rfl hplay
  rw [List.append_nil, List.append_nil] at hthrifts
  refine ⟨fun id i => ?_, fun a waits hw => ?_, fun a waits hw n => ?_⟩
  · rw [← Batch.countP_isFor]
    exact hthrifts.all id i
  · have hidle : a.idle ≤ config.maxIdleRetries.toNat :=
      (hthrifts.own (.attempting a) (hw ▸ List.mem_cons_self) (.trying a) rfl).1
    have hmost : a.idle + (config.maxIdleRetries.toNat - a.idle) =
        c.session.screen.config.maxIdleRetries.toNat := by
      rw [config_of_play hplay]
      omega
    obtain ⟨d, hrounds, hd, hmany, -⟩ := (trying_of_play hplay hw).idles (Nat.le_of_eq hmost)
    obtain ⟨e, hfull, hsession, -, hnone, -⟩ := hd.full
    refine ⟨e, { a with idle := _ }, ?_, ?_, congrArg Session.waits hsession, rfl, rfl, ?_⟩
    · rw [play_append, hrounds, Option.bind_some, play, hfull]
      rfl
    · have hnoted : d.marks .free [isFull] = d.noted isFull := by
        simp only [marks, hfull, List.nil_append]
      rw [marks_append hrounds, attempts_append, hmany, hnoted, hnone, Nat.zero_add]
    · rw [hsession]
      simp only [Screen.resume, Screen.afterRead, hmost, Nat.lt_irrefl, if_false]
  · obtain ⟨d, hmore, hattempts, hbatches⟩ := (trying_of_play hplay hw).fruitless n
    refine ⟨fullRounds n (some []), d, ?_, ?_, fun id i => ?_⟩
    · rw [play_append, hplay]
      exact hmore
    · rw [marks_append hplay, attempts_append, hattempts]
    · rw [batches_append hplay, List.countP_append, hbatches, Nat.zero_add]

open Sample in
/-- A first swap is about to be tried. -/
def firstAttempt : List Act := [swap 0, brings 100].filterMap Move.act?

/-- A record on a flip that is not one of this library. -/
def foreignRecord : EventRecord := .ofFlip 0 10 1 31

/-- Without a single report it may be tried more often than `maxIdleRetries` and once. The channel
need only have records like the foreign one. -/
theorem firstAttempt_outlasts :
    (Kernel.Events.ofBytes foreignRecord.bytes).answer = .ok (some []) ∧
    ∃ more d, (new Sample.pipes Sample.slots .default).play .free (firstAttempt ++ more) = some d ∧
      ((new Sample.pipes Sample.slots .default).batches .free (firstAttempt ++ more)).countP
        (Batch.helps 0 0) = 0 ∧
      Config.default.maxIdleRetries.toNat + 1 <
        attempts 0 0 ((new Sample.pipes Sample.slots .default).marks .free
          (firstAttempt ++ more)) := by
  have hintact : EventRecords.ofBytes foreignRecord.bytes = ⟨[foreignRecord], true⟩ := by cbv
  refine ⟨answer_ofBytes_eq_nil_iff.2 (hintact ▸ by decide), ?_⟩
  obtain ⟨c, a, hplay, hwaits, hswap, hpipe⟩ :
      ∃ c a, (new Sample.pipes Sample.slots .default).play .free firstAttempt = some c ∧
        c.session.waits = [.attempting a] ∧ a.fanout.swap = 0 ∧ a.pipe = 0 :=
    ⟨_, _, rfl, rfl, rfl, rfl⟩
  have hmarks : attempts 0 0 ((new Sample.pipes Sample.slots .default).marks .free
      firstAttempt) = 1 := by decide
  obtain ⟨more, d, hmore, hattempts, hhelps⟩ :=
    (attempts_bounded hplay).unbounded a [] hwaits (Config.default.maxIdleRetries.toNat + 1)
  rw [hswap, hpipe, hmarks] at hattempts
  refine ⟨more, d, hmore, ?_, ?_⟩
  · rw [hhelps]
    rfl
  · rw [hattempts]
    exact Nat.lt_succ_self _

end Course

end PageFlip
