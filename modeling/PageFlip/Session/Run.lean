import PageFlip.Session.Step

/-!
# Carrying out tasks up to rest

`Screen.run` carries out a task and those that follow on it until the operation comes to rest. A
task only leads to lighter ones (`weight_lt_of_step`), so it always does, and `run_eq` unfolds a
run step by step.
-/

namespace PageFlip

namespace Screen

/-- The report of what a swap returns weighs no more than a line for the log. -/
theorem weight_report_le (f : Fanout) (error : Option SwapError) :
    (f.report error).weight ≤ 1 := by
  unfold Fanout.report
  split
  · cases error <;> simp [Task.weight]
  · simp [Task.weight]

section Weight

variable {s : Screen} {t next : Task}

/-- Settling a swap leads to no task but the next one. -/
theorem settle_next {id : SwapId} {result : Except Violation (Barrier × Option Verdict)}
    {client : Client} (h : (s.settle id result client next).next = .inl t) : t = next := by
  unfold settle at h
  split at h <;> simp_all [halt, work]

/-- Settling a flip leads to no task but the next one. -/
theorem settleFlip_next {f : Flip} {stamp : Option Stamp}
    (h : (s.settleFlip f stamp next).next = .inl t) : t = next := by
  unfold settleFlip at h
  split at h
  · simp_all [work]
  · exact settle_next h

/-- Releasing a swap leads to no task but the next one. -/
theorem release_next {id : SwapId} (h : (s.release id next).next = .inl t) : t = next := by
  unfold release at h
  split at h
  · simp_all [work]
  · exact settle_next h

/-- Delivering an event leads to no task but the next one. -/
theorem deliver_next {event : Event} {stamp : Option Stamp}
    (h : (s.deliver event stamp next).next = .inl t) : t = next := by
  unfold deliver at h
  split at h
  · exact settleFlip_next h
  · simp [halt] at h

/-- Resolving a token leads to no task but the next one. -/
theorem resolve_next {token : Token} {stamp : Option Stamp}
    (h : (s.resolve token stamp next).next = .inl t) : t = next := by
  unfold resolve at h
  split at h
  · simp [halt] at h
  · exact deliver_next h

/-- Dispatching a report leads to no task but the next one. -/
theorem dispatch_next {report : Report} (h : (s.dispatch report next).next = .inl t) :
    t = next := by
  unfold dispatch at h
  split at h
  · simp_all [work]
  · exact resolve_next h

/-- Giving up a framebuffer leads to no task but the next one. -/
theorem reclaim_next {id : SwapId} {verdict : Verdict}
    (h : (s.reclaim id verdict next).next = .inl t) : t = next := by
  unfold reclaim at h
  split at h
  · simp_all [work]
  · simp only at h
    split at h <;> simp_all [halt, work]

/-- Trying a pipe rests unless there is no token. -/
theorem tryPipe_next {f : Fanout} {i : Nat} {p : Pipe}
    (h : (s.tryPipe f i p).next = .inl t) : t = .conclude f (some .sequenceExhausted) := by
  unfold tryPipe at h
  split at h
  · simp_all [work]
  · simp only at h
    split at h
    · simp [halt] at h
    · split at h <;> simp [halt] at h

end Weight

/-- A task leads to a lighter one, if it does not bring the operation to rest. -/
theorem weight_lt_of_step {s : Screen} {t u : Task} (h : (s.step t).next = .inl u) :
    u.weight < t.weight := by
  unfold step at h
  split at h
  case h_1 f =>
    unfold fan at h
    split at h
    · simp only [work, Sum.inl.injEq] at h; subst h; simp [Task.weight]
    case _ i rest hrest =>
      simp only at h
      split at h
      · simp only [work, Sum.inl.injEq] at h; subst h; simp [Task.weight, hrest]
      · split at h
        · rw [tryPipe_next h]; simp [Task.weight]
        · simp only [work, Sum.inl.injEq] at h; subst h; simp [Task.weight, hrest]
  case h_2 a =>
    unfold retry at h
    simp only at h
    split at h
    · simp only [work, Sum.inl.injEq] at h; subst h; simp [Task.weight]
    · split at h
      · rw [resolve_next h]; simp [Task.weight]
      · simp [halt] at h
  case h_3 f error =>
    rw [release_next h]
    have := weight_report_le f error
    simp only [Task.weight]; omega
  case h_4 => simp_all [work, Task.weight]
  case h_5 => rw [dispatch_next h]; simp [Task.weight]
  case h_6 => simp_all [work, Task.weight]
  case h_7 => rw [deliver_next h]; simp [Task.weight]
  case h_8 => rw [reclaim_next h]; simp [Task.weight]
  case h_9 => simp_all [work, Task.weight]
  case h_10 => simp [halt] at h

/-- Carries out tasks until the operation comes to rest, at most `fuel` of them. -/
def runWithin (fuel : Nat) (s : Screen) (t : Task) (h : t.weight < fuel) : Progress Rest :=
  match fuel, h with
  | fuel + 1, h =>
    let p := s.step t
    match hp : p.next with
    | .inl u =>
      (p.screen.runWithin fuel u (by have := weight_lt_of_step hp; omega)).after p.notices
    | .inr rest => ⟨p.screen, p.notices, rest⟩

/-- Carries out tasks until the operation comes to rest. -/
def run (s : Screen) (t : Task) : Progress Rest :=
  s.runWithin (t.weight + 1) t (Nat.lt_succ_self _)

/-- Goes on from a progress until the operation comes to rest. -/
def proceed (p : Progress Follow) : Progress Rest :=
  match p.next with
  | .inl t => (p.screen.run t).after p.notices
  | .inr rest => ⟨p.screen, p.notices, rest⟩

/-- The number of steps that are allowed makes no difference. -/
theorem runWithin_eq {s : Screen} {t : Task} {m n : Nat} (hm : t.weight < m) (hn : t.weight < n) :
    s.runWithin m t hm = s.runWithin n t hn := by
  induction m generalizing n s t with
  | zero => omega
  | succ m ih =>
    cases n with
    | zero => omega
    | succ n =>
      simp only [runWithin]
      split
      · rw [ih]
      · rfl

/-- A run carries out its first task and goes on from there. -/
theorem run_eq (s : Screen) (t : Task) : s.run t = proceed (s.step t) := by
  unfold run proceed
  simp only [runWithin]
  split <;> rename_i u hu
  · conv => rhs; rw [hu]
    simp only [run]
    rw [runWithin_eq]
  · conv => rhs; rw [hu]

end Screen

end PageFlip
