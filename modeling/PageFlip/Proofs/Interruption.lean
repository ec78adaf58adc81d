import PageFlip.Proofs.Reading

/-!
# Interrupted calls to the kernel

A request to the kernel is made again when it was interrupted or would have to wait, and so is a
poll. A read is made once: that it would have to wait means that there is nothing to read, but an
interruption is passed on.

`Service` is a session on a device node that keeps the calls to the kernel that were made for each
operation. `Service.transient_error_iff` says which of its operations return an error that is only
transient: those for which a read was interrupted, unless the kernel took a flip for them before,
since then a swap has succeeded.

What an operation knows of its calls is `Ending.Accounts`. Each part of an operation keeps it
(`Screen.accounts_step`), and an answer keeps it if it says what the calls came to
(`Screen.accounts_resume`, `Kernel.tells_reply`).
-/

namespace PageFlip

/-! ## Error numbers of failures -/

/-- The error number that a failure of the device carries. -/
def DeviceError.errno : DeviceError → Errno
  | addFramebuffer e => e
  | removeFramebuffer e => e

/-- The error number that a failure to read events carries, if any. -/
def ChannelError.errno? : ChannelError → Option Errno
  | poll e => some e
  | read e => some e
  | invalidRead => none

/-- The error number that a failure to submit a flip carries, if any. -/
def SubmitError.errno? : SubmitError → Option Errno
  | channelFull => none
  | rejected e => some e

/-- The error number that a failed swap carries, if any. -/
def SwapError.errno? : SwapError → Option Errno
  | importFramebuffer e => some e.errno
  | submit _ e => some e
  | drain e => e.errno?
  | sequenceExhausted | channelStalled _ | noPipes => none

/-- The error number that an operation returns, if any. -/
def Outcome.errno? : Outcome → Option Errno
  | swapped (.error e) => e.errno?
  | drained (.error e) => e.errno?
  | submitted (.error e) => e.errno?
  | _ => none

/-- The error number that the device or the channel answers with, if any. -/
def Answer.errno? : Answer → Option Errno
  | imported (.error e) => some e.errno
  | submitted (.error e) _ => e.errno?
  | read (.error e) => e.errno?
  | destroyed (.error e) => some e.errno
  | _ => none

/-- The error number is only transient. -/
def IsTransient (e : Option Errno) : Prop := ∃ cause, e = some cause ∧ cause.isTransient = true

/-- Without an error number nothing is transient. -/
theorem not_isTransient_none : ¬ IsTransient none := nofun

/-- An interruption is transient. -/
theorem isTransient_interrupted : IsTransient (some .interrupted) := ⟨_, rfl, rfl⟩

/-- Which error numbers are transient is decided by the number. -/
theorem isTransient_some {e : Errno} : IsTransient (some e) ↔ e.isTransient = true :=
  ⟨fun ⟨_, heq, h⟩ => Option.some.inj heq ▸ h, fun h => ⟨e, rfl, h⟩⟩

/-- A transient error other than the one that says to come back later is an interruption. -/
theorem eq_interrupted {e : Errno} (h : IsTransient (some e)) (hagain : e ≠ .again) :
    e = .interrupted := by
  have htransient := isTransient_some.1 h
  rw [Errno.isTransient, Bool.or_eq_true, beq_iff_eq, beq_iff_eq] at htransient
  exact htransient.resolve_right hagain

/-! ## Calls to the kernel -/

namespace Kernel

/-- A read was interrupted. -/
def Interrupted (calls : List Call) : Prop := ∃ size, .read size (.error .interrupted) ∈ calls

/-- The kernel took a flip. -/
def TookFlip (calls : List Call) : Prop := ∃ f fb, .request (.flip f) none fb ∈ calls

/-- The calls that a device node makes for an operation that waits. -/
def callsFor (k : Script) : Wait → List Call
  | .importing p => (importFramebuffer k p.request.buffer).calls
  | .attempting a => (submit k a.submission).calls
  | .submitting f => (submit k f).calls
  | .reading _ => (readEvents k).calls
  | .telling .. => []
  | .destroying fb _ => (removeFramebuffer k fb).calls

variable {calls more : List Call} {k : Script}

/-- A read was interrupted before or later. -/
theorem interrupted_append :
    Interrupted (calls ++ more) ↔ Interrupted calls ∨ Interrupted more := by
  simp only [Interrupted, List.mem_append, exists_or]

/-- The kernel took a flip before or later. -/
theorem tookFlip_append : TookFlip (calls ++ more) ↔ TookFlip calls ∨ TookFlip more := by
  simp only [TookFlip, List.mem_append, exists_or]

/-- A request reads nothing. -/
theorem not_interrupted_requestCalls (request : Request) (s : Settled Result) (fb : Framebuffer) :
    ¬ Interrupted (requestCalls request s fb) := by
  rintro ⟨size, h⟩
  simp [requestCalls] at h

/-- The kernel takes a flip with the result of the request that counts. -/
theorem tookFlip_requestCalls_iff {request : Request} {s : Settled Result} {fb : Framebuffer} :
    TookFlip (requestCalls request s fb) ↔ s.result = none ∧ ∃ f, request = .flip f := by
  constructor
  · rintro ⟨f, fb', h⟩
    simp only [requestCalls, List.mem_append, List.mem_map, Call.request.injEq,
      List.mem_singleton] at h
    rcases h with ⟨e, -, -, hresult, -⟩ | ⟨hrequest, hresult, -⟩
    · cases hresult
    · exact ⟨hresult.symm, f, hrequest.symm⟩
  · rintro ⟨hresult, f, rfl⟩
    exact ⟨f, fb, List.mem_append_right _ (by rw [hresult]; exact List.mem_singleton_self _)⟩

/-- A poll neither reads anything nor flips. -/
theorem calls_pollReadable (k : Script) :
    ¬ Interrupted (pollReadable k).calls ∧ ¬ TookFlip (pollReadable k).calls := by
  constructor
  · rintro ⟨size, h⟩
    simp [pollReadable] at h
  · rintro ⟨f, fb, h⟩
    simp [pollReadable] at h

/-- A poll fails for good, if at all. -/
theorem pollReadable_lasting {e : ChannelError} (h : (pollReadable k).result = .error e) :
    ∃ cause, e = .poll cause ∧ cause.isTransient = false := by
  simp only [pollReadable] at h
  split at h
  · rename_i cause hfailed
    exact ⟨cause, (Except.error.inj h).symm, settlePoll_not_transient _ hfailed⟩
  · cases h

/-- A read is one call, whose result it passes on. -/
theorem calls_read (k : Script) :
    (Interrupted (read k).calls ↔ (read k).result = .error .interrupted) ∧
      ¬ TookFlip (read k).calls := by
  unfold read
  split
  · rename_i e rest hreads
    simp [Interrupted, TookFlip, eq_comm]
  · simp [Interrupted, TookFlip]

/-- A poll and the read behind it: only an interruption of the read is passed on. -/
theorem calls_pollThenRead (k : Script) :
    (Interrupted ((pollReadable k).calls ++ (read (pollReadable k).script).calls) ↔
        (read (pollReadable k).script).result = .error .interrupted) ∧
      ¬ TookFlip ((pollReadable k).calls ++ (read (pollReadable k).script).calls) := by
  obtain ⟨hpollRead, hpollFlip⟩ := calls_pollReadable k
  obtain ⟨hread, hreadFlip⟩ := calls_read (pollReadable k).script
  constructor
  · rw [interrupted_append, or_iff_right hpollRead, hread]
  · rw [tookFlip_append]
    exact not_or.2 ⟨hpollFlip, hreadFlip⟩

end Kernel

/-- What calls came to is what the answer says: a read was interrupted exactly if this is passed on,
the kernel took a flip exactly if the channel accepted it, and no other failure is transient. -/
structure Answer.Tells (calls : List Kernel.Call) (a : Answer) : Prop where
  interrupted : Kernel.Interrupted calls ↔ a = .read (.error (.read .interrupted))
  tookFlip : Kernel.TookFlip calls ↔ ∃ now, a = .submitted (.ok ()) now
  lasting : IsTransient a.errno? → a = .read (.error (.read .interrupted))

/-- Answers that carry no transient error, after calls of which none was an interrupted read. -/
theorem Answer.Tells.of_lasting {calls : List Kernel.Call} {a : Answer}
    (hinterrupted : ¬ Kernel.Interrupted calls)
    (htookFlip : Kernel.TookFlip calls ↔ ∃ now, a = .submitted (.ok ()) now)
    (hlasting : ¬ IsTransient a.errno?) : a.Tells calls where
  interrupted := iff_of_false hinterrupted fun h => hlasting (h ▸ isTransient_interrupted)
  tookFlip := htookFlip
  lasting h := absurd h hlasting

namespace Kernel

/-- No record that is read carries an error number. -/
theorem errno?_ofBytes (bytes : List UInt8) :
    (Answer.read (Events.ofBytes bytes).answer).errno? = none := by
  unfold Events.ofBytes Events.answer
  dsimp only
  split_ifs <;> rfl

/-- What a look at the channel tells. -/
theorem tells_readEvents (k : Script) :
    (Answer.read (readEvents k).result.answer).Tells (readEvents k).calls := by
  obtain ⟨hpollRead, hpollFlip⟩ := calls_pollReadable k
  have hnoFlip {calls : List Call} (h : ¬ TookFlip calls) (result) :
      TookFlip calls ↔ ∃ now, Answer.read result = .submitted (.ok ()) now :=
    iff_of_false h nofun
  unfold readEvents
  dsimp only
  split
  · rename_i e hfailed
    obtain ⟨cause, rfl, hlasting⟩ := pollReadable_lasting hfailed
    refine .of_lasting hpollRead (hnoFlip hpollFlip _) fun h => ?_
    rw [isTransient_some.1 h] at hlasting
    cases hlasting
  · exact .of_lasting hpollRead (hnoFlip hpollFlip _) not_isTransient_none
  · obtain ⟨hinterrupted, hflip⟩ := calls_pollThenRead k
    dsimp only
    split
    · rename_i bytes hresult
      refine .of_lasting ?_ (hnoFlip hflip _) ?_
      · rw [hinterrupted, hresult]
        nofun
      · rw [errno?_ofBytes]
        exact not_isTransient_none
    · rename_i e hresult
      rw [hresult, Except.error.injEq] at hinterrupted
      split_ifs with hagain
      · -- There is nothing to read yet.
        refine .of_lasting ?_ (hnoFlip hflip _) not_isTransient_none
        rw [hinterrupted, hagain]
        decide
      · refine ⟨hinterrupted.trans ?_, hnoFlip hflip _, fun h => ?_⟩
        · exact ⟨fun h => h ▸ rfl, fun h => by cases h; rfl⟩
        · rw [eq_interrupted h hagain]
          rfl

/-- The channel accepts a flip exactly if its request succeeded. -/
theorem submitResult_eq_ok_iff {result : Result} :
    submitResult result = .ok () ↔ result = none := by
  cases result with
  | none => exact iff_of_true rfl rfl
  | some e =>
    refine iff_of_false ?_ nofun
    unfold submitResult
    dsimp only
    split_ifs <;> nofun

/-- The channel rejects a flip with the error number of its request. -/
theorem eq_of_submitResult_rejected {result : Result} {e : Errno}
    (h : submitResult result = .error (.rejected e)) : result = some e := by
  cases result with
  | none => cases h
  | some cause =>
    unfold submitResult at h
    dsimp only at h
    split_ifs at h
    · cases h
    · cases h
      rfl

/-- What the channel says of a flip. -/
theorem tells_submit (k : Script) (f : Submission) (now : Instant) :
    (Answer.submitted (submit k f).result now).Tells (submit k f).calls := by
  let settled := settle ((k.flips.find? f.crtc).getD [])
  have hresult : (submit k f).result = submitResult settled.result := rfl
  refine .of_lasting (not_interrupted_requestCalls _ settled _) ?_ ?_
  · refine tookFlip_requestCalls_iff.trans ?_
    rw [hresult, ← submitResult_eq_ok_iff]
    exact ⟨fun ⟨hok, _⟩ => ⟨now, by rw [hok]⟩,
      fun ⟨_, hok⟩ => ⟨(Answer.submitted.inj hok).1, f, rfl⟩⟩
  · rintro ⟨cause, hcause, htransient⟩
    rw [hresult] at hcause
    match hsubmit : submitResult settled.result, hcause with
    | .error (.rejected e), hcause =>
      cases hcause
      have hlasting := settle_not_transient _ (eq_of_submitResult_rejected hsubmit)
      rw [htransient] at hlasting
      cases hlasting

/-- A request for a framebuffer takes no flip, and what it fails with is not transient. -/
theorem tells_request {request : Request} (hrequest : ∀ f, request ≠ .flip f)
    {script : List Result} {fb : Framebuffer} {a : Answer}
    (hanswer : ∀ result now, a ≠ .submitted result now)
    (herrno : ∀ cause, a.errno? = some cause → (settle script).result = some cause) :
    a.Tells (requestCalls request (settle script) fb) := by
  refine .of_lasting (not_interrupted_requestCalls _ _ _) ?_ ?_
  · rw [tookFlip_requestCalls_iff]
    refine iff_of_false ?_ ?_
    · rintro ⟨-, f, hflip⟩
      exact hrequest f hflip
    · rintro ⟨now, h⟩
      exact hanswer _ _ h
  · rintro ⟨cause, hcause, htransient⟩
    have hlasting := settle_not_transient _ (herrno cause hcause)
    rw [htransient] at hlasting
    cases hlasting

/-- A device node answers what its calls came to. -/
theorem tells_reply {k : Script} {now : Instant} {w : Wait} {r : Reply}
    (hreply : reply k now w = some r) : r.answer.Tells (callsFor k w) := by
  cases w with
  | importing p =>
    cases hreply
    simp only [callsFor, importFramebuffer]
    split
    · exact tells_request (fun f h => by cases h) nofun nofun
    · rename_i e hresult
      refine tells_request (fun f h => by cases h) nofun fun cause hcause => ?_
      rw [hresult]
      exact hcause
  | attempting a =>
    cases hreply
    exact tells_submit k _ now
  | submitting f =>
    cases hreply
    exact tells_submit k f now
  | reading owner =>
    cases hreply
    exact tells_readEvents k
  | telling news next => cases hreply
  | destroying fb next =>
    cases hreply
    refine tells_request (fun f h => by cases h) nofun fun cause hcause => ?_
    cases hresult : (settle k.removals).result with
    | none =>
      simp only [removeFramebuffer, hresult] at hcause
      cases hcause
    | some e =>
      simp only [removeFramebuffer, hresult] at hcause
      exact hcause

end Kernel

/-! ## What an operation knows of its calls -/

/-- The error that a swap meets when it reads the channel and is interrupted. -/
def interruptedDrain : SwapError := .drain (.read .interrupted)

/-- What an operation returns after a read was interrupted. -/
def Outcome.IsInterrupted (o : Outcome) : Prop :=
  o = .drained (.error (.read .interrupted)) ∨ o = .swapped (.error interruptedDrain)

/-- What an operation has come to, after all calls that were made for it. -/
def Ending.Accounts (calls : List Kernel.Call) : Ending → Prop
  | importing _ | reading => ¬ Kernel.Interrupted calls ∧ ¬ Kernel.TookFlip calls
  | flipping _ submitted error =>
    (Kernel.TookFlip calls ↔ 0 < submitted) ∧
      (Kernel.Interrupted calls ↔ error = some interruptedDrain) ∧
      (IsTransient (error.bind SwapError.errno?) → error = some interruptedDrain)
  | returning o =>
    (IsTransient o.errno? ↔ Kernel.Interrupted calls ∧ ¬ Kernel.TookFlip calls) ∧
      (IsTransient o.errno? → o.IsInterrupted)

/-- The same of an operation that goes on or has come to rest, unless a rule is broken. -/
def Follow.Accounts (calls : List Kernel.Call) : Follow → Prop
  | .inl t => t.ending.Accounts calls
  | .inr (.waiting w) => w.ending.Accounts calls
  | .inr (.finished o) => (Ending.returning o).Accounts calls
  | .inr (.violated _) => True

variable {calls made : List Kernel.Call}

/-- Calls that neither were interrupted nor flipped make no difference. -/
theorem Ending.Accounts.append {e : Ending} (h : e.Accounts calls)
    (hinterrupted : ¬ Kernel.Interrupted made) (htookFlip : ¬ Kernel.TookFlip made) :
    e.Accounts (calls ++ made) := by
  have hI : Kernel.Interrupted (calls ++ made) ↔ Kernel.Interrupted calls := by
    rw [Kernel.interrupted_append, or_iff_left hinterrupted]
  have hF : Kernel.TookFlip (calls ++ made) ↔ Kernel.TookFlip calls := by
    rw [Kernel.tookFlip_append, or_iff_left htookFlip]
  cases e <;> simpa only [Ending.Accounts, hI, hF] using h

/-- Answers that report neither an interruption nor that a flip was taken make no difference. -/
theorem Ending.Accounts.answered {e : Ending} {a : Answer} (h : e.Accounts calls)
    (htells : a.Tells made) (hread : a ≠ .read (.error (.read .interrupted)))
    (hflip : ∀ now, a ≠ .submitted (.ok ()) now) : e.Accounts (calls ++ made) := by
  refine h.append (fun hinterrupted => hread (htells.interrupted.1 hinterrupted)) fun htook => ?_
  obtain ⟨now, hnow⟩ := htells.tookFlip.1 htook
  exact hflip now hnow

/-- A swap that was not interrupted so far meets an error that does not come from a read. -/
theorem Ending.Accounts.meets {id : SwapId} {n : Nat} {e : SwapError}
    (h : (Ending.flipping id n none).Accounts calls) (he : ¬ IsTransient e.errno?) :
    (Ending.flipping id n (some e)).Accounts calls := by
  obtain ⟨htookFlip, hinterrupted, -⟩ := h
  have hne : some e ≠ some interruptedDrain := by
    rintro ⟨⟩
    exact he isTransient_interrupted
  exact ⟨htookFlip, hinterrupted.trans (iff_of_false nofun hne), fun htransient =>
    absurd htransient he⟩

/-- A swap reports the error that it met, unless the kernel took a flip. -/
theorem Ending.Accounts.report {f : Fanout} {error : Option SwapError}
    (h : (Ending.flipping f.swap f.submitted error).Accounts calls) :
    (f.report error).ending.Accounts calls := by
  obtain ⟨htookFlip, hinterrupted, htransient⟩ := h
  unfold Fanout.report
  split_ifs with hsubmitted
  · -- A flip was taken: the swap succeeds, whatever its calls met.
    have hdone : (Ending.returning (.swapped (.ok ()))).Accounts calls :=
      ⟨iff_of_false not_isTransient_none fun hnone => hnone.2 (htookFlip.2 hsubmitted),
        fun hnone => absurd hnone not_isTransient_none⟩
    split
    · exact hdone
    · exact hdone
  · -- No flip was taken: the swap ends with what the last call met.
    have hnoFlip : ¬ Kernel.TookFlip calls := fun htook => hsubmitted (htookFlip.1 htook)
    have herrno : (error.getD .noPipes).errno? = error.bind SwapError.errno? := by
      cases error <;> rfl
    show (Ending.returning (.swapped (.error (error.getD .noPipes)))).Accounts calls
    constructor
    · show IsTransient (error.getD .noPipes).errno? ↔ _
      rw [herrno, and_iff_left hnoFlip, hinterrupted]
      refine ⟨htransient, ?_⟩
      rintro rfl
      exact isTransient_interrupted
    · intro hmet
      have hmet : IsTransient (error.getD .noPipes).errno? := hmet
      rw [herrno] at hmet
      rw [htransient hmet]
      exact .inr rfl

namespace Screen

variable {s : Screen} {next : Task}

/-- An operation that goes on with a task has come to what the task has. -/
theorem accounts_of_continues {f : Follow} (hf : f.Continues next)
    (hnext : next.ending.Accounts calls) : f.Accounts calls := by
  cases hf with
  | violated v => trivial
  | _ => exact hnext

/-- The swap goes on to the next pipe. -/
theorem accounts_fan {f : Fanout}
    (h : (Ending.flipping f.swap f.submitted none).Accounts calls) :
    (s.fan f).next.Accounts calls := by
  unfold fan
  split
  · exact h
  · dsimp only
    split
    · exact h
    · split_ifs
      · unfold tryPipe
        split
        · exact h.meets not_isTransient_none
        · dsimp only
          split
          · exact h
          · split
            · trivial
            · exact h
      · exact h

/-- A flip is tried again, or it is given up because its pipe is disabled. -/
theorem accounts_retry {a : Attempt}
    (h : (Ending.flipping a.fanout.swap a.fanout.submitted none).Accounts calls) :
    (s.retry a).next.Accounts calls := by
  unfold retry
  dsimp only
  split_ifs
  · exact h
  · exact accounts_of_continues continues_resolve h
  · exact h

/-- Each part of an operation keeps what the operation knows of its calls. -/
theorem accounts_step {t : Task} (h : t.ending.Accounts calls) :
    (s.step t).next.Accounts calls := by
  cases t with
  | fan f => exact accounts_fan h
  | retry a => exact accounts_retry h
  | conclude f error => exact accounts_of_continues continues_release h.report
  | dispatch due next =>
    cases due with
    | nil => exact h
    | cons report rest => exact accounts_of_continues continues_dispatch h
  | abort events next =>
    cases events with
    | nil => exact h
    | cons event rest => exact accounts_of_continues continues_deliver h
  | reclaim id verdict next => exact accounts_of_continues continues_reclaim h
  | say notice next => exact h
  | finish outcome => exact h

/-- Where the operation comes to rest it knows of its calls what it knew before. -/
theorem accounts_proceed {p : Progress Follow} (h : p.next.Accounts calls) :
    Follow.Accounts calls (.inr (proceed p).next) :=
  proceed_induct (P := fun _ f _ => f.Accounts calls) (h := [])
    (fun _ _ _ ht => accounts_step ht) h

/-- An operation starts without calls. -/
theorem accounts_start (s : Screen) (op : Operation) : (s.start op).next.Accounts [] := by
  have hread : ¬ Kernel.Interrupted [] := by
    rintro ⟨size, h⟩
    cases h
  have hflip : ¬ Kernel.TookFlip [] := by
    rintro ⟨f, fb, h⟩
    cases h
  -- What returns at once returns no error number.
  have hreturning {o : Outcome} (ho : o.errno? = none) : (Ending.returning o).Accounts [] := by
    refine ⟨iff_of_false ?_ fun h => hread h.1, fun h => ?_⟩
    · rw [ho]
      exact not_isTransient_none
    · rw [ho] at h
      exact absurd h not_isTransient_none
  cases op with
  | swap r => exact ⟨hread, hflip⟩
  | drain => exact ⟨hread, hflip⟩
  | disable crtc =>
    simp only [start, disable]
    split
    · exact hreturning rfl
    · unfold retirePipe
      dsimp only
      show Task.ending (if _ then _ else _) |>.Accounts []
      split_ifs <;> exact hreturning rfl
  | enable crtc =>
    simp only [start, enable]
    split
    · exact hreturning rfl
    · exact hreturning rfl
  | enqueue crtc client =>
    simp only [start]
    split
    · exact hreturning rfl
    · exact hreturning rfl
  | submit submission => exact ⟨hread, hflip⟩
  | abortPipe crtc => exact hreturning rfl
  | resolve token stamp => exact accounts_of_continues continues_resolve (hreturning rfl)
  | settle flip stamp => exact accounts_of_continues continues_settleFlip (hreturning rfl)
  | release id => exact accounts_of_continues continues_release (hreturning rfl)

/-- A swap that read the channel because it was full goes on with the calls of the read. -/
theorem accounts_afterRead {b : Attempt} {result : Except ChannelError (Option (List Report))}
    (h : (Ending.flipping b.fanout.swap b.fanout.submitted none).Accounts calls)
    (htells : (Answer.read result).Tells made) :
    (s.afterRead b result).next.Accounts (calls ++ made) := by
  have hflip : ¬ Kernel.TookFlip made := fun htook => by
    obtain ⟨now, hnow⟩ := htells.tookFlip.1 htook
    cases hnow
  have hlasting (hresult : result ≠ .error (.read .interrupted)) :
      (Ending.flipping b.fanout.swap b.fanout.submitted none).Accounts (calls ++ made) :=
    h.append (fun hread => hresult (Answer.read.inj (htells.interrupted.1 hread))) hflip
  rcases result with e | _ | due
  · refine accounts_of_continues continues_fail ?_
    by_cases he : e = .read .interrupted
    · subst he
      refine ⟨?_, iff_of_true ?_ rfl, fun _ => rfl⟩
      · rw [Kernel.tookFlip_append, or_iff_left hflip]
        exact h.1
      · exact Kernel.interrupted_append.2 (.inr (htells.interrupted.2 rfl))
    · refine (hlasting fun hresult => he (Except.error.inj hresult)).meets fun htransient => he ?_
      exact Except.error.inj (Answer.read.inj (htells.lasting htransient))
  · have hidle := hlasting fun hresult => by cases hresult
    simp only [afterRead]
    split_ifs
    · exact hidle
    · exact accounts_of_continues continues_fail (hidle.meets not_isTransient_none)
  · exact hlasting fun hresult => by cases hresult

/-- A client's own read of the channel returns what it was answered. -/
theorem accounts_afterDrain {result : Except ChannelError (Option (List Report))}
    (h : Ending.reading.Accounts calls) (htells : (Answer.read result).Tells made) :
    (s.afterDrain result).next.Accounts (calls ++ made) := by
  obtain ⟨hread, hflip⟩ := h
  have hnoFlip : ¬ Kernel.TookFlip (calls ++ made) := by
    rw [Kernel.tookFlip_append, htells.tookFlip]
    exact not_or.2 ⟨hflip, nofun⟩
  have hinterrupted :
      Kernel.Interrupted (calls ++ made) ↔ result = .error (.read .interrupted) := by
    rw [Kernel.interrupted_append, or_iff_right hread, htells.interrupted, Answer.read.injEq]
  have hreturning {o : Outcome} (ho : o.errno? = (Answer.read result).errno?)
      (hdrained : result = .error (.read .interrupted) → o.IsInterrupted) :
      (Ending.returning o).Accounts (calls ++ made) := by
    have htransient : IsTransient o.errno? ↔ result = .error (.read .interrupted) := by
      rw [ho]
      refine ⟨fun h => Answer.read.inj (htells.lasting h), ?_⟩
      rintro rfl
      exact isTransient_interrupted
    exact ⟨by rw [htransient, hinterrupted, and_iff_left hnoFlip],
      fun h => hdrained (htransient.1 h)⟩
  rcases result with e | _ | due
  · exact hreturning rfl fun h => .inl (by rw [Except.error.inj h])
  · exact hreturning rfl nofun
  · exact hreturning rfl nofun

/-- An answer that says what the calls for it came to keeps what the operation knows. -/
theorem accounts_resume {w : Wait} {a : Answer} {p : Progress Follow} (h : w.ending.Accounts calls)
    (hp : s.resume w a = some p) (htells : a.Tells made) : p.next.Accounts (calls ++ made) := by
  unfold resume at hp
  split at hp
  all_goals cases hp
  · -- The framebuffer of a swap is imported, and its first pipe comes next.
    obtain ⟨hread, hflip⟩ := h.answered htells nofun nofun
    exact ⟨iff_of_false hflip (Nat.lt_irrefl 0), iff_of_false hread nofun,
      fun hnone => absurd hnone not_isTransient_none⟩
  · -- The import fails with an error that is not transient.
    rename_i e
    obtain ⟨hread, hflip⟩ := h.answered htells nofun nofun
    have hlasting : ¬ IsTransient (some e.errno) := fun htransient => by
      cases htells.lasting htransient
    exact ⟨iff_of_false hlasting fun hnone => hread hnone.1,
      fun htransient => absurd htransient hlasting⟩
  · -- The channel has accepted a flip.
    rename_i b now
    obtain ⟨-, hinterrupted, htransient⟩ := h
    refine ⟨iff_of_true ?_ (Nat.succ_pos _), ?_, htransient⟩
    · exact Kernel.tookFlip_append.2 (.inr (htells.tookFlip.2 ⟨now, rfl⟩))
    · rw [Kernel.interrupted_append, htells.interrupted, or_iff_left nofun]
      exact hinterrupted
  · -- The channel rejected the flip, and that does not come from a read.
    refine accounts_of_continues continues_fail
      ((h.answered htells nofun nofun).meets fun htransient => ?_)
    cases htells.lasting htransient
  · exact h.answered htells nofun nofun
  · -- A flip of the client's own is over with what the channel says.
    rename_i f result now
    have hread : ¬ Kernel.Interrupted (calls ++ made) := by
      rw [Kernel.interrupted_append, htells.interrupted]
      exact not_or.2 ⟨h.1, nofun⟩
    have hlasting : ¬ IsTransient (Answer.submitted result now).errno? := fun htransient => by
      cases htells.lasting htransient
    have hsame : (Outcome.submitted result).errno? = (Answer.submitted result now).errno? := by
      cases result <;> rfl
    rw [← hsame] at hlasting
    exact ⟨iff_of_false hlasting fun hnone => hread hnone.1,
      fun htransient => absurd htransient hlasting⟩
  · exact accounts_afterRead h htells
  · exact accounts_afterDrain h htells
  · exact h.answered htells nofun nofun
  · exact h.answered htells nofun nofun
  · exact h.answered htells nofun nofun

end Screen

/-! ## Sessions on a device node -/

/-- An operation that is over. -/
structure Served where
  /-- The calls to the kernel that were made for it. -/
  calls : List Kernel.Call
  outcome : Outcome

/-- A session whose device and channel are a device node, with the calls to the kernel. -/
structure Service where
  session : Session
  kernel : Kernel.Script
  /-- The calls that were made for each unfinished operation, the one started last first. -/
  unfinished : List (List Kernel.Call)
  /-- The operations that are over, the last first. -/
  finished : List Served

namespace Service

/-- A service in which nothing has happened yet. -/
def new (s : Screen) (kernel : Kernel.Script) : Service := ⟨.new s, kernel, [], []⟩

/-- The service after a turn of the operation on top, for which `calls` were made. -/
def after (kernel : Kernel.Script) (calls : List Kernel.Call)
    (unfinished : List (List Kernel.Call)) (finished : List Served) (t : Turn) : Service :=
  match t.outcome with
  | none => ⟨t.session, kernel, calls :: unfinished, finished⟩
  | some outcome => ⟨t.session, kernel, unfinished, ⟨calls, outcome⟩ :: finished⟩

/-- One move; none if it is not possible. -/
def step (n : Service) : Node.Move → Option Service
  | .call op => (n.session.call op).map (after n.kernel [] n.unfinished n.finished)
  | .returned =>
    match n.unfinished with
    | [] => none
    | calls :: unfinished =>
      (n.session.answer .returned).map (after n.kernel calls unfinished n.finished)
  | .served now =>
    match n.session.waits, n.unfinished with
    | w :: _, calls :: unfinished =>
      (Kernel.reply n.kernel now w).bind fun r =>
        (n.session.answer r.answer).map
          (after r.script (calls ++ Kernel.callsFor n.kernel w) unfinished n.finished)
    | _, _ => none
  | .scripted kernel => some { n with kernel := kernel }
  | .reorder table => (n.session.reorder? table).map fun s => { n with session := s }

/-- A row of moves; none if one of them is not possible. -/
def play (n : Service) : List Node.Move → Option Service
  | [] => some n
  | move :: moves => (n.step move).bind fun m => m.play moves

/-- All operations know what their calls came to, apart from those that a violation cut short. -/
structure Keeps (n : Service) : Prop where
  unfinished : n.session.violation = none →
    List.Forall₂ (fun w calls => w.ending.Accounts calls) n.session.waits n.unfinished
  finished : ∀ f ∈ n.finished, (Ending.returning f.outcome).Accounts f.calls

variable {n m : Service} {kernel : Kernel.Script} {unfinished : List (List Kernel.Call)}
  {finished : List Served}

/-- An operation comes to rest above others. -/
theorem keeps_after {waits : List Wait} {p : Progress Follow}
    (hunfinished : List.Forall₂ (fun w calls => w.ending.Accounts calls) waits unfinished)
    (hfinished : ∀ f ∈ finished, (Ending.returning f.outcome).Accounts f.calls)
    (hp : p.next.Accounts calls) :
    (after kernel calls unfinished finished (Session.settle waits (Screen.proceed p))).Keeps := by
  have hrest := Screen.accounts_proceed hp
  cases hnext : (Screen.proceed p).next with
  | waiting w =>
    rw [hnext] at hrest
    simp only [after, Session.settle, hnext]
    exact ⟨fun _ => .cons hrest hunfinished, hfinished⟩
  | finished outcome =>
    rw [hnext] at hrest
    simp only [after, Session.settle, hnext]
    exact ⟨fun _ => hunfinished, List.forall_mem_cons.2 ⟨hrest, hfinished⟩⟩
  | violated v =>
    simp only [after, Session.settle, hnext]
    refine ⟨fun hunbroken => ?_, hfinished⟩
    cases hunbroken

/-- The operation on top is answered what the calls for it came to. -/
theorem keeps_answer {a : Answer} {t : Turn} (h : n.Keeps)
    (hu : n.unfinished = calls :: unfinished) (ht : n.session.answer a = some t)
    (htells : a.Tells made) :
    (after kernel (calls ++ made) unfinished n.finished t).Keeps := by
  obtain ⟨w, waits, p, hv, hw, hp, rfl⟩ := Session.of_answer_eq_some ht
  have hall := h.unfinished hv
  rw [hw, hu] at hall
  obtain ⟨htop, hrest⟩ := List.forall₂_cons.1 hall
  exact keeps_after hrest h.finished (Screen.accounts_resume htop hp htells)

/-- When a handler returns, no calls were made for it. -/
theorem tells_returned : Answer.returned.Tells [] := by
  refine .of_lasting ?_ (iff_of_false ?_ nofun) not_isTransient_none
  · rintro ⟨size, h⟩
    cases h
  · rintro ⟨f, fb, h⟩
    cases h

/-- Every move keeps it that the operations know what their calls came to. -/
theorem Keeps.step {move : Node.Move} (h : n.Keeps) (hstep : n.step move = some m) : m.Keeps := by
  cases move with
  | call op =>
    obtain ⟨t, ht, rfl⟩ := Option.map_eq_some_iff.1 hstep
    obtain ⟨hv, rfl⟩ := Session.of_call_eq_some ht
    exact keeps_after (h.unfinished hv) h.finished (Screen.accounts_start _ op)
  | returned =>
    simp only [Service.step] at hstep
    split at hstep
    · cases hstep
    · -- A callback's return makes no call of the kernel.
      rename_i calls unfinished hu
      obtain ⟨t, ht, rfl⟩ := Option.map_eq_some_iff.1 hstep
      have hkeeps : (after n.kernel (calls ++ []) unfinished n.finished t).Keeps :=
        keeps_answer h hu ht tells_returned
      rwa [List.append_nil] at hkeeps
  | served now =>
    simp only [Service.step] at hstep
    split at hstep
    · rename_i w waits calls unfinished hw hu
      obtain ⟨r, hreply, hanswer⟩ := Option.bind_eq_some_iff.1 hstep
      obtain ⟨t, ht, rfl⟩ := Option.map_eq_some_iff.1 hanswer
      exact keeps_answer h hu ht (Kernel.tells_reply hreply)
    · cases hstep
  | scripted kernel =>
    cases hstep
    exact ⟨h.unfinished, h.finished⟩
  | reorder table =>
    obtain ⟨s, hs, rfl⟩ := Option.map_eq_some_iff.1 hstep
    obtain ⟨hunbroken, -, rfl⟩ := Session.of_reorder? hs
    exact ⟨fun _ => h.unfinished hunbroken, h.finished⟩

/-- So does a row of moves. -/
theorem Keeps.play {moves : List Node.Move} (h : n.Keeps) (hplay : n.play moves = some m) :
    m.Keeps := by
  induction moves generalizing n with
  | nil =>
    cases hplay
    exact h
  | cons move moves ih =>
    obtain ⟨k, hstep, hplay⟩ := Option.bind_eq_some_iff.1 hplay
    exact ih (h.step hstep) hplay

/-- At first there are no operations. -/
theorem keeps_new (s : Screen) (kernel : Kernel.Script) : (new s kernel).Keeps :=
  ⟨fun _ => .nil, fun _ => nofun⟩

/-- What the device node answers carries a transient error exactly if a read was interrupted, and
so does what an operation returns, in every run and whatever the kernel says, unless the kernel took
a flip for it. The error is always the interruption of that read. -/
theorem transient_error_iff (s : Screen) (kernel : Kernel.Script) :
    (∀ now w r, Kernel.reply kernel now w = some r →
      (IsTransient r.answer.errno? ↔ Kernel.Interrupted (Kernel.callsFor kernel w)) ∧
        (IsTransient r.answer.errno? → r.answer = .read (.error (.read .interrupted)))) ∧
    ∀ moves n, (new s kernel).play moves = some n → ∀ f ∈ n.finished,
      (IsTransient f.outcome.errno? ↔ Kernel.Interrupted f.calls ∧ ¬ Kernel.TookFlip f.calls) ∧
        (IsTransient f.outcome.errno? → f.outcome.IsInterrupted) := by
  refine ⟨fun now w r hreply => ?_, fun moves n hplay f hf => ?_⟩
  · have htells := Kernel.tells_reply hreply
    refine ⟨?_, htells.lasting⟩
    rw [htells.interrupted]
    refine ⟨htells.lasting, fun h => ?_⟩
    rw [h]
    exact isTransient_interrupted
  · exact ((keeps_new s kernel).play hplay).finished f hf

/-- The kernel is busy with the first flip, and a signal comes when the node is read. -/
def signalled : Kernel.Script :=
  ⟨⟨100⟩, 1, [], [], .insert .empty ⟨31⟩ [some .busy], [.ready], [some .interrupted], []⟩

/-- The client shows a buffer, and is told that this failed. -/
def signalledSwap : List Node.Move :=
  [.call (.swap ⟨.linear 64 64 0 1 256, false, .all, none, 0⟩), .served ⟨1, 0⟩, .served ⟨1, 0⟩,
    .served ⟨1, 0⟩, .returned, .served ⟨1, 0⟩]

/-- The interruption is what the channel answers and what the swap fails with. -/
theorem signalledSwap_interrupted :
    (∃ r, Kernel.reply signalled ⟨1, 0⟩ (.reading none) = some r ∧
      r.answer = .read (.error (.read .interrupted)) ∧
      Kernel.Interrupted (Kernel.callsFor signalled (.reading none))) ∧
    ∃ n f, (new (.new Sample.pipe .default) signalled).play signalledSwap = some n ∧
      n.finished = [f] ∧ f.outcome = .swapped (.error (.drain (.read .interrupted))) ∧
      Kernel.Interrupted f.calls ∧ ¬ Kernel.TookFlip f.calls := by
  constructor
  · obtain ⟨r, hreply, hanswer⟩ : ∃ r, Kernel.reply signalled ⟨1, 0⟩ (.reading none) = some r ∧
        r.answer = .read (.error (.read .interrupted)) := ⟨_, rfl, rfl⟩
    have hiff := ((transient_error_iff (.new Sample.pipe .default) signalled).1 _ _ _ hreply).1
    rw [hanswer] at hiff
    exact ⟨r, hreply, hanswer, hiff.1 isTransient_interrupted⟩
  · obtain ⟨n, f, hplay, hfinished, houtcome⟩ : ∃ n f,
        (new (.new Sample.pipe .default) signalled).play signalledSwap = some n ∧
          n.finished = [f] ∧ f.outcome = .swapped (.error (.drain (.read .interrupted))) :=
      ⟨_, _, rfl, rfl, rfl⟩
    have hmem : f ∈ n.finished := by rw [hfinished]; exact .head _
    have hiff := ((transient_error_iff _ signalled).2 _ _ hplay f hmem).1
    rw [houtcome] at hiff
    obtain ⟨hread, hflip⟩ := hiff.1 isTransient_interrupted
    exact ⟨n, f, hplay, hfinished, houtcome, hread, hflip⟩

end Service

end PageFlip
