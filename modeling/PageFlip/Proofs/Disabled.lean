import PageFlip.Proofs.Course
import PageFlip.Proofs.Registry

/-!
# A disabled pipe has nothing in flight

Whatever the device, the channel and the handlers do: as long as the pipes of a screen have
controllers of their own, no token is pending for the controller of a disabled pipe, and none of its
flips is submitted until it is enabled again (`Course.nothing_on_disabled`).

The proof goes through the parts of an operation one by one, with what is known of the flips that
are being queued: each is for the controller of its pipe, and it is submitted while the pipe is
enabled (`Follow.Aims`). Only a call changes which pipes are enabled.
-/

namespace PageFlip

/-- The flip that is being queued, if a task goes on with one. -/
def Task.attempt? : Task → Option Attempt
  | retry a => some a
  | dispatch _ next => next.attempt?
  | abort _ next => next.attempt?
  | reclaim _ _ next => next.attempt?
  | say _ next => next.attempt?
  | _ => none

/-- The flip that is being queued, if an operation waits in the middle of one. -/
def Wait.attempt? : Wait → Option Attempt
  | attempting a => some a
  | reading owner => owner
  | telling _ next => next.attempt?
  | destroying _ next => next.attempt?
  | _ => none

/-- The flip is for the controller of its pipe, where `crtcs` are the controllers of the pipes. -/
def Attempt.Aims (crtcs : List Crtc) (a : Attempt) : Prop :=
  crtcs[a.pipe]? = some a.submission.crtc

/-- What is known of a flip that an operation waits with: it is for the controller of its pipe, and
while the channel has it its pipe is enabled. -/
def Wait.Aims (crtcs : List Crtc) (s : Screen) (w : Wait) : Prop :=
  (∀ a ∈ w.attempt?, a.Aims crtcs) ∧ ∀ a, w = .attempting a → s.isEnabled a.pipe = true

/-- What is known of the flip that is being queued, in the middle of an operation or at rest. -/
def Follow.Aims (crtcs : List Crtc) (s : Screen) : Follow → Prop
  | .inl t => ∀ a ∈ t.attempt?, a.Aims crtcs
  | .inr (.waiting w) => w.Aims crtcs s
  | .inr _ => True

/-- Tokens are pending only for controllers whose pipes are enabled. -/
def Screen.Quiet (crtcs : List Crtc) (s : Screen) : Prop :=
  ∀ t e i, s.registry.pending.find? t = some e → crtcs[i]? = some e.crtc → s.isEnabled i = true

namespace Screen

/-- A part of an operation leaves the pipes alone, and disabled pipes quiet. -/
structure Calm (crtcs : List Crtc) (s : Screen) (p : Progress Follow) : Prop where
  pipes : p.screen.pipes = s.pipes
  quiet : p.screen.Quiet crtcs
  aims : Follow.Aims crtcs p.screen p.next

variable {crtcs : List Crtc} {s s' : Screen} {next : Task}

/-- Fewer tokens are pending, on the same pipes. -/
theorem Quiet.mono (h : s.Quiet crtcs) (hpipes : s'.pipes = s.pipes)
    (hpending : ∀ t e, s'.registry.pending.find? t = some e →
      s.registry.pending.find? t = some e) : s'.Quiet crtcs := by
  intro t e i he hi
  have := h t e i (hpending t e he) hi
  rwa [isEnabled, hpipes]

/-- A token whose event is handed out is no longer pending. -/
theorem Quiet.resolve {t : Token} {event : Event} {r : Registry Event} (h : s.Quiet crtcs)
    (hr : s.registry.resolve t = .ok (event, r)) : (s.setRegistry r).Quiet crtcs :=
  h.mono rfl fun _ _ he => (Registry.find?_of_resolve hr he).2

/-- A flip is registered on an enabled pipe. -/
theorem Quiet.allocate {i : Nat} {p : Pipe} {event : Event} {t : Token} {r : Registry Event}
    (h : s.Quiet crtcs) (hnodup : crtcs.Nodup) (hcrtcs : crtcs = s.pipes.map Pipe.crtc)
    (hp : s.pipes[i]? = some p) (henabled : p.enabled = true)
    (halloc : s.registry.allocate p.crtc event = some (t, r)) :
    (s.setRegistry r).Quiet crtcs := by
  intro u e j he hj
  have he : r.pending.find? u = some e := he
  rw [Registry.pending_of_allocate halloc] at he
  split_ifs at he with hu
  · -- No other pipe has the controller.
    cases he
    have hi : crtcs[i]? = some p.crtc := by rw [hcrtcs, List.getElem?_map, hp, Option.map_some]
    have hlt : i < crtcs.length := (List.getElem?_eq_some_iff.1 hi).1
    have hij : i = j := (List.getElem?_inj hlt hnodup).1 (by rw [hi, hj])
    subst hij
    change (s.pipes[i]?).any Pipe.enabled = true
    rw [hp]
    exact henabled
  · exact h u e j he hj

/-- A hold on a swap was dropped. -/
theorem calm_settle {id : SwapId} {result : Except Violation (Barrier × Option Verdict)}
    {client : Client} (hpipes : s'.pipes = s.pipes) (hquiet : s'.Quiet crtcs)
    (hnext : ∀ a ∈ next.attempt?, a.Aims crtcs) :
    Calm crtcs s (s'.settle id result client next) := by
  unfold settle
  split
  · exact ⟨hpipes, hquiet, trivial⟩
  · exact ⟨hpipes, hquiet, hnext⟩
  · exact ⟨hpipes, hquiet, hnext, fun _ => nofun⟩

/-- A flip is resolved. -/
theorem calm_settleFlip {f : Flip} {stamp : Option Stamp} (hpipes : s'.pipes = s.pipes)
    (hquiet : s'.Quiet crtcs) (hnext : ∀ a ∈ next.attempt?, a.Aims crtcs) :
    Calm crtcs s (s'.settleFlip f stamp next) := by
  unfold settleFlip
  split
  · exact ⟨hpipes, hquiet, hnext⟩
  · exact calm_settle hpipes hquiet hnext

/-- An event is resolved. -/
theorem calm_deliver {event : Event} {stamp : Option Stamp} (hpipes : s'.pipes = s.pipes)
    (hquiet : s'.Quiet crtcs) (hnext : ∀ a ∈ next.attempt?, a.Aims crtcs) :
    Calm crtcs s (s'.deliver event stamp next) := by
  cases event with
  | flip f => exact calm_settleFlip hpipes hquiet hnext
  | plain client => exact ⟨hpipes, hquiet, hnext, fun _ => nofun⟩

/-- The event of a token is handed out and resolved. -/
theorem calm_resolve {t : Token} {stamp : Option Stamp} (h : s.Quiet crtcs)
    (hnext : ∀ a ∈ next.attempt?, a.Aims crtcs) : Calm crtcs s (s.resolve t stamp next) := by
  unfold resolve
  split
  · exact ⟨rfl, h, trivial⟩
  · rename_i event r hr
    exact calm_deliver rfl (h.resolve hr) hnext

/-- A report is dispatched, on time or late. -/
theorem calm_dispatch {report : Report} (h : s.Quiet crtcs)
    (hnext : ∀ a ∈ next.attempt?, a.Aims crtcs) : Calm crtcs s (s.dispatch report next) := by
  unfold dispatch
  split
  · rename_i r hr
    refine ⟨rfl, h.mono rfl fun t e he => ?_, hnext⟩
    rw [Registry.of_forget?_eq_some hr] at he
    exact he
  · exact calm_resolve h hnext

/-- A flip that the channel rejects is given up. -/
theorem calm_fail {a : Attempt} {e : SwapError} (h : s.Quiet crtcs) :
    Calm crtcs s (s.fail a e) := by
  have hcalm : Calm crtcs s (s.resolve a.submission.token none (.conclude a.fanout (some e))) :=
    calm_resolve h fun _ => nofun
  exact ⟨hcalm.pipes, hcalm.quiet, hcalm.aims⟩

/-- An enabled pipe is tried. -/
theorem calm_tryPipe {f : Fanout} {i : Nat} {p : Pipe} (h : s.Quiet crtcs) (hnodup : crtcs.Nodup)
    (hcrtcs : crtcs = s.pipes.map Pipe.crtc) (hp : s.pipes[i]? = some p)
    (henabled : p.enabled = true) : Calm crtcs s (s.tryPipe f i p) := by
  unfold tryPipe
  split
  · exact ⟨rfl, h, fun _ => nofun⟩
  · rename_i token r halloc
    have hquiet := h.allocate hnodup hcrtcs hp henabled halloc
    -- The flip is for the controller of the pipe, which is enabled.
    have haims : Wait.Aims crtcs s (.attempting ⟨f, i, ⟨p.crtc, f.fb, f.flags, token⟩, 0⟩) := by
      refine ⟨?_, ?_⟩
      · rintro a ⟨⟩
        rw [Attempt.Aims, hcrtcs, List.getElem?_map, hp, Option.map_some]
      · rintro a ⟨⟩
        rw [isEnabled, hp]
        exact henabled
    dsimp only
    split
    · exact ⟨rfl, hquiet, haims⟩
    · split
      · exact ⟨rfl, hquiet, trivial⟩
      · exact ⟨rfl, hquiet, haims⟩

/-- The swap goes on to the next pipe, past those that are disabled. -/
theorem calm_fan {f : Fanout} (h : s.Quiet crtcs) (hnodup : crtcs.Nodup)
    (hcrtcs : crtcs = s.pipes.map Pipe.crtc) : Calm crtcs s (s.fan f) := by
  unfold fan
  split
  · exact ⟨rfl, h, fun _ => nofun⟩
  · dsimp only
    split
    · exact ⟨rfl, h, fun _ => nofun⟩
    · rename_i p hp
      split
      · rename_i henabled
        exact calm_tryPipe h hnodup hcrtcs hp henabled
      · exact ⟨rfl, h, fun _ => nofun⟩

/-- A flip is tried again, or it is given up because its pipe is disabled. -/
theorem calm_retry {a : Attempt} (h : s.Quiet crtcs) (ha : a.Aims crtcs) :
    Calm crtcs s (s.retry a) := by
  unfold retry
  dsimp only
  split
  · -- The read resolved the flip, and only retired tokens are forgotten.
    refine ⟨rfl, h.mono rfl fun t e he => ?_, fun _ => nofun⟩
    rw [Registry.forget_eq] at he
    exact he
  · split
    · exact calm_resolve h fun _ => nofun
    · -- Only here does the channel have the flip again, and the pipe was just seen to be enabled.
      rename_i henabled
      refine ⟨rfl, h, ?_, ?_⟩
      · rintro b ⟨⟩
        exact ha
      · rintro b ⟨⟩
        change s.isEnabled a.pipe = true
        simpa using henabled

/-- What a swap leaves over is given up. -/
theorem calm_reclaim {id : SwapId} {v : Verdict} (h : s.Quiet crtcs)
    (hnext : ∀ a ∈ next.attempt?, a.Aims crtcs) : Calm crtcs s (s.reclaim id v next) := by
  unfold reclaim
  split
  · exact ⟨rfl, h, hnext⟩
  · dsimp only
    split
    · exact ⟨rfl, h, hnext⟩
    · exact ⟨rfl, h, hnext, fun _ => nofun⟩

/-- A swap that reports how it went is queueing no flip. -/
theorem attempt?_report (f : Fanout) (error : Option SwapError) :
    (f.report error).attempt? = none := by
  unfold Fanout.report
  split
  · cases error <;> rfl
  · rfl

/-- A step leaves the pipes alone, and disabled pipes quiet. -/
theorem calm_step {t : Task} (h : s.Quiet crtcs) (hnodup : crtcs.Nodup)
    (hcrtcs : crtcs = s.pipes.map Pipe.crtc) (ht : ∀ a ∈ t.attempt?, a.Aims crtcs) :
    Calm crtcs s (s.step t) := by
  cases t with
  | fan f => exact calm_fan h hnodup hcrtcs
  | retry a => exact calm_retry h (ht a rfl)
  | conclude f error =>
    have hreport : ∀ a ∈ (f.report error).attempt?, a.Aims crtcs := by
      rw [attempt?_report]
      exact fun _ => nofun
    change Calm crtcs s (s.release f.swap (f.report error))
    unfold release
    split
    · exact ⟨rfl, h, hreport⟩
    · exact calm_settle rfl h hreport
  | dispatch reports next =>
    cases reports with
    | nil => exact ⟨rfl, h, ht⟩
    | cons report rest => exact calm_dispatch h ht
  | abort events next =>
    cases events with
    | nil => exact ⟨rfl, h, ht⟩
    | cons event rest => exact calm_deliver rfl h ht
  | reclaim id v next => exact calm_reclaim h ht
  | say notice next => exact ⟨rfl, h, ht⟩
  | finish outcome => exact ⟨rfl, h, trivial⟩

/-- The same until the operation comes to rest. -/
theorem calm_proceed {p : Progress Follow} (hp : Calm crtcs s p) (hnodup : crtcs.Nodup)
    (hcrtcs : crtcs = s.pipes.map Pipe.crtc) :
    (proceed p).screen.pipes = s.pipes ∧ (proceed p).screen.Quiet crtcs ∧
      Follow.Aims crtcs (proceed p).screen (.inr (proceed p).next) := by
  have hinduct := proceed_induct
    (P := fun s' f _ => s'.pipes = s.pipes ∧ s'.Quiet crtcs ∧ Follow.Aims crtcs s' f)
    (p := p) (h := []) (fun s' t _ ⟨hpipes, hquiet, haims⟩ => ?_) ⟨hp.pipes, hp.quiet, hp.aims⟩
  · exact hinduct
  · -- The pipes are those of the start, whose controllers the flips are for.
    have hcalm := calm_step hquiet hnodup (by rw [hpipes]; exact hcrtcs) haims
    exact ⟨hcalm.pipes.trans hpipes, hcalm.quiet, hcalm.aims⟩

/-! ## Enabling and disabling -/

/-- Only the pipe itself is enabled or disabled, if it is there. -/
theorem isEnabled_setEnabled (s : Screen) (i j : Nat) (enabled : Bool) :
    (s.setEnabled i enabled).isEnabled j =
      if i = j then enabled && (s.pipes[j]?).isSome else s.isEnabled j := by
  simp only [isEnabled, setEnabled, List.getElem?_modify]
  cases s.pipes[j]? with
  | none => simp
  | some p => by_cases hij : i = j <;> simp [hij]

/-- The time of a flip is nothing to which pipes are enabled. -/
theorem isEnabled_setFlippedAt (s : Screen) (i j : Nat) (now : Instant) :
    (s.setFlippedAt i now).isEnabled j = s.isEnabled j := by
  simp only [isEnabled, setFlippedAt, List.getElem?_modify]
  cases s.pipes[j]? with
  | none => rfl
  | some p => by_cases hij : i = j <;> simp [hij]

/-- No pipe changes its controller. -/
theorem crtcs_modify (pipes : List Pipe) (i : Nat) {f : Pipe → Pipe}
    (hf : ∀ p, (f p).crtc = p.crtc) :
    (pipes.modify i f).map Pipe.crtc = pipes.map Pipe.crtc := by
  apply List.ext_getElem?
  intro j
  simp only [List.getElem?_map, List.getElem?_modify]
  cases pipes[j]? with
  | none => rfl
  | some p => by_cases hij : i = j <;> simp [hij, hf]

/-- Enabling or disabling a pipe leaves the controllers where they are. -/
theorem crtcs_setEnabled (s : Screen) (i : Nat) (enabled : Bool) :
    (s.setEnabled i enabled).pipes.map Pipe.crtc = s.pipes.map Pipe.crtc :=
  crtcs_modify s.pipes i fun _ => rfl

/-- The time of a flip leaves the controllers where they are. -/
theorem crtcs_setFlippedAt (s : Screen) (i : Nat) (now : Instant) :
    (s.setFlippedAt i now).pipes.map Pipe.crtc = s.pipes.map Pipe.crtc :=
  crtcs_modify s.pipes i fun _ => rfl

/-- The pipes of a controller are disabled. -/
def Off (crtcs : List Crtc) (crtc : Crtc) (s : Screen) : Prop :=
  ∀ i, crtcs[i]? = some crtc → s.isEnabled i = false

/-- The pipe that is found for a controller has it. -/
theorem pipeOf?_eq {i : Nat} {crtc : Crtc} (hi : s.pipeOf? crtc = some i) :
    (s.pipes.map Pipe.crtc)[i]? = some crtc := by
  obtain ⟨hlt, hcrtc, -⟩ := List.findIdx?_eq_some_iff_getElem.1 hi
  rw [List.getElem?_map, List.getElem?_eq_getElem hlt, Option.map_some, beq_iff_eq.1 hcrtc]

/-- Once a pipe is disabled and its tokens are retired, it is quiet. -/
theorem Quiet.disable {i : Nat} {crtc : Crtc} (h : s.Quiet crtcs)
    (hi : crtcs[i]? = some crtc) :
    ((s.setEnabled i false).setRegistry (s.registry.retirePipe crtc).2).Quiet crtcs := by
  intro t e j he hj
  have he : (s.registry.retirePipe crtc).2.pending.find? t = some e := he
  obtain ⟨he, hother⟩ := Registry.pending_retirePipe_iff.1 he
  -- Whatever is still pending is for another controller.
  have hne : i ≠ j := by
    rintro rfl
    exact hother (Option.some.inj (hj.symm.trans hi))
  change (s.setEnabled i false).isEnabled j = true
  rw [isEnabled_setEnabled, if_neg hne]
  exact h t e j he hj

/-- Enabling a pipe disturbs none that is disabled. -/
theorem Quiet.enable {i : Nat} (h : s.Quiet crtcs) (hcrtcs : crtcs = s.pipes.map Pipe.crtc) :
    (s.setEnabled i true).Quiet crtcs := by
  intro t e j he hj
  rw [isEnabled_setEnabled]
  split_ifs with hij
  · rw [hcrtcs, List.getElem?_map] at hj
    cases hp : s.pipes[j]? with
    | none => rw [hp] at hj; cases hj
    | some p => rfl
  · exact h t e j he hj

/-- The start of an operation. -/
theorem calm_start {op : Operation} (h : s.Quiet crtcs) (hcrtcs : crtcs = s.pipes.map Pipe.crtc)
    (hop : op.isRegular = true) :
    crtcs = (s.start op).screen.pipes.map Pipe.crtc ∧
      Calm crtcs (s.start op).screen (s.start op) := by
  cases op with
  | swap r => exact ⟨hcrtcs, rfl, h, fun _ => nofun, fun _ => nofun⟩
  | drain => exact ⟨hcrtcs, rfl, h, fun _ => nofun, fun _ => nofun⟩
  | disable crtc =>
    cases hi : s.pipeOf? crtc with
    | none =>
      simp only [start, disable, hi]
      exact ⟨hcrtcs, rfl, h, trivial⟩
    | some i =>
      simp only [start, disable, hi]
      -- What was pending there is retired in the same step.
      refine ⟨hcrtcs.trans (s.crtcs_setEnabled i false).symm, rfl,
        h.disable (by rw [hcrtcs, pipeOf?_eq hi]), ?_⟩
      intro a ha
      dsimp only [Task.attempt?] at ha
      split_ifs at ha <;> cases ha
  | enable crtc =>
    cases hi : s.pipeOf? crtc with
    | none =>
      simp only [start, enable, hi]
      exact ⟨hcrtcs, rfl, h, trivial⟩
    | some i =>
      simp only [start, enable, hi]
      exact ⟨hcrtcs.trans (s.crtcs_setEnabled i true).symm, rfl, h.enable hcrtcs, trivial⟩
  | _ => cases hop

/-- A pipe that is disabled stays so until it is enabled. -/
theorem Off.start {crtc : Crtc} {op : Operation} (h : s.Off crtcs crtc)
    (hcrtcs : crtcs = s.pipes.map Pipe.crtc)
    (hop : op.isRegular = true)
    (hne : op ≠ .enable crtc) : (s.start op).screen.Off crtcs crtc := by
  cases op with
  | swap r => exact h
  | drain => exact h
  | disable crtc' =>
    cases hi : s.pipeOf? crtc' with
    | none =>
      simp only [Screen.start, disable, hi]
      exact h
    | some i =>
      simp only [Screen.start, disable, hi]
      intro j hj
      change (s.setEnabled i false).isEnabled j = false
      rw [isEnabled_setEnabled]
      split_ifs
      · rfl
      · exact h j hj
  | enable crtc' =>
    cases hi : s.pipeOf? crtc' with
    | none =>
      simp only [Screen.start, enable, hi]
      exact h
    | some i =>
      simp only [Screen.start, enable, hi]
      intro j hj
      -- It is the pipe of another controller that is enabled.
      have hij : i ≠ j := by
        rintro rfl
        rw [hcrtcs, pipeOf?_eq hi, Option.some.injEq] at hj
        exact hne (congrArg _ hj)
      change (s.setEnabled i true).isEnabled j = false
      rw [isEnabled_setEnabled, if_neg hij]
      exact h j hj
  | _ => cases hop

/-- A call to disable the pipe of a controller does so. -/
theorem off_disable {crtc : Crtc} (hnodup : crtcs.Nodup) (hcrtcs : crtcs = s.pipes.map Pipe.crtc) :
    (s.start (.disable crtc)).screen.Off crtcs crtc := by
  intro j hj
  cases hi : s.pipeOf? crtc with
  | none =>
    -- There is none.
    rw [hcrtcs, List.getElem?_map] at hj
    obtain ⟨p, hp, hcrtc⟩ := Option.map_eq_some_iff.1 hj
    have := List.findIdx?_eq_none_iff.1 hi p (List.mem_of_getElem? hp)
    simp [hcrtc] at this
  | some i =>
    simp only [start, disable, hi]
    have hcrtc : crtcs[i]? = some crtc := by rw [hcrtcs, pipeOf?_eq hi]
    have hlt : i < crtcs.length := (List.getElem?_eq_some_iff.1 hcrtc).1
    have hij : i = j := (List.getElem?_inj hlt hnodup).1 (by rw [hcrtc, hj])
    change (s.setEnabled i false).isEnabled j = false
    rw [isEnabled_setEnabled, if_pos hij]
    rfl

/-- The part of an operation that follows on an answer. -/
theorem calm_resume {wait : Wait} {a : Answer} {p : Progress Follow} (h : s.Quiet crtcs)
    (hcrtcs : crtcs = s.pipes.map Pipe.crtc) (hwait : ∀ b ∈ wait.attempt?, b.Aims crtcs)
    (hresume : s.resume wait a = some p) :
    crtcs = p.screen.pipes.map Pipe.crtc ∧ (∀ j, p.screen.isEnabled j = s.isEnabled j) ∧
      Calm crtcs p.screen p := by
  have hsame : ∀ {q : Progress Follow}, Calm crtcs s q →
      crtcs = q.screen.pipes.map Pipe.crtc ∧ (∀ j, q.screen.isEnabled j = s.isEnabled j) ∧
        Calm crtcs q.screen q := fun {q} hq =>
    ⟨by rw [hq.pipes, hcrtcs], fun j => by rw [isEnabled, isEnabled, hq.pipes],
      ⟨rfl, hq.quiet, hq.aims⟩⟩
  unfold resume at hresume
  split at hresume
  · -- A framebuffer was imported.
    cases hresume
    exact hsame ⟨rfl, h, fun _ => nofun⟩
  · -- The import failed.
    cases hresume
    exact hsame ⟨rfl, h, trivial⟩
  · -- The channel accepted the flip, and its pipe takes down the time.
    cases hresume
    rename_i b now
    have hpipes : (s.accepted b now).screen.pipes = (s.setFlippedAt b.pipe now).pipes := by
      unfold accepted
      cases s.swaps[b.fanout.swap]? <;> rfl
    have henabled : ∀ j, (s.accepted b now).screen.isEnabled j = s.isEnabled j := by
      intro j
      rw [← isEnabled_setFlippedAt s b.pipe j now, isEnabled, isEnabled, hpipes]
    have hpending : (s.accepted b now).screen.registry.pending = s.registry.pending := by
      unfold accepted
      cases s.swaps[b.fanout.swap]? <;> rfl
    refine ⟨?_, henabled, rfl, ?_, fun _ => nofun⟩
    · rw [hpipes]
      exact hcrtcs.trans (s.crtcs_setFlippedAt b.pipe now).symm
    · intro t e j he hj
      rw [hpending] at he
      rw [henabled]
      exact h t e j he hj
  · -- The channel rejected the flip.
    cases hresume
    exact hsame (calm_fail h)
  · -- The channel is full.
    cases hresume
    exact hsame ⟨rfl, h, hwait, fun _ => nofun⟩
  · -- A client's own flip was submitted.
    cases hresume
    exact hsame ⟨rfl, h, trivial⟩
  · -- The channel was read because it was full.
    cases hresume
    rename_i b result
    rcases result with e | _ | reports
    · exact hsame (calm_fail h)
    · simp only [afterRead]
      split_ifs
      · exact hsame ⟨rfl, h, fun c hc => by cases hc; exact hwait b rfl⟩
      · exact hsame (calm_fail h)
    · exact hsame ⟨rfl, h, fun c hc => by cases hc; exact hwait b rfl⟩
  · -- A client read the channel.
    cases hresume
    rename_i result
    rcases result with e | _ | reports
    · exact hsame ⟨rfl, h, trivial⟩
    · exact hsame ⟨rfl, h, trivial⟩
    · exact hsame ⟨rfl, h, fun _ => nofun⟩
  · -- A handler returned.
    cases hresume
    exact hsame ⟨rfl, h, hwait⟩
  · -- The device has given up a framebuffer, or it has failed to.
    cases hresume
    exact hsame ⟨rfl, h, hwait⟩
  · cases hresume
    exact hsame ⟨rfl, h, hwait⟩
  · cases hresume

end Screen

/-! ## Courses -/

namespace Session

/-- What is known of a session on a screen whose pipes have the controllers `crtcs`. -/
structure Steady (crtcs : List Crtc) (s : Session) : Prop where
  pipes : crtcs = s.screen.pipes.map Pipe.crtc
  quiet : s.screen.Quiet crtcs
  aims : ∀ w ∈ s.waits, ∀ a ∈ w.attempt?, a.Aims crtcs
  submitting : ∀ a waits, s.waits = .attempting a :: waits → s.screen.isEnabled a.pipe = true
  beneath : ∀ w ∈ s.waits.tail, ∃ news next, w = .telling news next

end Session

namespace Course

variable {crtcs : List Crtc} {c d : Course} {act : Act} {acts : List Act} {crtc : Crtc}
  {conduct : Conduct}

/-- An operation comes to rest above others that tell their clients something. -/
theorem steady_of_calm {p : Progress Follow} {waits : List Wait} {call : Call} {calls : List Call}
    {fbs : List Framebuffer} {h : List Happening} (hp : Screen.Calm crtcs p.screen p)
    (hnodup : crtcs.Nodup) (hcrtcs : crtcs = p.screen.pipes.map Pipe.crtc)
    (hwaits : ∀ w ∈ waits, ∀ a ∈ w.attempt?, a.Aims crtcs)
    (hbeneath : ∀ w ∈ waits, ∃ news next, w = .telling news next) :
    (resting call calls fbs h (Screen.proceed p).screen waits
      (Screen.proceed p).next).session.Steady crtcs ∧
    (Screen.proceed p).screen.pipes = p.screen.pipes := by
  obtain ⟨hpipes, hquiet, haims⟩ := Screen.calm_proceed hp hnodup hcrtcs
  -- No flip is being submitted below, where handlers run.
  have hlower : ∀ a rest, waits ≠ .attempting a :: rest := by
    rintro a rest rfl
    obtain ⟨news, next, hw⟩ := hbeneath _ List.mem_cons_self
    cases hw
  rw [← hpipes] at hcrtcs
  refine ⟨?_, hpipes⟩
  cases hnext : (Screen.proceed p).next with
  | waiting w =>
    rw [hnext] at haims
    refine ⟨hcrtcs, hquiet, ?_, ?_, hbeneath⟩
    · exact List.forall_mem_cons.2 ⟨haims.1, hwaits⟩
    · intro a rest hw
      exact haims.2 a (List.cons.inj hw).1
  | finished outcome =>
    exact ⟨hcrtcs, hquiet, hwaits, fun a rest hw => absurd hw (hlower a rest),
      fun w hw => hbeneath w (List.mem_of_mem_tail hw)⟩
  | violated v =>
    exact ⟨hcrtcs, hquiet, hwaits, fun a rest hw => absurd hw (hlower a rest),
      fun w hw => hbeneath w (List.mem_of_mem_tail hw)⟩

/-- An act keeps a course steady, and leaves a disabled pipe disabled unless it enables it. -/
theorem steady_of_step (hnodup : crtcs.Nodup) (h : c.session.Steady crtcs)
    (hstep : c.step conduct act = some d) :
    d.session.Steady crtcs ∧ ∀ crtc,
      c.session.screen.Off crtcs crtc ∧ act ≠ .call (.enable crtc) ∨ act = .call (.disable crtc) →
        d.session.screen.Off crtcs crtc := by
  have hoff : ∀ {crtc : Crtc} {s₁ s₂ : Screen}, s₂.pipes = s₁.pipes → s₁.Off crtcs crtc →
      s₂.Off crtcs crtc :=
    fun hpipes h₁ i hi => by rw [Screen.isEnabled, hpipes]; exact h₁ i hi
  cases act with
  | call op =>
    obtain ⟨hop, htop, -, rfl⟩ := of_step_call hstep
    -- Below there are only handlers.
    have hbeneath : ∀ w ∈ c.session.waits, ∃ news next, w = .telling news next := by
      have hbelow := h.beneath
      unfold Session.yields at htop
      split at htop
      · rename_i hwaits
        exact fun w hw => absurd (hwaits ▸ hw) List.not_mem_nil
      · rename_i hwaits
        rw [hwaits] at hbelow ⊢
        exact List.forall_mem_cons.2 ⟨⟨_, _, rfl⟩, hbelow⟩
      · cases htop
    obtain ⟨hcrtcs, hcalm⟩ := Screen.calm_start h.quiet h.pipes hop
    obtain ⟨hsteady, hpipes⟩ := steady_of_calm hcalm hnodup hcrtcs h.aims hbeneath
    refine ⟨hsteady, fun crtc hcase => ?_⟩
    rw [screen_resting]
    refine hoff hpipes ?_
    rcases hcase with ⟨hbefore, hne⟩ | hact
    · exact hbefore.start h.pipes hop fun he => hne (congrArg _ he)
    · cases hact
      exact Screen.off_disable hnodup h.pipes
  | answer a =>
    obtain ⟨wait, waits, call, calls, p, hw, -, -, hresume, rfl⟩ := of_step_answer hstep
    have haims := h.aims
    have hbelow := h.beneath
    rw [hw] at haims hbelow
    obtain ⟨hwait, hwaits⟩ := List.forall_mem_cons.1 haims
    obtain ⟨hcrtcs, henabled, hcalm⟩ := Screen.calm_resume h.quiet h.pipes hwait hresume
    obtain ⟨hsteady, hpipes⟩ := steady_of_calm hcalm hnodup hcrtcs hwaits hbelow
    refine ⟨hsteady, fun crtc hcase => ?_⟩
    rw [screen_resting]
    refine hoff hpipes ?_
    rcases hcase with ⟨hbefore, -⟩ | hact
    · exact fun i hi => (henabled i).trans (hbefore i hi)
    · cases hact
  | reorder table =>
    obtain ⟨-, htable, rfl⟩ := of_step_reorder hstep
    have hquiet : (c.session.reorder table).screen.Quiet crtcs :=
      h.quiet.mono rfl fun t e he => (Registry.find?_reorder htable t).symm.trans he
    refine ⟨{ h with quiet := hquiet }, fun crtc hcase => ?_⟩
    rcases hcase with ⟨hbefore, -⟩ | hact
    · exact hbefore
    · cases hact

/-- A row of acts keeps a course steady, and a disabled pipe stays disabled if none of them enables
it. -/
theorem steady_of_play (hnodup : crtcs.Nodup) (h : c.session.Steady crtcs)
    (hplay : c.play conduct acts = some d) :
    d.session.Steady crtcs ∧ ∀ crtc, c.session.screen.Off crtcs crtc →
      .call (.enable crtc) ∉ acts → d.session.screen.Off crtcs crtc := by
  induction acts generalizing c with
  | nil =>
    obtain rfl : c = d := Option.some.inj hplay
    exact ⟨h, fun _ hoff _ => hoff⟩
  | cons act acts ih =>
    obtain ⟨e, hact, hplay⟩ := Option.bind_eq_some_iff.1 hplay
    obtain ⟨he, hoff⟩ := steady_of_step hnodup h hact
    obtain ⟨hd, hrest⟩ := ih he hplay
    refine ⟨hd, fun crtc hbefore hnot => hrest crtc (hoff crtc (.inl ⟨hbefore, ?_⟩)) ?_⟩
    · rintro rfl
      exact hnot List.mem_cons_self
    · exact fun hmem => hnot (List.mem_cons_of_mem _ hmem)

/-- At first nothing is pending, and nothing is being queued. -/
theorem steady_new (pipes : List Pipe) (slots : List Framebuffer) (config : Config) :
    (new pipes slots config).session.Steady (pipes.map Pipe.crtc) where
  pipes := rfl
  quiet := fun t e i he => by cases he
  aims := fun w hw => by cases hw
  submitting := fun a waits hw => by cases hw
  beneath := fun w hw => by cases hw

/-- On a screen whose pipes have controllers of their own, no token is pending for the controller of
a disabled pipe, and from a call to disable the pipe of a controller to the next one to enable it no
flip is handed to the channel for that controller. Nothing is expected of the device or the channel,
and handlers may call. -/
theorem nothing_on_disabled {pipes : List Pipe} {slots : List Framebuffer} {config : Config}
    (hnodup : (pipes.map Pipe.crtc).Nodup)
    (hplay : (new pipes slots config).play .free acts = some c) :
    (∀ p ∈ c.session.screen.pipes, p.enabled = false →
      ∀ t e, c.session.screen.registry.pending.find? t = some e → e.crtc ≠ p.crtc) ∧
    ∀ crtc before after, acts = before ++ .call (.disable crtc) :: after →
      .call (.enable crtc) ∉ after →
      ∀ a waits, c.session.waits = .attempting a :: waits → a.submission.crtc ≠ crtc := by
  have hnew := steady_new pipes slots config
  obtain ⟨hc, -⟩ := steady_of_play hnodup hnew hplay
  refine ⟨?_, ?_⟩
  · intro p hp hdisabled t e he hcrtc
    obtain ⟨i, hi⟩ := List.mem_iff_getElem?.1 hp
    have := hc.quiet t e i he (by rw [hc.pipes, List.getElem?_map, hi, Option.map_some, hcrtc])
    rw [Screen.isEnabled, hi] at this
    rw [Option.any_some, hdisabled] at this
    cases this
  · rintro crtc before after rfl hnot a waits hwaits hcrtc
    rw [play_append] at hplay
    obtain ⟨d, hbefore, hplay⟩ := Option.bind_eq_some_iff.1 hplay
    obtain ⟨e, hact, hplay⟩ := Option.bind_eq_some_iff.1 hplay
    obtain ⟨hd, -⟩ := steady_of_play hnodup hnew hbefore
    obtain ⟨he, hoff⟩ := steady_of_step hnodup hd hact
    obtain ⟨-, hstays⟩ := steady_of_play hnodup he hplay
    -- The flip would be for a pipe that is enabled and disabled.
    have haims := hc.aims (.attempting a) (by rw [hwaits]; exact List.mem_cons_self) a rfl
    have henabled := hc.submitting a waits hwaits
    rw [hstays crtc (hoff crtc (.inr rfl)) hnot a.pipe (by rw [← hcrtc]; exact haims)] at henabled
    cases henabled

open Sample in
/-- The channel is full for the first flip of a second swap; the read completes the first swap, and
its handler disables the pipe. -/
def disabledInRetry : List Act :=
  [swap 0, brings 100, accepts, accepts, swap 1, brings 101, isFull,
    .answer (.read (.ok (some [.complete first ⟨1, 10⟩, .complete second ⟨1, 10⟩]))),
    .call (.disable ⟨31⟩), returns, destroys].filterMap Move.act?

/-- The swap goes on to its other pipe, and nothing is left on the disabled one. -/
theorem disabledInRetry_skips :
    ∃ c, (new Sample.pipes Sample.slots .default).play .free disabledInRetry = some c ∧
      (Sample.pipes.map Pipe.crtc).Nodup ∧
      c.session.screen.isEnabled 0 = false ∧
      (∀ t e, c.session.screen.registry.pending.find? t = some e → e.crtc ≠ ⟨31⟩) ∧
      ∃ a, c.session.waits.head? = some (.attempting a) ∧ a.submission.crtc ≠ ⟨31⟩ := by
  have hnodup : (Sample.pipes.map Pipe.crtc).Nodup := by decide
  have hquiet {c : Course}
      (hplay : (new Sample.pipes Sample.slots .default).play .free disabledInRetry = some c)
      {p : Pipe} (hp : p ∈ c.session.screen.pipes) (hdisabled : p.enabled = false)
      {a : Attempt} {waits : List Wait} (hwaits : c.session.waits = .attempting a :: waits) :
      (∀ t e, c.session.screen.registry.pending.find? t = some e → e.crtc ≠ p.crtc) ∧
        a.submission.crtc ≠ ⟨31⟩ := by
    obtain ⟨hpending, hsubmitted⟩ := nothing_on_disabled hnodup hplay
    exact ⟨hpending p hp hdisabled, hsubmitted ⟨31⟩ (disabledInRetry.take 8)
      [.answer .returned, .answer (.destroyed (.ok ()))] rfl (by simp) a waits hwaits⟩
  refine ⟨_, rfl, hnodup, rfl, ?_, ?_⟩
  · exact (hquiet rfl (p := ⟨⟨31⟩, 0, false, some ⟨1, 0⟩⟩) (by decide) rfl rfl).1
  · exact ⟨_, rfl, (hquiet rfl (p := ⟨⟨31⟩, 0, false, some ⟨1, 0⟩⟩) (by decide) rfl rfl).2⟩

end Course

end PageFlip
