import Mathlib.Logic.Function.Basic
import PageFlip.Proofs.Reading

/-!
# A device node answers like a device and a channel without a kernel

A request to the kernel is made again while its result is transient, and what the failure of a flip
means depends on its error number. None of it shows in a session. A `Backend` is a device and an
event channel that answer each call with the next of the answers that they were given, and
`Rig.kernel_refines_backend` says that every run on a device node is one on a backend
(`Backend.ofScript`): its answers are what the results of the kernel come to, without the transient
ones, and its batches are what the node delivers when it is read.

Both kinds of hardware are a `Platform`, and a `Rig` is a session on one, with all turns that it has
taken. What one request takes from a script is `Kernel.Answered.Settles`; that the backend then has
just the other answers left is `Backend.reply_ofScript`. The batches of the backend are those that
the node is going to deliver in the rest of the run (`Rig.deliveries`), so the induction over the
moves starts from the front and carries the batches that are left.
-/

namespace PageFlip

namespace Kernel

/-! ## What one request takes from a script -/

/-- Whether a request with this result is not made again. -/
def counts : Result → Bool
  | none => true
  | some e => !e.isTransient

/-- The answer that a result comes to, by what an error number says. -/
def answerOf {ε : Type} (failure : Errno → ε) : Result → Except ε Unit
  | none => .ok ()
  | some e => .error (failure e)

/-- What the error number of a flip says: the channel is full if the device is busy or memory is
lacking. -/
def flipFailure (e : Errno) : SubmitError :=
  if e = .busy ∨ e = .noMemory then .channelFull else .rejected e

/-- The answers that the results in a script come to that count. -/
def answersOf {ε : Type} (failure : Errno → ε) (script : List Result) : List (Except ε Unit) :=
  (script.filter counts).map (answerOf failure)

/-- An operation takes transient results from a script and then one that counts, or a success if the
script has run out. It makes the same request for each of them, and returns what the last result
says, which may be that the request registered a framebuffer. -/
def Answered.Settles {α : Type} (a : Answered α) (request : Request) (script left : List Result)
    (returned : Result → Framebuffer → α) : Prop :=
  ∃ (transient : List Errno) (result : Result) (fb : Framebuffer),
    (∀ e ∈ transient, e.isTransient = true) ∧ counts result = true ∧
    (script = transient.map some ++ result :: left ∨
      script = transient.map some ∧ result = none ∧ left = []) ∧
    a.calls = (transient.map fun e => .request request (some e) .none) ++
      [.request request result fb] ∧
    a.result = returned result fb

/-- The results of the flips to come on a controller. -/
def Script.flipsOn (k : Script) (crtc : Crtc) : List Result := (k.flips.find? crtc).getD []

variable {α ε : Type} {a : Answered α} {request : Request}

/-- The result that an operation settles for counts. -/
theorem counts_settle (script : List Result) : counts (settle script).result = true := by
  cases hresult : (settle script).result with
  | none => rfl
  | some e => simp [counts, settle_not_transient script hresult]

/-- A script is what one request takes from it and what is left. -/
theorem settle_splits (script : List Result) :
    script = (settle script).transient.map some ++ (settle script).result :: (settle script).rest ∨
      script = (settle script).transient.map some ∧ (settle script).result = none ∧
        (settle script).rest = [] := by
  fun_induction settle script with
  | case1 => exact .inr ⟨rfl, rfl, rfl⟩
  | case2 rest => exact .inl rfl
  | case3 e rest he ih =>
    rcases ih with hsplit | ⟨hsplit, hend⟩
    · exact .inl (congrArg (some e :: ·) hsplit)
    · exact .inr ⟨congrArg (some e :: ·) hsplit, hend⟩
  | case4 e rest he => exact .inl rfl

/-- The operations on the node settle their requests. -/
theorem settles_of_requestCalls {script : List Result} {fb : Framebuffer}
    {returned : Result → Framebuffer → α}
    (hcalls : a.calls = requestCalls request (settle script) fb)
    (hresult : a.result = returned (settle script).result fb) :
    a.Settles request script (settle script).rest returned :=
  ⟨_, _, fb, settle_transient script, counts_settle script, settle_splits script, hcalls, hresult⟩

/-- A flip is answered by what its error number says. -/
theorem submitResult_eq (result : Result) : submitResult result = answerOf flipFailure result := by
  cases result with
  | none => rfl
  | some e =>
    simp only [submitResult, answerOf, flipFailure, Bool.or_eq_true, beq_iff_eq]
    split_ifs <;> rfl

/-- An import settles its request, and only registers a framebuffer if that succeeds. -/
theorem importFramebuffer_settles (k : Script) (b : Buffer) :
    ∃ left, (importFramebuffer k b).Settles (.addFramebuffer b) k.imports left
        (fun result fb => (answerOf .addFramebuffer result).map fun _ => fb) ∧
      (importFramebuffer k b).script =
        { k with imports := left, nextFb := (importFramebuffer k b).script.nextFb } := by
  refine ⟨(settle k.imports).rest, ?_⟩
  unfold importFramebuffer
  dsimp only
  cases hresult : (settle k.imports).result with
  | none =>
    exact ⟨settles_of_requestCalls rfl (by rw [hresult]; rfl), rfl⟩
  | some e =>
    exact ⟨settles_of_requestCalls rfl (by rw [hresult]; rfl), rfl⟩

/-- Giving up a framebuffer settles its request. -/
theorem removeFramebuffer_settles (k : Script) (fb : Framebuffer) :
    ∃ left, (removeFramebuffer k fb).Settles (.removeFramebuffer fb) k.removals left
        (fun result _ => answerOf .removeFramebuffer result) ∧
      (removeFramebuffer k fb).script = { k with removals := left } := by
  refine ⟨(settle k.removals).rest, settles_of_requestCalls rfl ?_, rfl⟩
  simp only [removeFramebuffer]
  cases (settle k.removals).result <;> rfl

/-- A flip settles its request, with the results of its controller. -/
theorem submit_settles (k : Script) (s : Submission) :
    ∃ left, (submit k s).Settles (.flip s) (k.flipsOn s.crtc) left
        (fun result _ => answerOf flipFailure result) ∧
      (submit k s).script.flipsOn = Function.update k.flipsOn s.crtc left ∧
      (submit k s).script = { k with flips := (submit k s).script.flips } := by
  refine ⟨(settle (k.flipsOn s.crtc)).rest,
    settles_of_requestCalls rfl (submitResult_eq _), ?_, rfl⟩
  funext crtc
  simp only [submit, Script.flipsOn, Table.find?_insert, Function.update_apply]
  split_ifs <;> rfl

/-! ## What is left of a script -/

/-- Transient results come to no answer. -/
theorem answersOf_append {transient : List Errno} (h : ∀ e ∈ transient, e.isTransient = true)
    (failure : Errno → ε) (script : List Result) :
    answersOf failure (transient.map some ++ script) = answersOf failure script := by
  have hnone : (transient.map some).filter counts = [] := by
    refine List.filter_eq_nil_iff.2 fun r hr => ?_
    obtain ⟨e, he, rfl⟩ := List.mem_map.1 hr
    simp [counts, h e he]
  rw [answersOf, List.filter_append, hnone, List.nil_append, answersOf]

/-- The first answer is the one that a request comes to, and the others are in what it leaves. -/
theorem answersOf_settle (failure : Errno → ε) (script : List Result) :
    (answersOf failure script).headD (.ok ()) = answerOf failure (settle script).result ∧
      (answersOf failure script).tail = answersOf failure (settle script).rest := by
  have htransient := settle_transient script
  have hcounts := counts_settle script
  have hsplits := settle_splits script
  -- The script is what was settled of it, so it may be replaced by that.
  generalize settle script = s at htransient hcounts hsplits ⊢
  rcases hsplits with rfl | ⟨rfl, hresult, hrest⟩
  · rw [answersOf_append htransient, answersOf, List.filter_cons_of_pos hcounts]
    exact ⟨rfl, rfl⟩
  · have hnone : answersOf failure (s.transient.map some) = [] := by
      rw [← List.append_nil (s.transient.map some), answersOf_append htransient]
      rfl
    rw [hnone, hresult, hrest]
    exact ⟨rfl, rfl⟩

/-- A look at the event channel makes no request. -/
theorem script_readEvents (k : Script) :
    (readEvents k).script = { k with
      polls := (readEvents k).script.polls
      reads := (readEvents k).script.reads
      packets := (readEvents k).script.packets } := by
  unfold readEvents
  dsimp only
  split
  · rfl
  · rfl
  · unfold read
    dsimp only
    split <;> rfl

end Kernel

/-! ## Hardware without a kernel -/

/-- What a look at the event channel brings: the reports that were ready, or that nothing was. -/
abbrev Backend.Batch := Except ChannelError (Option (List Report))

/-- A device and an event channel that answer each call with the next answer. When the answers have
run out, framebuffers are imported and given up, flips are accepted and nothing is ready to be
read. -/
structure Backend where
  /-- The framebuffer that is imported next. -/
  nextFb : Framebuffer
  /-- How far apart the numbers of framebuffers are. -/
  fbStep : UInt32
  imports : List (Except DeviceError Unit)
  removals : List (Except DeviceError Unit)
  flips : Crtc → List (Except SubmitError Unit)
  /-- What the looks at the event channel bring. -/
  batches : List Backend.Batch

namespace Backend

/-- The next answer to a flip. -/
def submit (b : Backend) (crtc : Crtc) (now : Instant) : Backend × Answer :=
  ({ b with flips := Function.update b.flips crtc (b.flips crtc).tail },
    .submitted ((b.flips crtc).headD (.ok ())) now)

/-- What an operation that waits is answered; none if it waits for a handler. -/
def reply (b : Backend) (now : Instant) : Wait → Option (Backend × Answer)
  | .importing _ =>
    let rest := { b with imports := b.imports.tail }
    match b.imports.headD (.ok ()) with
    | .ok () =>
      some ({ rest with nextFb := ⟨b.nextFb.id + b.fbStep⟩ }, .imported (.ok b.nextFb))
    | .error e => some (rest, .imported (.error e))
  | .attempting a => some (b.submit a.submission.crtc now)
  | .submitting s => some (b.submit s.crtc now)
  | .reading _ =>
    some ({ b with batches := b.batches.tail }, .read (b.batches.headD (.ok none)))
  | .telling .. => none
  | .destroying .. =>
    some ({ b with removals := b.removals.tail }, .destroyed (b.removals.headD (.ok ())))

/-- The backend whose answers are those that the results of a kernel come to. -/
def ofScript (k : Kernel.Script) (batches : List Batch) : Backend where
  nextFb := k.nextFb
  fbStep := k.fbStep
  imports := Kernel.answersOf .addFramebuffer k.imports
  removals := Kernel.answersOf .removeFramebuffer k.removals
  flips crtc := Kernel.answersOf Kernel.flipFailure (k.flipsOn crtc)
  batches := batches

end Backend

/-- The batch that a device node brings to an operation that waits for it. -/
def Kernel.delivers (k : Kernel.Script) : Wait → List Backend.Batch
  | .reading _ => [(Kernel.readEvents k).result.answer]
  | _ => []

namespace Backend

variable {batches : List Batch}

/-- The backend answers a flip as the node does, and is that of the node then. -/
theorem submit_ofScript (k : Kernel.Script) (s : Submission) (now : Instant) :
    (ofScript k batches).submit s.crtc now =
      (ofScript (Kernel.submit k s).script batches, .submitted (Kernel.submit k s).result now) := by
  obtain ⟨hhead, htail⟩ := Kernel.answersOf_settle Kernel.flipFailure (k.flipsOn s.crtc)
  have hflips : Function.update (ofScript k batches).flips s.crtc
      ((ofScript k batches).flips s.crtc).tail =
        (ofScript (Kernel.submit k s).script batches).flips := by
    funext crtc
    simp only [Kernel.submit, Kernel.Script.flipsOn, Table.find?_insert, Function.update_apply,
      ofScript] at htail ⊢
    rw [htail]
    split_ifs <;> rfl
  have hresult : ((ofScript k batches).flips s.crtc).headD (.ok ()) =
      (Kernel.submit k s).result := by
    rw [Kernel.submit, Kernel.submitResult_eq]
    exact hhead
  rw [submit, hresult, hflips]
  rfl

/-- A device node and its backend give the same answer, and the backend is again that of the
node. -/
theorem reply_ofScript (k : Kernel.Script) (now : Instant) (w : Wait) :
    (ofScript k (Kernel.delivers k w ++ batches)).reply now w =
      (Kernel.reply k now w).map fun r => (ofScript r.script batches, r.answer) := by
  cases w with
  | importing p =>
    obtain ⟨hhead, htail⟩ := Kernel.answersOf_settle DeviceError.addFramebuffer k.imports
    simp only [reply, ofScript, hhead, htail, Kernel.reply, Kernel.importFramebuffer]
    cases (Kernel.settle k.imports).result <;> rfl
  | attempting a => exact congrArg some (submit_ofScript k a.submission now)
  | submitting s => exact congrArg some (submit_ofScript k s now)
  | reading owner =>
    rw [Kernel.reply, Option.map_some, Kernel.script_readEvents]
    rfl
  | telling news next => rfl
  | destroying fb next =>
    obtain ⟨hhead, htail⟩ := Kernel.answersOf_settle DeviceError.removeFramebuffer k.removals
    simp only [reply, ofScript, hhead, htail, Kernel.reply, Kernel.removeFramebuffer]
    cases (Kernel.settle k.removals).result <;> rfl

end Backend

/-! ## Sessions on hardware -/

/-- A kind of device and event channel. -/
structure Platform (σ : Type) where
  /-- What an operation that waits is answered, and the hardware then; none if the operation waits
  for a handler. -/
  reply : σ → Instant → Wait → Option (σ × Answer)
  /-- The hardware when the results of the calls to come and the packets are different from now
  on. -/
  rescript : σ → Kernel.Script → σ

/-- The device node. -/
def Platform.kernel : Platform Kernel.Script where
  reply k now w := (Kernel.reply k now w).map fun r => (r.script, r.answer)
  rescript _ k := k

/-- Hardware without a kernel. Its answers go by what the kernel would say. -/
def Platform.backend : Platform Backend where
  reply := Backend.reply
  rescript b k := .ofScript k b.batches

/-- A session on hardware. -/
structure Rig (σ : Type) where
  session : Session
  hardware : σ
  /-- The turns of the session, the last first: the session after it with the news that its handler
  is told, the lines for the log and the outcome. -/
  turns : List Turn

namespace Rig

variable {σ : Type}

/-- A session in which nothing has happened yet. -/
def new (s : Screen) (hardware : σ) : Rig σ := ⟨.new s, hardware, []⟩

/-- The rig after a turn of its session. -/
def after (hardware : σ) (turns : List Turn) (t : Turn) : Rig σ := ⟨t.session, hardware, t :: turns⟩

/-- One move; none if it is not possible. -/
def step (p : Platform σ) (r : Rig σ) : Node.Move → Option (Rig σ)
  | .call op => (r.session.call op).map (after r.hardware r.turns)
  | .returned => (r.session.answer .returned).map (after r.hardware r.turns)
  | .served now =>
    match r.session.waits with
    | [] => none
    | w :: _ =>
      (p.reply r.hardware now w).bind fun x =>
        (r.session.answer x.2).map (after x.1 r.turns)
  | .scripted k => some { r with hardware := p.rescript r.hardware k }
  | .reorder table => (r.session.reorder? table).map fun s => { r with session := s }

/-- A row of moves; none if one of them is not possible. -/
def play (p : Platform σ) (r : Rig σ) : List Node.Move → Option (Rig σ)
  | [] => some r
  | move :: moves => (r.step p move).bind fun q => q.play p moves

/-- The batch that a device node delivers in a move. -/
def delivered (r : Rig Kernel.Script) : Node.Move → List Backend.Batch
  | .served _ =>
    match r.session.waits with
    | [] => []
    | w :: _ => Kernel.delivers r.hardware w
  | _ => []

/-- The batches that it delivers in a row of moves. -/
def deliveries (r : Rig Kernel.Script) : List Node.Move → List Backend.Batch
  | [] => []
  | move :: moves =>
    r.delivered move ++ ((r.step .kernel move).map fun q => q.deliveries moves).getD []

/-- The same session on the backend of its kernel. -/
def outline (r : Rig Kernel.Script) (batches : List Backend.Batch) : Rig Backend :=
  ⟨r.session, .ofScript r.hardware batches, r.turns⟩

/-- A move comes to the same on the backend, which has the batch of the node in front of those that
come later. -/
theorem step_outline (r : Rig Kernel.Script) (move : Node.Move) (later : List Backend.Batch) :
    (r.outline (r.delivered move ++ later)).step .backend move =
      (r.step .kernel move).map fun q => q.outline later := by
  cases move with
  | call op =>
    simp only [step, outline, delivered, Option.map_map]
    rfl
  | returned =>
    simp only [step, outline, delivered, Option.map_map]
    rfl
  | served now =>
    cases hw : r.session.waits with
    | nil => simp only [step, outline, hw, Option.map_none]
    | cons w waits =>
      have hreply : (Backend.ofScript r.hardware (r.delivered (.served now) ++ later)).reply now w =
          (Kernel.reply r.hardware now w).map fun x => (.ofScript x.script later, x.answer) := by
        rw [delivered, hw]
        exact Backend.reply_ofScript r.hardware now w
      simp only [step, outline, hw, Platform.backend, Platform.kernel, hreply]
      cases Kernel.reply r.hardware now w with
      | none => rfl
      | some x =>
        simp only [Option.map_some, Option.bind_some, Option.map_map]
        rfl
  | scripted k => rfl
  | reorder table =>
    simp only [step, outline, delivered, Option.map_map]
    rfl

/-- A row of moves on the backend takes the same turns as on the device node, batch by batch. -/
theorem play_outline (r : Rig Kernel.Script) (moves : List Node.Move) (later : List Backend.Batch) :
    (r.outline (r.deliveries moves ++ later)).play .backend moves =
      (r.play .kernel moves).map fun q => q.outline later := by
  induction moves generalizing r with
  | nil => rfl
  | cons move moves ih =>
    -- What comes later for the first move are the batches of the others.
    rw [deliveries, List.append_assoc, play, step_outline, play]
    cases hstep : r.step .kernel move with
    | none => rfl
    | some q => exact ih q

/-- For every script of a kernel: registering a framebuffer, giving one up and submitting a flip
make one request until a result counts, take just the results up to that one, and return what it
says. For every row of operations, whatever handlers call meanwhile: the turns of a session on the
device node are those of the session on the backend whose answers are what the results that count
come to, and whose batches are those that the node delivers. -/
theorem kernel_refines_backend :
    (∀ (k : Kernel.Script) (b : Buffer), ∃ left,
      (Kernel.importFramebuffer k b).Settles (.addFramebuffer b) k.imports left
          (fun result fb => (Kernel.answerOf .addFramebuffer result).map fun _ => fb) ∧
        (Kernel.importFramebuffer k b).script =
          { k with imports := left, nextFb := (Kernel.importFramebuffer k b).script.nextFb }) ∧
    (∀ (k : Kernel.Script) (fb : Framebuffer), ∃ left,
      (Kernel.removeFramebuffer k fb).Settles (.removeFramebuffer fb) k.removals left
          (fun result _ => Kernel.answerOf .removeFramebuffer result) ∧
        (Kernel.removeFramebuffer k fb).script = { k with removals := left }) ∧
    (∀ (k : Kernel.Script) (s : Submission), ∃ left,
      (Kernel.submit k s).Settles (.flip s) (k.flipsOn s.crtc) left
          (fun result _ => Kernel.answerOf Kernel.flipFailure result) ∧
        (Kernel.submit k s).script.flipsOn = Function.update k.flipsOn s.crtc left ∧
        (Kernel.submit k s).script = { k with flips := (Kernel.submit k s).script.flips }) ∧
    ∀ (s : Screen) (k : Kernel.Script) (moves : List Node.Move) (later : List Backend.Batch),
      (new s (Backend.ofScript k ((new s k).deliveries moves ++ later))).play .backend moves =
        ((new s k).play .kernel moves).map fun r =>
          ⟨r.session, .ofScript r.hardware later, r.turns⟩ :=
  ⟨Kernel.importFramebuffer_settles, Kernel.removeFramebuffer_settles, Kernel.submit_settles,
    fun s k => play_outline (new s k)⟩

/-- The kernel interrupts an import and the flips, and is busy with one of them. Nothing is there to
be read. -/
def busyKernel : Kernel.Script :=
  ⟨⟨100⟩, 1, [some .interrupted, none], [],
    .insert .empty ⟨31⟩ [some .again, some .busy, some .interrupted, none], [.ready],
    [some .again], []⟩

/-- The client shows a buffer: its flip finds the channel full and is submitted again. -/
def resubmitted : List Node.Move :=
  [.call (.swap ⟨.linear 64 64 0 1 256, false, .all, none, 0⟩), .served ⟨1, 0⟩, .served ⟨1, 0⟩,
    .served ⟨1, 0⟩, .served ⟨1, 0⟩]

/-- The channel of the backend is full once and then accepts, and the swap succeeds alike. -/
theorem resubmitted_refines :
    (Backend.ofScript busyKernel []).flips ⟨31⟩ = [.error .channelFull, .ok ()] ∧
    ∃ r q, (new (.new Sample.pipe .default) busyKernel).play .kernel resubmitted = some r ∧
      (new (.new Sample.pipe .default) (Backend.ofScript busyKernel [.ok none])).play .backend
        resubmitted = some q ∧
      q.turns = r.turns ∧ r.hardware.flipsOn ⟨31⟩ = [] ∧
      r.turns.map Turn.outcome = [some (.swapped (.ok ())), none, none, none, none] := by
  refine ⟨rfl, ?_⟩
  obtain ⟨r, hplay, hflips, houtcomes⟩ : ∃ r,
      (new (.new Sample.pipe .default) busyKernel).play .kernel resubmitted = some r ∧
        r.hardware.flipsOn ⟨31⟩ = [] ∧
        r.turns.map Turn.outcome = [some (.swapped (.ok ())), none, none, none, none] :=
    ⟨_, rfl, rfl, rfl⟩
  have hdeliveries :
      (new (.new Sample.pipe .default) busyKernel).deliveries resubmitted = [.ok none] := rfl
  have hsame := kernel_refines_backend.2.2.2 (.new Sample.pipe .default) busyKernel resubmitted []
  rw [hdeliveries, hplay] at hsame
  exact ⟨r, _, hplay, hsame, rfl, hflips, houtcomes⟩

end Rig

end PageFlip
