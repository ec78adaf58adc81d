import PageFlip.Kernel.Device
import PageFlip.Proofs.Continues
import PageFlip.Proofs.Observer

/-!
# What is read from a device node is dispatched, up to a malformed record

A `Node` is a session whose device and channel are a device node. It keeps account of the readings
of the channel: of each, the records that were read and the reports that were dispatched for them.
`Node.completions_dispatched_iff` says what becomes of them. All reports are dispatched, once and
in their order, by the operation that read them, if every record is well-formed. If there is a
malformed one, none is: those in front of it are read and forgotten.

The proof compares what is dispatched with what is still to be dispatched, which each part of an
operation hands on (`Follow.Leaves`), and sums this up in `Reading.Open` for the readings of an
unfinished operation.
-/

namespace PageFlip

/-- The reports that are dispatched. -/
def dispatches : Observer Report where
  step _ t :=
    match t with
    | .dispatch (report :: _) _ => [report]
    | _ => []

/-- So many reports are left to dispatch, unless a rule is broken. -/
def Follow.Leaves (reports : List Report) (f : Follow) : Prop :=
  (∀ v, f ≠ .inr (.violated v)) → f.agenda.reports = reports

/-- The reports that an answer brings. -/
def Answer.reports : Answer → List Report
  | .read (.ok (some reports)) => reports
  | _ => []

namespace Screen

variable {s : Screen} {next : Task} {reports : List Report}

/-- A part of an operation that goes on with a task leaves what that task leaves. -/
theorem leaves_of_continues {f : Follow} (hf : f.Continues next)
    (hnext : next.agenda.reports = reports) : f.Leaves reports := by
  cases hf with
  | violated v => exact fun h => absurd rfl (h v)
  | _ => exact fun _ => hnext

/-- Trying a pipe leaves no report. -/
theorem leaves_tryPipe {f : Fanout} {i : Nat} {p : Pipe} :
    (s.tryPipe f i p).next.Leaves [] := by
  unfold tryPipe
  split
  · exact fun _ => rfl
  · dsimp only
    split
    · exact fun _ => rfl
    · split
      · exact fun h => absurd rfl (h _)
      · exact fun _ => rfl

/-- Going on to the next pipe leaves no report. -/
theorem leaves_fan {f : Fanout} : (s.fan f).next.Leaves [] := by
  unfold fan
  split
  · exact fun _ => rfl
  · dsimp only
    split
    · exact fun _ => rfl
    · split
      · exact leaves_tryPipe
      · exact fun _ => rfl

/-- Trying a flip again leaves no report. -/
theorem leaves_retry {a : Attempt} : (s.retry a).next.Leaves [] := by
  unfold retry
  dsimp only
  split
  · exact fun _ => rfl
  · split
    · exact leaves_of_continues continues_resolve rfl
    · exact fun _ => rfl

/-- Giving up a flip leaves no report. -/
theorem leaves_fail {a : Attempt} {e : SwapError} : (s.fail a e).next.Leaves [] :=
  leaves_of_continues continues_fail rfl

/-- Retiring the tokens of a controller leaves no report. -/
theorem leaves_retirePipe {crtc : Crtc} {next : Nat → Task}
    (hnext : ∀ n, (next n).agenda.reports = []) :
    (s.retirePipe crtc next).next.Leaves [] := by
  unfold retirePipe
  exact fun _ => hnext _

/-- What a step dispatches is not left any more. -/
theorem leaves_step {t : Task} (ht : t.agenda.reports = dispatches.step s t ++ reports) :
    (s.step t).next.Leaves reports := by
  cases t with
  | fan f =>
    obtain rfl : [] = reports := ht
    exact leaves_fan
  | retry a =>
    obtain rfl : [] = reports := ht
    exact leaves_retry
  | conclude f error =>
    obtain rfl : [] = reports := ht
    exact leaves_of_continues continues_release (by rw [Task.agenda_report])
  | dispatch due next =>
    cases due with
    | nil => exact fun _ => ht
    | cons report rest => exact leaves_of_continues continues_dispatch (List.cons.inj ht).2
  | abort events next =>
    cases events with
    | nil => exact fun _ => ht
    | cons event rest => exact leaves_of_continues continues_deliver ht
  | reclaim id verdict next => exact leaves_of_continues continues_reclaim ht
  | say notice next => exact fun _ => ht
  | finish outcome => exact fun _ => ht

/-- A step dispatches the first of the reports, if any. -/
theorem exists_dispatched (s : Screen) (t : Task) :
    ∃ left, t.agenda.reports = dispatches.step s t ++ left := by
  cases t with
  | dispatch due next =>
    cases due with
    | nil => exact ⟨_, rfl⟩
    | cons report rest => exact ⟨_, rfl⟩
  | _ => exact ⟨_, rfl⟩

/-- One report at most is dispatched in a step, so the last is the first. -/
theorem reverse_dispatched (s : Screen) (t : Task) :
    (dispatches.step s t).reverse = dispatches.step s t := by
  cases t with
  | dispatch due next => cases due <;> rfl
  | _ => rfl

/-- Until an operation comes to rest it dispatches what was to be dispatched and is not left. -/
theorem dispatched_proceed {p : Progress Follow} (hrest : ∀ v, (proceed p).next ≠ .violated v)
    (hp : p.next.Leaves reports) :
    (dispatches.notes p).reverse ++ (proceed p).next.agenda.reports = reports := by
  have hinduct := dispatches.notes_induct
    (P := fun _ f noted => (∀ v, f ≠ .inr (.violated v)) →
      noted.reverse ++ f.agenda.reports = reports)
    (p := p) (l := []) (fun s t noted ht hnext => ?_) hp
  · rw [List.append_nil] at hinduct
    exact hinduct fun v hv => hrest v (Sum.inr.inj hv)
  · obtain ⟨left, hleft⟩ := exists_dispatched s t
    have ht : noted.reverse ++ t.agenda.reports = reports := ht fun _ => nofun
    rw [List.reverse_append, reverse_dispatched, leaves_step hleft hnext, List.append_assoc,
      ← hleft]
    exact ht

/-- An operation starts with no report to dispatch. -/
theorem leaves_start (s : Screen) (op : Operation) : (s.start op).next.Leaves [] := by
  cases op with
  | swap r => exact fun _ => rfl
  | drain => exact fun _ => rfl
  | disable crtc =>
    simp only [start, disable]
    split
    · exact fun _ => rfl
    · refine leaves_retirePipe fun n => ?_
      split_ifs <;> rfl
  | enable crtc =>
    simp only [start, enable]
    split
    · exact fun _ => rfl
    · exact fun _ => rfl
  | enqueue crtc client =>
    simp only [start]
    split
    · exact fun _ => rfl
    · exact fun _ => rfl
  | submit submission => exact fun _ => rfl
  | abortPipe crtc => exact leaves_retirePipe fun _ => rfl
  | resolve token stamp => exact leaves_of_continues continues_resolve rfl
  | settle flip stamp => exact leaves_of_continues continues_settleFlip rfl
  | release id => exact leaves_of_continues continues_release rfl

/-- What an answer brings is to be dispatched before what was left. -/
theorem leaves_resume {w : Wait} {a : Answer} {p : Progress Follow} (hp : s.resume w a = some p) :
    p.next.Leaves (a.reports ++ w.agenda.reports) := by
  unfold resume at hp
  split at hp
  all_goals cases hp
  · exact fun _ => rfl
  · exact fun _ => rfl
  · exact fun _ => rfl
  · exact leaves_fail
  · exact fun _ => rfl
  · exact fun _ => rfl
  · -- The channel was read because it was full.
    rename_i b result
    rcases result with e | _ | due
    · exact leaves_fail
    · simp only [afterRead]
      split_ifs
      · exact fun _ => rfl
      · exact leaves_fail
    · exact fun _ => rfl
  · rename_i result
    rcases result with e | _ | due
    · exact fun _ => rfl
    · exact fun _ => rfl
    · exact fun _ => rfl
  · exact fun _ => rfl
  · exact fun _ => rfl
  · exact fun _ => rfl

end Screen

/-! ## Readings -/

namespace EventRecords

/-- A well-formed record is read, and what is behind it. -/
theorem ofBytes_of_some {bytes rest : List UInt8} {r : EventRecord}
    (h : EventRecord.ofBytes? bytes = some (r, rest)) :
    ofBytes bytes = ⟨r :: (ofBytes rest).records, (ofBytes rest).intact⟩ := by
  have hne : bytes ≠ [] := by
    rintro rfl
    cases h
  rw [ofBytes, if_neg hne]
  split
  · rename_i hnone
    rw [h] at hnone
    cases hnone
  · rename_i hsome
    rw [h] at hsome
    cases hsome
    rfl

/-- Nothing is read from a malformed record on. -/
theorem ofBytes_of_none {bytes : List UInt8} (hne : bytes ≠ [])
    (h : EventRecord.ofBytes? bytes = none) : ofBytes bytes = ⟨[], false⟩ := by
  rw [ofBytes, if_neg hne]
  split
  · rfl
  · rename_i hsome
    rw [h] at hsome
    cases hsome

end EventRecords

/-- A look at the channel: the records that were read and what was dispatched for them. -/
structure Reading where
  /-- The records in front of the first malformed one. -/
  records : EventRecords
  /-- The reports that were dispatched, in their order. -/
  dispatched : List Report
deriving DecidableEq

namespace Reading

/-- The reports that are meant to be dispatched: none, if a record is malformed. -/
def due (r : Reading) : List Report := if r.records.intact then r.records.reports else []

/-- The readings of an operation, the last first, after it dispatched further reports. What it
dispatches without having read anything counts as read from nowhere. -/
def note (reports : List Report) : List Reading → List Reading
  | [] => reports.map fun report => ⟨⟨[], true⟩, [report]⟩
  | r :: older => { r with dispatched := r.dispatched ++ reports } :: older

/-- The last reading has some reports left to dispatch, and the older ones have none. -/
def Open (left : List Report) : List Reading → Prop
  | [] => left = []
  | r :: older => r.dispatched ++ left = r.due ∧ ∀ q ∈ older, q.dispatched = q.due

variable {left reports : List Report} {readings : List Reading}

/-- Some of the reports that are left are dispatched. -/
theorem Open.note (h : Open (reports ++ left) readings) : Open left (note reports readings) := by
  cases readings with
  | nil =>
    obtain ⟨rfl, rfl⟩ := List.append_eq_nil_iff.1 h
    exact rfl
  | cons r older =>
    exact ⟨(List.append_assoc _ _ _).trans h.1, h.2⟩

/-- When nothing is left, what was read was dispatched. -/
theorem Open.dispatched_eq (h : Open [] readings) : ∀ r ∈ readings, r.dispatched = r.due := by
  cases readings with
  | nil => exact fun _ => nofun
  | cons r older => exact List.forall_mem_cons.2 ⟨(List.append_nil _).symm.trans h.1, h.2⟩

/-- What was dispatched of a reading was due, in this order. -/
theorem Open.dispatched_prefix (h : Open left readings) :
    ∀ r ∈ readings, r.dispatched <+: r.due := by
  cases readings with
  | nil => exact fun _ => nofun
  | cons r older =>
    exact List.forall_mem_cons.2 ⟨⟨left, h.1⟩, fun q hq => h.2 q hq ▸ List.prefix_rfl⟩

/-- All reports are due exactly if no record is malformed or there is no report. -/
theorem due_eq_reports_iff (r : Reading) :
    r.due = r.records.reports ↔ r.records.intact = true ∨ r.records.reports = [] := by
  unfold due
  split
  · rename_i hintact
    exact ⟨fun _ => .inl hintact, fun _ => rfl⟩
  · rename_i hintact
    exact ⟨fun h => .inr h.symm, fun h => (h.resolve_left hintact).symm⟩

end Reading

/-! ## Sessions on a device node -/

namespace Kernel

/-- What a device node answers an operation that waits for it. -/
structure Reply where
  script : Script
  answer : Answer
  /-- The reading of the channel that the answer tells the result of. -/
  readings : List Reading

/-- The reply of a device node at a time; none if the operation waits for a handler. -/
def reply (k : Script) (now : Instant) : Wait → Option Reply
  | .importing p =>
    let a := importFramebuffer k p.request.buffer
    some ⟨a.script, .imported a.result, []⟩
  | .attempting b =>
    let a := submit k b.submission
    some ⟨a.script, .submitted a.result now, []⟩
  | .submitting s =>
    let a := submit k s
    some ⟨a.script, .submitted a.result now, []⟩
  | .reading _ =>
    let a := readEvents k
    some ⟨a.script, .read a.result.answer, [⟨a.result.records, []⟩]⟩
  | .telling .. => none
  | .destroying fb _ =>
    let a := removeFramebuffer k fb
    some ⟨a.script, .destroyed a.result, []⟩

/-- The channel brings what is due of the records that are read. -/
theorem reports_readEvents (k : Script) :
    (Answer.read (readEvents k).result.answer).reports =
      (Reading.mk (readEvents k).result.records []).due := by
  unfold readEvents
  dsimp only
  split
  · rfl
  · rfl
  · dsimp only
    split
    · rename_i bytes _
      cases hintact : (EventRecords.ofBytes bytes).intact <;>
        simp only [Events.ofBytes, Events.answer, Reading.due, hintact] <;> rfl
    · split_ifs <;> rfl

/-- A reply brings what is due of the reading that was made for it, if one was made. -/
theorem open_of_reply {k : Script} {now : Instant} {w : Wait} {r : Reply} {readings : List Reading}
    (hreply : reply k now w = some r) (h : Reading.Open w.agenda.reports readings) :
    Reading.Open (r.answer.reports ++ w.agenda.reports) (r.readings ++ readings) := by
  cases w with
  | reading owner =>
    cases hreply
    have hnone : (Wait.reading owner).agenda.reports = [] := by cases owner <;> rfl
    rw [hnone] at h ⊢
    rw [List.append_nil]
    exact ⟨reports_readEvents k, h.dispatched_eq⟩
  | telling news next => cases hreply
  | _ =>
    cases hreply
    exact h

end Kernel

/-- A session whose device and channel are a device node, with the readings of the channel. -/
structure Node where
  session : Session
  kernel : Kernel.Script
  /-- The readings of each unfinished operation, the last first. -/
  unfinished : List (List Reading)
  /-- The readings of the operations that are over. -/
  finished : List Reading

namespace Node

/-- What can happen. -/
inductive Move
  /-- The client starts an operation. -/
  | call (op : Operation)
  /-- The handler that runs returns. -/
  | returned
  /-- The node answers the operation started last. -/
  | served (now : Instant)
  /-- The results of the calls to come and the packets that wait are different from now on. -/
  | scripted (kernel : Kernel.Script)
  /-- The pending tokens are in another order from now on. -/
  | reorder (table : Table Token (Pending Event))

/-- A node on which nothing has happened yet. -/
def new (s : Screen) (kernel : Kernel.Script) : Node := ⟨.new s, kernel, [], []⟩

/-- The node after an operation with `readings`, above others, came to rest and dispatched
`reports`. -/
def after (kernel : Kernel.Script) (readings : List Reading) (unfinished : List (List Reading))
    (finished : List Reading) (reports : List Report) (t : Turn) : Node :=
  match t.outcome with
  | none => ⟨t.session, kernel, Reading.note reports readings :: unfinished, finished⟩
  | some _ => ⟨t.session, kernel, unfinished, Reading.note reports readings ++ finished⟩

/-- The node after an answer to the operation started last, whose readings are `readings`. -/
def answered (n : Node) (kernel : Kernel.Script) (readings : List Reading)
    (unfinished : List (List Reading)) (w : Wait) (a : Answer) : Option Node :=
  (n.session.answer a).map fun t =>
    let reports := ((n.session.screen.resume w a).map dispatches.notes).getD []
    after kernel readings unfinished n.finished reports.reverse t

/-- One move; none if it is not possible. -/
def step (n : Node) : Move → Option Node
  | .call op =>
    (n.session.call op).map
      (after n.kernel [] n.unfinished n.finished
        (dispatches.notes (n.session.screen.start op)).reverse)
  | .returned =>
    match n.session.waits, n.unfinished with
    | w :: _, readings :: unfinished =>
      n.answered n.kernel readings unfinished w .returned
    | _, _ => none
  | .served now =>
    match n.session.waits, n.unfinished with
    | w :: _, readings :: unfinished =>
      (Kernel.reply n.kernel now w).bind fun r =>
        n.answered r.script (r.readings ++ readings) unfinished w r.answer
    | _, _ => none
  | .scripted kernel => some { n with kernel := kernel }
  | .reorder table => (n.session.reorder? table).map fun s => { n with session := s }

/-- A row of moves; none if one of them is not possible. -/
def play (n : Node) : List Move → Option Node
  | [] => some n
  | move :: moves => (n.step move).bind fun m => m.play moves

/-- A row of moves is played up to any of them and then from there. -/
theorem play_append {n : Node} {moves more : List Move} :
    n.play (moves ++ more) = (n.play moves).bind fun m => m.play more := by
  induction moves generalizing n with
  | nil => rfl
  | cons move moves ih =>
    rw [List.cons_append, play, play, Option.bind_assoc]
    exact congrArg _ (funext fun m => ih)

/-- As long as no rule is broken, each unfinished operation has dispatched what it read apart from
what it has left, and those that are over have dispatched all. -/
structure Keeps (n : Node) : Prop where
  unfinished : List.Forall₂ (fun w readings => Reading.Open w.agenda.reports readings)
    n.session.waits n.unfinished
  finished : ∀ r ∈ n.finished, r.dispatched = r.due

variable {n m : Node} {kernel : Kernel.Script} {readings : List Reading}
  {unfinished : List (List Reading)} {finished : List Reading}

/-- An operation comes to rest above others. -/
theorem keeps_after {waits : List Wait} {reports : List Report} {p : Progress Follow}
    (hunfinished : List.Forall₂ (fun w readings => Reading.Open w.agenda.reports readings)
      waits unfinished)
    (hfinished : ∀ r ∈ finished, r.dispatched = r.due) (hopen : Reading.Open reports readings)
    (hp : p.next.Leaves reports) {m : Node}
    (hm : after kernel readings unfinished finished (dispatches.notes p).reverse
      (Session.settle waits (Screen.proceed p)) = m)
    (hunbroken : m.session.violation = none) : m.Keeps := by
  subst hm
  cases hnext : (Screen.proceed p).next with
  | waiting w =>
    have hleft := Screen.dispatched_proceed (fun v hv => by rw [hnext] at hv; cases hv) hp
    rw [hnext] at hleft
    simp only [after, Session.settle, hnext]
    rw [← hleft] at hopen
    exact ⟨.cons hopen.note hunfinished, hfinished⟩
  | finished outcome =>
    have hleft := Screen.dispatched_proceed (fun v hv => by rw [hnext] at hv; cases hv) hp
    rw [hnext] at hleft
    simp only [after, Session.settle, hnext]
    rw [← hleft] at hopen
    refine ⟨hunfinished, fun r hr => ?_⟩
    exact (List.mem_append.1 hr).elim (hopen.note.dispatched_eq r) (hfinished r)
  | violated v =>
    simp only [after, Session.settle, hnext] at hunbroken
    cases hunbroken

/-- An answer goes on with the operation started last. -/
theorem keeps_answered {w : Wait} {waits : List Wait} {a : Answer}
    (hw : n.session.waits = w :: waits)
    (hunfinished : List.Forall₂ (fun w readings => Reading.Open w.agenda.reports readings)
      waits unfinished)
    (hfinished : ∀ r ∈ n.finished, r.dispatched = r.due)
    (hopen : Reading.Open (a.reports ++ w.agenda.reports) readings)
    (hm : n.answered kernel readings unfinished w a = some m)
    (hunbroken : m.session.violation = none) : m.Keeps := by
  obtain ⟨t, ht, hm⟩ := Option.map_eq_some_iff.1 hm
  obtain ⟨w', waits', p, -, hw', hp, rfl⟩ := Session.of_answer_eq_some ht
  obtain ⟨rfl, rfl⟩ : w' = w ∧ waits' = waits := by simpa using hw'.symm.trans hw
  rw [hp] at hm
  exact keeps_after hunfinished hfinished hopen (Screen.leaves_resume hp) hm hunbroken

/-- Each move keeps the account of what was read. -/
theorem Keeps.step {move : Move} (h : n.Keeps) (hstep : n.step move = some m)
    (hunbroken : m.session.violation = none) : m.Keeps := by
  cases move with
  | call op =>
    obtain ⟨t, ht, hm⟩ := Option.map_eq_some_iff.1 hstep
    obtain ⟨-, rfl⟩ := Session.of_call_eq_some ht
    have hopen : Reading.Open [] [] := rfl
    exact keeps_after h.unfinished h.finished hopen (Screen.leaves_start _ op) hm hunbroken
  | returned =>
    simp only [Node.step] at hstep
    split at hstep
    · rename_i w waits readings unfinished hw hu
      have hall := h.unfinished
      rw [hw, hu] at hall
      obtain ⟨hopen, hrest⟩ := List.forall₂_cons.1 hall
      exact keeps_answered (a := .returned) hw hrest h.finished hopen hstep hunbroken
    · cases hstep
  | served now =>
    simp only [Node.step] at hstep
    split at hstep
    · rename_i w waits readings unfinished hw hu
      obtain ⟨r, hreply, hanswered⟩ := Option.bind_eq_some_iff.1 hstep
      have hall := h.unfinished
      rw [hw, hu] at hall
      obtain ⟨hopen, hrest⟩ := List.forall₂_cons.1 hall
      exact keeps_answered hw hrest h.finished (Kernel.open_of_reply hreply hopen) hanswered
        hunbroken
    · cases hstep
  | scripted kernel =>
    cases hstep
    exact ⟨h.unfinished, h.finished⟩
  | reorder table =>
    obtain ⟨s, hs, rfl⟩ := Option.map_eq_some_iff.1 hstep
    obtain ⟨-, -, rfl⟩ := Session.of_reorder? hs
    exact ⟨h.unfinished, h.finished⟩

/-- Nothing but the kernel changes once a rule is broken. -/
theorem unbroken_of_step {move : Move} (hstep : n.step move = some m)
    (hunbroken : m.session.violation = none) : n.session.violation = none := by
  cases hv : n.session.violation with
  | none => rfl
  | some v =>
    have hanswer : ∀ a, n.session.answer a = none := fun a => by simp [Session.answer, hv]
    cases move with
    | call op => simp [Node.step, Session.call, hv] at hstep
    | returned =>
      simp only [Node.step] at hstep
      split at hstep
      · simp [answered, hanswer] at hstep
      · cases hstep
    | served now =>
      simp only [Node.step] at hstep
      split at hstep
      · obtain ⟨r, -, hanswered⟩ := Option.bind_eq_some_iff.1 hstep
        simp [answered, hanswer] at hanswered
      · cases hstep
    | scripted kernel =>
      cases hstep
      exact hv.symm.trans hunbroken
    | reorder table =>
      obtain ⟨s, hs, -⟩ := Option.map_eq_some_iff.1 hstep
      cases hv.symm.trans (Session.of_reorder? hs).1

/-- A session that is not broken never was. -/
theorem unbroken_of_play {moves : List Move} (hplay : n.play moves = some m)
    (hunbroken : m.session.violation = none) : n.session.violation = none := by
  induction moves generalizing n with
  | nil =>
    cases hplay
    exact hunbroken
  | cons move moves ih =>
    obtain ⟨k, hstep, hplay⟩ := Option.bind_eq_some_iff.1 hplay
    exact unbroken_of_step hstep (ih hplay)

/-- A row of moves keeps it that what was read is dispatched. -/
theorem Keeps.play {moves : List Move} (h : n.Keeps) (hplay : n.play moves = some m)
    (hunbroken : m.session.violation = none) : m.Keeps := by
  induction moves generalizing n with
  | nil =>
    cases hplay
    exact h
  | cons move moves ih =>
    obtain ⟨k, hstep, hplay⟩ := Option.bind_eq_some_iff.1 hplay
    exact ih (h.step hstep (unbroken_of_play hplay hunbroken)) hplay

/-- At first nothing was read. -/
theorem keeps_new (s : Screen) (kernel : Kernel.Script) : (new s kernel).Keeps :=
  ⟨.nil, fun _ => nofun⟩

/-- On a device node, whatever packets the kernel has and whenever the client calls, as long as no
rule is broken: an operation that is over has dispatched the reports of each of its readings in
their order if no record of the reading was malformed, and none of them otherwise; an unfinished one
has done so with all but its last reading, and with that one up to some report. So all reports of a
reading are dispatched exactly if no record was malformed or there is no report. -/
theorem completions_dispatched_iff {s : Screen} {moves : List Move}
    (hplay : (new s kernel).play moves = some n) (hunbroken : n.session.violation = none) :
    (∀ r ∈ n.finished, r.dispatched = if r.records.intact then r.records.reports else []) ∧
      (∀ readings ∈ n.unfinished, ∀ r older, readings = r :: older →
        (r.dispatched <+: if r.records.intact then r.records.reports else []) ∧
        ∀ q ∈ older, q.dispatched = if q.records.intact then q.records.reports else []) ∧
      ∀ r ∈ n.finished,
        r.dispatched = r.records.reports ↔ r.records.intact = true ∨ r.records.reports = [] := by
  have hkeeps := (keeps_new s kernel).play hplay hunbroken
  refine ⟨hkeeps.finished, ?_, fun r hr => ?_⟩
  · rintro readings hreadings r older rfl
    obtain ⟨i, hi, hget⟩ := List.getElem_of_mem hreadings
    have hlength := hkeeps.unfinished.length_eq
    have hopen := List.Forall₂.get hkeeps.unfinished (hlength ▸ hi) hi
    rw [List.get_eq_getElem, List.get_eq_getElem, hget] at hopen
    exact ⟨hopen.dispatched_prefix r List.mem_cons_self, hopen.2⟩
  · rw [hkeeps.finished r hr]
    exact r.due_eq_reports_iff

/-- The record on the first flip. -/
def firstRecord : EventRecord := .ofFlip 1 10 1 31

/-- The record on the first flip, and the half of a header. -/
def cutShort : List UInt8 := firstRecord.bytes ++ [2, 0, 0, 0]

/-- The record in front of the malformed one is parsed. -/
theorem ofBytes_cutShort : EventRecords.ofBytes cutShort = ⟨[firstRecord], false⟩ := by
  have hfirst : EventRecord.ofBytes? cutShort = some (firstRecord, [2, 0, 0, 0]) := by decide
  have htail : EventRecord.ofBytes? [2, 0, 0, 0] = none := by decide
  rw [EventRecords.ofBytes_of_some hfirst, EventRecords.ofBytes_of_none (by decide) htail]

/-- The kernel with one packet, in which a record is cut short. -/
def cutShortKernel : Kernel.Script :=
  ⟨⟨100⟩, 1, [], [], .empty, [], [], [cutShort]⟩

/-- The client shows a buffer. -/
def shown : List Move :=
  [.call (.swap ⟨.linear 64 64 0 1 256, false, .all, none, 0⟩), .served ⟨1, 0⟩, .served ⟨1, 0⟩]

/-- The client reads the channel. -/
def readCutShort : List Move := shown ++ [.call .drain, .served ⟨1, 0⟩]

/-- The report in front is not dispatched, and its token stays pending though the kernel has nothing
left to say of it. -/
theorem readCutShort_loses :
    ∃ n, (new (.new Sample.pipe .default) cutShortKernel).play readCutShort = some n ∧
      n.session.violation = none ∧
      n.finished = [⟨⟨[firstRecord], false⟩, []⟩] ∧
      EventRecords.reports ⟨[firstRecord], false⟩ = [.complete Sample.first ⟨1, 10⟩] ∧
      (∀ r ∈ n.finished, r.dispatched = r.records.reports ↔
        r.records.intact = true ∨ r.records.reports = []) ∧
      n.session.screen.registry.isPending Sample.first = true ∧ n.kernel.packets = [] := by
  -- The packet is parsed in the last move. What happens before and behind evaluates.
  have hevents : Kernel.Events.ofBytes cutShort =
      ⟨⟨[firstRecord], false⟩, .error .invalidRead⟩ := by
    rw [Kernel.Events.ofBytes, ofBytes_cutShort]
    rfl
  obtain ⟨m, n, hm, hw, hu, hread, hn, hunbroken, hfinished, hpending, hpackets⟩ : ∃ m n : Node,
      (new (.new Sample.pipe .default) cutShortKernel).play (shown ++ [.call .drain]) = some m ∧
      m.session.waits = [.reading none] ∧ m.unfinished = [[]] ∧
      (Kernel.readEvents m.kernel).result = .ofBytes cutShort ∧
      m.answered (Kernel.readEvents m.kernel).script [⟨⟨[firstRecord], false⟩, []⟩] []
        (.reading none) (.read (.error .invalidRead)) = some n ∧
      n.session.violation = none ∧ n.finished = [⟨⟨[firstRecord], false⟩, []⟩] ∧
      n.session.screen.registry.isPending Sample.first = true ∧ n.kernel.packets = [] :=
    ⟨_, _, rfl, rfl, rfl, rfl, rfl, rfl, rfl, rfl, rfl⟩
  have hstep : m.step (.served ⟨1, 0⟩) = some n := by
    simp only [step, hw, hu, Kernel.reply, Option.bind_some, hread, hevents]
    exact hn
  have hplay : (new (.new Sample.pipe .default) cutShortKernel).play readCutShort = some n := by
    rw [readCutShort, List.append_cons, play_append, hm, Option.bind_some, play, hstep]
    rfl
  exact ⟨n, hplay, hunbroken, hfinished, by decide,
    (completions_dispatched_iff hplay hunbroken).2.2, hpending, hpackets⟩

end Node

end PageFlip
